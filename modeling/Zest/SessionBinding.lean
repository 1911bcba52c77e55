import Zest.UrlNormalize
import Zest.WorkerRequest

/-! # Binding a session to a dispatch

A plan can name a session context instead of credentials.  The binding compares
the session with the identity that is configured, the run and the destination,
wants it active, and resolves its material through the secret port.
-/
namespace Zest.Sessions

inductive SessionState where
  | new
  | authenticating
  | active
  | expired
  | revoked
  | failed
  deriving DecidableEq, Repr

/-- A session that has come to its end. -/
def SessionState.Ended (state : SessionState) : Prop := state = .expired ∨ state = .revoked

instance (state : SessionState) : Decidable state.Ended := inferInstanceAs (Decidable (_ ∨ _))

/-! ## The secret port -/

inductive SecretScheme where
  | localDev
  | envReference
  | sessionMaterial
  deriving DecidableEq, Repr

/-- `SecretScheme(value)`; `none` is its `ValueError`. -/
def SecretScheme.ofText (value : Text) : Option SecretScheme :=
  if value = "LOCAL_DEV".toList then some .localDev
  else if value = "ENV_REFERENCE".toList then some .envReference
  else if value = "SESSION_MATERIAL".toList then some .sessionMaterial
  else none

structure SecretReference where
  scheme : SecretScheme
  name : Text
  deriving DecidableEq, Repr

/-- A reference is made with its name stripped. -/
def SecretReference.make (scheme : SecretScheme) (name : Text) : SecretReference :=
  ⟨scheme, name.strip⟩

/-- `session_material_reference`. -/
def sessionMaterialReference (sessionContextId : Text) : SecretReference :=
  .make .sessionMaterial ("session:".toList ++ sessionContextId)

/-- `CompositeSecretPort`: the session material that is stored, by name, and the
environment. -/
structure SecretPort where
  material : Text → Option Text
  env : Text → Option Text

/-- `resolve`: the value, if it is `RESOLVED`. -/
def SecretPort.resolve (port : SecretPort) (reference : SecretReference) : Option Text :=
  match reference.scheme with
  | .sessionMaterial => (port.material reference.name).filter fun value => value ≠ []
  | _ => (port.env reference.name).filter fun raw => raw.strip ≠ []

/-! ## The binding -/

/-- `SessionContextRecord`, less the instants that nothing here reads. -/
structure SessionContextRecord where
  sessionContextId : Text
  researchRunId : Text
  identityId : Text
  actorReference : Text
  origin : Text
  authenticationProfileReference : Text
  secretScheme : Text
  secretName : Text
  state : SessionState
  expiresAt : Option Nat
  sessionCookieName : Option Text
  deriving DecidableEq, Repr

/-- `Identity`, what the binding of a session reads of it. -/
structure Identity where
  identityId : Text
  actorReference : Text
  targetReference : Text
  authenticationProfileReference : Text
  deriving DecidableEq, Repr

/-- `HttpFormLoginProfile`, what the sessions are about. -/
structure HttpFormLoginProfile where
  profileId : Text
  sessionCookieName : Text
  deriving DecidableEq, Repr

inductive BindingReason where
  | schemaMismatch
  | scopeNotExplicitlyAllowed
  | authorizationInactive
  deriving DecidableEq, Repr

/-- `SessionBindingDecision`. -/
structure BindingDecision where
  accepted : Bool
  inputRejected : Bool
  reasonCode : Option BindingReason
  message : String
  session : Option SessionContextRecord
  resolvedSecrets : Option (List (Text × Text))
  deriving DecidableEq, Repr

namespace BindingDecision

/-- The input is rejected. -/
def rejected (message : String) : BindingDecision :=
  ⟨false, true, some .schemaMismatch, message, none, none⟩

/-- The dispatch is denied. -/
def denied (reason : BindingReason) (message : String) : BindingDecision :=
  ⟨false, false, some reason, message, none, none⟩

end BindingDecision

/-- `normalized_origin`. -/
def normalizedOrigin (origin : Text) : Text := origin.strip.rstrip '/'

variable (L : UrlCodecs)

/-- `_origin_key`; `none` is a `ValueError`. -/
def originKey (origin : Text) : Option (Text × Text × Option Nat) := do
  let parsed ← urlsplit L (normalizedOrigin origin)
  let port ← parsed.port
  return (L.lower parsed.scheme, L.lower ((parsed.hostname L).getD []), port)

/-- `origins_match`. -/
def originsMatch (left right : Text) : Option Bool := do
  let leftKey ← originKey L left
  let rightKey ← originKey L right
  return leftKey == rightKey

/-- What a dispatch presents beside its plan. -/
structure Presented where
  identityId : Option Text
  identity : Option Identity
  profile : Option HttpFormLoginProfile
  secretPort : Option SecretPort
  now : Nat
  researchRunId : Option Text

/-- The end of `_bind_existing_session`: the state of the session, and its
material. -/
def bindMaterial (presented : Presented) (session : SessionContextRecord) : BindingDecision :=
  if session.state = .expired ∨ session.expiresAt.any (· ≤ presented.now) then
    .denied .authorizationInactive "session is expired"
  else if session.state = .revoked then
    .denied .authorizationInactive "session is revoked"
  else if session.state ≠ .active then
    .denied .authorizationInactive "session is not ACTIVE"
  else
    match presented.secretPort with
    | none => .rejected "session material is unavailable; reauthentication required"
    | some port =>
      match SecretScheme.ofText session.secretScheme with
      | none => .rejected "session material is unavailable; reauthentication required"
      | some scheme =>
        match port.resolve (.make scheme session.secretName) with
        | none => .rejected "session material is unavailable; reauthentication required"
        | some value =>
          ⟨true, false, none, "", some session, some [("session_cookie".toList, value)]⟩

/-- `_bind_existing_session`; `str` is what `str(value or "")` makes of an
argument.  `none` is the `ValueError` of an origin that does not parse. -/
def bindExistingSession (str : Json → Text) (plan : ExperimentPlan) (presented : Presented)
    (session : Option SessionContextRecord) : Option BindingDecision :=
  let identityId := presented.identityId.getD []
  if identityId = [] then
    some (.rejected "session_context_reference is not authority without identity_id")
  else
    match presented.identity with
    | none => some (.rejected "session reuse requires the configured identity")
    | some identity =>
      if identity.identityId ≠ identityId then
        some (.rejected "identity_id does not match the configured identity")
      else
        match session with
        | none => some (.rejected "session_context_reference does not exist")
        | some session =>
          if session.identityId ≠ identityId then
            some (.rejected "session is bound to a different identity")
          else if presented.researchRunId ≠ some session.researchRunId then
            some (.rejected "session is bound to a different research run")
          else if identity.targetReference ≠ plan.targetReference then
            some (.rejected "identity is bound to a different target")
          else if session.authenticationProfileReference ≠
              identity.authenticationProfileReference then
            some (.rejected "session is bound to a different authentication profile")
          else if presented.profile.any fun profile =>
              session.authenticationProfileReference ≠ profile.profileId then
            some (.rejected "session is bound to a different authentication profile")
          else do
            let planOrigin := ((plan.arguments "authorized_origin".toList).map str).getD []
            if ← originsMatch L session.origin planOrigin then
              return bindMaterial presented session
            else
              return .denied .scopeNotExplicitlyAllowed "session is bound to a different origin"

/-- The material of an accepted binding has been resolved. -/
theorem bindMaterial_accepted {presented : Presented} {session : SessionContextRecord}
    (h : (bindMaterial presented session).accepted = true) :
    session.state = .active ∧ ∃ port scheme value, presented.secretPort = some port ∧
      SecretScheme.ofText session.secretScheme = some scheme ∧
        port.resolve (.make scheme session.secretName) = some value := by
  unfold bindMaterial at h
  split at h
  · cases h
  · split at h
    · cases h
    · split at h
      · cases h
      · rename_i hactive
        refine ⟨not_not.mp hactive, ?_⟩
        split at h
        · cases h
        · rename_i port hport
          split at h
          · cases h
          · rename_i scheme hscheme
            split at h
            · cases h
            · rename_i value hvalue
              exact ⟨port, scheme, value, hport, hscheme, hvalue⟩

/-- **An accepted binding** has found the session, and its material. -/
theorem bindExistingSession_accepted {str : Json → Text} {plan : ExperimentPlan}
    {presented : Presented} {session : Option SessionContextRecord} {decision : BindingDecision}
    (h : bindExistingSession L str plan presented session = some decision)
    (haccepted : decision.accepted = true) :
    ∃ record, session = some record ∧ (bindMaterial presented record).accepted = true := by
  have hreject : ∀ message, some (BindingDecision.rejected message) ≠ some decision := by
    rintro message hdecision
    rw [← Option.some.inj hdecision] at haccepted
    cases haccepted
  unfold bindExistingSession at h
  dsimp only at h
  -- Every branch but the last rejects.
  split at h
  · exact (hreject _ h).elim
  split at h
  · exact (hreject _ h).elim
  split at h
  · exact (hreject _ h).elim
  split at h
  · exact (hreject _ h).elim
  rename_i record
  refine ⟨record, rfl, ?_⟩
  split at h
  · exact (hreject _ h).elim
  split at h
  · exact (hreject _ h).elim
  split at h
  · exact (hreject _ h).elim
  split at h
  · exact (hreject _ h).elim
  split at h
  · exact (hreject _ h).elim
  obtain ⟨same, -, h⟩ := Option.bind_eq_some_iff.mp h
  cases same with
  | true =>
    obtain rfl : _ = decision := Option.some.inj h
    exact haccepted
  | false =>
    obtain rfl : _ = decision := Option.some.inj h
    cases haccepted

end Zest.Sessions
