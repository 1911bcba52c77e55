import Zest.SessionBinding
import Zest.TransitionSystem

/-! # The life of a session

A login that succeeds stores the material of its session and makes it active; a
response that is not authenticated expires it, and an operator can revoke it.
Each of these is a transaction of its own over the row of the session.  The
secret store is outside the transaction: what is put there or deleted is not
undone by a rollback.  The update of the row waits for other writers and is made
whatever they have left there.

A login that is ingested while its session comes to an end undoes the end.  In
every run where login ingestion leaves an ended session alone, and where whoever
ends one has the secret port, an ended session stays ended
(`ended_sessions_stay_ended`).
-/
namespace Zest.Sessions

open TransitionSystem

/-! ## The three calls -/

/-- What a call still has to do, once it has read the row. -/
inductive SessionOp where
  | put (reference : SecretReference) (value : Text)
  | delete (reference : SecretReference)
  | setState (state : SessionState)
  deriving DecidableEq, Repr

/-- The request of a Worker invocation that is ingested. -/
structure IngestedRequest where
  workerCapability : Capability
  arguments : Option Mapping

/-- The result of the invocation, less its ephemeral part: `raw_result` as far as
sessions are concerned. -/
structure IngestedResult where
  status : Text
  sessionEstablished : Bool
  statusCode : Option Nat
  deriving DecidableEq, Repr

/-- `isinstance(value, str) and value.strip()`, of an argument. -/
def textArgument (arguments : Option Mapping) (key : Text) : Option Text :=
  match arguments.bind fun mapping => mapping key with
  | some (.text value) => if value.strip = [] then none else some value
  | _ => none

/-- `session_contexts.get`, in a transaction that reads committed rows. -/
abbrev SessionRows := Text → Option SessionContextRecord

/-- `capture_login_result`. -/
def captureLoginResult (rows : SessionRows) (secretPort : Bool) (request : IngestedRequest)
    (result : IngestedResult) (sessionCookie : Option Text) : List SessionOp :=
  if request.workerCapability ≠ .httpAuthentication then []
  else
    match textArgument request.arguments "session_context_id".toList with
    | none => []
    | some sessionContextId =>
      if (rows sessionContextId).isNone then []
      else if result.status = "REAUTHORIZATION_REQUIRED".toList then []
      else
        match sessionCookie with
        | some cookie =>
          if result.sessionEstablished ∧ result.status = "SUCCEEDED".toList ∧ cookie ≠ [] ∧
              secretPort = true then
            [.put (sessionMaterialReference sessionContextId) cookie, .setState .active]
          else [.setState .failed]
        | none => [.setState .failed]

/-- The deletion that goes with an end, if there is a secret port. -/
def deletion (secretPort : Bool) (sessionContextId : Text) : List SessionOp :=
  if secretPort then [.delete (sessionMaterialReference sessionContextId)] else []

/-- `expire_session_on_unauthenticated_response`. -/
def expireSessionOnUnauthenticatedResponse (rows : SessionRows) (secretPort : Bool)
    (request : IngestedRequest) (result : IngestedResult) : List SessionOp :=
  if request.workerCapability ≠ .httpTransaction then []
  else
    match textArgument request.arguments "session_context_reference".toList with
    | none => []
    | some sessionRef =>
      if result.statusCode ≠ some 401 ∧ result.statusCode ≠ some 403 then []
      else
        match rows sessionRef with
        | none => []
        | some session =>
          if session.state ≠ .active then []
          else .setState .expired :: deletion secretPort sessionRef

/-- `revoke_session`. -/
def revokeSession (rows : SessionRows) (sessionContextId : Text) (secretPort : Bool) :
    List SessionOp :=
  if (rows sessionContextId).isNone then []
  else .setState .revoked :: deletion secretPort sessionContextId

/-- A transaction that may write the session. -/
inductive SessionCall where
  | ingest (secretPort : Bool) (request : IngestedRequest) (result : IngestedResult)
      (sessionCookie : Option Text)
  | revoke (secretPort : Bool)

/-- What a call does.  An ingestion asks both functions, and one of them at most
has something to do: they are about different capabilities. -/
def SessionCall.ops (rows : SessionRows) (sessionContextId : Text) : SessionCall → List SessionOp
  | .ingest secretPort request result sessionCookie =>
    captureLoginResult rows secretPort request result sessionCookie ++
      expireSessionOnUnauthenticatedResponse rows secretPort request result
  | .revoke secretPort => revokeSession rows sessionContextId secretPort

/-- `authenticating_session_record`. -/
def authenticatingSessionRecord (sessionContextId origin researchRunId : Text)
    (identity : Identity) (profile : HttpFormLoginProfile) : SessionContextRecord where
  sessionContextId := sessionContextId
  researchRunId := researchRunId
  identityId := identity.identityId
  actorReference := identity.actorReference
  origin := normalizedOrigin origin
  authenticationProfileReference := profile.profileId
  secretScheme := "SESSION_MATERIAL".toList
  secretName := (sessionMaterialReference sessionContextId).name
  state := .authenticating
  expiresAt := none
  sessionCookieName := some profile.sessionCookieName

/-! ## The transactions together -/

/-- A transaction of a call or a dispatch. -/
abbrev TxId := Nat

/-- One session and those who use it. -/
structure SessionSystem where
  /-- The committed row. -/
  row : Option SessionContextRecord
  /-- The transaction that has updated the row and holds its lock, and the row as
  it has left it. -/
  writer : Option (TxId × SessionContextRecord)
  /-- The stored session material, by name. -/
  secrets : Text → Option Text
  /-- What each open transaction still has to do. -/
  work : TxId → Option (List SessionOp)
  /-- What each dispatch has read of the row. -/
  loaded : TxId → Option SessionContextRecord

namespace SessionSystem

/-- What `get` finds: this session's committed row. -/
def rows (s : SessionSystem) (sid : Text) : SessionRows :=
  fun id => if id = sid then s.row else none

def withWork (s : SessionSystem) (tx : TxId) (ops : Option (List SessionOp)) : SessionSystem :=
  { s with work := fun other => if other = tx then ops else s.work other }

def withSecret (s : SessionSystem) (name : Text) (value : Option Text) : SessionSystem :=
  { s with secrets := fun other => if other = name then value else s.secrets other }

/-- The row as a transaction leaves it. -/
def settled (s : SessionSystem) (tx : TxId) : Option SessionContextRecord :=
  match s.writer with
  | some (holder, record) => if holder = tx then some record else s.row
  | none => s.row

/-- The lock is free, or free again after a transaction has ended. -/
def released (s : SessionSystem) (tx : TxId) : Option (TxId × SessionContextRecord) :=
  s.writer.filter fun entry => entry.1 ≠ tx

/-- The secret port of a dispatch. -/
def secretPort (s : SessionSystem) (env : Text → Option Text) : SecretPort := ⟨s.secrets, env⟩

/-- A session before its login is authorized. -/
structure Initial (s : SessionSystem) : Prop where
  row : s.row = none
  writer : s.writer = none
  work : ∀ tx, s.work tx = none
  loaded : ∀ tx, s.loaded tx = none

end SessionSystem

/-- A plan that uses the session. -/
def References (plan : ExperimentPlan) (sid : Text) : Prop :=
  (plan.requiredCapability = .httpTransaction ∨ plan.requiredCapability = .browserPage) ∧
    plan.arguments "session_context_reference".toList = some (.text sid)

inductive SessionEvent where
  | insert (record : SessionContextRecord)
  | start (tx : TxId) (call : SessionCall)
  | op (tx : TxId) (op : SessionOp)
  | commit (tx : TxId)
  | rollback (tx : TxId)
  | load (tx : TxId)
  | bind (tx : TxId) (decision : BindingDecision)

variable (L : UrlCodecs) (str : Json → Text) (sid : Text)

/-- One step: the login's authorization inserts the row, a call reads it, does
one of its operations, commits or rolls back, or a dispatch reads the row and,
later, binds its plan to what it has read. -/
inductive SessionStep (s : SessionSystem) : SessionEvent → SessionSystem → Prop where
  | insert (origin researchRunId : Text) (identity : Identity) (profile : HttpFormLoginProfile)
      (h : s.row = none) :
      SessionStep s
        (.insert (authenticatingSessionRecord sid origin researchRunId identity profile))
        { s with
          row := some (authenticatingSessionRecord sid origin researchRunId identity profile) }
  | start (tx : TxId) (call : SessionCall) (h : s.work tx = none) :
      SessionStep s (.start tx call) (s.withWork tx (some (call.ops (s.rows sid) sid)))
  | put (tx : TxId) (reference : SecretReference) (value : Text) (rest : List SessionOp)
      (h : s.work tx = some (.put reference value :: rest)) :
      SessionStep s (.op tx (.put reference value))
        ((s.withSecret reference.name (some value)).withWork tx (some rest))
  | delete (tx : TxId) (reference : SecretReference) (rest : List SessionOp)
      (h : s.work tx = some (.delete reference :: rest)) :
      SessionStep s (.op tx (.delete reference))
        ((s.withSecret reference.name none).withWork tx (some rest))
  | setState (tx : TxId) (state : SessionState) (rest : List SessionOp)
      (record : SessionContextRecord) (h : s.work tx = some (.setState state :: rest))
      (hfree : s.writer = none) (hrow : s.row = some record) :
      SessionStep s (.op tx (.setState state))
        ({ s with writer := some (tx, { record with state := state }) }.withWork tx (some rest))
  | commit (tx : TxId) (h : s.work tx = some []) :
      SessionStep s (.commit tx)
        ({ s with row := s.settled tx, writer := s.released tx }.withWork tx none)
  | rollback (tx : TxId) (ops : List SessionOp) (h : s.work tx = some ops) :
      SessionStep s (.rollback tx) ({ s with writer := s.released tx }.withWork tx none)
  | load (tx : TxId) :
      SessionStep s (.load tx)
        { s with loaded := fun other => if other = tx then s.row else s.loaded other }
  | bind (tx : TxId) (plan : ExperimentPlan) (presented : Presented)
      (decision : BindingDecision) (env : Text → Option Text) (hplan : References plan sid)
      (hport : presented.secretPort = none ∨ presented.secretPort = some (s.secretPort env))
      (h : bindExistingSession L str plan presented (s.loaded tx) = some decision) :
      SessionStep s (.bind tx decision) s

/-- Login ingestion leaves a session alone that has ended or is about to, and
whoever ends a session has the secret port. -/
def Considerate (s : SessionSystem) : SessionEvent → Prop
  | .op _ (.put _ _) =>
    (∀ record, s.row = some record → ¬ record.state.Ended) ∧
      ∀ tx record, s.writer = some (tx, record) → ¬ record.state.Ended
  | .op _ (.setState state) =>
    state.Ended ∨ ∀ record, s.row = some record → ¬ record.state.Ended
  | .start _ (.revoke secretPort) => secretPort = true
  | .start _ (.ingest secretPort request _ _) =>
    request.workerCapability = .httpTransaction → secretPort = true
  | _ => True

/-! ## What a call does -/

/-- What is left of a considerate call, for its one session. -/
inductive Remaining (reference : SecretReference) : List SessionOp → Prop where
  | done : Remaining reference []
  | store (value : Text) : Remaining reference [.put reference value, .setState .active]
  | activate : Remaining reference [.setState .active]
  | fail : Remaining reference [.setState .failed]
  | finish (state : SessionState) (h : state.Ended) :
      Remaining reference [.setState state, .delete reference]
  | delete : Remaining reference [.delete reference]

theorem rows_eq_some {s : SessionSystem} {sid id : Text} {record : SessionContextRecord}
    (h : s.rows sid id = some record) : id = sid := by
  unfold SessionSystem.rows at h
  split at h
  next heq => exact heq
  next => cases h

variable {sid : Text}

theorem captureLoginResult_remaining (sid : Text) (s : SessionSystem) (secretPort : Bool)
    (request : IngestedRequest) (result : IngestedResult) (sessionCookie : Option Text) :
    Remaining (sessionMaterialReference sid)
      (captureLoginResult (s.rows sid) secretPort request result sessionCookie) := by
  unfold captureLoginResult
  split
  · exact .done
  split
  · exact .done
  rename_i id _
  split
  · exact .done
  next hrow =>
    obtain ⟨record, hrecord⟩ := Option.ne_none_iff_exists'.mp (by simpa using hrow)
    have hid : id = sid := rows_eq_some hrecord
    subst hid
    split
    · exact .done
    split
    · split
      · exact .store _
      · exact .fail
    · exact .fail

theorem expireSession_remaining (s : SessionSystem) (request : IngestedRequest)
    (result : IngestedResult) :
    Remaining (sessionMaterialReference sid)
      (expireSessionOnUnauthenticatedResponse (s.rows sid) true request result) := by
  unfold expireSessionOnUnauthenticatedResponse
  split
  · exact .done
  split
  · exact .done
  split
  · exact .done
  split
  · exact .done
  rename_i record hrecord
  have hid := rows_eq_some hrecord
  subst hid
  split
  · exact .done
  · exact .finish .expired (Or.inl rfl)

/-- **What a considerate call does** to its session. -/
theorem ops_remaining {s : SessionSystem} {tx : TxId} {call : SessionCall}
    (h : Considerate s (.start tx call)) :
    Remaining (sessionMaterialReference sid) (call.ops (s.rows sid) sid) := by
  cases call with
  | ingest secretPort request result sessionCookie =>
    have hcapture := captureLoginResult_remaining sid s secretPort request result sessionCookie
    show Remaining _ (captureLoginResult (s.rows sid) secretPort request result sessionCookie ++
      expireSessionOnUnauthenticatedResponse (s.rows sid) secretPort request result)
    by_cases hcap : request.workerCapability = .httpTransaction
    · have hnone : captureLoginResult (s.rows sid) secretPort request result sessionCookie = [] :=
        if_pos (by simp [hcap])
      rw [hnone, List.nil_append, h hcap]
      exact expireSession_remaining s request result
    · have hnone : expireSessionOnUnauthenticatedResponse (s.rows sid) secretPort request
          result = [] := if_pos hcap
      rw [hnone, List.append_nil]
      exact hcapture
  | revoke secretPort =>
    obtain rfl : secretPort = true := h
    show Remaining _ (revokeSession (s.rows sid) sid true)
    unfold revokeSession
    split
    · exact .done
    · exact .finish .revoked (Or.inr rfl)

/-! ## What the steps keep -/

namespace SessionSystem

/-- The material of the session is not resolvable. -/
def Forgotten (s : SessionSystem) (sid : Text) : Prop :=
  s.secrets (sessionMaterialReference sid).name = none

/-- The row names the material of its session. -/
def Ours (sid : Text) (record : SessionContextRecord) : Prop :=
  record.secretScheme = "SESSION_MATERIAL".toList ∧
    record.secretName = (sessionMaterialReference sid).name

/-- What considerate steps keep: the material of a session that has ended is gone,
and where an end is not committed yet, the deletion is done or still to do. -/
structure Inv (sid : Text) (s : SessionSystem) : Prop where
  remaining : ∀ tx ops, s.work tx = some ops → Remaining (sessionMaterialReference sid) ops
  forgotten : ∀ record, s.row = some record → record.state.Ended → s.Forgotten sid
  ending : ∀ tx record, s.writer = some (tx, record) → record.state.Ended →
    s.work tx = some [.delete (sessionMaterialReference sid)] ∨
      s.work tx = some [] ∧ s.Forgotten sid
  going : ∀ tx record, s.writer = some (tx, record) → ¬ record.state.Ended →
    s.work tx = some [] ∧ ∀ old, s.row = some old → ¬ old.state.Ended
  row_ours : ∀ record, s.row = some record → Ours sid record
  writer_ours : ∀ tx record, s.writer = some (tx, record) → Ours sid record
  loaded_ours : ∀ tx record, s.loaded tx = some record → Ours sid record

theorem Initial.inv {s : SessionSystem} (h : s.Initial) (sid : Text) : s.Inv sid := by
  constructor <;> simp [h.row, h.writer, h.work, h.loaded]

variable {s : SessionSystem}

theorem withWork_self (tx : TxId) (ops : Option (List SessionOp)) :
    (s.withWork tx ops).work tx = ops := if_pos rfl

theorem withWork_ne {tx other : TxId} (ops : Option (List SessionOp)) (h : other ≠ tx) :
    (s.withWork tx ops).work other = s.work other := if_neg h

/-- The holder of the lock has updated the row already. -/
theorem Inv.not_writer {tx : TxId} {op : SessionOp} {rest : List SessionOp} (hi : s.Inv sid)
    (h : s.work tx = some (op :: rest)) (hop : op ≠ .delete (sessionMaterialReference sid))
    {holder : TxId} {record : SessionContextRecord} (hw : s.writer = some (holder, record)) :
    holder ≠ tx := by
  rintro rfl
  by_cases hended : record.state.Ended
  · rcases hi.ending holder record hw hended with hwork | ⟨hwork, -⟩
    · rw [h] at hwork
      injection hwork with hwork
      exact hop (List.cons_eq_cons.mp hwork).1
    · rw [h] at hwork
      cases hwork
  · have hwork := (hi.going holder record hw hended).1
    rw [h] at hwork
    cases hwork

/-- Who holds the lock is in a transaction. -/
theorem Inv.writer_busy {holder : TxId} {record : SessionContextRecord} (hi : s.Inv sid)
    (hw : s.writer = some (holder, record)) : ∃ ops, s.work holder = some ops := by
  by_cases hended : record.state.Ended
  · rcases hi.ending holder record hw hended with hwork | ⟨hwork, -⟩
    · exact ⟨_, hwork⟩
    · exact ⟨_, hwork⟩
  · exact ⟨_, (hi.going holder record hw hended).1⟩

/-- Where one transaction stands says nothing of the others. -/
theorem Inv.remaining_withWork {tx : TxId} {ops : Option (List SessionOp)} (hi : s.Inv sid)
    (hops : ∀ left, ops = some left → Remaining (sessionMaterialReference sid) left) :
    ∀ other left, (s.withWork tx ops).work other = some left →
      Remaining (sessionMaterialReference sid) left := by
  intro other left h
  by_cases hother : other = tx
  · subst hother
    exact hops left (withWork_self (s := s) other ops ▸ h)
  · exact hi.remaining other left (withWork_ne (s := s) ops hother ▸ h)

theorem released_eq_some {tx holder : TxId} {record : SessionContextRecord}
    (h : s.released tx = some (holder, record)) :
    s.writer = some (holder, record) ∧ holder ≠ tx := by
  obtain ⟨hw, hne⟩ := Option.filter_eq_some_iff.mp h
  exact ⟨hw, by simpa using hne⟩

/-- A transaction that has ended leaves the others as they were. -/
theorem Inv.ended {t : SessionSystem} (hi : s.Inv sid) (tx : TxId)
    (hrow : ∀ record, t.row = some record → s.row = some record ∨
      s.writer = some (tx, record) ∧ s.work tx = some [])
    (hwriter : t.writer = s.released tx) (hsecrets : t.secrets = s.secrets)
    (hwork : t.work = (s.withWork tx none).work) (hloaded : t.loaded = s.loaded)
    (hkept : ∀ holder, holder ≠ tx → (s.writer.map Prod.fst) = some holder → t.row = s.row) :
    t.Inv sid := by
  constructor
  · intro other left h
    rw [hwork] at h
    exact hi.remaining_withWork (fun left h => by cases h) other left h
  · intro record hrecord hended
    unfold Forgotten
    rw [hsecrets]
    rcases hrow record hrecord with hold | ⟨hw, hdone⟩
    · exact hi.forgotten record hold hended
    · rcases hi.ending tx record hw hended with hleft | ⟨-, hforgotten⟩
      · rw [hdone] at hleft
        cases hleft
      · exact hforgotten
  · intro holder record hw hended
    obtain ⟨hw, hne⟩ := released_eq_some (hwriter ▸ hw)
    unfold Forgotten
    rw [hwork, withWork_ne none hne, hsecrets]
    exact hi.ending holder record hw hended
  · intro holder record hw hended
    obtain ⟨hw, hne⟩ := released_eq_some (hwriter ▸ hw)
    rw [hwork, withWork_ne none hne, hkept holder hne (by rw [hw]; rfl)]
    exact hi.going holder record hw hended
  · intro record hrecord
    rcases hrow record hrecord with hold | ⟨hw, -⟩
    · exact hi.row_ours record hold
    · exact hi.writer_ours tx record hw
  · intro holder record hw
    exact hi.writer_ours holder record (released_eq_some (hwriter ▸ hw)).1
  · rw [hloaded]
    exact hi.loaded_ours

/-- **One considerate step.** -/
theorem Inv.step {t : SessionSystem} {event : SessionEvent} {L : UrlCodecs} {str : Json → Text}
    (hi : s.Inv sid) (h : SessionStep L str sid s event t) (hc : Considerate s event) :
    t.Inv sid := by
  cases h with
  | insert origin researchRunId identity profile hrow =>
    have hfresh : ¬ (authenticatingSessionRecord sid origin researchRunId identity
        profile).state.Ended := by simp [authenticatingSessionRecord, SessionState.Ended]
    have hsome : ∀ {record}, some (authenticatingSessionRecord sid origin researchRunId identity
        profile) = some record → ¬ record.state.Ended := by
      intro record hrecord
      rw [← Option.some.inj hrecord]
      exact hfresh
    refine ⟨hi.remaining, fun record hrecord hended => (hsome hrecord hended).elim, hi.ending,
      fun tx record hw hended => ⟨(hi.going tx record hw hended).1, fun old => hsome⟩, ?_,
      hi.writer_ours, hi.loaded_ours⟩
    intro record hrecord
    rw [← Option.some.inj hrecord]
    exact ⟨rfl, rfl⟩
  | start tx call hidle =>
    have hne : ∀ {holder record}, s.writer = some (holder, record) → holder ≠ tx := by
      rintro holder record hw rfl
      obtain ⟨ops, hops⟩ := hi.writer_busy hw
      rw [hidle] at hops
      cases hops
    refine ⟨hi.remaining_withWork ?_, hi.forgotten, ?_, ?_, hi.row_ours, hi.writer_ours,
      hi.loaded_ours⟩
    · rintro left hleft
      rw [← Option.some.inj hleft]
      exact ops_remaining hc
    · intro holder record hw hended
      rw [withWork_ne _ (hne hw)]
      exact hi.ending holder record hw hended
    · intro holder record hw hended
      rw [withWork_ne _ (hne hw)]
      exact hi.going holder record hw hended
  | put tx reference value rest hwork =>
    have hleft := hi.remaining tx _ hwork
    have hrest : rest = [.setState .active] := by cases hleft; rfl
    refine ⟨hi.remaining_withWork ?_, ?_, ?_, ?_, hi.row_ours, hi.writer_ours, hi.loaded_ours⟩
    · rintro left hsome
      rw [← Option.some.inj hsome, hrest]
      exact .activate
    · exact fun record hrecord hended => (hc.1 record hrecord hended).elim
    · exact fun holder record hw hended => (hc.2 holder record hw hended).elim
    · intro holder record hw hended
      have hne := hi.not_writer hwork (by simp) hw
      rw [withWork_ne _ hne]
      exact hi.going holder record hw hended
  | delete tx reference rest hwork =>
    have hleft := hi.remaining tx _ hwork
    obtain ⟨rfl, rfl⟩ : reference = sessionMaterialReference sid ∧ rest = [] := by
      cases hleft
      exact ⟨rfl, rfl⟩
    have hforgotten : ((s.withSecret (sessionMaterialReference sid).name none).withWork tx
        (some [])).Forgotten sid := if_pos rfl
    refine ⟨hi.remaining_withWork ?_, fun _ _ _ => hforgotten, ?_, ?_, hi.row_ours,
      hi.writer_ours, hi.loaded_ours⟩
    · rintro left hsome
      rw [← Option.some.inj hsome]
      exact .done
    · intro holder record hw hended
      by_cases hholder : holder = tx
      · subst hholder
        exact Or.inr ⟨withWork_self _ _, hforgotten⟩
      · rw [withWork_ne _ hholder]
        exact (hi.ending holder record hw hended).imp_right fun hdone => ⟨hdone.1, hforgotten⟩
    · intro holder record hw hended
      have hne : holder ≠ tx := by
        rintro rfl
        have hdone := (hi.going holder record hw hended).1
        rw [hwork] at hdone
        cases hdone
      rw [withWork_ne _ hne]
      exact hi.going holder record hw hended
  | setState tx state rest record hwork hfree hrow =>
    have hleft := hi.remaining tx _ hwork
    have hrest : Remaining (sessionMaterialReference sid) rest := by
      cases hleft with
      | activate | fail => exact .done
      | finish => exact .delete
    have hpair : ∀ {holder updated}, some (tx, { record with state := state }) =
        some (holder, updated) → tx = holder ∧ { record with state := state } = updated := by
      intro holder updated hsome
      exact ⟨congrArg Prod.fst (Option.some.inj hsome), congrArg Prod.snd (Option.some.inj hsome)⟩
    refine ⟨hi.remaining_withWork ?_, hi.forgotten, ?_, ?_, hi.row_ours, ?_, hi.loaded_ours⟩
    · rintro left hsome
      rw [← Option.some.inj hsome]
      exact hrest
    · rintro holder updated hw hended
      obtain ⟨rfl, rfl⟩ := hpair hw
      rw [withWork_self]
      cases hleft with
      | activate => rcases hended with h | h <;> cases h
      | fail => rcases hended with h | h <;> cases h
      | finish => exact Or.inl rfl
    · rintro holder updated hw hended
      obtain ⟨rfl, rfl⟩ := hpair hw
      rw [withWork_self]
      have hnot := hc.resolve_left hended
      cases hleft with
      | activate | fail => exact ⟨rfl, hnot⟩
      | finish _ hfinish => exact (hended hfinish).elim
    · rintro holder updated hw
      obtain ⟨rfl, rfl⟩ := hpair hw
      exact hi.row_ours record hrow
  | commit tx hdone =>
    refine hi.ended tx ?_ rfl rfl rfl rfl ?_
    · intro record hrecord
      have hsettled : s.settled tx = some record := hrecord
      unfold settled at hsettled
      split at hsettled
      next holder written hw =>
        split at hsettled
        next hholder =>
          subst hholder
          exact Or.inr ⟨Option.some.inj hsettled ▸ hw, hdone⟩
        next => exact Or.inl hsettled
      next => exact Or.inl hsettled
    · intro holder hne hholder
      show s.settled tx = s.row
      unfold settled
      cases hw : s.writer with
      | none => rfl
      | some entry =>
        rw [hw] at hholder
        obtain rfl : entry.1 = holder := by simpa using hholder
        exact if_neg hne
  | rollback tx ops hopen =>
    exact hi.ended tx (fun record hrecord => Or.inl hrecord) rfl rfl rfl rfl
      fun _ _ _ => rfl
  | load tx =>
    refine ⟨hi.remaining, hi.forgotten, hi.ending, hi.going, hi.row_ours, hi.writer_ours, ?_⟩
    intro other record hrecord
    have hrecord : (if other = tx then s.row else s.loaded other) = some record := hrecord
    split at hrecord
    · exact hi.row_ours record hrecord
    · exact hi.loaded_ours other record hrecord
  | bind => exact hi

/-- A session that has ended stays ended. -/
theorem Inv.stays_ended {t : SessionSystem} {event : SessionEvent} {L : UrlCodecs}
    {str : Json → Text} (hi : s.Inv sid) (h : SessionStep L str sid s event t)
    (hended : ∃ record, s.row = some record ∧ record.state.Ended) :
    ∃ record, t.row = some record ∧ record.state.Ended := by
  obtain ⟨record, hrow, hstate⟩ := hended
  cases h with
  | insert _ _ _ _ hnone =>
    rw [hrow] at hnone
    cases hnone
  | commit tx hdone =>
    show ∃ record, s.settled tx = some record ∧ record.state.Ended
    unfold settled
    split
    next holder written hw =>
      split
      next hholder =>
        -- What is committed is an end: others have not been written over one.
        refine ⟨written, rfl, ?_⟩
        by_contra hgoing
        exact (hi.going holder written hw hgoing).2 record hrow hstate
      next => exact ⟨record, hrow, hstate⟩
    next => exact ⟨record, hrow, hstate⟩
  | _ => exact ⟨record, hrow, hstate⟩

/-- No binding is accepted where the material is gone. -/
theorem Inv.not_bound {t : SessionSystem} {tx : TxId} {decision : BindingDecision} {L : UrlCodecs}
    {str : Json → Text} (hi : s.Inv sid) (h : SessionStep L str sid s (.bind tx decision) t)
    (hforgotten : s.Forgotten sid) : decision.accepted = false := by
  cases h with
  | bind _ plan presented _ env hplan hport hbind =>
    rw [Bool.eq_false_iff]
    intro haccepted
    obtain ⟨record, hloaded, hmaterial⟩ := bindExistingSession_accepted L hbind haccepted
    obtain ⟨-, port, scheme, value, hpresented, hscheme, hvalue⟩ := bindMaterial_accepted hmaterial
    obtain ⟨hours, hname⟩ := hi.loaded_ours tx record hloaded
    have hport : port = s.secretPort env := by
      rcases hport with hnone | hsome
      · rw [hnone] at hpresented
        cases hpresented
      · exact (Option.some.inj (hsome.symm.trans hpresented)).symm
    have hsession : scheme = .sessionMaterial := by
      rw [hours] at hscheme
      exact (Option.some.inj hscheme).symm
    -- The name of the material is stripped already.
    have hstripped : record.secretName.strip = (sessionMaterialReference sid).name := by
      rw [hname]
      exact Text.strip_strip _
    have hgone : (s.secretPort env).resolve (.make .sessionMaterial record.secretName) = none := by
      show (s.secrets record.secretName.strip).filter _ = none
      rw [hstripped, hforgotten]
      rfl
    rw [hport, hsession, hgone] at hvalue
    cases hvalue

end SessionSystem

/-- **Ended sessions stay ended**: from the commit of an end on, the session is
never active again, its material is not resolvable, and no binding of a plan to
it is accepted, in every run of considerate steps. -/
theorem ended_sessions_stay_ended (L : UrlCodecs) (str : Json → Text) {sid : Text}
    {s m t : SessionSystem} {before after : List SessionEvent} (hs : s.Initial)
    (h : Run (Guarded (SessionStep L str sid) Considerate) s before m)
    (hended : ∃ record, m.row = some record ∧ record.state.Ended)
    (h' : Run (Guarded (SessionStep L str sid) Considerate) m after t) :
    (∃ record, t.row = some record ∧ record.state.Ended) ∧
      (∀ env, (t.secretPort env).resolve (sessionMaterialReference sid) = none) ∧
      ∀ tx decision, .bind tx decision ∈ after → decision.accepted = false := by
  have hm : m.Inv sid :=
    h.invariant (I := SessionSystem.Inv sid) (fun _ _ _ hstep hi => hi.step hstep.1 hstep.2)
      (hs.inv sid)
  -- The invariant that carries the rest of the run: the session has ended.
  let I : SessionSystem → Prop := fun u =>
    u.Inv sid ∧ ∃ record, u.row = some record ∧ record.state.Ended
  have hstep : ∀ u event v, Guarded (SessionStep L str sid) Considerate u event v → I u → I v :=
    fun u event v hstep hu => ⟨hu.1.step hstep.1 hstep.2, hu.1.stays_ended hstep.1 hu.2⟩
  have hforgotten : ∀ u, I u → u.Forgotten sid := by
    rintro u ⟨hi, record, hrow, hstate⟩
    exact hi.forgotten record hrow hstate
  have ht : I t := h'.invariant hstep ⟨hm, hended⟩
  refine ⟨ht.2, fun env => ?_, fun tx decision hbind => ?_⟩
  · show (t.secrets (sessionMaterialReference sid).name).filter _ = none
    rw [hforgotten t ht]
    rfl
  · obtain ⟨earlier, later, rfl⟩ := List.append_of_mem hbind
    obtain ⟨u, v, hearlier, hbound, -⟩ := h'.split
    have hu : I u := hearlier.invariant hstep ⟨hm, hended⟩
    exact hu.1.not_bound hbound.1 (hforgotten u hu)

/-- Nobody has logged in yet. -/
def beforeLogin : SessionSystem where
  row := none
  writer := none
  secrets _ := none
  work _ := none
  loaded _ := none

def alice : Identity := ⟨"alice".toList, "alice".toList, "shop".toList, "form".toList⟩

def formLogin : HttpFormLoginProfile := ⟨"form".toList, "sid".toList⟩

/-- The row of Alice's session, in a state. -/
def aliceSession (state : SessionState) : SessionContextRecord :=
  { authenticatingSessionRecord "s".toList "https://shop".toList "run".toList alice formLogin with
    state := state }

/-- The ingestion of a login that has gone well. -/
def goodLogin : SessionCall :=
  .ingest true
    ⟨.httpAuthentication, some fun key =>
      if key = "session_context_id".toList then some (.text "s".toList) else none⟩
    ⟨"SUCCEEDED".toList, true, some 200⟩ (some "cookie".toList)

/-- A session is opened, used and revoked. -/
theorem ended_sessions_stay_ended_alice :
    ∃ t : SessionSystem,
      (∃ record, t.row = some record ∧ record.state.Ended) ∧
        (∀ env, (t.secretPort env).resolve (sessionMaterialReference "s".toList) = none) ∧
        ∀ tx decision, SessionEvent.bind tx decision ∈ [SessionEvent.load 2] →
          decision.accepted = false := by
  refine ⟨_, @ended_sessions_stay_ended asciiCodecs (fun _ => []) "s".toList beforeLogin
    _ _ _ _ ⟨rfl, rfl, fun _ => rfl, fun _ => rfl⟩
    (((((((((Run.nil _).snoc
      ⟨.insert "https://shop".toList "run".toList alice formLogin rfl, trivial⟩).snoc
      ⟨.start 0 goodLogin rfl, ?_⟩).snoc
      ⟨.put 0 _ "cookie".toList [.setState .active] rfl, ?_⟩).snoc
      ⟨.setState 0 .active [] (aliceSession .authenticating) rfl rfl rfl, ?_⟩).snoc
      ⟨.commit 0 rfl, trivial⟩).snoc
      ⟨.start 1 (.revoke true) rfl, rfl⟩).snoc
      ⟨.setState 1 .revoked [.delete (sessionMaterialReference "s".toList)]
        (aliceSession .active) rfl rfl rfl, Or.inl (Or.inr rfl)⟩).snoc
      ⟨.delete 1 _ [] rfl, trivial⟩ |>.snoc ⟨.commit 1 rfl, trivial⟩)
    ⟨aliceSession .revoked, rfl, Or.inr rfl⟩
    ((Run.nil _).snoc ⟨.load 2, trivial⟩)⟩
  · rintro hcap
    cases hcap
  · refine ⟨fun record hrow => ?_, fun tx record hw => by cases hw⟩
    rw [← Option.some.inj hrow]
    decide
  · refine Or.inr fun record hrow => ?_
    rw [← Option.some.inj hrow]
    decide

/-- **A revoked session comes back**: its login was in flight. -/
theorem revoked_session_comes_back :
    ∃ (before after : List SessionEvent) (m t : SessionSystem),
      Run (SessionStep asciiCodecs (fun _ => []) "s".toList) beforeLogin before m ∧
      m.row = some (aliceSession .revoked) ∧
      Run (SessionStep asciiCodecs (fun _ => []) "s".toList) m after t ∧
      t.row = some (aliceSession .active) ∧
      (t.secretPort fun _ => none).resolve (sessionMaterialReference "s".toList) =
        some "cookie".toList := by
  refine ⟨_, _, _, _,
    ((((((Run.nil _).snoc
      (.insert "https://shop".toList "run".toList alice formLogin rfl)).snoc
      (.start 0 goodLogin rfl)).snoc
      (.start 1 (.revoke true) rfl)).snoc
      (.setState 1 .revoked [.delete (sessionMaterialReference "s".toList)]
        (aliceSession .authenticating) rfl rfl rfl)).snoc
      (.delete 1 _ [] rfl)).snoc (.commit 1 rfl), rfl,
    (((Run.nil _).snoc
      (.put 0 _ "cookie".toList [.setState .active] rfl)).snoc
      (.setState 0 .active [] (aliceSession .revoked) rfl rfl rfl)).snoc
      (.commit 0 rfl), rfl, rfl⟩

end Zest.Sessions
