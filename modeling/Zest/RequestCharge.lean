import Mathlib.Algebra.BigOperators.Group.Finset.Basic
import Zest.LedgerSafety
import Zest.WorkerExecutors

/-! # Requests charged and requests sent

A dispatch charges its requests before the Worker runs, by what the stored plan
says: two for one profile of the raw exchange, what is left of the budget for a
page, and one for everything else.  The Worker sends what its executor plans.

The two probes plan four requests, and are charged one.  A control of a raw
exchange can bring a request of its own.  Where neither happens the charge covers
what is sent, and a budget is never overrun, however the dispatches interleave.
-/
namespace Zest.RequestCharge

open UnitOfWork Interleaving TransitionSystem LedgerTransaction WorkerExecutors
open HttpTransaction (Plan buildArguments objectOr withIdentity)

/-- What is dispatched: the plan, the view of its capability, and what Core puts
into the request. -/
structure AuthorizedDispatch where
  plan : Plan
  capabilityVersion : Text
  definitionFingerprint : Text
  identityId : Option Text
  requiredUserAgent : Option Text
  requiredHeaders : Option RequiredHeaders
  networkEnvelope : Option EnvelopeMapping
  resolvedSecretValues : Option (List (Text × Text))

/-- `BROWSER_PAGE_CAPABILITY`. -/
def browserPageCapability : Text := "browser.page".toList

/-- `HTTP_RAW_EXCHANGE_CAPABILITY`. -/
def httpRawExchangeCapability : Text := "http.raw_exchange".toList

/-- `BROWSER_PAGE_MAX_NETWORK_REQUESTS`. -/
def browserPageMaxNetworkRequests : Int := 16

/-- `_request_consumption_amount`, over the rows of the budget that the
transaction sees; `none` is its `BudgetOverspendError`. -/
def requestConsumptionAmount (plan : Plan) (issued : IssuedBudget) (consumptions : Ledger) :
    Option Int :=
  if plan.requiredCapability = httpRawExchangeCapability then
    match plan.arguments.get "framing_profile".toList with
    | .text profile => some (if profile = "http1_connection_reuse".toList then 2 else 1)
    | _ => some 1
  else if plan.requiredCapability ≠ browserPageCapability then some 1
  else
    let remaining : Int := issued.maxRequests - ledgerTotal consumptions .request
    if remaining < 1 then none else some (min remaining browserPageMaxNetworkRequests)

/-- `max_attempted_requests` of the request: what is charged, for a page. -/
def maxAttempted (plan : Plan) (amount : Int) : Option Int :=
  if plan.requiredCapability = browserPageCapability then some amount else none

section Sent

variable (L : UrlCodecs) (isAlnum : Char → Bool) (upper : Text → Text)
variable (fingerprints : Implementation → Text)

/-- `_build_worker_request` and `_request_with_resolved_secrets`. -/
def workerRequest (dispatch : AuthorizedDispatch) (maxAttemptedRequests : Option Int) :
    Except String Request := do
  let arguments ← buildArguments L.lower isAlnum dispatch.plan.arguments dispatch.identityId
    dispatch.requiredUserAgent dispatch.requiredHeaders
  return {
    workerCapability := dispatch.plan.requiredCapability
    action := dispatch.plan.action
    capabilityVersion := dispatch.capabilityVersion
    capabilityDefinitionFingerprint := dispatch.definitionFingerprint
    arguments := arguments
    networkEnvelope := dispatch.networkEnvelope
    resolvedSecretValues := dispatch.resolvedSecretValues.filter (· ≠ [])
    maxAttemptedRequests := maxAttemptedRequests }

/-- How many requests the Worker sends for a dispatch that is charged `amount`.
A request that cannot be built is never dispatched. -/
def sent (world : World) (dispatch : AuthorizedDispatch) (amount : Int) : Nat :=
  match workerRequest L isAlnum dispatch (maxAttempted dispatch.plan amount) with
  | .error _ => 0
  | .ok request => (execute L isAlnum upper fingerprints world request).1

/-! ## What is not charged -/

/-- The plan of a probe. -/
def preparedProbe (implementation : Implementation) (request : Request) :
    Except Answer Probe :=
  match implementation with
  | .httpAuthorizationDifferential => prepareAuthorization L request
  | .httpStateTransition => prepareTransition L request
  | _ => .error (executionFailed "IMPLEMENTATION_NOT_AVAILABLE")

/-- A probe that goes on to its second request. -/
def SecondRequest (lets : ClientRequest → Bool) (request : Request) : Prop :=
  ∃ implementation prepared first second rest,
    WorkerExecutors.dispatch fingerprints request = .ok implementation ∧
    preparedProbe L implementation request = .ok prepared ∧
    prepared.planned = first :: second :: rest ∧
    Sendable L lets prepared.envelope prepared.origin first ∧
    Sendable L lets prepared.envelope prepared.origin second

/-- The octets of the first `k` requests of a catalog, with the values of the
exchange in them. -/
def catalogOctets (exchange : RawExchange.Exchange) (k : Nat) : Http.Octets :=
  (exchange.profile.fixedFields.take k).flatMap fun fixed =>
    (exchange.profile.request (RawExchange.authorityOf L exchange.origin) exchange.origin
      exchange.path exchange.control exchange.lane fixed).rendered exchange.profile.body

/-- The values bring requests of their own: there are more in the octets than
the catalog has. -/
def Splits (exchange : RawExchange.Exchange) : Prop :=
  ∃ k, max 1 exchange.profile.fixedFields.length <
    (Http.leadingRequests (catalogOctets L exchange k).length (catalogOctets L exchange k)).length

/-- A raw exchange whose values bring requests of their own. -/
def SplitExchange (request : Request) : Prop :=
  ∃ exchange, WorkerExecutors.dispatch fingerprints request = .ok .httpRawExchange ∧
    RawExchange.execute L ⟨some (rawArguments request.arguments), request.networkEnvelope⟩ =
      .ok exchange ∧ Splits L exchange

/-- The dispatch sends what is not charged, if nothing stops it. -/
def Overruns (lets : ClientRequest → Bool) (dispatch : AuthorizedDispatch) : Prop :=
  ∃ request, workerRequest L isAlnum dispatch none = .ok request ∧
    (SecondRequest L fingerprints lets request ∨ SplitExchange L fingerprints request)

end Sent

/-! ## The arguments that the charge reads -/

section Attempt

variable {L : UrlCodecs} {isAlnum : Char → Bool} {upper : Text → Text}
variable {fingerprints : Implementation → Text} {lets : ClientRequest → Bool} {world : World}
variable {dispatch : AuthorizedDispatch} {request : Request} {amount : Int}

/-- Core adds an identity and headers, and leaves the other arguments alone. -/
theorem get_buildArguments {lower : Text → Text} {arguments built : Dict} {key : Text}
    {identityId requiredUserAgent : Option Text} {requiredHeaders : Option RequiredHeaders}
    (h : buildArguments lower isAlnum arguments identityId requiredUserAgent requiredHeaders =
      .ok built)
    (hidentity : key ≠ "identity_id".toList) (hheaders : key ≠ "headers".toList) :
    built.get key = arguments.get key := by
  have hbase : (withIdentity arguments identityId).get key = arguments.get key := by
    cases identityId with
    | none => rfl
    | some identity => exact Dict.get_set_of_ne hidentity
  unfold buildArguments at h
  obtain ⟨existing, -, h⟩ := bind_eq_ok h
  obtain ⟨validated, -, h⟩ := bind_eq_ok h
  split at h
  · cases h
    rw [Dict.get_set_of_ne hheaders, hbase]
  · cases h
    exact hbase

theorem workerRequest_eq_ok {maxAttemptedRequests : Option Int}
    (h : workerRequest L isAlnum dispatch maxAttemptedRequests = .ok request) :
    request.workerCapability = dispatch.plan.requiredCapability ∧
      request.maxAttemptedRequests = maxAttemptedRequests ∧
      request.arguments.get "framing_profile".toList =
        dispatch.plan.arguments.get "framing_profile".toList := by
  unfold workerRequest at h
  obtain ⟨arguments, harguments, h⟩ := bind_eq_ok h
  cases h
  exact ⟨rfl, rfl, get_buildArguments harguments (by decide) (by decide)⟩

/-- What the checks of the Worker say, when they are passed. -/
theorem dispatch_eq_ok {implementation : Implementation}
    (h : WorkerExecutors.dispatch fingerprints request = .ok implementation) :
    request.workerCapability = implementation.capabilityId ∧
      ∃ schema, (request.action, schema) ∈ implementation.actions ∧
        validateArguments schema request.arguments = true := by
  unfold WorkerExecutors.dispatch at h
  split at h
  · cases h
  next capability found hcapability =>
  split at h
  · cases h
  next action schema haction =>
  obtain ⟨_, _, h⟩ := bind_eq_ok h
  obtain ⟨_, _, h⟩ := bind_eq_ok h
  obtain ⟨_, hvalid, h⟩ := bind_eq_ok h
  cases h
  rw [HttpTransaction.refuseIf_eq_ok, Bool.not_eq_false'] at hvalid
  obtain ⟨hmem, rfl⟩ := KeyedList.get_eq_some hcapability
  obtain ⟨hmem', rfl⟩ := KeyedList.get_eq_some haction
  obtain ⟨known, -, hentry⟩ := List.mem_map.mp hmem
  obtain ⟨hname, rfl⟩ := Prod.mk.inj hentry
  exact ⟨hname.symm, schema, hmem', hvalid⟩

/-- The requests of a page are bounded in the request; all else of it is built
from the plan. -/
theorem workerRequest_maxAttempted (dispatch : AuthorizedDispatch) (limit : Option Int) :
    workerRequest L isAlnum dispatch limit = (workerRequest L isAlnum dispatch none).map
      fun request => { request with maxAttemptedRequests := limit } := by
  unfold workerRequest
  cases buildArguments L.lower isAlnum dispatch.plan.arguments dispatch.identityId
    dispatch.requiredUserAgent dispatch.requiredHeaders <;> rfl

/-- A charge is of one request at least. -/
theorem one_le_amount {plan : Plan} {issued : IssuedBudget} {consumptions : Ledger}
    (h : requestConsumptionAmount plan issued consumptions = some amount) : 1 ≤ amount := by
  unfold requestConsumptionAmount at h
  split at h
  · split at h
    · split at h <;> cases h <;> omega
    · cases h
      omega
  split at h
  · cases h
    omega
  dsimp only at h
  split at h
  · cases h
  next hremaining =>
    cases h
    exact Int.le_min.mpr ⟨by omega, by decide⟩

/-! ## The raw exchange -/

/-- A value of the catalog is its own profile, and has no blanks around it. -/
theorem profile_of_name {name : Text} {profile : RawExchange.FramingProfile}
    (hname : name ∈ framingProfileNames)
    (hprofile : RawExchange.FramingProfile.ofText name.strip = some profile) :
    max 1 profile.fixedFields.length =
      if name = "http1_connection_reuse".toList then 2 else 1 := by
  have hall : ∀ name ∈ framingProfileNames, ∀ profile ∈
      RawExchange.FramingProfile.ofText name.strip, max 1 profile.fixedFields.length =
        if name = "http1_connection_reuse".toList then 2 else 1 := by decide
  exact hall name hname profile hprofile

/-- **The writes that go out** are covered unless the values bring requests of
their own. -/
theorem requestsOf_le_iff {request : RawExchange.Request} {exchange : RawExchange.Exchange}
    (h : RawExchange.execute L request = .ok exchange) :
    (∀ k, requestsOf (exchange.writes.take k) ≤ max 1 exchange.profile.fixedFields.length) ↔
      ¬ Splits L exchange := by
  obtain ⟨-, hwrites⟩ := RawExchange.execute_eq_ok h
  by_cases hprofile : exchange.profile = .http2Preface
  · -- The preface is one write and no request of HTTP/1.1.
    rw [hprofile] at hwrites
    have hpreface : exchange.writes = [RawExchange.http2Preface] :=
      (Except.ok.inj hwrites).symm
    rw [hpreface]
    refine ⟨fun _ => ?_, fun _ k => ?_⟩
    · rintro ⟨k, hk⟩
      simp [catalogOctets, hprofile, RawExchange.FramingProfile.fixedFields,
        Http.leadingRequests] at hk
    · cases k with
      | zero => exact Nat.zero_le _
      | succ k =>
        rw [List.take_succ_cons, List.take_nil]
        refine Nat.le_trans ?_ (Nat.le_max_left _ _)
        decide
  · have hcatalog := RawExchange.catalogWrites_eq_ok hwrites hprofile
    have htake : ∀ k, (exchange.writes.take k).flatten = catalogOctets L exchange k := by
      intro k
      rw [hcatalog, ← List.map_take, catalogOctets, List.flatMap_def]
    have hlength : ∀ k, (exchange.writes.take k).length ≤
        max 1 exchange.profile.fixedFields.length := by
      intro k
      rw [List.length_take, hcatalog, List.length_map]
      omega
    unfold requestsOf Splits
    simp only [htake, not_exists, Nat.not_lt]
    exact forall_congr' fun k => ⟨fun hle => Nat.le_trans (Nat.le_max_right _ _) hle,
      fun hle => Nat.max_le.mpr ⟨hlength k, hle⟩⟩

/-- Values that are one line each bring no request. -/
theorem not_splits_of_harmless {request : RawExchange.Request} {exchange : RawExchange.Exchange}
    (h : RawExchange.execute L request = .ok exchange) (hsafe : RawExchange.Harmless exchange) :
    ¬ Splits L exchange := by
  rintro ⟨k, hk⟩
  obtain ⟨horigin, -⟩ := RawExchange.execute_eq_ok h
  generalize hwritten : ((exchange.profile.fixedFields.take k).map fun fixed =>
    (exchange.profile.request (RawExchange.authorityOf L exchange.origin) exchange.origin
      exchange.path exchange.control exchange.lane fixed, exchange.profile.body)) = written
  have hformed : ∀ p ∈ written, Http.WellFormed p.1 p.2 := by
    subst hwritten
    intro p hp
    obtain ⟨fixed, hfixed, rfl⟩ := List.mem_map.mp hp
    exact RawExchange.wellFormed_request (List.mem_of_mem_take hfixed)
      (RawExchange.clean_authority horigin) (by rw [RawExchange.clean_eq, hsafe.control]; rfl)
      (by rw [RawExchange.clean_eq, hsafe.lane]; rfl) hsafe.target
  have hread := Http.readConnection_rendered hformed
  have hoctets : catalogOctets L exchange k = written.flatMap fun p => p.1.rendered p.2 := by
    rw [← hwritten, List.flatMap_map, catalogOctets]
  rw [hoctets, Http.leadingRequests_eq hread, ← hwritten] at hk
  simp only [List.map_map, List.length_map, List.length_take] at hk
  omega

/-! ## One dispatch -/

/-- The Worker's charge for a capability that it knows. -/
theorem amount_of_dispatch {plan : Plan} {issued : IssuedBudget} {consumptions : Ledger}
    {implementation : Implementation}
    (h : requestConsumptionAmount plan issued consumptions = some amount)
    (hcapability : request.workerCapability = plan.requiredCapability)
    (hdispatch : WorkerExecutors.dispatch fingerprints request = .ok implementation)
    (hpage : implementation ≠ .browserPage) (hraw : implementation ≠ .httpRawExchange) :
    amount = 1 := by
  have hname := hcapability.symm.trans (dispatch_eq_ok hdispatch).1
  unfold requestConsumptionAmount at h
  rw [hname] at h
  cases implementation with
  | browserPage => exact absurd rfl hpage
  | httpRawExchange => exact absurd rfl hraw
  | _ => exact (Option.some.inj h).symm

/-- The charge of a page is the bound in its request. -/
theorem maxAttempted_of_dispatch {plan : Plan}
    (hcapability : request.workerCapability = plan.requiredCapability)
    (hdispatch : WorkerExecutors.dispatch fingerprints request = .ok .browserPage) :
    maxAttempted plan amount = some amount := by
  exact if_pos (hcapability.symm.trans (dispatch_eq_ok hdispatch).1)

/-- The charge of a raw exchange is that of its catalog. -/
theorem amount_of_exchange {issued : IssuedBudget} {consumptions : Ledger}
    {exchange : RawExchange.Exchange} {limit : Option Int}
    (h : requestConsumptionAmount dispatch.plan issued consumptions = some amount)
    (hrequest : workerRequest L isAlnum dispatch limit = .ok request)
    (hdispatch : WorkerExecutors.dispatch fingerprints request = .ok .httpRawExchange)
    (hexchange : RawExchange.execute L
      ⟨some (rawArguments request.arguments), request.networkEnvelope⟩ = .ok exchange) :
    amount = max 1 exchange.profile.fixedFields.length := by
  obtain ⟨hcapability, -, hsame⟩ := workerRequest_eq_ok hrequest
  obtain ⟨hmem, schema, hschema, hvalid⟩ := dispatch_eq_ok hdispatch
  have hname : dispatch.plan.requiredCapability = httpRawExchangeCapability :=
    hcapability.symm.trans hmem
  obtain ⟨arguments, name, harguments, htext, hprofile⟩ := RawExchange.profile_of_execute hexchange
  cases harguments
  -- What the executor reads as a text is a text of the request, and so of the plan.
  have hget : request.arguments.get "framing_profile".toList = .text name := by
    unfold RawExchange.textArgument rawArguments at htext
    cases hvalue : request.arguments.get "framing_profile".toList with
    | text s =>
      rw [hvalue] at htext
      dsimp only at htext
      split at htext
      · cases htext
      · exact congrArg _ (Option.some.inj htext)
    | _ =>
      rw [hvalue] at htext
      cases htext
  have hlisted : name ∈ framingProfileNames := by
    obtain ⟨entry, hentry, hfound⟩ := Option.map_eq_some_iff.mp (Dict.lookup_of_get hget)
    obtain ⟨hin, hkey⟩ := KeyedList.get_eq_some hentry
    simp only [validateArguments, Bool.and_eq_true, List.all_eq_true] at hvalid
    have haccepts := hvalid.2 entry hin
    obtain ⟨-, rfl⟩ := Prod.mk.inj (List.mem_singleton.mp hschema)
    rw [hkey, hfound] at haccepts
    change (accepts (oneOf framingProfileNames) (.text name)) = true at haccepts
    simpa [accepts, oneOf] using haccepts
  unfold requestConsumptionAmount at h
  rw [if_pos hname, ← hsame, hget] at h
  rw [profile_of_name hlisted hprofile, ← Option.some.inj h]
  split <;> rfl

/-- The world in which every request is answered, and all writes go out. -/
def answering (lets : ClientRequest → Bool) (writes : Nat) : World where
  lets := lets
  network _ := .answered true
  writes := writes
  page := []
  pageAnswer := ⟨.succeeded, none⟩

/-- A probe is covered by a charge of one exactly where it has no second request. -/
theorem runProbe_le_iff {prepared : Except Answer Probe} :
    (∀ world : World, world.lets = lets → (runProbe L world prepared).1 ≤ 1) ↔
      ∀ probe first second rest, prepared = .ok probe → probe.planned = first :: second :: rest →
        Sendable L lets probe.envelope probe.origin first →
          ¬ Sendable L lets probe.envelope probe.origin second := by
  cases prepared with
  | error answer => exact ⟨fun _ _ _ _ _ h => (nomatch h), fun _ _ _ => Nat.zero_le _⟩
  | ok probe =>
    constructor
    · intro h found first second rest hfound hplanned hfirst hsecond
      cases hfound
      have hle := h (answering lets 0) rfl
      simp only [runProbe, hplanned] at hle
      have hanswered : ∀ n, (answering lets 0).network n = .answered true := fun _ => rfl
      have htwo := two_le_probe (L := L) hfirst hsecond hanswered rest
      omega
    · rintro h world rfl
      exact probe_le_one fun first second rest hplanned =>
        h probe first second rest rfl hplanned

/-- Only the two probes have a second request. -/
theorem secondRequest_iff {implementation : Implementation}
    (hdispatch : WorkerExecutors.dispatch fingerprints request = .ok implementation) :
    ¬ SecondRequest L fingerprints lets request ↔
      ∀ probe first second rest, preparedProbe L implementation request = .ok probe →
        probe.planned = first :: second :: rest →
          Sendable L lets probe.envelope probe.origin first →
            ¬ Sendable L lets probe.envelope probe.origin second := by
  constructor
  · exact fun h probe first second rest hprobe hplanned hfirst hsecond =>
      h ⟨implementation, probe, first, second, rest, hdispatch, hprobe, hplanned, hfirst, hsecond⟩
  · rintro h ⟨other, probe, first, second, rest, hother, hprobe, hplanned, hfirst, hsecond⟩
    obtain rfl : implementation = other := Except.ok.inj (hdispatch.symm.trans hother)
    exact h probe first second rest hprobe hplanned hfirst hsecond

/-- Only a raw exchange is split. -/
theorem not_splitExchange {implementation : Implementation}
    (hdispatch : WorkerExecutors.dispatch fingerprints request = .ok implementation)
    (hraw : implementation ≠ .httpRawExchange) : ¬ SplitExchange L fingerprints request := by
  rintro ⟨exchange, hother, -⟩
  exact hraw (Except.ok.inj (hdispatch.symm.trans hother))

/-- An executor whose requests are always covered. -/
theorem covered_iff {implementation : Implementation}
    (hdispatch : WorkerExecutors.dispatch fingerprints request = .ok implementation)
    (hraw : implementation ≠ .httpRawExchange)
    (hprobe : preparedProbe L implementation request =
      .error (executionFailed "IMPLEMENTATION_NOT_AVAILABLE")) {P : Prop} (hP : P) :
    P ↔ ¬ (SecondRequest L fingerprints lets request ∨ SplitExchange L fingerprints request) := by
  refine ⟨fun _ => not_or.mpr ⟨(secondRequest_iff hdispatch).mpr ?_,
    not_splitExchange hdispatch hraw⟩, fun _ => hP⟩
  intro probe first second rest hother
  rw [hprobe] at hother
  cases hother

/-- **What the Worker sends for a request** is covered by the charge unless it
goes on to a second request or is split. -/
theorem execute_le_iff {issued : IssuedBudget} {consumptions : Ledger}
    (h : requestConsumptionAmount dispatch.plan issued consumptions = some amount)
    (hrequest : workerRequest L isAlnum dispatch (maxAttempted dispatch.plan amount) =
      .ok request) :
    (∀ world : World, world.lets = lets →
        ((execute L isAlnum upper fingerprints world request).1 : Int) ≤ amount) ↔
      ¬ (SecondRequest L fingerprints lets request ∨ SplitExchange L fingerprints request) := by
  have hpositive := one_le_amount h
  obtain ⟨hcapability, hlimit, -⟩ := workerRequest_eq_ok hrequest
  have hsingle : ∀ n : Nat, n ≤ 1 → (n : Int) ≤ amount := by omega
  unfold WorkerExecutors.execute
  cases hdispatch : WorkerExecutors.dispatch fingerprints request with
  | error answer =>
    refine ⟨fun _ => ?_, fun _ _ _ => hsingle 0 (Nat.zero_le _)⟩
    rintro (⟨_, _, _, _, _, hok, -⟩ | ⟨_, hok, -⟩)
    · rw [hok] at hdispatch
      cases hdispatch
    · rw [hok] at hdispatch
      cases hdispatch
  | ok implementation =>
    cases implementation with
    | browserPage =>
      refine covered_iff hdispatch nofun rfl fun world _ => ?_
      rw [maxAttempted_of_dispatch hcapability hdispatch] at hlimit
      have hle : (browserPage L world request).1 ≤ amount.toNat := browserPage_le hlimit
      dsimp only
      omega
    | diagnosticEcho =>
      exact covered_iff hdispatch nofun rfl fun _ _ => hsingle 0 (Nat.zero_le _)
    | httpAuthentication =>
      exact covered_iff hdispatch nofun rfl fun world _ => hsingle _ (sendOne_le world _)
    | httpTransaction =>
      exact covered_iff hdispatch nofun rfl fun world _ => hsingle _ (sendOne_le world _)
    | httpAuthorizationDifferential | httpStateTransition =>
      obtain rfl := amount_of_dispatch h hcapability hdispatch nofun nofun
      rw [not_or, secondRequest_iff hdispatch,
        and_iff_left (not_splitExchange hdispatch nofun)]
      dsimp only [preparedProbe]
      rw [← runProbe_le_iff]
      exact forall_congr' fun world => forall_congr' fun _ => by omega
    | httpRawExchange =>
      rw [not_or, secondRequest_iff hdispatch,
        and_iff_right (fun _ _ _ _ hprobe => by cases hprobe)]
      dsimp only [rawExchange]
      cases hexchange : RawExchange.execute L
        ⟨some (rawArguments request.arguments), request.networkEnvelope⟩ with
      | error refusal =>
        refine ⟨fun _ => ?_, fun _ _ _ => hsingle 0 (Nat.zero_le _)⟩
        rintro ⟨exchange, -, hok, -⟩
        rw [hok] at hexchange
        cases hexchange
      | ok exchange =>
        obtain rfl := amount_of_exchange h hrequest hdispatch hexchange
        have hsplit : ¬ SplitExchange L fingerprints request ↔ ¬ Splits L exchange := by
          refine not_congr ⟨?_, fun hsplits => ⟨exchange, hdispatch, hexchange, hsplits⟩⟩
          rintro ⟨other, -, hother, hsplits⟩
          obtain rfl : exchange = other := Except.ok.inj (hexchange.symm.trans hother)
          exact hsplits
        rw [hsplit, ← requestsOf_le_iff hexchange]
        constructor
        · intro hall k
          have hle := hall (answering lets k) rfl
          dsimp only [answering] at hle
          omega
        · intro hall world _
          have hle := hall world.writes
          dsimp only
          omega

/-- **What one dispatch sends** is covered by its charge unless it overruns. -/
theorem sent_le_iff {issued : IssuedBudget} {consumptions : Ledger}
    (h : requestConsumptionAmount dispatch.plan issued consumptions = some amount) :
    (∀ world : World, world.lets = lets →
        (sent L isAlnum upper fingerprints world dispatch amount : Int) ≤ amount) ↔
      ¬ Overruns L isAlnum fingerprints lets dispatch := by
  have hpositive := one_le_amount h
  have hbuild : workerRequest L isAlnum dispatch (maxAttempted dispatch.plan amount) = _ :=
    workerRequest_maxAttempted dispatch (maxAttempted dispatch.plan amount)
  unfold sent Overruns
  cases hbase : workerRequest L isAlnum dispatch none with
  | error message =>
    rw [hbase] at hbuild
    rw [hbuild]
    refine ⟨fun _ => ?_, fun _ _ _ => ?_⟩
    · rintro ⟨request, hok, -⟩
      cases hok
    · dsimp only [Except.map]
      omega
  | ok base =>
    rw [hbase] at hbuild
    rw [hbuild]
    refine (execute_le_iff h hbuild).trans (not_congr ⟨fun hover => ⟨base, rfl, hover⟩, ?_⟩)
    rintro ⟨request, hok, hover⟩
    obtain rfl := Except.ok.inj hok
    exact hover

end Attempt

end Zest.RequestCharge
