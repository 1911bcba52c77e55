import Zest.AuthorizationDifferential
import Zest.StateTransition

/-! # What the probes say of their contact with the target

The diagnostics of a probe that does not go through say whether the target has
been contacted.  A refusal of the envelope says that it has not, but the
envelope is asked about each request of the plan only when its turn comes; so
where it lets the first request out and refuses a later one, the probe says so
after it has asked the target.

Here each answer of the two executors has its `contacted`, and
`all_or_nothing_iff` says for which plans it is true.
-/
namespace Zest.ProbeContact

open WorkerExecutors

/-- How a probe ends: what it has sent by then, its answer, and the `contacted`
of its diagnostics, where they have one. -/
structure Outcome where
  sent : Nat
  answer : Answer
  contacted : Option Bool
  deriving DecidableEq, Repr

section Executors

variable (L : UrlCodecs)

/-- The `contacted` of a refusal before the plan: that of a request without an
envelope and that of an origin have one, those of the other arguments do not. -/
def preparedContacted (answer : Answer) : Option Bool :=
  if answer.status = .blocked ∨ answer = executionFailed "network_envelope is required" then
    some false
  else none

/-- What stops a planned request before it is given to `http.client`, and what
the diagnostics say then: the refusals of the envelope and of the origin deny
the contact, and what is caught by the last branch asserts it. -/
def halted (envelope : BrowserNetworkEnvelope) (origin : Text) (planned : ClientRequest) :
    Option (Answer × Bool) :=
  match envelopeAllows L envelope planned.url with
  | some reason => some (executionFailed
      ("request is outside authorized network envelope: " ++ RawExchange.refusalText reason), false)
  | none =>
    match originOf L planned.url with
    | none => some (executionFailed "ValueError", true)
    | some found =>
      if found ≠ origin then
        some (blocked "request origin does not match authorized_origin", false)
      else if (urlsplit L planned.url).any (·.scheme ≠ "http".toList) then
        some (blocked "non-loopback HTTP is blocked", false)
      else if planned.body.any (maxPostBytes < ·.length) then
        some (executionFailed "response exceeded byte bound", true)
      else none

/-- The `contacted` of the end of a request that was given to `http.client`; a
redirect has other diagnostics. -/
def sentContacted (answer : Answer) : Option Bool :=
  if answer.status = .reauthorizationRequired then none else some true

/-- The loop over the planned requests, after `sent` others. -/
def run (world : World) (envelope : BrowserNetworkEnvelope) (origin : Text) :
    Nat → List ClientRequest → Outcome
  | sent, [] => ⟨sent, ⟨.succeeded, none⟩, none⟩
  | sent, planned :: rest =>
    match halted L envelope origin planned with
    | some (answer, contacted) => ⟨sent, answer, some contacted⟩
    | none =>
      match send world sent planned with
      | (sent, some answer) => ⟨sent, answer, sentContacted answer⟩
      | (sent, none) => run world envelope origin sent rest

/-- A probe, from its checks on. -/
def executeProbe (world : World) : Except Answer Probe → Outcome
  | .error answer => ⟨0, answer, preparedContacted answer⟩
  | .ok prepared => run L world prepared.envelope prepared.origin 0 prepared.planned

/-- `execute_http_authorization`. -/
def executeHttpAuthorization (world : World) (request : Request) : Outcome :=
  executeProbe L world (prepareAuthorization L request)

/-- `execute_http_state_transition`. -/
def executeHttpStateTransition (world : World) (request : Request) : Outcome :=
  executeProbe L world (prepareTransition L request)

/-! ## What is asked of a probe -/

/-- The envelope refuses a request of the plan. -/
def Refused (probe : Probe) : Prop :=
  ∃ planned ∈ probe.planned, (envelopeAllows L probe.envelope planned.url).isSome

/-- All of the plan or nothing of it, and a contact is not denied. -/
structure AllOrNothing (prepared : Except Answer Probe) (outcome : Outcome) : Prop where
  refused : ∀ probe, prepared = .ok probe → Refused L probe → outcome.sent = 0
  notContacted : outcome.contacted = some false → outcome.sent = 0

/-- The first request of a plan goes out: nothing stops it, `http.client` lets it
out, and no exception comes before it is on the wire. -/
structure FirstGoesOut (world : World) (probe : Probe) : Prop where
  sendable : ∃ first rest, probe.planned = first :: rest ∧
    Sendable L world.lets probe.envelope probe.origin first
  onWire : ∀ timedOut, world.network 0 ≠ .failed false timedOut

end Executors

section Probes

variable {L : UrlCodecs} {world : World} {envelope : BrowserNetworkEnvelope} {origin : Text}

/-! ## The same probe -/

theorem halted_answer (planned : ClientRequest) :
    (halted L envelope origin planned).map (·.1) = stopped L envelope origin planned := by
  unfold halted stopped
  cases envelopeAllows L envelope planned.url with
  | some reason => rfl
  | none =>
    cases originOf L planned.url with
    | none => rfl
    | some found =>
      dsimp only
      by_cases hfound : found ≠ origin
      · rw [if_pos hfound, if_pos hfound]
        rfl
      rw [if_neg hfound, if_neg hfound]
      split
      · rfl
      split
      · rfl
      · rfl

theorem halted_eq_none_iff {planned : ClientRequest} :
    halted L envelope origin planned = none ↔ stopped L envelope origin planned = none := by
  rw [← halted_answer, Option.map_eq_none_iff]

/-- The diagnostics add nothing to what the probe does. -/
theorem run_eq_probe (planned : List ClientRequest) (sent : Nat) :
    ((run L world envelope origin sent planned).sent,
      (run L world envelope origin sent planned).answer) =
        probe L world envelope origin sent planned := by
  induction planned generalizing sent with
  | nil => rfl
  | cons request rest ih =>
    have hanswer := @halted_answer L envelope origin request
    unfold run probe
    cases hhalted : halted L envelope origin request with
    | some entry =>
      rw [hhalted] at hanswer
      rw [← hanswer]
      rfl
    | none =>
      rw [hhalted] at hanswer
      rw [← hanswer]
      dsimp only [Option.map_none]
      cases hsend : send world sent request with
      | mk after answer =>
        cases answer with
        | some answer => rfl
        | none => exact ih after

/-- **The executor of `WorkerExecutors`** is this one without its diagnostics. -/
theorem executeProbe_eq_runProbe (prepared : Except Answer Probe) :
    ((executeProbe L world prepared).sent, (executeProbe L world prepared).answer) =
      runProbe L world prepared := by
  cases prepared with
  | error answer => rfl
  | ok prepared => exact run_eq_probe prepared.planned 0

/-! ## A plan is for one origin -/

/-- The scheme and the network location of a URL, with the checks of it. -/
def authority (L : UrlCodecs) (url : Text) : Option (Text × Text) :=
  (urlsplit L url).map fun parsed => (parsed.scheme, parsed.netloc)

theorem originOf_congr {url other : Text} (h : authority L url = authority L other) :
    originOf L url = originOf L other := by
  unfold authority at h
  cases hurl : urlsplit L url with
  | none =>
    rw [hurl] at h
    have hother : urlsplit L other = none := Option.map_eq_none_iff.mp h.symm
    rw [originOf, originOf, hurl, hother]
  | some parsed =>
    rw [hurl] at h
    obtain ⟨found, hother, hsame⟩ := Option.map_eq_some_iff.mp h.symm
    obtain ⟨scheme, netloc, path⟩ := parsed
    obtain ⟨scheme', netloc', path'⟩ := found
    obtain ⟨rfl, rfl⟩ := Prod.mk.inj hsame
    rw [originOf, originOf, hurl, hother]
    rfl

/-- The network location ends at the slash after the origin. -/
theorem authority_append (host tail : Text) :
    authority L ("http://".toList ++ host ++ '/' :: tail) =
      let netloc := (splitNetloc (host.filter fun c => !isUnsafeUrlByte c)).1
      if bracketsOk L netloc && checkNetloc L netloc then some ("http".toList, netloc)
      else none := by
  have hclean : (("http://".toList ++ host ++ '/' :: tail).dropWhile isC0ControlOrSpace).filter
      (fun c => !isUnsafeUrlByte c) = "http".toList ++ ':' :: ("//".toList ++
        ((host.filter fun c => !isUnsafeUrlByte c) ++ '/' ::
          tail.filter fun c => !isUnsafeUrlByte c)) := by
    have hdrop : ("http://".toList ++ host ++ '/' :: tail).dropWhile isC0ControlOrSpace =
        "http://".toList ++ (host ++ '/' :: tail) := by
      rw [List.append_assoc]
      rfl
    have hhead : ("http://".toList).filter (fun c => !isUnsafeUrlByte c) = "http://".toList := by
      decide
    rw [hdrop, List.filter_append, hhead, List.filter_append]
    rfl
  have hscheme : ∀ rest : Text, splitScheme ("http".toList ++ ':' :: rest) =
      ("http".toList, rest) := by
    intro rest
    have hcolon : ':' ∉ "http".toList := by decide
    unfold splitScheme
    rw [Text.partition_of_mem hcolon]
    rfl
  have hnetloc : ∀ (s rest : Text), (splitNetloc (s ++ '/' :: rest)).1 = (splitNetloc s).1 := by
    intro s rest
    unfold splitNetloc
    rw [List.span_eq_takeWhile_dropWhile, List.span_eq_takeWhile_dropWhile]
    induction s with
    | nil => rfl
    | cons c s ih =>
      dsimp only at ih ⊢
      rw [List.cons_append, List.takeWhile_cons, List.takeWhile_cons, ih]
  have hslashes : ∀ rest : Text, Text.startsWith ("//".toList ++ rest) "//".toList = true :=
    fun rest => List.isPrefixOf_iff_prefix.mpr (List.prefix_append _ _)
  unfold authority urlsplit
  dsimp only
  rw [hclean, hscheme]
  dsimp only
  rw [if_pos (hslashes _)]
  have hdrop : ∀ rest : Text, ("//".toList ++ rest).drop 2 = rest := fun _ => rfl
  rw [hdrop, hnetloc]
  by_cases hbrackets : bracketsOk L
      (splitNetloc (host.filter fun c => !isUnsafeUrlByte c)).1 = true
  · by_cases hchecked : checkNetloc L
        (splitNetloc (host.filter fun c => !isUnsafeUrlByte c)).1 = true
    · simp [hbrackets, hchecked]
    · simp [hbrackets, hchecked]
  · simp [hbrackets]

/-- A request for the origin of its probe, over plain HTTP. -/
structure OnOrigin (L : UrlCodecs) (origin : Text) (planned : ClientRequest) : Prop where
  origin : originOf L planned.url = some origin
  plain : (urlsplit L planned.url).any (·.scheme ≠ "http".toList) = false

theorem onOrigin_of_sendable {lets : ClientRequest → Bool} {planned : ClientRequest}
    (h : Sendable L lets envelope origin planned) : OnOrigin L origin planned := by
  have horigin := ProbeReplies.originOf_of_not_stopped h.goesOn
  refine ⟨horigin, ?_⟩
  have hgoesOn := h.goesOn
  unfold stopped at hgoesOn
  split at hgoesOn
  · cases hgoesOn
  rw [horigin] at hgoesOn
  dsimp only at hgoesOn
  rw [if_neg (not_not.mpr rfl)] at hgoesOn
  by_cases hplain : (urlsplit L planned.url).any (·.scheme ≠ "http".toList) = true
  · rw [if_pos hplain] at hgoesOn
    cases hgoesOn
  · simpa using hplain

/-- An origin that a request is found to be for is spelled out. -/
theorem OnOrigin.spelled {planned : ClientRequest} (h : OnOrigin L origin planned) :
    ∃ host, origin = "http://".toList ++ host := by
  obtain ⟨horigin, hplain⟩ := h
  unfold originOf at horigin
  cases hparsed : urlsplit L planned.url with
  | none =>
    rw [hparsed] at horigin
    cases horigin
  | some parsed =>
    rw [hparsed] at horigin hplain
    have hscheme : parsed.scheme = "http".toList := by simpa using hplain
    dsimp only at horigin
    split at horigin
    · cases horigin
    rw [hscheme, if_neg (by decide)] at horigin
    split at horigin
    · exact ⟨_, (Option.some.inj horigin).symm⟩
    next n _ =>
      refine ⟨(parsed.hostname L).getD [] ++ [':'] ++ portText n, ?_⟩
      rw [← Option.some.inj horigin]
      simp only [List.append_assoc]
      rfl

/-- What is planned below an origin is for it, as soon as one request is. -/
theorem OnOrigin.of_below {planned other : ClientRequest} (h : OnOrigin L origin planned)
    (hplanned : ∃ tail, planned.url = origin ++ '/' :: tail)
    (hother : ∃ tail, other.url = origin ++ '/' :: tail) : OnOrigin L origin other := by
  obtain ⟨host, rfl⟩ := h.spelled
  obtain ⟨tail, hurl⟩ := hplanned
  obtain ⟨tail', hurl'⟩ := hother
  have hsame : authority L planned.url = authority L other.url := by
    rw [hurl, hurl', authority_append, authority_append]
  refine ⟨(originOf_congr hsame) ▸ h.origin, ?_⟩
  have hany : ∀ url, (urlsplit L url).any (·.scheme ≠ "http".toList) =
      (authority L url).any (·.1 ≠ "http".toList) := by
    intro url
    rw [authority, Option.any_map]
  rw [hany, ← hsame, ← hany]
  exact h.plain

/-! ## When a contact is denied -/

/-- Of the requests for the origin, only the envelope's refusals deny a contact. -/
theorem refused_of_halted {planned : ClientRequest} {answer : Answer}
    (horigin : OnOrigin L origin planned)
    (h : halted L envelope origin planned = some (answer, false)) :
    (envelopeAllows L envelope planned.url).isSome := by
  unfold halted at h
  cases hallowed : envelopeAllows L envelope planned.url with
  | some reason => rfl
  | none =>
    rw [hallowed, horigin.origin] at h
    dsimp only at h
    rw [if_neg (not_not.mpr rfl), horigin.plain, if_neg Bool.false_ne_true] at h
    split at h
    · cases h
    · cases h

theorem sentContacted_ne (answer : Answer) : sentContacted answer ≠ some false := by
  unfold sentContacted
  split <;> simp

/-- **The rest of a plan**: a contact is denied there for a refusal only. -/
theorem refused_of_run {planned : List ClientRequest} {sent : Nat}
    (horigin : ∀ request ∈ planned, OnOrigin L origin request)
    (h : (run L world envelope origin sent planned).contacted = some false) :
    ∃ request ∈ planned, (envelopeAllows L envelope request.url).isSome := by
  induction planned generalizing sent with
  | nil => cases h
  | cons request rest ih =>
    obtain ⟨hrequest, hrest⟩ := List.forall_mem_cons.mp horigin
    rw [run] at h
    cases hhalted : halted L envelope origin request with
    | some entry =>
      obtain ⟨answer, contacted⟩ := entry
      rw [hhalted] at h
      obtain rfl : contacted = false := Option.some.inj h
      exact ⟨request, List.mem_cons_self, refused_of_halted hrequest hhalted⟩
    | none =>
      rw [hhalted] at h
      dsimp only at h
      cases hsend : send world sent request with
      | mk after answer =>
        rw [hsend] at h
        cases answer with
        | some answer => exact absurd h (sentContacted_ne answer)
        | none =>
          obtain ⟨refused, hmem, hrefused⟩ := ih hrest h
          exact ⟨refused, List.mem_cons_of_mem _ hmem, hrefused⟩

/-- Nothing is sent exactly where the first request does not go out. -/
theorem sent_eq_zero_iff {probe : Probe} :
    (executeProbe L world (.ok probe)).sent = 0 ↔ ¬ FirstGoesOut L world probe := by
  have hsame : (executeProbe L world (.ok probe)).sent =
      (WorkerExecutors.probe L world probe.envelope probe.origin 0 probe.planned).1 :=
    congrArg Prod.fst (run_eq_probe probe.planned 0)
  rw [hsame]
  constructor
  · rintro hzero ⟨⟨first, rest, hplanned, hfirst⟩, hwire⟩
    rw [hplanned, WorkerExecutors.probe, hfirst.goesOn] at hzero
    dsimp only at hzero
    have hsend : (send world 0 first).1 = 1 := by
      rw [send, hfirst.lets]
      cases hreply : world.network 0 with
      | redirect => rfl
      | answered withinBound => cases withinBound <;> rfl
      | failed sent timedOut =>
        cases sent with
        | true => rfl
        | false => exact absurd hreply (hwire timedOut)
    cases hsent : send world 0 first with
    | mk after answer =>
      rw [hsent] at hzero hsend
      obtain rfl : after = 1 := hsend
      cases answer with
      | some answer => cases hzero
      | none =>
        have hle := @le_probe L world probe.envelope probe.origin rest 1
        dsimp only at hzero
        omega
  · intro hstays
    cases hplanned : probe.planned with
    | nil => rfl
    | cons first rest =>
      by_cases hfirst : Sendable L world.lets probe.envelope probe.origin first
      · have hfails : ∃ timedOut, world.network 0 = .failed false timedOut := by
          by_contra hwire
          exact hstays ⟨⟨first, rest, hplanned, hfirst⟩, not_exists.mp hwire⟩
        obtain ⟨timedOut, hreply⟩ := hfails
        rw [WorkerExecutors.probe, hfirst.goesOn]
        simp [send, hfirst.lets, hreply]
      · exact probe_of_not_sendable hfirst rest 0

/-- **A plan below its origin** is sent as a whole or not at all, and no contact
is denied that was made, unless a request is refused after the first has gone out. -/
theorem allOrNothing_iff {prepared : Except Answer Probe}
    (hbelow : ∀ probe, prepared = .ok probe → ∀ planned ∈ probe.planned,
      ∃ tail, planned.url = probe.origin ++ '/' :: tail) :
    AllOrNothing L prepared (executeProbe L world prepared) ↔
      ∀ probe, prepared = .ok probe → Refused L probe → ¬ FirstGoesOut L world probe := by
  constructor
  · rintro ⟨hrefused, -⟩ probe rfl h
    exact sent_eq_zero_iff.mp (hrefused probe rfl h)
  · intro h
    refine ⟨?_, ?_⟩
    · rintro probe rfl hrefused
      exact sent_eq_zero_iff.mpr (h probe rfl hrefused)
    · cases prepared with
      | error answer => exact fun _ => rfl
      | ok probe =>
        intro hdenied
        refine sent_eq_zero_iff.mpr fun hfirst => ?_
        obtain ⟨first, rest, hplanned, hsendable⟩ := hfirst.sendable
        have hon := onOrigin_of_sendable hsendable
        have hall : ∀ request ∈ probe.planned, OnOrigin L probe.origin request := by
          intro request hrequest
          refine hon.of_below (hbelow probe rfl first ?_) (hbelow probe rfl request hrequest)
          rw [hplanned]
          exact List.mem_cons_self
        exact h probe rfl (refused_of_run hall hdenied) hfirst

end Probes

/-! ## The two executors -/

theorem authorizationPlanned_below {origin actor ownObject crossObject mode : Text} :
    ∀ planned ∈ authorizationPlanned origin actor ownObject crossObject mode,
      ∃ tail, planned.url = origin ++ '/' :: tail := by
  unfold authorizationPlanned
  split
  · intro planned hplanned
    rw [List.mem_singleton.mp hplanned]
    exact ⟨"redirect".toList, rfl⟩
  · have hbelow : ∀ pre object : Text, (∃ tail, pre = '/' :: tail) →
        ∃ tail, origin ++ pre ++ "/accounts/".toList ++ object = origin ++ '/' :: tail := by
      rintro _ object ⟨pre, rfl⟩
      exact ⟨pre ++ ("/accounts/".toList ++ object), by simp only [List.append_assoc]; rfl⟩
    have hpre : ∃ tail, (if mode = "vulnerable".toList then "/vulnerable".toList
        else "/secure".toList) = '/' :: tail := by
      split
      · exact ⟨"vulnerable".toList, rfl⟩
      · exact ⟨"secure".toList, rfl⟩
    intro planned hplanned
    simp only [List.mem_cons, List.not_mem_nil, or_false] at hplanned
    rcases hplanned with rfl | rfl | rfl | rfl
    · exact hbelow _ _ hpre
    · exact hbelow _ _ hpre
    · exact hbelow _ _ ⟨"secure".toList, rfl⟩
    · exact hbelow _ _ hpre

theorem transitionPlanned_below {origin actor resourceId transition area : Text} :
    ∀ planned ∈ transitionPlanned origin actor resourceId transition area,
      ∃ tail, planned.url = origin ++ '/' :: tail := by
  unfold transitionPlanned
  split
  · intro planned hplanned
    rw [List.mem_singleton.mp hplanned]
    exact ⟨"redirect".toList, rfl⟩
  · intro planned hplanned
    simp only [List.mem_cons, List.not_mem_nil, or_false] at hplanned
    rcases hplanned with rfl | rfl | rfl | rfl
    · exact ⟨area ++ "/requests/".toList ++ resourceId, by simp [probeRequest]⟩
    · exact ⟨"control/requests/".toList ++ resourceId ++ ['/'] ++ transition, by
        simp [probeRequest]⟩
    · exact ⟨area ++ "/requests/".toList ++ resourceId ++ ['/'] ++ transition, by
        simp [probeRequest]⟩
    · exact ⟨area ++ "/requests/".toList ++ resourceId, by simp [probeRequest]⟩

/-- **All or nothing**: each of the two probes sends nothing of a plan that the
envelope refuses a request of, and denies no contact that it has made, exactly
where the first request of such a plan does not go out. -/
theorem all_or_nothing_iff (L : UrlCodecs) (world : World) (request : Request) :
    (AllOrNothing L (prepareAuthorization L request) (executeHttpAuthorization L world request) ↔
        ∀ probe, prepareAuthorization L request = .ok probe → Refused L probe →
          ¬ FirstGoesOut L world probe) ∧
      (AllOrNothing L (prepareTransition L request)
          (executeHttpStateTransition L world request) ↔
        ∀ probe, prepareTransition L request = .ok probe → Refused L probe →
          ¬ FirstGoesOut L world probe) := by
  refine ⟨allOrNothing_iff fun probe hprobe => ?_, allOrNothing_iff fun probe hprobe => ?_⟩
  · rw [(AuthorizationDifferential.prepared_of_ok hprobe).planned]
    exact authorizationPlanned_below
  · rw [(StateTransition.prepared_of_ok hprobe).planned]
    exact transitionPlanned_below

/-- An envelope of the laboratory, without what starts with `pre`. -/
def envelopeWithout (pre : Text) : EnvelopeMapping :=
  { HttpTransaction.rootEnvelope with deniedPathPrefixes := [pre] }

/-- The target answers whatever it is asked. -/
def answeringWorld : World where
  lets _ := true
  network _ := .answered true
  writes := 0
  page := []
  pageAnswer := ⟨.succeeded, none⟩

/-- **Two requests, and no contact**: the control of the differential probe is
outside the envelope, and so is the control of the state transition. -/
theorem contact_denied_after_requests :
    (∃ request, ¬ AllOrNothing asciiCodecs (prepareAuthorization asciiCodecs request)
        (executeHttpAuthorization asciiCodecs answeringWorld request) ∧
      executeHttpAuthorization asciiCodecs answeringWorld request =
        ⟨2, executionFailed
          "request is outside authorized network envelope: OUTSIDE_ENVELOPE", some false⟩) ∧
      ∃ request, ¬ AllOrNothing asciiCodecs (prepareTransition asciiCodecs request)
          (executeHttpStateTransition asciiCodecs answeringWorld request) ∧
        executeHttpStateTransition asciiCodecs answeringWorld request =
          ⟨1, executionFailed
            "request is outside authorized network envelope: OUTSIDE_ENVELOPE", some false⟩ := by
  refine ⟨⟨{ AuthorizationDifferential.labRequest with
      networkEnvelope := some (envelopeWithout "/secure/".toList) }, ?_, by rfl⟩,
    ⟨{ StateTransition.labRequest with
      networkEnvelope := some (envelopeWithout "/control/".toList) }, ?_, by rfl⟩⟩
  · intro h
    exact absurd (h.notContacted rfl) (by decide)
  · intro h
    exact absurd (h.notContacted rfl) (by decide)

end Zest.ProbeContact
