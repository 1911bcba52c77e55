import Zest.HttpTransactionAgreement
import Zest.ProbeAssessment

/-! # The verdict of the state transition

The transition probe reads the state of a resource, attempts a transition where
it is controlled and then where it is not, and reads the state again.  The
prediction holds if a requester got an approval that only others may give.  What
the workflow says about who may approve goes through all three layers; its
`approve_requires_role` and its `approve_from_states` end as facts that no
verdict reads.
-/
namespace Zest.StateTransition

open ProbeAssessment ProbeReplies WorkerExecutors
open Verification (AssessmentOutcome)

/-! ## `HttpStateTransitionNormalizer` -/

def observationKind : Text := "HTTP_STATE_TRANSITION_AUTHORIZATION".toList

/-- A key of `_REQUEST_KEYS`. -/
def itemOf (raw : Dict) (key : Text) : Except String Dict :=
  match raw.get key with
  | .object item =>
    if isInt (Dict.get item "status".toList) then .ok item
    else .error ("SUCCEEDED http.state_transition raw_result." ++ String.ofList key ++
      ".status must be an int")
  | _ => .error ("SUCCEEDED http.state_transition raw_result." ++ String.ofList key ++
      " must be an object")

/-- `list(value or [])`. -/
def listCopy : JsonValue → Except String (List JsonValue)
  | .array items => .ok items
  | .text s => .ok (s.map fun c => .text [c])
  | .object entries => .ok (entries.map fun entry => .text entry.1)
  | value => if value.truthy then .error "TypeError" else .ok []

/-- `bool(pre_state and post_state and pre_state != post_state)`. -/
def stateChanged (preState postState : JsonValue) : Bool :=
  match preState, postState with
  | .text before, .text after => before != [] && after != [] && before != after
  | _, _ => false

/-- The payload of `normalize`. -/
def payloadOf (arguments raw pre transition post control : Dict)
    (delegatedReviewers approveFromStates : List JsonValue) : Dict :=
  let preState := optionalText (pre.get "state".toList)
  let postState := optionalText (post.get "state".toList)
  [("authorized_origin".toList, orElse (raw.get "authorized_origin".toList)
      (arguments.get "authorized_origin".toList)),
    ("area".toList, orElse (raw.get "area".toList) (arguments.get "area".toList)),
    ("actor".toList, optionalText (arguments.get "actor".toList)),
    ("actor_role".toList, optionalText
      (orElse (pre.get "actor_role".toList) (post.get "actor_role".toList))),
    ("resource_id".toList, orElse (raw.get "resource_id".toList)
      (arguments.get "resource_id".toList)),
    ("requested_transition".toList, orElse (raw.get "requested_transition".toList)
      (arguments.get "transition".toList)),
    ("pre_state".toList, preState),
    ("response_status".toList, transition.get "status".toList),
    ("post_state".toList, postState),
    ("state_changed".toList, .bool (stateChanged preState postState)),
    ("approved_by".toList, optionalText (post.get "approved_by".toList)),
    ("owner".toList, optionalText (orElse (pre.get "owner".toList) (post.get "owner".toList))),
    ("delegated_reviewers".toList, .array delegatedReviewers),
    ("approve_requires_role".toList, optionalText (pre.get "approve_requires_role".toList)),
    ("approve_from_states".toList, .array approveFromStates),
    ("control_status".toList, control.get "status".toList),
    ("pre_status".toList, pre.get "status".toList),
    ("post_status".toList, post.get "status".toList),
    ("transition_ok".toList, .bool (isTrue (transition.get "ok".toList)))]

/-- `normalize`; a status other than `SUCCEEDED` says nothing of the target. -/
def normalize (arguments : Dict) (result : WorkerResult) :
    Except String (List ObservationDraft) :=
  match result.status, result.rawResult with
  | .succeeded, .object raw => do
    let pre ← itemOf raw "pre_state_request".toList
    let transition ← itemOf raw "transition_request".toList
    let post ← itemOf raw "post_state_request".toList
    let control ← itemOf raw "control_request".toList
    let delegatedReviewers ← listCopy (pre.get "delegated_reviewers".toList)
    let approveFromStates ← listCopy (pre.get "approve_from_states".toList)
    let observedAt ← result.observedAt
    return [⟨observationKind, payloadOf arguments raw pre transition post control
      delegatedReviewers approveFromStates, observedAt⟩]
  | .succeeded, _ => .error "SUCCEEDED http.state_transition requires raw_result"
  | _, _ => .ok []

/-! ## `HttpStateTransitionEvaluator` -/

/-- `InvariantKind`, as far as the facts name it. -/
inductive InvariantKind where
  | sequencePrecondition
  | roleBoundary
  | stateTransition
  deriving DecidableEq, Repr

/-- The facts of `_facts`, without `fact_`, and the policy of the workflow. -/
structure Facts where
  actorIdentity : Bool
  resourceIdentity : Bool
  preState : Bool
  requestedTransition : Bool
  postState : Bool
  transitionOccurred : Bool
  becameApproved : Bool
  actorIsRequester : Bool
  notDelegated : Bool
  delegated : Bool
  legitimateReviewer : Bool
  controlDenied : Bool
  controlHeldUnchanged : Bool
  violatesRoleOrSequence : Bool
  statusOnlyOrUnchanged : Bool
  idempotentRepeat : Bool
  staleOrConflict : Bool
  sharedOrigin : Bool
  invariantKind : Option InvariantKind
  approveFromStates : List JsonValue
  approveRequiresRole : Text

/-- `isinstance(value, str)`. -/
def isStr : JsonValue → Bool
  | .text _ => true
  | _ => false

/-- `_facts`; `str` is that of a value that is no text. -/
def facts (str : JsonValue → Text) (payload arguments : Dict) : Facts :=
  let named (key argument : String) : Text :=
    strOr str (orElse (payload.get key.toList) (arguments.get argument.toList))
  let actor := named "actor" "actor"
  let resourceId := named "resource_id" "resource_id"
  let origin := named "authorized_origin" "authorized_origin"
  let transition := named "requested_transition" "transition"
  let actorRole := strOr str (payload.get "actor_role".toList)
  let preState := payload.get "pre_state".toList
  let postState := payload.get "post_state".toList
  let responseStatus := payload.get "response_status".toList
  let controlStatus := payload.get "control_status".toList
  let approvedBy := payload.get "approved_by".toList
  let readers := listOr (payload.get "delegated_reviewers".toList)
  let approveFrom := listOr (payload.get "approve_from_states".toList)
  let requiresRole := strOr str (payload.get "approve_requires_role".toList)
  let stateChanged := (payload.get "state_changed".toList).truthy
  let explicitlyDelegated := readers.any (isText actor)
  let requester := actorRole == "requester".toList
  let approved := isText "APPROVED".toList postState
  let becameApproved := approved && isText actor approvedBy
  let violation := transition == "approve".toList && requester && !explicitlyDelegated &&
    approved && stateChanged
  let roleBypass := violation && isText "UNDER_REVIEW".toList preState
  let sequenceSkip := violation && isText "DRAFT".toList preState
  let statusOnly := isNumber 200 responseStatus && !isStr postState
  let unchangedSuccess := isNumber 200 responseStatus && !stateChanged
  let idempotent := unchangedSuccess && isText "APPROVED".toList preState && approved
  let stale := isNumber 409 responseStatus && !stateChanged
  let controlDenied := isNumber 401 controlStatus || isNumber 403 controlStatus ||
    isNumber 409 controlStatus
  let controlHeld := controlDenied && !stateChanged
  { actorIdentity := actor != []
    resourceIdentity := resourceId != []
    preState := isStr preState && preState.truthy
    requestedTransition := transition == "approve".toList
    postState := isStr postState && postState.truthy
    transitionOccurred := stateChanged
    becameApproved := becameApproved
    actorIsRequester := requester
    notDelegated := !explicitlyDelegated
    delegated := explicitlyDelegated && becameApproved
    legitimateReviewer := stateChanged && approved &&
      (actorRole == "reviewer".toList || actorRole == "admin".toList)
    controlDenied := controlDenied
    controlHeldUnchanged := controlHeld
    violatesRoleOrSequence := roleBypass || sequenceSkip
    statusOnlyOrUnchanged :=
      (statusOnly || unchangedSuccess && !idempotent) && !stale && !controlHeld
    idempotentRepeat := idempotent
    staleOrConflict := stale
    sharedOrigin :=
      origin != [] && isText origin (payload.get "authorized_origin".toList)
    invariantKind :=
      if sequenceSkip then some .sequencePrecondition
      else if roleBypass then some .roleBoundary
      else if stateChanged then some .stateTransition
      else none
    approveFromStates := approveFrom
    approveRequiresRole := requiresRole }

/-- `all(facts[name] for name in UNAUTHORIZED_TRANSITION_FACTS)`. -/
def Facts.unauthorizedTransition (f : Facts) : Bool :=
  f.actorIdentity && f.resourceIdentity && f.preState && f.requestedTransition &&
    f.postState && f.transitionOccurred && f.becameApproved && f.actorIsRequester &&
    f.notDelegated && f.controlDenied && f.violatesRoleOrSequence

/-- `evaluate`, from the facts on. -/
def verdict (f : Facts) : HypothesisAssessment :=
  if f.statusOnlyOrUnchanged then
    ⟨.needsMoreContext, "STATUS_OR_UNCHANGED_STATE_IS_NOT_PROOF"⟩
  else if f.staleOrConflict then ⟨.needsMoreContext, "STALE_OR_CONFLICT"⟩
  else if f.delegated then ⟨.contradictsPrediction, "LEGITIMATE_DELEGATED_REVIEWER"⟩
  else if f.legitimateReviewer then ⟨.contradictsPrediction, "LEGITIMATE_REVIEWER_APPROVAL"⟩
  else if f.idempotentRepeat then ⟨.contradictsPrediction, "IDEMPOTENT_NO_NEW_TRANSITION"⟩
  else if f.unauthorizedTransition then
    ⟨.consistentWithPrediction, "UNAUTHORIZED_STATE_TRANSITION_ESTABLISHED"⟩
  else if f.controlHeldUnchanged then ⟨.contradictsPrediction, "WORKFLOW_CONTROL_HELD"⟩
  else ⟨.inconclusive, "STATE_TRANSITION_INCOMPLETE"⟩

/-- `HttpStateTransitionEvaluator`. -/
def evaluator (str : JsonValue → Text) : Evaluator where
  strategy := "http.state_transition.v1".toList
  capability := "http.state_transition".toList
  observationKind := observationKind
  otherCapability := "http.state_transition evaluator cannot assess other capabilities"
  verdict payload arguments := verdict (facts str payload arguments)

/-- **When the verdict is that the prediction holds**: no exit comes before, and
all of the facts hold. -/
theorem verdict_consistent_iff (f : Facts) :
    (verdict f).outcome = .consistentWithPrediction ↔
      f.unauthorizedTransition = true ∧ f.statusOnlyOrUnchanged = false ∧
      f.staleOrConflict = false ∧ f.delegated = false ∧ f.legitimateReviewer = false ∧
      f.idempotentRepeat = false := by
  unfold verdict
  grind

/-! ## From the replies to the payload -/

theorem lookup_workflowPayload (request : ClientRequest) (status : Int)
    (body : Option JsonValue) (key : Text) :
    (workflowPayload request status body).lookup key =
      ((observedWorkflowFields (ProbeReply.answered status body).body).lookup key).or
        (Dict.lookup [("status".toList, .integer status),
          ("method".toList, .text request.method)] key) :=
  get_observe rfl nodup_observedWorkflowFields _ status body key

/-- What the normalizer reads of a reply. -/
theorem get_workflowPayload (request : ClientRequest) (status : Int) (body : Option JsonValue) :
    Dict.get (workflowPayload request status body) "status".toList = .integer status ∧
      (∀ key ∈ workflowTexts, Dict.get (workflowPayload request status body) key =
        optionalText ((ProbeReply.answered status body).body.get key)) ∧
      Dict.get (workflowPayload request status body) "delegated_reviewers".toList =
        ((cleanTexts ((ProbeReply.answered status body).body.get
          "delegated_reviewers".toList)).map
            fun readers => .array (readers.map .text)).getD .null ∧
      Dict.get (workflowPayload request status body) "approve_from_states".toList =
        ((cleanTexts ((ProbeReply.answered status body).body.get
          "approve_from_states".toList)).map
            fun states => .array (states.map .text)).getD .null := by
  obtain ⟨hdelegated, hstates, hstatus⟩ :=
    lookup_observedWorkflowFields (ProbeReply.answered status body).body
  refine ⟨?_, fun key hkey => ?_, ?_, ?_⟩
  · rw [Dict.get, lookup_workflowPayload, hstatus]
    rfl
  · have hne : ∀ key ∈ workflowTexts, key ∉ ["status".toList, "method".toList] := by decide
    have hnone : Dict.lookup [("status".toList, JsonValue.integer status),
        ("method".toList, .text request.method)] key = none :=
      Dict.lookup_eq_none (hne key hkey)
    rw [Dict.get, lookup_workflowPayload, lookup_workflowText _ hkey, hnone, Option.or_none]
    rfl
  · rw [Dict.get, lookup_workflowPayload, hdelegated]
    cases cleanTexts ((ProbeReply.answered status body).body.get "delegated_reviewers".toList)
    · rfl
    · rfl
  · rw [Dict.get, lookup_workflowPayload, hstates]
    cases cleanTexts ((ProbeReply.answered status body).body.get "approve_from_states".toList)
    · rfl
    · rfl

theorem itemOf_eq {raw : Dict} {key : Text} {request : ClientRequest} {status : Int}
    {body : Option JsonValue} (h : raw.get key = .object (workflowPayload request status body)) :
    itemOf raw key = .ok (workflowPayload request status body) := by
  rw [itemOf, h]
  dsimp only
  rw [(get_workflowPayload request status body).1]
  rfl

theorem optionalText_optionalText (value : JsonValue) :
    optionalText (optionalText value) = optionalText value := by
  unfold optionalText
  cases h : cleanText value with
  | none => rfl
  | some s => rw [Option.map_some, Option.getD_some, cleanText_clean h]; rfl

/-- The role of the actor, from the first reply that has one. -/
def actorRole (pre post : Dict) : Option Text :=
  (cleanText (pre.get "actor_role".toList)).or (cleanText (post.get "actor_role".toList))

theorem optionalText_orElse (a b : JsonValue) :
    optionalText (orElse (optionalText a) (optionalText b)) =
      (((cleanText a).or (cleanText b)).map .text).getD .null := by
  cases ha : cleanText a with
  | none =>
    rw [show optionalText a = .null by rw [optionalText, ha]; rfl, Option.none_or]
    exact optionalText_optionalText b
  | some s =>
    have hs : s ≠ [] := (cleanText_eq_some.mp ha).choose_spec.2.2
    have hkept : optionalText a = .text s := by rw [optionalText, ha]; rfl
    rw [hkept, orElse_text hs, optionalText, cleanText_clean ha]
    rfl

theorem listCopy_kept (value : JsonValue) :
    listCopy (((cleanTexts value).map fun readers => .array (readers.map .text)).getD .null) =
      .ok (((cleanTexts value).getD []).map .text) := by
  cases cleanTexts value with
  | none => rfl
  | some readers => rfl

theorem stateChanged_iff {a b : JsonValue} :
    stateChanged (optionalText a) (optionalText b) = true ↔
      ∃ x y, cleanText a = some x ∧ cleanText b = some y ∧ x ≠ y := by
  unfold optionalText
  cases ha : cleanText a with
  | none => simp [stateChanged]
  | some x =>
    cases hb : cleanText b with
    | none => simp [stateChanged]
    | some y =>
      have hx : x ≠ [] := (cleanText_eq_some.mp ha).choose_spec.2.2
      have hy : y ≠ [] := (cleanText_eq_some.mp hb).choose_spec.2.2
      simp [stateChanged, hx, hy]

/-- What the evaluator makes of the payload of four replies. -/
structure Reads (str : JsonValue → Text) (arguments : Dict) (network : Nat → ProbeReply)
    (payload : Dict) : Prop where
  actor : strOr str (orElse (payload.get "actor".toList) (arguments.get "actor".toList)) =
    (argumentText arguments "actor").strip
  resource : strOr str (orElse (payload.get "resource_id".toList)
    (arguments.get "resource_id".toList)) = (argumentText arguments "resource_id").strip
  transition : strOr str (orElse (payload.get "requested_transition".toList)
    (arguments.get "transition".toList)) = argumentText arguments "transition"
  role : strOr str (payload.get "actor_role".toList) =
    (actorRole (network 0).body (network 3).body).getD []
  preState : payload.get "pre_state".toList =
    optionalText ((network 0).body.get "state".toList)
  postState : payload.get "post_state".toList =
    optionalText ((network 3).body.get "state".toList)
  changed : (payload.get "state_changed".toList).truthy =
    stateChanged (optionalText ((network 0).body.get "state".toList))
      (optionalText ((network 3).body.get "state".toList))
  approvedBy : payload.get "approved_by".toList =
    optionalText ((network 3).body.get "approved_by".toList)
  delegated : listOr (payload.get "delegated_reviewers".toList) =
    ((cleanTexts ((network 0).body.get "delegated_reviewers".toList)).getD []).map .text
  control : ∃ status, (network 1).status = some status ∧
    payload.get "control_status".toList = .integer status

/-! ## A probe that goes through -/

section Probe

variable {L : UrlCodecs} {lets : ClientRequest → Bool} {network : Nat → ProbeReply}
variable {request : Request} {raw : Dict}

/-- What `execute_http_state_transition` has checked before it asks. -/
structure Prepared (request : Request) (probe : Probe) : Prop where
  texts : ∀ key ∈ ["actor", "resource_id", "transition"],
    request.arguments.get key.toList = .text (argumentText request.arguments key) ∧
      (argumentText request.arguments key).strip ≠ []
  planned : probe.planned = transitionPlanned probe.origin
    (argumentText request.arguments "actor").strip
    (argumentText request.arguments "resource_id").strip
    (argumentText request.arguments "transition") (transitionArea request.arguments)

theorem prepared_of_ok {probe : Probe} (h : prepareTransition L request = .ok probe) :
    Prepared request probe := by
  unfold prepareTransition at h
  split at h
  · cases h
  next envelope henvelope =>
    split at h
    next origin actor resourceId transition horigin hactor hresource htransition =>
      obtain ⟨-, rfl, -⟩ := textArgument_some horigin
      obtain ⟨hactorGet, rfl, hactorBlank⟩ := textArgument_some hactor
      obtain ⟨hresourceGet, rfl, hresourceBlank⟩ := textArgument_some hresource
      obtain ⟨htransitionGet, rfl, htransitionBlank⟩ := textArgument_some htransition
      split at h
      · cases h
      next area harea =>
        obtain ⟨_, -, h⟩ := bind_eq_ok h
        obtain ⟨_, -, h⟩ := bind_eq_ok h
        obtain ⟨_, -, h⟩ := bind_eq_ok h
        obtain ⟨_, -, h⟩ := bind_eq_ok h
        obtain rfl := Except.ok.inj h
        refine ⟨?_, ?_⟩
        · intro key hkey
          rcases List.mem_cons.mp hkey with rfl | hkey
          · exact ⟨hactorGet, hactorBlank⟩
          rcases List.mem_cons.mp hkey with rfl | hkey
          · exact ⟨hresourceGet, hresourceBlank⟩
          · rw [List.mem_singleton.mp hkey]
            exact ⟨htransitionGet, htransitionBlank⟩
        · rw [transitionArea, harea]
          rfl
    · cases h

/-- **A probe that goes through**: what it has checked and kept. -/
theorem executeTransition_eq_ok (h : executeTransition L lets network request = .ok raw) :
    (∀ key ∈ ["actor", "resource_id", "transition"],
      request.arguments.get key.toList = .text (argumentText request.arguments key) ∧
        (argumentText request.arguments key).strip ≠ []) ∧
      raw.get "requested_transition".toList =
        .text (argumentText request.arguments "transition") ∧
      raw.get "resource_id".toList =
        .text (argumentText request.arguments "resource_id").strip ∧
      (transitionArea request.arguments = "redirect".toList →
        raw.get "pre_state_request".toList = .null) ∧
      (transitionArea request.arguments ≠ "redirect".toList →
        ∀ i key, transitionKeys[i]? = some key → ∃ request status body,
          network i = .answered status body ∧
            raw.get key = .object (workflowPayload request status body)) := by
  unfold executeTransition at h
  obtain ⟨probe, hprobe, h⟩ := bind_eq_ok h
  have hprepared := prepared_of_ok hprobe
  have hlength : (planKeys transitionKeys
      (transitionArea request.arguments = "redirect".toList)).length =
        probe.planned.length := by
    rw [hprepared.planned, transitionPlanned]
    by_cases harea : transitionArea request.arguments = "redirect".toList
    · rw [decide_eq_true harea, if_pos harea]
      rfl
    · rw [decide_eq_false harea, if_neg harea]
      rfl
  obtain ⟨-, -, hothers, hreplies⟩ := gather_plan_eq_ok hlength (by decide) h
  refine ⟨hprepared.texts, ?_, ?_, ?_, ?_⟩
  · rw [hothers _ (by decide) (Or.inr (by decide))]
    rfl
  · rw [hothers _ (by decide) (Or.inr (by decide))]
    rfl
  · intro harea
    rw [hothers _ (by decide) (Or.inl (decide_eq_true harea))]
    rfl
  · exact fun harea => hreplies (decide_eq_false harea)

/-- **The payload of four replies**: the result is normalised into it, and it has
what the evaluator reads. -/
theorem normalize_eq (str : JsonValue → Text)
    (h : executeTransition L lets network request = .ok raw)
    (harea : transitionArea request.arguments ≠ "redirect".toList) :
    ∃ payload, Reads str request.arguments network payload ∧
      ∀ observedAt, normalize request.arguments ⟨.succeeded, .object raw, observedAt⟩ =
        observedAt.map fun instant => [⟨observationKind, payload, instant⟩] := by
  obtain ⟨htexts, hraw, hresourceRaw, -, hreplies⟩ := executeTransition_eq_ok h
  have hfour := hreplies harea
  obtain ⟨pre, preStatus, preBody, hpre, hpreGet⟩ := hfour 0 _ rfl
  obtain ⟨control, controlStatus, controlBody, hcontrol, hcontrolGet⟩ := hfour 1 _ rfl
  obtain ⟨transition, transitionStatus, transitionBody, htransition, htransitionGet⟩ :=
    hfour 2 _ rfl
  obtain ⟨post, postStatus, postBody, hpost, hpostGet⟩ := hfour 3 _ rfl
  obtain ⟨-, hpreTexts, hdelegated, hstates⟩ := get_workflowPayload pre preStatus preBody
  obtain ⟨-, hpostTexts, -, -⟩ := get_workflowPayload post postStatus postBody
  obtain ⟨hcontrolStatus, -, -, -⟩ := get_workflowPayload control controlStatus controlBody
  rw [← hpre] at hpreTexts hdelegated hstates
  rw [← hpost] at hpostTexts
  obtain ⟨hactor, hactorBlank⟩ := htexts "actor" (by simp)
  obtain ⟨htransitionArg, htransitionBlank⟩ := htexts "transition" (by simp)
  obtain ⟨-, hresourceBlank⟩ := htexts "resource_id" (by simp)
  have htransitionNe : argumentText request.arguments "transition" ≠ [] := by
    intro hempty
    rw [hempty] at htransitionBlank
    exact htransitionBlank rfl
  refine ⟨payloadOf request.arguments raw (workflowPayload pre preStatus preBody)
    (workflowPayload transition transitionStatus transitionBody)
    (workflowPayload post postStatus postBody)
    (workflowPayload control controlStatus controlBody)
    (((cleanTexts ((network 0).body.get "delegated_reviewers".toList)).getD []).map .text)
    (((cleanTexts ((network 0).body.get "approve_from_states".toList)).getD []).map .text),
    ?_, ?_⟩
  · constructor
    · show strOr str (orElse (optionalText (request.arguments.get "actor".toList)) _) = _
      rw [hactor, optionalText, cleanText, if_neg hactorBlank]
      exact (congrArg (strOr str) (orElse_text hactorBlank _)).trans (strOr_text str _)
    · show strOr str (orElse (orElse (raw.get "resource_id".toList) _) _) = _
      rw [hresourceRaw, orElse_text hresourceBlank, orElse_text hresourceBlank, strOr_text]
    · show strOr str (orElse (orElse (raw.get "requested_transition".toList) _) _) = _
      rw [hraw, orElse_text htransitionNe, orElse_text htransitionNe, strOr_text]
    · show strOr str (optionalText (orElse
        (Dict.get (workflowPayload pre preStatus preBody) "actor_role".toList)
        (Dict.get (workflowPayload post postStatus postBody) "actor_role".toList))) = _
      rw [hpreTexts _ (by decide), hpostTexts _ (by decide), optionalText_orElse, ← actorRole]
      cases actorRole (network 0).body (network 3).body with
      | none => rfl
      | some role => exact strOr_text str role
    · show optionalText
        (Dict.get (workflowPayload pre preStatus preBody) "state".toList) = _
      rw [hpreTexts _ (by decide), optionalText_optionalText]
    · show optionalText
        (Dict.get (workflowPayload post postStatus postBody) "state".toList) = _
      rw [hpostTexts _ (by decide), optionalText_optionalText]
    · show stateChanged
        (optionalText (Dict.get (workflowPayload pre preStatus preBody) "state".toList))
        (optionalText (Dict.get (workflowPayload post postStatus postBody) "state".toList)) = _
      rw [hpreTexts _ (by decide), hpostTexts _ (by decide), optionalText_optionalText,
        optionalText_optionalText]
    · show optionalText
        (Dict.get (workflowPayload post postStatus postBody) "approved_by".toList) = _
      rw [hpostTexts _ (by decide), optionalText_optionalText]
    · rfl
    · exact ⟨controlStatus, by rw [hcontrol]; rfl, hcontrolStatus⟩
  · intro observedAt
    simp only [normalize, itemOf_eq hpreGet, itemOf_eq hcontrolGet, itemOf_eq htransitionGet,
      itemOf_eq hpostGet, ok_bind, hdelegated, hstates, listCopy_kept]
    cases observedAt with
    | error error => rfl
    | ok instant => rfl

end Probe

/-! ## The verdict in terms of the replies -/

/-- The first reply names the actor among the delegated reviewers, in a list that
is kept. -/
def Delegated (arguments body : Dict) : Prop :=
  ∃ reviewers, cleanTexts (body.get "delegated_reviewers".toList) = some reviewers ∧
    (argumentText arguments "actor").strip ∈ reviewers

theorem any_reviewers_iff {arguments body : Dict} :
    ((((cleanTexts (body.get "delegated_reviewers".toList)).getD []).map JsonValue.text).any
      (isText (argumentText arguments "actor").strip)) = true ↔ Delegated arguments body := by
  rw [any_isText, Delegated]
  cases cleanTexts (body.get "delegated_reviewers".toList) with
  | none => simp
  | some reviewers => simp

/-- The replies, and the arguments, that establish the violation: a requester
got the approval, and the control did not give it. -/
structure Established (arguments : Dict) (network : Nat → ProbeReply) : Prop where
  transition : argumentText arguments "transition" = "approve".toList
  preState : cleanText ((network 0).body.get "state".toList) = some "UNDER_REVIEW".toList ∨
    cleanText ((network 0).body.get "state".toList) = some "DRAFT".toList
  postState : cleanText ((network 3).body.get "state".toList) = some "APPROVED".toList
  approvedBy : cleanText ((network 3).body.get "approved_by".toList) =
    some (argumentText arguments "actor").strip
  requester : actorRole (network 0).body (network 3).body = some "requester".toList
  controlled : (network 1).status = some 401 ∨ (network 1).status = some 403 ∨
    (network 1).status = some 409

/-- **The verdict on the payload of four replies.** -/
theorem verdict_facts_iff {str : JsonValue → Text} {arguments : Dict}
    {network : Nat → ProbeReply} {payload : Dict} (hreads : Reads str arguments network payload)
    (hactor : (argumentText arguments "actor").strip ≠ [])
    (hresource : (argumentText arguments "resource_id").strip ≠ []) :
    (verdict (facts str payload arguments)).outcome = .consistentWithPrediction ↔
      Established arguments network ∧ ¬ Delegated arguments (network 0).body := by
  obtain ⟨controlStatus, hcontrol, hcontrolGet⟩ := hreads.control
  have hrole : ∀ role : Text, role ≠ [] →
      ((actorRole (network 0).body (network 3).body).getD [] = role ↔
        actorRole (network 0).body (network 3).body = some role) := by
    intro role hne
    cases actorRole (network 0).body (network 3).body with
    | none => simp [Ne.symm hne]
    | some other => simp
  have hstr : ∀ value : JsonValue, isStr (optionalText value) = (cleanText value).isSome := by
    intro value
    unfold optionalText
    cases cleanText value <;> rfl
  rw [verdict_consistent_iff]
  constructor
  · rintro ⟨hall, -, -, -, -, -⟩
    simp only [Facts.unauthorizedTransition, facts, hreads.actor, hreads.transition, hreads.role,
      hreads.preState, hreads.postState, hreads.approvedBy, hreads.delegated, hcontrolGet,
      Bool.and_eq_true, Bool.or_eq_true, beq_iff_eq, isText_optionalText, isNumber_integer,
      Bool.not_eq_true', ← Bool.not_eq_true, any_reviewers_iff] at hall
    obtain ⟨⟨⟨⟨⟨⟨⟨⟨⟨⟨-, -⟩, -⟩, htransition⟩, -⟩, -⟩, hpost, hby⟩, hrequester⟩, hdelegated⟩,
      hcontrols⟩, hviolates⟩ := hall
    refine ⟨⟨htransition, ?_, hpost, hby, (hrole _ (by decide)).mp hrequester, ?_⟩, hdelegated⟩
    · exact hviolates.imp (fun h => h.2) fun h => h.2
    · rw [hcontrol]
      rcases hcontrols with (rfl | rfl) | rfl
      · exact Or.inl rfl
      · exact Or.inr (Or.inl rfl)
      · exact Or.inr (Or.inr rfl)
  · rintro ⟨hestablished, hdelegated⟩
    have hchanged : stateChanged (optionalText ((network 0).body.get "state".toList))
        (optionalText ((network 3).body.get "state".toList)) = true := by
      rcases hestablished.preState with hpre | hpre
      · exact stateChanged_iff.mpr ⟨_, _, hpre, hestablished.postState, by decide⟩
      · exact stateChanged_iff.mpr ⟨_, _, hpre, hestablished.postState, by decide⟩
    have hpost := isText_optionalText.mpr hestablished.postState
    have hby := isText_optionalText.mpr hestablished.approvedBy
    have hrequester : (actorRole (network 0).body (network 3).body).getD [] =
        "requester".toList := by
      rw [hestablished.requester]
      rfl
    have hnotDelegated := Bool.eq_false_iff.mpr fun h => hdelegated (any_reviewers_iff.mp h)
    have hpreState : isStr (optionalText ((network 0).body.get "state".toList)) = true ∧
        (optionalText ((network 0).body.get "state".toList)).truthy = true ∧
        (isText "UNDER_REVIEW".toList (optionalText ((network 0).body.get "state".toList)) ||
          isText "DRAFT".toList (optionalText ((network 0).body.get "state".toList))) =
            true := by
      rcases hestablished.preState with hpre | hpre
      · simp only [optionalText, hpre]
        decide
      · simp only [optionalText, hpre]
        decide
    have hpostState : isStr (optionalText ((network 3).body.get "state".toList)) = true ∧
        (optionalText ((network 3).body.get "state".toList)).truthy = true := by
      simp only [optionalText, hestablished.postState]
      decide
    have hcontrolled : (isNumber 401 (.integer controlStatus) ||
        isNumber 403 (.integer controlStatus) || isNumber 409 (.integer controlStatus)) =
          true := by
      have hstatus := hestablished.controlled
      rw [hcontrol] at hstatus
      simpa [or_assoc] using hstatus
    simp only [Facts.unauthorizedTransition, facts, hreads.actor, hreads.resource,
      hreads.transition, hreads.role, hreads.preState, hreads.postState, hreads.changed,
      hreads.approvedBy, hreads.delegated, hcontrolGet, hchanged, hpost, hby, hrequester,
      hnotDelegated, hpreState.1, hpreState.2.1, hpostState.1, hpostState.2, hcontrolled,
      hestablished.transition]
    simp [hactor, hresource]
    exact Bool.or_eq_true_iff.mp hpreState.2.2

/-! ## The assessment -/

/-- **When the assessment is that the prediction holds**, in terms of the
arguments and of the replies. -/
theorem assess_consistent_iff {str : JsonValue → Text} {L : UrlCodecs}
    {lets : ClientRequest → Bool} {network : Nat → ProbeReply} {request : Request} {raw : Dict}
    (h : executeTransition L lets network request = .ok raw)
    {plan : ProbeAssessment.ExperimentPlan} (hplan : plan.arguments = request.arguments)
    (feedback : ExperimentFeedback) (observedAt : Except String Instant) :
    Consistent ((evaluator str).assess normalize request.arguments
        ⟨.succeeded, .object raw, observedAt⟩ plan feedback) ↔
      ((∃ instant, observedAt = .ok instant) ∧
        transitionArea request.arguments ≠ "redirect".toList ∧
        Assessable (evaluator str) plan feedback) ∧
      Established request.arguments network ∧
      ¬ Delegated request.arguments (network 0).body := by
  obtain ⟨htexts, -, -, hredirect, -⟩ := executeTransition_eq_ok h
  by_cases harea : transitionArea request.arguments = "redirect".toList
  · -- The only reply of a redirect is under none of the keys.
    refine ⟨?_, fun hright => absurd harea hright.1.2.1⟩
    rintro ⟨a, ha, -⟩
    obtain ⟨drafts, hdrafts, -⟩ := bind_eq_ok ha
    obtain ⟨pre, hpre, -⟩ := bind_eq_ok hdrafts
    rw [itemOf, hredirect harea] at hpre
    cases hpre
  · obtain ⟨payload, hreads, hnormalize⟩ := normalize_eq str h harea
    have hverdict := verdict_facts_iff hreads (htexts "actor" (by simp)).2
      (htexts "resource_id" (by simp)).2
    cases observedAt with
    | error error =>
      constructor
      · rintro ⟨a, ha, -⟩
        rw [Evaluator.assess, hnormalize] at ha
        cases ha
      · rintro ⟨⟨⟨instant, hinstant⟩, -⟩, -⟩
        cases hinstant
    | ok instant =>
      rw [Evaluator.assess_consistent_iff (evaluator str) (hnormalize (.ok instant)) rfl]
      constructor
      · rintro ⟨hassessable, hconsistent⟩
        rw [hplan] at hconsistent
        exact ⟨⟨⟨instant, rfl⟩, harea, hassessable⟩, hverdict.mp hconsistent⟩
      · rintro ⟨⟨-, -, hassessable⟩, hestablished⟩
        refine ⟨hassessable, ?_⟩
        rw [hplan]
        exact hverdict.mpr hestablished

/-- A reply names the actor among the delegated reviewers. -/
def NamesReviewer (arguments body : Dict) : Prop :=
  ∃ items, body.get "delegated_reviewers".toList = .array items ∧
    ∃ item ∈ items, cleanText item = some (argumentText arguments "actor").strip

/-- A reply lets the role approve from the state. -/
def LetsApprove (role state : Option Text) (body : Dict) : Prop :=
  role.isSome ∧ cleanText (body.get "approve_requires_role".toList) = role ∧
  ∃ items, body.get "approve_from_states".toList = .array items ∧
    ∃ item ∈ items, ∃ s, cleanText item = some s ∧ state = some s

/-- One of the four replies permits the approval of the actor. -/
def Permits (arguments : Dict) (network : Nat → ProbeReply) : Prop :=
  ∃ i < 4, NamesReviewer arguments (network i).body ∨
    LetsApprove (actorRole (network 0).body (network 3).body)
      (cleanText ((network 0).body.get "state".toList)) (network i).body

/-- A reply without the markers, and the same with some: nothing else is changed
but what says that the actor may approve. -/
structure MarkersAdded (actor : Text) (reply marked : ProbeReply) : Prop where
  status : marked.status = reply.status
  others : ∀ key, key ∉ ["delegated_reviewers".toList, "approve_requires_role".toList,
    "approve_from_states".toList] → marked.body.get key = reply.body.get key
  reviewers : marked.body.get "delegated_reviewers".toList =
      reply.body.get "delegated_reviewers".toList ∨
    ∃ items, marked.body.get "delegated_reviewers".toList = .array items ∧
      (∃ item ∈ items, cleanText item = some actor) ∧
      ∀ item ∈ items, cleanText item = some actor ∨
        item ∈ listOr (reply.body.get "delegated_reviewers".toList)

/-- What is established in spite of markers is established without them. -/
theorem established_of_marked {arguments : Dict} {network marked : Nat → ProbeReply}
    (hmarked : ∀ i < 4, MarkersAdded (argumentText arguments "actor").strip (network i)
      (marked i))
    (h : Established arguments marked) : Established arguments network := by
  have hkey : ∀ i < 4, ∀ key ∈ ["state".toList, "approved_by".toList, "actor_role".toList],
      (marked i).body.get key = (network i).body.get key := by
    intro i hi key hkey
    have hother : ∀ key ∈ ["state".toList, "approved_by".toList, "actor_role".toList],
        key ∉ ["delegated_reviewers".toList, "approve_requires_role".toList,
          "approve_from_states".toList] := by
      decide
    exact (hmarked i hi).others key (hother key hkey)
  obtain ⟨htransition, hpre, hpost, hby, hrole, hcontrol⟩ := h
  rw [hkey 0 (by omega) _ (by simp)] at hpre
  rw [hkey 3 (by omega) _ (by simp)] at hpost hby
  rw [actorRole, hkey 0 (by omega) _ (by simp), hkey 3 (by omega) _ (by simp)] at hrole
  rw [(hmarked 1 (by omega)).status] at hcontrol
  exact ⟨htransition, hpre, hpost, hby, hrole, hcontrol⟩

/-- An actor that is delegated stays so. -/
theorem delegated_of_marked {arguments : Dict} {reply marked : ProbeReply}
    (hmarked : MarkersAdded (argumentText arguments "actor").strip reply marked)
    (h : Delegated arguments reply.body) : Delegated arguments marked.body := by
  rcases hmarked.reviewers with hsame | ⟨items, hitems, ⟨item, hitem, hactor⟩, hall⟩
  · obtain ⟨reviewers, hreviewers⟩ := h
    exact ⟨reviewers, by rw [hsame]; exact hreviewers⟩
  · obtain ⟨reviewers, hreviewers, -⟩ := h
    obtain ⟨old, hold, hclean, -⟩ := cleanTexts_eq_some.mp hreviewers
    rw [hold] at hall
    refine ⟨items.filterMap cleanText, ?_, List.mem_filterMap.mpr ⟨item, hitem, hactor⟩⟩
    rw [hitems]
    refine cleanTexts_eq_some.mpr ⟨items, rfl, fun other hother => ?_, rfl⟩
    rcases hall other hother with hother | hother
    · rw [hother]
      rfl
    · exact hclean other hother

/-- What permits the approval, and is not read: the first reply has no list of
reviewers that names the actor and is kept, and one of the replies names it
nevertheless, or lets requesters approve from the state of the first reply. -/
structure Unread (arguments : Dict) (network : Nat → ProbeReply) : Prop where
  notDelegated : ¬ Delegated arguments (network 0).body
  permits : ∃ i < 4, NamesReviewer arguments (network i).body ∨
    LetsApprove (some "requester".toList)
      (cleanText ((network 0).body.get "state".toList)) (network i).body

/-- **Permitted transitions are not reported, but for what the verdict does not
read.**  That markers do not turn another outcome into the prediction holds of
all replies. -/
theorem permitted_transitions_spared_iff (str : JsonValue → Text) (L : UrlCodecs)
    (lets : ClientRequest → Bool) (network : Nat → ProbeReply) (request : Request) {raw : Dict}
    (h : executeTransition L lets network request = .ok raw)
    (plan : ProbeAssessment.ExperimentPlan) (hplan : plan.arguments = request.arguments)
    (feedback : ExperimentFeedback) (observedAt : Except String Instant) :
    ((Consistent ((evaluator str).assess normalize request.arguments
          ⟨.succeeded, .object raw, observedAt⟩ plan feedback) →
        ¬ Permits request.arguments network ∧
        cleanText ((network 0).body.get "state".toList) ≠
          cleanText ((network 3).body.get "state".toList) ∧
        cleanText ((network 3).body.get "approved_by".toList) =
          some (argumentText request.arguments "actor").strip) ∧
      ∀ marked rawMarked, (∀ i < 4, MarkersAdded (argumentText request.arguments "actor").strip
          (network i) (marked i)) →
        executeTransition L lets marked request = .ok rawMarked →
        Consistent ((evaluator str).assess normalize request.arguments
          ⟨.succeeded, .object rawMarked, observedAt⟩ plan feedback) →
        Consistent ((evaluator str).assess normalize request.arguments
          ⟨.succeeded, .object raw, observedAt⟩ plan feedback)) ↔
    ¬ (Unread request.arguments network ∧ Established request.arguments network ∧
      (∃ instant, observedAt = .ok instant) ∧
      transitionArea request.arguments ≠ "redirect".toList ∧
      Assessable (evaluator str) plan feedback) := by
  rw [assess_consistent_iff h hplan feedback observedAt]
  constructor
  · rintro ⟨hspared, -⟩ ⟨⟨hdelegated, hpermits⟩, hestablished, hresult⟩
    refine (hspared ⟨hresult, hestablished, hdelegated⟩).1 ?_
    rw [Permits, hestablished.requester]
    exact hpermits
  · intro hno
    refine ⟨?_, ?_⟩
    · rintro ⟨hresult, hestablished, hdelegated⟩
      refine ⟨fun hpermits => ?_, ?_, hestablished.approvedBy⟩
      · rw [Permits, hestablished.requester] at hpermits
        exact hno ⟨⟨hdelegated, hpermits⟩, hestablished, hresult⟩
      · rw [hestablished.postState]
        rcases hestablished.preState with hpre | hpre
        · rw [hpre]
          decide
        · rw [hpre]
          decide
    · intro marked rawMarked hmarked hrun hconsistent
      obtain ⟨hresult, hestablished, hdelegated⟩ :=
        (assess_consistent_iff hrun hplan feedback observedAt).mp hconsistent
      exact ⟨hresult, established_of_marked hmarked hestablished,
        fun hold => hdelegated (delegated_of_marked (hmarked 0 (by omega)) hold)⟩

/-! ## A local workflow -/

/-- An approval of a request, as `a`. -/
def labRequest : Request where
  workerCapability := "http.state_transition".toList
  action := "probe".toList
  capabilityVersion := packagedVersion
  capabilityDefinitionFingerprint := "f".toList
  arguments := [("authorized_origin".toList, .text "http://127.0.0.1:8080".toList),
    ("actor".toList, .text ['a']), ("resource_id".toList, .text ['1']),
    ("transition".toList, .text "approve".toList), ("area".toList, .text "workflow".toList)]
  networkEnvelope := some HttpTransaction.rootEnvelope
  resolvedSecretValues := none
  maxAttemptedRequests := none

/-- The workflow lets a role approve what is under review, and `a`, a requester,
approves. -/
def labReplies (requiredRole : Text) : Nat → ProbeReply
  | 0 => .answered 200 (some (.object [("state".toList, .text "UNDER_REVIEW".toList),
      ("actor_role".toList, .text "requester".toList),
      ("approve_requires_role".toList, .text requiredRole),
      ("approve_from_states".toList, .array [.text "UNDER_REVIEW".toList])]))
  | 1 => .answered 403 none
  | 2 => .answered 200 none
  | _ => .answered 200 (some (.object [("state".toList, .text "APPROVED".toList),
      ("approved_by".toList, .text ['a'])]))

def labPlan : ProbeAssessment.ExperimentPlan where
  hypothesisId := ['h']
  evaluationStrategy := "http.state_transition.v1".toList
  requiredCapability := "http.state_transition".toList
  arguments := labRequest.arguments

def labFeedback : ExperimentFeedback where
  hypothesisId := ['h']
  evaluationStrategy := "http.state_transition.v1".toList
  executionOutcome := "OBSERVATION_PRODUCED".toList
  observations := []
  invocationStatus := some "SUCCEEDED".toList
  experimentExecutionState := some "EXECUTION_SUCCEEDED".toList
  attemptState := some "COMPLETED".toList

/-- No reply names a reviewer, and none lets requesters approve. -/
theorem labReplies_reviewer_read : ¬ Unread labRequest.arguments
    (labReplies "reviewer".toList) := by
  rintro ⟨-, i, hi, ⟨items, hitems, -⟩ | ⟨-, hrole, -⟩⟩
  · match i, hi with
    | 0, _ => cases hitems
    | 1, _ => cases hitems
    | 2, _ => cases hitems
    | 3, _ => cases hitems
  · match i, hi with
    | 0, _ => exact absurd (Option.some.inj hrole) (by decide)
    | 1, _ => cases hrole
    | 2, _ => cases hrole
    | 3, _ => cases hrole

/-- Where only reviewers may approve, the assessment is right about the replies. -/
theorem permitted_transitions_spared_iff_reviewer :
    ∃ raw, executeTransition asciiCodecs (fun _ => true) (labReplies "reviewer".toList)
        labRequest = .ok raw ∧
      (Consistent ((evaluator fun _ => []).assess normalize labRequest.arguments
          ⟨.succeeded, .object raw, .ok 0⟩ labPlan labFeedback) →
        ¬ Permits labRequest.arguments (labReplies "reviewer".toList)) := by
  refine ⟨_, rfl, fun hconsistent => ?_⟩
  have hspared := (permitted_transitions_spared_iff (fun _ => []) asciiCodecs (fun _ => true)
    (labReplies "reviewer".toList) labRequest rfl labPlan rfl labFeedback (.ok 0)).mpr
    fun hunread => labReplies_reviewer_read hunread.1
  exact (hspared.1 hconsistent).1

/-- **An approval that the workflow permits is reported**: requesters may approve
what is under review. -/
theorem permitted_approval_reported :
    ∃ raw, executeTransition asciiCodecs (fun _ => true) (labReplies "requester".toList)
        labRequest = .ok raw ∧
      Permits labRequest.arguments (labReplies "requester".toList) ∧
      Consistent ((evaluator fun _ => []).assess normalize labRequest.arguments
        ⟨.succeeded, .object raw, .ok 0⟩ labPlan labFeedback) :=
  ⟨_, rfl, ⟨0, by omega, Or.inr ⟨rfl, rfl, _, rfl, .text "UNDER_REVIEW".toList,
    List.mem_cons_self, "UNDER_REVIEW".toList, rfl, rfl⟩⟩, _, rfl, rfl⟩

end Zest.StateTransition
