import Zest.HttpTransactionAgreement
import Zest.ProbeAssessment

/-! # The verdict of the authorization differential

The differential probe asks for an object of its actor, for an object of
somebody else, for the latter where access is controlled, and for it without an
actor.  Its normalizer passes on what the Worker has kept of the replies, and its
evaluator finds that the prediction holds if the actor was given the object of
somebody else, and nothing in the reply makes that legitimate.
-/
namespace Zest.AuthorizationDifferential

open ProbeAssessment ProbeReplies WorkerExecutors
open Verification (AssessmentOutcome)

/-! ## `HttpAuthorizationDifferentialNormalizer` -/

def observationKind : Text := "HTTP_AUTHORIZATION_DIFFERENTIAL".toList

/-- A text that may be there: `error`, if it is something else. -/
def takeText (payload : Dict) (name : Text) (error : String) : JsonValue → Except String Dict
  | .null => .ok payload
  | value =>
    match cleanText value with
    | some s => .ok (putText payload name (some s))
    | none => .error error

/-- A list of texts that may be there. -/
def takeTexts (payload : Dict) (name : Text) (error : String) : JsonValue → Except String Dict
  | .null => .ok payload
  | value =>
    match cleanTexts value with
    | some readers => .ok (putTexts payload name (some readers))
    | none => .error error

/-- `f"raw_result.{key}"`, and what comes after it. -/
def rawResultError (key : Text) (rest : String) : String :=
  "raw_result." ++ String.ofList key ++ rest

/-- One key of `_REQUEST_KEYS`. -/
def normalizeReply (raw payload : Dict) (key : Text) : Except String Dict :=
  match raw.get key with
  | .object item =>
    if !isInt (Dict.get item "status".toList) then
      .error ("SUCCEEDED http.authorization.differential " ++
        rawResultError key ".status must be an int")
    else do
      let payload := payload.set (key ++ "_status".toList) (Dict.get item "status".toList)
      let payload ← takeText payload (key ++ "_object_owner".toList)
        (rawResultError key ".object_owner must be a non-empty string when present")
        (Dict.get item "object_owner".toList)
      let payload ← takeText payload (key ++ "_visibility".toList)
        (rawResultError key ".object_visibility must be a non-empty string when present")
        (Dict.get item "object_visibility".toList)
      let payload ← takeTexts payload (key ++ "_authorized_readers".toList)
        (rawResultError key
          ".object_authorized_readers must be a list of strings when present")
        (Dict.get item "object_authorized_readers".toList)
      takeText payload (key ++ "_resource_kind".toList)
        (rawResultError key ".object_resource_kind must be a non-empty string when present")
        (Dict.get item "object_resource_kind".toList)
  | _ => .error ("SUCCEEDED http.authorization.differential " ++
      rawResultError key " must be an object")

/-- What the payload starts with. -/
def payloadStart (arguments raw : Dict) : Dict :=
  [("authorized_origin".toList, orElse (raw.get "authorized_origin".toList)
      (arguments.get "authorized_origin".toList)),
    ("mode".toList, orElse (raw.get "mode".toList) (arguments.get "mode".toList)),
    ("actor".toList, arguments.get "actor".toList),
    ("own_object".toList, arguments.get "own_object".toList),
    ("cross_object".toList, arguments.get "cross_object".toList)]

/-- `normalize`; a status other than `SUCCEEDED` says nothing of the target. -/
def normalize (arguments : Dict) (result : WorkerResult) :
    Except String (List ObservationDraft) :=
  match result.status, result.rawResult with
  | .succeeded, .object raw => do
    let payload ← authorizationKeys.foldlM (normalizeReply raw) (payloadStart arguments raw)
    let observedAt ← result.observedAt
    return [⟨observationKind, payload, observedAt⟩]
  | .succeeded, _ => .error "SUCCEEDED http.authorization.differential requires raw_result"
  | _, _ => .ok []

/-! ## `HttpAuthorizationDifferentialEvaluator` -/

/-- The facts of `_facts`, without `fact_`. -/
structure Facts where
  ownerCanReadOwn : Bool
  actorCanReadCrossObject : Bool
  returnedObjectIsCrossOwner : Bool
  unauthenticatedDenied : Bool
  secureControlDenied : Bool
  sharedOrigin : Bool
  crossStatusOnly : Bool
  notExplicitlyPublic : Bool
  notExplicitlyDelegated : Bool
  notSharedResource : Bool
  deriving DecidableEq

/-- `isinstance(value, str) and value.strip().upper() == word`. -/
def saysInAnyCase (upper : Text → Text) (word : Text) : JsonValue → Bool
  | .text s => upper s.strip = word
  | _ => false

/-- `_facts`; `str` is that of a value that is no text, and `upper` is
`str.upper`. -/
def facts (str : JsonValue → Text) (upper : Text → Text) (payload arguments : Dict) : Facts :=
  let named (key : String) : Text :=
    strOr str (orElse (payload.get key.toList) (arguments.get key.toList))
  let actor := named "actor"
  let ownObject := named "own_object"
  let crossObject := named "cross_object"
  let origin := named "authorized_origin"
  let ownerStatus := payload.get "owner_request_status".toList
  let ownerOwner := payload.get "owner_request_object_owner".toList
  let crossStatus := payload.get "cross_object_request_status".toList
  let crossOwner := payload.get "cross_object_request_object_owner".toList
  let secureStatus := payload.get "secure_control_status".toList
  let unauthStatus := payload.get "unauthenticated_control_status".toList
  let ownerProven := (cleanText crossOwner).isSome && isText crossObject crossOwner
  let readers := listOr (payload.get "cross_object_request_authorized_readers".toList)
  { ownerCanReadOwn :=
      isNumber 200 ownerStatus && isText ownObject ownerOwner && ownObject == actor
    actorCanReadCrossObject := isNumber 200 crossStatus
    returnedObjectIsCrossOwner :=
      isNumber 200 crossStatus && ownerProven && crossObject != actor
    unauthenticatedDenied := isNumber 401 unauthStatus || isNumber 403 unauthStatus
    secureControlDenied := isNumber 403 secureStatus
    sharedOrigin :=
      origin != [] && isText origin (payload.get "authorized_origin".toList)
    crossStatusOnly := isNumber 200 crossStatus && !ownerProven
    notExplicitlyPublic := !saysInAnyCase upper "PUBLIC".toList
      (payload.get "cross_object_request_visibility".toList)
    notExplicitlyDelegated := !readers.any (isText actor)
    notSharedResource := !saysInAnyCase upper "SHARED".toList
      (payload.get "cross_object_request_resource_kind".toList) }

/-- `all(facts[name] for name in UNAUTHORIZED_DIFFERENTIAL_FACTS)`. -/
def Facts.unauthorizedDifferential (f : Facts) : Bool :=
  f.ownerCanReadOwn && f.actorCanReadCrossObject && f.returnedObjectIsCrossOwner &&
    f.unauthenticatedDenied && f.secureControlDenied && f.sharedOrigin &&
    f.notExplicitlyPublic && f.notExplicitlyDelegated && f.notSharedResource

/-- `evaluate`, from the facts on. -/
def verdict (f : Facts) : HypothesisAssessment :=
  if f.crossStatusOnly then ⟨.needsMoreContext, "STATUS_ALONE_IS_NOT_OBJECT_ACCESS_PROOF"⟩
  else if f.actorCanReadCrossObject && f.returnedObjectIsCrossOwner && !f.notExplicitlyPublic then
    ⟨.contradictsPrediction, "LEGITIMATE_PUBLIC_ACCESS"⟩
  else if f.actorCanReadCrossObject && f.returnedObjectIsCrossOwner &&
      !f.notExplicitlyDelegated then
    ⟨.contradictsPrediction, "LEGITIMATE_DELEGATED_ACCESS"⟩
  else if f.actorCanReadCrossObject && f.returnedObjectIsCrossOwner && !f.notSharedResource then
    ⟨.contradictsPrediction, "LEGITIMATE_SHARED_ACCESS"⟩
  else if f.unauthorizedDifferential then
    ⟨.consistentWithPrediction, "AUTHORIZATION_DIFFERENTIAL_ESTABLISHED"⟩
  else if f.secureControlDenied && !f.actorCanReadCrossObject then
    ⟨.contradictsPrediction, "OBJECT_ACCESS_CONTROL_HELD"⟩
  else ⟨.inconclusive, "DIFFERENTIAL_INCOMPLETE"⟩

/-- `HttpAuthorizationDifferentialEvaluator`. -/
def evaluator (str : JsonValue → Text) (upper : Text → Text) : Evaluator where
  strategy := "http.authorization.differential.v1".toList
  capability := "http.authorization.differential".toList
  observationKind := observationKind
  otherCapability :=
    "http.authorization.differential evaluator cannot assess other capabilities"
  verdict payload arguments := verdict (facts str upper payload arguments)

/-- **When the verdict is that the prediction holds**: all of the facts do, and
access is not shown by a status alone. -/
theorem verdict_consistent_iff (f : Facts) :
    (verdict f).outcome = .consistentWithPrediction ↔
      f.unauthorizedDifferential = true ∧ f.crossStatusOnly = false := by
  unfold verdict Facts.unauthorizedDifferential
  grind

/-! ## From the replies to the payload -/

theorem takeText_kept (payload : Dict) (name : Text) (error : String) (value : JsonValue) :
    takeText payload name error (((cleanText value).map .text).getD .null) =
      .ok (putText payload name (cleanText value)) := by
  cases hclean : cleanText value with
  | none => rfl
  | some s =>
    rw [Option.map_some, Option.getD_some, takeText, cleanText_clean hclean]
    exact fun h => by cases h

theorem takeTexts_kept (payload : Dict) (name : Text) (error : String) (value : JsonValue) :
    takeTexts payload name error
        (((cleanTexts value).map fun readers => .array (readers.map .text)).getD .null) =
      .ok (putTexts payload name (cleanTexts value)) := by
  cases hclean : cleanTexts value with
  | none => rfl
  | some readers =>
    rw [Option.map_some, Option.getD_some, takeTexts, cleanTexts_clean hclean]
    exact fun h => by cases h

/-- What a reply adds to the payload. -/
def replyPayload (payload : Dict) (key : Text) (status : Int) (body : Dict) : Dict :=
  putText (putTexts (putText (putText
    (payload.set (key ++ "_status".toList) (.integer status))
    (key ++ "_object_owner".toList) (cleanText (body.get "owner".toList)))
    (key ++ "_visibility".toList) (cleanText (body.get "visibility".toList)))
    (key ++ "_authorized_readers".toList) (cleanTexts (body.get "authorized_readers".toList)))
    (key ++ "_resource_kind".toList) (cleanText (body.get "resource_kind".toList))

/-- **The Worker and the normalizer agree**: what the one has kept of a reply,
the other takes as it is. -/
theorem normalizeReply_eq {raw payload : Dict} {key : Text} {request : ClientRequest}
    {status : Int} {body : Option JsonValue}
    (h : raw.get key = .object (objectPayload request status body)) :
    normalizeReply raw payload key =
      .ok (replyPayload payload key status (ProbeReply.answered status body).body) := by
  have hget := get_observe rfl nodup_observedObjectFields
    [("status".toList, .integer status)] status body
  obtain ⟨howner, hvisibility, hreaders, hkind, hstatus⟩ :=
    lookup_observedObjectFields (ProbeReply.answered status body).body
  have hother : ∀ name : Text, name ≠ "status".toList →
      Dict.get (objectPayload request status body) name =
        ((observedObjectFields (ProbeReply.answered status body).body).lookup name).getD
          .null := by
    intro name hname
    rw [Dict.get, objectPayload, hget, Dict.lookup_cons, if_neg (Ne.symm hname),
      Dict.lookup_nil, Option.or_none]
  have hitem : Dict.get (objectPayload request status body) "status".toList =
      .integer status := by
    rw [Dict.get, objectPayload, hget, hstatus]
    rfl
  rw [normalizeReply, h]
  dsimp only
  rw [hitem, if_neg (by simp [isInt]), hother "object_owner".toList (by decide), howner,
    takeText_kept, ok_bind, hother "object_visibility".toList (by decide), hvisibility,
    takeText_kept, ok_bind, hother "object_authorized_readers".toList (by decide), hreaders,
    takeTexts_kept, ok_bind, hother "object_resource_kind".toList (by decide), hkind,
    takeText_kept]
  rfl

/-- The names that a reply has in the payload. -/
def replyNames (key : Text) : List Text :=
  [key ++ "_status".toList, key ++ "_object_owner".toList, key ++ "_visibility".toList,
    key ++ "_authorized_readers".toList, key ++ "_resource_kind".toList]

theorem lookup_replyPayload_of_not_mem {payload : Dict} {key name : Text} {status : Int}
    {body : Dict} (h : name ∉ replyNames key) :
    (replyPayload payload key status body).lookup name = payload.lookup name := by
  simp only [replyNames, List.mem_cons, List.not_mem_nil, or_false, not_or] at h
  obtain ⟨hstatus, howner, hvisibility, hreaders, hkind⟩ := h
  rw [replyPayload, lookup_putText, if_neg hkind, lookup_putTexts, if_neg hreaders,
    lookup_putText, if_neg hvisibility, lookup_putText, if_neg howner, Dict.lookup_set,
    if_neg hstatus]

/-- What a reply is under its own names. -/
theorem lookup_replyPayload (payload : Dict) (key : Text) (status : Int) (body : Dict) :
    (replyPayload payload key status body).lookup (key ++ "_status".toList) =
        some (.integer status) ∧
      (replyPayload payload key status body).lookup (key ++ "_object_owner".toList) =
        ((cleanText (body.get "owner".toList)).map .text).or
          (payload.lookup (key ++ "_object_owner".toList)) ∧
      (replyPayload payload key status body).lookup (key ++ "_visibility".toList) =
        ((cleanText (body.get "visibility".toList)).map .text).or
          (payload.lookup (key ++ "_visibility".toList)) ∧
      (replyPayload payload key status body).lookup (key ++ "_authorized_readers".toList) =
        ((cleanTexts (body.get "authorized_readers".toList)).map
          fun readers => .array (readers.map .text)).or
          (payload.lookup (key ++ "_authorized_readers".toList)) ∧
      (replyPayload payload key status body).lookup (key ++ "_resource_kind".toList) =
        ((cleanText (body.get "resource_kind".toList)).map .text).or
          (payload.lookup (key ++ "_resource_kind".toList)) := by
  simp [replyPayload, lookup_putText, lookup_putTexts, Dict.lookup_set]

/-- What the evaluator reads of the payload of four replies. -/
structure Reads (arguments : Dict) (origin : Text) (network : Nat → ProbeReply)
    (payload : Dict) : Prop where
  origin : payload.get "authorized_origin".toList = .text origin
  named : ∀ key ∈ ["actor", "own_object", "cross_object"],
    payload.get key.toList = arguments.get key.toList
  statuses : ∀ i key, authorizationKeys[i]? = some key →
    ∃ status, (network i).status = some status ∧
      payload.get (key ++ "_status".toList) = .integer status
  owner : payload.get "owner_request_object_owner".toList =
    ((cleanText ((network 0).body.get "owner".toList)).map .text).getD .null
  crossOwner : payload.get "cross_object_request_object_owner".toList =
    ((cleanText ((network 1).body.get "owner".toList)).map .text).getD .null
  visibility : payload.get "cross_object_request_visibility".toList =
    ((cleanText ((network 1).body.get "visibility".toList)).map .text).getD .null
  readers : payload.get "cross_object_request_authorized_readers".toList =
    ((cleanTexts ((network 1).body.get "authorized_readers".toList)).map
      fun readers => .array (readers.map .text)).getD .null
  kind : payload.get "cross_object_request_resource_kind".toList =
    ((cleanText ((network 1).body.get "resource_kind".toList)).map .text).getD .null

/-- The payload of four replies. -/
def payloadOf (start : Dict) (network : Nat → ProbeReply) : Dict :=
  let after (payload : Dict) (i : Nat) (key : Text) : Dict :=
    replyPayload payload key ((network i).status.getD 0) (network i).body
  after (after (after (after start 0 "owner_request".toList) 1 "cross_object_request".toList)
    2 "secure_control".toList) 3 "unauthenticated_control".toList

theorem normalizeReplies_eq {raw : Dict} {network : Nat → ProbeReply}
    (hreplies : ∀ i key, authorizationKeys[i]? = some key → ∃ request status body,
      network i = .answered status body ∧
        raw.get key = .object (objectPayload request status body)) (start : Dict) :
    authorizationKeys.foldlM (normalizeReply raw) start = .ok (payloadOf start network) := by
  obtain ⟨_, _, _, h0, hget0⟩ := hreplies 0 _ rfl
  obtain ⟨_, _, _, h1, hget1⟩ := hreplies 1 _ rfl
  obtain ⟨_, _, _, h2, hget2⟩ := hreplies 2 _ rfl
  obtain ⟨_, _, _, h3, hget3⟩ := hreplies 3 _ rfl
  rw [authorizationKeys, List.foldlM_cons, normalizeReply_eq hget0, ok_bind, List.foldlM_cons,
    normalizeReply_eq hget1, ok_bind, List.foldlM_cons, normalizeReply_eq hget2, ok_bind,
    List.foldlM_cons, normalizeReply_eq hget3, ok_bind, List.foldlM_nil, payloadOf]
  dsimp only
  rw [h0, h1, h2, h3]
  rfl

/-- What no reply names is as it was. -/
theorem lookup_payloadOf_of_not_mem {start : Dict} {network : Nat → ProbeReply} {name : Text}
    (h : name ∉ authorizationKeys.flatMap replyNames) :
    (payloadOf start network).lookup name = start.lookup name := by
  simp only [authorizationKeys, List.flatMap_cons, List.flatMap_nil, List.mem_append,
    List.not_mem_nil, or_false, not_or] at h
  obtain ⟨h0, h1, h2, h3⟩ := h
  rw [payloadOf]
  dsimp only
  rw [lookup_replyPayload_of_not_mem h3, lookup_replyPayload_of_not_mem h2,
    lookup_replyPayload_of_not_mem h1, lookup_replyPayload_of_not_mem h0]

theorem lookup_replyPayload_congr {payload other : Dict} {name : Text}
    (h : payload.lookup name = other.lookup name) (key : Text) (status : Int) (body : Dict) :
    (replyPayload payload key status body).lookup name =
      (replyPayload other key status body).lookup name := by
  simp only [replyPayload, lookup_putText, lookup_putTexts, Dict.lookup_set, h]

/-- The replies have different names. -/
theorem replyNames_disjoint : ∀ key ∈ authorizationKeys, ∀ other ∈ authorizationKeys,
    other ≠ key → ∀ name ∈ replyNames key, name ∉ replyNames other := by
  decide

/-- **What a reply has in the payload** does not depend on the other ones. -/
theorem lookup_payloadOf (start : Dict) (network : Nat → ProbeReply) {i : Nat} {key name : Text}
    (hkey : authorizationKeys[i]? = some key) (hname : name ∈ replyNames key) :
    (payloadOf start network).lookup name =
      (replyPayload start key ((network i).status.getD 0) (network i).body).lookup name := by
  have hmem : key ∈ authorizationKeys := List.mem_of_getElem? hkey
  have hothers : ∀ other ∈ authorizationKeys, other ≠ key → name ∉ replyNames other :=
    fun other hother hne => replyNames_disjoint key hmem other hother hne name hname
  rw [payloadOf]
  dsimp only
  match i with
  | 0 =>
    obtain rfl : "owner_request".toList = key := Option.some.inj hkey
    rw [lookup_replyPayload_of_not_mem (hothers _ (by decide) (by decide)),
      lookup_replyPayload_of_not_mem (hothers _ (by decide) (by decide)),
      lookup_replyPayload_of_not_mem (hothers _ (by decide) (by decide))]
  | 1 =>
    obtain rfl : "cross_object_request".toList = key := Option.some.inj hkey
    rw [lookup_replyPayload_of_not_mem (hothers _ (by decide) (by decide)),
      lookup_replyPayload_of_not_mem (hothers _ (by decide) (by decide))]
    exact lookup_replyPayload_congr
      (lookup_replyPayload_of_not_mem (hothers _ (by decide) (by decide))) _ _ _
  | 2 =>
    obtain rfl : "secure_control".toList = key := Option.some.inj hkey
    rw [lookup_replyPayload_of_not_mem (hothers _ (by decide) (by decide))]
    refine lookup_replyPayload_congr ?_ _ _ _
    rw [lookup_replyPayload_of_not_mem (hothers _ (by decide) (by decide)),
      lookup_replyPayload_of_not_mem (hothers _ (by decide) (by decide))]
  | 3 =>
    obtain rfl : "unauthenticated_control".toList = key := Option.some.inj hkey
    refine lookup_replyPayload_congr ?_ _ _ _
    rw [lookup_replyPayload_of_not_mem (hothers _ (by decide) (by decide)),
      lookup_replyPayload_of_not_mem (hothers _ (by decide) (by decide)),
      lookup_replyPayload_of_not_mem (hothers _ (by decide) (by decide))]
  | i + 4 => cases hkey

/-- **The payload of four replies** has what the evaluator reads. -/
theorem reads_payloadOf {arguments raw : Dict} {origin : Text} (horigin : origin ≠ [])
    {network : Nat → ProbeReply} (hraw : raw.get "authorized_origin".toList = .text origin)
    (hstatus : ∀ i < 4, (network i).status.isSome) :
    Reads arguments origin network (payloadOf (payloadStart arguments raw) network) := by
  have hbase : ∀ name : Text, name ∉ authorizationKeys.flatMap replyNames →
      (payloadOf (payloadStart arguments raw) network).get name =
        (payloadStart arguments raw).get name := by
    intro name hname
    rw [Dict.get, lookup_payloadOf_of_not_mem hname]
    rfl
  have hnone : ∀ name ∈ authorizationKeys.flatMap replyNames,
      (payloadStart arguments raw).lookup name = none := by
    have hne : ∀ name ∈ authorizationKeys.flatMap replyNames,
        name ∉ ["authorized_origin".toList, "mode".toList, "actor".toList, "own_object".toList,
          "cross_object".toList] := by
      decide
    exact fun name hname => Dict.lookup_eq_none (hne name hname)
  have howner := lookup_replyPayload (payloadStart arguments raw) "owner_request".toList
    ((network 0).status.getD 0) (network 0).body
  have hcross := lookup_replyPayload (payloadStart arguments raw) "cross_object_request".toList
    ((network 1).status.getD 0) (network 1).body
  refine ⟨?_, ?_, ?_, ?_, ?_, ?_, ?_, ?_⟩
  · rw [hbase _ (by decide)]
    show orElse (raw.get "authorized_origin".toList) _ = _
    rw [hraw, orElse_text horigin]
  · intro key hkey
    have hplain : ∀ key ∈ ["actor", "own_object", "cross_object"],
        key.toList ∉ authorizationKeys.flatMap replyNames := by
      decide
    rw [hbase _ (hplain key hkey)]
    rcases List.mem_cons.mp hkey with rfl | hkey
    · rfl
    rcases List.mem_cons.mp hkey with rfl | hkey
    · rfl
    rw [List.mem_singleton.mp hkey]
    rfl
  · intro i key hkey
    have hlt : i < 4 := (List.getElem?_eq_some_iff.mp hkey).1
    obtain ⟨status, hsome⟩ := Option.isSome_iff_exists.mp (hstatus i hlt)
    refine ⟨status, hsome, ?_⟩
    rw [Dict.get, lookup_payloadOf _ network hkey List.mem_cons_self,
      (lookup_replyPayload _ key _ _).1, hsome]
    rfl
  · rw [Dict.get, show "owner_request_object_owner".toList =
      "owner_request".toList ++ "_object_owner".toList from rfl,
      lookup_payloadOf _ network (i := 0) rfl (by decide), howner.2.1, hnone _ (by decide),
      Option.or_none]
  · rw [Dict.get, show "cross_object_request_object_owner".toList =
      "cross_object_request".toList ++ "_object_owner".toList from rfl,
      lookup_payloadOf _ network (i := 1) rfl (by decide), hcross.2.1, hnone _ (by decide),
      Option.or_none]
  · rw [Dict.get, show "cross_object_request_visibility".toList =
      "cross_object_request".toList ++ "_visibility".toList from rfl,
      lookup_payloadOf _ network (i := 1) rfl (by decide), hcross.2.2.1, hnone _ (by decide),
      Option.or_none]
  · rw [Dict.get, show "cross_object_request_authorized_readers".toList =
      "cross_object_request".toList ++ "_authorized_readers".toList from rfl,
      lookup_payloadOf _ network (i := 1) rfl (by decide), hcross.2.2.2.1, hnone _ (by decide),
      Option.or_none]
  · rw [Dict.get, show "cross_object_request_resource_kind".toList =
      "cross_object_request".toList ++ "_resource_kind".toList from rfl,
      lookup_payloadOf _ network (i := 1) rfl (by decide), hcross.2.2.2.2, hnone _ (by decide),
      Option.or_none]

/-! ## The verdict in terms of the replies -/

theorem saysInAnyCase_optionalText {upper : Text → Text} {word : Text} {value : JsonValue} :
    saysInAnyCase upper word (optionalText value) = true ↔
      ∃ s, cleanText value = some s ∧ upper s = word := by
  unfold optionalText
  cases h : cleanText value with
  | none => simp [saysInAnyCase]
  | some s => simp [saysInAnyCase, strip_of_clean h]

/-- The body names the actor among its readers, in a list that is kept. -/
def Delegated (arguments body : Dict) : Prop :=
  ∃ readers, cleanTexts (body.get "authorized_readers".toList) = some readers ∧
    argumentText arguments "actor" ∈ readers

theorem any_readers_iff {arguments body : Dict} :
    (listOr (((cleanTexts (body.get "authorized_readers".toList)).map
        fun readers => .array (readers.map .text)).getD .null)).any
          (isText (argumentText arguments "actor")) = true ↔ Delegated arguments body := by
  unfold Delegated
  cases cleanTexts (body.get "authorized_readers".toList) with
  | none => simp [listOr]
  | some readers => simp [listOr, isText_iff]

/-- The replies, and the arguments, that establish the differential. -/
structure Established (upper : Text → Text) (arguments : Dict) (network : Nat → ProbeReply) :
    Prop where
  ownObject : argumentText arguments "own_object" = argumentText arguments "actor"
  crossObject : argumentText arguments "cross_object" ≠ argumentText arguments "actor"
  ownRead : (network 0).status = some 200
  ownOwner : cleanText ((network 0).body.get "owner".toList) =
    some (argumentText arguments "own_object")
  crossRead : (network 1).status = some 200
  crossOwner : cleanText ((network 1).body.get "owner".toList) =
    some (argumentText arguments "cross_object")
  controlled : (network 2).status = some 403
  unauthenticated : (network 3).status = some 401 ∨ (network 3).status = some 403
  notPublic : ¬ ∃ s, cleanText ((network 1).body.get "visibility".toList) = some s ∧
    upper s = "PUBLIC".toList
  notShared : ¬ ∃ s, cleanText ((network 1).body.get "resource_kind".toList) = some s ∧
    upper s = "SHARED".toList

/-- **The verdict on the payload of four replies.** -/
theorem verdict_facts_iff {str : JsonValue → Text} {upper : Text → Text} {arguments : Dict}
    {origin : Text} {network : Nat → ProbeReply} {payload : Dict} (horigin : origin ≠ [])
    (hreads : Reads arguments origin network payload)
    (htexts : ∀ key ∈ ["actor", "own_object", "cross_object"],
      arguments.get key.toList = .text (argumentText arguments key)) :
    (verdict (facts str upper payload arguments)).outcome = .consistentWithPrediction ↔
      Established upper arguments network ∧ ¬ Delegated arguments (network 1).body := by
  have hnamed : ∀ key ∈ ["actor", "own_object", "cross_object"],
      strOr str (orElse (payload.get key.toList) (arguments.get key.toList)) =
        argumentText arguments key := by
    intro key hkey
    rw [hreads.named key hkey, htexts key hkey, orElse, ite_self, strOr_text]
  obtain ⟨s0, hs0, hstatus0⟩ := hreads.statuses 0 _ rfl
  obtain ⟨s1, hs1, hstatus1⟩ := hreads.statuses 1 _ rfl
  obtain ⟨s2, hs2, hstatus2⟩ := hreads.statuses 2 _ rfl
  obtain ⟨s3, hs3, hstatus3⟩ := hreads.statuses 3 _ rfl
  have hfacts : facts str upper payload arguments =
      { ownerCanReadOwn := isNumber 200 (.integer s0) &&
          isText (argumentText arguments "own_object")
            (optionalText ((network 0).body.get "owner".toList)) &&
          argumentText arguments "own_object" == argumentText arguments "actor"
        actorCanReadCrossObject := isNumber 200 (.integer s1)
        returnedObjectIsCrossOwner := isNumber 200 (.integer s1) &&
          ((cleanText (optionalText ((network 1).body.get "owner".toList))).isSome &&
            isText (argumentText arguments "cross_object")
              (optionalText ((network 1).body.get "owner".toList))) &&
          argumentText arguments "cross_object" != argumentText arguments "actor"
        unauthenticatedDenied :=
          isNumber 401 (.integer s3) || isNumber 403 (.integer s3)
        secureControlDenied := isNumber 403 (.integer s2)
        sharedOrigin := origin != [] && isText origin (.text origin)
        crossStatusOnly := isNumber 200 (.integer s1) &&
          !((cleanText (optionalText ((network 1).body.get "owner".toList))).isSome &&
            isText (argumentText arguments "cross_object")
              (optionalText ((network 1).body.get "owner".toList)))
        notExplicitlyPublic := !saysInAnyCase upper "PUBLIC".toList
          (optionalText ((network 1).body.get "visibility".toList))
        notExplicitlyDelegated :=
          !(listOr (((cleanTexts ((network 1).body.get "authorized_readers".toList)).map
            fun readers => .array (readers.map .text)).getD .null)).any
              (isText (argumentText arguments "actor"))
        notSharedResource := !saysInAnyCase upper "SHARED".toList
          (optionalText ((network 1).body.get "resource_kind".toList)) } := by
    unfold facts
    dsimp only
    rw [hnamed "actor" (by simp), hnamed "own_object" (by simp), hnamed "cross_object" (by simp),
      hreads.origin, orElse_text horigin, strOr_text,
      show payload.get "owner_request_status".toList = .integer s0 from hstatus0,
      show payload.get "cross_object_request_status".toList = .integer s1 from hstatus1,
      show payload.get "secure_control_status".toList = .integer s2 from hstatus2,
      show payload.get "unauthenticated_control_status".toList = .integer s3 from hstatus3,
      hreads.owner, hreads.crossOwner, hreads.visibility, hreads.readers, hreads.kind]
    rfl
  have hproven : ((cleanText (optionalText ((network 1).body.get "owner".toList))).isSome &&
      isText (argumentText arguments "cross_object")
        (optionalText ((network 1).body.get "owner".toList))) = true ↔
      cleanText ((network 1).body.get "owner".toList) =
        some (argumentText arguments "cross_object") := by
    rw [Bool.and_eq_true, isText_optionalText, isSome_cleanText_optionalText]
    exact ⟨fun h => h.2, fun h => ⟨by rw [h]; rfl, h⟩⟩
  rw [verdict_consistent_iff, hfacts, Facts.unauthorizedDifferential]
  simp only [Bool.and_eq_true, Bool.or_eq_true, Bool.not_eq_true', ← Bool.not_eq_true,
    isNumber_integer, isText_optionalText, hproven, saysInAnyCase_optionalText, any_readers_iff, beq_iff_eq,
    bne_iff_ne, ne_eq]
  constructor
  · rintro ⟨⟨⟨⟨⟨⟨⟨⟨⟨⟨⟨hown, howner⟩, hactor⟩, hread⟩, ⟨-, hcross⟩, hother⟩, hunauth⟩, hsecure⟩, -⟩,
      hpublic⟩, hdelegated⟩, hshared⟩, -⟩
    exact ⟨⟨hactor, hother, hs0.trans (congrArg some hown), howner,
      hs1.trans (congrArg some hread), hcross, hs2.trans (congrArg some hsecure),
      hunauth.imp (fun h => hs3.trans (congrArg some h)) fun h => hs3.trans (congrArg some h),
      hpublic, hshared⟩, hdelegated⟩
  · rintro ⟨hestablished, hdelegated⟩
    have hs : ∀ {i : Nat} {s n : Int}, (network i).status = some s →
        (network i).status = some n → s = n :=
      fun hs hn => Option.some.inj (hs.symm.trans hn)
    have hread := hs hs1 hestablished.crossRead
    exact ⟨⟨⟨⟨⟨⟨⟨⟨⟨⟨⟨hs hs0 hestablished.ownRead, hestablished.ownOwner⟩,
      hestablished.ownObject⟩, hread⟩, ⟨hread, hestablished.crossOwner⟩,
      hestablished.crossObject⟩, hestablished.unauthenticated.imp (hs hs3) (hs hs3)⟩,
      hs hs2 hestablished.controlled⟩, horigin, isText_iff.mpr rfl⟩, hestablished.notPublic⟩, hdelegated⟩,
      hestablished.notShared⟩, fun h => h.2 hestablished.crossOwner⟩

/-! ## A probe that goes through -/

section Probe

variable {L : UrlCodecs} {lets : ClientRequest → Bool} {network : Nat → ProbeReply}
variable {request : Request} {raw : Dict}

/-- What `execute_http_authorization` has checked before it asks. -/
structure Prepared (L : UrlCodecs) (request : Request) (probe : Probe) : Prop where
  ok : prepareAuthorization L request = .ok probe
  texts : ∀ key ∈ ["actor", "own_object", "cross_object"],
    request.arguments.get key.toList = .text (argumentText request.arguments key)
  origin : probe.origin = (argumentText request.arguments "authorized_origin").strip
  originNotBlank : probe.origin ≠ []
  planned : probe.planned = authorizationPlanned probe.origin
    (argumentText request.arguments "actor").strip
    (argumentText request.arguments "own_object").strip
    (argumentText request.arguments "cross_object").strip (authorizationMode request.arguments)

theorem prepared_of_ok {probe : Probe} (h : prepareAuthorization L request = .ok probe) :
    Prepared L request probe := by
  have hok := h
  unfold prepareAuthorization at h
  split at h
  · cases h
  next envelope henvelope =>
    split at h
    next origin actor ownObject crossObject horigin hactor hown hcross =>
      obtain ⟨-, rfl, hblank⟩ := textArgument_some horigin
      obtain ⟨hactorGet, rfl, -⟩ := textArgument_some hactor
      obtain ⟨hownGet, rfl, -⟩ := textArgument_some hown
      obtain ⟨hcrossGet, rfl, -⟩ := textArgument_some hcross
      split at h
      · cases h
      next mode hmode =>
        obtain ⟨_, -, h⟩ := bind_eq_ok h
        obtain ⟨_, -, h⟩ := bind_eq_ok h
        obtain ⟨_, -, h⟩ := bind_eq_ok h
        obtain rfl := Except.ok.inj h
        refine ⟨hok, ?_, rfl, hblank, ?_⟩
        · intro key hkey
          rcases List.mem_cons.mp hkey with rfl | hkey
          · exact hactorGet
          rcases List.mem_cons.mp hkey with rfl | hkey
          · exact hownGet
          · rw [List.mem_singleton.mp hkey]
            exact hcrossGet
        · rw [authorizationMode, hmode]
          rfl
    · cases h

/-- The requests of a probe are those that its arguments name, and all of them
are sent. -/
structure SentForPlan (L : UrlCodecs) (lets : ClientRequest → Bool)
    (network : Nat → ProbeReply) (request : Request) : Prop where
  prepared : ∃ probe, prepareAuthorization L request = .ok probe ∧
    probe.origin = (argumentText request.arguments "authorized_origin").strip ∧
    (∀ planned ∈ probe.planned, originOf L planned.url = some probe.origin) ∧
    ∃ pre, (pre = "/vulnerable".toList ∨ pre = "/secure".toList) ∧
      let actor := argumentText request.arguments "actor"
      let account (pre : Text) (key : String) : Text :=
        probe.origin ++ pre ++ "/accounts/".toList ++ argumentText request.arguments key
      probe.planned =
        [probeRequest "GET".toList (account pre "own_object") (some actor) none,
          probeRequest "GET".toList (account pre "cross_object") (some actor) none,
          probeRequest "GET".toList (account "/secure".toList "cross_object") (some actor) none,
          probeRequest "GET".toList (account pre "cross_object") none none]
  sent : ∀ world : World, world.lets = lets → Answers network world →
    runProbe L world (prepareAuthorization L request) = (4, ⟨.succeeded, none⟩)

/-- **A probe that goes through**: what it has checked, sent and kept. -/
theorem executeAuthorization_eq_ok (h : executeAuthorization L lets network request = .ok raw) :
    ∃ probe, Prepared L request probe ∧
      raw.get "authorized_origin".toList = .text probe.origin ∧
      (∀ planned ∈ probe.planned, originOf L planned.url = some probe.origin) ∧
      (∀ world : World, world.lets = lets → Answers network world →
        runProbe L world (prepareAuthorization L request) =
          (probe.planned.length, ⟨.succeeded, none⟩)) ∧
      (authorizationMode request.arguments = "redirect".toList →
        raw.get "owner_request".toList = .null) ∧
      (authorizationMode request.arguments ≠ "redirect".toList →
        ∀ i key, authorizationKeys[i]? = some key → ∃ request status body,
          network i = .answered status body ∧
            raw.get key = .object (objectPayload request status body)) := by
  unfold executeAuthorization at h
  obtain ⟨probe, hprobe, h⟩ := bind_eq_ok h
  have hprepared := prepared_of_ok hprobe
  have hlength : (planKeys authorizationKeys
      (authorizationMode request.arguments = "redirect".toList)).length =
        probe.planned.length := by
    rw [hprepared.planned, authorizationPlanned]
    by_cases hmode : authorizationMode request.arguments = "redirect".toList
    · rw [decide_eq_true hmode, if_pos hmode]
      rfl
    · rw [decide_eq_false hmode, if_neg hmode]
      rfl
  obtain ⟨horigins, hsent, hothers, hreplies⟩ := gather_plan_eq_ok hlength (by decide) h
  refine ⟨probe, hprepared, ?_, horigins, ?_, ?_, ?_⟩
  · rw [hothers _ (by decide) (Or.inr (by decide))]
    rfl
  · intro world hlets hanswers
    rw [hprobe]
    exact hsent world hlets hanswers
  · intro hmode
    rw [hothers _ (by decide) (Or.inl (decide_eq_true hmode))]
    rfl
  · exact fun hmode => hreplies (decide_eq_false hmode)

end Probe

/-! ## The assessment -/

/-- The body of the reply about the object of somebody else says that the actor
may read it, or does not say that it is the object of the plan. -/
def Permitted (upper : Text → Text) (arguments body : Dict) : Prop :=
  (∃ s, cleanText (body.get "visibility".toList) = some s ∧ upper s = "PUBLIC".toList) ∨
  (∃ items, body.get "authorized_readers".toList = .array items ∧
    ∃ item ∈ items, cleanText item = some (argumentText arguments "actor").strip) ∨
  (∃ s, cleanText (body.get "resource_kind".toList) = some s ∧ upper s = "SHARED".toList) ∨
  cleanText (body.get "owner".toList) ≠ some (argumentText arguments "cross_object")

/-- The body lists the actor among its readers, beside an entry that is no text
or blank. -/
def ListedAmongOthers (arguments body : Dict) : Prop :=
  ∃ items, body.get "authorized_readers".toList = .array items ∧
    (∃ item ∈ items, cleanText item = some (argumentText arguments "actor").strip) ∧
    ∃ item ∈ items, cleanText item = none

/-- **When the assessment is that the prediction holds**, in terms of the
arguments and of the replies. -/
theorem assess_consistent_iff {str : JsonValue → Text} {upper : Text → Text} {L : UrlCodecs}
    {lets : ClientRequest → Bool} {network : Nat → ProbeReply} {request : Request} {raw : Dict}
    (h : executeAuthorization L lets network request = .ok raw) {plan : ProbeAssessment.ExperimentPlan}
    (hplan : plan.arguments = request.arguments) (feedback : ExperimentFeedback)
    (observedAt : Except String Instant) :
    Consistent ((evaluator str upper).assess normalize request.arguments
        ⟨.succeeded, .object raw, observedAt⟩ plan feedback) ↔
      ((∃ instant, observedAt = .ok instant) ∧
        authorizationMode request.arguments ≠ "redirect".toList ∧
        Assessable (evaluator str upper) plan feedback) ∧
      Established upper request.arguments network ∧
      ¬ Delegated request.arguments (network 1).body := by
  obtain ⟨probe, hprepared, hraw, -, -, hredirect, hreplies⟩ := executeAuthorization_eq_ok h
  by_cases hmode : authorizationMode request.arguments = "redirect".toList
  · -- The only reply of a redirect is under none of the keys.
    refine ⟨?_, fun hright => absurd hmode hright.1.2.1⟩
    rintro ⟨a, ha, -⟩
    obtain ⟨drafts, hdrafts, -⟩ := bind_eq_ok ha
    obtain ⟨payload, hpayload, -⟩ := bind_eq_ok hdrafts
    rw [authorizationKeys, List.foldlM_cons] at hpayload
    obtain ⟨first, hfirst, -⟩ := bind_eq_ok hpayload
    rw [normalizeReply, hredirect hmode] at hfirst
    cases hfirst
  · have hfour := hreplies hmode
    have hstatus : ∀ i < 4, (network i).status.isSome := by
      intro i hi
      obtain ⟨_, status, body, hreply, -⟩ := hfour i _ (List.getElem?_eq_getElem hi)
      rw [hreply]
      rfl
    have hreads : Reads request.arguments probe.origin network
        (payloadOf (payloadStart request.arguments raw) network) :=
      reads_payloadOf hprepared.originNotBlank hraw hstatus
    have hverdict : (verdict (facts str upper
        (payloadOf (payloadStart request.arguments raw) network) request.arguments)).outcome =
          .consistentWithPrediction ↔ _ :=
      verdict_facts_iff hprepared.originNotBlank hreads hprepared.texts
    cases hat : observedAt with
    | error error =>
      have hnormalize : normalize request.arguments ⟨.succeeded, .object raw, .error error⟩ =
          .error error := by
        simp only [normalize, normalizeReplies_eq hfour, ok_bind]
        rfl
      constructor
      · rintro ⟨a, ha, -⟩
        rw [Evaluator.assess, hnormalize] at ha
        cases ha
      · rintro ⟨⟨⟨instant, hinstant⟩, -⟩, -⟩
        cases hinstant
    | ok instant =>
      have hnormalize : normalize request.arguments ⟨.succeeded, .object raw, .ok instant⟩ =
          .ok [⟨observationKind, payloadOf (payloadStart request.arguments raw) network,
            instant⟩] := by
        simp only [normalize, normalizeReplies_eq hfour, ok_bind]
        rfl
      rw [Evaluator.assess_consistent_iff (evaluator str upper) hnormalize rfl]
      constructor
      · rintro ⟨hassessable, hconsistent⟩
        rw [hplan] at hconsistent
        exact ⟨⟨⟨instant, rfl⟩, hmode, hassessable⟩, hverdict.mp hconsistent⟩
      · rintro ⟨⟨-, -, hassessable⟩, hestablished⟩
        refine ⟨hassessable, ?_⟩
        rw [hplan]
        exact hverdict.mpr hestablished

/-- The plan is that of the arguments where the differential is established: the
names that the owners are compared with have no blanks around them. -/
theorem sentForPlan {upper : Text → Text} {L : UrlCodecs} {lets : ClientRequest → Bool}
    {network : Nat → ProbeReply} {request : Request} {raw : Dict}
    (h : executeAuthorization L lets network request = .ok raw)
    (hmode : authorizationMode request.arguments ≠ "redirect".toList)
    (hestablished : Established upper request.arguments network) :
    SentForPlan L lets network request := by
  obtain ⟨probe, hprepared, -, horigins, hsent, -, -⟩ := executeAuthorization_eq_ok h
  have hown := strip_of_clean hestablished.ownOwner
  have hactor := hown
  rw [hestablished.ownObject] at hactor
  have hcross := strip_of_clean hestablished.crossOwner
  have hplanned := hprepared.planned
  rw [hactor, hown, hcross, authorizationPlanned, if_neg hmode] at hplanned
  refine ⟨⟨probe, hprepared.ok, hprepared.origin, horigins, _, ?_, hplanned⟩, ?_⟩
  · split
    · exact Or.inl rfl
    · exact Or.inr rfl
  · intro world hlets hanswers
    rw [hsent world hlets hanswers, hplanned]
    rfl

/-- **Permitted reads are not reported, but for a list of readers that is
dropped**: of the results of a probe that goes through, an assessment that the
prediction holds is right about the body of the reply, and about the requests
that were sent, unless the body lists the actor beside an entry that is no text
or blank, and the replies establish the differential for the rest. -/
theorem permitted_reads_spared_iff (str : JsonValue → Text) (upper : Text → Text)
    (L : UrlCodecs) (lets : ClientRequest → Bool) (network : Nat → ProbeReply)
    (request : Request) {raw : Dict}
    (h : executeAuthorization L lets network request = .ok raw)
    (plan : ProbeAssessment.ExperimentPlan) (hplan : plan.arguments = request.arguments)
    (feedback : ExperimentFeedback) (observedAt : Except String Instant) :
    (Consistent ((evaluator str upper).assess normalize request.arguments
        ⟨.succeeded, .object raw, observedAt⟩ plan feedback) →
      ¬ Permitted upper request.arguments (network 1).body ∧
        SentForPlan L lets network request) ↔
    ¬ (ListedAmongOthers request.arguments (network 1).body ∧
      Established upper request.arguments network ∧
      (∃ instant, observedAt = .ok instant) ∧
      authorizationMode request.arguments ≠ "redirect".toList ∧
      Assessable (evaluator str upper) plan feedback) := by
  rw [assess_consistent_iff h hplan feedback observedAt]
  constructor
  · rintro hspared ⟨⟨items, hitems, hlisted, hother⟩, hestablished, hresult⟩
    have hdropped : ¬ Delegated request.arguments (network 1).body := by
      rintro ⟨readers, hreaders, -⟩
      rw [hitems] at hreaders
      obtain ⟨_, hsame, hall, -⟩ := cleanTexts_eq_some.mp hreaders
      obtain rfl := JsonValue.array.inj hsame
      obtain ⟨item, hmem, hnone⟩ := hother
      have hsome := hall item hmem
      rw [hnone] at hsome
      cases hsome
    exact (hspared ⟨hresult, hestablished, hdropped⟩).1 (Or.inr (Or.inl ⟨items, hitems, hlisted⟩))
  · rintro hno ⟨hresult, hestablished, hdelegated⟩
    refine ⟨?_, sentForPlan h hresult.2.1 hestablished⟩
    rintro (hpublic | ⟨items, hitems, hlisted⟩ | hshared | howner)
    · exact hestablished.notPublic hpublic
    · rcases listed_or_dropped hlisted with ⟨readers, hreaders, hactor⟩ | hother
      · have hstripped := strip_of_clean hestablished.ownOwner
        rw [hestablished.ownObject] at hstripped
        rw [hstripped] at hactor
        exact hdelegated ⟨readers, by rw [hitems]; exact hreaders, hactor⟩
      · exact hno ⟨⟨items, hitems, hlisted, hother⟩, hestablished, hresult⟩
    · exact hestablished.notShared hshared
    · exact howner hestablished.crossOwner

/-! ## A local application -/

/-- A probe of the object of `b`, as `a`. -/
def labRequest : Request where
  workerCapability := "http.authorization.differential".toList
  action := "probe".toList
  capabilityVersion := packagedVersion
  capabilityDefinitionFingerprint := "f".toList
  arguments := [("authorized_origin".toList, .text "http://127.0.0.1:8080".toList),
    ("actor".toList, .text ['a']), ("own_object".toList, .text ['a']),
    ("cross_object".toList, .text ['b']), ("mode".toList, .text "vulnerable".toList)]
  networkEnvelope := some HttpTransaction.rootEnvelope
  resolvedSecretValues := none
  maxAttemptedRequests := none

/-- The application gives out the object of `b`, and names its readers. -/
def labReplies (readers : List JsonValue) : Nat → ProbeReply
  | 0 => .answered 200 (some (.object [("owner".toList, .text ['a'])]))
  | 1 => .answered 200 (some (.object [("owner".toList, .text ['b']),
      ("authorized_readers".toList, .array readers)]))
  | 2 => .answered 403 none
  | _ => .answered 401 none

def labPlan : ProbeAssessment.ExperimentPlan where
  hypothesisId := ['h']
  evaluationStrategy := "http.authorization.differential.v1".toList
  requiredCapability := "http.authorization.differential".toList
  arguments := labRequest.arguments

def labFeedback : ExperimentFeedback where
  hypothesisId := ['h']
  evaluationStrategy := "http.authorization.differential.v1".toList
  executionOutcome := "OBSERVATION_PRODUCED".toList
  observations := []
  invocationStatus := some "SUCCEEDED".toList
  experimentExecutionState := some "EXECUTION_SUCCEEDED".toList
  attemptState := some "COMPLETED".toList

/-- Where the readers are texts, and `a` is none of them, the assessment is
right about the body. -/
theorem permitted_reads_spared_iff_strangers :
    ∃ raw, executeAuthorization asciiCodecs (fun _ => true) (labReplies [.text ['c']])
        labRequest = .ok raw ∧
      (Consistent ((evaluator (fun _ => []) HttpTransaction.asciiUpper).assess normalize
          labRequest.arguments ⟨.succeeded, .object raw, .ok 0⟩ labPlan labFeedback) →
        ¬ Permitted HttpTransaction.asciiUpper labRequest.arguments
            (labReplies [.text ['c']] 1).body ∧
          SentForPlan asciiCodecs (fun _ => true) (labReplies [.text ['c']]) labRequest) := by
  refine ⟨_, rfl, (permitted_reads_spared_iff _ _ asciiCodecs _ _ labRequest rfl labPlan rfl
    labFeedback (.ok 0)).mpr ?_⟩
  rintro ⟨⟨items, hitems, -, item, hitem, hnone⟩, -⟩
  obtain rfl : [JsonValue.text ['c']] = items := JsonValue.array.inj hitems
  rw [List.mem_singleton.mp hitem] at hnone
  cases hnone

/-- **A read that the application permits is reported**: the list of readers
names `a`, and `null` after it. -/
theorem delegated_read_reported :
    ∃ raw, executeAuthorization asciiCodecs (fun _ => true) (labReplies [.text ['a'], .null])
        labRequest = .ok raw ∧
      Permitted HttpTransaction.asciiUpper labRequest.arguments
        (labReplies [.text ['a'], .null] 1).body ∧
      Consistent ((evaluator (fun _ => []) HttpTransaction.asciiUpper).assess normalize
        labRequest.arguments ⟨.succeeded, .object raw, .ok 0⟩ labPlan labFeedback) :=
  ⟨_, rfl, Or.inr (Or.inl ⟨_, rfl, .text ['a'], List.mem_cons_self, rfl⟩), _, rfl, rfl⟩

end Zest.AuthorizationDifferential
