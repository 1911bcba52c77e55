import Zest.WorkerExecutors

/-! # What the probes keep of their replies

`WorkerExecutors` counts the requests of the two probes.  This module says what
a probe that goes through returns: for each of its requests the status of the
reply, and a few members of its body.  A member that is not what the probe
expects is left out without a word, and a list is left out as a whole as soon
as one of its entries is not.
-/
namespace Zest.ProbeReplies

open WorkerExecutors

/-! ## Members of a body -/

/-- `value.strip()`, of a text that is not blank. -/
def cleanText : JsonValue → Option Text
  | .text s => if s.strip = [] then none else some s.strip
  | _ => none

/-- `[entry.strip() for entry in value]`, of a list of texts that are not blank. -/
def cleanTexts : JsonValue → Option (List Text)
  | .array items =>
    if items.all fun item => (cleanText item).isSome then some (items.filterMap cleanText)
    else none
  | _ => none

theorem cleanText_eq_some {value : JsonValue} {s : Text} :
    cleanText value = some s ↔ ∃ raw, value = .text raw ∧ raw.strip = s ∧ s ≠ [] := by
  constructor
  · intro h
    cases value with
    | text raw =>
      rw [cleanText] at h
      by_cases hblank : raw.strip = []
      · rw [if_pos hblank] at h
        cases h
      · rw [if_neg hblank] at h
        obtain rfl := Option.some.inj h
        exact ⟨raw, rfl, rfl, hblank⟩
    | null => cases h
    | bool b => cases h
    | integer n => cases h
    | real value => cases h
    | array items => cases h
    | object entries => cases h
  · rintro ⟨raw, rfl, rfl, hblank⟩
    rw [cleanText, if_neg hblank]

theorem cleanText_text {s : Text} (hs : s ≠ []) (hstrip : s.strip = s) :
    cleanText (.text s) = some s :=
  cleanText_eq_some.mpr ⟨s, rfl, hstrip, hs⟩

/-- What is clean is stripped, and stays as it is. -/
theorem cleanText_clean {value : JsonValue} {s : Text} (h : cleanText value = some s) :
    cleanText (.text s) = some s := by
  obtain ⟨raw, -, rfl, hblank⟩ := cleanText_eq_some.mp h
  exact cleanText_text hblank (Text.strip_strip raw)

theorem strip_of_clean {value : JsonValue} {s : Text} (h : cleanText value = some s) :
    s.strip = s := by
  obtain ⟨raw, -, rfl, -⟩ := cleanText_eq_some.mp h
  exact Text.strip_strip raw

theorem cleanTexts_eq_some {value : JsonValue} {readers : List Text} :
    cleanTexts value = some readers ↔ ∃ items, value = .array items ∧
      (∀ item ∈ items, (cleanText item).isSome) ∧ items.filterMap cleanText = readers := by
  constructor
  · intro h
    cases value with
    | array items =>
      rw [cleanTexts] at h
      by_cases hall : items.all fun item => (cleanText item).isSome
      · rw [if_pos hall] at h
        exact ⟨items, rfl, List.all_eq_true.mp hall, Option.some.inj h⟩
      · rw [if_neg hall] at h
        cases h
    | null => cases h
    | bool b => cases h
    | integer n => cases h
    | real value => cases h
    | text s => cases h
    | object entries => cases h
  · rintro ⟨items, rfl, hall, rfl⟩
    rw [cleanTexts, if_pos (List.all_eq_true.mpr hall)]

theorem cleanTexts_texts {readers : List Text}
    (h : ∀ reader ∈ readers, cleanText (.text reader) = some reader) :
    cleanTexts (.array (readers.map .text)) = some readers := by
  refine cleanTexts_eq_some.mpr ⟨_, rfl, ?_, ?_⟩
  · intro item hitem
    obtain ⟨reader, hreader, rfl⟩ := List.mem_map.mp hitem
    rw [h reader hreader]
    rfl
  · induction readers with
    | nil => rfl
    | cons reader readers ih =>
      obtain ⟨hreader, hrest⟩ := List.forall_mem_cons.mp h
      rw [List.map_cons, List.filterMap_cons_some hreader, ih hrest]

/-- A clean list stays as it is. -/
theorem cleanTexts_clean {value : JsonValue} {readers : List Text}
    (h : cleanTexts value = some readers) :
    cleanTexts (.array (readers.map .text)) = some readers := by
  obtain ⟨items, -, hall, rfl⟩ := cleanTexts_eq_some.mp h
  refine cleanTexts_texts fun reader hreader => ?_
  obtain ⟨item, -, hitem⟩ := List.mem_filterMap.mp hreader
  exact cleanText_clean hitem

/-- **A list that names somebody, and is dropped**: some other entry of it is
not what it should be. -/
theorem listed_or_dropped {items : List JsonValue} {s : Text}
    (hlisted : ∃ item ∈ items, cleanText item = some s) :
    (∃ readers, cleanTexts (.array items) = some readers ∧ s ∈ readers) ∨
      ∃ item ∈ items, cleanText item = none := by
  obtain ⟨item, hmem, hitem⟩ := hlisted
  by_cases hall : ∀ other ∈ items, (cleanText other).isSome
  · exact Or.inl ⟨_, cleanTexts_eq_some.mpr ⟨items, rfl, hall, rfl⟩,
      List.mem_filterMap.mpr ⟨item, hmem, hitem⟩⟩
  · push Not at hall
    obtain ⟨other, hother, hnone⟩ := hall
    exact Or.inr ⟨other, hother, by simpa using hnone⟩

/-! ## What is kept -/

/-- `if …: observed[name] = value.strip()`. -/
def putText (observed : Dict) (name : Text) : Option Text → Dict
  | some s => observed.set name (.text s)
  | none => observed

/-- The same, of a list. -/
def putTexts (observed : Dict) (name : Text) : Option (List Text) → Dict
  | some readers => observed.set name (.array (readers.map .text))
  | none => observed

theorem lookup_putText (observed : Dict) (name : Text) (s : Option Text) (k : Text) :
    (putText observed name s).lookup k =
      if k = name then (s.map .text).or (observed.lookup k) else observed.lookup k := by
  cases s with
  | none => simp [putText]
  | some s =>
    rw [putText, Dict.lookup_set]
    by_cases h : k = name <;> simp [h]

theorem lookup_putTexts (observed : Dict) (name : Text) (readers : Option (List Text)) (k : Text) :
    (putTexts observed name readers).lookup k =
      if k = name then (readers.map fun readers => .array (readers.map .text)).or
        (observed.lookup k) else observed.lookup k := by
  cases readers with
  | none => simp [putTexts]
  | some readers =>
    rw [putTexts, Dict.lookup_set]
    by_cases h : k = name <;> simp [h]

theorem nodup_putText {observed : Dict} (name : Text) (s : Option Text)
    (h : (observed.map (·.1)).Nodup) : ((putText observed name s).map (·.1)).Nodup := by
  cases s with
  | none => exact h
  | some s => exact Dict.nodup_set name _ h

theorem nodup_putTexts {observed : Dict} (name : Text) (readers : Option (List Text))
    (h : (observed.map (·.1)).Nodup) : ((putTexts observed name readers).map (·.1)).Nodup := by
  cases readers with
  | none => exact h
  | some readers => exact Dict.nodup_set name _ h

/-- `_observed_object_fields`. -/
def observedObjectFields (body : Dict) : Dict :=
  let observed := putText [] "object_owner".toList (cleanText (body.get "owner".toList))
  let observed := putText observed "object_visibility".toList
    (cleanText (body.get "visibility".toList))
  let observed := putTexts observed "object_authorized_readers".toList
    (cleanTexts (body.get "authorized_readers".toList))
  putText observed "object_resource_kind".toList (cleanText (body.get "resource_kind".toList))

/-- The members of `_observed_workflow_fields` that are texts. -/
def workflowTexts : List Text :=
  ["request_id".toList, "owner".toList, "state".toList, "approved_by".toList,
    "actor_role".toList, "approve_requires_role".toList, "current_state".toList,
    "error".toList]

/-- `value is True`. -/
def isTrue : JsonValue → Bool
  | .bool b => b
  | _ => false

/-- `_observed_workflow_fields`. -/
def observedWorkflowFields (body : Dict) : Dict :=
  let observed := workflowTexts.foldl
    (fun observed key => putText observed key (cleanText (body.get key))) []
  let observed := putTexts observed "delegated_reviewers".toList
    (cleanTexts (body.get "delegated_reviewers".toList))
  let observed := putTexts observed "approve_from_states".toList
    (cleanTexts (body.get "approve_from_states".toList))
  if isTrue (body.get "ok".toList) then observed.set "ok".toList (.bool true) else observed

theorem nodup_observedObjectFields (body : Dict) :
    ((observedObjectFields body).map (·.1)).Nodup :=
  nodup_putText _ _ (nodup_putTexts _ _ (nodup_putText _ _ (nodup_putText _ _ List.nodup_nil)))

theorem nodup_observedWorkflowFields (body : Dict) :
    ((observedWorkflowFields body).map (·.1)).Nodup := by
  have hfold : ∀ (keys : List Text) (observed : Dict), (observed.map (·.1)).Nodup →
      ((keys.foldl (fun observed key => putText observed key (cleanText (body.get key)))
        observed).map (·.1)).Nodup := by
    intro keys
    induction keys with
    | nil => exact fun _ h => h
    | cons key keys ih => exact fun observed h => ih _ (nodup_putText key _ h)
  have htexts := nodup_putTexts "approve_from_states".toList
    (cleanTexts (body.get "approve_from_states".toList))
    (nodup_putTexts "delegated_reviewers".toList
      (cleanTexts (body.get "delegated_reviewers".toList))
      (hfold workflowTexts [] List.nodup_nil))
  unfold observedWorkflowFields
  dsimp only
  split
  · exact Dict.nodup_set _ _ htexts
  · exact htexts

/-- What the Worker keeps of an object. -/
theorem lookup_observedObjectFields (body : Dict) :
    (observedObjectFields body).lookup "object_owner".toList =
        (cleanText (body.get "owner".toList)).map .text ∧
      (observedObjectFields body).lookup "object_visibility".toList =
        (cleanText (body.get "visibility".toList)).map .text ∧
      (observedObjectFields body).lookup "object_authorized_readers".toList =
        (cleanTexts (body.get "authorized_readers".toList)).map
          (fun readers => .array (readers.map .text)) ∧
      (observedObjectFields body).lookup "object_resource_kind".toList =
        (cleanText (body.get "resource_kind".toList)).map .text ∧
      (observedObjectFields body).lookup "status".toList = none := by
  simp [observedObjectFields, lookup_putText, lookup_putTexts, Dict.lookup_nil]

/-- A text of a workflow is kept under its own name. -/
theorem lookup_workflowText (body : Dict) {key : Text} (h : key ∈ workflowTexts) :
    (observedWorkflowFields body).lookup key = (cleanText (body.get key)).map .text := by
  have hfold : ∀ (keys : List Text) (observed : Dict),
      (keys.foldl (fun observed key => putText observed key (cleanText (body.get key)))
        observed).lookup key =
      if key ∈ keys then ((cleanText (body.get key)).map .text).or (observed.lookup key)
      else observed.lookup key := by
    intro keys
    induction keys with
    | nil => exact fun _ => rfl
    | cons other keys ih =>
      intro observed
      rw [List.foldl_cons, ih, lookup_putText]
      by_cases hother : key = other
      · subst hother
        cases cleanText (body.get key) <;> simp
      · simp [hother]
  have hne : ∀ name, name ∈ ["delegated_reviewers".toList, "approve_from_states".toList,
      "ok".toList] → key ≠ name := by
    rintro name hname rfl
    revert h
    rcases List.mem_cons.mp hname with rfl | hname
    · decide
    rcases List.mem_cons.mp hname with rfl | hname
    · decide
    rw [List.mem_singleton.mp hname]
    decide
  have hlists : ∀ observed : Dict, ((putTexts (putTexts observed "delegated_reviewers".toList
      (cleanTexts (body.get "delegated_reviewers".toList))) "approve_from_states".toList
      (cleanTexts (body.get "approve_from_states".toList)))).lookup key =
        observed.lookup key := by
    intro observed
    rw [lookup_putTexts, if_neg (hne _ (by simp)), lookup_putTexts, if_neg (hne _ (by simp))]
  unfold observedWorkflowFields
  dsimp only
  split
  · rw [Dict.lookup_set, if_neg (hne _ (by simp)), hlists, hfold, if_pos h, Dict.lookup_nil,
      Option.or_none]
  · rw [hlists, hfold, if_pos h, Dict.lookup_nil, Option.or_none]

/-- A name that no text of a workflow has. -/
theorem lookup_foldl_putText_of_not_mem (body : Dict) {key : Text} (keys : List Text)
    (observed : Dict) (h : key ∉ keys) :
    (keys.foldl (fun observed key => putText observed key (cleanText (body.get key)))
      observed).lookup key = observed.lookup key := by
  induction keys generalizing observed with
  | nil => rfl
  | cons other keys ih =>
    obtain ⟨hne, hrest⟩ := List.ne_and_not_mem_of_not_mem_cons h
    rw [List.foldl_cons, ih _ hrest, lookup_putText, if_neg hne]

/-- What else the Worker keeps of a workflow. -/
theorem lookup_observedWorkflowFields (body : Dict) :
    (observedWorkflowFields body).lookup "delegated_reviewers".toList =
        (cleanTexts (body.get "delegated_reviewers".toList)).map
          (fun readers => .array (readers.map .text)) ∧
      (observedWorkflowFields body).lookup "approve_from_states".toList =
        (cleanTexts (body.get "approve_from_states".toList)).map
          (fun states => .array (states.map .text)) ∧
      (observedWorkflowFields body).lookup "status".toList = none := by
  have htexts : ∀ key, key ∉ workflowTexts →
      (workflowTexts.foldl
        (fun observed key => putText observed key (cleanText (body.get key))) []).lookup key =
        none :=
    fun key hkey => lookup_foldl_putText_of_not_mem body workflowTexts [] hkey
  unfold observedWorkflowFields
  dsimp only
  split
  · refine ⟨?_, ?_, ?_⟩
    · rw [Dict.lookup_set, if_neg (by decide), lookup_putTexts, if_neg (by decide),
        lookup_putTexts, if_pos rfl, htexts _ (by decide), Option.or_none]
    · rw [Dict.lookup_set, if_neg (by decide), lookup_putTexts, if_pos rfl, lookup_putTexts,
        if_neg (by decide), htexts _ (by decide), Option.or_none]
    · rw [Dict.lookup_set, if_neg (by decide), lookup_putTexts, if_neg (by decide),
        lookup_putTexts, if_neg (by decide), htexts _ (by decide)]
  · refine ⟨?_, ?_, ?_⟩
    · rw [lookup_putTexts, if_neg (by decide), lookup_putTexts, if_pos rfl, htexts _ (by decide),
        Option.or_none]
    · rw [lookup_putTexts, if_pos rfl, lookup_putTexts, if_neg (by decide), htexts _ (by decide),
        Option.or_none]
    · rw [lookup_putTexts, if_neg (by decide), lookup_putTexts, if_neg (by decide),
        htexts _ (by decide)]

/-! ## A probe that goes through -/

/-- How a request of a probe ends. -/
inductive ProbeReply where
  /-- An answer; the body is what `json.loads` makes of it, if anything. -/
  | answered (status : Int) (body : Option JsonValue)
  /-- A redirect, a body over the bound, or an exception. -/
  | ended (answer : Answer)

/-- The status of an answer. -/
def ProbeReply.status : ProbeReply → Option Int
  | .answered status _ => some status
  | .ended _ => none

/-- The members of a body that is an object. -/
def ProbeReply.body : ProbeReply → Dict
  | .answered _ (some (.object entries)) => entries
  | _ => []

/-- The payload of a reply: what it starts with, and what is observed. -/
def observe (fields : Dict → Dict) (start : Dict) : Option JsonValue → Dict
  | some (.object entries) => start.update (fields entries)
  | _ => start

section Gathering

variable (L : UrlCodecs) (lets : ClientRequest → Bool) (network : Nat → ProbeReply)
  (payload : ClientRequest → Int → Option JsonValue → Dict)

/-- The loop over the planned requests, after `sent` of them. -/
def gather (envelope : BrowserNetworkEnvelope) (origin : Text) :
    Nat → Dict → List (Text × ClientRequest) → Except Answer Dict
  | _, raw, [] => .ok raw
  | sent, raw, (key, request) :: rest =>
    match stopped L envelope origin request with
    | some answer => .error answer
    | none =>
      if !lets request then .error (executionFailed "InvalidURL")
      else
        match network sent with
        | .ended answer => .error answer
        | .answered status body =>
          gather envelope origin (sent + 1) (raw.set key (.object (payload request status body)))
            rest

end Gathering

/-- `_get` of the differential probe, from the status and the body on. -/
def objectPayload (_ : ClientRequest) (status : Int) (body : Option JsonValue) : Dict :=
  observe observedObjectFields [("status".toList, .integer status)] body

/-- `_http` of the other one. -/
def workflowPayload (request : ClientRequest) (status : Int) (body : Option JsonValue) : Dict :=
  observe observedWorkflowFields
    [("status".toList, .integer status), ("method".toList, .text request.method)] body

/-- `arguments.get("mode") or "vulnerable"`. -/
def authorizationMode (arguments : Dict) : Text :=
  (textOr "vulnerable".toList (arguments.get "mode".toList)).getD []

/-- `arguments.get("area") or "workflow"`. -/
def transitionArea (arguments : Dict) : Text :=
  (textOr "workflow".toList (arguments.get "area".toList)).getD []

/-- The text of an argument that is one. -/
def argumentText (arguments : Dict) (key : String) : Text :=
  match arguments.get key.toList with
  | .text s => s
  | _ => []

theorem textArgument_some {arguments : Dict} {key : String} {s : Text}
    (h : HttpTransaction.textArgument arguments key = some s) :
    arguments.get key.toList = .text (argumentText arguments key) ∧
      argumentText arguments key = s ∧ s.strip ≠ [] := by
  unfold HttpTransaction.textArgument at h
  unfold argumentText
  cases hvalue : arguments.get key.toList with
  | text t =>
    rw [hvalue] at h
    by_cases hblank : t.strip = []
    · simp [hblank] at h
    · obtain rfl : t = s := by simpa [hblank] using h
      exact ⟨rfl, rfl, hblank⟩
  | null => simp [hvalue] at h
  | bool b => simp [hvalue] at h
  | integer n => simp [hvalue] at h
  | real value => simp [hvalue] at h
  | array items => simp [hvalue] at h
  | object entries => simp [hvalue] at h

/-- Under which keys the differential probe keeps its replies. -/
def authorizationKeys : List Text :=
  ["owner_request".toList, "cross_object_request".toList, "secure_control".toList,
    "unauthenticated_control".toList]

/-- Under which keys the other one does. -/
def transitionKeys : List Text :=
  ["pre_state_request".toList, "control_request".toList, "transition_request".toList,
    "post_state_request".toList]

/-- The keys of the planned requests: a plan of one is that of a redirect. -/
def planKeys (keys : List Text) (redirect : Bool) : List Text :=
  if redirect then ["redirect".toList] else keys

/-- `execute_http_authorization`: the raw result, if it is `SUCCEEDED`. -/
def executeAuthorization (L : UrlCodecs) (lets : ClientRequest → Bool)
    (network : Nat → ProbeReply) (request : Request) : Except Answer Dict := do
  let probe ← prepareAuthorization L request
  let mode := authorizationMode request.arguments
  gather L lets network objectPayload probe.envelope probe.origin 0
    [("mode".toList, .text mode), ("authorized_origin".toList, .text probe.origin)]
    ((planKeys authorizationKeys (mode = "redirect".toList)).zip probe.planned)

/-- `execute_http_state_transition`: the raw result, if it is `SUCCEEDED`. -/
def executeTransition (L : UrlCodecs) (lets : ClientRequest → Bool)
    (network : Nat → ProbeReply) (request : Request) : Except Answer Dict := do
  let probe ← prepareTransition L request
  let area := transitionArea request.arguments
  gather L lets network workflowPayload probe.envelope probe.origin 0
    [("area".toList, .text area), ("authorized_origin".toList, .text probe.origin),
      ("requested_transition".toList, .text (argumentText request.arguments "transition")),
      ("resource_id".toList, .text (argumentText request.arguments "resource_id").strip)]
    ((planKeys transitionKeys (area = "redirect".toList)).zip probe.planned)

/-! ## What it has done -/

section Gathered

variable {L : UrlCodecs} {lets : ClientRequest → Bool} {network : Nat → ProbeReply}
  {payload : ClientRequest → Int → Option JsonValue → Dict}
variable {envelope : BrowserNetworkEnvelope} {origin : Text}

/-- **One request of a probe that goes through.** -/
theorem gather_cons_eq_ok {sent : Nat} {raw made : Dict} {key : Text} {request : ClientRequest}
    {rest : List (Text × ClientRequest)}
    (h : gather L lets network payload envelope origin sent raw ((key, request) :: rest) =
      .ok made) :
    Sendable L lets envelope origin request ∧
      ∃ status body, network sent = .answered status body ∧
        gather L lets network payload envelope origin (sent + 1)
          (raw.set key (.object (payload request status body))) rest = .ok made := by
  rw [gather] at h
  cases hstopped : stopped L envelope origin request with
  | some answer =>
    rw [hstopped] at h
    cases h
  | none =>
    rw [hstopped] at h
    dsimp only at h
    cases hlets : lets request with
    | false =>
      rw [hlets] at h
      cases h
    | true =>
      rw [hlets] at h
      cases hreply : network sent with
      | ended answer =>
        rw [hreply] at h
        cases h
      | answered status body =>
        rw [hreply] at h
        exact ⟨⟨hstopped, hlets⟩, status, body, rfl, h⟩

/-- **All of them**: they can be sent, and each reply is kept under its key. -/
theorem gather_eq_ok {planned : List (Text × ClientRequest)} {sent : Nat} {raw made : Dict}
    (hkeys : (planned.map (·.1)).Nodup)
    (h : gather L lets network payload envelope origin sent raw planned = .ok made) :
    (∀ i entry, planned[i]? = some entry → Sendable L lets envelope origin entry.2 ∧
      ∃ status body, network (sent + i) = .answered status body ∧
        made.get entry.1 = .object (payload entry.2 status body)) ∧
      ∀ key, key ∉ planned.map (·.1) → made.get key = raw.get key := by
  induction planned generalizing sent raw with
  | nil =>
    cases h
    exact ⟨fun i entry hentry => by simp at hentry, fun _ _ => rfl⟩
  | cons first rest ih =>
    obtain ⟨key, request⟩ := first
    obtain ⟨hnew, hrest⟩ := List.nodup_cons.mp hkeys
    obtain ⟨hsendable, status, body, hreply, h⟩ := gather_cons_eq_ok h
    obtain ⟨hlater, hothers⟩ := ih hrest h
    refine ⟨fun i entry hentry => ?_, fun other hother => ?_⟩
    · cases i with
      | zero =>
        obtain rfl : (key, request) = entry := by simpa using hentry
        refine ⟨hsendable, status, body, hreply, ?_⟩
        rw [hothers _ hnew, Dict.get_set_self]
      | succ i =>
        obtain ⟨hcan, status, body, hreply, hget⟩ := hlater i entry (by simpa using hentry)
        exact ⟨hcan, status, body, by rw [← hreply, Nat.add_right_comm, Nat.add_assoc], hget⟩
    · obtain ⟨hne, hnotMem⟩ := List.ne_and_not_mem_of_not_mem_cons hother
      rw [hothers other hnotMem, Dict.get_set_of_ne hne]

/-- The same of a plan with as many keys as requests. -/
theorem gather_zip_eq_ok {keys : List Text} {planned : List ClientRequest} {raw made : Dict}
    (hlength : keys.length = planned.length) (hkeys : keys.Nodup)
    (h : gather L lets network payload envelope origin 0 raw (keys.zip planned) = .ok made) :
    (∀ request ∈ planned, Sendable L lets envelope origin request) ∧
      (∀ i key, keys[i]? = some key → ∃ request status body,
        network i = .answered status body ∧
          made.get key = .object (payload request status body)) ∧
      ∀ key, key ∉ keys → made.get key = raw.get key := by
  have hfst : (keys.zip planned).map (·.1) = keys := List.map_fst_zip (by omega)
  obtain ⟨hentries, hothers⟩ := gather_eq_ok (by rw [hfst]; exact hkeys) h
  refine ⟨fun request hrequest => ?_, fun i key hkey => ?_, fun key hkey => hothers key ?_⟩
  · obtain ⟨i, hi⟩ := List.mem_iff_getElem?.mp hrequest
    have hlt : i < keys.length := hlength ▸ (List.getElem?_eq_some_iff.mp hi).1
    exact (hentries i (keys[i], request) (List.getElem?_zip_eq_some.mpr
      ⟨List.getElem?_eq_getElem hlt, hi⟩)).1
  · have hlt : i < planned.length := hlength ▸ (List.getElem?_eq_some_iff.mp hkey).1
    obtain ⟨-, status, body, hreply, hget⟩ := hentries i (key, planned[i])
      (List.getElem?_zip_eq_some.mpr ⟨hkey, List.getElem?_eq_getElem hlt⟩)
    exact ⟨planned[i], status, body, by rw [← hreply, Nat.zero_add], hget⟩
  · rwa [hfst]

/-- What the replies are to the count of the requests. -/
def Answers (network : Nat → ProbeReply) (world : World) : Prop :=
  ∀ n status body, network n = .answered status body → world.network n = .answered true

/-- A probe that goes through has sent all that it planned. -/
theorem probe_of_gather {world : World} (hlets : world.lets = lets)
    (hanswers : Answers network world) {planned : List (Text × ClientRequest)} {sent : Nat}
    {raw made : Dict}
    (h : gather L lets network payload envelope origin sent raw planned = .ok made) :
    probe L world envelope origin sent (planned.map (·.2)) =
      (sent + planned.length, ⟨.succeeded, none⟩) := by
  induction planned generalizing sent raw with
  | nil => rfl
  | cons first rest ih =>
    obtain ⟨key, request⟩ := first
    obtain ⟨hsendable, status, body, hreply, h⟩ := gather_cons_eq_ok h
    have hsend : send world sent request = (sent + 1, none) := by
      rw [send, hlets, hsendable.lets, hanswers _ _ _ hreply]
      rfl
    rw [List.map_cons, probe, hsendable.goesOn]
    dsimp only
    rw [hsend, List.length_cons, ← Nat.add_assoc, Nat.add_right_comm]
    exact ih h

/-- A request that is not stopped is for the origin of the probe. -/
theorem originOf_of_not_stopped {request : ClientRequest}
    (h : stopped L envelope origin request = none) : originOf L request.url = some origin := by
  unfold stopped at h
  cases hallowed : envelopeAllows L envelope request.url with
  | some reason =>
    rw [hallowed] at h
    cases h
  | none =>
    rw [hallowed] at h
    cases hfound : originOf L request.url with
    | none =>
      rw [hfound] at h
      cases h
    | some found =>
      rw [hfound] at h
      by_cases hsame : found = origin
      · rw [hsame]
      · simp [hsame] at h

/-- **A plan that goes through**: its requests are for the origin and are all
sent, and the replies are under its keys, but for a redirect. -/
theorem gather_plan_eq_ok {keys : List Text} {redirect : Bool} {planned : List ClientRequest}
    {raw made : Dict} (hlength : (planKeys keys redirect).length = planned.length)
    (hkeys : keys.Nodup)
    (h : gather L lets network payload envelope origin 0 raw
      ((planKeys keys redirect).zip planned) = .ok made) :
    (∀ request ∈ planned, originOf L request.url = some origin) ∧
      (∀ world : World, world.lets = lets → Answers network world →
        probe L world envelope origin 0 planned = (planned.length, ⟨.succeeded, none⟩)) ∧
      (∀ key, key ≠ "redirect".toList → (redirect = true ∨ key ∉ keys) →
        made.get key = raw.get key) ∧
      (redirect = false → ∀ i key, keys[i]? = some key → ∃ request status body,
        network i = .answered status body ∧
          made.get key = .object (payload request status body)) := by
  have hnodup : (planKeys keys redirect).Nodup := by
    cases redirect
    · exact hkeys
    · exact List.nodup_singleton _
  obtain ⟨hsendable, hreplies, hothers⟩ := gather_zip_eq_ok hlength hnodup h
  refine ⟨?_, ?_, ?_, ?_⟩
  · exact fun request hrequest => originOf_of_not_stopped (hsendable request hrequest).goesOn
  · intro world hlets hanswers
    have hsent := probe_of_gather hlets hanswers h
    rw [List.map_snd_zip (by omega)] at hsent
    rw [hsent, List.length_zip, hlength, Nat.min_self, Nat.zero_add]
  · intro key hne hnotMem
    refine hothers key ?_
    cases redirect with
    | false => exact hnotMem.resolve_left (by simp)
    | true => simpa [planKeys] using hne
  · rintro rfl i key hkey
    exact hreplies i key hkey

end Gathered

/-- What a reply is read as: what is observed, and else what it started with. -/
theorem get_observe {fields : Dict → Dict} (hempty : fields [] = [])
    (hnodup : ∀ body, ((fields body).map (·.1)).Nodup) (start : Dict) (status : Int)
    (body : Option JsonValue) (key : Text) :
    (observe fields start body).lookup key =
      ((fields (ProbeReply.answered status body).body).lookup key).or (start.lookup key) := by
  have hnone : start.lookup key = ((fields []).lookup key).or (start.lookup key) := by
    rw [hempty, Dict.lookup_nil, Option.none_or]
  cases body with
  | none => exact hnone
  | some value =>
    cases value with
    | object entries => exact Dict.lookup_update (hnodup entries) key
    | null => exact hnone
    | bool b => exact hnone
    | integer n => exact hnone
    | real value => exact hnone
    | text s => exact hnone
    | array items => exact hnone

end Zest.ProbeReplies
