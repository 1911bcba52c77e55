import Zest.HttpTransaction

/-! # What Core accepts and the Worker refuses

A compiled plan has passed the argument policy of Core, and its request carries
the headers of the program's policy, which have been validated as well.  The
Worker checks the request by rules of its own: it knows five headers where Core
knows any name but a few, it bounds a value of a program header more tightly,
and it counts the octets of a body where the schema counts its characters.

`worker_accepts_iff` says for which plans and policies the two agree.
-/
namespace Zest.HttpTransaction

variable {L : UrlCodecs} {isAlnum : Char → Bool}

/-! ## What a compiled plan has passed -/

/-- `arguments.get("headers") or {}`. -/
def planHeaders (arguments : Dict) : Dict :=
  match arguments.get "headers".toList with
  | .object entries => entries
  | _ => []

theorem planHeaders_of_null {arguments : Dict} (h : arguments.get "headers".toList = .null) :
    planHeaders arguments = [] := by
  rw [planHeaders, h]

theorem planHeaders_of_object {arguments entries : Dict}
    (h : arguments.get "headers".toList = .object entries) : planHeaders arguments = entries := by
  rw [planHeaders, h]

/-- A header has the shape that both sides ask for. -/
structure WellShaped (isAlnum : Char → Bool) (name value : Text) : Prop where
  marker : hasControlMarker name = false ∧ hasControlMarker value = false
  length : name.length ≤ maxHeaderNameLength
  letters : name.all (fun c => isAlnum c || c == '-') = true

/-- What the compilation of a plan has checked. -/
structure Checked (L : UrlCodecs) (isAlnum : Char → Bool) (action : Text) (arguments : Dict) :
    Prop where
  method : ∃ method, arguments.get "method".toList = .text method ∧
    ((action = "read".toList ∧ method ∈ allowedReadMethods) ∨
      (action = "mutate".toList ∧ method ∈ allowedMutateMethods))
  path : ∃ path, arguments.get "path".toList = .text path ∧ pathError L path = none
  origin : ∃ origin, arguments.get "authorized_origin".toList = .text origin ∧ origin.strip ≠ []
  headers : arguments.get "headers".toList = .null ∨
    arguments.get "headers".toList = .object (planHeaders arguments)
  header : ∀ entry ∈ planHeaders arguments, ∃ value, entry.2 = .text value ∧
    value.length ≤ maxHeaderValueLength ∧ WellShaped isAlnum entry.1 value
  query : arguments.get "query".toList = .null ∨ ∃ query,
    arguments.get "query".toList = .object query ∧ ∀ entry ∈ query, ∃ value,
      entry.2 = .text value ∧ (hasControlMarker entry.1 || hasControlMarker value) = false
  contentType : arguments.get "content_type".toList = .null ∨
    ∃ contentType, arguments.get "content_type".toList = .text contentType
  body : arguments.get "body".toList = .null ∨ action = "mutate".toList ∧ ∃ body,
    arguments.get "body".toList = .text body ∧
      (L.lower body.strip).startsWith "file:".toList = false

theorem headerIssue_eq_ok {name : Text} {value : JsonValue} {u : Unit}
    (h : headerIssue L isAlnum name value = .ok u) :
    ∃ s, value = .text s ∧ WellShaped isAlnum name s := by
  cases value with
  | text s =>
    simp only [headerIssue] at h
    obtain ⟨_, hmarker, h⟩ := bind_eq_ok h
    obtain ⟨_, hlength, h⟩ := bind_eq_ok h
    obtain ⟨_, -, h⟩ := bind_eq_ok h
    have hletters := refuseIf_eq_ok.mp h
    simp only [refuseIf_eq_ok, Bool.or_eq_false_iff, decide_eq_false_iff_not] at hmarker hlength
    exact ⟨s, rfl, hmarker, by omega, by simpa using hletters⟩
  | _ => cases h

theorem headersIssue_eq_ok {headers : Dict} {u : Unit}
    (h : headersIssue L isAlnum headers = .ok u) :
    ∀ entry ∈ headers, ∃ s, entry.2 = .text s ∧ WellShaped isAlnum entry.1 s := by
  induction headers with
  | nil => simp
  | cons entry headers ih =>
    obtain ⟨_, hentry, hrest⟩ := bind_eq_ok h
    intro other hmem
    rcases List.mem_cons.mp hmem with rfl | hmem
    · exact headerIssue_eq_ok hentry
    · exact ih hrest other hmem

theorem queryIssue_eq_ok {query : Dict} {u : Unit} (h : queryIssue query = .ok u) :
    ∀ entry ∈ query, ∃ value, entry.2 = .text value ∧
      (hasControlMarker entry.1 || hasControlMarker value) = false := by
  induction query with
  | nil => simp
  | cons entry query ih =>
    obtain ⟨key, value⟩ := entry
    cases value with
    | text value =>
      obtain ⟨_, hmarker, hrest⟩ := bind_eq_ok h
      intro other hmem
      rcases List.mem_cons.mp hmem with rfl | hmem
      · exact ⟨value, rfl, refuseIf_eq_ok.mp hmarker⟩
      · exact ih hrest other hmem
    | _ => cases h

/-- What is under a key of arguments that a schema accepts: nothing, or what the
property's own schema accepts. -/
theorem get_of_accepts {schema : ArgumentSchema} {arguments : Dict}
    (h : schema.accepts arguments = true) (key : Text) :
    arguments.get key = .null ∨
      (KeyedList.get Prod.fst schema.properties key).any (·.2.accepts (arguments.get key)) := by
  cases hlookup : arguments.lookup key with
  | none => exact Or.inl (by simp [Dict.get, hlookup])
  | some value =>
    have haccepts := schema.accepts_lookup h hlookup
    exact Or.inr (by simpa [Dict.get, hlookup, ArgumentSchema.acceptsProperty] using haccepts)

theorem method_of_issue {action : Text} {value : JsonValue} {u : Unit}
    (h : methodIssue action value = .ok u)
    (haction : action = "read".toList ∨ action = "mutate".toList) :
    ∃ method, value = .text method ∧
      ((action = "read".toList ∧ method ∈ allowedReadMethods) ∨
        (action = "mutate".toList ∧ method ∈ allowedMutateMethods)) := by
  cases value with
  | text method =>
    obtain ⟨_, hread, h⟩ := bind_eq_ok h
    have hmutate := refuseIf_eq_ok.mp h
    have hread := refuseIf_eq_ok.mp hread
    refine ⟨method, rfl, ?_⟩
    rcases haction with rfl | rfl
    · exact Or.inl ⟨rfl, by simpa using hread⟩
    · exact Or.inr ⟨rfl, by simpa using hmutate⟩
  | _ => cases h

theorem path_of_issue {value : JsonValue} {u : Unit} (h : pathIssue L value = .ok u) :
    ∃ path, value = .text path ∧ pathError L path = none := by
  cases value with
  | text path =>
    simp only [pathIssue] at h
    cases hpath : pathError L path with
    | some message =>
      rw [hpath] at h
      cases h
    | none => exact ⟨path, rfl, hpath⟩
  | _ => cases h

theorem origin_of_issue {value : JsonValue} {u : Unit} (h : originIssue L value = .ok u) :
    ∃ origin, value = .text origin ∧ origin.strip ≠ [] := by
  cases value with
  | text origin =>
    obtain ⟨_, hblank, -⟩ := bind_eq_ok h
    exact ⟨origin, rfl, by simpa using refuseIf_eq_ok.mp hblank⟩
  | _ => cases h

theorem body_of_issue {action : Text} {value : JsonValue} {u : Unit}
    (h : bodyIssue L action value = .ok u)
    (haction : action = "read".toList ∨ action = "mutate".toList) :
    value = .null ∨ action = "mutate".toList ∧ ∃ body, value = .text body ∧
      (L.lower body.strip).startsWith "file:".toList = false := by
  cases value with
  | null => exact Or.inl rfl
  | text body =>
    obtain ⟨_, hread, h⟩ := bind_eq_ok h
    obtain ⟨_, -, h⟩ := bind_eq_ok h
    have hnot := refuseIf_eq_ok.mp hread
    have hmutate : action = "mutate".toList := haction.resolve_left (by simpa using hnot)
    exact Or.inr ⟨hmutate, body, rfl, refuseIf_eq_ok.mp h⟩
  | _ =>
    obtain ⟨_, -, h⟩ := bind_eq_ok h
    cases h

/-- The headers of arguments that the schema of an action accepts. -/
theorem headers_of_accepts {properties : List (Text × PropertySchema)} {required : List Text}
    {arguments : Dict} (h : ArgumentSchema.accepts ⟨required, properties⟩ arguments = true)
    (hschema : KeyedList.get Prod.fst properties "headers".toList =
      some ("headers".toList, .texts 8 128)) :
    arguments.get "headers".toList = .null ∨
      arguments.get "headers".toList = .object (planHeaders arguments) ∧
        (planHeaders arguments).length ≤ 8 ∧
        ∀ entry ∈ planHeaders arguments, entry.2.textWithin 128 = true := by
  rcases get_of_accepts h "headers".toList with hnone | hsome
  · exact Or.inl hnone
  · right
    rw [hschema] at hsome
    unfold planHeaders
    generalize arguments.get "headers".toList = value at hsome
    cases value with
    | object entries =>
      simp only [Option.any_some, PropertySchema.accepts, Bool.and_eq_true, decide_eq_true_eq,
        List.all_eq_true] at hsome
      exact ⟨rfl, hsome⟩
    | _ => simp [PropertySchema.accepts] at hsome

theorem contentType_of_accepts {properties : List (Text × PropertySchema)} {required : List Text}
    {arguments : Dict} (h : ArgumentSchema.accepts ⟨required, properties⟩ arguments = true)
    (hschema : KeyedList.get Prod.fst properties "content_type".toList =
      some ("content_type".toList, .text 0 (some 128) none)) :
    arguments.get "content_type".toList = .null ∨
      ∃ contentType, arguments.get "content_type".toList = .text contentType := by
  rcases get_of_accepts h "content_type".toList with hnone | hsome
  · exact Or.inl hnone
  · right
    rw [hschema] at hsome
    generalize arguments.get "content_type".toList = value at hsome
    cases value with
    | text contentType => exact ⟨contentType, rfl⟩
    | _ => simp [PropertySchema.accepts] at hsome

theorem query_of_issue {value : JsonValue} {query : Dict} {u : Unit} {refusal : CompileFailure}
    (hobject : objectOr refusal value = .ok query) (h : queryIssue query = .ok u)
    (hkind : value = .null ∨ ∃ query, value = .object query) :
    value = .null ∨ ∃ query, value = .object query ∧ ∀ entry ∈ query, ∃ value,
      entry.2 = .text value ∧ (hasControlMarker entry.1 || hasControlMarker value) = false := by
  rcases hkind with rfl | ⟨query, rfl⟩
  · exact Or.inl rfl
  · cases hobject
    exact Or.inr ⟨_, rfl, queryIssue_eq_ok h⟩

/-- The query of arguments that the schema of an action accepts. -/
theorem query_of_accepts {properties : List (Text × PropertySchema)} {required : List Text}
    {arguments : Dict} (h : ArgumentSchema.accepts ⟨required, properties⟩ arguments = true)
    (hschema : KeyedList.get Prod.fst properties "query".toList =
      some ("query".toList, .texts 16 128)) :
    arguments.get "query".toList = .null ∨
      ∃ query, arguments.get "query".toList = .object query := by
  rcases get_of_accepts h "query".toList with hnone | hsome
  · exact Or.inl hnone
  · right
    rw [hschema] at hsome
    generalize arguments.get "query".toList = value at hsome
    cases value with
    | object query => exact ⟨query, rfl⟩
    | _ => simp [PropertySchema.accepts] at hsome

/-- The schemas of both actions say the same of the shared properties. -/
theorem shared_of_action {fingerprint action : Text} {definition : CapabilityActionDefinition}
    (h : (httpTransactionDefinition fingerprint).actions action = some definition) :
    (action = "read".toList ∨ action = "mutate".toList) ∧
      ∀ key ∈ ["headers".toList, "query".toList, "content_type".toList],
        KeyedList.get Prod.fst definition.argumentSchema.properties key =
          KeyedList.get Prod.fst sharedProperties key := by
  simp only [httpTransactionDefinition] at h
  split at h
  next hread =>
    obtain rfl := Option.some.inj h
    exact ⟨Or.inl hread, by simp [KeyedList.get, readAction]⟩
  next =>
    split at h
    next hmutate =>
      obtain rfl := Option.some.inj h
      exact ⟨Or.inr hmutate, by simp [KeyedList.get, mutateAction]⟩
    next => cases h

/-- **What a compiled plan has passed.** -/
theorem checked_of_compiled {fingerprint : Text} {others : Text → Option CapabilityDefinition}
    {extras : Text → Option ArgumentValidator} {intent : ExperimentIntent} {plan : Plan}
    (hcapability : intent.capabilityId = "http.transaction".toList)
    (h : compileExperimentIntent (loadCapabilityRegistry fingerprint others)
      (extraArgumentValidatorFor L isAlnum extras) intent = .ok plan) :
    Checked L isAlnum plan.action plan.arguments ∧ (planHeaders plan.arguments).length ≤ 8 := by
  simp only [compileExperimentIntent, hcapability, loadCapabilityRegistry, if_pos,
    extraArgumentValidatorFor] at h
  rw [if_neg (by simp [httpTransactionDefinition])] at h
  split at h
  · cases h
  next definition hdefinition =>
  obtain ⟨haction, hshared⟩ := shared_of_action hdefinition
  obtain ⟨_, -, h⟩ := bind_eq_ok h
  obtain ⟨_, -, h⟩ := bind_eq_ok h
  obtain ⟨_, -, h⟩ := bind_eq_ok h
  obtain ⟨_, -, h⟩ := bind_eq_ok h
  obtain ⟨_, hschema, h⟩ := bind_eq_ok h
  obtain ⟨_, hextra, h⟩ := bind_eq_ok h
  obtain ⟨_, -, h⟩ := bind_eq_ok h
  obtain ⟨_, -, h⟩ := bind_eq_ok h
  obtain rfl := Except.ok.inj h
  have haccepts : definition.argumentSchema.accepts intent.arguments = true := by
    simpa using refuseIf_eq_ok.mp hschema
  have hheaders := headers_of_accepts haccepts (hshared _ (by simp))
  have hquery := query_of_accepts haccepts (hshared _ (by simp))
  have hcontent := contentType_of_accepts haccepts (hshared _ (by simp))
  -- the argument policy, part by part
  obtain ⟨_, hmethod, hextra⟩ := bind_eq_ok hextra
  obtain ⟨_, hpath, hextra⟩ := bind_eq_ok hextra
  obtain ⟨_, horigin, hextra⟩ := bind_eq_ok hextra
  obtain ⟨headers, hobject, hextra⟩ := bind_eq_ok hextra
  obtain ⟨_, hissue, hextra⟩ := bind_eq_ok hextra
  obtain ⟨query, hqueryObject, hextra⟩ := bind_eq_ok hextra
  obtain ⟨_, hqueryIssue, hextra⟩ := bind_eq_ok hextra
  obtain ⟨_, hbody, -⟩ := bind_eq_ok hextra
  refine ⟨⟨method_of_issue hmethod haction, path_of_issue hpath, origin_of_issue horigin, ?_, ?_,
    query_of_issue hqueryObject hqueryIssue hquery, hcontent, body_of_issue hbody haction⟩, ?_⟩
  · exact hheaders.imp id And.left
  · rcases hheaders with hnone | ⟨hsome, -, hvalues⟩
    · rw [planHeaders_of_null hnone]
      exact List.forall_mem_nil _
    · rw [hsome] at hobject
      cases hobject
      intro entry hmem
      obtain ⟨value, hvalue, hshape⟩ := headersIssue_eq_ok hissue entry hmem
      have hlength := hvalues entry hmem
      rw [hvalue] at hlength
      exact ⟨value, hvalue, by simpa [JsonValue.textWithin, maxHeaderValueLength] using hlength,
        hshape⟩
  · rcases hheaders with hnone | ⟨-, hlength, -⟩
    · rw [planHeaders_of_null hnone]
      exact Nat.zero_le _
    · exact hlength

/-! ## What the request carries -/

/-- What the code relies on in Python's tables of characters. -/
structure CharacterTables (L : UrlCodecs) (isAlnum : Char → Bool) (upper : Text → Text) : Prop where
  lower : L.lower "User-Agent".toList = "user-agent".toList
  letters : ∀ c, isAsciiAlpha c = true → isAlnum c = true
  controls : ∀ c ∈ ['\r', '\n', '\x00'], isAlnum c = false
  upper : ∀ method ∈ allowedReadMethods ++ allowedMutateMethods, upper method = method

/-- The headers of the request: those of the plan that the policy does not
replace, and the policy's. -/
def mergedHeaders (lower : Text → Text) (arguments : Dict) (policy : List (Text × Text)) : Dict :=
  (planHeaders arguments).filter
      (fun entry => policy.all fun header => lower header.1 ≠ lower entry.1) ++
    policy.map fun header => (header.1, .text header.2)

/-- Headers of different names are set beside each other. -/
theorem foldl_setHeaders {lower : Text → Text} {policy : List (Text × Text)}
    (hdistinct : policy.Pairwise fun a b => lower a.1 ≠ lower b.1) (existing : Dict) :
    policy.foldl (fun headers header => setAuthoritativeHeader lower headers header.1 header.2)
        existing =
      existing.filter (fun entry => policy.all fun header => lower header.1 ≠ lower entry.1) ++
        policy.map fun header => (header.1, .text header.2) := by
  induction policy generalizing existing with
  | nil => simp
  | cons header policy ih =>
    obtain ⟨hfirst, hrest⟩ := List.pairwise_cons.mp hdistinct
    have hkept : [(header.1, JsonValue.text header.2)].filter
        (fun entry => policy.all fun other => lower other.1 ≠ lower entry.1) =
          [(header.1, .text header.2)] := by
      rw [List.filter_eq_self]
      intro entry hmem
      obtain rfl := List.mem_singleton.mp hmem
      simpa using fun a b hmem heq => hfirst (a, b) hmem heq.symm
    rw [List.foldl_cons, ih hrest, setAuthoritativeHeader, List.filter_append, hkept,
      List.filter_filter, List.append_assoc]
    congr 2
    funext entry
    simp [Bool.and_comm, eq_comm]

/-- The names of the policy's headers are distinct. -/
theorem policyHeaders_distinct (hlower : L.lower "User-Agent".toList = "user-agent".toList)
    {raw : Option RequiredHeaders} {headers : List (Text × Text)} (ua : Option Text)
    (h : validateRequiredProgramHeaders L.lower isAlnum raw = .ok headers) :
    (policyHeaders ua headers).Pairwise fun a b => L.lower a.1 ≠ L.lower b.1 := by
  have hdistinct := (validateRequiredProgramHeaders_valid h).1
  cases ua with
  | none => exact hdistinct
  | some value =>
    refine List.pairwise_cons.mpr ⟨fun header hmem heq => ?_, hdistinct⟩
    apply blocked_of_validated h header hmem
    rw [← heq, hlower]
    decide

theorem objectOr_headers {ε : Type} {arguments : Dict} (refusal : ε)
    (h : arguments.get "headers".toList = .null ∨
      arguments.get "headers".toList = .object (planHeaders arguments)) :
    objectOr refusal (arguments.get "headers".toList) = .ok (planHeaders arguments) := by
  rcases h with hnull | hobject
  · rw [planHeaders_of_null hnull, hnull]
    rfl
  · rw [hobject]
    rfl

/-- Without a policy the headers are the plan's. -/
theorem mergedHeaders_nil (lower : Text → Text) (arguments : Dict) :
    mergedHeaders lower arguments [] = planHeaders arguments := by
  simp [mergedHeaders]

/-- **What a request is built from**: its headers are the merged ones, and the
other arguments are the plan's. -/
theorem buildArguments_eq_ok {action : Text} {arguments : Dict}
    (hchecked : Checked L isAlnum action arguments)
    (hlower : L.lower "User-Agent".toList = "user-agent".toList)
    {raw : Option RequiredHeaders} {headers : List (Text × Text)}
    (hheaders : validateRequiredProgramHeaders L.lower isAlnum raw = .ok headers)
    (identityId ua : Option Text) :
    ∃ built, buildArguments L.lower isAlnum arguments identityId ua (some (.ofTexts headers)) =
        .ok built ∧
      (∀ key, key ≠ "headers".toList → key ≠ "identity_id".toList →
        built.get key = arguments.get key) ∧
      ∀ refusal : Refusal, objectOr refusal (built.get "headers".toList) =
        .ok (mergedHeaders L.lower arguments (policyHeaders ua headers)) := by
  have hother : ∀ key, key ≠ "identity_id".toList →
      (withIdentity arguments identityId).get key = arguments.get key := by
    intro key hkey
    cases identityId with
    | none => rfl
    | some identity => exact Dict.get_set_of_ne hkey
  have hexisting := hother "headers".toList (by decide)
  have hset := foldl_setHeaders (policyHeaders_distinct hlower ua hheaders) (planHeaders arguments)
  simp only [buildArguments]
  rw [hexisting, objectOr_headers _ hchecked.headers, ok_bind,
    validateRequiredProgramHeaders_validated hheaders, ok_bind, hset]
  split
  next =>
    refine ⟨_, rfl, fun key hkey hidentity => ?_, fun refusal => ?_⟩
    · rw [Dict.get_set_of_ne hkey, hother key hidentity]
    · rw [Dict.get_set_self]
      rfl
  next hnone =>
    -- nothing is demanded, so nothing is merged
    refine ⟨_, rfl, fun key _ hidentity => hother key hidentity, fun refusal => ?_⟩
    have hempty : policyHeaders ua headers = [] := by
      simp only [Option.any_some, Bool.or_eq_true, not_or] at hnone
      cases ua with
      | some value => simp at hnone
      | none => simpa [policyHeaders, RequiredHeaders.ofTexts, RequiredHeaders.truthy] using hnone
    rw [hempty, mergedHeaders_nil, hexisting, objectOr_headers _ hchecked.headers]

/-! ## What the Worker refuses -/

/-- What the static checks of the arguments are about. -/
def argumentSubjects : List Subject :=
  [.path, .method, .headers, .contentType, .query, .body]

/-- The answer is `BLOCKED`, because of an argument. -/
def Refuses {α : Type} (x : Except Refusal α) : Prop :=
  ∃ subject ∈ argumentSubjects, ∃ error, x = .error (.blocked subject error)

section Refusals

variable {α β : Type} {x : Except Refusal α}

theorem not_refuses_ok {a : α} : ¬ Refuses (Except.ok a : Except Refusal α) := by
  rintro ⟨_, -, _, h⟩
  cases h

theorem refuses_bind {f : α → Except Refusal β} :
    Refuses (x >>= f) ↔ Refuses x ∨ ∃ a, x = .ok a ∧ Refuses (f a) := by
  cases x with
  | ok a => simp [ok_bind, not_refuses_ok]
  | error refusal =>
    constructor
    · rintro ⟨subject, hsubject, error, h⟩
      obtain rfl := Except.error.inj h
      exact Or.inl ⟨subject, hsubject, error, rfl⟩
    · rintro (⟨subject, hsubject, error, h⟩ | ⟨a, h, -⟩)
      · obtain rfl := Except.error.inj h
        exact ⟨subject, hsubject, error, rfl⟩
      · cases h

theorem refuses_refuseIf {bad : Bool} {subject : Subject} {error : String}
    (hsubject : subject ∈ argumentSubjects) :
    Refuses (refuseIf bad (.blocked subject error)) ↔ bad = true := by
  cases bad with
  | false => simp [refuseIf, not_refuses_ok]
  | true => simpa [refuseIf] using ⟨subject, hsubject, error, rfl⟩

/-- A check, and what comes after it. -/
theorem refuses_check {bad : Bool} {subject : Subject} {error : String}
    {f : Unit → Except Refusal β} (hsubject : subject ∈ argumentSubjects) :
    Refuses (refuseIf bad (.blocked subject error) >>= f) ↔
      bad = true ∨ bad = false ∧ Refuses (f ()) := by
  rw [refuses_bind, refuses_refuseIf hsubject]
  cases bad with
  | false =>
    have hone : (∃ a, Refuses (f a)) ↔ Refuses (f ()) := by
      constructor
      · rintro ⟨_, h⟩
        exact h
      · exact fun h => ⟨(), h⟩
    simpa [refuseIf] using hone
  | true => simp

/-- A loop refuses where its body does, if that is all it can raise. -/
theorem refuses_mapM {f : α → Except Refusal β} {items : List α}
    (h : ∀ a ∈ items, Refuses (f a) ∨ ∃ b, f a = .ok b) :
    Refuses (items.mapM f) ↔ ∃ a ∈ items, Refuses (f a) := by
  constructor
  · rintro ⟨subject, hsubject, error, hraised⟩
    obtain ⟨a, hmem, ha⟩ := exists_of_mapM_eq_error hraised
    exact ⟨a, hmem, subject, hsubject, error, ha⟩
  · rintro ⟨a, hmem, hrefused⟩
    cases hloop : items.mapM f with
    | ok made =>
      obtain ⟨b, hb⟩ := exists_of_mapM_eq_ok hloop a hmem
      rw [hb] at hrefused
      exact absurd hrefused not_refuses_ok
    | error refusal =>
      obtain ⟨other, hother, hraised⟩ := exists_of_mapM_eq_error hloop
      have hcase := h other hother
      rw [hraised] at hcase
      rcases hcase with ⟨subject, hsubject, error, heq⟩ | ⟨b, hb⟩
      · obtain rfl := Except.error.inj heq
        exact ⟨subject, hsubject, error, rfl⟩
      · cases hb

/-- The check can raise nothing but a refusal of an argument. -/
def Settled (x : Except Refusal α) : Prop := Refuses x ∨ ∃ a, x = .ok a

theorem settled_ok (a : α) : Settled (Except.ok a : Except Refusal α) := Or.inr ⟨a, rfl⟩

theorem settled_blocked {subject : Subject} (hsubject : subject ∈ argumentSubjects)
    (error : String) : Settled (Except.error (.blocked subject error) : Except Refusal α) :=
  Or.inl ⟨subject, hsubject, error, rfl⟩

theorem settled_refuseIf {subject : Subject} (hsubject : subject ∈ argumentSubjects) (bad : Bool)
    (error : String) : Settled (refuseIf bad (.blocked subject error)) := by
  cases bad with
  | false => exact settled_ok ()
  | true => exact settled_blocked hsubject error

theorem settled_bind {f : α → Except Refusal β} (hx : Settled x)
    (hf : ∀ a, x = .ok a → Settled (f a)) : Settled (x >>= f) := by
  rcases hx with hrefused | ⟨a, ha⟩
  · exact Or.inl (refuses_bind.mpr (Or.inl hrefused))
  · have hnext := hf a ha
    rw [ha]
    exact hnext

theorem settled_mapM {f : α → Except Refusal β} {items : List α}
    (h : ∀ a ∈ items, Settled (f a)) : Settled (items.mapM f) := by
  by_cases hall : ∀ a ∈ items, ∃ b, f a = .ok b
  · exact Or.inr (mapM_eq_ok_of_forall hall)
  · push Not at hall
    obtain ⟨a, hmem, hnot⟩ := hall
    refine Or.inl ((refuses_mapM h).mpr ⟨a, hmem, ?_⟩)
    exact (h a hmem).resolve_right fun ⟨b, hb⟩ => hnot b hb

/-- Such a check refuses what it does not let through. -/
theorem Settled.refuses_iff (h : Settled x) : Refuses x ↔ ¬ ∃ a, x = .ok a := by
  constructor
  · rintro hrefused ⟨a, rfl⟩
    exact not_refuses_ok hrefused
  · exact h.resolve_right

end Refusals

/-- A header is one of those that the Worker lets through. -/
structure Fits (L : UrlCodecs) (name value : Text) : Prop where
  length : value.length ≤ maxHeaderValueLength
  allowed : L.lower name ∈ allowedRequestHeaders

theorem not_forbidden_of_allowed : ∀ name ∈ allowedRequestHeaders,
    name ∉ forbiddenRequestHeaders := by
  decide

theorem settled_requestHeader (name : Text) (value : JsonValue) :
    Settled (requestHeader L isAlnum name value) := by
  have hheaders : Subject.headers ∈ argumentSubjects := by decide
  cases value with
  | text value =>
    unfold requestHeader
    refine settled_bind (settled_refuseIf hheaders _ _) fun _ _ => ?_
    refine settled_bind (settled_refuseIf hheaders _ _) fun _ _ => ?_
    refine settled_bind (settled_refuseIf hheaders _ _) fun _ _ => ?_
    refine settled_bind (settled_refuseIf hheaders _ _) fun _ _ => ?_
    refine settled_bind (settled_refuseIf hheaders _ _) fun _ _ => ?_
    exact settled_ok _
  | _ => exact settled_blocked hheaders _

/-- A header of the right shape is let through if it fits. -/
theorem requestHeader_wellShaped {name value : Text} (h : WellShaped isAlnum name value) :
    (∃ header, requestHeader L isAlnum name (.text value) = .ok header) ↔ Fits L name value := by
  constructor
  · rintro ⟨header, hok⟩
    obtain ⟨_, -, hok⟩ := bind_eq_ok hok
    obtain ⟨_, hlength, hok⟩ := bind_eq_ok hok
    obtain ⟨_, -, hok⟩ := bind_eq_ok hok
    obtain ⟨_, hallowed, -⟩ := bind_eq_ok hok
    simp only [refuseIf_eq_ok, Bool.or_eq_false_iff, decide_eq_false_iff_not, not_lt] at hlength
    exact ⟨hlength.2, by simpa using refuseIf_eq_ok.mp hallowed⟩
  · rintro ⟨hbound, hallowed⟩
    obtain ⟨⟨hname, hvalue⟩, hlength, hletters⟩ := h
    have hnot := not_forbidden_of_allowed _ hallowed
    refine ⟨(name, value), ?_⟩
    simp [requestHeader, refuseIf, hname, hvalue, hletters, hallowed, hnot,
      Nat.not_lt.mpr hlength, Nat.not_lt.mpr hbound, ok_bind]

/-- The content type is let through. -/
def ContentTypeFits (contentType : JsonValue) : Prop :=
  ∀ s, contentType = .text s → hasControlMarker s = false

theorem withContentType_refuses {headers : List (Text × Text)} {value : JsonValue}
    (h : value = .null ∨ ∃ s, value = .text s) :
    Refuses (withContentType headers value) ↔ ¬ ContentTypeFits value := by
  rcases h with rfl | ⟨s, rfl⟩
  · simp [withContentType, ContentTypeFits, not_refuses_ok]
  · have hcontentType : Subject.contentType ∈ argumentSubjects := by decide
    rw [withContentType, refuses_check hcontentType]
    have hdone : ¬ Refuses (pure (setHeader headers ("Content-Type".toList, s)) :
      Except Refusal _) := not_refuses_ok
    simp only [hdone, and_false, or_false, ContentTypeFits, JsonValue.text.injEq, forall_eq',
      Bool.not_eq_false]

theorem settled_requestHeaders {arguments headersIn : Dict}
    (hobject : ∀ refusal : Refusal, objectOr refusal (arguments.get "headers".toList) =
      .ok headersIn)
    (hcontent : arguments.get "content_type".toList = .null ∨
      ∃ s, arguments.get "content_type".toList = .text s) :
    Settled (requestHeaders L isAlnum arguments) := by
  have hheaders : Subject.headers ∈ argumentSubjects := by decide
  unfold requestHeaders
  rw [hobject, ok_bind]
  refine settled_bind (settled_refuseIf hheaders _ _) fun _ _ => ?_
  refine settled_bind (settled_mapM fun entry _ => settled_requestHeader entry.1 entry.2) ?_
  intro given _
  rcases hcontent with hnull | ⟨s, hs⟩
  · rw [hnull]
    exact settled_ok _
  · rw [hs]
    exact settled_bind (settled_refuseIf (by decide) _ _) fun _ _ => settled_ok _

/-- **What the Worker says of the headers**, where each has the right shape. -/
theorem requestHeaders_refuses {arguments headersIn : Dict}
    (hobject : ∀ refusal : Refusal, objectOr refusal (arguments.get "headers".toList) =
      .ok headersIn)
    (hshape : ∀ entry ∈ headersIn, ∃ value, entry.2 = .text value ∧
      WellShaped isAlnum entry.1 value)
    (hcontent : arguments.get "content_type".toList = .null ∨
      ∃ s, arguments.get "content_type".toList = .text s) :
    Refuses (requestHeaders L isAlnum arguments) ↔
      ¬ (headersIn.length ≤ maxHeaderCount ∧
        (∀ entry ∈ headersIn, ∀ value, entry.2 = .text value → Fits L entry.1 value) ∧
        ContentTypeFits (arguments.get "content_type".toList)) := by
  have hheaders : Subject.headers ∈ argumentSubjects := by decide
  have hitem : ∀ entry ∈ headersIn, (∃ header, requestHeader L isAlnum entry.1 entry.2 =
      .ok header) ↔ ∀ value, entry.2 = .text value → Fits L entry.1 value := by
    intro entry hmem
    obtain ⟨value, hvalue, hwell⟩ := hshape entry hmem
    rw [hvalue, requestHeader_wellShaped hwell]
    simp
  unfold requestHeaders
  rw [hobject, ok_bind, refuses_check hheaders]
  by_cases hcount : headersIn.length ≤ maxHeaderCount
  swap
  · simp [hcount, Nat.lt_of_not_le hcount]
  by_cases hfit : ∀ entry ∈ headersIn, ∀ value, entry.2 = .text value → Fits L entry.1 value
  swap
  · -- some header does not fit, and the loop stops at one
    have hloop : Refuses (headersIn.mapM fun entry => requestHeader L isAlnum entry.1 entry.2) := by
      rw [(settled_mapM fun entry _ => settled_requestHeader entry.1 entry.2).refuses_iff]
      rintro ⟨given, hgiven⟩
      exact hfit fun entry hmem => (hitem entry hmem).mp (exists_of_mapM_eq_ok hgiven entry hmem)
    constructor
    · exact fun _ h => hfit h.2.1
    · intro _
      exact Or.inr ⟨by simpa using hcount, refuses_bind.mpr (Or.inl hloop)⟩
  · obtain ⟨given, hgiven⟩ := mapM_eq_ok_of_forall fun entry hmem =>
      (hitem entry hmem).mpr (hfit entry hmem)
    rw [hgiven]
    simp only [ok_bind, withContentType_refuses hcontent, decide_eq_true_eq,
      decide_eq_false_iff_not, Nat.not_lt.mpr hcount, not_false_eq_true, false_or, hcount, true_and]
    exact not_congr (and_iff_right hfit).symm

/-- What the Worker says of a body that Core has accepted. -/
theorem requestBody_refuses {action : Text} {value : JsonValue}
    (h : value = .null ∨ action = "mutate".toList ∧ ∃ body, value = .text body ∧
      (L.lower body.strip).startsWith "file:".toList = false) :
    Refuses (requestBody L action value) ↔
      ¬ ∀ body, value = .text body →
        (PercentEncoding.utf8 body).length ≤ defaultMaxResponseBytes := by
  rcases h with rfl | ⟨rfl, body, rfl, hfile⟩
  · simp [requestBody, not_refuses_ok]
  · have hbody : Subject.body ∈ argumentSubjects := by decide
    have hdone : ¬ Refuses (pure (some (PercentEncoding.utf8 body)) : Except Refusal _) :=
      not_refuses_ok
    simp only [requestBody, refuses_check hbody, hfile, hdone, JsonValue.text.injEq, forall_eq']
    simp

/-- The Worker reads a query that Core has accepted. -/
theorem queryString_ok {query : JsonValue}
    (h : query = .null ∨ ∃ entries, query = .object entries ∧ ∀ entry ∈ entries, ∃ value,
      entry.2 = .text value ∧ (hasControlMarker entry.1 || hasControlMarker value) = false) :
    ∃ text, queryString query = .ok text := by
  rcases h with rfl | ⟨entries, rfl, hentries⟩
  · exact ⟨_, rfl⟩
  · obtain ⟨pairs, hpairs⟩ : ∃ pairs, entries.mapM queryPair = .ok pairs := by
      apply mapM_eq_ok_of_forall
      intro entry hmem
      obtain ⟨value, hvalue, hmarker⟩ := hentries entry hmem
      exact ⟨(entry.1, value), by simp [queryPair, hvalue, hmarker, refuseIf]⟩
    refine ⟨urlencode (pairs.insertionSort pairLe), ?_⟩
    simp only [queryString, objectOr, ok_bind]
    rw [hpairs]
    rfl

/-! ## The checks that are about nothing of this -/

theorem sessionCheck_not_refuses (request : Request) : ¬ Refuses (sessionCheck L request) := by
  rintro ⟨subject, hsubject, error, h⟩
  unfold sessionCheck at h
  repeat' split at h
  all_goals
    cases h
    try exact absurd hsubject (by decide)

theorem rejectOrigin_not_refuses (origin : Text) : ¬ Refuses (rejectOrigin L origin) := by
  rintro ⟨subject, hsubject, error, h⟩
  unfold rejectOrigin refuseIf at h
  repeat' split at h
  all_goals
    cases h
    try exact absurd hsubject (by decide)

theorem bounds_not_refuse (arguments : Dict) :
    ¬ Refuses (responseBoundCheck (arguments.get "max_response_bytes".toList)) ∧
      ¬ Refuses (timeoutCheck (arguments.get "timeout_ms".toList)) := by
  constructor
  · rintro ⟨subject, hsubject, error, h⟩
    unfold responseBoundCheck refuseIf at h
    repeat' split at h
    all_goals cases h
  · rintro ⟨subject, hsubject, error, h⟩
    unfold timeoutCheck refuseIf at h
    repeat' split at h
    all_goals cases h

theorem startsWith_of_pathError {path : Text} (h : pathError L path = none) :
    path.startsWith ['/'] = true := by
  by_contra hnot
  unfold pathError at h
  repeat' split at h
  all_goals simp_all

/-- A path that both sides accept is not blank. -/
theorem strip_ne_nil_of_pathError {path : Text} (h : pathError L path = none) :
    path.strip ≠ [] := by
  have hslash := startsWith_of_pathError h
  cases path with
  | nil => simp [Text.startsWith] at hslash
  | cons c path =>
    obtain rfl : '/' = c := by simpa [Text.startsWith] using hslash
    intro hblank
    have hdrop : (('/' :: path).dropWhile Text.isSpace).rdropWhile Text.isSpace = [] := hblank
    rw [List.dropWhile_cons_of_neg (by decide), List.rdropWhile_eq_nil_iff] at hdrop
    exact absurd (hdrop '/' List.mem_cons_self) (by decide)

/-! ## When the two agree -/

/-- The Worker gets as far as the arguments: there is an envelope, and neither
the session nor the origin stops it. -/
structure Reaches (L : UrlCodecs) (request : Request) : Prop where
  envelope : (request.networkEnvelope.bind (parseEnvelope L)).isSome
  session : ∃ cookie, sessionCheck L request = .ok cookie
  origin : ∀ origin, request.arguments.get "authorized_origin".toList = .text origin →
    rejectOrigin L (origin.strip.rstrip '/') = .ok ()

/-- **What the Worker lets through** of a compiled plan and a validated policy:
of the plan, every header that is not replaced has a name that the Worker knows,
the content type has no control character in it, and the body is short enough in
octets; of the policy, every header has a name that the Worker knows and a value
that is short enough; and of the two together there are at most eight. -/
structure Admissible (L : UrlCodecs) (arguments : Dict) (requiredUserAgent : Option Text)
    (requiredHeaders : List (Text × Text)) : Prop where
  planHeaders : ∀ entry ∈ planHeaders arguments,
    (∃ header ∈ policyHeaders requiredUserAgent requiredHeaders,
      L.lower header.1 = L.lower entry.1) ∨ L.lower entry.1 ∈ allowedRequestHeaders
  programHeaders : ∀ header ∈ requiredHeaders,
    L.lower header.1 ∈ allowedRequestHeaders ∧ header.2.length ≤ maxHeaderValueLength
  count : ((HttpTransaction.planHeaders arguments).filter fun entry =>
      (policyHeaders requiredUserAgent requiredHeaders).all
        fun header => L.lower header.1 ≠ L.lower entry.1).length +
    (policyHeaders requiredUserAgent requiredHeaders).length ≤ maxHeaderCount
  contentType : ∀ s, arguments.get "content_type".toList = .text s → hasControlMarker s = false
  body : ∀ s, arguments.get "body".toList = .text s →
    (PercentEncoding.utf8 s).length ≤ defaultMaxResponseBytes

theorem mem_of_mem_strip {s : Text} {c : Char} (h : c ∈ s.strip) : c ∈ s :=
  (List.dropWhile_sublist Text.isSpace).subset
    ((List.rdropWhile_prefix Text.isSpace (s.dropWhile Text.isSpace)).subset h)

theorem length_strip_le (s : Text) : s.strip.length ≤ s.length :=
  ((List.rdropWhile_prefix Text.isSpace (s.dropWhile Text.isSpace)).length_le).trans
    (List.dropWhile_sublist Text.isSpace).length_le

theorem hasControlMarker_eq_false {s : Text} :
    hasControlMarker s = false ↔ ∀ c ∈ ['\r', '\n', '\x00'], c ∉ s := by
  simp [hasControlMarker, and_assoc]

/-- What is kept of a user agent that the policy demands. -/
theorem userAgent_of_validated {raw : Option Json} {ua : Option Text}
    (h : validateRequiredUserAgent raw = .ok ua) : ∀ value ∈ ua,
      hasControlMarker value = false ∧ value.length ≤ maxHeaderValueLength := by
  unfold validateRequiredUserAgent at h
  split at h
  · obtain rfl := Except.ok.inj h
    simp
  · split at h
    · cases h
    next value hvalid =>
    obtain rfl := Except.ok.inj h
    simp only [not_or, Bool.not_eq_true, not_lt] at hvalid
    obtain ⟨-, hmarker, hlength⟩ := hvalid
    intro stripped hstripped
    obtain rfl : value.strip = stripped := by simpa using hstripped
    rw [hasControlMarker_eq_false] at hmarker ⊢
    exact ⟨fun c hc hmem => hmarker c hc (mem_of_mem_strip hmem),
      (length_strip_le value).trans hlength⟩
  · cases h

/-- The headers of the policy have the shape that the Worker asks for. -/
theorem policyHeaders_wellShaped {upper : Text → Text} (htables : CharacterTables L isAlnum upper)
    {rawUserAgent : Option Json} {ua : Option Text}
    (hua : validateRequiredUserAgent rawUserAgent = .ok ua)
    {raw : Option RequiredHeaders} {headers : List (Text × Text)}
    (hheaders : validateRequiredProgramHeaders L.lower isAlnum raw = .ok headers) :
    ∀ header ∈ policyHeaders ua headers, WellShaped isAlnum header.1 header.2 := by
  intro header hmem
  rcases List.mem_append.mp hmem with hagent | hprogram
  · obtain ⟨value, hvalue, rfl⟩ : ∃ value ∈ ua, ("User-Agent".toList, value) = header := by
      simpa using hagent
    have hmarker : hasControlMarker "User-Agent".toList = false := by decide
    have hlength : "User-Agent".toList.length ≤ maxHeaderNameLength := by decide
    refine ⟨⟨hmarker, (userAgent_of_validated hua value hvalue).1⟩, hlength, ?_⟩
    rw [List.all_eq_true]
    intro c hc
    have hletters : ("User-Agent".toList.all fun c => isAsciiAlpha c || c = '-') = true := rfl
    have hletter := List.all_eq_true.mp hletters c hc
    rw [Bool.or_eq_true, decide_eq_true_eq] at hletter
    rcases hletter with halpha | rfl
    · simp [htables.letters c halpha]
    · simp
  · have hvalid := (validateRequiredProgramHeaders_valid hheaders).2 header hprogram
    simp only [programHeaderInvalid, Bool.or_eq_false_iff, decide_eq_false_iff_not, not_lt,
      List.any_eq_false] at hvalid
    obtain ⟨⟨⟨⟨⟨⟨⟨⟨-, hlength⟩, hletters⟩, -⟩, -⟩, -⟩, -⟩, -⟩, hmarker⟩ := hvalid
    have hall : ∀ c ∈ header.1, isAlnum c = true ∨ c = '-' := by
      intro c hc
      simpa [or_iff_not_imp_left] using hletters c hc
    refine ⟨⟨hasControlMarker_eq_false.mpr fun c hc hmem => ?_, hmarker⟩, hlength, ?_⟩
    · rcases hall c hmem with halnum | rfl
      · rw [htables.controls c hc] at halnum
        cases halnum
      · exact absurd hc (by decide)
    · simpa [List.all_eq_true] using hall

/-- The merged headers have the shape that the Worker asks for. -/
theorem mergedHeaders_wellShaped {upper : Text → Text} (htables : CharacterTables L isAlnum upper)
    {action : Text} {arguments : Dict} (hchecked : Checked L isAlnum action arguments)
    {rawUserAgent : Option Json} {ua : Option Text}
    (hua : validateRequiredUserAgent rawUserAgent = .ok ua)
    {raw : Option RequiredHeaders} {headers : List (Text × Text)}
    (hheaders : validateRequiredProgramHeaders L.lower isAlnum raw = .ok headers) :
    ∀ entry ∈ mergedHeaders L.lower arguments (policyHeaders ua headers), ∃ value,
      entry.2 = .text value ∧ WellShaped isAlnum entry.1 value := by
  intro entry hmem
  rcases List.mem_append.mp hmem with hkept | hset
  · obtain ⟨value, hvalue, -, hwell⟩ := hchecked.header entry (List.mem_filter.mp hkept).1
    exact ⟨value, hvalue, hwell⟩
  · obtain ⟨header, hheader, rfl⟩ := List.mem_map.mp hset
    exact ⟨header.2, rfl, policyHeaders_wellShaped htables hua hheaders header hheader⟩

/-- The merged headers fit exactly when those of the plan and the policy do. -/
theorem mergedHeaders_fit {upper : Text → Text} (htables : CharacterTables L isAlnum upper)
    {action : Text} {arguments : Dict} (hchecked : Checked L isAlnum action arguments)
    {rawUserAgent : Option Json} {ua : Option Text}
    (hua : validateRequiredUserAgent rawUserAgent = .ok ua) (headers : List (Text × Text)) :
    (∀ entry ∈ mergedHeaders L.lower arguments (policyHeaders ua headers), ∀ value,
        entry.2 = .text value → Fits L entry.1 value) ↔
      (∀ entry ∈ planHeaders arguments,
        (∃ header ∈ policyHeaders ua headers, L.lower header.1 = L.lower entry.1) ∨
          L.lower entry.1 ∈ allowedRequestHeaders) ∧
      ∀ header ∈ headers,
        L.lower header.1 ∈ allowedRequestHeaders ∧ header.2.length ≤ maxHeaderValueLength := by
  constructor
  · intro hfit
    constructor
    · intro entry hmem
      by_cases hreplaced : ∃ header ∈ policyHeaders ua headers,
          L.lower header.1 = L.lower entry.1
      · exact Or.inl hreplaced
      · right
        obtain ⟨value, hvalue, -⟩ := hchecked.header entry hmem
        have hkept : entry ∈ mergedHeaders L.lower arguments (policyHeaders ua headers) := by
          refine List.mem_append_left _ (List.mem_filter.mpr ⟨hmem, ?_⟩)
          simpa using fun a b hab heq => hreplaced ⟨(a, b), hab, heq⟩
        exact (hfit entry hkept value hvalue).allowed
    · intro header hmem
      have hset : (header.1, JsonValue.text header.2) ∈
          mergedHeaders L.lower arguments (policyHeaders ua headers) :=
        List.mem_append_right _ (List.mem_map.mpr
          ⟨header, List.mem_append_right _ hmem, rfl⟩)
      obtain ⟨hlength, hallowed⟩ := hfit _ hset header.2 rfl
      exact ⟨hallowed, hlength⟩
  · rintro ⟨hplan, hprogram⟩ entry hmem value hvalue
    rcases List.mem_append.mp hmem with hkept | hset
    · obtain ⟨hplanned, hnot⟩ := List.mem_filter.mp hkept
      obtain ⟨planned, hplannedValue, hlength, -⟩ := hchecked.header entry hplanned
      obtain rfl : planned = value := by simpa using hplannedValue.symm.trans hvalue
      refine ⟨hlength, (hplan entry hplanned).resolve_left ?_⟩
      rintro ⟨header, hheader, heq⟩
      have hne := List.all_eq_true.mp hnot header hheader
      exact absurd heq (by simpa using hne)
    · obtain ⟨header, hheader, rfl⟩ := List.mem_map.mp hset
      obtain rfl : header.2 = value := by simpa using hvalue
      rcases List.mem_append.mp hheader with hagent | hheader
      · obtain ⟨agent, hdemanded, rfl⟩ :
            ∃ value ∈ ua, ("User-Agent".toList, value) = header := by
          simpa using hagent
        refine ⟨(userAgent_of_validated hua agent hdemanded).2, ?_⟩
        show L.lower "User-Agent".toList ∈ _
        rw [htables.lower]
        decide
      · exact ⟨(hprogram header hheader).2, (hprogram header hheader).1⟩

theorem method_facts {action method : Text}
    (h : (action = "read".toList ∧ method ∈ allowedReadMethods) ∨
      (action = "mutate".toList ∧ method ∈ allowedMutateMethods)) :
    method.strip = method ∧ method ≠ [] ∧ checkMethod action method = .ok () := by
  have hplain : ∀ method ∈ allowedReadMethods ++ allowedMutateMethods,
      Text.strip method = method ∧ method ≠ [] := by
    decide
  have hmem : method ∈ allowedReadMethods ++ allowedMutateMethods :=
    List.mem_append.mpr (h.imp And.right And.right)
  refine ⟨(hplain method hmem).1, (hplain method hmem).2, refuseIf_eq_ok.mpr ?_⟩
  rcases h with ⟨rfl, hread⟩ | ⟨rfl, hmutate⟩
  · simp [hread]
  · simp [hmutate]

theorem textArgument_eq_some {arguments : Dict} {key : String} {s : Text}
    (h : arguments.get key.toList = .text s) (hblank : s.strip ≠ []) :
    textArgument arguments key = some s := by
  simp [textArgument, h, hblank]

/-- A request with the texts of a compiled plan is refused for its headers or
its body, if nothing stops it before. -/
theorem execute_refuses {upper : Text → Text} {request : Request} {method path origin : Text}
    (hmethod : textArgument request.arguments "method" = some method)
    (hcheck : checkMethod request.action (upper method.strip) = .ok ())
    (hpath : textArgument request.arguments "path" = some path)
    (hpathError : pathError L path = none)
    (horigin : textArgument request.arguments "authorized_origin" = some origin)
    (hquery : ∃ query, queryString (request.arguments.get "query".toList) = .ok query) :
    Refuses (execute L isAlnum upper request) ↔
      ((request.networkEnvelope.bind (parseEnvelope L)).isSome ∧
        (∃ cookie, sessionCheck L request = .ok cookie) ∧
        rejectOrigin L (origin.strip.rstrip '/') = .ok ()) ∧
      (Refuses (requestHeaders L isAlnum request.arguments) ∨
        (∃ headers, requestHeaders L isAlnum request.arguments = .ok headers) ∧
          Refuses (requestBody L request.action (request.arguments.get "body".toList))) := by
  obtain ⟨query, hquery⟩ := hquery
  obtain ⟨hresponse, htimeout⟩ := bounds_not_refuse request.arguments
  have hrejectPath : rejectPath L path = .ok () := by simp [rejectPath, hpathError]
  unfold execute
  cases henvelope : request.networkEnvelope.bind (parseEnvelope L) with
  | none =>
    have hnot : ¬ Refuses (Except.error (.executionFailed "network_envelope is required") :
        Except Refusal Exchange) := by
      rintro ⟨_, -, _, h⟩
      cases h
    simp [hnot]
  | some envelope =>
    simp only [hmethod, hpath, horigin, hcheck, hrejectPath, hquery, ok_bind, refuses_bind,
      sessionCheck_not_refuses, rejectOrigin_not_refuses, hresponse, htimeout, false_or]
    constructor
    · rintro ⟨cookie, hcookie, _, hpasses, hlater⟩
      refine ⟨⟨rfl, ⟨cookie, hcookie⟩, hpasses⟩, ?_⟩
      rcases hlater with hheaders | ⟨headers, hheaders, hbody | ⟨_, -, _, -, _, -, hend⟩⟩
      · exact Or.inl hheaders
      · exact Or.inr ⟨⟨headers, hheaders⟩, hbody⟩
      · -- the envelope check does not answer BLOCKED
        obtain ⟨_, -, _, hend⟩ := hend
        split at hend
        all_goals cases hend
    · rintro ⟨⟨-, ⟨cookie, hcookie⟩, hpasses⟩, hlater⟩
      refine ⟨cookie, hcookie, (), hpasses, ?_⟩
      rcases hlater with hheaders | ⟨⟨headers, hheaders⟩, hbody⟩
      · exact Or.inl hheaders
      · exact Or.inr ⟨headers, hheaders, Or.inl hbody⟩

/-- **Where Core and the Worker agree.**  The request of a compiled plan under a
validated policy is built, and the Worker answers it with `BLOCKED` because of
an argument unless the plan and the policy are admissible, or something else
has stopped it before. -/
theorem worker_accepts_iff {upper : Text → Text} (htables : CharacterTables L isAlnum upper)
    {fingerprint : Text} {others : Text → Option CapabilityDefinition}
    {extras : Text → Option ArgumentValidator} {intent : ExperimentIntent} {plan : Plan}
    (hcapability : intent.capabilityId = "http.transaction".toList)
    (hcompiled : compileExperimentIntent (loadCapabilityRegistry fingerprint others)
      (extraArgumentValidatorFor L isAlnum extras) intent = .ok plan)
    {rawUserAgent : Option Json} {ua : Option Text}
    (hua : validateRequiredUserAgent rawUserAgent = .ok ua)
    {raw : Option RequiredHeaders} {headers : List (Text × Text)}
    (hheaders : validateRequiredProgramHeaders L.lower isAlnum raw = .ok headers)
    (identityId : Option Text) (networkEnvelope : Option EnvelopeMapping)
    (resolvedSecretValues : Option (List (Text × Text))) :
    ∃ built, buildArguments L.lower isAlnum plan.arguments identityId ua
        (some (.ofTexts headers)) = .ok built ∧
      let request : Request := ⟨plan.action, built, networkEnvelope, resolvedSecretValues⟩
      (¬ Refuses (execute L isAlnum upper request) ↔
        ¬ Reaches L request ∨ Admissible L plan.arguments ua headers) := by
  obtain ⟨hchecked, -⟩ := checked_of_compiled hcapability hcompiled
  obtain ⟨built, hbuilt, hget, hobject⟩ :=
    buildArguments_eq_ok hchecked htables.lower hheaders identityId ua
  refine ⟨built, hbuilt, ?_⟩
  intro request
  have hkeep : ∀ key, key ≠ "headers".toList → key ≠ "identity_id".toList →
      request.arguments.get key = plan.arguments.get key := hget
  obtain ⟨method, hmethod, hallowed⟩ := hchecked.method
  obtain ⟨path, hpath, hpathError⟩ := hchecked.path
  obtain ⟨origin, horigin, hblank⟩ := hchecked.origin
  obtain ⟨hstrip, hnonempty, hcheck⟩ := method_facts hallowed
  rw [← hkeep _ (by decide) (by decide)] at hmethod hpath horigin
  have hupper : upper method.strip = method := by
    rw [hstrip]
    exact htables.upper method (List.mem_append.mpr (hallowed.imp And.right And.right))
  have hrefuses : Refuses (execute L isAlnum upper request) ↔ _ :=
    execute_refuses (textArgument_eq_some hmethod (by rw [hstrip]; exact hnonempty))
      (by rw [hupper]; exact hcheck)
      (textArgument_eq_some hpath (strip_ne_nil_of_pathError hpathError)) hpathError
      (textArgument_eq_some horigin hblank) (queryString_ok (by
        rw [hkeep _ (by decide) (by decide)]
        exact hchecked.query))
  have hshape := mergedHeaders_wellShaped htables hchecked hua hheaders
  have hcontent := hchecked.contentType
  have hbody := hchecked.body
  rw [← hkeep _ (by decide) (by decide)] at hcontent hbody
  have hheaderRefusal : Refuses (requestHeaders L isAlnum request.arguments) ↔ _ :=
    requestHeaders_refuses hobject hshape hcontent
  have hbodyRefusal := requestBody_refuses hbody
  have hsettled : Settled (requestHeaders L isAlnum request.arguments) :=
    settled_requestHeaders hobject hcontent
  have hlengths : (mergedHeaders L.lower plan.arguments (policyHeaders ua headers)).length =
      ((planHeaders plan.arguments).filter fun entry => (policyHeaders ua headers).all
        fun header => L.lower header.1 ≠ L.lower entry.1).length +
      (policyHeaders ua headers).length := by
    simp [mergedHeaders]
  rw [mergedHeaders_fit htables hchecked hua headers, hlengths] at hheaderRefusal
  have hreaches : Reaches L request ↔
      (request.networkEnvelope.bind (parseEnvelope L)).isSome ∧
        (∃ cookie, sessionCheck L request = .ok cookie) ∧
        rejectOrigin L (origin.strip.rstrip '/') = .ok () := by
    constructor
    · exact fun h => ⟨h.envelope, h.session, h.origin origin horigin⟩
    · rintro ⟨henvelope, hsession, hpasses⟩
      refine ⟨henvelope, hsession, fun other hother => ?_⟩
      obtain rfl : origin = other := by simpa using horigin.symm.trans hother
      exact hpasses
  have hadmissible : Admissible L plan.arguments ua headers ↔
      ¬ Refuses (requestHeaders L isAlnum request.arguments) ∧
        ¬ Refuses (requestBody L request.action (request.arguments.get "body".toList)) := by
    have htype := hkeep "content_type".toList (by decide) (by decide)
    have hbytes := hkeep "body".toList (by decide) (by decide)
    rw [hheaderRefusal, hbodyRefusal, not_not, not_not, htype, hbytes]
    constructor
    · exact fun h => ⟨⟨h.count, ⟨h.planHeaders, h.programHeaders⟩, h.contentType⟩, h.body⟩
    · rintro ⟨⟨hcount, ⟨hplan, hprogram⟩, htype⟩, hbytes⟩
      exact ⟨hplan, hprogram, hcount, htype, hbytes⟩
  rw [hrefuses, ← hreaches, hadmissible]
  constructor
  · intro hnot
    by_cases hreached : Reaches L request
    · refine Or.inr ⟨fun hheader => hnot ⟨hreached, Or.inl hheader⟩, fun hrefused => ?_⟩
      rcases hsettled with hheader | hpasses
      · exact hnot ⟨hreached, Or.inl hheader⟩
      · exact hnot ⟨hreached, Or.inr ⟨hpasses, hrefused⟩⟩
    · exact Or.inl hreached
  · rintro h ⟨hreached, hlater⟩
    obtain ⟨hheader, hrefused⟩ := h.resolve_left (not_not.mpr hreached)
    rcases hlater with hlater | ⟨-, hlater⟩
    · exact hheader hlater
    · exact hrefused hlater

/-! ## Instances -/

/-- `str.isalnum` on ASCII. -/
def asciiAlnum (c : Char) : Bool := isAsciiAlpha c || ('0' ≤ c && c ≤ '9')

/-- `str.upper` on ASCII. -/
def asciiUpper (s : Text) : Text := s.map Char.toUpper

theorem asciiTables : CharacterTables asciiCodecs asciiAlnum asciiUpper where
  lower := by decide
  letters c h := by simp [asciiAlnum, h]
  controls := by simp [asciiAlnum, isAsciiAlpha]
  upper := by decide

/-- An intent to read the root of a local application. -/
def rootIntent : ExperimentIntent where
  hypothesisId := "h".toList
  capabilityId := "http.transaction".toList
  action := "read".toList
  targetReference := "t".toList
  arguments := [("authorized_origin".toList, .text "http://127.0.0.1:8080".toList),
    ("method".toList, .text "GET".toList), ("path".toList, .text ['/'])]
  requestedBudgetId := "b".toList
  requestedSideEffect := none
  targetType := "opaque_reference".toList

/-- The plan that it is compiled into. -/
def rootPlan : Plan where
  hypothesisId := "h".toList
  requiredCapability := "http.transaction".toList
  action := "read".toList
  targetReference := "t".toList
  sideEffectLevel := 0
  arguments := rootIntent.arguments
  requestedBudgetId := "b".toList
  capabilityVersion := "1".toList
  capabilityDefinitionFingerprint := "f".toList

/-- The envelope of the local application. -/
def rootEnvelope : EnvelopeMapping where
  normalizedScheme := "http".toList
  normalizedHost := loopbackHost
  normalizedPort := 8080
  documentPath := ['/']
  originWide := true
  allowedPathPrefixes := []
  deniedPathPrefixes := []
  loopbackOnly := true
  sourceScopeRuleIds := []
  authorizationDecisionReference := none

theorem compile_rootIntent :
    compileExperimentIntent (loadCapabilityRegistry "f".toList fun _ => none)
      (extraArgumentValidatorFor asciiCodecs asciiAlnum fun _ => none) rootIntent =
        .ok rootPlan := by
  rfl

/-- A policy that demands a user agent is let through. -/
theorem worker_accepts_iff_userAgent :
    ∃ built, buildArguments asciiCodecs.lower asciiAlnum rootPlan.arguments none
        (some "zest".toList) (some (.ofTexts [])) = .ok built ∧
      ¬ Refuses (execute asciiCodecs asciiAlnum asciiUpper
        ⟨rootPlan.action, built, some rootEnvelope, none⟩) := by
  have hua : validateRequiredUserAgent (some (.text "zest".toList)) =
      .ok (some "zest".toList) := rfl
  have hheaders : validateRequiredProgramHeaders asciiCodecs.lower asciiAlnum none = .ok [] := rfl
  obtain ⟨built, hbuilt, haccepts⟩ := worker_accepts_iff asciiTables rfl compile_rootIntent hua
    hheaders none (some rootEnvelope) none
  refine ⟨built, hbuilt, haccepts.mpr (Or.inr ?_)⟩
  refine ⟨?_, ?_, by decide, ?_, ?_⟩
  · exact fun entry hmem => absurd hmem (by
      rw [show planHeaders rootPlan.arguments = [] from rfl]
      exact List.not_mem_nil)
  · exact fun header hmem => absurd hmem List.not_mem_nil
  · intro s hs
    cases hs
  · intro s hs
    cases hs

/-- **A header that the policy may demand is refused**: Core validates it, and
the Worker does not know its name. -/
theorem program_header_refused :
    compileExperimentIntent (loadCapabilityRegistry "f".toList fun _ => none)
        (extraArgumentValidatorFor asciiCodecs asciiAlnum fun _ => none) rootIntent =
      .ok rootPlan ∧
    validateRequiredUserAgent none = .ok none ∧
    validateRequiredProgramHeaders asciiCodecs.lower asciiAlnum
        (some (.ofTexts [("X-Bug-Bounty".toList, "zest".toList)])) =
      .ok [("X-Bug-Bounty".toList, "zest".toList)] ∧
    ∃ built, buildArguments asciiCodecs.lower asciiAlnum rootPlan.arguments none none
        (some (.ofTexts [("X-Bug-Bounty".toList, "zest".toList)])) = .ok built ∧
      execute asciiCodecs asciiAlnum asciiUpper
          ⟨rootPlan.action, built, some rootEnvelope, none⟩ =
        .error (.blocked .headers "header X-Bug-Bounty is not allowed") :=
  ⟨compile_rootIntent, rfl, rfl, _, rfl, rfl⟩

end Zest.HttpTransaction
