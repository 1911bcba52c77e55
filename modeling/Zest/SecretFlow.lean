import Zest.CanonicalJson
import Zest.SafeData

/-! # Secrets do not flow into what is redacted

There are two redactors.  `redact_secret_keys` goes by a list of keys, and the replay
manifest, which digests what it has redacted, by fragments of keys.  A payload whose
secrets are changed is redacted alike by the first one; by the second one, as long as
every key of a secret has one of its fragments.
-/
namespace Zest.SafeData

/-! ## The redaction of the replay manifest -/

/-- `SENSITIVE_KEY_FRAGMENTS`. -/
def sensitiveKeyFragments : List Text :=
  ["authorization", "bearer", "cookie", "credential", "csrf", "password", "secret", "session",
    "token"].map String.toList

section Manifest

variable (lower : Text → Text)

/-- `_is_sensitive_key`, of the manifest. -/
def hasSensitiveFragment (key : Text) : Bool :=
  sensitiveKeyFragments.any fun fragment => (lower key).hasInfix fragment

mutual

/-- `_redact`: the redacted value, and how many keys have been redacted.  The members
of an object come out in the order of their keys. -/
def manifestRedact : JsonValue → JsonValue × Nat
  | .object entries =>
    (.object ((manifestEntries entries).1.insertionSort fun a b => a.1 ≤ b.1),
      (manifestEntries entries).2)
  | .array items => (.array (manifestItems items).1, (manifestItems items).2)
  | .null => (.null, 0)
  | .bool b => (.bool b, 0)
  | .integer n => (.integer n, 0)
  | .real value => (.real value, 0)
  | .text s => (.text s, 0)

def manifestEntries : List (Text × JsonValue) → List (Text × JsonValue) × Nat
  | [] => ([], 0)
  | (key, item) :: rest =>
    let others := manifestEntries rest
    if hasSensitiveFragment lower key then
      ((key, .text "<redacted>".toList) :: others.1, others.2 + 1)
    else
      let child := manifestRedact item
      ((key, child.1) :: others.1, child.2 + others.2)

def manifestItems : List JsonValue → List JsonValue × Nat
  | [] => ([], 0)
  | item :: rest =>
    let child := manifestRedact item
    let others := manifestItems rest
    (child.1 :: others.1, child.2 + others.2)

end

mutual

/-- `json.dumps` with the shortest separators, of a value whose keys are in order;
`floatRepr` is what it writes for a `float`. -/
def jsonText (floatRepr : Rat → Text) : JsonValue → Text
  | .null => "null".toList
  | .bool true => "true".toList
  | .bool false => "false".toList
  | .integer n =>
    if n < 0 then '-' :: Nat.toDigits 10 n.natAbs else Nat.toDigits 10 n.natAbs
  | .real value => floatRepr value
  | .text s => CanonicalJson.encodeString s
  | .array items => '[' :: ([','].intercalate (jsonItems floatRepr items) ++ [']'])
  | .object entries =>
    '\x7b' :: ([','].intercalate (jsonMembers floatRepr entries) ++ ['\x7d'])

def jsonItems (floatRepr : Rat → Text) : List JsonValue → List Text
  | [] => []
  | item :: rest => jsonText floatRepr item :: jsonItems floatRepr rest

def jsonMembers (floatRepr : Rat → Text) : List (Text × JsonValue) → List Text
  | [] => []
  | (key, item) :: rest =>
    (CanonicalJson.encodeString key ++ ':' :: jsonText floatRepr item) ::
      jsonMembers floatRepr rest

end

/-- `_redacted_digest`. -/
def redactedDigest (sha256 : Text → Text) (floatRepr : Rat → Text) :
    JsonValue → Option Text × Nat
  | .null => (none, 0)
  | value =>
    (some (sha256 (jsonText floatRepr (manifestRedact lower value).1)),
      (manifestRedact lower value).2)

/-! ## Keys that the manifest leaves open -/

mutual

/-- A key of a secret is left open: it has no fragment, nor has any key that it is
under. -/
def exposes : JsonValue → Bool
  | .object entries => exposesEntries entries
  | .array items => exposesItems items
  | _ => false

def exposesEntries : List (Text × JsonValue) → Bool
  | [] => false
  | (key, item) :: rest =>
    (!hasSensitiveFragment lower key && (isSensitiveKey lower key || exposes item)) ||
      exposesEntries rest

def exposesItems : List JsonValue → Bool
  | [] => false
  | item :: rest => exposes item || exposesItems rest

end

end Manifest

section Flow

variable {lower : Text → Text}

mutual

/-- Where no key is left open, secrets do not flow into the manifest. -/
theorem manifestRedact_eq_of_same : ∀ value other : JsonValue,
    exposes lower value = false → SameButSecrets lower value other →
      manifestRedact lower value = manifestRedact lower other
  | .object entries, .object others, hclosed, h => by
    rw [manifestRedact, manifestRedact, manifestEntries_eq_of_same entries others hclosed h]
  | .array items, .array others, hclosed, h => by
    rw [manifestRedact, manifestRedact, manifestItems_eq_of_same items others hclosed h]
  | .object _, .null, _, h | .object _, .bool _, _, h | .object _, .integer _, _, h
  | .object _, .real _, _, h | .object _, .text _, _, h | .object _, .array _, _, h
  | .array _, .null, _, h | .array _, .bool _, _, h | .array _, .integer _, _, h
  | .array _, .real _, _, h | .array _, .text _, _, h | .array _, .object _, _, h => by
    rw [SameButSecrets] at h
    · cases h
    all_goals simp
  | .null, _, _, h | .bool _, _, _, h | .integer _, _, _, h | .real _, _, _, h
  | .text _, _, _, h => by
    rw [SameButSecrets] at h
    · rw [h]
    all_goals simp

theorem manifestEntries_eq_of_same : ∀ entries others : List (Text × JsonValue),
    exposesEntries lower entries = false → SameEntries lower entries others →
      manifestEntries lower entries = manifestEntries lower others
  | [], [], _, _ => rfl
  | [], _ :: _, _, h => by simp [SameEntries] at h
  | _ :: _, [], _, h => by simp [SameEntries] at h
  | (key, item) :: rest, (key', item') :: rest', hclosed, h => by
    rw [SameEntries] at h
    obtain ⟨rfl, hitem, hrest⟩ := h
    rw [exposesEntries, Bool.or_eq_false_iff] at hclosed
    obtain ⟨hkey, hclosed⟩ := hclosed
    rw [manifestEntries, manifestEntries, manifestEntries_eq_of_same rest rest' hclosed hrest]
    by_cases hfragment : hasSensitiveFragment lower key = true
    · rw [if_pos hfragment, if_pos hfragment]
    · rw [Bool.not_eq_true] at hfragment
      rw [hfragment, Bool.not_false, Bool.true_and, Bool.or_eq_false_iff] at hkey
      rcases hitem with hsensitive | hsame
      · rw [hkey.1] at hsensitive
        cases hsensitive
      · rw [manifestRedact_eq_of_same item item' hkey.2 hsame]

theorem manifestItems_eq_of_same : ∀ items others : List JsonValue,
    exposesItems lower items = false → SameItems lower items others →
      manifestItems lower items = manifestItems lower others
  | [], [], _, _ => rfl
  | [], _ :: _, _, h => by simp [SameItems] at h
  | _ :: _, [], _, h => by simp [SameItems] at h
  | item :: rest, item' :: rest', hclosed, h => by
    rw [SameItems] at h
    rw [exposesItems, Bool.or_eq_false_iff] at hclosed
    rw [manifestItems, manifestItems, manifestItems_eq_of_same rest rest' hclosed.2 h.2,
      manifestRedact_eq_of_same item item' hclosed.1 h.1]

end

mutual

theorem sameButSecrets_refl : ∀ value : JsonValue, SameButSecrets lower value value
  | .object entries => by
    rw [SameButSecrets]
    exact sameEntries_refl entries
  | .array items => by
    rw [SameButSecrets]
    exact sameItems_refl items
  | .null | .bool _ | .integer _ | .real _ | .text _ => by
    rw [SameButSecrets]
    all_goals simp

theorem sameEntries_refl : ∀ entries : List (Text × JsonValue), SameEntries lower entries entries
  | [] => by simp [SameEntries]
  | (key, item) :: rest => by
    rw [SameEntries]
    exact ⟨rfl, .inr (sameButSecrets_refl item), sameEntries_refl rest⟩

theorem sameItems_refl : ∀ items : List JsonValue, SameItems lower items items
  | [] => by simp [SameItems]
  | item :: rest => by
    rw [SameItems]
    exact ⟨sameButSecrets_refl item, sameItems_refl rest⟩

end

/-- A secret with a secret key in it, or none: whichever is counted otherwise. -/
def otherSecret (value : JsonValue) : JsonValue :=
  if (manifestRedact lower value).2 = 0 then .object [("token".toList, .null)] else .null

theorem count_otherSecret (htoken : hasSensitiveFragment lower "token".toList = true)
    (value : JsonValue) :
    (manifestRedact lower (@otherSecret lower value)).2 ≠ (manifestRedact lower value).2 := by
  unfold otherSecret
  by_cases hcount : (manifestRedact lower value).2 = 0
  · rw [if_pos hcount, hcount, manifestRedact, manifestEntries, if_pos htoken, manifestEntries]
    decide
  · rw [if_neg hcount, manifestRedact]
    exact Ne.symm hcount

mutual

/-- Where a key is left open, what is under it shows in the count of the manifest. -/
theorem exists_other_count (htoken : hasSensitiveFragment lower "token".toList = true) :
    ∀ value : JsonValue, exposes lower value = true → ∃ other, SameButSecrets lower value other ∧
      (manifestRedact lower value).2 ≠ (manifestRedact lower other).2
  | .object entries, h => by
    obtain ⟨others, hsame, hne⟩ := exists_other_entries htoken entries h
    refine ⟨.object others, ?_, ?_⟩
    · rw [SameButSecrets]
      exact hsame
    · rw [manifestRedact, manifestRedact]
      exact hne
  | .array items, h => by
    obtain ⟨others, hsame, hne⟩ := exists_other_items htoken items h
    refine ⟨.array others, ?_, ?_⟩
    · rw [SameButSecrets]
      exact hsame
    · rw [manifestRedact, manifestRedact]
      exact hne
  | .null, h | .bool _, h | .integer _, h | .real _, h | .text _, h => by
    simp [exposes] at h

theorem exists_other_entries (htoken : hasSensitiveFragment lower "token".toList = true) :
    ∀ entries : List (Text × JsonValue), exposesEntries lower entries = true →
      ∃ others, SameEntries lower entries others ∧
        (manifestEntries lower entries).2 ≠ (manifestEntries lower others).2
  | [], h => by simp [exposesEntries] at h
  | (key, item) :: rest, h => by
    rw [exposesEntries, Bool.or_eq_true] at h
    rcases h with hopen | hrest
    · rw [Bool.and_eq_true, Bool.not_eq_true', Bool.or_eq_true] at hopen
      obtain ⟨hfragment, hitem⟩ := hopen
      obtain ⟨item', hsame, hne⟩ : ∃ item',
          (isSensitiveKey lower key = true ∨ SameButSecrets lower item item') ∧
            (manifestRedact lower item).2 ≠ (manifestRedact lower item').2 := by
        rcases hitem with hsensitive | hinside
        · exact ⟨otherSecret item, .inl hsensitive, (count_otherSecret htoken item).symm⟩
        · obtain ⟨item', hsame, hne⟩ := exists_other_count htoken item hinside
          exact ⟨item', .inr hsame, hne⟩
      refine ⟨(key, item') :: rest, ?_, ?_⟩
      · rw [SameEntries]
        exact ⟨rfl, hsame, sameEntries_refl rest⟩
      · rw [manifestEntries, manifestEntries, hfragment]
        simpa using hne
    · obtain ⟨rest', hsame, hne⟩ := exists_other_entries htoken rest hrest
      refine ⟨(key, item) :: rest', ?_, ?_⟩
      · rw [SameEntries]
        exact ⟨rfl, .inr (sameButSecrets_refl item), hsame⟩
      · rw [manifestEntries, manifestEntries]
        by_cases hfragment : hasSensitiveFragment lower key = true
        · rw [if_pos hfragment, if_pos hfragment]
          simpa using hne
        · rw [if_neg hfragment, if_neg hfragment]
          simpa using hne

theorem exists_other_items (htoken : hasSensitiveFragment lower "token".toList = true) :
    ∀ items : List JsonValue, exposesItems lower items = true →
      ∃ others, SameItems lower items others ∧
        (manifestItems lower items).2 ≠ (manifestItems lower others).2
  | [], h => by simp [exposesItems] at h
  | item :: rest, h => by
    rw [exposesItems, Bool.or_eq_true] at h
    rcases h with hitem | hrest
    · obtain ⟨item', hsame, hne⟩ := exists_other_count htoken item hitem
      refine ⟨item' :: rest, ?_, ?_⟩
      · rw [SameItems]
        exact ⟨hsame, sameItems_refl rest⟩
      · rw [manifestItems, manifestItems]
        simpa using hne
    · obtain ⟨rest', hsame, hne⟩ := exists_other_items htoken rest hrest
      refine ⟨item :: rest', ?_, ?_⟩
      · rw [SameItems]
        exact ⟨sameButSecrets_refl item, hsame⟩
      · rw [manifestItems, manifestItems]
        simpa using hne

end

end Flow

/-! ## Which keys are left open -/

/-- What is relied on of `str.lower`: it lowers the letters of ASCII, and leaves alone
the space around a text, which does not change how the text is lowered. -/
structure Lowers (lower : Text → Text) : Prop where
  ascii : ∀ s : Text, (∀ c ∈ s, Text.isAscii c = true) → lower s = s.map Text.asciiLower
  around : ∀ before s after : Text, (∀ c ∈ before, Text.isSpace c = true) →
    (∀ c ∈ after, Text.isSpace c = true) →
    lower (before ++ s ++ after) = before ++ lower s ++ after

/-- The keys of secrets that have no fragment. -/
def apiKeys : List Text :=
  ["api_key", "apikey", "openai_api_key", "anthropic_api_key"].map String.toList

section Open

variable {lower : Text → Text}

theorem hasInfix_iff {s p : Text} : s.hasInfix p = true ↔ p <:+: s := by
  constructor
  · intro h
    induction s with
    | nil =>
      have hprefix : p.isPrefixOf [] = true := h
      exact (List.isPrefixOf_iff_prefix.mp hprefix).isInfix
    | cons c s ih =>
      rcases Bool.or_eq_true_iff.mp h with h | h
      · exact (List.isPrefixOf_iff_prefix.mp h).isInfix
      · exact (ih h).trans (List.suffix_cons c s).isInfix
  · rintro ⟨before, after, rfl⟩
    by_contra hnone
    rw [Bool.not_eq_true] at hnone
    have hsuffix : p ++ after <:+ before ++ p ++ after := ⟨before, by simp⟩
    have hnot := Text.search_suffix hnone hsuffix
    rw [List.isPrefixOf_iff_prefix.mpr (List.prefix_append p after)] at hnot
    cases hnot

/-- A text is its stripped middle, with space around. -/
theorem exists_strip (s : Text) : ∃ before after : Text, s = before ++ s.strip ++ after ∧
    (∀ c ∈ before, Text.isSpace c = true) ∧ ∀ c ∈ after, Text.isSpace c = true := by
  let rest := s.dropWhile Text.isSpace
  refine ⟨s.takeWhile Text.isSpace, (rest.reverse.takeWhile Text.isSpace).reverse, ?_, ?_, ?_⟩
  · have hrest : rest = s.strip ++ (rest.reverse.takeWhile Text.isSpace).reverse := by
      have hsplit := congrArg List.reverse
        (@List.takeWhile_append_dropWhile _ Text.isSpace rest.reverse)
      rw [List.reverse_append, List.reverse_reverse] at hsplit
      exact hsplit.symm
    rw [List.append_assoc, ← hrest, List.takeWhile_append_dropWhile]
  · exact fun c hc => List.mem_takeWhile_imp hc
  · exact fun c hc => List.mem_takeWhile_imp (List.mem_reverse.mp hc)

/-- **The keys of secrets that are left open** are the API keys. -/
theorem apiKey_of_open (hlower : Lowers lower) {key : Text}
    (hsensitive : isSensitiveKey lower key = true)
    (hopen : hasSensitiveFragment lower key = false) :
    normalizeSecretKey lower key ∈ apiKeys := by
  have hmem : normalizeSecretKey lower key ∈ sensitiveKeys := (of_decide_eq_true hsensitive).2
  have hkeys : ∀ name ∈ sensitiveKeys, name ∈ apiKeys ∨
      ∃ fragment ∈ sensitiveKeyFragments, name.hasInfix fragment = true := by
    decide
  rcases hkeys _ hmem with hapi | ⟨fragment, hfragment, hinside⟩
  · exact hapi
  · exfalso
    obtain ⟨before, after, hsplit⟩ := hasInfix_iff.mp hinside
    -- the fragment has no underscore, so no dash has become a part of it
    rw [normalizeSecretKey, eq_comm, List.map_eq_append_iff] at hsplit
    obtain ⟨most, last, hlowered, hmost, -⟩ := hsplit
    obtain ⟨first, middle, rfl, -, hmiddle⟩ := List.map_eq_append_iff.mp hmost
    have hsame : middle = fragment := by
      have hletters : ∀ name ∈ sensitiveKeyFragments, '_' ∉ name := by decide
      have hfree := hletters fragment hfragment
      rw [← hmiddle] at hfree ⊢
      conv_lhs => rw [← List.map_id middle]
      refine List.map_congr_left fun c hc => ?_
      have hdash : c ≠ '-' := fun heq =>
        hfree (List.mem_map.mpr ⟨c, hc, if_pos heq⟩)
      exact (if_neg hdash).symm
    obtain ⟨left, right, hkey, hleft, hright⟩ := exists_strip key
    have hlower' := hlower.around left key.strip right hleft hright
    rw [← hkey] at hlower'
    have hinfix : (lower key).hasInfix fragment = true := by
      rw [hasInfix_iff, hlower', hlowered, hsame]
      exact ⟨left ++ first, last ++ right, by simp⟩
    have hany := List.any_eq_true.mpr ⟨fragment, hfragment, hinfix⟩
    rw [hasSensitiveFragment, hany] at hopen
    cases hopen

end Open

/-! ## What a redaction is asked for -/

/-- A step into a payload. -/
inductive PathStep where
  | key (key : Text)
  | index (index : Nat)
  deriving DecidableEq

/-- What is at a path of a payload. -/
def valueAt : JsonValue → List PathStep → Option JsonValue
  | value, [] => some value
  | .object entries, .key key :: rest =>
    match Dict.lookup entries key with
    | some value => valueAt value rest
    | none => none
  | .array items, .index index :: rest =>
    match items[index]? with
    | some value => valueAt value rest
    | none => none
  | _, _ => none

/-- What the redactors make of a payload. -/
structure Redacts (lower : Text → Text) (sha256 : Text → Text) (floatRepr : Rat → Text)
    (payload : JsonValue) : Prop where
  /-- What is redacted does not depend on the secrets. -/
  flow : ∀ other, SameButSecrets lower payload other →
    redactSecretKeys lower payload = redactSecretKeys lower other ∧
      redactedDigest lower sha256 floatRepr payload = redactedDigest lower sha256 floatRepr other
  idempotent : redactSecretKeys lower (redactSecretKeys lower payload) =
    redactSecretKeys lower payload
  /-- A value that is under no key of a secret, and has none in it, stays as it is. -/
  kept : ∀ path, (∀ key, .key key ∈ path → isSensitiveKey lower key = false) →
    ∀ value, valueAt payload path = some value → walkSensitiveKeys lower value = [] →
      valueAt (redactSecretKeys lower payload) path = some value
  rejected : ∀ fieldName,
    (rejectSecretKeys lower payload fieldName = .ok payload ↔
        walkSensitiveKeys lower payload = []) ∧
      (walkSensitiveKeys lower payload ≠ [] →
        ∃ e, rejectSecretKeys lower payload fieldName = .error e)

section Redacts

variable {lower : Text → Text} {sha256 : Text → Text} {floatRepr : Rat → Text}

theorem redactSecretKeys_eq (payload : JsonValue) :
    redactSecretKeys lower payload = redacted lower payload :=
  collectSensitive_true _ payload

theorem walkSensitiveKeys_eq_nil {value : JsonValue} :
    walkSensitiveKeys lower value = [] ↔ secretFree lower value = true :=
  found_eq_nil_iff _ _ value

theorem lookup_redactedEntries {key : Text} (hkey : isSensitiveKey lower key = false)
    (entries : List (Text × JsonValue)) :
    Dict.lookup (redactedEntries lower entries) key =
      (Dict.lookup entries key).map (redacted lower) := by
  induction entries with
  | nil => rfl
  | cons entry rest ih =>
    obtain ⟨key', item⟩ := entry
    rw [redactedEntries, Dict.lookup_cons, Dict.lookup_cons, ih]
    dsimp only
    by_cases hsame : key' = key
    · rw [if_pos hsame, if_pos hsame, hsame, hkey, if_neg Bool.false_ne_true, Option.map_some]
    · rw [if_neg hsame, if_neg hsame]

theorem getElem?_redactedItems (index : Nat) (items : List JsonValue) :
    (redactedItems lower items)[index]? = items[index]?.map (redacted lower) := by
  induction items generalizing index with
  | nil => rfl
  | cons item rest ih =>
    rw [redactedItems]
    cases index with
    | zero => rfl
    | succ index => exact ih index

/-- What is at a path without secrets is redacted where it is. -/
theorem valueAt_redacted (path : List PathStep)
    (hpath : ∀ key, .key key ∈ path → isSensitiveKey lower key = false) (payload : JsonValue) :
    valueAt (redacted lower payload) path = (valueAt payload path).map (redacted lower) := by
  induction path generalizing payload with
  | nil => simp [valueAt]
  | cons step rest ih =>
    have hrest : ∀ key, .key key ∈ rest → isSensitiveKey lower key = false := fun key hkey =>
      hpath key (List.mem_cons_of_mem _ hkey)
    cases payload with
    | object entries =>
      cases step with
      | index index => rfl
      | key key =>
        rw [redacted, valueAt, valueAt, lookup_redactedEntries (hpath key List.mem_cons_self)]
        cases Dict.lookup entries key with
        | none => rfl
        | some value => exact ih hrest value
    | array items =>
      cases step with
      | key key => rfl
      | index index =>
        rw [redacted, valueAt, valueAt, getElem?_redactedItems]
        cases items[index]? with
        | none => rfl
        | some value => exact ih hrest value
    | null => cases step <;> rfl
    | bool b => cases step <;> rfl
    | integer n => cases step <;> rfl
    | real value => cases step <;> rfl
    | text s => cases step <;> rfl

theorem rejectSecretKeys_spec (payload : JsonValue) (fieldName : Text) :
    (rejectSecretKeys lower payload fieldName = .ok payload ↔
        walkSensitiveKeys lower payload = []) ∧
      (walkSensitiveKeys lower payload ≠ [] →
        ∃ e, rejectSecretKeys lower payload fieldName = .error e) := by
  have hfound := @found_eq_nil_iff lower false fieldName payload
  unfold rejectSecretKeys
  dsimp only
  rw [walkSensitiveKeys_eq_nil]
  by_cases hfree : secretFree lower payload = true
  · rw [if_pos (hfound.mpr hfree), collectSensitive_false fieldName payload hfree]
    exact ⟨iff_of_true rfl hfree, fun hnot => absurd (walkSensitiveKeys_eq_nil.mpr hfree) hnot⟩
  · rw [if_neg (mt hfound.mp hfree)]
    exact ⟨iff_of_false (fun h => by cases h) hfree, fun _ => ⟨_, rfl⟩⟩

theorem redactedDigest_snd (value : JsonValue) :
    (redactedDigest lower sha256 floatRepr value).2 = (manifestRedact lower value).2 := by
  cases value <;> rfl

theorem redactedDigest_congr {value other : JsonValue}
    (h : manifestRedact lower value = manifestRedact lower other)
    (hnull : value = .null ↔ other = .null) :
    redactedDigest lower sha256 floatRepr value = redactedDigest lower sha256 floatRepr other := by
  have hsome : ∀ v : JsonValue, v ≠ .null → redactedDigest lower sha256 floatRepr v =
      (some (sha256 (jsonText floatRepr (manifestRedact lower v).1)),
        (manifestRedact lower v).2) := by
    intro v hv
    cases v <;> first | rfl | exact absurd rfl hv
  by_cases hvalue : value = .null
  · rw [hvalue, hnull.mp hvalue]
  · rw [hsome value hvalue, hsome other (mt hnull.mpr hvalue), h]

theorem null_iff_of_same {value other : JsonValue} (h : SameButSecrets lower value other) :
    value = .null ↔ other = .null := by
  cases value <;> cases other <;> simp_all [SameButSecrets]

/-- **The redactors keep secrets out**, and leave the rest alone, for the payloads that
have no key of a secret open to the manifest, and for no others. -/
theorem redacts_iff (hlower : Lowers lower) (sha256 : Text → Text) (floatRepr : Rat → Text)
    (payload : JsonValue) :
    Redacts lower sha256 floatRepr payload ↔ exposes lower payload = false := by
  constructor
  · intro h
    rw [← Bool.not_eq_true]
    intro hexposes
    have htoken : hasSensitiveFragment lower "token".toList = true := by
      have hascii : lower "token".toList = "token".toList := by
        rw [hlower.ascii _ (List.all_eq_true.mp (by decide))]
        decide
      rw [hasSensitiveFragment, hascii]
      decide
    obtain ⟨other, hsame, hne⟩ := exists_other_count htoken payload hexposes
    have hdigest := congrArg Prod.snd (h.flow other hsame).2
    rw [redactedDigest_snd, redactedDigest_snd] at hdigest
    exact hne hdigest
  · intro hclosed
    refine ⟨?_, ?_, ?_, rejectSecretKeys_spec payload⟩
    · intro other hsame
      refine ⟨?_, redactedDigest_congr (manifestRedact_eq_of_same payload other hclosed hsame)
        (null_iff_of_same hsame)⟩
      rw [redactSecretKeys_eq, redactSecretKeys_eq, redacted_eq_of_same payload other hsame]
    · rw [redactSecretKeys_eq, redactSecretKeys_eq, redacted_redacted]
    · intro path hpath value hvalue hfree
      rw [redactSecretKeys_eq, valueAt_redacted path hpath, hvalue, Option.map_some,
        redacted_of_secretFree value (walkSensitiveKeys_eq_nil.mp hfree)]

end Redacts

/-! ## An API key in a payload -/

theorem asciiLower_of_isSpace {c : Char} (h : Text.isSpace c = true) : Text.asciiLower c = c := by
  refine if_neg ?_
  rintro ⟨hge, hle⟩
  have hge' : 65 ≤ c.toNat := hge
  have hle' : c.toNat ≤ 90 := hle
  simp only [Text.isSpace, Bool.or_eq_true, Bool.and_eq_true, decide_eq_true_eq, beq_iff_eq] at h
  omega

theorem lowers_map : Lowers (fun s => s.map Text.asciiLower) where
  ascii _ _ := rfl
  around before s after hbefore hafter := by
    have hspace : ∀ t : Text, (∀ c ∈ t, Text.isSpace c = true) → t.map Text.asciiLower = t := by
      intro t ht
      conv_rhs => rw [← List.map_id t]
      refine List.map_congr_left fun c hc => ?_
      exact asciiLower_of_isSpace (ht c hc)
    show (before ++ s ++ after).map Text.asciiLower = before ++ s.map Text.asciiLower ++ after
    rw [List.map_append, List.map_append, hspace before hbefore, hspace after hafter]

/-- An object with one member. -/
def labPayload (key : String) (value : JsonValue) : JsonValue := .object [(key.toList, value)]

theorem redacts_iff_lab :
    Redacts (fun s => s.map Text.asciiLower) id (fun _ => []) (labPayload "Session-Token" .null) :=
  (redacts_iff lowers_map id (fun _ => []) (labPayload "Session-Token" .null)).mpr (by decide)

/-- The manifest digests an API key. -/
theorem apiKey_digested :
    ¬ ∀ (lower sha256 : Text → Text) (floatRepr : Rat → Text) (payload : JsonValue),
      Lowers lower → Redacts lower sha256 floatRepr payload := by
  intro h
  have hsame : SameButSecrets (fun s => s.map Text.asciiLower) (labPayload "api_key" (.text ['a']))
      (labPayload "api_key" (.text ['b'])) := by
    rw [labPayload, labPayload, SameButSecrets, SameEntries, SameEntries]
    exact ⟨rfl, .inl (by decide), trivial⟩
  have hdigest := ((h _ id (fun _ => []) _ lowers_map).flow _ hsame).2
  revert hdigest
  decide

end Zest.SafeData
