import Mathlib.Data.Char
import Mathlib.Data.List.Lex
import Mathlib.Data.List.Sort
import Zest.JsonValue

/-! # Secrets under their keys

What is stored under the key of a secret is taken out wherever it is, in objects and
in lists: the walk over a payload collects the paths of such keys, and redaction puts
one constant in the place of every value under them.

The payloads are JSON, so nothing in them is a reference to a secret.
-/
namespace Zest.SafeData

/-- `SENSITIVE_KEYS`. -/
def sensitiveKeys : List Text :=
  ["authorization", "proxy_authorization", "api_key", "apikey", "access_token", "refresh_token",
    "token", "secret", "password", "cookie", "set_cookie", "session", "client_secret",
    "session_token", "raw_secret", "secret_value", "credential", "openai_api_key",
    "anthropic_api_key"].map String.toList

/-- `REDACTED`. -/
def redactedText : Text := "[REDACTED]".toList

/-- `SecretMaterialError`: the field, and the paths of the keys, once each and in
order. -/
structure SecretMaterialError where
  fieldName : Text
  paths : List Text

section Walk

variable (lower : Text → Text)

/-- `normalize_secret_key`. -/
def normalizeSecretKey (key : Text) : Text :=
  (lower key.strip).map fun c => if c = '-' then '_' else c

/-- `is_sensitive_key`. -/
def isSensitiveKey (key : Text) : Bool :=
  normalizeSecretKey lower key ≠ [] ∧ normalizeSecretKey lower key ∈ sensitiveKeys

/-- The path of a member of an object. -/
def childPath (path key : Text) : Text := if path = [] then key else path ++ '.' :: key

/-- The path of an item of a list. -/
def itemPath (path : Text) (index : Nat) : Text := path ++ '[' :: Nat.toDigits 10 index ++ [']']

mutual

/-- `_collect_sensitive`: the cleaned value, and what is added to `found`. -/
def collectSensitive (redact : Bool) (path : Text) : JsonValue → JsonValue × List Text
  | .object entries =>
    (.object (collectEntries redact path entries).1, (collectEntries redact path entries).2)
  | .array items =>
    (.array (collectItems redact path 0 items).1, (collectItems redact path 0 items).2)
  | .null => (.null, [])
  | .bool b => (.bool b, [])
  | .integer n => (.integer n, [])
  | .real value => (.real value, [])
  | .text s => (.text s, [])

def collectEntries (redact : Bool) (path : Text) :
    List (Text × JsonValue) → List (Text × JsonValue) × List Text
  | [] => ([], [])
  | (key, item) :: rest =>
    let others := collectEntries redact path rest
    if isSensitiveKey lower key then
      -- without redaction the member is left out of what is cleaned
      (if redact then (key, .text redactedText) :: others.1 else others.1,
        childPath path key :: others.2)
    else
      let child := collectSensitive redact (childPath path key) item
      ((key, child.1) :: others.1, child.2 ++ others.2)

def collectItems (redact : Bool) (path : Text) :
    Nat → List JsonValue → List JsonValue × List Text
  | _, [] => ([], [])
  | index, item :: rest =>
    let child := collectSensitive redact (itemPath path index) item
    let others := collectItems redact path (index + 1) rest
    (child.1 :: others.1, child.2 ++ others.2)

end

/-- `walk_sensitive_keys`. -/
def walkSensitiveKeys (value : JsonValue) : List Text :=
  (collectSensitive lower false "payload".toList value).2

/-- `reject_secret_keys`. -/
def rejectSecretKeys (payload : JsonValue) (fieldName : Text) :
    Except SecretMaterialError JsonValue :=
  let (cleaned, found) := collectSensitive lower false fieldName payload
  if found = [] then .ok cleaned
  else .error ⟨fieldName, found.dedup.insertionSort (· ≤ ·)⟩

/-- `redact_secret_keys`. -/
def redactSecretKeys (payload : JsonValue) : JsonValue :=
  (collectSensitive lower true "payload".toList payload).1

/-! ## What is left of a payload

The cleaned value has nothing to do with the paths. -/

mutual

/-- A value with its secrets taken out. -/
def redacted : JsonValue → JsonValue
  | .object entries => .object (redactedEntries entries)
  | .array items => .array (redactedItems items)
  | .null => .null
  | .bool b => .bool b
  | .integer n => .integer n
  | .real value => .real value
  | .text s => .text s

def redactedEntries : List (Text × JsonValue) → List (Text × JsonValue)
  | [] => []
  | (key, item) :: rest =>
    (key, if isSensitiveKey lower key then .text redactedText else redacted item) ::
      redactedEntries rest

def redactedItems : List JsonValue → List JsonValue
  | [] => []
  | item :: rest => redacted item :: redactedItems rest

end

mutual

/-- A value in which no key is the key of a secret. -/
def secretFree : JsonValue → Bool
  | .object entries => secretFreeEntries entries
  | .array items => secretFreeItems items
  | _ => true

def secretFreeEntries : List (Text × JsonValue) → Bool
  | [] => true
  | (key, item) :: rest =>
    !isSensitiveKey lower key && secretFree item && secretFreeEntries rest

def secretFreeItems : List JsonValue → Bool
  | [] => true
  | item :: rest => secretFree item && secretFreeItems rest

end

mutual

/-- Two values that differ only in what is stored under the keys of secrets. -/
def SameButSecrets : JsonValue → JsonValue → Prop
  | .object entries, .object others => SameEntries entries others
  | .array items, .array others => SameItems items others
  | value, other => value = other

def SameEntries : List (Text × JsonValue) → List (Text × JsonValue) → Prop
  | [], [] => True
  | (key, item) :: rest, (key', item') :: rest' =>
    key = key' ∧ (isSensitiveKey lower key = true ∨ SameButSecrets item item') ∧
      SameEntries rest rest'
  | _, _ => False

def SameItems : List JsonValue → List JsonValue → Prop
  | [], [] => True
  | item :: rest, item' :: rest' => SameButSecrets item item' ∧ SameItems rest rest'
  | _, _ => False

end

end Walk

section Facts

variable {lower : Text → Text}

mutual

/-- Redaction leaves the value with its secrets taken out, on whatever path. -/
theorem collectSensitive_true (path : Text) : ∀ value : JsonValue,
    (collectSensitive lower true path value).1 = redacted lower value
  | .object entries => by
    rw [collectSensitive, redacted, collectEntries_true path entries]
  | .array items => by
    rw [collectSensitive, redacted, collectItems_true path 0 items]
  | .null => rfl
  | .bool _ => rfl
  | .integer _ => rfl
  | .real _ => rfl
  | .text _ => rfl

theorem collectEntries_true (path : Text) : ∀ entries : List (Text × JsonValue),
    (collectEntries lower true path entries).1 = redactedEntries lower entries
  | [] => rfl
  | (key, item) :: rest => by
    rw [collectEntries, redactedEntries]
    by_cases hkey : isSensitiveKey lower key = true
    · rw [if_pos hkey, if_pos hkey, if_pos rfl, collectEntries_true path rest]
    · rw [if_neg hkey, if_neg hkey, collectEntries_true path rest]
      dsimp only
      rw [collectSensitive_true _ item]

theorem collectItems_true (path : Text) : ∀ (index : Nat) (items : List JsonValue),
    (collectItems lower true path index items).1 = redactedItems lower items
  | _, [] => rfl
  | index, item :: rest => by
    rw [collectItems, redactedItems, collectItems_true path (index + 1) rest,
      collectSensitive_true _ item]

end

mutual

/-- The walk finds nothing just where there is no secret. -/
theorem found_eq_nil_iff (redact : Bool) (path : Text) : ∀ value : JsonValue,
    (collectSensitive lower redact path value).2 = [] ↔ secretFree lower value = true
  | .object entries => by
    rw [collectSensitive, secretFree, foundEntries_eq_nil_iff redact path entries]
  | .array items => by
    rw [collectSensitive, secretFree, foundItems_eq_nil_iff redact path 0 items]
  | .null => by simp [collectSensitive, secretFree]
  | .bool _ => by simp [collectSensitive, secretFree]
  | .integer _ => by simp [collectSensitive, secretFree]
  | .real _ => by simp [collectSensitive, secretFree]
  | .text _ => by simp [collectSensitive, secretFree]

theorem foundEntries_eq_nil_iff (redact : Bool) (path : Text) :
    ∀ entries : List (Text × JsonValue),
      (collectEntries lower redact path entries).2 = [] ↔
        secretFreeEntries lower entries = true
  | [] => by simp [collectEntries, secretFreeEntries]
  | (key, item) :: rest => by
    rw [collectEntries, secretFreeEntries]
    by_cases hkey : isSensitiveKey lower key = true
    · simp [hkey]
    · rw [if_neg hkey]
      simp only [List.append_eq_nil_iff, foundEntries_eq_nil_iff redact path rest,
        found_eq_nil_iff redact _ item, Bool.not_eq_true _ ▸ hkey]
      simp

theorem foundItems_eq_nil_iff (redact : Bool) (path : Text) :
    ∀ (index : Nat) (items : List JsonValue),
      (collectItems lower redact path index items).2 = [] ↔ secretFreeItems lower items = true
  | _, [] => by simp [collectItems, secretFreeItems]
  | index, item :: rest => by
    rw [collectItems, secretFreeItems]
    simp only [List.append_eq_nil_iff, foundItems_eq_nil_iff redact path (index + 1) rest,
      found_eq_nil_iff redact _ item]
    simp

end

theorem secretFreeEntries_iff {entries : List (Text × JsonValue)} :
    secretFreeEntries lower entries = true ↔ ∀ entry ∈ entries,
      isSensitiveKey lower entry.1 = false ∧ secretFree lower entry.2 = true := by
  induction entries with
  | nil => simp [secretFreeEntries]
  | cons entry rest ih =>
    rw [secretFreeEntries, Bool.and_eq_true, Bool.and_eq_true, Bool.not_eq_true', ih,
      List.forall_mem_cons]

theorem secretFreeItems_iff {items : List JsonValue} :
    secretFreeItems lower items = true ↔ ∀ item ∈ items, secretFree lower item = true := by
  induction items with
  | nil => simp [secretFreeItems]
  | cons item rest ih => rw [secretFreeItems, Bool.and_eq_true, ih, List.forall_mem_cons]

mutual

/-- Where there is no secret, the walk cleans nothing. -/
theorem collectSensitive_false (path : Text) : ∀ value : JsonValue,
    secretFree lower value = true → (collectSensitive lower false path value).1 = value
  | .object entries, h => by
    rw [collectSensitive, collectEntries_false path entries h]
  | .array items, h => by
    rw [collectSensitive, collectItems_false path 0 items h]
  | .null, _ => rfl
  | .bool _, _ => rfl
  | .integer _, _ => rfl
  | .real _, _ => rfl
  | .text _, _ => rfl

theorem collectEntries_false (path : Text) : ∀ entries : List (Text × JsonValue),
    secretFreeEntries lower entries = true → (collectEntries lower false path entries).1 = entries
  | [], _ => rfl
  | (key, item) :: rest, h => by
    rw [secretFreeEntries, Bool.and_eq_true, Bool.and_eq_true, Bool.not_eq_true'] at h
    obtain ⟨⟨hkey, hitem⟩, hrest⟩ := h
    rw [collectEntries, hkey, if_neg Bool.false_ne_true, collectEntries_false path rest hrest]
    dsimp only
    rw [collectSensitive_false _ item hitem]

theorem collectItems_false (path : Text) : ∀ (index : Nat) (items : List JsonValue),
    secretFreeItems lower items = true → (collectItems lower false path index items).1 = items
  | _, [], _ => rfl
  | index, item :: rest, h => by
    rw [secretFreeItems, Bool.and_eq_true] at h
    rw [collectItems, collectItems_false path (index + 1) rest h.2,
      collectSensitive_false _ item h.1]

end

mutual

/-- Redaction leaves alone what has no secret in it. -/
theorem redacted_of_secretFree : ∀ value : JsonValue,
    secretFree lower value = true → redacted lower value = value
  | .object entries, h => by rw [redacted, redactedEntries_of_secretFree entries h]
  | .array items, h => by rw [redacted, redactedItems_of_secretFree items h]
  | .null, _ => rfl
  | .bool _, _ => rfl
  | .integer _, _ => rfl
  | .real _, _ => rfl
  | .text _, _ => rfl

theorem redactedEntries_of_secretFree : ∀ entries : List (Text × JsonValue),
    secretFreeEntries lower entries = true → redactedEntries lower entries = entries
  | [], _ => rfl
  | (key, item) :: rest, h => by
    rw [secretFreeEntries, Bool.and_eq_true, Bool.and_eq_true, Bool.not_eq_true'] at h
    obtain ⟨⟨hkey, hitem⟩, hrest⟩ := h
    rw [redactedEntries, hkey, if_neg Bool.false_ne_true, redactedEntries_of_secretFree rest hrest,
      redacted_of_secretFree item hitem]

theorem redactedItems_of_secretFree : ∀ items : List JsonValue,
    secretFreeItems lower items = true → redactedItems lower items = items
  | [], _ => rfl
  | item :: rest, h => by
    rw [secretFreeItems, Bool.and_eq_true] at h
    rw [redactedItems, redactedItems_of_secretFree rest h.2, redacted_of_secretFree item h.1]

end

mutual

/-- What is redacted is redacted once and for all. -/
theorem redacted_redacted : ∀ value : JsonValue,
    redacted lower (redacted lower value) = redacted lower value
  | .object entries => by rw [redacted, redacted, redactedEntries_redactedEntries entries]
  | .array items => by rw [redacted, redacted, redactedItems_redactedItems items]
  | .null => rfl
  | .bool _ => rfl
  | .integer _ => rfl
  | .real _ => rfl
  | .text _ => rfl

theorem redactedEntries_redactedEntries : ∀ entries : List (Text × JsonValue),
    redactedEntries lower (redactedEntries lower entries) = redactedEntries lower entries
  | [] => rfl
  | (key, item) :: rest => by
    rw [redactedEntries, redactedEntries, redactedEntries_redactedEntries rest]
    by_cases hkey : isSensitiveKey lower key = true
    · rw [if_pos hkey, if_pos hkey]
    · rw [if_neg hkey, if_neg hkey, redacted_redacted item]

theorem redactedItems_redactedItems : ∀ items : List JsonValue,
    redactedItems lower (redactedItems lower items) = redactedItems lower items
  | [] => rfl
  | item :: rest => by
    rw [redactedItems, redactedItems, redactedItems_redactedItems rest, redacted_redacted item]

end

mutual

/-- **Secrets do not flow** into what is redacted. -/
theorem redacted_eq_of_same : ∀ value other : JsonValue,
    SameButSecrets lower value other → redacted lower value = redacted lower other
  | .object entries, .object others, h => by
    rw [redacted, redacted, redactedEntries_eq_of_same entries others h]
  | .array items, .array others, h => by
    rw [redacted, redacted, redactedItems_eq_of_same items others h]
  | .object _, .null, h | .object _, .bool _, h | .object _, .integer _, h
  | .object _, .real _, h | .object _, .text _, h | .object _, .array _, h
  | .array _, .null, h | .array _, .bool _, h | .array _, .integer _, h
  | .array _, .real _, h | .array _, .text _, h | .array _, .object _, h => by
    rw [SameButSecrets] at h
    · cases h
    all_goals simp
  | .null, _, h | .bool _, _, h | .integer _, _, h | .real _, _, h | .text _, _, h => by
    rw [SameButSecrets] at h
    · rw [h]
    all_goals simp

theorem redactedEntries_eq_of_same : ∀ entries others : List (Text × JsonValue),
    SameEntries lower entries others →
      redactedEntries lower entries = redactedEntries lower others
  | [], [], _ => rfl
  | [], _ :: _, h => by simp [SameEntries] at h
  | _ :: _, [], h => by simp [SameEntries] at h
  | (key, item) :: rest, (key', item') :: rest', h => by
    rw [SameEntries] at h
    obtain ⟨rfl, hitem, hrest⟩ := h
    rw [redactedEntries, redactedEntries, redactedEntries_eq_of_same rest rest' hrest]
    by_cases hkey : isSensitiveKey lower key = true
    · rw [if_pos hkey, if_pos hkey]
    · rcases hitem with hsensitive | hsame
      · exact absurd hsensitive hkey
      · rw [redacted_eq_of_same item item' hsame]

theorem redactedItems_eq_of_same : ∀ items others : List JsonValue,
    SameItems lower items others → redactedItems lower items = redactedItems lower others
  | [], [], _ => rfl
  | [], _ :: _, h => by simp [SameItems] at h
  | _ :: _, [], h => by simp [SameItems] at h
  | item :: rest, item' :: rest', h => by
    rw [SameItems] at h
    rw [redactedItems, redactedItems, redactedItems_eq_of_same rest rest' h.2,
      redacted_eq_of_same item item' h.1]

end

end Facts

end Zest.SafeData
