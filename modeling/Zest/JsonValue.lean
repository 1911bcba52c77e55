import Zest.KeyedList
import Zest.Text

/-! # JSON documents as Python holds them

A document is a value of `json.loads`, and an object is a dictionary that keeps
the order of its keys: an assignment to a key that is there stays in its place,
any other one goes to the end.
-/
namespace Zest

/-- A value of `json.loads`; a `float` is the number that it stands for. -/
inductive JsonValue where
  | null
  | bool (b : Bool)
  | integer (n : Int)
  | real (value : Rat)
  | text (s : Text)
  | array (items : List JsonValue)
  | object (entries : List (Text × JsonValue))

/-- `bool(value)`. -/
def JsonValue.truthy : JsonValue → Bool
  | .null => false
  | .bool b => b
  | .integer n => n ≠ 0
  | .real value => value ≠ 0
  | .text s => !s.isEmpty
  | .array items => !items.isEmpty
  | .object entries => !entries.isEmpty

/-- `str(value)`; of what is no text it is as given. -/
def JsonValue.str (repr : JsonValue → Text) : JsonValue → Text
  | .text s => s
  | value => repr value

/-- A `dict` with texts as its keys. -/
abbrev Dict := List (Text × JsonValue)

namespace Dict

/-- What is under a key. -/
def lookup (d : Dict) (key : Text) : Option JsonValue := (KeyedList.get Prod.fst d key).map (·.2)

/-- `d.get(key)`: a key that is not there reads as `None`. -/
def get (d : Dict) (key : Text) : JsonValue := (d.lookup key).getD .null

/-- `d[key] = value`. -/
def set (d : Dict) (key : Text) (value : JsonValue) : Dict :=
  KeyedList.upsert Prod.fst (fun _ new => new) d (key, value)

/-- `d.update(more)`. -/
def update (d more : Dict) : Dict := more.foldl (fun d entry => d.set entry.1 entry.2) d

theorem lookup_nil (key : Text) : lookup [] key = none := rfl

theorem lookup_cons (entry : Text × JsonValue) (d : Dict) (key : Text) :
    lookup (entry :: d) key = if entry.1 = key then some entry.2 else lookup d key := by
  by_cases h : entry.1 = key
  · simp [lookup, KeyedList.get, h]
  · simp [lookup, KeyedList.get, h]

theorem lookup_set (d : Dict) (key : Text) (value : JsonValue) (k : Text) :
    (d.set key value).lookup k = if k = key then some value else d.lookup k := by
  induction d with
  | nil =>
    simp only [set, KeyedList.upsert, lookup_cons, lookup_nil, eq_comm]
  | cons entry d ih =>
    unfold set at ih ⊢
    by_cases hkey : entry.1 = key
    · by_cases hk : k = key
      · simp [KeyedList.upsert, hkey, hk, lookup_cons]
      · simp [KeyedList.upsert, hkey, lookup_cons, Ne.symm hk, hk]
    · by_cases hk : entry.1 = k
      · have hne : k ≠ key := fun heq => hkey (hk.trans heq)
        simp [KeyedList.upsert, lookup_cons, hk, hne]
      · simp [KeyedList.upsert, hkey, lookup_cons, hk, ih]

@[simp] theorem get_set_self (d : Dict) (key : Text) (value : JsonValue) :
    (d.set key value).get key = value := by
  simp [get, lookup_set]

theorem get_set_of_ne {d : Dict} {key k : Text} {value : JsonValue} (h : k ≠ key) :
    (d.set key value).get k = d.get k := by
  simp [get, lookup_set, h]

/-- What reads as a text is there. -/
theorem lookup_of_get {d : Dict} {key s : Text} (h : d.get key = .text s) :
    d.lookup key = some (.text s) := by
  unfold get at h
  cases hvalue : d.lookup key with
  | none =>
    rw [hvalue] at h
    cases h
  | some value =>
    rw [hvalue] at h
    exact congrArg some h

/-- An update leaves alone what it does not name. -/
theorem lookup_update_of_not_mem {d more : Dict} {key : Text} (h : key ∉ more.map (·.1)) :
    (d.update more).lookup key = d.lookup key := by
  induction more generalizing d with
  | nil => rfl
  | cons entry more ih =>
    obtain ⟨hne, hrest⟩ := List.ne_and_not_mem_of_not_mem_cons h
    rw [update, List.foldl_cons]
    have htail := ih (d := d.set entry.1 entry.2) hrest
    rw [update] at htail
    rw [htail, lookup_set, if_neg hne]

theorem lookup_eq_none {d : Dict} {key : Text} (h : key ∉ d.map (·.1)) : d.lookup key = none := by
  unfold lookup KeyedList.get
  rw [List.find?_eq_none.mpr, Option.map_none]
  intro entry hentry hsame
  exact h (List.mem_map.mpr ⟨entry, hentry, by simpa using hsame⟩)

/-- The keys after an assignment. -/
theorem mem_keys_set (d : Dict) (key : Text) (value : JsonValue) (k : Text) :
    k ∈ (d.set key value).map (·.1) ↔ k ∈ d.map (·.1) ∨ k = key :=
  KeyedList.mem_keys_upsert (fun _ _ hkey => hkey.symm) d (key, value) k

/-- The keys after an update. -/
theorem mem_keys_update (d more : Dict) (k : Text) :
    k ∈ (d.update more).map (·.1) ↔ k ∈ d.map (·.1) ∨ k ∈ more.map (·.1) := by
  induction more generalizing d with
  | nil => simp [update]
  | cons entry more ih =>
    have htail := ih (d.set entry.1 entry.2)
    rw [update] at htail
    rw [update, List.foldl_cons, htail, mem_keys_set, List.map_cons, List.mem_cons, or_assoc]

theorem nodup_set {d : Dict} (key : Text) (value : JsonValue) (h : (d.map (·.1)).Nodup) :
    ((d.set key value).map (·.1)).Nodup :=
  KeyedList.nodup_upsert (fun _ _ hkey => hkey.symm) _ h

/-- What an update names, it takes from the update. -/
theorem lookup_update {d more : Dict} (h : (more.map (·.1)).Nodup) (key : Text) :
    (d.update more).lookup key = (lookup more key).or (d.lookup key) := by
  induction more generalizing d with
  | nil => rfl
  | cons entry more ih =>
    obtain ⟨hnotMem, hrest⟩ := List.nodup_cons.mp h
    have htail := ih (d := d.set entry.1 entry.2) hrest
    rw [update, List.foldl_cons]
    rw [update] at htail
    rw [htail, lookup_set, lookup_cons]
    by_cases hkey : entry.1 = key
    · rw [lookup_eq_none (d := more) (hkey ▸ hnotMem), if_pos hkey, if_pos hkey.symm]
      rfl
    · rw [if_neg hkey, if_neg (Ne.symm hkey)]

end Dict

/-! ## Schemas

The part of JSON Schema that the packaged capability definitions use. -/

/-- The schema of one property. -/
inductive PropertySchema where
  | text (minLength : Nat) (maxLength : Option Nat) (enum : Option (List Text))
  /-- An object whose values are texts. -/
  | texts (maxProperties maxLength : Nat)
  | integer (minimum maximum : Int)
  /-- An array of integers. -/
  | integers (minItems maxItems : Nat) (minimum maximum : Int)

/-- A value that passes for an integer: an integral number and no `bool`. -/
def JsonValue.toInteger : JsonValue → Option Int
  | .integer n => some n
  | .real value => if value.den = 1 then some value.num else none
  | _ => none

/-- The value is an integer within the bounds. -/
def JsonValue.integerWithin (minimum maximum : Int) (value : JsonValue) : Bool :=
  value.toInteger.any fun n => minimum ≤ n && n ≤ maximum

/-- The value is a text of at most the length. -/
def JsonValue.textWithin (maxLength : Nat) : JsonValue → Bool
  | .text s => s.length ≤ maxLength
  | _ => false

def PropertySchema.accepts : PropertySchema → JsonValue → Bool
  | .text minLength maxLength enum, .text s =>
    minLength ≤ s.length && maxLength.all (s.length ≤ ·) && enum.all (·.contains s)
  | .texts maxProperties maxLength, .object entries =>
    entries.length ≤ maxProperties && entries.all fun entry => entry.2.textWithin maxLength
  | .integer minimum maximum, value => value.integerWithin minimum maximum
  | .integers minItems maxItems minimum maximum, .array items =>
    minItems ≤ items.length && items.length ≤ maxItems &&
      items.all (·.integerWithin minimum maximum)
  | _, _ => false

/-- The schema of the arguments of an action, which allows no further
properties. -/
structure ArgumentSchema where
  required : List Text
  properties : List (Text × PropertySchema)

/-- The property is known, and its schema accepts the value. -/
def ArgumentSchema.acceptsProperty (schema : ArgumentSchema) (entry : Text × JsonValue) : Bool :=
  (KeyedList.get Prod.fst schema.properties entry.1).any (·.2.accepts entry.2)

def ArgumentSchema.accepts (schema : ArgumentSchema) (arguments : Dict) : Bool :=
  schema.required.all (fun name => (arguments.lookup name).isSome) &&
  arguments.all schema.acceptsProperty

/-- **What a schema says of a property**: it is not there, or its own schema
accepts it. -/
theorem ArgumentSchema.accepts_lookup {schema : ArgumentSchema} {arguments : Dict}
    (h : schema.accepts arguments = true) {key : Text} {value : JsonValue}
    (hvalue : arguments.lookup key = some value) : schema.acceptsProperty (key, value) = true := by
  simp only [accepts, Bool.and_eq_true, List.all_eq_true] at h
  obtain ⟨entry, hget, rfl⟩ := Option.map_eq_some_iff.mp hvalue
  obtain ⟨hmem, rfl⟩ := KeyedList.get_eq_some hget
  exact h.2 entry hmem

end Zest
