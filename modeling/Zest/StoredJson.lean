import Mathlib.Data.Char
import Mathlib.Data.List.Lex
import Mathlib.Data.List.Sort
import Zest.JsonValue

/-! # Documents that are written with sorted keys

A document that is written by `json.dumps(value, sort_keys=True)` and read by
`json.loads` is the same one, with the keys of every object in order.  Python
compares dictionaries without regard to the order of their keys, so what is read
back is equal to what has been written.
-/
namespace Zest.JsonValue

mutual

/-- `json.loads(json.dumps(value, sort_keys=True))`. -/
def reread : JsonValue → JsonValue
  | .array items => .array (rereadItems items)
  | .object entries => .object ((rereadEntries entries).insertionSort fun a b => a.1 ≤ b.1)
  | .null => .null
  | .bool b => .bool b
  | .integer n => .integer n
  | .real value => .real value
  | .text s => .text s

def rereadItems : List JsonValue → List JsonValue
  | [] => []
  | item :: rest => reread item :: rereadItems rest

def rereadEntries : List (Text × JsonValue) → List (Text × JsonValue)
  | [] => []
  | (key, value) :: rest => (key, reread value) :: rereadEntries rest

end

/-- The entries of an object that is read back. -/
def rereadObject (entries : Dict) : Dict :=
  (rereadEntries entries).insertionSort fun a b => a.1 ≤ b.1

mutual

/-- Values that Python compares as equal, numbers of one kind only with their like:
the keys of an object may be in any order. -/
inductive Same : JsonValue → JsonValue → Prop
  | null : Same .null .null
  | bool (b : Bool) : Same (.bool b) (.bool b)
  | integer (n : Int) : Same (.integer n) (.integer n)
  | real (value : Rat) : Same (.real value) (.real value)
  | text (s : Text) : Same (.text s) (.text s)
  | array {items others : List JsonValue} (h : SameItems items others) :
      Same (.array items) (.array others)
  | object {entries permuted others : List (Text × JsonValue)} (hperm : entries.Perm permuted)
      (h : SameEntries permuted others) : Same (.object entries) (.object others)

inductive SameItems : List JsonValue → List JsonValue → Prop
  | nil : SameItems [] []
  | cons {item other : JsonValue} {rest others : List JsonValue} (hitem : Same item other)
      (hrest : SameItems rest others) : SameItems (item :: rest) (other :: others)

inductive SameEntries : List (Text × JsonValue) → List (Text × JsonValue) → Prop
  | nil : SameEntries [] []
  | cons {key : Text} {value other : JsonValue} {rest others : List (Text × JsonValue)}
      (hvalue : Same value other) (hrest : SameEntries rest others) :
      SameEntries ((key, value) :: rest) ((key, other) :: others)

end

theorem rereadEntries_eq (entries : Dict) :
    rereadEntries entries = entries.map fun entry => (entry.1, reread entry.2) := by
  induction entries with
  | nil => rfl
  | cons entry rest ih => rw [rereadEntries, ih, List.map_cons]

theorem rereadObject_perm (entries : Dict) :
    (rereadObject entries).Perm (entries.map fun entry => (entry.1, reread entry.2)) := by
  rw [rereadObject, rereadEntries_eq]
  exact List.perm_insertionSort _ _

theorem reread_object (entries : Dict) :
    reread (.object entries) = .object (rereadObject entries) := by
  rw [reread, rereadObject]

mutual

/-- **What is read back** is equal to what has been written. -/
theorem same_reread : (value : JsonValue) → Same (reread value) value
  | .null => by
    rw [reread]
    exact .null
  | .bool b => by
    rw [reread]
    exact .bool b
  | .integer n => by
    rw [reread]
    exact .integer n
  | .real value => by
    rw [reread]
    exact .real value
  | .text s => by
    rw [reread]
    exact .text s
  | .array items => by
    rw [reread]
    exact .array (same_rereadItems items)
  | .object entries => by
    rw [reread]
    exact .object (List.perm_insertionSort _ _) (same_rereadEntries entries)

theorem same_rereadItems : (items : List JsonValue) → SameItems (rereadItems items) items
  | [] => .nil
  | item :: rest => by
    rw [rereadItems]
    exact .cons (same_reread item) (same_rereadItems rest)

theorem same_rereadEntries : (entries : List (Text × JsonValue)) →
    SameEntries (rereadEntries entries) entries
  | [] => .nil
  | (key, value) :: rest => by
    rw [rereadEntries]
    exact .cons (same_reread value) (same_rereadEntries rest)

end

mutual

theorem same_self : (value : JsonValue) → Same value value
  | .null => .null
  | .bool b => .bool b
  | .integer n => .integer n
  | .real value => .real value
  | .text s => .text s
  | .array items => .array (sameItems_self items)
  | .object entries => .object (List.Perm.refl _) (sameEntries_self entries)

theorem sameItems_self : (items : List JsonValue) → SameItems items items
  | [] => .nil
  | item :: rest => .cons (same_self item) (sameItems_self rest)

theorem sameEntries_self : (entries : List (Text × JsonValue)) → SameEntries entries entries
  | [] => .nil
  | (_, value) :: rest => .cons (same_self value) (sameEntries_self rest)

end

/-! ## What is under a key of a document that is read back -/

theorem lookup_map_reread (d : Dict) (key : Text) :
    Dict.lookup (d.map fun entry => (entry.1, reread entry.2)) key =
      (Dict.lookup d key).map reread := by
  induction d with
  | nil => rfl
  | cons entry rest ih =>
    rw [List.map_cons, Dict.lookup_cons, Dict.lookup_cons, ih]
    by_cases hkey : entry.1 = key
    · rw [if_pos hkey, if_pos hkey, Option.map_some]
    · rw [if_neg hkey, if_neg hkey]

/-- **Under every key** is what was written there, read back. -/
theorem lookup_rereadObject {d : Dict} (hnodup : (d.map (·.1)).Nodup) (key : Text) :
    Dict.lookup (rereadObject d) key = (Dict.lookup d key).map reread := by
  have hperm := rereadObject_perm d
  have hkeys : ((rereadObject d).map (·.1)).Nodup := by
    refine (hperm.map (·.1)).nodup_iff.mpr ?_
    rw [List.map_map]
    exact hnodup
  rw [← lookup_map_reread, Dict.lookup, Dict.lookup, KeyedList.get_perm hperm hkeys]

theorem get_rereadObject {d : Dict} (hnodup : (d.map (·.1)).Nodup) (key : Text) :
    Dict.get (rereadObject d) key = reread (Dict.get d key) := by
  rw [Dict.get, Dict.get, lookup_rereadObject hnodup]
  cases Dict.lookup d key with
  | none =>
    rw [Option.map_none, Option.getD_none, reread]
  | some value => rfl

/-- The keys are those that were written. -/
theorem mem_keys_rereadObject (d : Dict) (key : Text) :
    key ∈ (rereadObject d).map (·.1) ↔ key ∈ d.map (·.1) := by
  rw [((rereadObject_perm d).map (·.1)).mem_iff, List.map_map]
  rfl

end Zest.JsonValue
