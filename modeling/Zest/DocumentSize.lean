import Zest.CanonicalDocument

/-! # The length of canonical JSON

How long a document is when it is written does not depend on the order of the keys,
and it is the sum of what its parts take.  So a bound on what is written is a bound on
the parts.
-/
namespace CanonicalJson

/-- How many characters a text takes between its quotation marks. -/
def written (s : List Char) : Nat := (s.flatMap escapeChar).length

theorem written_append (s t : List Char) : written (s ++ t) = written s + written t := by
  rw [written, List.flatMap_append, List.length_append, written, written]

theorem length_encodeString (s : List Char) : (encodeString s).length = written s + 2 := by
  rw [encodeString, closeString, List.length_cons, List.length_append, List.length_singleton,
    written]

namespace Document

mutual

/-- How long a value is when it is written. -/
def size : Document → Nat
  | .null => 4
  | .bool true => 4
  | .bool false => 5
  | .number n => (Nat.toDigits 10 n).length
  | .text s => written s + 2
  | .array items => 1 + max 1 (itemsSize items)
  | .object members => 1 + max 1 (membersSize members)

/-- What the items take, with a comma or bracket after each. -/
def itemsSize : List Document → Nat
  | [] => 0
  | item :: rest => size item + 1 + itemsSize rest

/-- What the members take, with a comma or brace after each. -/
def membersSize : List (List Char × Document) → Nat
  | [] => 0
  | (key, value) :: rest => written key + size value + 4 + membersSize rest

end

mutual

theorem length_encode : (document : Document) → (encode document).length = size document
  | .null => rfl
  | .bool true => rfl
  | .bool false => rfl
  | .number n => rfl
  | .text s => length_encodeString s
  | .array items => by
    rw [encode, size, List.length_cons, length_encodeItems items, Nat.add_comm]
  | .object members => by
    rw [encode, size, List.length_cons, length_encodeMembers members, Nat.add_comm]

theorem length_encodeItems : (items : List Document) →
    (encodeItems items).length = max 1 (itemsSize items)
  | [] => rfl
  | item :: rest => by
    rw [encodeItems, List.length_append, length_encode item, length_moreItems rest, itemsSize]
    omega

theorem length_moreItems : (items : List Document) →
    (moreItems items).length = itemsSize items + 1
  | [] => rfl
  | item :: rest => by
    rw [moreItems, List.length_cons, List.length_append, length_encode item,
      length_moreItems rest, itemsSize]
    omega

theorem length_encodeMembers : (members : List (List Char × Document)) →
    (encodeMembers members).length = max 1 (membersSize members)
  | [] => rfl
  | (key, value) :: rest => by
    rw [encodeMembers, List.length_append, List.length_cons, List.length_append,
      length_encodeString, length_encode value, length_moreMembers rest, membersSize]
    omega

theorem length_moreMembers : (members : List (List Char × Document)) →
    (moreMembers members).length = membersSize members + 1
  | [] => rfl
  | (key, value) :: rest => by
    rw [moreMembers, List.length_cons, List.length_append, List.length_cons, List.length_append,
      length_encodeString, length_encode value, length_moreMembers rest, membersSize]
    omega

end

/-- The order of the members does not count. -/
theorem membersSize_perm {members others : List (List Char × Document)}
    (h : members.Perm others) : membersSize members = membersSize others := by
  induction h with
  | nil => rfl
  | cons member h ih => rw [membersSize, membersSize, ih]
  | swap member other rest =>
    rw [membersSize, membersSize, membersSize, membersSize]
    omega
  | trans h h' ih ih' => exact ih.trans ih'

mutual

theorem size_sortKeys : (document : Document) → size (sortKeys document) = size document
  | .null => by rw [sortKeys]
  | .bool b => by rw [sortKeys]
  | .number n => by rw [sortKeys]
  | .text s => by rw [sortKeys]
  | .array items => by rw [sortKeys, size, size, itemsSize_sortItems items]
  | .object members => by
    rw [sortKeys, size, size, membersSize_perm (List.perm_insertionSort _ _),
      membersSize_sortMembers members]

theorem itemsSize_sortItems : (items : List Document) →
    itemsSize (sortItems items) = itemsSize items
  | [] => by rw [sortItems]
  | item :: rest => by
    rw [sortItems, itemsSize, itemsSize, size_sortKeys item, itemsSize_sortItems rest]

theorem membersSize_sortMembers : (members : List (List Char × Document)) →
    membersSize (sortMembers members) = membersSize members
  | [] => by rw [sortMembers]
  | (key, value) :: rest => by
    rw [sortMembers, membersSize, membersSize, size_sortKeys value, membersSize_sortMembers rest]

end

/-- **How long a document is** when it is written. -/
theorem length_dumps (document : Document) : (dumps document).length = size document := by
  rw [dumps, length_encode, size_sortKeys]

end Document

end CanonicalJson
