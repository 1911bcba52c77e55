import Zest.CanonicalJson

/-! # Canonical JSON of documents

What `json.dumps(value, sort_keys=True, separators=(",", ":"))` writes of texts,
numbers, lists and dictionaries in one another.  Every kind of value begins with
a character of its own, and every part of a value ends before the next one, so a
document can be read back up to the order of its members.
-/
namespace CanonicalJson

/-- A document; a number is a natural one. -/
inductive Document where
  | null
  | bool (b : Bool)
  | number (n : Nat)
  | text (s : List Char)
  | array (items : List Document)
  | object (members : List (List Char × Document))

namespace Document

mutual

/-- A value as it stands. -/
def encode : Document → List Char
  | .null => ['n', 'u', 'l', 'l']
  | .bool true => ['t', 'r', 'u', 'e']
  | .bool false => ['f', 'a', 'l', 's', 'e']
  | .number n => Nat.toDigits 10 n
  | .text s => encodeString s
  | .array items => '[' :: encodeItems items
  | .object members => '\x7b' :: encodeMembers members

/-- The items of an array, without its first bracket. -/
def encodeItems : List Document → List Char
  | [] => [']']
  | item :: rest => encode item ++ moreItems rest

/-- The items after the first. -/
def moreItems : List Document → List Char
  | [] => [']']
  | item :: rest => ',' :: (encode item ++ moreItems rest)

/-- The members of an object, without its first brace. -/
def encodeMembers : List (List Char × Document) → List Char
  | [] => ['\x7d']
  | (key, value) :: rest => encodeString key ++ ':' :: (encode value ++ moreMembers rest)

/-- The members after the first. -/
def moreMembers : List (List Char × Document) → List Char
  | [] => ['\x7d']
  | (key, value) :: rest =>
    ',' :: (encodeString key ++ ':' :: (encode value ++ moreMembers rest))

end

mutual

/-- `sort_keys=True`, at every depth. -/
def sortKeys : Document → Document
  | .array items => .array (sortItems items)
  | .object members => .object ((sortMembers members).insertionSort fun a b => a.1 ≤ b.1)
  | .null => .null
  | .bool b => .bool b
  | .number n => .number n
  | .text s => .text s

def sortItems : List Document → List Document
  | [] => []
  | item :: rest => sortKeys item :: sortItems rest

def sortMembers : List (List Char × Document) → List (List Char × Document)
  | [] => []
  | (key, value) :: rest => (key, sortKeys value) :: sortMembers rest

end

/-- `json.dumps` of the document. -/
def dumps (document : Document) : List Char := encode (sortKeys document)

/-! ## Reading back -/

/-- What a value is followed by is no digit, so that a number ends before it. -/
def Ended (rest : List Char) : Prop := ∀ c ∈ rest.head?, c.isDigit = false

theorem takeWhile_digits (n : Nat) {rest : List Char} (h : Ended rest) :
    (Nat.toDigits 10 n ++ rest).takeWhile Char.isDigit = Nat.toDigits 10 n := by
  have hdigits : ∀ c ∈ Nat.toDigits 10 n, c.isDigit = true := fun c hc =>
    Nat.isDigit_of_mem_toDigits (by decide) (by decide) hc
  rw [List.takeWhile_append_of_pos hdigits]
  cases rest with
  | nil => simp
  | cons c rest =>
    have hc : c.isDigit = false := h c rfl
    rw [List.takeWhile_cons_of_neg (by simp [hc]), List.append_nil]

theorem toDigits_injective {m n : Nat} {rest rest' : List Char} (hrest : Ended rest)
    (hrest' : Ended rest') (h : Nat.toDigits 10 m ++ rest = Nat.toDigits 10 n ++ rest') :
    m = n ∧ rest = rest' := by
  have hdigits : Nat.toDigits 10 m = Nat.toDigits 10 n := by
    rw [← takeWhile_digits m hrest, ← takeWhile_digits n hrest', h]
  refine ⟨?_, ?_⟩
  · rw [← @Nat.ofDigitChars_ten_toDigits m, ← @Nat.ofDigitChars_ten_toDigits n, hdigits]
  · rw [hdigits] at h
    exact List.append_cancel_left h

/-- The kind of a value, as far as its first character tells. -/
def kind : Document → Nat
  | .null => 0
  | .bool true => 1
  | .bool false => 2
  | .number _ => 3
  | .text _ => 4
  | .array _ => 5
  | .object _ => 6

/-- The kind that begins with a character. -/
def kindOf (c : Char) : Nat :=
  if c = 'n' then 0
  else if c = 't' then 1
  else if c = 'f' then 2
  else if c.isDigit then 3
  else if c = '"' then 4
  else if c = '[' then 5
  else if c = '\x7b' then 6
  else 7

theorem kindOf_digit {c : Char} (h : c.isDigit = true) : kindOf c = 3 := by
  have hn : c ≠ 'n' := by rintro rfl; cases h
  have ht : c ≠ 't' := by rintro rfl; cases h
  have hf : c ≠ 'f' := by rintro rfl; cases h
  rw [kindOf, if_neg hn, if_neg ht, if_neg hf, if_pos h]

/-- **The first character** tells what kind of value follows. -/
theorem kindOf_head (document : Document) (rest : List Char) :
    (encode document ++ rest).head?.map kindOf = some document.kind := by
  cases document with
  | null => rfl
  | bool b => cases b <;> rfl
  | number n =>
    rcases hdigits : Nat.toDigits 10 n with _ | ⟨c, digits⟩
    · exact absurd hdigits Nat.toDigits_ne_nil
    · have hc : c ∈ Nat.toDigits 10 n := hdigits ▸ List.mem_cons_self
      rw [encode, hdigits]
      exact congrArg some (kindOf_digit (Nat.isDigit_of_mem_toDigits (by decide) (by decide) hc))
  | text s => rfl
  | array items => rfl
  | object members => rfl

theorem kind_eq_of_encode {d d' : Document} {rest rest' : List Char}
    (h : encode d ++ rest = encode d' ++ rest') : d.kind = d'.kind := by
  have hsome := kindOf_head d rest
  rw [h, kindOf_head d' rest'] at hsome
  exact (Option.some.inj hsome).symm

/-- No value begins with what is of no kind. -/
theorem encode_ne_cons (document : Document) (rest : List Char) {c : Char} (hc : kindOf c = 7)
    (others : List Char) : encode document ++ rest ≠ c :: others := by
  intro h
  have hsome := kindOf_head document rest
  rw [h] at hsome
  have hkind : kindOf c = document.kind := Option.some.inj hsome
  rw [hc] at hkind
  cases document with
  | bool b => cases b <;> cases hkind
  | _ => cases hkind

theorem ended_moreItems (items : List Document) (rest : List Char) :
    Ended (moreItems items ++ rest) := by
  cases items <;> · rintro c ⟨⟩; rfl

theorem ended_moreMembers (members : List (List Char × Document)) (rest : List Char) :
    Ended (moreMembers members ++ rest) := by
  cases members <;> · rintro c ⟨⟩; rfl

mutual

/-- **A value can be read back**, whatever follows it. -/
theorem encode_injective : ∀ (d d' : Document) {rest rest' : List Char}, Ended rest →
    Ended rest' → encode d ++ rest = encode d' ++ rest' → d = d' ∧ rest = rest'
  | .null, d', _, _, _, _, h => by
    cases d' with
    | null => exact ⟨rfl, List.append_cancel_left h⟩
    | bool b => cases b <;> cases kind_eq_of_encode h
    | _ => cases kind_eq_of_encode h
  | .bool b, d', _, _, _, _, h => by
    cases d' with
    | bool b' =>
      cases b <;> cases b'
      · exact ⟨rfl, List.append_cancel_left h⟩
      · cases kind_eq_of_encode h
      · cases kind_eq_of_encode h
      · exact ⟨rfl, List.append_cancel_left h⟩
    | _ => cases b <;> cases kind_eq_of_encode h
  | .number n, d', _, _, hrest, hrest', h => by
    cases d' with
    | number n' =>
      obtain ⟨rfl, hsame⟩ := toDigits_injective hrest hrest' h
      exact ⟨rfl, hsame⟩
    | bool b => cases b <;> cases kind_eq_of_encode h
    | _ => cases kind_eq_of_encode h
  | .text s, d', _, _, _, _, h => by
    cases d' with
    | text s' =>
      obtain ⟨rfl, hsame⟩ := encodeString_injective h
      exact ⟨rfl, hsame⟩
    | bool b => cases b <;> cases kind_eq_of_encode h
    | _ => cases kind_eq_of_encode h
  | .array items, d', _, _, _, _, h => by
    cases d' with
    | array items' =>
      obtain ⟨rfl, hsame⟩ := encodeItems_injective items items' (List.cons.inj h).2
      exact ⟨rfl, hsame⟩
    | bool b => cases b <;> cases kind_eq_of_encode h
    | _ => cases kind_eq_of_encode h
  | .object members, d', _, _, _, _, h => by
    cases d' with
    | object members' =>
      obtain ⟨rfl, hsame⟩ := encodeMembers_injective members members' (List.cons.inj h).2
      exact ⟨rfl, hsame⟩
    | bool b => cases b <;> cases kind_eq_of_encode h
    | _ => cases kind_eq_of_encode h

theorem encodeItems_injective : ∀ (items items' : List Document) {rest rest' : List Char},
    encodeItems items ++ rest = encodeItems items' ++ rest' → items = items' ∧ rest = rest'
  | [], [], _, _, h => ⟨rfl, List.append_cancel_left h⟩
  | [], item' :: rest', _, _, h => by
    rw [encodeItems, encodeItems, List.append_assoc] at h
    exact absurd h.symm (encode_ne_cons item' _ (by decide) _)
  | item :: rest, [], _, _, h => by
    rw [encodeItems, encodeItems, List.append_assoc] at h
    exact absurd h (encode_ne_cons item _ (by decide) _)
  | item :: rest, item' :: rest', _, _, h => by
    rw [encodeItems, encodeItems, List.append_assoc, List.append_assoc] at h
    obtain ⟨rfl, hmore⟩ := encode_injective item item' (ended_moreItems _ _)
      (ended_moreItems _ _) h
    obtain ⟨rfl, hsame⟩ := moreItems_injective rest rest' hmore
    exact ⟨rfl, hsame⟩

theorem moreItems_injective : ∀ (items items' : List Document) {rest rest' : List Char},
    moreItems items ++ rest = moreItems items' ++ rest' → items = items' ∧ rest = rest'
  | [], [], _, _, h => ⟨rfl, List.append_cancel_left h⟩
  | [], _ :: _, _, _, h => absurd (List.cons.inj h).1 (by decide)
  | _ :: _, [], _, _, h => absurd (List.cons.inj h).1 (by decide)
  | item :: rest, item' :: rest', _, _, h => by
    have hitems := (List.cons.inj h).2
    rw [List.append_eq, List.append_eq, List.append_assoc, List.append_assoc] at hitems
    obtain ⟨rfl, hmore⟩ := encode_injective item item' (ended_moreItems _ _)
      (ended_moreItems _ _) hitems
    obtain ⟨rfl, hsame⟩ := moreItems_injective rest rest' hmore
    exact ⟨rfl, hsame⟩

theorem encodeMembers_injective : ∀ (members members' : List (List Char × Document))
    {rest rest' : List Char}, encodeMembers members ++ rest = encodeMembers members' ++ rest' →
      members = members' ∧ rest = rest'
  | [], [], _, _, h => ⟨rfl, List.append_cancel_left h⟩
  | [], (_, _) :: _, _, _, h => absurd (List.cons.inj h).1 (by decide)
  | (_, _) :: _, [], _, _, h => absurd (List.cons.inj h).1 (by decide)
  | (key, value) :: rest, (key', value') :: rest', _, _, h => by
    rw [encodeMembers, encodeMembers, List.append_assoc, List.append_assoc] at h
    obtain ⟨rfl, hvalue⟩ := encodeString_injective h
    have hvalue := (List.cons.inj hvalue).2
    rw [List.append_eq, List.append_eq, List.append_assoc, List.append_assoc] at hvalue
    obtain ⟨rfl, hmore⟩ := encode_injective value value' (ended_moreMembers _ _)
      (ended_moreMembers _ _) hvalue
    obtain ⟨rfl, hsame⟩ := moreMembers_injective rest rest' hmore
    exact ⟨rfl, hsame⟩

theorem moreMembers_injective : ∀ (members members' : List (List Char × Document))
    {rest rest' : List Char}, moreMembers members ++ rest = moreMembers members' ++ rest' →
      members = members' ∧ rest = rest'
  | [], [], _, _, h => ⟨rfl, List.append_cancel_left h⟩
  | [], (_, _) :: _, _, _, h => absurd (List.cons.inj h).1 (by decide)
  | (_, _) :: _, [], _, _, h => absurd (List.cons.inj h).1 (by decide)
  | (key, value) :: rest, (key', value') :: rest', _, _, h => by
    have hmembers := (List.cons.inj h).2
    rw [List.append_eq, List.append_eq, List.append_assoc, List.append_assoc] at hmembers
    obtain ⟨rfl, hvalue⟩ := encodeString_injective hmembers
    have hvalue := (List.cons.inj hvalue).2
    rw [List.append_eq, List.append_eq, List.append_assoc, List.append_assoc] at hvalue
    obtain ⟨rfl, hmore⟩ := encode_injective value value' (ended_moreMembers _ _)
      (ended_moreMembers _ _) hvalue
    obtain ⟨rfl, hsame⟩ := moreMembers_injective rest rest' hmore
    exact ⟨rfl, hsame⟩

end

/-- **A document can be read back**, up to the order of its members. -/
theorem dumps_injective {d d' : Document} (h : dumps d = dumps d') :
    sortKeys d = sortKeys d' := by
  have hended : Ended [] := fun c hc => by cases hc
  refine (encode_injective (sortKeys d) (sortKeys d') hended hended ?_).1
  rw [List.append_nil, List.append_nil]
  exact h

/-! ## Members in the order of their keys -/

theorem sortItems_eq (items : List Document) : sortItems items = items.map sortKeys := by
  induction items with
  | nil => rfl
  | cons item rest ih => rw [sortItems, ih, List.map_cons]

theorem sortMembers_eq (members : List (List Char × Document)) :
    sortMembers members = members.map fun member => (member.1, sortKeys member.2) := by
  induction members with
  | nil => rfl
  | cons member rest ih => rw [sortMembers, ih, List.map_cons]

/-- Members under the same keys, each of which is there once, are in the same
order when they are the same members. -/
theorem eq_of_perm_of_keys {α : Type} {members members' : List (List Char × α)}
    (hkeys : members.map (·.1) = members'.map (·.1)) (hdistinct : (members.map (·.1)).Nodup)
    (h : members.Perm members') : members = members' := by
  induction members generalizing members' with
  | nil => exact h.symm.eq_nil.symm
  | cons member rest ih =>
    rcases members' with _ | ⟨member', rest'⟩
    · cases hkeys
    · obtain ⟨hkey, hrestKeys⟩ := List.cons.inj hkeys
      obtain ⟨hnot, hdistinct⟩ := List.nodup_cons.mp hdistinct
      have hmember : member = member' := by
        rcases List.mem_cons.mp (h.mem_iff.mp List.mem_cons_self) with heq | hmem
        · exact heq
        · exact absurd (hrestKeys ▸ List.mem_map_of_mem hmem) hnot
      subst hmember
      rw [ih hrestKeys hdistinct h.cons_inv]

/-- **Objects with the same keys** that read the same have the same members. -/
theorem members_of_sortKeys {members members' : List (List Char × Document)}
    (h : sortKeys (.object members) = sortKeys (.object members'))
    (hkeys : members.map (·.1) = members'.map (·.1)) (hdistinct : (members.map (·.1)).Nodup) :
    (members.map fun member => sortKeys member.2) =
      members'.map fun member => sortKeys member.2 := by
  rw [sortKeys, sortKeys, Document.object.injEq, sortMembers_eq, sortMembers_eq] at h
  have hperm := (List.perm_insertionSort (fun a b : List Char × Document => a.1 ≤ b.1) _).symm.trans
    ((List.Perm.of_eq h).trans (List.perm_insertionSort _ _))
  have heq := eq_of_perm_of_keys (by rw [List.map_map, List.map_map]; exact hkeys)
    (by rw [List.map_map]; exact hdistinct) hperm
  have hvalues := congrArg (List.map (·.2)) heq
  rw [List.map_map, List.map_map] at hvalues
  exact hvalues

/-- Arrays of what can be told apart. -/
theorem map_of_sortKeys {α β : Type} {encode : α → Document} {outline : α → β}
    {items items' : List α}
    (hencode : ∀ a b, sortKeys (encode a) = sortKeys (encode b) → outline a = outline b)
    (h : sortKeys (.array (items.map encode)) = sortKeys (.array (items'.map encode))) :
    items.map outline = items'.map outline := by
  rw [sortKeys, sortKeys, Document.array.injEq, sortItems_eq, sortItems_eq, List.map_map,
    List.map_map] at h
  induction items generalizing items' with
  | nil =>
    cases items' with
    | nil => rfl
    | cons => cases h
  | cons item rest ih =>
    cases items' with
    | nil => cases h
    | cons item' rest' =>
      obtain ⟨hitem, hrest⟩ := List.cons.inj h
      rw [List.map_cons, List.map_cons, hencode item item' hitem, ih hrest]

end Document

end CanonicalJson
