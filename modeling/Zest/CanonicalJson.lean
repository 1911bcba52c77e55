import Mathlib.Data.Char
import Mathlib.Data.List.Lex
import Mathlib.Data.List.Sort

/-! # Canonical JSON of texts

What `json.dumps(value, sort_keys=True, separators=(",", ":"))` writes of a
dictionary from texts to texts, and of a list: pure ASCII, with everything else
in escapes.  The text can be read back, so the digest of it is one of the value:
as long as no two digests collide, neither do two values.
-/
namespace CanonicalJson

/-! ## Strings -/

/-- The letter of an escape that has one. -/
def shortEscape (c : Char) : Option Char :=
  if c = '"' then some '"'
  else if c = '\\' then some '\\'
  else if c = '\n' then some 'n'
  else if c = '\r' then some 'r'
  else if c = '\t' then some 't'
  else if c = '\x0c' then some 'f'
  else if c = '\x08' then some 'b'
  else none

/-- Four hexadecimal digits, after `\u`. -/
def unicodeEscape (n : Nat) : List Char :=
  ['\\', 'u', (n / 4096 % 16).digitChar, (n / 256 % 16).digitChar, (n / 16 % 16).digitChar,
    (n % 16).digitChar]

/-- One character; what does not fit into four digits is a surrogate pair. -/
def escapeChar (c : Char) : List Char :=
  match shortEscape c with
  | some letter => ['\\', letter]
  | none =>
    if ' ' ≤ c ∧ c ≤ '~' then [c]
    else if c.toNat < 0x10000 then unicodeEscape c.toNat
    else unicodeEscape (0xd800 + (c.toNat - 0x10000) / 0x400 % 0x400) ++
      unicodeEscape (0xdc00 + (c.toNat - 0x10000) % 0x400)

/-- A string, without its first quotation mark. -/
def closeString (s : List Char) : List Char := s.flatMap escapeChar ++ ['"']

def encodeString (s : List Char) : List Char := '"' :: closeString s

theorem shortEscape_injective {c c' letter : Char} (h : shortEscape c = some letter)
    (h' : shortEscape c' = some letter) : c = c' := by
  unfold shortEscape at h h'
  repeat' split at h
  all_goals cases h
  all_goals repeat' split at h'
  all_goals first
    | subst_vars
      rfl
    | cases h'

theorem shortEscape_ne_u {c letter : Char} (h : shortEscape c = some letter) : letter ≠ 'u' := by
  unfold shortEscape at h
  repeat' split at h
  all_goals cases h
  all_goals decide

theorem digitChar_injective {m n : Nat} (hm : m < 16) (hn : n < 16)
    (h : m.digitChar = n.digitChar) : m = n := by
  have hall : ∀ m : Fin 16, ∀ n : Fin 16, m.val.digitChar = n.val.digitChar → m = n := by decide
  exact congrArg Fin.val (hall ⟨m, hm⟩ ⟨n, hn⟩ h)

theorem unicodeEscape_injective {m n : Nat} {s s' : List Char} (hm : m < 0x10000)
    (hn : n < 0x10000) (h : unicodeEscape m ++ s = unicodeEscape n ++ s') : m = n ∧ s = s' := by
  simp only [unicodeEscape, List.cons_append, List.nil_append, List.cons.injEq, true_and] at h
  obtain ⟨h3, h2, h1, h0, hrest⟩ := h
  have hlt : ∀ k : Nat, k % 16 < 16 := fun k => Nat.mod_lt k (by omega)
  have h3 := digitChar_injective (hlt _) (hlt _) h3
  have h2 := digitChar_injective (hlt _) (hlt _) h2
  have h1 := digitChar_injective (hlt _) (hlt _) h1
  have h0 := digitChar_injective (hlt _) (hlt _) h0
  exact ⟨by omega, hrest⟩

/-- No character is in the range of the surrogates. -/
theorem toNat_valid (c : Char) : c.toNat < 0xd800 ∨ 0xdfff < c.toNat ∧ c.toNat < 0x110000 :=
  c.valid

/-- How a character is written: by a letter, as itself, or by its number. -/
inductive Written (c : Char) : List Char → Prop
  | letter {letter : Char} (h : shortEscape c = some letter) : Written c ['\\', letter]
  | plain (h : c ≠ '\\') (hquote : c ≠ '"') : Written c [c]
  | basic (h : c.toNat < 0x10000) : Written c (unicodeEscape c.toNat)
  | pair {high low : Nat} (hhigh : 0xd800 ≤ high ∧ high < 0xdc00) (hlow : low < 0x10000)
      (h : c.toNat = 0x10000 + (high - 0xd800) * 0x400 + (low - 0xdc00)) :
      Written c (unicodeEscape high ++ unicodeEscape low)

theorem written_escapeChar (c : Char) : Written c (escapeChar c) := by
  unfold escapeChar
  cases hshort : shortEscape c with
  | some letter => exact .letter hshort
  | none =>
    dsimp only
    by_cases hplain : ' ' ≤ c ∧ c ≤ '~'
    · rw [if_pos hplain]
      refine .plain ?_ ?_
      · rintro rfl
        cases hshort
      · rintro rfl
        cases hshort
    rw [if_neg hplain]
    by_cases hbasic : c.toNat < 0x10000
    · rw [if_pos hbasic]
      exact .basic hbasic
    · rw [if_neg hbasic]
      have hvalid := toNat_valid c
      exact .pair (by omega) (by omega) (by omega)

/-- What follows the backslash tells the kinds of escapes apart. -/
theorem Written.unique {c c' : Char} {w w' s s' : List Char} (h : Written c w)
    (h' : Written c' w') (hsame : w ++ s = w' ++ s') : c = c' ∧ s = s' := by
  have hchar : c.toNat = c'.toNat → c = c' := fun heq => Char.toNat_inj.mp heq
  have hv := toNat_valid c
  have hv' := toNat_valid c'
  cases h with
  | letter hletter =>
    cases h' with
    | letter hletter' =>
      simp only [List.cons_append, List.nil_append, List.cons.injEq, true_and] at hsame
      obtain ⟨rfl, hrest⟩ := hsame
      exact ⟨shortEscape_injective hletter hletter', hrest⟩
    | plain hne => exact absurd (List.cons.inj hsame).1.symm hne
    | basic => exact absurd (List.cons.inj (List.cons.inj hsame).2).1 (shortEscape_ne_u hletter)
    | pair => exact absurd (List.cons.inj (List.cons.inj hsame).2).1 (shortEscape_ne_u hletter)
  | plain hne =>
    cases h' with
    | letter => exact absurd (List.cons.inj hsame).1 hne
    | plain => exact List.cons.inj hsame
    | basic => exact absurd (List.cons.inj hsame).1 hne
    | pair => exact absurd (List.cons.inj hsame).1 hne
  | basic hbasic =>
    cases h' with
    | letter hletter' =>
      exact absurd (List.cons.inj (List.cons.inj hsame).2).1.symm (shortEscape_ne_u hletter')
    | plain hne => exact absurd (List.cons.inj hsame).1.symm hne
    | basic hbasic' =>
      obtain ⟨heq, hrest⟩ := unicodeEscape_injective hbasic hbasic' hsame
      exact ⟨hchar heq, hrest⟩
    | pair hhigh' hlow' _ =>
      rw [List.append_assoc] at hsame
      obtain ⟨heq, -⟩ := unicodeEscape_injective hbasic (by omega) hsame
      omega
  | pair hhigh hlow htoNat =>
    rw [List.append_assoc] at hsame
    cases h' with
    | letter hletter' =>
      exact absurd (List.cons.inj (List.cons.inj hsame).2).1.symm (shortEscape_ne_u hletter')
    | plain hne => exact absurd (List.cons.inj hsame).1.symm hne
    | basic hbasic' =>
      obtain ⟨heq, -⟩ := unicodeEscape_injective (by omega) hbasic' hsame
      omega
    | pair hhigh' hlow' htoNat' =>
      rw [List.append_assoc] at hsame
      obtain ⟨hhigheq, hsame⟩ := unicodeEscape_injective (by omega) (by omega) hsame
      obtain ⟨hloweq, hrest⟩ := unicodeEscape_injective hlow hlow' hsame
      exact ⟨hchar (by omega), hrest⟩

/-- A character is not taken for the end of its string. -/
theorem Written.head_ne {c : Char} {w : List Char} (h : Written c w) (s t : List Char) :
    w ++ s ≠ '"' :: t := by
  intro heq
  cases h with
  | letter => exact absurd (List.cons.inj heq).1 (by decide)
  | plain _ hquote => exact hquote (List.cons.inj heq).1
  | basic => exact absurd (List.cons.inj heq).1 (by decide)
  | pair => exact absurd (List.cons.inj heq).1 (by decide)

/-- **A string can be read back**, whatever follows it. -/
theorem closeString_injective {s s' rest rest' : List Char}
    (h : closeString s ++ rest = closeString s' ++ rest') : s = s' ∧ rest = rest' := by
  induction s generalizing s' with
  | nil =>
    cases s' with
    | nil => exact ⟨rfl, (List.cons.inj h).2⟩
    | cons c' s' =>
      simp only [closeString, List.flatMap_cons, List.flatMap_nil, List.append_assoc,
        List.nil_append] at h
      exact absurd h.symm ((written_escapeChar c').head_ne _ _)
  | cons c s ih =>
    cases s' with
    | nil =>
      simp only [closeString, List.flatMap_cons, List.flatMap_nil, List.append_assoc,
        List.nil_append] at h
      exact absurd h ((written_escapeChar c).head_ne _ _)
    | cons c' s' =>
      simp only [closeString, List.flatMap_cons, List.append_assoc] at h
      obtain ⟨rfl, h⟩ := (written_escapeChar c).unique (written_escapeChar c') h
      obtain ⟨rfl, hrest⟩ := @ih s' (by simpa [closeString] using h)
      exact ⟨rfl, hrest⟩

theorem encodeString_injective {s s' rest rest' : List Char}
    (h : encodeString s ++ rest = encodeString s' ++ rest') : s = s' ∧ rest = rest' :=
  closeString_injective (List.cons.inj h).2

/-! ## Objects -/

/-- One member. -/
def encodeMember (member : List Char × List Char) : List Char :=
  encodeString member.1 ++ ':' :: encodeString member.2

/-- The members of an object, without its first brace. -/
def closeObject : List (List Char × List Char) → List Char
  | [] => ['\x7d']
  | [member] => encodeMember member ++ ['\x7d']
  | member :: next :: rest => encodeMember member ++ ',' :: closeObject (next :: rest)

/-- `sort_keys=True`. -/
def sortKeys (members : List (List Char × List Char)) : List (List Char × List Char) :=
  members.insertionSort fun a b => a.1 ≤ b.1

def dumps (members : List (List Char × List Char)) : List Char :=
  '\x7b' :: closeObject (sortKeys members)

theorem encodeMember_injective {member member' : List Char × List Char} {rest rest' : List Char}
    (h : encodeMember member ++ rest = encodeMember member' ++ rest') :
    member = member' ∧ rest = rest' := by
  simp only [encodeMember, List.append_assoc, List.cons_append] at h
  obtain ⟨hkey, h⟩ := encodeString_injective h
  obtain ⟨hvalue, hrest⟩ := encodeString_injective (List.cons.inj h).2
  exact ⟨Prod.ext hkey hvalue, hrest⟩

theorem closeObject_injective {members members' : List (List Char × List Char)}
    (h : closeObject members = closeObject members') : members = members' := by
  have hempty : ∀ member (rest : List Char), encodeMember member ++ rest ≠ ['\x7d'] :=
    fun _ _ heq => absurd (List.cons.inj heq).1 (by decide)
  induction members generalizing members' with
  | nil =>
    match members' with
    | [] => rfl
    | [member'] => exact absurd h.symm (hempty member' _)
    | member' :: next' :: rest' => exact absurd h.symm (hempty member' _)
  | cons member rest ih =>
    match rest, members' with
    | [], [] => exact absurd h (hempty member _)
    | [], [member'] =>
      obtain ⟨rfl, -⟩ := encodeMember_injective h
      rfl
    | [], member' :: next' :: rest' =>
      have hclash := (encodeMember_injective h).2
      exact absurd (List.cons.inj hclash).1 (by decide)
    | next :: rest, [] => exact absurd h (hempty member _)
    | next :: rest, [member'] =>
      have hclash := (encodeMember_injective h).2
      exact absurd (List.cons.inj hclash).1 (by decide)
    | next :: rest, member' :: next' :: rest' =>
      obtain ⟨rfl, hrest⟩ := encodeMember_injective h
      rw [ih (List.cons.inj hrest).2]

/-- **An object can be read back**, up to the order of its members. -/
theorem dumps_injective {members members' : List (List Char × List Char)}
    (h : dumps members = dumps members') : sortKeys members = sortKeys members' :=
  closeObject_injective (List.cons.inj h).2

/-! ## Arrays -/

/-- A string, or `null`. -/
def encodeOptional : Option (List Char) → List Char
  | none => ['n', 'u', 'l', 'l']
  | some s => encodeString s

theorem encodeOptional_injective {value value' : Option (List Char)} {rest rest' : List Char}
    (h : encodeOptional value ++ rest = encodeOptional value' ++ rest') :
    value = value' ∧ rest = rest' := by
  rcases value with _ | s <;> rcases value' with _ | s'
  · exact ⟨rfl, List.append_cancel_left h⟩
  · exact absurd (List.cons.inj h).1 (by decide)
  · exact absurd (List.cons.inj h).1 (by decide)
  · obtain ⟨rfl, hrest⟩ := encodeString_injective h
    exact ⟨rfl, hrest⟩

section Arrays

variable {α : Type} (encode : α → List Char)

/-- What `encode` writes can be read back, whatever follows it. -/
def Readable : Prop :=
  ∀ ⦃a b : α⦄ ⦃rest rest' : List Char⦄, encode a ++ rest = encode b ++ rest' →
    a = b ∧ rest = rest'

/-- The items of an array, without its first bracket. -/
def closeArray : List α → List Char
  | [] => [']']
  | [item] => encode item ++ [']']
  | item :: next :: rest => encode item ++ ',' :: closeArray (next :: rest)

def dumpsArray (items : List α) : List Char := '[' :: closeArray encode items

variable {encode}

theorem closeArray_injective (hread : Readable encode)
    (hopen : ∀ item (rest : List Char), encode item ++ rest ≠ [']']) {items items' : List α}
    (h : closeArray encode items = closeArray encode items') : items = items' := by
  induction items generalizing items' with
  | nil =>
    match items' with
    | [] => rfl
    | [item'] => exact absurd h.symm (hopen item' _)
    | item' :: next' :: rest' => exact absurd h.symm (hopen item' _)
  | cons item rest ih =>
    match rest, items' with
    | [], [] => exact absurd h (hopen item _)
    | [], [item'] =>
      obtain ⟨rfl, -⟩ := hread h
      rfl
    | [], item' :: next' :: rest' => exact absurd (List.cons.inj (hread h).2).1 (by decide)
    | next :: rest, [] => exact absurd h (hopen item _)
    | next :: rest, [item'] => exact absurd (List.cons.inj (hread h).2).1 (by decide)
    | next :: rest, item' :: next' :: rest' =>
      obtain ⟨rfl, hrest⟩ := hread h
      rw [ih (List.cons.inj hrest).2]

/-- **An array can be read back.** -/
theorem dumpsArray_injective (hread : Readable encode)
    (hopen : ∀ item (rest : List Char), encode item ++ rest ≠ [']']) {items items' : List α}
    (h : dumpsArray encode items = dumpsArray encode items') : items = items' :=
  closeArray_injective hread hopen (List.cons.inj h).2

end Arrays

end CanonicalJson
