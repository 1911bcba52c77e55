import Mathlib.Data.List.DropRight

/-! # Text as the Python source handles it

Scope rules, URLs and envelopes are strings, and what the matchers do with them
is a handful of `str` methods and three regular expressions.  A Python string
is here the list of its code points, so that the methods are ordinary list
functions and their laws are facts about lists.
-/
namespace Zest

/-- A Python `str`: the list of its code points. -/
abbrev Text := List Char

/-- Two strings that compare as equal are the same. -/
instance : LawfulBEq Text := inferInstanceAs (LawfulBEq (List Char))

namespace Text

/-- `str.startswith`. -/
def startsWith (s p : Text) : Bool := p.isPrefixOf s

/-- `str.endswith`. -/
def endsWith (s p : Text) : Bool := p.isSuffixOf s

/-- `re.search`: the pattern matches at some position of the string, the end
included. -/
def search (matchAt : Text → Bool) : Text → Bool
  | [] => matchAt []
  | c :: s => matchAt (c :: s) || search matchAt s

/-- A pattern that is not found matches nowhere. -/
theorem search_suffix {matchAt : Text → Bool} {s t : Text} (h : s.search matchAt = false)
    (ht : t <:+ s) : matchAt t = false := by
  induction s with
  | nil => rw [List.suffix_nil.1 ht]; exact h
  | cons c s ih =>
    simp only [search, Bool.or_eq_false_iff] at h
    rcases List.suffix_cons_iff.1 ht with rfl | ht
    · exact h.1
    · exact ih h.2 ht

/-- `p in s` for two strings. -/
def hasInfix (s p : Text) : Bool := s.search (p.isPrefixOf ·)

/-- The characters `str.strip()` and `str.isspace()` take for white space. -/
def isSpace (c : Char) : Bool :=
  let n := c.toNat
  (0x09 ≤ n && n ≤ 0x0d) || (0x1c ≤ n && n ≤ 0x20) || n == 0x85 || n == 0xa0 ||
  n == 0x1680 || (0x2000 ≤ n && n ≤ 0x200a) || n == 0x2028 || n == 0x2029 ||
  n == 0x202f || n == 0x205f || n == 0x3000

/-- `str.strip`, of the characters that satisfy `p`. -/
def stripBy (p : Char → Bool) (s : Text) : Text :=
  ((s.dropWhile p).reverse.dropWhile p).reverse

/-- `str.strip()`. -/
def strip (s : Text) : Text := s.stripBy isSpace

/-- `str.rstrip` of one character. -/
def rstrip (c : Char) (s : Text) : Text := (s.reverse.dropWhile (· == c)).reverse

/-- `str.isascii()` on one character. -/
def isAscii (c : Char) : Bool := c.toNat < 0x80

/-- The lower-case form of one ASCII character; any other is left alone. -/
def asciiLower (c : Char) : Char :=
  if 'A' ≤ c ∧ c ≤ 'Z' then Char.ofNat (c.toNat + 0x20) else c

/-- `[0-9A-Fa-f]`. -/
def isHex (c : Char) : Bool :=
  ('0' ≤ c && c ≤ '9') || ('a' ≤ c && c ≤ 'f') || ('A' ≤ c && c ≤ 'F')

/-- `str.partition` of a one-character separator: what is before it, whether it
is there, and what is after it. -/
def partition (sep : Char) : Text → Text × Bool × Text
  | [] => ([], false, [])
  | c :: s =>
    if c = sep then ([], true, s)
    else
      let (before, found, after) := partition sep s
      (c :: before, found, after)

/-- `str.rpartition` of a one-character separator: split at its last
occurrence; without one, the whole string is the last part. -/
def rpartition (sep : Char) (s : Text) : Text × Bool × Text :=
  let (after, found, before) := partition sep s.reverse
  if found then (before.reverse, true, after.reverse) else ([], false, s)

/-- `int(s)` of a string of ASCII digits. -/
def toNat (s : Text) : Nat := s.foldl (fun n c => 10 * n + (c.toNat - '0'.toNat)) 0

/-- `s.isdigit() and s.isascii()`. -/
def isDecimal (s : Text) : Bool := !s.isEmpty && s.all (fun c => '0' ≤ c && c ≤ '9')

/-- A text is blank when it has only white space. -/
theorem strip_eq_nil_iff {s : Text} : s.strip = [] ↔ ∀ c ∈ s, isSpace c = true := by
  show (s.dropWhile isSpace).rdropWhile isSpace = [] ↔ _
  rw [List.rdropWhile_eq_nil_iff]
  constructor
  · intro hall
    by_contra hne
    have hdrop : s.dropWhile isSpace ≠ [] := fun hnil => hne (List.dropWhile_eq_nil_iff.mp hnil)
    exact List.dropWhile_get_zero_not isSpace s (List.length_pos_iff.mpr hdrop)
      (hall _ (List.getElem_mem _))
  · exact fun hall c hc => hall c ((List.dropWhile_sublist _).subset hc)

/-- Stripping takes everything there is to strip. -/
theorem strip_strip (s : Text) : s.strip.strip = s.strip := by
  have hright : ∀ t : Text, t.stripBy isSpace = (t.dropWhile isSpace).rdropWhile isSpace :=
    fun _ => rfl
  have hleft : (s.strip).dropWhile isSpace = s.strip := by
    rw [List.dropWhile_eq_self_iff]
    intro hpos
    have hpre : s.strip <+: s.dropWhile isSpace := List.rdropWhile_prefix isSpace _
    have hlen := Nat.lt_of_lt_of_le hpos hpre.length_le
    rw [hpre.getElem hpos]
    exact List.dropWhile_get_zero_not isSpace s hlen
  calc s.strip.strip = (s.strip.dropWhile isSpace).rdropWhile isSpace := hright _
    _ = s.strip.rdropWhile isSpace := by rw [hleft]
    _ = s.strip := List.rdropWhile_idempotent isSpace (s.dropWhile isSpace)

/-- There is nothing to strip where neither end is white space. -/
theorem strip_eq_self {s : Text} (hhead : ∀ c, s.head? = some c → isSpace c = false)
    (hlast : ∀ c, s.getLast? = some c → isSpace c = false) : s.strip = s := by
  have hdrop : s.dropWhile isSpace = s := by
    cases s with
    | nil => rfl
    | cons c s => exact List.dropWhile_cons_of_neg (by rw [hhead c rfl]; exact Bool.false_ne_true)
  show (s.dropWhile isSpace).rdropWhile isSpace = s
  rw [hdrop, List.rdropWhile_eq_self_iff]
  intro hne
  rw [hlast _ (List.getLast?_eq_some_getLast hne)]
  exact Bool.false_ne_true

/-- What is stripped does not end in white space. -/
theorem last_of_stripped {s : Text} (h : s.strip = s) {c : Char} (hlast : s.getLast? = some c) :
    isSpace c = false := by
  obtain ⟨before, rfl⟩ := List.getLast?_eq_some_iff.mp hlast
  have hstrip : ((before ++ [c]).dropWhile isSpace).rdropWhile isSpace = before ++ [c] := h
  have hlast : ∀ (t : Text) (hne : t ≠ []), t = before ++ [c] → t.getLast hne = c := by
    rintro t hne rfl
    simp
  have hne : ((before ++ [c]).dropWhile isSpace).rdropWhile isSpace ≠ [] := by
    rw [hstrip]
    simp
  have hnot := List.rdropWhile_last_not isSpace _ hne
  rw [hlast _ hne hstrip] at hnot
  simpa using hnot

theorem partition_of_mem {sep : Char} {before after : Text} (h : sep ∉ before) :
    partition sep (before ++ sep :: after) = (before, true, after) := by
  induction before with
  | nil => simp [partition]
  | cons c before ih =>
    obtain ⟨hc, hbefore⟩ := List.ne_and_not_mem_of_not_mem_cons h
    rw [List.cons_append, partition, if_neg fun heq => hc heq.symm, ih hbefore]

theorem partition_of_not_mem {sep : Char} {s : Text} (h : sep ∉ s) :
    partition sep s = (s, false, []) := by
  induction s with
  | nil => rfl
  | cons c s ih =>
    obtain ⟨hc, hs⟩ := List.ne_and_not_mem_of_not_mem_cons h
    rw [partition, if_neg fun heq => hc heq.symm, ih hs]

/-- Every text is before, separator and after, or has no separator. -/
theorem partition_cases (sep : Char) (s : Text) :
    (sep ∉ s ∧ partition sep s = (s, false, [])) ∨ ∃ before after,
      sep ∉ before ∧ s = before ++ sep :: after ∧ partition sep s = (before, true, after) := by
  by_cases h : sep ∈ s
  · obtain ⟨before, after, rfl, hbefore⟩ := List.eq_append_cons_of_mem h
    exact Or.inr ⟨before, after, hbefore, rfl, partition_of_mem hbefore⟩
  · exact Or.inl ⟨h, partition_of_not_mem h⟩

end Text
end Zest
