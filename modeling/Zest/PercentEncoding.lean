/-! # Percent-encoded text

Percent-decoding turns a text into octets: an escape `%XY` stands for the one
octet it spells, and any other character for its UTF-8 octets.  A text *spells*
another when the octets it decodes to are the UTF-8 octets of the other.

The facts developed here are the ones a matcher on undecoded text needs.
Decoding shortens a text exactly when there is something to decode, so a text
with an escape never equals what it spells; and a separator octet that no
escape spells is decoded in place, so separators can be counted on either side.
-/
namespace PercentEncoding

/-- The value of one hexadecimal digit. -/
def hexValue (c : Char) : Option Nat :=
  let n := c.toNat
  if 0x30 ≤ n ∧ n ≤ 0x39 then some (n - 0x30)
  else if 0x41 ≤ n ∧ n ≤ 0x46 then some (n - 0x37)
  else if 0x61 ≤ n ∧ n ≤ 0x66 then some (n - 0x57)
  else none

/-- The octet that two hexadecimal digits spell. -/
def hexOctet (x y : Char) : Option UInt8 :=
  match hexValue x, hexValue y with
  | some a, some b => some (UInt8.ofNat (16 * a + b))
  | _, _ => none

/-- The UTF-8 octets of a text. -/
def utf8 (s : List Char) : List UInt8 := s.flatMap String.utf8EncodeChar

/-- The octets of a percent-encoded text.  A `%` that starts no escape stands
for itself. -/
def percentDecode : List Char → List UInt8
  | '%' :: x :: y :: rest =>
    match hexOctet x y with
    | some b => b :: percentDecode rest
    | none => String.utf8EncodeChar '%' ++ percentDecode (x :: y :: rest)
  | c :: s => String.utf8EncodeChar c ++ percentDecode s
  | [] => []

/-- Every `%` of the text starts an escape. -/
def WellEscaped (s : List Char) : Prop :=
  ∀ t, '%' :: t <:+ s → ∃ x y rest b, t = x :: y :: rest ∧ hexOctet x y = some b

/-- No escape of the text spells the octet `b`. -/
def NeverSpells (b : UInt8) (s : List Char) : Prop :=
  ∀ x y rest, '%' :: x :: y :: rest <:+ s → hexOctet x y ≠ some b

/-- The text `s` spells the text `d`: decoding it gives the octets of `d`. -/
def Spells (s d : List Char) : Prop := percentDecode s = utf8 d

theorem hexValue_eq_some {c : Char} {a : Nat} (h : hexValue c = some a) :
    a < 16 ∧ (c.toNat = a + 0x30 ∧ a < 10 ∨ c.toNat = a + 0x37 ∧ 10 ≤ a ∨
      c.toNat = a + 0x57 ∧ 10 ≤ a) := by
  simp only [hexValue] at h
  split at h
  · cases h; omega
  · split at h
    · cases h; omega
    · split at h
      · cases h; omega
      · cases h

/-- The digits of an octet are its quotient and its remainder. -/
theorem hexOctet_eq_some {x y : Char} {b : UInt8} (h : hexOctet x y = some b) :
    hexValue x = some (b.toNat / 16) ∧ hexValue y = some (b.toNat % 16) := by
  unfold hexOctet at h
  split at h
  next a d ha hd =>
    obtain rfl := Option.some.inj h
    have hlt : a < 16 := (hexValue_eq_some ha).1
    have hlt' : d < 16 := (hexValue_eq_some hd).1
    rw [ha, hd, UInt8.toNat_ofNat', Nat.mod_eq_of_lt (show 16 * a + d < 2 ^ 8 by omega)]
    exact ⟨congrArg some (by omega), congrArg some (by omega)⟩
  next => cases h

/-! ## UTF-8 -/

@[simp] theorem utf8_nil : utf8 [] = [] := rfl

@[simp] theorem utf8_cons (c : Char) (s : List Char) :
    utf8 (c :: s) = String.utf8EncodeChar c ++ utf8 s := by
  simp [utf8]

/-- A text is determined by its octets. -/
theorem utf8_injective {s t : List Char} (h : utf8 s = utf8 t) : s = t := by
  have hbytes : s.utf8Encode = t.utf8Encode := congrArg List.toByteArray h
  have harray := congrArg ByteArray.utf8Decode? hbytes
  rw [List.utf8Decode?_utf8Encode, List.utf8Decode?_utf8Encode] at harray
  exact (List.toArray_inj (Option.some.inj harray))

theorem utf8EncodeChar_ascii {c : Char} (h : c.toNat < 0x80) :
    String.utf8EncodeChar c = [UInt8.ofNat c.toNat] := by
  have hv : c.val.toNat ≤ 0x7f := Nat.le_of_lt_succ h
  unfold String.utf8EncodeChar
  rw [if_pos hv]
  rfl

/-- The octets of a character outside ASCII are all outside ASCII. -/
theorem le_of_mem_utf8EncodeChar {c : Char} (h : 0x80 ≤ c.toNat) {b : UInt8}
    (hb : b ∈ String.utf8EncodeChar c) : 0x80 ≤ b.toNat := by
  have hv : ¬ c.val.toNat ≤ 0x7f := Nat.not_le_of_lt h
  unfold String.utf8EncodeChar at hb
  rw [if_neg hv] at hb
  split at hb
  · simp only [List.mem_cons, List.not_mem_nil, or_false] at hb
    rcases hb with rfl | rfl <;> simp <;> omega
  · split at hb
    · simp only [List.mem_cons, List.not_mem_nil, or_false] at hb
      rcases hb with rfl | rfl | rfl <;> simp <;> omega
    · simp only [List.mem_cons, List.not_mem_nil, or_false] at hb
      rcases hb with rfl | rfl | rfl | rfl <;> simp <;> omega

theorem length_utf8EncodeChar_pos (c : Char) : 0 < (String.utf8EncodeChar c).length :=
  List.length_pos_iff.2 String.utf8EncodeChar_ne_nil

theorem utf8EncodeChar_percent : String.utf8EncodeChar '%' = [0x25] := by decide

/-! ## The length of what is decoded -/

theorem percentDecode_length_le (s : List Char) :
    (percentDecode s).length ≤ (utf8 s).length := by
  fun_induction percentDecode s with
  | case1 x y rest b _ ih =>
    have := length_utf8EncodeChar_pos '%'
    simp only [utf8_cons, List.length_append, List.length_cons]
    omega
  | case2 x y rest _ ih => simpa only [utf8_cons, List.length_append, Nat.add_le_add_iff_left]
      using ih
  | case3 c s _ ih => simpa only [utf8_cons, List.length_append, Nat.add_le_add_iff_left] using ih
  | case4 => exact Nat.le_refl _

theorem WellEscaped.of_suffix {s t : List Char} (h : WellEscaped s) (ht : t <:+ s) :
    WellEscaped t := fun u hu => h u (hu.trans ht)

theorem NeverSpells.of_suffix {b : UInt8} {s t : List Char} (h : NeverSpells b s)
    (ht : t <:+ s) : NeverSpells b t := fun x y u hu => h x y u (hu.trans ht)

/-- A text with an escape in it is longer than what it decodes to. -/
theorem percentDecode_length_lt {s : List Char} (hs : WellEscaped s) (hp : '%' ∈ s) :
    (percentDecode s).length < (utf8 s).length := by
  fun_induction percentDecode s with
  | case1 x y rest b _ _ =>
    have hle := percentDecode_length_le rest
    have h1 := length_utf8EncodeChar_pos '%'
    have h2 := length_utf8EncodeChar_pos x
    simp only [utf8_cons, List.length_append, List.length_cons]
    omega
  | case2 x y rest hnone _ =>
    obtain ⟨x', y', rest', b, heq, hsome⟩ := hs (x :: y :: rest) (List.suffix_refl _)
    cases heq
    simp [hnone] at hsome
  | case3 c s hc ih =>
    have hne : '%' ≠ c := by
      rintro rfl
      obtain ⟨x, y, rest, b, heq, -⟩ := hs s (List.suffix_refl _)
      exact hc x y rest rfl heq
    have := ih (hs.of_suffix (List.suffix_cons c s)) ((List.mem_cons.1 hp).resolve_left hne)
    simpa only [utf8_cons, List.length_append, Nat.add_lt_add_iff_left] using this
  | case4 => simp at hp

/-- Without escapes there is nothing to decode. -/
theorem percentDecode_eq_utf8 {s : List Char} (hp : '%' ∉ s) : percentDecode s = utf8 s := by
  fun_induction percentDecode s with
  | case1 | case2 => simp at hp
  | case3 c s _ ih => rw [ih (fun h => hp (List.mem_cons_of_mem _ h)), utf8_cons]
  | case4 => rfl

theorem percentDecode_eq_nil {s : List Char} (h : percentDecode s = []) : s = [] := by
  fun_cases percentDecode s with
  | case1 x y rest b hb => simp [percentDecode, hb] at h
  | case2 x y rest hb => simp [percentDecode, hb, utf8EncodeChar_percent] at h
  | case3 c s hc =>
    rw [percentDecode.eq_2 c s hc] at h
    exact absurd (List.append_eq_nil_iff.1 h).1 String.utf8EncodeChar_ne_nil
  | case4 => rfl

/-! ## Separators

A separator is a character that no escape runs through: it is in ASCII, and
neither the sign of an escape nor one of its digits. -/

/-- A character that cannot be part of an escape. -/
structure Separator (c : Char) : Prop where
  ascii : c.toNat < 0x80
  ne_percent : c ≠ '%'
  not_hex : hexValue c = none

variable {c : Char}

/-- The octet a separator stands for. -/
def octet (c : Char) : UInt8 := UInt8.ofNat c.toNat

theorem hexOctet_left (hc : Separator c) (y : Char) : hexOctet c y = none := by
  simp [hexOctet, hc.not_hex]

theorem hexOctet_right (hc : Separator c) (x : Char) : hexOctet x c = none := by
  simp [hexOctet, hc.not_hex]

theorem percentDecode_cons (hc : c ≠ '%') (s : List Char) :
    percentDecode (c :: s) = String.utf8EncodeChar c ++ percentDecode s :=
  percentDecode.eq_2 c s (fun _ _ _ h _ => hc h)

theorem percentDecode_sep (hc : Separator c) (s : List Char) :
    percentDecode (c :: s) = octet c :: percentDecode s := by
  rw [percentDecode_cons hc.ne_percent, utf8EncodeChar_ascii hc.ascii]
  rfl

/-- **Decoding stops at a separator.**  What is before it and what is after it
are decoded independently. -/
theorem percentDecode_append_sep (hc : Separator c) (s t : List Char) :
    percentDecode (s ++ c :: t) = percentDecode s ++ octet c :: percentDecode t := by
  fun_induction percentDecode s with
  | case1 x y rest b hb ih => simp only [List.cons_append, percentDecode, hb, ih]
  | case2 x y rest hb ih =>
    simp only [List.cons_append] at ih
    simp only [List.cons_append, percentDecode, hb, ih, List.append_assoc]
  | case3 a s ha ih =>
    rw [List.append_assoc, ← ih, List.cons_append]
    by_cases hp : a = '%'
    · subst hp
      -- The sign is too near the separator to start an escape.
      match s with
      | [] =>
        match t with
        | [] => rfl
        | y :: t => simp only [List.nil_append, percentDecode, hexOctet_left hc]
      | [x] => simp only [List.cons_append, List.nil_append, percentDecode, hexOctet_right hc]
      | x :: y :: rest => exact (ha x y rest rfl rfl).elim
    · exact percentDecode_cons hp _
  | case4 => exact percentDecode_sep hc t

/-- **Decoding a text is decoding its segments.** -/
theorem intercalate_percentDecode_splitOn (hc : Separator c) (s : List Char) :
    [octet c].intercalate ((s.splitOn c).map percentDecode) = percentDecode s := by
  by_cases hmem : c ∈ s
  · obtain ⟨t, u, rfl, ht⟩ := List.eq_append_cons_of_mem hmem
    have ih := intercalate_percentDecode_splitOn hc u
    have hsplit : (t ++ c :: u).splitOn c = t :: u.splitOn c := by
      rw [List.splitOn_eq_splitOnP, List.splitOn_eq_splitOnP]
      refine List.splitOnP_append_cons_of_forall_mem (fun x hx => ?_) c (by simp) u
      exact beq_false_of_ne (fun h => ht (h ▸ hx))
    obtain ⟨v, vs, hv⟩ := List.exists_cons_of_ne_nil (List.splitOn_ne_nil c u)
    rw [percentDecode_append_sep hc, ← ih, hsplit, hv]
    simp [List.intercalate]
  · have hsplit : s.splitOn c = [s] := by
      rw [List.splitOn_eq_splitOnP]
      exact List.splitOnP_eq_singleton (fun x hx => beq_false_of_ne (fun h => hmem (h ▸ hx)))
    rw [hsplit]
    simp [List.intercalate]
termination_by s.length

theorem octet_toNat (hc : Separator c) : (octet c).toNat = c.toNat := by
  have := hc.ascii
  simp only [octet, UInt8.toNat_ofNat']
  omega

/-- Only a separator's own octet is the separator's. -/
theorem count_utf8EncodeChar (hc : Separator c) (x : Char) :
    (String.utf8EncodeChar x).count (octet c) = if x = c then 1 else 0 := by
  have ho := octet_toNat hc
  by_cases hx : x.toNat < 0x80
  · rw [utf8EncodeChar_ascii hx, List.count_singleton]
    have : (UInt8.ofNat x.toNat = octet c) ↔ x = c := by
      rw [← UInt8.toNat_inj, ho, UInt8.toNat_ofNat', Nat.mod_eq_of_lt (by omega)]
      exact Char.toNat_inj
    simp [this]
  · have hne : x ≠ c := fun h => hx (h ▸ hc.ascii)
    rw [if_neg hne]
    refine List.count_eq_zero.2 fun hm => ?_
    have := le_of_mem_utf8EncodeChar (Nat.le_of_not_lt hx) hm
    have := hc.ascii
    omega

theorem count_utf8 (hc : Separator c) (s : List Char) :
    (utf8 s).count (octet c) = s.count c := by
  induction s with
  | nil => rfl
  | cons a s ih =>
    rw [utf8_cons, List.count_append, ih, count_utf8EncodeChar hc, List.count_cons]
    by_cases h : a = c <;> simp [h, Nat.add_comm]

/-- **Separators are decoded in place**, where no escape spells one. -/
theorem count_percentDecode (hc : Separator c) {s : List Char}
    (hs : NeverSpells (octet c) s) : (percentDecode s).count (octet c) = s.count c := by
  fun_induction percentDecode s with
  | case1 x y rest b hb ih =>
    have hne : b ≠ octet c := fun h => hs x y rest (List.suffix_refl _) (h ▸ hb)
    have hx : x ≠ c := by rintro rfl; simp [hexOctet_left hc] at hb
    have hy : y ≠ c := by rintro rfl; simp [hexOctet_right hc] at hb
    have hrest := ih (hs.of_suffix ⟨['%', x, y], rfl⟩)
    rw [List.count_cons_of_ne hne, hrest, List.count_cons_of_ne hc.ne_percent.symm,
      List.count_cons_of_ne hx, List.count_cons_of_ne hy]
  | case2 x y rest hb ih =>
    have hrest := ih (hs.of_suffix (List.suffix_cons _ _))
    rw [List.count_append, hrest, count_utf8EncodeChar hc, if_neg hc.ne_percent.symm,
      List.count_cons_of_ne hc.ne_percent.symm, Nat.zero_add]
  | case3 a s _ ih =>
    have hrest := ih (hs.of_suffix (List.suffix_cons _ _))
    rw [List.count_append, hrest, count_utf8EncodeChar hc, List.count_cons]
    by_cases h : a = c <;> simp [h, Nat.add_comm]
  | case4 => rfl

/-! ## Prefixes at separators -/

/-- The text `s` is `d`, or continues it after a separator. -/
def Under (c : Char) (d s : List Char) : Prop :=
  s = d ∨ (if [c] <:+ d then d <+: s else d ++ [c] <+: s)

/-- Two ways to continue up to a separator agree once the last parts are free
of separators. -/
theorem eq_nil_of_append_sep_eq {b : UInt8} {p r q : List UInt8}
    (h : p ++ b :: r = q ++ [b]) (hr : b ∉ r) : r = [] := by
  rcases List.eq_nil_or_concat r with rfl | ⟨r', x, rfl⟩
  · rfl
  · rw [List.concat_eq_append, ← List.cons_append, ← List.append_assoc] at h
    have hx : x = b := by simpa using (List.append_inj' h rfl).2
    exact absurd (by simp [hx]) hr

theorem not_mem_of_count_append {s d r : List Char} {b : Nat}
    (hcount : s.count c = b) (hd : d.count c = b) (h : s = d ++ r) : c ∉ r := by
  subst h
  rw [List.count_append] at hcount
  exact List.count_eq_zero.1 (by omega)

/-- **No text lies under another that decodes to the same octets**, other than
the text itself. -/
theorem eq_of_under (hc : Separator c) {s t : List Char} (hs : NeverSpells (octet c) s)
    (ht : NeverSpells (octet c) t) (h : percentDecode s = percentDecode t)
    (hu : Under c s t) : t = s := by
  have hcount : t.count c = s.count c := by
    rw [← count_percentDecode hc hs, ← count_percentDecode hc ht, h]
  rcases hu with heq | hu
  · exact heq
  · split at hu
    next hsep =>
      obtain ⟨s', rfl⟩ := hsep
      obtain ⟨r, rfl⟩ := hu
      rw [List.append_assoc, List.singleton_append, percentDecode_append_sep hc,
        percentDecode_append_sep hc] at h
      have hr : percentDecode r = [] := by simpa [percentDecode] using h.symm
      rw [percentDecode_eq_nil hr, List.append_nil]
    next =>
      obtain ⟨r, rfl⟩ := hu
      simp only [List.count_append, List.count_singleton_self] at hcount
      omega

/-- **A text with an escape never lies under what it spells.** -/
theorem not_under_of_spells (hc : Separator c) {s d : List Char} (hs : NeverSpells (octet c) s)
    (hw : WellEscaped s) (hp : '%' ∈ s) (h : Spells s d) : ¬ Under c d s := by
  have hne : s ≠ d := by
    rintro rfl
    exact absurd (percentDecode_length_lt hw hp) (by rw [h]; exact Nat.lt_irrefl _)
  have hcount : s.count c = d.count c := by
    rw [← count_percentDecode hc hs, h, count_utf8 hc]
  rintro (heq | hu)
  · exact hne heq
  · split at hu
    next hsep =>
      obtain ⟨d', rfl⟩ := hsep
      obtain ⟨r, rfl⟩ := hu
      have hr : c ∉ r := not_mem_of_count_append hcount rfl rfl
      have hrs : NeverSpells (octet c) r := hs.of_suffix (List.suffix_append _ _)
      have hoctets : octet c ∉ percentDecode r := by
        rw [← List.count_eq_zero, count_percentDecode hc hrs]
        exact List.count_eq_zero.2 hr
      have hsplit : percentDecode d' ++ octet c :: percentDecode r = utf8 d' ++ [octet c] := by
        rw [← percentDecode_append_sep hc, ← List.singleton_append, ← List.append_assoc, h]
        simp [utf8, utf8EncodeChar_ascii hc.ascii, octet]
      have hnil := percentDecode_eq_nil (eq_nil_of_append_sep_eq hsplit hoctets)
      exact hne (by rw [hnil, List.append_nil])
    next =>
      obtain ⟨r, rfl⟩ := hu
      simp only [List.count_append, List.count_singleton_self] at hcount
      omega

end PercentEncoding
