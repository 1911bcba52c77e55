import Mathlib.Data.List.Nodup
import Mathlib.Tactic.Ring

/-! # Products of lists in the order of their last factor

`itertools.product` runs through the combinations of some lists as an odometer
does: the last list turns fastest.  So the combination at an index has, from each
list, the item that the digit of the index says, where the number of combinations
of the lists that follow is what the digit is worth.

Only the first combinations may be taken, and each may get a mark by its index
modulo a number.  An item is then reached when what its digit is worth is, and the
marks that it gets are those of the first item of its list, shifted.
-/
namespace ProductOrder

variable {α : Type}

/-- `itertools.product`. -/
def product : List (List α) → List (List α)
  | [] => [[]]
  | values :: rest => values.flatMap fun value => (product rest).map (value :: ·)

/-- How many combinations there are. -/
def count : List (List α) → Nat
  | [] => 1
  | values :: rest => values.length * count rest

theorem count_append (before after : List (List α)) :
    count (before ++ after) = count before * count after := by
  induction before with
  | nil => rw [List.nil_append, count, Nat.one_mul]
  | cons values before ih => rw [List.cons_append, count, count, ih, Nat.mul_assoc]

theorem length_product (lists : List (List α)) : (product lists).length = count lists := by
  induction lists with
  | nil => rfl
  | cons values rest ih =>
    rw [product, count]
    induction values with
    | nil => simp
    | cons value values ihv =>
      rw [List.flatMap_cons, List.length_append, List.length_map, ih, ihv, List.length_cons,
        Nat.succ_mul, Nat.add_comm]

/-- The combination at an index begins with the item of its first digit. -/
theorem getElem?_product_cons (values : List α) (rest : List (List α)) {i : Nat}
    (h : i < values.length * count rest) :
    (product (values :: rest))[i]? = values[i / count rest]?.bind fun value =>
      (product rest)[i % count rest]?.map (value :: ·) := by
  have hpos : 0 < count rest := Nat.pos_of_mul_pos_left (Nat.zero_lt_of_lt h)
  rw [product]
  induction values generalizing i with
  | nil => simp at h
  | cons value values ih =>
    rw [List.flatMap_cons]
    by_cases hi : i < count rest
    · rw [List.getElem?_append_left (by rw [List.length_map, length_product]; exact hi),
        List.getElem?_map, Nat.div_eq_of_lt hi, Nat.mod_eq_of_lt hi]
      rfl
    · have hle : count rest ≤ i := Nat.le_of_not_lt hi
      have hrest : i - count rest < values.length * count rest := by
        rw [List.length_cons, Nat.succ_mul] at h
        omega
      rw [List.getElem?_append_right (by rw [List.length_map, length_product]; exact hle),
        List.length_map, length_product, ih hrest, Nat.div_eq_sub_div hpos hle,
        Nat.mod_eq_sub_mod hle]
      rfl

/-- Lists without repetitions have no combination twice. -/
theorem product_nodup {lists : List (List α)} (h : ∀ values ∈ lists, values.Nodup) :
    (product lists).Nodup := by
  induction lists with
  | nil => exact List.nodup_singleton _
  | cons values rest ih =>
    obtain ⟨hvalues, hrest⟩ := List.forall_mem_cons.mp h
    rw [product, List.nodup_flatMap]
    refine ⟨fun value _ => (ih hrest).map (List.cons_injective), ?_⟩
    refine hvalues.imp fun {first second} hne combo hfirst hsecond => ?_
    obtain ⟨one, -, rfl⟩ := List.mem_map.mp hfirst
    obtain ⟨other, -, hsame⟩ := List.mem_map.mp hsecond
    exact hne (List.cons.inj hsame).1.symm

/-- The combinations have one item from each list. -/
theorem forall₂_of_mem_product {lists : List (List α)} {combo : List α}
    (h : combo ∈ product lists) : List.Forall₂ (· ∈ ·) combo lists := by
  induction lists generalizing combo with
  | nil =>
    obtain rfl := List.mem_singleton.mp h
    exact .nil
  | cons values rest ih =>
    obtain ⟨value, hvalue, hcombo⟩ := List.mem_flatMap.mp h
    obtain ⟨others, hothers, rfl⟩ := List.mem_map.mp hcombo
    exact .cons hvalue (ih hothers)

/-- The digit of an index for a list that has others before and after it. -/
def digit (i worth size : Nat) : Nat := i / worth % size

/-- A digit of what is left of an index after the digits before it. -/
theorem digit_mod (i n worth size : Nat) :
    digit (i % (n * (size * worth))) worth size = digit i worth size := by
  have hworth : n * (size * worth) = worth * (size * n) := by ring
  rw [digit, digit, hworth, Nat.mod_mul_right_div_self, Nat.mod_mul_right_mod]

/-- **The combination at an index** has from each list the item of its digit. -/
theorem getElem?_product (before : List (List α)) (values : List α) (after : List (List α))
    {i : Nat} (h : i < count (before ++ values :: after)) {combo : List α}
    (hcombo : (product (before ++ values :: after))[i]? = some combo) :
    combo[before.length]? = values[digit i (count after) values.length]? := by
  induction before generalizing i combo with
  | nil =>
    rw [List.nil_append] at hcombo h
    rw [count] at h
    have hpos : 0 < count after := Nat.pos_of_mul_pos_left (Nat.zero_lt_of_lt h)
    have hlt : i / count after < values.length := (Nat.div_lt_iff_lt_mul hpos).mpr h
    rw [getElem?_product_cons values after h, Option.bind_eq_some_iff] at hcombo
    obtain ⟨value, hvalue, hcombo⟩ := hcombo
    obtain ⟨rest, -, rfl⟩ := Option.map_eq_some_iff.mp hcombo
    rw [digit, Nat.mod_eq_of_lt hlt, hvalue]
    rfl
  | cons first before ih =>
    rw [List.cons_append] at hcombo h
    rw [getElem?_product_cons _ _ h, Option.bind_eq_some_iff] at hcombo
    obtain ⟨value, -, hcombo⟩ := hcombo
    obtain ⟨rest, hrest, rfl⟩ := Option.map_eq_some_iff.mp hcombo
    rw [count] at h
    have hpos : 0 < count (before ++ values :: after) :=
      Nat.pos_of_mul_pos_left (Nat.zero_lt_of_lt h)
    have hmod : count (before ++ values :: after) =
        count before * (values.length * count after) := by rw [count_append, count]
    rw [List.length_cons, List.getElem?_cons_succ, ih (Nat.mod_lt _ hpos) hrest, hmod, digit_mod]

/-- **Which items are reached** by the first indices: those whose worth is. -/
theorem exists_digit_iff {n worth size k : Nat} (hworth : 0 < worth) (hk : k < size) :
    (∃ i < n, digit i worth size = k) ↔ k * worth < n := by
  constructor
  · rintro ⟨i, hi, rfl⟩
    have hle : i / worth % size * worth ≤ i / worth * worth :=
      Nat.mul_le_mul_right _ (Nat.mod_le _ _)
    exact (hle.trans (Nat.div_mul_le_self i worth)).trans_lt hi
  · intro h
    refine ⟨k * worth, h, ?_⟩
    rw [digit, Nat.mul_div_cancel _ hworth, Nat.mod_eq_of_lt hk]

/-! ## Marks by the index -/

/-- The indices of the first item of a list meet every residue. -/
def EveryResidue (blocks block worth modulus : Nat) : Prop :=
  ∀ c < modulus, ∃ q < blocks, ∃ r < worth, (q * block + r) % modulus = c

/-- A shift of all residues is all residues. -/
theorem exists_shift {c modulus : Nat} (t : Nat) (hc : c < modulus) :
    ∃ c' < modulus, (c' + t) % modulus = c := by
  refine ⟨(c + (modulus - 1) * t) % modulus, Nat.mod_lt _ (Nat.zero_lt_of_lt hc), ?_⟩
  have hsum : c + (modulus - 1) * t + t = c + modulus * t := by
    obtain ⟨m, rfl⟩ : ∃ m, modulus = m + 1 := ⟨modulus - 1, by omega⟩
    rw [Nat.add_sub_cancel]
    ring
  rw [Nat.mod_add_mod, hsum, Nat.add_mul_mod_self_left, Nat.mod_eq_of_lt hc]

/-- **Every item of a list gets every mark** exactly when the first one does. -/
theorem marks_iff {blocks worth size modulus : Nat} (hworth : 0 < worth) (hsize : 0 < size) :
    (∀ c < modulus, ∀ k < size, ∃ i < blocks * (size * worth),
        i % modulus = c ∧ digit i worth size = k) ↔
      EveryResidue blocks (size * worth) worth modulus := by
  constructor
  · intro h c hc
    obtain ⟨i, hi, hmod, hdigit⟩ := h c hc 0 hsize
    have hblock : 0 < size * worth := Nat.mul_pos hsize hworth
    refine ⟨i / (size * worth), (Nat.div_lt_iff_lt_mul hblock).mpr hi, i % worth,
      Nat.mod_lt _ hworth, ?_⟩
    have hfirst : size * (i / (size * worth)) = i / worth := by
      have hzero := Nat.div_add_mod (i / worth) size
      rw [digit] at hdigit
      rw [hdigit, Nat.add_zero, Nat.div_div_eq_div_mul, Nat.mul_comm worth] at hzero
      exact hzero
    have hindex : i / (size * worth) * (size * worth) + i % worth = i := by
      calc i / (size * worth) * (size * worth) + i % worth
          = worth * (size * (i / (size * worth))) + i % worth := by ring
        _ = i := by rw [hfirst, Nat.div_add_mod]
    rw [hindex, hmod]
  · intro h c hc k hk
    obtain ⟨c', hc', hshift⟩ := exists_shift (k * worth) hc
    obtain ⟨q, hq, r, hr, hmod⟩ := h c' hc'
    have hdiv : (q * (size * worth) + r + k * worth) / worth = q * size + k := by
      have hform : q * (size * worth) + r + k * worth = r + (q * size + k) * worth := by ring
      rw [hform, Nat.add_mul_div_right _ _ hworth, Nat.div_eq_of_lt hr, Nat.zero_add]
    refine ⟨q * (size * worth) + r + k * worth, ?_, ?_, ?_⟩
    · have hinner : k * worth + worth ≤ size * worth := by
        rw [← Nat.succ_mul]
        exact Nat.mul_le_mul_right _ hk
      have houter : q * (size * worth) + size * worth ≤ blocks * (size * worth) := by
        rw [← Nat.succ_mul]
        exact Nat.mul_le_mul_right _ hq
      omega
    · rw [← Nat.mod_add_mod, hmod, hshift]
    · rw [digit, hdiv, Nat.mul_add_mod_self_right, Nat.mod_eq_of_lt hk]

end ProductOrder
