import Zest.ContextAccounting
import Zest.MutationMatrix

/-! # What the cells of a matrix cover

The cells are the first combinations in the order of the product, so the last values
of the first dimension are the ones that a bound leaves out.  Controls go around with
the number of the cell, so which of them a value meets depends on what the sizes of
the dimensions leave modulo the number of controls.
-/
namespace Zest.MutationMatrix

open ProductOrder (product count digit EveryResidue)
open Reasoning (Required)

/-! ## Dictionaries of cells -/

/-- What a cell says of a dimension. -/
def MutationMatrixCell.value (cell : MutationMatrixCell) (dimension : Text) : Option Text :=
  (KeyedList.get Prod.fst cell.dimensionValues dimension).map (·.2)

theorem collect_of_nodup {items : List (Text × Text)} (h : (items.map Prod.fst).Nodup) :
    KeyedList.collect Prod.fst (fun _ new => new) items = items := by
  have hupsert : ∀ (olds : List (Text × Text)) (item : Text × Text),
      item.1 ∉ olds.map Prod.fst →
        KeyedList.upsert Prod.fst (fun _ new => new) olds item = olds ++ [item] := by
    intro olds item hnew
    induction olds with
    | nil => rfl
    | cons old olds ih =>
      obtain ⟨hne, hrest⟩ := List.ne_and_not_mem_of_not_mem_cons hnew
      rw [KeyedList.upsert, if_neg (Ne.symm hne), ih hrest]
      rfl
  induction items using List.reverseRecOn with
  | nil => rfl
  | append_singleton items item ih =>
    rw [List.map_append, List.map_singleton] at h
    have hold := List.Nodup.of_append_left h
    have hnew : item.1 ∉ items.map Prod.fst := by
      intro hmem
      exact (List.disjoint_of_nodup_append h) hmem (List.mem_singleton_self _)
    rw [KeyedList.collect, List.foldl_append, List.foldl_cons, List.foldl_nil]
    rw [KeyedList.collect] at ih
    rw [ih hold, hupsert items item hnew]

/-- The value of a dimension is the one at its place. -/
theorem get_zip {dimensions combo : List Text} (hnodup : dimensions.Nodup)
    (hlength : combo.length = dimensions.length) {place : Nat} {dimension : Text}
    (h : dimensions[place]? = some dimension) :
    (KeyedList.get Prod.fst (dictOf dimensions combo) dimension).map (·.2) = combo[place]? := by
  have hkeys : (dimensions.zip combo).map Prod.fst = dimensions :=
    List.map_fst_zip hlength.ge
  have hzip : ((dimensions.zip combo).map Prod.fst).Nodup := by
    rwa [hkeys]
  rw [dictOf, collect_of_nodup hzip]
  obtain ⟨hlt, rfl⟩ := List.getElem?_eq_some_iff.mp h
  have hcombo : place < combo.length := hlength ▸ hlt
  have hmem : (dimensions[place], combo[place]) ∈ dimensions.zip combo := by
    refine List.mem_iff_getElem.mpr ⟨place, ?_, List.getElem_zip⟩
    rw [List.length_zip]
    omega
  rw [KeyedList.get_of_mem hzip hmem, Option.map_some, List.getElem?_eq_getElem hcombo]

/-! ## Numbers of cells -/

theorem ofDigitChars_leftpad (n : Nat) (digits : List Char) :
    Nat.ofDigitChars 10 (digits.leftpad n '0') 0 = Nat.ofDigitChars 10 digits 0 := by
  have hzeros : ∀ k : Nat, Nat.ofDigitChars 10 (List.replicate k '0') 0 = 0 := by
    intro k
    induction k with
    | zero => rfl
    | succ k ih =>
      rw [List.replicate_succ, Nat.ofDigitChars_cons]
      exact ih
  rw [List.leftpad, Nat.ofDigitChars_append, hzeros]

theorem paddedIndex_injective {i j : Nat} (h : paddedIndex i = paddedIndex j) : i = j := by
  have hvalue := congrArg (Nat.ofDigitChars 10 · 0) h
  simp only [paddedIndex, ofDigitChars_leftpad, Nat.ofDigitChars_ten_toDigits] at hvalue
  exact hvalue

theorem cellIdOf_injective (familyId : Text) {i j : Nat}
    (h : cellIdOf familyId i = cellIdOf familyId j) : i = j :=
  paddedIndex_injective (List.append_cancel_left h)

/-! ## The loop -/

section Loop

variable {familyId : Text} {dimensions controls : NonemptyTexts} {maxCells : Int}

/-- What a cell has been made of. -/
structure MadeOf (familyId : Text) (dimensions controls : NonemptyTexts) (index : Nat)
    (combo : List Text) (cell : MutationMatrixCell) : Prop where
  dimensionValues : cell.dimensionValues = dictOf dimensions.val combo
  control : cell.control = controlAt controls index
  cellId : cell.cellId.val = cellIdOf familyId index

theorem madeOf_of_makeCell {index : Nat} {combo : List Text} {cell : MutationMatrixCell}
    (h : makeCell familyId (dictOf dimensions.val combo) (controlAt controls index)
      (cellIdOf familyId index) = .ok cell) :
    MadeOf familyId dimensions controls index combo cell := by
  unfold makeCell at h
  split_ifs at h
  obtain rfl := Except.ok.inj h
  exact ⟨rfl, rfl, rfl⟩

/-- **The loop** makes a cell of each of the first combinations. -/
theorem collectCells_spec {combos : List (List Text)} {index : Nat}
    {cells made : List MutationMatrixCell} (hindex : index = cells.length)
    (h : collectCells familyId dimensions controls maxCells combos index cells = .ok made) :
    ∃ more, made = cells ++ more ∧
      more.length = min (maxCells.toNat - cells.length) combos.length ∧
      ∀ (i : Nat) (cell : MutationMatrixCell) (combo : List Text), more[i]? = some cell →
        combos[i]? = some combo →
          MadeOf familyId dimensions controls (index + i) combo cell := by
  induction combos generalizing index cells with
  | nil =>
    obtain rfl := Except.ok.inj h
    exact ⟨[], (List.append_nil _).symm, by simp, by simp⟩
  | cons combo rest ih =>
    rw [collectCells] at h
    by_cases hfull : maxCells ≤ cells.length
    · rw [if_pos hfull] at h
      obtain rfl := Except.ok.inj h
      refine ⟨[], (List.append_nil _).symm, ?_, by simp⟩
      rw [List.length_nil]
      omega
    · rw [if_neg hfull] at h
      cases hcell : makeCell familyId (dictOf dimensions.val combo) (controlAt controls index)
          (cellIdOf familyId index) with
      | error message =>
        rw [hcell] at h
        cases h
      | ok cell =>
        rw [hcell] at h
        have hlength : index + 1 = (cells ++ [cell]).length := by
          rw [List.length_append, List.length_singleton, hindex]
        obtain ⟨more, hmade, hmore, hall⟩ := ih hlength h
        refine ⟨cell :: more, ?_, ?_, ?_⟩
        · rw [hmade, List.append_assoc, List.singleton_append]
        · rw [List.length_cons, hmore, List.length_cons, List.length_append,
            List.length_singleton]
          omega
        · intro i other otherCombo hother hotherCombo
          cases i with
          | zero =>
            rw [List.getElem?_cons_zero] at hother hotherCombo
            obtain rfl := Option.some.inj hother
            obtain rfl := Option.some.inj hotherCombo
            exact madeOf_of_makeCell hcell
          | succ i =>
            rw [List.getElem?_cons_succ] at hother hotherCombo
            rw [← Nat.add_assoc, Nat.add_right_comm]
            exact hall i other otherCombo hother hotherCombo

end Loop

/-! ## Building -/

/-- The values of the dimensions. -/
def valueLists (dimensions : List Text) : List (List Text) :=
  dimensions.map fun dimension => (dimensionValues dimension).getD []

/-- The number of values of a dimension. -/
def sizeOf (dimension : Text) : Nat := ((dimensionValues dimension).getD []).length

theorem mapM_valuesOf {dimensions : List Text} {lists : List (List Text)}
    (h : dimensions.mapM valuesOf = .ok lists) :
    lists = valueLists dimensions ∧
      ∀ dimension ∈ dimensions, (dimensionValues dimension).isSome := by
  induction dimensions generalizing lists with
  | nil =>
    cases h
    exact ⟨rfl, by simp⟩
  | cons dimension rest ih =>
    rw [List.mapM_cons] at h
    obtain ⟨values, hvalues, h⟩ := bind_eq_ok h
    obtain ⟨others, hothers, h⟩ := bind_eq_ok h
    cases h
    obtain ⟨rfl, hknown⟩ := ih hothers
    unfold valuesOf at hvalues
    split at hvalues
    next found hfound =>
      obtain rfl := Except.ok.inj hvalues
      refine ⟨?_, List.forall_mem_cons.mpr ⟨?_, hknown⟩⟩
      · rw [valueLists, valueLists, List.map_cons, hfound, Option.getD_some]
      · rw [hfound, Option.isSome_some]
    next => cases hvalues

theorem mapM_valuesOf_known {dimensions : List Text}
    (h : ∀ dimension ∈ dimensions, (dimensionValues dimension).isSome) :
    dimensions.mapM valuesOf = .ok (valueLists dimensions) := by
  induction dimensions with
  | nil => rfl
  | cons dimension rest ih =>
    obtain ⟨hfirst, hrest⟩ := List.forall_mem_cons.mp h
    obtain ⟨values, hvalues⟩ := Option.isSome_iff_exists.mp hfirst
    have hread : valuesOf dimension = .ok values := by rw [valuesOf, hvalues]
    rw [List.mapM_cons, hread, ok_bind, ih hrest, ok_bind, valueLists, valueLists, List.map_cons,
      hvalues, Option.getD_some]
    rfl

/-- The table has no value of a dimension twice, and no dimension of one value. -/
theorem dimensionTable_values :
    ∀ entry ∈ dimensionTable, entry.2.Nodup ∧ 2 ≤ entry.2.length := by
  decide

theorem values_of_known {dimension : Text} {values : List Text}
    (h : dimensionValues dimension = some values) : values.Nodup ∧ 2 ≤ values.length := by
  obtain ⟨entry, hentry, rfl⟩ := Option.map_eq_some_iff.mp h
  exact dimensionTable_values entry (KeyedList.get_eq_some hentry).1

/-- What the cells of a matrix are. -/
structure Filled (familyId : Text) (dimensions controls : NonemptyTexts) (maxCells : Int)
    (cells : List MutationMatrixCell) : Prop where
  known : ∀ dimension ∈ dimensions.val, (dimensionValues dimension).isSome
  length : cells.length = min maxCells.toNat (count (valueLists dimensions.val))
  made : ∀ (i : Nat) (cell : MutationMatrixCell), cells[i]? = some cell →
    ∃ combo, (product (valueLists dimensions.val))[i]? = some combo ∧
      MadeOf familyId dimensions controls i combo cell

section Build

variable {repr : JsonValue → Text} {sha256 : Text → Required} {family : HunterFamilyView}
  {maxCells : Int} {plan : MutationMatrixPlan}

/-- **A matrix that is built** has the first combinations for its cells. -/
theorem filled_of_build (h : buildMutationMatrix repr sha256 family maxCells = .ok plan) :
    ∃ dimensions controls : NonemptyTexts, plan.dimensions = dimensions.val ∧
      plan.controls = controls.val ∧
      Filled family.familyId dimensions controls maxCells plan.cells := by
  unfold buildMutationMatrix at h
  split at h
  · cases h
  obtain ⟨dimensions, -, h⟩ := bind_eq_ok h
  obtain ⟨controls, -, h⟩ := bind_eq_ok h
  obtain ⟨values, hvalues, h⟩ := bind_eq_ok h
  obtain ⟨rfl, hknown⟩ := mapM_valuesOf hvalues
  obtain ⟨cells, hcells, h⟩ := bind_eq_ok h
  split at h
  · cases h
  obtain rfl := Except.ok.inj h
  refine ⟨dimensions, controls, rfl, rfl, hknown, ?_, ?_⟩
  all_goals
    obtain ⟨more, hmore, hlength, hmade⟩ := collectCells_spec List.length_nil.symm hcells
    rw [List.nil_append] at hmore
    subst hmore
  · rw [hlength, List.length_nil, Nat.sub_zero, ProductOrder.length_product]
  · intro i cell hcell
    have hlt : i < (product (valueLists dimensions.val)).length := by
      have := (List.getElem?_eq_some_iff.mp hcell).1
      rw [hlength] at this
      omega
    refine ⟨_, List.getElem?_eq_getElem hlt, ?_⟩
    have hspec := hmade i cell _ hcell (List.getElem?_eq_getElem hlt)
    rwa [Nat.zero_add] at hspec

end Build

/-! ## What the cells cover -/

section Covered

variable {familyId : Text} {dimensions controls : NonemptyTexts} {maxCells : Int}
  {cells : List MutationMatrixCell}

theorem Filled.cellIds_nodup (h : Filled familyId dimensions controls maxCells cells) :
    (cells.map (·.cellId.val)).Nodup := by
  have hids : cells.map (·.cellId.val) = (List.range cells.length).map (cellIdOf familyId) := by
    refine List.ext_getElem? fun i => ?_
    rw [List.getElem?_map, List.getElem?_map]
    by_cases hi : i < cells.length
    · obtain ⟨combo, -, hmade⟩ := h.made i cells[i] (List.getElem?_eq_getElem hi)
      rw [List.getElem?_eq_getElem hi, List.getElem?_range hi, Option.map_some, Option.map_some,
        hmade.cellId]
    · rw [List.getElem?_eq_none (by omega), List.getElem?_eq_none (by simpa using hi)]
      rfl
  rw [hids]
  exact List.nodup_range.map fun _ _ hsame => cellIdOf_injective familyId hsame

theorem valueLists_nodup (hknown : ∀ d ∈ dimensions.val, (dimensionValues d).isSome) :
    ∀ values ∈ valueLists dimensions.val, values.Nodup := by
  intro values hvalues
  obtain ⟨dimension, hdimension, rfl⟩ := List.mem_map.mp hvalues
  obtain ⟨found, hfound⟩ := Option.isSome_iff_exists.mp (hknown dimension hdimension)
  rw [hfound]
  exact (values_of_known hfound).1

theorem length_of_mem_product {dims combo : List Text} (h : combo ∈ product (valueLists dims)) :
    combo.length = dims.length := by
  rw [(ProductOrder.forall₂_of_mem_product h).length_eq, valueLists, List.length_map]

/-- What the cell of some number says of a dimension is the item of its combination. -/
theorem Filled.value (h : Filled familyId dimensions controls maxCells cells)
    (hnodup : dimensions.val.Nodup) {i place : Nat} {cell : MutationMatrixCell}
    (hcell : cells[i]? = some cell) {dimension : Text}
    (hplace : dimensions.val[place]? = some dimension) {combo : List Text}
    (hcombo : (product (valueLists dimensions.val))[i]? = some combo) :
    cell.value dimension = combo[place]? := by
  obtain ⟨made, hmade, hcellMade⟩ := h.made i cell hcell
  obtain rfl : made = combo := Option.some.inj (hmade.symm.trans hcombo)
  rw [MutationMatrixCell.value, hcellMade.dimensionValues]
  exact get_zip hnodup (length_of_mem_product (List.mem_of_getElem? hcombo)) hplace

/-- **No two cells** have the same values. -/
theorem Filled.pairwise_differ (h : Filled familyId dimensions controls maxCells cells)
    (hnodup : dimensions.val.Nodup) :
    cells.Pairwise fun cell other =>
      ∃ dimension ∈ dimensions.val, cell.value dimension ≠ other.value dimension := by
  rw [List.pairwise_iff_getElem]
  intro i j hi hj hij
  obtain ⟨combo, hcombo, -⟩ := h.made i cells[i] (List.getElem?_eq_getElem hi)
  obtain ⟨other, hother, -⟩ := h.made j cells[j] (List.getElem?_eq_getElem hj)
  by_contra hnone
  push Not at hnone
  have hsame : combo = other := by
    have hlengths := length_of_mem_product (List.mem_of_getElem? hcombo)
    have hothers := length_of_mem_product (List.mem_of_getElem? hother)
    refine List.ext_getElem? fun place => ?_
    by_cases hplace : place < dimensions.val.length
    · have hdimension := List.getElem?_eq_getElem hplace
      rw [← h.value hnodup (List.getElem?_eq_getElem hi) hdimension hcombo,
        ← h.value hnodup (List.getElem?_eq_getElem hj) hdimension hother]
      exact hnone _ (List.getElem_mem hplace)
    · rw [List.getElem?_eq_none (by omega), List.getElem?_eq_none (by omega)]
  have hproduct := ProductOrder.product_nodup (valueLists_nodup h.known)
  obtain ⟨hlt, hget⟩ := List.getElem?_eq_some_iff.mp hcombo
  obtain ⟨hlt', hget'⟩ := List.getElem?_eq_some_iff.mp hother
  have hindex := (List.Nodup.getElem_inj_iff hproduct).mp (hget.trans (hsame.trans hget'.symm))
  omega

variable {before after : List Text} {dimension : Text}

theorem valueLists_append (before after : List Text) (dimension : Text) :
    valueLists (before ++ dimension :: after) =
      valueLists before ++ (dimensionValues dimension).getD [] :: valueLists after := by
  rw [valueLists, List.map_append, List.map_cons, valueLists, valueLists]

theorem count_split (before after : List Text) (dimension : Text) :
    count (valueLists (before ++ dimension :: after)) =
      count (valueLists before) * (sizeOf dimension * count (valueLists after)) := by
  rw [valueLists_append, ProductOrder.count_append, count, sizeOf]

/-- The digit of its number says which value a cell has of a dimension. -/
theorem Filled.value_digit (h : Filled familyId dimensions controls maxCells cells)
    (hnodup : dimensions.val.Nodup) (hsplit : dimensions.val = before ++ dimension :: after)
    {i : Nat} {cell : MutationMatrixCell} (hcell : cells[i]? = some cell) :
    cell.value dimension = ((dimensionValues dimension).getD [])[
      digit i (count (valueLists after)) (sizeOf dimension)]? := by
  obtain ⟨combo, hcombo, -⟩ := h.made i cell hcell
  have hplace : dimensions.val[before.length]? = some dimension := by
    rw [hsplit, List.getElem?_append_right le_rfl, Nat.sub_self, List.getElem?_cons_zero]
  rw [h.value hnodup hcell hplace hcombo]
  have hlt := (List.getElem?_eq_some_iff.mp hcombo).1
  rw [ProductOrder.length_product] at hlt
  rw [hsplit, valueLists_append] at hcombo hlt
  have hdigit := ProductOrder.getElem?_product _ _ _ hlt hcombo
  rwa [valueLists, List.length_map] at hdigit

theorem count_pos {dims : List Text} (h : ∀ d ∈ dims, (dimensionValues d).isSome) :
    0 < count (valueLists dims) := by
  induction dims with
  | nil => exact Nat.one_pos
  | cons d rest ih =>
    obtain ⟨hfirst, hrest⟩ := List.forall_mem_cons.mp h
    obtain ⟨values, hvalues⟩ := Option.isSome_iff_exists.mp hfirst
    have hsize := (values_of_known hvalues).2
    rw [valueLists, List.map_cons, hvalues, Option.getD_some, count]
    exact Nat.mul_pos (by omega) (ih hrest)

/-- Two places of a list without repetitions that have one item are one. -/
theorem eq_of_getElem? {items : List Text} (hnodup : items.Nodup) {i j : Nat} {item : Text}
    (hi : items[i]? = some item) (hj : items[j]? = some item) : i = j := by
  obtain ⟨hlt, hget⟩ := List.getElem?_eq_some_iff.mp hi
  obtain ⟨hlt', hget'⟩ := List.getElem?_eq_some_iff.mp hj
  exact (List.Nodup.getElem_inj_iff hnodup).mp (hget.trans hget'.symm)

/-- **A value occurs** exactly when what its place is worth is below the number of cells. -/
theorem Filled.occurs_iff (h : Filled familyId dimensions controls maxCells cells)
    (hnodup : dimensions.val.Nodup) (hsplit : dimensions.val = before ++ dimension :: after)
    {k : Nat} {value : Text} (hvalue : ((dimensionValues dimension).getD [])[k]? = some value) :
    (∃ cell ∈ cells, cell.value dimension = some value) ↔
      k * count (valueLists after) < cells.length := by
  have hknown := h.known
  rw [hsplit, List.forall_mem_append, List.forall_mem_cons] at hknown
  obtain ⟨-, hdimension, hafter⟩ := hknown
  obtain ⟨values, hvalues⟩ := Option.isSome_iff_exists.mp hdimension
  have hdistinct := (values_of_known hvalues).1
  have hk : k < sizeOf dimension := (List.getElem?_eq_some_iff.mp hvalue).1
  rw [← ProductOrder.exists_digit_iff (count_pos hafter) hk]
  constructor
  · rintro ⟨cell, hmem, hsame⟩
    obtain ⟨i, hi⟩ := List.mem_iff_getElem?.mp hmem
    refine ⟨i, (List.getElem?_eq_some_iff.mp hi).1, ?_⟩
    rw [h.value_digit hnodup hsplit hi] at hsame
    rw [hvalues] at hsame hvalue
    exact eq_of_getElem? hdistinct hsame hvalue
  · rintro ⟨i, hi, hdigit⟩
    refine ⟨cells[i], List.getElem_mem hi, ?_⟩
    rw [h.value_digit hnodup hsplit (List.getElem?_eq_getElem hi), hdigit, hvalue]

/-- Every control meets every value of a dimension. -/
def ControlsPaired (cells : List MutationMatrixCell) (controls : List Text) (dimension : Text) :
    Prop :=
  ∀ control ∈ controls, ∀ value ∈ (dimensionValues dimension).getD [],
    ∃ cell ∈ cells, cell.control = control ∧ cell.value dimension = some value

/-- **Which values a control meets** in a matrix of all combinations: all or not,
by what the sizes leave modulo the number of controls. -/
theorem Filled.paired_iff (h : Filled familyId dimensions controls maxCells cells)
    (hnodup : dimensions.val.Nodup) (hcontrols : controls.val.Nodup)
    (hsplit : dimensions.val = before ++ dimension :: after)
    (hall : count (valueLists dimensions.val) ≤ maxCells.toNat) :
    ControlsPaired cells controls.val dimension ↔
      EveryResidue (count (valueLists before)) (sizeOf dimension * count (valueLists after))
        (count (valueLists after)) controls.val.length := by
  have hknown := h.known
  rw [hsplit, List.forall_mem_append, List.forall_mem_cons] at hknown
  obtain ⟨-, hdimension, hafter⟩ := hknown
  obtain ⟨values, hvalues⟩ := Option.isSome_iff_exists.mp hdimension
  obtain ⟨hdistinct, htwo⟩ := values_of_known hvalues
  have hsize : sizeOf dimension = values.length := by rw [sizeOf, hvalues, Option.getD_some]
  have hlength : cells.length =
      count (valueLists before) * (sizeOf dimension * count (valueLists after)) := by
    rw [h.length, Nat.min_eq_right hall, hsplit, count_split]
  have hcontrol : ∀ {i : Nat} {cell : MutationMatrixCell}, cells[i]? = some cell →
      controls.val[i % controls.val.length]? = some cell.control := by
    intro i cell hcell
    obtain ⟨combo, -, hmade⟩ := h.made i cell hcell
    rw [hmade.control, controlAt]
    exact List.getElem?_eq_getElem (mod_length_lt controls i)
  rw [← ProductOrder.marks_iff (count_pos hafter) (by omega)]
  constructor
  · intro hpaired c hc k hk
    have hkvalues : k < values.length := by omega
    obtain ⟨cell, hmem, hcellControl, hcellValue⟩ := hpaired _ (List.getElem_mem hc) values[k] (by
      rw [hvalues]
      exact List.getElem_mem hkvalues)
    obtain ⟨i, hi⟩ := List.mem_iff_getElem?.mp hmem
    refine ⟨i, hlength ▸ (List.getElem?_eq_some_iff.mp hi).1, ?_, ?_⟩
    · refine eq_of_getElem? hcontrols (hcontrol hi) ?_
      rw [hcellControl]
      exact List.getElem?_eq_getElem hc
    · rw [h.value_digit hnodup hsplit hi, hvalues] at hcellValue
      exact eq_of_getElem? hdistinct hcellValue (List.getElem?_eq_getElem hkvalues)
  · intro hmarks control hmem value hvalue
    obtain ⟨c, hc⟩ := List.mem_iff_getElem?.mp hmem
    obtain ⟨k, hk⟩ := List.mem_iff_getElem?.mp hvalue
    obtain ⟨i, hi, hmod, hdigit⟩ := hmarks c (List.getElem?_eq_some_iff.mp hc).1 k
      (List.getElem?_eq_some_iff.mp hk).1
    rw [← hlength] at hi
    refine ⟨cells[i], List.getElem_mem hi, ?_, ?_⟩
    · have hcell := hcontrol (List.getElem?_eq_getElem hi)
      rw [hmod, hc] at hcell
      exact (Option.some.inj hcell).symm
    · rw [h.value_digit hnodup hsplit (List.getElem?_eq_getElem hi), hdigit, hk]

/-- Every value of every dimension has a cell. -/
def ValuesOccur (cells : List MutationMatrixCell) (dimensions : List Text) : Prop :=
  ∀ dimension ∈ dimensions, ∀ value ∈ (dimensionValues dimension).getD [],
    ∃ cell ∈ cells, cell.value dimension = some value

/-- **All values occur** exactly when the last one of the first dimension does. -/
theorem Filled.valuesOccur_iff (h : Filled familyId dimensions controls maxCells cells)
    (hnodup : dimensions.val.Nodup) {first : Text} {rest : List Text}
    (hfirst : dimensions.val = first :: rest) :
    ValuesOccur cells dimensions.val ↔
      (sizeOf first - 1) * count (valueLists rest) < maxCells.toNat := by
  have hknown := h.known
  rw [hfirst, List.forall_mem_cons] at hknown
  obtain ⟨values, hvalues⟩ := Option.isSome_iff_exists.mp hknown.1
  obtain ⟨-, htwo⟩ := values_of_known hvalues
  have hsize : sizeOf first = values.length := by rw [sizeOf, hvalues, Option.getD_some]
  have hrest := count_pos hknown.2
  have htotal : count (valueLists dimensions.val) = sizeOf first * count (valueLists rest) := by
    rw [hfirst, valueLists, List.map_cons, count, sizeOf, valueLists]
  constructor
  · intro hoccur
    have hlast : values.length - 1 < values.length := by omega
    have hcell := hoccur first (hfirst ▸ List.mem_cons_self) values[values.length - 1] (by
      rw [hvalues]
      exact List.getElem_mem hlast)
    have hplace : ((dimensionValues first).getD [])[values.length - 1]? =
        some values[values.length - 1] := by
      rw [hvalues]
      exact List.getElem?_eq_getElem hlast
    have hempty : dimensions.val = [] ++ first :: rest := hfirst
    have hlt := (h.occurs_iff hnodup hempty hplace).mp hcell
    rw [h.length] at hlt
    rw [hsize]
    omega
  · intro hmax dimension hmem value hvalue
    obtain ⟨before, after, hsplit⟩ := List.append_of_mem hmem
    obtain ⟨k, hk⟩ := List.mem_iff_getElem?.mp hvalue
    have hlt : k < sizeOf dimension := (List.getElem?_eq_some_iff.mp hk).1
    refine (h.occurs_iff hnodup hsplit hk).mpr ?_
    rw [h.length, Nat.lt_min]
    have hknownSplit := h.known
    rw [hsplit, List.forall_mem_append, List.forall_mem_cons] at hknownSplit
    have hafter := count_pos hknownSplit.2.2
    have hinner : k * count (valueLists after) <
        sizeOf dimension * count (valueLists after) := Nat.mul_lt_mul_of_pos_right hlt hafter
    constructor
    · cases before with
      | nil =>
        obtain ⟨rfl, rfl⟩ := List.cons.inj (hfirst.symm.trans hsplit)
        have hle : k * count (valueLists rest) ≤ (sizeOf first - 1) * count (valueLists rest) :=
          Nat.mul_le_mul_right _ (by omega)
        omega
      | cons other others =>
        obtain ⟨rfl, hothers⟩ := List.cons.inj (hfirst.symm.trans hsplit)
        -- a digit of a later dimension is worth less than the first one
        have hrestSplit : count (valueLists rest) =
            count (valueLists others) * (sizeOf dimension * count (valueLists after)) := by
          rw [hothers]
          exact count_split others after dimension
        have hothersPos : 0 < count (valueLists others) := count_pos fun d hd =>
          hknownSplit.1 d (List.mem_cons_of_mem _ hd)
        have hle : sizeOf dimension * count (valueLists after) ≤ count (valueLists rest) := by
          rw [hrestSplit]
          exact Nat.le_mul_of_pos_left _ hothersPos
        have hone : count (valueLists rest) ≤ (sizeOf first - 1) * count (valueLists rest) :=
          Nat.le_mul_of_pos_left _ (by omega)
        omega
    · have hbefore : 0 < count (valueLists before) := count_pos hknownSplit.1
      have hle : sizeOf dimension * count (valueLists after) ≤
          count (valueLists dimensions.val) := by
        rw [hsplit, count_split]
        exact Nat.le_mul_of_pos_left _ hbefore
      omega

end Covered

/-- **What a matrix covers.**  A bound cuts off the last values of the first dimension,
and a control misses values where the sizes and the number of controls leave a gap. -/
theorem matrix_covers {repr : JsonValue → Text} {sha256 : Text → Required}
    {family : HunterFamilyView} {maxCells : Int} {plan : MutationMatrixPlan}
    (hbuild : buildMutationMatrix repr sha256 family maxCells = .ok plan)
    (hdimensions : plan.dimensions.Nodup) (hcontrols : plan.controls.Nodup) :
    plan.cells.length = min maxCells.toNat (count (valueLists plan.dimensions)) ∧
      (plan.cells.map (·.cellId.val)).Nodup ∧
      (plan.cells.Pairwise fun cell other =>
        ∃ dimension ∈ plan.dimensions, cell.value dimension ≠ other.value dimension) ∧
      (∀ first rest, plan.dimensions = first :: rest →
        (ValuesOccur plan.cells plan.dimensions ↔
          (sizeOf first - 1) * count (valueLists rest) < maxCells.toNat)) ∧
      (count (valueLists plan.dimensions) ≤ maxCells.toNat →
        ∀ before dimension after, plan.dimensions = before ++ dimension :: after →
          (ControlsPaired plan.cells plan.controls dimension ↔
            EveryResidue (count (valueLists before))
              (sizeOf dimension * count (valueLists after)) (count (valueLists after))
              plan.controls.length)) := by
  obtain ⟨dimensions, controls, hdims, hctls, hfilled⟩ := filled_of_build hbuild
  rw [hdims] at hdimensions ⊢
  rw [hctls] at hcontrols ⊢
  refine ⟨hfilled.length, hfilled.cellIds_nodup, hfilled.pairwise_differ hdimensions, ?_, ?_⟩
  · intro first rest hfirst
    exact hfilled.valuesOccur_iff hdimensions hfirst
  · intro hall before dimension after hsplit
    exact hfilled.paired_iff hdimensions hcontrols hsplit hall

/-! ## Matrices that are built -/

section Exists

variable {repr : JsonValue → Text} {sha256 : Text → Required} {family : HunterFamilyView}
  {maxCells : Int} {dimensions controls : NonemptyTexts}

theorem dictOf_ne_nil {combo : List Text} (hnodup : dimensions.val.Nodup)
    (hlength : combo.length = dimensions.val.length) : dictOf dimensions.val combo ≠ [] := by
  have hkeys : (dimensions.val.zip combo).map Prod.fst = dimensions.val :=
    List.map_fst_zip hlength.ge
  have hzip : ((dimensions.val.zip combo).map Prod.fst).Nodup := by
    rwa [hkeys]
  rw [dictOf, collect_of_nodup hzip]
  intro hnil
  rw [hnil, List.map_nil] at hkeys
  exact dimensions.property hkeys.symm

theorem exists_collectCells {familyId : Text} (hfamily : familyId.strip ≠ [])
    {combos : List (List Text)}
    (hcombos : ∀ combo ∈ combos, dictOf dimensions.val combo ≠ []) (index : Nat)
    (cells : List MutationMatrixCell) :
    ∃ made, collectCells familyId dimensions controls maxCells combos index cells = .ok made := by
  induction combos generalizing index cells with
  | nil => exact ⟨cells, rfl⟩
  | cons combo rest ih =>
    obtain ⟨hfirst, hrest⟩ := List.forall_mem_cons.mp hcombos
    have hid : Text.strip (cellIdOf familyId index) ≠ [] := by
      rw [cellIdOf, List.append_assoc]
      exact Reasoning.strip_append_ne_nil hfamily _
    rw [collectCells]
    by_cases hfull : maxCells ≤ cells.length
    · exact ⟨cells, if_pos hfull⟩
    · rw [if_neg hfull, makeCell, dif_pos hfamily, dif_pos hid, dif_pos hfirst]
      exact ih hrest _ _

theorem requiredTuple_texts {requirements : Dict} {key : String} {texts : List Text}
    (hne : texts ≠ []) (h : requirements.get key.toList = .array (texts.map .text)) :
    requiredTuple repr requirements key = .ok ⟨texts, hne⟩ := by
  have hmap : (texts.map JsonValue.text).map (JsonValue.str repr) = texts := by
    rw [List.map_map]
    exact List.map_id _
  unfold requiredTuple
  rw [h]
  dsimp only
  rw [dif_pos (by rwa [hmap])]
  exact congrArg Except.ok (Subtype.ext hmap)

/-- A family with known dimensions and enough combinations has a matrix. -/
theorem exists_build
    (hdimensions : requiredTuple repr family.evidenceRequirements "required_matrix_dimensions" =
      .ok dimensions)
    (hcontrols : requiredTuple repr family.evidenceRequirements "required_controls" =
      .ok controls)
    (hnodup : dimensions.val.Nodup)
    (hknown : ∀ dimension ∈ dimensions.val, (dimensionValues dimension).isSome)
    (hfamily : family.familyId.strip ≠ []) (hmax : 30 ≤ maxCells)
    (hcount : 30 ≤ count (valueLists dimensions.val)) :
    ∃ plan, buildMutationMatrix repr sha256 family maxCells = .ok plan ∧
      plan.dimensions = dimensions.val ∧ plan.controls = controls.val := by
  have hcombos : ∀ combo ∈ product (valueLists dimensions.val),
      dictOf dimensions.val combo ≠ [] := fun combo hcombo =>
    dictOf_ne_nil hnodup (length_of_mem_product hcombo)
  have hcollects : ∃ made, collectCells family.familyId dimensions controls maxCells
      (product (valueLists dimensions.val)) 0 [] = .ok made :=
    exists_collectCells hfamily hcombos 0 []
  obtain ⟨cells, hcells⟩ := hcollects
  obtain ⟨more, hmore, hlength, -⟩ := collectCells_spec List.length_nil.symm hcells
  rw [List.nil_append] at hmore
  subst hmore
  rw [List.length_nil, Nat.sub_zero, ProductOrder.length_product] at hlength
  have hbig : ¬ maxCells < (minMeaningfulCells : Int) := by
    rw [minMeaningfulCells]
    omega
  have henough : ¬ cells.length < minMeaningfulCells := by
    rw [minMeaningfulCells]
    omega
  rw [buildMutationMatrix, if_neg hbig, hdimensions, ok_bind, hcontrols, ok_bind,
    mapM_valuesOf_known hknown, ok_bind, hcells, ok_bind, if_neg henough]
  exact ⟨_, rfl, rfl, rfl⟩

end Exists

/-! ## The matrix of SQL injection -/

def sqli : CatalogEntry :=
  catalogEntry "hf-sqli" "SQL_INJECTION" ["input_vector", "encoding", "parser_delta"]
    ["secure_fixture", "deceptive_fixture", "read_back"]

theorem sqli_build (repr : JsonValue → Text) (sha256 : Text → Required) :
    ∃ plan, buildMutationMatrix repr sha256 sqli.view maxMatrixCells = .ok plan ∧
      plan.dimensions = sqli.dimensions ∧ plan.controls = sqli.controls :=
  exists_build (requiredTuple_texts (by decide) rfl) (requiredTuple_texts (by decide) rfl)
    (by decide) (by decide) (by decide) (by decide) (by decide)

theorem matrix_covers_sqli :
    ∃ plan, buildMutationMatrix (fun _ => []) Reasoning.markDigest sqli.view maxMatrixCells =
        .ok plan ∧ plan.cells.length = 96 := by
  obtain ⟨plan, hbuild, hdimensions, hcontrols⟩ := sqli_build (fun _ => []) Reasoning.markDigest
  have hcovers := matrix_covers hbuild (by rw [hdimensions]; decide) (by rw [hcontrols]; decide)
  refine ⟨plan, hbuild, ?_⟩
  rw [hcovers.1, hdimensions]
  decide

/-- The cells of SQL injection stop before the values `header` and `cookie_free`. -/
theorem header_not_covered :
    ¬ ∀ (repr : JsonValue → Text) (sha256 : Text → Required) (family : HunterFamilyView)
      (maxCells : Int) (plan : MutationMatrixPlan),
      buildMutationMatrix repr sha256 family maxCells = .ok plan → plan.dimensions.Nodup →
      plan.controls.Nodup →
        plan.cells.length = min maxCells.toNat (count (valueLists plan.dimensions)) ∧
        (plan.cells.map (·.cellId.val)).Nodup ∧
        (plan.cells.Pairwise fun cell other =>
          ∃ dimension ∈ plan.dimensions, cell.value dimension ≠ other.value dimension) ∧
        ValuesOccur plan.cells plan.dimensions ∧
        (count (valueLists plan.dimensions) ≤ maxCells.toNat →
          ∀ dimension ∈ plan.dimensions, ControlsPaired plan.cells plan.controls dimension) := by
  intro h
  obtain ⟨plan, hbuild, hdimensions, hcontrols⟩ := sqli_build (fun _ => []) Reasoning.markDigest
  obtain ⟨-, -, -, hoccur, -⟩ := h _ _ _ _ plan hbuild (by rw [hdimensions]; decide)
    (by rw [hcontrols]; decide)
  obtain ⟨dimensions, controls, hdims, -, hfilled⟩ := filled_of_build hbuild
  have hfirst : dimensions.val = "input_vector".toList ::
      ["encoding".toList, "parser_delta".toList] := by
    rw [← hdims, hdimensions]
    rfl
  rw [hdims] at hoccur
  have hnodup : dimensions.val.Nodup := by
    rw [hfirst]
    decide
  exact absurd ((hfilled.valuesOccur_iff hnodup hfirst).mp hoccur) (by decide)

end Zest.MutationMatrix
