import Mathlib.Data.List.Nodup
import Mathlib.Data.List.Sort
import Mathlib.Order.Defs.LinearOrder

/-! # Sorting by a key

`sorted(items, key=...)`: the items in the order of their keys, those with one key in
the order they had.  Where no two items have one key, the result does not depend on the
order they came in, and its first item is the one with the least key.
-/
namespace SortByKey

universe u v

variable {α : Type u} {β : Type v} [LinearOrder β]

/-- `sorted(items, key=key)`. -/
def sortBy (key : α → β) (items : List α) : List α :=
  items.insertionSort fun a b => key a ≤ key b

variable {key : α → β} {items others : List α} {item : α}

theorem sortBy_perm (key : α → β) (items : List α) : (sortBy key items).Perm items :=
  List.perm_insertionSort _ _

@[simp] theorem mem_sortBy : item ∈ sortBy key items ↔ item ∈ items :=
  List.mem_insertionSort _

@[simp] theorem length_sortBy : (sortBy key items).length = items.length :=
  List.length_insertionSort _ _

theorem pairwise_sortBy (key : α → β) (items : List α) :
    (sortBy key items).Pairwise fun a b => key a ≤ key b :=
  List.pairwise_insertionSort _ _

/-- Items that are in order stay as they are. -/
theorem sortBy_of_pairwise (h : items.Pairwise fun a b => key a ≤ key b) :
    sortBy key items = items :=
  List.Pairwise.insertionSort_eq h

/-- Two items with one key are one. -/
def KeysApart (key : α → β) (items : List α) : Prop :=
  ∀ a ∈ items, ∀ b ∈ items, key a = key b → a = b

omit [LinearOrder β] in
theorem keysApart_of_nodup (h : (items.map key).Nodup) : KeysApart key items :=
  fun _ ha _ hb hkey => List.inj_on_of_nodup_map h ha hb hkey

/-- **The order the items come in does not matter.** -/
theorem sortBy_congr (hkeys : KeysApart key items) (hperm : items.Perm others) :
    sortBy key items = sortBy key others := by
  refine List.Perm.eq_of_pairwise (fun a b ha hb hab hba => ?_) (pairwise_sortBy key items)
    (pairwise_sortBy key others)
    ((sortBy_perm key items).trans (hperm.trans (sortBy_perm key others).symm))
  have hb' : b ∈ items := hperm.mem_iff.mpr (mem_sortBy.mp hb)
  exact hkeys a (mem_sortBy.mp ha) b hb' (le_antisymm hab hba)

/-- The first item has the least key. -/
theorem le_of_head? (h : (sortBy key items).head? = some item) :
    item ∈ items ∧ ∀ other ∈ items, key item ≤ key other := by
  obtain ⟨rest, hrest⟩ := List.head?_eq_some_iff.mp h
  have hsorted := pairwise_sortBy key items
  have hmem : ∀ other, other ∈ items ↔ other ∈ item :: rest := fun other => by
    rw [← hrest, mem_sortBy]
  rw [hrest] at hsorted
  refine ⟨(hmem item).mpr List.mem_cons_self, fun other hother => ?_⟩
  rcases List.mem_cons.mp ((hmem other).mp hother) with rfl | hrest'
  · exact le_refl _
  · exact (List.pairwise_cons.mp hsorted).1 other hrest'

theorem head?_eq_none : (sortBy key items).head? = none ↔ items = [] := by
  rw [List.head?_eq_none_iff, ← List.length_eq_zero_iff, length_sortBy, List.length_eq_zero_iff]

/-- **The first item is the one with the least key.** -/
theorem head?_eq_some_iff (hkeys : KeysApart key items) :
    (sortBy key items).head? = some item ↔
      item ∈ items ∧ ∀ other ∈ items, key item ≤ key other := by
  refine ⟨le_of_head?, ?_⟩
  rintro ⟨hmem, hleast⟩
  cases hhead : (sortBy key items).head? with
  | none =>
    rw [head?_eq_none.mp hhead] at hmem
    exact absurd hmem List.not_mem_nil
  | some first =>
    obtain ⟨hfirst, hle⟩ := le_of_head? hhead
    exact congrArg some (hkeys first hfirst item hmem
      (le_antisymm (hle item hmem) (hleast first hfirst)))

/-- The last item of a list that is in order is the one with the greatest key. -/
theorem getLast?_eq_some_iff (hsorted : items.Pairwise fun a b => key a ≤ key b)
    (hkeys : KeysApart key items) :
    items.getLast? = some item ↔ item ∈ items ∧ ∀ other ∈ items, key other ≤ key item := by
  have hlast : ∀ last, items.getLast? = some last →
      last ∈ items ∧ ∀ other ∈ items, key other ≤ key last := by
    intro last h
    obtain ⟨rest, rfl⟩ := List.getLast?_eq_some_iff.mp h
    refine ⟨List.mem_append_right _ (List.mem_singleton_self _), fun other hother => ?_⟩
    rcases List.mem_append.mp hother with hother | hother
    · exact (List.pairwise_append.mp hsorted).2.2 other hother last (List.mem_singleton_self _)
    · rw [List.mem_singleton.mp hother]
  refine ⟨hlast item, ?_⟩
  rintro ⟨hmem, hgreatest⟩
  cases h : items.getLast? with
  | none =>
    rw [List.getLast?_eq_none_iff.mp h] at hmem
    exact absurd hmem List.not_mem_nil
  | some last =>
    obtain ⟨hlastmem, hle⟩ := hlast last h
    exact congrArg some (hkeys last hlastmem item hmem
      (le_antisymm (hgreatest last hlastmem) (hle item hmem)))

end SortByKey
