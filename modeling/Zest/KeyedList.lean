import Mathlib.Algebra.BigOperators.Group.List.Basic
import Mathlib.Algebra.Order.Monoid.Defs
import Mathlib.Data.List.Induction
import Mathlib.Data.List.Nodup

/-! # Lists with keys

A list in which an item with a key that is there already is merged into the
item that has it, and any other item goes to the end: a dictionary that
remembers its order, where `merge` says what becomes of a value that is set
twice.  What is under a key after a run of insertions depends on the insertions
under this key alone, in their order.
-/
namespace KeyedList

variable {ν α : Type} [DecidableEq α] (key : ν → α) (merge : ν → ν → ν)

/-- An item is merged into the one with its key, or put at the end. -/
def upsert : List ν → ν → List ν
  | [], item => [item]
  | old :: rest, item =>
    if key old = key item then merge old item :: rest else old :: upsert rest item

/-- What is under a key. -/
def get (items : List ν) (k : α) : Option ν := items.find? fun item => key item = k

/-- One insertion after another. -/
def collect (items : List ν) : List ν := items.foldl (upsert key merge) []

/-- Items under one key, merged in their order. -/
def mergeAll : List ν → Option ν
  | [] => none
  | item :: rest => some (rest.foldl merge item)

variable {key merge}

theorem get_eq_some {items : List ν} {k : α} {item : ν} (h : get key items k = some item) :
    item ∈ items ∧ key item = k :=
  ⟨List.mem_of_find?_eq_some h, by simpa using List.find?_some h⟩

/-- A merged item keeps its key. -/
def KeepsKey (key : ν → α) (merge : ν → ν → ν) : Prop :=
  ∀ old item, key old = key item → key (merge old item) = key old

theorem mem_keys_upsert (hkeeps : KeepsKey key merge) (items : List ν) (item : ν) (k : α) :
    k ∈ (upsert key merge items item).map key ↔ k ∈ items.map key ∨ k = key item := by
  induction items with
  | nil => simp [upsert]
  | cons old rest ih =>
    unfold upsert
    split
    next h =>
      rw [List.map_cons, List.map_cons, hkeeps old item h, List.mem_cons]
      constructor
      · exact Or.inl
      · rintro (hk | hk)
        · exact hk
        · exact Or.inl (hk.trans h.symm)
    next h =>
      rw [List.map_cons, List.map_cons, List.mem_cons, List.mem_cons, ih, or_assoc]

/-- An item that takes the place of another one leaves the rest alone. -/
theorem mem_upsert_overwrite {items : List ν} {item other : ν}
    (h : other ∈ upsert key (fun _ item => item) items item) : other ∈ items ∨ other = item := by
  induction items with
  | nil => exact Or.inr (List.mem_singleton.mp h)
  | cons old rest ih =>
    unfold upsert at h
    split at h
    · rcases List.mem_cons.mp h with h | h
      · exact Or.inr h
      · exact Or.inl (List.mem_cons_of_mem _ h)
    · rcases List.mem_cons.mp h with h | h
      · exact Or.inl (h ▸ List.mem_cons_self)
      · exact (ih h).imp_left (List.mem_cons_of_mem _)

theorem nodup_upsert (hkeeps : KeepsKey key merge) {items : List ν} (item : ν)
    (h : (items.map key).Nodup) : ((upsert key merge items item).map key).Nodup := by
  induction items with
  | nil => simp [upsert]
  | cons old rest ih =>
    obtain ⟨hold, hrest⟩ := List.nodup_cons.mp h
    unfold upsert
    split
    next hkey =>
      rw [List.map_cons, hkeeps old item hkey]
      exact List.nodup_cons.mpr ⟨hold, hrest⟩
    next hkey =>
      refine List.nodup_cons.mpr ⟨fun hmem => ?_, ih hrest⟩
      rcases (mem_keys_upsert hkeeps rest item _).mp hmem with hmem | hmem
      · exact hold hmem
      · exact hkey hmem

theorem nodup_foldl_upsert (hkeeps : KeepsKey key merge) {items : List ν} (more : List ν)
    (h : (items.map key).Nodup) : ((more.foldl (upsert key merge) items).map key).Nodup := by
  induction more generalizing items with
  | nil => exact h
  | cons item more ih => exact ih (nodup_upsert hkeeps item h)

/-- What holds of the items, and of what becomes of two of them under one key,
holds of the collection. -/
theorem forall_collect {P : ν → Prop} {items : List ν} (hitems : ∀ item ∈ items, P item)
    (hmerge : ∀ old item, key old = key item → P old → P item → P (merge old item)) :
    ∀ item ∈ collect key merge items, P item := by
  have hupsert : ∀ (olds : List ν) (item : ν), (∀ old ∈ olds, P old) → P item →
      ∀ other ∈ upsert key merge olds item, P other := by
    intro olds item holds hitem
    induction olds with
    | nil =>
      intro other hother
      rw [List.mem_singleton.mp hother]
      exact hitem
    | cons old rest ih =>
      obtain ⟨hold, hrest⟩ := List.forall_mem_cons.mp holds
      intro other hother
      unfold upsert at hother
      split at hother
      next hkey =>
        rcases List.mem_cons.mp hother with rfl | hother
        · exact hmerge old item hkey hold hitem
        · exact hrest other hother
      next =>
        rcases List.mem_cons.mp hother with rfl | hother
        · exact hold
        · exact ih hrest other hother
  induction items using List.reverseRecOn with
  | nil => exact fun item hitem => by cases hitem
  | append_singleton items item ih =>
    unfold collect at ih ⊢
    rw [List.foldl_append, List.foldl_cons, List.foldl_nil]
    exact hupsert _ item (ih fun other hother => hitems other (List.mem_append_left _ hother))
      (hitems item (List.mem_append_right _ List.mem_cons_self))

/-- What is under a key after an insertion. -/
theorem get_upsert (hkeeps : KeepsKey key merge) (items : List ν) (item : ν) (k : α) :
    get key (upsert key merge items item) k =
      if key item = k then
        some (match get key items k with
          | none => item
          | some old => merge old item)
      else get key items k := by
  induction items with
  | nil =>
    by_cases hk : key item = k
    · simp [upsert, get, hk]
    · simp [upsert, get, hk]
  | cons old rest ih =>
    unfold upsert
    by_cases hsame : key old = key item
    · rw [if_pos hsame]
      by_cases hk : key item = k
      · have hold : key old = k := hsame.trans hk
        simp [get, hk, hold, hkeeps old item hsame]
      · have hold : key old ≠ k := fun h => hk (hsame.symm.trans h)
        simp [get, hk, hold, hkeeps old item hsame]
    · rw [if_neg hsame]
      by_cases hold : key old = k
      · have hk : key item ≠ k := fun h => hsame (hold.trans h.symm)
        simp [get, hk, hold]
      · unfold get at ih ⊢
        rw [List.find?_cons_of_neg (by simpa using hold),
          List.find?_cons_of_neg (by simpa using hold)]
        exact ih

theorem mergeAll_append_singleton (items : List ν) (item : ν) :
    mergeAll merge (items ++ [item]) =
      some (match mergeAll merge items with
        | none => item
        | some old => merge old item) := by
  cases items with
  | nil => rfl
  | cons first rest =>
    show some ((rest ++ [item]).foldl merge first) = _
    rw [List.foldl_append]
    rfl

/-- Where a later item takes the place of an earlier one, the last is left. -/
theorem mergeAll_overwrite (items : List ν) :
    mergeAll (fun _ item => item) items = items.getLast? := by
  induction items using List.reverseRecOn with
  | nil => rfl
  | append_singleton items item ih =>
    rw [mergeAll_append_singleton, List.getLast?_append, List.getLast?_singleton]
    cases mergeAll (fun _ item => item) items <;> rfl

/-- **What is under a key** is what was inserted under it, merged. -/
theorem get_collect (hkeeps : KeepsKey key merge) (items : List ν) (k : α) :
    get key (collect key merge items) k =
      mergeAll merge (items.filter fun item => key item = k) := by
  induction items using List.reverseRecOn with
  | nil => rfl
  | append_singleton items item ih =>
    unfold collect at ih ⊢
    rw [List.foldl_append, List.foldl_cons, List.foldl_nil, get_upsert hkeeps, ih,
      List.filter_append]
    by_cases hk : key item = k
    · rw [if_pos hk, List.filter_cons_of_pos (by simpa using hk), List.filter_nil,
        mergeAll_append_singleton]
    · rw [if_neg hk, List.filter_cons_of_neg (by simpa using hk), List.filter_nil,
        List.append_nil]

theorem mem_keys_collect (hkeeps : KeepsKey key merge) (items : List ν) (k : α) :
    k ∈ (collect key merge items).map key ↔ k ∈ items.map key := by
  induction items using List.reverseRecOn with
  | nil => rfl
  | append_singleton items item ih =>
    unfold collect at ih ⊢
    rw [List.foldl_append, List.foldl_cons, List.foldl_nil, mem_keys_upsert hkeeps, ih,
      List.map_append, List.mem_append, List.map_singleton, List.mem_singleton]

theorem nodup_collect (hkeeps : KeepsKey key merge) (items : List ν) :
    ((collect key merge items).map key).Nodup :=
  nodup_foldl_upsert hkeeps items List.nodup_nil

/-- Items that can be merged in any order. -/
theorem mergeAll_perm {items others : List ν}
    (hright : ∀ b ∈ items, ∀ c ∈ items, ∀ a, merge (merge a b) c = merge (merge a c) b)
    (h : items.Perm others) (hcomm : ∀ a ∈ items, ∀ b ∈ items, merge a b = merge b a) :
    mergeAll merge items = mergeAll merge others := by
  induction h with
  | nil => rfl
  | cons a h ih =>
    exact congrArg some (h.foldl_eq' (fun b hb c hc => hright b (List.mem_cons_of_mem _ hb) c
      (List.mem_cons_of_mem _ hc)) a)
  | swap a b rest =>
    show some (rest.foldl merge (merge b a)) = some (rest.foldl merge (merge a b))
    rw [hcomm b List.mem_cons_self a (List.mem_cons_of_mem _ List.mem_cons_self)]
  | trans h _ ih ih' =>
    exact (ih hright hcomm).trans (ih'
      (fun b hb c hc => hright b (h.mem_iff.mpr hb) c (h.mem_iff.mpr hc))
      fun a ha b hb => hcomm a (h.mem_iff.mpr ha) b (h.mem_iff.mpr hb))

/-- Two items under one key that come one after the other can be merged first. -/
theorem upsert_upsert (hkeeps : KeepsKey key merge)
    (hassoc : ∀ a b c, merge (merge a b) c = merge a (merge b c)) {a b : ν}
    (hkey : key a = key b) (items : List ν) :
    upsert key merge (upsert key merge items a) b = upsert key merge items (merge a b) := by
  induction items with
  | nil => simp [upsert, hkey]
  | cons old rest ih =>
    have hab : key (merge a b) = key a := hkeeps a b hkey
    by_cases h : key old = key a
    · have hold : key (merge old a) = key b := (hkeeps old a h).trans (h.trans hkey)
      simp [upsert, h, hab, hold, hassoc]
    · have hold : key old ≠ key b := fun h' => h (h'.trans hkey.symm)
      simp [upsert, h, hab, hold, ih]

theorem collect_join (hkeeps : KeepsKey key merge)
    (hassoc : ∀ a b c, merge (merge a b) c = merge a (merge b c)) {a b : ν}
    (hkey : key a = key b) (before after : List ν) :
    collect key merge (before ++ a :: b :: after) =
      collect key merge (before ++ merge a b :: after) := by
  unfold collect
  rw [List.foldl_append, List.foldl_append, List.foldl_cons, List.foldl_cons, List.foldl_cons,
    upsert_upsert hkeeps hassoc hkey]

section Sums

variable {M : Type} [AddCommMonoid M] [PartialOrder M] [IsOrderedAddMonoid M] {f : ν → M}

/-- A measure that a merge does not lower grows by that of the item at least. -/
theorem sum_map_le_upsert {items : List ν} {item : ν}
    (hmerge : ∀ old ∈ items, key old = key item → f old + f item ≤ f (merge old item)) :
    (items.map f).sum + f item ≤ ((upsert key merge items item).map f).sum := by
  induction items with
  | nil => simp [upsert]
  | cons old rest ih =>
    obtain ⟨hold, hrest⟩ := List.forall_mem_cons.mp hmerge
    rw [upsert, List.map_cons, List.sum_cons]
    by_cases h : key old = key item
    · rw [if_pos h, List.map_cons, List.sum_cons, add_right_comm]
      exact add_le_add_left (hold h) _
    · rw [if_neg h, List.map_cons, List.sum_cons, add_assoc]
      exact add_le_add_right (ih hrest) _

/-- It is as large on the collection as on the items. -/
theorem sum_map_le_collect {items : List ν}
    (hmerge : ∀ before item, before ++ [item] <+: items → ∀ old ∈ collect key merge before,
      key old = key item → f old + f item ≤ f (merge old item)) :
    (items.map f).sum ≤ ((collect key merge items).map f).sum := by
  induction items using List.reverseRecOn with
  | nil => exact le_rfl
  | append_singleton items item ih =>
    have hitems := ih fun before other h =>
      hmerge before other (h.trans (List.prefix_append items [item]))
    have hitem := sum_map_le_upsert (hmerge items item (List.prefix_refl _))
    rw [List.map_append, List.sum_append, List.map_singleton, List.sum_singleton]
    refine (add_le_add_left hitems _).trans ?_
    unfold collect at hitem ⊢
    rw [List.foldl_append, List.foldl_cons, List.foldl_nil]
    exact hitem

end Sums

theorem upsert_map {g : ν → ν} {items : List ν} {item : ν}
    (hkey : ∀ old ∈ items, key (g old) = key (g item) ↔ key old = key item)
    (hmerge : ∀ a b, g (merge a b) = merge (g a) (g b)) :
    (upsert key merge items item).map g = upsert key merge (items.map g) (g item) := by
  induction items with
  | nil => rfl
  | cons old rest ih =>
    obtain ⟨hold, hrest⟩ := List.forall_mem_cons.mp hkey
    rw [List.map_cons, upsert, upsert]
    by_cases h : key old = key item
    · rw [if_pos h, if_pos (hold.mpr h), List.map_cons, hmerge]
    · rw [if_neg h, if_neg fun h' => h (hold.mp h'), List.map_cons, ih hrest]

/-- A change of the keys that keeps them apart can be made before or after. -/
theorem collect_map (hkeeps : KeepsKey key merge) {g : ν → ν} {rename : α → α} {items : List ν}
    (hrename : ∀ item, key (g item) = rename (key item))
    (hinj : ∀ a ∈ items, ∀ b ∈ items, rename (key a) = rename (key b) → key a = key b)
    (hmerge : ∀ a b, g (merge a b) = merge (g a) (g b)) :
    (collect key merge items).map g = collect key merge (items.map g) := by
  induction items using List.reverseRecOn with
  | nil => rfl
  | append_singleton items item ih =>
    have hitems : (collect key merge items).map g = collect key merge (items.map g) :=
      ih fun a ha b hb => hinj a (List.mem_append_left _ ha) b (List.mem_append_left _ hb)
    unfold collect at hitems ⊢
    rw [List.map_append, List.foldl_append, List.foldl_append, List.foldl_cons, List.foldl_nil,
      upsert_map ?_ hmerge, hitems]
    · rfl
    · intro old hold
      obtain ⟨source, hsource, hsame⟩ := List.mem_map.mp
        ((mem_keys_collect hkeeps items _).mp (List.mem_map_of_mem hold))
      rw [hrename, hrename, ← hsame]
      exact ⟨hinj source (List.mem_append_left _ hsource) item (List.mem_append_right _
        List.mem_cons_self), fun h => congrArg rename h⟩

/-- In a list of distinct keys, what is under the key of an item is the item. -/
theorem get_of_mem {items : List ν} (hnodup : (items.map key).Nodup) {item : ν}
    (h : item ∈ items) : get key items (key item) = some item := by
  induction items with
  | nil => cases h
  | cons first rest ih =>
    obtain ⟨hfirst, hrest⟩ := List.nodup_cons.mp hnodup
    unfold get at ih ⊢
    rcases List.mem_cons.mp h with rfl | h
    · exact List.find?_cons_of_pos (by simp)
    · have hne : key first ≠ key item := fun heq => hfirst (heq ▸ List.mem_map_of_mem h)
      rw [List.find?_cons_of_neg (by simpa using hne)]
      exact ih hrest h

theorem mem_iff_get {items : List ν} (hnodup : (items.map key).Nodup) (item : ν) :
    item ∈ items ↔ get key items (key item) = some item :=
  ⟨get_of_mem hnodup, fun h => (get_eq_some h).1⟩

/-- **Two lists of distinct keys** with the same under each key are the same up
to order. -/
theorem perm_of_get {items others : List ν} (hitems : (items.map key).Nodup)
    (hothers : (others.map key).Nodup) (h : ∀ k, get key items k = get key others k) :
    items.Perm others := by
  refine (List.perm_ext_iff_of_nodup hitems.of_map hothers.of_map).mpr fun item => ?_
  rw [mem_iff_get hitems, mem_iff_get hothers, h]

/-- What is under a key does not depend on the order of the items. -/
theorem get_perm {items others : List ν} (h : items.Perm others)
    (hnodup : (items.map key).Nodup) (k : α) : get key items k = get key others k := by
  have hothers : (others.map key).Nodup := (h.map key).nodup_iff.mp hnodup
  ext item
  constructor
  · intro hget
    obtain ⟨hmem, rfl⟩ := get_eq_some hget
    exact get_of_mem hothers (h.mem_iff.mp hmem)
  · intro hget
    obtain ⟨hmem, rfl⟩ := get_eq_some hget
    exact get_of_mem hnodup (h.mem_iff.mpr hmem)

/-- **The order of the insertions** is that of the collection alone, where items
under one key can be merged in any order. -/
theorem collect_perm (hkeeps : KeepsKey key merge) {items others : List ν}
    (hright : ∀ b ∈ items, ∀ c ∈ items, key b = key c →
      ∀ a, merge (merge a b) c = merge (merge a c) b)
    (hcomm : ∀ a ∈ items, ∀ b ∈ items, key a = key b → merge a b = merge b a)
    (h : items.Perm others) : (collect key merge items).Perm (collect key merge others) := by
  refine perm_of_get (nodup_collect hkeeps items) (nodup_collect hkeeps others) fun k => ?_
  rw [get_collect hkeeps, get_collect hkeeps]
  have hunder : ∀ item ∈ items.filter (fun item => key item = k), item ∈ items ∧ key item = k :=
    fun item hitem => by simpa using hitem
  refine mergeAll_perm (fun b hb c hc => ?_) (h.filter _) fun a ha b hb => ?_
  · obtain ⟨hb, hkb⟩ := hunder b hb
    obtain ⟨hc, hkc⟩ := hunder c hc
    exact hright b hb c hc (hkb.trans hkc.symm)
  · obtain ⟨ha, hka⟩ := hunder a ha
    obtain ⟨hb, hkb⟩ := hunder b hb
    exact hcomm a ha b hb (hka.trans hkb.symm)

end KeyedList
