/-! # Code that raises

Python code that may raise is here a function into `Except`, written with `do`.
These are the inversions of such code that succeeds.
-/
namespace Zest

variable {ε α β γ : Type}

/-- A computation that goes through has gone through each of its parts. -/
theorem bind_eq_ok {x : Except ε α} {f : α → Except ε β} {b : β} (h : (x >>= f) = .ok b) :
    ∃ a, x = .ok a ∧ f a = .ok b := by
  cases x with
  | error e => cases h
  | ok a => exact ⟨a, rfl, h⟩

theorem ok_bind (a : α) (f : α → Except ε β) : (Except.ok a >>= f) = f a := rfl

/-- What a loop has collected is what its body made of the items. -/
theorem mem_of_mapM_eq_ok {f : α → Except ε β} {items : List α} {made : List β}
    (h : items.mapM f = .ok made) {b : β} (hb : b ∈ made) : ∃ a ∈ items, f a = .ok b := by
  induction items generalizing made with
  | nil =>
    cases h
    cases hb
  | cons item rest ih =>
    rw [List.mapM_cons] at h
    obtain ⟨first, hfirst, h⟩ := bind_eq_ok h
    obtain ⟨others, hothers, h⟩ := bind_eq_ok h
    cases h
    rcases List.mem_cons.mp hb with rfl | hb
    · exact ⟨item, List.mem_cons_self, hfirst⟩
    · obtain ⟨a, ha, hmade⟩ := ih hothers hb
      exact ⟨a, List.mem_cons_of_mem _ ha, hmade⟩

/-- What the body of a loop makes of an item is collected. -/
theorem mem_made_of_mapM_eq_ok {f : α → Except ε β} {items : List α} {made : List β}
    (h : items.mapM f = .ok made) {a : α} {b : β} (ha : a ∈ items) (hb : f a = .ok b) :
    b ∈ made := by
  induction items generalizing made with
  | nil => cases ha
  | cons item rest ih =>
    rw [List.mapM_cons] at h
    obtain ⟨first, hfirst, h⟩ := bind_eq_ok h
    obtain ⟨others, hothers, h⟩ := bind_eq_ok h
    cases h
    rcases List.mem_cons.mp ha with rfl | ha
    · rw [hfirst] at hb
      exact Except.ok.inj hb ▸ List.mem_cons_self
    · exact List.mem_cons_of_mem _ (ih hothers ha)

/-- A loop collects as much as it has been given. -/
theorem length_of_mapM_eq_ok {f : α → Except ε β} {items : List α} {made : List β}
    (h : items.mapM f = .ok made) : made.length = items.length := by
  induction items generalizing made with
  | nil =>
    cases h
    rfl
  | cons item rest ih =>
    rw [List.mapM_cons] at h
    obtain ⟨first, -, h⟩ := bind_eq_ok h
    obtain ⟨others, hothers, h⟩ := bind_eq_ok h
    cases h
    rw [List.length_cons, List.length_cons, ih hothers]

/-- A loop raises what its body raises on an item. -/
theorem exists_of_mapM_eq_error {f : α → Except ε β} {items : List α} {e : ε}
    (h : items.mapM f = .error e) : ∃ a ∈ items, f a = .error e := by
  induction items with
  | nil => cases h
  | cons item rest ih =>
    rw [List.mapM_cons] at h
    cases hitem : f item with
    | error raised =>
      rw [hitem] at h
      obtain rfl : raised = e := Except.error.inj h
      exact ⟨item, List.mem_cons_self, hitem⟩
    | ok first =>
      rw [hitem, ok_bind] at h
      cases hrest : rest.mapM f with
      | error raised =>
        rw [hrest] at h
        obtain rfl : raised = e := Except.error.inj h
        obtain ⟨a, ha, hraised⟩ := ih hrest
        exact ⟨a, List.mem_cons_of_mem _ ha, hraised⟩
      | ok others =>
        rw [hrest] at h
        cases h

/-- A loop that goes through has gone through for every item. -/
theorem exists_of_mapM_eq_ok {f : α → Except ε β} {items : List α} {made : List β}
    (h : items.mapM f = .ok made) : ∀ a ∈ items, ∃ b, f a = .ok b := by
  induction items generalizing made with
  | nil => simp
  | cons item rest ih =>
    rw [List.mapM_cons] at h
    obtain ⟨first, hfirst, h⟩ := bind_eq_ok h
    obtain ⟨others, hothers, -⟩ := bind_eq_ok h
    intro a ha
    rcases List.mem_cons.mp ha with rfl | ha
    · exact ⟨first, hfirst⟩
    · exact ih hothers a ha

/-- A loop goes through where its body does. -/
theorem mapM_eq_ok_of_forall {f : α → Except ε β} {items : List α}
    (h : ∀ a ∈ items, ∃ b, f a = .ok b) : ∃ made, items.mapM f = .ok made := by
  induction items with
  | nil => exact ⟨[], rfl⟩
  | cons item rest ih =>
    obtain ⟨hitem, hrest⟩ := List.forall_mem_cons.mp h
    obtain ⟨first, hfirst⟩ := hitem
    obtain ⟨others, hothers⟩ := ih hrest
    refine ⟨first :: others, ?_⟩
    rw [List.mapM_cons, hfirst, hothers]
    rfl

/-- What holds between the items of a loop passes on to what it collects. -/
theorem pairwise_of_mapM_eq_ok {f : α → Except ε β} {R : α → α → Prop} {S : β → β → Prop}
    {items : List α} {made : List β} (h : items.mapM f = .ok made) (hitems : items.Pairwise R)
    (hstep : ∀ a a' b b', R a a' → f a = .ok b → f a' = .ok b' → S b b') : made.Pairwise S := by
  induction items generalizing made with
  | nil =>
    cases h
    exact List.Pairwise.nil
  | cons item rest ih =>
    obtain ⟨hfrom, hrest⟩ := List.pairwise_cons.mp hitems
    rw [List.mapM_cons] at h
    obtain ⟨first, hfirst, h⟩ := bind_eq_ok h
    obtain ⟨others, hothers, h⟩ := bind_eq_ok h
    cases h
    refine List.pairwise_cons.mpr ⟨fun b hb => ?_, ih hothers hrest⟩
    obtain ⟨a, ha, hmade⟩ := mem_of_mapM_eq_ok hothers hb
    exact hstep item a first b (hfrom a ha) hfirst hmade

/-- Loops within a loop are one loop over the pairs. -/
theorem mapM_pairs {κ : Type} {key : α → κ} {inner : α → List β} {f : κ → β → Except ε γ}
    {items : List α} {lists : List (List γ)}
    (h : items.mapM (fun a => (inner a).mapM (f (key a))) = .ok lists) :
    (items.flatMap fun a => (inner a).map fun b => (key a, b)).mapM
      (fun pair => f pair.1 pair.2) = .ok lists.flatten := by
  induction items generalizing lists with
  | nil =>
    cases h
    rfl
  | cons item rest ih =>
    rw [List.mapM_cons] at h
    obtain ⟨first, hfirst, h⟩ := bind_eq_ok h
    obtain ⟨others, hothers, h⟩ := bind_eq_ok h
    cases h
    have hitem : (inner item).mapM
        ((fun pair : κ × β => f pair.1 pair.2) ∘ fun b => (key item, b)) = .ok first := hfirst
    rw [List.flatMap_cons, List.mapM_append, List.mapM_map, hitem, ok_bind, ih hothers]
    rfl

end Zest
