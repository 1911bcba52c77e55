import Mathlib.Data.Nat.Find
import Mathlib.Order.Defs.Unbundled

/-! # Sequences of components of any length

Two sequences are compared at the first component in which they differ, and
components that are not written are the least there is.  Then sequences that
differ in trailing least components are the same, and up to that the order is
total.

The order of a dictionary puts a proper prefix first.  The two orders disagree on
sequences that are the same and not of one length, and nowhere else
(`lex_iff`).
-/
namespace PaddedOrder

variable {α : Type} (lt : α → α → Prop) (least : α)

/-- A component; one that is not written is the least. -/
def component (v : List α) (i : Nat) : α := v.getD i least

/-- The same components, however many of them are written. -/
def Same (v w : List α) : Prop := ∀ i, component least v i = component least w i

/-- The first component in which they differ is smaller. -/
def Below (v w : List α) : Prop :=
  ∃ i, (∀ j < i, component least v j = component least w j) ∧
    lt (component least v i) (component least w i)

variable {lt} {least}

theorem same_refl (v : List α) : Same least v v := fun _ => rfl

theorem Same.symm {v w : List α} (h : Same least v w) : Same least w v := fun i => (h i).symm

theorem same_cons_iff {x y : α} {v w : List α} :
    Same least (x :: v) (y :: w) ↔ x = y ∧ Same least v w := by
  constructor
  · intro h
    exact ⟨h 0, fun i => h (i + 1)⟩
  · rintro ⟨hhead, htail⟩ i
    cases i with
    | zero => exact hhead
    | succ i => exact htail i

theorem same_nil_cons_iff {y : α} {w : List α} :
    Same least [] (y :: w) ↔ y = least ∧ Same least [] w := by
  constructor
  · intro h
    exact ⟨(h 0).symm, fun i => h (i + 1)⟩
  · rintro ⟨hhead, htail⟩ i
    cases i with
    | zero => exact hhead.symm
    | succ i => exact htail i

theorem below_cons_iff {x y : α} {v w : List α} :
    Below lt least (x :: v) (y :: w) ↔ lt x y ∨ x = y ∧ Below lt least v w := by
  constructor
  · rintro ⟨i, hbefore, hat⟩
    cases i with
    | zero => exact Or.inl hat
    | succ i =>
      exact Or.inr ⟨hbefore 0 (Nat.succ_pos i), i,
        fun j hj => hbefore (j + 1) (Nat.succ_lt_succ hj), hat⟩
  · rintro (hhead | ⟨rfl, i, hbefore, hat⟩)
    · exact ⟨0, fun j hj => absurd hj (Nat.not_lt_zero j), hhead⟩
    · refine ⟨i + 1, fun j hj => ?_, hat⟩
      cases j with
      | zero => rfl
      | succ j => exact hbefore j (Nat.lt_of_succ_lt_succ hj)

/-- Sequences of one length are the same only if they are equal. -/
theorem eq_iff {v w : List α} : v = w ↔ Same least v w ∧ v.length = w.length := by
  induction v generalizing w with
  | nil =>
    cases w with
    | nil => simp [same_refl]
    | cons y w => simp
  | cons x v ih =>
    cases w with
    | nil => simp
    | cons y w =>
      rw [List.cons.injEq, ih, same_cons_iff, List.length_cons, List.length_cons]
      constructor
      · rintro ⟨hhead, htail, hlength⟩
        exact ⟨⟨hhead, htail⟩, congrArg Nat.succ hlength⟩
      · rintro ⟨⟨hhead, htail⟩, hlength⟩
        exact ⟨hhead, htail, Nat.succ.inj hlength⟩

/-! ## The order is total -/

section Total

variable [IsStrictTotalOrder α lt]

omit [IsStrictTotalOrder α lt] in
theorem Same.not_below [Std.Irrefl lt] {v w : List α} (h : Same least v w) :
    ¬ Below lt least v w := by
  rintro ⟨i, -, hat⟩
  rw [h i] at hat
  exact irrefl_of lt _ hat

theorem Below.trans {u v w : List α} (h : Below lt least u v) (h' : Below lt least v w) :
    Below lt least u w := by
  obtain ⟨i, hbefore, hat⟩ := h
  obtain ⟨k, hbefore', hat'⟩ := h'
  rcases Nat.lt_trichotomy i k with hlt | rfl | hgt
  · refine ⟨i, fun j hj => (hbefore j hj).trans (hbefore' j (Nat.lt_trans hj hlt)), ?_⟩
    rw [← hbefore' i hlt]
    exact hat
  · exact ⟨i, fun j hj => (hbefore j hj).trans (hbefore' j hj), trans_of lt hat hat'⟩
  · refine ⟨k, fun j hj => (hbefore j (Nat.lt_trans hj hgt)).trans (hbefore' j hj), ?_⟩
    rw [hbefore k hgt]
    exact hat'

theorem Below.asymm {v w : List α} (h : Below lt least v w) : ¬ Below lt least w v :=
  fun h' => (same_refl v).not_below (h.trans h')

/-- **Total up to sameness**: of two sequences one is below the other, or they are
the same. -/
theorem trichotomy (v w : List α) :
    Below lt least v w ∨ Same least v w ∨ Below lt least w v := by
  classical
  by_cases hsame : Same least v w
  · exact Or.inr (Or.inl hsame)
  · have hdiffer : ∃ i, component least v i ≠ component least w i := by
      by_contra hnone
      exact hsame fun i => by_contra fun hi => hnone ⟨i, hi⟩
    have hbefore : ∀ j < Nat.find hdiffer, component least v j = component least w j :=
      fun j hj => by_contra (Nat.find_min hdiffer hj)
    rcases trichotomous_of lt (component least v (Nat.find hdiffer))
      (component least w (Nat.find hdiffer)) with hlt | heq | hgt
    · exact Or.inl ⟨_, hbefore, hlt⟩
    · exact absurd heq (Nat.find_spec hdiffer)
    · exact Or.inr (Or.inr ⟨_, fun j hj => (hbefore j hj).symm, hgt⟩)

/-! ## The order of a dictionary -/

theorem not_below_nil (hleast : ∀ a, a = least ∨ lt least a) (v : List α) :
    ¬ Below lt least v [] := by
  rintro ⟨i, -, hat⟩
  have hbelow : lt (component least v i) least := hat
  rcases hleast (component least v i) with heq | hlt
  · rw [heq] at hbelow
    exact irrefl_of lt _ hbelow
  · exact irrefl_of lt _ (trans_of lt hlt hbelow)

/-- **Where the two orders disagree**: a sequence comes first in the dictionary if it
is below, or if it is the same and shorter. -/
theorem lex_iff (hleast : ∀ a, a = least ∨ lt least a) {v w : List α} :
    List.Lex lt v w ↔ Below lt least v w ∨ Same least v w ∧ v.length < w.length := by
  induction v generalizing w with
  | nil =>
    cases w with
    | nil =>
      constructor
      · rintro ⟨⟩
      · rintro (hbelow | ⟨-, hlength⟩)
        · exact absurd hbelow (not_below_nil hleast [])
        · exact absurd hlength (Nat.lt_irrefl _)
    | cons y w =>
      refine ⟨fun _ => ?_, fun _ => List.Lex.nil⟩
      have hcases : Below lt least [] (y :: w) ∨ Same least [] (y :: w) ∨
          Below lt least (y :: w) [] := trichotomy [] (y :: w)
      rcases hcases with hbelow | hsame | habove
      · exact Or.inl hbelow
      · exact Or.inr ⟨hsame, Nat.succ_pos _⟩
      · exact absurd habove (not_below_nil hleast _)
  | cons x v ih =>
    cases w with
    | nil =>
      constructor
      · rintro ⟨⟩
      · rintro (hbelow | ⟨-, hlength⟩)
        · exact absurd hbelow (not_below_nil hleast _)
        · exact absurd hlength (Nat.not_lt_zero _)
    | cons y w =>
      rw [below_cons_iff, same_cons_iff, List.length_cons, List.length_cons]
      constructor
      · rintro (_ | hhead | htail)
        · exact Or.inl (Or.inl hhead)
        · rcases ih.mp htail with hbelow | ⟨hsame, hlength⟩
          · exact Or.inl (Or.inr ⟨rfl, hbelow⟩)
          · exact Or.inr ⟨⟨rfl, hsame⟩, Nat.succ_lt_succ hlength⟩
      · rintro ((hhead | ⟨rfl, hbelow⟩) | ⟨⟨rfl, hsame⟩, hlength⟩)
        · exact List.Lex.rel hhead
        · exact List.Lex.cons (ih.mpr (Or.inl hbelow))
        · exact List.Lex.cons (ih.mpr (Or.inr ⟨hsame, Nat.lt_of_succ_lt_succ hlength⟩))

/-- **When the two orders agree** on two sequences: if these are not the same, or are
written with one length. -/
theorem agree_iff (hleast : ∀ a, a = least ∨ lt least a) {v w : List α} :
    ((List.Lex lt v w ↔ Below lt least v w) ∧ (List.Lex lt w v ↔ Below lt least w v) ∧
      (v = w ↔ Same least v w)) ↔ (Same least v w → v.length = w.length) := by
  constructor
  · rintro ⟨-, -, heq⟩ hsame
    rw [heq.mpr hsame]
  · intro h
    refine ⟨?_, ?_, ?_⟩
    · rw [lex_iff hleast]
      constructor
      · rintro (hbelow | ⟨hsame, hlength⟩)
        · exact hbelow
        · have hequal := h hsame
          omega
      · exact Or.inl
    · rw [lex_iff hleast]
      constructor
      · rintro (hbelow | ⟨hsame, hlength⟩)
        · exact hbelow
        · have hequal := h hsame.symm
          omega
      · exact Or.inl
    · rw [eq_iff]
      exact ⟨And.left, fun hsame => ⟨hsame, h hsame⟩⟩

end Total
end PaddedOrder
