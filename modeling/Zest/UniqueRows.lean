/-! # Rows with unique keys

A store of rows that several transactions write at the same time.  Each row has
keys that no other row may have.  A transaction sees what is committed and what it
has written itself; an insert goes through when nobody has one of the keys, is
refused when somebody the transaction sees has one, and waits for another
transaction that has one and is still open.

A refused insert leaves the transaction as it was, as inside a savepoint.
-/
namespace UniqueRows

universe u v w

variable {ι : Type u} {ρ : Type v} {κ : Type w}

/-- The committed rows, and what each transaction has written. -/
structure RowStore (ι : Type u) (ρ : Type v) where
  committed : List ρ
  pending : ι → List ρ

/-- Two rows have a key in common. -/
def Clash (keys : ρ → List κ) (a b : ρ) : Prop := ∃ k ∈ keys a, k ∈ keys b

instance [DecidableEq κ] (keys : ρ → List κ) (a b : ρ) : Decidable (Clash keys a b) :=
  inferInstanceAs (Decidable (∃ k ∈ keys a, k ∈ keys b))

theorem Clash.symm {keys : ρ → List κ} {a b : ρ} (h : Clash keys a b) : Clash keys b a :=
  let ⟨k, ha, hb⟩ := h
  ⟨k, hb, ha⟩

/-- No two of the rows have a key in common. -/
def Distinct (keys : ρ → List κ) (rows : List ρ) : Prop :=
  rows.Pairwise fun a b => ¬ Clash keys a b

namespace RowStore

/-- What a transaction sees. -/
def visible (s : RowStore ι ρ) (p : ι) : List ρ := s.committed ++ s.pending p

/-- A transaction that has written nothing sees what is committed. -/
theorem visible_of_nil {s : RowStore ι ρ} {p : ι} (h : s.pending p = []) :
    s.visible p = s.committed := by
  rw [visible, h, List.append_nil]

/-- Nobody has a key of the row. -/
structure Free (keys : ρ → List κ) (s : RowStore ι ρ) (row : ρ) : Prop where
  committed : ∀ other ∈ s.committed, ¬ Clash keys other row
  pending : ∀ q, ∀ other ∈ s.pending q, ¬ Clash keys other row

/-- A row that the transaction sees has a key of this one. -/
def Taken (keys : ρ → List κ) (s : RowStore ι ρ) (p : ι) (row : ρ) : Prop :=
  ∃ other ∈ s.visible p, Clash keys other row

/-- Whatever becomes of the open transactions, no two rows have a key in common. -/
structure Sound (keys : ρ → List κ) (s : RowStore ι ρ) : Prop where
  visible : ∀ p, Distinct keys (s.visible p)
  apart : ∀ p q, p ≠ q → ∀ a ∈ s.pending p, ∀ b ∈ s.pending q, ¬ Clash keys a b

variable {keys : ρ → List κ} {s : RowStore ι ρ} {p : ι} {row : ρ}

theorem Sound.committed (h : s.Sound keys) (p : ι) : Distinct keys s.committed :=
  (List.pairwise_append.mp (h.visible p)).1

theorem sound_empty : (⟨[], fun _ => []⟩ : RowStore ι ρ).Sound keys where
  visible _ := List.Pairwise.nil
  apart _ _ _ _ ha := (List.not_mem_nil ha).elim

/-- With a single transaction, only its own rows can be in the way. -/
theorem free_of_alone (hcommitted : s.committed = []) (hothers : ∀ q, q ≠ p → s.pending q = [])
    (hown : ∀ other ∈ s.pending p, ¬ Clash keys other row) : s.Free keys row where
  committed other h := by
    rw [hcommitted] at h
    exact (List.not_mem_nil h).elim
  pending q other h := by
    by_cases hq : q = p
    · subst hq
      exact hown other h
    · rw [hothers q hq] at h
      exact (List.not_mem_nil h).elim

/-! ## Writing -/

variable [DecidableEq ι]

def insert (s : RowStore ι ρ) (p : ι) (row : ρ) : RowStore ι ρ :=
  { s with pending := fun q => if q = p then s.pending p ++ [row] else s.pending q }

def rollback (s : RowStore ι ρ) (p : ι) : RowStore ι ρ :=
  { s with pending := fun q => if q = p then [] else s.pending q }

def commit (s : RowStore ι ρ) (p : ι) : RowStore ι ρ :=
  { committed := s.committed ++ s.pending p
    pending := fun q => if q = p then [] else s.pending q }

@[simp] theorem insert_committed (s : RowStore ι ρ) (p : ι) (row : ρ) :
    (s.insert p row).committed = s.committed := rfl

@[simp] theorem insert_pending_self (s : RowStore ι ρ) (p : ι) (row : ρ) :
    (s.insert p row).pending p = s.pending p ++ [row] := if_pos rfl

theorem insert_pending_ne (s : RowStore ι ρ) {p q : ι} (row : ρ) (h : q ≠ p) :
    (s.insert p row).pending q = s.pending q := if_neg h

@[simp] theorem rollback_committed (s : RowStore ι ρ) (p : ι) :
    (s.rollback p).committed = s.committed := rfl

@[simp] theorem rollback_pending_self (s : RowStore ι ρ) (p : ι) : (s.rollback p).pending p = [] :=
  if_pos rfl

theorem rollback_pending_ne (s : RowStore ι ρ) {p q : ι} (h : q ≠ p) :
    (s.rollback p).pending q = s.pending q := if_neg h

@[simp] theorem commit_committed (s : RowStore ι ρ) (p : ι) :
    (s.commit p).committed = s.committed ++ s.pending p := rfl

@[simp] theorem commit_pending_self (s : RowStore ι ρ) (p : ι) : (s.commit p).pending p = [] :=
  if_pos rfl

theorem commit_pending_ne (s : RowStore ι ρ) {p q : ι} (h : q ≠ p) :
    (s.commit p).pending q = s.pending q := if_neg h

/-! ## What is seen afterwards -/

theorem visible_insert_self (s : RowStore ι ρ) (p : ι) (row : ρ) :
    (s.insert p row).visible p = s.visible p ++ [row] := by
  rw [visible, insert_pending_self, insert_committed, visible, List.append_assoc]

theorem visible_insert_ne (s : RowStore ι ρ) {p q : ι} (row : ρ) (h : q ≠ p) :
    (s.insert p row).visible q = s.visible q := by
  rw [visible, insert_pending_ne s row h, insert_committed, visible]

theorem visible_rollback_self (s : RowStore ι ρ) (p : ι) :
    (s.rollback p).visible p = s.committed := by
  rw [visible, rollback_pending_self, rollback_committed, List.append_nil]

theorem visible_rollback_ne (s : RowStore ι ρ) {p q : ι} (h : q ≠ p) :
    (s.rollback p).visible q = s.visible q := by
  rw [visible, rollback_pending_ne s h, rollback_committed, visible]

theorem visible_commit_self (s : RowStore ι ρ) (p : ι) : (s.commit p).visible p = s.visible p := by
  rw [visible, commit_pending_self, commit_committed, List.append_nil, visible]

theorem visible_commit_ne (s : RowStore ι ρ) {p q : ι} (h : q ≠ p) :
    (s.commit p).visible q = s.visible p ++ s.pending q := by
  rw [visible, commit_pending_ne s h, commit_committed, visible]

/-! ## Every step keeps the keys apart -/

theorem Sound.insert (h : s.Sound keys) (hfree : s.Free keys row) :
    (s.insert p row).Sound keys where
  visible q := by
    by_cases hq : q = p
    · subst hq
      have hsame : (s.insert q row).visible q = s.visible q ++ [row] := by
        rw [RowStore.visible, insert_pending_self, insert_committed, RowStore.visible,
          List.append_assoc]
      rw [hsame]
      refine List.pairwise_append.mpr ⟨h.visible q, List.pairwise_singleton _ _, ?_⟩
      intro a ha b hb
      obtain rfl := List.mem_singleton.mp hb
      rcases List.mem_append.mp ha with ha | ha
      · exact hfree.committed a ha
      · exact hfree.pending q a ha
    · rw [RowStore.visible, insert_pending_ne s row hq]
      exact h.visible q
  apart q r hqr a ha b hb := by
    by_cases hq : q = p
    · subst hq
      rw [insert_pending_ne s row (Ne.symm hqr)] at hb
      rw [insert_pending_self] at ha
      rcases List.mem_append.mp ha with ha | ha
      · exact h.apart q r hqr a ha b hb
      · obtain rfl := List.mem_singleton.mp ha
        exact fun hclash => hfree.pending r b hb hclash.symm
    · rw [insert_pending_ne s row hq] at ha
      by_cases hr : r = p
      · subst hr
        rw [insert_pending_self] at hb
        rcases List.mem_append.mp hb with hb | hb
        · exact h.apart q r hqr a ha b hb
        · obtain rfl := List.mem_singleton.mp hb
          exact hfree.pending q a ha
      · rw [insert_pending_ne s row hr] at hb
        exact h.apart q r hqr a ha b hb

theorem Sound.rollback (h : s.Sound keys) : (s.rollback p).Sound keys where
  visible q := by
    by_cases hq : q = p
    · subst hq
      rw [RowStore.visible, rollback_pending_self, List.append_nil]
      exact h.committed q
    · rw [RowStore.visible, rollback_pending_ne s hq]
      exact h.visible q
  apart q r hqr a ha b hb := by
    by_cases hq : q = p
    · subst hq
      rw [rollback_pending_self] at ha
      exact (List.not_mem_nil ha).elim
    · by_cases hr : r = p
      · subst hr
        rw [rollback_pending_self] at hb
        exact (List.not_mem_nil hb).elim
      · rw [rollback_pending_ne s hq] at ha
        rw [rollback_pending_ne s hr] at hb
        exact h.apart q r hqr a ha b hb

theorem Sound.commit (h : s.Sound keys) : (s.commit p).Sound keys where
  visible q := by
    by_cases hq : q = p
    · subst hq
      rw [RowStore.visible, commit_pending_self, List.append_nil]
      exact h.visible q
    · rw [RowStore.visible, commit_pending_ne s hq]
      obtain ⟨-, hpending, hcross⟩ := List.pairwise_append.mp (h.visible q)
      refine List.pairwise_append.mpr ⟨h.visible p, hpending, ?_⟩
      intro a ha b hb
      rcases List.mem_append.mp ha with ha | ha
      · exact hcross a ha b hb
      · exact h.apart p q (Ne.symm hq) a ha b hb
  apart q r hqr a ha b hb := by
    by_cases hq : q = p
    · subst hq
      rw [commit_pending_self] at ha
      exact (List.not_mem_nil ha).elim
    · by_cases hr : r = p
      · subst hr
        rw [commit_pending_self] at hb
        exact (List.not_mem_nil hb).elim
      · rw [commit_pending_ne s hq] at ha
        rw [commit_pending_ne s hr] at hb
        exact h.apart q r hqr a ha b hb

omit [DecidableEq ι] in
/-- A row that somebody else has written and committed. -/
theorem Sound.appendCommitted (h : s.Sound keys) (hfree : s.Free keys row) :
    Sound keys { s with committed := s.committed ++ [row] } where
  visible q := by
    obtain ⟨hcommitted, hpending, hcross⟩ := List.pairwise_append.mp (h.visible q)
    refine List.pairwise_append.mpr ⟨?_, hpending, ?_⟩
    · refine List.pairwise_append.mpr ⟨hcommitted, List.pairwise_singleton _ _, ?_⟩
      intro a ha b hb
      obtain rfl := List.mem_singleton.mp hb
      exact hfree.committed a ha
    · intro a ha b hb
      rcases List.mem_append.mp ha with ha | ha
      · exact hcross a ha b hb
      · obtain rfl := List.mem_singleton.mp ha
        exact fun hclash => hfree.pending q b hb hclash.symm
  apart := h.apart

end RowStore

/-! ## Looking rows up by a key -/

/-- **A key is on one row at most.** -/
theorem Distinct.length_filter_le {keys : ρ → List κ} {rows : List ρ}
    (h : Distinct keys rows) (holds : ρ → Bool) (k : κ)
    (hkey : ∀ row ∈ rows, holds row = true → k ∈ keys row) :
    (rows.filter holds).length ≤ 1 := by
  induction rows with
  | nil => simp
  | cons row rest ih =>
    obtain ⟨hrow, hrest⟩ := List.pairwise_cons.mp h
    have ih := ih hrest fun other hother => hkey other (List.mem_cons_of_mem _ hother)
    by_cases hholds : holds row = true
    · have hnone : rest.filter holds = [] := by
        refine List.filter_eq_nil_iff.mpr fun other hother hother' => hrow other hother ?_
        exact ⟨k, hkey row List.mem_cons_self hholds,
          hkey other (List.mem_cons_of_mem _ hother) hother'⟩
      rw [List.filter_cons_of_pos hholds, hnone]
      exact Nat.le_refl 1
    · rw [List.filter_cons_of_neg hholds]
      exact ih

/-- The rows of one table have no key of that table in common. -/
theorem Distinct.filterMap {ρ' : Type v} {κ' : Type w} {keys : ρ → List κ} {keys' : ρ' → List κ'}
    {rows : List ρ} (h : Distinct keys rows) (f : ρ → Option ρ')
    (hkeys : ∀ a b x y, f a = some x → f b = some y → Clash keys' x y → Clash keys a b) :
    Distinct keys' (rows.filterMap f) :=
  List.Pairwise.filterMap f
    (fun a b hab x hx y hy hclash => hab (hkeys a b x y hx hy hclash)) h

/-- Two rows with a key in common are one. -/
theorem Distinct.eq_of_clash {keys : ρ → List κ} {rows : List ρ} (h : Distinct keys rows)
    {a b : ρ} (ha : a ∈ rows) (hb : b ∈ rows) (hclash : Clash keys a b) : a = b := by
  induction rows with
  | nil => exact (List.not_mem_nil ha).elim
  | cons row rest ih =>
    obtain ⟨hrow, hrest⟩ := List.pairwise_cons.mp h
    rcases List.mem_cons.mp ha with rfl | ha'
    · rcases List.mem_cons.mp hb with rfl | hb'
      · rfl
      · exact absurd hclash (hrow b hb')
    · rcases List.mem_cons.mp hb with rfl | hb'
      · exact absurd hclash.symm (hrow a ha')
      · exact ih hrest ha' hb'

end UniqueRows
