import Mathlib.Data.List.Range
import Zest.UniqueRows

/-! # Ledgers of numbered entries

Some rows of a store are entries of ledgers, and an entry has a number that no other
entry of its ledger has.  A transaction appends to a ledger by reading what it sees of
it and inserting an entry with the next number.  What it has read may be old by then:
the number is at most the next one, and an insert that goes through has the next one.

So every transaction sees each ledger numbered from one on, without gaps, whatever the
others do.
-/
namespace SequencedLedger

open UniqueRows

universe u v w x y

variable {ι : Type u} {ρ : Type v} {κ : Type w} {σ : Type x} {α : Type y}

/-- The entries of a ledger, in the order they have come in. -/
def ledger (entry : σ → ρ → Option α) (rows : List ρ) (f : σ) : List α :=
  rows.filterMap (entry f)

/-- The ledger is numbered from one on. -/
def Numbered (entry : σ → ρ → Option α) (number : α → Nat) (rows : List ρ) (f : σ) : Prop :=
  (ledger entry rows f).map number = List.range' 1 (ledger entry rows f).length

section Lists

variable {entry : σ → ρ → Option α} {number : α → Nat} {rows more : List ρ} {f : σ} {x : α}

@[simp] theorem ledger_nil : ledger entry [] f = [] := rfl

@[simp] theorem ledger_append :
    ledger entry (rows ++ more) f = ledger entry rows f ++ ledger entry more f :=
  List.filterMap_append

theorem mem_ledger : x ∈ ledger entry rows f ↔ ∃ row ∈ rows, entry f row = some x :=
  List.mem_filterMap

/-- A row that is no entry of the ledger. -/
theorem ledger_concat_of_none {row : ρ} (h : entry f row = none) :
    ledger entry (rows ++ [row]) f = ledger entry rows f := by
  simp [ledger, h]

theorem ledger_concat_of_some {row : ρ} (h : entry f row = some x) :
    ledger entry (rows ++ [row]) f = ledger entry rows f ++ [x] := by
  simp [ledger, h]

/-- What comes first is numbered by itself. -/
theorem Numbered.of_append (h : Numbered entry number (rows ++ more) f) :
    Numbered entry number rows f := by
  rw [Numbered, ledger_append, List.map_append, List.length_append, ← List.range'_append_1] at h
  exact (List.append_inj h (by simp)).1

/-- Two numbered ledgers one after the other. -/
theorem numbered_append_iff (h : Numbered entry number rows f) :
    Numbered entry number (rows ++ more) f ↔
      (ledger entry more f).map number =
        List.range' (1 + (ledger entry rows f).length) (ledger entry more f).length := by
  rw [Numbered, ledger_append, List.map_append, List.length_append, ← List.range'_append_1, h,
    List.append_right_inj]

/-- The next entry. -/
theorem Numbered.concat (h : Numbered entry number rows f) {row : ρ}
    (hnext : ∀ x, entry f row = some x → number x = (ledger entry rows f).length + 1) :
    Numbered entry number (rows ++ [row]) f := by
  rw [numbered_append_iff h]
  cases hentry : entry f row with
  | none => simp [ledger, hentry]
  | some x => simp [ledger, hentry, hnext x hentry, Nat.add_comm]

/-- Every number up to the length is there. -/
theorem Numbered.exists_of_le (h : Numbered entry number rows f) {n : Nat} (hpos : 1 ≤ n)
    (hle : n ≤ (ledger entry rows f).length) : ∃ x ∈ ledger entry rows f, number x = n := by
  have hmem : n ∈ (ledger entry rows f).map number := by
    rw [h]
    exact List.mem_range'_1.mpr ⟨hpos, by omega⟩
  obtain ⟨x, hx, hnumber⟩ := List.mem_map.mp hmem
  exact ⟨x, hx, hnumber⟩

theorem Numbered.le_length (h : Numbered entry number rows f) (hx : x ∈ ledger entry rows f) :
    1 ≤ number x ∧ number x ≤ (ledger entry rows f).length := by
  have hmem := List.mem_map_of_mem (f := number) hx
  rw [h, List.mem_range'_1] at hmem
  omega

/-- The entries of a numbered ledger are in the order of their numbers. -/
theorem Numbered.pairwise_lt (h : Numbered entry number rows f) :
    (ledger entry rows f).Pairwise fun a b => number a < number b := by
  have hsorted : ((ledger entry rows f).map number).Pairwise (· < ·) := by
    rw [h]
    exact List.pairwise_lt_range'
  exact List.pairwise_map.mp hsorted

end Lists

/-! ## Ledgers in a store -/

section Store

variable [DecidableEq ι] {keys : ρ → List κ} {entry : σ → ρ → Option α} {number : α → Nat}
variable {s : RowStore ι ρ} {p q : ι} {row : ρ}

/-- Entries of a ledger with one number are rows with one key. -/
def Keyed (keys : ρ → List κ) (entry : σ → ρ → Option α) (number : α → Nat) : Prop :=
  ∀ f a b x y, entry f a = some x → entry f b = some y → number x = number y → Clash keys a b

/-- Everybody sees every ledger numbered. -/
def AllNumbered (entry : σ → ρ → Option α) (number : α → Nat) (s : RowStore ι ρ) : Prop :=
  ∀ p f, Numbered entry number (s.visible p) f

omit [DecidableEq ι] in
theorem AllNumbered.committed (h : AllNumbered entry number s) (p : ι) (f : σ) :
    Numbered entry number s.committed f :=
  Numbered.of_append (h p f)

omit [DecidableEq ι] in
/-- **Of two transactions, one at most is appending to a ledger.** -/
theorem AllNumbered.pending_nil (h : AllNumbered entry number s) (hsound : s.Sound keys)
    (hkeyed : Keyed keys entry number) (hne : p ≠ q) {f : σ}
    (hp : ledger entry (s.pending p) f ≠ []) : ledger entry (s.pending q) f = [] := by
  by_contra hq
  obtain ⟨x, xs, hx⟩ := List.exists_cons_of_ne_nil hp
  obtain ⟨y, ys, hy⟩ := List.exists_cons_of_ne_nil hq
  -- the first entry of each has the number after the committed ones
  have hfirst : ∀ r z zs, ledger entry (s.pending r) f = z :: zs →
      number z = 1 + (ledger entry s.committed f).length := by
    intro r z zs hz
    have hnumbers := (numbered_append_iff (h.committed r f)).mp (h r f)
    rw [hz, List.map_cons, List.length_cons, List.range'_succ] at hnumbers
    exact (List.cons.inj hnumbers).1
  obtain ⟨a, ha, hxa⟩ := mem_ledger.mp (hx ▸ List.mem_cons_self)
  obtain ⟨b, hb, hyb⟩ := mem_ledger.mp (hy ▸ List.mem_cons_self)
  refine hsound.apart p q hne a ha b hb (hkeyed f a b x y hxa hyb ?_)
  rw [hfirst p x xs hx, hfirst q y ys hy]

omit [DecidableEq ι] in
/-- **An insert that goes through has the next number.** -/
theorem AllNumbered.next_of_free (h : AllNumbered entry number s) (hkeyed : Keyed keys entry number)
    (hfree : s.Free keys row) {f : σ} {x : α} (hx : entry f row = some x) (hpos : 1 ≤ number x)
    (hle : number x ≤ (ledger entry (s.visible p) f).length + 1) :
    number x = (ledger entry (s.visible p) f).length + 1 := by
  by_contra hne
  obtain ⟨y, hy, hnumber⟩ := (h p f).exists_of_le hpos (by omega)
  obtain ⟨other, hother, hentry⟩ := mem_ledger.mp hy
  have hclash := hkeyed f other row y x hentry hx hnumber
  rcases List.mem_append.mp hother with hother | hother
  · exact hfree.committed other hother hclash
  · exact hfree.pending p other hother hclash

theorem AllNumbered.insert (h : AllNumbered entry number s) (hkeyed : Keyed keys entry number)
    (hfree : s.Free keys row)
    (hbound : ∀ f x, entry f row = some x →
      1 ≤ number x ∧ number x ≤ (ledger entry (s.visible p) f).length + 1) :
    AllNumbered entry number (s.insert p row) := by
  intro q f
  by_cases hq : q = p
  · subst hq
    rw [RowStore.visible_insert_self]
    refine (h q f).concat fun x hx => ?_
    exact h.next_of_free hkeyed hfree hx (hbound f x hx).1 (hbound f x hx).2
  · rw [RowStore.visible_insert_ne s row hq]
    exact h q f

theorem AllNumbered.rollback (h : AllNumbered entry number s) :
    AllNumbered entry number (s.rollback p) := by
  intro q f
  by_cases hq : q = p
  · subst hq
    rw [RowStore.visible_rollback_self]
    exact h.committed q f
  · rw [RowStore.visible_rollback_ne s hq]
    exact h q f

/-- A commit shows the ledgers of the one that commits, where it has appended, and
leaves the others as they were. -/
theorem ledger_commit (h : AllNumbered entry number s) (hsound : s.Sound keys)
    (hkeyed : Keyed keys entry number) (hne : q ≠ p) (f : σ) :
    ledger entry ((s.commit p).visible q) f =
      if ledger entry (s.pending p) f = [] then ledger entry (s.visible q) f
      else ledger entry (s.visible p) f := by
  rw [RowStore.visible_commit_ne s hne]
  by_cases hp : ledger entry (s.pending p) f = []
  · rw [if_pos hp]
    simp [RowStore.visible, hp]
  · rw [if_neg hp, ledger_append, h.pending_nil hsound hkeyed (Ne.symm hne) hp, List.append_nil]

theorem AllNumbered.commit (h : AllNumbered entry number s) (hsound : s.Sound keys)
    (hkeyed : Keyed keys entry number) : AllNumbered entry number (s.commit p) := by
  intro q f
  by_cases hq : q = p
  · subst hq
    rw [RowStore.visible_commit_self]
    exact h q f
  · rw [Numbered, ledger_commit h hsound hkeyed hq]
    split
    · exact h q f
    · exact h p f

end Store

end SequencedLedger
