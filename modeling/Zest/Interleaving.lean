import Zest.TransitionSystem
import Zest.UnitOfWork

/-! # Interleaved programs

Several processes share a state, and each runs a program of its own.  In one
step one process runs the next transaction of its program, if it need not wait,
or it is stopped for good and leaves the state to the others.

What a process knows of the state must survive whatever the others may do.
`Follows` is the rule for one program: it keeps the invariant, does no more than
its process may, and goes on with knowledge that the others cannot take away.
`Proper.run` puts the programs together: the invariant holds wherever a run has
come to, and a process that has returned knows what its program promises.
-/
namespace Interleaving

open UnitOfWork TransitionSystem

universe u v

variable {ι : Type v} {σ : Type u} {α β : Type}

/-- The state that the processes share, and what each has still to do. -/
structure Pool (ι : Type v) (σ : Type u) (α : Type) where
  store : σ
  rest : ι → Prog σ α

/-- A step of a pool. -/
inductive Move (ι : Type v) where
  | advance (i : ι)
  | stop (i : ι)

/-- How processes share a state: when one need not wait, and what becomes of the
state when one is stopped. -/
structure Sharing (ι : Type v) (σ : Type u) where
  ready : ι → σ → Prop
  dropped : ι → σ → σ

/-- The pool in which the process `i` has still to do `p`. -/
def Pool.set [DecidableEq ι] (c : Pool ι σ α) (i : ι) (s : σ) (p : Prog σ α) : Pool ι σ α where
  store := s
  rest j := if j = i then p else c.rest j

/-- One step: the process `i` runs one transaction, or is stopped. -/
inductive PoolStep [DecidableEq ι] (S : Sharing ι σ) : Pool ι σ α → Move ι → Pool ι σ α → Prop
  | advance {c : Pool ι σ α} (i : ι) (hready : S.ready i c.store) :
      PoolStep S c (.advance i)
        (c.set i ((c.rest i).advance c.store).1 ((c.rest i).advance c.store).2)
  | stop {c : Pool ι σ α} (i : ι) :
      PoolStep S c (.stop i) (c.set i (S.dropped i c.store) .raise)

/-- What holds of the state at any time, and what a step of a process may do
to it. -/
structure Contract (ι : Type v) (σ : Type u) where
  inv : σ → Prop
  may : ι → σ → σ → Prop

variable {S : Sharing ι σ} {C : Contract ι σ} {i : ι} {P P' : σ → Prop}

/-- The others cannot make `P` false. -/
def Contract.Stable (C : Contract ι σ) (i : ι) (P : σ → Prop) : Prop :=
  ∀ j s t, j ≠ i → C.inv s → C.may j s t → P s → P t

theorem Contract.stable_true : C.Stable i fun _ => True := fun _ _ _ _ _ _ _ => trivial

theorem Contract.Stable.and (h : C.Stable i P) (h' : C.Stable i P') :
    C.Stable i fun s => P s ∧ P' s :=
  fun j s t hj hinv hmay hP => ⟨h j s t hj hinv hmay hP.1, h' j s t hj hinv hmay hP.2⟩

/-- From a state with `P`, every transaction of the program keeps the invariant
and does what the process may; between any two of them it knows something that
is stable, and it returns with `Q`. -/
def Follows (S : Sharing ι σ) (C : Contract ι σ) (i : ι) (Q : α → σ → Prop) :
    (σ → Prop) → Prog σ α → Prop
  | P, .done a => ∀ s, C.inv s → P s → Q a s
  | _, .raise => True
  | P, .tx f k => ∀ s, C.inv s → P s → S.ready i s →
      C.inv (f s).1 ∧ C.may i s (f s).1 ∧
        ∃ P', C.Stable i P' ∧ P' (f s).1 ∧ Follows S C i Q P' (k (f s).2)

section Follows

variable {Q Q' : α → σ → Prop} {p : Prog σ α}

theorem Follows.weaken (h : Follows S C i Q P p) (hP : ∀ s, C.inv s → P' s → P s) :
    Follows S C i Q P' p := by
  cases p with
  | done a => exact fun s hinv hs => h s hinv (hP s hinv hs)
  | raise => trivial
  | tx f k => exact fun s hinv hs hready => h s hinv (hP s hinv hs) hready

/-- **The rule of composition.** -/
theorem Follows.bind {Q : β → σ → Prop} {k : α → Prog σ β} {R : α → σ → Prop}
    (h : Follows S C i R P p) (hk : ∀ a, Follows S C i Q (R a) (k a)) :
    Follows S C i Q P (p >>= k) := by
  induction p generalizing P with
  | done a => exact (hk a).weaken h
  | raise => trivial
  | tx f g ih =>
    intro s hinv hs hready
    obtain ⟨hinv', hmay, P', hstable, hP', hrest⟩ := h s hinv hs hready
    exact ⟨hinv', hmay, P', hstable, hP', ih _ hrest⟩

theorem follows_pure {a : α} (h : ∀ s, C.inv s → P s → Q a s) :
    Follows S C i Q P (pure a) := h

theorem follows_raise : Follows S C i Q P (Prog.raise : Prog σ α) := trivial

/-- One transaction.  What it is known to leave must be stable. -/
theorem follows_tx {Q : β → σ → Prop} {f : σ → σ × β} (hQ : ∀ b, C.Stable i (Q b))
    (h : ∀ s, C.inv s → P s → S.ready i s →
      C.inv (f s).1 ∧ C.may i s (f s).1 ∧ Q (f s).2 (f s).1) :
    Follows S C i Q P (Prog.tx f .done) := by
  intro s hinv hs hready
  obtain ⟨hinv', hmay, hleft⟩ := h s hinv hs hready
  exact ⟨hinv', hmay, Q (f s).2, hQ _, hleft, fun _ _ ht => ht⟩

/-- Knowledge of the process is only lost. -/
theorem Follows.mono (h : Follows S C i Q P p)
    (hQ : ∀ a s, C.inv s → Q a s → Q' a s) : Follows S C i Q' P p := by
  induction p generalizing P with
  | done a => exact fun s hinv hs => hQ a s hinv (h s hinv hs)
  | raise => trivial
  | tx f k ih =>
    intro s hinv hs hready
    obtain ⟨hinv', hmay, P', hstable, hP', hrest⟩ := h s hinv hs hready
    exact ⟨hinv', hmay, P', hstable, hP', ih _ hrest⟩

end Follows

/-! ## Pools -/

/-- The invariant holds, and every process follows the contract from what it
knows. -/
def Proper (S : Sharing ι σ) (C : Contract ι σ) (Q : ι → α → σ → Prop) (c : Pool ι σ α) : Prop :=
  C.inv c.store ∧ ∀ i, ∃ P, C.Stable i P ∧ P c.store ∧ Follows S C i (Q i) P (c.rest i)

/-- A process that is stopped leaves the state as the contract has it. -/
def Sharing.Clean (S : Sharing ι σ) (C : Contract ι σ) : Prop :=
  ∀ i s, C.inv s → C.inv (S.dropped i s) ∧ C.may i s (S.dropped i s)

/-- A process that has returned. -/
theorem Proper.returned {Q : ι → α → σ → Prop} {c : Pool ι σ α} {a : α} (h : Proper S C Q c) (hdone : c.rest i = .done a) :
    Q i a c.store := by
  obtain ⟨P, -, hP, hfollows⟩ := h.2 i
  rw [hdone] at hfollows
  exact hfollows c.store h.1 hP

section Pools

variable [DecidableEq ι] {Q : ι → α → σ → Prop} {c d : Pool ι σ α} {m : Move ι}

theorem Proper.set {s : σ} {p : Prog σ α} (h : Proper S C Q c) (hinv : C.inv s)
    (hmay : C.may i c.store s)
    (hrest : ∃ P, C.Stable i P ∧ P s ∧ Follows S C i (Q i) P p) : Proper S C Q (c.set i s p) := by
  refine ⟨hinv, fun j => ?_⟩
  by_cases hj : j = i
  · subst hj
    simpa [Pool.set] using hrest
  · obtain ⟨P, hstable, hP, hfollows⟩ := h.2 j
    have hkept : P s := hstable i c.store s (Ne.symm hj) h.1 hmay hP
    exact ⟨P, hstable, hkept, by simpa [Pool.set, hj] using hfollows⟩

/-- A process that has nothing left to do. -/
theorem Pool.set_self (c : Pool ι σ α) (i : ι) : c.set i c.store (c.rest i) = c := by
  have hrest : (fun j => if j = i then c.rest i else c.rest j) = c.rest := by
    funext j
    by_cases hj : j = i
    · simp [hj]
    · simp [hj]
  simp [Pool.set, hrest]

/-- **One step** of a pool. -/
theorem Proper.step (hclean : S.Clean C) (h : Proper S C Q c) (hstep : PoolStep S c m d) :
    Proper S C Q d ∧ (d.store = c.store ∨ ∃ i, C.may i c.store d.store) := by
  cases hstep with
  | stop i =>
    obtain ⟨hinv, hmay⟩ := hclean i c.store h.1
    exact ⟨h.set hinv hmay ⟨fun _ => True, Contract.stable_true, trivial, trivial⟩,
      Or.inr ⟨i, hmay⟩⟩
  | advance i hready =>
    obtain ⟨P, hstable, hP, hfollows⟩ := h.2 i
    cases hrest : c.rest i with
    | done a =>
      have hsame : c.set i c.store (.done a) = c := hrest ▸ c.set_self i
      exact ⟨hsame.symm ▸ h, Or.inl rfl⟩
    | raise =>
      have hsame : c.set i c.store .raise = c := hrest ▸ c.set_self i
      exact ⟨hsame.symm ▸ h, Or.inl rfl⟩
    | tx f k =>
      rw [hrest] at hfollows
      obtain ⟨hinv, hmay, hnext⟩ := hfollows c.store h.1 hP hready
      exact ⟨h.set hinv hmay hnext, Or.inr ⟨i, hmay⟩⟩

/-- **Soundness.**  The invariant holds in every pool that a run has come to. -/
theorem Proper.run {es : List (Move ι)} (hclean : S.Clean C) (h : Proper S C Q c)
    (hrun : Run (PoolStep S) c es d) : Proper S C Q d :=
  hrun.invariant (fun _ _ _ hstep hproper => (hproper.step hclean hstep).1) h

/-! ### Pools whose programs keep a relation -/

/-- What is left of each program after a step. -/
theorem PoolStep.rest (h : PoolStep S c m d) (i : ι) :
    d.rest i = c.rest i ∨ d.rest i = .raise ∨ d.rest i = ((c.rest i).advance c.store).2 := by
  cases h with
  | advance j hready =>
    by_cases hi : i = j
    · subst hi
      exact Or.inr (Or.inr (if_pos rfl))
    · exact Or.inl (if_neg hi)
  | stop j =>
    by_cases hi : i = j
    · exact Or.inr (Or.inl (if_pos hi))
    · exact Or.inl (if_neg hi)

/-- **One step** of a pool whose programs keep a relation. -/
theorem PoolStep.keeps {G : σ → σ → Prop} (h : PoolStep S c m d) (hrefl : ∀ s, G s s)
    (hdropped : ∀ i s, G s (S.dropped i s)) (hrest : ∀ i, Keeps G (c.rest i)) :
    G c.store d.store ∧ ∀ i, Keeps G (d.rest i) := by
  refine ⟨?_, fun i => ?_⟩
  · cases h with
    | advance i hready => exact ((hrest i).advance hrefl c.store).1
    | stop i => exact hdropped i c.store
  · rcases h.rest i with hsame | hraise | hnext
    · rw [hsame]
      exact hrest i
    · rw [hraise]
      trivial
    · rw [hnext]
      exact ((hrest i).advance hrefl c.store).2

/-- The pool after the processes of the list have been run in turn, one
transaction each time; who has to wait is passed over. -/
def scheduled (S : Sharing ι σ) [∀ i s, Decidable (S.ready i s)] :
    List ι → Pool ι σ α → Pool ι σ α
  | [], c => c
  | i :: is, c =>
    scheduled S is <|
      if S.ready i c.store then
        c.set i ((c.rest i).advance c.store).1 ((c.rest i).advance c.store).2
      else c

theorem run_scheduled [∀ i s, Decidable (S.ready i s)] (is : List ι) (c : Pool ι σ α) :
    ∃ es, Run (PoolStep S) c es (scheduled S is c) := by
  induction is generalizing c with
  | nil => exact ⟨[], .nil c⟩
  | cons i is ih =>
    unfold scheduled
    split
    next hready =>
      obtain ⟨es, hrun⟩ := ih (c.set i _ _)
      exact ⟨[.advance i] ++ es, Run.append ((Run.nil c).snoc (.advance i hready)) hrun⟩
    next => exact ih c

end Pools

/-! ## Programs that raise and leave nothing behind -/

section Transactional

variable [DecidableEq ι] {ε : Type} {c d q : Pool ι σ (Except ε α)} {m : Move ι}

/-- One transaction of such a program, and the rest of it. -/
theorem advance_transactional {p : Prog σ (Except ε α)} (h : Transactional p) (s : σ) :
    Transactional (p.advance s).2 ∧
      ((p.advance s).1 = s ∨ ∃ a, (p.advance s).2 = .done (.ok a)) := by
  cases p with
  | done a => exact ⟨trivial, Or.inl rfl⟩
  | raise => exact ⟨trivial, Or.inl rfl⟩
  | tx f k =>
    rcases h s with ⟨hsame, hrest⟩ | ⟨a, hdone⟩
    · exact ⟨hrest, Or.inl hsame⟩
    · refine ⟨?_, Or.inr ⟨a, hdone⟩⟩
      show Transactional (k (f s).2)
      rw [hdone]
      trivial

theorem PoolStep.transactional (h : PoolStep S c m d) (hrest : ∀ i, Transactional (c.rest i)) :
    ∀ i, Transactional (d.rest i) := by
  intro i
  rcases h.rest i with hsame | hraise | hnext
  · rw [hsame]
    exact hrest i
  · rw [hraise]
    trivial
  · rw [hnext]
    exact (advance_transactional (hrest i) c.store).1

/-- A process that has returned does nothing more; it may still be stopped. -/
theorem returned_or_stopped {es : List (Move ι)} {a : Except ε α}
    (hdone : d.rest i = .done a) (hrun : Run (PoolStep S) d es q) :
    q.rest i = .done a ∨ q.rest i = .raise := by
  refine hrun.invariant (I := fun c => c.rest i = .done a ∨ c.rest i = .raise) ?_ (Or.inl hdone)
  intro c m d hstep hc
  rcases hstep.rest i with hsame | hraise | hnext
  · rw [hsame]
    exact hc
  · exact Or.inr hraise
  · rw [hnext]
    rcases hc with hc | hc <;> rw [hc]
    · exact Or.inl rfl
    · exact Or.inr rfl

/-- **A program that raises has changed nothing**, whatever the others did
meanwhile. -/
theorem unchanged_of_raised {es : List (Move ι)} {e : ε} (hrest : ∀ i, Transactional (c.rest i))
    (hstep : PoolStep S c (.advance i) d) (hrun : Run (PoolStep S) d es q)
    (hraised : q.rest i = .done (.error e)) : d.store = c.store := by
  cases hstep with
  | advance _ hready =>
    rcases (advance_transactional (hrest i) c.store).2 with hsame | ⟨a, hdone⟩
    · exact hsame
    · have hreturned : (c.set i ((c.rest i).advance c.store).1
          ((c.rest i).advance c.store).2).rest i = .done (.ok a) := (if_pos rfl).trans hdone
      rcases returned_or_stopped hreturned hrun with hq | hq
      · rw [hq] at hraised
        cases hraised
      · rw [hq] at hraised
        cases hraised

end Transactional
end Interleaving
