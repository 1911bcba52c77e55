/-! # Programs of units of work

A program that keeps its state in a database runs one transaction after
another, and may be stopped between any two of them.  `Prog` is such a program:
a transaction is a function of the state it finds, and what it returns decides
how the program goes on.

`Exec` is what a program can have done by the time it is over or has been
stopped.  `Holds` is the rule for proving things of it: what every transaction
leaves, and what the program returns.  `Keeps` is for what every transaction
keeps from any state at all, so that nothing has to be known of the program.
-/
namespace UnitOfWork

universe u

/-- A program over the state `σ`.  It returns a value, raises, or runs a
transaction and goes on with its answer. -/
inductive Prog (σ : Type u) (α : Type) : Type (max u 1)
  | done (a : α)
  | raise
  | tx {β : Type} (f : σ → σ × β) (k : β → Prog σ α)

variable {σ : Type u} {α β : Type}

namespace Prog

/-- Sequential composition; an exception ends the whole program. -/
def bind : Prog σ α → (α → Prog σ β) → Prog σ β
  | done a, k => k a
  | raise, _ => raise
  | tx f g, k => tx f fun b => (g b).bind k

instance : Monad (Prog σ) where
  pure := done
  bind := bind

/-- A transaction that only reads. -/
def read (f : σ → β) : Prog σ β := tx (fun s => (s, f s)) done

/-- A transaction that returns nothing. -/
def write (f : σ → σ) : Prog σ Unit := tx (fun s => (f s, ())) done

/-- What a transaction that may roll back leaves and answers. -/
def rollback (f : σ → Option (σ × β)) (s : σ) : σ × Option β :=
  match f s with
  | some (t, b) => (t, some b)
  | none => (s, none)

/-- A transaction that commits or raises. -/
def commit (f : σ → Option (σ × β)) : Prog σ β :=
  tx (rollback f) fun answer =>
    match answer with
    | some b => done b
    | none => raise

/-- What a transaction that may raise leaves and answers: a transaction that
raises is rolled back. -/
def attempted {ε : Type} (f : σ → Except ε (σ × β)) (s : σ) : σ × Except ε β :=
  match f s with
  | .ok (t, b) => (t, .ok b)
  | .error e => (s, .error e)

/-- A transaction that commits, or is rolled back and answers with what it has
raised. -/
def attempt {ε : Type} (f : σ → Except ε (σ × β)) : Prog σ (Except ε β) := tx (attempted f) done

/-- The program run to its end on its own: what it returns, and the state it
leaves. -/
def run : Prog σ α → σ → Option α × σ
  | done a, s => (some a, s)
  | raise, s => (none, s)
  | tx f k, s => (k (f s).2).run (f s).1

/-- The state that the program has come to after `n` transactions, or at its
end. -/
def stoppedAfter : Nat → Prog σ α → σ → σ
  | n + 1, tx f k, s => (k (f s).2).stoppedAfter n (f s).1
  | _, _, s => s

/-- One transaction of the program, if it has one left: the state it leaves, and
the rest of the program. -/
def advance : Prog σ α → σ → σ × Prog σ α
  | tx f k, s => ((f s).1, k (f s).2)
  | p, s => (s, p)

end Prog

open Prog

/-- `Exec p s r t`: from `s`, the program has come to `t` and has returned `r`,
or has raised or was stopped there when `r` is `none`. -/
inductive Exec : Prog σ α → σ → Option α → σ → Prop
  | stop (p : Prog σ α) (s : σ) : Exec p s none s
  | done (a : α) (s : σ) : Exec (.done a) s (some a) s
  | tx {γ : Type} {f : σ → σ × γ} {k : γ → Prog σ α} {s t : σ} {r : Option α} :
      Exec (k (f s).2) (f s).1 r t → Exec (.tx f k) s r t

theorem exec_run (p : Prog σ α) (s : σ) : Exec p s (p.run s).1 (p.run s).2 := by
  induction p generalizing s with
  | done a => exact .done a s
  | raise => exact .stop .raise s
  | tx f k ih => exact .tx (ih _ _)

theorem run_commit_bind {f : σ → Option (σ × β)} {k : β → Prog σ α} {s t : σ} {b : β}
    (h : f s = some (t, b)) : (Prog.commit f >>= k).run s = (k b).run t := by
  show Prog.run (Prog.bind (match (rollback f s).2 with
    | some b => done b
    | none => raise) k) (rollback f s).1 = (k b).run t
  simp only [rollback, h]
  rfl

theorem run_commit_raise {f : σ → Option (σ × β)} {k : β → Prog σ α} {s : σ} (h : f s = none) :
    (Prog.commit f >>= k).run s = (none, s) := by
  show Prog.run (Prog.bind (match (rollback f s).2 with
    | some b => done b
    | none => raise) k) (rollback f s).1 = (none, s)
  simp only [rollback, h]
  rfl

theorem exec_stoppedAfter (n : Nat) (p : Prog σ α) (s : σ) :
    Exec p s none (p.stoppedAfter n s) := by
  induction n generalizing p s with
  | zero => exact .stop p s
  | succ n ih =>
    cases p with
    | done a => exact .stop (.done a) s
    | raise => exact .stop .raise s
    | tx f k => exact .tx (ih _ _)

/-- Every transaction leaves a state with `R`, and what is returned satisfies
`Q`. -/
def Holds (R : σ → Prop) (Q : α → σ → Prop) : Prog σ α → σ → Prop
  | .done a, s => Q a s
  | .raise, _ => True
  | .tx f k, s => R (f s).1 ∧ Holds R Q (k (f s).2) (f s).1

section Holds

variable {R R' : σ → Prop} {Q Q' : α → σ → Prop} {p : Prog σ α} {s t : σ}

/-- **Soundness.**  `R` holds wherever the program is stopped. -/
theorem Holds.sound {r : Option α} (h : Holds R Q p s) (hs : R s) (he : Exec p s r t) :
    R t ∧ ∀ a, r = some a → Q a t := by
  induction he with
  | stop => exact ⟨hs, fun _ hr => by cases hr⟩
  | done a => exact ⟨hs, fun _ hr => by cases hr; exact h⟩
  | tx _ ih => exact ih h.2 h.1

theorem Holds.mono (h : Holds R Q p s) (hR : ∀ t, R t → R' t) (hQ : ∀ a t, Q a t → Q' a t) :
    Holds R' Q' p s := by
  induction p generalizing s with
  | done a => exact hQ a s h
  | raise => trivial
  | tx f k ih => exact ⟨hR _ h.1, ih _ h.2⟩

/-- **The rule of composition.** -/
theorem Holds.bind {Q : β → σ → Prop} {k : α → Prog σ β}
    (h : Holds R (fun a t => Holds R Q (k a) t) p s) : Holds R Q (p >>= k) s := by
  induction p generalizing s with
  | done a => exact h
  | raise => trivial
  | tx f g ih => exact ⟨h.1, ih _ h.2⟩

/-- Composition with a specification of the first part. -/
theorem Holds.seq {P : α → σ → Prop} {Q : β → σ → Prop} {k : α → Prog σ β}
    (h : Holds R P p s) (hk : ∀ a t, P a t → Holds R Q (k a) t) : Holds R Q (p >>= k) s :=
  Holds.bind (h.mono (fun _ ht => ht) hk)

/-- One transaction, and the rest of the program. -/
theorem Holds.advance (h : Holds R Q p s) (hs : R s) :
    R (p.advance s).1 ∧ Holds R Q (p.advance s).2 (p.advance s).1 := by
  cases p with
  | done a => exact ⟨hs, h⟩
  | raise => exact ⟨hs, trivial⟩
  | tx f k => exact h

theorem holds_pure {a : α} (h : Q a s) : Holds R Q (pure a) s := h

theorem holds_read {Q : β → σ → Prop} {f : σ → β} (hs : R s) (h : Q (f s) s) :
    Holds R Q (Prog.read f) s := ⟨hs, h⟩

theorem holds_write {Q : Unit → σ → Prop} {f : σ → σ} (hs : R (f s)) (h : Q () (f s)) :
    Holds R Q (Prog.write f) s := ⟨hs, h⟩

/-- A transaction that commits or raises: nothing is to be shown where it
raises. -/
theorem holds_commit {Q : β → σ → Prop} {f : σ → Option (σ × β)} (hs : R s)
    (h : ∀ t b, f s = some (t, b) → R t ∧ Q b t) : Holds R Q (Prog.commit f) s := by
  unfold Prog.commit
  cases hf : f s with
  | none => exact ⟨by simpa [rollback, hf] using hs, by simp [rollback, hf, Holds]⟩
  | some tb =>
    obtain ⟨t, b⟩ := tb
    obtain ⟨ht, hb⟩ := h t b hf
    exact ⟨by simpa [rollback, hf] using ht, by simpa [rollback, hf, Holds] using hb⟩

end Holds

/-- Every transaction of the program satisfies `G`, whatever state it finds. -/
def Keeps (G : σ → σ → Prop) : Prog σ α → Prop
  | .done _ => True
  | .raise => True
  | .tx f k => (∀ s, G s (f s).1) ∧ ∀ b, Keeps G (k b)

section Keeps

variable {G : σ → σ → Prop} {p : Prog σ α}

theorem Keeps.bind {k : α → Prog σ β} (h : Keeps G p) (hk : ∀ a, Keeps G (k a)) :
    Keeps G (p >>= k) := by
  induction p with
  | done a => exact hk a
  | raise => trivial
  | tx f g ih => exact ⟨h.1, fun b => ih b (h.2 b)⟩

theorem Keeps.mono {G' : σ → σ → Prop} (h : Keeps G p) (hG : ∀ s t, G s t → G' s t) :
    Keeps G' p := by
  induction p with
  | done a => trivial
  | raise => trivial
  | tx f k ih => exact ⟨fun s => hG _ _ (h.1 s), fun b => ih b (h.2 b)⟩

/-- One transaction, and the rest of the program. -/
theorem Keeps.advance (h : Keeps G p) (hrefl : ∀ s, G s s) (s : σ) :
    G s (p.advance s).1 ∧ Keeps G (p.advance s).2 := by
  cases p with
  | done a => exact ⟨hrefl s, trivial⟩
  | raise => exact ⟨hrefl s, trivial⟩
  | tx f k => exact ⟨h.1 s, h.2 _⟩

theorem keeps_pure {a : α} : Keeps G (pure a : Prog σ α) := trivial

theorem keeps_raise : Keeps G (Prog.raise : Prog σ α) := trivial

theorem keeps_tx {f : σ → σ × β} (h : ∀ s, G s (f s).1) : Keeps G (Prog.tx f .done) :=
  ⟨h, fun _ => trivial⟩

theorem keeps_read {f : σ → β} (hrefl : ∀ s, G s s) : Keeps G (Prog.read f) :=
  ⟨hrefl, fun _ => trivial⟩

theorem keeps_write {f : σ → σ} (h : ∀ s, G s (f s)) : Keeps G (Prog.write f) :=
  ⟨h, fun _ => trivial⟩

theorem keeps_commit {f : σ → Option (σ × β)} (hrefl : ∀ s, G s s)
    (h : ∀ s t b, f s = some (t, b) → G s t) : Keeps G (Prog.commit f) := by
  refine ⟨fun s => ?_, fun b => by cases b <;> trivial⟩
  cases hf : f s with
  | none => simpa [rollback, hf] using hrefl s
  | some tb => simpa [rollback, hf] using h s tb.1 tb.2 hf

theorem keeps_attempt {ε : Type} {f : σ → Except ε (σ × β)} (hrefl : ∀ s, G s s)
    (h : ∀ s t b, f s = .ok (t, b) → G s t) : Keeps G (Prog.attempt f) := by
  refine keeps_tx fun s => ?_
  cases hf : f s with
  | error e => simpa [attempted, hf] using hrefl s
  | ok tb => simpa [attempted, hf] using h s tb.1 tb.2 hf

/-- What every transaction keeps, the program keeps. -/
theorem Keeps.holds {R : σ → Prop} {s : σ} (h : Keeps G p) (hR : ∀ s t, R s → G s t → R t)
    (hs : R s) : Holds R (fun _ t => R t) p s := by
  induction p generalizing s with
  | done a => exact hs
  | raise => trivial
  | tx f k ih => exact ⟨hR _ _ hs (h.1 s), ih _ (h.2 _) (hR _ _ hs (h.1 s))⟩

/-- A program each of whose transactions satisfies a reflexive and transitive
relation satisfies it as a whole. -/
theorem Keeps.rule {R : σ → Prop} {Q : α → σ → Prop} {s : σ} (h : Keeps G p)
    (hrefl : ∀ s, G s s) (htrans : ∀ s t u, G s t → G t u → G s u) (hR : ∀ t, G s t → R t)
    (hQ : ∀ a t, G s t → Q a t) : Holds R Q p s := by
  have hkept : Holds (G s) (fun _ t => G s t) p s :=
    h.holds (fun _ _ hst htu => htrans _ _ _ hst htu) (hrefl s)
  exact hkept.mono hR hQ

end Keeps

/-- From `s`, and as long as nobody else changes the state, every transaction of
the program satisfies `G`, and what is returned satisfies `Q`. -/
def Moves (G : σ → σ → Prop) (Q : α → σ → Prop) : Prog σ α → σ → Prop
  | .done a, s => Q a s
  | .raise, _ => True
  | .tx f k, s => G s (f s).1 ∧ Moves G Q (k (f s).2) (f s).1

section Moves

variable {G G' : σ → σ → Prop} {Q Q' : α → σ → Prop} {p : Prog σ α} {s : σ}

theorem Moves.mono (h : Moves G Q p s) (hG : ∀ s t, G s t → G' s t)
    (hQ : ∀ a t, Q a t → Q' a t) : Moves G' Q' p s := by
  induction p generalizing s with
  | done a => exact hQ a s h
  | raise => trivial
  | tx f k ih => exact ⟨hG _ _ h.1, ih _ h.2⟩

/-- **The rule of composition.** -/
theorem Moves.bind {Q : β → σ → Prop} {k : α → Prog σ β}
    (h : Moves G (fun a t => Moves G Q (k a) t) p s) : Moves G Q (p >>= k) s := by
  induction p generalizing s with
  | done a => exact h
  | raise => trivial
  | tx f g ih => exact ⟨h.1, ih _ h.2⟩

/-- Composition with a specification of the first part. -/
theorem Moves.seq {P : α → σ → Prop} {Q : β → σ → Prop} {k : α → Prog σ β}
    (h : Moves G P p s) (hk : ∀ a t, P a t → Moves G Q (k a) t) : Moves G Q (p >>= k) s :=
  Moves.bind (h.mono (fun _ _ hst => hst) hk)

/-- What every transaction satisfies, it satisfies from any state on. -/
theorem Keeps.moves (h : Keeps G p) (s : σ) : Moves G (fun _ _ => True) p s := by
  induction p generalizing s with
  | done a => trivial
  | raise => trivial
  | tx f k ih => exact ⟨h.1 s, ih _ (h.2 _) _⟩

/-- One transaction, and the rest of the program. -/
theorem Moves.advance (h : Moves G Q p s) (hrefl : G s s) :
    G s (p.advance s).1 ∧ Moves G Q (p.advance s).2 (p.advance s).1 := by
  cases p with
  | done a => exact ⟨hrefl, h⟩
  | raise => exact ⟨hrefl, trivial⟩
  | tx f k => exact h

end Moves

/-! ## Programs that raise and leave nothing behind -/

section Transactional

variable {ε : Type}

/-- A transaction of the program that changes the state is its last one, and the
program then returns a result. -/
def Transactional : Prog σ (Except ε α) → Prop
  | .done _ => True
  | .raise => True
  | .tx f k => ∀ s, (f s).1 = s ∧ Transactional (k (f s).2) ∨ ∃ a, k (f s).2 = .done (.ok a)

theorem transactional_attempt {f : σ → Except ε (σ × α)} : Transactional (Prog.attempt f) := by
  intro s
  cases hf : f s with
  | error e => exact Or.inl ⟨by simp [attempted, hf], trivial⟩
  | ok tb => exact Or.inr ⟨tb.2, by simp [attempted, hf]⟩

end Transactional
end UnitOfWork
