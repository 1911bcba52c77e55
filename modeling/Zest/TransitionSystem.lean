/-! # Runs of a labelled transition system

A system is a relation between states, labelled with what happens.  A run is a
finite sequence of such steps.  An invariant is proved of one step and holds of
every state a run reaches; a relation that every step respects, and that
composes, holds between the two ends of a run.
-/
namespace TransitionSystem

universe u v

variable {σ : Type u} {ε : Type v}

/-- A finite run of `step`, with the labels of its steps in order. -/
inductive Run (step : σ → ε → σ → Prop) : σ → List ε → σ → Prop
  | nil (s : σ) : Run step s [] s
  | snoc {s t u : σ} {es : List ε} {e : ε} :
      Run step s es t → step t e u → Run step s (es ++ [e]) u

namespace Run

variable {step step' : σ → ε → σ → Prop} {s t u : σ} {es es' : List ε}

/-- **The invariant rule.** -/
theorem invariant {I : σ → Prop} (hstep : ∀ s e t, step s e t → I s → I t)
    (h : Run step s es t) (hs : I s) : I t := by
  induction h with
  | nil => exact hs
  | snoc _ h ih => exact hstep _ _ _ h ih

/-- **The relation rule.**  Steps may use an invariant of the run. -/
theorem relation {I : σ → Prop} {R : σ → σ → Prop} (hrefl : ∀ s, R s s)
    (htrans : ∀ {a b c}, R a b → R b c → R a c) (hinv : ∀ s e t, step s e t → I s → I t)
    (hstep : ∀ s e t, step s e t → I s → R s t) (h : Run step s es t) (hs : I s) : R s t := by
  induction h with
  | nil => exact hrefl _
  | snoc hrun h ih => exact htrans ih (hstep _ _ _ h (hrun.invariant hinv hs))

/-- **The measure rule.**  A measure that no step lowers, that every counted step
raises, and that is at most `bound` after a counted step, allows `bound` counted
steps. -/
theorem count_le {I : σ → Prop} {m : σ → Nat} {counted : ε → Bool} {bound : Nat}
    (hstep : ∀ s e t, step s e t → I s →
      I t ∧ m s ≤ m t ∧ (counted e = true → m s < m t ∧ m t ≤ bound))
    (h : Run step s es t) (hs : I s) :
    (es.filter counted).length ≤ bound := by
  have hboth : I t ∧ (es.filter counted).length ≤ m t ∧
      (es.filter counted).length ≤ bound := by
    induction h with
    | nil => exact ⟨hs, Nat.zero_le _, Nat.zero_le _⟩
    | @snoc t u es e _ hlast ih =>
      obtain ⟨ht, hmeasure, hbound⟩ := ih
      obtain ⟨hu, hle, hcounted⟩ := hstep t e u hlast ht
      by_cases he : counted e = true
      · obtain ⟨hlt, hcap⟩ := hcounted he
        have hlength : ((es ++ [e]).filter counted).length = (es.filter counted).length + 1 := by
          simp [List.filter_append, he]
        refine ⟨hu, ?_, ?_⟩ <;> omega
      · have hlength : ((es ++ [e]).filter counted).length = (es.filter counted).length := by
          simp [List.filter_append, he]
        refine ⟨hu, ?_, ?_⟩ <;> omega
  exact hboth.2.2

theorem mono (hsub : ∀ s e t, step s e t → step' s e t) (h : Run step s es t) :
    Run step' s es t := by
  induction h with
  | nil => exact .nil _
  | snoc _ h ih => exact ih.snoc (hsub _ _ _ h)

theorem append (h : Run step s es t) (h' : Run step t es' u) : Run step s (es ++ es') u := by
  induction h' with
  | nil => simpa using h
  | snoc _ h' ih => simpa only [List.append_assoc] using ih.snoc h'

/-- A run passes through each of its steps. -/
theorem split {e : ε} (h : Run step s (es ++ e :: es') u) :
    ∃ a b, Run step s es a ∧ step a e b ∧ Run step b es' u := by
  generalize heq : es ++ e :: es' = labels at h
  induction h generalizing es' with
  | nil => simp at heq
  | @snoc t u labels last hrun hlast ih =>
    rcases List.eq_nil_or_concat es' with rfl | ⟨init, final, rfl⟩
    · obtain ⟨rfl, hfinal⟩ := List.append_inj' heq rfl
      cases hfinal
      exact ⟨_, _, hrun, hlast, .nil _⟩
    · have hsplit : es ++ e :: init = labels ∧ [final] = [last] :=
        List.append_inj' (by simpa using heq) rfl
      obtain ⟨a, b, hbefore, hstep, hafter⟩ := ih hsplit.1
      cases hsplit.2
      exact ⟨a, b, hbefore, hstep, by simpa using hafter.snoc hlast⟩

end Run

/-- The steps of `step` that start where `cond` allows them. -/
def Guarded (step : σ → ε → σ → Prop) (cond : σ → ε → Prop) (s : σ) (e : ε) (t : σ) : Prop :=
  step s e t ∧ cond s e

/-- **The guard rule.**  Where a step keeps `P` just when it is guarded, and does not
bring it about, a run that comes to `P` is a run of guarded steps. -/
theorem Run.guarded_iff {step : σ → ε → σ → Prop} {cond : σ → ε → Prop} {I P : σ → Prop}
    {s t : σ} {es : List ε} (hinv : ∀ s e t, step s e t → I s → I t)
    (hstep : ∀ s e t, step s e t → I s → (P t ↔ P s ∧ cond s e)) (h : Run step s es t)
    (hs : I s) (hP : P s) : P t ↔ Run (Guarded step cond) s es t := by
  constructor
  · intro ht
    induction h with
    | nil => exact .nil _
    | snoc hrun hlast ih =>
      obtain ⟨hbefore, hcond⟩ := (hstep _ _ _ hlast (hrun.invariant hinv hs)).mp ht
      exact (ih hbefore).snoc ⟨hlast, hcond⟩
  · intro hguarded
    clear h
    induction hguarded with
    | nil => exact hP
    | snoc hrun hlast ih =>
      have hI := (hrun.mono fun _ _ _ h => h.1).invariant hinv hs
      exact (hstep _ _ _ hlast.1 hI).mpr ⟨ih, hlast.2⟩

/-- **The keeping rule.**  Where a step from a state with `P` keeps `P` just when it is
guarded, the runs all of whose states have `P` are the runs of guarded steps. -/
theorem Run.kept_iff {step : σ → ε → σ → Prop} {cond : σ → ε → Prop} {I P : σ → Prop}
    {s t : σ} {es : List ε} (hinv : ∀ s e t, step s e t → I s → I t)
    (hstep : ∀ s e t, step s e t → I s → P s → (P t ↔ cond s e)) (hs : I s) (hP : P s) :
    Run (fun s e t => step s e t ∧ P t) s es t ↔ Run (Guarded step cond) s es t := by
  constructor
  · intro h
    induction h with
    | nil => exact .nil _
    | snoc hrun hlast ih =>
      obtain ⟨hI, hbefore⟩ := hrun.invariant
        (fun a e b hab ha => And.intro (hinv a e b hab.1 ha.1) hab.2) (And.intro hs hP)
      exact ih.snoc ⟨hlast.1, (hstep _ _ _ hlast.1 hI hbefore).mp hlast.2⟩
  · intro h
    induction h with
    | nil => exact .nil _
    | snoc hrun hlast ih =>
      obtain ⟨hI, hbefore⟩ := ih.invariant
        (fun a e b hab ha => And.intro (hinv a e b hab.1 ha.1) hab.2) (And.intro hs hP)
      exact ih.snoc ⟨hlast.1, (hstep _ _ _ hlast.1 hI hbefore).mpr hlast.2⟩

/-- **The step rule.**  Where a step from a state with `P` is as `R` asks just when it
is guarded, and such a step keeps `P`, the runs all of whose steps are as `R` asks are
the runs of guarded steps. -/
theorem Run.respected_iff {step R : σ → ε → σ → Prop} {cond : σ → ε → Prop} {P : σ → Prop}
    {s t : σ} {es : List ε} (hkeep : ∀ s e t, step s e t → P s → R s e t → P t)
    (hstep : ∀ s e t, step s e t → P s → (R s e t ↔ cond s e)) (hs : P s) :
    Run (fun s e t => step s e t ∧ R s e t) s es t ↔ Run (Guarded step cond) s es t := by
  have hkept : ∀ s e t, Guarded step cond s e t → P s → P t := fun s e t h hP =>
    hkeep s e t h.1 hP ((hstep s e t h.1 hP).mpr h.2)
  constructor
  · intro h
    induction h with
    | nil => exact .nil _
    | snoc hrun hlast ih =>
      have hP := hrun.invariant (fun s e t h hP => hkeep s e t h.1 hP h.2) hs
      exact ih.snoc ⟨hlast.1, (hstep _ _ _ hlast.1 hP).mp hlast.2⟩
  · intro h
    induction h with
    | nil => exact .nil _
    | snoc hrun hlast ih =>
      have hP := hrun.invariant hkept hs
      exact ih.snoc ⟨hlast.1, (hstep _ _ _ hlast.1 hP).mpr hlast.2⟩

end TransitionSystem
