import Zest.ExecutionAttempts
import Zest.TransitionSystem

/-! # At most one dispatch of an attempt

Whoever wants to dispatch an attempt opens a unit of work, reads the attempt,
marks it as dispatching, charges the budget and commits; the Worker is invoked
after the commit.  A unit of work commits all of its writes or none of them, but
others run beside it: under the read-committed isolation that the engine is
opened with, each statement sees what was committed before it, an `UPDATE` waits
for the holder of the row and then writes whatever it finds, and the charge of a
request that has been charged meanwhile is silently skipped.

So two units of work that have both read `AUTHORIZED` both commit, and the
Worker is invoked twice.  `at_most_once_dispatch` says that nothing else goes
wrong: as long as nobody reads the attempt inside another's open dispatch, the
Worker is invoked at most once, and an attempt seen in `DISPATCHING` is never
dispatched again.
-/
namespace Zest

open TransitionSystem

/-- A caller: a process that executes or resumes an experiment.  A crashed one
comes back as another. -/
abbrev Caller := Nat

/-- How far a caller has come.  The phases from `selected` to `consumed` are
inside the unit of work of a dispatch, before its commit. -/
inductive CallerPhase where
  | idle
  /-- Holds the `AuthorizedDispatch`. -/
  | ready
  /-- Has read `AUTHORIZED`. -/
  | selected
  /-- Has written `DISPATCHING`, and holds the attempt's row. -/
  | updated
  /-- Has charged the budget, and holds its row; the ledger to commit. -/
  | consumed (ledger : Ledger)
  /-- Has committed, and not invoked the Worker yet. -/
  | committed
  | invoked
  /-- Has read `DISPATCHING`. -/
  | found
  /-- Has written `UNKNOWN_OUTCOME`, and holds the attempt's row. -/
  | marked
  /-- Has returned, or crashed. -/
  | done
  deriving DecidableEq, Repr

/-- The caller is inside the unit of work of a dispatch. -/
def CallerPhase.opened : CallerPhase → Bool
  | .selected | .updated | .consumed _ => true
  | _ => false

/-- The caller has dispatched the attempt, or found that another did. -/
def CallerPhase.past : CallerPhase → Bool
  | .committed | .invoked | .found | .marked => true
  | _ => false

structure DispatchSystem where
  /-- The committed state of the attempt, once there is one. -/
  attempt : Option ExecutionAttemptState
  /-- The committed ledger of the attempt's budget. -/
  ledger : Ledger
  phase : Caller → CallerPhase
  /-- Who holds the row of the attempt. -/
  attemptLock : Option Caller
  /-- Who holds the row of the issued budget. -/
  budgetLock : Option Caller
  /-- Who has invoked the Worker. -/
  invocations : List Caller

inductive DispatchEvent where
  | authorize (p : Caller)
  | resume (p : Caller)
  | select (p : Caller)
  | failClosed (p : Caller)
  | setDispatching (p : Caller)
  | consume (p : Caller)
  | overspend (p : Caller)
  | commit (p : Caller)
  | invoke (p : Caller)
  | recordOutcome (p : Caller)
  | setUnknown (p : Caller)
  | commitUnknown (p : Caller)
  | crash (p : Caller)
  | otherCharge

namespace DispatchSystem

/-- The caller moves on. -/
def goto (s : DispatchSystem) (p : Caller) (phase : CallerPhase) : DispatchSystem :=
  { s with phase := fun q => if q = p then phase else s.phase q }

/-- The rows that the caller holds are let go. -/
def unlock (s : DispatchSystem) (p : Caller) : DispatchSystem :=
  { s with
    attemptLock := if s.attemptLock = some p then none else s.attemptLock
    budgetLock := if s.budgetLock = some p then none else s.budgetLock }

end DispatchSystem

/-- Where `dispatch` goes from what it reads. -/
def afterSelect : Option ExecutionAttemptState → CallerPhase
  | some .authorized => .selected
  | some .dispatching => .found
  | _ => .done

/-- Where `_fail_closed_existing` goes from what it reads; it never dispatches. -/
def afterFailClosed : Option ExecutionAttemptState → CallerPhase
  | some .dispatching => .found
  | _ => .done

variable (issued : IssuedBudget) (requestId : Id)

/-- One statement of one caller, its commit or rollback, or the invocation. -/
inductive DispatchStep (s : DispatchSystem) : DispatchEvent → DispatchSystem → Prop where
  /-- `authorize` commits the attempt and goes on to dispatch it. -/
  | authorize {p : Caller} (h : s.phase p = .idle) (hnone : s.attempt = none) :
      DispatchStep s (.authorize p) (({ s with attempt := some .authorized }).goto p .ready)
  /-- `_resume_authorized` has listed the attempt as authorized. -/
  | resume {p : Caller} (h : s.phase p = .idle) (hread : s.attempt = some .authorized) :
      DispatchStep s (.resume p) (s.goto p .ready)
  | select {p : Caller} (h : s.phase p = .ready) :
      DispatchStep s (.select p) (s.goto p (afterSelect s.attempt))
  /-- `execute` has found that the experiment has an attempt. -/
  | failClosed {p : Caller} (h : s.phase p = .idle) (hsome : s.attempt.isSome = true) :
      DispatchStep s (.failClosed p) (s.goto p (afterFailClosed s.attempt))
  | setDispatching {p : Caller} (h : s.phase p = .selected) (hfree : s.attemptLock = none) :
      DispatchStep s (.setDispatching p) (({ s with attemptLock := some p }).goto p .updated)
  | consume {p : Caller} {requestAmount : Nat} {ledger : Ledger} (h : s.phase p = .updated)
      (hfree : s.budgetLock = none)
      (hcharge : recordDispatchConsumption issued s.ledger requestId requestAmount =
        some ledger) :
      DispatchStep s (.consume p)
        (({ s with budgetLock := some p }).goto p (.consumed ledger))
  /-- The budget is exhausted: the unit of work is rolled back. -/
  | overspend {p : Caller} {requestAmount : Nat} (h : s.phase p = .updated)
      (hfree : s.budgetLock = none)
      (hcharge : recordDispatchConsumption issued s.ledger requestId requestAmount = none) :
      DispatchStep s (.overspend p) ((s.unlock p).goto p .done)
  | commit {p : Caller} {ledger : Ledger} (h : s.phase p = .consumed ledger) :
      DispatchStep s (.commit p)
        ((({ s with attempt := some .dispatching, ledger := ledger }).unlock p).goto p .committed)
  | invoke {p : Caller} (h : s.phase p = .committed) :
      DispatchStep s (.invoke p) (({ s with invocations := p :: s.invocations }).goto p .invoked)
  /-- `_record_outcome`: the state it classifies, or `FAILED` where ingestion
  rejects the result. -/
  | recordOutcome {p : Caller} {state : ExecutionAttemptState} (h : s.phase p = .invoked)
      (hfree : s.attemptLock = none)
      (hstate : state = .failed ∨ ∃ invocation, state = (classifyInvocation invocation).1) :
      DispatchStep s (.recordOutcome p) { s with attempt := some state }
  | setUnknown {p : Caller} (h : s.phase p = .found) (hfree : s.attemptLock = none) :
      DispatchStep s (.setUnknown p) (({ s with attemptLock := some p }).goto p .marked)
  | commitUnknown {p : Caller} (h : s.phase p = .marked) :
      DispatchStep s (.commitUnknown p)
        ((({ s with attempt := some .unknownOutcome }).unlock p).goto p .done)
  | crash {p : Caller} : DispatchStep s (.crash p) ((s.unlock p).goto p .done)
  /-- Another attempt of the run is charged. -/
  | otherCharge {record : BudgetConsumption} (hfree : s.budgetLock = none)
      (hother : record.requestId ≠ some (.worker requestId)) :
      DispatchStep s .otherCharge { s with ledger := s.ledger ++ [record] }

/-- Nobody reads the attempt to dispatch it while a dispatch of it that has read
`AUTHORIZED` is neither committed nor rolled back. -/
def Isolated (s : DispatchSystem) : DispatchEvent → Prop
  | .select _ => ∀ q, (s.phase q).opened = false
  | _ => True

namespace DispatchSystem

/-- The attempt does not exist yet, and nobody has started. -/
structure Initial (s : DispatchSystem) : Prop where
  attempt : s.attempt = none
  idle : ∀ p, s.phase p = .idle
  invocations : s.invocations = []

/-- The attempt has not been dispatched. -/
def Fresh (s : DispatchSystem) : Prop := s.attempt = none ∨ s.attempt = some .authorized

/-- What isolated steps keep: an undispatched attempt has left no trace, a
dispatch in progress is the only one, and whoever is about to invoke the Worker
is the first. -/
structure Inv (s : DispatchSystem) : Prop where
  fresh_phase : s.Fresh → ∀ q, (s.phase q).past = false
  fresh_invocations : s.Fresh → s.invocations = []
  opened_authorized : ∀ q, (s.phase q).opened = true → s.attempt = some .authorized
  opened_unique : ∀ q r, (s.phase q).opened = true → (s.phase r).opened = true → q = r
  committed_unique : ∀ q r, s.phase q = .committed → s.phase r = .committed → q = r
  committed_first : ∀ q, s.phase q = .committed → s.invocations = []
  invocations_le : s.invocations.length ≤ 1

theorem Initial.inv {s : DispatchSystem} (h : s.Initial) : s.Inv := by
  refine ⟨?_, fun _ => h.invocations, ?_, ?_, ?_, ?_, ?_⟩
  · intro _ q; rw [h.idle]; rfl
  · intro q hq; rw [h.idle] at hq; cases hq
  · intro q r hq; rw [h.idle] at hq; cases hq
  · intro q r hq; rw [h.idle] at hq; cases hq
  · intro q hq; rw [h.idle] at hq; cases hq
  · simp [h.invocations]

@[simp] theorem goto_phase_self (s : DispatchSystem) (p : Caller) (ph : CallerPhase) :
    (s.goto p ph).phase p = ph := if_pos rfl

theorem goto_phase_ne (s : DispatchSystem) {p q : Caller} (ph : CallerPhase) (h : q ≠ p) :
    (s.goto p ph).phase q = s.phase q := if_neg h

/-- A caller moves on, without committing a dispatch: it opens one only where
there is no other, and finds one only where there has been one. -/
theorem Inv.move {s t : DispatchSystem} {p : Caller} {ph : CallerPhase} (hi : s.Inv)
    (hattempt : t.attempt = s.attempt) (hinvocations : t.invocations = s.invocations)
    (hself : t.phase p = ph) (hother : ∀ q, q ≠ p → t.phase q = s.phase q)
    (hopen : ph.opened = true →
      s.attempt = some .authorized ∧ ∀ q, q ≠ p → (s.phase q).opened = false)
    (hpast : ph.past = true → ¬ s.Fresh) (hcommitted : ph ≠ .committed) : t.Inv := by
  have hfresh : t.Fresh ↔ s.Fresh := by simp only [Fresh, hattempt]
  refine ⟨?_, ?_, ?_, ?_, ?_, ?_, ?_⟩
  · intro hf q
    by_cases hq : q = p
    · subst hq
      rw [hself, ← Bool.not_eq_true]
      exact fun h => hpast h (hfresh.1 hf)
    · rw [hother q hq]
      exact hi.fresh_phase (hfresh.1 hf) q
  · rw [hinvocations]
    exact fun hf => hi.fresh_invocations (hfresh.1 hf)
  · intro q hq
    rw [hattempt]
    by_cases hqp : q = p
    · subst hqp
      rw [hself] at hq
      exact (hopen hq).1
    · rw [hother q hqp] at hq
      exact hi.opened_authorized q hq
  · intro q r hq hr
    by_cases hqp : q = p <;> by_cases hrp : r = p
    · rw [hqp, hrp]
    · subst hqp
      rw [hself] at hq
      rw [hother r hrp, (hopen hq).2 r hrp] at hr
      cases hr
    · subst hrp
      rw [hself] at hr
      rw [hother q hqp, (hopen hr).2 q hqp] at hq
      cases hq
    · rw [hother q hqp] at hq
      rw [hother r hrp] at hr
      exact hi.opened_unique q r hq hr
  · intro q r hq hr
    have hne : ∀ x, t.phase x = .committed → x ≠ p := by
      rintro x hx rfl
      exact hcommitted (hself.symm.trans hx)
    rw [hother q (hne q hq)] at hq
    rw [hother r (hne r hr)] at hr
    exact hi.committed_unique q r hq hr
  · intro q hq
    have hne : q ≠ p := by
      rintro rfl
      exact hcommitted (hself.symm.trans hq)
    rw [hother q hne] at hq
    rw [hinvocations]
    exact hi.committed_first q hq
  · rw [hinvocations]
    exact hi.invocations_le

/-- A caller inside a dispatch is the only one. -/
theorem Inv.opened_only {s : DispatchSystem} (hi : s.Inv) {p : Caller}
    (hp : (s.phase p).opened = true) :
    s.attempt = some .authorized ∧ ∀ q, q ≠ p → (s.phase q).opened = false := by
  refine ⟨hi.opened_authorized p hp, fun q hq => ?_⟩
  rw [← Bool.not_eq_true]
  exact fun h => hq (hi.opened_unique q p h hp)

theorem Inv.not_fresh_of_past {s : DispatchSystem} (hi : s.Inv) {p : Caller}
    (hp : (s.phase p).past = true) : ¬ s.Fresh := by
  intro hf
  rw [hi.fresh_phase hf p] at hp
  cases hp

/-- Once the attempt has been dispatched nobody is inside a dispatch. -/
theorem Inv.not_opened {s : DispatchSystem} (hi : s.Inv) (hf : ¬ s.Fresh) (q : Caller) :
    (s.phase q).opened = false := by
  rw [← Bool.not_eq_true]
  exact fun h => hf (Or.inr (hi.opened_authorized q h))

/-- A dispatched attempt is settled in one way or another. -/
theorem Inv.settle {s t : DispatchSystem} (hi : s.Inv) (hf : ¬ s.Fresh) (hf' : ¬ t.Fresh)
    (hinvocations : t.invocations = s.invocations)
    (hphase : ∀ q, (t.phase q).opened = true → (s.phase q).opened = true)
    (hcommitted : ∀ q, t.phase q = .committed → s.phase q = .committed) : t.Inv := by
  have hclosed : ∀ q, (t.phase q).opened ≠ true := by
    intro q hq
    have h := hphase q hq
    rw [hi.not_opened hf q] at h
    cases h
  refine ⟨fun h => (hf' h).elim, fun h => (hf' h).elim, fun q hq => (hclosed q hq).elim,
    fun q _ hq => (hclosed q hq).elim, ?_, ?_, ?_⟩
  · exact fun q r hq hr => hi.committed_unique q r (hcommitted q hq) (hcommitted r hr)
  · rw [hinvocations]
    exact fun q hq => hi.committed_first q (hcommitted q hq)
  · rw [hinvocations]
    exact hi.invocations_le

variable {issued requestId}

theorem not_fresh_of_state {s : DispatchSystem} {state : ExecutionAttemptState}
    (h : s.attempt = some state) (hne : state ≠ .authorized) : ¬ s.Fresh := by
  rintro (hf | hf) <;> rw [h] at hf <;> cases hf
  exact hne rfl

/-- **The step lemma.** -/
theorem Inv.step {s t : DispatchSystem} {ev : DispatchEvent} (hi : s.Inv)
    (h : DispatchStep issued requestId s ev t) (hiso : Isolated s ev) : t.Inv := by
  cases h with
  | @authorize p h hnone =>
    have hf : s.Fresh := Or.inl hnone
    have hquiet : ({ s with attempt := some .authorized } : DispatchSystem).Inv := by
      refine ⟨fun _ => hi.fresh_phase hf, fun _ => hi.fresh_invocations hf, fun _ _ => rfl,
        hi.opened_unique, hi.committed_unique, hi.committed_first, hi.invocations_le⟩
    exact hquiet.move rfl rfl (goto_phase_self ..) (fun q hq => goto_phase_ne _ _ hq)
      (fun h => by cases h) (fun h => by cases h) (by simp)
  | @resume p h hread =>
    exact hi.move rfl rfl (goto_phase_self ..) (fun q hq => goto_phase_ne _ _ hq)
      (fun h => by cases h) (fun h => by cases h) (by simp)
  | @select p h =>
    refine hi.move rfl rfl (goto_phase_self ..) (fun q hq => goto_phase_ne _ _ hq) ?_ ?_ ?_
    · intro hopen
      refine ⟨?_, fun q _ => hiso q⟩
      unfold afterSelect at hopen
      split at hopen <;> first | assumption | cases hopen
    · intro hpast
      unfold afterSelect at hpast
      split at hpast
      · cases hpast
      next hread => exact not_fresh_of_state hread (by decide)
      · cases hpast
    · unfold afterSelect
      split <;> simp
  | @failClosed p h hsome =>
    refine hi.move rfl rfl (goto_phase_self ..) (fun q hq => goto_phase_ne _ _ hq) ?_ ?_ ?_
    · intro hopen
      unfold afterFailClosed at hopen
      split at hopen <;> cases hopen
    · intro hpast
      unfold afterFailClosed at hpast
      split at hpast
      next hread => exact not_fresh_of_state hread (by decide)
      · cases hpast
    · unfold afterFailClosed
      split <;> simp
  | @setDispatching p h hfree =>
    exact hi.move rfl rfl (goto_phase_self ..) (fun q hq => goto_phase_ne _ _ hq)
      (fun _ => hi.opened_only (by rw [h]; rfl)) (fun h => by cases h) (by simp)
  | @consume p _ ledger h hfree hcharge =>
    exact hi.move rfl rfl (goto_phase_self ..) (fun q hq => goto_phase_ne _ _ hq)
      (fun _ => hi.opened_only (by rw [h]; rfl)) (fun h => by cases h) (by simp)
  | @overspend p _ h hfree hcharge =>
    exact hi.move rfl rfl (goto_phase_self ..) (fun q hq => goto_phase_ne _ _ hq)
      (fun h => by cases h) (fun h => by cases h) (by simp)
  | @crash p =>
    exact hi.move rfl rfl (goto_phase_self ..) (fun q hq => goto_phase_ne _ _ hq)
      (fun h => by cases h) (fun h => by cases h) (by simp)
  | @setUnknown p h hfree =>
    exact hi.move rfl rfl (goto_phase_self ..) (fun q hq => goto_phase_ne _ _ hq)
      (fun h => by cases h) (fun _ => hi.not_fresh_of_past (by rw [h]; rfl)) (by simp)
  | @commit p ledger h =>
    -- The only open dispatch commits, and nobody has committed before.
    have honly := hi.opened_only (p := p) (by rw [h]; rfl)
    have hf : s.Fresh := Or.inr honly.1
    have hnone : ∀ q, s.phase q ≠ .committed := by
      intro q hq
      have := hi.fresh_phase hf q
      rw [hq] at this
      cases this
    have hf' : ∀ t : DispatchSystem, t.attempt = some .dispatching → ¬ t.Fresh :=
      fun t ht => not_fresh_of_state ht (by decide)
    refine ⟨fun h => (hf' _ rfl h).elim, fun h => (hf' _ rfl h).elim, ?_, ?_, ?_, ?_, ?_⟩
    · intro q hq
      by_cases hqp : q = p
      · subst hqp; simp at hq; cases hq
      · rw [goto_phase_ne _ _ hqp] at hq
        exact absurd hq (by simp [unlock, honly.2 q hqp])
    · intro q r hq
      by_cases hqp : q = p
      · subst hqp; simp at hq; cases hq
      · rw [goto_phase_ne _ _ hqp] at hq
        exact absurd hq (by simp [unlock, honly.2 q hqp])
    · intro q r hq hr
      by_cases hqp : q = p <;> by_cases hrp : r = p
      · rw [hqp, hrp]
      · rw [goto_phase_ne _ _ hrp] at hr; exact (hnone r hr).elim
      · rw [goto_phase_ne _ _ hqp] at hq; exact (hnone q hq).elim
      · rw [goto_phase_ne _ _ hqp] at hq; exact (hnone q hq).elim
    · exact fun _ _ => hi.fresh_invocations hf
    · exact hi.invocations_le
  | @invoke p h =>
    have hf : ¬ s.Fresh := hi.not_fresh_of_past (p := p) (by rw [h]; rfl)
    have hfirst := hi.committed_first p h
    have hnone : ∀ q, (({ s with invocations := p :: s.invocations }).goto p .invoked).phase q ≠
        .committed := by
      intro q hq
      by_cases hqp : q = p
      · subst hqp; simp at hq
      · rw [goto_phase_ne _ _ hqp] at hq
        exact hqp (hi.committed_unique q p hq h)
    have hclosed : ∀ q, CallerPhase.opened
        ((({ s with invocations := p :: s.invocations }).goto p .invoked).phase q) ≠ true := by
      intro q hq
      by_cases hqp : q = p
      · subst hqp; simp at hq; cases hq
      · rw [goto_phase_ne _ _ hqp] at hq
        exact absurd hq (by simp [hi.not_opened hf q])
    exact ⟨fun h => (hf h).elim, fun h => (hf h).elim, fun q hq => (hclosed q hq).elim,
      fun q _ hq => (hclosed q hq).elim, fun q _ hq => (hnone q hq).elim,
      fun q hq => (hnone q hq).elim, by simp [goto, hfirst]⟩
  | @recordOutcome p state h hfree hstate =>
    have hf : ¬ s.Fresh := hi.not_fresh_of_past (p := p) (by rw [h]; rfl)
    have hne : state ≠ .authorized := by
      rcases hstate with rfl | ⟨invocation, rfl⟩
      · decide
      · exact (classifyInvocation_settled invocation).1
    exact hi.settle hf (not_fresh_of_state rfl hne) rfl (fun _ h => h) (fun _ h => h)
  | @commitUnknown p h =>
    have hf : ¬ s.Fresh := hi.not_fresh_of_past (p := p) (by rw [h]; rfl)
    refine hi.settle hf (not_fresh_of_state rfl (by decide)) rfl ?_ ?_
    · intro q hq
      by_cases hqp : q = p
      · subst hqp; simp at hq; cases hq
      · rw [goto_phase_ne _ _ hqp] at hq; exact hq
    · intro q hq
      by_cases hqp : q = p
      · subst hqp; simp at hq
      · rw [goto_phase_ne _ _ hqp] at hq; exact hq
  | otherCharge =>
    exact ⟨hi.fresh_phase, hi.fresh_invocations, hi.opened_authorized, hi.opened_unique,
      hi.committed_unique, hi.committed_first, hi.invocations_le⟩

/-- A dispatched attempt stays dispatched. -/
theorem not_fresh_step {s t : DispatchSystem} {ev : DispatchEvent}
    (h : DispatchStep issued requestId s ev t) (hf : ¬ s.Fresh) : ¬ t.Fresh := by
  cases h with
  | authorize _ hnone => exact (hf (Or.inl hnone)).elim
  | commit => exact not_fresh_of_state rfl (by decide)
  | commitUnknown => exact not_fresh_of_state rfl (by decide)
  | recordOutcome _ _ hstate =>
    rcases hstate with rfl | ⟨invocation, rfl⟩
    · exact not_fresh_of_state rfl (by decide)
    · exact not_fresh_of_state rfl (classifyInvocation_settled invocation).1
  | _ => exact hf

end DispatchSystem

/-- **At most one dispatch.**  In every run in which nobody reads the attempt
inside another's open dispatch, the Worker is invoked at most once; and once
the attempt has been `DISPATCHING`, no dispatch of it is committed again. -/
theorem at_most_once_dispatch (issued : IssuedBudget) (requestId : Id) {s₀ s : DispatchSystem}
    {es : List DispatchEvent} (hinit : s₀.Initial)
    (hrun : Run (Guarded (DispatchStep issued requestId) Isolated) s₀ es s) :
    s.invocations.length ≤ 1 ∧
    (s.attempt = some .dispatching → ∀ es' t,
      Run (Guarded (DispatchStep issued requestId) Isolated) s es' t →
      ∀ ev t', DispatchStep issued requestId t ev t' → ∀ p, ev ≠ .commit p) := by
  have hinv : s.Inv := hrun.invariant (fun _ _ _ h hi => hi.step h.1 h.2) hinit.inv
  refine ⟨hinv.invocations_le, fun hdispatching es' t hrest ev t' hstep p hev => ?_⟩
  have hlater : t.Inv ∧ ¬ t.Fresh :=
    hrest.invariant (I := fun u => u.Inv ∧ ¬ u.Fresh)
      (fun _ _ _ h hi => ⟨hi.1.step h.1 h.2, DispatchSystem.not_fresh_step h.1 hi.2⟩)
      ⟨hinv, DispatchSystem.not_fresh_of_state hdispatching (by decide)⟩
  subst hev
  cases hstep with
  | commit h =>
    have hclosed := hlater.1.not_opened hlater.2 p
    rw [h] at hclosed
    cases hclosed

/-! ## Two dispatches side by side -/

/-- Nothing has happened yet. -/
def idleSystem : DispatchSystem :=
  { attempt := none, ledger := [], phase := fun _ => .idle, attemptLock := none
    budgetLock := none, invocations := [] }

def smallBudget : IssuedBudget :=
  { maxRequests := 1, maxToolCalls := 1, maxRuntimeMs := 1000, maxConcurrency := 1 }

/-- The ledger with the attempt charged once. -/
def chargedLedger : Ledger :=
  [{ resourceType := .workerInvocation, amount := 1, requestId := some (.worker 5) },
   { resourceType := .request, amount := 1, requestId := some (.worker 5) }]

/-- Caller `1` resumes the attempt that caller `0` has authorized, reads it
before caller `0` commits, and writes after. -/
theorem dispatched_twice :
    ∃ (s : DispatchSystem) (es : List DispatchEvent), idleSystem.Initial ∧
      Run (DispatchStep smallBudget 5) idleSystem es s ∧ s.invocations = [1, 0] := by
  have hinit : idleSystem.Initial := ⟨rfl, fun _ => rfl, rfl⟩
  have hfirst : recordDispatchConsumption smallBudget [] 5 1 = some chargedLedger := rfl
  have hsecond : recordDispatchConsumption smallBudget chargedLedger 5 1 =
      some chargedLedger := rfl
  have hresumed : Run (DispatchStep smallBudget 5) idleSystem _ _ :=
    ((Run.nil _).snoc (.authorize (p := 0) rfl rfl)).snoc (.resume (p := 1) rfl rfl)
  -- Both read `AUTHORIZED`.
  have hread := (hresumed.snoc (.select (p := 0) rfl)).snoc (.select (p := 1) rfl)
  have hcommit := ((hread.snoc (.setDispatching (p := 0) rfl rfl)).snoc
    (.consume (p := 0) rfl rfl hfirst)).snoc (.commit (p := 0) rfl)
  have hcommit' := ((hcommit.snoc (.setDispatching (p := 1) rfl rfl)).snoc
    (.consume (p := 1) rfl rfl hsecond)).snoc (.commit (p := 1) rfl)
  have hinvoked := (hcommit'.snoc (.invoke (p := 0) rfl)).snoc (.invoke (p := 1) rfl)
  exact ⟨_, _, hinit, hinvoked, rfl⟩

/-- A single caller authorizes the attempt, dispatches it and invokes the
Worker. -/
theorem at_most_once_dispatch_single :
    ∃ s : DispatchSystem, s.attempt = some .dispatching ∧ s.invocations = [0] ∧
      s.invocations.length ≤ 1 ∧
      (s.attempt = some .dispatching → ∀ es' t,
        Run (Guarded (DispatchStep smallBudget 5) Isolated) s es' t →
        ∀ ev t', DispatchStep smallBudget 5 t ev t' → ∀ p, ev ≠ .commit p) := by
  have hinit : idleSystem.Initial := ⟨rfl, fun _ => rfl, rfl⟩
  have hcharge : recordDispatchConsumption smallBudget [] 5 1 = some chargedLedger := rfl
  have hauthorize : Run (Guarded (DispatchStep smallBudget 5) Isolated) idleSystem _
      (({ idleSystem with attempt := some .authorized }).goto 0 .ready) :=
    (Run.nil _).snoc ⟨.authorize rfl rfl, trivial⟩
  have hisolated : Isolated (({ idleSystem with attempt := some .authorized }).goto 0 .ready)
      (.select 0) := by
    intro q
    by_cases hq : q = 0
    · subst hq; rfl
    · rw [DispatchSystem.goto_phase_ne _ _ hq]; rfl
  have hselect := hauthorize.snoc ⟨.select (p := 0) rfl, hisolated⟩
  have hcommit := ((hselect.snoc ⟨.setDispatching (p := 0) rfl rfl, trivial⟩).snoc
    ⟨.consume (p := 0) rfl rfl hcharge, trivial⟩).snoc ⟨.commit (p := 0) rfl, trivial⟩
  have hinvoke := hcommit.snoc ⟨.invoke (p := 0) rfl, trivial⟩
  exact ⟨_, rfl, rfl, at_most_once_dispatch smallBudget 5 hinit hinvoke⟩

end Zest
