import Zest.ModelCallBudget

/-! # Runs that come to an end

A run is bounded by its number of cycles and by its allowance of model calls.
Each call that returns and leaves the run ready or running has counted a cycle
or charged a model call, so the sum of the two is a measure of how far the run
has come, and no run comes further than its bounds.

Two kinds of calls break this.  A cycle of surface discovery and an attempt that
is resumed count a cycle without a look at the bounds; and a proposal that is
not admitted ends its cycle uncounted, although it may have charged nothing.
-/
namespace Zest
namespace Controller

open UnitOfWork TransitionSystem

/-- The proposal of the call is not admitted. -/
def declined (input : StepInput) (s : Store) : Bool :=
  if opensExploratory input s then input.admission = .rejected
  else
    match input.generator, input.falsifier with
    | .malformed, _ => true
    | .usable, .malformed => true
    | .usable, .usable => input.admission = .rejected
    | _, _ => false

/-- The model calls of the call are charged already. -/
def repeatsCharges (input : StepInput) (s : Store) : Bool :=
  s.row.activeCycleId.any fun cycleId =>
    chargedAlready s.ledger .modelCall (some (.modelInvocation cycleId .generator 1)) &&
      (input.generator ≠ .usable ||
        chargedAlready s.ledger .modelCall (some (.modelInvocation cycleId .falsifier 1)))

/-- The call ends its cycle neither counted nor charged. -/
def declinesForFree (input : StepInput) (s : Store) : Bool :=
  opensCycle input s && declined input s &&
    (opensExploratory input s || repeatsCharges input s)

/-- The call is of neither kind that the bounds do not reach: it counts a cycle
only if there is one left, and ends none for free. -/
def staysBounded (input : StepInput) (s : Store) : Bool :=
  (!endsUnchecked input s || s.row.cycleNumber < s.row.bounds.maxCycles) &&
    !declinesForFree input s

/-- How far the run has come. -/
def progress (s : Store) : Nat := s.row.cycleNumber + ledgerTotal s.ledger .modelCall

/-- The charges of the model while a call from `s₀` runs. -/
structure Grown (maxModelCalls : Nat) (s₀ t : Store) : Prop extends Allowed maxModelCalls t where
  grown : ledgerTotal s₀.ledger .modelCall ≤ ledgerTotal t.ledger .modelCall

theorem Grown.quiet {maxModelCalls : Nat} {s₀ s t : Store} (h : Grown maxModelCalls s₀ s)
    (hq : Quiet s t) : Grown maxModelCalls s₀ t :=
  ⟨h.toAllowed.quiet hq, by rw [hq.total]; exact h.grown⟩

/-- What one call of the model does to the charges. -/
structure Charged (port : BudgetEnforcedModelPort) (role : ModelRole) (reply : ModelReply)
    (s : Store) (r : BudgetEnforcedModelPort × CallOutcome) (t : Store) : Prop where
  malformed : r.2 = .malformed → reply = .malformed
  usable : r.2 = .usable → reply = .usable ∧ r.1 = port.attempted role
  grown : ledgerTotal s.ledger .modelCall ≤ ledgerTotal t.ledger .modelCall
  anew : r.2 = .malformed ∨ r.2 = .usable →
    chargedAlready s.ledger .modelCall (some (port.nextInvocation role)) = false →
      ledgerTotal s.ledger .modelCall < ledgerTotal t.ledger .modelCall
  others : ∀ invocation, invocation ≠ port.nextInvocation role →
    chargedAlready t.ledger .modelCall (some invocation) =
      chargedAlready s.ledger .modelCall (some invocation)
  nextId : t.nextId = s.nextId

variable {input : StepInput} {s₀ s t : Store} {current : ResearchOrchestrationRecord}
  {maxModelCalls : Nat}

theorem complete_charged {port : BudgetEnforcedModelPort} {role : ModelRole} {reply : ModelReply}
    (h : Underway s₀ current s) (hs : Grown maxModelCalls s₀ s)
    (hmax : s₀.row.bounds.maxModelCalls = maxModelCalls) (hid : port.cycleId < 2 * s.nextId) :
    Holds (Throughout input s₀ (Grown maxModelCalls s₀))
      (fun r t => Underway s₀ current t ∧ Grown maxModelCalls s₀ t ∧
        Charged port role reply s r t)
      (complete port role reply) s := by
  apply complete_rule (h.throughout hs)
  · intro port' outcome husable hmalformed
    refine ⟨h, hs, ⟨fun heq => absurd heq hmalformed, fun heq => absurd heq husable,
      Nat.le_refl _, ?_, fun _ _ => rfl, rfl⟩⟩
    rintro (heq | heq)
    · exact absurd heq hmalformed
    · exact absurd heq husable
  · intro _ ledger hinsert
    rcases insertWithinAllowance_eq_some hinsert with ⟨hdup, rfl⟩ | ⟨-, hallow, rfl⟩
    · refine ⟨⟨Or.inl h.row, hs⟩, ?_⟩
      rintro t rfl
      have hreplayed : Grown maxModelCalls s₀ { s with
          modelInvocations := s.modelInvocations ++ [port.nextInvocation role] } :=
        ⟨⟨hs.within, hs.issued⟩, hs.grown⟩
      refine ⟨⟨Or.inl h.row, hreplayed⟩, fun outcome hmalformed husable =>
        ⟨⟨h.record, h.row⟩, hreplayed, ⟨hmalformed, fun heq => ⟨husable heq, rfl⟩,
          Nat.le_refl _, ?_, fun _ _ => rfl, rfl⟩⟩⟩
      intro _ hnew
      rw [hnew] at hdup
      cases hdup
    · rw [h.row.bounds, hmax] at hallow
      have hallow : 1 + ledgerTotal s.ledger .modelCall ≤ maxModelCalls := by
        simpa [withinAllowance] using hallow
      have hmore : ledgerTotal s.ledger .modelCall <
          ledgerTotal (s.ledger ++ [modelCharge (port.nextInvocation role)]) .modelCall := by
        simp [ledgerTotal_append, ledgerTotal_singleton, modelCharge]
      have hgrown : ∀ modelInvocations, Grown maxModelCalls s₀ { s with
          ledger := s.ledger ++ [modelCharge (port.nextInvocation role)]
          modelInvocations := modelInvocations } := fun _ =>
        ⟨hs.toAllowed.charge hid hallow, Nat.le_trans hs.grown (Nat.le_of_lt hmore)⟩
      refine ⟨⟨Or.inl h.row, hgrown s.modelInvocations⟩, ?_⟩
      rintro t rfl
      refine ⟨⟨Or.inl h.row, hgrown _⟩, fun outcome hmalformed husable =>
        ⟨⟨h.record, h.row⟩, hgrown _, ⟨hmalformed, fun heq => ⟨husable heq, rfl⟩,
          Nat.le_of_lt hmore, fun _ _ => hmore, ?_, rfl⟩⟩⟩
      intro invocation hne
      have hother : port.nextInvocation role ≠ invocation := fun heq => hne heq.symm
      rw [chargedAlready_append]
      simp [hother]

/-- What a proposal that is declined would charge is not all charged before. -/
theorem uncharged_of_declined {opportunityId : Option Id} {cycleId : Id}
    (h₀ : Allowed maxModelCalls s₀) (hfree : declinesForFree input s₀ = false)
    (hopen : Opened input s₀ opportunityId cycleId s) (hdeclined : declined input s₀ = true) :
    chargedAlready s.ledger .modelCall (some (.modelInvocation cycleId .generator 1)) = false ∨
      input.generator = .usable ∧
        chargedAlready s.ledger .modelCall (some (.modelInvocation cycleId .falsifier 1)) =
          false := by
  rw [hopen.quiet.charged, hopen.quiet.charged]
  rcases hopen.cycleId with hcycle | ⟨-, hnew⟩
  · have hrepeats : repeatsCharges input s₀ = false := by
      simp only [declinesForFree, hopen.opens, hdeclined, Bool.true_and, Bool.or_eq_false_iff]
        at hfree
      exact hfree.2
    simp only [repeatsCharges, hcycle, Option.any_some, Bool.and_eq_false_iff,
      Bool.or_eq_false_iff, decide_eq_false_iff_not, ne_eq, Decidable.not_not] at hrepeats
    exact hrepeats
  · have hunder : chargedUnder s₀.ledger cycleId = false := by
      cases hcharged : chargedUnder s₀.ledger cycleId with
      | false => rfl
      | true => exact absurd (h₀.issued cycleId hcharged) (Nat.not_lt.mpr hnew)
    exact Or.inl (chargedAlready_of_not_under hunder .generator 1)

/-- **A proposal** that is not admitted has charged a model call. -/
theorem propose_grown (hmax : s₀.row.bounds.maxModelCalls = maxModelCalls)
    (h₀ : Allowed maxModelCalls s₀) (hfree : declinesForFree input s₀ = false) :
    ProposesUnder input s₀ (Grown maxModelCalls s₀)
      (fun t => ledgerTotal s₀.ledger .modelCall < ledgerTotal t.ledger .modelCall) := by
  intro current opportunityId cycleId s h hs hopen
  have hL : ∀ s t, Quiet s t → Grown maxModelCalls s₀ s → Grown maxModelCalls s₀ t :=
    fun _ _ hq hs => hs.quiet hq
  have hG : ∀ s t, Quiet s t →
      ledgerTotal s₀.ledger .modelCall < ledgerTotal s.ledger .modelCall →
      ledgerTotal s₀.ledger .modelCall < ledgerTotal t.ledger .modelCall :=
    fun _ _ hq hs => by rw [hq.total]; exact hs
  have htotal := hopen.quiet.total
  have hbymodel : ∀ opportunityId, opensExploratory input s₀ = false →
      Holds (Throughout input s₀ (Grown maxModelCalls s₀)) (ProposalEnd s₀ (Grown maxModelCalls s₀)
        fun t => ledgerTotal s₀.ledger .modelCall < ledgerTotal t.ledger .modelCall)
      (proposeByModel input current opportunityId cycleId) s := by
    intro opportunityId hexploratory
    unfold proposeByModel
    apply Holds.seq (complete_charged h hs hmax hopen.issued)
    rintro ⟨port, generated⟩ t ⟨ht, hst, hgenerated⟩
    dsimp only
    split
    next hfailed =>
      refine persistFailure_ends hL hG ht hst (fun hmalformed => ?_) hfailed
      have hreply := hgenerated.malformed hmalformed
      have hdeclined : declined input s₀ = true := by simp [declined, hexploratory, hreply]
      rcases uncharged_of_declined h₀ hfree hopen hdeclined with hnew | ⟨husable, -⟩
      · have hmore := hgenerated.anew (Or.inl hmalformed) hnew
        omega
      · rw [hreply] at husable
        cases husable
    next hsucceeded =>
      have houtcome : generated = .usable := by simpa using hsucceeded
      obtain ⟨hreply, rfl⟩ := hgenerated.usable houtcome
      have hid : cycleId < 2 * t.nextId := by rw [hgenerated.nextId]; exact hopen.issued
      apply Holds.seq (complete_charged ht hst hmax hid)
      rintro ⟨port', challenged⟩ u ⟨hu, hsu, hchallenged⟩
      dsimp only
      -- either of the two calls may be the one that is new
      have hmore : challenged = .malformed ∨ challenged = .usable →
          declined input s₀ = true →
            ledgerTotal s₀.ledger .modelCall < ledgerTotal u.ledger .modelCall := by
        intro hinvoked hdeclined
        have hfirst := hgenerated.grown
        have hsecond := hchallenged.grown
        rcases uncharged_of_declined h₀ hfree hopen hdeclined with hnew | ⟨-, hnew⟩
        · have hmore := hgenerated.anew (Or.inr houtcome) hnew
          omega
        · have hmore := hchallenged.anew hinvoked
            ((hgenerated.others _ (by simp [BudgetEnforcedModelPort.nextInvocation])).trans hnew)
          omega
      split
      next hfailed =>
        refine persistFailure_ends hL hG hu hsu (fun hmalformed => ?_) hfailed
        have hreply' := hchallenged.malformed hmalformed
        exact hmore (Or.inl hmalformed) (by simp [declined, hexploratory, hreply, hreply'])
      next hsucceeded =>
        have houtcome' : challenged = .usable := by simpa using hsucceeded
        obtain ⟨hreply', -⟩ := hchallenged.usable houtcome'
        refine persistProposal_ends hL hG hu hsu
          (by rw [hchallenged.nextId]; exact hid) (fun hrejected => ?_)
        exact hmore (Or.inr houtcome')
          (by simp [declined, hexploratory, hreply, hreply', hrejected])
  unfold propose
  split
  · exact hbymodel none hopen.exploratory.symm
  next opportunityId =>
    apply Holds.seq (read_continues h hs)
    rintro opportunity t ⟨hfound, rfl⟩
    split
    · trivial
    next opportunity =>
      have hexploratory : opensExploratory input s₀ = opportunity.exploratory := by
        rw [← hopen.exploratory]
        simp [opportunityIsExploratory, ← hfound]
      split
      next hyes =>
        refine admitRegistryExternal_ends hL hG h hs hopen.issued (fun hrejected => ?_)
        rw [hyes] at hexploratory
        simp [declinesForFree, hopen.opens, declined, hexploratory, hrejected] at hfree
      next hno => exact hbymodel _ (hexploratory.trans (by simpa using hno))

/-- What every call finds, and leaves. -/
structure Bounded (bounds : OrchestrationBounds) (s : Store) : Prop where
  same : s.row.bounds = bounds
  active : ∀ cycleId, s.row.activeCycleId = some cycleId → cycleId < 2 * s.nextId
  allowed : Allowed bounds.maxModelCalls s
  cycle : s.row.cycleNumber ≤ bounds.maxCycles + 1
  runnable : s.row.state.halted = false → s.row.cycleNumber ≤ bounds.maxCycles

theorem Started.bounded (h : Started s) : Bounded s.row.bounds s := by
  obtain ⟨bounds, budgetId, hrow⟩ := h.row
  refine ⟨rfl, by simp [hrow, startRecord], .started h, ?_, fun _ => ?_⟩
  · simp [hrow, startRecord]
  · simp [hrow, startRecord]

/-- The run has not come further than its bounds. -/
theorem Bounded.progress_le {bounds : OrchestrationBounds} (h : Bounded bounds s)
    (hrunnable : s.row.state.halted = false) :
    progress s ≤ bounds.maxCycles + bounds.maxModelCalls :=
  Nat.add_le_add (h.runnable hrunnable) h.allowed.within

/-- The row that a cycle ends with is within the bounds. -/
theorem Ended.bounded {bounds : OrchestrationBounds} (h : Ended input s t)
    (hs : Bounded bounds s) (hrunnable : s.row.state.halted = false)
    (hcond : staysBounded input s = true) (hallowed : Allowed bounds.maxModelCalls t) :
    Bounded bounds t := by
  have hcycle := hs.runnable hrunnable
  have hbounds := hs.same
  refine ⟨h.bounds.trans hbounds, h.active, hallowed, ?_, fun hleft => ?_⟩
  · cases h.ending with
    | stopped _ heq => omega
    | finished heq _ => omega
    | unchecked _ heq => omega
    | notAdmitted heq => omega
  · cases h.ending with
    | stopped halted _ => rw [halted] at hleft; cases hleft
    | finished heq within => rw [hbounds] at within; omega
    | unchecked hcall heq =>
      simp only [staysBounded, hcall, Bool.not_true, Bool.false_or, Bool.and_eq_true,
        decide_eq_true_eq] at hcond
      rw [hbounds] at hcond
      omega
    | notAdmitted heq => omega

/-- **One call**, stopped anywhere: it takes the run no further than its bounds,
and ahead, if it returns and leaves the run ready or running. -/
theorem call_bounded {bounds : OrchestrationBounds} {tick : Tick} (h : Call s tick t)
    (hcond : staysBounded tick.input s = true) (hs : Bounded bounds s) :
    Bounded bounds t ∧ progress s ≤ progress t ∧
      (tick.result.isSome = true → tick.left.halted = false → progress s < progress t) := by
  obtain ⟨hexec, hleft⟩ := h
  by_cases hhalted : s.row.state.halted
  · obtain rfl := ((step_of_halted hhalted).sound rfl hexec).1
    refine ⟨hs, Nat.le_refl _, fun _ hrunnable => ?_⟩
    rw [hleft, hhalted] at hrunnable
    cases hrunnable
  · have hrunnable : s.row.state.halted = false := by simpa using hhalted
    have hfree : declinesForFree tick.input s = false := by
      simp only [staysBounded, Bool.and_eq_true, Bool.not_eq_true'] at hcond
      exact hcond.2
    have hmax : s.row.bounds.maxModelCalls = bounds.maxModelCalls := by rw [hs.same]
    have hgrown : Grown bounds.maxModelCalls s s := ⟨hs.allowed, Nat.le_refl _⟩
    have hstep := step_returned (fun _ _ hq hs => Grown.quiet hs hq)
      (fun _ _ hq hs => by rw [hq.total]; exact hs) (propose_grown hmax hs.allowed hfree)
      hrunnable hs.active hgrown
    have hongoing : Ongoing s s.nextId s.row := ⟨rfl, rfl, hrunnable, hs.active⟩
    obtain ⟨⟨hrow, hmore⟩, hreturned⟩ := hstep.sound ⟨Or.inl hongoing, hgrown⟩ hexec
    have hcycle := hs.runnable hrunnable
    have htotal := hmore.grown
    refine ⟨?_, ?_, fun hresult _ => ?_⟩
    · rcases hrow with hrow | hrow
      · have hsame := hrow.cycle
        exact ⟨hrow.bounds.trans hs.same, hrow.active, hmore.toAllowed, by omega,
          fun _ => by omega⟩
      · exact hrow.bounded hs hrunnable hcond hmore.toAllowed
    · have hnext : s.row.cycleNumber ≤ t.row.cycleNumber := by
        rcases hrow with hrow | hrow
        · exact Nat.le_of_eq hrow.cycle.symm
        · cases hrow.ending <;> omega
      exact Nat.add_le_add hnext htotal
    · obtain ⟨result, hresult⟩ := Option.isSome_iff_exists.mp hresult
      obtain ⟨hended, -, hcharged⟩ := hreturned result hresult
      unfold progress
      by_cases hsame : t.row.cycleNumber = s.row.cycleNumber
      · have hlt := hcharged hsame
        omega
      · cases hended.ending <;> omega

/-- The call returns and leaves the run ready or running. -/
def Tick.leavesRunnable (tick : Tick) : Bool := tick.result.isSome && !tick.left.halted

/-- The call was stopped, or raised. -/
def Tick.interrupted (tick : Tick) : Bool := tick.result.isNone

/-- **Runs are bounded.**  As long as every call stays within the bounds, the
cycle number is at most one more than `max_cycles`, and only as many calls leave
the run ready or running as it has cycles and model calls, not counting those
that are stopped. -/
theorem run_bounded {es : List Tick} (hs : Started s)
    (hrun : Run (Guarded Call fun s tick => staysBounded tick.input s = true) s es t) :
    t.row.cycleNumber ≤ s.row.bounds.maxCycles + 1 ∧
      (es.filter Tick.leavesRunnable).length ≤
        s.row.bounds.maxCycles + s.row.bounds.maxModelCalls ∧
      (es.filter fun tick => !tick.left.halted).length ≤
        s.row.bounds.maxCycles + s.row.bounds.maxModelCalls +
          (es.filter Tick.interrupted).length := by
  have hstart : Bounded s.row.bounds s := hs.bounded
  have hend : Bounded s.row.bounds t :=
    hrun.invariant (fun _ _ _ hcall hI => (call_bounded hcall.1 hcall.2 hI).1) hstart
  have hcount : (es.filter Tick.leavesRunnable).length ≤
      s.row.bounds.maxCycles + s.row.bounds.maxModelCalls := by
    refine hrun.count_le (m := progress) (fun u tick v hcall hI => ?_) hstart
    obtain ⟨hbounded, hprogress, hreturned⟩ := call_bounded hcall.1 hcall.2 hI
    refine ⟨hbounded, hprogress, fun hleaves => ?_⟩
    simp only [Tick.leavesRunnable, Bool.and_eq_true, Bool.not_eq_true'] at hleaves
    have hrunnable : v.row.state.halted = false := by rw [← hcall.1.2]; exact hleaves.2
    exact ⟨hreturned hleaves.1 hleaves.2, hbounded.progress_le hrunnable⟩
  refine ⟨hend.cycle, hcount, ?_⟩
  have hsplit : (es.filter fun tick => !tick.left.halted).length ≤
      (es.filter Tick.leavesRunnable).length + (es.filter Tick.interrupted).length := by
    clear hrun hcount
    induction es with
    | nil => exact Nat.zero_le _
    | cons tick es ih =>
      cases hresult : tick.result <;> cases hleft : tick.left.halted <;>
        simp [Tick.leavesRunnable, Tick.interrupted, hresult, hleft] at ih ⊢ <;>
        omega
  omega

theorem run_bounded_one :
    (stepped smoothInput (freshStore (roomyBounds 2 3))).row.cycleNumber ≤ 2 + 1 ∧
      ([(⟨smoothInput, ((step smoothInput).run (freshStore (roomyBounds 2 3))).1, .ready⟩ :
        Tick)].filter Tick.leavesRunnable).length ≤ 2 + 3 ∧
      ([(⟨smoothInput, ((step smoothInput).run (freshStore (roomyBounds 2 3))).1, .ready⟩ :
        Tick)].filter fun tick => !tick.left.halted).length ≤ 2 + 3 +
          ([(⟨smoothInput, ((step smoothInput).run (freshStore (roomyBounds 2 3))).1, .ready⟩ :
            Tick)].filter Tick.interrupted).length :=
  run_bounded (freshStore_started (roomyBounds 2 3))
    ((Run.nil _).snoc ⟨call_stepped smoothInput _, by decide⟩)

/-- A call of which the budget denies the dispatch. -/
def deniedInput : StepInput :=
  { smoothInput with execution := { smoothInput.execution with requestAmount := none } }

/-- A run of one cycle that is stopped once its attempt is authorized, and whose
budget does not cover the dispatch, counts a cycle with every call. -/
theorem cycles_unbounded : ∃ (s t : Store) (es : List Tick), Started s ∧ Run Call s es t ∧
    s.row.bounds.maxCycles + 1 < t.row.cycleNumber ∧ t.row.state = .ready := by
  refine ⟨freshStore (roomyBounds 1 3), _, _, freshStore_started _,
    ((((Run.nil _).snoc (call_crashed 23 smoothInput _)).snoc (call_stepped deniedInput _)).snoc
      (call_stepped deniedInput _)).snoc (call_stepped deniedInput _), ?_, ?_⟩
  · decide
  · decide

end Controller
end Zest
