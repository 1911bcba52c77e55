import Zest.StepAccounts
import Zest.TransitionSystem

/-! # How often a run asks the model

A call of the model is charged before it is made, and a charge that is there
already is not made again.  So the allowance bounds the model calls of a run
only if no two of them go under the same identity: cycle, role and attempt.

The cycle of the identity is `active_cycle_id` of the row, which is set when a
cycle selects its opportunity and never cleared.  A later cycle finds it set,
and its model calls are then charged already.
-/
namespace Zest

/-- A model call is charged under the cycle. -/
def chargedUnder (ledger : Ledger) (cycleId : Id) : Bool :=
  (modelCharges ledger).any fun item =>
    match item.requestId with
    | some (.modelInvocation id _ _) => id = cycleId
    | _ => false

theorem chargedAlready_of_not_under {ledger : Ledger} {cycleId : Id}
    (h : chargedUnder ledger cycleId = false) (role : ModelRole) (attemptNo : Nat) :
    chargedAlready ledger .modelCall (some (.modelInvocation cycleId role attemptNo)) = false := by
  rw [← chargedAlready_modelCharges]
  simp only [chargedUnder, List.any_eq_false] at h
  simp only [chargedAlready, Option.isSome_some, Bool.true_and, List.any_eq_false]
  intro item hmem
  have hitem := h item hmem
  intro hcharged
  simp only [Bool.and_eq_true, decide_eq_true_eq] at hcharged
  simp [hcharged.1] at hitem

theorem chargedAlready_append (ledger : Ledger) (record : BudgetConsumption)
    (resource : ResourceType) (invocation : RequestId) :
    chargedAlready (ledger ++ [record]) resource (some invocation) =
      (chargedAlready ledger resource (some invocation) ||
        (record.requestId = some invocation && record.resourceType = resource)) := by
  simp [chargedAlready]

/-- The charge of one model call. -/
def modelCharge (invocation : RequestId) : BudgetConsumption where
  resourceType := .modelCall
  amount := 1
  requestId := some invocation

/-- The charges of the model are within the allowance, and those of a cycle are
made after its identifier was drawn. -/
structure Allowed (maxModelCalls : Nat) (s : Store) : Prop where
  within : ledgerTotal s.ledger .modelCall ≤ maxModelCalls
  issued : ∀ cycleId, chargedUnder s.ledger cycleId = true → cycleId < 2 * s.nextId

namespace Allowed

variable {maxModelCalls : Nat} {s t : Store}

/-- What does not concern the model keeps its charges. -/
theorem quiet (h : Allowed maxModelCalls s) (hq : Quiet s t) : Allowed maxModelCalls t where
  within := by rw [hq.total]; exact h.within
  issued := fun cycleId hunder => by
    rw [chargedUnder, hq.charges] at hunder
    exact Nat.lt_of_lt_of_le (h.issued cycleId hunder) (Nat.mul_le_mul_left 2 hq.nextId)

/-- One charge more, of a cycle whose identifier is drawn. -/
theorem charge {cycleId : Id} {role : ModelRole} {attemptNo : Nat}
    {modelInvocations : List RequestId} (h : Allowed maxModelCalls s)
    (hid : cycleId < 2 * s.nextId) (hallow : 1 + ledgerTotal s.ledger .modelCall ≤ maxModelCalls) :
    Allowed maxModelCalls { s with
      ledger := s.ledger ++ [modelCharge (.modelInvocation cycleId role attemptNo)]
      modelInvocations := modelInvocations } where
  within := by
    simp only [ledgerTotal_append, ledgerTotal_singleton, modelCharge, if_true]
    omega
  issued := fun id hunder => by
    simp only [chargedUnder, modelCharges_append, List.any_append, Bool.or_eq_true] at hunder
    rcases hunder with hunder | hunder
    · exact h.issued id hunder
    · have heq : cycleId = id := by simpa [modelCharges, modelCharge] using hunder
      exact heq ▸ hid

theorem started (h : Controller.Started s) : Allowed maxModelCalls s := by
  have hcharges := modelCharges_eq_nil h.ledger
  constructor
  · rw [← ledgerTotal_modelCharges, hcharges]
    exact Nat.zero_le _
  · simp [chargedUnder, hcharges]

end Allowed

/-- **The accounts of the model**: each of its invocations has a charge of its
own. -/
structure Accounted (maxModelCalls : Nat) (s : Store) : Prop extends Allowed maxModelCalls s where
  calls : s.modelInvocations.length ≤ ledgerTotal s.ledger .modelCall
  distinct : s.modelInvocations.Nodup
  charged : ∀ invocation ∈ s.modelInvocations,
    chargedAlready s.ledger .modelCall (some invocation) = true

namespace Accounted

variable {maxModelCalls : Nat} {s t : Store}

theorem quiet (h : Accounted maxModelCalls s) (hq : Quiet s t) : Accounted maxModelCalls t where
  toAllowed := h.toAllowed.quiet hq
  calls := by rw [hq.invocations, hq.total]; exact h.calls
  distinct := by rw [hq.invocations]; exact h.distinct
  charged := fun invocation hmem => by
    rw [hq.invocations] at hmem
    rw [hq.charged]
    exact h.charged invocation hmem

/-- A charge leaves room for one more invocation. -/
theorem charge {cycleId : Id} {role : ModelRole} {attemptNo : Nat}
    (h : Accounted maxModelCalls s) (hid : cycleId < 2 * s.nextId)
    (hallow : 1 + ledgerTotal s.ledger .modelCall ≤ maxModelCalls) :
    Accounted maxModelCalls { s with
      ledger := s.ledger ++ [modelCharge (.modelInvocation cycleId role attemptNo)] } where
  toAllowed := h.toAllowed.charge hid hallow
  calls := by
    rw [ledgerTotal_append]
    exact Nat.le_trans h.calls (Nat.le_add_right _ _)
  distinct := h.distinct
  charged := fun invocation hmem => by
    rw [chargedAlready_append, h.charged invocation hmem, Bool.true_or]

/-- The invocation that was charged last. -/
theorem invoke {cycleId : Id} {role : ModelRole} {attemptNo : Nat}
    (h : Accounted maxModelCalls s)
    (hnew : chargedAlready s.ledger .modelCall
      (some (.modelInvocation cycleId role attemptNo)) = false)
    (hid : cycleId < 2 * s.nextId)
    (hallow : 1 + ledgerTotal s.ledger .modelCall ≤ maxModelCalls) :
    Accounted maxModelCalls { s with
      ledger := s.ledger ++ [modelCharge (.modelInvocation cycleId role attemptNo)]
      modelInvocations := s.modelInvocations ++ [.modelInvocation cycleId role attemptNo] } where
  toAllowed := h.toAllowed.charge hid hallow
  calls := by
    have hcalls := h.calls
    simp only [List.length_append, List.length_singleton, ledgerTotal_append,
      ledgerTotal_singleton, modelCharge, if_true]
    omega
  distinct := by
    have hfresh : RequestId.modelInvocation cycleId role attemptNo ∉ s.modelInvocations := by
      intro hmem
      rw [h.charged _ hmem] at hnew
      cases hnew
    refine List.nodup_append.mpr ⟨h.distinct, by simp, ?_⟩
    intro invocation hmem other hother heq
    rw [List.mem_singleton] at hother
    exact hfresh (hother ▸ heq ▸ hmem)
  charged := fun invocation hmem => by
    rw [chargedAlready_append]
    rcases List.mem_append.mp hmem with hmem | hmem
    · rw [h.charged invocation hmem, Bool.true_or]
    · rw [List.mem_singleton] at hmem
      simp [hmem, modelCharge]

theorem started (h : Controller.Started s) : Accounted maxModelCalls s where
  toAllowed := .started h
  calls := by simp [h.modelInvocations]
  distinct := by simp [h.modelInvocations]
  charged := by simp [h.modelInvocations]

end Accounted

namespace Controller

open UnitOfWork TransitionSystem

/-- The call asks the model for a proposal. -/
def opensModelCycle (input : StepInput) (s : Store) : Bool :=
  opensCycle input s && !opensExploratory input s && input.generator.charges

/-- A call that asks the model charges that to a cycle without a charge. -/
def opensUncharged (input : StepInput) (s : Store) : Bool :=
  !opensModelCycle input s || !s.row.activeCycleId.any (chargedUnder s.ledger)

variable {input : StepInput} {s₀ s t : Store} {current : ResearchOrchestrationRecord}
  {maxModelCalls : Nat}

/-- One call of the model under an identity that is not charged. -/
theorem complete_accounted {port : BudgetEnforcedModelPort} {role : ModelRole}
    {reply : ModelReply} (h : Underway s₀ current s) (hs : Accounted maxModelCalls s)
    (hmax : s₀.row.bounds.maxModelCalls = maxModelCalls)
    (hid : port.cycleId < 2 * s.nextId)
    (hnew : reply.charges = true → ∀ attemptNo, chargedAlready s.ledger .modelCall
      (some (.modelInvocation port.cycleId role attemptNo)) = false) :
    Holds (Throughout input s₀ (Accounted maxModelCalls))
      (fun r t => Underway s₀ current t ∧ Accounted maxModelCalls t ∧ t.nextId = s.nextId ∧
        (r.2 = .usable → r.1.cycleId = port.cycleId ∧ reply.charges = true) ∧
        ∀ other attemptNo, other ≠ role → chargedAlready t.ledger .modelCall
            (some (.modelInvocation port.cycleId other attemptNo)) =
          chargedAlready s.ledger .modelCall
            (some (.modelInvocation port.cycleId other attemptNo)))
      (complete port role reply) s := by
  apply complete_rule (h.throughout hs)
  · intro port' outcome husable _
    exact ⟨h, hs, rfl, fun heq => absurd heq husable, fun _ _ _ => rfl⟩
  · intro hcharges ledger hinsert
    have hnew := hnew hcharges
    rcases insertWithinAllowance_eq_some hinsert with ⟨hdup, -⟩ | ⟨-, hallow, rfl⟩
    · rw [BudgetEnforcedModelPort.nextInvocation, hnew] at hdup
      cases hdup
    · rw [h.row.bounds, hmax] at hallow
      have hallow : 1 + ledgerTotal s.ledger .modelCall ≤ maxModelCalls := by
        simpa [withinAllowance] using hallow
      refine ⟨⟨Or.inl h.row, hs.charge hid hallow⟩, ?_⟩
      rintro t rfl
      have hinvoked := hs.invoke (hnew (port.attempts role + 1)) hid hallow
      refine ⟨⟨Or.inl h.row, hinvoked⟩, fun outcome _ _ =>
        ⟨⟨h.record, h.row⟩, hinvoked, rfl, fun _ => ⟨rfl, hcharges⟩, ?_⟩⟩
      intro other attemptNo hne
      have hother : role ≠ other := fun heq => hne heq.symm
      rw [chargedAlready_append]
      simp [BudgetEnforcedModelPort.nextInvocation, hother]

/-- **A proposal** keeps the accounts, when its cycle has no charge yet. -/
theorem propose_accounted (hmax : s₀.row.bounds.maxModelCalls = maxModelCalls)
    (h₀ : Accounted maxModelCalls s₀) (hfresh : opensUncharged input s₀ = true) :
    ProposesUnder input s₀ (Accounted maxModelCalls) (fun _ => True) := by
  intro current opportunityId cycleId s h hs hopen
  have hunder : opensExploratory input s₀ = false → input.generator.charges = true →
      chargedUnder s.ledger cycleId = false := by
    intro hexploratory hcharges
    have hsame : chargedUnder s.ledger cycleId = chargedUnder s₀.ledger cycleId := by
      rw [chargedUnder, chargedUnder, hopen.quiet.charges]
    rw [hsame]
    rcases hopen.cycleId with hcycle | ⟨-, hnew⟩
    · simpa [opensUncharged, opensModelCycle, hopen.opens, hexploratory, hcharges, hcycle]
        using hfresh
    · cases hcharged : chargedUnder s₀.ledger cycleId with
      | false => rfl
      | true => exact absurd (h₀.issued cycleId hcharged) (Nat.not_lt.mpr hnew)
  have hquiet : ∀ s t, Quiet s t → Accounted maxModelCalls s → Accounted maxModelCalls t :=
    fun _ _ hq hs => hs.quiet hq
  have htrue : ∀ s t : Store, Quiet s t → True → True := fun _ _ _ h => h
  have hbymodel : ∀ opportunityId, opensExploratory input s₀ = false → Holds (Throughout input s₀ (Accounted maxModelCalls))
      (ProposalEnd s₀ (Accounted maxModelCalls) fun _ => True)
      (proposeByModel input current opportunityId cycleId) s := by
    intro opportunityId hexploratory
    unfold proposeByModel
    apply Holds.seq (complete_accounted h hs hmax hopen.issued fun hcharges =>
      chargedAlready_of_not_under (hunder hexploratory hcharges) .generator)
    rintro ⟨port, generated⟩ t ⟨ht, hst, hnext, husable, hothers⟩
    dsimp only at husable ⊢
    split
    next hfailed =>
      exact persistFailure_ends hquiet htrue ht hst (fun _ => trivial) hfailed
    next hgenerated =>
      obtain ⟨hport, hcharges⟩ := husable (by simpa using hgenerated)
      have hunder := hunder hexploratory hcharges
      have hnew : ∀ attemptNo, chargedAlready t.ledger .modelCall
          (some (.modelInvocation port.cycleId .falsifier attemptNo)) = false := by
        intro attemptNo
        rw [hport]
        exact (hothers .falsifier attemptNo (by simp)).trans
          (chargedAlready_of_not_under hunder .falsifier attemptNo)
      apply Holds.seq (complete_accounted ht hst hmax
        (by rw [hport, hnext]; exact hopen.issued) fun _ => hnew)
      rintro ⟨-, challenged⟩ u ⟨hu, hsu, hnext', -⟩
      dsimp only
      split
      next hfailed =>
        exact persistFailure_ends hquiet htrue hu hsu (fun _ => trivial) hfailed
      next =>
        exact persistProposal_ends hquiet htrue hu hsu
          (by rw [hnext', hnext]; exact hopen.issued) (fun _ => trivial)
  unfold propose
  split
  · exact hbymodel none hopen.exploratory.symm
  next opportunityId =>
    apply Holds.seq (read_continues h hs)
    rintro opportunity t ⟨hfound, rfl⟩
    split
    · trivial
    next opportunity =>
      split
      · exact admitRegistryExternal_ends hquiet htrue h hs hopen.issued (fun _ => trivial)
      next hmodel =>
        apply hbymodel
        rw [← hopen.exploratory]
        simpa [opportunityIsExploratory, ← hfound] using hmodel

/-- What every call finds, and leaves. -/
structure ModelBudget (maxModelCalls : Nat) (s : Store) : Prop where
  bounds : s.row.bounds.maxModelCalls = maxModelCalls
  active : ∀ cycleId, s.row.activeCycleId = some cycleId → cycleId < 2 * s.nextId
  accounted : Accounted maxModelCalls s

theorem Started.modelBudget (h : Started s) : ModelBudget s.row.bounds.maxModelCalls s := by
  obtain ⟨bounds, budgetId, hrow⟩ := h.row
  exact ⟨rfl, by simp [hrow, startRecord], .started h⟩

/-- **One call**, stopped anywhere. -/
theorem call_modelBudget {tick : Tick} (h : Call s tick t)
    (hfresh : opensUncharged tick.input s = true) (hs : ModelBudget maxModelCalls s) :
    ModelBudget maxModelCalls t := by
  obtain ⟨hexec, -⟩ := h
  by_cases hhalted : s.row.state.halted
  · rw [((step_of_halted hhalted).sound rfl hexec).1]
    exact hs
  · have hrunnable : s.row.state.halted = false := by simpa using hhalted
    have hstep := step_returned (fun _ _ hq hs => Accounted.quiet hs hq)
      (fun _ _ _ h => h) (propose_accounted hs.bounds hs.accounted hfresh) hrunnable hs.active
      hs.accounted
    have hongoing : Ongoing s s.nextId s.row := ⟨rfl, rfl, hrunnable, hs.active⟩
    obtain ⟨⟨hrow, haccounted⟩, -⟩ := hstep.sound ⟨Or.inl hongoing, hs.accounted⟩ hexec
    rcases hrow with hrow | hrow
    · exact ⟨by rw [hrow.bounds]; exact hs.bounds, hrow.active, haccounted⟩
    · exact ⟨by rw [hrow.bounds]; exact hs.bounds, hrow.active, haccounted⟩

/-- **The model calls of a run.**  As long as every call that opens a cycle
finds it uncharged, the inner model is invoked at most `max_model_calls` times,
and never twice under one identity. -/
theorem modelInvocations_bounded {es : List Tick} (hs : Started s)
    (hrun : Run (Guarded Call fun s tick => opensUncharged tick.input s = true) s es t) :
    t.modelInvocations.length ≤ s.row.bounds.maxModelCalls ∧ t.modelInvocations.Nodup := by
  have hbudget := hrun.invariant (I := ModelBudget s.row.bounds.maxModelCalls)
    (fun _ _ _ hstep hI => call_modelBudget hstep.1 hstep.2 hI) hs.modelBudget
  exact ⟨Nat.le_trans hbudget.accounted.calls hbudget.accounted.within,
    hbudget.accounted.distinct⟩

theorem modelInvocations_bounded_one :
    (stepped smoothInput (freshStore (roomyBounds 3 3))).modelInvocations.length ≤ 3 ∧
      (stepped smoothInput (freshStore (roomyBounds 3 3))).modelInvocations.Nodup :=
  modelInvocations_bounded (freshStore_started _)
    ((Run.nil _).snoc ⟨call_stepped smoothInput _, by decide⟩)

/-- Three cycles on an allowance of three model calls make six: the second and
the third are charged already. -/
theorem model_calls_replayed : ∃ (s t : Store) (es : List Tick),
    Started s ∧ Run Call s es t ∧
      s.row.bounds.maxModelCalls < t.modelInvocations.length ∧ ¬ t.modelInvocations.Nodup := by
  refine ⟨freshStore (roomyBounds 3 3), _, _, freshStore_started _,
    (((Run.nil _).snoc (call_stepped smoothInput _)).snoc (call_stepped smoothInput _)).snoc
      (call_stepped smoothInput _), ?_, ?_⟩
  · decide
  · decide

end Controller
end Zest
