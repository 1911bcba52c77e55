import Zest.Orchestration

/-! # The budget ledger

What a run has used is the sum of an append-only ledger.  A row is inserted
while the row of the issued budget is locked: a request that is charged already
is not charged again, and says nothing about it; any other is charged if the
allowance still covers it.
-/
namespace Zest

inductive ModelRole where
  | generator
  | falsifier
  deriving DecidableEq, Repr

/-- The `request_id` of a charge: that of a Worker request, or the identity of
a model invocation, which `model_invocation_request_id` composes. -/
inductive RequestId where
  | worker (requestId : Id)
  | modelInvocation (cycleId : Id) (role : ModelRole) (attemptNo : Nat)
  deriving DecidableEq, Repr

inductive ResourceType where
  | modelCall
  | request
  | workerInvocation
  | executionTime
  | artifactBytes
  | modelTokensIn
  | modelTokensOut
  | modelEscalationDecision
  deriving DecidableEq, Repr

/-- `BudgetConsumptionRecord`, of one budget. -/
structure BudgetConsumption where
  resourceType : ResourceType
  amount : Nat
  requestId : Option RequestId
  deriving DecidableEq, Repr

/-- `IssuedBudgetRecord`. -/
structure IssuedBudget where
  maxRequests : Nat
  maxToolCalls : Nat
  maxRuntimeMs : Nat
  maxConcurrency : Nat
  deriving DecidableEq, Repr

/-- The ledger of one budget. -/
abbrev Ledger := List BudgetConsumption

/-- One of the sums of `ledger_totals`. -/
def ledgerTotal : Ledger → ResourceType → Nat
  | [], _ => 0
  | item :: ledger, resource =>
    (if item.resourceType = resource then item.amount else 0) + ledgerTotal ledger resource

/-- The request is charged already. -/
def chargedAlready (ledger : Ledger) (resource : ResourceType) (requestId : Option RequestId) :
    Bool :=
  requestId.isSome &&
    ledger.any (fun item => item.requestId = requestId && item.resourceType = resource)

/-- `assert_within_allowance`, as a question.  `maxModelCalls` is that of the
locked orchestration. -/
def withinAllowance (issued : IssuedBudget) (maxModelCalls : Nat) (existing : Ledger)
    (incoming : BudgetConsumption) : Bool :=
  match incoming.resourceType with
  | .modelCall => incoming.amount + ledgerTotal existing .modelCall ≤ maxModelCalls
  | .request => incoming.amount + ledgerTotal existing .request ≤ issued.maxRequests
  | .workerInvocation =>
    incoming.amount + ledgerTotal existing .workerInvocation ≤ issued.maxToolCalls
  | .executionTime =>
    incoming.amount + ledgerTotal existing .executionTime ≤ issued.maxRuntimeMs
  | _ => false

/-- `insert_within_allowance`; `none` is its `BudgetOverspendError`.  The unique
violation that another transaction can cause is swallowed like the duplicate
it means. -/
def insertWithinAllowance (issued : IssuedBudget) (maxModelCalls : Nat) (ledger : Ledger)
    (record : BudgetConsumption) : Option Ledger :=
  if chargedAlready ledger record.resourceType record.requestId then some ledger
  else if withinAllowance issued maxModelCalls ledger record then some (ledger ++ [record])
  else none

@[simp] theorem ledgerTotal_append (ledger ledger' : Ledger) (resource : ResourceType) :
    ledgerTotal (ledger ++ ledger') resource =
      ledgerTotal ledger resource + ledgerTotal ledger' resource := by
  induction ledger with
  | nil => simp [ledgerTotal]
  | cons item ledger ih =>
    rw [List.cons_append, ledgerTotal, ledgerTotal, ih, Nat.add_assoc]

theorem ledgerTotal_singleton (record : BudgetConsumption) (resource : ResourceType) :
    ledgerTotal [record] resource =
      if record.resourceType = resource then record.amount else 0 := by
  simp [ledgerTotal]

/-- **What an insertion does**, when it goes through: nothing for a charge that
is there already, and one more row within the allowance otherwise. -/
theorem insertWithinAllowance_eq_some {issued : IssuedBudget} {maxModelCalls : Nat}
    {ledger ledger' : Ledger} {record : BudgetConsumption}
    (h : insertWithinAllowance issued maxModelCalls ledger record = some ledger') :
    (chargedAlready ledger record.resourceType record.requestId = true ∧ ledger' = ledger) ∨
    (chargedAlready ledger record.resourceType record.requestId = false ∧
      withinAllowance issued maxModelCalls ledger record = true ∧
      ledger' = ledger ++ [record]) := by
  unfold insertWithinAllowance at h
  split at h
  next hdup => exact Or.inl ⟨hdup, by simpa using h.symm⟩
  next hdup =>
    split at h
    next hallow => exact Or.inr ⟨by simpa using hdup, hallow, by simpa using h.symm⟩
    next => cases h

/-- The model calls of a ledger stay within the orchestration's allowance. -/
theorem modelCalls_le_of_insert {issued : IssuedBudget} {maxModelCalls : Nat}
    {ledger ledger' : Ledger} {record : BudgetConsumption}
    (h : insertWithinAllowance issued maxModelCalls ledger record = some ledger')
    (hle : ledgerTotal ledger .modelCall ≤ maxModelCalls) :
    ledgerTotal ledger' .modelCall ≤ maxModelCalls := by
  rcases insertWithinAllowance_eq_some h with ⟨-, rfl⟩ | ⟨-, hallow, rfl⟩
  · exact hle
  · rw [ledgerTotal_append, ledgerTotal_singleton]
    split
    next hres =>
      simp only [withinAllowance, hres, decide_eq_true_eq] at hallow
      omega
    next => simpa using hle

end Zest
