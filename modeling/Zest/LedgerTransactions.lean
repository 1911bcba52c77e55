import Zest.BudgetLedger
import Zest.Interleaving

/-! # The transactions of the budget ledger

An insertion within the allowance locks the row of the issued budget, lists what
is charged already, and inserts one more row.  It is three statements and not
one, and other transactions run in between.  This module writes the use cases
that charge a budget out statement by statement, over a database that keeps the
uncommitted rows and the row locks of each transaction apart.

A statement reads what is committed when it runs and what its own transaction
has written.  A lock is held until the transaction commits or is rolled back,
and who asks for a lock that another one holds waits.
-/
namespace Zest

open UnitOfWork Interleaving TransitionSystem

/-- `BudgetConsumptionRecord`.  Every transaction draws its own identifiers by
`new_opaque_id`. -/
structure ConsumptionRecord (ι : Type) where
  consumptionId : ι × Nat
  budgetId : Id
  researchRunId : Option Id
  consumption : BudgetConsumption
  deriving DecidableEq

/-- A row of `issued_budget`. -/
structure IssuedBudgetRow where
  researchRunId : Option Id
  budget : IssuedBudget
  deriving DecidableEq, Repr

/-- What a transaction can hold: a row, or an entry of the index
`uq_budget_consumption_request_resource` that it has inserted. -/
inductive RowLock where
  | issuedBudget (budgetId : Id)
  | researchOrchestration (researchRunId : Id)
  | requestResource (budgetId : Id) (requestId : RequestId) (resourceType : ResourceType)
  deriving DecidableEq, Repr

/-- The tables, and for each transaction what it has inserted and not committed,
and the lock that it waits for. -/
structure LedgerDatabase (ι : Type) where
  issuedBudgets : Id → Option IssuedBudgetRow
  /-- `max_model_calls` of the orchestration of a run. -/
  orchestrations : Id → Option Nat
  budgetConsumptions : List (ConsumptionRecord ι)
  uncommitted : ι → List (ConsumptionRecord ι)
  awaited : ι → Option RowLock
  holder : RowLock → Option ι

/-- The rows of one budget. -/
def ofBudget {ι : Type} (rows : List (ConsumptionRecord ι)) (budgetId : Id) : Ledger :=
  (rows.filter fun row => row.budgetId = budgetId).map (·.consumption)

namespace LedgerDatabase

variable {ι : Type} [DecidableEq ι] (s : LedgerDatabase ι) (i : ι)

/-- What the transaction `i` sees of the ledger. -/
def visible : List (ConsumptionRecord ι) := s.budgetConsumptions ++ s.uncommitted i

/-- `list_for_budget`. -/
def listForBudget (budgetId : Id) : Ledger := ofBudget (s.visible i) budgetId

/-- The transaction asks for the lock. -/
def awaiting (l : RowLock) : LedgerDatabase ι :=
  { s with awaited := fun j => if j = i then some l else s.awaited j }

/-- It no longer waits. -/
def served : LedgerDatabase ι :=
  { s with awaited := fun j => if j = i then none else s.awaited j }

/-- It has the lock it asked for. -/
def locked (l : RowLock) : LedgerDatabase ι :=
  { s.served i with holder := fun k => if k = l then some i else s.holder k }

/-- It has inserted a row. -/
def inserted (record : ConsumptionRecord ι) : LedgerDatabase ι :=
  { s with
    uncommitted := fun j => if j = i then s.uncommitted j ++ [record] else s.uncommitted j }

/-- The end of a transaction: its locks are free. -/
def released : LedgerDatabase ι :=
  { s.served i with
    uncommitted := fun j => if j = i then [] else s.uncommitted j
    holder := fun l => if s.holder l = some i then none else s.holder l }

/-- `commit`. -/
def committed : LedgerDatabase ι :=
  { s.released i with budgetConsumptions := s.visible i }

end LedgerDatabase

namespace LedgerTransaction

variable {ι : Type} [DecidableEq ι]

/-- A transaction goes on unless the lock it waits for is another's; one that is
stopped is rolled back. -/
def sharing : Sharing ι (LedgerDatabase ι) where
  ready i s := ∀ l, s.awaited i = some l → s.holder l = none ∨ s.holder l = some i
  dropped i s := s.released i

instance : ∀ (i : ι) (s : LedgerDatabase ι), Decidable (sharing.ready i s) := fun i s =>
  match h : s.awaited i with
  | none => isTrue fun l hl => by rw [h] at hl; cases hl
  | some l =>
    if hl : s.holder l = none ∨ s.holder l = some i then
      isTrue fun k hk => by rw [h] at hk; cases hk; exact hl
    else isFalse fun hready => hl (hready l h)

variable (i : ι)

/-! ## Statements -/

/-- `SELECT ... FROM issued_budget ... FOR UPDATE`. -/
def lockIssuedBudget (budgetId : Id) : Prog (LedgerDatabase ι) (Option IssuedBudgetRow) := do
  Prog.write (·.awaiting i (.issuedBudget budgetId))
  Prog.tx (fun s =>
    (if (s.issuedBudgets budgetId).isSome then s.locked i (.issuedBudget budgetId)
      else s.served i, s.issuedBudgets budgetId)) .done

/-- `SELECT ... FROM research_orchestration ... FOR UPDATE`.  A run that is null
has none. -/
def lockOrchestration : Option Id → Prog (LedgerDatabase ι) (Option Nat)
  | none => return none
  | some researchRunId => do
    Prog.write (·.awaiting i (.researchOrchestration researchRunId))
    Prog.tx (fun s =>
      (if (s.orchestrations researchRunId).isSome then
          s.locked i (.researchOrchestration researchRunId)
        else s.served i, s.orchestrations researchRunId)) .done

/-- The two rows are in conflict under the unique constraint. -/
def sameCharge (a b : ConsumptionRecord ι) : Bool :=
  a.budgetId = b.budgetId && a.consumption.requestId = b.consumption.requestId &&
    a.consumption.requestId.isSome && a.consumption.resourceType = b.consumption.resourceType

/-- `insert`; `false` is its `PersistenceConflictError`, after which the
transaction goes on from its savepoint. -/
def insert (record : ConsumptionRecord ι) : Prog (LedgerDatabase ι) Bool :=
  match record.consumption.requestId with
  | none => Prog.tx (fun s => (s.inserted i record, true)) .done
  | some requestId => do
    let entry := RowLock.requestResource record.budgetId requestId record.consumption.resourceType
    Prog.write (·.awaiting i entry)
    Prog.tx (fun s =>
      if (s.visible i).any (sameCharge record) then (s.served i, false)
      else ((s.locked i entry).inserted i record, true)) .done

def commit : Prog (LedgerDatabase ι) Unit := Prog.write (·.committed i)

def rollback : Prog (LedgerDatabase ι) Unit := Prog.write (·.released i)

/-! ## Use cases -/

/-- The errors of `insert_within_allowance`. -/
inductive ConsumptionError where
  /-- `BudgetOverspendError`. -/
  | overspend
  /-- `PersistenceError`: the budget is not there, or of another run. -/
  | persistence
  deriving DecidableEq, Repr

/-- `insert_within_allowance`.  A conflict is swallowed: the request is charged
already. -/
def insertWithinAllowance (record : ConsumptionRecord ι) :
    Prog (LedgerDatabase ι) (Except ConsumptionError Unit) := do
  let locked ← lockIssuedBudget i record.budgetId
  match locked with
  | none => return .error .persistence
  | some issued =>
    if issued.researchRunId ≠ record.researchRunId then return .error .persistence
    else do
      let existing ← Prog.read (·.listForBudget i record.budgetId)
      if chargedAlready existing record.consumption.resourceType record.consumption.requestId then
        return .ok ()
      else if record.consumption.resourceType = .modelCall then do
        let orchestration ← lockOrchestration i record.researchRunId
        match orchestration with
        | none => return .error .overspend
        | some maxModelCalls =>
          if withinAllowance issued.budget maxModelCalls existing record.consumption then do
            let _ ← insert i record
            return .ok ()
          else return .error .overspend
      else if withinAllowance issued.budget 0 existing record.consumption then do
        let _ ← insert i record
        return .ok ()
      else return .error .overspend

/-- How a use case ends, where no foreign exception ends it. -/
inductive ConsumptionOutcome where
  | recorded
  | alreadyRecorded
  /-- `BudgetConsumptionRejected`, and `DISPATCH_DENIED` of a dispatch. -/
  | rejected
  /-- Any other exception. -/
  | failed
  deriving DecidableEq, Repr

/-- `RecordBudgetConsumptionCommand`. -/
structure RecordBudgetConsumptionCommand where
  budgetId : Id
  researchRunId : Option Id
  resourceType : ResourceType
  amount : Int
  requestId : Option RequestId
  deriving DecidableEq, Repr

/-- The record that the transaction draws an identifier for; `none` when the
amount is not positive. -/
def consumptionRecord (n : Nat) (budgetId : Id) (researchRunId : Option Id)
    (resourceType : ResourceType) (amount : Int) (requestId : Option RequestId) :
    Option (ConsumptionRecord ι) :=
  if 0 < amount then
    some ⟨(i, n), budgetId, researchRunId, resourceType, amount.toNat, requestId⟩
  else none

/-- The records that are inserted past the allowance. -/
def untracked : ResourceType → Bool
  | .modelTokensIn | .modelTokensOut | .modelEscalationDecision => true
  | _ => false

/-- The exit of the unit of work that an exception takes. -/
def abort (outcome : ConsumptionOutcome) : Prog (LedgerDatabase ι) ConsumptionOutcome := do
  rollback i
  return outcome

/-- `RecordBudgetConsumption.execute`. -/
def execute (command : RecordBudgetConsumptionCommand) :
    Prog (LedgerDatabase ι) ConsumptionOutcome := do
  let issued ← Prog.read (·.issuedBudgets command.budgetId)
  match issued with
  | none => abort i .failed
  | some issued =>
    if command.researchRunId.isSome ∧ issued.researchRunId ≠ command.researchRunId then
      abort i .failed
    else
      match consumptionRecord i 0 command.budgetId command.researchRunId command.resourceType
        command.amount command.requestId with
      | none => abort i .failed
      | some record => do
        let before ← Prog.read (·.listForBudget i command.budgetId)
        if chargedAlready before command.resourceType command.requestId then
          abort i .alreadyRecorded
        else if untracked command.resourceType then do
          let fresh ← insert i record
          if fresh then do
            commit i
            return .recorded
          else abort i .failed
        else do
          let charged ← insertWithinAllowance i record
          match charged with
          | .error .overspend => abort i .rejected
          | .error .persistence => abort i .failed
          | .ok () => do
            commit i
            return .recorded

/-- What `dispatch` charges: `request_amount` is that of
`_request_consumption_amount`, `none` where that raises. -/
structure DispatchCommand where
  budgetId : Id
  researchRunId : Option Id
  requestId : Id
  requestAmount : Option Int
  deriving DecidableEq, Repr

/-- The charges of the transaction of `dispatch` that begins it:
`_record_dispatch_consumption`. -/
def dispatch (command : DispatchCommand) : Prog (LedgerDatabase ι) ConsumptionOutcome :=
  match command.requestAmount with
  | none => abort i .rejected
  | some requestAmount =>
    match consumptionRecord i 0 command.budgetId command.researchRunId .workerInvocation 1
        (some (.worker command.requestId)),
      consumptionRecord i 1 command.budgetId command.researchRunId .request requestAmount
        (some (.worker command.requestId)) with
    | some invocation, some request => do
      let charged ← insertWithinAllowance i invocation
      match charged with
      | .error .overspend => abort i .rejected
      | .error .persistence => abort i .failed
      | .ok () => do
        let charged ← insertWithinAllowance i request
        match charged with
        | .error .overspend => abort i .rejected
        | .error .persistence => abort i .failed
        | .ok () => do
          commit i
          return .recorded
    | _, _ => abort i .failed

/-- A transaction that touches the budgets or their ledger. -/
inductive LedgerCall where
  | record (command : RecordBudgetConsumptionCommand)
  | dispatch (command : DispatchCommand)
  /-- `issued_budgets.insert`. -/
  | issue (budgetId : Id) (row : IssuedBudgetRow)
  /-- `research_orchestrations.insert`. -/
  | start (researchRunId : Id) (maxModelCalls : Nat)

/-- A row that is there already is a conflict. -/
def insertOnce {α : Type} (table : Id → Option α) (key : Id) (row : α) : Id → Option α :=
  fun k => if k = key ∧ (table key).isNone then some row else table k

/-- What the transaction runs. -/
def LedgerCall.program : LedgerCall → Prog (LedgerDatabase ι) ConsumptionOutcome
  | .record command => execute i command
  | .dispatch command => LedgerTransaction.dispatch i command
  | .issue budgetId row => do
    Prog.write fun s => { s with issuedBudgets := insertOnce s.issuedBudgets budgetId row }
    return .recorded
  | .start researchRunId maxModelCalls => do
    Prog.write fun s => { s with
      orchestrations := insertOnce s.orchestrations researchRunId maxModelCalls }
    return .recorded

/-- A database with budgets and runs, on which nothing is charged yet. -/
structure Uncharged (s : LedgerDatabase ι) : Prop where
  budgetConsumptions : s.budgetConsumptions = []
  uncommitted : ∀ i, s.uncommitted i = []
  holder : ∀ l, s.holder l = none

/-- Any transactions at all, each at its beginning. -/
def Initial (c : Pool ι (LedgerDatabase ι) ConsumptionOutcome) : Prop :=
  Uncharged c.store ∧ ∃ calls : ι → LedgerCall, ∀ i, c.rest i = (calls i).program i

end LedgerTransaction
end Zest
