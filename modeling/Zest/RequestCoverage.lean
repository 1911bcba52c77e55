import Mathlib.Algebra.Order.BigOperators.Group.Finset
import Mathlib.Algebra.Order.BigOperators.Group.List
import Mathlib.Algebra.Order.Group.Nat
import Zest.HttpTransactionAgreement
import Zest.RequestCharge

/-! # A budget covers what is sent under it

Every row of the ledger comes from a transaction that charges it.  A dispatch
that has been recorded has a row for its requests, and, as its request is its
own, that row has the amount that it is charged.  The rows of a budget add up to
no more than the budget, and so does what is sent.
-/
namespace Zest.RequestCharge

open UnitOfWork Interleaving TransitionSystem LedgerTransaction WorkerExecutors

variable {ι : Type} {s t : LedgerDatabase ι} {i j : ι} {record : ConsumptionRecord ι}

/-- What a transaction can charge. -/
def Charges : LedgerCall → ConsumptionRecord ι → Prop
  | .record command, row => row.budgetId = command.budgetId ∧
    row.consumption.resourceType = command.resourceType ∧
    row.consumption.requestId = command.requestId
  | .dispatch command, row => row.budgetId = command.budgetId ∧
    row.consumption.requestId = some (.worker command.requestId) ∧
    (row.consumption.resourceType = .request →
      command.requestAmount = some (row.consumption.amount : Int))
  | _, _ => False

/-- Every row is charged by a transaction. -/
structure Sourced (calls : ι → LedgerCall) (s : LedgerDatabase ι) : Prop where
  budgetConsumptions : ∀ row ∈ s.budgetConsumptions, ∃ k, Charges (calls k) row
  uncommitted : ∀ j, ∀ row ∈ s.uncommitted j, ∃ k, Charges (calls k) row

/-- Rows are never taken away, and those of others are left alone. -/
structure Grows (i : ι) (s t : LedgerDatabase ι) : Prop where
  budgetConsumptions : ∀ row ∈ s.budgetConsumptions, row ∈ t.budgetConsumptions
  uncommitted : ∀ j, j ≠ i → t.uncommitted j = s.uncommitted j

/-- The rules about the rows alone. -/
def charging (calls : ι → LedgerCall) : Contract ι (LedgerDatabase ι) := ⟨Sourced calls, Grows⟩

/-- The transaction sees a row of the same charge. -/
def Holds (i : ι) (record : ConsumptionRecord ι) (s : LedgerDatabase ι) : Prop :=
  ∃ row ∈ s.visible i, row.budgetId = record.budgetId ∧
    row.consumption.requestId = record.consumption.requestId ∧
    row.consumption.resourceType = record.consumption.resourceType

/-- A dispatch that is recorded has a row for its requests. -/
def Recorded (calls : ι → LedgerCall) (i : ι) (outcome : ConsumptionOutcome)
    (s : LedgerDatabase ι) : Prop :=
  outcome = .recorded → ∀ command, calls i = .dispatch command →
    ∃ row ∈ s.budgetConsumptions, row.budgetId = command.budgetId ∧
      row.consumption.requestId = some (.worker command.requestId) ∧
      row.consumption.resourceType = .request

variable {calls : ι → LedgerCall}

theorem stable_holds : (charging calls).Stable i (Holds i record) := by
  rintro j s t hne - hgrows ⟨row, hrow, hsame⟩
  refine ⟨row, ?_, hsame⟩
  unfold LedgerDatabase.visible at hrow ⊢
  rw [hgrows.uncommitted i (Ne.symm hne)]
  exact (List.mem_append.mp hrow).elim
    (fun h => List.mem_append_left _ (hgrows.budgetConsumptions row h))
    (fun h => List.mem_append_right _ h)

/-- A row that is charged already is in sight. -/
theorem holds_of_chargedAlready
    (h : chargedAlready (ofBudget (s.visible i) record.budgetId)
      record.consumption.resourceType record.consumption.requestId = true) : Holds i record s := by
  simp only [chargedAlready, ofBudget, Bool.and_eq_true, List.any_eq_true, List.mem_map,
    List.mem_filter, decide_eq_true_eq] at h
  obtain ⟨-, consumption, ⟨row, ⟨hrow, hbudget⟩, rfl⟩, hrequest, hresource⟩ := h
  exact ⟨row, hrow, hbudget, hrequest, hresource⟩

/-- A record has the data that its transaction gives it. -/
theorem consumptionRecord_eq {n : Nat} {budgetId : Id} {researchRunId : Option Id}
    {resourceType : ResourceType} {amount : Int} {requestId : Option RequestId}
    (h : consumptionRecord i n budgetId researchRunId resourceType amount requestId =
      some record) :
    record.budgetId = budgetId ∧ record.consumption.resourceType = resourceType ∧
      record.consumption.requestId = requestId ∧ (record.consumption.amount : Int) = amount := by
  unfold consumptionRecord at h
  split at h
  · cases h
    exact ⟨rfl, rfl, rfl, Int.toNat_of_nonneg (by omega)⟩
  · cases h

section Statements

variable [DecidableEq ι] {β : Type} {P : LedgerDatabase ι → Prop}
variable {Q : β → LedgerDatabase ι → Prop}

/-- A statement that leaves the rows alone. -/
theorem follows_quiet {f : LedgerDatabase ι → LedgerDatabase ι × β}
    (hrows : ∀ s, (f s).1.uncommitted = s.uncommitted ∧
      (f s).1.budgetConsumptions = s.budgetConsumptions)
    (hQ : ∀ b, (charging calls).Stable i (Q b)) (h : ∀ s, P s → Q (f s).2 (f s).1) :
    Follows sharing (charging calls) i Q P (Prog.tx f .done) := by
  apply follows_tx hQ
  intro s hinv hs _
  obtain ⟨huncommitted, hcommitted⟩ := hrows s
  refine ⟨⟨?_, ?_⟩, ⟨?_, ?_⟩, h s hs⟩
  · rw [hcommitted]
    exact hinv.budgetConsumptions
  · rw [huncommitted]
    exact hinv.uncommitted
  · rw [hcommitted]
    exact fun _ h => h
  · rw [huncommitted]
    exact fun _ _ => rfl

theorem lockIssuedBudget_quiet (i : ι) (budgetId : Id) :
    Follows sharing (charging calls) i (fun _ _ => True) (fun _ => True)
      (lockIssuedBudget i budgetId) := by
  apply Follows.bind (R := fun _ _ => True)
  · exact follows_quiet (fun _ => ⟨rfl, rfl⟩) (fun _ => Contract.stable_true) fun _ _ => trivial
  · intro _
    refine follows_quiet (fun s => ?_) (fun _ => Contract.stable_true) fun _ _ => trivial
    dsimp only
    split <;> exact ⟨rfl, rfl⟩

theorem lockOrchestration_quiet (i : ι) (researchRunId : Option Id) :
    Follows sharing (charging calls) i (fun _ _ => True) (fun _ => True)
      (lockOrchestration i researchRunId) := by
  cases researchRunId with
  | none => exact follows_pure fun _ _ _ => trivial
  | some researchRunId =>
    apply Follows.bind (R := fun _ _ => True)
    · exact follows_quiet (fun _ => ⟨rfl, rfl⟩) (fun _ => Contract.stable_true) fun _ _ => trivial
    · intro _
      refine follows_quiet (fun s => ?_) (fun _ => Contract.stable_true) fun _ _ => trivial
      dsimp only
      split <;> exact ⟨rfl, rfl⟩

/-- A row that its transaction charges is inserted. -/
theorem Sourced.inserts (h : Sourced calls s) (hcharges : ∃ k, Charges (calls k) record) :
    Sourced calls (s.inserted i record) ∧ Grows i s (s.inserted i record) ∧
      Holds i record (s.inserted i record) := by
  refine ⟨⟨h.budgetConsumptions, fun j row hrow => ?_⟩, ⟨fun _ h => h, fun j hj => ?_⟩,
    record, ?_, rfl, rfl, rfl⟩
  · by_cases hj : j = i
    · simp only [LedgerDatabase.inserted, if_pos hj, List.mem_append, List.mem_singleton] at hrow
      rcases hrow with hrow | rfl
      · exact h.uncommitted j row hrow
      · exact hcharges
    · simp only [LedgerDatabase.inserted, if_neg hj] at hrow
      exact h.uncommitted j row hrow
  · exact if_neg hj
  · simp [LedgerDatabase.visible, LedgerDatabase.inserted]

/-- **An insertion**: the charge is in sight, whoever has made it. -/
theorem insert_charges (hcharges : ∃ k, Charges (calls k) record) :
    Follows sharing (charging calls) i (fun _ => Holds i record) (fun _ => True)
      (LedgerTransaction.insert i record) := by
  unfold LedgerTransaction.insert
  split
  · exact follows_tx (fun _ => stable_holds) fun s hinv _ _ => hinv.inserts hcharges
  next requestId hrequest =>
    apply Follows.bind (R := fun _ _ => True)
    · exact follows_quiet (fun _ => ⟨rfl, rfl⟩) (fun _ => Contract.stable_true) fun _ _ => trivial
    · intro _
      apply follows_tx fun _ => stable_holds
      intro s hinv _ _
      split
      next hconflict =>
        obtain ⟨row, hrow, hsame⟩ := List.any_eq_true.mp hconflict
        simp only [sameCharge, Bool.and_eq_true, decide_eq_true_eq] at hsame
        obtain ⟨⟨⟨hbudget, hid⟩, -⟩, hresource⟩ := hsame
        exact ⟨⟨hinv.budgetConsumptions, hinv.uncommitted⟩, ⟨fun _ h => h, fun _ _ => rfl⟩,
          row, hrow, hbudget.symm, hid.symm, hresource.symm⟩
      next =>
        have hlocked : Sourced calls (s.locked i (.requestResource record.budgetId requestId
            record.consumption.resourceType)) := ⟨hinv.budgetConsumptions, hinv.uncommitted⟩
        obtain ⟨hinv', hgrows, hholds⟩ := hlocked.inserts (i := i) hcharges
        exact ⟨hinv', ⟨hgrows.budgetConsumptions, hgrows.uncommitted⟩, hholds⟩

/-- **`insert_within_allowance`**: where it goes through, the charge is in sight. -/
theorem insertWithinAllowance_charges (hcharges : ∃ k, Charges (calls k) record) :
    Follows sharing (charging calls) i (fun answer s => answer = .ok () → Holds i record s)
      (fun _ => True) (LedgerTransaction.insertWithinAllowance i record) := by
  have hinsert : Follows sharing (charging calls) i
      (fun answer s => answer = .ok () → Holds i record s) (fun _ => True)
      (do
        let _ ← LedgerTransaction.insert i record
        return (.ok () : Except ConsumptionError Unit)) :=
    Follows.bind (insert_charges hcharges) fun _ => follows_pure fun _ _ hs _ => hs
  have hrefused : ∀ (error : ConsumptionError) (P : LedgerDatabase ι → Prop),
      Follows sharing (charging calls) i
        (fun answer s => answer = .ok () → Holds i record s) P
        (return .error error : Prog (LedgerDatabase ι) (Except ConsumptionError Unit)) :=
    fun _ _ => follows_pure fun _ _ _ => nofun
  unfold LedgerTransaction.insertWithinAllowance
  apply Follows.bind (lockIssuedBudget_quiet i record.budgetId)
  intro answer
  split
  · exact hrefused _ _
  next issued =>
  split
  · exact hrefused _ _
  apply Follows.bind (R := fun existing s => chargedAlready existing
    record.consumption.resourceType record.consumption.requestId = true → Holds i record s)
  · refine follows_quiet (fun _ => ⟨rfl, rfl⟩) (fun _ => ?_) fun _ _ => holds_of_chargedAlready
    exact fun j s t hne hinv hgrows h hcharged => stable_holds j s t hne hinv hgrows (h hcharged)
  · intro existing
    split
    next hcharged => exact follows_pure fun _ _ hs _ => hs hcharged
    split
    · apply Follows.bind ((lockOrchestration_quiet i record.researchRunId).weaken
        fun _ _ _ => trivial)
      intro answer
      split
      · exact hrefused _ _
      split
      · exact hinsert
      · exact hrefused _ _
    · split
      · exact hinsert.weaken fun _ _ _ => trivial
      · exact hrefused _ _

/-! ## The transactions -/

/-- A transaction that ends without a commit. -/
theorem Sourced.rolledBack (h : Sourced calls s) (i : ι) :
    Sourced calls (s.released i) ∧ Grows i s (s.released i) := by
  refine ⟨⟨h.budgetConsumptions, fun j row hrow => ?_⟩, ⟨fun _ h => h, fun j hj => if_neg hj⟩⟩
  by_cases hj : j = i
  · simp [LedgerDatabase.released, hj] at hrow
  · simp only [LedgerDatabase.released, if_neg hj] at hrow
    exact h.uncommitted j row hrow

/-- A commit puts what is in sight into the ledger. -/
theorem Sourced.commits (h : Sourced calls s) (i : ι) :
    Sourced calls (s.committed i) ∧ Grows i s (s.committed i) := by
  obtain ⟨hreleased, hgrows⟩ := h.rolledBack i
  refine ⟨⟨fun row hrow => ?_, hreleased.uncommitted⟩,
    ⟨fun row hrow => List.mem_append_left _ hrow, hgrows.uncommitted⟩⟩
  exact (List.mem_append.mp hrow).elim (h.budgetConsumptions row) (h.uncommitted i row)

theorem abort_quiet (i : ι) {outcome : ConsumptionOutcome} (hnot : outcome ≠ .recorded) :
    Follows sharing (charging calls) i (Recorded calls i) P (abort i outcome) := by
  apply Follows.bind (R := fun _ _ => True)
  · apply follows_tx fun _ => Contract.stable_true
    intro s hinv _ _
    obtain ⟨hinv', hgrows⟩ := hinv.rolledBack i
    exact ⟨hinv', hgrows, trivial⟩
  · exact fun _ => follows_pure fun _ _ _ h => absurd h hnot

/-- A commit, after which the row of the dispatch is in the ledger. -/
theorem commit_charges (hP : ∀ s, P s → ∀ command, calls i = .dispatch command →
      ∃ row ∈ s.visible i, row.budgetId = command.budgetId ∧
        row.consumption.requestId = some (.worker command.requestId) ∧
        row.consumption.resourceType = .request) :
    Follows sharing (charging calls) i (Recorded calls i) P
      (do
        commit i
        return ConsumptionOutcome.recorded) := by
  apply Follows.bind (R := fun _ s => Recorded calls i .recorded s)
  · apply follows_tx
    · intro _ j s t _ _ hgrows h hrecorded command hcommand
      obtain ⟨row, hrow, hsame⟩ := h hrecorded command hcommand
      exact ⟨row, hgrows.budgetConsumptions row hrow, hsame⟩
    · intro s hinv hs _
      obtain ⟨hinv', hgrows⟩ := hinv.commits i
      exact ⟨hinv', hgrows, fun _ => hP s hs⟩
  · exact fun _ => follows_pure fun _ _ hs => hs

/-- **`RecordBudgetConsumption.execute`** charges what it is asked to. -/
theorem execute_charges {command : RecordBudgetConsumptionCommand}
    (hcall : calls i = .record command) :
    Follows sharing (charging calls) i (Recorded calls i) (fun _ => True)
      (LedgerTransaction.execute i command) := by
  have hcommit : ∀ P : LedgerDatabase ι → Prop,
      Follows sharing (charging calls) i (Recorded calls i) P
        (do
          commit i
          return ConsumptionOutcome.recorded) := by
    intro P
    refine commit_charges fun _ _ other hother => ?_
    rw [hcall] at hother
    cases hother
  unfold LedgerTransaction.execute
  apply Follows.bind (R := fun _ _ => True)
  · exact follows_quiet (fun _ => ⟨rfl, rfl⟩) (fun _ => Contract.stable_true) fun _ _ => trivial
  intro answer
  split
  · exact abort_quiet i nofun
  split
  · exact abort_quiet i nofun
  split
  · exact abort_quiet i nofun
  next record hrecord =>
  have hcharges : ∃ k, Charges (calls k) record := by
    obtain ⟨hbudget, hresource, hrequest, -⟩ := consumptionRecord_eq hrecord
    refine ⟨i, ?_⟩
    rw [hcall]
    exact ⟨hbudget, hresource, hrequest⟩
  apply Follows.bind (R := fun _ _ => True)
  · exact follows_quiet (fun _ => ⟨rfl, rfl⟩) (fun _ => Contract.stable_true) fun _ _ => trivial
  intro before
  split
  · exact abort_quiet i nofun
  split
  · apply Follows.bind (insert_charges hcharges)
    intro fresh
    split
    · exact hcommit _
    · exact abort_quiet i nofun
  · apply Follows.bind (insertWithinAllowance_charges hcharges)
    intro charged
    split
    · exact abort_quiet i nofun
    · exact abort_quiet i nofun
    · exact hcommit _

/-- **The charges of a dispatch.** -/
theorem dispatch_charges {command : DispatchCommand} (hcall : calls i = .dispatch command) :
    Follows sharing (charging calls) i (Recorded calls i) (fun _ => True)
      (LedgerTransaction.dispatch i command) := by
  unfold LedgerTransaction.dispatch
  split
  · exact abort_quiet i nofun
  next amount hamount =>
  split
  next invocation request hinvocation hrequest =>
    obtain ⟨hbudget, hresource, hid, -⟩ := consumptionRecord_eq hinvocation
    obtain ⟨hbudget', hresource', hid', hamount'⟩ := consumptionRecord_eq hrequest
    have hfirst : ∃ k, Charges (calls k) invocation := by
      refine ⟨i, ?_⟩
      rw [hcall]
      refine ⟨hbudget, hid, fun hother => ?_⟩
      rw [hresource] at hother
      cases hother
    have hsecond : ∃ k, Charges (calls k) request := by
      refine ⟨i, ?_⟩
      rw [hcall]
      exact ⟨hbudget', hid', fun _ => by rw [hamount, hamount']⟩
    apply Follows.bind (insertWithinAllowance_charges hfirst)
    intro charged
    split
    · exact abort_quiet i nofun
    · exact abort_quiet i nofun
    · apply Follows.bind ((insertWithinAllowance_charges hsecond).weaken fun _ _ _ => trivial)
      intro charged
      split
      · exact abort_quiet i nofun
      · exact abort_quiet i nofun
      · refine commit_charges fun s hs other hother => ?_
        obtain rfl : command = other := by
          rw [hcall] at hother
          exact LedgerCall.dispatch.inj hother
        obtain ⟨row, hrow, hsame⟩ := hs rfl
        rw [hbudget', hid', hresource'] at hsame
        exact ⟨row, hrow, hsame⟩
  · exact abort_quiet i nofun

/-- Every transaction keeps the rules. -/
theorem program_charges (calls : ι → LedgerCall) (i : ι) :
    Follows sharing (charging calls) i (Recorded calls i) (fun _ => True)
      ((calls i).program i) := by
  cases hcall : calls i with
  | record command => exact execute_charges hcall
  | dispatch command => exact dispatch_charges hcall
  | issue budgetId row | start researchRunId maxModelCalls =>
    apply Follows.bind (R := fun _ _ => True)
    · exact follows_quiet (fun _ => ⟨rfl, rfl⟩) (fun _ => Contract.stable_true) fun _ _ => trivial
    · refine fun _ => follows_pure fun _ _ _ _ other hother => ?_
      rw [hcall] at hother
      cases hother

theorem clean_charging :
    (sharing : Sharing ι (LedgerDatabase ι)).Clean (charging calls) :=
  fun i _ hinv => hinv.rolledBack i

end Statements

/-! ## What is sent under a budget -/

/-- A dispatch of a run, with the rows of the budget that its charge is computed
from. -/
structure Dispatch where
  attempt : AuthorizedDispatch
  budgetId : Id
  researchRunId : Option Id
  requestId : Id
  issued : IssuedBudget
  consumptions : Ledger

/-- What it charges. -/
def Dispatch.amount (dispatch : Dispatch) : Option Int :=
  requestConsumptionAmount dispatch.attempt.plan dispatch.issued dispatch.consumptions

def Dispatch.command (dispatch : Dispatch) : DispatchCommand where
  budgetId := dispatch.budgetId
  researchRunId := dispatch.researchRunId
  requestId := dispatch.requestId
  requestAmount := dispatch.amount

/-- What it sends, once it is charged. -/
def Dispatch.sent (L : UrlCodecs) (isAlnum : Char → Bool) (upper : Text → Text)
    (fingerprints : Implementation → Text) (world : World) (dispatch : Dispatch) : Nat :=
  match dispatch.amount with
  | none => 0
  | some amount => RequestCharge.sent L isAlnum upper fingerprints world dispatch.attempt amount

/-- The transactions of a run and its dispatches.  An attempt is dispatched once,
under a request of its own, and requests are charged by dispatches alone. -/
structure Dispatching (calls : ι → LedgerCall) (dispatches : ι → Option Dispatch) : Prop where
  command : ∀ i dispatch, dispatches i = some dispatch → calls i = .dispatch dispatch.command
  known : ∀ i command, calls i = .dispatch command → (dispatches i).isSome
  once : ∀ i j dispatch other, dispatches i = some dispatch → dispatches j = some other →
    dispatch.budgetId = other.budgetId → dispatch.requestId = other.requestId → i = j
  apart : ∀ i command, calls i = .record command → command.resourceType = .request →
    ∀ j dispatch, dispatches j = some dispatch →
      command.requestId ≠ some (.worker dispatch.requestId)

/-- Different rows of a budget add up to no more than its total. -/
theorem sum_amount_le {rows : List (ConsumptionRecord ι)} {budgetId : Id}
    {resource : ResourceType} {T : Finset ι} {row : ι → ConsumptionRecord ι}
    (hinj : Set.InjOn row T) (h : ∀ i ∈ T, row i ∈ rows ∧ (row i).budgetId = budgetId ∧
      (row i).consumption.resourceType = resource) :
    ∑ i ∈ T, (row i).consumption.amount ≤ ledgerTotal (ofBudget rows budgetId) resource := by
  have htotal : ∀ rows : List (ConsumptionRecord ι),
      ledgerTotal (ofBudget rows budgetId) resource = ((rows.filter fun row =>
        row.budgetId = budgetId ∧ row.consumption.resourceType = resource).map
          (·.consumption.amount)).sum := by
    intro rows
    induction rows with
    | nil => rfl
    | cons row rows ih =>
      rw [← List.singleton_append, ofBudget_append, ledgerTotal_append, ih,
        ledgerTotal_ofBudget_singleton, List.filter_append, List.map_append, List.sum_append]
      congr 1
      by_cases hrow : row.budgetId = budgetId ∧ row.consumption.resourceType = resource
      · simp [hrow]
      · rw [if_neg hrow, List.filter_cons_of_neg (by simpa using hrow)]
        rfl
  have hnodup : (T.toList.map row).Nodup :=
    T.nodup_toList.map_on fun i hi j hj hsame =>
      hinj (Finset.mem_toList.mp hi) (Finset.mem_toList.mp hj) hsame
  have hsub : (T.toList.map row).Subperm (rows.filter fun row =>
      row.budgetId = budgetId ∧ row.consumption.resourceType = resource) := by
    refine hnodup.subperm fun found hfound => ?_
    obtain ⟨i, hi, rfl⟩ := List.mem_map.mp hfound
    obtain ⟨hmem, hsame⟩ := h i (Finset.mem_toList.mp hi)
    exact List.mem_filter.mpr ⟨hmem, by simpa using hsame⟩
  rw [htotal]
  obtain ⟨kept, hperm, hkept⟩ := hsub
  calc ∑ i ∈ T, (row i).consumption.amount
      = ((T.toList.map row).map (·.consumption.amount)).sum := by
        rw [← Finset.sum_map_toList, List.map_map]
        rfl
    _ = (kept.map (·.consumption.amount)).sum := ((hperm.map _).sum_eq).symm
    _ ≤ _ := (hkept.map _).sum_le_sum fun _ _ => Nat.zero_le _

section Runs

variable [DecidableEq ι] {c d : Pool ι (LedgerDatabase ι) ConsumptionOutcome}
variable {es : List (Move ι)} {dispatches : ι → Option Dispatch}

/-- The row of the ledger that a dispatch is charged by. -/
structure IsRowOf (s : LedgerDatabase ι) (dispatch : Dispatch) (row : ConsumptionRecord ι) :
    Prop where
  mem : row ∈ s.budgetConsumptions
  budgetId : row.budgetId = dispatch.budgetId
  requestId : row.consumption.requestId = some (.worker dispatch.requestId)
  resourceType : row.consumption.resourceType = .request
  amount : dispatch.amount = some (row.consumption.amount : Int)

/-- **The row of a dispatch** that is recorded has the amount of its charge. -/
theorem row_of_recorded (hdispatching : Dispatching calls dispatches)
    (hproper : Proper sharing (charging calls) (Recorded calls) d) {dispatch : Dispatch}
    (hdispatch : dispatches i = some dispatch) (hdone : d.rest i = .done .recorded) :
    ∃ row, IsRowOf d.store dispatch row := by
  obtain ⟨row, hrow, hbudget, hrequest, hresource⟩ :=
    hproper.returned hdone rfl dispatch.command (hdispatching.command i dispatch hdispatch)
  refine ⟨row, hrow, hbudget, hrequest, hresource, ?_⟩
  obtain ⟨k, hcharges⟩ := hproper.1.budgetConsumptions row hrow
  cases hcall : calls k with
  | record command =>
    rw [hcall] at hcharges
    obtain ⟨-, hresource', hrequest'⟩ := hcharges
    exact absurd (hrequest'.symm.trans hrequest)
      (hdispatching.apart k command hcall (hresource'.symm.trans hresource) i dispatch hdispatch)
  | dispatch command =>
    rw [hcall] at hcharges
    obtain ⟨hbudget', hrequest', hamount⟩ := hcharges
    obtain ⟨other, hother⟩ := Option.isSome_iff_exists.mp (hdispatching.known k command hcall)
    obtain rfl : command = other.command :=
      LedgerCall.dispatch.inj (hcall.symm.trans (hdispatching.command k other hother))
    -- The row is of its request, so it is its own.
    have hsame : some (RequestId.worker other.requestId) =
        some (RequestId.worker dispatch.requestId) := hrequest'.symm.trans hrequest
    obtain rfl : k = i := hdispatching.once k i other dispatch hother hdispatch
      (hbudget'.symm.trans hbudget) (by simpa using hsame)
    obtain rfl : other = dispatch := Option.some.inj (hother.symm.trans hdispatch)
    exact hamount hresource
  | issue budgetId row' =>
    rw [hcall] at hcharges
    exact hcharges.elim
  | start researchRunId maxModelCalls =>
    rw [hcall] at hcharges
    exact hcharges.elim

theorem proper_charging (hstart : Uncharged c.store)
    (hcalls : ∀ i, c.rest i = (calls i).program i) :
    Proper sharing (charging calls) (Recorded calls) c := by
  refine ⟨⟨?_, ?_⟩, fun i => ⟨fun _ => True, Contract.stable_true, trivial, ?_⟩⟩
  · rw [hstart.budgetConsumptions]
    exact fun _ hmem => absurd hmem List.not_mem_nil
  · intro j
    rw [hstart.uncommitted j]
    exact fun _ hmem => absurd hmem List.not_mem_nil
  · rw [hcalls i]
    exact program_charges calls i

/-- What the dispatches of a set send. -/
def sentBy (L : UrlCodecs) (isAlnum : Char → Bool) (upper : Text → Text)
    (fingerprints : Implementation → Text) (worlds : ι → World)
    (dispatches : ι → Option Dispatch) (T : Finset ι) : Nat :=
  ∑ i ∈ T, (dispatches i).elim 0 (Dispatch.sent L isAlnum upper fingerprints (worlds i))

/-- A dispatch that does not overrun sends no more than its row. -/
theorem Dispatch.sent_le {L : UrlCodecs} {isAlnum : Char → Bool} {upper : Text → Text}
    {fingerprints : Implementation → Text} {world : World} {dispatch : Dispatch} {n : Nat}
    (hamount : dispatch.amount = some (n : Int))
    (hcovered : ¬ Overruns L isAlnum fingerprints world.lets dispatch.attempt) :
    dispatch.sent L isAlnum upper fingerprints world ≤ n := by
  unfold Dispatch.sent
  rw [hamount]
  exact Int.ofNat_le.mp ((sent_le_iff hamount).mpr hcovered world rfl)

end Runs

/-- **The charge covers what is sent** exactly where a dispatch does not overrun
it.  In a run whose dispatches do not, the requests that are sent under a budget
are at most as many as it allows. -/
theorem charge_covers_sent_iff (L : UrlCodecs) (isAlnum : Char → Bool) (upper : Text → Text)
    (fingerprints : Implementation → Text) (lets : ClientRequest → Bool) :
    (∀ (dispatch : AuthorizedDispatch) (issued : IssuedBudget) (consumptions : Ledger)
      (amount : Int), requestConsumptionAmount dispatch.plan issued consumptions = some amount →
        ((∀ world : World, world.lets = lets →
            (sent L isAlnum upper fingerprints world dispatch amount : Int) ≤ amount) ↔
          ¬ Overruns L isAlnum fingerprints lets dispatch)) ∧
    ∀ (ι : Type) [DecidableEq ι] (c d : Pool ι (LedgerDatabase ι) ConsumptionOutcome)
      (es : List (Move ι)) (calls : ι → LedgerCall) (dispatches : ι → Option Dispatch),
      Uncharged c.store → (∀ i, c.rest i = (calls i).program i) → Dispatching calls dispatches →
      (∀ i dispatch, dispatches i = some dispatch →
        ¬ Overruns L isAlnum fingerprints lets dispatch.attempt) →
      Run (PoolStep sharing) c es d →
      ∀ (worlds : ι → World), (∀ i, (worlds i).lets = lets) →
      ∀ budgetId row, d.store.issuedBudgets budgetId = some row →
      ∀ T : Finset ι, (∀ i ∈ T, d.rest i = .done .recorded ∧
          ∃ dispatch, dispatches i = some dispatch ∧ dispatch.budgetId = budgetId) →
        sentBy L isAlnum upper fingerprints worlds dispatches T ≤ row.budget.maxRequests := by
  refine ⟨fun dispatch issued consumptions amount h => sent_le_iff h, ?_⟩
  intro ι _ c d es calls dispatches hstart hcalls hdispatching hcovered hrun worlds hworlds
    budgetId row hrow T hT
  have hcharged := (proper_charging hstart hcalls).run clean_charging hrun
  have hinitial : Initial c := ⟨hstart, calls, hcalls⟩
  obtain ⟨hinv, -⟩ := hinitial.proper.run clean_sharing hrun
  have hwithin := hinv.within none budgetId row hrow .request rfl
  -- every dispatch of the set has a row
  have hrows : ∀ i, ∃ found : ConsumptionRecord ι, i ∈ T → ∃ dispatch,
      dispatches i = some dispatch ∧ dispatch.budgetId = budgetId ∧
        IsRowOf d.store dispatch found := by
    intro i
    by_cases hi : i ∈ T
    · obtain ⟨hdone, dispatch, hdispatch, hbudget⟩ := hT i hi
      obtain ⟨found, hfound⟩ := row_of_recorded hdispatching hcharged hdispatch hdone
      exact ⟨found, fun _ => ⟨dispatch, hdispatch, hbudget, hfound⟩⟩
    · exact ⟨⟨(i, 0), budgetId, none, ⟨.request, 0, none⟩⟩, fun h => absurd h hi⟩
  choose rowOf hrowOf using hrows
  -- of its own, as its request is
  have hinj : Set.InjOn rowOf T := by
    intro i hi j hj hsame
    obtain ⟨dispatch, hdispatch, hbudget, hfound⟩ := hrowOf i hi
    obtain ⟨other, hother, hbudget', hfound'⟩ := hrowOf j hj
    have hrequest := hfound.requestId
    rw [hsame, hfound'.requestId] at hrequest
    exact hdispatching.once i j dispatch other hdispatch hother (hbudget.trans hbudget'.symm)
      (RequestId.worker.inj (Option.some.inj hrequest)).symm
  calc sentBy L isAlnum upper fingerprints worlds dispatches T
      ≤ ∑ i ∈ T, (rowOf i).consumption.amount := by
        refine Finset.sum_le_sum fun i hi => ?_
        obtain ⟨dispatch, hdispatch, -, hfound⟩ := hrowOf i hi
        rw [hdispatch]
        exact Dispatch.sent_le hfound.amount ((hworlds i).symm ▸ hcovered i dispatch hdispatch)
    _ ≤ ledgerTotal (ofBudget d.store.budgetConsumptions budgetId) .request := by
        refine sum_amount_le hinj fun i hi => ?_
        obtain ⟨dispatch, -, hbudget, hfound⟩ := hrowOf i hi
        exact ⟨hfound.mem, hfound.budgetId.trans hbudget, hfound.resourceType⟩
    _ ≤ row.budget.maxRequests := by
        simpa [opened, allowance] using hwithin

/-! ### A probe of four requests -/

/-- A differential probe of a local application, in some mode. -/
def probeDispatch (mode : Text) : AuthorizedDispatch where
  plan := {
    hypothesisId := "h".toList
    requiredCapability := "http.authorization.differential".toList
    action := "probe".toList
    targetReference := "t".toList
    sideEffectLevel := 0
    arguments := [("authorized_origin".toList, .text "http://127.0.0.1:8080".toList),
      ("actor".toList, .text "a".toList), ("own_object".toList, .text "1".toList),
      ("cross_object".toList, .text "2".toList), ("mode".toList, .text mode)]
    requestedBudgetId := "b".toList
    capabilityVersion := packagedVersion
    capabilityDefinitionFingerprint := "f".toList }
  capabilityVersion := packagedVersion
  definitionFingerprint := "f".toList
  identityId := none
  requiredUserAgent := none
  requiredHeaders := none
  networkEnvelope := some HttpTransaction.rootEnvelope
  resolvedSecretValues := none

/-- It is dispatched under a budget of one request. -/
def probeOnce (mode : Text) : Dispatch where
  attempt := probeDispatch mode
  budgetId := 1
  researchRunId := none
  requestId := 1
  issued := ⟨1, 1, 0, 1⟩
  consumptions := []

/-- The run of it. -/
def onceStart (mode : Text) : Pool Unit (LedgerDatabase Unit) ConsumptionOutcome where
  store :=
    { issuedBudgets := fun id => if id = 1 then some ⟨none, ⟨1, 1, 0, 1⟩⟩ else none
      orchestrations := fun _ => none
      budgetConsumptions := []
      uncommitted := fun _ => []
      awaited := fun _ => none
      holder := fun _ => none }
  rest i := (LedgerCall.dispatch (probeOnce mode).command).program i

def letsAll : ClientRequest → Bool := fun _ => true

def onceFingerprints : Implementation → Text := fun _ => "f".toList

theorem dispatching_once (mode : Text) :
    Dispatching (fun _ : Unit => .dispatch (probeOnce mode).command)
      (fun _ => some (probeOnce mode)) where
  command := by
    rintro i dispatch ⟨⟩
    rfl
  known _ _ _ := rfl
  once _ _ _ _ _ _ _ _ := rfl
  apart i command h := by cases h

/-- A probe of a redirect is one request. -/
theorem redirect_mode_covered : ¬ Overruns asciiCodecs HttpTransaction.asciiAlnum
    onceFingerprints letsAll (probeDispatch "redirect".toList) := by
  rintro ⟨request, hrequest, hover⟩
  have hbuilt : ∃ built, workerRequest asciiCodecs HttpTransaction.asciiAlnum
      (probeDispatch "redirect".toList) none = .ok built ∧
      WorkerExecutors.dispatch onceFingerprints built = .ok .httpAuthorizationDifferential ∧
      (prepareAuthorization asciiCodecs built).map (·.planned.length) = .ok 1 :=
    ⟨_, rfl, rfl, rfl⟩
  obtain ⟨built, hbuilt, hdispatch, hplanned⟩ := hbuilt
  obtain rfl := Except.ok.inj (hbuilt.symm.trans hrequest)
  rcases hover with hsecond | ⟨exchange, hother, -⟩
  · refine (secondRequest_iff hdispatch).mpr ?_ hsecond
    intro probe first second rest hprobe htwo
    rw [show prepareAuthorization asciiCodecs built = .ok probe from hprobe] at hplanned
    have hlength : probe.planned.length = 1 := Except.ok.inj hplanned
    rw [htwo] at hlength
    cases hlength
  · cases hdispatch.symm.trans hother

/-- One request is charged, sent and allowed. -/
theorem charge_covers_sent_iff_redirect :
    (sent asciiCodecs HttpTransaction.asciiAlnum HttpTransaction.asciiUpper onceFingerprints
      (answering letsAll 0) (probeDispatch "redirect".toList) 1 : Int) ≤ 1 ∧
    let d := scheduled sharing (List.replicate 12 ()) (onceStart "redirect".toList)
    d.rest () = .done .recorded ∧
      sentBy asciiCodecs HttpTransaction.asciiAlnum HttpTransaction.asciiUpper onceFingerprints
        (fun _ => answering letsAll 0) (fun _ => some (probeOnce "redirect".toList)) {()} ≤ 1 := by
  obtain ⟨hone, hrun⟩ := charge_covers_sent_iff asciiCodecs HttpTransaction.asciiAlnum
    HttpTransaction.asciiUpper onceFingerprints letsAll
  refine ⟨(hone (probeDispatch "redirect".toList) ⟨1, 1, 0, 1⟩ [] 1 (by decide)).mpr
    redirect_mode_covered (answering letsAll 0) rfl, rfl, ?_⟩
  obtain ⟨es, hes⟩ := run_scheduled (S := sharing) (List.replicate 12 ())
    (onceStart "redirect".toList)
  refine hrun Unit _ _ es (fun _ => .dispatch (probeOnce "redirect".toList).command)
    (fun _ => some (probeOnce "redirect".toList)) ⟨rfl, fun _ => rfl, fun _ => rfl⟩
    (fun _ => rfl) (dispatching_once _) ?_ hes _ (fun _ => rfl) 1 ⟨none, ⟨1, 1, 0, 1⟩⟩ rfl {()} ?_
  · rintro i dispatch ⟨⟩
    exact redirect_mode_covered
  · exact fun _ _ => ⟨rfl, probeOnce "redirect".toList, rfl, rfl⟩

/-- **Four requests under a budget of one**: the charge is one, the dispatch is
recorded, and the probe goes through its plan. -/
theorem vulnerable_mode_sends_four :
    requestConsumptionAmount (probeDispatch "vulnerable".toList).plan ⟨1, 1, 0, 1⟩ [] = some 1 ∧
    sent asciiCodecs HttpTransaction.asciiAlnum HttpTransaction.asciiUpper onceFingerprints
      (answering letsAll 0) (probeDispatch "vulnerable".toList) 1 = 4 ∧
    ∃ es d, Run (PoolStep sharing) (onceStart "vulnerable".toList) es d ∧
      d.rest () = .done .recorded ∧
      d.store.issuedBudgets 1 = some ⟨none, ⟨1, 1, 0, 1⟩⟩ ∧
      sentBy asciiCodecs HttpTransaction.asciiAlnum HttpTransaction.asciiUpper onceFingerprints
        (fun _ => answering letsAll 0) (fun _ => some (probeOnce "vulnerable".toList)) {()} =
          4 := by
  refine ⟨by decide, rfl, ?_⟩
  obtain ⟨es, hes⟩ := run_scheduled (S := sharing) (List.replicate 12 ())
    (onceStart "vulnerable".toList)
  exact ⟨es, _, hes, rfl, rfl, rfl⟩

end Zest.RequestCharge
