import Zest.LedgerTransactions

/-! # The ledger is never overspent

A row that counts against an allowance is inserted by the transaction that holds
the row of its budget, and stays uncommitted as long as that one holds it.  So
what the holder has listed is what the ledger has, whatever the others commit in
the meantime, and what it inserts within the allowance is within it when it
commits.
-/
namespace Zest

open UnitOfWork Interleaving TransitionSystem

/-- The resources that an allowance is checked for. -/
def limited : ResourceType → Bool
  | .modelCall | .request | .workerInvocation | .executionTime => true
  | _ => false

section

variable {ι : Type} {rows rows' : List (ConsumptionRecord ι)} {budgetId : Id}
  {resource : ResourceType}

@[simp] theorem ofBudget_append :
    ofBudget (rows ++ rows') budgetId = ofBudget rows budgetId ++ ofBudget rows' budgetId := by
  simp [ofBudget]

/-- Rows that are of other budgets, or count against nothing. -/
theorem ledgerTotal_ofBudget_eq_zero
    (h : ∀ record ∈ rows, record.budgetId = budgetId →
      limited record.consumption.resourceType = false)
    (hlimited : limited resource = true) : ledgerTotal (ofBudget rows budgetId) resource = 0 := by
  induction rows with
  | nil => rfl
  | cons record rows ih =>
    have htail := ih fun other hmem => h other (.tail _ hmem)
    by_cases hid : record.budgetId = budgetId
    · have hother : record.consumption.resourceType ≠ resource := by
        intro heq
        have hnot := h record (.head _) hid
        rw [heq, hlimited] at hnot
        cases hnot
      simpa [ofBudget, hid, ledgerTotal, hother] using htail
    · simpa [ofBudget, hid] using htail

/-- One row, of the budget or of another one. -/
theorem ledgerTotal_ofBudget_singleton (record : ConsumptionRecord ι) :
    ledgerTotal (ofBudget [record] budgetId) resource =
      if record.budgetId = budgetId ∧ record.consumption.resourceType = resource then
        record.consumption.amount
      else 0 := by
  by_cases hid : record.budgetId = budgetId
  · simp [ofBudget, hid, ledgerTotal]
  · simp [ofBudget, hid, ledgerTotal]

end

namespace LedgerTransaction

variable {ι : Type} {s t : LedgerDatabase ι} {i j : ι} {record : ConsumptionRecord ι}

/-- What the budget of the row allows of a resource. -/
def allowance (s : LedgerDatabase ι) (row : IssuedBudgetRow) : ResourceType → Nat
  | .modelCall => (row.researchRunId.bind s.orchestrations).getD 0
  | .request => row.budget.maxRequests
  | .workerInvocation => row.budget.maxToolCalls
  | .executionTime => row.budget.maxRuntimeMs
  | _ => 0

/-- The rows are within the allowance of every budget. -/
def Within (s : LedgerDatabase ι) (rows : List (ConsumptionRecord ι)) : Prop :=
  ∀ budgetId row, s.issuedBudgets budgetId = some row → ∀ resource, limited resource = true →
    ledgerTotal (ofBudget rows budgetId) resource ≤ allowance s row resource

/-- No request is charged twice for a resource. -/
def Once (rows : List (ConsumptionRecord ι)) : Prop :=
  rows.Pairwise fun a b => sameCharge a b = false

/-- The ledger, as it would be with what one transaction has inserted. -/
def opened (s : LedgerDatabase ι) (o : Option ι) : List (ConsumptionRecord ι) :=
  s.budgetConsumptions ++ o.elim [] s.uncommitted

/-- What holds of the database between any two statements. -/
structure Inv (s : LedgerDatabase ι) : Prop where
  owned : ∀ i, ∀ record ∈ s.uncommitted i, record.consumptionId.1 = i
  issued : ∀ o, ∀ record ∈ opened s o, (s.issuedBudgets record.budgetId).isSome
  locked : ∀ i, ∀ record ∈ s.uncommitted i, limited record.consumption.resourceType = true →
    s.holder (.issuedBudget record.budgetId) = some i
  entered : ∀ i, ∀ record ∈ s.uncommitted i, ∀ requestId,
    record.consumption.requestId = some requestId →
      s.holder (.requestResource record.budgetId requestId record.consumption.resourceType) = some i
  within : ∀ o, Within s (opened s o)
  once : ∀ o, Once (opened s o)

/-- What a statement of the transaction `i` may do. -/
structure May (i : ι) (s t : LedgerDatabase ι) : Prop where
  uncommitted : ∀ j, j ≠ i → t.uncommitted j = s.uncommitted j
  awaited : ∀ j, j ≠ i → t.awaited j = s.awaited j
  holder : ∀ j, j ≠ i → ∀ l, s.holder l = some j → t.holder l = some j
  budgetConsumptions : t.budgetConsumptions = s.budgetConsumptions ∨
    t.budgetConsumptions = s.budgetConsumptions ++ s.uncommitted i
  issuedBudgets : ∀ budgetId row, s.issuedBudgets budgetId = some row →
    t.issuedBudgets budgetId = some row
  orchestrations : ∀ researchRunId n, s.orchestrations researchRunId = some n →
    t.orchestrations researchRunId = some n

/-- The rules that every transaction follows. -/
def contract : Contract ι (LedgerDatabase ι) := ⟨Inv, May⟩

theorem May.refl (i : ι) (s : LedgerDatabase ι) : May i s s :=
  ⟨fun _ _ => rfl, fun _ _ => rfl, fun _ _ _ h => h, Or.inl rfl, fun _ _ h => h, fun _ _ h => h⟩

/-- Rows of two transactions are never in conflict: both would hold the entry of
the index. -/
theorem Inv.apart (h : Inv s) (hne : i ≠ j) {a b : ConsumptionRecord ι}
    (ha : a ∈ s.uncommitted i) (hb : b ∈ s.uncommitted j) : sameCharge a b = false := by
  cases hsame : sameCharge a b with
  | false => rfl
  | true =>
    simp only [sameCharge, Bool.and_eq_true, decide_eq_true_eq] at hsame
    obtain ⟨⟨⟨hbudget, hrequest⟩, hsome⟩, hresource⟩ := hsame
    obtain ⟨requestId, hid⟩ := Option.isSome_iff_exists.mp hsome
    have hmine := h.entered i a ha requestId hid
    have hother := h.entered j b hb requestId (hrequest ▸ hid)
    rw [hbudget, hresource, hother] at hmine
    exact absurd (Option.some.inj hmine).symm hne

/-! ## Statements -/

section Statements

variable [DecidableEq ι]

/-- The transaction asks for a lock. -/
theorem Inv.awaits (h : Inv s) (i : ι) (l : RowLock) :
    Inv (s.awaiting i l) ∧ May i s (s.awaiting i l) :=
  ⟨⟨h.owned, h.issued, h.locked, h.entered, h.within, h.once⟩,
    ⟨fun _ _ => rfl, fun j hj => by simp [LedgerDatabase.awaiting, hj], fun _ _ _ h => h,
      Or.inl rfl, fun _ _ h => h, fun _ _ h => h⟩⟩

/-- It no longer waits. -/
theorem Inv.serves (h : Inv s) (i : ι) : Inv (s.served i) ∧ May i s (s.served i) :=
  ⟨⟨h.owned, h.issued, h.locked, h.entered, h.within, h.once⟩,
    ⟨fun _ _ => rfl, fun j hj => by simp [LedgerDatabase.served, hj], fun _ _ _ h => h,
      Or.inl rfl, fun _ _ h => h, fun _ _ h => h⟩⟩

/-- A lock that nobody else holds is taken. -/
theorem Inv.takes {l : RowLock} (h : Inv s) (hfree : s.holder l = none ∨ s.holder l = some i) :
    Inv (s.locked i l) ∧ May i s (s.locked i l) := by
  have hkept : ∀ k j, s.holder k = some j → (s.locked i l).holder k = some j := by
    intro k j hk
    show (if k = l then some i else s.holder k) = some j
    split
    next heq =>
      subst heq
      rcases hfree with hnone | hmine
      · rw [hnone] at hk
        cases hk
      · rw [← hk, hmine]
    next => exact hk
  exact ⟨⟨h.owned, h.issued, fun j r hr hl => hkept _ _ (h.locked j r hr hl),
      fun j r hr q hq => hkept _ _ (h.entered j r hr q hq), h.within, h.once⟩,
    ⟨fun _ _ => rfl, fun j hj => by simp [LedgerDatabase.locked, LedgerDatabase.served, hj],
      fun j _ k hk => hkept k j hk, Or.inl rfl, fun _ _ h => h, fun _ _ h => h⟩⟩

theorem uncommitted_inserted_of_ne (hne : j ≠ i) :
    (s.inserted i record).uncommitted j = s.uncommitted j := by
  simp [LedgerDatabase.inserted, hne]

theorem uncommitted_inserted_self :
    (s.inserted i record).uncommitted i = s.uncommitted i ++ [record] := by
  simp [LedgerDatabase.inserted]

theorem opened_inserted (o : Option ι) :
    opened (s.inserted i record) o = opened s o ++ (if o = some i then [record] else []) := by
  cases o with
  | none => simp [opened, LedgerDatabase.inserted]
  | some j =>
    by_cases hj : j = i
    · subst hj
      simp [opened, LedgerDatabase.inserted, List.append_assoc]
    · simp [opened, LedgerDatabase.inserted, hj]

/-- A row is inserted: the transaction holds what it needs for it, and the row
is within the allowance and new. -/
theorem Inv.inserts (h : Inv s) (howned : record.consumptionId.1 = i)
    (hissued : (s.issuedBudgets record.budgetId).isSome)
    (hlocked : limited record.consumption.resourceType = true →
      s.holder (.issuedBudget record.budgetId) = some i)
    (hentered : ∀ requestId, record.consumption.requestId = some requestId →
      s.holder (.requestResource record.budgetId requestId record.consumption.resourceType) =
        some i)
    (hwithin : limited record.consumption.resourceType = true →
      ∀ row, s.issuedBudgets record.budgetId = some row →
        ledgerTotal (s.listForBudget i record.budgetId) record.consumption.resourceType +
            record.consumption.amount ≤
          allowance s row record.consumption.resourceType)
    (honce : ∀ other ∈ s.visible i, sameCharge other record = false) :
    Inv (s.inserted i record) ∧ May i s (s.inserted i record) := by
  have hmem : ∀ j r, r ∈ (s.inserted i record).uncommitted j →
      r ∈ s.uncommitted j ∨ j = i ∧ r = record := by
    intro j r hr
    by_cases hj : j = i
    · subst hj
      rw [uncommitted_inserted_self, List.mem_append, List.mem_singleton] at hr
      exact hr.imp_right fun heq => ⟨rfl, heq⟩
    · rw [uncommitted_inserted_of_ne hj] at hr
      exact Or.inl hr
  refine ⟨⟨?_, ?_, ?_, ?_, ?_, ?_⟩, ?_⟩
  · intro j r hr
    rcases hmem j r hr with hr | ⟨rfl, rfl⟩
    · exact h.owned j r hr
    · exact howned
  · intro o r hr
    rw [opened_inserted, List.mem_append] at hr
    rcases hr with hr | hr
    · exact h.issued o r hr
    · split at hr
      · obtain rfl := List.mem_singleton.mp hr
        exact hissued
      · cases hr
  · intro j r hr hlimited
    rcases hmem j r hr with hr | ⟨rfl, rfl⟩
    · exact h.locked j r hr hlimited
    · exact hlocked hlimited
  · intro j r hr requestId hrequest
    rcases hmem j r hr with hr | ⟨rfl, rfl⟩
    · exact h.entered j r hr requestId hrequest
    · exact hentered requestId hrequest
  · intro o budgetId row hrow resource hlimited
    have hbefore := h.within o budgetId row hrow resource hlimited
    rw [opened_inserted, ofBudget_append, ledgerTotal_append]
    by_cases ho : o = some i
    · subst ho
      rw [if_pos rfl, ledgerTotal_ofBudget_singleton]
      split
      next hboth =>
        obtain ⟨rfl, rfl⟩ := hboth
        exact hwithin hlimited row hrow
      next => exact hbefore
    · rw [if_neg ho]
      exact hbefore
  · intro o
    unfold Once
    rw [opened_inserted, List.pairwise_append]
    refine ⟨h.once o, ?_, ?_⟩
    · split <;> simp
    · intro other hother r hr
      split at hr
      next ho =>
        obtain rfl := List.mem_singleton.mp hr
        subst ho
        exact honce other hother
      next => cases hr
  · exact ⟨fun j hj => uncommitted_inserted_of_ne hj, fun _ _ => rfl, fun _ _ _ h => h,
      Or.inl rfl, fun _ _ h => h, fun _ _ h => h⟩

/-- The locks of the others are not released. -/
theorem holder_released (hne : j ≠ i) {l : RowLock} (h : s.holder l = some j) :
    (s.released i).holder l = some j := by
  show (if s.holder l = some i then none else s.holder l) = some j
  rw [if_neg (by rw [h]; simpa using hne), h]

theorem mem_uncommitted_released {r : ConsumptionRecord ι}
    (h : r ∈ (s.released i).uncommitted j) : j ≠ i ∧ r ∈ s.uncommitted j := by
  by_cases hj : j = i
  · simp [LedgerDatabase.released, hj] at h
  · exact ⟨hj, by simpa [LedgerDatabase.released, hj] using h⟩

/-- What a transaction that is over leaves open is what another one had. -/
theorem elim_uncommitted_released (o : Option ι) :
    o.elim [] (s.released i).uncommitted = if o = some i then [] else o.elim [] s.uncommitted := by
  cases o with
  | none => simp
  | some j =>
    by_cases hj : j = i
    · simp [LedgerDatabase.released, hj]
    · simp [LedgerDatabase.released, hj]

/-- **A rollback.** -/
theorem Inv.rolledBack (h : Inv s) (i : ι) : Inv (s.released i) ∧ May i s (s.released i) := by
  have hopened : ∀ o, opened (s.released i) o = opened s none ∨
      opened (s.released i) o = opened s o := by
    intro o
    show s.budgetConsumptions ++ o.elim [] (s.released i).uncommitted = _ ∨
      s.budgetConsumptions ++ o.elim [] (s.released i).uncommitted = _
    rw [elim_uncommitted_released]
    split
    · exact Or.inl rfl
    · exact Or.inr rfl
  refine ⟨⟨?_, ?_, ?_, ?_, ?_, ?_⟩, ?_⟩
  · exact fun j r hr => h.owned j r (mem_uncommitted_released hr).2
  · intro o r hr
    rcases hopened o with heq | heq
    · exact h.issued none r (heq ▸ hr)
    · exact h.issued o r (heq ▸ hr)
  · intro j r hr hlimited
    obtain ⟨hne, hr⟩ := mem_uncommitted_released hr
    exact holder_released hne (h.locked j r hr hlimited)
  · intro j r hr requestId hrequest
    obtain ⟨hne, hr⟩ := mem_uncommitted_released hr
    exact holder_released hne (h.entered j r hr requestId hrequest)
  · intro o
    rcases hopened o with heq | heq
    · exact heq ▸ h.within none
    · exact heq ▸ h.within o
  · intro o
    rcases hopened o with heq | heq
    · exact heq ▸ h.once none
    · exact heq ▸ h.once o
  · exact ⟨fun j hj => by simp [LedgerDatabase.released, hj],
      fun j hj => by simp [LedgerDatabase.released, LedgerDatabase.served, hj],
      fun j hj l hl => holder_released hj hl, Or.inl rfl, fun _ _ h => h, fun _ _ h => h⟩

/-- At most one transaction has rows that count against a budget. -/
theorem Inv.counts_alone (h : Inv s) (hne : i ≠ j) {budgetId : Id} {resource : ResourceType}
    (hlimited : limited resource = true) :
    ledgerTotal (ofBudget (s.uncommitted i) budgetId) resource = 0 ∨
      ledgerTotal (ofBudget (s.uncommitted j) budgetId) resource = 0 := by
  by_cases hholder : s.holder (.issuedBudget budgetId) = some i
  · right
    apply ledgerTotal_ofBudget_eq_zero _ hlimited
    intro r hr hid
    cases hcounts : limited r.consumption.resourceType with
    | false => rfl
    | true =>
      have hother := h.locked j r hr hcounts
      rw [hid, hholder] at hother
      exact absurd (Option.some.inj hother) hne
  · left
    apply ledgerTotal_ofBudget_eq_zero _ hlimited
    intro r hr hid
    cases hcounts : limited r.consumption.resourceType with
    | false => rfl
    | true => exact absurd (hid ▸ h.locked i r hr hcounts) hholder

/-- **A commit.** -/
theorem Inv.commits (h : Inv s) (i : ι) : Inv (s.committed i) ∧ May i s (s.committed i) := by
  have hopened : ∀ o, opened (s.committed i) o =
      opened s (some i) ++ (if o = some i then [] else o.elim [] s.uncommitted) := by
    intro o
    show s.visible i ++ o.elim [] (s.released i).uncommitted = _
    rw [elim_uncommitted_released]
    rfl
  obtain ⟨hrolled, hmay⟩ := h.rolledBack i
  refine ⟨⟨hrolled.owned, ?_, hrolled.locked, hrolled.entered, ?_, ?_⟩,
    ⟨hmay.uncommitted, hmay.awaited, hmay.holder, Or.inr rfl, hmay.issuedBudgets,
      hmay.orchestrations⟩⟩
  · intro o r hr
    rw [hopened, List.mem_append] at hr
    rcases hr with hr | hr
    · exact h.issued (some i) r hr
    · split at hr
      · cases hr
      · exact h.issued o r (List.mem_append_right _ hr)
  · intro o budgetId row hrow resource hlimited
    rw [hopened, ofBudget_append, ledgerTotal_append]
    show _ ≤ allowance s row resource
    have hmine := h.within (some i) budgetId row hrow resource hlimited
    cases o with
    | none => simpa [ofBudget, ledgerTotal] using hmine
    | some j =>
      by_cases hj : j = i
      · simpa [hj, ofBudget, ledgerTotal] using hmine
      · have hother := h.within (some j) budgetId row hrow resource hlimited
        rw [if_neg (by simpa using hj)]
        simp only [opened, Option.elim_some, ofBudget_append, ledgerTotal_append] at hmine hother ⊢
        have hzero : ledgerTotal (ofBudget (s.uncommitted i) budgetId) resource = 0 ∨
            ledgerTotal (ofBudget (s.uncommitted j) budgetId) resource = 0 :=
          h.counts_alone (Ne.symm hj) hlimited
        rcases hzero with hzero | hzero
        · omega
        · omega
  · intro o
    unfold Once
    rw [hopened, List.pairwise_append]
    refine ⟨h.once (some i), ?_, ?_⟩
    · split
      · exact .nil
      · exact (List.pairwise_append.mp (h.once o)).2.1
    · intro a ha b hb
      split at hb
      · cases hb
      next ho =>
        rcases List.mem_append.mp ha with ha | ha
        · exact (List.pairwise_append.mp (h.once o)).2.2 a ha b hb
        · cases o with
          | none => cases hb
          | some j => exact h.apart (by simpa using Ne.symm ho) ha hb

end Statements

/-! ## What a transaction knows -/

/-- Nothing of the transaction is in the ledger. -/
def Fresh (i : ι) (s : LedgerDatabase ι) : Prop :=
  ∀ record ∈ s.budgetConsumptions, record.consumptionId.1 ≠ i

theorem stable_fresh : contract.Stable i (Fresh i) := by
  intro j s t hne hinv hmay hfresh record hmem
  rcases hmay.budgetConsumptions with heq | heq
  · exact hfresh record (heq ▸ hmem)
  · rw [heq, List.mem_append] at hmem
    rcases hmem with hmem | hmem
    · exact hfresh record hmem
    · rw [hinv.owned j record hmem]
      exact hne

/-- The holder of a budget sees all that counts against it, whatever another
transaction does. -/
theorem May.listForBudget (hmay : May j s t) (hinv : Inv s) (hne : j ≠ i) {budgetId : Id}
    (hholder : s.holder (.issuedBudget budgetId) = some i) {resource : ResourceType}
    (hlimited : limited resource = true) :
    ledgerTotal (t.listForBudget i budgetId) resource =
      ledgerTotal (s.listForBudget i budgetId) resource := by
  have hnone : ledgerTotal (ofBudget (s.uncommitted j) budgetId) resource = 0 := by
    apply ledgerTotal_ofBudget_eq_zero _ hlimited
    intro r hr hid
    cases hcounts : limited r.consumption.resourceType with
    | false => rfl
    | true =>
      have hother := hinv.locked j r hr hcounts
      rw [hid, hholder] at hother
      exact absurd (Option.some.inj hother).symm hne
  have hsame := hmay.uncommitted i (Ne.symm hne)
  simp only [LedgerDatabase.listForBudget, LedgerDatabase.visible, ofBudget_append,
    ledgerTotal_append, hsame]
  rcases hmay.budgetConsumptions with heq | heq
  · rw [heq]
  · rw [heq, ofBudget_append, ledgerTotal_append, hnone, Nat.add_zero]

/-- An allowance is never lowered. -/
theorem May.allowance_le (hmay : May j s t) (row : IssuedBudgetRow) (resource : ResourceType) :
    allowance s row resource ≤ allowance t row resource := by
  unfold allowance
  cases resource with
  | modelCall =>
    cases hrun : row.researchRunId.bind s.orchestrations with
    | none => exact Nat.zero_le _
    | some n =>
      obtain ⟨run, hsome, horchestration⟩ := Option.bind_eq_some_iff.mp hrun
      simp [hsome, hmay.orchestrations run n horchestration]
  | _ => exact Nat.le_refl _

/-- The record may be inserted, once its entry of the index is free. -/
structure Insertable (i : ι) (record : ConsumptionRecord ι) (s : LedgerDatabase ι) : Prop where
  fresh : Fresh i s
  issued : (s.issuedBudgets record.budgetId).isSome
  locked : limited record.consumption.resourceType = true →
    s.holder (.issuedBudget record.budgetId) = some i
  within : limited record.consumption.resourceType = true →
    ∀ row, s.issuedBudgets record.budgetId = some row →
      ledgerTotal (s.listForBudget i record.budgetId) record.consumption.resourceType +
          record.consumption.amount ≤
        allowance s row record.consumption.resourceType

theorem stable_insertable : contract.Stable i (Insertable i record) := by
  intro j s t hne hinv hmay h
  obtain ⟨row, hrow⟩ := Option.isSome_iff_exists.mp h.issued
  have hkept := hmay.issuedBudgets _ _ hrow
  refine ⟨stable_fresh j s t hne hinv hmay h.fresh, by rw [hkept]; rfl,
    fun hlimited => hmay.holder i (Ne.symm hne) _ (h.locked hlimited), ?_⟩
  intro hlimited row' hrow'
  obtain rfl : row = row' := Option.some.inj (hkept.symm.trans hrow')
  rw [hmay.listForBudget hinv hne (h.locked hlimited) hlimited]
  exact Nat.le_trans (h.within hlimited row hrow) (hmay.allowance_le row _)

/-- The transaction holds the row of the budget, and has listed what is charged
to it. -/
structure Listed (i : ι) (budgetId : Id) (issued : IssuedBudgetRow) (existing : Ledger)
    (s : LedgerDatabase ι) : Prop where
  fresh : Fresh i s
  issued : s.issuedBudgets budgetId = some issued
  holder : s.holder (.issuedBudget budgetId) = some i
  listed : ∀ resource, limited resource = true →
    ledgerTotal existing resource = ledgerTotal (s.listForBudget i budgetId) resource

variable {budgetId : Id} {issued : IssuedBudgetRow} {existing : Ledger}

theorem stable_listed : contract.Stable i (Listed i budgetId issued existing) := by
  intro j s t hne hinv hmay h
  refine ⟨stable_fresh j s t hne hinv hmay h.fresh, hmay.issuedBudgets _ _ h.issued,
    hmay.holder i (Ne.symm hne) _ h.holder, ?_⟩
  intro resource hlimited
  rw [h.listed resource hlimited, hmay.listForBudget hinv hne h.holder hlimited]

/-- **The check.**  What is within the allowance of the listed rows may be
inserted. -/
theorem Listed.insertable {maxModelCalls : Nat} (h : Listed i record.budgetId issued existing s)
    (hmodel : record.consumption.resourceType = .modelCall →
      allowance s issued .modelCall = maxModelCalls)
    (hallowed : withinAllowance issued.budget maxModelCalls existing record.consumption = true) :
    Insertable i record s := by
  refine ⟨h.fresh, by rw [h.issued]; rfl, fun _ => h.holder, ?_⟩
  intro hlimited row hrow
  obtain rfl : issued = row := Option.some.inj (h.issued.symm.trans hrow)
  rw [← h.listed _ hlimited]
  cases hresource : record.consumption.resourceType with
  | modelCall =>
    rw [hmodel hresource]
    simp only [withinAllowance, hresource, decide_eq_true_eq] at hallowed
    omega
  | request | workerInvocation | executionTime =>
    simp only [withinAllowance, hresource, decide_eq_true_eq] at hallowed
    simp only [allowance]
    omega
  | _ => simp [limited, hresource] at hlimited

theorem sameCharge_comm (a b : ConsumptionRecord ι) : sameCharge a b = sameCharge b a := by
  rw [Bool.eq_iff_iff]
  simp only [sameCharge, Bool.and_eq_true, decide_eq_true_eq]
  constructor
  · rintro ⟨⟨⟨hbudget, hrequest⟩, hsome⟩, hresource⟩
    exact ⟨⟨⟨hbudget.symm, hrequest.symm⟩, hrequest ▸ hsome⟩, hresource.symm⟩
  · rintro ⟨⟨⟨hbudget, hrequest⟩, hsome⟩, hresource⟩
    exact ⟨⟨⟨hbudget.symm, hrequest.symm⟩, hrequest ▸ hsome⟩, hresource.symm⟩

theorem consumptionRecord_eq_some {n : Nat} {researchRunId : Option Id}
    {resourceType : ResourceType} {amount : Int} {requestId : Option RequestId}
    (h : consumptionRecord i n budgetId researchRunId resourceType amount requestId =
      some record) :
    record.consumptionId.1 = i ∧ record.budgetId = budgetId ∧
      record.consumption.resourceType = resourceType := by
  unfold consumptionRecord at h
  split at h
  · cases h
    exact ⟨rfl, rfl, rfl⟩
  · cases h

/-- A record that counts against no allowance needs no lock. -/
theorem untracked_insertable (hfresh : Fresh i s)
    (hissued : (s.issuedBudgets record.budgetId).isSome)
    (huntracked : untracked record.consumption.resourceType = true) :
    Insertable i record s := by
  have hnot : limited record.consumption.resourceType ≠ true := by
    intro hlimited
    cases hresource : record.consumption.resourceType <;>
      simp [limited, untracked, hresource] at hlimited huntracked
  exact ⟨hfresh, hissued, fun h => absurd h hnot, fun h => absurd h hnot⟩

/-- Nothing is charged to a budget that is not issued. -/
theorem Inv.unissued (h : Inv s) (o : Option ι) (hnone : s.issuedBudgets budgetId = none)
    {resource : ResourceType} (hlimited : limited resource = true) :
    ledgerTotal (ofBudget (opened s o) budgetId) resource = 0 := by
  apply ledgerTotal_ofBudget_eq_zero _ hlimited
  intro r hr hid
  have hissued := h.issued o r hr
  rw [hid, hnone] at hissued
  cases hissued

/-- A budget is issued. -/
theorem Inv.issues (h : Inv s) (i : ι) (budgetId : Id) (row : IssuedBudgetRow) :
    Inv { s with issuedBudgets := insertOnce s.issuedBudgets budgetId row } ∧
      May i s { s with issuedBudgets := insertOnce s.issuedBudgets budgetId row } := by
  have hkept : ∀ id row', s.issuedBudgets id = some row' →
      insertOnce s.issuedBudgets budgetId row id = some row' := by
    intro id row' hrow
    unfold insertOnce
    split
    next hnew =>
      rw [hnew.1, Option.isNone_iff_eq_none.mp hnew.2] at hrow
      cases hrow
    next => exact hrow
  refine ⟨⟨h.owned, ?_, h.locked, h.entered, ?_, h.once⟩,
    ⟨fun _ _ => rfl, fun _ _ => rfl, fun _ _ _ h => h, Or.inl rfl, hkept, fun _ _ h => h⟩⟩
  · intro o r hr
    obtain ⟨row', hrow⟩ := Option.isSome_iff_exists.mp (h.issued o r hr)
    exact Option.isSome_iff_exists.mpr ⟨row', hkept _ _ hrow⟩
  · intro o id row' hrow resource hlimited
    cases hbefore : s.issuedBudgets id with
    | none =>
      have hzero := h.unissued o hbefore hlimited
      exact Nat.le_trans (Nat.le_of_eq hzero) (Nat.zero_le _)
    | some row'' =>
      obtain rfl : row'' = row' := Option.some.inj ((hkept _ _ hbefore).symm.trans hrow)
      exact h.within o id row'' hbefore resource hlimited

/-- An orchestration is started. -/
theorem Inv.starts (h : Inv s) (i : ι) (researchRunId : Id) (maxModelCalls : Nat) :
    Inv { s with orchestrations := insertOnce s.orchestrations researchRunId maxModelCalls } ∧
      May i s
        { s with orchestrations := insertOnce s.orchestrations researchRunId maxModelCalls } := by
  have hkept : ∀ id n, s.orchestrations id = some n →
      insertOnce s.orchestrations researchRunId maxModelCalls id = some n := by
    intro id n hn
    unfold insertOnce
    split
    next hnew =>
      rw [hnew.1, Option.isNone_iff_eq_none.mp hnew.2] at hn
      cases hn
    next => exact hn
  have hmay : May i s
      { s with orchestrations := insertOnce s.orchestrations researchRunId maxModelCalls } :=
    ⟨fun _ _ => rfl, fun _ _ => rfl, fun _ _ _ h => h, Or.inl rfl, fun _ _ h => h, hkept⟩
  refine ⟨⟨h.owned, h.issued, h.locked, h.entered, ?_, h.once⟩, hmay⟩
  intro o id row hrow resource hlimited
  exact Nat.le_trans (h.within o id row hrow resource hlimited) (hmay.allowance_le row resource)

theorem Uncharged.inv (h : Uncharged s) : Inv s := by
  have hopened : ∀ o, opened s o = [] := by
    intro o
    cases o with
    | none => simp [opened, h.budgetConsumptions]
    | some i => simp [opened, h.budgetConsumptions, h.uncommitted i]
  refine ⟨?_, ?_, ?_, ?_, ?_, ?_⟩
  · intro i record hmem
    rw [h.uncommitted i] at hmem
    cases hmem
  · intro o record hmem
    rw [hopened o] at hmem
    cases hmem
  · intro i record hmem
    rw [h.uncommitted i] at hmem
    cases hmem
  · intro i record hmem
    rw [h.uncommitted i] at hmem
    cases hmem
  · intro o budgetId row _ resource _
    rw [hopened o]
    exact Nat.zero_le _
  · intro o
    unfold Once
    rw [hopened o]
    exact .nil

/-- The rows that charge a request for a resource of a budget. -/
def chargesOf (rows : List (ConsumptionRecord ι)) (budgetId : Id) (requestId : RequestId)
    (resource : ResourceType) : List (ConsumptionRecord ι) :=
  rows.filter fun row => row.budgetId = budgetId && row.consumption.requestId = some requestId &&
    row.consumption.resourceType = resource

theorem Once.chargesOf_length_le {rows : List (ConsumptionRecord ι)} (h : Once rows)
    (budgetId : Id) (requestId : RequestId) (resource : ResourceType) :
    (chargesOf rows budgetId requestId resource).length ≤ 1 := by
  have hapart : Once (chargesOf rows budgetId requestId resource) := List.Pairwise.filter _ h
  have hmem : ∀ row ∈ chargesOf rows budgetId requestId resource, row.budgetId = budgetId ∧
      row.consumption.requestId = some requestId ∧ row.consumption.resourceType = resource := by
    intro row hrow
    have hfound := (List.mem_filter.mp hrow).2
    simp only [Bool.and_eq_true, decide_eq_true_eq] at hfound
    exact ⟨hfound.1.1, hfound.1.2, hfound.2⟩
  generalize chargesOf rows budgetId requestId resource = found at hapart hmem
  match found with
  | [] => exact Nat.zero_le _
  | [_] => exact Nat.le_refl _
  | a :: b :: rest =>
    -- two charges of the same request would be in conflict
    have hdistinct := (List.pairwise_cons.mp hapart).1 b (.head _)
    obtain ⟨habudget, harequest, haresource⟩ := hmem a (.head _)
    obtain ⟨hbbudget, hbrequest, hbresource⟩ := hmem b (.tail _ (.head _))
    simp [sameCharge, habudget, harequest, haresource, hbbudget, hbrequest, hbresource]
      at hdistinct

/-! ## The use cases -/

section UseCases

variable [DecidableEq ι]

/-- A statement that follows a request for a lock: the lock is free, or the
transaction's own. -/
theorem follows_awaited {β : Type} {P : LedgerDatabase ι → Prop}
    {Q : β → LedgerDatabase ι → Prop} {f : LedgerDatabase ι → LedgerDatabase ι × β} {l : RowLock}
    (hP : contract.Stable i P) (hQ : ∀ b, contract.Stable i (Q b))
    (hwait : ∀ s, P s → P (s.awaiting i l))
    (h : ∀ s, Inv s → P s → s.holder l = none ∨ s.holder l = some i →
      Inv (f s).1 ∧ May i s (f s).1 ∧ Q (f s).2 (f s).1) :
    Follows sharing contract i Q P
      (do
        Prog.write (·.awaiting i l)
        Prog.tx f .done) := by
  intro s hinv hs _
  obtain ⟨hinv', hmay⟩ := hinv.awaits i l
  have hstable : contract.Stable i fun t => P t ∧ t.awaited i = some l := by
    refine hP.and ?_
    intro j t u hj _ hmay' hawaited
    rw [hmay'.awaited i (Ne.symm hj)]
    exact hawaited
  refine ⟨hinv', hmay, _, hstable, ⟨hwait s hs, by simp [LedgerDatabase.awaiting]⟩, ?_⟩
  exact follows_tx hQ fun t hinv ht hready => h t hinv ht.1 (hready l ht.2)

theorem follows_read {β : Type} {P : LedgerDatabase ι → Prop}
    {Q : β → LedgerDatabase ι → Prop} {f : LedgerDatabase ι → β}
    (hQ : ∀ b, contract.Stable i (Q b)) (h : ∀ s, Inv s → P s → Q (f s) s) :
    Follows sharing contract i Q P (Prog.read f) :=
  follows_tx hQ fun s hinv hs _ => ⟨hinv, May.refl i s, h s hinv hs⟩

/-- The row of the budget is locked, if it is there. -/
theorem lockIssuedBudget_follows (i : ι) (budgetId : Id) :
    Follows sharing contract i
      (fun answer s => Fresh i s ∧ ∀ issued, answer = some issued →
        s.issuedBudgets budgetId = some issued ∧ s.holder (.issuedBudget budgetId) = some i)
      (Fresh i) (lockIssuedBudget i budgetId) := by
  apply follows_awaited stable_fresh
  · intro answer
    refine stable_fresh.and ?_
    intro j s t hne _ hmay h issued hanswer
    obtain ⟨hissued, hholder⟩ := h issued hanswer
    exact ⟨hmay.issuedBudgets _ _ hissued, hmay.holder i (Ne.symm hne) _ hholder⟩
  · exact fun s hs => hs
  · intro s hinv hs hfree
    dsimp only
    cases hrow : s.issuedBudgets budgetId with
    | none =>
      obtain ⟨hinv', hmay⟩ := hinv.serves i
      exact ⟨hinv', hmay, hs, nofun⟩
    | some row =>
      obtain ⟨hinv', hmay⟩ := hinv.takes hfree
      refine ⟨hinv', hmay, hs, ?_⟩
      rintro issued ⟨⟩
      exact ⟨hrow, by simp [LedgerDatabase.locked]⟩

/-- The orchestration is locked, if there is one, and what the transaction has
listed stays as it was. -/
theorem lockOrchestration_follows (researchRunId : Option Id) :
    Follows sharing contract i
      (fun answer s => Listed i budgetId issued existing s ∧
        ∀ n, answer = some n → researchRunId.bind s.orchestrations = some n)
      (Listed i budgetId issued existing) (lockOrchestration i researchRunId) := by
  unfold lockOrchestration
  split
  · exact follows_pure fun s _ hs => ⟨hs, nofun⟩
  next researchRunId =>
    apply follows_awaited stable_listed
    · intro answer
      refine stable_listed.and ?_
      intro j s t _ _ hmay h n hanswer
      exact hmay.orchestrations _ _ (h n hanswer)
    · exact fun s hs => ⟨hs.fresh, hs.issued, hs.holder, hs.listed⟩
    · intro s hinv hs hfree
      dsimp only
      cases horchestration : s.orchestrations researchRunId with
      | none =>
        obtain ⟨hinv', hmay⟩ := hinv.serves i
        exact ⟨hinv', hmay, ⟨hs.fresh, hs.issued, hs.holder, hs.listed⟩, nofun⟩
      | some n =>
        obtain ⟨hinv', hmay⟩ := hinv.takes hfree
        refine ⟨hinv', hmay, ⟨hs.fresh, hs.issued, ?_, hs.listed⟩, ?_⟩
        · simp [LedgerDatabase.locked, LedgerDatabase.served, hs.holder]
        · rintro m ⟨⟩
          exact horchestration

/-- **An insertion**, of a record that may be inserted. -/
theorem insert_follows (howned : record.consumptionId.1 = i) :
    Follows sharing contract i (fun _ => Fresh i) (Insertable i record) (insert i record) := by
  unfold insert
  split
  next hnull =>
    apply follows_tx fun _ => stable_fresh
    intro s hinv hs _
    obtain ⟨hinv', hmay⟩ := hinv.inserts howned hs.issued hs.locked
      (fun requestId hrequest => by rw [hnull] at hrequest; cases hrequest) hs.within
      (fun other _ => by rw [sameCharge_comm]; simp [sameCharge, hnull])
    exact ⟨hinv', hmay, hs.fresh⟩
  next requestId hrequest =>
    apply follows_awaited stable_insertable fun _ => stable_fresh
    · exact fun s hs => ⟨hs.fresh, hs.issued, hs.locked, hs.within⟩
    · intro s hinv hs hfree
      split
      · obtain ⟨hinv', hmay⟩ := hinv.serves i
        exact ⟨hinv', hmay, hs.fresh⟩
      next hnew =>
        generalize hentry : RowLock.requestResource record.budgetId requestId
          record.consumption.resourceType = entry at hfree ⊢
        obtain ⟨htaken, hmay⟩ := hinv.takes hfree
        have hholder : ∀ l, s.holder l = some i → (s.locked i entry).holder l = some i := by
          intro l hl
          simp [LedgerDatabase.locked, LedgerDatabase.served, hl]
        obtain ⟨hinv', hmay'⟩ := htaken.inserts howned hs.issued
          (fun hlimited => hholder _ (hs.locked hlimited))
          (fun other hother => by
            rw [hrequest] at hother
            cases hother
            simp [LedgerDatabase.locked, hentry])
          hs.within
          (fun other hmem => by
            rw [sameCharge_comm]
            cases hsame : sameCharge record other with
            | false => rfl
            | true => exact absurd (List.any_eq_true.mpr ⟨other, hmem, hsame⟩) hnew)
        exact ⟨hinv', ⟨fun j hj => (hmay'.uncommitted j hj).trans (hmay.uncommitted j hj),
          fun j hj => (hmay'.awaited j hj).trans (hmay.awaited j hj),
          fun j hj l hl => hmay'.holder j hj l (hmay.holder j hj l hl), Or.inl rfl,
          fun _ _ h => h, fun _ _ h => h⟩, hs.fresh⟩

/-- **`insert_within_allowance`.** -/
theorem insertWithinAllowance_follows (howned : record.consumptionId.1 = i) :
    Follows sharing contract i (fun _ => Fresh i) (Fresh i) (insertWithinAllowance i record) := by
  have hinsert : Follows sharing contract i (fun _ => Fresh i) (Insertable i record)
      (do
        let _ ← insert i record
        return (.ok () : Except ConsumptionError Unit)) :=
    Follows.bind (insert_follows howned) fun _ => follows_pure fun _ _ hs => hs
  unfold insertWithinAllowance
  apply Follows.bind (lockIssuedBudget_follows i record.budgetId)
  intro answer
  split
  · exact follows_pure fun _ _ hs => hs.1
  next issued =>
  split
  · exact follows_pure fun _ _ hs => hs.1
  next hrun =>
  have hrun : issued.researchRunId = record.researchRunId := by simpa using hrun
  apply Follows.bind (R := Listed i record.budgetId issued)
  · apply follows_read fun _ => stable_listed
    intro s _ hs
    obtain ⟨hissued, hholder⟩ := hs.2 issued rfl
    exact ⟨hs.1, hissued, hholder, fun _ _ => rfl⟩
  · intro existing
    split
    · exact follows_pure fun _ _ hs => hs.fresh
    split
    · apply Follows.bind (lockOrchestration_follows record.researchRunId)
      intro answer
      split
      · exact follows_pure fun _ _ hs => hs.1.fresh
      next maxModelCalls =>
        split
        next hallowed =>
          apply hinsert.weaken
          intro s _ hs
          refine hs.1.insertable (fun _ => ?_) hallowed
          simp [allowance, hrun, hs.2 maxModelCalls rfl]
        next => exact follows_pure fun _ _ hs => hs.1.fresh
    next hmodel =>
      split
      next hallowed =>
        apply hinsert.weaken
        intro s _ hs
        exact hs.insertable (fun hresource => absurd hresource hmodel) hallowed
      next => exact follows_pure fun _ _ hs => hs.fresh

/-- What a use case promises: if it has rejected the consumption, nothing of it
is in the ledger. -/
def Promise (i : ι) (outcome : ConsumptionOutcome) (s : LedgerDatabase ι) : Prop :=
  outcome = .rejected → Fresh i s

theorem abort_follows (i : ι) (outcome : ConsumptionOutcome) :
    Follows sharing contract i (Promise i) (Fresh i) (abort i outcome) := by
  apply Follows.bind (R := fun _ => Fresh i)
  · apply follows_tx fun _ => stable_fresh
    intro s hinv hs _
    obtain ⟨hinv', hmay⟩ := hinv.rolledBack i
    exact ⟨hinv', hmay, hs⟩
  · exact fun _ => follows_pure fun _ _ hs _ => hs

theorem commit_follows (i : ι) :
    Follows sharing contract i (Promise i) (Fresh i)
      (do
        commit i
        return ConsumptionOutcome.recorded) := by
  apply Follows.bind (R := fun _ _ => True)
  · apply follows_tx fun _ => Contract.stable_true
    intro s hinv _ _
    obtain ⟨hinv', hmay⟩ := hinv.commits i
    exact ⟨hinv', hmay, trivial⟩
  · exact fun _ => follows_pure fun _ _ _ => nofun

/-- **`RecordBudgetConsumption.execute`.** -/
theorem execute_follows (i : ι) (command : RecordBudgetConsumptionCommand) :
    Follows sharing contract i (Promise i) (Fresh i) (execute i command) := by
  unfold execute
  apply Follows.bind (R := fun answer s => Fresh i s ∧ ∀ issued, answer = some issued →
    s.issuedBudgets command.budgetId = some issued)
  · refine follows_read (fun _ => stable_fresh.and ?_) fun s _ hs => ⟨hs, fun _ h => h⟩
    exact fun j s t _ _ hmay h issued hanswer => hmay.issuedBudgets _ _ (h issued hanswer)
  · intro answer
    have hissued : contract.Stable i fun s => Fresh i s ∧ ∀ issued, answer = some issued →
        s.issuedBudgets command.budgetId = some issued :=
      stable_fresh.and fun j s t _ _ hmay h issued hanswer =>
        hmay.issuedBudgets _ _ (h issued hanswer)
    split
    · exact (abort_follows i _).weaken fun _ _ hs => hs.1
    next issued =>
    split
    · exact (abort_follows i _).weaken fun _ _ hs => hs.1
    split
    · exact (abort_follows i _).weaken fun _ _ hs => hs.1
    next record hrecord =>
    obtain ⟨howned, hbudget, hresource⟩ := consumptionRecord_eq_some hrecord
    apply Follows.bind (R := fun _ s => Fresh i s ∧ ∀ row, some issued = some row →
      s.issuedBudgets command.budgetId = some row)
    · exact follows_read (fun _ => hissued) fun s _ hs => hs
    · intro before
      split
      · exact (abort_follows i _).weaken fun _ _ hs => hs.1
      split
      next huntracked =>
        apply Follows.bind (R := fun _ => Fresh i)
        · apply (insert_follows howned).weaken
          intro s _ hs
          refine untracked_insertable hs.1 ?_ (hresource ▸ huntracked)
          rw [hbudget, hs.2 issued rfl]
          rfl
        · intro fresh
          split
          · exact commit_follows i
          · exact abort_follows i _
      next =>
        apply Follows.bind ((insertWithinAllowance_follows howned).weaken fun _ _ hs => hs.1)
        intro charged
        split
        · exact abort_follows i _
        · exact abort_follows i _
        · exact commit_follows i

/-- **The charges of a dispatch.** -/
theorem dispatch_follows (i : ι) (command : DispatchCommand) :
    Follows sharing contract i (Promise i) (Fresh i) (LedgerTransaction.dispatch i command) := by
  unfold LedgerTransaction.dispatch
  split
  · exact abort_follows i _
  split
  next invocation request hinvocation hrequest =>
    apply Follows.bind (insertWithinAllowance_follows (consumptionRecord_eq_some hinvocation).1)
    intro charged
    split
    · exact abort_follows i _
    · exact abort_follows i _
    · apply Follows.bind (insertWithinAllowance_follows (consumptionRecord_eq_some hrequest).1)
      intro charged
      split
      · exact abort_follows i _
      · exact abort_follows i _
      · exact commit_follows i
  · exact abort_follows i _

/-- Every transaction follows the contract. -/
theorem program_follows (i : ι) (call : LedgerCall) :
    Follows sharing contract i (Promise i) (Fresh i) (call.program i) := by
  cases call with
  | record command => exact execute_follows i command
  | dispatch command => exact dispatch_follows i command
  | issue budgetId row =>
    apply Follows.bind (R := fun _ => Fresh i)
    · apply follows_tx fun _ => stable_fresh
      intro s hinv hs _
      obtain ⟨hinv', hmay⟩ := hinv.issues i budgetId row
      exact ⟨hinv', hmay, hs⟩
    · exact fun _ => follows_pure fun _ _ hs _ => hs
  | start researchRunId maxModelCalls =>
    apply Follows.bind (R := fun _ => Fresh i)
    · apply follows_tx fun _ => stable_fresh
      intro s hinv hs _
      obtain ⟨hinv', hmay⟩ := hinv.starts i researchRunId maxModelCalls
      exact ⟨hinv', hmay, hs⟩
    · exact fun _ => follows_pure fun _ _ hs _ => hs

theorem clean_sharing : (sharing : Sharing ι (LedgerDatabase ι)).Clean contract :=
  fun i _ hinv => hinv.rolledBack i

/-! ## Runs -/

variable {c d : Pool ι (LedgerDatabase ι) ConsumptionOutcome} {es : List (Move ι)}

theorem Initial.proper (h : Initial c) : Proper sharing contract Promise c := by
  obtain ⟨hstart, calls, hcalls⟩ := h
  refine ⟨hstart.inv, fun i => ⟨Fresh i, stable_fresh, ?_, ?_⟩⟩
  · intro record hmem
    rw [hstart.budgetConsumptions] at hmem
    cases hmem
  · rw [hcalls i]
    exact program_follows i (calls i)

/-- **The ledger is never overspent**, however its transactions interleave and
wherever they are stopped: every budget is within its allowances, no request is
charged twice, and a transaction whose consumption was rejected has left nothing
in the ledger. -/
theorem ledger_never_overspent (hc : Initial c) (hrun : Run (PoolStep sharing) c es d) :
    (∀ budgetId row, d.store.issuedBudgets budgetId = some row →
      let charged := ofBudget d.store.budgetConsumptions budgetId
      ledgerTotal charged .request ≤ row.budget.maxRequests ∧
      ledgerTotal charged .workerInvocation ≤ row.budget.maxToolCalls ∧
      ledgerTotal charged .executionTime ≤ row.budget.maxRuntimeMs ∧
      ∀ maxModelCalls, row.researchRunId.bind d.store.orchestrations = some maxModelCalls →
        ledgerTotal charged .modelCall ≤ maxModelCalls) ∧
    (∀ budgetId requestId resource,
      (chargesOf d.store.budgetConsumptions budgetId requestId resource).length ≤ 1) ∧
    ∀ i, d.rest i = .done .rejected →
      ∀ record ∈ d.store.budgetConsumptions, record.consumptionId.1 ≠ i := by
  have hproper := hc.proper.run clean_sharing hrun
  obtain ⟨hinv, -⟩ := id hproper
  have hopened : opened d.store none = d.store.budgetConsumptions := List.append_nil _
  have hwithin := hopened ▸ hinv.within none
  refine ⟨fun budgetId row hrow => ⟨?_, ?_, ?_, fun maxModelCalls hmax => ?_⟩, ?_, ?_⟩
  · exact hwithin budgetId row hrow .request rfl
  · exact hwithin budgetId row hrow .workerInvocation rfl
  · exact hwithin budgetId row hrow .executionTime rfl
  · have hle := hwithin budgetId row hrow .modelCall rfl
    simpa [allowance, hmax] using hle
  · exact (hopened ▸ hinv.once none : Once d.store.budgetConsumptions).chargesOf_length_le
  · exact fun i hdone => hproper.returned hdone rfl

end UseCases

/-- A budget of one request, and two dispatches of one request each. -/
def oneRequest : Pool Bool (LedgerDatabase Bool) ConsumptionOutcome where
  store :=
    { issuedBudgets := fun id => if id = 1 then some ⟨none, ⟨1, 2, 0, 1⟩⟩ else none
      orchestrations := fun _ => none
      budgetConsumptions := []
      uncommitted := fun _ => []
      awaited := fun _ => none
      holder := fun _ => none }
  rest i := (LedgerCall.dispatch ⟨1, none, if i then 1 else 2, some 1⟩).program i

/-- The second dispatch runs into the lock of the first one, goes on when that
has committed, and is rejected. -/
theorem ledger_never_overspent_race :
    let d := scheduled sharing ([true, true, false, false] ++ List.replicate 12 true ++
      List.replicate 12 false) oneRequest
    d.rest false = .done .rejected ∧ d.store.budgetConsumptions.length = 2 ∧
      (∀ record ∈ d.store.budgetConsumptions, record.consumptionId.1 ≠ false) ∧
      ledgerTotal (ofBudget d.store.budgetConsumptions 1) .request ≤ 1 := by
  intro d
  obtain ⟨es, hrun⟩ := run_scheduled (S := sharing)
    ([true, true, false, false] ++ List.replicate 12 true ++ List.replicate 12 false) oneRequest
  have hstart : Initial oneRequest :=
    ⟨⟨rfl, fun _ => rfl, fun _ => rfl⟩,
      fun i => .dispatch ⟨1, none, if i then 1 else 2, some 1⟩, fun _ => rfl⟩
  obtain ⟨hwithin, -, hrejected⟩ := ledger_never_overspent hstart hrun
  exact ⟨rfl, rfl, hrejected false rfl, (hwithin 1 ⟨none, ⟨1, 2, 0, 1⟩⟩ rfl).1⟩

end LedgerTransaction
end Zest
