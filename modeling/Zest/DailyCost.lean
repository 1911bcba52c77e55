import Mathlib.Algebra.Order.Field.Basic
import Mathlib.Data.List.Dedup
import Mathlib.Data.Rat.Cast.Order
import Mathlib.Tactic.Linarith
import Mathlib.Tactic.NormNum
import Zest.BudgetLedger
import Zest.KeyedList

/-! # What a day of model calls costs

The tokens of a model call are two rows of the ledger of the program's daily
budget, and no counter is kept beside it: what the day has cost is computed
from the rows each time.  The rows are put together by request, and a request
is priced as a whole, at the rates of the first model its rows name.  Prices are
per million tokens, and a part of a microdollar is dropped: once a request, and
not once a row.
-/
namespace Zest

/-- `BudgetConsumptionRecord` of a daily budget, with what `resource_metadata`
says of the model.  Instants are microseconds. -/
structure UsageRecord extends BudgetConsumption where
  modelId : Option Text
  occurredAt : Nat
  deriving DecidableEq, Repr

namespace UsageRecord

/-- The record with another amount. -/
def withAmount (record : UsageRecord) (amount : Nat) : UsageRecord :=
  { record with amount := amount }

/-- `MODEL_TOKENS_IN` or `MODEL_TOKENS_OUT`. -/
def CountsTokens (record : UsageRecord) : Prop :=
  record.resourceType = .modelTokensIn ∨ record.resourceType = .modelTokensOut

instance (record : UsageRecord) : Decidable record.CountsTokens :=
  inferInstanceAs (Decidable (_ ∨ _))

end UsageRecord

/-! ## The price of a request -/

/-- `MODEL_PRICE_TABLE`: microdollars for a million tokens, in and out. -/
def modelPriceTable : List (Text × Nat × Nat) :=
  [("gpt-4o-mini".toList, 150000, 600000), ("gpt-4o".toList, 2500000, 10000000),
    ("claude-3-5-sonnet".toList, 3000000, 15000000), ("local-fixture".toList, 0, 0)]

/-- The two rates of a model. -/
def modelRates (modelId : Option Text) : Option (Nat × Nat) :=
  modelId.bind fun id => modelPriceTable.lookup id

/-- `estimate_cost`; `none` is its `UnknownModelPriceError`. -/
def estimateCost (modelId : Option Text) (tokensIn tokensOut : Nat) : Option Nat :=
  (modelRates modelId).map fun rates => (tokensIn * rates.1 + tokensOut * rates.2) / 1000000

/-- What `_sum_estimated_cost` keeps of the records of one request. -/
structure RequestBucket where
  requestId : Option RequestId
  tokensIn : Nat
  tokensOut : Nat
  modelId : Option Text
  deriving DecidableEq, Repr

namespace RequestBucket

/-- One more record goes into a bucket; the first model it names stays. -/
def add (bucket item : RequestBucket) : RequestBucket where
  requestId := bucket.requestId
  tokensIn := bucket.tokensIn + item.tokensIn
  tokensOut := bucket.tokensOut + item.tokensOut
  modelId := bucket.modelId.or item.modelId

/-- A request whose model has no price counts as the full limit. -/
def cost (bucket : RequestBucket) : Nat :=
  (estimateCost bucket.modelId bucket.tokensIn bucket.tokensOut).getD (2 ^ 63 - 1)

/-- What the tokens of a request cost in millionths of a microdollar, nothing if
the model has no price. -/
def price (bucket : RequestBucket) : Nat :=
  ((modelRates bucket.modelId).map fun rates =>
    bucket.tokensIn * rates.1 + bucket.tokensOut * rates.2).getD 0

end RequestBucket

/-- The bucket of one record. -/
def tokenBucket (record : UsageRecord) : Option RequestBucket :=
  match record.resourceType with
  | .modelTokensIn =>
    some ⟨record.requestId, record.amount, 0, record.modelId⟩
  | .modelTokensOut =>
    some ⟨record.requestId, 0, record.amount, record.modelId⟩
  | _ => none

/-- `by_request`. -/
def byRequest (records : List UsageRecord) : List RequestBucket :=
  KeyedList.collect RequestBucket.requestId RequestBucket.add (records.filterMap tokenBucket)

/-- `_sum_estimated_cost`. -/
def sumEstimatedCost (records : List UsageRecord) : Nat :=
  ((byRequest records).map RequestBucket.cost).sum

/-- `_sum_tokens`. -/
def sumTokens (records : List UsageRecord) (resource : ResourceType) : Nat :=
  ((records.filter fun record => record.resourceType = resource).map fun record =>
    record.amount).sum

/-! ## The exact price -/

/-- The unit price of what a record counts, in microdollars for a million. -/
def unitPrice (record : UsageRecord) : Nat :=
  match record.resourceType, modelRates record.modelId with
  | .modelTokensIn, some rates => rates.1
  | .modelTokensOut, some rates => rates.2
  | _, _ => 0

/-- **The exact price of the tokens used**, in microdollars: over the records,
tokens times unit price. -/
def exactPrice (records : List UsageRecord) : ℚ :=
  ((records.map fun record => record.amount * unitPrice record).sum : Nat) / 1000000

/-- How many requests have used tokens. -/
def requestCount (records : List UsageRecord) : Nat :=
  ((records.filter fun record => record.CountsTokens).map fun record =>
    record.requestId).dedup.length

/-- The token records of one request name one model, if any. -/
def OneModel (records : List UsageRecord) : Prop :=
  ∀ a ∈ records, ∀ b ∈ records, a.CountsTokens → b.CountsTokens → a.requestId = b.requestId →
    ∀ m m', a.modelId = some m → b.modelId = some m' → m = m'

/-! ## The gate and the view -/

/-- The reasons a budget check gives. -/
inductive BudgetReason where
  | allowed
  | budgetExhausted
  | budgetMismatch
  deriving DecidableEq, Repr

structure BudgetCheck where
  allowedToContinue : Bool
  reasonCode : BudgetReason
  deriving DecidableEq, Repr

structure ProgramDailyBudget where
  programId : Id
  limitMicrodollars : Nat
  spentMicrodollars : Nat
  deriving DecidableEq, Repr

/-- `check_program_daily_budget`. -/
def checkProgramDailyBudget (budget : ProgramDailyBudget) (requestedProgramId : Id) :
    BudgetCheck :=
  if requestedProgramId ≠ budget.programId then ⟨false, .budgetMismatch⟩
  else if budget.limitMicrodollars ≤ budget.spentMicrodollars then ⟨false, .budgetExhausted⟩
  else ⟨true, .allowed⟩

/-- A day, counted from the epoch. -/
abbrev Day := Nat

/-- The microseconds of a day. -/
def dayLength : Nat := 86400000000

def dayStart (day : Day) : Nat := day * dayLength

/-- `time.max` is the last microsecond of a day. -/
def dayEnd (day : Day) : Nat := day * dayLength + (dayLength - 1)

/-- What the daily budget reads: `daily_llm_budget_microdollars` of the program
policies, and under `program_daily_budget_id` of a program and a day the issued
envelope and its consumption records, as they are listed. -/
structure DailyBudgetStore where
  policies : Id → Option (Option Nat)
  envelopes : Id → Day → Option IssuedBudget
  consumptions : Id → Day → List UsageRecord

namespace DailyBudgetStore

/-- `CheckProgramDailyBudget.execute`, on a day. -/
def check (store : DailyBudgetStore) (programId : Id) (today : Day)
    (estimatedCostMicrodollars : Nat) : BudgetCheck :=
  match store.policies programId with
  | none => ⟨true, .allowed⟩
  | some none => ⟨false, .budgetExhausted⟩
  | some (some limit) =>
    match store.envelopes programId today with
    | none => ⟨false, .budgetExhausted⟩
    | some _ =>
      checkProgramDailyBudget
        ⟨programId, limit,
          sumEstimatedCost (store.consumptions programId today) + estimatedCostMicrodollars⟩
        programId

/-- `ProgramDailyBudgetView`; of its last calls, the records they are read off. -/
structure View where
  limitMicrodollars : Nat
  spentMicrodollars : Nat
  remainingMicrodollars : Nat
  tokensIn : Nat
  tokensOut : Nat
  modelCallCount : Nat
  lastCalls : List UsageRecord

/-- The records of a budget that its day contains. -/
def dayRecords (store : DailyBudgetStore) (programId : Id) (day : Day) : List UsageRecord :=
  (store.consumptions programId day).filter fun record =>
    dayStart day ≤ record.occurredAt ∧ record.occurredAt ≤ dayEnd day

/-- `ProgramDailyBudgetUsage.execute`. -/
def usage (store : DailyBudgetStore) (programId : Id) (day : Day) : Except String View :=
  match store.policies programId with
  | none => .error "program not found"
  | some policyLimit =>
    let limit := policyLimit.getD 0
    match store.envelopes programId day with
    | none => .ok ⟨limit, 0, limit, 0, 0, 0, []⟩
    | some _ =>
      let records := store.dayRecords programId day
      let spent := sumEstimatedCost records
      let check := checkProgramDailyBudget ⟨programId, limit, spent⟩ programId
      .ok
        { limitMicrodollars := limit
          spentMicrodollars := spent
          remainingMicrodollars := if check.allowedToContinue then limit - spent else 0
          tokensIn := sumTokens records .modelTokensIn
          tokensOut := sumTokens records .modelTokensOut
          modelCallCount := sumTokens records .modelCall
          lastCalls := (records.mergeSort fun a b => b.occurredAt ≤ a.occurredAt).take 10 }

end DailyBudgetStore

/-! ## Buckets and records -/

namespace RequestBucket

theorem keepsKey : KeyedList.KeepsKey RequestBucket.requestId RequestBucket.add := fun _ _ _ => rfl

theorem add_assoc (a b c : RequestBucket) : (a.add b).add c = a.add (b.add c) := by
  simp [add, Nat.add_assoc, Option.or_assoc]

/-- Two buckets do not name two models. -/
def Agrees (a b : RequestBucket) : Prop :=
  ∀ m m', a.modelId = some m → b.modelId = some m' → m = m'

theorem Agrees.or_comm {a b : RequestBucket} (h : a.Agrees b) :
    a.modelId.or b.modelId = b.modelId.or a.modelId := by
  cases ha : a.modelId with
  | none => cases b.modelId <;> rfl
  | some m =>
    cases hb : b.modelId with
    | none => rfl
    | some m' => rw [h m m' ha hb]

theorem Agrees.right_comm {b c : RequestBucket} (h : b.Agrees c) (a : RequestBucket) :
    (a.add b).add c = (a.add c).add b := by
  have hmodel : (a.modelId.or b.modelId).or c.modelId = (a.modelId.or c.modelId).or b.modelId := by
    rw [Option.or_assoc, Option.or_assoc, h.or_comm]
  simp [add, hmodel, Nat.add_right_comm]

theorem Agrees.comm {a b : RequestBucket} (h : a.Agrees b) (hkey : a.requestId = b.requestId) :
    a.add b = b.add a := by
  simp [add, hkey, h.or_comm, Nat.add_comm]

/-- Pricing two buckets as one does not lose anything. -/
theorem Agrees.price_le {a b : RequestBucket} (h : a.Agrees b) :
    a.price + b.price ≤ (a.add b).price := by
  unfold price
  cases ha : a.modelId with
  | none =>
    have hmodel : (a.add b).modelId = b.modelId := by simp [add, ha]
    rw [hmodel]
    cases hrates : modelRates b.modelId with
    | none => simp [modelRates]
    | some rates =>
      have hin : b.tokensIn * rates.1 ≤ (a.add b).tokensIn * rates.1 :=
        Nat.mul_le_mul_right _ (Nat.le_add_left _ _)
      have hout : b.tokensOut * rates.2 ≤ (a.add b).tokensOut * rates.2 :=
        Nat.mul_le_mul_right _ (Nat.le_add_left _ _)
      simp only [modelRates, Option.bind_none, Option.map_none, Option.getD_none, Option.map_some,
        Option.getD_some]
      omega
  | some m =>
    have hmodel : (a.add b).modelId = some m := by simp [add, ha]
    rw [hmodel]
    cases hrates : modelRates (some m) with
    | none =>
      cases hb : b.modelId with
      | none => simp [modelRates]
      | some m' =>
        rw [h m m' ha hb] at hrates
        simp [hrates]
    | some rates =>
      have hin : (a.add b).tokensIn * rates.1 = a.tokensIn * rates.1 + b.tokensIn * rates.1 :=
        Nat.add_mul _ _ _
      have hout : (a.add b).tokensOut * rates.2 = a.tokensOut * rates.2 + b.tokensOut * rates.2 :=
        Nat.add_mul _ _ _
      cases hb : b.modelId with
      | none =>
        simp only [modelRates, Option.bind_none, Option.map_none, Option.getD_none,
          Option.map_some, Option.getD_some]
        omega
      | some m' =>
        rw [← h m m' ha hb, hrates]
        simp only [Option.map_some, Option.getD_some]
        omega

/-- A request is charged all of its price but a part of a microdollar. -/
theorem price_le_cost (bucket : RequestBucket) :
    bucket.price ≤ bucket.cost * 1000000 + 999999 := by
  unfold price cost estimateCost
  cases modelRates bucket.modelId with
  | none => exact Nat.zero_le _
  | some rates =>
    simp only [Option.map_some, Option.getD_some]
    omega

end RequestBucket

theorem tokenBucket_eq_some {record : UsageRecord} {bucket : RequestBucket}
    (h : tokenBucket record = some bucket) :
    record.CountsTokens ∧ bucket.requestId = record.requestId ∧
      bucket.modelId = record.modelId ∧
      bucket.price = record.amount * unitPrice record := by
  unfold tokenBucket at h
  unfold UsageRecord.CountsTokens RequestBucket.price unitPrice
  split at h
  next hin =>
    obtain rfl : _ = bucket := Option.some.inj h
    rw [hin]
    cases modelRates record.modelId <;> simp
  next hout =>
    obtain rfl : _ = bucket := Option.some.inj h
    rw [hout]
    cases modelRates record.modelId <;> simp
  next => cases h

theorem tokenBucket_eq_none {record : UsageRecord} (h : tokenBucket record = none) :
    ¬ record.CountsTokens ∧ unitPrice record = 0 := by
  unfold tokenBucket at h
  unfold UsageRecord.CountsTokens unitPrice
  cases hresource : record.resourceType <;> simp_all

/-- The buckets are those of the requests that have used tokens. -/
theorem length_byRequest (records : List UsageRecord) :
    (byRequest records).length = requestCount records := by
  have hkeys : (records.filterMap tokenBucket).map RequestBucket.requestId =
      (records.filter fun record => record.CountsTokens).map fun record => record.requestId := by
    induction records with
    | nil => rfl
    | cons record rest ih =>
      cases hbucket : tokenBucket record with
      | none =>
        rw [List.filterMap_cons_none hbucket, ih,
          List.filter_cons_of_neg (by simpa using (tokenBucket_eq_none hbucket).1)]
      | some bucket =>
        obtain ⟨hcounts, hrequest, -, -⟩ := tokenBucket_eq_some hbucket
        rw [List.filterMap_cons_some hbucket, List.map_cons, ih, hrequest,
          List.filter_cons_of_pos (by simpa using hcounts), List.map_cons]
  have hperm : ((byRequest records).map RequestBucket.requestId).Perm
      ((records.filter fun record => record.CountsTokens).map
        fun record => record.requestId).dedup := by
    refine (List.perm_ext_iff_of_nodup
      (KeyedList.nodup_collect RequestBucket.keepsKey _) (List.nodup_dedup _)).mpr fun k => ?_
    rw [List.mem_dedup, ← hkeys]
    exact KeyedList.mem_keys_collect RequestBucket.keepsKey _ k
  unfold requestCount
  rw [← hperm.length_eq, List.length_map]

/-- The buckets of records of which no request names two models. -/
theorem OneModel.agrees {records : List UsageRecord} (h : OneModel records) {a b : RequestBucket}
    (ha : a ∈ records.filterMap tokenBucket) (hb : b ∈ records.filterMap tokenBucket)
    (hkey : a.requestId = b.requestId) : a.Agrees b := by
  obtain ⟨r, hr, hra⟩ := List.mem_filterMap.mp ha
  obtain ⟨r', hr', hrb⟩ := List.mem_filterMap.mp hb
  obtain ⟨hcounts, hrequest, hmodel, -⟩ := tokenBucket_eq_some hra
  obtain ⟨hcounts', hrequest', hmodel', -⟩ := tokenBucket_eq_some hrb
  intro m m' hm hm'
  refine h r hr r' hr' hcounts hcounts' ?_ m m' (hmodel ▸ hm) (hmodel' ▸ hm')
  rw [← hrequest, ← hrequest', hkey]

/-- What the exact price sums up is what the records' own buckets cost. -/
theorem sum_price_tokenBuckets (records : List UsageRecord) :
    (records.map fun record => record.amount * unitPrice record).sum =
      ((records.filterMap tokenBucket).map RequestBucket.price).sum := by
  induction records with
  | nil => rfl
  | cons record rest ih =>
    rw [List.map_cons, List.sum_cons, ih]
    cases hbucket : tokenBucket record with
    | none =>
      rw [List.filterMap_cons_none hbucket, (tokenBucket_eq_none hbucket).2]
      omega
    | some bucket =>
      rw [List.filterMap_cons_some hbucket, List.map_cons, List.sum_cons,
        (tokenBucket_eq_some hbucket).2.2.2]

/-- Pricing a request as a whole does not lose anything, as long as its records
name one model. -/
theorem sum_price_le_byRequest {records : List UsageRecord} (h : OneModel records) :
    ((records.filterMap tokenBucket).map RequestBucket.price).sum ≤
      ((byRequest records).map RequestBucket.price).sum := by
  refine KeyedList.sum_map_le_collect fun before item hbefore old hold hkey => ?_
  have hmem : ∀ other ∈ before ++ [item], other ∈ records.filterMap tokenBucket :=
    fun other hother => hbefore.subset hother
  -- The model of a bucket is that of one of the records that are in it.
  have hnamed : ∀ bucket ∈ KeyedList.collect RequestBucket.requestId RequestBucket.add before,
      ∀ m, bucket.modelId = some m →
        ∃ other ∈ before, other.requestId = bucket.requestId ∧ other.modelId = some m := by
    refine KeyedList.forall_collect (fun other hother m hm => ⟨other, hother, rfl, hm⟩) ?_
    intro a b hab ha hb m hm
    rcases Option.or_eq_some_iff.mp hm with hm | ⟨-, hm⟩
    · exact ha m hm
    · obtain ⟨other, hother, hrequest, hmodel⟩ := hb m hm
      exact ⟨other, hother, hrequest.trans hab.symm, hmodel⟩
  refine RequestBucket.Agrees.price_le fun m m' hm hm' => ?_
  obtain ⟨other, hother, hrequest, hmodel⟩ := hnamed old hold m hm
  exact h.agrees (hmem other (List.mem_append_left _ hother))
    (hmem item (List.mem_append_right _ List.mem_cons_self)) (hrequest.trans hkey) m m' hmodel hm'

theorem sum_price_le_cost (buckets : List RequestBucket) :
    (buckets.map RequestBucket.price).sum ≤
      (buckets.map RequestBucket.cost).sum * 1000000 + buckets.length * 999999 := by
  induction buckets with
  | nil => exact le_rfl
  | cons bucket rest ih =>
    have hbucket := bucket.price_le_cost
    rw [List.map_cons, List.map_cons, List.sum_cons, List.sum_cons, List.length_cons]
    omega

/-- **Less than a microdollar a request is lost.** -/
theorem exactPrice_le {records : List UsageRecord} (h : OneModel records) :
    exactPrice records ≤ sumEstimatedCost records + requestCount records * (999999 / 1000000) := by
  have hsum : (records.map fun record => record.amount * unitPrice record).sum ≤
      sumEstimatedCost records * 1000000 + requestCount records * 999999 := by
    rw [sum_price_tokenBuckets, ← length_byRequest]
    exact (sum_price_le_byRequest h).trans (sum_price_le_cost _)
  have hcast : (((records.map fun record => record.amount * unitPrice record).sum : Nat) : ℚ) ≤
      sumEstimatedCost records * 1000000 + requestCount records * 999999 := by
    exact_mod_cast hsum
  unfold exactPrice
  linarith

/-- The order of the records does not matter. -/
theorem sumEstimatedCost_perm {records others : List UsageRecord} (h : OneModel records)
    (hperm : records.Perm others) : sumEstimatedCost records = sumEstimatedCost others := by
  have hbuckets : (byRequest records).Perm (byRequest others) :=
    KeyedList.collect_perm RequestBucket.keepsKey
      (fun b hb c hc hkey a => (h.agrees hb hc hkey).right_comm a)
      (fun a ha b hb hkey => (h.agrees ha hb hkey).comm hkey) (hperm.filterMap _)
  exact (hbuckets.map _).sum_eq

/-- Two records that differ in their amounts alone are as good as one. -/
theorem sumEstimatedCost_join (before after : List UsageRecord) (record : UsageRecord)
    (m n : Nat) :
    sumEstimatedCost (before ++ record.withAmount m :: record.withAmount n :: after) =
      sumEstimatedCost (before ++ record.withAmount (m + n) :: after) := by
  have hbuckets : byRequest (before ++ record.withAmount m :: record.withAmount n :: after) =
      byRequest (before ++ record.withAmount (m + n) :: after) := by
    unfold byRequest
    rw [List.filterMap_append, List.filterMap_append]
    by_cases hin : record.resourceType = .modelTokensIn
    · simp [tokenBucket, UsageRecord.withAmount, hin,
        KeyedList.collect_join RequestBucket.keepsKey RequestBucket.add_assoc, RequestBucket.add]
    · by_cases hout : record.resourceType = .modelTokensOut
      · simp [tokenBucket, UsageRecord.withAmount, hout,
          KeyedList.collect_join RequestBucket.keepsKey RequestBucket.add_assoc, RequestBucket.add]
      · have hnone : ∀ amount, tokenBucket (record.withAmount amount) = none := by
          intro amount
          unfold tokenBucket
          cases hresource : record.resourceType <;> simp_all [UsageRecord.withAmount]
        rw [List.filterMap_cons_none (hnone m), List.filterMap_cons_none (hnone n),
          List.filterMap_cons_none (hnone (m + n))]
  unfold sumEstimatedCost
  rw [hbuckets]

/-- **A record can be split** into several of the same request and model. -/
theorem sumEstimatedCost_split (before after : List UsageRecord) (record : UsageRecord)
    (first : Nat) (rest : List Nat) :
    sumEstimatedCost (before ++ (first :: rest).map record.withAmount ++ after) =
      sumEstimatedCost (before ++ record.withAmount (first :: rest).sum :: after) := by
  induction rest generalizing first with
  | nil => simp
  | cons second rest ih =>
    have hjoin := sumEstimatedCost_join before (rest.map record.withAmount ++ after) record
      first second
    rw [List.sum_cons, List.sum_cons, ← Nat.add_assoc, ← List.sum_cons, ← ih]
    simpa using hjoin

/-! ## One total -/

namespace DailyBudgetStore

variable {store : DailyBudgetStore} {programId : Id} {day : Day} {limit : Nat}
  {issued : IssuedBudget}

/-- The gate lets a call through as long as the total is below the limit. -/
theorem check_allowed_iff (hpolicy : store.policies programId = some (some limit))
    (hissued : store.envelopes programId day = some issued) (estimated : Nat) :
    (store.check programId day estimated).allowedToContinue = true ↔
      sumEstimatedCost (store.consumptions programId day) + estimated < limit := by
  simp only [check, hpolicy, hissued, checkProgramDailyBudget, ne_eq, not_true_eq_false, if_false]
  split
  next h => simpa using h
  next h => simpa using h

/-- All records of a budget are in the view, if they are of its day. -/
theorem dayRecords_eq (hday : ∀ record ∈ store.consumptions programId day,
    dayStart day ≤ record.occurredAt ∧ record.occurredAt ≤ dayEnd day) :
    store.dayRecords programId day = store.consumptions programId day :=
  List.filter_eq_self.mpr fun record hrecord => by simpa using hday record hrecord

theorem usage_spent (hpolicy : store.policies programId = some (some limit))
    (hissued : store.envelopes programId day = some issued)
    (hday : ∀ record ∈ store.consumptions programId day,
      dayStart day ≤ record.occurredAt ∧ record.occurredAt ≤ dayEnd day) :
    ∃ view, store.usage programId day = .ok view ∧
      view.spentMicrodollars = sumEstimatedCost (store.consumptions programId day) := by
  rw [← dayRecords_eq hday]
  unfold usage
  rw [hpolicy, hissued]
  exact ⟨_, rfl, rfl⟩

end DailyBudgetStore

/-- **The cost of a day.**  It falls short of the exact price by less than a
microdollar for each request, and depends neither on the order of the records
nor on how the tokens of a request are spread over them.  The gate and the view
use the one total, so a program is refused from its limit on, as computed, and
as soon as the true cost has passed the limit by a microdollar a request. -/
theorem daily_cost_rounds_down (records : List UsageRecord) :
    (OneModel records →
      exactPrice records ≤
        sumEstimatedCost records + requestCount records * (999999 / 1000000) ∧
      ∀ others : List UsageRecord, others.Perm records →
        sumEstimatedCost others = sumEstimatedCost records) ∧
    (∀ before record after amounts, records = before ++ record :: after → amounts ≠ [] →
      amounts.sum = record.amount →
        sumEstimatedCost (before ++ amounts.map record.withAmount ++ after) =
          sumEstimatedCost records) ∧
    ∀ (store : DailyBudgetStore) (programId : Id) (day : Day) (limit : Nat) (issued : IssuedBudget),
      store.policies programId = some (some limit) →
      store.envelopes programId day = some issued →
      store.consumptions programId day = records →
      (∀ record ∈ records, dayStart day ≤ record.occurredAt ∧ record.occurredAt ≤ dayEnd day) →
      (∃ view, store.usage programId day = .ok view ∧
        view.spentMicrodollars = sumEstimatedCost records) ∧
      ∀ estimated,
        ((store.check programId day estimated).allowedToContinue = true ↔
          sumEstimatedCost records + estimated < limit) ∧
        (OneModel records →
          (limit : ℚ) + requestCount records * (999999 / 1000000) ≤ exactPrice records →
          (store.check programId day estimated).allowedToContinue = false) := by
  refine ⟨fun h => ⟨exactPrice_le h, fun others hperm => (sumEstimatedCost_perm h hperm.symm).symm⟩,
    ?_, ?_⟩
  · rintro before record after amounts rfl hne hsum
    obtain ⟨first, rest, rfl⟩ := List.exists_cons_of_ne_nil hne
    rw [sumEstimatedCost_split, hsum]
    rfl
  · rintro store programId day limit issued hpolicy hissued rfl hday
    refine ⟨DailyBudgetStore.usage_spent hpolicy hissued hday, fun estimated => ?_⟩
    have hgate := DailyBudgetStore.check_allowed_iff hpolicy hissued estimated
    refine ⟨hgate, fun h hreached => ?_⟩
    have hle : (limit : ℚ) ≤ sumEstimatedCost (store.consumptions programId day) := by
      linarith [exactPrice_le h]
    have hlimit : limit ≤ sumEstimatedCost (store.consumptions programId day) := by
      exact_mod_cast hle
    rw [Bool.eq_false_iff, ne_eq, hgate]
    omega

/-- A record of input tokens. -/
def inputTokens (requestId : Id) (model : String) (amount : Nat) : UsageRecord where
  resourceType := .modelTokensIn
  amount := amount
  requestId := some (.worker requestId)
  modelId := some model.toList
  occurredAt := 0

/-- A program with a limit of one microdollar, and ten calls of one token. -/
def smallCalls : DailyBudgetStore where
  policies _ := some (some 1)
  envelopes _ _ := some ⟨0, 0, 0, 0⟩
  consumptions _ _ := (List.range 10).map fun requestId => inputTokens requestId "gpt-4o-mini" 1

/-- The tokens of many small calls cost nothing: a program that has spent more
than its limit goes on.  Two records of two requests cost less than one of both,
and where a request has used two models, the one listed first prices it. -/
theorem small_calls_cost_nothing :
    sumEstimatedCost (smallCalls.consumptions 0 0) = 0 ∧
    (1 : ℚ) ≤ exactPrice (smallCalls.consumptions 0 0) ∧
    (smallCalls.check 0 0 0).allowedToContinue = true ∧
    sumEstimatedCost [inputTokens 0 "gpt-4o" 1, inputTokens 1 "gpt-4o" 1] <
      sumEstimatedCost [inputTokens 0 "gpt-4o" 2] ∧
    sumEstimatedCost [inputTokens 0 "gpt-4o-mini" 1, inputTokens 0 "gpt-4o" 2] ≠
      sumEstimatedCost [inputTokens 0 "gpt-4o" 2, inputTokens 0 "gpt-4o-mini" 1] := by
  refine ⟨by decide, ?_, by decide, by decide, by decide⟩
  have hsum : ((smallCalls.consumptions 0 0).map fun record =>
      record.amount * unitPrice record).sum = 1500000 := by decide
  unfold exactPrice
  rw [hsum]
  norm_num

end Zest
