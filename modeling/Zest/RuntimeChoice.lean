import Mathlib.Algebra.Order.Ring.Unbundled.Rat
import Zest.RuntimeFallback

/-! # The choice among the runtimes that survive

Two runtimes are compared by what was observed of both.  A latency or a cost that
was not observed of one of them is passed over, so that three runtimes can each be
better than the next.  Where they are not, the choice is that of a best runtime,
in whatever order the candidates are listed.
-/
namespace Zest
namespace Routing

/-- The left one is better. -/
def Better (left right : RuntimeCandidate) : Prop := qualityBetter left right < 0

instance decidableBetter (left right : RuntimeCandidate) : Decidable (Better left right) :=
  inferInstanceAs (Decidable (qualityBetter left right < 0))

/-- What was observed of a runtime. -/
def observed (candidate : RuntimeCandidate) : RuntimeQualityObservation :=
  candidate.quality.getD .default

/-- No cost is `nan`, and no three runtimes are each better than the next. -/
structure Rankable (candidates : List RuntimeCandidate) : Prop where
  numbers : ∀ a ∈ candidates, (observed a).costAmount ≠ some .notANumber
  acyclic : ∀ a ∈ candidates, ∀ b ∈ candidates, ∀ c ∈ candidates,
    Better a b → Better b c → ¬ Better c a

/-! ## The comparison -/

section Comparison

variable {a b c : RuntimeCandidate}

theorem latency_swap (l r : Option Nat) :
    qualityBetter.latency r l = (qualityBetter.latency l r).map fun order => -order := by
  rcases l with _ | l <;> rcases r with _ | r
  · rfl
  · rfl
  · rfl
  rcases lt_trichotomy l r with h | rfl | h
  · simp [qualityBetter.latency, h, h.ne, h.ne', not_lt.mpr h.le]
  · simp [qualityBetter.latency]
  · simp [qualityBetter.latency, h, h.ne, h.ne', not_lt.mpr h.le]

theorem cost_swap {l r : Option Cost} (hl : l ≠ some .notANumber) (hr : r ≠ some .notANumber) :
    qualityBetter.cost r l = (qualityBetter.cost l r).map fun order => -order := by
  rcases l with _ | l <;> rcases r with _ | r
  · rfl
  · rfl
  · rfl
  rcases l with l | _ | _
  · rcases r with r | _ | _
    · rcases lt_trichotomy l r with h | rfl | h
      · simp [qualityBetter.cost, Cost.differs, Cost.less, h, h.ne, h.ne', not_lt.mpr h.le]
      · simp [qualityBetter.cost, Cost.differs]
      · simp [qualityBetter.cost, Cost.differs, Cost.less, h, h.ne, h.ne', not_lt.mpr h.le]
    · rfl
    · exact absurd rfl hr
  · rcases r with r | _ | _
    · rfl
    · rfl
    · exact absurd rfl hr
  · exact absurd rfl hl

/-- What the latencies and the costs decide. -/
def decidedBy (a b : RuntimeCandidate) : Option Int :=
  (qualityBetter.latency (observed a).latencyMs (observed b).latencyMs).or
    (qualityBetter.cost (observed a).costAmount (observed b).costAmount)

theorem qualityBetter_eq (a b : RuntimeCandidate) :
    qualityBetter a b =
      if (observed a).orderedKey ≠ (observed b).orderedKey then
        if (observed a).orderedKey < (observed b).orderedKey then -1 else 1
      else (decidedBy a b).getD
        (if a.identity.adapterId ≠ b.identity.adapterId then
          if a.identity.adapterId < b.identity.adapterId then -1 else 1
        else 0) := by
  rw [decidedBy, observed, observed]
  unfold qualityBetter
  dsimp only
  by_cases hkey : (a.quality.getD .default).orderedKey ≠ (b.quality.getD .default).orderedKey
  · rw [if_pos hkey, if_pos hkey]
  · rw [if_neg hkey, if_neg hkey]
    cases qualityBetter.latency (a.quality.getD .default).latencyMs
        (b.quality.getD .default).latencyMs with
    | some order => rfl
    | none =>
      cases qualityBetter.cost (a.quality.getD .default).costAmount
          (b.quality.getD .default).costAmount with
      | some order => rfl
      | none => rfl

/-- The sign of a comparison of two keys that differ. -/
theorem sign_swap {α : Type} [LinearOrder α] {x y : α} [Decidable (x < y)]
    [Decidable (y < x)] (h : x ≠ y) :
    (if y < x then (-1 : Int) else 1) = -(if x < y then -1 else 1) := by
  rcases lt_or_gt_of_ne h with hlt | hgt
  · rw [if_pos hlt, if_neg (not_lt.mpr hlt.le)]
    rfl
  · rw [if_neg (not_lt.mpr hgt.le), if_pos hgt]

/-- Where no cost is `nan`, the comparison the other way round says the opposite. -/
theorem qualityBetter_swap (ha : (observed a).costAmount ≠ some .notANumber)
    (hb : (observed b).costAmount ≠ some .notANumber) :
    qualityBetter b a = -qualityBetter a b := by
  rw [qualityBetter_eq, qualityBetter_eq a b]
  by_cases hkey : (observed a).orderedKey = (observed b).orderedKey
  swap
  · rw [if_pos hkey, if_pos (Ne.symm hkey)]
    exact sign_swap hkey
  rw [if_neg (not_not.mpr hkey), if_neg (not_not.mpr hkey.symm), decidedBy, decidedBy,
    latency_swap (observed a).latencyMs, cost_swap ha hb, ← Option.map_or]
  rcases (qualityBetter.latency (observed a).latencyMs (observed b).latencyMs).or
    (qualityBetter.cost (observed a).costAmount (observed b).costAmount) with _ | order
  · by_cases hid : a.identity.adapterId = b.identity.adapterId
    · simp [hid]
    · simp only [Option.map_none, Option.getD_none, ne_eq, hid, Ne.symm hid, not_false_eq_true,
        if_true]
      exact sign_swap hid
  · rfl

/-- No runtime is better than itself. -/
theorem not_better_self (a : RuntimeCandidate) : ¬ Better a a := by
  have hlatency : qualityBetter.latency (observed a).latencyMs (observed a).latencyMs = none := by
    cases (observed a).latencyMs <;> simp [qualityBetter.latency]
  rw [Better, qualityBetter_eq, decidedBy, hlatency]
  simp only [ne_eq, not_true_eq_false, if_false, Option.none_or]
  rcases (observed a).costAmount with _ | amount | _ | _ <;>
    simp [qualityBetter.cost, Cost.differs, Cost.less]

/-- A comparison that is even is one of a runtime with itself, by its identifier. -/
theorem id_eq_of_even (h : qualityBetter a b = 0) :
    a.identity.adapterId = b.identity.adapterId := by
  have hsign : ∀ (p : Prop) [Decidable p], (if p then (-1 : Int) else 1) ≠ 0 := by
    intro p hp
    split <;> decide
  have hlatency : ∀ l r order, qualityBetter.latency l r = some order → order ≠ 0 := by
    intro l r order horder
    rcases l with _ | l <;> rcases r with _ | r <;> simp only [qualityBetter.latency] at horder
    · cases horder
    · cases horder
    · cases horder
    · split at horder
      · cases horder
        exact hsign _
      · cases horder
  have hcost : ∀ l r order, qualityBetter.cost l r = some order → order ≠ 0 := by
    intro l r order horder
    rcases l with _ | l <;> rcases r with _ | r <;> simp only [qualityBetter.cost] at horder
    · cases horder
    · cases horder
    · cases horder
    · split at horder
      · cases horder
        exact hsign _
      · cases horder
  rw [qualityBetter_eq] at h
  split at h
  · exact absurd h (hsign _)
  rcases hdecided : decidedBy a b with _ | order
  · rw [hdecided, Option.getD_none] at h
    by_contra hne
    rw [if_pos hne] at h
    exact hsign _ h
  · rw [hdecided, Option.getD_some] at h
    rw [decidedBy, Option.or_eq_some_iff] at hdecided
    rcases hdecided with hdecided | ⟨-, hdecided⟩
    · exact absurd h (hlatency _ _ _ hdecided)
    · exact absurd h (hcost _ _ _ hdecided)

end Comparison

/-! ## The best of the survivors -/

section Best

variable {candidates : List RuntimeCandidate} {a b c : RuntimeCandidate}

/-- Among runtimes with identifiers of their own, of any two one is better. -/
theorem Rankable.better_or (h : Rankable candidates) (ha : a ∈ candidates) (hb : b ∈ candidates)
    (hne : a.identity.adapterId ≠ b.identity.adapterId) : Better a b ∨ Better b a := by
  have hswap := qualityBetter_swap (h.numbers a ha) (h.numbers b hb)
  have hodd : qualityBetter a b ≠ 0 := fun heven => hne (id_eq_of_even heven)
  rw [Better, Better, hswap]
  omega

theorem Rankable.not_better (h : Rankable candidates) (ha : a ∈ candidates) (hb : b ∈ candidates)
    (hbetter : Better a b) : ¬ Better b a := by
  have hswap := qualityBetter_swap (h.numbers a ha) (h.numbers b hb)
  rw [Better] at hbetter ⊢
  omega

theorem Rankable.le_iff (h : Rankable candidates) (ha : a ∈ candidates) (hb : b ∈ candidates) :
    qualityBetter a b ≤ 0 ↔ ¬ Better b a := by
  have hswap := qualityBetter_swap (h.numbers a ha) (h.numbers b hb)
  rw [Better]
  omega

/-- Identifiers of their own. -/
def Distinct (candidates : List RuntimeCandidate) : Prop :=
  (candidates.map (·.identity.adapterId)).Nodup

theorem Distinct.eq (h : Distinct candidates) (ha : a ∈ candidates) (hb : b ∈ candidates)
    (hid : a.identity.adapterId = b.identity.adapterId) : a = b :=
  List.inj_on_of_nodup_map h ha hb hid

theorem Rankable.better_trans (h : Rankable candidates) (hdistinct : Distinct candidates)
    (ha : a ∈ candidates) (hb : b ∈ candidates) (hc : c ∈ candidates) (hab : Better a b)
    (hbc : Better b c) : Better a c := by
  by_cases hid : a.identity.adapterId = c.identity.adapterId
  · rw [hdistinct.eq ha hc hid] at hab
    exact absurd hbc (h.not_better hc hb hab)
  · rcases h.better_or ha hc hid with hac | hca
    · exact hac
    · exact absurd hca (h.acyclic a ha b hb c hc hab hbc)

/-- **Runtimes that can be ranked are ordered by the comparison.** -/
theorem Rankable.consistent (h : Rankable candidates) (hdistinct : Distinct candidates) :
    Consistent candidates := by
  constructor
  · intro a ha b hb
    rw [h.le_iff ha hb, h.le_iff hb ha]
    by_cases hab : Better a b
    · exact .inl (h.not_better ha hb hab)
    · exact .inr hab
  · intro a ha b hb c hc hab hbc
    rw [h.le_iff ha hb] at hab
    rw [h.le_iff hb hc] at hbc
    rw [h.le_iff ha hc]
    intro hca
    by_cases hid : a.identity.adapterId = b.identity.adapterId
    · rw [hdistinct.eq ha hb hid] at hca
      exact hbc hca
    · rcases h.better_or ha hb hid with hlt | hgt
      · exact hbc (h.better_trans hdistinct hc ha hb hca hlt)
      · exact hab hgt

/-- Where the comparison orders the runtimes, the first of the sorted ones is best. -/
theorem head_insertionSort (h : Consistent candidates) {listed : List RuntimeCandidate}
    (hsub : listed ⊆ candidates) :
    ∀ best ∈ (listed.insertionSort fun a b => qualityBetter a b ≤ 0).head?, ∀ c ∈ listed,
      qualityBetter best c ≤ 0 := by
  induction listed with
  | nil =>
    intro best hbest
    cases hbest
  | cons a rest ih =>
    have ha : a ∈ candidates := hsub List.mem_cons_self
    have hrest : rest ⊆ candidates := fun c hc => hsub (List.mem_cons_of_mem _ hc)
    have hself : qualityBetter a a ≤ 0 := (h.1 a ha a ha).elim id id
    have hperm := List.perm_insertionSort (fun a b => qualityBetter a b ≤ 0) rest
    rw [List.insertionSort_cons]
    rcases hsorted : rest.insertionSort fun a b => qualityBetter a b ≤ 0 with _ | ⟨first, others⟩
    · rw [hsorted] at hperm
      obtain rfl := hperm.symm.eq_nil
      intro best hbest c hc
      cases hbest
      rw [List.mem_singleton.mp hc]
      exact hself
    · rw [hsorted] at hperm
      have hfirst : first ∈ rest := hperm.subset List.mem_cons_self
      have hleast := ih hrest first (by rw [hsorted]; rfl)
      intro best hbest c hc
      by_cases hle : qualityBetter a first ≤ 0
      · rw [List.orderedInsert_cons, if_pos hle] at hbest
        cases hbest
        rcases List.mem_cons.mp hc with rfl | hc
        · exact hself
        · exact h.2 a ha first (hrest hfirst) c (hrest hc) hle (hleast c hc)
      · rw [List.orderedInsert_cons, if_neg hle] at hbest
        cases hbest
        rcases List.mem_cons.mp hc with rfl | hc
        · exact (h.1 c ha first (hrest hfirst)).resolve_left hle
        · exact hleast c hc

theorem Ranking.best (ranking : Ranking) (h : Rankable candidates) (hdistinct : Distinct candidates)
    {best : RuntimeCandidate} (hbest : best ∈ (ranking.rank candidates).head?) :
    best ∈ candidates ∧ ∀ c ∈ candidates, ¬ Better c best := by
  have hmem : best ∈ candidates :=
    (ranking.perm candidates).subset (List.mem_of_mem_head? hbest)
  refine ⟨hmem, fun c hc => ?_⟩
  rw [ranking.sorted candidates (h.consistent hdistinct)] at hbest
  exact (h.le_iff hmem hc).mp (head_insertionSort (h.consistent hdistinct)
    (List.Subset.refl _) best hbest c hc)

/-- There is one best runtime. -/
theorem Rankable.best_unique (h : Rankable candidates) (hdistinct : Distinct candidates)
    (ha : a ∈ candidates) (hb : b ∈ candidates) (hab : ¬ Better a b) (hba : ¬ Better b a) :
    a = b := by
  refine hdistinct.eq ha hb ?_
  by_contra hne
  exact (h.better_or ha hb hne).elim hab hba

theorem Rankable.of_perm {candidates' : List RuntimeCandidate} (h : Rankable candidates)
    (hperm : candidates'.Perm candidates) : Rankable candidates' where
  numbers a ha := h.numbers a (hperm.subset ha)
  acyclic a ha b hb c hc :=
    h.acyclic a (hperm.subset ha) b (hperm.subset hb) c (hperm.subset hc)

end Best

/-! ## Candidates in another order -/

section Permuted

variable {ranking : Ranking} {request : RoutingRequest} {candidates : List RuntimeCandidate}

/-- The same request, with its candidates listed otherwise. -/
def permuted (request : RoutingRequest) (candidates : List RuntimeCandidate) : RoutingRequest :=
  { request with candidates := candidates }

theorem survivors_perm (h : candidates.Perm request.candidates) :
    (survivors (permuted request candidates)).Perm (survivors request) := h.filter _

theorem filteredOut_perm (h : candidates.Perm request.candidates) :
    (filteredOut (permuted request candidates)).Perm (filteredOut request) := h.filterMap _

theorem priceSurvivors_perm (h : candidates.Perm request.candidates) :
    (priceSurvivors (permuted request candidates)).Perm (priceSurvivors request) :=
  (survivors_perm h).filter _

theorem priceFiltered_perm (h : candidates.Perm request.candidates) :
    (priceFiltered (permuted request candidates)).Perm (priceFiltered request) :=
  ((survivors_perm h).filter _).map _

theorem preferred_perm (h : candidates.Perm request.candidates) :
    (preferred (permuted request candidates)).Perm (preferred request) :=
  (priceSurvivors_perm h).filter _

theorem eq_nil_congr {α : Type} {l l' : List α} (h : l.Perm l') : l = [] ↔ l' = [] := by
  constructor
  · rintro rfl
    exact h.symm.eq_nil
  · rintro rfl
    exact h.eq_nil

theorem mem_filterCodes {filtered filtered' : List FilterRecord} (h : filtered.Perm filtered')
    (code : RoutingReasonCode) : code ∈ filterCodes filtered ↔ code ∈ filterCodes filtered' := by
  rw [filterCodes, filterCodes]
  by_cases hnone : filtered = []
  · rw [if_pos hnone, if_pos ((eq_nil_congr h).mp hnone)]
  · rw [if_neg hnone, if_neg (mt (eq_nil_congr h).mpr hnone), List.mem_eraseDups,
      List.mem_eraseDups, (h.map _).mem_iff]

/-- The same choice, for the same reasons. -/
structure SameChoice (d d' : RuntimeSelectionDecision) : Prop where
  outcome : d.outcome = d'.outcome
  identity : d.selectedIdentity = d'.selectedIdentity
  codes : ∀ code, code ∈ d.reasonCodes ↔ code ∈ d'.reasonCodes

/-- The least of the places is that of the runtime that is chosen. -/
theorem firstLeast_le (key : RuntimeCandidate → Nat) (first : RuntimeCandidate)
    (rest : List RuntimeCandidate) :
    ∀ c ∈ first :: rest, key (firstLeast key first rest) ≤ key c := by
  induction rest generalizing first with
  | nil =>
    intro c hc
    rw [List.mem_singleton.mp hc]
    exact Nat.le_refl _
  | cons item rest ih =>
    intro c hc
    unfold firstLeast
    have hitem := ih item item List.mem_cons_self
    have hfirst := ih first first List.mem_cons_self
    by_cases hless : key item < key first
    · rw [if_pos hless]
      rcases List.mem_cons.mp hc with rfl | hc
      · omega
      · exact ih item c hc
    · rw [if_neg hless]
      rcases List.mem_cons.mp hc with rfl | hc
      · exact hfirst
      · rcases List.mem_cons.mp hc with rfl | hc
        · omega
        · exact ih first c (List.mem_cons_of_mem _ hc)

/-- No two adapters are named at one place. -/
theorem preferencePlace_injective {order : List Text} {id id' : Text} (hid : id ∈ order)
    (hid' : id' ∈ order) (h : preferencePlace order id = preferencePlace order id') : id = id' := by
  have hlt := List.idxOf_lt_length_iff.mpr (List.mem_reverse.mpr hid)
  have hlt' := List.idxOf_lt_length_iff.mpr (List.mem_reverse.mpr hid')
  rw [List.length_reverse] at hlt hlt'
  rw [preferencePlace, preferencePlace] at h
  exact (List.idxOf_inj (List.mem_reverse.mpr hid)).mp (by omega)

theorem selectByQuality_perm (h : candidates.Perm request.candidates)
    (hrankable : Rankable (priceSurvivors request))
    (hdistinct : Distinct (priceSurvivors request)) :
    SameChoice (selectByQuality ranking (permuted request candidates))
      (selectByQuality ranking request) := by
  have hperm := priceSurvivors_perm h
  have hrankable' := hrankable.of_perm hperm
  have hdistinct' : Distinct (priceSurvivors (permuted request candidates)) :=
    (hperm.map _).nodup_iff.mpr hdistinct
  have hranked : (ranking.rank (priceSurvivors (permuted request candidates))).Perm
      (ranking.rank (priceSurvivors request)) :=
    (ranking.perm _).trans (hperm.trans (ranking.perm _).symm)
  rw [selectByQuality, selectByQuality]
  rcases hrank : ranking.rank (priceSurvivors request) with _ | ⟨best, rest⟩
  · rw [hrank] at hranked
    simp only [hranked.eq_nil]
    exact ⟨rfl, rfl, fun _ => Iff.rfl⟩
  rcases hrank' : ranking.rank (priceSurvivors (permuted request candidates)) with _ | ⟨best', rest'⟩
  · rw [hrank, hrank'] at hranked
    exact absurd hranked.symm.eq_nil (List.cons_ne_nil _ _)
  obtain ⟨hmem, hbest⟩ := ranking.best hrankable hdistinct (by rw [hrank]; rfl : best ∈ _)
  obtain ⟨hmem', hbest'⟩ := ranking.best hrankable' hdistinct' (by rw [hrank']; rfl : best' ∈ _)
  obtain rfl : best' = best := hrankable.best_unique hdistinct (hperm.subset hmem') hmem
    (hbest best' (hperm.subset hmem')) (hbest' best (hperm.symm.subset hmem))
  rw [hrank, hrank'] at hranked
  have htied := eq_nil_congr (hranked.filter fun item =>
    item.identity.adapterId != best'.identity.adapterId && qualityEqual item best')
  dsimp only
  by_cases htie : tied best' (best' :: rest) ≠ [] ∧ request.requireOperatorOnTie = true
  · rw [if_pos htie, if_pos ⟨mt htied.mp htie.1, htie.2⟩]
    exact ⟨rfl, rfl, fun _ => Iff.rfl⟩
  · rw [if_neg htie, if_neg fun hother => htie ⟨mt htied.mpr hother.1, hother.2⟩]
    exact ⟨rfl, rfl, fun _ => Iff.rfl⟩

theorem selectSurvivor_perm (h : candidates.Perm request.candidates)
    (hrankable : preferred request = [] → Rankable (priceSurvivors request))
    (hdistinct : Distinct (priceSurvivors request)) :
    SameChoice (selectSurvivor ranking (permuted request candidates))
      (selectSurvivor ranking request) := by
  have hperm := preferred_perm h
  rw [selectSurvivor, selectSurvivor]
  rcases hpreferred : preferred request with _ | ⟨first, rest⟩
  · rw [hpreferred] at hperm
    simp only [hperm.eq_nil]
    exact selectByQuality_perm h (hrankable hpreferred) hdistinct
  rcases hpreferred' : preferred (permuted request candidates) with _ | ⟨first', rest'⟩
  · rw [hpreferred, hpreferred'] at hperm
    exact absurd hperm.symm.eq_nil (List.cons_ne_nil _ _)
  rw [hpreferred, hpreferred'] at hperm
  -- both orders name the runtime whose place is least, and places are not shared
  have hchosen : ∀ key : RuntimeCandidate → Nat,
      (∀ a ∈ first :: rest, ∀ b ∈ first :: rest, key a = key b → a = b) →
      firstLeast key first' rest' = firstLeast key first rest := by
    intro key hinjective
    have hmem := firstLeast_mem key first rest
    have hmem' := hperm.subset (firstLeast_mem key first' rest')
    refine hinjective _ hmem' _ hmem (Nat.le_antisymm ?_ ?_)
    · exact firstLeast_le key first' rest' _ (hperm.symm.subset hmem)
    · exact firstLeast_le key first rest _ hmem'
  refine ⟨rfl, ?_, fun _ => Iff.rfl⟩
  refine congrArg (fun c : RuntimeCandidate => some c.identity) (hchosen _ ?_)
  intro a ha b hb hplace
  rw [← hpreferred] at ha hb
  obtain ⟨hasurvivor, hanamed⟩ := List.mem_filter.mp ha
  obtain ⟨hbsurvivor, hbnamed⟩ := List.mem_filter.mp hb
  exact hdistinct.eq hasurvivor hbsurvivor
    (@preferencePlace_injective request.operatorPreferenceOrder _ _ (of_decide_eq_true hanamed)
      (of_decide_eq_true hbnamed) hplace)

/-- A request whose runtime is chosen by its quality. -/
structure ByQuality (request : RoutingRequest) : Prop where
  allowed : request.runtimeAttemptsUsed < request.budget.maxRuntimeAttempts
  policy : taskPolicy request ≠ some .none
  survives : priceSurvivors request ≠ []
  unordered : preferred request = []

theorem selectRuntime_perm (h : candidates.Perm request.candidates)
    (hrankable : ByQuality request → Rankable (priceSurvivors request))
    (hdistinct : Distinct (priceSurvivors request)) :
    SameChoice (selectRuntime ranking (permuted request candidates))
      (selectRuntime ranking request) := by
  unfold selectRuntime
  dsimp only
  by_cases hzero : request.budget.maxRuntimeAttempts = 0
  · rw [if_pos hzero, if_pos (show (permuted request candidates).budget.maxRuntimeAttempts = 0 from
      hzero)]
    exact ⟨rfl, rfl, fun _ => Iff.rfl⟩
  rw [if_neg hzero, if_neg (show ¬ (permuted request candidates).budget.maxRuntimeAttempts = 0 from
    hzero)]
  by_cases hused : request.budget.maxRuntimeAttempts ≤ request.runtimeAttemptsUsed
  · rw [if_pos hused, if_pos (show (permuted request candidates).budget.maxRuntimeAttempts ≤
      (permuted request candidates).runtimeAttemptsUsed from hused)]
    exact ⟨rfl, rfl, fun _ => Iff.rfl⟩
  rw [if_neg hused, if_neg (show ¬ (permuted request candidates).budget.maxRuntimeAttempts ≤
    (permuted request candidates).runtimeAttemptsUsed from hused)]
  by_cases hnobody : request.candidates = []
  · rw [if_pos hnobody, if_pos (show (permuted request candidates).candidates = [] from
      (eq_nil_congr h).mpr hnobody)]
    exact ⟨rfl, rfl, fun _ => Iff.rfl⟩
  rw [if_neg hnobody, if_neg (show ¬ (permuted request candidates).candidates = [] from
    mt (eq_nil_congr h).mp hnobody)]
  by_cases hpolicy : taskPolicy request = some .none
  · rw [if_pos hpolicy, if_pos (show taskPolicy (permuted request candidates) = some .none from
      hpolicy)]
    exact ⟨rfl, rfl, fun _ => Iff.rfl⟩
  rw [if_neg hpolicy, if_neg (show ¬ taskPolicy (permuted request candidates) = some .none from
    hpolicy)]
  by_cases hsurvivors : survivors request = []
  · rw [if_pos hsurvivors, if_pos ((eq_nil_congr (survivors_perm h)).mpr hsurvivors)]
    have hfiltered := filteredOut_perm h
    have hcodes := mem_filterCodes hfiltered
    rw [hfiltered.all_eq]
    by_cases hall : filteredOut request ≠ [] ∧
        (filteredOut request).all (·.reasonCode == .unavailable) = true
    · rw [if_pos hall, if_pos ⟨mt (eq_nil_congr hfiltered).mp hall.1, hall.2⟩]
      exact ⟨rfl, rfl, hcodes⟩
    · rw [if_neg hall,
        if_neg fun hother => hall ⟨mt (eq_nil_congr hfiltered).mpr hother.1, hother.2⟩]
      exact ⟨rfl, rfl, hcodes⟩
  rw [if_neg hsurvivors, if_neg (mt (eq_nil_congr (survivors_perm h)).mp hsurvivors)]
  by_cases hpriced : priceSurvivors request = []
  · rw [if_pos hpriced, if_pos ((eq_nil_congr (priceSurvivors_perm h)).mpr hpriced)]
    have hfiltered := priceFiltered_perm h
    have hcodes := mem_filterCodes hfiltered
    rw [hfiltered.all_eq]
    by_cases hall : priceFiltered request ≠ [] ∧
        (priceFiltered request).all (·.reasonCode == .wrongRuntimeClass) = true ∧
        desiredPriceClass request = .expensive
    · rw [if_pos hall, if_pos ⟨mt (eq_nil_congr hfiltered).mp hall.1, hall.2⟩]
      exact ⟨rfl, rfl, hcodes⟩
    · rw [if_neg hall,
        if_neg fun hother => hall ⟨mt (eq_nil_congr hfiltered).mpr hother.1, hother.2⟩]
      exact ⟨rfl, rfl, hcodes⟩
  rw [if_neg hpriced, if_neg (mt (eq_nil_congr (priceSurvivors_perm h)).mp hpriced)]
  refine selectSurvivor_perm h (fun hunordered => hrankable ?_) hdistinct
  exact ⟨not_le.mp hused, hpolicy, hpriced, hunordered⟩

end Permuted

/-! ## The best choice -/

/-- `Better` is a strict weak order on the candidates. -/
structure StrictWeakOrder (candidates : List RuntimeCandidate) : Prop where
  irreflexive : ∀ a ∈ candidates, ¬ Better a a
  transitive : ∀ a ∈ candidates, ∀ b ∈ candidates, ∀ c ∈ candidates,
    Better a b → Better b c → Better a c
  comparable : ∀ a ∈ candidates, ∀ b ∈ candidates, ∀ c ∈ candidates,
    Better a c → Better a b ∨ Better b c

/-- Among the survivors, one that none of them is better than. -/
def IsBest (request : RoutingRequest) (best : RuntimeCandidate) : Prop :=
  best ∈ priceSurvivors request ∧ ∀ c ∈ priceSurvivors request, ¬ Better c best

/-- The choice for a request is a best one, in whatever order the candidates are listed. -/
structure BestChoice (ranking : Ranking) (request : RoutingRequest) : Prop where
  orderless : ∀ candidates : List RuntimeCandidate, candidates.Perm request.candidates →
    SameChoice (selectRuntime ranking (permuted request candidates))
      (selectRuntime ranking request)
  ordered : ByQuality request → StrictWeakOrder (priceSurvivors request)
  best : ByQuality request → ∀ identity,
    (selectRuntime ranking request).selectedIdentity = some identity →
    ∃ best, IsBest request best ∧ best.identity = identity
  tie : (selectRuntime ranking request).outcome = .requireOperatorSelection ↔
    ByQuality request ∧ request.requireOperatorOnTie = true ∧
      ∃ best, IsBest request best ∧ ∃ item ∈ priceSurvivors request,
        item.identity.adapterId ≠ best.identity.adapterId ∧ qualityEqual item best = true

section Choice

variable {ranking : Ranking} {request : RoutingRequest}

theorem ByQuality.selectRuntime (h : ByQuality request) :
    selectRuntime ranking request = selectByQuality ranking request := by
  rw [selectRuntime_eq h.allowed h.policy h.survives, selectSurvivor, h.unordered]

/-- An operator is asked only where the quality was to decide. -/
theorem byQuality_of_requireOperator
    (h : (Routing.selectRuntime ranking request).outcome = .requireOperatorSelection) :
    ByQuality request := by
  by_cases hchoice : request.runtimeAttemptsUsed < request.budget.maxRuntimeAttempts ∧
      taskPolicy request ≠ some .none ∧ priceSurvivors request ≠ []
  · obtain ⟨hallowed, hpolicy, hsurvives⟩ := hchoice
    rw [selectRuntime_eq hallowed hpolicy hsurvives, selectSurvivor] at h
    rcases hpreferred : preferred request with _ | ⟨first, rest⟩
    · exact ⟨hallowed, hpolicy, hsurvives, hpreferred⟩
    · rw [hpreferred] at h
      cases h
  · exfalso
    unfold Routing.selectRuntime at h
    dsimp only at h
    split at h
    · cases h
    rename_i hzero
    split at h
    · cases h
    rename_i hused
    split at h
    · cases h
    split at h
    · cases h
    rename_i hpolicy
    split at h
    · split at h <;> cases h
    split at h
    · split at h <;> cases h
    rename_i hsurvives
    exact hchoice ⟨not_le.mp hused, hpolicy, hsurvives⟩

/-- The choice by quality, of the first of the ranked. -/
theorem selectByQuality_cases (hsurvives : priceSurvivors request ≠ []) :
    ∃ best rest, ranking.rank (priceSurvivors request) = best :: rest ∧
      ((selectByQuality ranking request).outcome = .requireOperatorSelection ∧
          (selectByQuality ranking request).selectedIdentity = none ∧
          tied best (best :: rest) ≠ [] ∧ request.requireOperatorOnTie = true ∨
        (selectByQuality ranking request).outcome = .select ∧
          (selectByQuality ranking request).selectedIdentity = some best.identity ∧
          ¬ (tied best (best :: rest) ≠ [] ∧ request.requireOperatorOnTie = true)) := by
  have hperm := ranking.perm (priceSurvivors request)
  rcases hrank : ranking.rank (priceSurvivors request) with _ | ⟨best, rest⟩
  · rw [hrank] at hperm
    exact absurd hperm.symm.eq_nil hsurvives
  refine ⟨best, rest, rfl, ?_⟩
  by_cases htie : tied best (best :: rest) ≠ [] ∧ request.requireOperatorOnTie = true
  · simp only [selectByQuality, hrank, if_pos htie]
    exact .inl ⟨rfl, rfl, htie⟩
  · simp only [selectByQuality, hrank, if_neg htie]
    exact .inr ⟨rfl, rfl, htie⟩

theorem tied_ne_nil {best : RuntimeCandidate} {ranked : List RuntimeCandidate} :
    tied best ranked ≠ [] ↔ ∃ item ∈ ranked,
      item.identity.adapterId ≠ best.identity.adapterId ∧ qualityEqual item best = true := by
  rw [tied, ne_eq, List.filter_eq_nil_iff]
  simp only [Bool.and_eq_true, bne_iff_ne, not_forall, not_not, exists_prop]

/-- **The choice is the best one, whatever the order of the candidates**, where no
three survivors are each better than the next. -/
theorem runtime_choice_best (ranking : Ranking) (request : RoutingRequest)
    (hdistinct : Distinct request.candidates)
    (hrankable : ByQuality request → Rankable (priceSurvivors request)) :
    BestChoice ranking request := by
  have hsurvivors : Distinct (priceSurvivors request) :=
    hdistinct.sublist ((List.filter_sublist.trans List.filter_sublist).map _)
  refine ⟨fun candidates h => selectRuntime_perm h hrankable hsurvivors, fun hquality => ?_,
    fun hquality identity hidentity => ?_, ?_⟩
  · have hrank := hrankable hquality
    refine ⟨fun a _ => not_better_self a,
      fun a ha b hb c hc => hrank.better_trans hsurvivors ha hb hc, fun a ha b hb c hc hac => ?_⟩
    by_cases hid : a.identity.adapterId = b.identity.adapterId
    · rw [hsurvivors.eq ha hb hid] at hac
      exact .inr hac
    · rcases hrank.better_or ha hb hid with hab | hba
      · exact .inl hab
      · exact .inr (hrank.better_trans hsurvivors hb ha hc hba hac)
  · obtain ⟨best, rest, hranked, ⟨-, hnone, -⟩ | ⟨-, hsome, -⟩⟩ :=
      @selectByQuality_cases ranking request hquality.survives
    · rw [hquality.selectRuntime, hnone] at hidentity
      cases hidentity
    · rw [hquality.selectRuntime, hsome] at hidentity
      exact ⟨best, ranking.best (hrankable hquality) hsurvivors (by rw [hranked]; rfl),
        Option.some.inj hidentity⟩
  · constructor
    · intro houtcome
      have hquality := byQuality_of_requireOperator houtcome
      obtain ⟨best, rest, hranked, ⟨-, -, htied, hflag⟩ | ⟨hselect, -, -⟩⟩ :=
        @selectByQuality_cases ranking request hquality.survives
      · obtain ⟨item, hitem, htie⟩ := tied_ne_nil.mp htied
        have hperm := ranking.perm (priceSurvivors request)
        rw [hranked] at hperm
        exact ⟨hquality, hflag, best,
          ranking.best (hrankable hquality) hsurvivors (by rw [hranked]; rfl), item,
          hperm.subset hitem, htie⟩
      · rw [hquality.selectRuntime, hselect] at houtcome
        cases houtcome
    · rintro ⟨hquality, hflag, best, ⟨hmem, hbest⟩, item, hitem, htie⟩
      obtain ⟨first, rest, hranked, ⟨houtcome, -⟩ | ⟨-, -, hfree⟩⟩ :=
        @selectByQuality_cases ranking request hquality.survives
      · rw [hquality.selectRuntime, houtcome]
      · exfalso
        obtain ⟨hmem', hbest'⟩ :=
          ranking.best (hrankable hquality) hsurvivors (by rw [hranked]; rfl : first ∈ _)
        obtain rfl : best = first := (hrankable hquality).best_unique hsurvivors hmem hmem'
          (hbest' best hmem) (hbest first hmem')
        have hperm := ranking.perm (priceSurvivors request)
        rw [hranked] at hperm
        exact hfree ⟨tied_ne_nil.mpr ⟨item, hperm.symm.subset hitem, htie⟩, hflag⟩

end Choice

/-! ## Three runtimes -/

/-- A runtime that passes every filter, with a latency that may have been observed. -/
def labCandidate (id : Char) (latencyMs : Option Nat) : RuntimeCandidate where
  identity := ⟨.inferenceRuntime, [id], [id], .cheap⟩
  available := true
  authenticated := true
  structuredOutputCompatible := true
  allowedCapabilities := []
  sideEffectCapabilities := []
  locality := .local
  operatorProhibited := false
  quality := some { RuntimeQualityObservation.default with latencyMs := latencyMs }
  isStrix := false

def labRequest (candidates : List RuntimeCandidate) : RoutingRequest where
  role := .generator
  candidates := candidates
  budget := ⟨1, 1⟩
  requiredRuntimeClass := .inferenceRuntime
  structuredOutputRequired := true
  locality := .remoteAllowed
  allowAgentRuntime := false
  operatorProhibitedAdapterIds := []
  operatorPreferenceOrder := []
  requireOperatorOnTie := false
  attemptedAdapterIds := []
  runtimeAttemptsUsed := 0
  fallbackAttemptsUsed := 0
  taskClass := none
  escalationReason := none

theorem runtime_choice_best_lab :
    BestChoice .byInsertion
      (labRequest [labCandidate 'a' (some 2), labCandidate 'b' none, labCandidate 'c' (some 3)]) := by
  refine runtime_choice_best _ _ (by rw [Distinct]; decide) fun _ => ?_
  exact ⟨by decide, by decide⟩

/-- The slower one comes before the one without a latency, that one before the
faster one, and the faster one before the slower one. -/
theorem runtime_choice_cyclic :
    ¬ ∀ (ranking : Ranking) (request : RoutingRequest), Distinct request.candidates →
      BestChoice ranking request := by
  intro h
  have hchoice := h .byInsertion
    (labRequest [labCandidate 'a' (some 2), labCandidate 'b' none, labCandidate 'c' (some 1)])
    (by rw [Distinct]; decide)
  have hidentity := (hchoice.orderless
    [labCandidate 'c' (some 1), labCandidate 'a' (some 2), labCandidate 'b' none]
    (by rw [labRequest]; decide)).identity
  revert hidentity
  decide

end Routing
end Zest
