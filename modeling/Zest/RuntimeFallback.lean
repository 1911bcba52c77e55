import Zest.RuntimeRouting

/-! # Fallback is bounded

The chain of decisions of one request: the first is `select_runtime`'s, and while
a decision selects a runtime, how that runtime's call ended leads to the next.
The counters and the attempted runtimes of a decision bound what can follow it.

An escalation is requested of one hop only.  The next fallback takes its reason to
escalate from the request again, so that a cheap runtime can follow the expensive
one that was escalated to.
-/
namespace Zest
namespace Routing

open RuntimeSelectionDecision

/-! ## What a selection says -/

/-- A request of which `select_runtime` makes a selection. -/
structure Selectable (ranking : Ranking) (request : RoutingRequest) : Prop where
  attempts : request.runtimeAttemptsUsed < request.budget.maxRuntimeAttempts
  policy : taskPolicy request ≠ some .none
  survives : priceSurvivors request ≠ []
  decides : preferred request ≠ [] ∨ request.requireOperatorOnTie = false ∨
    ∀ best ∈ (ranking.rank (priceSurvivors request)).head?,
      tied best (ranking.rank (priceSurvivors request)) = []

/-- What is known of a decision that selects a runtime for the request. -/
structure SelectedFor (request : RoutingRequest) (d : RuntimeSelectionDecision) : Prop where
  candidate : ∃ identity, d.selectedIdentity = some identity ∧
    ∃ c ∈ priceSurvivors request, c.identity = identity
  attempted : d.attemptedAdapterIds = request.attemptedAdapterIds
  attempts : d.runtimeAttemptsUsed = request.runtimeAttemptsUsed + 1
  allowed : request.runtimeAttemptsUsed < request.budget.maxRuntimeAttempts
  fallbacks : d.fallbackAttemptsUsed = request.fallbackAttemptsUsed

theorem selectedFor_selection {request : RoutingRequest} {c : RuntimeCandidate}
    (hc : c ∈ priceSurvivors request)
    (hallowed : request.runtimeAttemptsUsed < request.budget.maxRuntimeAttempts)
    (reasonCodes : List RoutingReasonCode) (filtered : List FilterRecord) :
    SelectedFor request (selection request reasonCodes c.identity filtered) where
  candidate := ⟨_, rfl, c, hc, rfl⟩
  attempted := rfl
  attempts := rfl
  allowed := hallowed
  fallbacks := rfl

/-- The best of the survivors is chosen unless the operator has to break a tie. -/
theorem selectByQuality_spec (ranking : Ranking) {request : RoutingRequest}
    (hallowed : request.runtimeAttemptsUsed < request.budget.maxRuntimeAttempts)
    (hsurvives : priceSurvivors request ≠ []) :
    ((selectByQuality ranking request).selected = true ↔
        request.requireOperatorOnTie = false ∨
          ∀ best ∈ (ranking.rank (priceSurvivors request)).head?,
            tied best (ranking.rank (priceSurvivors request)) = []) ∧
      ((selectByQuality ranking request).selected = true →
        SelectedFor request (selectByQuality ranking request)) := by
  have hperm := ranking.perm (priceSurvivors request)
  cases hrank : ranking.rank (priceSurvivors request) with
  | nil =>
    rw [hrank] at hperm
    exact absurd hperm.symm.eq_nil hsurvives
  | cons best rest =>
    have hbest : best ∈ priceSurvivors request := by
      rw [hrank] at hperm
      exact hperm.subset List.mem_cons_self
    by_cases htie : tied best (best :: rest) ≠ [] ∧ request.requireOperatorOnTie = true
    · have hrefused : (selectByQuality ranking request).selected = false := by
        simp only [selectByQuality, hrank, if_pos htie]
        rfl
      simp [hrefused, htie.2, htie.1]
    · have hselected : selectByQuality ranking request = selection request
          [.selectedAfterHardFilters, .selectedByQualityOrder, priceReason request]
          best.identity (filteredOut request ++ priceFiltered request) := by
        simp only [selectByQuality, hrank, if_neg htie]
      have hfree : request.requireOperatorOnTie = false ∨ tied best (best :: rest) = [] := by
        by_cases hnone : tied best (best :: rest) = []
        · exact .inr hnone
        · exact .inl (by simpa [hnone] using htie)
      rw [hselected]
      exact ⟨by simp [hfree], fun _ => selectedFor_selection hbest hallowed _ _⟩

/-- The operator's order decides whatever the quality. -/
theorem selectSurvivor_spec (ranking : Ranking) {request : RoutingRequest}
    (hallowed : request.runtimeAttemptsUsed < request.budget.maxRuntimeAttempts)
    (hsurvives : priceSurvivors request ≠ []) :
    ((selectSurvivor ranking request).selected = true ↔
        preferred request ≠ [] ∨ request.requireOperatorOnTie = false ∨
          ∀ best ∈ (ranking.rank (priceSurvivors request)).head?,
            tied best (ranking.rank (priceSurvivors request)) = []) ∧
      ((selectSurvivor ranking request).selected = true →
        SelectedFor request (selectSurvivor ranking request)) := by
  cases hpref : preferred request with
  | nil =>
    have hquality : selectSurvivor ranking request = selectByQuality ranking request := by
      simp only [selectSurvivor, hpref]
    rw [hquality]
    simpa using selectByQuality_spec ranking hallowed hsurvives
  | cons first rest =>
    have hmem : ∀ place, firstLeast place first rest ∈ priceSurvivors request := by
      intro place
      have hin : firstLeast place first rest ∈ preferred request := by
        rw [hpref]
        exact firstLeast_mem place first rest
      exact (List.mem_filter.mp hin).1
    simp only [selectSurvivor, hpref]
    exact ⟨by simp, fun _ => selectedFor_selection (hmem _) hallowed _ _⟩

/-- Past the allowance, the task policy and the price filter there is a choice. -/
theorem selectRuntime_eq {ranking : Ranking} {request : RoutingRequest}
    (hallowed : request.runtimeAttemptsUsed < request.budget.maxRuntimeAttempts)
    (hpolicy : taskPolicy request ≠ some .none) (hsurvives : priceSurvivors request ≠ []) :
    selectRuntime ranking request = selectSurvivor ranking request := by
  have hsome : request.budget.maxRuntimeAttempts ≠ 0 := by omega
  have hleft : ¬ request.budget.maxRuntimeAttempts ≤ request.runtimeAttemptsUsed := by omega
  obtain ⟨candidate, hcandidate⟩ := List.exists_mem_of_ne_nil _ hsurvives
  have hsurvivor : candidate ∈ survivors request := List.mem_of_mem_filter hcandidate
  have hsurvivors : survivors request ≠ [] := List.ne_nil_of_mem hsurvivor
  have hcandidates : request.candidates ≠ [] :=
    List.ne_nil_of_mem (List.mem_of_mem_filter hsurvivor)
  simp only [selectRuntime, if_neg hsome, if_neg hleft, if_neg hcandidates, if_neg hpolicy,
    if_neg hsurvivors, if_neg hsurvives]

/-- Nobody is selected without an allowance, a task class that may call a model and
a survivor of the filters. -/
theorem allowed_of_selected {ranking : Ranking} {request : RoutingRequest}
    (h : (selectRuntime ranking request).selected = true) :
    request.runtimeAttemptsUsed < request.budget.maxRuntimeAttempts ∧
      taskPolicy request ≠ some .none ∧ priceSurvivors request ≠ [] := by
  unfold selectRuntime at h
  by_cases hzero : request.budget.maxRuntimeAttempts = 0
  · rw [if_pos hzero] at h
    cases h
  rw [if_neg hzero] at h
  by_cases hused : request.budget.maxRuntimeAttempts ≤ request.runtimeAttemptsUsed
  · rw [if_pos hused] at h
    cases h
  rw [if_neg hused] at h
  by_cases hnobody : request.candidates = []
  · rw [if_pos hnobody] at h
    cases h
  rw [if_neg hnobody] at h
  by_cases hpolicy : taskPolicy request = some .none
  · rw [if_pos hpolicy] at h
    cases h
  rw [if_neg hpolicy] at h
  by_cases hsurvivors : survivors request = []
  · rw [if_pos hsurvivors] at h
    dsimp only at h
    split at h <;> cases h
  rw [if_neg hsurvivors] at h
  by_cases hsurvives : priceSurvivors request = []
  · rw [if_pos hsurvives] at h
    dsimp only at h
    split at h <;> cases h
  exact ⟨by omega, hpolicy, hsurvives⟩

/-- **What `select_runtime` selects, and when it selects.** -/
theorem selectRuntime_spec (ranking : Ranking) (request : RoutingRequest) :
    ((selectRuntime ranking request).selected = true ↔ Selectable ranking request) ∧
      ((selectRuntime ranking request).selected = true →
        SelectedFor request (selectRuntime ranking request)) := by
  by_cases hopen : request.runtimeAttemptsUsed < request.budget.maxRuntimeAttempts ∧
      taskPolicy request ≠ some .none ∧ priceSurvivors request ≠ []
  · obtain ⟨hallowed, hpolicy, hsurvives⟩ := hopen
    obtain ⟨hiff, hspec⟩ := selectSurvivor_spec ranking hallowed hsurvives
    rw [selectRuntime_eq hallowed hpolicy hsurvives]
    exact ⟨⟨fun h => ⟨hallowed, hpolicy, hsurvives, hiff.mp h⟩, fun h => hiff.mpr h.decides⟩,
      hspec⟩
  · have hclosed : ¬ (selectRuntime ranking request).selected = true :=
      fun h => hopen (allowed_of_selected h)
    exact ⟨⟨fun h => absurd h hclosed, fun h => absurd ⟨h.attempts, h.policy, h.survives⟩ hopen⟩,
      fun h => absurd h hclosed⟩

/-! ## What one hop does -/

theorem mem_attemptedAfter {d : RuntimeSelectionDecision} {adapterId : Text} :
    adapterId ∈ attemptedAfter d ↔ adapterId ∈ d.attemptedAdapterIds ∨
      ∃ identity, d.selectedIdentity = some identity ∧ identity.adapterId = adapterId := by
  cases hselected : d.selectedIdentity with
  | none => simp [attemptedAfter, hselected]
  | some identity => simp [attemptedAfter, hselected, eq_comm]

/-- The outcome asks for another runtime without an escalation. -/
def RuntimeOutcome.fallsBack (outcome : RuntimeOutcome) : Bool :=
  outcome != .contentPolicyBlocked && outcome != .escalationNeeded

/-- **A hop that selects.**  It is a selection for the escalation of the request, or
for its fallback within the fallback allowance. -/
theorem reconsiderRuntime_spec {ranking : Ranking} {request : RoutingRequest}
    {previous : RuntimeSelectionDecision} {outcome : RuntimeOutcome}
    (h : (reconsiderRuntime ranking request previous outcome).selected = true) :
    (outcome = .escalationNeeded ∧ SelectedFor (escalationRetry request previous)
        (reconsiderRuntime ranking request previous outcome)) ∨
      (outcome.fallsBack = true ∧
        previous.fallbackAttemptsUsed < request.budget.maxFallbackAttempts ∧
        Selectable ranking (fallbackRetry request previous) ∧
        SelectedFor (fallbackRetry request previous)
          (reconsiderRuntime ranking request previous outcome)) := by
  unfold reconsiderRuntime at h ⊢
  by_cases hblocked : outcome = .contentPolicyBlocked
  · rw [if_pos hblocked] at h
    cases h
  rw [if_neg hblocked] at h ⊢
  by_cases hescalated : outcome = .escalationNeeded
  · rw [if_pos hescalated] at h ⊢
    exact .inl ⟨hescalated, (selectRuntime_spec ranking _).2 h⟩
  rw [if_neg hescalated] at h ⊢
  by_cases hzero : request.budget.maxFallbackAttempts = 0
  · rw [if_pos hzero] at h
    cases h
  rw [if_neg hzero] at h ⊢
  by_cases hused : request.budget.maxFallbackAttempts ≤ previous.fallbackAttemptsUsed
  · rw [if_pos hused] at h
    cases h
  rw [if_neg hused] at h ⊢
  obtain ⟨hiff, hspec⟩ := selectRuntime_spec ranking (fallbackRetry request previous)
  exact .inr ⟨by simp [RuntimeOutcome.fallsBack, hblocked, hescalated], by omega,
    hiff.mp h, hspec h⟩

/-- What holds of a hop that selects, whichever branch it comes from. -/
structure Advances (request : RoutingRequest) (previous : RuntimeSelectionDecision)
    (outcome : RuntimeOutcome) (next : RuntimeSelectionDecision) : Prop where
  candidate : ∃ identity, next.selectedIdentity = some identity ∧
    identity.adapterId ∉ attemptedAfter previous ∧
      ∃ c ∈ request.candidates, c.identity = identity ∧
        (request.attemptedAdapterIds ⊆ attemptedAfter previous → hardFilter c request = none)
  attempted : next.attemptedAdapterIds = attemptedAfter previous
  attempts : next.runtimeAttemptsUsed = previous.runtimeAttemptsUsed + 1
  allowed : previous.runtimeAttemptsUsed < request.budget.maxRuntimeAttempts
  fallbacks : next.fallbackAttemptsUsed =
    previous.fallbackAttemptsUsed + if outcome = .escalationNeeded then 0 else 1
  fallbackAllowed : outcome ≠ .escalationNeeded →
    previous.fallbackAttemptsUsed < request.budget.maxFallbackAttempts
  unblocked : outcome ≠ .contentPolicyBlocked

theorem advances_of_selected {ranking : Ranking} {request : RoutingRequest}
    {previous : RuntimeSelectionDecision} {outcome : RuntimeOutcome}
    (h : (reconsiderRuntime ranking request previous outcome).selected = true) :
    Advances request previous outcome (reconsiderRuntime ranking request previous outcome) := by
  rcases reconsiderRuntime_spec h with ⟨rfl, hfor⟩ | ⟨hfall, hallowance, -, hfor⟩
  · obtain ⟨identity, hidentity, c, hc, rfl⟩ := hfor.candidate
    obtain ⟨hmem, hfilter, -⟩ := mem_priceSurvivors.mp hc
    exact {
      candidate := ⟨_, hidentity, (hardFilter_eq_none.mp hfilter).1, c, hmem, rfl,
        fun hsub => hardFilter_of_attempted_subset hsub hfilter⟩
      attempted := hfor.attempted
      attempts := hfor.attempts
      allowed := hfor.allowed
      fallbacks := hfor.fallbacks
      fallbackAllowed := fun hne => absurd rfl hne
      unblocked := by decide }
  · obtain ⟨identity, hidentity, c, hc, rfl⟩ := hfor.candidate
    obtain ⟨hmem, hfilter, -⟩ := mem_priceSurvivors.mp hc
    have houtcome : outcome ≠ .contentPolicyBlocked ∧ outcome ≠ .escalationNeeded := by
      simpa [RuntimeOutcome.fallsBack] using hfall
    exact {
      candidate := ⟨_, hidentity, (hardFilter_eq_none.mp hfilter).1, c, hmem, rfl,
        fun hsub => hardFilter_of_attempted_subset hsub hfilter⟩
      attempted := hfor.attempted
      attempts := hfor.attempts
      allowed := hfor.allowed
      fallbacks := by
        rw [if_neg houtcome.2]
        exact hfor.fallbacks
      fallbackAllowed := fun _ => hallowance
      unblocked := houtcome.1 }

/-! ## The chain -/

/-- A decision of the chain, with the outcome that led to it. -/
structure Hop where
  after : Option RuntimeOutcome
  decision : RuntimeSelectionDecision

/-- The decisions after this one, while they select. -/
def hops (ranking : Ranking) (request : RoutingRequest) (previous : RuntimeSelectionDecision) :
    List RuntimeOutcome → List Hop
  | [] => []
  | outcome :: outcomes =>
    if previous.selected then
      let next := reconsiderRuntime ranking request previous outcome
      ⟨some outcome, next⟩ :: hops ranking request next outcomes
    else []

/-- `d(0) = select_runtime(request)` and `d(i+1) = reconsider_runtime(request, d(i),
outcome(i))` while `d(i)` selects. -/
def chain (ranking : Ranking) (request : RoutingRequest) (outcomes : List RuntimeOutcome) :
    List Hop :=
  ⟨none, selectRuntime ranking request⟩ ::
    hops ranking request (selectRuntime ranking request) outcomes

/-- The adapters of the runtimes that were selected, in order. -/
def selectedAdapters (hops : List Hop) : List Text :=
  hops.filterMap fun hop => hop.decision.selectedIdentity.map (·.adapterId)

/-- How many decisions are selections. -/
def selections (hops : List Hop) : Nat :=
  hops.countP fun hop => hop.decision.selected

/-- How many of them follow an outcome that is no request to escalate. -/
def fallbackSelections (hops : List Hop) : Nat :=
  hops.countP fun hop => hop.decision.selected && hop.after.any (· != .escalationNeeded)

/-- Every runtime selected passes the hard filters of the request. -/
def PassesFilters (request : RoutingRequest) (hop : Hop) : Prop :=
  ∀ identity, hop.decision.selectedIdentity = some identity →
    ∃ c ∈ request.candidates, c.identity = identity ∧ hardFilter c request = none

/-- The decision selects no runtime of the cheap class. -/
def NotCheap (d : RuntimeSelectionDecision) : Prop :=
  ∀ identity, d.selectedIdentity = some identity → identity.priceClass ≠ .cheap

theorem selectedIdentity_eq_none {d : RuntimeSelectionDecision} (h : d.selected ≠ true) :
    d.selectedIdentity = none := by
  cases hidentity : d.selectedIdentity with
  | none => rfl
  | some identity =>
    have houtcome : d.outcome = .select := d.selected_iff.mp (by rw [hidentity]; rfl)
    exact absurd (by simp [selected, houtcome]) h

/-- What can still follow a decision. -/
structure BoundedAfter (request : RoutingRequest) (previous : RuntimeSelectionDecision)
    (later : List Hop) : Prop where
  nodup : (selectedAdapters later).Nodup
  untried : ∀ adapterId ∈ selectedAdapters later, adapterId ∉ attemptedAfter previous
  attempts : selections later ≤ request.budget.maxRuntimeAttempts - previous.runtimeAttemptsUsed
  fallbacks : fallbackSelections later ≤
    request.budget.maxFallbackAttempts - previous.fallbackAttemptsUsed
  passes : ∀ hop ∈ later, PassesFilters request hop

theorem boundedAfter_nil (request : RoutingRequest) (previous : RuntimeSelectionDecision) :
    BoundedAfter request previous [] := by
  constructor <;> simp [selectedAdapters, selections, fallbackSelections]

/-- **The chain after a decision is bounded by what the decision has left.** -/
theorem boundedAfter_hops (ranking : Ranking) {request : RoutingRequest}
    {previous : RuntimeSelectionDecision} (outcomes : List RuntimeOutcome)
    (hsub : request.attemptedAdapterIds ⊆ attemptedAfter previous) :
    BoundedAfter request previous (hops ranking request previous outcomes) := by
  induction outcomes generalizing previous with
  | nil => exact boundedAfter_nil request previous
  | cons outcome outcomes ih =>
    unfold hops
    by_cases hselected : previous.selected = true
    · rw [if_pos hselected]
      dsimp only
      generalize hnext : reconsiderRuntime ranking request previous outcome = next
      by_cases hagain : next.selected = true
      · -- the next decision has used up one attempt, and what it selects is tried
        have hadvances : Advances request previous outcome next := by
          rw [← hnext] at hagain ⊢
          exact advances_of_selected hagain
        obtain ⟨identity, hidentity, huntried, c, hc, rfl, hfilter⟩ := hadvances.candidate
        have hgrows : attemptedAfter previous ⊆ attemptedAfter next := by
          intro adapterId hmem
          rw [mem_attemptedAfter, hadvances.attempted]
          exact .inl hmem
        have htried : c.identity.adapterId ∈ attemptedAfter next :=
          mem_attemptedAfter.mpr (.inr ⟨_, hidentity, rfl⟩)
        have hlater : BoundedAfter request next (hops ranking request next outcomes) :=
          ih fun _ h => hgrows (hsub h)
        have hadapters : selectedAdapters (⟨some outcome, next⟩ ::
            hops ranking request next outcomes) = c.identity.adapterId ::
              selectedAdapters (hops ranking request next outcomes) := by
          simp [selectedAdapters, hidentity]
        refine ⟨?_, ?_, ?_, ?_, ?_⟩
        · rw [hadapters, List.nodup_cons]
          exact ⟨fun hmem => hlater.untried _ hmem htried, hlater.nodup⟩
        · rw [hadapters]
          intro adapterId hmem
          rcases List.mem_cons.mp hmem with rfl | hmem
          · exact huntried
          · exact fun hold => hlater.untried _ hmem (hgrows hold)
        · have hattempts := hlater.attempts
          have hallowed := hadvances.allowed
          rw [hadvances.attempts] at hattempts
          simp only [selections, List.countP_cons, hagain, if_true] at hattempts ⊢
          omega
        · have hfallbacks := hlater.fallbacks
          rw [hadvances.fallbacks] at hfallbacks
          by_cases hescalated : outcome = .escalationNeeded
          · simp only [fallbackSelections, List.countP_cons, hescalated, if_true] at hfallbacks ⊢
            simpa using hfallbacks
          · have hallowance := hadvances.fallbackAllowed hescalated
            simp only [fallbackSelections, List.countP_cons, hescalated, if_false] at hfallbacks ⊢
            simp only [hagain, Option.any_some, Bool.true_and, bne_iff_ne, ne_eq, hescalated,
              not_false_eq_true, if_true]
            omega
        · intro hop hmem
          rcases List.mem_cons.mp hmem with rfl | hmem
          · intro identity hselects
            rw [hidentity] at hselects
            cases hselects
            exact ⟨c, hc, rfl, hfilter hsub⟩
          · exact hlater.passes hop hmem
      · have hnobody : next.selectedIdentity = none := selectedIdentity_eq_none hagain
        have hend : hops ranking request next outcomes = [] := by
          cases outcomes with
          | nil => rfl
          | cons => simp [hops, hagain]
        rw [hend]
        refine ⟨?_, ?_, ?_, ?_, ?_⟩
        · simp [selectedAdapters, hnobody]
        · simp [selectedAdapters, hnobody]
        · simp [selections, hagain]
        · simp [fallbackSelections, hagain]
        · intro hop hmem identity hselects
          rw [List.mem_singleton.mp hmem, hnobody] at hselects
          cases hselects
    · rw [if_neg hselected]
      exact boundedAfter_nil request previous

/-- Every hop after the first is what `reconsider_runtime` made of its outcome. -/
theorem exists_of_mem_hops {ranking : Ranking} {request : RoutingRequest}
    {previous : RuntimeSelectionDecision} {outcomes : List RuntimeOutcome} {hop : Hop}
    (h : hop ∈ hops ranking request previous outcomes) :
    ∃ before outcome, hop = ⟨some outcome, reconsiderRuntime ranking request before outcome⟩ := by
  induction outcomes generalizing previous with
  | nil => cases h
  | cons outcome outcomes ih =>
    unfold hops at h
    by_cases hselected : previous.selected = true
    · rw [if_pos hselected] at h
      rcases List.mem_cons.mp h with rfl | h
      · exact ⟨previous, outcome, rfl⟩
      · exact ih h
    · rw [if_neg hselected] at h
      cases h

/-- The chain ends with the first decision that selects nobody. -/
theorem eq_nil_of_not_selected {ranking : Ranking} {request : RoutingRequest}
    {previous : RuntimeSelectionDecision} {outcomes : List RuntimeOutcome}
    {after : Option RuntimeOutcome} {before rest : List Hop} {hop : Hop}
    (h : ⟨after, previous⟩ :: hops ranking request previous outcomes = before ++ hop :: rest)
    (hselected : hop.decision.selected ≠ true) : rest = [] := by
  induction outcomes generalizing previous after before with
  | nil =>
    cases before with
    | nil => exact (List.cons.inj h).2.symm
    | cons _ before => exact absurd (List.cons.inj h).2 (by simp [hops])
  | cons outcome outcomes ih =>
    cases before with
    | nil =>
      obtain ⟨rfl, rfl⟩ := List.cons.inj h
      simp [hops, hselected]
    | cons _ before =>
      have htail := (List.cons.inj h).2
      unfold hops at htail
      by_cases hprevious : previous.selected = true
      · rw [if_pos hprevious] at htail
        exact ih htail
      · rw [if_neg hprevious] at htail
        exact absurd htail (by simp)

/-! ## Escalation -/

/-- An escalation was requested: by the request, or by an outcome of the chain. -/
def EscalatedBy (request : RoutingRequest) (hops : List Hop) : Prop :=
  request.escalationReason.isSome = true ∨ ∃ hop ∈ hops, hop.after = some .escalationNeeded

/-- **Fallback is bounded and never evades a block.** -/
structure FallbackSound (request : RoutingRequest) (chain : List Hop) : Prop where
  distinct : (selectedAdapters chain).Nodup
  attempts : selections chain ≤ request.budget.maxRuntimeAttempts
  fallbacks : fallbackSelections chain ≤ request.budget.maxFallbackAttempts
  passes : ∀ hop ∈ chain, PassesFilters request hop
  blocked : ∀ before hop rest, chain = before ++ hop :: rest →
    hop.after = some .contentPolicyBlocked → hop.decision.selected = false ∧ rest = []
  escalated : ∀ before hop rest, chain = before ++ hop :: rest →
    EscalatedBy request (before ++ [hop]) → NotCheap hop.decision

/-- The step falls back to the cheap class: the outcome is no escalation and no
block, the allowances are not used up, the request itself asks for the cheap class,
and there is a choice among the cheap runtimes that were not tried. -/
structure FallsBackCheap (ranking : Ranking) (request : RoutingRequest)
    (previous : RuntimeSelectionDecision) (outcome : RuntimeOutcome) : Prop where
  fallsBack : outcome.fallsBack = true
  allowance : previous.fallbackAttemptsUsed < request.budget.maxFallbackAttempts
  cheap : desiredPriceClass request = .cheap
  selectable : Selectable ranking (fallbackRetry request previous)

/-- No step of the chain from this decision on falls back to the cheap class once an
escalation was requested. -/
def EscalationKept (ranking : Ranking) (request : RoutingRequest) (escalated : Bool)
    (previous : RuntimeSelectionDecision) : List RuntimeOutcome → Prop
  | [] => True
  | outcome :: outcomes =>
    previous.selected = true →
      (escalated = true → ¬ FallsBackCheap ranking request previous outcome) ∧
        EscalationKept ranking request (escalated || outcome == .escalationNeeded)
          (reconsiderRuntime ranking request previous outcome) outcomes

/-- No hop selects a cheap runtime once an escalation was requested. -/
def CheapFree (escalated : Bool) : List Hop → Prop
  | [] => True
  | hop :: rest =>
    let escalated := escalated || hop.after == some .escalationNeeded
    (escalated = true → NotCheap hop.decision) ∧ CheapFree escalated rest

theorem cheapFree_iff {escalated : Bool} {hops : List Hop} :
    CheapFree escalated hops ↔ ∀ before hop rest, hops = before ++ hop :: rest →
      (escalated = true ∨ ∃ e ∈ before ++ [hop], e.after = some .escalationNeeded) →
        NotCheap hop.decision := by
  induction hops generalizing escalated with
  | nil => exact ⟨fun _ before hop rest h => absurd h (by simp), fun _ => trivial⟩
  | cons first hops ih =>
    simp only [CheapFree, ih]
    constructor
    · rintro ⟨hfirst, hlater⟩ before hop rest heq hescalated
      cases before with
      | nil =>
        obtain ⟨rfl, rfl⟩ := List.cons.inj heq
        exact hfirst (by simpa using hescalated)
      | cons start before =>
        obtain ⟨rfl, htail⟩ := List.cons.inj heq
        refine hlater before hop rest htail ?_
        rcases hescalated with hescalated | ⟨e, he, hasked⟩
        · exact .inl (by simp [hescalated])
        · rcases List.mem_cons.mp he with rfl | he
          · exact .inl (by simp [hasked])
          · exact .inr ⟨e, he, hasked⟩
    · intro h
      refine ⟨fun hescalated => h [] first hops rfl (by simpa using hescalated), ?_⟩
      intro before hop rest heq hescalated
      refine h (first :: before) hop rest (by rw [heq]; rfl) ?_
      rcases hescalated with hescalated | ⟨e, he, hasked⟩
      · rcases Bool.or_eq_true_iff.mp hescalated with hescalated | hasked
        · exact .inl hescalated
        · exact .inr ⟨first, by simp, by simpa using hasked⟩
      · exact .inr ⟨e, List.mem_cons_of_mem _ he, hasked⟩

/-- A selection for a request is of the price class that the request desires. -/
theorem SelectedFor.priceClass {request : RoutingRequest} {d : RuntimeSelectionDecision}
    (h : SelectedFor request d) {identity : ModelRuntimeIdentity}
    (hidentity : d.selectedIdentity = some identity) :
    identity.priceClass = desiredPriceClass request := by
  obtain ⟨_, hselected, c, hc, rfl⟩ := h.candidate
  rw [hselected] at hidentity
  cases hidentity
  exact (mem_priceSurvivors.mp hc).2.2

theorem desiredPriceClass_escalated {request : RoutingRequest}
    (h : request.escalationReason.isSome = true) : desiredPriceClass request = .expensive := by
  simp [desiredPriceClass, h]

/-- The hop of an escalation selects no cheap runtime. -/
theorem notCheap_of_escalation {ranking : Ranking} {request : RoutingRequest}
    {previous : RuntimeSelectionDecision} :
    NotCheap (reconsiderRuntime ranking request previous .escalationNeeded) := by
  intro identity hidentity
  have hselected :
      (reconsiderRuntime ranking request previous .escalationNeeded).selected = true := by
    have houtcome := (selected_iff _).mp (by rw [hidentity]; rfl)
    simp [selected, houtcome]
  rcases reconsiderRuntime_spec hselected with ⟨-, hfor⟩ | ⟨hfall, -⟩
  · rw [hfor.priceClass hidentity, desiredPriceClass_escalated rfl]
    decide
  · cases hfall

/-- Any other hop selects a cheap runtime exactly when it falls back to one. -/
theorem notCheap_reconsiderRuntime_iff {ranking : Ranking} {request : RoutingRequest}
    {previous : RuntimeSelectionDecision} {outcome : RuntimeOutcome}
    (houtcome : outcome ≠ .escalationNeeded) :
    NotCheap (reconsiderRuntime ranking request previous outcome) ↔
      ¬ FallsBackCheap ranking request previous outcome := by
  constructor
  · intro hnot hfalls
    have hopen : outcome ≠ .contentPolicyBlocked := by
      simpa [RuntimeOutcome.fallsBack, houtcome] using hfalls.fallsBack
    have hzero : request.budget.maxFallbackAttempts ≠ 0 := by
      have := hfalls.allowance
      omega
    have hused : ¬ request.budget.maxFallbackAttempts ≤ previous.fallbackAttemptsUsed := by
      have := hfalls.allowance
      omega
    have hretry : reconsiderRuntime ranking request previous outcome =
        selectRuntime ranking (fallbackRetry request previous) := by
      unfold reconsiderRuntime
      rw [if_neg hopen, if_neg houtcome, if_neg hzero, if_neg hused]
    obtain ⟨hiff, hspec⟩ := selectRuntime_spec ranking (fallbackRetry request previous)
    have hfor := hspec (hiff.mpr hfalls.selectable)
    obtain ⟨identity, hidentity, -⟩ := hfor.candidate
    rw [hretry] at hnot
    exact hnot identity hidentity ((hfor.priceClass hidentity).trans hfalls.cheap)
  · intro hnot identity hidentity hcheap
    have hselected : (reconsiderRuntime ranking request previous outcome).selected = true := by
      have houtcome := (selected_iff _).mp (by rw [hidentity]; rfl)
      simp [selected, houtcome]
    rcases reconsiderRuntime_spec hselected with ⟨heq, -⟩ | ⟨hfall, hallowance, hselectable, hfor⟩
    · exact houtcome heq
    · exact hnot ⟨hfall, hallowance, (hfor.priceClass hidentity).symm.trans hcheap, hselectable⟩

/-- **The escalation holds along the chain exactly when no step drops it.** -/
theorem cheapFree_hops_iff {ranking : Ranking} {request : RoutingRequest} {escalated : Bool}
    {previous : RuntimeSelectionDecision} (outcomes : List RuntimeOutcome) :
    CheapFree escalated (hops ranking request previous outcomes) ↔
      EscalationKept ranking request escalated previous outcomes := by
  induction outcomes generalizing escalated previous with
  | nil => exact Iff.rfl
  | cons outcome outcomes ih =>
    by_cases hselected : previous.selected = true
    · have hhop : ((escalated || outcome == .escalationNeeded) = true →
          NotCheap (reconsiderRuntime ranking request previous outcome)) ↔
            (escalated = true → ¬ FallsBackCheap ranking request previous outcome) := by
        by_cases houtcome : outcome = .escalationNeeded
        · subst houtcome
          exact ⟨fun _ _ hfalls => absurd hfalls.fallsBack (by decide),
            fun _ _ => notCheap_of_escalation⟩
        · rw [notCheap_reconsiderRuntime_iff houtcome]
          simp [houtcome]
      simp only [hops, hselected, if_true, CheapFree, EscalationKept, forall_const, ih]
      exact and_congr hhop Iff.rfl
    · simp [hops, hselected, CheapFree, EscalationKept]

/-- The first decision is bounded as a hop is. -/
theorem boundedAfter_chain (ranking : Ranking) (request : RoutingRequest)
    (outcomes : List RuntimeOutcome) :
    (selectedAdapters (chain ranking request outcomes)).Nodup ∧
      selections (chain ranking request outcomes) ≤ request.budget.maxRuntimeAttempts ∧
      fallbackSelections (chain ranking request outcomes) ≤ request.budget.maxFallbackAttempts ∧
      ∀ hop ∈ chain ranking request outcomes, PassesFilters request hop := by
  unfold chain
  by_cases hselected : (selectRuntime ranking request).selected = true
  · have hfor := (selectRuntime_spec ranking request).2 hselected
    obtain ⟨identity, hidentity, c, hc, rfl⟩ := hfor.candidate
    obtain ⟨hmem, hfilter, -⟩ := mem_priceSurvivors.mp hc
    have hsub : request.attemptedAdapterIds ⊆ attemptedAfter (selectRuntime ranking request) := by
      intro adapterId hmem
      rw [mem_attemptedAfter, hfor.attempted]
      exact .inl hmem
    have htried : c.identity.adapterId ∈ attemptedAfter (selectRuntime ranking request) :=
      mem_attemptedAfter.mpr (.inr ⟨_, hidentity, rfl⟩)
    have hlater := boundedAfter_hops ranking outcomes hsub
    have hattempts := hlater.attempts
    have hallowed := hfor.allowed
    rw [hfor.attempts] at hattempts
    refine ⟨?_, ?_, ?_, ?_⟩
    · simp only [selectedAdapters, List.filterMap_cons, hidentity, Option.map_some,
        List.nodup_cons]
      exact ⟨fun hagain => hlater.untried _ hagain htried, hlater.nodup⟩
    · simp only [selections, List.countP_cons, hselected, if_true] at hattempts ⊢
      omega
    · have hfallbacks := hlater.fallbacks
      simp only [fallbackSelections, List.countP_cons, Option.any_none, Bool.and_false,
        Bool.false_eq_true, if_false] at hfallbacks ⊢
      omega
    · intro hop hmem'
      rcases List.mem_cons.mp hmem' with rfl | hmem'
      · intro identity hselects
        rw [hidentity] at hselects
        cases hselects
        exact ⟨c, hmem, rfl, hfilter⟩
      · exact hlater.passes hop hmem'
  · have hnobody := selectedIdentity_eq_none hselected
    have hend : hops ranking request (selectRuntime ranking request) outcomes = [] := by
      cases outcomes with
      | nil => rfl
      | cons => simp [hops, hselected]
    rw [hend]
    refine ⟨by simp [selectedAdapters, hnobody], by simp [selections, hselected],
      by simp [fallbackSelections], ?_⟩
    intro hop hmem identity hselects
    rw [List.mem_singleton.mp hmem, hnobody] at hselects
    cases hselects

/-- The chain ends where the content policy blocks. -/
theorem blocked_chain {ranking : Ranking} {request : RoutingRequest}
    {outcomes : List RuntimeOutcome} {before rest : List Hop} {hop : Hop}
    (h : chain ranking request outcomes = before ++ hop :: rest)
    (hblocked : hop.after = some .contentPolicyBlocked) :
    hop.decision.selected = false ∧ rest = [] := by
  have hmem : hop ∈ chain ranking request outcomes := by
    rw [h]
    exact List.mem_append_right _ List.mem_cons_self
  have hrefused : hop.decision.selected ≠ true := by
    rcases List.mem_cons.mp hmem with rfl | hlater
    · cases hblocked
    · obtain ⟨previous, outcome, rfl⟩ := exists_of_mem_hops hlater
      cases hblocked
      exact fun hselected => (advances_of_selected hselected).unblocked rfl
  exact ⟨by simpa using hrefused, eq_nil_of_not_selected h hrefused⟩

/-- **When fallback is bounded and keeps an escalation.**  The bounds, the filters and
the end at a block hold along every chain.  That no cheap runtime follows an
escalation holds of a chain exactly when none of its steps falls back to the cheap
class after one. -/
theorem fallbackSound_iff (ranking : Ranking) (request : RoutingRequest)
    (outcomes : List RuntimeOutcome) :
    FallbackSound request (chain ranking request outcomes) ↔
      EscalationKept ranking request request.escalationReason.isSome
        (selectRuntime ranking request) outcomes := by
  have hfirst : request.escalationReason.isSome = true →
      NotCheap (selectRuntime ranking request) := by
    intro hescalated identity hidentity
    have hselected : (selectRuntime ranking request).selected = true := by
      have houtcome := (selected_iff _).mp (by rw [hidentity]; rfl)
      simp [selected, houtcome]
    rw [((selectRuntime_spec ranking request).2 hselected).priceClass hidentity,
      desiredPriceClass_escalated hescalated]
    decide
  have hchain : CheapFree request.escalationReason.isSome (chain ranking request outcomes) ↔
      EscalationKept ranking request request.escalationReason.isSome
        (selectRuntime ranking request) outcomes := by
    rw [← cheapFree_hops_iff]
    have hnone : (none : Option RuntimeOutcome) ≠ some .escalationNeeded := by simp
    simp only [chain, CheapFree, hnone, beq_eq_false_iff_ne.mpr, Bool.or_false, ne_eq,
      not_false_eq_true]
    exact ⟨fun h => h.2, fun h => ⟨hfirst, h⟩⟩
  obtain ⟨hdistinct, hattempts, hfallbacks, hpasses⟩ := boundedAfter_chain ranking request outcomes
  rw [← hchain, cheapFree_iff]
  constructor
  · intro h
    exact h.escalated
  · intro h
    exact {
      distinct := hdistinct
      attempts := hattempts
      fallbacks := hfallbacks
      passes := hpasses
      blocked := fun _ _ _ heq hblocked => blocked_chain heq hblocked
      escalated := h }

/-- A runtime of the given name and price class that passes every filter. -/
def plainCandidate (adapterId : String) (priceClass : ModelPriceClass) : RuntimeCandidate where
  identity := ⟨.inferenceRuntime, adapterId.toList, adapterId.toList, priceClass⟩
  available := true
  authenticated := true
  structuredOutputCompatible := true
  allowedCapabilities := []
  sideEffectCapabilities := []
  locality := .remote
  operatorProhibited := false
  quality := none
  isStrix := false

/-- A generator's request over two cheap runtimes and an expensive one, in the
operator's order. -/
def twoCheapRequest : RoutingRequest where
  role := .generator
  candidates :=
    [plainCandidate "cheap-1" .cheap, plainCandidate "cheap-2" .cheap,
      plainCandidate "expensive-1" .expensive]
  budget := ⟨3, 1⟩
  requiredRuntimeClass := .inferenceRuntime
  structuredOutputRequired := true
  locality := .remoteAllowed
  allowAgentRuntime := false
  operatorProhibitedAdapterIds := []
  operatorPreferenceOrder := ["cheap-1", "cheap-2", "expensive-1"].map String.toList
  requireOperatorOnTie := true
  attemptedAdapterIds := []
  runtimeAttemptsUsed := 0
  fallbackAttemptsUsed := 0
  taskClass := some ⟨"generator".toList, by decide⟩
  escalationReason := none

/-- The first cheap runtime asks for an escalation, the expensive one times out, and
the second cheap one is selected. -/
theorem cheap_after_escalation :
    ¬ FallbackSound twoCheapRequest
      (chain .byInsertion twoCheapRequest [.escalationNeeded, .timedOut]) := by
  intro h
  have hchain : ∃ first second third, chain .byInsertion twoCheapRequest
      [.escalationNeeded, .timedOut] = [first, second, third] ∧
        second.after = some .escalationNeeded ∧
          third.decision.selectedIdentity = some (plainCandidate "cheap-2" .cheap).identity :=
    ⟨_, _, _, rfl, rfl, rfl⟩
  obtain ⟨first, second, third, heq, hasked, hcheap⟩ := hchain
  exact h.escalated [first, second] third [] heq
    (.inr ⟨second, by simp, hasked⟩) _ hcheap rfl

end Routing
end Zest
