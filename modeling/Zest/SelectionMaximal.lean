import Zest.Exploration

/-! # Opportunity selection as a whole

A cycle decides every opportunity once, keeps to every limit of its budget, and
leaves nothing out that would still have fitted in.  What an opportunity failed
on when its turn came, it fails on at the end: selections are only added.
-/
namespace Zest.Exploration

/-- What has been selected keeps to the limits of the budget. -/
structure WithinLimits (budget : ResearchPolicyBudget) (selected : List ResearchOpportunity) :
    Prop where
  capacity : selected.length ≤ budget.maxSelected
  exploratory : selected.countP (·.mode = .exploration) ≤ budget.maxExploratory
  chains : selected.countP (·.opportunityKind = .chainExtension) ≤ budget.maxChainExtensions
  identities : (selected.map (·.structuralIdentity)).Nodup
  diversity : (selected.map (·.diversityKey)).Nodup

/-- What the first loop lets pass, duplicates apart. -/
structure Selectable (researchRunId : Id) (budget : ResearchPolicyBudget)
    (negatives : List NegativeKnowledge) (previously : List StructuralIdentity)
    (o : ResearchOpportunity) : Prop where
  run : o.researchRunId = researchRunId
  fresh : o.structuralIdentity ∉ previously
  positive : sameContextNegative o negatives = false
  cost : costRank o.dimensions.executionCost ≤ budget.maxEstimatedCostRank
  sideEffects : o.dimensions.sideEffectRequirement ≠ 3

/-- The opportunities that were selected. -/
def selectedOf (decisions : List ResearchSelectionDecision) : List ResearchOpportunity :=
  (decisions.filter (·.selected)).map (·.opportunity)

theorem selectedOf_append (decisions decisions' : List ResearchSelectionDecision) :
    selectedOf (decisions ++ decisions') = selectedOf decisions ++ selectedOf decisions' := by
  rw [selectedOf, List.filter_append, List.map_append]
  rfl

/-! ## The first loop -/

/-- Where the first loop has come to. -/
structure Sifted (researchRunId : Id) (budget : ResearchPolicyBudget)
    (negatives : List NegativeKnowledge) (previously : List StructuralIdentity)
    (seen : List ResearchOpportunity) (cycle : Cycle) : Prop where
  accounted : (cycle.decisions.map (·.opportunity) ++ cycle.pending).Perm seen
  pending : ∀ o ∈ cycle.pending, Selectable researchRunId budget negatives previously o
  decided : ∀ d ∈ cycle.decisions, d.outcome ≠ .select ∧ d.outcome ≠ .defer
  remembered : ∀ identity ∈ previously, identity ∈ cycle.seenIdentities
  selected : cycle.selected = []
  diversity : cycle.selectedDiversity = []
  exploratory : cycle.exploratoryCount = 0
  chains : cycle.chainCount = 0

section FirstLoop

variable {researchRunId : Id} {budget : ResearchPolicyBudget}
  {negatives : List NegativeKnowledge} {previously : List StructuralIdentity}
  {seen : List ResearchOpportunity} {cycle : Cycle} {o : ResearchOpportunity}

theorem sifted_start :
    Sifted researchRunId budget negatives previously [] (.start previously) where
  accounted := .refl _
  pending _ h := by cases h
  decided _ h := by cases h
  remembered _ h := h
  selected := rfl
  diversity := rfl
  exploratory := rfl
  chains := rfl

theorem Sifted.block (h : Sifted researchRunId budget negatives previously seen cycle)
    {outcome : SelectionOutcome} {code : String} (hselect : outcome ≠ .select)
    (hdefer : outcome ≠ .defer) :
    Sifted researchRunId budget negatives previously (seen ++ [o])
      (cycle.block o outcome code) where
  accounted := by
    have hmoved : ((cycle.block o outcome code).decisions.map (·.opportunity) ++
        cycle.pending).Perm
        (cycle.decisions.map (·.opportunity) ++ cycle.pending ++ [o]) := by
      rw [Cycle.block, List.map_append, List.append_assoc, List.append_assoc]
      exact List.perm_append_comm.append_left _
    exact hmoved.trans (h.accounted.append_right _)
  pending := h.pending
  decided d hd := by
    rcases List.mem_append.mp hd with hd | hd
    · exact h.decided d hd
    · rw [List.mem_singleton.mp hd]
      exact ⟨hselect, hdefer⟩
  remembered := h.remembered
  selected := h.selected
  diversity := h.diversity
  exploratory := h.exploratory
  chains := h.chains

theorem Sifted.screen (h : Sifted researchRunId budget negatives previously seen cycle) :
    Sifted researchRunId budget negatives previously (seen ++ [o])
      (screen researchRunId budget negatives cycle o) := by
  rw [Exploration.screen]
  by_cases hrun : o.researchRunId ≠ researchRunId
  · rw [if_pos hrun]
    exact h.block (by decide) (by decide)
  rw [if_neg hrun]
  by_cases hseen : o.structuralIdentity ∈ cycle.seenIdentities
  · rw [if_pos hseen]
    exact h.block (by decide) (by decide)
  rw [if_neg hseen]
  by_cases hdiversity : o.diversityKey ∈ cycle.selectedDiversity
  · rw [h.diversity] at hdiversity
    cases hdiversity
  rw [if_neg hdiversity]
  by_cases hnegative : sameContextNegative o negatives = true
  · rw [if_pos hnegative]
    exact h.block (by decide) (by decide)
  rw [if_neg hnegative]
  by_cases hcost : budget.maxEstimatedCostRank = 0 ∨
      budget.maxEstimatedCostRank < costRank o.dimensions.executionCost
  · rw [if_pos hcost]
    exact h.block (by decide) (by decide)
  rw [if_neg hcost]
  by_cases hside : o.dimensions.sideEffectRequirement = 3
  · rw [if_pos hside]
    exact h.block (by decide) (by decide)
  rw [if_neg hside]
  refine ⟨?_, ?_, h.decided, ?_, h.selected, h.diversity, h.exploratory, h.chains⟩
  · rw [← List.append_assoc]
    exact h.accounted.append_right _
  · intro other hother
    rcases List.mem_append.mp hother with hother | hother
    · exact h.pending other hother
    · rw [List.mem_singleton.mp hother]
      exact {
        run := not_not.mp hrun
        fresh := fun hold => hseen (h.remembered _ hold)
        positive := Bool.eq_false_iff.mpr hnegative
        cost := by omega
        sideEffects := hside }
  · exact fun identity hold => List.mem_cons_of_mem _ (h.remembered identity hold)

/-- **The first loop**, over any list. -/
theorem sifted_screened (opportunities : List ResearchOpportunity) :
    Sifted researchRunId budget negatives previously opportunities
      (screened researchRunId budget negatives previously opportunities) := by
  have hrun : ∀ (rest seen : List ResearchOpportunity) (cycle : Cycle),
      Sifted researchRunId budget negatives previously seen cycle →
        Sifted researchRunId budget negatives previously (seen ++ rest)
          (rest.foldl (Exploration.screen researchRunId budget negatives) cycle) := by
    intro rest
    induction rest with
    | nil =>
      intro seen cycle h
      rw [List.append_nil]
      exact h
    | cons o rest ih =>
      intro seen cycle h
      have hnext := ih (seen ++ [o]) _ h.screen
      rw [List.append_assoc] at hnext
      exact hnext
  exact hrun opportunities [] _ sifted_start

end FirstLoop

/-! ## The loops over what is left -/

/-- There is no room for the opportunity among the selected ones. -/
def Full (budget : ResearchPolicyBudget) (selected : List ResearchOpportunity)
    (o : ResearchOpportunity) : Prop :=
  budget.maxSelected ≤ selected.length ∨
  o.mode = .exploration ∧ budget.maxExploratory ≤ selected.countP (·.mode = .exploration) ∨
  o.opportunityKind = .chainExtension ∧
    budget.maxChainExtensions ≤ selected.countP (·.opportunityKind = .chainExtension) ∨
  o.diversityKey ∈ selected.map (·.diversityKey)

/-- What holds of the variables between two turns. -/
structure Turn (budget : ResearchPolicyBudget) (cycle : Cycle) : Prop where
  selected : cycle.selected = selectedOf cycle.decisions
  diversity : ∀ key, key ∈ cycle.selectedDiversity ↔ key ∈ cycle.selected.map (·.diversityKey)
  exploratory : cycle.exploratoryCount = cycle.selected.countP (·.mode = .exploration)
  chains : cycle.chainCount = cycle.selected.countP (·.opportunityKind = .chainExtension)
  capacity : cycle.selected.length ≤ budget.maxSelected
  exploratoryLimit : cycle.exploratoryCount ≤ budget.maxExploratory
  chainLimit : cycle.chainCount ≤ budget.maxChainExtensions
  diverse : (cycle.selected.map (·.diversityKey)).Nodup
  deferred : ∀ d ∈ cycle.decisions, d.outcome = .defer →
    Full budget cycle.selected d.opportunity

/-- The body of a loop: the opportunity is selected where that can be done, and
decided otherwise where it cannot. -/
def Tries (budget : ResearchPolicyBudget) (f : Cycle → ResearchOpportunity → Cycle) : Prop :=
  ∀ cycle o, trySelect budget cycle o = some (f cycle o) ∨
    trySelect budget cycle o = none ∧
      ∃ outcome code, outcome ≠ .select ∧ f cycle o = cycle.block o outcome code

section Turns

variable {budget : ResearchPolicyBudget} {cycle next : Cycle} {o : ResearchOpportunity}
  {selected : List ResearchOpportunity}

/-- An opportunity that does not fit in does not do so later. -/
theorem Full.append (h : Full budget selected o) (more : List ResearchOpportunity) :
    Full budget (selected ++ more) o := by
  rcases h with h | ⟨hmode, h⟩ | ⟨hkind, h⟩ | h
  · exact .inl (by rw [List.length_append]; omega)
  · exact .inr (.inl ⟨hmode, by rw [List.countP_append]; omega⟩)
  · exact .inr (.inr (.inl ⟨hkind, by rw [List.countP_append]; omega⟩))
  · exact .inr (.inr (.inr (by rw [List.map_append]; exact List.mem_append_left _ h)))

/-- With one more opportunity than fits in, a limit is broken. -/
theorem Full.not_withinLimits (h : Full budget selected o) :
    ¬ WithinLimits budget (selected ++ [o]) := by
  intro hwithin
  rcases h with h | ⟨hmode, h⟩ | ⟨hkind, h⟩ | h
  · have hcapacity := hwithin.capacity
    rw [List.length_append, List.length_singleton] at hcapacity
    omega
  · have hlimit := hwithin.exploratory
    rw [List.countP_append, List.countP_singleton, if_pos (by simp [hmode])] at hlimit
    omega
  · have hlimit := hwithin.chains
    rw [List.countP_append, List.countP_singleton, if_pos (by simp [hkind])] at hlimit
    omega
  · have hdiverse := hwithin.diversity
    rw [List.map_append, List.nodup_append] at hdiverse
    exact hdiverse.2.2 _ h _ List.mem_cons_self rfl

theorem tries_notSelected (cycle : Cycle) (o : ResearchOpportunity) :
    ∃ outcome code, outcome ≠ .select ∧
      notSelected budget cycle o = cycle.block o outcome code := by
  rw [notSelected]
  split
  · exact ⟨_, _, by decide, rfl⟩
  split
  · exact ⟨_, _, by decide, rfl⟩
  · exact ⟨_, _, by decide, rfl⟩

theorem tries_explore (budget : ResearchPolicyBudget) : Tries budget (explore budget) := by
  intro cycle o
  rw [explore]
  rcases htry : trySelect budget cycle o with _ | next
  · refine .inr ⟨rfl, ?_⟩
    dsimp only
    split
    · exact ⟨_, _, by decide, rfl⟩
    split
    · exact ⟨_, _, by decide, rfl⟩
    · exact tries_notSelected cycle o
  · exact .inl rfl

theorem tries_exploit (budget : ResearchPolicyBudget) : Tries budget (exploit budget) := by
  intro cycle o
  rw [exploit]
  rcases htry : trySelect budget cycle o with _ | next
  · exact .inr ⟨rfl, tries_notSelected cycle o⟩
  · exact .inl rfl

/-- A turn is refused when there is no room. -/
theorem Turn.full (h : Turn budget cycle) (hnone : trySelect budget cycle o = none) :
    Full budget cycle.selected o := by
  rw [trySelect] at hnone
  rw [Full, ← h.exploratory, ← h.chains, ← h.diversity]
  by_cases hcapacity : budget.maxSelected ≤ cycle.selected.length
  · exact .inl hcapacity
  rw [if_neg hcapacity] at hnone
  by_cases hmode : o.mode = .exploration ∧ budget.maxExploratory ≤ cycle.exploratoryCount
  · exact .inr (.inl hmode)
  rw [if_neg hmode] at hnone
  by_cases hchain : o.opportunityKind = .chainExtension ∧
      budget.maxChainExtensions ≤ cycle.chainCount
  · exact .inr (.inr (.inl hchain))
  rw [if_neg hchain] at hnone
  by_cases hdiversity : o.diversityKey ∈ cycle.selectedDiversity
  · exact .inr (.inr (.inr hdiversity))
  · rw [if_neg hdiversity] at hnone
    cases hnone

/-- A turn that is refused. -/
theorem Turn.block (h : Turn budget cycle) {outcome : SelectionOutcome} {code : String}
    (hselect : outcome ≠ .select) (hfull : Full budget cycle.selected o) :
    Turn budget (cycle.block o outcome code) where
  selected := by
    have hnothing : selectedOf [⟨outcome, [code], o⟩] = [] := by
      simp [selectedOf, ResearchSelectionDecision.selected, hselect]
    rw [Cycle.block, selectedOf_append, hnothing, List.append_nil]
    exact h.selected
  diversity := h.diversity
  exploratory := h.exploratory
  chains := h.chains
  capacity := h.capacity
  exploratoryLimit := h.exploratoryLimit
  chainLimit := h.chainLimit
  diverse := h.diverse
  deferred d hd hdefer := by
    rcases List.mem_append.mp hd with hd | hd
    · exact h.deferred d hd hdefer
    · rw [List.mem_singleton.mp hd]
      exact hfull

/-- A turn that is taken. -/
theorem Turn.select (h : Turn budget cycle) (hsome : trySelect budget cycle o = some next) :
    Turn budget next := by
  simp only [trySelect, Option.ite_none_left_eq_some] at hsome
  obtain ⟨hcapacity, hmode, hchain, hdiversity, hnext⟩ := hsome
  cases hnext
  have hexploratory := h.exploratory
  have hchains := h.chains
  have hexploratoryLimit := h.exploratoryLimit
  have hchainLimit := h.chainLimit
  refine {
    selected := ?_
    diversity := fun key => ?_
    exploratory := ?_
    chains := ?_
    capacity := ?_
    exploratoryLimit := ?_
    chainLimit := ?_
    diverse := ?_
    deferred := fun d hd hdefer => ?_ }
  · rw [selectedOf_append, ← h.selected]
    rfl
  · rw [List.mem_cons, h.diversity key, List.map_append, List.mem_append, or_comm,
      List.map_singleton, List.mem_singleton]
  · rw [List.countP_append, List.countP_singleton, hexploratory]
    simp only [decide_eq_true_eq]
  · rw [List.countP_append, List.countP_singleton, hchains]
    simp only [decide_eq_true_eq]
  · dsimp only
    rw [List.length_append, List.length_singleton]
    omega
  · dsimp only
    split
    · rename_i hexploration
      have hleft : ¬ budget.maxExploratory ≤ cycle.exploratoryCount :=
        fun hfull => hmode ⟨hexploration, hfull⟩
      omega
    · omega
  · dsimp only
    split
    · rename_i hextension
      have hleft : ¬ budget.maxChainExtensions ≤ cycle.chainCount :=
        fun hfull => hchain ⟨hextension, hfull⟩
      omega
    · omega
  · rw [List.map_append, List.nodup_append]
    refine ⟨h.diverse, List.nodup_singleton _, fun key hkey other hother heq => ?_⟩
    rw [List.map_singleton, List.mem_singleton] at hother
    exact hdiversity ((h.diversity _).mpr (hother ▸ heq ▸ hkey))
  · rcases List.mem_append.mp hd with hd | hd
    · exact (h.deferred d hd hdefer).append [o]
    · rw [List.mem_singleton.mp hd] at hdefer
      cases hdefer

/-- **A loop**, over any opportunities. -/
theorem Turn.foldl {f : Cycle → ResearchOpportunity → Cycle} (hf : Tries budget f)
    (h : Turn budget cycle) (opportunities : List ResearchOpportunity) :
    Turn budget (opportunities.foldl f cycle) := by
  induction opportunities generalizing cycle with
  | nil => exact h
  | cons o rest ih =>
    rw [List.foldl_cons]
    refine ih ?_
    rcases hf cycle o with hsome | ⟨hnone, outcome, code, hselect, heq⟩
    · exact h.select hsome
    · rw [heq]
      exact h.block hselect (h.full hnone)

end Turns

/-! ## The cycle -/

/-- What a cycle has made of its opportunities. -/
structure Maximal (researchRunId : Id) (budget : ResearchPolicyBudget)
    (negatives : List NegativeKnowledge) (previously : List StructuralIdentity)
    (opportunities : List ResearchOpportunity) (decisions : List ResearchSelectionDecision) :
    Prop where
  accounted : (decisions.map (·.opportunity)).Perm opportunities
  limits : WithinLimits budget (selectedOf decisions)
  selectable : ∀ o ∈ selectedOf decisions,
    Selectable researchRunId budget negatives previously o
  maximal : ∀ d ∈ decisions, d.outcome = .defer →
    ¬ WithinLimits budget (selectedOf decisions ++ [d.opportunity])

section Cycles

variable {researchRunId : Id} {budget : ResearchPolicyBudget}
  {negatives : List NegativeKnowledge} {previously : List StructuralIdentity}
  {opportunities : List ResearchOpportunity} {cycle : Cycle}

theorem selectedOf_eq_nil {decisions : List ResearchSelectionDecision}
    (h : ∀ d ∈ decisions, d.outcome ≠ .select) : selectedOf decisions = [] := by
  have hnone : decisions.filter (·.selected) = [] := by
    rw [List.filter_eq_nil_iff]
    intro d hd
    simp [ResearchSelectionDecision.selected, h d hd]
  rw [selectedOf, hnone, List.map_nil]

theorem withinLimits_nil : WithinLimits budget [] where
  capacity := Nat.zero_le _
  exploratory := Nat.zero_le _
  chains := Nat.zero_le _
  identities := List.nodup_nil
  diversity := List.nodup_nil

/-- Nothing is selected where nothing may be. -/
theorem maximal_zero :
    Maximal researchRunId budget negatives previously opportunities
      (opportunities.map fun o => ⟨.blockedBudget, ["MAX_SELECTED_ZERO"], o⟩) := by
  have hblocked : ∀ d ∈ opportunities.map fun o =>
      (⟨.blockedBudget, ["MAX_SELECTED_ZERO"], o⟩ : ResearchSelectionDecision),
      d.outcome = .blockedBudget := by
    intro d hd
    obtain ⟨o, -, rfl⟩ := List.mem_map.mp hd
    rfl
  have hnone := selectedOf_eq_nil fun d hd => (hblocked d hd).trans_ne (by decide)
  refine ⟨?_, ?_, ?_, fun d hd hdefer => ?_⟩
  · rw [List.map_map]
    exact .of_eq (List.map_id _)
  · rw [hnone]
    exact withinLimits_nil
  · rw [hnone]
    exact fun o ho => absurd ho List.not_mem_nil
  · rw [hblocked d hd] at hdefer
    cases hdefer

/-- The variables before the second loop. -/
theorem Sifted.turn
    (h : Sifted researchRunId budget negatives previously opportunities cycle) :
    Turn budget cycle where
  selected := by rw [h.selected, selectedOf_eq_nil fun d hd => (h.decided d hd).1]
  diversity key := by rw [h.diversity, h.selected, List.map_nil]
  exploratory := by rw [h.exploratory, h.selected, List.countP_nil]
  chains := by rw [h.chains, h.selected, List.countP_nil]
  capacity := by rw [h.selected]; exact Nat.zero_le _
  exploratoryLimit := by rw [h.exploratory]; exact Nat.zero_le _
  chainLimit := by rw [h.chains]; exact Nat.zero_le _
  diverse := by rw [h.selected]; exact List.nodup_nil
  deferred d hd hdefer := absurd hdefer (h.decided d hd).2

theorem filter_mode_perm (pending : List ResearchOpportunity) :
    (pending.filter (·.mode = .exploration) ++ pending.filter (·.mode = .exploitation)).Perm
      pending := by
  have hmode : pending.filter (·.mode = .exploitation) =
      pending.filter fun o => !decide (o.mode = .exploration) := by
    refine List.filter_congr fun o _ => ?_
    cases o.mode <;> rfl
  rw [hmode]
  exact List.filter_append_perm _ _

end Cycles

end Zest.Exploration
