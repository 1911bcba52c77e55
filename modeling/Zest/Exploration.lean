import Mathlib.Data.Char
import Mathlib.Data.List.Lex
import Mathlib.Data.List.Sort
import Zest.Orchestration
import Zest.Text

/-! # Which opportunities a cycle selects

A cycle is given the opportunities of a run, and decides each of them once.  A
first loop screens out what may not be selected at all; what is left is selected in
turn, exploration first, until a limit of the budget is met.

The structural identity of an opportunity is a digest of four of its fields, which
stands here for the fields themselves.
-/
namespace Zest.Exploration

inductive OpportunityKind where
  | hypothesisFollowup
  | differentialFollowup
  | invariantChallenge
  | chainExtension
  | negativeKnowledgeRevisit
  | unresolvedTargetRelation
  | controlExperiment
  | surfaceDiscovery
  | hunterCoverageGap
  | registryExternalExploratory
  | other
  deriving DecidableEq, Repr

inductive OpportunityMode where
  | exploitation
  | exploration
  deriving DecidableEq, Repr

inductive OrdinalLevel where
  | low
  | medium
  | high
  deriving DecidableEq, Repr

inductive SelectionOutcome where
  | select
  | defer
  | skipDuplicate
  | skipLowInformation
  | blockedBudget
  | blockedPolicy
  | needsMoreContext
  deriving DecidableEq, Repr

/-- `COST_RANK`. -/
def costRank : OrdinalLevel → Nat
  | .low => 1
  | .medium => 2
  | .high => 3

structure OpportunityDimensions where
  expectedInformationValue : OrdinalLevel
  securityRelevancePotential : OrdinalLevel
  noveltyComposition : OrdinalLevel
  unresolvedUncertainty : OrdinalLevel
  chainPotential : OrdinalLevel
  evidenceCoverage : OrdinalLevel
  executionCost : OrdinalLevel
  sideEffectRequirement : Fin 4
  duplicateRisk : OrdinalLevel
  previousFailedAttempts : Nat
  deriving DecidableEq, Repr

structure ResearchPolicyBudget where
  maxSelected : Nat
  maxExploratory : Nat
  maxChainExtensions : Nat
  maxEstimatedCostRank : Nat
  maxEstimatedCostRank_le : maxEstimatedCostRank ≤ 3
  deriving DecidableEq

/-- `ResearchPolicyBudget()`. -/
def ResearchPolicyBudget.default : ResearchPolicyBudget where
  maxSelected := 4
  maxExploratory := 1
  maxChainExtensions := 1
  maxEstimatedCostRank := 1
  maxEstimatedCostRank_le := by decide

/-- `opportunity_structural_identity`. -/
structure StructuralIdentity where
  kind : OpportunityKind
  sourceRefs : List Text
  contextSignature : Text
  proposedDirection : Text
  deriving DecidableEq

/-- The identifier of a candidate: a fresh one, or the digest of its identity. -/
inductive CandidateId where
  | fresh (id : Id)
  | digest (identity : StructuralIdentity)
  deriving DecidableEq

/-- The identifier of an opportunity: that of the candidate it comes from, a fresh one
of the same form, or that of a diagnostic proposal, which is made of a fresh prefix,
the source and a number. -/
inductive OpportunityId where
  | candidate (id : CandidateId)
  | diagnostic (cycle : Id) (source : String) (index : Nat)
  deriving DecidableEq

/-- A direction that an assessment has contradicted. -/
structure NegativeKnowledge where
  structuralIdentity : StructuralIdentity
  contextSignature : Text
  strategyVersion : Text
  assessmentRef : Text
  deriving DecidableEq

structure ResearchOpportunity where
  opportunityId : OpportunityId
  researchRunId : Id
  opportunityKind : OpportunityKind
  mode : OpportunityMode
  sourceRefs : List Text
  proposedDirection : Text
  unresolvedQuestion : Text
  expectedInformationValueDescription : Text
  assumptions : List Text
  dimensions : OpportunityDimensions
  contextSignature : Text
  noveltyCompositionMarker : Bool
  priorAttemptRefs : List Text
  strategyVersion : Text
  structuralIdentity : StructuralIdentity
  deriving DecidableEq

/-- `diversity_key`. -/
def ResearchOpportunity.diversityKey (o : ResearchOpportunity) :
    OpportunityKind × List Text × Text :=
  (o.opportunityKind, o.sourceRefs.insertionSort (· ≤ ·), o.contextSignature)

structure ResearchSelectionDecision where
  outcome : SelectionOutcome
  reasonCodes : List String
  opportunity : ResearchOpportunity
  deriving DecidableEq

def ResearchSelectionDecision.selected (d : ResearchSelectionDecision) : Bool :=
  d.outcome == .select

/-- `_same_context_negative`. -/
def sameContextNegative (o : ResearchOpportunity) (negatives : List NegativeKnowledge) : Bool :=
  negatives.any fun item =>
    item.structuralIdentity == o.structuralIdentity &&
      item.contextSignature == o.contextSignature && item.strategyVersion == o.strategyVersion

/-! ## One cycle -/

/-- The variables of `select_research_opportunities`. -/
structure Cycle where
  seenIdentities : List StructuralIdentity
  decisions : List ResearchSelectionDecision
  pending : List ResearchOpportunity
  selected : List ResearchOpportunity
  selectedDiversity : List (OpportunityKind × List Text × Text)
  exploratoryCount : Nat
  chainCount : Nat

/-- The variables before the first loop. -/
def Cycle.start (previouslySelectedIdentities : List StructuralIdentity) : Cycle where
  seenIdentities := previouslySelectedIdentities
  decisions := []
  pending := []
  selected := []
  selectedDiversity := []
  exploratoryCount := 0
  chainCount := 0

/-- `_block`. -/
def Cycle.block (cycle : Cycle) (o : ResearchOpportunity) (outcome : SelectionOutcome)
    (code : String) : Cycle :=
  { cycle with decisions := cycle.decisions ++ [⟨outcome, [code], o⟩] }

/-- The body of the first loop. -/
def screen (researchRunId : Id) (budget : ResearchPolicyBudget)
    (negatives : List NegativeKnowledge) (cycle : Cycle) (o : ResearchOpportunity) : Cycle :=
  if o.researchRunId ≠ researchRunId then cycle.block o .blockedPolicy "CROSS_RUN_SOURCE"
  else if o.structuralIdentity ∈ cycle.seenIdentities then
    cycle.block o .skipDuplicate "EXACT_STRUCTURAL_DUPLICATE"
  else if o.diversityKey ∈ cycle.selectedDiversity then
    cycle.block o .skipDuplicate "EQUIVALENT_SOURCE_CONTEXT"
  else if sameContextNegative o negatives then
    cycle.block o .skipLowInformation "NEGATIVE_KNOWLEDGE_SAME_CONTEXT"
  else if budget.maxEstimatedCostRank = 0 ∨
      budget.maxEstimatedCostRank < costRank o.dimensions.executionCost then
    cycle.block o .blockedBudget "COST_CLASS_NOT_ALLOWED"
  else if o.dimensions.sideEffectRequirement = 3 then
    cycle.block o .blockedPolicy "LEVEL_3_NOT_SELECTABLE"
  else
    { cycle with
      pending := cycle.pending ++ [o]
      seenIdentities := o.structuralIdentity :: cycle.seenIdentities }

/-- `_try_select`. -/
def trySelect (budget : ResearchPolicyBudget) (cycle : Cycle) (o : ResearchOpportunity) :
    Option Cycle :=
  if budget.maxSelected ≤ cycle.selected.length then none
  else if o.mode = .exploration ∧ budget.maxExploratory ≤ cycle.exploratoryCount then none
  else if o.opportunityKind = .chainExtension ∧ budget.maxChainExtensions ≤ cycle.chainCount then
    none
  else if o.diversityKey ∈ cycle.selectedDiversity then none
  else some
    { cycle with
      selected := cycle.selected ++ [o]
      selectedDiversity := o.diversityKey :: cycle.selectedDiversity
      exploratoryCount := cycle.exploratoryCount + if o.mode = .exploration then 1 else 0
      chainCount := cycle.chainCount + if o.opportunityKind = .chainExtension then 1 else 0
      decisions := cycle.decisions ++
        [⟨.select, ["SELECTED_FOR_PLANNING", "NOT_AUTHORIZATION"], o⟩] }

/-- The end of both loops: there is no capacity, no chain extension left, or the
opportunity is like one that was selected. -/
def notSelected (budget : ResearchPolicyBudget) (cycle : Cycle) (o : ResearchOpportunity) : Cycle :=
  if budget.maxSelected ≤ cycle.selected.length then
    cycle.block o .defer "SELECTION_CAPACITY_EXHAUSTED"
  else if o.opportunityKind = .chainExtension ∧ budget.maxChainExtensions ≤ cycle.chainCount then
    cycle.block o .blockedBudget "CHAIN_EXTENSION_LIMIT"
  else cycle.block o .defer "NOT_SELECTED"

/-- The body of the loop over the exploratory. -/
def explore (budget : ResearchPolicyBudget) (cycle : Cycle) (o : ResearchOpportunity) : Cycle :=
  match trySelect budget cycle o with
  | some next => next
  | none =>
    if budget.maxExploratory = 0 then cycle.block o .blockedBudget "EXPLORATION_SLOT_ZERO"
    else if budget.maxExploratory ≤ cycle.exploratoryCount then
      cycle.block o .defer "EXPLORATION_SLOT_EXHAUSTED"
    else notSelected budget cycle o

/-- The body of the loop over the others. -/
def exploit (budget : ResearchPolicyBudget) (cycle : Cycle) (o : ResearchOpportunity) : Cycle :=
  match trySelect budget cycle o with
  | some next => next
  | none => notSelected budget cycle o

/-- The cycle after the first loop. -/
def screened (researchRunId : Id) (budget : ResearchPolicyBudget)
    (negatives : List NegativeKnowledge) (previously : List StructuralIdentity)
    (opportunities : List ResearchOpportunity) : Cycle :=
  opportunities.foldl (screen researchRunId budget negatives) (.start previously)

/-- `select_research_opportunities`. -/
def selectResearchOpportunities (researchRunId : Id) (budget : ResearchPolicyBudget)
    (negatives : List NegativeKnowledge) (previously : List StructuralIdentity)
    (opportunities : List ResearchOpportunity) : List ResearchSelectionDecision :=
  if budget.maxSelected = 0 then
    opportunities.map fun o => ⟨.blockedBudget, ["MAX_SELECTED_ZERO"], o⟩
  else
    let cycle := screened researchRunId budget negatives previously opportunities
    let exploratory := cycle.pending.filter (·.mode = .exploration)
    let exploitative := cycle.pending.filter (·.mode = .exploitation)
    (exploitative.foldl (exploit budget) (exploratory.foldl (explore budget) cycle)).decisions

/-! ## What the loops decide -/

/-- What the first loop has made of the opportunities it has seen. -/
structure Screened (researchRunId : Id) (previously : List StructuralIdentity)
    (seen : List ResearchOpportunity) (cycle : Cycle) : Prop where
  diversity : cycle.selectedDiversity = []
  identities : cycle.seenIdentities.Perm
    (cycle.pending.map (·.structuralIdentity) ++ previously)
  pending : ∀ o ∈ cycle.pending, o ∈ seen ∧ o.structuralIdentity ∉ previously ∧
    o.dimensions.sideEffectRequirement ≠ 3 ∧ o.researchRunId = researchRunId
  nodup : (cycle.pending.map (·.structuralIdentity)).Nodup
  decided : ∀ d ∈ cycle.decisions, d.opportunity ∈ seen ∧ d.outcome ≠ .select
  /-- An opportunity skipped as a duplicate was selected before this cycle, or comes
  after another one of its identity. -/
  duplicates : ∀ d ∈ cycle.decisions, d.outcome = .skipDuplicate →
    d.opportunity.structuralIdentity ∈ previously ∨
      2 ≤ (seen.map (·.structuralIdentity)).count d.opportunity.structuralIdentity
  blocked : ∀ d ∈ cycle.decisions, d.outcome = .blockedPolicy →
    d.opportunity.researchRunId ≠ researchRunId ∨
      d.opportunity.dimensions.sideEffectRequirement = 3

section Screened

variable {researchRunId : Id} {previously : List StructuralIdentity}
  {seen : List ResearchOpportunity} {cycle : Cycle} {o : ResearchOpportunity}

theorem screened_start : Screened researchRunId previously [] (.start previously) where
  diversity := rfl
  identities := .refl _
  pending _ h := nomatch h
  nodup := List.nodup_nil
  decided _ h := nomatch h
  duplicates _ h := nomatch h
  blocked _ h := nomatch h

/-- An opportunity is screened out. -/
theorem Screened.block (h : Screened researchRunId previously seen cycle)
    {outcome : SelectionOutcome} {code : String} (hselect : outcome ≠ .select)
    (hduplicate : outcome = .skipDuplicate → o.structuralIdentity ∈ cycle.seenIdentities)
    (hblocked : outcome = .blockedPolicy → o.researchRunId ≠ researchRunId ∨
      o.dimensions.sideEffectRequirement = 3) :
    Screened researchRunId previously (seen ++ [o]) (cycle.block o outcome code) where
  diversity := h.diversity
  identities := h.identities
  pending p hp := by
    obtain ⟨hmem, hrest⟩ := h.pending p hp
    exact ⟨List.mem_append_left _ hmem, hrest⟩
  nodup := h.nodup
  decided d hd := by
    rcases List.mem_append.mp hd with hd | hd
    · obtain ⟨hmem, hne⟩ := h.decided d hd
      exact ⟨List.mem_append_left _ hmem, hne⟩
    · rw [List.mem_singleton.mp hd]
      exact ⟨List.mem_append_right _ List.mem_cons_self, hselect⟩
  duplicates d hd hskip := by
    rw [List.map_append, List.count_append]
    rcases List.mem_append.mp hd with hd | hd
    · rcases h.duplicates d hd hskip with hold | htwice
      · exact .inl hold
      · exact .inr (by omega)
    · obtain rfl := List.mem_singleton.mp hd
      have hmem := h.identities.subset (hduplicate hskip)
      rcases List.mem_append.mp hmem with hpending | hold
      · obtain ⟨p, hp, heq⟩ := List.mem_map.mp hpending
        have hseen : o.structuralIdentity ∈ seen.map (·.structuralIdentity) :=
          List.mem_map.mpr ⟨p, (h.pending p hp).1, heq⟩
        have hbefore := List.count_pos_iff.mpr hseen
        have hlast : ([o].map (·.structuralIdentity)).count o.structuralIdentity = 1 := by simp
        exact .inr (by dsimp only; omega)
      · exact .inl hold
  blocked d hd hpolicy := by
    rcases List.mem_append.mp hd with hd | hd
    · exact h.blocked d hd hpolicy
    · obtain rfl := List.mem_singleton.mp hd
      exact hblocked hpolicy

/-- An opportunity is kept. -/
theorem Screened.keep (h : Screened researchRunId previously seen cycle)
    (hrun : o.researchRunId = researchRunId) (hnew : o.structuralIdentity ∉ cycle.seenIdentities)
    (hside : o.dimensions.sideEffectRequirement ≠ 3) :
    Screened researchRunId previously (seen ++ [o])
      { cycle with
        pending := cycle.pending ++ [o]
        seenIdentities := o.structuralIdentity :: cycle.seenIdentities } where
  diversity := h.diversity
  identities := by
    rw [List.map_append]
    have hcons := h.identities.cons o.structuralIdentity
    exact hcons.trans (List.perm_middle.symm.trans (by simp))
  pending p hp := by
    rcases List.mem_append.mp hp with hp | hp
    · obtain ⟨hmem, hrest⟩ := h.pending p hp
      exact ⟨List.mem_append_left _ hmem, hrest⟩
    · obtain rfl := List.mem_singleton.mp hp
      have hold : p.structuralIdentity ∉ previously := fun hmem =>
        hnew (h.identities.symm.subset (List.mem_append_right _ hmem))
      exact ⟨List.mem_append_right _ List.mem_cons_self, hold, hside, hrun⟩
  nodup := by
    rw [List.map_append, List.nodup_append]
    refine ⟨h.nodup, by simp, ?_⟩
    intro identity hmem other hother heq
    obtain rfl : o.structuralIdentity = other := by simpa [eq_comm] using hother
    exact hnew (h.identities.symm.subset (List.mem_append_left _ (heq ▸ hmem)))
  decided d hd := by
    obtain ⟨hmem, hne⟩ := h.decided d hd
    exact ⟨List.mem_append_left _ hmem, hne⟩
  duplicates d hd hskip := by
    rw [List.map_append, List.count_append]
    rcases h.duplicates d hd hskip with hold | htwice
    · exact .inl hold
    · exact .inr (by omega)
  blocked d hd hpolicy := h.blocked d hd hpolicy

theorem Screened.screen (h : Screened researchRunId previously seen cycle)
    (budget : ResearchPolicyBudget) (negatives : List NegativeKnowledge) :
    Screened researchRunId previously (seen ++ [o])
      (screen researchRunId budget negatives cycle o) := by
  unfold Exploration.screen
  by_cases hrun : o.researchRunId ≠ researchRunId
  · rw [if_pos hrun]
    exact h.block (by decide) nofun fun _ => .inl hrun
  rw [if_neg hrun]
  by_cases hseen : o.structuralIdentity ∈ cycle.seenIdentities
  · rw [if_pos hseen]
    exact h.block (by decide) (fun _ => hseen) nofun
  rw [if_neg hseen]
  by_cases hdiversity : o.diversityKey ∈ cycle.selectedDiversity
  · rw [h.diversity] at hdiversity
    cases hdiversity
  rw [if_neg hdiversity]
  by_cases hnegative : sameContextNegative o negatives = true
  · rw [if_pos hnegative]
    exact h.block (by decide) nofun nofun
  rw [if_neg hnegative]
  by_cases hcost : budget.maxEstimatedCostRank = 0 ∨
      budget.maxEstimatedCostRank < costRank o.dimensions.executionCost
  · rw [if_pos hcost]
    exact h.block (by decide) nofun nofun
  rw [if_neg hcost]
  by_cases hside : o.dimensions.sideEffectRequirement = 3
  · rw [if_pos hside]
    exact h.block (by decide) nofun fun _ => .inr hside
  rw [if_neg hside]
  exact h.keep (not_not.mp hrun) hseen hside

/-- **The first loop.** -/
theorem screened_spec (researchRunId : Id) (budget : ResearchPolicyBudget)
    (negatives : List NegativeKnowledge) (previously : List StructuralIdentity)
    (opportunities : List ResearchOpportunity) :
    Screened researchRunId previously opportunities
      (screened researchRunId budget negatives previously opportunities) := by
  have hrun : ∀ (rest seen : List ResearchOpportunity) (cycle : Cycle),
      Screened researchRunId previously seen cycle →
        Screened researchRunId previously (seen ++ rest)
          (rest.foldl (Exploration.screen researchRunId budget negatives) cycle) := by
    intro rest
    induction rest with
    | nil =>
      intro seen cycle h
      simpa using h
    | cons o rest ih =>
      intro seen cycle h
      have hnext := ih (seen ++ [o]) _ (h.screen budget negatives)
      simpa using hnext
  exact hrun opportunities [] _ screened_start

end Screened

/-- The outcomes of the second and the third loop. -/
def SelectionOutcome.inTurn (outcome : SelectionOutcome) : Prop :=
  outcome = .select ∨ outcome = .defer ∨ outcome = .blockedBudget

/-- The step decides the opportunity, and keeps the decisions before. -/
def Decides (f : Cycle → ResearchOpportunity → Cycle) : Prop :=
  ∀ cycle o, ∃ outcome codes,
    (f cycle o).decisions = cycle.decisions ++ [⟨outcome, codes, o⟩] ∧ outcome.inTurn

theorem decisions_trySelect {budget : ResearchPolicyBudget} {cycle next : Cycle}
    {o : ResearchOpportunity} (h : trySelect budget cycle o = some next) :
    next.decisions =
      cycle.decisions ++ [⟨.select, ["SELECTED_FOR_PLANNING", "NOT_AUTHORIZATION"], o⟩] := by
  simp only [trySelect, Option.ite_none_left_eq_some] at h
  obtain ⟨-, -, -, -, h⟩ := h
  cases h
  rfl

theorem decides_notSelected (budget : ResearchPolicyBudget) : Decides (notSelected budget) := by
  intro cycle o
  unfold notSelected
  split
  · exact ⟨_, _, rfl, .inr (.inl rfl)⟩
  split
  · exact ⟨_, _, rfl, .inr (.inr rfl)⟩
  · exact ⟨_, _, rfl, .inr (.inl rfl)⟩

theorem decides_explore (budget : ResearchPolicyBudget) : Decides (explore budget) := by
  intro cycle o
  unfold explore
  cases htry : trySelect budget cycle o with
  | some next => exact ⟨_, _, decisions_trySelect htry, .inl rfl⟩
  | none =>
    dsimp only
    split
    · exact ⟨_, _, rfl, .inr (.inr rfl)⟩
    split
    · exact ⟨_, _, rfl, .inr (.inl rfl)⟩
    · exact decides_notSelected budget cycle o

theorem decides_exploit (budget : ResearchPolicyBudget) : Decides (exploit budget) := by
  intro cycle o
  unfold exploit
  cases htry : trySelect budget cycle o with
  | some next => exact ⟨_, _, decisions_trySelect htry, .inl rfl⟩
  | none => exact decides_notSelected budget cycle o

/-- A loop decides each of its opportunities, in their order. -/
theorem Decides.foldl {f : Cycle → ResearchOpportunity → Cycle} (h : Decides f)
    (opportunities : List ResearchOpportunity) (cycle : Cycle) :
    ∃ decisions, (opportunities.foldl f cycle).decisions = cycle.decisions ++ decisions ∧
      decisions.map (·.opportunity) = opportunities ∧ ∀ d ∈ decisions, d.outcome.inTurn := by
  induction opportunities generalizing cycle with
  | nil => exact ⟨[], by simp, rfl, by simp⟩
  | cons o rest ih =>
    obtain ⟨outcome, codes, hfirst, hturn⟩ := h cycle o
    obtain ⟨decisions, hrest, hmap, hturns⟩ := ih (f cycle o)
    refine ⟨⟨outcome, codes, o⟩ :: decisions, ?_, by simp [hmap], ?_⟩
    · rw [List.foldl_cons, hrest, hfirst, List.append_assoc]
      rfl
    · intro d hd
      rcases List.mem_cons.mp hd with rfl | hd
      · exact hturn
      · exact hturns d hd

/-- **What a cycle decides.** -/
structure Selection (researchRunId : Id) (previously : List StructuralIdentity)
    (opportunities : List ResearchOpportunity) (decisions : List ResearchSelectionDecision) :
    Prop where
  mem : ∀ d ∈ decisions, d.opportunity ∈ opportunities
  /-- What is selected is new, of the run, and may be dispatched without an approval. -/
  selected : ∀ d ∈ decisions, d.selected = true →
    d.opportunity.structuralIdentity ∉ previously ∧ d.opportunity.researchRunId = researchRunId ∧
      d.opportunity.dimensions.sideEffectRequirement ≠ 3
  nodup : ((decisions.filter (·.selected)).map (·.opportunity.structuralIdentity)).Nodup
  duplicates : ∀ d ∈ decisions, d.outcome = .skipDuplicate →
    d.opportunity.structuralIdentity ∈ previously ∨
      2 ≤ (opportunities.map (·.structuralIdentity)).count d.opportunity.structuralIdentity
  blocked : ∀ d ∈ decisions, d.outcome = .blockedPolicy →
    d.opportunity.researchRunId ≠ researchRunId ∨
      d.opportunity.dimensions.sideEffectRequirement = 3

theorem selectResearchOpportunities_spec (researchRunId : Id) (budget : ResearchPolicyBudget)
    (negatives : List NegativeKnowledge) (previously : List StructuralIdentity)
    (opportunities : List ResearchOpportunity) :
    Selection researchRunId previously opportunities
      (selectResearchOpportunities researchRunId budget negatives previously opportunities) := by
  unfold selectResearchOpportunities
  by_cases hzero : budget.maxSelected = 0
  · rw [if_pos hzero]
    have hblocked : ∀ d ∈ opportunities.map fun o =>
        (⟨.blockedBudget, ["MAX_SELECTED_ZERO"], o⟩ : ResearchSelectionDecision),
        d.opportunity ∈ opportunities ∧ d.outcome = .blockedBudget := by
      intro d hd
      obtain ⟨o, ho, rfl⟩ := List.mem_map.mp hd
      exact ⟨ho, rfl⟩
    have hnone : (opportunities.map fun o => (⟨.blockedBudget, ["MAX_SELECTED_ZERO"], o⟩ :
        ResearchSelectionDecision)).filter (·.selected) = [] := by
      rw [List.filter_eq_nil_iff]
      intro d hd
      simp [ResearchSelectionDecision.selected, (hblocked d hd).2]
    exact {
      mem := fun d hd => (hblocked d hd).1
      selected := by
        intro d hd hselected
        simp [ResearchSelectionDecision.selected, (hblocked d hd).2] at hselected
      nodup := by
        rw [hnone]
        exact List.nodup_nil
      duplicates := by
        intro d hd hskip
        rw [(hblocked d hd).2] at hskip
        cases hskip
      blocked := by
        intro d hd hpolicy
        rw [(hblocked d hd).2] at hpolicy
        cases hpolicy }
  rw [if_neg hzero]
  have hscreened := screened_spec researchRunId budget negatives previously opportunities
  generalize screened researchRunId budget negatives previously opportunities = cycle at hscreened ⊢
  dsimp only
  obtain ⟨explored, hexplored, hexploredMap, hexploredTurn⟩ :=
    (decides_explore budget).foldl (cycle.pending.filter (·.mode = .exploration)) cycle
  obtain ⟨exploited, hexploited, hexploitedMap, hexploitedTurn⟩ :=
    (decides_exploit budget).foldl (cycle.pending.filter (·.mode = .exploitation))
      ((cycle.pending.filter (·.mode = .exploration)).foldl (explore budget) cycle)
  rw [hexploited, hexplored, List.append_assoc]
  -- the two loops together decide what the first has kept
  have hturn : ∀ d ∈ explored ++ exploited, d.outcome.inTurn := by
    intro d hd
    rcases List.mem_append.mp hd with hd | hd
    · exact hexploredTurn d hd
    · exact hexploitedTurn d hd
  have hperm : ((explored ++ exploited).map (·.opportunity)).Perm cycle.pending := by
    rw [List.map_append, hexploredMap, hexploitedMap]
    have hmode : cycle.pending.filter (·.mode = .exploitation) =
        cycle.pending.filter fun o => !decide (o.mode = .exploration) := by
      refine List.filter_congr fun o _ => ?_
      cases o.mode <;> rfl
    rw [hmode]
    exact List.filter_append_perm _ _
  have hkept : ∀ d ∈ explored ++ exploited, d.opportunity ∈ cycle.pending := fun d hd =>
    hperm.subset (List.mem_map.mpr ⟨d, hd, rfl⟩)
  have hfirst : cycle.decisions.filter (·.selected) = [] := by
    rw [List.filter_eq_nil_iff]
    intro d hd
    simp [ResearchSelectionDecision.selected, (hscreened.decided d hd).2]
  exact {
    mem := by
      intro d hd
      rcases List.mem_append.mp hd with hd | hd
      · exact (hscreened.decided d hd).1
      · exact (hscreened.pending _ (hkept d hd)).1
    selected := by
      intro d hd hselected
      rcases List.mem_append.mp hd with hd | hd
      · exact absurd (by simpa [ResearchSelectionDecision.selected] using hselected)
          (hscreened.decided d hd).2
      · obtain ⟨-, hnew, hside, hrun⟩ := hscreened.pending _ (hkept d hd)
        exact ⟨hnew, hrun, hside⟩
    nodup := by
      rw [List.filter_append, hfirst, List.nil_append]
      have hall : ((explored ++ exploited).map (·.opportunity.structuralIdentity)).Nodup := by
        have hmap := hperm.map (·.structuralIdentity)
        rw [List.map_map] at hmap
        exact hmap.nodup_iff.mpr hscreened.nodup
      exact hall.sublist (List.filter_sublist.map _)
    duplicates := by
      intro d hd hskip
      rcases List.mem_append.mp hd with hd | hd
      · exact hscreened.duplicates d hd hskip
      · rcases hturn d hd with h | h | h <;> rw [h] at hskip <;> cases hskip
    blocked := by
      intro d hd hpolicy
      rcases List.mem_append.mp hd with hd | hd
      · exact hscreened.blocked d hd hpolicy
      · rcases hturn d hd with h | h | h <;> rw [h] at hpolicy <;> cases hpolicy }

end Zest.Exploration
