import Zest.HuntCycle
import Zest.OpportunitySafety
import Zest.TransitionSystem

/-! # Coverage gaps as candidates

The hunt ranks the cells of its coverage matrix, and the coverage source makes
candidates of the cells that have not been tested.  A call looks at the first
cells of its ranking that are eligible, as many as its budget allows, and skips
those whose structural identity a candidate or an opportunity has.
-/
namespace Zest.Exploration

open Hunt (CoverageCell CoverageState)

/-- The value of a `CoverageState`. -/
def coverageStateValue : CoverageState → Text
  | .notApplicable => "NOT_APPLICABLE".toList
  | .untested => "UNTESTED".toList
  | .hypothesized => "HYPOTHESIZED".toList
  | .v1Passed => "V1_PASSED".toList
  | .v2Passed => "V2_PASSED".toList
  | .v3Queued => "V3_QUEUED".toList
  | .covered => "COVERED".toList

/-- `HunterCoverageOpportunitySourceCommand`, of one run.  The score of a cell is in
its place. -/
structure CoverageCommand where
  scoredCells : List CoverageCell
  maxCandidates : Int

structure CoverageResult where
  candidatesCreated : Nat
  skippedIneligibleState : Nat
  skippedDuplicate : Nat

/-- `_ELIGIBLE_COVERAGE_STATES`. -/
def eligibleCoverageStates : List CoverageState := [.untested, .hypothesized]

/-- `source_refs` of the candidate of a cell: the cell, whatever its state. -/
def cellRefs (cell : CoverageCell) : List Text :=
  [cell.familyId, cell.nodeCanonicalKey, cell.identityId]

/-- `"; ".join(cell.missing_evidence)`. -/
def informationDescription (cell : CoverageCell) : Text :=
  if cell.missingEvidence = [] then "no missing evidence recorded".toList
  else List.intercalate "; ".toList cell.missingEvidence

/-- `_candidate_from_scored_cell`. -/
def candidateFromScoredCell (candidateId : Id) (now : Instant) (cell : CoverageCell) :
    CandidateProposal where
  candidateId := .fresh candidateId
  sourceSystem := .hunterCoverage
  mode := .exploration
  sourceRefs := cellRefs cell
  proposedDirection :=
    "Investigate HunterFamily ".toList ++ cell.familyId ++ " against node ".toList ++
      cell.nodeCanonicalKey ++ " for identity ".toList ++ cell.identityId ++
      " (coverage state ".toList ++ coverageStateValue cell.state ++ ").".toList
  unresolvedQuestion :=
    "Does HunterFamily ".toList ++ cell.familyId ++
      " reveal new information for this node/identity?".toList
  expectedInformationValueDescription := informationDescription cell
  assumptions :=
    ["hunter_coverage_gap is plumbing, not authorization", "not_a_vulnerability"].map
      String.toList
  dimensions :=
    { expectedInformationValue := if cell.state = .untested then .high else .medium
      securityRelevancePotential := .low
      noveltyComposition := .low
      unresolvedUncertainty := if cell.state = .untested then .high else .medium
      chainPotential := .low
      evidenceCoverage := .low
      executionCost := .low
      sideEffectRequirement := 0
      duplicateRisk := .low
      previousFailedAttempts := 0 }
  contextSignature :=
    "hunter_coverage:".toList ++ cell.familyId ++ ':' :: cell.nodeCanonicalKey ++
      ':' :: cell.identityId
  strategyVersion := "hunter_coverage_opportunity_source.v1".toList
  createdAt := now

/-- The structural identity of the candidate of a cell. -/
def cellIdentity (cell : CoverageCell) : StructuralIdentity :=
  (candidateFromScoredCell 0 0 cell).structuralIdentity

/-- `opportunity_selection_candidates.insert`. -/
def insertCandidate (c : CandidateProposal) (s : Store) : Except String Store :=
  if s.candidates.any fun old => old.candidateId == c.candidateId ||
      old.structuralIdentity == c.structuralIdentity then .error "persistence conflict"
  else .ok { s with candidates := s.candidates ++ [c.pending] }

/-- The loop over the cells that are submitted, from a number on, with how many
candidates it has created and how many cells it has skipped as duplicates. -/
def proposeCells (now : Instant) (newId : Nat → Id) :
    Nat → List CoverageCell → List StructuralIdentity → Store → Except String (Store × Nat × Nat)
  | _, [], _, s => .ok (s, 0, 0)
  | index, cell :: rest, seen, s => do
    let record := candidateFromScoredCell (newId index) now cell
    if record.structuralIdentity ∈ seen then
      let (t, created, duplicates) ← proposeCells now newId (index + 1) rest seen s
      return (t, created, duplicates + 1)
    else
      let s ← insertCandidate record s
      let (t, created, duplicates) ←
        proposeCells now newId (index + 1) rest (record.structuralIdentity :: seen) s
      return (t, created + 1, duplicates)

/-- `eligible`. -/
def CoverageCommand.eligible (command : CoverageCommand) : List CoverageCell :=
  command.scoredCells.filter (·.state ∈ eligibleCoverageStates)

/-- `eligible[: command.max_candidates]`. -/
def CoverageCommand.submitted (command : CoverageCommand) : List CoverageCell :=
  command.eligible.take command.maxCandidates.toNat

/-- `seen_identities`, as a call reads it. -/
def Store.taken (s : Store) : List StructuralIdentity :=
  s.candidates.map (·.structuralIdentity) ++ s.identities

/-- `HunterCoverageOpportunitySource.execute`, one unit of work. -/
def executeCoverage (command : CoverageCommand) (runFound : Bool) (now : Instant)
    (newId : Nat → Id) (s : Store) : Except String (Store × CoverageResult) := do
  raiseIf (command.maxCandidates ≤ 0) "max_candidates must be > 0"
  raiseIf (!runFound) "research run not found"
  let (t, created, duplicates) ← proposeCells now newId 0 command.submitted s.taken s
  return (t, {
    candidatesCreated := created
    skippedIneligibleState := command.scoredCells.length - command.eligible.length
    skippedDuplicate := duplicates })

/-! ## What a call leaves -/

theorem structuralIdentity_candidateFromScoredCell (id : Id) (now : Instant)
    (cell : CoverageCell) :
    (candidateFromScoredCell id now cell).structuralIdentity = cellIdentity cell := rfl

theorem coverageStateValue_injective {state other : CoverageState}
    (h : coverageStateValue state = coverageStateValue other) : state = other := by
  revert h
  cases state <;> cases other <;> decide

/-- The identity of a candidate holds the cell, and the state that it was in. -/
theorem cellIdentity_eq_iff {cell other : CoverageCell} :
    cellIdentity cell = cellIdentity other ↔
      cellRefs cell = cellRefs other ∧ cell.state = other.state := by
  constructor
  · intro h
    have hrefs : cellRefs cell = cellRefs other := congrArg (·.sourceRefs) h
    refine ⟨hrefs, coverageStateValue_injective ?_⟩
    have hdirection := congrArg (·.proposedDirection) h
    obtain ⟨hfamily, hnode, hidentity⟩ : cell.familyId = other.familyId ∧
        cell.nodeCanonicalKey = other.nodeCanonicalKey ∧ cell.identityId = other.identityId := by
      simpa [cellRefs] using hrefs
    simp only [cellIdentity, candidateFromScoredCell, CandidateProposal.structuralIdentity,
      hfamily, hnode, hidentity] at hdirection
    exact List.append_cancel_left (List.append_cancel_right hdirection)
  · rintro ⟨hrefs, hstate⟩
    obtain ⟨hfamily, hnode, hidentity⟩ : cell.familyId = other.familyId ∧
        cell.nodeCanonicalKey = other.nodeCanonicalKey ∧ cell.identityId = other.identityId := by
      simpa [cellRefs] using hrefs
    simp only [cellIdentity, candidateFromScoredCell, CandidateProposal.structuralIdentity,
      CandidateProposal.opportunityKind, cellRefs, hfamily, hnode, hidentity, hstate]

/-- What the loop has made of its cells: a candidate for each identity among them
that was not seen. -/
structure Made (seen : List StructuralIdentity) (cells : List CoverageCell)
    (made : List CandidateProposal) : Prop where
  nodup : (made.map (·.structuralIdentity)).Nodup
  source : ∀ c ∈ made, c.sourceSystem = .hunterCoverage
  cell : ∀ c ∈ made, ∃ cell ∈ cells, cellIdentity cell ∉ seen ∧
    c.sourceRefs = cellRefs cell ∧ c.structuralIdentity = cellIdentity cell
  all : ∀ cell ∈ cells, cellIdentity cell ∈ seen ∨
    cellIdentity cell ∈ made.map (·.structuralIdentity)
  length_le : made.length ≤ cells.length
  full : made.length = cells.length ↔
    (cells.map cellIdentity).Nodup ∧ ∀ cell ∈ cells, cellIdentity cell ∉ seen

section Loop

variable {researchRunId : Id} {now : Instant} {newId : Nat → Id}

theorem Made.skip {seen : List StructuralIdentity} {cell : CoverageCell}
    {cells : List CoverageCell} {made : List CandidateProposal} (h : Made seen cells made)
    (hseen : cellIdentity cell ∈ seen) : Made seen (cell :: cells) made where
  nodup := h.nodup
  source := h.source
  cell c hc := by
    obtain ⟨from', hfrom, hrest⟩ := h.cell c hc
    exact ⟨from', List.mem_cons_of_mem _ hfrom, hrest⟩
  all other hother := by
    rcases List.mem_cons.mp hother with rfl | hother
    · exact .inl hseen
    · exact h.all other hother
  length_le := Nat.le_succ_of_le h.length_le
  full := by
    have hle := h.length_le
    constructor
    · intro hlength
      rw [List.length_cons] at hlength
      omega
    · rintro ⟨-, hfresh⟩
      exact absurd hseen (hfresh cell List.mem_cons_self)

theorem Made.create {seen : List StructuralIdentity} {cell : CoverageCell}
    {cells : List CoverageCell} {made : List CandidateProposal} {c : CandidateProposal}
    (h : Made (cellIdentity cell :: seen) cells made) (hseen : cellIdentity cell ∉ seen)
    (hsource : c.sourceSystem = .hunterCoverage) (hrefs : c.sourceRefs = cellRefs cell)
    (hidentity : c.structuralIdentity = cellIdentity cell) :
    Made seen (cell :: cells) (c :: made) where
  nodup := by
    rw [List.map_cons, List.nodup_cons]
    refine ⟨?_, h.nodup⟩
    intro hmem
    obtain ⟨other, hother, hsame⟩ := List.mem_map.mp hmem
    obtain ⟨from', -, hnot, -, hother'⟩ := h.cell other hother
    refine hnot (List.mem_cons.mpr (.inl ?_))
    rw [← hother', hsame, hidentity]
  source other hother := by
    rcases List.mem_cons.mp hother with rfl | hother
    · exact hsource
    · exact h.source other hother
  cell other hother := by
    rcases List.mem_cons.mp hother with rfl | hother
    · exact ⟨cell, List.mem_cons_self, hseen, hrefs, hidentity⟩
    · obtain ⟨from', hfrom, hnot, hrest⟩ := h.cell other hother
      exact ⟨from', List.mem_cons_of_mem _ hfrom, fun hmem => hnot (List.mem_cons_of_mem _ hmem),
        hrest⟩
  all other hother := by
    rw [List.map_cons, hidentity]
    rcases List.mem_cons.mp hother with rfl | hother
    · exact .inr List.mem_cons_self
    · rcases h.all other hother with hmem | hmem
      · rcases List.mem_cons.mp hmem with hsame | hmem
        · exact .inr (hsame ▸ List.mem_cons_self)
        · exact .inl hmem
      · exact .inr (List.mem_cons_of_mem _ hmem)
  length_le := Nat.succ_le_succ h.length_le
  full := by
    rw [List.length_cons, List.length_cons, Nat.add_right_cancel_iff, h.full, List.map_cons,
      List.nodup_cons]
    simp only [List.mem_cons, not_or, List.mem_map, not_exists, not_and]
    constructor
    · rintro ⟨hnodup, hfresh⟩
      refine ⟨⟨fun other hother hsame => (hfresh other hother).1 hsame, hnodup⟩, ?_⟩
      rintro other (rfl | hother)
      · exact hseen
      · exact (hfresh other hother).2
    · rintro ⟨⟨hne, hnodup⟩, hfresh⟩
      exact ⟨hnodup, fun other hother => ⟨hne other hother, hfresh other (.inr hother)⟩⟩

theorem insertCandidate_eq_ok {c : CandidateProposal} {s t : Store}
    (h : insertCandidate c s = .ok t) (hidentity : c.structuralIdentity ∉ s.identities) :
    t = { s with candidates := s.candidates ++ [c.pending] } ∧ t = s.propose c := by
  unfold insertCandidate at h
  unfold Store.propose
  by_cases htaken : (s.candidates.any fun old => old.candidateId == c.candidateId ||
      old.structuralIdentity == c.structuralIdentity) = true
  · rw [if_pos htaken] at h
    cases h
  · rw [if_neg htaken] at h
    cases h
    rw [if_neg (by simp [htaken, hidentity])]
    exact ⟨rfl, rfl⟩

/-- **The loop** leaves what it has made behind the candidates that are there. -/
theorem proposeCells_spec {cells : List CoverageCell} {index : Nat}
    {seen : List StructuralIdentity} {s t : Store} {created duplicates : Nat}
    (h : proposeCells now newId index cells seen s = .ok (t, created, duplicates))
    (hseen : ∀ identity, identity ∈ seen ↔ identity ∈ s.taken)
    (hs : s.Sound researchRunId) :
    ∃ made, Made seen cells made ∧ created = made.length ∧
      t = { s with candidates := s.candidates ++ made.map CandidateProposal.pending } ∧
      t.Sound researchRunId ∧ s.Grows t := by
  induction cells generalizing index seen s t created duplicates with
  | nil =>
    cases h
    refine ⟨[], ⟨List.nodup_nil, by simp, by simp, by simp, Nat.le_refl _, by simp⟩, rfl, ?_,
      hs, .refl s⟩
    simp
  | cons cell rest ih =>
    unfold proposeCells at h
    dsimp only at h
    rw [structuralIdentity_candidateFromScoredCell] at h
    by_cases hmem : cellIdentity cell ∈ seen
    · rw [if_pos hmem] at h
      obtain ⟨⟨t', created', duplicates'⟩, hrest, h⟩ := bind_eq_ok h
      obtain ⟨rfl, rfl, rfl⟩ : t' = t ∧ created' = created ∧ duplicates' + 1 = duplicates := by
        simpa [pure, Except.pure] using h
      obtain ⟨made, hmade, hcreated, heq, hsound, hgrows⟩ := ih hrest hseen hs
      exact ⟨made, hmade.skip hmem, hcreated, heq, hsound, hgrows⟩
    · rw [if_neg hmem] at h
      obtain ⟨between, hinsert, h⟩ := bind_eq_ok h
      obtain ⟨⟨t', created', duplicates'⟩, hrest, h⟩ := bind_eq_ok h
      obtain ⟨rfl, rfl, rfl⟩ : t' = t ∧ created' + 1 = created ∧ duplicates' = duplicates := by
        simpa [pure, Except.pure] using h
      have hfree : cellIdentity cell ∉ s.taken := fun hin => hmem ((hseen _).mpr hin)
      obtain ⟨hbetween, hpropose⟩ := insertCandidate_eq_ok hinsert
        fun hin => hfree (List.mem_append_right _ hin)
      obtain ⟨hsound, hgrows⟩ := hs.propose (candidateFromScoredCell (newId index) now cell)
      rw [← hpropose] at hsound hgrows
      have hseen' : ∀ identity, identity ∈ cellIdentity cell :: seen ↔
          identity ∈ between.taken := by
        intro identity
        rw [List.mem_cons, hseen, hbetween]
        simp only [Store.taken, Store.identities, List.map_append, List.mem_append,
          List.map_cons, List.map_nil, List.mem_singleton]
        rw [or_comm, or_right_comm]
        rfl
      obtain ⟨made, hmade, hcreated, heq, hsound', hgrows'⟩ := ih hrest hseen' hsound
      refine ⟨candidateFromScoredCell (newId index) now cell :: made,
        hmade.create hmem rfl rfl rfl, by rw [hcreated, List.length_cons], ?_, hsound',
        hgrows.trans hgrows'⟩
      rw [heq, hbetween]
      simp

end Loop

end Zest.Exploration
