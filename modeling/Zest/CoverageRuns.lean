import Zest.HunterCoverageSource

/-! # Each coverage gap is proposed, and once

Calls of the coverage source interleave with selections, with other producers and
with other writers of opportunities.  A cell is a family, a node and an identity; the
state that it is in goes into the identity of its candidate, and a call skips cells
only after it has cut its ranking off.
-/
namespace Zest.Exploration

open Hunt (CoverageCell CoverageState)
open TransitionSystem (Run Guarded)

/-- The cells that the candidates of the source are about, one for each candidate. -/
def Store.hunterCells (s : Store) : List (List Text) :=
  ((s.candidates.map (·.toCandidateProposal)).filter (·.sourceSystem = .hunterCoverage)).map
    (·.sourceRefs)

/-- A candidate or an opportunity is about the cell. -/
def Store.Proposed (s : Store) (refs : List Text) : Prop :=
  ∃ identity ∈ s.taken, identity.kind = .hunterCoverageGap ∧ identity.sourceRefs = refs

inductive SourceEvent where
  /-- A call of the coverage source that goes through. -/
  | covered (command : CoverageCommand) (result : CoverageResult)
  /-- A call of the coverage source that raises or is cut off, and is rolled back. -/
  | refused (command : CoverageCommand)
  | moved (move : Move)

/-- A step of the run.  No other producer proposes in the name of the source. -/
inductive SourceStep (lower : Text → Text) (researchRunId : Id) :
    Store → SourceEvent → Store → Prop
  | covered {s t : Store} {command : CoverageCommand} {result : CoverageResult}
      (runFound : Bool) (now : Instant) (newId : Nat → Id)
      (h : executeCoverage command runFound now newId s = .ok (t, result)) :
      SourceStep lower researchRunId s (.covered command result) t
  | refused (s : Store) (command : CoverageCommand) :
      SourceStep lower researchRunId s (.refused command) s
  | moved (s : Store) (move : Move)
      (h : ∀ c, move = .propose c → c.sourceSystem ≠ .hunterCoverage) :
      SourceStep lower researchRunId s (.moved move) (step lower researchRunId s move).1

/-- What a step is asked for: no cell has two candidates, and a call has created as
many candidates as it may, or its eligible cells have all been proposed. -/
structure Fair (e : SourceEvent) (t : Store) : Prop where
  once : t.hunterCells.Nodup
  served : ∀ command result, e = .covered command result →
    result.candidatesCreated = command.maxCandidates ∨
      ∀ cell ∈ command.eligible, t.Proposed (cellRefs cell)

/-- A cell whose candidate a call creates: its identity is not taken. -/
def Store.Fresh (s : Store) (cell : CoverageCell) : Prop := cellIdentity cell ∉ s.taken

/-- What a call needs for that. -/
structure CoverageCommand.Covers (command : CoverageCommand) (s : Store) : Prop where
  /-- A cell is not proposed in another state than before. -/
  unproposed : ∀ cell ∈ command.submitted, s.Fresh cell → cellRefs cell ∉ s.hunterCells
  /-- Nor twice in two states. -/
  steady : ∀ cell ∈ command.submitted, ∀ other ∈ command.submitted, s.Fresh cell →
    s.Fresh other → cellRefs cell = cellRefs other → cell.state = other.state
  /-- The ranking is not cut off behind cells that are skipped. -/
  reached : (command.submitted.length = command.maxCandidates ∧
      (command.submitted.map cellIdentity).Nodup ∧ ∀ cell ∈ command.submitted, s.Fresh cell) ∨
    ∀ cell ∈ command.eligible.drop command.maxCandidates.toNat,
      s.Proposed (cellRefs cell) ∨ cellRefs cell ∈ command.submitted.map cellRefs

/-- The condition on a step. -/
def Covers (s : Store) (e : SourceEvent) : Prop :=
  ∀ command result, e = .covered command result → command.Covers s

section Calls

variable {researchRunId : Id} {now : Instant} {newId : Nat → Id} {command : CoverageCommand}
  {result : CoverageResult} {runFound : Bool} {s t : Store}

/-- **One call** of the source. -/
theorem executeCoverage_spec
    (h : executeCoverage command runFound now newId s = .ok (t, result))
    (hs : s.Sound researchRunId) :
    0 < command.maxCandidates ∧ ∃ made, Made s.taken command.submitted made ∧
      result.candidatesCreated = made.length ∧
      t = { s with candidates := s.candidates ++ made.map CandidateProposal.pending } ∧
      t.Sound researchRunId ∧ s.Grows t := by
  obtain ⟨passed, hmax, h⟩ := bind_eq_ok h
  obtain ⟨-, -, h⟩ := bind_eq_ok h
  obtain ⟨⟨t', created, duplicates⟩, hloop, h⟩ := bind_eq_ok h
  cases h
  have hpos : 0 < command.maxCandidates := by
    by_contra hle
    rw [decide_eq_true (Int.not_lt.mp hle)] at hmax
    cases hmax
  obtain ⟨made, hmade, hcreated, heq, hsound, hgrows⟩ :=
    proposeCells_spec hloop (fun _ => Iff.rfl) hs
  exact ⟨hpos, made, hmade, hcreated, heq, hsound, hgrows⟩

/-- The cells of the candidates that a call has created come to those before. -/
theorem hunterCells_append {made : List CandidateProposal}
    (h : ∀ c ∈ made, c.sourceSystem = .hunterCoverage) :
    Store.hunterCells { s with candidates := s.candidates ++ made.map CandidateProposal.pending } =
      s.hunterCells ++ made.map (·.sourceRefs) := by
  have hsame : (made.map CandidateProposal.pending).map (·.toCandidateProposal) = made := by
    rw [List.map_map]
    exact List.map_id made
  have hall : made.filter (·.sourceSystem = .hunterCoverage) = made := by
    rw [List.filter_eq_self]
    intro c hc
    exact decide_eq_true (h c hc)
  rw [Store.hunterCells, List.map_append, hsame, List.filter_append, hall, List.map_append]
  rfl

theorem proposed_append {made : List CandidateProposal} {refs : List Text}
    (h : ∀ c ∈ made, c.sourceSystem = .hunterCoverage) :
    Store.Proposed
        { s with candidates := s.candidates ++ made.map CandidateProposal.pending } refs ↔
      s.Proposed refs ∨ refs ∈ made.map (·.sourceRefs) := by
  have hkind : ∀ c ∈ made, c.structuralIdentity.kind = .hunterCoverageGap := by
    intro c hc
    rw [CandidateProposal.structuralIdentity, CandidateProposal.opportunityKind, h c hc]
  simp only [Store.Proposed, Store.taken, Store.identities, List.map_append, List.mem_append]
  constructor
  · rintro ⟨identity, (hold | hmade) | hwritten, hgap, hrefs⟩
    · exact .inl ⟨identity, .inl hold, hgap, hrefs⟩
    · obtain ⟨record, hrecord, rfl⟩ := List.mem_map.mp hmade
      obtain ⟨c, hc, rfl⟩ := List.mem_map.mp hrecord
      exact .inr (List.mem_map.mpr ⟨c, hc, hrefs⟩)
    · exact .inl ⟨identity, .inr hwritten, hgap, hrefs⟩
  · rintro (⟨identity, hold | hwritten, hgap, hrefs⟩ | hmade)
    · exact ⟨identity, .inl (.inl hold), hgap, hrefs⟩
    · exact ⟨identity, .inr hwritten, hgap, hrefs⟩
    · obtain ⟨c, hc, rfl⟩ := List.mem_map.mp hmade
      refine ⟨c.structuralIdentity, .inl (.inr ?_), hkind c hc, rfl⟩
      exact List.mem_map.mpr ⟨c.pending, List.mem_map.mpr ⟨c, hc, rfl⟩, rfl⟩

/-- The cells of the candidates that a call creates are apart from each other and
from those before, when no cell comes in a second state. -/
theorem nodup_made_iff {cells : List CoverageCell} {made : List CandidateProposal}
    (hmade : Made s.taken cells made) (hs : s.hunterCells.Nodup) :
    (s.hunterCells ++ made.map (·.sourceRefs)).Nodup ↔
      (∀ cell ∈ cells, s.Fresh cell → cellRefs cell ∉ s.hunterCells) ∧
        ∀ cell ∈ cells, ∀ other ∈ cells, s.Fresh cell → s.Fresh other →
          cellRefs cell = cellRefs other → cell.state = other.state := by
  have hcreated : ∀ cell ∈ cells, s.Fresh cell →
      ∃ c ∈ made, c.structuralIdentity = cellIdentity cell ∧ c.sourceRefs = cellRefs cell := by
    intro cell hcell hfresh
    rcases hmade.all cell hcell with htaken | hmem
    · exact absurd htaken hfresh
    · obtain ⟨c, hc, hidentity⟩ := List.mem_map.mp hmem
      exact ⟨c, hc, hidentity, congrArg (·.sourceRefs) hidentity⟩
  rw [List.nodup_append]
  constructor
  · rintro ⟨-, hnodup, hapart⟩
    refine ⟨?_, ?_⟩
    · intro cell hcell hfresh hold
      obtain ⟨c, hc, -, hrefs⟩ := hcreated cell hcell hfresh
      exact hapart _ hold _ (List.mem_map.mpr ⟨c, hc, rfl⟩) hrefs.symm
    · intro cell hcell other hother hfresh hfresh' hsame
      obtain ⟨c, hc, hidentity, hrefs⟩ := hcreated cell hcell hfresh
      obtain ⟨c', hc', hidentity', hrefs'⟩ := hcreated other hother hfresh'
      have heq : c = c' := List.inj_on_of_nodup_map hnodup hc hc'
        (hrefs.trans (hsame.trans hrefs'.symm))
      exact (cellIdentity_eq_iff.mp (by rw [← hidentity, heq, hidentity'])).2
  · rintro ⟨hunproposed, hsteady⟩
    refine ⟨hs, ?_, ?_⟩
    · refine List.pairwise_map.mpr ((List.pairwise_map.mp hmade.nodup).imp_of_mem ?_)
      intro c c' hc hc' hne hrefs
      obtain ⟨cell, hcell, hfresh, hcellRefs, hidentity⟩ := hmade.cell c hc
      obtain ⟨other, hother, hfresh', hotherRefs, hidentity'⟩ := hmade.cell c' hc'
      have hsame : cellRefs cell = cellRefs other := by rw [← hcellRefs, hrefs, hotherRefs]
      refine hne ?_
      rw [hidentity, hidentity']
      exact cellIdentity_eq_iff.mpr
        ⟨hsame, hsteady cell hcell other hother hfresh hfresh' hsame⟩
    · intro refs hold other hmem heq
      obtain ⟨c, hc, rfl⟩ := List.mem_map.mp hmem
      obtain ⟨cell, hcell, hfresh, hrefs, -⟩ := hmade.cell c hc
      exact hunproposed cell hcell hfresh (hrefs ▸ heq ▸ hold)

/-- A call is as it is asked exactly when it covers its ranking. -/
theorem fair_covered_iff (h : executeCoverage command runFound now newId s = .ok (t, result))
    (hs : s.Sound researchRunId) (honce : s.hunterCells.Nodup) :
    Fair (.covered command result) t ↔ command.Covers s := by
  obtain ⟨hpos, made, hmade, hcreated, heq, -, -⟩ := executeCoverage_spec h hs
  have hcells : t.hunterCells = s.hunterCells ++ made.map (·.sourceRefs) := by
    rw [heq]
    exact hunterCells_append hmade.source
  have hproposed : ∀ refs, t.Proposed refs ↔ s.Proposed refs ∨ refs ∈ made.map (·.sourceRefs) := by
    intro refs
    rw [heq]
    exact proposed_append hmade.source
  have hsubmitted : ∀ cell ∈ command.submitted, t.Proposed (cellRefs cell) := by
    intro cell hcell
    rw [hproposed]
    rcases hmade.all cell hcell with htaken | hmem
    · exact .inl ⟨cellIdentity cell, htaken, rfl, rfl⟩
    · obtain ⟨c, hc, hidentity⟩ := List.mem_map.mp hmem
      exact .inr (List.mem_map.mpr ⟨c, hc, congrArg (·.sourceRefs) hidentity⟩)
  have hfull : (result.candidatesCreated : Int) = command.maxCandidates ↔
      command.submitted.length = command.maxCandidates ∧
        (command.submitted.map cellIdentity).Nodup ∧ ∀ cell ∈ command.submitted, s.Fresh cell := by
    have hle := hmade.length_le
    have htake : command.submitted.length ≤ command.maxCandidates.toNat := List.length_take_le ..
    rw [hcreated]
    constructor
    · intro hmax
      have hlength : made.length = command.submitted.length := by omega
      exact ⟨by omega, hmade.full.mp hlength⟩
    · rintro ⟨hlength, hall⟩
      rw [hmade.full.mpr hall, hlength]
  constructor
  · rintro ⟨hnodup, hserved⟩
    rw [hcells] at hnodup
    obtain ⟨hunproposed, hsteady⟩ := (nodup_made_iff hmade honce).mp hnodup
    refine ⟨hunproposed, hsteady, ?_⟩
    rcases hserved command result rfl with hmax | hall
    · exact .inl (hfull.mp hmax)
    · refine .inr fun cell hcell => ?_
      rcases (hproposed _).mp (hall cell (List.mem_of_mem_drop hcell)) with hold | hmem
      · exact .inl hold
      · obtain ⟨c, hc, hrefs⟩ := List.mem_map.mp hmem
        obtain ⟨from', hfrom, -, hfromRefs, -⟩ := hmade.cell c hc
        exact .inr (List.mem_map.mpr ⟨from', hfrom, hfromRefs.symm.trans hrefs⟩)
  · rintro ⟨hunproposed, hsteady, hreached⟩
    refine ⟨?_, ?_⟩
    · rw [hcells]
      exact (nodup_made_iff hmade honce).mpr ⟨hunproposed, hsteady⟩
    · rintro command' result' heq
      cases heq
      refine hreached.imp hfull.mpr fun hrest cell hcell => ?_
      rw [← List.take_append_drop command.maxCandidates.toNat command.eligible] at hcell
      rcases List.mem_append.mp hcell with hcell | hcell
      · exact hsubmitted cell hcell
      · rcases hrest cell hcell with hold | hmem
        · exact (hproposed _).mpr (.inl hold)
        · obtain ⟨other, hother, hsame⟩ := List.mem_map.mp hmem
          exact hsame ▸ hsubmitted other hother

end Calls

/-! ## The other steps -/

section Moves

variable {lower : Text → Text} {researchRunId : Id} {s t : Store}

theorem proposals_markDecided (candidateId : CandidateId) (outcome : CandidateOutcome)
    (resulting : Option OpportunityId) (now : Instant) :
    (s.markDecided candidateId outcome resulting now).candidates.map (·.toCandidateProposal) =
      s.candidates.map (·.toCandidateProposal) := by
  unfold Store.markDecided
  rw [List.map_map]
  refine List.map_congr_left fun c _ => ?_
  dsimp only [Function.comp]
  split <;> rfl

theorem proposals_retire (now : Instant) (candidateIds : List CandidateId)
    (d : ResearchSelectionDecision) :
    (retire now candidateIds d s).candidates.map (·.toCandidateProposal) =
      s.candidates.map (·.toCandidateProposal) := by
  unfold retire
  split
  · split
    · exact proposals_markDecided ..
    · rfl
  · rfl

theorem candidates_writeOpportunity {now : Instant} {d : ResearchSelectionDecision}
    (h : writeOpportunity now d s = .ok t) : t.candidates = s.candidates := by
  unfold writeOpportunity at h
  split at h
  · unfold insertOpportunity at h
    split at h
    · split at h
      · cases h
        rfl
      · cases h
    · cases h
      rfl
  · cases h
    rfl

/-- Decisions leave the proposals as they are. -/
theorem proposals_recordDecisions {call : Call} {candidateIds : List CandidateId} {index : Nat}
    {decisions : List ResearchSelectionDecision}
    (h : recordDecisions researchRunId call candidateIds index decisions s = .ok t) :
    t.candidates.map (·.toCandidateProposal) = s.candidates.map (·.toCandidateProposal) := by
  induction decisions generalizing index s with
  | nil =>
    cases h
    rfl
  | cons d rest ih =>
    obtain ⟨between, hrecord, h⟩ := bind_eq_ok h
    obtain ⟨written, hwritten, hrecord⟩ := bind_eq_ok hrecord
    obtain ⟨-, -, hrecord⟩ := bind_eq_ok hrecord
    cases hrecord
    rw [ih h, proposals_retire]
    show written.candidates.map _ = _
    rw [candidates_writeOpportunity hwritten]

/-- A proposal in another name leaves the cells of the source. -/
theorem hunterCells_propose {c : CandidateProposal} (h : c.sourceSystem ≠ .hunterCoverage) :
    (s.propose c).hunterCells = s.hunterCells := by
  unfold Store.propose
  split
  · rfl
  · rw [Store.hunterCells, List.map_append, List.filter_append]
    have hnone : ([c.pending].map (·.toCandidateProposal)).filter
        (·.sourceSystem = .hunterCoverage) = [] := by
      simp [CandidateProposal.pending, h]
    rw [hnone, List.append_nil]
    rfl

theorem hunterCells_admitted (call : Call) : (call.admitted s).hunterCells = s.hunterCells := by
  unfold Call.admitted admitRegistryExternalAnomalyCandidates
  generalize call.view.anomalyContexts = contexts
  induction contexts generalizing s with
  | nil => rfl
  | cons context contexts ih =>
    rw [List.foldl_cons, ih]
    split
    · rfl
    · exact hunterCells_propose (by simp [candidateFromContext])

/-- Nothing but the source proposes cells. -/
theorem hunterCells_step (move : Move)
    (h : ∀ c, move = .propose c → c.sourceSystem ≠ .hunterCoverage) :
    (step lower researchRunId s move).1.hunterCells = s.hunterCells := by
  cases move with
  | fails call => rfl
  | propose c => exact hunterCells_propose (h c rfl)
  | write o =>
    show (s.write o).hunterCells = _
    unfold Store.write
    split <;> rfl
  | call call =>
    cases hexecute : execute lower researchRunId call s with
    | error message => simp [step, UnitOfWork.Prog.attempted, hexecute, Except.toOption]
    | ok answered =>
      obtain ⟨-, -, hok⟩ := bind_eq_ok hexecute
      obtain ⟨decided, -, hok⟩ := bind_eq_ok hok
      obtain ⟨final, hfinal, hok⟩ := bind_eq_ok hok
      cases hok
      have hstep : (step lower researchRunId s (.call call)).1 = final := by
        simp [step, UnitOfWork.Prog.attempted, hexecute, Except.toOption]
      rw [hstep, Store.hunterCells, proposals_recordDecisions hfinal]
      exact hunterCells_admitted call

end Moves

/-! ## Runs -/

section Runs

variable {lower : Text → Text} {researchRunId : Id} {s t : Store} {e : SourceEvent}
  {es : List SourceEvent}

/-- The tables are consistent, and no cell has two candidates. -/
def Store.OncePerCell (researchRunId : Id) (s : Store) : Prop :=
  s.Sound researchRunId ∧ s.hunterCells.Nodup

theorem SourceStep.sound (h : SourceStep lower researchRunId s e t)
    (hs : s.Sound researchRunId) : t.Sound researchRunId ∧ s.Grows t := by
  cases h with
  | covered runFound now newId h =>
    obtain ⟨-, made, -, -, -, hsound, hgrows⟩ := executeCoverage_spec h hs
    exact ⟨hsound, hgrows⟩
  | refused command => exact ⟨hs, .refl _⟩
  | moved move h =>
    obtain ⟨hsound, hgrows, -⟩ := hs.step lower move
    exact ⟨hsound, hgrows⟩

/-- **The step lemma.** -/
theorem SourceStep.fair_iff (h : SourceStep lower researchRunId s e t)
    (hs : s.OncePerCell researchRunId) : Fair e t ↔ Covers s e := by
  cases h with
  | @covered t command result runFound now newId h =>
    rw [fair_covered_iff h hs.1 hs.2]
    constructor
    · rintro hcovers command' result' heq
      cases heq
      exact hcovers
    · intro hcovers
      exact hcovers command result rfl
  | refused command =>
    have hcovers : Covers s (.refused command) := by
      rintro command' result' heq
      cases heq
    refine iff_of_true ⟨hs.2, ?_⟩ hcovers
    rintro command' result' heq
    cases heq
  | moved move h =>
    have hcovers : Covers s (.moved move) := by
      rintro command' result' heq
      cases heq
    refine iff_of_true ⟨?_, ?_⟩ hcovers
    · rw [hunterCells_step move h]
      exact hs.2
    · rintro command' result' heq
      cases heq

theorem SourceStep.once (h : SourceStep lower researchRunId s e t)
    (hs : s.OncePerCell researchRunId) (hfair : Fair e t) : t.OncePerCell researchRunId :=
  ⟨(h.sound hs.1).1, hfair.once⟩

theorem Store.Proposed.mono {refs : List Text} (h : s.Grows t) (hp : s.Proposed refs) :
    t.Proposed refs := by
  obtain ⟨identity, hmem, hkind, hrefs⟩ := hp
  refine ⟨identity, ?_, hkind, hrefs⟩
  rcases List.mem_append.mp hmem with hmem | hmem
  · obtain ⟨c, hc, rfl⟩ := List.mem_map.mp hmem
    obtain ⟨c', hc', hsame, -⟩ := h.candidates c hc
    refine List.mem_append_left _ (List.mem_map.mpr ⟨c', hc', ?_⟩)
    exact congrArg CandidateProposal.structuralIdentity hsame
  · exact List.mem_append_right _ (h.identities hmem)

/-- A call that submits the ranking. -/
def submits (cells : List CoverageCell) : SourceEvent → Bool
  | .covered command _ => decide (command.scoredCells = cells)
  | _ => false

/-- A call that submits the ranking, and creates as many candidates as it may. -/
def fills (cells : List CoverageCell) : SourceEvent → Bool
  | .covered command result => decide (command.scoredCells = cells ∧
      result.candidatesCreated = command.maxCandidates)
  | _ => false

/-- How many cells of the ranking have a candidate of the source. -/
def Store.reached (cells : List CoverageCell) (s : Store) : Nat :=
  (s.hunterCells.filter (· ∈ cells.map cellRefs)).length

theorem Store.reached_le (cells : List CoverageCell) (hs : s.hunterCells.Nodup) :
    s.reached cells ≤ cells.length := by
  have hsubset : s.hunterCells.filter (· ∈ cells.map cellRefs) ⊆ cells.map cellRefs := by
    intro refs hrefs
    simpa using (List.mem_filter.mp hrefs).2
  have hle := (List.subperm_of_subset (hs.filter _) hsubset).length_le
  rwa [List.length_map] at hle

/-- A step reaches no fewer cells of a ranking, and a call that fills its budget from
it reaches more. -/
theorem SourceStep.reached_le (h : SourceStep lower researchRunId s e t)
    (hs : s.Sound researchRunId) (cells : List CoverageCell) :
    s.reached cells ≤ t.reached cells ∧
      (fills cells e = true → s.reached cells < t.reached cells) := by
  cases h with
  | refused command => exact ⟨Nat.le_refl _, fun hfills => by cases hfills⟩
  | moved move h =>
    refine ⟨?_, fun hfills => by cases hfills⟩
    rw [Store.reached, Store.reached, hunterCells_step move h]
  | @covered t command result runFound now newId h =>
    obtain ⟨hpos, made, hmade, hcreated, rfl, -, -⟩ := executeCoverage_spec h hs
    rw [Store.reached, Store.reached, hunterCells_append hmade.source, List.filter_append,
      List.length_append]
    refine ⟨Nat.le_add_right _ _, fun hfills => ?_⟩
    obtain ⟨rfl, hfull⟩ := of_decide_eq_true hfills
    have hall : (made.map (·.sourceRefs)).filter (· ∈ command.scoredCells.map cellRefs) =
        made.map (·.sourceRefs) := by
      rw [List.filter_eq_self]
      intro refs hrefs
      obtain ⟨c, hc, rfl⟩ := List.mem_map.mp hrefs
      obtain ⟨cell, hcell, -, hcellRefs, -⟩ := hmade.cell c hc
      have hscored : cell ∈ command.scoredCells :=
        (List.mem_filter.mp (List.mem_of_mem_take hcell)).1
      exact decide_eq_true (hcellRefs ▸ List.mem_map_of_mem hscored)
    rw [hall, List.length_map]
    omega

/-- **No cell starves**: a ranking that has been submitted more often than it is long
has been proposed to its end. -/
theorem proposed_of_submitted
    (h : Run (Guarded (SourceStep lower researchRunId) Covers) .empty es t)
    (cells : List CoverageCell) (hoften : cells.length < (es.filter (submits cells)).length) :
    ∀ cell ∈ cells, cell.state ∈ eligibleCoverageStates → t.Proposed (cellRefs cell) := by
  have hkeep : ∀ s e t, Guarded (SourceStep lower researchRunId) Covers s e t →
      s.OncePerCell researchRunId → t.OncePerCell researchRunId := fun s e t hstep hs =>
    hstep.1.once hs ((hstep.1.fair_iff hs).mpr hstep.2)
  have hinit : Store.empty.OncePerCell researchRunId :=
    ⟨Store.sound_empty researchRunId, List.nodup_nil⟩
  have hfills : (es.filter (fills cells)).length ≤ cells.length := by
    refine h.count_le (I := Store.OncePerCell researchRunId) (m := Store.reached cells) ?_ hinit
    intro s e t hstep hs
    obtain ⟨hle, hlt⟩ := hstep.1.reached_le hs.1 cells
    have hnext := hkeep s e t hstep hs
    exact ⟨hnext, hle, fun hcounted => ⟨hlt hcounted, Store.reached_le cells hnext.2⟩⟩
  -- so one of the submissions has found nothing more to propose
  obtain ⟨e, he, hsubmits, hnot⟩ : ∃ e ∈ es, submits cells e = true ∧ fills cells e ≠ true := by
    by_contra hnone
    push Not at hnone
    have hle : es.countP (submits cells) ≤ es.countP (fills cells) :=
      List.countP_mono_left hnone
    rw [List.countP_eq_length_filter, List.countP_eq_length_filter] at hle
    omega
  obtain ⟨before, after, rfl⟩ := List.append_of_mem he
  obtain ⟨a, b, hbefore, hstep, hafter⟩ := h.split
  have ha := hbefore.invariant hkeep hinit
  have hb := hkeep a e b hstep ha
  have hfair := (hstep.1.fair_iff ha).mpr hstep.2
  have hgrows : b.Grows t := hafter.relation Store.Grows.refl Store.Grows.trans hkeep
    (fun s e t hstep hs => (hstep.1.sound hs.1).2) hb
  intro cell hcell hstate
  refine Store.Proposed.mono hgrows ?_
  cases e with
  | refused command => cases hsubmits
  | moved move => cases hsubmits
  | covered command result =>
    obtain rfl := of_decide_eq_true hsubmits
    rcases hfair.served command result rfl with hmax | hall
    · exact absurd (decide_eq_true (And.intro rfl hmax)) hnot
    · exact hall cell (List.mem_filter.mpr ⟨hcell, decide_eq_true hstate⟩)

end Runs

/-- **Coverage gaps are proposed once, and none starves**, in the runs whose calls
cover their rankings and in no others. -/
theorem coverage_source_iff (lower : Text → Text) (researchRunId : Id) :
    (∀ es t, Run (fun s e t => SourceStep lower researchRunId s e t ∧ Fair e t) .empty es t ↔
      Run (Guarded (SourceStep lower researchRunId) Covers) .empty es t) ∧
    ∀ es t, Run (Guarded (SourceStep lower researchRunId) Covers) .empty es t →
      ∀ cells, cells.length < (es.filter (submits cells)).length →
        ∀ cell ∈ cells, cell.state ∈ eligibleCoverageStates → t.Proposed (cellRefs cell) := by
  refine ⟨fun es t => ?_, fun es t h cells hoften => proposed_of_submitted h cells hoften⟩
  have hinit : Store.empty.OncePerCell researchRunId :=
    ⟨Store.sound_empty researchRunId, List.nodup_nil⟩
  exact Run.respected_iff (fun s e t hstep hs hfair => hstep.once hs hfair)
    (fun s e t hstep hs => hstep.fair_iff hs) hinit

/-! ## A cell that is proposed twice -/

theorem a_nonblank : Text.strip ['a'] ≠ [] := by
  decide

/-- One cell, in a state. -/
def labCell (state : CoverageState) : CoverageCell where
  nodeCanonicalKey := ['a']
  identityId := ['a']
  familyId := ['a']
  state := state
  missingEvidence := []
  nodeCanonicalKey_nonempty := a_nonblank
  identityId_nonempty := a_nonblank
  familyId_nonempty := a_nonblank

/-- A ranking of that cell alone. -/
def labRanking (state : CoverageState) : CoverageCommand where
  scoredCells := [labCell state]
  maxCandidates := 20

theorem lab_untested : ∃ t, SourceStep id 0 .empty (.covered (labRanking .untested) ⟨1, 0, 0⟩) t ∧
    t.hunterCells = [cellRefs (labCell .untested)] :=
  ⟨_, .covered true 0 (fun n => n) rfl, rfl⟩

theorem coverage_source_iff_lab :
    ∃ t, Run (Guarded (SourceStep id 0) Covers) .empty
      [.covered (labRanking .untested) ⟨1, 0, 0⟩] t ∧ t.hunterCells.Nodup := by
  obtain ⟨t, hstep, hcells⟩ := lab_untested
  have hnodup : t.hunterCells.Nodup := by
    rw [hcells]
    exact List.nodup_singleton _
  refine ⟨t, ((coverage_source_iff id 0).1 _ t).mp ?_, hnodup⟩
  have hone : ∀ cell ∈ (labRanking .untested).submitted, cell.state = .untested := by
    decide
  have hcovers : (labRanking .untested).Covers .empty := by
    refine ⟨fun _ _ _ => List.not_mem_nil, ?_, .inr ?_⟩
    · intro cell hcell other hother _ _ _
      rw [hone cell hcell, hone other hother]
    · intro cell hcell
      cases hcell
  have hfair : Fair (.covered (labRanking .untested) ⟨1, 0, 0⟩) t := by
    refine (hstep.fair_iff ⟨Store.sound_empty 0, List.nodup_nil⟩).mpr ?_
    rintro command result heq
    cases heq
    exact hcovers
  exact (Run.nil Store.empty).snoc ⟨hstep, hfair⟩

/-- A cell is proposed, a hypothesis is made of it, and it is proposed again. -/
theorem cell_proposed_twice :
    ¬ ∀ es t, Run (SourceStep id 0) .empty es t →
      Run (fun s e t => SourceStep id 0 s e t ∧ Fair e t) .empty es t := by
  intro h
  have hrun : ∃ t, Run (SourceStep id 0) .empty
      ([.covered (labRanking .untested) ⟨1, 0, 0⟩] ++
        [.covered (labRanking .hypothesized) ⟨1, 0, 0⟩]) t ∧
      t.hunterCells = [cellRefs (labCell .untested), cellRefs (labCell .untested)] :=
    ⟨_, ((Run.nil Store.empty).snoc (.covered true 0 (fun n => n) rfl)).snoc
      (.covered true 0 (fun n => n + 1) rfl), rfl⟩
  obtain ⟨t, hrun, hcells⟩ := hrun
  have hnodup : t.hunterCells.Nodup :=
    (h _ t hrun).invariant (I := fun s => s.hunterCells.Nodup)
      (fun s e t hstep _ => hstep.2.once) List.nodup_nil
  rw [hcells] at hnodup
  simp at hnodup

end Zest.Exploration
