import Zest.OpportunitySelection
import Zest.UnitOfWork

/-! # What is selected exists

Calls on one run interleave with each other, with the producers of candidates and
with other writers of opportunities.  The four tables of the run stay consistent: a
row that says an opportunity was selected refers to one that is there, a candidate is
admitted exactly when its opportunity is, and one that is not admitted could not be
selected by any later call.
-/
namespace Zest.Exploration

/-! ## Consistent tables -/

/-- The opportunity of the run with this identifier and identity is there. -/
def Store.Refers (s : Store) (researchRunId : Id) (opportunityId : OpportunityId)
    (identity : StructuralIdentity) : Prop :=
  ∃ o ∈ s.opportunities, o.opportunityId = opportunityId ∧ o.structuralIdentity = identity ∧
    o.researchRunId = researchRunId

/-- A candidate that no call selects: its identity has been written, or what it needs
is not selectable. -/
def Store.Retired (s : Store) (c : OpportunitySelectionCandidateRecord) : Prop :=
  c.structuralIdentity ∈ s.identities ∨ c.dimensions.sideEffectRequirement = 3

/-- What the row of a candidate says is so. -/
def Store.Settled (s : Store) (researchRunId : Id) (c : OpportunitySelectionCandidateRecord) :
    Prop :=
  match c.outcome with
  | .pending => c.resultingOpportunityId = none
  | .admitted => c.resultingOpportunityId = some (.candidate c.candidateId) ∧
      s.Refers researchRunId (.candidate c.candidateId) c.structuralIdentity
  | .notAdmitted => c.resultingOpportunityId = none ∧ s.Retired c

/-- The rows of the decisions to select. -/
def Store.selectedRows (s : Store) : List ResearchSelectionRecord :=
  s.selections.filter (·.outcome = .select)

/-- **The invariant of the four tables.** -/
structure Store.Sound (researchRunId : Id) (s : Store) : Prop where
  opportunityIds : (s.opportunities.map (·.opportunityId)).Nodup
  identities : s.identities.Nodup
  candidateIds : (s.candidates.map (·.candidateId)).Nodup
  candidateIdentities : (s.candidates.map (·.structuralIdentity)).Nodup
  selected : ∀ row ∈ s.selectedRows,
    s.Refers researchRunId row.opportunityId row.structuralIdentity
  selectedOnce : (s.selectedRows.map (·.structuralIdentity)).Nodup
  settled : ∀ c ∈ s.candidates, s.Settled researchRunId c

/-- What a step keeps: opportunities, rows and candidates stay, and so does the outcome
of a candidate that is decided. -/
structure Store.Grows (s t : Store) : Prop where
  opportunities : ∀ o ∈ s.opportunities, o ∈ t.opportunities
  candidates : ∀ c ∈ s.candidates, ∃ c' ∈ t.candidates,
    c'.toCandidateProposal = c.toCandidateProposal ∧ (c.outcome ≠ .pending → c' = c)

section Grows

variable {researchRunId : Id} {s t u : Store}

theorem Store.Grows.refl (s : Store) : s.Grows s :=
  ⟨fun _ h => h, fun c h => ⟨c, h, rfl, fun _ => rfl⟩⟩

theorem Store.Grows.trans (h : s.Grows t) (h' : t.Grows u) : s.Grows u where
  opportunities o ho := h'.opportunities o (h.opportunities o ho)
  candidates c hc := by
    obtain ⟨c', hc', hsame, hkept⟩ := h.candidates c hc
    obtain ⟨c'', hc'', hsame', hkept'⟩ := h'.candidates c' hc'
    refine ⟨c'', hc'', hsame'.trans hsame, fun hdecided => ?_⟩
    have heq := hkept hdecided
    rw [hkept' (by rwa [heq]), heq]

theorem Store.Grows.refers (h : s.Grows t) {opportunityId : OpportunityId}
    {identity : StructuralIdentity} (hr : s.Refers researchRunId opportunityId identity) :
    t.Refers researchRunId opportunityId identity := by
  obtain ⟨o, ho, hrest⟩ := hr
  exact ⟨o, h.opportunities o ho, hrest⟩

theorem Store.Grows.identities (h : s.Grows t) : s.identities ⊆ t.identities := by
  intro identity hmem
  obtain ⟨o, ho, rfl⟩ := List.mem_map.mp hmem
  exact List.mem_map.mpr ⟨o, h.opportunities o ho, rfl⟩

theorem Store.Grows.settled (h : s.Grows t) {c : OpportunitySelectionCandidateRecord}
    (hc : s.Settled researchRunId c) : t.Settled researchRunId c := by
  unfold Store.Settled at hc ⊢
  cases houtcome : c.outcome with
  | pending =>
    rw [houtcome] at hc
    exact hc
  | admitted =>
    rw [houtcome] at hc
    exact ⟨hc.1, h.refers hc.2⟩
  | notAdmitted =>
    rw [houtcome] at hc
    exact ⟨hc.1, hc.2.imp_left fun hmem => h.identities hmem⟩

/-- The identity of an opportunity that is referred to has been written. -/
theorem Store.Refers.mem_identities {opportunityId : OpportunityId} {identity : StructuralIdentity}
    (h : s.Refers researchRunId opportunityId identity) : identity ∈ s.identities := by
  obtain ⟨o, ho, -, rfl, -⟩ := h
  exact List.mem_map.mpr ⟨o, ho, rfl⟩

end Grows

/-! ## The steps -/

section Steps

variable {researchRunId : Id} {s t : Store}

/-- A producer. -/
theorem Store.Sound.propose (h : s.Sound researchRunId) (c : CandidateProposal) :
    (s.propose c).Sound researchRunId ∧ s.Grows (s.propose c) := by
  unfold Store.propose
  by_cases htaken : (s.candidates.any (fun old => old.candidateId == c.candidateId ||
      old.structuralIdentity == c.structuralIdentity) ||
        s.identities.contains c.structuralIdentity) = true
  · rw [if_pos htaken]
    exact ⟨h, .refl s⟩
  rw [if_neg htaken]
  have hfree : ∀ old ∈ s.candidates, old.candidateId ≠ c.candidateId ∧
      old.structuralIdentity ≠ c.structuralIdentity := by
    intro old hold
    simp only [Bool.or_eq_true, List.any_eq_true, not_or, not_exists, not_and, beq_iff_eq] at htaken
    exact htaken.1 old hold
  have hgrows : s.Grows { s with candidates := s.candidates ++ [c.pending] } :=
    ⟨fun _ ho => ho, fun old hold => ⟨old, List.mem_append_left _ hold, rfl, fun _ => rfl⟩⟩
  refine ⟨{ h with
    candidateIds := ?_
    candidateIdentities := ?_
    settled := ?_ }, hgrows⟩
  · rw [List.map_append, List.nodup_append]
    refine ⟨h.candidateIds, by simp, ?_⟩
    intro id hid other hother heq
    obtain ⟨old, hold, rfl⟩ := List.mem_map.mp hid
    obtain rfl : c.candidateId = other := by
      simpa [CandidateProposal.pending, eq_comm] using hother
    exact (hfree old hold).1 heq
  · rw [List.map_append, List.nodup_append]
    refine ⟨h.candidateIdentities, by simp, ?_⟩
    intro identity hidentity other hother heq
    obtain ⟨old, hold, rfl⟩ := List.mem_map.mp hidentity
    obtain rfl : c.structuralIdentity = other := by
      simpa [CandidateProposal.pending, eq_comm] using hother
    exact (hfree old hold).2 heq
  · intro old hold
    rcases List.mem_append.mp hold with hold | hold
    · exact hgrows.settled (h.settled old hold)
    · rw [List.mem_singleton.mp hold]
      rfl

theorem Store.Sound.admitted (h : s.Sound researchRunId) (call : Call) :
    (call.admitted s).Sound researchRunId ∧ s.Grows (call.admitted s) ∧
      (call.admitted s).identities = s.identities := by
  unfold Call.admitted admitRegistryExternalAnomalyCandidates
  generalize call.view.anomalyContexts = contexts
  induction contexts generalizing s with
  | nil => exact ⟨h, .refl s, rfl⟩
  | cons context contexts ih =>
    rw [List.foldl_cons]
    by_cases hseen : s.contextSeen context.contextSignature = true
    · rw [if_pos hseen]
      exact ih h
    · rw [if_neg hseen]
      obtain ⟨hnext, hgrows⟩ := h.propose (candidateFromContext call.now context)
      obtain ⟨hlast, hgrows', hidentities⟩ := ih hnext
      have hsame : (s.propose (candidateFromContext call.now context)).identities =
          s.identities := by
        unfold Store.propose
        split <;> rfl
      exact ⟨hlast, hgrows.trans hgrows', hidentities.trans hsame⟩

/-- An opportunity whose identity has not been written is written, or the call is
over. -/
theorem insertOpportunity_eq_ok {now : Instant} {o : ResearchOpportunity}
    (h : insertOpportunity now o s = .ok t) (hnew : o.structuralIdentity ∉ s.identities) :
    t = { s with opportunities := s.opportunities ++ [{ o with createdAt := now }] } ∧
      o.opportunityId ∉ s.opportunities.map (·.opportunityId) := by
  unfold insertOpportunity at h
  by_cases htaken : (s.opportunities.any fun old => old.opportunityId == o.opportunityId ||
      old.structuralIdentity == o.structuralIdentity) = true
  · rw [if_pos htaken, if_neg (by simpa using hnew)] at h
    cases h
  · rw [if_neg htaken] at h
    cases h
    refine ⟨rfl, fun hmem => htaken ?_⟩
    obtain ⟨old, hold, heq⟩ := List.mem_map.mp hmem
    exact List.any_eq_true.mpr ⟨old, hold, by simp [heq]⟩

/-- Another opportunity comes to the table. -/
theorem Store.Sound.append_opportunity (h : s.Sound researchRunId) (o : ResearchOpportunityRecord)
    (hid : o.opportunityId ∉ s.opportunities.map (·.opportunityId))
    (hidentity : o.structuralIdentity ∉ s.identities) :
    Store.Sound researchRunId { s with opportunities := s.opportunities ++ [o] } ∧
      s.Grows { s with opportunities := s.opportunities ++ [o] } := by
  have hgrows : s.Grows { s with opportunities := s.opportunities ++ [o] } :=
    ⟨fun _ ho => List.mem_append_left _ ho, fun c hc => ⟨c, hc, rfl, fun _ => rfl⟩⟩
  have hnodup : ∀ {α : Type} {l : List α} {a : α}, l.Nodup → a ∉ l → (l ++ [a]).Nodup := by
    intro α l a hl ha
    rw [List.nodup_append]
    refine ⟨hl, by simp, fun b hb other hother heq => ?_⟩
    rw [List.mem_singleton.mp hother] at heq
    exact ha (heq ▸ hb)
  refine ⟨{ h with
    opportunityIds := ?_
    identities := ?_
    selected := fun row hrow => hgrows.refers (h.selected row hrow)
    settled := fun c hc => hgrows.settled (h.settled c hc) }, hgrows⟩
  · rw [List.map_append]
    exact hnodup h.opportunityIds hid
  · unfold Store.identities
    rw [List.map_append]
    exact hnodup h.identities hidentity

/-- A row comes to the decisions. -/
theorem Store.Sound.append_selection (h : s.Sound researchRunId) (row : ResearchSelectionRecord)
    (hrefers : row.outcome = .select →
      s.Refers researchRunId row.opportunityId row.structuralIdentity)
    (hnew : row.outcome = .select →
      row.structuralIdentity ∉ s.selectedRows.map (·.structuralIdentity)) :
    Store.Sound researchRunId { s with selections := s.selections ++ [row] } := by
  have hrows : Store.selectedRows { s with selections := s.selections ++ [row] } =
      s.selectedRows ++ [row].filter (·.outcome = .select) := List.filter_append ..
  by_cases hselect : row.outcome = .select
  · have hone : [row].filter (·.outcome = .select) = [row] := by simp [hselect]
    rw [hone] at hrows
    refine { h with selected := ?_, selectedOnce := ?_ }
    · intro r hr
      rw [hrows] at hr
      rcases List.mem_append.mp hr with hr | hr
      · exact h.selected r hr
      · rw [List.mem_singleton.mp hr]
        exact hrefers hselect
    · rw [hrows, List.map_append, List.nodup_append]
      refine ⟨h.selectedOnce, by simp, fun identity hmem other hother heq => ?_⟩
      obtain rfl : row.structuralIdentity = other := by simpa [eq_comm] using hother
      exact hnew hselect (heq ▸ hmem)
  · have hnone : [row].filter (·.outcome = .select) = [] := by simp [hselect]
    rw [hnone, List.append_nil] at hrows
    refine { h with selected := ?_, selectedOnce := ?_ }
    · rw [hrows]
      exact h.selected
    · rw [hrows]
      exact h.selectedOnce

/-- The candidates of `t` are those of `s`, decided or not. -/
def Store.SameProposals (s t : Store) : Prop :=
  ∀ c ∈ t.candidates, ∃ c' ∈ s.candidates, c.toCandidateProposal = c'.toCandidateProposal

theorem Store.SameProposals.refl (s : Store) : s.SameProposals s := fun c hc => ⟨c, hc, rfl⟩

theorem Store.SameProposals.trans {u : Store} (h : s.SameProposals t) (h' : t.SameProposals u) :
    s.SameProposals u := by
  intro c hc
  obtain ⟨c', hc', hsame⟩ := h' c hc
  obtain ⟨c'', hc'', hsame'⟩ := h c' hc'
  exact ⟨c'', hc'', hsame.trans hsame'⟩

/-- A candidate is decided.  The decision must say what is so. -/
theorem Store.Sound.markDecided (h : s.Sound researchRunId) {candidateId : CandidateId}
    {outcome : CandidateOutcome} {resulting : Option OpportunityId} {now : Instant}
    (hsettled : ∀ c ∈ s.candidates, c.candidateId = candidateId → s.Settled researchRunId
      { c with outcome := outcome, resultingOpportunityId := resulting, decidedAt := some now }) :
    (s.markDecided candidateId outcome resulting now).Sound researchRunId ∧
      s.Grows (s.markDecided candidateId outcome resulting now) ∧
      s.SameProposals (s.markDecided candidateId outcome resulting now) := by
  let decide_ : OpportunitySelectionCandidateRecord → OpportunitySelectionCandidateRecord :=
    fun c =>
      if c.candidateId = candidateId ∧ c.outcome = .pending then
        { c with
          outcome := outcome
          resultingOpportunityId := resulting
          decidedAt := some now }
      else c
  have hsame : ∀ c, (decide_ c).toCandidateProposal = c.toCandidateProposal := by
    intro c
    dsimp only [decide_]
    split <;> rfl
  have hcandidates : (s.markDecided candidateId outcome resulting now).candidates =
      s.candidates.map decide_ := rfl
  have hgrows : s.Grows (s.markDecided candidateId outcome resulting now) := by
    refine ⟨fun _ ho => ho, fun c hc => ⟨decide_ c, ?_, hsame c, fun hdecided => ?_⟩⟩
    · rw [hcandidates]
      exact List.mem_map.mpr ⟨c, hc, rfl⟩
    · exact if_neg fun hpending => hdecided hpending.2
  refine ⟨{ h with
    candidateIds := ?_
    candidateIdentities := ?_
    settled := ?_ }, hgrows, ?_⟩
  · have hids : (s.candidates.map decide_).map (·.candidateId) =
        s.candidates.map (·.candidateId) := by
      rw [List.map_map]
      exact List.map_congr_left fun c _ => congrArg (·.candidateId) (hsame c)
    rw [hcandidates, hids]
    exact h.candidateIds
  · have hids : (s.candidates.map decide_).map (·.structuralIdentity) =
        s.candidates.map (·.structuralIdentity) := by
      rw [List.map_map]
      exact List.map_congr_left fun c _ => congrArg (·.structuralIdentity) (hsame c)
    rw [hcandidates, hids]
    exact h.candidateIdentities
  · intro c hc
    rw [hcandidates] at hc
    obtain ⟨old, hold, rfl⟩ := List.mem_map.mp hc
    apply hgrows.settled
    dsimp only [decide_]
    by_cases hpending : old.candidateId = candidateId ∧ old.outcome = .pending
    · rw [if_pos hpending]
      exact hsettled old hold hpending.1
    · rw [if_neg hpending]
      exact h.settled old hold
  · intro c hc
    rw [hcandidates] at hc
    obtain ⟨old, hold, rfl⟩ := List.mem_map.mp hc
    exact ⟨old, hold, hsame old⟩

/-- A decision about a candidate is about what the candidate proposes, and only a
candidate that is retired is not admitted for good. -/
def Store.Backed (s : Store) (d : ResearchSelectionDecision) : Prop :=
  ∀ c ∈ s.candidates, d.opportunity.opportunityId = .candidate c.candidateId →
    c.structuralIdentity = d.opportunity.structuralIdentity ∧
      (candidateTerminalOutcome d.outcome = some .notAdmitted → s.Retired c)

theorem Store.Backed.mono {d : ResearchSelectionDecision} (h : s.Backed d)
    (hsame : s.SameProposals t) (hgrows : s.identities ⊆ t.identities) : t.Backed d := by
  intro c hc hid
  obtain ⟨c', hc', heq⟩ := hsame c hc
  have hcandidate : c.candidateId = c'.candidateId := congrArg (·.candidateId) heq
  have hidentity : c.structuralIdentity = c'.structuralIdentity :=
    congrArg CandidateProposal.structuralIdentity heq
  have hdimensions : c.dimensions = c'.dimensions := congrArg (·.dimensions) heq
  obtain ⟨hwhat, hretired⟩ := h c' hc' (hid.trans (by rw [hcandidate]))
  refine ⟨hidentity.trans hwhat, fun hterminal => ?_⟩
  unfold Store.Retired
  rw [hidentity, hdimensions]
  exact (hretired hterminal).imp_left fun hmem => hgrows hmem

/-- The end of a candidate whose decision will not change. -/
theorem Store.Sound.retire (h : s.Sound researchRunId) (now : Instant)
    (candidateIds : List CandidateId) {d : ResearchSelectionDecision} (hbacked : s.Backed d)
    (hselected : d.outcome = .select →
      s.Refers researchRunId d.opportunity.opportunityId d.opportunity.structuralIdentity) :
    (retire now candidateIds d s).Sound researchRunId ∧ s.Grows (retire now candidateIds d s) ∧
      s.SameProposals (retire now candidateIds d s) := by
  have hkept : s.Sound researchRunId ∧ s.Grows s ∧ s.SameProposals s := ⟨h, .refl s, .refl s⟩
  unfold Exploration.retire
  cases hid : d.opportunity.opportunityId with
  | diagnostic => exact hkept
  | candidate candidateId =>
    cases hterminal : candidateTerminalOutcome d.outcome with
    | none => exact hkept
    | some outcome =>
      dsimp only
      by_cases hpending : candidateIds.contains candidateId = true
      · rw [if_pos hpending]
        apply h.markDecided
        intro c hc hcandidate
        obtain ⟨hwhat, hretired⟩ := hbacked c hc (by rw [hid, hcandidate])
        -- only a selection admits, and only the two final refusals do not
        cases houtcome : d.outcome with
        | select =>
          rw [houtcome] at hterminal
          obtain rfl : CandidateOutcome.admitted = outcome := Option.some.inj hterminal
          have hrefers := hselected houtcome
          rw [hid, ← hwhat, ← hcandidate] at hrefers
          exact ⟨by simp [hcandidate], hrefers⟩
        | skipDuplicate =>
          rw [houtcome] at hterminal hretired
          obtain rfl : CandidateOutcome.notAdmitted = outcome := Option.some.inj hterminal
          exact ⟨rfl, hretired rfl⟩
        | blockedPolicy =>
          rw [houtcome] at hterminal hretired
          obtain rfl : CandidateOutcome.notAdmitted = outcome := Option.some.inj hterminal
          exact ⟨rfl, hretired rfl⟩
        | defer => rw [houtcome] at hterminal; cases hterminal
        | skipLowInformation => rw [houtcome] at hterminal; cases hterminal
        | blockedBudget => rw [houtcome] at hterminal; cases hterminal
        | needsMoreContext => rw [houtcome] at hterminal; cases hterminal
      · rw [if_neg hpending]
        exact hkept

/-- **One decision is written down.** -/
theorem recordDecision_spec {call : Call} {candidateIds : List CandidateId} {index : Nat}
    {d : ResearchSelectionDecision} (h : s.Sound researchRunId) (hbacked : s.Backed d)
    (hnew : d.selected = true → d.opportunity.structuralIdentity ∉ s.identities ∧
      d.opportunity.researchRunId = researchRunId)
    (hok : recordDecision researchRunId call candidateIds index d s = .ok t) :
    t.Sound researchRunId ∧ s.Grows t ∧ s.SameProposals t ∧
      (∀ identity ∈ t.identities, identity ∈ s.identities ∨
        d.selected = true ∧ identity = d.opportunity.structuralIdentity) ∧
      (d.selected = true →
        t.Refers researchRunId d.opportunity.opportunityId d.opportunity.structuralIdentity) := by
  obtain ⟨u, hinsert, hok⟩ := bind_eq_ok hok
  obtain ⟨-, -, hok⟩ := bind_eq_ok hok
  cases hok
  unfold writeOpportunity at hinsert
  -- the opportunity of a selection is written first
  have hu : u.Sound researchRunId ∧ s.Grows u ∧ s.SameProposals u ∧
      u.selectedRows = s.selectedRows ∧ (∀ identity ∈ u.identities, identity ∈ s.identities ∨
        d.selected = true ∧ identity = d.opportunity.structuralIdentity) ∧
      (d.selected = true →
        u.Refers researchRunId d.opportunity.opportunityId d.opportunity.structuralIdentity) := by
    by_cases hselected : d.selected = true
    · rw [if_pos hselected] at hinsert
      obtain ⟨hfresh, hrun⟩ := hnew hselected
      obtain ⟨rfl, hid⟩ := insertOpportunity_eq_ok hinsert hfresh
      obtain ⟨hsound, hgrows⟩ := h.append_opportunity
        { d.opportunity with createdAt := call.now } hid hfresh
      refine ⟨hsound, hgrows, .refl s, rfl, ?_, fun _ => ?_⟩
      · intro identity hmem
        unfold Store.identities at hmem
        rw [List.map_append] at hmem
        rcases List.mem_append.mp hmem with hmem | hmem
        · exact .inl hmem
        · exact .inr ⟨hselected, by simpa using hmem⟩
      · exact ⟨_, List.mem_append_right _ List.mem_cons_self, rfl, rfl, hrun⟩
    · rw [if_neg hselected] at hinsert
      cases hinsert
      exact ⟨h, .refl s, .refl s, rfl, fun _ => .inl, fun hyes => absurd hyes hselected⟩
  obtain ⟨hsound, hgrows, hsame, hrows, hidentities, hrefers⟩ := hu
  have hselect : d.outcome = .select → d.selected = true := fun houtcome => by
    simp [ResearchSelectionDecision.selected, houtcome]
  have hrow : Store.Sound researchRunId
      { u with selections := u.selections ++ [selectionRow researchRunId call index d] } := by
    refine hsound.append_selection _ (fun houtcome => hrefers (hselect houtcome)) ?_
    intro houtcome hmem
    rw [hrows] at hmem
    obtain ⟨row, hold, heq⟩ := List.mem_map.mp hmem
    have hwritten := (h.selected row hold).mem_identities
    rw [heq] at hwritten
    exact (hnew (hselect houtcome)).1 hwritten
  have hbacked' : Store.Backed
      { u with selections := u.selections ++ [selectionRow researchRunId call index d] } d :=
    hbacked.mono hsame hgrows.identities
  obtain ⟨hfinal, hgrows', hsame'⟩ := hrow.retire call.now candidateIds
    hbacked' fun houtcome => hrefers (hselect houtcome)
  have hwritten : (retire call.now candidateIds d
      { u with selections := u.selections ++ [selectionRow researchRunId call index d] }).identities
        = u.identities := by
    unfold Exploration.retire
    split
    · split <;> rfl
    · rfl
  refine ⟨hfinal, hgrows.trans ⟨hgrows'.opportunities, hgrows'.candidates⟩, hsame.trans hsame',
    ?_, fun hyes => hgrows'.refers (hrefers hyes)⟩
  rw [hwritten]
  exact hidentities

/-- **All decisions of a call are written down.** -/
theorem recordDecisions_spec {call : Call} {candidateIds : List CandidateId} {index : Nat}
    {decisions : List ResearchSelectionDecision} (h : s.Sound researchRunId)
    (hbacked : ∀ d ∈ decisions, s.Backed d)
    (hnew : ∀ d ∈ decisions, d.selected = true →
      d.opportunity.structuralIdentity ∉ s.identities ∧
        d.opportunity.researchRunId = researchRunId)
    (hnodup : ((decisions.filter (·.selected)).map (·.opportunity.structuralIdentity)).Nodup)
    (hok : recordDecisions researchRunId call candidateIds index decisions s = .ok t) :
    t.Sound researchRunId ∧ s.Grows t ∧ ∀ d ∈ decisions, d.selected = true →
      t.Refers researchRunId d.opportunity.opportunityId d.opportunity.structuralIdentity := by
  induction decisions generalizing s index with
  | nil =>
    cases hok
    exact ⟨h, .refl _, by simp⟩
  | cons d rest ih =>
    obtain ⟨u, hfirst, hrest⟩ := bind_eq_ok hok
    obtain ⟨hsound, hgrows, hsame, hidentities, hrefers⟩ := recordDecision_spec h
      (hbacked d List.mem_cons_self) (hnew d List.mem_cons_self) hfirst
    have hnodup' : ((rest.filter (·.selected)).map (·.opportunity.structuralIdentity)).Nodup :=
      hnodup.sublist (((List.sublist_cons_self d rest).filter _).map _)
    have hnew' : ∀ e ∈ rest, e.selected = true →
        e.opportunity.structuralIdentity ∉ u.identities ∧
          e.opportunity.researchRunId = researchRunId := by
      intro e he hselected
      obtain ⟨hfresh, hrun⟩ := hnew e (List.mem_cons_of_mem _ he) hselected
      refine ⟨fun hmem => ?_, hrun⟩
      rcases hidentities _ hmem with hold | ⟨hfirst, heq⟩
      · exact hfresh hold
      · -- the identity would be that of the decision just written
        rw [List.filter_cons_of_pos hfirst, List.map_cons, List.nodup_cons] at hnodup
        exact hnodup.1 (List.mem_map.mpr ⟨e, List.mem_filter.mpr ⟨he, hselected⟩, heq⟩)
    obtain ⟨hlast, hgrows', hreferred⟩ := ih hsound
      (fun e he => (hbacked e (List.mem_cons_of_mem _ he)).mono hsame hgrows.identities)
      hnew' hnodup' hrest
    refine ⟨hlast, hgrows.trans hgrows', fun e he hselected => ?_⟩
    rcases List.mem_cons.mp he with rfl | he
    · exact hgrows'.refers (hrefers hselected)
    · exact hreferred e he hselected

/-! ## The decisions of a call -/

theorem opportunityFromCandidate_eq_ok {lower : Text → Text}
    {c : OpportunitySelectionCandidateRecord} {o : ResearchOpportunity}
    (h : opportunityFromCandidate lower researchRunId c = .ok o) :
    o.opportunityId = .candidate c.candidateId ∧ o.structuralIdentity = c.structuralIdentity ∧
      o.dimensions = c.dimensions ∧ o.researchRunId = researchRunId := by
  obtain ⟨-, -, h⟩ := bind_eq_ok h
  obtain ⟨-, -, h⟩ := bind_eq_ok h
  obtain ⟨-, -, h⟩ := bind_eq_ok h
  cases h
  exact ⟨rfl, rfl, rfl, rfl⟩

/-- The kind of a proposal that a candidate source makes. -/
def OpportunityKind.fromSource (kind : OpportunityKind) : Prop :=
  kind = .hunterCoverageGap ∨ kind = .registryExternalExploratory

theorem CandidateProposal.fromSource (c : CandidateProposal) :
    c.structuralIdentity.kind.fromSource := by
  show c.opportunityKind.fromSource
  unfold CandidateProposal.opportunityKind
  cases c.sourceSystem with
  | hunterCoverage => exact .inl rfl
  | registryExternalAnomaly => exact .inr rfl

/-- A diagnostic opportunity is no candidate, and of another kind than any. -/
theorem of_mem_proposeDiagnosticOpportunities {cycle : Id} {sources : DiagnosticOpportunitySources}
    {o : ResearchOpportunity} (h : o ∈ proposeDiagnosticOpportunities researchRunId cycle sources) :
    (∀ id, o.opportunityId ≠ .candidate id) ∧ ¬ o.structuralIdentity.kind.fromSource ∧
      o.researchRunId = researchRunId := by
  obtain ⟨⟨p, index⟩, hp, rfl⟩ := List.mem_map.mp h
  have hmem : p ∈ diagnosticProposals sources := List.fst_mem_of_mem_zipIdx hp
  have hkind : ¬ p.kind.fromSource := by
    simp only [diagnosticProposals, List.mem_append, List.mem_map] at hmem
    rcases hmem with ((((⟨_, -, rfl⟩ | ⟨_, -, rfl⟩) | ⟨_, -, rfl⟩) | ⟨_, -, rfl⟩) | ⟨_, -, rfl⟩) |
      ⟨_, -, rfl⟩ <;> rintro (h | h) <;> cases h
  exact ⟨fun _ => nofun, hkind, rfl⟩

/-- What is known of the decisions of a call. -/
structure Decided (researchRunId : Id) (s : Store) (decisions : List ResearchSelectionDecision) :
    Prop where
  selected : ∀ d ∈ decisions, d.selected = true →
    d.opportunity.structuralIdentity ∉ s.identities ∧
      d.opportunity.researchRunId = researchRunId ∧
        d.opportunity.dimensions.sideEffectRequirement ≠ 3
  nodup : ((decisions.filter (·.selected)).map (·.opportunity.structuralIdentity)).Nodup
  candidates : ∀ d ∈ decisions, ∀ c ∈ s.candidates,
    d.opportunity.opportunityId = .candidate c.candidateId →
      c.structuralIdentity = d.opportunity.structuralIdentity ∧
        c.dimensions = d.opportunity.dimensions ∧
          (candidateTerminalOutcome d.outcome = some .notAdmitted → s.Retired c)

/-- **The decisions of a call.**  A candidate has an identity of its own among the
opportunities of the call, so that it is skipped as a duplicate only if its identity
was written before. -/
theorem decisionsOf_spec {lower : Text → Text} {call : Call}
    {decisions : List ResearchSelectionDecision} (h : s.Sound researchRunId)
    (hok : decisionsOf lower researchRunId call s = .ok decisions) :
    Decided researchRunId s decisions := by
  obtain ⟨candidates, hcandidates, hok⟩ := bind_eq_ok hok
  cases hok
  have hselection := selectResearchOpportunities_spec researchRunId
    (call.budget.getD .default) (negativesOf call.view.assessments) s.identities
    (proposeDiagnosticOpportunities researchRunId call.idPrefix call.sources ++ candidates)
  -- the pending candidates are candidates of the store, in another order
  have hperm : ∀ c ∈ s.pendingCandidates call, c ∈ s.candidates := fun c hc =>
    (call.order_perm s.candidates).subset (List.mem_of_mem_filter hc)
  have hdistinct : ((s.pendingCandidates call).map (·.structuralIdentity)).Nodup := by
    have hall := ((call.order_perm s.candidates).map (·.structuralIdentity)).nodup_iff.mpr
      h.candidateIdentities
    exact hall.sublist (List.filter_sublist.map _)
  have hmade : (candidates.map (·.structuralIdentity)).Nodup := by
    refine List.pairwise_map.mpr (pairwise_of_mapM_eq_ok hcandidates
      (List.pairwise_map.mp hdistinct) ?_)
    intro c c' o o' hne ho ho'
    rw [(opportunityFromCandidate_eq_ok ho).2.1, (opportunityFromCandidate_eq_ok ho').2.1]
    exact hne
  refine ⟨hselection.selected, hselection.nodup, ?_⟩
  intro d hd c hc hid
  have hopportunity : d.opportunity ∈ candidates := by
    rcases List.mem_append.mp (hselection.mem d hd) with hgenerated | hmem
    · exact absurd hid ((of_mem_proposeDiagnosticOpportunities hgenerated).1 _)
    · exact hmem
  obtain ⟨c', hc', hfrom⟩ := mem_of_mapM_eq_ok hcandidates hopportunity
  obtain ⟨hid', hidentity, hdimensions, hrun⟩ := opportunityFromCandidate_eq_ok hfrom
  have hcandidate : c.candidateId = c'.candidateId :=
    OpportunityId.candidate.inj (hid.symm.trans hid')
  obtain rfl : c = c' :=
    List.inj_on_of_nodup_map h.candidateIds hc (hperm c' hc') hcandidate
  refine ⟨hidentity.symm, hdimensions.symm, fun hterminal => ?_⟩
  unfold Store.Retired
  rw [← hidentity, ← hdimensions]
  cases houtcome : d.outcome with
  | skipDuplicate =>
    rcases hselection.duplicates d hd houtcome with hold | htwice
    · exact .inl hold
    · -- its identity is not that of a diagnostic opportunity, and of no other candidate
      have hgenerated : ((proposeDiagnosticOpportunities researchRunId call.idPrefix
          call.sources).map (·.structuralIdentity)).count d.opportunity.structuralIdentity = 0 := by
        rw [List.count_eq_zero]
        intro hmem
        obtain ⟨o, ho, heq⟩ := List.mem_map.mp hmem
        apply (of_mem_proposeDiagnosticOpportunities ho).2.1
        rw [heq, hidentity]
        exact c.fromSource
      have hone := List.nodup_iff_count_le_one.mp hmade d.opportunity.structuralIdentity
      rw [List.map_append, List.count_append, hgenerated] at htwice
      omega
  | blockedPolicy =>
    rcases hselection.blocked d hd houtcome with hother | hside
    · exact absurd hrun hother
    · exact .inr hside
  | select => rw [houtcome] at hterminal; cases hterminal
  | defer => rw [houtcome] at hterminal; cases hterminal
  | skipLowInformation => rw [houtcome] at hterminal; cases hterminal
  | blockedBudget => rw [houtcome] at hterminal; cases hterminal
  | needsMoreContext => rw [houtcome] at hterminal; cases hterminal

/-- **One call.** -/
theorem execute_spec {lower : Text → Text} {call : Call}
    {decisions : List ResearchSelectionDecision} (h : s.Sound researchRunId)
    (hok : execute lower researchRunId call s = .ok (t, decisions)) :
    t.Sound researchRunId ∧ s.Grows t ∧ ∀ d ∈ decisions, d.selected = true →
      t.Refers researchRunId d.opportunity.opportunityId d.opportunity.structuralIdentity := by
  obtain ⟨-, -, hok⟩ := bind_eq_ok hok
  obtain ⟨decided, hdecided, hok⟩ := bind_eq_ok hok
  obtain ⟨final, hfinal, hok⟩ := bind_eq_ok hok
  cases hok
  obtain ⟨hadmitted, hgrows, -⟩ := h.admitted call
  have hfacts := decisionsOf_spec hadmitted hdecided
  obtain ⟨hsound, hgrows', hrefers⟩ := recordDecisions_spec hadmitted
    (fun d hd c hc hid =>
      let ⟨hidentity, _, hretired⟩ := hfacts.candidates d hd c hc hid
      ⟨hidentity, hretired⟩)
    (fun d hd hselected =>
      let ⟨hfresh, hrun, _⟩ := hfacts.selected d hd hselected
      ⟨hfresh, hrun⟩)
    hfacts.nodup hfinal
  exact ⟨hsound, hgrows.trans hgrows', hrefers⟩

end Steps

/-! ## Histories -/

/-- A step of a history of the run. -/
inductive Move where
  | call (call : Call)
  /-- A call is cut off or meets an error of the database, and is rolled back. -/
  | fails (call : Call)
  /-- A producer leaves a candidate. -/
  | propose (c : CandidateProposal)
  /-- Another use case writes an opportunity. -/
  | write (o : ResearchOpportunityRecord)

/-- Another use case writes an opportunity, unless its identifier or its identity is
taken. -/
def Store.write (s : Store) (o : ResearchOpportunityRecord) : Store :=
  if o.opportunityId ∈ s.opportunities.map (·.opportunityId) ∨
      o.structuralIdentity ∈ s.identities then s
  else { s with opportunities := s.opportunities ++ [o] }

/-- The state that a step leaves, and the decisions of a call that goes through. -/
def step (lower : Text → Text) (researchRunId : Id) (s : Store) :
    Move → Store × Option (List ResearchSelectionDecision)
  | .call call =>
    let (t, r) := UnitOfWork.Prog.attempted (execute lower researchRunId call) s
    (t, r.toOption)
  | .fails _ => (s, none)
  | .propose c => (s.propose c, none)
  | .write o => (s.write o, none)

/-- The state that a history leaves. -/
def play (lower : Text → Text) (researchRunId : Id) : Store → List Move → Store
  | s, [] => s
  | s, move :: moves => play lower researchRunId (step lower researchRunId s move).1 moves

/-- The tables of a run that has just begun. -/
def Store.empty : Store := ⟨[], [], []⟩

section Histories

variable {lower : Text → Text} {researchRunId : Id} {s : Store}

theorem play_append (moves later : List Move) :
    play lower researchRunId s (moves ++ later) =
      play lower researchRunId (play lower researchRunId s moves) later := by
  induction moves generalizing s with
  | nil => rfl
  | cons move moves ih => exact ih

theorem Store.sound_empty (researchRunId : Id) : Store.empty.Sound researchRunId where
  opportunityIds := List.nodup_nil
  identities := List.nodup_nil
  candidateIds := List.nodup_nil
  candidateIdentities := List.nodup_nil
  selected := by simp [Store.selectedRows, Store.empty]
  selectedOnce := List.nodup_nil
  settled := by simp [Store.empty]

theorem Store.Sound.step (h : s.Sound researchRunId) (lower : Text → Text) (move : Move) :
    (step lower researchRunId s move).1.Sound researchRunId ∧
      s.Grows (step lower researchRunId s move).1 ∧
      ∀ decisions, (step lower researchRunId s move).2 = some decisions →
        ∀ d ∈ decisions, d.selected = true → (step lower researchRunId s move).1.Refers
          researchRunId d.opportunity.opportunityId d.opportunity.structuralIdentity := by
  cases move with
  | fails call => exact ⟨h, .refl s, fun _ hnone => by cases hnone⟩
  | propose c =>
    obtain ⟨hsound, hgrows⟩ := h.propose c
    exact ⟨hsound, hgrows, fun _ hnone => by cases hnone⟩
  | write o =>
    show (s.write o).Sound researchRunId ∧ s.Grows (s.write o) ∧ _
    unfold Store.write
    by_cases htaken : o.opportunityId ∈ s.opportunities.map (·.opportunityId) ∨
        o.structuralIdentity ∈ s.identities
    · rw [if_pos htaken]
      exact ⟨h, .refl s, fun _ hnone => by cases hnone⟩
    · rw [if_neg htaken]
      obtain ⟨hid, hidentity⟩ := not_or.mp htaken
      obtain ⟨hsound, hgrows⟩ := h.append_opportunity o hid hidentity
      exact ⟨hsound, hgrows, fun _ hnone => by cases hnone⟩
  | call call =>
    cases hexecute : execute lower researchRunId call s with
    | error message =>
      have hstep : Exploration.step lower researchRunId s (.call call) = (s, none) := by
        simp [Exploration.step, UnitOfWork.Prog.attempted, hexecute, Except.toOption]
      rw [hstep]
      exact ⟨h, .refl s, by simp⟩
    | ok answered =>
      obtain ⟨t, decisions⟩ := answered
      have hstep : Exploration.step lower researchRunId s (.call call) = (t, some decisions) := by
        simp [Exploration.step, UnitOfWork.Prog.attempted, hexecute, Except.toOption]
      rw [hstep]
      obtain ⟨hsound, hgrows, hrefers⟩ := execute_spec h hexecute
      refine ⟨hsound, hgrows, fun answered hanswered => ?_⟩
      cases hanswered
      exact hrefers

theorem Store.Sound.play (h : s.Sound researchRunId) (lower : Text → Text) (moves : List Move) :
    (play lower researchRunId s moves).Sound researchRunId ∧
      s.Grows (play lower researchRunId s moves) := by
  induction moves generalizing s with
  | nil => exact ⟨h, .refl s⟩
  | cons move moves ih =>
    obtain ⟨hsound, hgrows, -⟩ := h.step lower move
    obtain ⟨hlast, hgrows'⟩ := ih hsound
    exact ⟨hlast, hgrows.trans hgrows'⟩

/-- The tables as they would be if the candidate had been left pending. -/
def Store.reopen (s : Store) (candidateId : CandidateId) : Store :=
  { s with
    candidates := s.candidates.map fun c =>
      if c.candidateId = candidateId then c.pending else c }

theorem Store.Sound.reopen (h : s.Sound researchRunId) (candidateId : CandidateId) :
    (s.reopen candidateId).Sound researchRunId := by
  have hsame : ∀ c : OpportunitySelectionCandidateRecord,
      (if c.candidateId = candidateId then c.pending else c).toCandidateProposal =
        c.toCandidateProposal := by
    intro c
    split <;> rfl
  refine { h with
    candidateIds := ?_
    candidateIdentities := ?_
    settled := ?_ }
  · unfold Store.reopen
    rw [List.map_map]
    have hids : s.candidates.map ((·.candidateId) ∘ fun c : OpportunitySelectionCandidateRecord =>
        if c.candidateId = candidateId then c.pending else c) =
          s.candidates.map (·.candidateId) :=
      List.map_congr_left fun c _ => congrArg (·.candidateId) (hsame c)
    rw [hids]
    exact h.candidateIds
  · unfold Store.reopen
    rw [List.map_map]
    have hids : s.candidates.map ((·.structuralIdentity) ∘
        fun c : OpportunitySelectionCandidateRecord =>
          if c.candidateId = candidateId then c.pending else c) =
            s.candidates.map (·.structuralIdentity) :=
      List.map_congr_left fun c _ => congrArg CandidateProposal.structuralIdentity (hsame c)
    rw [hids]
    exact h.candidateIdentities
  · intro c hc
    obtain ⟨old, hold, rfl⟩ := List.mem_map.mp hc
    by_cases hid : old.candidateId = candidateId
    · rw [if_pos hid]
      rfl
    · rw [if_neg hid]
      exact h.settled old hold

/-- **A candidate that was not admitted is selected by no call**, even if it were
pending again. -/
theorem Store.Sound.not_selected (h : s.Sound researchRunId)
    {c : OpportunitySelectionCandidateRecord} (hc : c ∈ s.candidates)
    (houtcome : c.outcome = .notAdmitted) {call : Call}
    {decisions : List ResearchSelectionDecision}
    (hok : decisionsOf lower researchRunId call (call.admitted (s.reopen c.candidateId)) =
      .ok decisions) {d : ResearchSelectionDecision} (hd : d ∈ decisions)
    (hid : d.opportunity.opportunityId = .candidate c.candidateId) : d.selected = false := by
  have hreopened := h.reopen c.candidateId
  obtain ⟨hadmitted, hgrows, hidentities⟩ := hreopened.admitted call
  have hmem : c.pending ∈ (s.reopen c.candidateId).candidates :=
    List.mem_map.mpr ⟨c, hc, if_pos rfl⟩
  obtain ⟨c', hc', hsame, -⟩ := hgrows.candidates _ hmem
  have hcandidate : c'.candidateId = c.candidateId := congrArg (·.candidateId) hsame
  have hidentity : c'.structuralIdentity = c.structuralIdentity :=
    congrArg CandidateProposal.structuralIdentity hsame
  have hdimensions : c'.dimensions = c.dimensions := congrArg (·.dimensions) hsame
  have hfacts := decisionsOf_spec hadmitted hok
  obtain ⟨hwhat, hneeds, -⟩ := hfacts.candidates d hd c' hc' (hid.trans (by rw [hcandidate]))
  have hsettled := h.settled c hc
  unfold Store.Settled at hsettled
  rw [houtcome] at hsettled
  by_contra hselected
  obtain ⟨hfresh, -, hside⟩ := hfacts.selected d hd (by simpa using hselected)
  rcases hsettled.2 with hwritten | hlevel
  · apply hfresh
    rw [← hwhat, hidentity, hidentities]
    exact hwritten
  · apply hside
    rw [← hneeds, hdimensions]
    exact hlevel

/-- A candidate is admitted exactly when it names an opportunity that is there. -/
theorem Store.Settled.admitted_iff {c : OpportunitySelectionCandidateRecord}
    (h : s.Settled researchRunId c) : c.outcome = .admitted ↔
      ∃ id, c.resultingOpportunityId = some id ∧ ∃ o ∈ s.opportunities, o.opportunityId = id := by
  unfold Store.Settled at h
  cases houtcome : c.outcome with
  | pending =>
    rw [houtcome] at h
    simp [show c.resultingOpportunityId = none from h]
  | notAdmitted =>
    rw [houtcome] at h
    simp [h.1]
  | admitted =>
    rw [houtcome] at h
    obtain ⟨hresult, o, ho, hid, -⟩ := h
    exact ⟨fun _ => ⟨_, hresult, o, ho, hid⟩, fun _ => rfl⟩

end Histories

end Zest.Exploration
