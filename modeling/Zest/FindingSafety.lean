import Zest.FindingWorkflow

/-! # No finding without a human

`Wrote` says once what a unit of work of the workflow can have written, with
what it has checked before.  From it come the invariant `Sound` and the way that
`Advances` allows each proposal, and from these what holds of the calls in any
order.
-/
namespace Zest.Findings

open Hunt Verification UnitOfWork Interleaving TransitionSystem

variable (contentFingerprint : ProposalContent → Text)

/-- A human has approved the finding: there are a review of what the proposal
says now, and a recorded approval of it. -/
structure ApprovedByHuman (db : FindingDatabase) (finding : FindingRecord)
    (proposal : FindingProposalRecord) (review : HumanReviewRecord) (approval : ApprovalRecord) :
    Prop where
  proposal_mem : proposal ∈ db.findingProposals
  proposal_id : proposal.proposalId = finding.findingProposalId
  review_mem : review ∈ db.humanReviews
  review_id : review.reviewId = finding.humanReviewId
  review_proposal : review.proposalId = proposal.proposalId
  decision : review.decision = .approve
  reviewer : review.actorType = .humanOperator
  fingerprint : review.contentFingerprint = contentFingerprint proposal.content
  approval_mem : approval ∈ db.approvals
  approval_id : approval.approvalId = finding.approvalId
  approval_proposal : approval.proposalId = proposal.proposalId
  approver : approval.actorType = .humanOperator
  recorded : approval.recorded = true

/-- What holds of the tables at any time. -/
structure Sound (db : FindingDatabase) : Prop where
  human : ∀ finding ∈ db.findings, ∃ proposal review approval,
    ApprovedByHuman contentFingerprint db finding proposal review approval
  oneProposal : (db.findingProposals.map (·.proposalId)).Nodup
  oneApproval : (db.approvals.map (·.proposalId)).Nodup
  oneFinding : (db.findings.map (·.findingProposalId)).Nodup
  approved : ∀ proposal ∈ db.findingProposals,
    proposal.state = .approved ↔ ∃ finding ∈ db.findings,
      finding.findingProposalId = proposal.proposalId
  decided : ∀ approval ∈ db.approvals, ∃ proposal ∈ db.findingProposals,
    proposal.proposalId = approval.proposalId ∧ proposal.state.Decided
  fingerprint : ∀ proposal ∈ db.findingProposals,
    proposal.contentFingerprint = contentFingerprint proposal.content

/-- Between two states, every proposal keeps what it says, and stays where it is
or takes a legal transition; a new one is `PROPOSED`. -/
structure Advances (s t : FindingDatabase) : Prop where
  kept : ∀ p ∈ s.findingProposals, ∃ q ∈ t.findingProposals,
    q.proposalId = p.proposalId ∧ q.content = p.content ∧
      (q.state = p.state ∨ (p.state, q.state) ∈ legalFindingProposalTransitions)
  fresh : ∀ q ∈ t.findingProposals,
    q.state = .proposed ∨ ∃ p ∈ s.findingProposals, p.proposalId = q.proposalId

/-- **What a unit of work can have written.** -/
inductive Wrote (s : FindingDatabase) : FindingDatabase → Prop
  | nothing : Wrote s s
  | verified (core : Database) : Wrote s { s with core := core }
  | proposed (p : FindingProposalRecord) (hstate : p.state = .proposed)
      (hfingerprint : p.contentFingerprint = contentFingerprint p.content)
      (hnew : ∀ q ∈ s.findingProposals, q.proposalId ≠ p.proposalId) :
      Wrote s { s with findingProposals := s.findingProposals ++ [p] }
  | started (p : FindingProposalRecord) (hp : p ∈ s.findingProposals)
      (hstate : p.state = .proposed) : Wrote s (s.moved p.proposalId .humanReview)
  | reviewed (r : HumanReviewRecord) : Wrote s { s with humanReviews := s.humanReviews ++ [r] }
  | rejected (p : FindingProposalRecord) (a : ApprovalRecord) (hp : p ∈ s.findingProposals)
      (hstate : p.state = .humanReview) (ha : a.proposalId = p.proposalId) :
      Wrote s ({ s with approvals := s.approvals ++ [a] }.moved p.proposalId .rejected)
  | approved (p : FindingProposalRecord) (r : HumanReviewRecord) (a : ApprovalRecord)
      (f : FindingRecord) (hstate : p.state = .humanReview)
      (happroved : ApprovedByHuman contentFingerprint
        { s with approvals := s.approvals ++ [a] } f p r a) :
      Wrote s { ({ s with approvals := s.approvals ++ [a] }.moved p.proposalId .approved) with
        findings := s.findings ++ [f] }

/-- A row with a new key is added. -/
theorem nodup_map_append {α β : Type} {key : α → β} {rows : List α} {row : α}
    (h : (rows.map key).Nodup) (hnew : ∀ r ∈ rows, key r ≠ key row) :
    ((rows ++ [row]).map key).Nodup := by
  rw [List.map_append, List.nodup_append]
  refine ⟨h, List.nodup_singleton _, ?_⟩
  rintro _ hmem _ hlast rfl
  obtain ⟨r, hr, hkey⟩ := List.mem_map.mp hmem
  exact hnew r hr (hkey.trans (List.mem_singleton.mp hlast))

/-! ## The rows of a proposal that moves -/

section Moved

variable {db : FindingDatabase} {id : Id} {state : FindingProposalState}
variable {p q : FindingProposalRecord}

theorem mem_moved : q ∈ (db.moved id state).findingProposals ↔
    ∃ p ∈ db.findingProposals,
      q = if p.proposalId = id then { p with state := state } else p := by
  simp [FindingDatabase.moved, eq_comm]

/-- A row that does not move keeps its state. -/
theorem mem_moved_of_ne (hq : q ∈ db.findingProposals) (hne : q.proposalId ≠ id) :
    q ∈ (db.moved id state).findingProposals :=
  mem_moved.mpr ⟨q, hq, (if_neg hne).symm⟩

theorem mem_moved_self (hp : p ∈ db.findingProposals) :
    { p with state := state } ∈ (db.moved p.proposalId state).findingProposals :=
  mem_moved.mpr ⟨p, hp, (if_pos rfl).symm⟩

/-- Every row keeps all but its state. -/
theorem exists_moved (id : Id) (state : FindingProposalState) (hp : p ∈ db.findingProposals) :
    ∃ q ∈ (db.moved id state).findingProposals,
      q.proposalId = p.proposalId ∧ q.content = p.content := by
  by_cases hid : p.proposalId = id
  · subst hid
    exact ⟨_, mem_moved_self hp, rfl, rfl⟩
  · exact ⟨p, mem_moved_of_ne hp hid, rfl, rfl⟩

theorem moved_ids : (db.moved id state).findingProposals.map (·.proposalId) =
    db.findingProposals.map (·.proposalId) := by
  simp only [FindingDatabase.moved, List.map_map]
  refine List.map_congr_left fun p _ => ?_
  show (if p.proposalId = id then { p with state := state } else p).proposalId = p.proposalId
  split <;> rfl

end Moved

section Invariant

variable {contentFingerprint} {s t : FindingDatabase} {p q : FindingProposalRecord}

/-- A proposal is found by its id alone. -/
theorem Sound.eq_of_id (h : Sound contentFingerprint s) (hp : p ∈ s.findingProposals)
    (hq : q ∈ s.findingProposals) (hid : p.proposalId = q.proposalId) : p = q :=
  List.inj_on_of_nodup_map h.oneProposal hp hq hid

/-- An undecided proposal has no approval. -/
theorem Sound.no_approval (h : Sound contentFingerprint s) (hp : p ∈ s.findingProposals)
    (hstate : ¬p.state.Decided) {a : ApprovalRecord} (ha : a ∈ s.approvals) :
    a.proposalId ≠ p.proposalId := by
  intro hid
  obtain ⟨q, hq, hqid, hdecided⟩ := h.decided a ha
  rw [h.eq_of_id hq hp (hqid.trans hid)] at hdecided
  exact hstate hdecided

/-- A proposal that is not approved has no finding. -/
theorem Sound.no_finding (h : Sound contentFingerprint s) (hp : p ∈ s.findingProposals)
    (hstate : p.state ≠ .approved) {f : FindingRecord} (hf : f ∈ s.findings) :
    f.findingProposalId ≠ p.proposalId :=
  fun hid => hstate ((h.approved p hp).mpr ⟨f, hf, hid⟩)

/-- Approval by a human stays where no row is taken away and no proposal changes
what it says. -/
theorem ApprovedByHuman.kept {f : FindingRecord} {r : HumanReviewRecord} {a : ApprovalRecord}
    (h : ApprovedByHuman contentFingerprint s f p r a) (hq : q ∈ t.findingProposals)
    (hid : q.proposalId = p.proposalId) (hcontent : q.content = p.content)
    (hreviews : s.humanReviews ⊆ t.humanReviews) (happrovals : s.approvals ⊆ t.approvals) :
    ApprovedByHuman contentFingerprint t f q r a where
  proposal_mem := hq
  proposal_id := hid.trans h.proposal_id
  review_mem := hreviews h.review_mem
  review_id := h.review_id
  review_proposal := h.review_proposal.trans hid.symm
  decision := h.decision
  reviewer := h.reviewer
  fingerprint := hcontent ▸ h.fingerprint
  approval_mem := happrovals h.approval_mem
  approval_id := h.approval_id
  approval_proposal := h.approval_proposal.trans hid.symm
  approver := h.approver
  recorded := h.recorded

/-- A legal move of one proposal. -/
theorem Sound.advances_moved (h : Sound contentFingerprint s) (hp : p ∈ s.findingProposals)
    (state : FindingProposalState)
    (hlegal : (p.state, state) ∈ legalFindingProposalTransitions) :
    Advances s (s.moved p.proposalId state) := by
  constructor
  · intro q hq
    by_cases hid : q.proposalId = p.proposalId
    · obtain rfl : q = p := h.eq_of_id hq hp hid
      exact ⟨_, mem_moved_self hp, rfl, rfl, Or.inr hlegal⟩
    · exact ⟨q, mem_moved_of_ne hq hid, rfl, rfl, Or.inl rfl⟩
  · intro q hq
    obtain ⟨p', hp', rfl⟩ := mem_moved.mp hq
    refine Or.inr ⟨p', hp', ?_⟩
    split <;> rfl

/-! ## Each write keeps the invariant -/

theorem Sound.verified (h : Sound contentFingerprint s) (core : Database) :
    Sound contentFingerprint { s with core := core } where
  human f hf := by
    obtain ⟨p, r, a, happroved⟩ := h.human f hf
    exact ⟨p, r, a, happroved.kept happroved.proposal_mem rfl rfl (fun _ => id) fun _ => id⟩
  oneProposal := h.oneProposal
  oneApproval := h.oneApproval
  oneFinding := h.oneFinding
  approved := h.approved
  decided := h.decided
  fingerprint := h.fingerprint

theorem Sound.reviewed (h : Sound contentFingerprint s) (r : HumanReviewRecord) :
    Sound contentFingerprint { s with humanReviews := s.humanReviews ++ [r] } where
  human f hf := by
    obtain ⟨p, r', a, happroved⟩ := h.human f hf
    exact ⟨p, r', a, happroved.kept happroved.proposal_mem rfl rfl
      (List.subset_append_left _ _) fun _ => id⟩
  oneProposal := h.oneProposal
  oneApproval := h.oneApproval
  oneFinding := h.oneFinding
  approved := h.approved
  decided := h.decided
  fingerprint := h.fingerprint

/-- A proposal is added: nothing is about it yet. -/
theorem Sound.proposed (h : Sound contentFingerprint s) (hstate : p.state = .proposed)
    (hfingerprint : p.contentFingerprint = contentFingerprint p.content)
    (hnew : ∀ q ∈ s.findingProposals, q.proposalId ≠ p.proposalId) :
    Sound contentFingerprint { s with findingProposals := s.findingProposals ++ [p] } where
  human f hf := by
    obtain ⟨p', r, a, happroved⟩ := h.human f hf
    exact ⟨p', r, a, happroved.kept (List.mem_append_left _ happroved.proposal_mem) rfl rfl
      (fun _ => id) fun _ => id⟩
  oneProposal := nodup_map_append h.oneProposal hnew
  oneApproval := h.oneApproval
  oneFinding := h.oneFinding
  approved q hq := by
    rcases List.mem_append.mp hq with hq | hq
    · exact h.approved q hq
    · obtain rfl := List.mem_singleton.mp hq
      constructor
      · intro happroved
        rw [hstate] at happroved
        cases happroved
      · rintro ⟨f, hf, hid⟩
        obtain ⟨p', r, a, happroved⟩ := h.human f hf
        exact absurd (happroved.proposal_id.trans hid) (hnew p' happroved.proposal_mem)
  decided a ha := by
    obtain ⟨q, hq, hid, hdecided⟩ := h.decided a ha
    exact ⟨q, List.mem_append_left _ hq, hid, hdecided⟩
  fingerprint q hq := by
    rcases List.mem_append.mp hq with hq | hq
    · exact h.fingerprint q hq
    · obtain rfl := List.mem_singleton.mp hq
      exact hfingerprint

/-- What a row of `t` was, when one undecided proposal has moved. -/
theorem Sound.moved_fingerprint (h : Sound contentFingerprint s) {id : Id}
    {state : FindingProposalState} (hq : q ∈ (s.moved id state).findingProposals) :
    q.contentFingerprint = contentFingerprint q.content := by
  obtain ⟨p, hp, rfl⟩ := mem_moved.mp hq
  split
  · exact h.fingerprint p hp
  · exact h.fingerprint p hp

/-- An undecided proposal moves, and no finding is written. -/
theorem Sound.moved (h : Sound contentFingerprint s) (hp : p ∈ s.findingProposals)
    (hstate : ¬p.state.Decided) {state : FindingProposalState} (hnew : state ≠ .approved) :
    Sound contentFingerprint (s.moved p.proposalId state) where
  human f hf := by
    obtain ⟨p', r, a, happroved⟩ := h.human f hf
    obtain ⟨q, hq, hid, hcontent⟩ := exists_moved p.proposalId state happroved.proposal_mem
    exact ⟨q, r, a, happroved.kept hq hid hcontent (fun _ => id) fun _ => id⟩
  oneProposal := moved_ids.symm ▸ h.oneProposal
  oneApproval := h.oneApproval
  oneFinding := h.oneFinding
  approved q hq := by
    obtain ⟨p', hp', rfl⟩ := mem_moved.mp hq
    split
    next hid =>
      -- The row that has moved: it was not approved, and is not now.
      refine ⟨fun happroved => absurd happroved hnew, ?_⟩
      rintro ⟨f, hf, hfid⟩
      exact absurd (hfid.trans hid)
        (h.no_finding hp (fun happroved => hstate (Or.inl happroved)) hf)
    next => exact h.approved p' hp'
  decided a ha := by
    obtain ⟨q, hq, hid, hdecided⟩ := h.decided a ha
    have hne : q.proposalId ≠ p.proposalId := fun hsame => h.no_approval hp hstate ha
      (hid.symm.trans hsame)
    exact ⟨q, mem_moved_of_ne hq hne, hid, hdecided⟩
  fingerprint _ hq := h.moved_fingerprint hq

/-- An approval of a proposal that has just been decided. -/
theorem Sound.withApproval (h : Sound contentFingerprint s) {a : ApprovalRecord}
    (hp : p ∈ s.findingProposals) (ha : a.proposalId = p.proposalId) (hstate : p.state.Decided)
    (hnone : ∀ a' ∈ s.approvals, a'.proposalId ≠ p.proposalId) :
    Sound contentFingerprint { s with approvals := s.approvals ++ [a] } where
  human f hf := by
    obtain ⟨p', r, a', happroved⟩ := h.human f hf
    exact ⟨p', r, a', happroved.kept happroved.proposal_mem rfl rfl (fun _ => id)
      (List.subset_append_left _ _)⟩
  oneProposal := h.oneProposal
  oneApproval := nodup_map_append h.oneApproval fun a' ha' => ha ▸ hnone a' ha'
  oneFinding := h.oneFinding
  approved := h.approved
  decided a' ha' := by
    rcases List.mem_append.mp ha' with ha' | ha'
    · exact h.decided a' ha'
    · obtain rfl := List.mem_singleton.mp ha'
      exact ⟨p, hp, ha.symm, hstate⟩
  fingerprint := h.fingerprint

/-- A proposal is approved, and its finding is written. -/
theorem Sound.approve (h : Sound contentFingerprint s) {r : HumanReviewRecord}
    {a : ApprovalRecord} {f : FindingRecord} (hundecided : ¬p.state.Decided)
    (happroved : ApprovedByHuman contentFingerprint
      { s with approvals := s.approvals ++ [a] } f p r a) :
    Sound contentFingerprint
      { ({ s with approvals := s.approvals ++ [a] }.moved p.proposalId .approved) with
        findings := s.findings ++ [f] } where
  human f' hf' := by
    rcases List.mem_append.mp hf' with hf' | hf'
    · obtain ⟨p', r', a', hhuman⟩ := h.human f' hf'
      obtain ⟨q, hq, hid, hcontent⟩ :=
        exists_moved p.proposalId .approved hhuman.proposal_mem
      exact ⟨q, r', a', hhuman.kept hq hid hcontent (fun _ => id) (List.subset_append_left _ _)⟩
    · obtain rfl := List.mem_singleton.mp hf'
      exact ⟨_, r, a, happroved.kept (mem_moved_self happroved.proposal_mem) rfl rfl
        (fun _ => id) fun _ => id⟩
  oneProposal := moved_ids.symm ▸ h.oneProposal
  oneApproval := by
    refine nodup_map_append h.oneApproval fun a' ha' => ?_
    rw [happroved.approval_proposal]
    exact h.no_approval happroved.proposal_mem hundecided ha'
  oneFinding := by
    refine nodup_map_append h.oneFinding fun f' hf' => ?_
    rw [← happroved.proposal_id]
    exact h.no_finding happroved.proposal_mem (fun hs => hundecided (Or.inl hs)) hf'
  approved q hq := by
    obtain ⟨p', hp', rfl⟩ := mem_moved.mp hq
    split
    next hid =>
      exact ⟨fun _ => ⟨f, List.mem_append_right _ (List.mem_singleton.mpr rfl),
        happroved.proposal_id.symm.trans hid.symm⟩, fun _ => rfl⟩
    next hne =>
      -- The finding is not about this row, so that nothing has changed for it.
      rw [h.approved p' hp']
      constructor
      · rintro ⟨f', hf', hfid⟩
        exact ⟨f', List.mem_append_left _ hf', hfid⟩
      · rintro ⟨f', hf', hfid⟩
        rcases List.mem_append.mp hf' with hf' | hf'
        · exact ⟨f', hf', hfid⟩
        · obtain rfl := List.mem_singleton.mp hf'
          exact absurd (hfid.symm.trans happroved.proposal_id.symm) hne
  decided a' ha' := by
    rcases List.mem_append.mp ha' with ha' | ha'
    · obtain ⟨q, hq, hid, hdecided⟩ := h.decided a' ha'
      have hne : q.proposalId ≠ p.proposalId := fun hsame =>
        h.no_approval happroved.proposal_mem hundecided ha' (hid.symm.trans hsame)
      exact ⟨q, mem_moved_of_ne hq hne, hid, hdecided⟩
    · obtain rfl := List.mem_singleton.mp ha'
      exact ⟨_, mem_moved_self happroved.proposal_mem, happroved.approval_proposal.symm,
        Or.inl rfl⟩
  fingerprint _ hq := h.moved_fingerprint hq

theorem not_decided_proposed (h : p.state = .proposed) : ¬p.state.Decided := by
  rintro (hs | hs) <;> rw [h] at hs <;> cases hs

theorem not_decided_humanReview (h : p.state = .humanReview) : ¬p.state.Decided := by
  rintro (hs | hs) <;> rw [h] at hs <;> cases hs

/-- **One unit of work** keeps the invariant. -/
theorem Wrote.sound (h : Wrote contentFingerprint s t) (hs : Sound contentFingerprint s) :
    Sound contentFingerprint t := by
  cases h with
  | nothing => exact hs
  | verified core => exact hs.verified core
  | proposed p hstate hfingerprint hnew => exact hs.proposed hstate hfingerprint hnew
  | started p hp hstate => exact hs.moved hp (not_decided_proposed hstate) (by decide)
  | reviewed r => exact hs.reviewed r
  | rejected p a hp hstate ha =>
    have hundecided := not_decided_humanReview hstate
    exact (hs.moved hp hundecided (by decide)).withApproval (mem_moved_self hp) ha (Or.inr rfl)
      fun a' ha' => hs.no_approval hp hundecided ha'
  | approved p r a f hstate happroved => exact hs.approve (not_decided_humanReview hstate) happroved

theorem Advances.refl (s : FindingDatabase) : Advances s s where
  kept p hp := ⟨p, hp, rfl, rfl, Or.inl rfl⟩
  fresh q hq := Or.inr ⟨q, hq, rfl⟩

/-- **One unit of work** moves every proposal legally. -/
theorem Wrote.advances (h : Wrote contentFingerprint s t) (hs : Sound contentFingerprint s) :
    Advances s t := by
  cases h with
  | nothing => exact .refl s
  | verified core => exact ⟨(Advances.refl s).kept, (Advances.refl s).fresh⟩
  | proposed p hstate hfingerprint hnew =>
    refine ⟨fun q hq => ⟨q, List.mem_append_left _ hq, rfl, rfl, Or.inl rfl⟩, fun q hq => ?_⟩
    rcases List.mem_append.mp hq with hq | hq
    · exact Or.inr ⟨q, hq, rfl⟩
    · exact Or.inl (List.mem_singleton.mp hq ▸ hstate)
  | started p hp hstate =>
    exact hs.advances_moved hp .humanReview (by simp [hstate, legalFindingProposalTransitions])
  | reviewed r => exact ⟨(Advances.refl s).kept, (Advances.refl s).fresh⟩
  | rejected p a hp hstate ha =>
    have hmoved := hs.advances_moved hp .rejected
      (by simp [hstate, legalFindingProposalTransitions])
    exact ⟨hmoved.kept, hmoved.fresh⟩
  | approved p r a f hstate happroved =>
    have hmoved := hs.advances_moved happroved.proposal_mem .approved
      (by simp [hstate, legalFindingProposalTransitions])
    exact ⟨hmoved.kept, hmoved.fresh⟩

end Invariant

/-! ## Each use case -/

section Units

variable {contentFingerprint} {s t : FindingDatabase} {p : FindingProposalRecord}

theorem mem_of_proposal {id : Id} (h : s.proposal id = some p) : p ∈ s.findingProposals :=
  List.mem_of_find?_eq_some h

theorem setProposalState_eq_ok {id : Id} {state : FindingProposalState}
    (h : s.setProposalState id state = .ok t) : t = s.moved id state := by
  unfold FindingDatabase.setProposalState at h
  split at h
  · cases h
  · exact (Except.ok.inj h).symm

theorem insertApproval_eq_ok {a : ApprovalRecord} (h : s.insertApproval a = .ok t) :
    t = { s with approvals := s.approvals ++ [a] } := by
  unfold FindingDatabase.insertApproval at h
  split at h
  · cases h
  · exact (Except.ok.inj h).symm

theorem insertFinding_eq_ok {f : FindingRecord} (h : s.insertFinding f = .ok t) :
    t = { s with findings := s.findings ++ [f] } := by
  unfold FindingDatabase.insertFinding at h
  split at h
  · cases h
  · exact (Except.ok.inj h).symm

theorem insertReview_eq_ok {r : HumanReviewRecord} (h : s.insertReview r = .ok t) :
    t = { s with humanReviews := s.humanReviews ++ [r] } := by
  unfold FindingDatabase.insertReview at h
  split at h
  · cases h
  · exact (Except.ok.inj h).symm

theorem insertProposal_eq_inserted (h : s.insertProposal p = .inserted t) :
    t = { s with findingProposals := s.findingProposals ++ [p] } ∧
      ∀ q ∈ s.findingProposals, q.proposalId ≠ p.proposalId := by
  unfold FindingDatabase.insertProposal at h
  split at h
  · cases h
  next hnew =>
    split at h
    · cases h
    · cases h
      refine ⟨rfl, fun q hq hid => hnew ?_⟩
      exact List.any_eq_true.mpr ⟨q, hq, by simpa using hid⟩

/-- `one_or_none()` answers with one of the rows. -/
theorem mem_of_oneOrNone {α : Type} {rows : List α} {row : α}
    (h : oneOrNone rows = .ok (some row)) : row ∈ rows := by
  match rows, h with
  | [r], h => exact List.mem_singleton.mpr (Option.some.inj (Except.ok.inj h)).symm

theorem mem_of_reviewFor {id : Id} {r : HumanReviewRecord}
    (h : s.reviewFor id = .ok (some r)) : r ∈ s.humanReviews :=
  (List.mem_filter.mp (mem_of_oneOrNone h)).1

theorem submit_record_wrote {call : SubmitFindingProposal} {candidate : CandidateRecord}
    {draft : FindingProposalDraft} {decision : FindingProposalAdmissionDecision}
    {answer : Option SubmitFindingProposalResult}
    (h : call.record contentFingerprint s candidate draft decision = .ok (t, answer)) :
    Wrote contentFingerprint s t ∧ (answer = none → t = s) := by
  unfold SubmitFindingProposal.record at h
  obtain ⟨validation, -, h⟩ := bind_eq_ok h
  split at h
  · cases h
    exact ⟨.nothing, fun _ => rfl⟩
  · obtain ⟨impactChainIds, -, h⟩ := bind_eq_ok h
    split at h
    · cases h
    · cases h
      exact ⟨.nothing, fun _ => rfl⟩
    next db hinsert =>
      cases h
      obtain ⟨rfl, hnew⟩ := insertProposal_eq_inserted hinsert
      exact ⟨.proposed _ rfl rfl hnew, fun hnone => by cases hnone⟩

theorem submit_wrote {call : SubmitFindingProposal} {answer : Option SubmitFindingProposalResult}
    (h : call.submit contentFingerprint s = .ok (t, answer)) :
    Wrote contentFingerprint s t ∧ (answer = none → t = s) := by
  unfold SubmitFindingProposal.submit at h
  split at h
  · cases h
  next candidate _ =>
    split at h
    · cases h
      exact ⟨.nothing, fun _ => rfl⟩
    · dsimp only at h
      split at h
      · cases h
      next draft _ =>
        split at h
        · cases h
          exact ⟨.nothing, fun _ => rfl⟩
        · split at h
          · cases h
          · exact submit_record_wrote h

theorem reloadExisting_wrote {call : SubmitFindingProposal} {answer : SubmitFindingProposalResult}
    (h : call.reloadExisting s = .ok (t, answer)) : Wrote contentFingerprint s t := by
  unfold SubmitFindingProposal.reloadExisting at h
  split at h
  · cases h
  · cases h
    exact .nothing

theorem startHumanReview_wrote {id : Id} {answer : StartHumanReviewResult}
    (h : startHumanReview id s = .ok (t, answer)) : Wrote contentFingerprint s t := by
  unfold startHumanReview at h
  split at h
  · cases h
  next proposal hproposal =>
    obtain ⟨next, hnext, h⟩ := bind_eq_ok h
    obtain ⟨db, hset, h⟩ := bind_eq_ok h
    cases h
    obtain ⟨hlegal, rfl⟩ := transitionFindingProposal_eq_ok.mp hnext
    obtain rfl := setProposalState_eq_ok hset
    refine .started proposal (mem_of_proposal hproposal) ?_
    simpa [legalFindingProposalTransitions] using hlegal

theorem recordHumanReview_wrote {call : RecordHumanReview} {answer : RecordHumanReviewResult}
    (h : call.execute s = .ok (t, answer)) : Wrote contentFingerprint s t := by
  unfold RecordHumanReview.execute at h
  split at h
  · cases h
  next proposal _ =>
    split at h
    · cases h
    · obtain ⟨existing, -, h⟩ := bind_eq_ok h
      split at h
      · split at h
        · cases h
        · cases h
          exact .nothing
      · obtain ⟨view, -, h⟩ := bind_eq_ok h
        obtain ⟨_, -, h⟩ := bind_eq_ok h
        obtain ⟨db, hinsert, h⟩ := bind_eq_ok h
        cases h
        obtain rfl := insertReview_eq_ok hinsert
        exact .reviewed _

theorem completeVerification_wrote {command : CompleteCandidateVerificationCommand} {id : Id}
    {answer : CompleteCandidateVerificationResult}
    (h : completeVerification command id s = .ok (t, answer)) : Wrote contentFingerprint s t := by
  unfold completeVerification at h
  obtain ⟨⟨core, result⟩, -, h⟩ := bind_eq_ok h
  cases h
  exact .verified core

/-! ### Finalizing -/

/-- The view of a review has all but the texts as the row has them. -/
theorem HumanReviewRecord.view_eq_ok {r : HumanReviewRecord} {view : HumanReviewView}
    (h : r.view = .ok view) :
    view.reviewId = r.reviewId ∧ view.proposalId = r.proposalId ∧
      view.contentFingerprint = r.contentFingerprint ∧ view.decision = r.decision ∧
      view.actorType = r.actorType := by
  unfold HumanReviewRecord.view HumanReviewView.make at h
  obtain ⟨reviewerId, -, h⟩ := bind_eq_ok h
  obtain ⟨reasonCodes, -, h⟩ := bind_eq_ok h
  dsimp only at h
  split at h
  · cases h
    exact ⟨rfl, rfl, rfl, rfl, rfl⟩
  · obtain ⟨note, -, h⟩ := bind_eq_ok h
    cases h
    exact ⟨rfl, rfl, rfl, rfl, rfl⟩

/-- A loop over what may be there. -/
theorem mapM_option_eq_ok {α β ε : Type} {f : α → Except ε β} {o : Option α} {b : β}
    (h : o.mapM f = .ok (some b)) : ∃ a, o = some a ∧ f a = .ok b := by
  cases o with
  | none => cases h
  | some a =>
    have hmade : (f a >>= fun b' => pure (some b')) = .ok (some b) := h
    obtain ⟨b', hf, hsame⟩ := bind_eq_ok hmade
    cases hsame
    exact ⟨a, rfl, hf⟩

/-- The writes of a decision that rests on a review. -/
theorem finalize_record_wrote {call : FinalizeFinding} {candidate : CandidateRecord}
    {creation : FindingCreationDecision} {review : HumanReviewView} {approval : ApprovalView}
    {r : HumanReviewRecord} {answer : FinalizeFindingResult}
    (h : call.record s p candidate creation review approval = .ok (t, answer))
    (hp : p ∈ s.findingProposals) (hstate : p.state = .humanReview)
    (hr : r ∈ s.humanReviews) (hview : r.view = .ok review)
    (hproposal : review.proposalId = p.proposalId)
    (hfingerprint : review.contentFingerprint = contentFingerprint p.content)
    (hreviewer : review.actorType = .humanOperator) (hactor : call.actorType = .humanOperator)
    (hcreation : review.decision = .approve ∧ creation.proposalState = .approved ∧
        creation.createsFinding = true ∨
      creation.proposalState = .rejected ∧ creation.createsFinding = false) :
    Wrote contentFingerprint s t := by
  obtain ⟨hvid, hvproposal, hvfingerprint, hvdecision, hvactor⟩ := r.view_eq_ok hview
  unfold FinalizeFinding.record at h
  obtain ⟨next, hnext, h⟩ := bind_eq_ok h
  obtain ⟨approved, happroval, h⟩ := bind_eq_ok h
  obtain ⟨moved, hmoved, h⟩ := bind_eq_ok h
  obtain rfl := (transitionFindingProposal_eq_ok.mp hnext).2
  obtain rfl := insertApproval_eq_ok happroval
  obtain rfl := setProposalState_eq_ok hmoved
  dsimp only at h
  rcases hcreation with ⟨hdecision, hto, hcreates⟩ | ⟨hto, hcreates⟩
  · rw [if_pos hcreates] at h
    obtain ⟨created, hfinding, h⟩ := bind_eq_ok h
    cases h
    obtain rfl := insertFinding_eq_ok hfinding
    rw [hto]
    refine .approved p r _ _ hstate ?_
    exact {
      proposal_mem := hp
      proposal_id := rfl
      review_mem := hr
      review_id := hvid.symm
      review_proposal := hvproposal.symm.trans hproposal
      decision := hvdecision.symm.trans hdecision
      reviewer := hvactor.symm.trans hreviewer
      fingerprint := hvfingerprint.symm.trans hfingerprint
      approval_mem := List.mem_append_right _ (List.mem_singleton.mpr rfl)
      approval_id := rfl
      approval_proposal := rfl
      approver := hactor
      recorded := rfl }
  · rw [if_neg (by simp [hcreates])] at h
    cases h
    rw [hto]
    exact .rejected p _ hp hstate rfl

theorem decide_wrote {call : FinalizeFinding} {answer : FinalizeFindingResult}
    (hs : Sound contentFingerprint s) (hp : p ∈ s.findingProposals)
    (h : call.decide s p = .ok (t, answer)) : Wrote contentFingerprint s t := by
  unfold FinalizeFinding.decide at h
  split at h
  · cases h
  next candidate _ =>
    obtain ⟨row, hrow, hread⟩ := bind_eq_ok h
    obtain ⟨review, hreview, hviewed⟩ := bind_eq_ok hread
    obtain ⟨approval, happroval, hasked⟩ := bind_eq_ok hviewed
    obtain ⟨context, hcontext, hmade⟩ := bind_eq_ok hasked
    dsimp only at hmade
    by_cases hrefused : (evaluateFindingCreation context).outcome.refused = true
    · rw [if_pos hrefused] at hmade
      cases hmade
    rw [if_neg hrefused] at hmade
    obtain ⟨title, claim, rfl⟩ := FindingCreationContext.make_eq_ok hcontext
    obtain ⟨found, hreviewed, hcreation⟩ :=
      evaluateFindingCreation_not_refused (Bool.not_eq_true _ ▸ hrefused)
    obtain rfl : review = some found := hreviewed.found
    obtain ⟨r, rfl, hview⟩ := mapM_option_eq_ok hreview
    cases approval with
    | none => cases hmade
    | some approved =>
      exact finalize_record_wrote hmade hp hreviewed.state (mem_of_reviewFor hrow) hview
        hreviewed.proposal (hreviewed.fingerprint.trans (hs.fingerprint p hp)) hreviewed.actor
        (hreviewed.approvalActor _ rfl) hcreation

theorem finalize_wrote {call : FinalizeFinding} {answer : FinalizeFindingResult}
    (hs : Sound contentFingerprint s) (h : call.execute s = .ok (t, answer)) :
    Wrote contentFingerprint s t := by
  unfold FinalizeFinding.execute at h
  split at h
  · cases h
  next proposal hproposal =>
    obtain ⟨existing, -, h⟩ := bind_eq_ok h
    split at h
    · cases h
      exact .nothing
    · split at h
      · obtain ⟨approval, -, h⟩ := bind_eq_ok h
        cases h
        exact .nothing
      · cases h
      · exact decide_wrote hs (mem_of_proposal hproposal) h

end Units

/-! ## Calls in any order -/

section Calls

variable {s t : FindingDatabase}

/-- What a unit of work does to tables that are sound. -/
def Careful (s t : FindingDatabase) : Prop :=
  Sound contentFingerprint s → Sound contentFingerprint t ∧ Advances s t

theorem Careful.refl (s : FindingDatabase) : Careful contentFingerprint s s :=
  fun hs => ⟨hs, .refl s⟩

variable {contentFingerprint}

theorem careful_of_wrote (h : Sound contentFingerprint s → Wrote contentFingerprint s t) :
    Careful contentFingerprint s t :=
  fun hs => ⟨(h hs).sound hs, (h hs).advances hs⟩

theorem careful_oneUnit {α : Type} {answer : α → FindingResult}
    {execute : FindingDatabase → Except String (FindingDatabase × α)}
    (h : ∀ s t a, Sound contentFingerprint s → execute s = .ok (t, a) →
      Wrote contentFingerprint s t) :
    Keeps (Careful contentFingerprint) (oneUnit answer execute) := by
  refine keeps_attempt (Careful.refl contentFingerprint) fun s t result hdone => ?_
  cases hexecute : execute s with
  | error e =>
    rw [hexecute] at hdone
    cases hdone
  | ok done =>
    rw [hexecute] at hdone
    cases hdone
    exact careful_of_wrote fun hs => h s done.1 done.2 hs hexecute

theorem submit_program_careful (call : SubmitFindingProposal) :
    Keeps (Careful contentFingerprint) (call.program contentFingerprint) := by
  refine ⟨fun s => ?_, fun answer => ?_⟩
  · cases hsubmit : call.submit contentFingerprint s with
    | error e => simpa [Prog.attempted, hsubmit] using Careful.refl contentFingerprint s
    | ok done =>
      obtain ⟨t, answer⟩ := done
      have hwrote := (submit_wrote hsubmit).1
      simpa [Prog.attempted, hsubmit] using careful_of_wrote fun _ => hwrote
  · cases answer with
    | error e => trivial
    | ok done =>
      cases done with
      | some result => trivial
      | none => exact careful_oneUnit fun _ _ _ _ h => reloadExisting_wrote h

/-- **Every call** keeps the invariant, and moves proposals legally. -/
theorem program_careful (call : FindingCall) :
    Keeps (Careful contentFingerprint) (call.program contentFingerprint) := by
  cases call with
  | submitFindingProposal call => exact submit_program_careful call
  | startHumanReview proposalId => exact careful_oneUnit fun _ _ _ _ h => startHumanReview_wrote h
  | recordHumanReview call => exact careful_oneUnit fun _ _ _ _ h => recordHumanReview_wrote h
  | finalizeFinding call => exact careful_oneUnit fun _ _ _ hs h => finalize_wrote hs h
  | completeCandidateVerification command verificationId =>
    exact careful_oneUnit fun _ _ _ _ h => completeVerification_wrote h

/-- **Every call** that raises has written nothing. -/
theorem program_transactional (call : FindingCall) :
    Transactional (call.program contentFingerprint) := by
  cases call with
  | submitFindingProposal call =>
    intro s
    cases hsubmit : call.submit contentFingerprint s with
    | error e =>
      exact Or.inl ⟨by simp [Prog.attempted, hsubmit],
        by simp [Prog.attempted, hsubmit, Transactional]⟩
    | ok done =>
      obtain ⟨t, answer⟩ := done
      cases answer with
      | some result => exact Or.inr ⟨.submitted result, by simp [Prog.attempted, hsubmit]⟩
      | none =>
        refine Or.inl ⟨?_, ?_⟩
        · simpa [Prog.attempted, hsubmit] using (submit_wrote hsubmit).2 rfl
        · simp only [Prog.attempted, hsubmit]
          exact transactional_attempt
  | startHumanReview => exact transactional_attempt
  | recordHumanReview => exact transactional_attempt
  | finalizeFinding => exact transactional_attempt
  | completeCandidateVerification => exact transactional_attempt

variable {ι : Type} [DecidableEq ι]

/-- The calls, none of them begun. -/
def workflow (contentFingerprint : ProposalContent → Text) (calls : ι → FindingCall)
    (s : FindingDatabase) : Pool ι FindingDatabase (Except String FindingResult) where
  store := s
  rest i := (calls i).program contentFingerprint

/-- Units of work come in any order, and a call that is stopped leaves what it
has committed. -/
def anyOrder : Sharing ι FindingDatabase where
  ready _ _ := True
  dropped _ s := s

instance (i : ι) (s : FindingDatabase) : Decidable (anyOrder.ready i s) := isTrue trivial

/-- No finding has been proposed yet. -/
structure FindingDatabase.Fresh (db : FindingDatabase) : Prop where
  findingProposals : db.findingProposals = []
  humanReviews : db.humanReviews = []
  approvals : db.approvals = []
  findings : db.findings = []

theorem FindingDatabase.Fresh.sound (h : s.Fresh) : Sound contentFingerprint s where
  human f hf := by simp [h.findings] at hf
  oneProposal := by simp [h.findingProposals]
  oneApproval := by simp [h.approvals]
  oneFinding := by simp [h.findings]
  approved p hp := by simp [h.findingProposals] at hp
  decided a ha := by simp [h.approvals] at ha
  fingerprint p hp := by simp [h.findingProposals] at hp

/-- What is decided stays. -/
def Settled (s t : FindingDatabase) : Prop :=
  ∀ p ∈ s.findingProposals, p.state.Decided → ∃ q ∈ t.findingProposals,
    q.proposalId = p.proposalId ∧ q.content = p.content ∧ q.state = p.state

theorem Settled.trans {u : FindingDatabase} (h : Settled s t) (h' : Settled t u) :
    Settled s u := by
  intro p hp hdecided
  obtain ⟨q, hq, hid, hcontent, hstate⟩ := h p hp hdecided
  obtain ⟨r, hr, hid', hcontent', hstate'⟩ := h' q hq (hstate ▸ hdecided)
  exact ⟨r, hr, hid'.trans hid, hcontent'.trans hcontent, hstate'.trans hstate⟩

theorem Advances.settled (h : Advances s t) : Settled s t := by
  intro p hp hdecided
  obtain ⟨q, hq, hid, hcontent, hstate | hlegal⟩ := h.kept p hp
  · exact ⟨q, hq, hid, hcontent, hstate⟩
  · exact absurd hlegal hdecided.not_legal

/-- What holds wherever the calls have come to. -/
structure InProgress (contentFingerprint : ProposalContent → Text)
    (c : Pool ι FindingDatabase (Except String FindingResult)) : Prop where
  sound : Sound contentFingerprint c.store
  careful : ∀ i, Keeps (Careful contentFingerprint) (c.rest i)
  transactional : ∀ i, Transactional (c.rest i)

theorem InProgress.step {c d : Pool ι FindingDatabase (Except String FindingResult)} {m : Move ι}
    (h : InProgress contentFingerprint c) (hstep : PoolStep anyOrder c m d) :
    InProgress contentFingerprint d ∧ Advances c.store d.store := by
  obtain ⟨hstore, hrest⟩ := hstep.keeps (Careful.refl contentFingerprint)
    (fun _ s => Careful.refl contentFingerprint s) h.careful
  obtain ⟨hsound, hadvances⟩ := hstore h.sound
  exact ⟨⟨hsound, hrest, hstep.transactional h.transactional⟩, hadvances⟩

/-- The fingerprint of the one proposal of `differentialCalls`. -/
def differentialFingerprint (_ : ProposalContent) : Text :=
  "2568bca4fa772163868d0f390b9d8ef74503681a85f32eeddf21051d594260e4".toList

/-- A candidate is validated, proposed, reviewed and approved. -/
def differentialCalls : Nat → FindingCall
  | 0 => .completeCandidateVerification (differentialCommand none) 60
  | 1 => .submitFindingProposal ⟨1, none, 70, fun _ => .ok (true, []), fun _ _ => .ok ()⟩
  | 2 => .startHumanReview 70
  | 3 => .recordHumanReview ⟨70, "alice".toList, .humanOperator, .approve,
      ["HUMAN_REVIEW_RECORDED".toList], none, 71⟩
  | _ => .finalizeFinding ⟨70, "alice".toList, .humanOperator, 72, 73⟩

end Calls

end Zest.Findings
