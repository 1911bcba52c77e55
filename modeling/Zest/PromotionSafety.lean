import Zest.FamilyPromotion
import Zest.UnitOfWork

/-! # A family is promoted once, and by a human

Calls of the use case interleave, each of them one unit of work, and others draft
further hypotheses between them.  What a stretch of such a history adds to the
registry is a list of families and a list of promotions that go together, and two
stretches add up.
-/
namespace Zest.Promotion

open Hunt (ActorType ApprovalDecision)

/-! ## What one call does -/

theorem insertAuditEvent_eq_ok {s t : Store} {event : AuditEventRecord}
    (h : insertAuditEvent s event = .ok t) :
    t = { s with auditEvents := s.auditEvents ++ [event] } := by
  obtain ⟨-, -, h⟩ := bind_eq_ok h
  obtain ⟨-, -, h⟩ := bind_eq_ok h
  cases h
  rfl

theorem insertHunterFamily_eq_ok {s t : Store} {record : HunterFamilyRecord}
    (h : insertHunterFamily s record = .ok t) :
    t = { s with hunterFamilies := s.hunterFamilies ++ [record] } := by
  obtain ⟨-, -, h⟩ := bind_eq_ok h
  obtain ⟨-, -, h⟩ := bind_eq_ok h
  cases h
  rfl

theorem earliest_eq_none {events : List AuditEventRecord} (h : earliest events = none) :
    events = [] := by
  cases events with
  | nil => rfl
  | cons event events =>
    unfold earliest at h
    split at h <;> cases h

/-- A draft without an earlier promotion has none in the audit log. -/
theorem existingPromotion_eq_none {s : Store} {draftId : Text}
    (h : existingPromotion s draftId = none) :
    ∀ event ∈ promotions s, event.subjectId ≠ draftId := by
  intro event hmem heq
  have hnone := earliest_eq_none h
  have hin : event ∈ (promotions s).filter (·.subjectId == draftId) :=
    List.mem_filter.mpr ⟨hmem, by simp [heq]⟩
  rw [hnone] at hin
  cases hin

/-- The enabled families are those of the registry. -/
theorem mem_listEnabled {s : Store} {record : HunterFamilyRecord} :
    record ∈ listEnabled s ↔ record ∈ s.hunterFamilies ∧ record.enabled = true := by
  unfold listEnabled
  rw [(List.perm_insertionSort _ _).mem_iff, List.mem_filter]

theorem enabledNameCollision_eq_none {lower : Text → Text} {s : Store} {name : Text}
    (h : enabledNameCollision lower s name = none) {record : HunterFamilyRecord}
    (hmem : record ∈ s.hunterFamilies) (henabled : record.enabled = true) :
    nameKey lower record.name ≠ nameKey lower name := by
  have hnot := List.find?_eq_none.mp h record (mem_listEnabled.mpr ⟨hmem, henabled⟩)
  intro heq
  exact hnot (by simp [heq])

/-- The call adds nothing to the registry and promotes no draft. -/
structure AddsNothing (s t : Store) : Prop where
  families : t.hunterFamilies = s.hunterFamilies
  promotions : promotions t = promotions s

/-- The call promotes the draft. -/
structure Promotes (lower : Text → Text) (drawn : Drawn) (command : PromoteExploratoryFamilyCommand)
    (draft : ExploratoryHypothesisDraft) (s t : Store) : Prop where
  human : command.actorType = .humanOperator
  approved : command.decision = .approve
  first : ∀ event ∈ promotions s, event.subjectId ≠ draft.draftId
  free : ∀ record ∈ s.hunterFamilies, record.enabled = true →
    nameKey lower record.name ≠ nameKey lower draft.proposedFamilyName
  families : t.hunterFamilies = s.hunterFamilies ++ [familyOf drawn draft command]
  promotions : ∃ event, promotions t = promotions s ++ [event] ∧ event.subjectId = draft.draftId

/-- The event is that of a promotion. -/
def AuditEventRecord.promotes (event : AuditEventRecord) : Bool :=
  event.subjectType = exploratorySubjectType ∧ event.eventType = exploratoryFamilyPromotedEvent

theorem promotions_append (s : Store) (events : List AuditEventRecord) :
    promotions { s with auditEvents := s.auditEvents ++ events } =
      promotions s ++ events.filter AuditEventRecord.promotes :=
  List.filter_append ..

/-- A refusal is written down, and is no promotion. -/
theorem refuse_spec {drawn : Drawn} {draft : ExploratoryHypothesisDraft}
    {command : PromoteExploratoryFamilyCommand} {reasonCode : String} {familyId : Option Text}
    {familyVersion : Option Int} {s t : Store} {r : PromoteExploratoryFamilyResult}
    (h : refuse drawn draft command reasonCode familyId familyVersion s = .ok (t, r)) :
    AddsNothing s t ∧ r.promoted = false ∧ r.draftId = draft.draftId := by
  obtain ⟨u, hinsert, h⟩ := bind_eq_ok h
  cases h
  rw [insertAuditEvent_eq_ok hinsert]
  refine ⟨⟨rfl, ?_⟩, rfl, rfl⟩
  have hother : (promotionEvent drawn draft command false reasonCode familyId
      familyVersion).promotes = false := by
    simp [AuditEventRecord.promotes, promotionEvent, exploratoryFamilyPromotedEvent,
      exploratoryFamilyPromotionRejectedEvent]
  rw [promotions_append, List.filter_cons_of_neg (by simp [hother]), List.filter_nil,
    List.append_nil]

/-- A promotion is written down with its family. -/
theorem promote_spec {drawn : Drawn} {draft : ExploratoryHypothesisDraft}
    {command : PromoteExploratoryFamilyCommand} {s t : Store} {r : PromoteExploratoryFamilyResult}
    (h : promote drawn draft command s = .ok (t, r)) :
    t.hunterFamilies = s.hunterFamilies ++ [familyOf drawn draft command] ∧
      (∃ event, promotions t = promotions s ++ [event] ∧ event.subjectId = draft.draftId) ∧
      r.promoted = true ∧ r.reasonCode = "ALLOWED" ∧ r.draftId = draft.draftId := by
  obtain ⟨u, hfamily, h⟩ := bind_eq_ok h
  obtain ⟨v, hevent, h⟩ := bind_eq_ok h
  cases h
  rw [insertAuditEvent_eq_ok hevent, insertHunterFamily_eq_ok hfamily]
  refine ⟨rfl, ⟨promotionEvent drawn draft command true "ALLOWED" (some drawn.familyId) (some 1),
    ?_, rfl⟩, rfl, rfl, rfl⟩
  have hpromotes : (promotionEvent drawn draft command true "ALLOWED" (some drawn.familyId)
      (some 1)).promotes = true := by
    simp [AuditEventRecord.promotes, promotionEvent]
  rw [promotions_append, List.filter_cons_of_pos hpromotes, List.filter_nil]
  rfl

theorem authorizationReason_eq_none {command : PromoteExploratoryFamilyCommand}
    (h : authorizationReason command = none) :
    command.actorType = .humanOperator ∧ command.decision = .approve := by
  unfold authorizationReason at h
  by_cases hactor : command.actorType ≠ .humanOperator
  · rw [if_pos hactor] at h
    cases h
  rw [if_neg hactor] at h
  cases hdecision : command.decision with
  | approve => exact ⟨not_not.mp hactor, rfl⟩
  | reject =>
    rw [if_pos hdecision] at h
    cases h

/-- **What a call does that goes through.**  It adds nothing, and says that the
draft is refused or was promoted before; or it promotes the draft. -/
theorem execute_spec {lower : Text → Text} {drawn : Drawn}
    {command : PromoteExploratoryFamilyCommand} {s t : Store} {r : PromoteExploratoryFamilyResult}
    (h : execute lower drawn command s = .ok (t, r)) :
    ∃ draft, loadExploratoryBinding lower s command.researchRunId command.hypothesisId =
        .ok draft ∧ r.draftId = draft.draftId ∧
      ((AddsNothing s t ∧ (r.promoted = false ∨ r.reasonCode = "ALREADY_PROMOTED")) ∨
        (Promotes lower drawn command draft s t ∧ r.promoted = true ∧
          r.reasonCode = "ALLOWED")) := by
  obtain ⟨-, -, h⟩ := bind_eq_ok h
  obtain ⟨-, -, h⟩ := bind_eq_ok h
  obtain ⟨draft, hdraft, h⟩ := bind_eq_ok h
  obtain ⟨-, -, h⟩ := bind_eq_ok h
  refine ⟨draft, hdraft, ?_⟩
  unfold decide at h
  cases hprior : existingPromotion s draft.draftId with
  | some prior =>
    rw [hprior] at h
    cases h
    exact ⟨rfl, .inl ⟨⟨rfl, rfl⟩, .inr rfl⟩⟩
  | none =>
    rw [hprior] at h
    cases hreason : authorizationReason command with
    | some reasonCode =>
      simp only [hreason] at h
      obtain ⟨hnothing, hrefused, hdraftId⟩ := refuse_spec h
      exact ⟨hdraftId, .inl ⟨hnothing, .inl hrefused⟩⟩
    | none =>
      simp only [hreason] at h
      cases hoverlap : enabledNameCollision lower s draft.proposedFamilyName with
      | some overlap =>
        simp only [hoverlap] at h
        obtain ⟨hnothing, hrefused, hdraftId⟩ := refuse_spec h
        exact ⟨hdraftId, .inl ⟨hnothing, .inl hrefused⟩⟩
      | none =>
        simp only [hoverlap] at h
        obtain ⟨hfamilies, hevent, hpromoted, hallowed, hdraftId⟩ := promote_spec h
        obtain ⟨hhuman, happroved⟩ := authorizationReason_eq_none hreason
        refine ⟨hdraftId, .inr ⟨?_, hpromoted, hallowed⟩⟩
        exact {
          human := hhuman
          approved := happroved
          first := existingPromotion_eq_none hprior
          free := fun _ hmem henabled => enabledNameCollision_eq_none hoverlap hmem henabled
          families := hfamilies
          promotions := hevent }

/-! ## Histories -/

/-- A step of a history. -/
inductive Move where
  | call (drawn : Drawn) (command : PromoteExploratoryFamilyCommand)
  /-- The call is cut off or meets an error of the database, and is rolled back. -/
  | fails (drawn : Drawn) (command : PromoteExploratoryFamilyCommand)
  /-- Others write runs, hypotheses and audit events that are no promotions. -/
  | drafted (researchRuns : List Text) (hypotheses : List HypothesisRecord)
      (events : List { event : AuditEventRecord // event.promotes = false })

/-- The state that a step leaves, and the answer of a call that goes through. -/
def step (lower : Text → Text) (s : Store) : Move → Store × Option PromoteExploratoryFamilyResult
  | .call drawn command =>
    let (t, r) := UnitOfWork.Prog.attempted (execute lower drawn command) s
    (t, r.toOption)
  | .fails _ _ => (s, none)
  | .drafted researchRuns hypotheses events =>
    ({ s with
        researchRuns := s.researchRuns ++ researchRuns
        hypotheses := s.hypotheses ++ hypotheses
        auditEvents := s.auditEvents ++ events.map (·.val) }, none)

/-- The state that a history leaves. -/
def play (lower : Text → Text) : Store → List Move → Store
  | s, [] => s
  | s, move :: moves => play lower (step lower s move).1 moves

theorem play_append (lower : Text → Text) (s : Store) (moves later : List Move) :
    play lower s (moves ++ later) = play lower (play lower s moves) later := by
  induction moves generalizing s with
  | nil => rfl
  | cons move moves ih => exact ih _

/-- The draft that a family was made of. -/
def draftOf (family : HunterFamilyRecord) : Option Text :=
  match family.preconditions.get "exploratory_draft_id".toList with
  | .text draftId => some draftId
  | _ => none

theorem draftOf_familyOf (drawn : Drawn) (draft : ExploratoryHypothesisDraft)
    (command : PromoteExploratoryFamilyCommand) :
    draftOf (familyOf drawn draft command) = some draft.draftId := rfl

/-- The names of two enabled families are not equal up to case and blanks. -/
def NamesDiffer (lower : Text → Text) (a b : HunterFamilyRecord) : Prop :=
  a.enabled = true → b.enabled = true → nameKey lower a.name ≠ nameKey lower b.name

/-- No two enabled families of the registry have equal names. -/
def DistinctNames (lower : Text → Text) (s : Store) : Prop :=
  s.hunterFamilies.Pairwise (NamesDiffer lower)

/-- The families and the promotions that come to the store between two states: one
of each for a draft, none for a draft promoted before, and no name twice. -/
structure Additions (lower : Text → Text) (s t : Store) (families : List HunterFamilyRecord)
    (events : List AuditEventRecord) : Prop where
  registry : t.hunterFamilies = s.hunterFamilies ++ families
  log : promotions t = promotions s ++ events
  matched : families.map draftOf = events.map fun event => some event.subjectId
  nodup : (families.map draftOf).Nodup
  first : ∀ event ∈ promotions s, some event.subjectId ∉ families.map draftOf
  names : families.Pairwise (NamesDiffer lower)
  free : ∀ record ∈ s.hunterFamilies, ∀ family ∈ families, NamesDiffer lower record family

theorem AddsNothing.additions {lower : Text → Text} {s t : Store} (h : AddsNothing s t) :
    Additions lower s t [] [] where
  registry := by rw [h.families, List.append_nil]
  log := by rw [h.promotions, List.append_nil]
  matched := rfl
  nodup := List.nodup_nil
  first _ _ := List.not_mem_nil
  names := .nil
  free _ _ _ h := nomatch h

/-- **One promotion.** -/
theorem Promotes.additions {lower : Text → Text} {drawn : Drawn}
    {command : PromoteExploratoryFamilyCommand} {draft : ExploratoryHypothesisDraft} {s t : Store}
    (h : Promotes lower drawn command draft s t) :
    ∃ event, Additions lower s t [familyOf drawn draft command] [event] := by
  obtain ⟨event, hevent, hsubject⟩ := h.promotions
  refine ⟨event, ?_⟩
  exact {
    registry := h.families
    log := hevent
    matched := by simp [draftOf_familyOf, hsubject]
    nodup := List.nodup_singleton _
    first := by
      intro other hother hmem
      have heq : other.subjectId = draft.draftId := by simpa [draftOf_familyOf] using hmem
      exact h.first other hother heq
    names := List.pairwise_singleton _ _
    free := by
      intro record hrecord family hfamily henabled _
      rw [List.mem_singleton.mp hfamily]
      exact h.free record hrecord henabled }

/-- **Two stretches add up.**  The second adds nothing for a draft that the first has
promoted, since its promotion is in the audit log by then. -/
theorem Additions.trans {lower : Text → Text} {s t u : Store}
    {families families' : List HunterFamilyRecord} {events events' : List AuditEventRecord}
    (h : Additions lower s t families events) (h' : Additions lower t u families' events') :
    Additions lower s u (families ++ families') (events ++ events') where
  registry := by rw [h'.registry, h.registry, List.append_assoc]
  log := by rw [h'.log, h.log, List.append_assoc]
  matched := by rw [List.map_append, List.map_append, h.matched, h'.matched]
  nodup := by
    rw [List.map_append, List.nodup_append]
    refine ⟨h.nodup, h'.nodup, ?_⟩
    rintro draftId hmem other hother rfl
    rw [h.matched] at hmem
    obtain ⟨event, hevent, rfl⟩ := List.mem_map.mp hmem
    refine h'.first event ?_ hother
    rw [h.log]
    exact List.mem_append_right _ hevent
  first := by
    intro event hevent hmem
    rw [List.map_append] at hmem
    rcases List.mem_append.mp hmem with hmem | hmem
    · exact h.first event hevent hmem
    · refine h'.first event ?_ hmem
      rw [h.log]
      exact List.mem_append_left _ hevent
  names := by
    rw [List.pairwise_append]
    refine ⟨h.names, h'.names, ?_⟩
    intro record hrecord family hfamily
    refine h'.free record ?_ family hfamily
    rw [h.registry]
    exact List.mem_append_right _ hrecord
  free := by
    intro record hrecord family hfamily
    rcases List.mem_append.mp hfamily with hfamily | hfamily
    · exact h.free record hrecord family hfamily
    · refine h'.free record ?_ family hfamily
      rw [h.registry]
      exact List.mem_append_left _ hrecord

/-- The call, in the state it finds, is a human's approval of the family's draft. -/
def ApprovedBy (lower : Text → Text) (s : Store) (family : HunterFamilyRecord)
    (command : PromoteExploratoryFamilyCommand) : Prop :=
  command.actorType = .humanOperator ∧ command.decision = .approve ∧
    ∃ draft, loadExploratoryBinding lower s command.researchRunId command.hypothesisId =
      .ok draft ∧ draftOf family = some draft.draftId

/-- The move is a call that promotes nothing: one that is cut off, raises, refuses or
finds the draft promoted. -/
def Idle (lower : Text → Text) (s : Store) (move : Move) : Prop :=
  ∀ r, (step lower s move).2 = some r → r.promoted = false ∨ r.reasonCode = "ALREADY_PROMOTED"

/-- What one step adds, whose approval it is, and that an idle step adds nothing. -/
theorem step_spec (lower : Text → Text) (s : Store) (move : Move) :
    ∃ families events, Additions lower s (step lower s move).1 families events ∧
      (∀ family ∈ families, ∃ drawn command, move = .call drawn command ∧
        ApprovedBy lower s family command) ∧
      (Idle lower s move → families = []) := by
  have hnothing : ∀ {t : Store}, AddsNothing s t → ∃ families events,
      Additions lower s t families events ∧
        (∀ family ∈ families, ∃ drawn command, move = .call drawn command ∧
          ApprovedBy lower s family command) ∧ (Idle lower s move → families = []) :=
    fun h => ⟨[], [], h.additions, (fun _ hmem => nomatch hmem), fun _ => rfl⟩
  cases move with
  | fails drawn command => exact hnothing ⟨rfl, rfl⟩
  | drafted researchRuns hypotheses events =>
    refine hnothing ⟨rfl, ?_⟩
    have hothers : (events.map (·.val)).filter AuditEventRecord.promotes = [] := by
      rw [List.filter_eq_nil_iff]
      intro event hmem
      obtain ⟨⟨event, hother⟩, -, rfl⟩ := List.mem_map.mp hmem
      simp [hother]
    calc promotions (step lower s (.drafted researchRuns hypotheses events)).1
        = promotions s ++ (events.map (·.val)).filter AuditEventRecord.promotes :=
          List.filter_append ..
      _ = promotions s := by rw [hothers, List.append_nil]
  | call drawn command =>
    cases hexecute : execute lower drawn command s with
    | error message =>
      have hstep : (step lower s (.call drawn command)).1 = s := by
        simp [step, UnitOfWork.Prog.attempted, hexecute]
      rw [hstep]
      exact hnothing ⟨rfl, rfl⟩
    | ok answered =>
      obtain ⟨t, r⟩ := answered
      have hstep : step lower s (.call drawn command) = (t, some r) := by
        simp [step, UnitOfWork.Prog.attempted, hexecute, Except.toOption]
      rw [hstep]
      obtain ⟨draft, hdraft, -, ⟨hadds, -⟩ | ⟨hpromotes, hpromoted, hallowed⟩⟩ :=
        execute_spec hexecute
      · exact hnothing hadds
      · obtain ⟨event, hadditions⟩ := hpromotes.additions
        refine ⟨_, _, hadditions, ?_, ?_⟩
        · intro family hmem
          rw [List.mem_singleton.mp hmem]
          exact ⟨drawn, command, rfl, hpromotes.human, hpromotes.approved, draft, hdraft, rfl⟩
        · intro hidle
          rcases hidle r (by rw [hstep]) with hrefused | hrepeated
          · rw [hpromoted] at hrefused
            cases hrefused
          · rw [hallowed] at hrepeated
            exact absurd hrepeated (by decide)

/-- What a history adds, and whose approvals it is. -/
theorem play_spec (lower : Text → Text) (s : Store) (moves : List Move) :
    ∃ families events, Additions lower s (play lower s moves) families events ∧
      ∀ family ∈ families, ∃ before drawn command after,
        moves = before ++ .call drawn command :: after ∧
          ApprovedBy lower (play lower s before) family command := by
  induction moves generalizing s with
  | nil => exact ⟨[], [], AddsNothing.additions ⟨rfl, rfl⟩, fun _ hmem => nomatch hmem⟩
  | cons move moves ih =>
    obtain ⟨families, events, hfirst, happroved, -⟩ := step_spec lower s move
    obtain ⟨families', events', hlater, happroved'⟩ := ih (step lower s move).1
    refine ⟨_, _, hfirst.trans hlater, ?_⟩
    intro family hmem
    rcases List.mem_append.mp hmem with hmem | hmem
    · obtain ⟨drawn, command, rfl, hby⟩ := happroved family hmem
      exact ⟨[], drawn, command, moves, rfl, hby⟩
    · obtain ⟨before, drawn, command, after, rfl, hby⟩ := happroved' family hmem
      exact ⟨move :: before, drawn, command, after, rfl, hby⟩

/-- A registry with distinct names keeps them distinct. -/
theorem Additions.distinctNames {lower : Text → Text} {s t : Store}
    {families : List HunterFamilyRecord} {events : List AuditEventRecord}
    (h : Additions lower s t families events) (hdistinct : DistinctNames lower s) :
    DistinctNames lower t := by
  unfold DistinctNames
  rw [h.registry, List.pairwise_append]
  exact ⟨hdistinct, h.names, h.free⟩

/-- A draft has at most one promotion in what is added, and none if it had one. -/
theorem Additions.promotions_nodup {lower : Text → Text} {s t : Store}
    {families : List HunterFamilyRecord} {events : List AuditEventRecord}
    (h : Additions lower s t families events) : (events.map (·.subjectId)).Nodup := by
  have hsome : families.map draftOf = (events.map (·.subjectId)).map some := by
    rw [h.matched, List.map_map]
    rfl
  exact List.Nodup.of_map some (hsome ▸ h.nodup)

end Zest.Promotion
