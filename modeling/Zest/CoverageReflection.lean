import Zest.Fallible
import Zest.HuntSoundness

/-! # Does coverage reflect validation?

The reader takes every hypothesis for untested, whatever tiers it has passed:
the types of events that it looks for are never written (`Reads`).  So a cell
with a hypothesis is `HYPOTHESIZED` and any other is `UNTESTED`
(`Reads.cellState`), which is what has been attained exactly where nothing was
passed.
-/
namespace Zest.Hunt

open UnitOfWork TransitionSystem

variable {services : HuntServices} {s t : Ledger}

/-! ## What the reader makes of it -/

theorem highestTierFromEvents_of_unread {events : List AuditEventRecord}
    (h : ∀ event ∈ events, tierPassEvents event.eventType = none) :
    highestTierFromEvents events = "UNTESTED" := by
  have hsorted : ∀ event ∈ byTime events, tierPassEvents event.eventType = none :=
    fun event hevent => h event ((List.mem_insertionSort _).mp hevent)
  unfold highestTierFromEvents
  generalize byTime events = sorted at hsorted
  induction sorted with
  | nil => rfl
  | cons event rest ih =>
    obtain ⟨hevent, hrest⟩ := List.forall_mem_cons.mp hsorted
    rw [List.foldl_cons, hevent]
    exact ih hrest

/-- Where all events name one node and one family, these are read, and something
is read unless one of them is empty. -/
theorem nodeFamilyIdentityFromEvents_of_names {events : List AuditEventRecord}
    {researchRunId : Id} {nodeKey familyId : Text}
    (hnames : ∀ event ∈ events, event.Names researchRunId nodeKey familyId) :
    (∀ found, nodeFamilyIdentityFromEvents events = some found →
      found.1 = nodeKey ∧ found.2.1 = familyId) ∧
    (events ≠ [] → nodeKey ≠ [] → familyId ≠ [] → nodeFamilyIdentityFromEvents events ≠ none) := by
  have hsorted : ∀ event ∈ byTimeReversed events, event.Names researchRunId nodeKey familyId :=
    fun event hevent => hnames event ((List.mem_insertionSort _).mp hevent)
  constructor
  · intro found hfound
    obtain ⟨event, hevent, hread⟩ := List.exists_of_findSome?_eq_some hfound
    have hthis := hsorted event hevent
    unfold nodeFamilyIdentity at hread
    rw [hthis.node, hthis.family] at hread
    dsimp only at hread
    split at hread
    · cases hread
      exact ⟨rfl, rfl⟩
    · cases hread
  · intro hne hnode hfamily hnone
    obtain ⟨event, hevent⟩ := List.exists_mem_of_ne_nil events hne
    have hread := List.findSome?_eq_none_iff.mp hnone event ((List.mem_insertionSort _).mpr hevent)
    have hthis := hnames event hevent
    unfold nodeFamilyIdentity at hread
    rw [hthis.node, hthis.family] at hread
    dsimp only at hread
    rw [if_pos ⟨hnode, hfamily⟩] at hread
    cases hread

theorem CoverageHypothesisView.make_eq_ok {hypothesisId : Option Id} {familyId nodeKey : Text}
    {identityId : Option Text} {tier : String} {view : CoverageHypothesisView}
    (h : CoverageHypothesisView.make hypothesisId familyId nodeKey identityId tier = .ok view) :
    view.hypothesisId = hypothesisId ∧ view.familyId = familyId ∧
      view.nodeCanonicalKey = nodeKey ∧ view.identityId = identityId ∧ view.highestTier = tier := by
  unfold CoverageHypothesisView.make at h
  repeat' split at h
  all_goals cases h
  exact ⟨rfl, rfl, rfl, rfl, rfl⟩

/-- The views are those of the listed hypotheses. -/
theorem mem_buildCoverageHypothesisView {researchRunId : Id} {events : List AuditEventRecord}
    {hypotheses : List HypothesisRecord} {views : List CoverageHypothesisView}
    (h : buildCoverageHypothesisView researchRunId events hypotheses = .ok views)
    (view : CoverageHypothesisView) :
    view ∈ views ↔
      ∃ hypothesis ∈ hypotheses, hypothesisView researchRunId events hypothesis = .ok (some view) := by
  induction hypotheses generalizing views with
  | nil =>
    cases h
    exact ⟨fun hview => absurd hview List.not_mem_nil, by rintro ⟨_, hin, _⟩; cases hin⟩
  | cons hypothesis rest ih =>
    obtain ⟨first, hfirst, h⟩ := bind_eq_ok h
    obtain ⟨others, hothers, h⟩ := bind_eq_ok h
    cases h
    rw [List.mem_append, ih hothers, Option.mem_toList]
    constructor
    · rintro (rfl | ⟨other, hother, hview⟩)
      · exact ⟨hypothesis, List.mem_cons_self, hfirst⟩
      · exact ⟨other, List.mem_cons_of_mem _ hother, hview⟩
    · rintro ⟨other, hother, hview⟩
      rcases List.mem_cons.mp hother with rfl | hother
      · rw [hfirst] at hview
        exact Or.inl (Except.ok.inj hview)
      · exact Or.inr ⟨other, hother, hview⟩

/-- Every listed hypothesis has been looked at. -/
theorem hypothesisView_of_build {researchRunId : Id} {events : List AuditEventRecord}
    {hypotheses : List HypothesisRecord} {views : List CoverageHypothesisView}
    (h : buildCoverageHypothesisView researchRunId events hypotheses = .ok views)
    {hypothesis : HypothesisRecord} (hmem : hypothesis ∈ hypotheses) :
    ∃ view, hypothesisView researchRunId events hypothesis = .ok view := by
  induction hypotheses generalizing views with
  | nil => cases hmem
  | cons first rest ih =>
    obtain ⟨view, hview, h⟩ := bind_eq_ok h
    obtain ⟨others, hothers, -⟩ := bind_eq_ok h
    rcases List.mem_cons.mp hmem with rfl | hmem
    · exact ⟨view, hview⟩
    · exact ih hothers hmem

/-- What the views say of a sound ledger: each is of a hypothesis that has an
identity, and takes it for untested. -/
structure Reads (s : Ledger) (researchRunId : Id) (views : List CoverageHypothesisView) : Prop where
  sound : ∀ view ∈ views, view.highestTier = "UNTESTED" ∧ view.hypothesisId ≠ none ∧
    view.identityId ≠ none ∧ ∃ h ∈ s.hypotheses, h.researchRunId = researchRunId ∧
      view.identityId = h.identityId ∧
      Generated s h.hypothesisId view.nodeCanonicalKey view.familyId
  complete : ∀ h ∈ s.hypotheses, h.researchRunId = researchRunId → ∀ nodeKey familyId,
    Generated s h.hypothesisId nodeKey familyId → nodeKey ≠ [] → familyId ≠ [] →
    ∃ view ∈ views, view.nodeCanonicalKey = nodeKey ∧ view.familyId = familyId ∧
      view.identityId = h.identityId

theorem Listed.mem_hypotheses {researchRunId : Id} {hypotheses : List HypothesisRecord}
    {events : List AuditEventRecord} (h : Listed s researchRunId hypotheses events)
    (hypothesis : HypothesisRecord) :
    hypothesis ∈ hypotheses ↔
      hypothesis ∈ s.hypotheses ∧ hypothesis.researchRunId = researchRunId := by
  rw [h.hypotheses.mem_iff, List.mem_filter, decide_eq_true_iff]

/-- The events that are read about a hypothesis of the run are all there are. -/
theorem Listed.mem_eventsOf {researchRunId : Id} {hypotheses : List HypothesisRecord}
    {events : List AuditEventRecord} (h : Listed s researchRunId hypotheses events)
    {hypothesis : HypothesisRecord} {nodeKey familyId : Text}
    (hnames : ∀ event ∈ s.auditEvents, event.subject = .hypothesis hypothesis.hypothesisId →
      event.Names researchRunId nodeKey familyId) (event : AuditEventRecord) :
    event ∈ eventsOf researchRunId hypothesis.hypothesisId events ↔
      event ∈ s.auditEvents ∧ event.subject = .hypothesis hypothesis.hypothesisId := by
  unfold eventsOf
  rw [List.mem_filter, h.events.mem_iff, List.mem_filter]
  constructor
  · rintro ⟨⟨hmem, -⟩, hown⟩
    simp only [Bool.and_eq_true, decide_eq_true_eq] at hown
    exact ⟨hmem, hown.1.1⟩
  · rintro ⟨hmem, hsubject⟩
    have hthis := hnames event hmem hsubject
    refine ⟨⟨hmem, by rw [hsubject]⟩, ?_⟩
    simp [hsubject, hthis.correlation, hthis.run]

/-- A hypothesis of a sound ledger, as it is viewed. -/
theorem Listed.hypothesisView {researchRunId : Id} {hypotheses : List HypothesisRecord}
    {events : List AuditEventRecord} (h : Listed s researchRunId hypotheses events) (hs : s.Sound)
    {hypothesis : HypothesisRecord} (hlisted : hypothesis ∈ hypotheses) {nodeKey familyId : Text}
    (hgen : Generated s hypothesis.hypothesisId nodeKey familyId)
    {made : Option CoverageHypothesisView}
    (hmade : hypothesisView researchRunId events hypothesis = .ok made) :
    (∀ view, made = some view → view.hypothesisId = some hypothesis.hypothesisId ∧
      view.familyId = familyId ∧ view.nodeCanonicalKey = nodeKey ∧
      view.identityId = hypothesis.identityId ∧ view.highestTier = "UNTESTED") ∧
    (nodeKey ≠ [] → familyId ≠ [] → made ≠ none) := by
  obtain ⟨hmem, hrun⟩ := (h.mem_hypotheses hypothesis).mp hlisted
  have hnames := hs.names hmem hgen
  rw [hrun] at hnames
  have hown := h.mem_eventsOf hnames
  obtain ⟨hread, hreadable⟩ := nodeFamilyIdentityFromEvents_of_names fun event hevent =>
    hnames event ((hown event).mp hevent).1 ((hown event).mp hevent).2
  have hne : eventsOf researchRunId hypothesis.hypothesisId events ≠ [] := by
    obtain ⟨generation, hgeneration, -, hsubject, -⟩ := hgen
    exact List.ne_nil_of_mem ((hown generation).mpr ⟨hgeneration, hsubject⟩)
  have htier := highestTierFromEvents_of_unread fun event hevent =>
    hs.unread event ((hown event).mp hevent).1
  obtain ⟨nodeKey', familyId', hidentity, -⟩ := hs.bound hypothesis hmem
  obtain ⟨identityId, hidentity⟩ := Option.ne_none_iff_exists'.mp hidentity
  unfold Zest.Hunt.hypothesisView at hmade
  dsimp only at hmade
  split at hmade
  next hnone =>
    cases hmade
    refine ⟨fun _ hview => (by cases hview), fun hnode hfamily => ?_⟩
    exact absurd hnone (hreadable hne hnode hfamily)
  next key family audited hfound =>
    obtain ⟨hnode, hfamily⟩ := hread _ hfound
    dsimp only at hnode hfamily
    rw [hnode, hfamily, htier] at hmade
    cases hcall : CoverageHypothesisView.make (some hypothesis.hypothesisId) familyId nodeKey
        (hypothesis.identityId <|> audited) "UNTESTED" with
    | error message =>
      rw [hcall] at hmade
      cases hmade
    | ok view =>
      rw [hcall] at hmade
      cases hmade
      refine ⟨?_, fun _ _ hnone => by cases hnone⟩
      intro view' hview
      cases hview
      obtain ⟨hid, hfam, hkey, hident, htop⟩ := CoverageHypothesisView.make_eq_ok hcall
      rw [hidentity] at hident ⊢
      exact ⟨hid, hfam, hkey, hident, htop⟩

theorem Listed.reads {researchRunId : Id} {hypotheses : List HypothesisRecord}
    {events : List AuditEventRecord} {views : List CoverageHypothesisView}
    (h : Listed s researchRunId hypotheses events) (hs : s.Sound)
    (hviews : buildCoverageHypothesisView researchRunId events hypotheses = .ok views) :
    Reads s researchRunId views := by
  constructor
  · intro view hview
    obtain ⟨hypothesis, hlisted, hmade⟩ := (mem_buildCoverageHypothesisView hviews view).mp hview
    obtain ⟨hmem, hrun⟩ := (h.mem_hypotheses hypothesis).mp hlisted
    obtain ⟨nodeKey, familyId, hidentity, hgen, -⟩ := hs.bound hypothesis hmem
    obtain ⟨hid, hfamily, hnode, hident, htier⟩ :=
      (h.hypothesisView hs hlisted hgen hmade).1 view rfl
    refine ⟨htier, by simp [hid], by rwa [hident], hypothesis, hmem, hrun, hident, ?_⟩
    rw [hnode, hfamily]
    exact hgen
  · intro hypothesis hmem hrun nodeKey familyId hgen hnode hfamily
    have hlisted := (h.mem_hypotheses hypothesis).mpr ⟨hmem, hrun⟩
    obtain ⟨made, hmade⟩ := hypothesisView_of_build hviews hlisted
    obtain ⟨hview, hsome⟩ := h.hypothesisView hs hlisted hgen hmade
    obtain ⟨view, rfl⟩ := Option.ne_none_iff_exists'.mp (hsome hnode hfamily)
    obtain ⟨-, hfam, hkey, hident, -⟩ := hview view rfl
    exact ⟨view, (mem_buildCoverageHypothesisView hviews view).mpr ⟨hypothesis, hlisted, hmade⟩,
      hkey, hfam, hident⟩

/-! ## The state of a cell -/

/-- Nothing that is viewed is without an identity. -/
theorem Reads.agnosticView_eq_none {researchRunId : Id} {views : List CoverageHypothesisView}
    (h : Reads s researchRunId views) (nodeKey familyId : Text) :
    agnosticView views nodeKey familyId = none := by
  have hnone : (views.filter fun view => view.nodeCanonicalKey = nodeKey ∧
      view.familyId = familyId ∧ view.identityId = none) = [] := by
    rw [List.filter_eq_nil_iff]
    intro view hview hmatches
    exact (h.sound view hview).2.2.1 (of_decide_eq_true hmatches).2.2
  unfold agnosticView
  rw [hnone]
  rfl

/-- **The state of a cell**: whatever its hypotheses have passed, it is
`HYPOTHESIZED` if there is one, and `UNTESTED` if there is none. -/
theorem Reads.cellState {researchRunId : Id} {views : List CoverageHypothesisView}
    (h : Reads s researchRunId views) (cell : CoverageCell) :
    ((∃ hypothesis, OfCell s researchRunId cell hypothesis) →
      cellState views cell.nodeCanonicalKey cell.familyId cell.identityId = .hypothesized) ∧
    ((¬∃ hypothesis, OfCell s researchRunId cell hypothesis) →
      cellState views cell.nodeCanonicalKey cell.familyId cell.identityId = .untested) := by
  have hspecific : ∀ view, specificView views cell.nodeCanonicalKey cell.familyId cell.identityId =
      some view → view ∈ views ∧ view.nodeCanonicalKey = cell.nodeCanonicalKey ∧
        view.familyId = cell.familyId ∧ view.identityId = some cell.identityId := by
    intro view hview
    obtain ⟨hmem, hmatches⟩ := List.mem_filter.mp (List.mem_of_getLast? hview)
    exact ⟨hmem, of_decide_eq_true hmatches⟩
  unfold Zest.Hunt.cellState
  rw [h.agnosticView_eq_none, Option.orElse_eq_orElse, Option.orElse_eq_or, Option.or_none]
  cases hview : specificView views cell.nodeCanonicalKey cell.familyId cell.identityId with
  | some view =>
    obtain ⟨hmem, hkey, hfamily, hidentity⟩ := hspecific view hview
    obtain ⟨htier, hid, -, hypothesis, hin, hrun, hident, hgen⟩ := h.sound view hmem
    constructor
    · intro _
      simp [htier, tierToState, hid]
    · intro hnone
      refine absurd ⟨hypothesis, hin, hrun, ?_, ?_⟩ hnone
      · rw [← hident]
        exact hidentity
      · rw [← hkey, ← hfamily]
        exact hgen
  | none =>
    refine ⟨?_, fun _ => rfl⟩
    rintro ⟨hypothesis, hcell⟩
    -- the key of a cell is not blank, so its hypotheses are viewed
    have hnode : cell.nodeCanonicalKey ≠ [] := by
      intro hnil
      exact cell.nodeCanonicalKey_nonempty (by rw [hnil]; rfl)
    have hfamily : cell.familyId ≠ [] := by
      intro hnil
      exact cell.familyId_nonempty (by rw [hnil]; rfl)
    obtain ⟨view, hmem, hkey, hfam, hident⟩ := h.complete hypothesis hcell.mem hcell.run _ _
      hcell.generated hnode hfamily
    have hempty := List.getLast?_eq_none_iff.mp hview
    rw [List.filter_eq_nil_iff] at hempty
    exact absurd (decide_eq_true ⟨hkey, hfam, hident.trans hcell.identity⟩) (hempty view hmem)

/-- The cell is of a node of the graph that is in scope. -/
def InScope (graph : AttackSurfaceGraph) (cell : CoverageCell) : Prop :=
  ∃ node ∈ graph.nodes, node.canonicalKey = cell.nodeCanonicalKey ∧
    node.scopeClassification = .inScope

theorem CoverageCell.make_eq_ok {draft : CellDraft} {cell : CoverageCell}
    (h : CoverageCell.make draft = .ok cell) :
    cell.nodeCanonicalKey = draft.nodeCanonicalKey ∧ cell.identityId = draft.identityId ∧
      cell.familyId = draft.familyId ∧ cell.state = draft.state := by
  unfold CoverageCell.make at h
  repeat' split at h
  all_goals cases h
  exact ⟨rfl, rfl, rfl, rfl⟩

/-- The state of a cell in scope is read off the views. -/
theorem state_of_mem_cells {graph : AttackSurfaceGraph} {registry : List HunterFamilyView}
    {views : List CoverageHypothesisView} {matrix : CoverageMatrix} {cell : CoverageCell}
    (h : computeCoverageDebt graph registry views = .ok matrix) (hcell : cell ∈ matrix.cells)
    (hscope : InScope graph cell) :
    cell.state = cellState views cell.nodeCanonicalKey cell.familyId cell.identityId := by
  obtain ⟨cells, hcells, h⟩ := bind_eq_ok h
  cases h
  obtain ⟨draft, hdraft, hmade⟩ := mem_of_mapM_eq_ok hcells ((List.mem_insertionSort _).mp hcell)
  obtain ⟨hkey, hidentity, hfamily, hstate⟩ := CoverageCell.make_eq_ok hmade
  obtain ⟨node, hnode, hdraft⟩ := List.mem_flatMap.mp hdraft
  obtain ⟨inScope, hin, hsame, hclass⟩ := hscope
  unfold nodeDrafts at hdraft
  split at hdraft
  next hout =>
    -- the only node with the key is in scope
    obtain ⟨family, -, rfl⟩ := List.mem_map.mp hdraft
    have hnodes := AttackSurfaceGraph.eq_of_canonicalKey hin hnode (hsame.trans hkey)
    subst hnodes
    exact absurd hclass hout
  · obtain ⟨family, -, hdraft⟩ := List.mem_flatMap.mp hdraft
    obtain ⟨identityId, -, rfl⟩ := List.mem_map.mp hdraft
    rw [hstate, hkey, hidentity, hfamily]

/-- The matrix of the run, with the rows listed in some order. -/
def MatrixOf (s : Ledger) (researchRunId : Id) (graph : AttackSurfaceGraph)
    (registry : List HunterFamilyView) (matrix : CoverageMatrix) : Prop :=
  ∃ hypotheses events, Listed s researchRunId hypotheses events ∧
    coverageDebtView graph registry researchRunId hypotheses events = .ok matrix

section Matrix

variable {researchRunId : Id} {graph : AttackSurfaceGraph} {registry : List HunterFamilyView}
  {matrix : CoverageMatrix} {cell : CoverageCell}

/-- What the matrix says of a cell in scope. -/
theorem MatrixOf.state (h : MatrixOf s researchRunId graph registry matrix) (hs : s.Sound)
    (hcell : cell ∈ matrix.cells) (hscope : InScope graph cell) :
    ((∃ hypothesis, OfCell s researchRunId cell hypothesis) ∧ cell.state = .hypothesized) ∨
    ((¬∃ hypothesis, OfCell s researchRunId cell hypothesis) ∧ cell.state = .untested) := by
  obtain ⟨hypotheses, events, hlisted, h⟩ := h
  obtain ⟨views, hviews, hdebt⟩ := bind_eq_ok h
  obtain ⟨hsome, hnone⟩ := (hlisted.reads hs hviews).cellState cell
  rw [state_of_mem_cells hdebt hcell hscope]
  by_cases hcells : ∃ hypothesis, OfCell s researchRunId cell hypothesis
  · exact Or.inl ⟨hcells, hsome hcells⟩
  · exact Or.inr ⟨hcells, hnone hcells⟩

/-- That is the greatest state attained exactly where V1 was not passed. -/
theorem MatrixOf.isGreatest_iff (h : MatrixOf s researchRunId graph registry matrix)
    (hs : s.Sound) (hcell : cell ∈ matrix.cells) (hscope : InScope graph cell) :
    IsGreatest {state | Attained s researchRunId cell state} cell.state ↔
      ∀ hypothesis, OfCell s researchRunId cell hypothesis →
        ¬Passed s hypothesis.hypothesisId .v1 := by
  have hstate := h.state hs hcell hscope
  constructor
  · rintro ⟨-, hgreatest⟩ hypothesis hof hpassed
    have hle : CoverageState.v1Passed ≤ cell.state := hgreatest (.tier hof hpassed)
    rw [CoverageState.le_iff] at hle
    rcases hstate with ⟨-, hstate⟩ | ⟨-, hstate⟩
    · rw [hstate] at hle
      exact absurd hle (by decide)
    · rw [hstate] at hle
      exact absurd hle (by decide)
  · intro hnever
    have hbelow : ∀ state, Attained s researchRunId cell state → state ≤ cell.state := by
      intro state hattained
      rw [CoverageState.le_iff]
      cases hattained with
      | untested =>
        rcases hstate with ⟨-, hstate⟩ | ⟨-, hstate⟩
        · rw [hstate]
          decide
        · rw [hstate]
      | hypothesized hof =>
        rcases hstate with ⟨-, hstate⟩ | ⟨hnone, -⟩
        · rw [hstate]
        · exact absurd ⟨_, hof⟩ hnone
      | tier hof hpassed => exact absurd (hs.ordered _ _ hpassed) (hnever _ hof)
    refine ⟨?_, fun state hattained => hbelow state hattained⟩
    rcases hstate with ⟨⟨hypothesis, hof⟩, hstate⟩ | ⟨-, hstate⟩
    · rw [hstate]
      exact .hypothesized hof
    · rw [hstate]
      exact .untested

end Matrix

/-- **Does coverage reflect validation?**  The state of a cell is what its
hypotheses have attained where none has passed V1, and nowhere else.  More cycles
never lower it, and the order in which the rows are listed does not matter. -/
theorem coverage_reflects_validation {s₀ : Ledger} {calls : List CycleCall} (hfresh : s₀.Fresh)
    (hrun : Run (HuntStep services) s₀ calls s) {researchRunId : Id} {graph : AttackSurfaceGraph}
    {registry : List HunterFamilyView} {matrix : CoverageMatrix} {cell : CoverageCell}
    (hmatrix : MatrixOf s researchRunId graph registry matrix) (hcell : cell ∈ matrix.cells)
    (hscope : InScope graph cell) :
    (IsGreatest {state | Attained s researchRunId cell state} cell.state ↔
      ∀ hypothesis, OfCell s researchRunId cell hypothesis →
        ¬Passed s hypothesis.hypothesisId .v1) ∧
    (∀ (calls' : List CycleCall) (t : Ledger) (graph' : AttackSurfaceGraph)
      (registry' : List HunterFamilyView) (matrix' : CoverageMatrix) (cell' : CoverageCell),
      Run (HuntStep services) s calls' t → MatrixOf t researchRunId graph' registry' matrix' →
      cell' ∈ matrix'.cells → InScope graph' cell' → cell'.key = cell.key →
      cell.state ≤ cell'.state) ∧
    (∀ (matrix' : CoverageMatrix) (cell' : CoverageCell),
      MatrixOf s researchRunId graph registry matrix' → cell' ∈ matrix'.cells →
      cell'.key = cell.key → cell'.state = cell.state) := by
  obtain ⟨hs, -⟩ := onward_of_run hrun hfresh.sound
  have hcells : ∀ {u : Ledger} {cell' : CoverageCell}, cell'.key = cell.key →
      ∀ hypothesis, OfCell u researchRunId cell hypothesis ↔
        OfCell u researchRunId cell' hypothesis := by
    intro u cell' hkey hypothesis
    injection hkey with hnode hrest
    injection hrest with hidentity hrest
    injection hrest with hfamily hrest
    constructor
    · intro hof
      exact ⟨hof.mem, hof.run, hidentity ▸ hof.identity, hnode ▸ hfamily ▸ hof.generated⟩
    · intro hof
      exact ⟨hof.mem, hof.run, hidentity ▸ hof.identity, hnode ▸ hfamily ▸ hof.generated⟩
  refine ⟨hmatrix.isGreatest_iff hs hcell hscope, ?_, ?_⟩
  · intro calls' t graph' registry' matrix' cell' hrun' hmatrix' hcell' hscope' hkey
    obtain ⟨ht, hgrows⟩ := onward_of_run hrun' hs
    rw [CoverageState.le_iff]
    rcases hmatrix.state hs hcell hscope with ⟨⟨hypothesis, hof⟩, hstate⟩ | ⟨-, hstate⟩
    · -- the hypothesis of the cell is still there
      have hof' := (hcells hkey hypothesis).mp (hgrows.ofCell hof)
      rcases hmatrix'.state ht hcell' hscope' with ⟨-, hstate'⟩ | ⟨hnone, -⟩
      · rw [hstate, hstate']
      · exact absurd ⟨hypothesis, hof'⟩ hnone
    · rcases hmatrix'.state ht hcell' hscope' with ⟨-, hstate'⟩ | ⟨-, hstate'⟩
      · rw [hstate, hstate']
        decide
      · rw [hstate, hstate']
  · intro matrix' cell' hmatrix' hcell' hkey
    have hscope' : InScope graph cell' := by
      obtain ⟨node, hnode, hsame, hclass⟩ := hscope
      injection hkey with hkeys
      exact ⟨node, hnode, hsame.trans hkeys.symm, hclass⟩
    rcases hmatrix.state hs hcell hscope with ⟨⟨hypothesis, hof⟩, hstate⟩ | ⟨hnone, hstate⟩
    · rcases hmatrix'.state hs hcell' hscope' with ⟨-, hstate'⟩ | ⟨hnone', -⟩
      · rw [hstate, hstate']
      · exact absurd ⟨hypothesis, (hcells hkey hypothesis).mp hof⟩ hnone'
    · rcases hmatrix'.state hs hcell' hscope' with ⟨⟨hypothesis, hof⟩, -⟩ | ⟨-, hstate'⟩
      · exact absurd ⟨hypothesis, (hcells hkey hypothesis).mpr hof⟩ hnone
      · rw [hstate, hstate']

/-! ## One node, one family, one cycle -/

def huntFamily : HunterFamilyView where
  familyId := "family".toList
  name := "MASS_ASSIGNMENT"
  targetNodeKinds := ["ORIGIN"]
  preconditions := ⟨none, none, none, none⟩
  claimTemplate := "a claim".toList
  evidenceRequirements := ⟨[], none⟩
  validationTier := "V2"
  enabled := true

def huntGraph : AttackSurfaceGraph where
  nodes := [{
    nodeId := "node".toList
    kind := .origin
    canonicalKey := "node".toList
    epistemicStatus := .observed
    identityIds := []
    provenanceRefs := []
    scopeClassification := .inScope
    attributes := [] }]
  edges := []
  distinctIds := by simp
  distinctKeys := by simp

def huntServices : HuntServices where
  format := fun template _ => some template
  v3ArgumentsForFamily := fun _ _ _ _ => some []

def huntCall : CycleCall where
  inputs := ⟨fun n => n, fun n => n, fun n => n⟩
  command := ⟨1, huntGraph, some [huntFamily], none⟩

/-- The ledger when the cycle has been stopped after so many transactions. -/
def huntedLedger (transactions : Nat) : Ledger :=
  (runHuntCycle huntServices huntCall.inputs huntCall.command).stoppedAfter transactions
    ⟨[], [], [], []⟩

theorem run_huntedLedger (transactions : Nat) :
    Run (HuntStep huntServices) ⟨[], [], [], []⟩ [huntCall] (huntedLedger transactions) :=
  (Run.nil _).snoc ⟨none, exec_stoppedAfter transactions _ _⟩

def huntedCell : CoverageCell where
  nodeCanonicalKey := "node".toList
  identityId := anonymousIdentity
  familyId := "family".toList
  state := .hypothesized
  missingEvidence := ["HYPOTHESIS_NOT_VALIDATED".toList]
  nodeCanonicalKey_nonempty := by decide
  identityId_nonempty := by decide
  familyId_nonempty := by decide

theorem inScope_huntedCell : InScope huntGraph huntedCell :=
  ⟨_, List.mem_singleton_self _, rfl, rfl⟩

/-- Before the validation and after it, the matrix is the same. -/
theorem matrixOf_huntedLedger_generated :
    MatrixOf (huntedLedger 1) 1 huntGraph [huntFamily] ⟨[huntedCell]⟩ :=
  ⟨_, _, ⟨List.Perm.refl _, List.Perm.refl _⟩, rfl⟩

theorem matrixOf_huntedLedger_validated :
    MatrixOf (huntedLedger 2) 1 huntGraph [huntFamily] ⟨[huntedCell]⟩ :=
  ⟨_, _, ⟨List.Perm.refl _, List.Perm.refl _⟩, rfl⟩

/-- The hypothesis is generated and not yet validated. -/
theorem coverage_reflects_validation_generated :
    IsGreatest {state | Attained (huntedLedger 1) 1 huntedCell state} .hypothesized := by
  refine (coverage_reflects_validation ⟨rfl, rfl⟩ (run_huntedLedger 1)
    matrixOf_huntedLedger_generated (List.mem_singleton_self _) inScope_huntedCell).1.mpr ?_
  rintro hypothesis - ⟨event, hevent, -, htier, -⟩
  rw [List.mem_singleton.mp hevent] at htier
  cases htier

/-- The hypothesis has passed V1 and V2, and its cell says that it has not been
validated. -/
theorem validated_hypothesis_not_covered :
    ∃ (s₀ s : Ledger) (calls : List CycleCall) (matrix : CoverageMatrix) (cell : CoverageCell),
      s₀.Fresh ∧ Run (HuntStep huntServices) s₀ calls s ∧
      MatrixOf s 1 huntGraph [huntFamily] matrix ∧ cell ∈ matrix.cells ∧
      InScope huntGraph cell ∧ Attained s 1 cell .v2Passed ∧ cell.state = .hypothesized ∧
      ¬IsGreatest {state | Attained s 1 cell state} cell.state := by
  have hof : OfCell (huntedLedger 2) 1 huntedCell
      ⟨0, 1, "a claim".toList, some "family".toList, some anonymousIdentity⟩ :=
    ⟨List.mem_singleton_self _, rfl, rfl, _, List.mem_cons_self, rfl, rfl, rfl, rfl⟩
  have hevent : Passed (huntedLedger 2) 0 .v2 :=
    ⟨_, List.mem_cons_of_mem _ (List.mem_cons_of_mem _ (List.mem_singleton_self _)), rfl, rfl, rfl⟩
  have hpassed : Attained (huntedLedger 2) 1 huntedCell .v2Passed := .tier hof hevent
  refine ⟨_, _, _, _, _, ⟨rfl, rfl⟩, run_huntedLedger 2, matrixOf_huntedLedger_validated,
    List.mem_singleton_self _, inScope_huntedCell, hpassed, rfl, ?_⟩
  rintro ⟨-, hgreatest⟩
  exact absurd (CoverageState.le_iff.mp (hgreatest hpassed)) (by decide)

end Zest.Hunt
