import Zest.FrontierInvariant

/-! # The events of an item are a legal path

On an item of the origin of its run, only the runner that has selected it enters events,
and each event is one that may follow the one before.  So nobody works on an item that
somebody else has selected, and no selection is refused when it is entered.  An item of
another origin is never selected: it is blocked, and more than once when several runners
come upon it.
-/
namespace Zest.Discovery

open SequencedLedger SortByKey StoreProcesses TransitionSystem UniqueRows

/-! ## Statements without a number -/

/-- The number of the event is still to be read. -/
def Unread (todo : List Statement) : Prop := ∀ e, .insert e ∉ todo

theorem fits_of_unread {R : Nat → Nat → Prop} {f : Text} {n : Nat} {todo : List Statement}
    (h : Unread todo) : Fits R f n todo := by
  induction todo generalizing n with
  | nil => trivial
  | cons statement rest ih =>
    have hrest : Unread rest := fun e he => h e (List.mem_cons_of_mem _ he)
    cases statement with
    | propose i => exact ih hrest
    | append g eventKind => exact ih hrest
    | insert e => exact absurd List.mem_cons_self (h e)

/-- The events of one item that are to be entered, and which may follow its last one. -/
structure Entering (frontierId : Text) (todo : List Statement) (kinds : List FrontierEventKind) :
    Prop where
  unread : Unread todo
  kinds_eq : ∀ f, kindsOn todo f = if frontierId = f then kinds else []
  not_selected : .selected ∉ kinds

section Entering

variable {rows : List FrontierRow} {todo : List Statement} {i : FrontierItem}
  {kinds : List FrontierEventKind}

theorem Entering.frontierId_eq {frontierId f : Text} (h : Entering frontierId todo kinds)
    (hf : kindsOn todo f ≠ []) : frontierId = f := by
  by_contra hne
  rw [h.kinds_eq f, if_neg hne] at hf
  exact hf rfl

theorem Entering.not_mem {frontierId : Text} (h : Entering frontierId todo kinds) (f : Text) :
    .selected ∉ kindsOn todo f := by
  rw [h.kinds_eq f]
  split
  · exact h.not_selected
  · exact List.not_mem_nil

theorem View.enter (h : View rows []) (henter : Entering i.frontierId todo kinds)
    (hitem : .item i ∈ rows) (hdistinct : Distinct FrontierRow.keys rows)
    (hlawful : ∀ c, .config c ∈ rows → c.researchRunId = i.researchRunId →
      Lawful (c.normalizedOrigin = i.candidateOrigin) (kindsOf rows i.frontierId ++ kinds)) :
    View rows todo :=
  { h with
    todo_item := fun f hf => ⟨i, hitem, henter.frontierId_eq hf⟩
    lawful := fun j c hj hc hrun => by
      rw [henter.kinds_eq]
      by_cases hid : i.frontierId = j.frontierId
      · obtain rfl := item_unique hdistinct hitem hj hid
        rw [if_pos rfl]
        exact hlawful c hc hrun
      · rw [if_neg hid]
        exact h.lawful j c hj hc hrun
    bounded := fun _ => fits_of_unread henter.unread
    exact := fun _ _ => fits_of_unread henter.unread }

end Entering

theorem entering_block (f : Text) : Entering f [.append f .blockedScope] [.blockedScope] where
  unread e he := by simp at he
  kinds_eq g := by
    rw [kindsOn_cons, kindsOn_nil, List.append_nil, Statement.kindOn]
    split <;> rfl
  not_selected := by decide

/-- **What a cycle enters in the end** may follow a selection. -/
theorem entering_outcome (canonicalKey : List Text → Text) (config : DiscoveryRunConfig)
    (items : List FrontierItem) (i : FrontierItem) (outcome : Outcome) :
    ∃ kinds, Entering i.frontierId (outcome.statements canonicalKey config items i) kinds ∧
      (FrontierEventKind.selected :: kinds).IsChain (Follows True) := by
  have hone : ∀ proposals : List FrontierItem, ∀ kind : FrontierEventKind, kind ≠ .selected →
      Entering i.frontierId (proposals.map .propose ++ [.append i.frontierId kind]) [kind] := by
    intro proposals kind hkind
    refine ⟨fun e he => by simp at he, fun f => ?_, by simpa using Ne.symm hkind⟩
    rw [kindsOn_append, kindsOn_propose, List.nil_append, kindsOn_cons, kindsOn_nil,
      List.append_nil, Statement.kindOn]
    split <;> rfl
  have hnone : ∀ proposals : List FrontierItem,
      Entering i.frontierId (proposals.map .propose) [] := fun proposals =>
    ⟨fun e he => by simp at he, fun f => by simp, List.not_mem_nil⟩
  have hchain : ∀ kind, kind ∈ legalTransitions .selected →
      [FrontierEventKind.selected, kind].IsChain (Follows True) := by
    intro kind hkind
    rw [List.isChain_cons_cons]
    exact ⟨.inl ⟨trivial, hkind⟩, List.isChain_singleton _⟩
  cases outcome with
  | reobserveRequired inspectId =>
    rw [Outcome.statements, reobserve]
    by_cases hcount : config.maxPerRouteRevisit ≤ (sameRoute items i).length
    · rw [if_pos hcount]
      exact ⟨_, hone [] .noNewInformation (by decide), hchain _ (by decide)⟩
    · rw [if_neg hcount]
      split
      · exact ⟨_, hone [] .noNewInformation (by decide), hchain _ (by decide)⟩
      · refine ⟨[.failedTransient, .eligible], ⟨fun e he => by simp at he, fun f => ?_,
          by decide⟩, ?_⟩
        · simp only [kindsOn_cons, kindsOn_nil, Statement.kindOn]
          split <;> rfl
        · simp only [List.isChain_cons_cons, List.isChain_singleton, and_true]
          exact ⟨.inl ⟨trivial, by decide⟩, .inl ⟨trivial, by decide⟩⟩
  | outOfScope => exact ⟨_, hone [] .blockedScope (by decide), hchain _ (by decide)⟩
  | invocationFailed => exact ⟨_, hone [] .failedTerminal (by decide), hchain _ (by decide)⟩
  | unknownOutcome => exact ⟨_, hnone [], List.isChain_singleton _⟩
  | observationProduced proposals =>
    exact ⟨_, hone proposals .observed (by decide), hchain _ (by decide)⟩
  | reauthorizationRequired proposals =>
    exact ⟨_, hone proposals .awaitingReauthorization (by decide), hchain _ (by decide)⟩
  | otherwise proposals => exact ⟨_, hnone proposals, List.isChain_singleton _⟩

/-- The items that a cycle proposes in the end are of its run. -/
theorem run_of_outcome {canonicalKey : List Text → Text} {config : DiscoveryRunConfig}
    {items : List FrontierItem} {i j : FrontierItem} {outcome : Outcome}
    (hproposals : ∀ j ∈ outcome.proposals, j.researchRunId = config.researchRunId)
    (hrun : config.researchRunId = i.researchRunId)
    (hj : .propose j ∈ outcome.statements canonicalKey config items i) :
    j.researchRunId = config.researchRunId := by
  cases outcome with
  | reobserveRequired inspectId =>
    rw [Outcome.statements, reobserve] at hj
    split at hj
    · simp at hj
    · split at hj
      · simp at hj
      · simp only [List.mem_cons, reduceCtorEq, List.not_mem_nil, or_false, false_or,
          Statement.propose.injEq] at hj
        rw [hj, hrun]
  | outOfScope => simp [Outcome.statements] at hj
  | invocationFailed => simp [Outcome.statements] at hj
  | unknownOutcome => simp [Outcome.statements] at hj
  | observationProduced proposals =>
    exact hproposals j (by simpa [Outcome.statements, Outcome.proposals] using hj)
  | reauthorizationRequired proposals =>
    exact hproposals j (by simpa [Outcome.statements, Outcome.proposals] using hj)
  | otherwise proposals =>
    exact hproposals j (by simpa [Outcome.statements, Outcome.proposals] using hj)

/-! ## One step -/

section Steps

variable {canonicalKey : List Text → Text} {start : RunnerId → DiscoveryRunConfig}
variable {s t : FrontierSystem} {p q : RunnerId} {f : Text}

theorem engaged_of_quiet {pending : List FrontierRow} {phase : Phase}
    (h : Engaged pending phase f) (htodo : kindsOn phase.todo f = [])
    (hgranted : ∀ i, phase ≠ .granted i) : eventsOf pending f ≠ [] := by
  rcases h with h | h | ⟨i, hi, -⟩
  · exact absurd htodo h
  · exact h
  · exact absurd hi (hgranted i)

theorem mem_itemsOfRun {rows : List FrontierRow} {researchRunId : Text} {i : FrontierItem} :
    i ∈ itemsOfRun rows researchRunId ↔ .item i ∈ rows ∧ i.researchRunId = researchRunId := by
  simp [itemsOfRun]

theorem Inv.configure (h : Inv start s) (hphase : s.phase p = .opening) {seeds : List FrontierItem}
    (hseeds : ∀ i ∈ seeds, i.researchRunId = (start p).researchRunId)
    (hfree : s.store.Free FrontierRow.keys (.config (start p))) :
    Inv start (s.insert p (.config (start p)) (.writing .starting (seeds.map .propose))) := by
  have hpending : s.store.pending p = [] := h.phase hphase
  have hview := h.view p
  rw [hphase] at hview
  have hnot : ∀ f, ¬ Engaged (s.store.pending p ++ [.config (start p)])
      (.writing .starting (seeds.map .propose)) f := by
    intro f hf
    have hevents := engaged_of_quiet hf (kindsOn_propose seeds f) fun i => by simp
    rw [hpending] at hevents
    exact hevents rfl
  refine h.insert hfree (by intro f e he; cases he) ?_ ?_ (fun f _ hf => absurd hf (hnot f))
    (by rw [hphase]; rfl) (fun f _ hf => absurd hf (hnot f))
  · refine hview.configure (fun c hc hrun => ?_) (fun _ => rfl) (kindsOn_propose seeds)
    rw [RowStore.visible_of_nil hpending] at hc
    exact hfree.committed _ hc (clash_config hrun)
  · refine ⟨?_, fun hscript => absurd rfl hscript, fun i hi => hseeds i (by simpa using hi),
      fun f => by simp⟩
    rw [RowStore.visible_insert_self]
    exact List.mem_append_right _ (List.mem_singleton_self _)

theorem Inv.propose (h : Inv start s) {script : Script} {i : FrontierItem} {rest : List Statement}
    (created eligible : Text) (hphase : s.phase p = .writing script (.propose i :: rest))
    (hfree : s.store.Free FrontierRow.keys (.item i)) :
    Inv start (s.insert p (.item i) (.writing script
      (.insert ⟨created, i.frontierId, .created, 1, none⟩ ::
        .insert ⟨eligible, i.frontierId, .eligible, 2, none⟩ :: rest))) := by
  have hview := h.view p
  rw [hphase] at hview
  obtain ⟨hconfig, hscript, hrun, hselected⟩ := h.phase hphase
  have hnew : ∀ q j, .item j ∈ s.store.visible q → j.frontierId ≠ i.frontierId := by
    intro q j hj hid
    rcases List.mem_append.mp hj with hj | hj
    · exact hfree.committed _ hj (clash_item hid)
    · exact hfree.pending q _ hj (clash_item hid)
  -- on another item, the runner is engaged as before
  have hbefore : ∀ f, f ≠ i.frontierId → Home (s.store.visible p ++ [.item i]) f →
      Engaged (s.store.pending p ++ [.item i]) (.writing script
        (.insert ⟨created, i.frontierId, .created, 1, none⟩ ::
          .insert ⟨eligible, i.frontierId, .eligible, 2, none⟩ :: rest)) f →
      Home (s.store.visible p) f ∧ Engaged (s.store.pending p) (s.phase p) f := by
    intro f hf hhome hengaged
    constructor
    · obtain ⟨j, c, hj, rfl, hc, hrun', horigin⟩ := hhome
      simp only [List.mem_append, List.mem_singleton, reduceCtorEq, or_false,
        FrontierRow.item.injEq] at hj hc
      rcases hj with hj | rfl
      · exact ⟨j, c, hj, rfl, hc, hrun', horigin⟩
      · exact absurd rfl hf
    · rcases hengaged with hkinds | hevents | ⟨j, hj, -⟩
      · refine .inl ?_
        rw [hphase]
        simpa [Phase.todo, kindsOn_cons, Statement.kindOn, Ne.symm hf] using hkinds
      · rw [eventsOf_concat_item] at hevents
        exact .inr (.inl hevents)
      · cases hj
  refine h.insert hfree (by intro f e he; cases he) ?_ ?_ ?_ (by rw [hphase]; rfl) ?_
  · exact hview.propose created eligible (hnew p) hconfig (hrun i List.mem_cons_self).symm
  · refine ⟨?_, hscript, fun j hj => hrun j ?_, fun f => ?_⟩
    · rw [RowStore.visible_insert_self]
      exact List.mem_append_left _ hconfig
    · simp only [List.mem_cons, reduceCtorEq, false_or] at hj
      exact List.mem_cons_of_mem _ hj
    · have hold := hselected f
      simp only [kindsOn_cons, Statement.kindOn] at hold ⊢
      split <;> simpa using hold
  · intro f hhome hengaged q hq hqf
    by_cases hf : f = i.frontierId
    · obtain ⟨j, hj, hid⟩ := h.engaged_item hqf
      exact hnew q j hj (hid.trans hf)
    · obtain ⟨hhome, hengaged⟩ := hbefore f hf hhome hengaged
      exact hq (h.alone p q f hhome hengaged hqf).symm
  · intro f hhome hengaged
    rw [Holds, RowStore.insert_pending_self, RowStore.insert_committed]
    by_cases hf : f = i.frontierId
    · exact .inl ⟨i, List.mem_append_right _ (List.mem_singleton_self _), hf.symm⟩
    · obtain ⟨hhome, hengaged⟩ := hbefore f hf hhome hengaged
      rcases h.holds p f hhome hengaged with ⟨j, hj, hid⟩ | hlock | hlast
      · exact .inl ⟨j, List.mem_append_left _ hj, hid⟩
      · rw [hphase] at hlock
        cases hlock
      · exact .inr (.inr hlast)

/-- An event that is entered: the runner has been engaged with its item. -/
theorem engaged_insert {next : Phase} {e : FrontierEvent}
    (htodo : (s.phase p).todo = .insert e :: next.todo) (hgranted : ∀ i, next ≠ .granted i)
    (h : Engaged (s.store.pending p ++ [.event e]) next f) :
    Engaged (s.store.pending p) (s.phase p) f := by
  have hkinds : kindsOn (s.phase p).todo e.frontierId ≠ [] := by
    rw [htodo, kindsOn_cons]
    simp [Statement.kindOn]
  rcases h with h | h | ⟨i, hi, -⟩
  · refine .inl ?_
    rw [htodo, kindsOn_cons]
    exact List.append_ne_nil_of_right_ne_nil _ h
  · by_cases hid : e.frontierId = f
    · exact .inl (hid ▸ hkinds)
    · rw [eventsOf_concat_ne hid] at h
      exact .inr (.inl h)
  · exact absurd hi (hgranted i)

theorem Inv.insertEvent (h : Inv start s) {next : Phase} {e : FrontierEvent}
    (htodo : (s.phase p).todo = .insert e :: next.todo) (hgranted : ∀ i, next ≠ .granted i)
    (hlock : next.lock = (s.phase p).lock)
    (hfree : s.store.Free FrontierRow.keys (.event e))
    (hgenerations : Generations (eventsOf (s.store.visible p) e.frontierId ++ [e]))
    (hown : PhaseInv start (s.store.insert p (.event e)) p next) :
    Inv start (s.insert p (.event e) next) := by
  have hview := h.view p
  rw [htodo] at hview
  refine h.insert hfree (fun f e' he' => ?_) (hview.insert hgenerations) hown ?_ hlock ?_
  · obtain ⟨hsame, rfl⟩ := FrontierRow.eventOf_eq_some.mp he'
    cases hsame
    exact (hview.bounded _).1 rfl
  · intro f hhome hengaged q hq hqf
    exact hq (h.alone p q f (home_concat_event.mp hhome)
      (engaged_insert htodo hgranted hengaged) hqf).symm
  · intro f hhome hengaged
    have hold := h.holds p f (home_concat_event.mp hhome) (engaged_insert htodo hgranted hengaged)
    rw [Holds, RowStore.insert_pending_self, RowStore.insert_committed, hlock]
    rcases hold with ⟨i, hi, hid⟩ | hold
    · exact .inl ⟨i, List.mem_append_left _ hi, hid⟩
    · exact .inr hold

/-- What is known of a runner that only moves on, with no events to enter. -/
theorem Inv.goto_quiet (h : Inv start s) {next : Phase} (htodo : (s.phase p).todo = [])
    (hkinds : ∀ f, kindsOn next.todo f = []) (hgranted : ∀ i, next ≠ .granted i)
    (hlock : next.lock = (s.phase p).lock) (hown : PhaseInv start s.store p next) :
    Inv start (s.goto p next) := by
  have hview := h.view p
  rw [htodo] at hview
  exact h.goto_same (hview.of_kindsOn (fun _ => rfl) hkinds) hown
    (fun f hf => .inr (.inl (engaged_of_quiet hf (hkinds f) hgranted))) hlock

/-- A runner is to enter events of an item that it has to itself, or of one of another
origin. -/
theorem Inv.goto_enter (h : Inv start s) {i : FrontierItem} {todo : List Statement}
    {kinds : List FrontierEventKind} (htodo : (s.phase p).todo = [])
    (hnone : (s.phase p).lock = none) (henter : Entering i.frontierId todo kinds)
    (hitem : .item i ∈ s.store.visible p)
    (hlawful : ∀ c, .config c ∈ s.store.visible p → c.researchRunId = i.researchRunId →
      Lawful (c.normalizedOrigin = i.candidateOrigin)
        (kindsOf (s.store.visible p) i.frontierId ++ kinds))
    (hown : PhaseInv start s.store p (.writing .closing todo))
    (hengaged : Home (s.store.visible p) i.frontierId →
      Engaged (s.store.pending p) (s.phase p) i.frontierId) :
    Inv start (s.goto p (.writing .closing todo)) := by
  have hview := h.view p
  rw [htodo] at hview
  have hbefore : ∀ f, Home (s.store.visible p) f →
      Engaged (s.store.pending p) (.writing .closing todo) f →
      Engaged (s.store.pending p) (s.phase p) f := by
    rintro f hhome (hf | hf | ⟨j, hj, -⟩)
    · obtain rfl := henter.frontierId_eq hf
      exact hengaged hhome
    · exact .inr (.inl hf)
    · cases hj
  refine h.goto (hview.enter henter hitem (h.sound.visible p) hlawful) hown
    (fun f hhome hf => .inl (hbefore f hhome hf)) (fun f hf => nomatch hf) fun f hhome hf => ?_
  have hold := h.holds p f hhome (hbefore f hhome hf)
  rwa [Holds, hnone] at hold

theorem Inv.block (h : Inv start s) {i : FrontierItem} (hphase : s.phase p = .choosing)
    (hmem : i ∈ itemsOfRun (s.store.visible p) (start p).researchRunId)
    (horigin : i.candidateOrigin ≠ (start p).normalizedOrigin) :
    Inv start (s.goto p (.writing .closing [.append i.frontierId .blockedScope])) := by
  obtain ⟨hitem, hrun⟩ := mem_itemsOfRun.mp hmem
  have hconfig : .config (start p) ∈ s.store.committed := h.phase hphase
  have hvisible := List.mem_append_left (s.store.pending p) hconfig
  -- the configuration of the run is the one of this runner
  have hforeign : ∀ c, .config c ∈ s.store.visible p → c.researchRunId = i.researchRunId →
      c.normalizedOrigin ≠ i.candidateOrigin := by
    intro c hc hrun' hsame
    obtain rfl := config_unique (h.sound.visible p) hc hvisible (hrun'.trans hrun)
    exact horigin hsame.symm
  have hview : View (s.store.visible p) [] := h.view_of hphase
  refine h.goto_enter (by rw [hphase]; rfl) (by rw [hphase]; rfl) (entering_block _) hitem
    (fun c hc hrun' => ?_) ?_ ?_
  · have hlawful := hview.lawful i c hitem hc hrun'
    rw [kindsOn_nil, List.append_nil] at hlawful
    exact hlawful.block (hforeign c hc hrun')
  · exact ⟨hvisible, fun _ => hconfig, fun j hj => by simp at hj,
      fun f => (entering_block i.frontierId).not_mem f⟩
  · rintro ⟨j, c, hj, hid, hc, hrun', hsame⟩
    obtain rfl := item_unique (h.sound.visible p) hj hitem hid
    exact absurd hsame (hforeign c hc hrun')

theorem Inv.finish (h : Inv start s) {i : FrontierItem} (outcome : Outcome)
    (hphase : s.phase p = .granted i)
    (hproposals : ∀ j ∈ outcome.proposals, j.researchRunId = (start p).researchRunId) :
    Inv start (s.goto p (.writing .closing (outcome.statements canonicalKey (start p)
      (itemsOfRun (s.store.visible p) i.researchRunId) i))) := by
  obtain ⟨hworking, hpending, hlast⟩ := h.phase hphase
  obtain ⟨kinds, henter, hchain⟩ := entering_outcome canonicalKey (start p)
    (itemsOfRun (s.store.visible p) i.researchRunId) i outcome
  have hvisible := List.mem_append_left (s.store.pending p) hworking.config
  have hview : View (s.store.visible p) [] := h.view_of hphase
  refine h.goto_enter (by rw [hphase]; rfl) (by rw [hphase]; rfl) henter hworking.item
    (fun c hc hrun => ?_) ?_ fun _ => .inr (.inr ⟨i, hphase, rfl⟩)
  · obtain rfl := config_unique (h.sound.visible p) hc hvisible (hrun.trans hworking.run.symm)
    have hlawful := hview.lawful i _ hworking.item hc hrun
    rw [kindsOn_nil, List.append_nil] at hlawful
    refine hlawful.append ?_ (hchain.imp fun a b hab => ?_)
    · rwa [RowStore.visible_of_nil hpending]
    · rcases hab with ⟨-, hlegal⟩ | ⟨hfalse, -⟩
      · exact .inl ⟨hworking.origin, hlegal⟩
      · exact absurd trivial hfalse
  · exact ⟨hvisible, fun _ => hworking.config,
      fun j hj => run_of_outcome hproposals hworking.run hj, henter.not_mem⟩

theorem Inv.lock (h : Inv start s) {i : FrontierItem} (hphase : s.phase p = .choosing)
    (hmem : i ∈ itemsOfRun (s.store.visible p) (start p).researchRunId)
    (horigin : i.candidateOrigin = (start p).normalizedOrigin)
    (hlock : ∀ q, (s.phase q).lock = some i.frontierId → q = p) :
    Inv start (s.goto p (.locked i)) := by
  obtain ⟨hitem, hrun⟩ := mem_itemsOfRun.mp hmem
  have hview : View (s.store.visible p) [] := h.view_of hphase
  have hbefore : ∀ f, Engaged (s.store.pending p) (.locked i) f →
      Engaged (s.store.pending p) (s.phase p) f := fun f hf =>
    .inr (.inl (engaged_of_quiet hf rfl fun j => by simp))
  refine h.goto hview ⟨h.phase hphase, hitem, hrun.symm, horigin.symm⟩
    (fun f _ hf => .inl (hbefore f hf)) ?_ ?_
  · intro f hf q hq hqf
    cases hf
    exact hq (hlock q hqf)
  · intro f hhome hf
    rcases h.holds p f hhome (hbefore f hf) with hown | hlocked | hlast
    · exact .inl hown
    · rw [hphase] at hlocked
      cases hlocked
    · exact .inr (.inr hlast)

/-- Only an item that is eligible may be selected. -/
theorem eligible_of_legal {latest : Option FrontierEventKind}
    (h : legalFrontierTransition latest .selected = true) : latest = some .eligible := by
  cases latest with
  | none => cases h
  | some kind =>
    cases kind with
    | eligible => rfl
    | _ => exact absurd h (by decide)

/-- **Nobody else enters events of an item that a runner has locked and found eligible.** -/
theorem Inv.unengaged (h : Inv start s) {i : FrontierItem} (hphase : s.phase p = .locked i)
    (hlast : (kindsOf (s.store.visible p) i.frontierId).getLast? = some .eligible) (hne : q ≠ p) :
    ¬ Engaged (s.store.pending q) (s.phase q) i.frontierId := by
  intro hq
  have hworking : Working start s.store p i := h.phase hphase
  have hhome := (home_committed h.sound h.committed hne hworking.home (h.engaged_item hq)).mono
    (List.subset_append_left _ (s.store.pending q))
  rcases h.holds q _ hhome hq with ⟨j, hj, hid⟩ | hlock | hselected
  · -- an item that somebody else has not committed is not seen
    rcases List.mem_append.mp hworking.item with hi | hi
    · exact not_clash_pending h.sound hi hj (clash_item hid.symm)
    · exact h.sound.apart p q (Ne.symm hne) _ hi _ hj (clash_item hid.symm)
  · exact hne (h.locks q p _ hlock (by rw [hphase]; rfl))
  · by_cases hpending : eventsOf (s.store.pending p) i.frontierId = []
    · rw [RowStore.visible, kindsOf_append, kindsOf_eq_nil.mpr hpending, List.append_nil,
        hselected] at hlast
      cases hlast
    · exact hne (h.alone p q _ hworking.home (.inr (.inl hpending)) hq).symm

theorem Inv.claim (h : Inv start s) {i : FrontierItem} (eventId : Text)
    (hphase : s.phase p = .locked i)
    (hlegal : legalFrontierTransition
      ((listForFrontier (s.store.visible p) i.frontierId).getLast?.map (·.eventKind))
      .selected = true) :
    Inv start (s.goto p (.claiming i
      (nextEvent (s.store.visible p) eventId i.frontierId .selected
        (some (nextSelectionGeneration
          (listForFrontier (s.store.visible p) i.frontierId)))))) := by
  have hworking : Working start s.store p i := h.phase hphase
  have hview : View (s.store.visible p) [] := h.view_of hphase
  have hnumbered := h.numbered p i.frontierId
  rw [listForFrontier_eq hnumbered] at hlegal ⊢
  have hlast : (kindsOf (s.store.visible p) i.frontierId).getLast? = some .eligible := by
    rw [kindsOf, List.getLast?_map]
    exact eligible_of_legal hlegal
  have hkinds : ∀ f, kindsOn [.insert (nextEvent (s.store.visible p) eventId i.frontierId .selected
      (some (nextSelectionGeneration (eventsOf (s.store.visible p) i.frontierId))))] f =
      if i.frontierId = f then [.selected] else [] := by
    intro f
    rw [kindsOn_cons, kindsOn_nil, List.append_nil]
    change (if i.frontierId = f then some FrontierEventKind.selected else none).toList = _
    split <;> rfl
  have hid : ∀ f, kindsOn [.insert (nextEvent (s.store.visible p) eventId i.frontierId .selected
      (some (nextSelectionGeneration (eventsOf (s.store.visible p) i.frontierId))))] f ≠ [] →
      i.frontierId = f := by
    intro f hf
    by_contra hne
    rw [hkinds, if_neg hne] at hf
    exact hf rfl
  have hfits : ∀ R : Nat → Nat → Prop, (∀ n, R (n + 1) (n + 1)) → ∀ f, Fits R f
      (eventsOf (s.store.visible p) f).length [.insert (nextEvent (s.store.visible p) eventId
        i.frontierId .selected
          (some (nextSelectionGeneration (eventsOf (s.store.visible p) i.frontierId))))] := by
    intro R hR f
    refine ⟨?_, trivial⟩
    rintro rfl
    rw [nextEvent_sequence hnumbered]
    exact hR _
  refine h.goto ?_ ⟨hworking, rfl, rfl, rfl⟩ ?_ ?_ ?_
  · refine
      { hview with
        todo_item := fun f hf => ⟨i, hworking.item, hid f hf⟩
        lawful := fun j c hj hc hrun => ?_
        bounded := hfits _ fun n => ⟨Nat.succ_le_succ (Nat.zero_le n), Nat.le_refl _⟩
        exact := fun f _ => hfits _ (fun _ => rfl) f }
    have hold := hview.lawful j c hj hc hrun
    rw [kindsOn_nil, List.append_nil] at hold
    rw [Phase.todo, hkinds]
    by_cases hij : i.frontierId = j.frontierId
    · obtain rfl := item_unique (h.sound.visible p) hworking.item hj hij
      obtain rfl := config_unique (h.sound.visible p) hc
        (List.mem_append_left _ hworking.config) (hrun.trans hworking.run.symm)
      rw [if_pos rfl]
      refine hold.append hlast ?_
      rw [List.isChain_cons_cons]
      exact ⟨.inl ⟨hworking.origin, by decide⟩, List.isChain_singleton _⟩
    · rw [if_neg hij, List.append_nil]
      exact hold
  · rintro f - (hf | hf | ⟨j, hj, -⟩)
    · obtain rfl := hid f hf
      exact .inr fun q hq => h.unengaged hphase hlast hq
    · exact .inl (.inr (.inl hf))
    · cases hj
  · intro f hf q hq hqf
    cases hf
    exact hq (h.locks q p _ hqf (by rw [hphase]; rfl))
  · rintro f hhome (hf | hf | ⟨j, hj, -⟩)
    · obtain rfl := hid f hf
      exact .inr (.inl rfl)
    · have hold := h.holds p f hhome (.inr (.inl hf))
      rw [hphase] at hold
      exact hold
    · cases hj

theorem Inv.select (h : Inv start s) {i : FrontierItem} {e : FrontierEvent}
    (hphase : s.phase p = .claiming i e)
    (hfree : s.store.Free FrontierRow.keys (.event e)) :
    Inv start (s.insert p (.event e) (.selected i)) := by
  obtain ⟨hworking, hid, hkind, hgeneration⟩ := h.phase hphase
  have hview : View (s.store.visible p) [.insert e] := h.view_of hphase
  refine h.insertEvent (by rw [hphase]; rfl) (fun j => by simp) (by rw [hphase]; rfl) hfree ?_ ?_
  · rw [← hid] at hgeneration
    exact (hview.generations _).concat hkind hgeneration
  · refine ⟨⟨hworking.config, ?_, hworking.run, hworking.origin⟩, ?_, ?_⟩
    · rw [RowStore.visible_insert_self]
      exact List.mem_append_left _ hworking.item
    · rw [RowStore.insert_pending_self, ← hid, eventsOf_concat_self]
      exact List.append_ne_nil_of_right_ne_nil _ (List.cons_ne_nil _ _)
    · rw [RowStore.visible_insert_self, kindsOf, ← hid, eventsOf_concat_self, List.map_append,
        List.map_cons, List.map_nil, List.getLast?_concat, hkind]

theorem Inv.grant (h : Inv start s) {i : FrontierItem} (hphase : s.phase p = .selected i) :
    Inv start (s.commit p (.granted i)) := by
  obtain ⟨hworking, hown, hlast⟩ := h.phase hphase
  refine h.commit (by rw [hphase]; rfl) rfl rfl ?_ fun j hj => ?_
  · refine ⟨⟨List.mem_append_left _ hworking.config, ?_, hworking.run, hworking.origin⟩, ?_, ?_⟩
    · rw [RowStore.visible_commit_self]
      exact hworking.item
    · exact RowStore.commit_pending_self s.store p
    · exact hlast
  · cases hj
    exact .inr (.inl hown)

theorem Inv.append (h : Inv start s) {script : Script} {frontierId : Text}
    {eventKind : FrontierEventKind} {rest : List Statement} (eventId : Text)
    (hphase : s.phase p = .writing script (.append frontierId eventKind :: rest)) :
    Inv start (s.goto p (.writing script
      (.insert (nextEvent (s.store.visible p) eventId frontierId eventKind none) :: rest))) := by
  obtain ⟨hconfig, hscript, hrun, hselected⟩ := h.phase hphase
  have hkinds : ∀ f, kindsOn (.insert (nextEvent (s.store.visible p) eventId frontierId eventKind
      none) :: rest) f = kindsOn (.append frontierId eventKind :: rest) f := fun _ => rfl
  refine h.goto_same ((h.view_of hphase).append (h.numbered p frontierId))
    ⟨hconfig, hscript, fun j hj => hrun j ?_, fun f => ?_⟩ (fun f hf => ?_) (by rw [hphase]; rfl)
  · simp only [List.mem_cons, reduceCtorEq, false_or] at hj
    exact List.mem_cons_of_mem _ hj
  · rw [hkinds]
    exact hselected f
  · rw [hphase]
    rcases hf with hf | hf | ⟨j, hj, -⟩
    · exact .inl hf
    · exact .inr (.inl hf)
    · cases hj

theorem Inv.insertNext (h : Inv start s) {script : Script} {e : FrontierEvent}
    {rest : List Statement} (hphase : s.phase p = .writing script (.insert e :: rest))
    (hfree : s.store.Free FrontierRow.keys (.event e)) :
    Inv start (s.insert p (.event e) (.writing script rest)) := by
  obtain ⟨hconfig, hscript, hrun, hselected⟩ := h.phase hphase
  have hkind : e.eventKind ≠ .selected := by
    intro hkind
    refine hselected e.frontierId ?_
    rw [kindsOn_cons]
    simp [Statement.kindOn, hkind]
  refine h.insertEvent (by rw [hphase]; rfl) (fun j => by simp) (by rw [hphase]; rfl) hfree
    (((h.view_of hphase).generations _).concat_of_ne hkind)
    ⟨?_, hscript, fun j hj => hrun j (List.mem_cons_of_mem _ hj), fun f hf => hselected f ?_⟩
  · rw [RowStore.visible_insert_self]
    exact List.mem_append_left _ hconfig
  · rw [kindsOn_cons]
    exact List.mem_append_right _ hf

/-- **One step keeps the invariant.** -/
theorem Inv.step {move : Move} (h : Inv start s)
    (hstep : FrontierStep canonicalKey start s move t) : Inv start t := by
  cases hstep with
  | «open» hphase hnone =>
    have hpending := h.phase hphase
    exact h.goto_quiet (by rw [hphase]; rfl) (fun _ => rfl) (fun i => by simp)
      (by rw [hphase]; rfl) hpending
  | resume hphase hmem =>
    have hpending := h.phase hphase
    rw [RowStore.visible_of_nil hpending] at hmem
    exact h.goto_quiet (by rw [hphase]; rfl) (fun _ => rfl) (fun i => by simp)
      (by rw [hphase]; rfl) ⟨hpending, hmem⟩
  | configure hphase seeds hseeds hfree => exact h.configure hphase hseeds hfree
  | started hphase =>
    obtain ⟨hconfig, -⟩ := h.phase hphase
    exact h.commit (by rw [hphase]; rfl) rfl rfl
      ⟨RowStore.commit_pending_self s.store _, hconfig⟩ fun i hi => nomatch hi
  | project hphase proposals hproposals =>
    obtain ⟨hpending, hconfig⟩ := h.phase hphase
    exact h.goto_quiet (by rw [hphase]; rfl) (kindsOn_propose proposals) (fun i => by simp)
      (by rw [hphase]; rfl)
      ⟨List.mem_append_left _ hconfig, fun _ => hconfig,
        fun i hi => hproposals i (by simpa using hi), fun f => by simp⟩
  | projected hphase =>
    obtain ⟨-, hconfig, -⟩ := h.phase hphase
    exact h.goto_quiet (by rw [hphase]; rfl) (fun _ => rfl) (fun i => by simp)
      (by rw [hphase]; rfl) (hconfig (by decide))
  | propose created eligible hphase hfree => exact h.propose created eligible hphase hfree
  | append eventId hphase => exact h.append eventId hphase
  | insert hphase hfree => exact h.insertNext hphase hfree
  | stop hphase =>
    exact h.commit (by rw [hphase]; rfl) rfl rfl (RowStore.commit_pending_self s.store _)
      fun i hi => nomatch hi
  | block hphase hmem horigin => exact h.block hphase hmem horigin
  | lock hphase hmem horigin hlock => exact h.lock hphase hmem horigin hlock
  | claim eventId hphase hlegal => exact h.claim eventId hphase hlegal
  | select hphase hfree => exact h.select hphase hfree
  | grant hphase => exact h.grant hphase
  | finish outcome hphase hproposals => exact h.finish outcome hphase hproposals
  | closed hphase =>
    exact h.commit (by rw [hphase]; rfl) rfl rfl (RowStore.commit_pending_self s.store _)
      fun i hi => nomatch hi
  | fail => exact h.fail

/-- Nothing is on the frontier, and nobody has begun. -/
def initialFrontier : FrontierSystem := ⟨⟨[], fun _ => []⟩, fun _ => .idle⟩

theorem inv_initial : Inv start initialFrontier where
  sound := RowStore.sound_empty
  numbered _ _ := rfl
  committed := view_nil
  view _ := view_nil
  phases _ := rfl
  alone _ _ _ _ hp := absurd hp not_engaged_idle
  locks _ _ _ hp := nomatch hp
  holds _ _ _ hp := absurd hp not_engaged_idle

/-- **The invariant holds in every run.** -/
theorem Run.frontier_inv {moves : List Move}
    (h : Run (FrontierStep canonicalKey start) initialFrontier moves s) : Inv start s :=
  h.invariant (fun _ _ _ hstep hinv => hinv.step hstep) inv_initial

end Steps

/-! ## Every run -/

/-- Every event is one that may follow the event before it. -/
def LegalPath (kinds : List FrontierEventKind) : Prop :=
  ∀ before kind after, kinds = before ++ kind :: after →
    legalFrontierTransition before.getLast? kind = true

theorem Lawful.legalPath {home : Prop} {kinds : List FrontierEventKind} (hhome : home)
    (h : Lawful home kinds) : LegalPath kinds := by
  obtain ⟨rest, rfl, hchain⟩ := h
  rintro before kind after heq
  cases before with
  | nil =>
    obtain ⟨rfl, -⟩ := List.cons.inj heq
    rfl
  | cons first before =>
    obtain ⟨rfl, htail⟩ := List.cons.inj heq
    cases before with
    | nil =>
      obtain ⟨rfl, -⟩ := List.cons.inj htail
      rfl
    | cons second before =>
      have htail : FrontierEventKind.eligible :: rest = (second :: before) ++ kind :: after := htail
      rw [htail, List.isChain_append] at hchain
      obtain ⟨latest, hlatest⟩ : ∃ latest, (second :: before).getLast? = some latest :=
        ⟨_, List.getLast?_eq_some_getLast (List.cons_ne_nil _ _)⟩
      rw [List.getLast?_cons_cons, hlatest]
      rcases hchain.2.2 latest hlatest kind rfl with ⟨-, hlegal⟩ | ⟨hnot, -⟩
      · exact decide_eq_true hlegal
      · exact absurd hhome hnot

section Runs

variable {canonicalKey : List Text → Text} {start : RunnerId → DiscoveryRunConfig}
variable {s : FrontierSystem} {moves : List Move}

/-- **The ledger of every item.**  Whatever the runners do, and wherever they fail, the
events of an item are numbered without gaps and its selections are counted; the events of
an item of the origin of its run are a legal path, and an item of another origin is blocked
and never selected. -/
theorem frontier_ledger (hrun : Run (FrontierStep canonicalKey start) initialFrontier moves s) :
    ∀ i, .item i ∈ s.store.committed → ∃ c, .config c ∈ s.store.committed ∧
      c.researchRunId = i.researchRunId ∧
      ((listForFrontier s.store.committed i.frontierId).map (·.sequence) =
        List.range' 1 (listForFrontier s.store.committed i.frontierId).length) ∧
      Generations (listForFrontier s.store.committed i.frontierId) ∧
      (c.normalizedOrigin = i.candidateOrigin →
        LegalPath ((listForFrontier s.store.committed i.frontierId).map (·.eventKind))) ∧
      (c.normalizedOrigin ≠ i.candidateOrigin →
        ∃ n, (listForFrontier s.store.committed i.frontierId).map (·.eventKind) =
          .created :: .eligible :: List.replicate n .blockedScope) := by
  intro i hi
  have hinv := Run.frontier_inv hrun
  have hnumbered := hinv.numbered.committed 0 i.frontierId
  obtain ⟨c, hc, hsame⟩ := hinv.committed.item_config i hi
  have hlawful := hinv.committed.lawful i c hi hc hsame
  rw [kindsOn_nil, List.append_nil] at hlawful
  rw [listForFrontier_eq hnumbered]
  exact ⟨c, hc, hsame, hnumbered, hinv.committed.generations _, fun hhome =>
    hlawful.legalPath hhome, fun hforeign => (lawful_foreign_iff hforeign).mp hlawful⟩

/-- An event that is the next of its item is not refused. -/
theorem Inv.free_event (h : Inv start s) {p : RunnerId} {e : FrontierEvent}
    {rest : List Statement} (htodo : (s.phase p).todo = .insert e :: rest)
    (hhome : Home (s.store.visible p) e.frontierId)
    (hgeneration : e.eventKind = .selected → e.selectionGeneration =
      some (nextSelectionGeneration (eventsOf (s.store.visible p) e.frontierId))) :
    s.store.Free FrontierRow.keys (.event e) := by
  have hview := h.view p
  rw [htodo] at hview
  have hnext := (hview.exact e.frontierId hhome).1 rfl
  have hengaged : Engaged (s.store.pending p) (s.phase p) e.frontierId := by
    refine .inl ?_
    rw [htodo, kindsOn_cons]
    simp [Statement.kindOn]
  -- who has a key of the event has an event of the item
  have hevent : ∀ row, Clash FrontierRow.keys row (.event e) →
      ∃ e', row = .event e' ∧ e'.frontierId = e.frontierId ∧ (e'.sequence = e.sequence ∨
        ∃ n, n ∈ selectedGenerations [e'] ∧ n ∈ selectedGenerations [e]) := by
    rintro row ⟨key, hrow, hkey⟩
    simp only [FrontierRow.keys, List.mem_cons, List.mem_map] at hkey
    cases row with
    | config c =>
      simp only [FrontierRow.keys, List.mem_singleton] at hrow
      subst hrow
      rcases hkey with hkey | ⟨n, -, hkey⟩ <;> cases hkey
    | item i =>
      simp only [FrontierRow.keys, List.mem_cons, List.not_mem_nil, or_false] at hrow
      rcases hrow with rfl | rfl <;> rcases hkey with hkey | ⟨n, -, hkey⟩ <;> cases hkey
    | event e' =>
      refine ⟨e', rfl, ?_⟩
      simp only [FrontierRow.keys, List.mem_cons, List.mem_map] at hrow
      rcases hrow with rfl | ⟨n, hn, rfl⟩
      · rcases hkey with hkey | ⟨m, -, hkey⟩
        · obtain ⟨hid, hnumber⟩ := FrontierKey.sequence.inj hkey
          exact ⟨hid, .inl hnumber⟩
        · cases hkey
      · rcases hkey with hkey | ⟨m, hm, hkey⟩
        · cases hkey
        · obtain ⟨hid, rfl⟩ := FrontierKey.generation.inj hkey
          exact ⟨hid.symm, .inr ⟨m, hn, hm⟩⟩
  have hvisible : ∀ row ∈ s.store.visible p, ¬ Clash FrontierRow.keys row (.event e) := by
    intro row hrow hclash
    obtain ⟨e', rfl, hid, hsame⟩ := hevent row hclash
    have hmem : e' ∈ eventsOf (s.store.visible p) e.frontierId := mem_eventsOf.mpr ⟨hrow, hid⟩
    rcases hsame with hnumber | ⟨n, hn', hn⟩
    · have hle := ((h.numbered p e.frontierId).le_length hmem).2
      have hle : e'.sequence ≤ (eventsOf (s.store.visible p) e.frontierId).length := hle
      omega
    · have hkind : ∀ a : FrontierEvent, n ∈ selectedGenerations [a] →
          a.eventKind = .selected ∧ a.selectionGeneration = some n := by
        intro a ha
        by_cases hkind : a.eventKind = .selected
        · exact ⟨hkind, by simpa [selectedGenerations, hkind] using ha⟩
        · simp [selectedGenerations, hkind] at ha
      obtain ⟨hselected, hgen⟩ := hkind e hn
      obtain ⟨hselected', hgen'⟩ := hkind e' hn'
      have hgenerations := hview.generations e.frontierId
      have hcounted : n ∈ selectedGenerations (eventsOf (s.store.visible p) e.frontierId) :=
        List.mem_filterMap.mpr ⟨e', hmem, by rw [if_pos hselected', hgen']⟩
      rw [hgenerations.selectedGenerations, List.mem_range'_1] at hcounted
      rw [hgeneration hselected, hgenerations.next, Option.some_inj] at hgen
      omega
  refine ⟨fun row hrow => hvisible row (List.mem_append_left _ hrow), fun q row hrow hclash => ?_⟩
  by_cases hq : q = p
  · subst hq
    exact hvisible row (List.mem_append_right _ hrow) hclash
  · obtain ⟨e', rfl, hid, -⟩ := hevent row hclash
    have hmem : e' ∈ eventsOf (s.store.pending q) e.frontierId := mem_eventsOf.mpr ⟨hrow, hid⟩
    exact hq (h.alone p q _ hhome hengaged (.inr (.inl (List.ne_nil_of_mem hmem)))).symm

/-- **A selection is for one runner alone.**  No two runners work on one item, a runner
only works on items of its run and origin, the event that selects an item is never refused,
and neither is any other event of an item of the origin of its run. -/
theorem frontier_selection_exclusive
    (hrun : Run (FrontierStep canonicalKey start) initialFrontier moves s) :
    (∀ p q i j, s.phase p = .granted i → s.phase q = .granted j →
      i.frontierId = j.frontierId → p = q) ∧
    (∀ p i, s.phase p = .granted i → .item i ∈ s.store.committed ∧
      i.researchRunId = (start p).researchRunId ∧
      i.candidateOrigin = (start p).normalizedOrigin ∧
      ((listForFrontier s.store.committed i.frontierId).getLast?.map (·.eventKind)) =
        some .selected) ∧
    (∀ p i e, s.phase p = .claiming i e → s.store.Free FrontierRow.keys (.event e)) ∧
    ∀ p script e rest, s.phase p = .writing script (.insert e :: rest) →
      Home (s.store.visible p) e.frontierId → s.store.Free FrontierRow.keys (.event e) := by
  have hinv := Run.frontier_inv hrun
  refine ⟨fun p q i j hp hq hid => ?_, fun p i hp => ?_, fun p i e hp => ?_,
    fun p script e rest hp hhome => ?_⟩
  · obtain ⟨hworking, -, -⟩ := hinv.phase hp
    exact hinv.alone p q _ hworking.home (.inr (.inr ⟨i, hp, rfl⟩))
      (.inr (.inr ⟨j, hq, hid.symm⟩))
  · obtain ⟨hworking, hpending, hlast⟩ := hinv.phase hp
    have hitem := hworking.item
    rw [RowStore.visible_of_nil hpending] at hitem
    refine ⟨hitem, hworking.run.symm, hworking.origin.symm, ?_⟩
    rw [listForFrontier_eq (hinv.numbered.committed p i.frontierId), ← List.getLast?_map]
    exact hlast
  · obtain ⟨hworking, hid, -, hgeneration⟩ := hinv.phase hp
    have htodo : (s.phase p).todo = [.insert e] := by
      rw [hp]
      rfl
    refine hinv.free_event htodo ?_ fun _ => ?_
    · rw [hid]
      exact hworking.home
    · rw [hid]
      exact hgeneration
  · obtain ⟨-, -, -, hselected⟩ := hinv.phase hp
    have htodo : (s.phase p).todo = .insert e :: rest := by
      rw [hp]
      rfl
    refine hinv.free_event htodo hhome fun hkind => ?_
    refine absurd ?_ (hselected e.frontierId)
    rw [kindsOn_cons]
    simp [Statement.kindOn, hkind]

end Runs

/-! ## A runner on its own -/

/-- The first runner, and others that have not begun. -/
def labFrontier (committed pending : List FrontierRow) (phase : Phase) : FrontierSystem :=
  ⟨⟨committed, fun q => if q = 0 then pending else []⟩, fun q => if q = 0 then phase else .idle⟩

section Lab

variable {committed pending : List FrontierRow} {phase next : Phase}

theorem labFrontier_goto :
    (labFrontier committed pending phase).goto 0 next = labFrontier committed pending next := by
  rw [labFrontier, Processes.goto, labFrontier]
  congr 1
  funext q
  by_cases hq : q = 0 <;> simp [hq]

theorem labFrontier_insert (row : FrontierRow) :
    (labFrontier committed pending phase).insert 0 row next =
      labFrontier committed (pending ++ [row]) next := by
  have hstore : (labFrontier committed pending phase).store.insert 0 row =
      (labFrontier committed (pending ++ [row]) phase).store := by
    rw [labFrontier, RowStore.insert, labFrontier]
    congr 1
    funext q
    by_cases hq : q = 0 <;> simp [hq]
  rw [Processes.insert, hstore]
  exact labFrontier_goto

theorem labFrontier_commit :
    (labFrontier committed pending phase).commit 0 next =
      labFrontier (committed ++ pending) [] next := by
  have hstore : (labFrontier committed pending phase).store.commit 0 =
      (labFrontier (committed ++ pending) [] phase).store := by
    rw [labFrontier, RowStore.commit, labFrontier]
    congr 1
    funext q
    by_cases hq : q = 0 <;> simp [hq]
  rw [Processes.commit, hstore]
  exact labFrontier_goto

theorem labFrontier_pending_ne {q : RunnerId} (h : q ≠ 0) :
    (labFrontier committed pending phase).store.pending q = [] := if_neg h

theorem labFrontier_phase_ne {q : RunnerId} (h : q ≠ 0) :
    (labFrontier committed pending phase).phase q = .idle := if_neg h

theorem labFrontier_free {row : FrontierRow}
    (h : ∀ other ∈ committed ++ pending, ¬ Clash FrontierRow.keys other row) :
    (labFrontier committed pending phase).store.Free FrontierRow.keys row where
  committed other hother := h other (List.mem_append_left _ hother)
  pending q other hother := by
    by_cases hq : q = 0
    · subst hq
      exact h other (List.mem_append_right _ hother)
    · rw [labFrontier_pending_ne hq] at hother
      exact absurd hother List.not_mem_nil

end Lab

def labConfig : DiscoveryRunConfig := ⟨['r'], ['t'], ['o'], ['/'], 1⟩

/-- What is seeded. -/
def labSeed : FrontierItem := labItem "a" .inspectPath 0

def labCreated : FrontierEvent := ⟨['c'], "a".toList, .created, 1, none⟩

def labEligible : FrontierEvent := ⟨['e'], "a".toList, .eligible, 2, none⟩

def labSelected : FrontierEvent := ⟨['s'], "a".toList, .selected, 3, some 1⟩

def labSeeded : List FrontierRow :=
  [.config labConfig, .item labSeed, .event labCreated, .event labEligible]

/-- The runner takes down its configuration and its seed, and selects the seed. -/
theorem labFrontier_run : ∃ moves,
    Run (FrontierStep (fun _ => []) fun _ => labConfig) initialFrontier moves
      (labFrontier (labSeeded ++ [.event labSelected]) [] (.granted labSeed)) := by
  have hinitial : initialFrontier = labFrontier [] [] .idle := by
    rw [initialFrontier, labFrontier]
    congr 1
    · congr 1
      funext q
      by_cases hq : q = 0 <;> simp [hq]
    · funext q
      by_cases hq : q = 0 <;> simp [hq]
  rw [hinitial]
  have hidle : Run (FrontierStep (fun _ => []) fun _ => labConfig) (labFrontier [] [] .idle) []
      (labFrontier [] [] .idle) := .nil _
  have hopen := hidle.snoc (.open (p := 0) rfl (fun c hc => nomatch hc))
  rw [labFrontier_goto] at hopen
  have hconfig := hopen.snoc (.configure (p := 0) rfl [labSeed] (by decide)
    (labFrontier_free (by decide)))
  rw [labFrontier_insert] at hconfig
  have hitem := hconfig.snoc (.propose (p := 0) ['c'] ['e'] rfl (labFrontier_free (by decide)))
  rw [labFrontier_insert] at hitem
  have hcreated := hitem.snoc (.insert (p := 0) rfl (labFrontier_free (by decide)))
  rw [labFrontier_insert] at hcreated
  have heligible := hcreated.snoc (.insert (p := 0) rfl (labFrontier_free (by decide)))
  rw [labFrontier_insert] at heligible
  have hstarted := heligible.snoc (.started (p := 0) rfl)
  rw [labFrontier_commit] at hstarted
  have hproject := hstarted.snoc (.project (p := 0) rfl [] (fun i hi => nomatch hi))
  rw [labFrontier_goto] at hproject
  have hprojected := hproject.snoc (.projected (p := 0) rfl)
  rw [labFrontier_goto] at hprojected
  have hlock := hprojected.snoc (.lock (p := 0) (i := labSeed) rfl (by decide) rfl
    fun q hq => by
      by_contra hne
      rw [labFrontier_phase_ne hne] at hq
      cases hq)
  rw [labFrontier_goto] at hlock
  have hclaim := hlock.snoc (.claim (p := 0) ['s'] rfl (by decide))
  rw [labFrontier_goto] at hclaim
  have hselect := hclaim.snoc (.select (p := 0) (e := labSelected) rfl
    (labFrontier_free (by decide)))
  rw [labFrontier_insert] at hselect
  have hgrant := hselect.snoc (.grant (p := 0) rfl)
  rw [labFrontier_commit] at hgrant
  exact ⟨_, hgrant⟩

/-- The seed is created, eligible and selected. -/
theorem frontier_ledger_lab : ∃ s : FrontierSystem, .item labSeed ∈ s.store.committed ∧
    LegalPath ((listForFrontier s.store.committed labSeed.frontierId).map (·.eventKind)) := by
  obtain ⟨moves, hrun⟩ := labFrontier_run
  have hitem : .item labSeed ∈ (labFrontier (labSeeded ++ [.event labSelected]) []
      (.granted labSeed)).store.committed := List.mem_cons_of_mem _ List.mem_cons_self
  obtain ⟨c, hc, -, -, -, hlegal, -⟩ := frontier_ledger hrun labSeed hitem
  refine ⟨_, hitem, hlegal ?_⟩
  have hconfig : c = labConfig := by
    simpa [labFrontier, labSeeded] using hc
  rw [hconfig]
  rfl

/-- The runner works on an item that is selected. -/
theorem frontier_selection_exclusive_lab : ∃ s : FrontierSystem, s.phase 0 = .granted labSeed ∧
    (listForFrontier s.store.committed labSeed.frontierId).getLast?.map (·.eventKind) =
      some .selected := by
  obtain ⟨moves, hrun⟩ := labFrontier_run
  obtain ⟨-, hgranted, -, -⟩ := frontier_selection_exclusive hrun
  exact ⟨_, rfl, (hgranted 0 labSeed rfl).2.2.2⟩

end Zest.Discovery
