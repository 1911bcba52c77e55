import Zest.FrontierViews

/-! # Who enters the events of an item

A runner is engaged with an item when it enters events of it, or is about to.  On an item
of the origin of its run, one runner at most is: the one that has put the item on the
frontier and not committed yet, the one that has it locked, or the one that has selected
it.  This is kept by a runner that moves on, inserts a row, commits or fails.
-/
namespace Zest.Discovery

open SequencedLedger StoreProcesses UniqueRows

/-! ## Items and configurations in the store -/

abbrev FrontierStore := RowStore RunnerId FrontierRow

theorem clash_item {i j : FrontierItem} (hid : i.frontierId = j.frontierId) :
    Clash FrontierRow.keys (.item i) (.item j) :=
  ⟨.item i.frontierId, List.mem_cons_self, by rw [hid]; exact List.mem_cons_self⟩

theorem clash_config {c c' : DiscoveryRunConfig} (hrun : c.researchRunId = c'.researchRunId) :
    Clash FrontierRow.keys (.config c) (.config c') :=
  ⟨.config c.researchRunId, List.mem_cons_self, by rw [hrun]; exact List.mem_cons_self⟩

theorem keyed_events : Keyed FrontierRow.keys FrontierRow.eventOf FrontierEvent.sequence := by
  intro f a b x y ha hb hnumber
  obtain ⟨rfl, rfl⟩ := FrontierRow.eventOf_eq_some.mp ha
  obtain ⟨rfl, hid⟩ := FrontierRow.eventOf_eq_some.mp hb
  refine ⟨.sequence x.frontierId x.sequence, List.mem_cons_self, ?_⟩
  rw [← hid, hnumber]
  exact List.mem_cons_self

section Store

variable {store : FrontierStore} {p q : RunnerId} {rows : List FrontierRow} {f : Text}

theorem item_unique (h : Distinct FrontierRow.keys rows) {i j : FrontierItem}
    (hi : .item i ∈ rows) (hj : .item j ∈ rows) (hid : i.frontierId = j.frontierId) : i = j :=
  FrontierRow.item.inj (h.eq_of_clash hi hj (clash_item hid))

theorem config_unique (h : Distinct FrontierRow.keys rows) {c c' : DiscoveryRunConfig}
    (hc : .config c ∈ rows) (hc' : .config c' ∈ rows) (hrun : c.researchRunId = c'.researchRunId) :
    c = c' :=
  FrontierRow.config.inj (h.eq_of_clash hc hc' (clash_config hrun))

/-- What is committed, and what a transaction has written, have no key in common. -/
theorem not_clash_pending (h : store.Sound FrontierRow.keys) {a b : FrontierRow}
    (ha : a ∈ store.committed) (hb : b ∈ store.pending p) : ¬ Clash FrontierRow.keys a b :=
  (List.pairwise_append.mp (h.visible p)).2.2 a ha b hb

/-- An item that two runners see is committed. -/
theorem item_committed (h : store.Sound FrontierRow.keys) (hne : p ≠ q) {i j : FrontierItem}
    (hi : .item i ∈ store.visible p) (hj : .item j ∈ store.visible q)
    (hid : i.frontierId = j.frontierId) : .item i ∈ store.committed := by
  rcases List.mem_append.mp hi with hi | hi
  · exact hi
  · rcases List.mem_append.mp hj with hj | hj
    · exact absurd (clash_item hid.symm) (not_clash_pending h hj hi)
    · exact absurd (clash_item hid) (h.apart p q hne _ hi _ hj)

/-- An item of the origin of its run that two runners see is committed as such. -/
theorem home_committed (h : store.Sound FrontierRow.keys) (hcommitted : View store.committed [])
    (hne : p ≠ q) (hhome : Home (store.visible q) f)
    (hitem : ∃ i, .item i ∈ store.visible p ∧ i.frontierId = f) : Home store.committed f := by
  obtain ⟨j, c, hj, rfl, hc, hrun, horigin⟩ := hhome
  obtain ⟨i, hi, hid⟩ := hitem
  have hj' := item_committed h (Ne.symm hne) hj hi hid.symm
  obtain ⟨c', hc', hrun'⟩ := hcommitted.item_config j hj'
  obtain rfl := config_unique (h.visible q) hc (List.mem_append_left _ hc') (hrun.trans hrun'.symm)
  exact ⟨j, c, hj', rfl, hc', hrun, horigin⟩

end Store

/-! ## Who enters the events of an item -/

/-- The runner enters events of the item, or is about to. -/
def Engaged (pending : List FrontierRow) (phase : Phase) (f : Text) : Prop :=
  kindsOn phase.todo f ≠ [] ∨ eventsOf pending f ≠ [] ∨
    ∃ i, phase = .granted i ∧ i.frontierId = f

/-- The runner is the only one to enter events of the item. -/
def Holds (store : FrontierStore) (phase : Phase) (p : RunnerId) (f : Text) : Prop :=
  (∃ i, .item i ∈ store.pending p ∧ i.frontierId = f) ∨ phase.lock = some f ∨
    (kindsOf store.committed f).getLast? = some .selected

section Invariant

variable (start : RunnerId → DiscoveryRunConfig)

/-- The runner works on an item of its run and origin. -/
structure Working (store : FrontierStore) (p : RunnerId) (i : FrontierItem) : Prop where
  config : .config (start p) ∈ store.committed
  item : .item i ∈ store.visible p
  run : (start p).researchRunId = i.researchRunId
  origin : (start p).normalizedOrigin = i.candidateOrigin

/-- What is so of a runner in its phase. -/
def PhaseInv (store : FrontierStore) (p : RunnerId) : Phase → Prop
  | .idle | .opening => store.pending p = []
  | .ready => store.pending p = [] ∧ .config (start p) ∈ store.committed
  | .writing script todo => .config (start p) ∈ store.visible p ∧
      (script ≠ .starting → .config (start p) ∈ store.committed) ∧
      (∀ i, .propose i ∈ todo → i.researchRunId = (start p).researchRunId) ∧
      ∀ f, .selected ∉ kindsOn todo f
  | .choosing => .config (start p) ∈ store.committed
  | .locked i => Working start store p i
  | .claiming i e => Working start store p i ∧ e.frontierId = i.frontierId ∧
      e.eventKind = .selected ∧
      e.selectionGeneration =
        some (nextSelectionGeneration (eventsOf (store.visible p) i.frontierId))
  | .selected i => Working start store p i ∧ eventsOf (store.pending p) i.frontierId ≠ [] ∧
      (kindsOf (store.visible p) i.frontierId).getLast? = some .selected
  | .granted i => Working start store p i ∧ store.pending p = [] ∧
      (kindsOf store.committed i.frontierId).getLast? = some .selected

structure Inv (s : FrontierSystem) : Prop where
  sound : s.store.Sound FrontierRow.keys
  numbered : AllNumbered FrontierRow.eventOf FrontierEvent.sequence s.store
  committed : View s.store.committed []
  view : ∀ p, View (s.store.visible p) (s.phase p).todo
  phases : ∀ p, PhaseInv start s.store p (s.phase p)
  alone : ∀ p q f, Home (s.store.visible p) f → Engaged (s.store.pending p) (s.phase p) f →
    Engaged (s.store.pending q) (s.phase q) f → p = q
  locks : ∀ p q f, (s.phase p).lock = some f → (s.phase q).lock = some f → p = q
  holds : ∀ p f, Home (s.store.visible p) f → Engaged (s.store.pending p) (s.phase p) f →
    Holds s.store (s.phase p) p f

variable {start}
variable {s t : FrontierSystem} {p q : RunnerId} {f : Text}

theorem Inv.phase (h : Inv start s) {phase : Phase} (hphase : s.phase p = phase) :
    PhaseInv start s.store p phase := hphase ▸ h.phases p

theorem Inv.view_of (h : Inv start s) {phase : Phase} (hphase : s.phase p = phase) :
    View (s.store.visible p) phase.todo := hphase ▸ h.view p

theorem Working.home {store : FrontierStore} {i : FrontierItem} (h : Working start store p i) :
    Home (store.visible p) i.frontierId :=
  ⟨i, start p, h.item, rfl, List.mem_append_left _ h.config, h.run, h.origin⟩

/-- A phase looks at what is committed and at its own transaction. -/
theorem PhaseInv.congr {store store' : FrontierStore} {phase : Phase}
    (h : PhaseInv start store p phase) (hcommitted : store'.committed = store.committed)
    (hpending : store'.pending p = store.pending p) : PhaseInv start store' p phase := by
  have hvisible : store'.visible p = store.visible p := by
    rw [RowStore.visible, RowStore.visible, hcommitted, hpending]
  have hworking : ∀ i, Working start store p i → Working start store' p i := fun i hi =>
    ⟨hcommitted ▸ hi.config, hvisible ▸ hi.item, hi.run, hi.origin⟩
  cases phase with
  | idle => exact hpending.trans h
  | opening => exact hpending.trans h
  | ready => exact ⟨hpending.trans h.1, hcommitted ▸ h.2⟩
  | choosing =>
    rw [PhaseInv, hcommitted]
    exact h
  | writing script todo => exact ⟨hvisible ▸ h.1, hcommitted ▸ h.2.1, h.2.2⟩
  | locked i => exact hworking i h
  | claiming i e => exact ⟨hworking i h.1, h.2.1, h.2.2.1, hvisible ▸ h.2.2.2⟩
  | selected i => exact ⟨hworking i h.1, hpending ▸ h.2.1, hvisible ▸ h.2.2⟩
  | granted i => exact ⟨hworking i h.1, hpending.trans h.2.1, hcommitted ▸ h.2.2⟩

/-- Who is engaged with an item sees it. -/
theorem engaged_item {store : FrontierStore} {phase : Phase}
    (hview : View (store.visible p) phase.todo) (hphase : PhaseInv start store p phase)
    (h : Engaged (store.pending p) phase f) :
    ∃ i, .item i ∈ store.visible p ∧ i.frontierId = f := by
  rcases h with h | h | ⟨i, rfl, hid⟩
  · exact hview.todo_item f h
  · refine hview.exists_item ?_
    rw [RowStore.visible, eventsOf, ledger_append]
    exact List.append_ne_nil_of_right_ne_nil _ h
  · exact ⟨i, hphase.1.item, hid⟩

theorem Inv.engaged_item (h : Inv start s) (hp : Engaged (s.store.pending p) (s.phase p) f) :
    ∃ i, .item i ∈ s.store.visible p ∧ i.frontierId = f :=
  Discovery.engaged_item (h.view p) (h.phases p) hp

/-- **A step of one runner that commits nothing**: the others stay as they are. -/
theorem Inv.of_own (h : Inv start s) (p : RunnerId)
    (hcommitted : t.store.committed = s.store.committed)
    (hothers : ∀ q, q ≠ p → t.phase q = s.phase q ∧ t.store.pending q = s.store.pending q)
    (hsound : t.store.Sound FrontierRow.keys)
    (hnumbered : AllNumbered FrontierRow.eventOf FrontierEvent.sequence t.store)
    (hview : View (t.store.visible p) (t.phase p).todo)
    (hown : PhaseInv start t.store p (t.phase p))
    (halone : ∀ f, Home (t.store.visible p) f → Engaged (t.store.pending p) (t.phase p) f →
      ∀ q, q ≠ p → ¬ Engaged (s.store.pending q) (s.phase q) f)
    (hlocks : ∀ f, (t.phase p).lock = some f → ∀ q, q ≠ p → (s.phase q).lock ≠ some f)
    (hholds : ∀ f, Home (t.store.visible p) f → Engaged (t.store.pending p) (t.phase p) f →
      Holds t.store (t.phase p) p f) : Inv start t := by
  have hvisible : ∀ q, q ≠ p → t.store.visible q = s.store.visible q := fun q hq => by
    rw [RowStore.visible, RowStore.visible, hcommitted, (hothers q hq).2]
  have hcommittedView : View t.store.committed [] := hcommitted ▸ h.committed
  refine ⟨hsound, hnumbered, hcommittedView, ?_, ?_, ?_, ?_, ?_⟩
  · intro q
    by_cases hq : q = p
    · exact hq ▸ hview
    · rw [hvisible q hq, (hothers q hq).1]
      exact h.view q
  · intro q
    by_cases hq : q = p
    · exact hq ▸ hown
    · rw [(hothers q hq).1]
      exact (h.phases q).congr hcommitted (hothers q hq).2
  · intro a b f hhome ha hb
    by_cases hap : a = p
    · by_cases hbp : b = p
      · exact hap.trans hbp.symm
      · rw [(hothers b hbp).1, (hothers b hbp).2] at hb
        subst hap
        exact absurd hb (halone f hhome ha b hbp)
    · by_cases hbp : b = p
      · subst hbp
        have hitem := Discovery.engaged_item hview hown hb
        have hhome' := (home_committed hsound hcommittedView (Ne.symm hap) hhome hitem).mono
          (List.subset_append_left _ (t.store.pending b))
        rw [(hothers a hap).1, (hothers a hap).2] at ha
        exact absurd ha (halone f hhome' hb a hap)
      · rw [hvisible a hap] at hhome
        rw [(hothers a hap).1, (hothers a hap).2] at ha
        rw [(hothers b hbp).1, (hothers b hbp).2] at hb
        exact h.alone a b f hhome ha hb
  · intro a b f ha hb
    by_cases hap : a = p
    · by_cases hbp : b = p
      · exact hap.trans hbp.symm
      · subst hap
        rw [(hothers b hbp).1] at hb
        exact absurd hb (hlocks f ha b hbp)
    · by_cases hbp : b = p
      · subst hbp
        rw [(hothers a hap).1] at ha
        exact absurd ha (hlocks f hb a hap)
      · rw [(hothers a hap).1] at ha
        rw [(hothers b hbp).1] at hb
        exact h.locks a b f ha hb
  · intro q f hhome hq'
    by_cases hq : q = p
    · subst hq
      exact hholds f hhome hq'
    · rw [hvisible q hq] at hhome
      rw [(hothers q hq).1, (hothers q hq).2] at hq'
      have hold := h.holds q f hhome hq'
      rw [Holds, (hothers q hq).1, (hothers q hq).2, hcommitted]
      exact hold

/-- A runner moves on. -/
theorem Inv.goto (h : Inv start s) {next : Phase}
    (hview : View (s.store.visible p) next.todo) (hown : PhaseInv start s.store p next)
    (hengaged : ∀ f, Home (s.store.visible p) f → Engaged (s.store.pending p) next f →
      Engaged (s.store.pending p) (s.phase p) f ∨
        ∀ q, q ≠ p → ¬ Engaged (s.store.pending q) (s.phase q) f)
    (hlocks : ∀ f, next.lock = some f → ∀ q, q ≠ p → (s.phase q).lock ≠ some f)
    (hholds : ∀ f, Home (s.store.visible p) f → Engaged (s.store.pending p) next f →
      Holds s.store next p f) : Inv start (s.goto p next) := by
  refine h.of_own p rfl (fun q hq => ⟨s.goto_phase_ne next hq, rfl⟩) h.sound h.numbered ?_ ?_ ?_
    ?_ ?_
  · rw [Processes.goto_phase_self]
    exact hview
  · rw [Processes.goto_phase_self]
    exact hown
  · intro f hhome hp q hq hqf
    rw [Processes.goto_phase_self] at hp
    rcases hengaged f hhome hp with hp | hnone
    · exact hq (h.alone p q f hhome hp hqf).symm
    · exact hnone q hq hqf
  · rw [Processes.goto_phase_self]
    exact hlocks
  · rw [Processes.goto_phase_self]
    exact hholds

/-- A runner moves on, with nothing more to enter and the same lock. -/
theorem Inv.goto_same (h : Inv start s) {next : Phase}
    (hview : View (s.store.visible p) next.todo) (hown : PhaseInv start s.store p next)
    (hengaged : ∀ f, Engaged (s.store.pending p) next f →
      Engaged (s.store.pending p) (s.phase p) f)
    (hlock : next.lock = (s.phase p).lock) : Inv start (s.goto p next) := by
  refine h.goto hview hown (fun f _ hp => .inl (hengaged f hp)) ?_ ?_
  · intro f hf q hq hqf
    exact hq (h.locks q p f hqf (hlock ▸ hf))
  · intro f hhome hp
    have hold := h.holds p f hhome (hengaged f hp)
    rw [Holds, hlock]
    exact hold

/-- A runner inserts a row. -/
theorem Inv.insert (h : Inv start s) {row : FrontierRow} {next : Phase}
    (hfree : s.store.Free FrontierRow.keys row)
    (hbound : ∀ f e, row.eventOf f = some e →
      Bounded e.sequence ((eventsOf (s.store.visible p) f).length + 1))
    (hview : View (s.store.visible p ++ [row]) next.todo)
    (hown : PhaseInv start (s.store.insert p row) p next)
    (halone : ∀ f, Home (s.store.visible p ++ [row]) f →
      Engaged (s.store.pending p ++ [row]) next f →
      ∀ q, q ≠ p → ¬ Engaged (s.store.pending q) (s.phase q) f)
    (hlock : next.lock = (s.phase p).lock)
    (hholds : ∀ f, Home (s.store.visible p ++ [row]) f →
      Engaged (s.store.pending p ++ [row]) next f → Holds (s.store.insert p row) next p f) :
    Inv start (s.insert p row next) := by
  refine h.of_own p rfl (fun q hq => ⟨s.insert_phase_ne row next hq,
    RowStore.insert_pending_ne _ row hq⟩) (h.sound.insert hfree)
    (h.numbered.insert keyed_events hfree hbound) ?_ ?_ ?_ ?_ ?_
  · rw [Processes.insert_phase_self, Processes.insert_store, RowStore.visible_insert_self]
    exact hview
  · rw [Processes.insert_phase_self]
    exact hown
  · rw [Processes.insert_phase_self, Processes.insert_store, RowStore.visible_insert_self,
      RowStore.insert_pending_self]
    exact halone
  · rw [Processes.insert_phase_self, hlock]
    exact fun f hf q hq hqf => hq (h.locks q p f hqf hf)
  · rw [Processes.insert_phase_self, Processes.insert_store, RowStore.visible_insert_self,
      RowStore.insert_pending_self]
    exact hholds

theorem not_engaged_idle : ¬ Engaged [] .idle f := by
  rintro (h | h | ⟨i, h, -⟩)
  · exact h rfl
  · exact h rfl
  · cases h

/-- A runner fails. -/
theorem Inv.fail (h : Inv start s) : Inv start (s.rollback p .idle) := by
  refine h.of_own p rfl (fun q hq => ⟨s.rollback_phase_ne _ hq,
    RowStore.rollback_pending_ne _ hq⟩) h.sound.rollback h.numbered.rollback ?_ ?_ ?_ ?_ ?_
  · rw [Processes.rollback_phase_self, Processes.rollback_store, RowStore.visible_rollback_self]
    exact h.committed
  · rw [Processes.rollback_phase_self]
    exact RowStore.rollback_pending_self s.store p
  · rw [Processes.rollback_phase_self, Processes.rollback_store, RowStore.rollback_pending_self]
    exact fun f _ hp => absurd hp not_engaged_idle
  · rw [Processes.rollback_phase_self]
    exact fun f hf => nomatch hf
  · rw [Processes.rollback_phase_self, Processes.rollback_store, RowStore.rollback_pending_self]
    exact fun f _ hp => absurd hp not_engaged_idle

/-! ## Commits -/

/-- What somebody else commits for an item leaves its events as they are, where a runner
is engaged with the item and it is of the origin of its run. -/
theorem Inv.pending_nil (h : Inv start s) (hne : q ≠ p) (hhome : Home (s.store.visible q) f)
    (hq : Engaged (s.store.pending q) (s.phase q) f) : eventsOf (s.store.pending p) f = [] := by
  by_contra hp
  exact hne (h.alone q p f hhome hq (.inr (.inl hp)))

theorem eventsOf_commit (h : Inv start s) (hne : q ≠ p) (f : Text) :
    eventsOf ((s.store.commit p).visible q) f =
      if eventsOf (s.store.pending p) f = [] then eventsOf (s.store.visible q) f
      else eventsOf (s.store.visible p) f :=
  ledger_commit h.numbered h.sound keyed_events hne f

/-- Who sees an item sees its configuration. -/
theorem home_of_commit (h : Inv start s) (hne : q ≠ p)
    (hitem : ∃ i, .item i ∈ s.store.visible q ∧ i.frontierId = f)
    (hhome : Home ((s.store.commit p).visible q) f) : Home (s.store.visible q) f := by
  obtain ⟨j, c, hj, rfl, hc, hrun, horigin⟩ := hhome
  obtain ⟨i, hi, hid⟩ := hitem
  have hsub : s.store.visible q ⊆ (s.store.commit p).visible q := by
    rw [RowStore.visible_commit_ne _ hne]
    refine List.append_subset.mpr ⟨?_, List.subset_append_right _ _⟩
    exact fun row hrow => List.mem_append_left _ (List.mem_append_left _ hrow)
  have hdistinct := (h.sound.commit (p := p)).visible q
  obtain rfl := item_unique hdistinct (hsub hi) hj hid
  obtain ⟨c', hc', hrun'⟩ := (h.view q).item_config i hi
  obtain rfl := config_unique hdistinct (hsub hc') hc (hrun'.trans hrun.symm)
  exact ⟨i, c', hi, rfl, hc', hrun, horigin⟩

theorem subset_commit (s : FrontierSystem) (hne : q ≠ p) :
    s.store.visible q ⊆ (s.store.commit p).visible q := by
  rw [RowStore.visible_commit_ne _ hne]
  refine List.append_subset.mpr ⟨?_, List.subset_append_right _ _⟩
  exact fun row hrow => List.mem_append_left _ (List.mem_append_left _ hrow)

/-- The events of an item after a commit, and what another runner has still to enter. -/
theorem lawful_commit (h : Inv start s) (hne : q ≠ p) (htodo : (s.phase p).todo = [])
    {i : FrontierItem} {c : DiscoveryRunConfig}
    (hi : .item i ∈ (s.store.commit p).visible q) (hc : .config c ∈ (s.store.commit p).visible q)
    (hrun : c.researchRunId = i.researchRunId) :
    Lawful (c.normalizedOrigin = i.candidateOrigin)
      (kindsOf ((s.store.commit p).visible q) i.frontierId ++
        kindsOn (s.phase q).todo i.frontierId) := by
  have hdistinct := (h.sound.commit (p := p)).visible q
  have hsubq := subset_commit s (p := p) hne
  have hsubp : s.store.visible p ⊆ (s.store.commit p).visible q := by
    rw [RowStore.visible_commit_ne _ hne]
    exact List.subset_append_left _ _
  -- an item that a runner sees, with its configuration
  have hview : ∀ r, s.store.visible r ⊆ (s.store.commit p).visible q →
      .item i ∈ s.store.visible r → Lawful (c.normalizedOrigin = i.candidateOrigin)
        (kindsOf (s.store.visible r) i.frontierId ++ kindsOn (s.phase r).todo i.frontierId) := by
    intro r hsub hir
    obtain ⟨c', hc', hrun'⟩ := (h.view r).item_config i hir
    obtain rfl := config_unique hdistinct (hsub hc') hc (hrun'.trans hrun.symm)
    exact (h.view r).lawful i c' hir hc' hrun'
  have hp : .item i ∈ s.store.visible p → Lawful (c.normalizedOrigin = i.candidateOrigin)
      (kindsOf (s.store.visible p) i.frontierId) := by
    intro hip
    have hlawful := hview p hsubp hip
    rwa [htodo, kindsOn_nil, List.append_nil] at hlawful
  rw [kindsOf, eventsOf_commit h hne]
  by_cases hpending : eventsOf (s.store.pending p) i.frontierId = []
  · rw [if_pos hpending, ← kindsOf]
    by_cases hiq : .item i ∈ s.store.visible q
    · exact hview q hsubq hiq
    · -- the item is new with this commit, and would have no events
      exfalso
      have hip : .item i ∈ s.store.visible p := by
        rw [RowStore.visible_commit_ne _ hne] at hi
        rcases List.mem_append.mp hi with hi | hi
        · exact hi
        · exact absurd (List.mem_append_right _ hi) hiq
      have hevents : eventsOf s.store.committed i.frontierId ≠ [] := by
        have hlawful := (hp hip).ne_nil
        rwa [RowStore.visible, kindsOf_append, kindsOf_eq_nil.mpr hpending, List.append_nil, Ne,
          kindsOf_eq_nil] at hlawful
      obtain ⟨j, hj, hid⟩ := h.committed.exists_item hevents
      obtain rfl := item_unique (h.sound.visible p) (List.mem_append_left _ hj) hip hid
      exact hiq (List.mem_append_left _ hj)
  · rw [if_neg hpending, ← kindsOf]
    obtain ⟨j, hj, hid⟩ : ∃ j, .item j ∈ s.store.visible p ∧ j.frontierId = i.frontierId :=
      h.engaged_item (.inr (.inl hpending))
    obtain rfl := item_unique hdistinct (hsubp hj) hi hid
    by_cases htodoq : kindsOn (s.phase q).todo j.frontierId = []
    · rw [htodoq, List.append_nil]
      exact hp hj
    · obtain ⟨k, hk, hidk⟩ := (h.view q).todo_item _ htodoq
      obtain rfl := item_unique hdistinct (hsubq hk) hi hidk
      have hkc := item_committed h.sound hne hk hj rfl
      obtain ⟨c', hc', hrun'⟩ := h.committed.item_config k hkc
      obtain rfl := config_unique hdistinct (hsubq (List.mem_append_left _ hc')) hc
        (hrun'.trans hrun.symm)
      by_cases hhome : c'.normalizedOrigin = k.candidateOrigin
      · have hhomeq : Home (s.store.visible q) k.frontierId :=
          ⟨k, c', hk, rfl, List.mem_append_left _ hc', hrun', hhome⟩
        exact absurd (h.pending_nil hne hhomeq (.inl htodoq)) hpending
      · have hcommitted := h.committed.lawful k c' hkc hc' hrun'
        rw [kindsOn_nil, List.append_nil] at hcommitted
        have hq := hview q hsubq hk
        have hnone := h.numbered.pending_nil h.sound keyed_events (Ne.symm hne) hpending
        rw [RowStore.visible, kindsOf_append, kindsOf_eq_nil.mpr hnone, List.append_nil] at hq
        exact hcommitted.foreign_append hhome hq (hp hj)

/-- What another runner sees after a commit. -/
theorem View.commit (h : Inv start s) (hne : q ≠ p) (htodo : (s.phase p).todo = []) :
    View ((s.store.commit p).visible q) (s.phase q).todo := by
  have hsubq := subset_commit s (p := p) hne
  have hsubp : s.store.visible p ⊆ (s.store.commit p).visible q := by
    rw [RowStore.visible_commit_ne _ hne]
    exact List.subset_append_left _ _
  have hcases : ∀ row, row ∈ (s.store.commit p).visible q →
      row ∈ s.store.visible p ∨ row ∈ s.store.visible q := by
    intro row hrow
    rw [RowStore.visible_commit_ne _ hne] at hrow
    exact (List.mem_append.mp hrow).imp_right fun hrow => List.mem_append_right _ hrow
  have hlength : ∀ f, (eventsOf (s.store.visible q) f).length ≤
      (eventsOf ((s.store.commit p).visible q) f).length := by
    intro f
    rw [RowStore.visible_commit_ne _ hne]
    simp only [RowStore.visible, eventsOf, ledger_append, List.length_append]
    omega
  refine ⟨?_, ?_, ?_, fun i c hi hc hrun => lawful_commit h hne htodo hi hc hrun, ?_, ?_, ?_⟩
  · intro e he
    rcases hcases _ he with he | he
    · obtain ⟨i, hi, hid⟩ := (h.view p).event_item e he
      exact ⟨i, hsubp hi, hid⟩
    · obtain ⟨i, hi, hid⟩ := (h.view q).event_item e he
      exact ⟨i, hsubq hi, hid⟩
  · intro i hi
    rcases hcases _ hi with hi | hi
    · obtain ⟨c, hc, hrun⟩ := (h.view p).item_config i hi
      exact ⟨c, hsubp hc, hrun⟩
    · obtain ⟨c, hc, hrun⟩ := (h.view q).item_config i hi
      exact ⟨c, hsubq hc, hrun⟩
  · intro f hf
    obtain ⟨i, hi, hid⟩ := (h.view q).todo_item f hf
    exact ⟨i, hsubq hi, hid⟩
  · intro f
    rw [eventsOf_commit h hne]
    split
    · exact (h.view q).generations f
    · exact (h.view p).generations f
  · exact fun f => ((h.view q).bounded f).mono (hlength f)
  · intro f hhome
    by_cases htodoq : kindsOn (s.phase q).todo f = []
    · exact fits_of_kindsOn htodoq
    · have hhomeq := home_of_commit h hne ((h.view q).todo_item f htodoq) hhome
      rw [eventsOf_commit h hne, if_pos (h.pending_nil hne hhomeq (.inl htodoq))]
      exact (h.view q).exact f hhomeq

/-- Another runner stays in its phase. -/
theorem PhaseInv.commit (h : Inv start s) (hne : q ≠ p) :
    PhaseInv start (s.store.commit p) q (s.phase q) := by
  have hold := h.phases q
  have hpending := RowStore.commit_pending_ne s.store hne
  have hsub := subset_commit s (p := p) hne
  have hcommitted : s.store.committed ⊆ (s.store.commit p).committed :=
    List.subset_append_left _ _
  have hworking : ∀ i, Working start s.store q i → Working start (s.store.commit p) q i :=
    fun i hi => ⟨hcommitted hi.config, hsub hi.item, hi.run, hi.origin⟩
  have hevents : ∀ i, Working start s.store q i →
      Engaged (s.store.pending q) (s.phase q) i.frontierId →
      eventsOf (s.store.pending p) i.frontierId = [] :=
    fun i hi hq => h.pending_nil hne hi.home hq
  cases hphase : s.phase q with
  | idle => rw [hphase] at hold; exact hpending.trans hold
  | opening => rw [hphase] at hold; exact hpending.trans hold
  | ready => rw [hphase] at hold; exact ⟨hpending.trans hold.1, hcommitted hold.2⟩
  | choosing =>
    rw [hphase] at hold
    exact hcommitted hold
  | writing script todo =>
    rw [hphase] at hold
    exact ⟨hsub hold.1, fun hscript => hcommitted (hold.2.1 hscript), hold.2.2⟩
  | locked i =>
    rw [hphase] at hold
    exact hworking i hold
  | claiming i e =>
    rw [hphase] at hold
    obtain ⟨hi, hid, hkind, hgeneration⟩ := hold
    refine ⟨hworking i hi, hid, hkind, ?_⟩
    rw [eventsOf_commit h hne, if_pos (hevents i hi (.inl ?_))]
    · exact hgeneration
    · simp [hphase, Phase.todo, kindsOn_cons, Statement.kindOn, hid]
  | selected i =>
    rw [hphase] at hold
    obtain ⟨hi, hown, hlast⟩ := hold
    refine ⟨hworking i hi, hpending ▸ hown, ?_⟩
    rw [kindsOf, eventsOf_commit h hne, if_pos (hevents i hi (.inr (.inl hown)))]
    exact hlast
  | granted i =>
    rw [hphase] at hold
    obtain ⟨hi, hown, hlast⟩ := hold
    refine ⟨hworking i hi, hpending.trans hown, ?_⟩
    have hnone := hevents i hi (.inr (.inr ⟨i, hphase, rfl⟩))
    rw [RowStore.commit_committed, kindsOf_append, kindsOf_eq_nil.mpr hnone, List.append_nil]
    exact hlast

/-- A runner commits a transaction that has nothing more to enter. -/
theorem Inv.commit (h : Inv start s) {next : Phase} (htodo : (s.phase p).todo = [])
    (htodo' : next.todo = []) (hlock : next.lock = none)
    (hown : PhaseInv start (s.store.commit p) p next)
    (hgranted : ∀ i, next = .granted i → Engaged (s.store.pending p) (s.phase p) i.frontierId) :
    Inv start (s.commit p next) := by
  have hengaged : ∀ f, Engaged [] next f → ∃ i, next = .granted i ∧ i.frontierId = f := by
    rintro f (hf | hf | hf)
    · rw [htodo'] at hf
      exact absurd rfl hf
    · exact absurd rfl hf
    · exact hf
  have hother : ∀ q, q ≠ p → (s.commit p next).phase q = s.phase q ∧
      (s.commit p next).store.pending q = s.store.pending q := fun q hq =>
    ⟨s.commit_phase_ne next hq, RowStore.commit_pending_ne _ hq⟩
  have hself : Engaged ((s.commit p next).store.pending p) ((s.commit p next).phase p) =
      Engaged [] next := by
    rw [Processes.commit_phase_self, Processes.commit_store, RowStore.commit_pending_self]
  have hcommitted : View (s.store.committed ++ s.store.pending p) [] := htodo ▸ h.view p
  -- who is engaged afterwards has been so before, and has seen the item as its own
  have hbefore : ∀ q f, Home ((s.commit p next).store.visible q) f →
      Engaged ((s.commit p next).store.pending q) ((s.commit p next).phase q) f →
      Home (s.store.visible q) f ∧ Engaged (s.store.pending q) (s.phase q) f := by
    intro q f hhome hq'
    by_cases hq : q = p
    · subst hq
      rw [hself] at hq'
      obtain ⟨i, hi, rfl⟩ := hengaged f hq'
      rw [Processes.commit_store, RowStore.visible_commit_self] at hhome
      exact ⟨hhome, hgranted i hi⟩
    · rw [(hother q hq).1, (hother q hq).2] at hq'
      exact ⟨home_of_commit h hq (h.engaged_item hq') hhome, hq'⟩
  have hengagedBefore : ∀ q f, Engaged ((s.commit p next).store.pending q)
      ((s.commit p next).phase q) f → Engaged (s.store.pending q) (s.phase q) f := by
    intro q f hq'
    by_cases hq : q = p
    · subst hq
      rw [hself] at hq'
      obtain ⟨i, hi, rfl⟩ := hengaged f hq'
      exact hgranted i hi
    · rwa [(hother q hq).1, (hother q hq).2] at hq'
  refine ⟨h.sound.commit, h.numbered.commit h.sound keyed_events, hcommitted, ?_, ?_, ?_, ?_, ?_⟩
  · intro q
    by_cases hq : q = p
    · subst hq
      rw [Processes.commit_phase_self, Processes.commit_store, RowStore.visible_commit_self, htodo']
      exact hcommitted
    · rw [(hother q hq).1]
      exact View.commit h hq htodo
  · intro q
    by_cases hq : q = p
    · subst hq
      rw [Processes.commit_phase_self]
      exact hown
    · rw [(hother q hq).1]
      exact PhaseInv.commit h hq
  · intro a b f hhome ha hb
    obtain ⟨hhome, ha⟩ := hbefore a f hhome ha
    exact h.alone a b f hhome ha (hengagedBefore b f hb)
  · intro a b f ha hb
    have hnot : ∀ r, ((s.commit p next).phase r).lock = some f → r ≠ p := by
      rintro r hr rfl
      rw [Processes.commit_phase_self, hlock] at hr
      cases hr
    rw [(hother a (hnot a ha)).1] at ha
    rw [(hother b (hnot b hb)).1] at hb
    exact h.locks a b f ha hb
  · intro q f hhome hq'
    have hq'' := hq'
    obtain ⟨hhomeq, hqf⟩ := hbefore q f hhome hq'
    by_cases hq : q = p
    · subst hq
      rw [hself] at hq''
      obtain ⟨i, hi, rfl⟩ := hengaged f hq''
      subst hi
      exact .inr (.inr hown.2.2)
    · have hnone := h.pending_nil hq hhomeq hqf
      have hold := h.holds q f hhomeq hqf
      rw [Holds, (hother q hq).1, (hother q hq).2, Processes.commit_store,
        RowStore.commit_committed, kindsOf_append, kindsOf_eq_nil.mpr hnone, List.append_nil]
      exact hold

end Invariant

end Zest.Discovery
