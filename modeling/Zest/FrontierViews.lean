import Mathlib.Data.List.Chain
import Zest.FrontierClaims

/-! # What a runner sees of the frontier

The events of an item that a runner sees are numbered, and so are its selections; each
may follow the one before, and what the runner's transaction has still to enter may
follow them.  This is kept by what one transaction does.
-/
namespace Zest.Discovery

open SequencedLedger SortByKey UniqueRows

/-! ## Sequences of events -/

/-- The kinds of the events of an item. -/
def kindsOf (rows : List FrontierRow) (f : Text) : List FrontierEventKind :=
  (eventsOf rows f).map (·.eventKind)

@[simp] theorem kindsOf_append (rows more : List FrontierRow) (f : Text) :
    kindsOf (rows ++ more) f = kindsOf rows f ++ kindsOf more f := by
  simp [kindsOf]

theorem kindsOf_eq_nil {rows : List FrontierRow} {f : Text} :
    kindsOf rows f = [] ↔ eventsOf rows f = [] := List.map_eq_nil_iff

/-- What may follow an event of an item; `home` says that it is of the origin of its run. -/
def Follows (home : Prop) (latest next : FrontierEventKind) : Prop :=
  (home ∧ next ∈ legalTransitions latest) ∨
    (¬ home ∧ next = .blockedScope ∧ (latest = .eligible ∨ latest = .blockedScope))

/-- The kinds of the events of an item, in their order. -/
def Lawful (home : Prop) (kinds : List FrontierEventKind) : Prop :=
  ∃ rest, kinds = .created :: .eligible :: rest ∧
    (FrontierEventKind.eligible :: rest).IsChain (Follows home)

section Lawful

variable {home : Prop} {kinds more : List FrontierEventKind} {latest : FrontierEventKind}

theorem lawful_new : Lawful home [.created, .eligible] := ⟨[], rfl, List.isChain_singleton _⟩

theorem Lawful.ne_nil (h : Lawful home kinds) : kinds ≠ [] := by
  obtain ⟨rest, rfl, -⟩ := h
  exact List.cons_ne_nil _ _

/-- Events that may follow the last one. -/
theorem Lawful.append (h : Lawful home kinds) (hlast : kinds.getLast? = some latest)
    (hmore : (latest :: more).IsChain (Follows home)) : Lawful home (kinds ++ more) := by
  obtain ⟨rest, rfl, hchain⟩ := h
  refine ⟨rest ++ more, rfl, ?_⟩
  rw [← List.cons_append, List.isChain_append]
  have hlast' : (FrontierEventKind.eligible :: rest).getLast? = some latest := by
    rw [← hlast, List.getLast?_cons_cons]
  refine ⟨hchain, (List.isChain_cons.mp hmore).2, fun x hx y hy => ?_⟩
  rw [hlast'] at hx
  cases hx
  exact (List.isChain_cons.mp hmore).1 y hy

/-- An item of another origin is blocked, again and again. -/
theorem lawful_foreign_iff (hhome : ¬ home) :
    Lawful home kinds ↔ ∃ n, kinds = .created :: .eligible :: List.replicate n .blockedScope := by
  have hblocked : ∀ rest latest, (latest = .eligible ∨ latest = .blockedScope) →
      ((latest :: rest).IsChain (Follows home) ↔
        ∃ n, rest = List.replicate n FrontierEventKind.blockedScope) := by
    intro rest
    induction rest with
    | nil => exact fun latest _ => iff_of_true (List.isChain_singleton _) ⟨0, rfl⟩
    | cons next rest ih =>
      intro latest hlatest
      rw [List.isChain_cons_cons]
      constructor
      · rintro ⟨hnext, hrest⟩
        have hkind : next = .blockedScope := by
          rcases hnext with ⟨hyes, -⟩ | ⟨-, hkind, -⟩
          · exact absurd hyes hhome
          · exact hkind
        obtain ⟨n, rfl⟩ := (ih next (.inr hkind)).mp hrest
        exact ⟨n + 1, by rw [hkind, List.replicate_succ]⟩
      · rintro ⟨n, hn⟩
        cases n with
        | zero => cases hn
        | succ n =>
          obtain ⟨rfl, rfl⟩ := List.cons.inj hn
          exact ⟨.inr ⟨hhome, rfl, hlatest⟩, (ih _ (.inr rfl)).mpr ⟨n, rfl⟩⟩
  constructor
  · rintro ⟨rest, rfl, hchain⟩
    obtain ⟨n, rfl⟩ := (hblocked rest .eligible (.inl rfl)).mp hchain
    exact ⟨n, rfl⟩
  · rintro ⟨n, rfl⟩
    exact ⟨_, rfl, (hblocked _ .eligible (.inl rfl)).mpr ⟨n, rfl⟩⟩

/-- What is blocked once more. -/
theorem Lawful.block (hhome : ¬ home) (h : Lawful home kinds) :
    Lawful home (kinds ++ [.blockedScope]) := by
  obtain ⟨n, rfl⟩ := (lawful_foreign_iff hhome).mp h
  refine (lawful_foreign_iff hhome).mpr ⟨n + 1, ?_⟩
  rw [List.replicate_succ', List.cons_append, List.cons_append]

/-- Blocked by two runners. -/
theorem Lawful.foreign_append {kinds' : List FrontierEventKind} (hhome : ¬ home)
    (h : Lawful home kinds) (hmore : Lawful home (kinds ++ more)) (h' : Lawful home kinds') :
    Lawful home (kinds' ++ more) := by
  obtain ⟨n, rfl⟩ := (lawful_foreign_iff hhome).mp h
  obtain ⟨m, hm⟩ := (lawful_foreign_iff hhome).mp hmore
  obtain ⟨k, rfl⟩ := (lawful_foreign_iff hhome).mp h'
  simp only [List.cons_append, List.cons.injEq, true_and] at hm
  obtain ⟨-, -, hmore⟩ := List.append_eq_replicate_iff.mp hm
  refine (lawful_foreign_iff hhome).mpr ⟨k + more.length, ?_⟩
  rw [hmore, List.length_replicate, List.cons_append, List.cons_append,
    List.replicate_append_replicate]

end Lawful

/-- The selections of an item are numbered, and nothing else has such a number. -/
def Generations (events : List FrontierEvent) : Prop :=
  (events.filter (·.eventKind = .selected)).map (·.selectionGeneration) =
    (List.range' 1 (events.filter (·.eventKind = .selected)).length).map some

section Generations

variable {events : List FrontierEvent} {e : FrontierEvent}

theorem Generations.selectedGenerations (h : Generations events) :
    selectedGenerations events =
      List.range' 1 (events.filter (·.eventKind = .selected)).length := by
  have hmap : ∀ l : List FrontierEvent, Discovery.selectedGenerations l =
      ((l.filter (·.eventKind = .selected)).map (·.selectionGeneration)).filterMap id := by
    intro l
    induction l with
    | nil => rfl
    | cons event l ih =>
      rw [Discovery.selectedGenerations, List.filterMap_cons, ← Discovery.selectedGenerations, ih]
      by_cases hkind : event.eventKind = .selected
      · rw [if_pos hkind, List.filter_cons_of_pos (by simpa using hkind), List.map_cons,
          List.filterMap_cons]
        rfl
      · rw [if_neg hkind, List.filter_cons_of_neg (by simpa using hkind)]
  rw [hmap, h, List.filterMap_map]
  exact List.filterMap_some

/-- The next generation has the next number. -/
theorem Generations.next (h : Generations events) :
    nextSelectionGeneration events =
      (events.filter (·.eventKind = .selected)).length + 1 := by
  rw [nextSelectionGeneration, h.selectedGenerations]
  generalize (events.filter (·.eventKind = .selected)).length = n
  cases n with
  | zero => rfl
  | succ n =>
    have hmax : (List.range' 1 (n + 1)).max? = some (n + 1) := by
      refine List.max?_eq_some_iff.mpr ⟨List.mem_range'_1.mpr (by omega), fun b hb => ?_⟩
      have hb := List.mem_range'_1.mp hb
      omega
    rw [hmax, Option.getD_some]

theorem Generations.concat_of_ne (h : Generations events) (hkind : e.eventKind ≠ .selected) :
    Generations (events ++ [e]) := by
  have hfilter : (events ++ [e]).filter (·.eventKind = .selected) =
      events.filter (·.eventKind = .selected) := by
    rw [List.filter_append, List.filter_cons_of_neg (by simpa using hkind), List.filter_nil,
      List.append_nil]
  rw [Generations, hfilter]
  exact h

theorem Generations.concat (h : Generations events) (hkind : e.eventKind = .selected)
    (hnext : e.selectionGeneration = some (nextSelectionGeneration events)) :
    Generations (events ++ [e]) := by
  have hfilter : (events ++ [e]).filter (·.eventKind = .selected) =
      events.filter (·.eventKind = .selected) ++ [e] := by
    rw [List.filter_append, List.filter_cons_of_pos (by simpa using hkind), List.filter_nil]
  rw [Generations, hfilter, List.map_append, h, List.length_append, List.map_cons, List.map_nil,
    hnext, h.next, List.length_singleton, List.range'_concat]
  simp [Nat.add_comm]

end Generations

/-! ## What a transaction has still to enter -/

/-- The kind of event that a statement enters for an item. -/
def Statement.kindOn (f : Text) : Statement → Option FrontierEventKind
  | .append g eventKind => if g = f then some eventKind else none
  | .insert e => if e.frontierId = f then some e.eventKind else none
  | .propose _ => none

def kindsOn (todo : List Statement) (f : Text) : List FrontierEventKind :=
  todo.filterMap (Statement.kindOn f)

@[simp] theorem kindsOn_nil (f : Text) : kindsOn [] f = [] := rfl

@[simp] theorem kindsOn_propose (items : List FrontierItem) (f : Text) :
    kindsOn (items.map .propose) f = [] := by
  rw [kindsOn, List.filterMap_map, List.filterMap_eq_nil_iff]
  exact fun _ _ => rfl

@[simp] theorem kindsOn_append (todo more : List Statement) (f : Text) :
    kindsOn (todo ++ more) f = kindsOn todo f ++ kindsOn more f :=
  List.filterMap_append

theorem kindsOn_cons (statement : Statement) (rest : List Statement) (f : Text) :
    kindsOn (statement :: rest) f = (statement.kindOn f).toList ++ kindsOn rest f := by
  rw [kindsOn, List.filterMap_cons]
  cases statement.kindOn f <;> rfl

/-- The numbers of the events that are still to be inserted, after `n` events. -/
def Fits (R : Nat → Nat → Prop) (f : Text) : Nat → List Statement → Prop
  | _, [] => True
  | n, .propose _ :: rest => Fits R f n rest
  | n, .append g _ :: rest => Fits R f (if g = f then n + 1 else n) rest
  | n, .insert e :: rest =>
      (e.frontierId = f → R e.sequence (n + 1)) ∧
        Fits R f (if e.frontierId = f then n + 1 else n) rest

/-- At most the next number. -/
def Bounded (number next : Nat) : Prop := 1 ≤ number ∧ number ≤ next

section Fits

variable {R : Nat → Nat → Prop} {f : Text} {n m : Nat} {todo : List Statement}

theorem fits_of_kindsOn (h : kindsOn todo f = []) : Fits R f n todo := by
  induction todo with
  | nil => trivial
  | cons statement rest ih =>
    rw [kindsOn_cons, List.append_eq_nil_iff] at h
    cases statement with
    | propose i => exact ih h.2
    | append g eventKind =>
      have hne : g ≠ f := fun heq => by simp [Statement.kindOn, heq] at h
      rw [Fits, if_neg hne]
      exact ih h.2
    | insert e =>
      have hne : e.frontierId ≠ f := fun heq => by simp [Statement.kindOn, heq] at h
      rw [Fits, if_neg hne]
      exact ⟨fun heq => absurd heq hne, ih h.2⟩

/-- What is at most the next number stays so when there are more events. -/
theorem Fits.mono (hle : n ≤ m) (h : Fits Bounded f n todo) : Fits Bounded f m todo := by
  induction todo generalizing n m with
  | nil => trivial
  | cons statement rest ih =>
    cases statement with
    | propose i => exact ih hle h
    | append g eventKind =>
      rw [Fits] at h ⊢
      refine ih ?_ h
      split <;> omega
    | insert e =>
      rw [Fits] at h ⊢
      refine ⟨fun heq => ?_, ih ?_ h.2⟩
      · have hbound := h.1 heq
        exact ⟨hbound.1, by have := hbound.2; omega⟩
      · split <;> omega

end Fits

/-! ## What one runner sees -/

/-- The item is of the origin of its run. -/
def Home (rows : List FrontierRow) (f : Text) : Prop :=
  ∃ i c, .item i ∈ rows ∧ i.frontierId = f ∧ .config c ∈ rows ∧
    c.researchRunId = i.researchRunId ∧ c.normalizedOrigin = i.candidateOrigin

theorem Home.mono {rows more : List FrontierRow} {f : Text} (h : Home rows f)
    (hsub : rows ⊆ more) : Home more f := by
  obtain ⟨i, c, hi, hf, hc, hrun, horigin⟩ := h
  exact ⟨i, c, hsub hi, hf, hsub hc, hrun, horigin⟩

/-- The rows that a runner sees, and what its transaction has still to enter. -/
structure View (rows : List FrontierRow) (todo : List Statement) : Prop where
  event_item : ∀ e, .event e ∈ rows → ∃ i, .item i ∈ rows ∧ i.frontierId = e.frontierId
  item_config : ∀ i, .item i ∈ rows → ∃ c, .config c ∈ rows ∧ c.researchRunId = i.researchRunId
  todo_item : ∀ f, kindsOn todo f ≠ [] → ∃ i, .item i ∈ rows ∧ i.frontierId = f
  lawful : ∀ i c, .item i ∈ rows → .config c ∈ rows → c.researchRunId = i.researchRunId →
    Lawful (c.normalizedOrigin = i.candidateOrigin)
      (kindsOf rows i.frontierId ++ kindsOn todo i.frontierId)
  generations : ∀ f, Generations (eventsOf rows f)
  bounded : ∀ f, Fits Bounded f (eventsOf rows f).length todo
  exact : ∀ f, Home rows f → Fits (· = ·) f (eventsOf rows f).length todo

section View

variable {rows : List FrontierRow} {todo rest : List Statement} {f : Text}

theorem view_nil : View [] [] where
  event_item _ h := absurd h List.not_mem_nil
  item_config _ h := absurd h List.not_mem_nil
  todo_item _ h := absurd rfl h
  lawful _ _ h := absurd h List.not_mem_nil
  generations _ := rfl
  bounded _ := trivial
  exact _ _ := trivial

theorem mem_eventsOf {e : FrontierEvent} :
    e ∈ eventsOf rows f ↔ .event e ∈ rows ∧ e.frontierId = f := by
  rw [eventsOf, mem_ledger]
  simp

/-- Who has events has an item. -/
theorem View.exists_item (h : View rows todo) (hf : eventsOf rows f ≠ []) :
    ∃ i, .item i ∈ rows ∧ i.frontierId = f := by
  obtain ⟨e, he⟩ := List.exists_mem_of_ne_nil _ hf
  obtain ⟨hmem, hid⟩ := mem_eventsOf.mp he
  obtain ⟨i, hi, hfi⟩ := h.event_item e hmem
  exact ⟨i, hi, hfi.trans hid⟩

/-- The transaction has other statements to make, which enter the same events. -/
theorem View.of_todo (h : View rows todo) {todo' : List Statement}
    (hkinds : ∀ f, kindsOn todo' f = kindsOn todo f)
    (hbounded : ∀ f, Fits Bounded f (eventsOf rows f).length todo')
    (hexact : ∀ f, Home rows f → Fits (· = ·) f (eventsOf rows f).length todo') :
    View rows todo' :=
  { h with
    todo_item := fun f hf => h.todo_item f (hkinds f ▸ hf)
    lawful := fun i c hi hc hrun => by
      rw [hkinds]
      exact h.lawful i c hi hc hrun
    bounded := hbounded
    exact := hexact }

/-- Statements that enter nothing. -/
theorem View.of_kindsOn (h : View rows todo) (htodo : ∀ f, kindsOn todo f = [])
    {todo' : List Statement} (htodo' : ∀ f, kindsOn todo' f = []) : View rows todo' :=
  h.of_todo (fun f => (htodo' f).trans (htodo f).symm) (fun f => fits_of_kindsOn (htodo' f))
    fun f _ => fits_of_kindsOn (htodo' f)

theorem eventsOf_concat_self (e : FrontierEvent) :
    eventsOf (rows ++ [.event e]) e.frontierId = eventsOf rows e.frontierId ++ [e] :=
  ledger_concat_of_some (FrontierRow.eventOf_eq_some.mpr ⟨rfl, rfl⟩)

theorem eventsOf_concat_ne {e : FrontierEvent} (hne : e.frontierId ≠ f) :
    eventsOf (rows ++ [.event e]) f = eventsOf rows f :=
  ledger_concat_of_none (by simp [FrontierRow.eventOf, hne])

theorem eventsOf_concat_item (i : FrontierItem) :
    eventsOf (rows ++ [.item i]) f = eventsOf rows f := ledger_concat_of_none rfl

theorem eventsOf_concat_config (c : DiscoveryRunConfig) :
    eventsOf (rows ++ [.config c]) f = eventsOf rows f := ledger_concat_of_none rfl

theorem home_concat_event {e : FrontierEvent} :
    Home (rows ++ [.event e]) f ↔ Home rows f := by
  simp [Home]

/-- The next event is entered. -/
theorem View.insert {e : FrontierEvent} (h : View rows (.insert e :: rest))
    (hgenerations : Generations (eventsOf rows e.frontierId ++ [e])) :
    View (rows ++ [.event e]) rest where
  event_item e' he' := by
    have hitem : ∀ f, (∃ i, .item i ∈ rows ∧ i.frontierId = f) →
        ∃ i, .item i ∈ rows ++ [.event e] ∧ i.frontierId = f := fun f ⟨i, hi, hf⟩ =>
      ⟨i, List.mem_append_left _ hi, hf⟩
    rcases List.mem_append.mp he' with he' | he'
    · exact hitem _ (h.event_item e' he')
    · cases List.mem_singleton.mp he'
      refine hitem _ (h.todo_item _ ?_)
      simp [kindsOn_cons, Statement.kindOn]
  item_config i hi := by
    simp only [List.mem_append, List.mem_singleton, reduceCtorEq, or_false] at hi ⊢
    exact h.item_config i hi
  todo_item f hf := by
    simp only [List.mem_append, List.mem_singleton, reduceCtorEq, or_false]
    refine h.todo_item f ?_
    rw [kindsOn_cons]
    exact List.append_ne_nil_of_right_ne_nil _ hf
  lawful i c hi hc hrun := by
    simp only [List.mem_append, List.mem_singleton, reduceCtorEq, or_false] at hi hc
    have hold := h.lawful i c hi hc hrun
    rw [kindsOn_cons, ← List.append_assoc] at hold
    by_cases hid : e.frontierId = i.frontierId
    · rw [kindsOf, ← hid, eventsOf_concat_self, List.map_append, ← kindsOf]
      simpa [Statement.kindOn, hid] using hold
    · rw [kindsOf, eventsOf_concat_ne hid, ← kindsOf]
      simpa [Statement.kindOn, hid] using hold
  generations f := by
    by_cases hid : e.frontierId = f
    · subst hid
      rw [eventsOf_concat_self]
      exact hgenerations
    · rw [eventsOf_concat_ne hid]
      exact h.generations f
  bounded f := by
    have hold := h.bounded f
    rw [Fits] at hold
    by_cases hid : e.frontierId = f
    · subst hid
      rw [if_pos rfl] at hold
      rw [eventsOf_concat_self, List.length_append, List.length_singleton]
      exact hold.2
    · rw [if_neg hid] at hold
      rw [eventsOf_concat_ne hid]
      exact hold.2
  exact f hhome := by
    have hold := h.exact f (home_concat_event.mp hhome)
    rw [Fits] at hold
    by_cases hid : e.frontierId = f
    · subst hid
      rw [if_pos rfl] at hold
      rw [eventsOf_concat_self, List.length_append, List.length_singleton]
      exact hold.2
    · rw [if_neg hid] at hold
      rw [eventsOf_concat_ne hid]
      exact hold.2

/-- A new item, whose first two events come next. -/
theorem View.propose {i : FrontierItem} {c : DiscoveryRunConfig} (created eligible : Text)
    (h : View rows (.propose i :: rest)) (hnew : ∀ j, .item j ∈ rows → j.frontierId ≠ i.frontierId)
    (hconfig : .config c ∈ rows) (hrun : c.researchRunId = i.researchRunId) :
    View (rows ++ [.item i]) (.insert ⟨created, i.frontierId, .created, 1, none⟩ ::
      .insert ⟨eligible, i.frontierId, .eligible, 2, none⟩ :: rest) := by
  have hevents : eventsOf rows i.frontierId = [] := by
    by_contra hne
    obtain ⟨j, hj, hid⟩ := h.exists_item hne
    exact hnew j hj hid
  have hrest : kindsOn rest i.frontierId = [] := by
    by_contra hne
    obtain ⟨j, hj, hid⟩ := h.todo_item i.frontierId (by rw [kindsOn_cons]; simpa [Statement.kindOn])
    exact hnew j hj hid
  have hkinds : ∀ f, f ≠ i.frontierId →
      kindsOn (.insert ⟨created, i.frontierId, .created, 1, none⟩ ::
        .insert ⟨eligible, i.frontierId, .eligible, 2, none⟩ :: rest) f =
      kindsOn (.propose i :: rest) f := by
    intro f hf
    simp [kindsOn_cons, Statement.kindOn, Ne.symm hf]
  have hsub : rows ⊆ rows ++ [.item i] := List.subset_append_left _ _
  have hfits : ∀ R : Nat → Nat → Prop, R 1 1 → R 2 2 → ∀ f, Fits R f (eventsOf rows f).length
      (.propose i :: rest) → Fits R f (eventsOf rows f).length
        (.insert ⟨created, i.frontierId, .created, 1, none⟩ ::
          .insert ⟨eligible, i.frontierId, .eligible, 2, none⟩ :: rest) := by
    intro R h1 h2 f hf
    by_cases hid : i.frontierId = f
    · subst hid
      rw [hevents, List.length_nil, Fits, if_pos rfl, Fits, if_pos rfl]
      exact ⟨fun _ => h1, fun _ => h2, fits_of_kindsOn hrest⟩
    · rw [Fits, if_neg hid, Fits, if_neg hid]
      exact ⟨fun heq => absurd heq hid, fun heq => absurd heq hid, hf⟩
  refine ⟨?_, ?_, ?_, ?_, ?_, ?_, ?_⟩
  · intro e he
    simp only [List.mem_append, List.mem_singleton, reduceCtorEq, or_false] at he
    obtain ⟨j, hj, hid⟩ := h.event_item e he
    exact ⟨j, hsub hj, hid⟩
  · intro j hj
    rcases List.mem_append.mp hj with hj | hj
    · obtain ⟨c', hc', hrun'⟩ := h.item_config j hj
      exact ⟨c', hsub hc', hrun'⟩
    · cases List.mem_singleton.mp hj
      exact ⟨c, hsub hconfig, hrun⟩
  · intro f hf
    by_cases hid : i.frontierId = f
    · exact ⟨i, List.mem_append_right _ (List.mem_singleton_self _), hid⟩
    · rw [hkinds f (Ne.symm hid)] at hf
      obtain ⟨j, hj, hfj⟩ := h.todo_item f hf
      exact ⟨j, hsub hj, hfj⟩
  · intro j c' hj hc' hrun'
    simp only [List.mem_append, List.mem_singleton, reduceCtorEq, or_false] at hc'
    rw [kindsOf, eventsOf_concat_item, ← kindsOf]
    rcases List.mem_append.mp hj with hj | hj
    · rw [hkinds _ (hnew j hj)]
      exact h.lawful j c' hj hc' hrun'
    · cases List.mem_singleton.mp hj
      rw [kindsOf_eq_nil.mpr hevents]
      simp only [kindsOn_cons, Statement.kindOn, if_true, hrest]
      exact lawful_new
  · intro f
    rw [eventsOf_concat_item]
    exact h.generations f
  · intro f
    rw [eventsOf_concat_item]
    exact hfits _ ⟨Nat.le_refl 1, Nat.le_refl 1⟩ ⟨Nat.le_succ 1, Nat.le_refl 2⟩ f (h.bounded f)
  · intro f hhome
    rw [eventsOf_concat_item]
    by_cases hid : i.frontierId = f
    · subst hid
      refine hfits _ rfl rfl _ ?_
      exact fits_of_kindsOn (by rw [kindsOn_cons, hrest]; rfl)
    · refine hfits _ rfl rfl f (h.exact f ?_)
      obtain ⟨j, c', hj, hfj, hc', hrun', horigin⟩ := hhome
      simp only [List.mem_append, List.mem_singleton, reduceCtorEq, or_false,
        FrontierRow.item.injEq] at hj hc'
      rcases hj with hj | rfl
      · exact ⟨j, c', hj, hfj, hc', hrun', horigin⟩
      · exact absurd hfj hid

/-- The configuration comes before any item of its run. -/
theorem View.configure {c : DiscoveryRunConfig} (h : View rows todo)
    (hnew : ∀ c', .config c' ∈ rows → c'.researchRunId ≠ c.researchRunId)
    (htodo : ∀ f, kindsOn todo f = []) {todo' : List Statement}
    (htodo' : ∀ f, kindsOn todo' f = []) : View (rows ++ [.config c]) todo' := by
  have hrun : ∀ i, .item i ∈ rows → c.researchRunId ≠ i.researchRunId := by
    intro i hi hsame
    obtain ⟨c', hc', hrun'⟩ := h.item_config i hi
    exact hnew c' hc' (hrun'.trans hsame.symm)
  refine ⟨?_, ?_, ?_, ?_, ?_, ?_, ?_⟩
  · intro e he
    simp only [List.mem_append, List.mem_singleton, reduceCtorEq, or_false] at he ⊢
    exact h.event_item e he
  · intro i hi
    simp only [List.mem_append, List.mem_singleton, reduceCtorEq, or_false] at hi
    obtain ⟨c', hc', hrun'⟩ := h.item_config i hi
    exact ⟨c', List.mem_append_left _ hc', hrun'⟩
  · exact fun f hf => absurd (htodo' f) hf
  · intro i c' hi hc' hrun'
    simp only [List.mem_append, List.mem_singleton, reduceCtorEq, or_false,
      FrontierRow.config.injEq] at hi hc'
    rcases hc' with hc' | rfl
    · rw [kindsOf, eventsOf_concat_config, ← kindsOf, htodo']
      have hold := h.lawful i c' hi hc' hrun'
      rwa [htodo] at hold
    · exact absurd hrun' (hrun i hi)
  · intro f
    rw [eventsOf_concat_config]
    exact h.generations f
  · exact fun f => fits_of_kindsOn (htodo' f)
  · exact fun f _ => fits_of_kindsOn (htodo' f)

/-- What a runner reads of an item is in the order of its numbers. -/
theorem listForFrontier_eq
    (hnumbered : Numbered FrontierRow.eventOf FrontierEvent.sequence rows f) :
    listForFrontier rows f = eventsOf rows f :=
  sortBy_of_pairwise (hnumbered.pairwise_lt.imp Nat.le_of_lt)

/-- The next number. -/
theorem nextEvent_sequence
    (hnumbered : Numbered FrontierRow.eventOf FrontierEvent.sequence rows f)
    (eventId : Text) (eventKind : FrontierEventKind) (generation : Option Nat) :
    (nextEvent rows eventId f eventKind generation).sequence = (eventsOf rows f).length + 1 := by
  rw [nextEvent, listForFrontier_eq hnumbered]
  rw [Numbered] at hnumbered
  change ((eventsOf rows f).getLast?.map (·.sequence)).getD 0 + 1 = _
  rw [← List.getLast?_map, hnumbered]
  cases hlength : (eventsOf rows f).length with
  | zero => rfl
  | succ n =>
    rw [List.range'_concat, List.getLast?_concat]
    simp [Nat.add_comm]

/-- The number of the next event is read. -/
theorem View.append {frontierId eventId : Text} {eventKind : FrontierEventKind}
    (h : View rows (.append frontierId eventKind :: rest))
    (hnumbered : Numbered FrontierRow.eventOf FrontierEvent.sequence rows frontierId) :
    View rows (.insert (nextEvent rows eventId frontierId eventKind none) :: rest) := by
  have hfits : ∀ R : Nat → Nat → Prop, (∀ n, R (n + 1) (n + 1)) → ∀ f,
      Fits R f (eventsOf rows f).length (.append frontierId eventKind :: rest) →
      Fits R f (eventsOf rows f).length
        (.insert (nextEvent rows eventId frontierId eventKind none) :: rest) := by
    intro R hR f hf
    refine ⟨?_, hf⟩
    rintro rfl
    rw [nextEvent_sequence hnumbered]
    exact hR _
  refine h.of_todo (fun f => ?_) (fun f => ?_) fun f hhome => ?_
  · simp [kindsOn_cons, Statement.kindOn, nextEvent]
  · exact hfits _ (fun n => ⟨Nat.succ_le_succ (Nat.zero_le n), Nat.le_refl _⟩) f (h.bounded f)
  · exact hfits _ (fun _ => rfl) f (h.exact f hhome)

end View

end Zest.Discovery
