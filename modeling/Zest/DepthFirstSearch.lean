import Mathlib.Data.Finset.Card
import Mathlib.Data.Finset.Sort
import Mathlib.Logic.Relation
import Mathlib.Order.Extension.Linear

/-! # Depth-first search for a cycle

A recursive search that keeps the set of the vertices that have been visited and
the set of those whose visit is not over.  It stops at a vertex of the second
set.  The order in which vertices and successors are taken is arbitrary.
-/
namespace DepthFirstSearch

variable {V : Type} [DecidableEq V]

structure Marks (V : Type) where
  visited : Finset V
  stack : Finset V

inductive Outcome (V : Type) where
  | exhausted
  | cycle
  | done (marks : Marks V)

/-! ## The search -/

/-- The loop over the successors of a vertex. -/
def scan (visit : V → Marks V → Outcome V) : List V → Marks V → Outcome V
  | [], marks => .done marks
  | next :: rest, marks =>
    if next ∉ marks.visited then
      match visit next marks with
      | .done marks' => scan visit rest marks'
      | .cycle => .cycle
      | .exhausted => .exhausted
    else if next ∈ marks.stack then .cycle
    else scan visit rest marks

/-- The visit of a vertex.  `fuel` bounds the depth of the recursion. -/
def visit (successors : V → List V) : Nat → V → Marks V → Outcome V
  | 0, _, _ => .exhausted
  | fuel + 1, node, marks =>
    match scan (visit successors fuel) (successors node)
        ⟨insert node marks.visited, insert node marks.stack⟩ with
    | .done marks' => .done ⟨marks'.visited, marks'.stack.erase node⟩
    | .cycle => .cycle
    | .exhausted => .exhausted

/-- The loop over the vertices. -/
def sweep (visit : V → Marks V → Outcome V) : List V → Marks V → Outcome V
  | [], marks => .done marks
  | node :: rest, marks =>
    if node ∉ marks.visited then
      match visit node marks with
      | .done marks' => sweep visit rest marks'
      | .cycle => .cycle
      | .exhausted => .exhausted
    else sweep visit rest marks

/-- The search from every vertex in turn. -/
def search (order : List V) (successors : V → List V) : Outcome V :=
  sweep (visit successors order.length) order ⟨∅, ∅⟩

/-! ## What a search finds -/

variable (successors : V → List V)

/-- An edge of the graph. -/
def Edge (a b : V) : Prop := b ∈ successors a

def Cyclic : Prop := ∃ v, Relation.TransGen (Edge successors) v v

/-- A vertex from which every path ends. -/
def Ends (v : V) : Prop := Acc (fun b a => Edge successors a b) v

/-- A vertex whose visit is over. -/
def Marks.Finished (marks : Marks V) (v : V) : Prop := v ∈ marks.visited ∧ v ∉ marks.stack

/-- What the marks say: every path from a vertex whose visit is over ends. -/
structure Marks.Sound (marks : Marks V) : Prop where
  stacked : marks.stack ⊆ marks.visited
  finished : ∀ v, marks.Finished v → Ends successors v

/-- The marks after a part of the search that has found no cycle. -/
structure Extends (marks marks' : Marks V) : Prop where
  sound : marks'.Sound successors
  visited : marks.visited ⊆ marks'.visited
  stack : marks'.stack = marks.stack

/-- The outcome of a part of the search that has `goals` to visit. -/
def Outcome.Right (goals : List V) (marks : Marks V) : Outcome V → Prop
  | .exhausted => False
  | .cycle => Cyclic successors
  | .done marks' => Extends successors marks marks' ∧ ∀ v ∈ goals, marks'.Finished v

/-- What a visit is relied on for, as long as no more than `fuel` vertices are left. -/
def Visits (all : Finset V) (fuel : Nat) (visit : V → Marks V → Outcome V) : Prop :=
  ∀ ⦃node : V⦄ ⦃marks : Marks V⦄, node ∈ all → node ∉ marks.visited →
    (all \ marks.visited).card ≤ fuel → marks.Sound successors →
    (∀ v ∈ marks.stack, Relation.TransGen (Edge successors) v node) →
    (visit node marks).Right successors [node] marks

variable {successors} {marks marks' : Marks V}

omit [DecidableEq V] in
theorem Extends.refl (h : marks.Sound successors) : Extends successors marks marks :=
  ⟨h, Finset.Subset.refl _, rfl⟩

omit [DecidableEq V] in
theorem Extends.finished {v : V} (h : Extends successors marks marks') (hv : marks.Finished v) :
    marks'.Finished v := ⟨h.visited hv.1, by rw [h.stack]; exact hv.2⟩

omit [DecidableEq V] in
/-- One more goal has been visited before the others. -/
theorem Outcome.Right.cons {goals : List V} {node : V} {outcome : Outcome V}
    (h : Extends successors marks marks') (hnode : marks'.Finished node)
    (hright : outcome.Right successors goals marks') :
    outcome.Right successors (node :: goals) marks := by
  cases outcome with
  | exhausted => exact hright
  | cycle => exact hright
  | done marks'' =>
    obtain ⟨hext, hgoals⟩ := hright
    refine ⟨⟨hext.sound, h.visited.trans hext.visited, hext.stack.trans h.stack⟩, fun v hv => ?_⟩
    rcases List.mem_cons.mp hv with rfl | hv
    · exact hext.finished hnode
    · exact hgoals v hv

variable {all : Finset V} {fuel : Nat} {visitNode : V → Marks V → Outcome V}

theorem card_sdiff_le (h : marks.visited ⊆ marks'.visited)
    (hfuel : (all \ marks.visited).card ≤ fuel) : (all \ marks'.visited).card ≤ fuel :=
  (Finset.card_le_card (Finset.sdiff_subset_sdiff (Finset.Subset.refl _) h)).trans hfuel

/-- **The loop over successors**, of a vertex that is on the stack below all the others. -/
theorem scan_right (hvisit : Visits successors all fuel visitNode) {node : V} {nexts : List V}
    (hedges : ∀ next ∈ nexts, Edge successors node next ∧ next ∈ all)
    (hfuel : (all \ marks.visited).card ≤ fuel) (hsound : marks.Sound successors)
    (hstack : ∀ v ∈ marks.stack, Relation.ReflTransGen (Edge successors) v node) :
    (scan visitNode nexts marks).Right successors nexts marks := by
  induction nexts generalizing marks with
  | nil => exact ⟨Extends.refl hsound, fun v hv => absurd hv List.not_mem_nil⟩
  | cons next rest ih =>
    obtain ⟨hedge, hall⟩ := hedges next List.mem_cons_self
    have hrest : ∀ other ∈ rest, Edge successors node other ∧ other ∈ all :=
      fun other hother => hedges other (List.mem_cons_of_mem _ hother)
    rw [scan]
    by_cases hfresh : next ∉ marks.visited
    · rw [if_pos hfresh]
      have hright := hvisit hall hfresh hfuel hsound fun v hv =>
        Relation.TransGen.tail' (hstack v hv) hedge
      rcases houtcome : visitNode next marks with _ | _ | marks'
      · rw [houtcome] at hright
        exact hright
      · rw [houtcome] at hright
        exact hright
      · rw [houtcome] at hright
        obtain ⟨hext, hgoal⟩ := hright
        refine Outcome.Right.cons hext (hgoal next List.mem_cons_self) ?_
        exact ih hrest (card_sdiff_le hext.visited hfuel) hext.sound
          (by rw [hext.stack]; exact hstack)
    · rw [if_neg hfresh]
      by_cases hcycle : next ∈ marks.stack
      · -- the vertex is on the stack: a path leads from it to `node`, and an edge back
        rw [if_pos hcycle]
        exact ⟨next, Relation.TransGen.tail' (hstack next hcycle) hedge⟩
      · rw [if_neg hcycle]
        exact Outcome.Right.cons (Extends.refl hsound) ⟨not_not.mp hfresh, hcycle⟩
          (ih hrest hfuel hsound hstack)

/-- **A visit**, of as many vertices in turn as there is fuel. -/
theorem visit_right (hclosed : ∀ a ∈ all, ∀ b, Edge successors a b → b ∈ all) (fuel : Nat) :
    Visits successors all fuel (visit successors fuel) := by
  induction fuel with
  | zero =>
    intro node marks hall hfresh hfuel
    have hleft : node ∈ all \ marks.visited := Finset.mem_sdiff.mpr ⟨hall, hfresh⟩
    exact absurd (Finset.card_pos.mpr ⟨node, hleft⟩) (by omega)
  | succ fuel ih =>
    intro node marks hall hfresh hfuel hsound hstack
    have hoff : node ∉ marks.stack := fun h => hfresh (hsound.stacked h)
    have hleft : node ∈ all \ marks.visited := Finset.mem_sdiff.mpr ⟨hall, hfresh⟩
    have hpushed : (all \ insert node marks.visited).card ≤ fuel := by
      rw [Finset.sdiff_insert, Finset.card_erase_of_mem hleft]
      omega
    have hright : (scan (visit successors fuel) (successors node)
        ⟨insert node marks.visited, insert node marks.stack⟩).Right successors
        (successors node) ⟨insert node marks.visited, insert node marks.stack⟩ := by
      refine scan_right ih (fun next hnext => ⟨hnext, hclosed node hall next hnext⟩) hpushed
        ⟨Finset.insert_subset_insert _ hsound.stacked, ?_⟩ ?_
      · rintro v ⟨hvisited, hnot⟩
        rw [Finset.mem_insert, not_or] at hnot
        exact hsound.finished v ⟨(Finset.mem_insert.mp hvisited).resolve_left hnot.1, hnot.2⟩
      · intro v hv
        rcases Finset.mem_insert.mp hv with rfl | hv
        · exact Relation.ReflTransGen.refl
        · exact (hstack v hv).to_reflTransGen
    rw [visit]
    rcases houtcome : scan (visit successors fuel) (successors node)
        ⟨insert node marks.visited, insert node marks.stack⟩ with _ | _ | marks'
    · rw [houtcome] at hright
      exact hright
    · rw [houtcome] at hright
      exact hright
    · rw [houtcome] at hright
      obtain ⟨hext, hgoals⟩ := hright
      have hpopped : marks'.stack.erase node = marks.stack := by
        rw [hext.stack, Finset.erase_insert hoff]
      have hvisited : node ∈ marks'.visited := hext.visited (Finset.mem_insert_self _ _)
      have hends : Ends successors node :=
        Acc.intro node fun next hnext => hext.sound.finished next (hgoals next hnext)
      refine ⟨⟨⟨?_, ?_⟩, ?_, hpopped⟩, ?_⟩
      · exact (Finset.erase_subset _ _).trans hext.sound.stacked
      · rintro v ⟨hv, hnot⟩
        by_cases hnode : v = node
        · rw [hnode]
          exact hends
        · exact hext.sound.finished v ⟨hv, fun h => hnot (Finset.mem_erase.mpr ⟨hnode, h⟩)⟩
      · exact (Finset.subset_insert _ _).trans hext.visited
      · intro v hv
        rw [List.mem_singleton.mp hv]
        exact ⟨hvisited, Finset.notMem_erase _ _⟩

/-- **The loop over the vertices**, with nothing on the stack. -/
theorem sweep_right (hvisit : Visits successors all fuel visitNode) {nodes : List V}
    (hnodes : ∀ node ∈ nodes, node ∈ all) (hfuel : (all \ marks.visited).card ≤ fuel)
    (hsound : marks.Sound successors) (hstack : marks.stack = ∅) :
    (sweep visitNode nodes marks).Right successors nodes marks := by
  induction nodes generalizing marks with
  | nil => exact ⟨Extends.refl hsound, fun v hv => absurd hv List.not_mem_nil⟩
  | cons node rest ih =>
    have hrest : ∀ other ∈ rest, other ∈ all :=
      fun other hother => hnodes other (List.mem_cons_of_mem _ hother)
    rw [sweep]
    by_cases hfresh : node ∉ marks.visited
    · rw [if_pos hfresh]
      have hright := hvisit (hnodes node List.mem_cons_self) hfresh hfuel hsound (by simp [hstack])
      rcases houtcome : visitNode node marks with _ | _ | marks'
      · rw [houtcome] at hright
        exact hright
      · rw [houtcome] at hright
        exact hright
      · rw [houtcome] at hright
        obtain ⟨hext, hgoal⟩ := hright
        exact Outcome.Right.cons hext (hgoal node List.mem_cons_self)
          (ih hrest (card_sdiff_le hext.visited hfuel) hext.sound (hext.stack.trans hstack))
    · rw [if_neg hfresh]
      exact Outcome.Right.cons (Extends.refl hsound) ⟨not_not.mp hfresh, by simp [hstack]⟩
        (ih hrest hfuel hsound hstack)

/-! ## The search as a whole -/

omit [DecidableEq V] in
theorem Ends.not_transGen {v : V} (h : Ends successors v) :
    ¬ Relation.TransGen (Edge successors) v v := by
  induction h with
  | intro v _ ih =>
    intro hcycle
    obtain ⟨next, hedge, hback⟩ := Relation.TransGen.head'_iff.mp hcycle
    exact ih next hedge (Relation.TransGen.tail' hback hedge)

variable {order : List V}

theorem search_right (hjoin : ∀ a b, Edge successors a b → a ∈ order ∧ b ∈ order) :
    (search order successors).Right successors order ⟨∅, ∅⟩ := by
  have hclosed : ∀ a ∈ order.toFinset, ∀ b, Edge successors a b → b ∈ order.toFinset :=
    fun a _ b hedge => List.mem_toFinset.mpr (hjoin a b hedge).2
  refine sweep_right (visit_right hclosed order.length)
    (fun node hnode => List.mem_toFinset.mpr hnode) ?_ ⟨Finset.Subset.refl _, ?_⟩ rfl
  · rw [Finset.sdiff_empty]
    exact List.toFinset_card_le order
  · exact fun v hv => absurd hv.1 (Finset.notMem_empty v)

/-- **The search always answers**: it stops at a cycle when there is one, and
comes to its end when there is none. -/
theorem search_spec (hjoin : ∀ a b, Edge successors a b → a ∈ order ∧ b ∈ order) :
    search order successors = .cycle ∧ Cyclic successors ∨
      ∃ marks, search order successors = .done marks ∧ ¬ Cyclic successors := by
  have hright := search_right hjoin
  rcases houtcome : search order successors with _ | _ | marks
  · rw [houtcome] at hright
    exact False.elim hright
  · rw [houtcome] at hright
    exact .inl ⟨rfl, hright⟩
  · rw [houtcome] at hright
    obtain ⟨hext, hgoals⟩ := hright
    refine .inr ⟨marks, rfl, ?_⟩
    rintro ⟨v, hcycle⟩
    obtain ⟨next, hedge, -⟩ := Relation.TransGen.head'_iff.mp hcycle
    exact (hext.sound.finished v (hgoals v (hjoin v next hedge).1)).not_transGen hcycle

/-! ## Topological orders -/

/-- Every edge goes forwards in the order. -/
def Topological (edge : V → V → Prop) (order : List V) : Prop :=
  ∀ a b, edge a b → order.idxOf a < order.idxOf b

theorem Topological.not_cyclic (h : Topological (Edge successors) order) : ¬ Cyclic successors := by
  rintro ⟨v, hcycle⟩
  have hforwards : ∀ w, Relation.TransGen (Edge successors) v w →
      order.idxOf v < order.idxOf w := by
    intro w hpath
    induction hpath with
    | single hedge => exact h _ _ hedge
    | tail _ hedge ih => exact ih.trans (h _ _ hedge)
  exact absurd (hforwards v hcycle) (lt_irrefl _)

omit [DecidableEq V] in
/-- Without a cycle, paths order the vertices. -/
theorem isPartialOrder_of_not_cyclic (h : ¬ Cyclic successors) :
    IsPartialOrder V (Relation.ReflTransGen (Edge successors)) where
  refl _ := .refl
  trans _ _ _ hab hbc := hab.trans hbc
  antisymm a b hab hba := by
    rcases Relation.reflTransGen_iff_eq_or_transGen.mp hab with rfl | hab
    · rfl
    · exact absurd ⟨a, hab.trans_left hba⟩ h

/-- **The vertices of a graph have a topological order when it has no cycle.** -/
theorem not_cyclic_iff_topological
    (hjoin : ∀ a b, Edge successors a b → a ∈ order ∧ b ∈ order) :
    ¬ Cyclic successors ↔ ∃ sorted : List V, sorted.Nodup ∧ (∀ v, v ∈ sorted ↔ v ∈ order) ∧
      Topological (Edge successors) sorted := by
  constructor
  · intro h
    classical
    have hpaths := isPartialOrder_of_not_cyclic h
    obtain ⟨le, hlinear, hle⟩ := extend_partialOrder (Relation.ReflTransGen (Edge successors))
    refine ⟨order.toFinset.sort le, Finset.sort_nodup _ _, fun v => by simp, fun a b hedge => ?_⟩
    have ha : a ∈ order.toFinset.sort le := by simpa using (hjoin a b hedge).1
    have hb : b ∈ order.toFinset.sort le := by simpa using (hjoin a b hedge).2
    have hne : a ≠ b := fun heq => h ⟨a, .single (heq ▸ hedge)⟩
    by_contra hnot
    have hlt : (order.toFinset.sort le).idxOf b < (order.toFinset.sort le).idxOf a := by
      refine lt_of_le_of_ne (not_lt.mp hnot) fun heq => hne ?_
      exact ((List.idxOf_inj ha).mp heq.symm)
    have hback : le b a := by
      have hpair := List.pairwise_iff_getElem.mp (Finset.pairwise_sort order.toFinset le)
        _ _ (List.idxOf_lt_length_iff.mpr hb) (List.idxOf_lt_length_iff.mpr ha) hlt
      simpa only [List.getElem_idxOf] using hpair
    exact hne (hlinear.antisymm a b (hle a b (.single hedge)) hback)
  · rintro ⟨sorted, -, -, htopological⟩
    exact htopological.not_cyclic

end DepthFirstSearch
