import Zest.SurfaceRenaming
import Zest.UrlNormalize

/-! # Which edges the hashes decide

Where the keys leave something to decide, some keys decide it one way and some
the other, so the graph cannot be the same under all of them.  Each case takes
keys that put one fact first or last.  With this, `attack_surface_determined`
says for which facts the graph is a matter of what the facts say.
-/
namespace Zest.Discovery

open LedgerFact (lastPart)

/-! ## Keys that put one fact first or last -/

/-- A character before a key. -/
def KeyText.prefixed (c : Char) (hc : Text.isSpace c = false) (key : KeyText) : KeyText where
  text := c :: key.text
  nonblank := List.cons_ne_nil _ _
  stripped := by
    refine Text.strip_eq_self (fun d hd => ?_) fun d hd => ?_
    · cases hd
      exact hc
    · refine Text.last_of_stripped key.stripped ?_
      rw [List.getLast?_cons, List.getLast?_eq_some_getLast key.nonblank] at hd
      rw [List.getLast?_eq_some_getLast key.nonblank]
      exact hd

theorem not_madeUp {c : Char} {rest : Text} (hi : c ≠ 'i') (hs : c ≠ 's') :
    ¬ MadeUp (c :: rest) := by
  rintro ⟨id, h | h⟩
  · exact hi (List.cons.inj h).1
  · exact hs (List.cons.inj h).1

/-- One key becomes `target`, which starts with a `b`, and any other key gets an
`a` in front; or the other way round. -/
def Renaming.place (chosen target : KeyText) (other : Char) (hother : other = 'a' ∨ other = 'b')
    (htarget : ∃ c rest, target.text = c :: rest ∧ (c = 'a' ∨ c = 'b') ∧ c ≠ other) : Renaming where
  toFun key := if key = chosen then target
    else key.prefixed other (by rcases hother with rfl | rfl <;> decide)
  injective := by
    obtain ⟨c, rest, htext, -, hne⟩ := htarget
    intro a b h
    dsimp only at h
    by_cases ha : a = chosen
    · by_cases hb : b = chosen
      · exact ha.trans hb.symm
      · rw [if_pos ha, if_neg hb] at h
        have hcons := (congrArg KeyText.text h).symm.trans htext
        exact absurd (List.cons.inj hcons).1.symm hne
    · by_cases hb : b = chosen
      · rw [if_neg ha, if_pos hb] at h
        have hcons := (congrArg KeyText.text h).trans htext
        exact absurd (List.cons.inj hcons).1.symm hne
      · rw [if_neg ha, if_neg hb] at h
        exact KeyText.eq_of_text (List.cons.inj (congrArg KeyText.text h)).2
  proper := by
    obtain ⟨c, rest, htext, hc, -⟩ := htarget
    intro key
    by_cases hkey : key = chosen
    · rw [if_pos hkey, htext]
      rcases hc with rfl | rfl <;> exact not_madeUp (by decide) (by decide)
    · rw [if_neg hkey]
      rcases hother with rfl | rfl <;> exact not_madeUp (by decide) (by decide)

/-- The renaming that makes one key the greatest. -/
def Renaming.greatest (chosen target : KeyText) (rest : Text) (htarget : target.text = 'b' :: rest) :
    Renaming :=
  Renaming.place chosen target 'a' (Or.inl rfl) ⟨'b', rest, htarget, Or.inr rfl, by decide⟩

theorem isSpace_a : Text.isSpace 'a' = false := by decide

/-- The renaming that makes one key the least. -/
def Renaming.least (chosen : KeyText) : Renaming :=
  Renaming.place chosen (chosen.prefixed 'a' isSpace_a) 'b' (Or.inr rfl)
    ⟨'a', chosen.text, rfl, Or.inl rfl, by decide⟩

theorem greatest_chosen {chosen target : KeyText} {rest : Text}
    {htarget : target.text = 'b' :: rest} :
    (Renaming.greatest chosen target rest htarget).toFun chosen = target := if_pos rfl

theorem lt_greatest {chosen target key : KeyText} {rest : Text}
    {htarget : target.text = 'b' :: rest} (hne : key ≠ chosen) :
    ((Renaming.greatest chosen target rest htarget).toFun key).text < target.text := by
  have hkey : ((Renaming.greatest chosen target rest htarget).toFun key).text = 'a' :: key.text :=
    congrArg KeyText.text (if_neg hne)
  rw [hkey, htarget]
  exact List.Lex.rel (by decide)

theorem least_lt {chosen key : KeyText} (hne : key ≠ chosen) :
    ((Renaming.least chosen).toFun chosen).text < ((Renaming.least chosen).toFun key).text := by
  have hchosen : ((Renaming.least chosen).toFun chosen).text = 'a' :: chosen.text :=
    congrArg KeyText.text (if_pos rfl)
  have hkey : ((Renaming.least chosen).toFun key).text = 'b' :: key.text :=
    congrArg KeyText.text (if_neg hne)
  rw [hchosen, hkey]
  exact List.Lex.rel (by decide)

/-! ## The ends of an edge -/

/-- The end that was looked for. -/
def foundEnd (edge : AttackSurfaceEdge) : Text :=
  if leadsOut edge.kind then edge.toNodeId else edge.fromNodeId

/-- The end that it was looked for from. -/
def nearEnd (edge : AttackSurfaceEdge) : Text :=
  if leadsOut edge.kind then edge.fromNodeId else edge.toNodeId

theorem ends_of_link {link : Link} (h : link.outward = leadsOut link.kind) (fact : LedgerFact)
    (found : Text) : foundEnd (link.edge fact found) = found ∧
      nearEnd (link.edge fact found) = link.near := by
  unfold foundEnd nearEnd Link.edge
  dsimp only
  rw [h]
  cases leadsOut link.kind <;> exact ⟨rfl, rfl⟩

theorem outward_of_wire (wire : Wire) : wire.outward = leadsOut wire.edgeKind := by
  cases wire <;> rfl

/-- The last of the facts under a lookup is found. -/
theorem get_of_greatest {facts : List LedgerFact} (hkeys : DistinctKeys facts) {x : Lookup}
    {fact : LedgerFact} (hfact : fact ∈ facts) (hlookup : fact.lookup = some x)
    (hgreatest : ∀ other ∈ facts, other.lookup = some x → other.key ≤ fact.key) :
    (indexOf (byKey facts)).get x = some fact.key := by
  have hfilter : fact ∈ (byKey facts).filter fun other => other.lookup = some x :=
    List.mem_filter.mpr ⟨mem_byKey.mpr hfact, by simpa using hlookup⟩
  have hsorted := (byKey_sorted hkeys).filter fun other => decide (other.lookup = some x)
  rw [get_indexOf]
  generalize hlist : (byKey facts).filter (fun other => decide (other.lookup = some x)) = list
    at hfilter hsorted ⊢
  have hall : ∀ other ∈ list, other.key ≤ fact.key := by
    rintro other hother
    rw [← hlist, List.mem_filter] at hother
    exact hgreatest other (mem_byKey.mp hother.1) (by simpa using hother.2)
  rcases List.eq_nil_or_concat' list with rfl | ⟨before, last, rfl⟩
  · cases hfilter
  rw [List.getLast?_append, List.getLast?_singleton]
  show some last.key = some fact.key
  rcases List.mem_append.mp hfilter with hbefore | hlast
  · have hlt := (List.pairwise_append.mp hsorted).2.2 fact hbefore last List.mem_cons_self
    exact absurd (hall last (List.mem_append_right _ List.mem_cons_self)) (not_le_of_gt hlt)
  · rw [List.mem_singleton.mp hlast]

/-! ## Edges under other keys -/

section Keys

variable {L : UrlCodecs} {input : SurfaceInput}

/-- The kinds of the edges of the later passes. -/
def laterKinds : List AttackSurfaceEdgeKind := .transitionsTo :: .variantOf :: sensorKinds

/-- An edge of the second pass. -/
theorem sensor_of_made {edge : AttackSurfaceEdge} (hkind : edge.kind ∈ sensorKinds)
    (h : edge ∈ madeEdges L input) : ∃ fact ∈ input.facts, ∃ link ∈ fact.sensors L, ∃ found,
      (indexOf (byKey input.facts)).get link.lookup = some found ∧ link.edge fact found = edge := by
  rcases mem_madeEdges.mp h with h | h | h
  · rcases mem_factEdges.mp h with ⟨fact, -, rfl⟩ | ⟨fact, -, h⟩ | ⟨fact, hfact, h⟩
    · exact absurd hkind (show AttackSurfaceEdgeKind.observedUnder ∉ sensorKinds by decide)
    · obtain ⟨link, hlink, found, -, rfl⟩ := mem_resolve.mp h
      obtain ⟨wire, -, -, hwire, -⟩ := wire_of_link hlink
      rw [show (link.edge fact found).kind = wire.edgeKind from hwire] at hkind
      exact absurd hkind (by cases wire <;> decide)
    · exact ⟨fact, hfact, mem_resolve.mp h⟩
  · obtain ⟨fact, -, h⟩ := mem_transitionEdges.mp h
    obtain ⟨link, hlink, found, -, rfl⟩ := mem_resolve.mp h
    obtain ⟨-, preId, -, preKey, -, rfl⟩ := mem_transitionLinks.mp hlink
    exact absurd hkind (show AttackSurfaceEdgeKind.transitionsTo ∉ sensorKinds by decide)
  · obtain ⟨inference, -, h⟩ := mem_inferenceEdges.mp h
    rcases mem_inference_edges h with ⟨-, path, -, origin, pathId, -, rfl⟩ | ⟨-, rfl⟩
    · exact absurd hkind (show AttackSurfaceEdgeKind.variantOf ∉ sensorKinds by decide)
    · exact absurd hkind (show AttackSurfaceEdgeKind.sameAs ∉ sensorKinds by decide)

/-- The far end of an edge of a later pass is what some lookup finds. -/
theorem found_of_later {edge : AttackSurfaceEdge} (hkind : edge.kind ∈ laterKinds)
    (h : edge ∈ madeEdges L input) :
    ∃ x, (indexOf (byKey input.facts)).get x = some (foundEnd edge) := by
  by_cases hsensor : edge.kind ∈ sensorKinds
  · obtain ⟨fact, -, link, hlink, found, hfound, rfl⟩ := sensor_of_made hsensor h
    rw [(ends_of_link (near_of_sensor hlink).2.2 fact found).1]
    exact ⟨_, hfound⟩
  · rcases mem_madeEdges.mp h with h | h | h
    · rcases mem_factEdges.mp h with ⟨fact, -, rfl⟩ | ⟨fact, -, h⟩ | ⟨fact, -, h⟩
      · exact absurd hkind (show AttackSurfaceEdgeKind.observedUnder ∉ laterKinds by decide)
      · obtain ⟨link, hlink, found, -, rfl⟩ := mem_resolve.mp h
        obtain ⟨wire, -, -, hwire, -⟩ := wire_of_link hlink
        rw [show (link.edge fact found).kind = wire.edgeKind from hwire] at hkind
        exact absurd hkind (by cases wire <;> decide)
      · obtain ⟨link, hlink, found, -, rfl⟩ := mem_resolve.mp h
        exact absurd (near_of_sensor hlink).1 hsensor
    · obtain ⟨fact, -, h⟩ := mem_transitionEdges.mp h
      obtain ⟨link, hlink, found, hfound, rfl⟩ := mem_resolve.mp h
      obtain ⟨-, preId, -, preKey, -, rfl⟩ := mem_transitionLinks.mp hlink
      exact ⟨_, hfound⟩
    · obtain ⟨inference, -, h⟩ := mem_inferenceEdges.mp h
      rcases mem_inference_edges h with ⟨-, path, -, origin, pathId, hentry, rfl⟩ | ⟨-, rfl⟩
      · exact ⟨_, mem_indexOf.mp hentry⟩
      · exact absurd hkind (show AttackSurfaceEdgeKind.sameAs ∉ laterKinds by decide)

/-- The edges are the same under other keys, of those that the rebuild makes. -/
theorem made_perm (hkeys : DistinctKeys input.facts)
    (h : RenamingInvariant L input (graphOf (nodeTable input) (allEdges L input)))
    (rename : Renaming) :
    ((madeEdges L (input.rekey rename)).map (AttackSurfaceEdge.between id)).Perm
      ((madeEdges L input).map (AttackSurfaceEdge.between (input.renamed rename))) := by
  obtain ⟨other, hother, -, hedges⟩ := h rename
  obtain ⟨-, rfl⟩ := (rebuild_eq_ok (distinct_rekey hkeys)).mp hother
  have hperm := ((List.perm_insertionSort _ _).map _).symm.trans
    (hedges.trans ((List.perm_insertionSort _ _).map _))
  unfold allEdges at hperm
  rw [List.map_append, List.map_append, workflow_rekey] at hperm
  exact (List.perm_append_right_iff _).mp hperm

/-- An edge under other names. -/
structure Renamed (name : Text → Text) (edge other : AttackSurfaceEdge) : Prop where
  kind : other.kind = edge.kind
  found : foundEnd other = name (foundEnd edge)
  near : nearEnd other = name (nearEnd edge)

theorem renamed_of_between {name : Text → Text} {edge other : AttackSurfaceEdge}
    (h : other.between id = edge.between name) : Renamed name edge other := by
  obtain ⟨-, hkind, hfrom, hto, -⟩ := AttackSurfaceEdge.mk.inj h
  have hfrom : other.fromNodeId = name edge.fromNodeId := hfrom
  have hto : other.toNodeId = name edge.toNodeId := hto
  refine ⟨hkind, ?_, ?_⟩
  · unfold foundEnd
    rw [hkind, hfrom, hto]
    split <;> rfl
  · unfold nearEnd
    rw [hkind, hfrom, hto]
    split <;> rfl

section Invariant

variable (hkeys : DistinctKeys input.facts)
  (h : RenamingInvariant L input (graphOf (nodeTable input) (allEdges L input)))
include hkeys h

theorem made_of_rekeyed {rename : Renaming} {other : AttackSurfaceEdge}
    (hother : other ∈ madeEdges L (input.rekey rename)) :
    ∃ edge ∈ madeEdges L input, Renamed (input.renamed rename) edge other := by
  have hmem := (made_perm hkeys h rename).mem_iff.mp
    (List.mem_map_of_mem (f := AttackSurfaceEdge.between id) hother)
  obtain ⟨edge, hedge, heq⟩ := List.mem_map.mp hmem
  exact ⟨edge, hedge, renamed_of_between heq.symm⟩

theorem rekeyed_of_made (rename : Renaming) {edge : AttackSurfaceEdge}
    (hedge : edge ∈ madeEdges L input) :
    ∃ other ∈ madeEdges L (input.rekey rename), Renamed (input.renamed rename) edge other := by
  have hmem := (made_perm hkeys h rename).mem_iff.mpr
    (List.mem_map_of_mem (f := AttackSurfaceEdge.between (input.renamed rename)) hedge)
  obtain ⟨other, hother, heq⟩ := List.mem_map.mp hmem
  exact ⟨other, hother, renamed_of_between heq⟩

end Invariant

theorem ends_mem_nodeNames {edge : AttackSurfaceEdge} (h : edge ∈ madeEdges L input) :
    foundEnd edge ∈ nodeNames input ∧ nearEnd edge ∈ nodeNames input := by
  obtain ⟨hfrom, hto⟩ := made_ends h
  unfold foundEnd nearEnd
  cases leadsOut edge.kind
  · exact ⟨hfrom, hto⟩
  · exact ⟨hto, hfrom⟩

/-- An end that became the key of a fact was the key of the fact. -/
theorem end_eq_key {rename : Renaming} {name : Text} {fact : LedgerFact}
    (hname : name ∈ nodeNames input) (h : (fact.rekey rename).key = input.renamed rename name) :
    name = fact.key := eq_key_of_renamed hname h.symm

/-! ## What the keys decide -/

theorem exists_of_forall₂ {α β : Type} {r : α → β → Prop} {items : List α} {others : List β}
    (h : List.Forall₂ r items others) :
    (∀ item ∈ items, ∃ other ∈ others, r item other) ∧
      ∀ other ∈ others, ∃ item ∈ items, r item other := by
  induction h with
  | nil => exact ⟨fun _ h => (by cases h), fun _ h => (by cases h)⟩
  | cons hhead _ ih =>
    refine ⟨List.forall_mem_cons.mpr ⟨⟨_, List.mem_cons_self, hhead⟩, fun item hitem => ?_⟩,
      List.forall_mem_cons.mpr ⟨⟨_, List.mem_cons_self, hhead⟩, fun other hother => ?_⟩⟩
    · obtain ⟨other, hother, hr⟩ := ih.1 item hitem
      exact ⟨other, List.mem_cons_of_mem _ hother, hr⟩
    · obtain ⟨item, hitem, hr⟩ := ih.2 other hother
      exact ⟨item, List.mem_cons_of_mem _ hitem, hr⟩

/-- An edge of the second pass under other keys, with the fact that it finds. -/
theorem sensor_edge_rekey {rename : Renaming} {fact target : LedgerFact}
    (hfact : fact ∈ input.facts) {link : Link}
    (hlink : link ∈ (fact.rekey rename).sensors L)
    (hfound : (indexOf (byKey (input.rekey rename).facts)).get link.lookup =
      some (target.rekey rename).key) :
    ∃ edge ∈ madeEdges L (input.rekey rename), edge.kind = link.kind ∧
      foundEnd edge = (target.rekey rename).key ∧ nearEnd edge = (fact.rekey rename).key := by
  obtain ⟨hkind, hnear, hout⟩ := near_of_sensor hlink
  obtain ⟨hfoundEnd, hnearEnd⟩ := ends_of_link hout (fact.rekey rename) (target.rekey rename).key
  refine ⟨_, mem_madeEdges.mpr (Or.inl (mem_factEdges.mpr (Or.inr (Or.inr
    ⟨fact.rekey rename, List.mem_map_of_mem hfact,
      mem_resolve.mpr ⟨link, hlink, _, hfound, rfl⟩⟩)))), rfl, hfoundEnd, hnearEnd.trans hnear⟩

/-- A fact whose key was made the greatest is what is found where it can be. -/
theorem get_greatest (hkeys : DistinctKeys input.facts) {fact : LedgerFact}
    (hfact : fact ∈ input.facts) {target : KeyText} {rest : Text}
    (htarget : target.text = 'b' :: rest) {x : Lookup}
    (hlookup : (fact.rekey (.greatest fact.canonicalKey target rest htarget)).lookup = some x) :
    (indexOf (byKey (input.rekey (.greatest fact.canonicalKey target rest htarget)).facts)).get x =
      some (fact.rekey (.greatest fact.canonicalKey target rest htarget)).key := by
  refine get_of_greatest (distinct_rekey hkeys) (List.mem_map_of_mem hfact) hlookup ?_
  intro other hother _
  obtain ⟨source, hsource, rfl⟩ := List.mem_map.mp hother
  by_cases hsame : source.canonicalKey = fact.canonicalKey
  · rw [hkeys.eq hsource hfact (congrArg KeyText.text hsame)]
  · refine le_of_lt ?_
    show ((Renaming.greatest fact.canonicalKey target rest htarget).toFun source.canonicalKey).text <
      ((Renaming.greatest fact.canonicalKey target rest htarget).toFun fact.canonicalKey).text
    rw [greatest_chosen]
    exact lt_greatest hsame

/-- A host name is looked up for a certificate or a service. -/
theorem fact_of_looked_host {host : Text} (hlooked : LookedUp L input (.hostname host)) :
    ∃ fact ∈ input.facts, fact.factKind ≠ .hostname ∧
      ∃ link ∈ fact.sensors L, link.lookup = .hostname host := by
  rcases hlooked with ⟨fact, hfact, link, hlink, hlookup⟩ | ⟨fact, -, link, hlink, hlookup⟩ |
    ⟨inference, -, -, path, -, origin, hlookup⟩
  · refine ⟨fact, hfact, fun hkind => ?_, link, hlink, hlookup⟩
    unfold LedgerFact.sensors LedgerFact.sensorLinks at hlink
    rw [hkind] at hlink
    dsimp only at hlink
    split at hlink
    · cases hlink
    · rw [List.mem_singleton.mp hlink] at hlookup
      cases hlookup
  · obtain ⟨-, preId, -, preKey, -, rfl⟩ := mem_transitionLinks.mp hlink
    cases hlookup
  · cases hlookup

/-- Host names that are asked for are no longer than some number. -/
theorem exists_length_bound (links : List Link) :
    ∃ n, ∀ link ∈ links, ∀ host, link.lookup = .hostname host → host.length ≤ n := by
  induction links with
  | nil => exact ⟨0, fun _ h => (by cases h)⟩
  | cons link rest ih =>
    obtain ⟨n, hn⟩ := ih
    refine ⟨n + (match link.lookup with | .hostname host => host.length | _ => 0),
      List.forall_mem_cons.mpr ⟨fun host hlookup => ?_, fun other hother host hlookup => ?_⟩⟩
    · rw [hlookup]
      exact Nat.le_add_left _ _
    · exact (hn other hother host hlookup).trans (Nat.le_add_right _ _)

section Necessary

variable (hkeys : DistinctKeys input.facts)
  (h : RenamingInvariant L input (graphOf (nodeTable input) (allEdges L input)))
include hkeys h

/-- **No fact can be joined** in the first pass: whether it is would be up to its key. -/
theorem unjoined_of_invariant : ∀ wire : Wire, ∀ parent ∈ input.facts, ∀ child ∈ input.facts,
    wire.Joins parent child → ¬ wire.Ready child := by
  intro wire parent hparent child hchild hjoins hready
  have hne : parent.canonicalKey ≠ child.canonicalKey := by
    intro heq
    cases hkeys.eq hparent hchild (congrArg KeyText.text heq)
    have hkinds := hjoins.parent_kind.symm.trans hjoins.child_kind
    cases wire <;> cases hkinds
  -- With the greatest key the child is joined to a parent.
  obtain ⟨edge, hedge, hkind, hnear⟩ : ∃ edge ∈ madeEdges L input,
      edge.kind = wire.edgeKind ∧ nearEnd edge = child.key := by
    obtain ⟨target, rest, htarget⟩ : ∃ (target : KeyText) (rest : Text), target.text = 'b' :: rest :=
      ⟨child.canonicalKey.prefixed 'b' (by decide), _, rfl⟩
    let rename := Renaming.greatest child.canonicalKey target rest htarget
    have hlt : (parent.rekey rename).key ≤ (child.rekey rename).key := by
      refine le_of_lt ?_
      show (rename.toFun parent.canonicalKey).text < (rename.toFun child.canonicalKey).text
      rw [show rename.toFun child.canonicalKey = target from greatest_chosen]
      exact lt_greatest hne
    have hjoined : wire.Joins (parent.rekey rename) (child.rekey rename) := rekey_joins.mpr hjoins
    obtain ⟨link, hlink, hlookup⟩ := link_of_joins hjoined hready
    obtain ⟨found, hfound⟩ := get_of_fact
      (mem_upTo.mpr ⟨List.mem_map_of_mem hparent, hlt⟩) hlookup
    obtain ⟨wire', hwireKind, -, hlinkKind, hlinkNear, hout, -⟩ := wire_of_link hlink
    cases Wire.childKind_injective (hwireKind.symm.trans hjoins.child_kind)
    have hends := ends_of_link (hout.trans (hlinkKind ▸ outward_of_wire _))
      (child.rekey rename) found
    have hmade : link.edge (child.rekey rename) found ∈ madeEdges L (input.rekey rename) :=
      mem_madeEdges.mpr (Or.inl (mem_factEdges.mpr (Or.inr (Or.inl
        ⟨child.rekey rename, List.mem_map_of_mem hchild,
          mem_resolve.mpr ⟨link, hlink, found, hfound, rfl⟩⟩))))
    obtain ⟨edge, hedge, hrenamed⟩ := made_of_rekeyed hkeys h hmade
    refine ⟨edge, hedge, hrenamed.kind.symm.trans hlinkKind, ?_⟩
    exact @end_eq_key input rename _ _ (ends_mem_nodeNames hedge).2
      ((hends.2.trans hlinkNear).symm.trans hrenamed.near)
  -- With the least key it is joined to none.
  let rename := Renaming.least child.canonicalKey
  obtain ⟨other, hother, hrenamed⟩ := rekeyed_of_made hkeys h rename hedge
  have hotherNear : nearEnd other = (child.rekey rename).key := by
    rw [hrenamed.near, hnear]
    exact renamed_fact hchild
  have hotherKind : other.kind = wire.edgeKind := hrenamed.kind.trans hkind
  obtain ⟨fact, hfact, hresolve⟩ := link_of_wire hotherKind hother
  obtain ⟨link, hlink, found, hfound, rfl⟩ := mem_resolve.mp hresolve
  obtain ⟨wire', hwireKind, -, hlinkKind, hlinkNear, hout, hjoin⟩ := wire_of_link hlink
  have hends := ends_of_link (hout.trans (hlinkKind ▸ outward_of_wire _)) fact found
  have hsame : fact = child.rekey rename :=
    (distinct_rekey hkeys).eq hfact (List.mem_map_of_mem hchild)
      (hlinkNear.symm.trans (hends.2.symm.trans hotherNear))
  subst hsame
  obtain ⟨found, hfoundFact, hlookup, rfl⟩ := fact_of_get hfound
  obtain ⟨hmem, hle⟩ := mem_upTo.mp hfoundFact
  obtain ⟨source, hsource, rfl⟩ := List.mem_map.mp hmem
  by_cases hsourceKey : source.canonicalKey = child.canonicalKey
  · cases hkeys.eq hsource hchild (congrArg KeyText.text hsourceKey)
    have hboth := hjoin _ hlookup
    have hkinds := hboth.parent_kind.symm.trans hboth.child_kind
    cases wire' <;> cases hkinds
  · exact absurd hle (not_le_of_gt (least_lt hsourceKey))

/-- **No key is the name** of an identity or a session: under other keys it would
be another node. -/
theorem apart_of_invariant : ∀ key ∈ input.keys, ∀ fact ∈ input.facts,
    key.text ≠ identityKey fact.identityId ∧
      ∀ id, fact.sessionContextId = some id → key.text ≠ sessionKey id := by
  intro key hkey fact hfact
  have hnot : ∀ name, MadeUp name → name ∈ nodeNames (input.rekey (.least key)) →
      key.text ≠ name := by
    rintro name hmade hname rfl
    obtain ⟨graph, hgraph, hnodes, -⟩ := h (.least key)
    obtain ⟨-, rfl⟩ := (rebuild_eq_ok (distinct_rekey hkeys)).mp hgraph
    obtain ⟨node, hnode, hid⟩ := exists_node_iff.mpr hname
    obtain ⟨source, hsource, hsame⟩ := List.mem_map.mp (hnodes.mem_iff.mp hnode)
    have hrenamed : input.renamed (.least key) source.nodeId = key.text :=
      (congrArg AttackSurfaceNode.nodeId hsame).trans hid
    by_cases hsourceKey : ∃ other ∈ input.keys, other.text = source.nodeId
    · obtain ⟨other, hother, heq⟩ := hsourceKey
      rw [← heq, renamed_key hother] at hrenamed
      exact (Renaming.least key).proper other (hrenamed ▸ hmade)
    · rw [renamed_other fun other hother heq => hsourceKey ⟨other, hother, heq⟩] at hrenamed
      exact hsourceKey ⟨key, hkey, hrenamed.symm⟩
  have hname : ∀ name, name ∈ identityKey fact.identityId ::
      (fact.sessionContextId.map sessionKey).toList →
        name ∈ nodeNames (input.rekey (.least key)) := fun name hname =>
    List.mem_append_left _ (List.mem_flatMap.mpr ⟨fact.rekey (.least key),
      List.mem_map_of_mem hfact, List.mem_cons_of_mem _ hname⟩)
  refine ⟨hnot _ ⟨_, Or.inl rfl⟩ (hname _ List.mem_cons_self), fun id hid => ?_⟩
  refine hnot _ ⟨id, Or.inr rfl⟩ (hname _ (List.mem_cons_of_mem _ ?_))
  rw [hid]
  exact List.mem_cons_self

/-- Where a host name is read off a key, an origin for it to lead to would be
found or not. -/
theorem originless_of_invariant {fact : LedgerFact} (hfact : fact ∈ input.facts)
    (hkind : fact.factKind = .hostname)
    (hnone : hostnameFromAttributes fact.attributes = none) :
    ∀ origin ∈ input.facts,
      origin.lookup ≠ some (.origin (fact.normalizedOrigin.getD [])) := by
  intro origin horigin hlookup
  have hhost : ∀ rename : Renaming,
      (fact.rekey rename).hostname = lastPart (rename.toFun fact.canonicalKey).text := by
    intro rename
    show (hostnameFromAttributes fact.attributes).getD _ = _
    rw [hnone]
    rfl
  have hsensors : ∀ rename : Renaming, (fact.rekey rename).sensors L =
      if lastPart (rename.toFun fact.canonicalKey).text = [] then []
      else [(fact.rekey rename).outward .resolvesTo ":resolves:"
        (.origin (fact.normalizedOrigin.getD [])) .untrustedExternal] := by
    intro rename
    unfold LedgerFact.sensors LedgerFact.sensorLinks
    rw [show (fact.rekey rename).factKind = .hostname from hkind]
    dsimp only
    rw [hhost]
    rfl
  -- Under a key with a last part there is an edge.
  obtain ⟨edge, hedge, hedgeKind, hnear⟩ : ∃ edge ∈ madeEdges L input,
      edge.kind = .resolvesTo ∧ nearEnd edge = fact.key := by
    let rename := Renaming.greatest fact.canonicalKey ⟨"b".toList, by decide, by decide⟩ [] rfl
    have htarget : (rename.toFun fact.canonicalKey).text = "b".toList :=
      congrArg KeyText.text greatest_chosen
    have hlinks := hsensors rename
    rw [htarget, if_neg (by decide)] at hlinks
    have horiginKind : origin.factKind ≠ .hostname := by
      rw [(LedgerFact.lookup_eq_origin.mp hlookup).1]
      decide
    have hfoundable : (origin.rekey rename).lookup =
        some (.origin (fact.normalizedOrigin.getD [])) := (rekey_lookup horiginKind).trans hlookup
    obtain ⟨found, hfound⟩ := get_of_fact
      (mem_byKey.mpr (List.mem_map_of_mem (f := LedgerFact.rekey rename) horigin)) hfoundable
    obtain ⟨target, htargetMem, -, rfl⟩ := fact_of_get hfound
    obtain ⟨source, hsource, rfl⟩ := List.mem_map.mp (mem_byKey.mp htargetMem)
    obtain ⟨link, hlink, hlinkKind, hlinkLookup⟩ : ∃ link ∈ (fact.rekey rename).sensors L,
        link.kind = .resolvesTo ∧ link.lookup = .origin (fact.normalizedOrigin.getD []) := by
      rw [hlinks]
      exact ⟨_, List.mem_singleton_self _, rfl, rfl⟩
    rw [← hlinkLookup] at hfound
    obtain ⟨other, hother, hotherKind, -, hotherNear⟩ :=
      @sensor_edge_rekey L input rename fact source hfact link hlink hfound
    obtain ⟨edge, hedge, hrenamed⟩ := made_of_rekeyed hkeys h hother
    exact ⟨edge, hedge, hrenamed.kind.symm.trans (hotherKind.trans hlinkKind),
      end_eq_key (ends_mem_nodeNames hedge).2 (hotherNear.symm.trans hrenamed.near)⟩
  -- Under a key without one there is none.
  let rename := Renaming.greatest fact.canonicalKey ⟨"b:".toList, by decide, by decide⟩ [':'] rfl
  have htarget : (rename.toFun fact.canonicalKey).text = "b:".toList :=
    congrArg KeyText.text greatest_chosen
  have hlinks := hsensors rename
  rw [htarget, if_pos (by decide)] at hlinks
  obtain ⟨other, hother, hrenamed⟩ := rekeyed_of_made hkeys h rename hedge
  have hotherKind : other.kind ∈ sensorKinds := by
    rw [hrenamed.kind, hedgeKind]
    decide
  obtain ⟨source, hsource, link, hlink, found, hfound, rfl⟩ := sensor_of_made hotherKind hother
  obtain ⟨-, hlinkNear, hout⟩ := near_of_sensor hlink
  have hsame : source = fact.rekey rename := by
    refine (distinct_rekey hkeys).eq hsource (List.mem_map_of_mem hfact) ?_
    rw [← hlinkNear, ← (ends_of_link hout source found).2, hrenamed.near, hnear]
    exact renamed_fact hfact
  subst hsame
  rw [hlinks] at hlink
  cases hlink

/-- Where a host name is read off a key, it could be any that a key can end in. -/
theorem hostless_of_invariant {fact : LedgerFact} (hfact : fact ∈ input.facts)
    (hkind : fact.factKind = .hostname)
    (hnone : hostnameFromAttributes fact.attributes = none) :
    ∀ host, LookedUp L input (.hostname host) → ¬ EndsKey host := by
  intro host hlooked hends
  obtain ⟨asking, hasking, hnotHost, link, hlink, hlookup⟩ := fact_of_looked_host hlooked
  have hdeclared : asking.factKind = .hostname →
      ∃ host, hostnameFromAttributes asking.attributes = some host := fun hhost =>
    absurd hhost hnotHost
  have hfactLookup : ∀ (rename : Renaming) (host : Text), host ≠ [] →
      lastPart (rename.toFun fact.canonicalKey).text = host →
      (fact.rekey rename).lookup = some (.hostname host) := by
    intro rename host hne hlast
    refine LedgerFact.lookup_eq_hostname.mpr ⟨hkind, ?_, hne⟩
    show (hostnameFromAttributes fact.attributes).getD _ = _
    rw [hnone]
    exact hlast
  -- With a key that ends in the host, the fact is found.
  obtain ⟨edge, hedge, hedgeKind, hedgeFound, hedgeNear⟩ : ∃ edge ∈ madeEdges L input,
      edge.kind ∈ sensorKinds ∧ foundEnd edge = fact.key ∧ nearEnd edge = asking.key := by
    let target : KeyText := ⟨"b".toList ++ ':' :: host, List.cons_ne_nil _ _, by
      refine Text.strip_eq_self (fun c hc => ?_) fun c hc => ?_
      · cases hc
        decide
      · refine hends.stripped c ?_
        rw [List.getLast?_append, List.getLast?_cons,
          List.getLast?_eq_some_getLast hends.nonempty] at hc
        rw [List.getLast?_eq_some_getLast hends.nonempty]
        exact hc⟩
    let rename := Renaming.greatest fact.canonicalKey target (':' :: host) rfl
    have hfound := get_greatest hkeys hfact (x := .hostname host) rfl
      (hfactLookup rename host hends.nonempty (by
        rw [show rename.toFun fact.canonicalKey = target from greatest_chosen]
        exact lastPart_append hends.one))
    obtain ⟨other, hother, hsame⟩ :=
      (exists_of_forall₂ (@sensors_same L input rename asking hasking hdeclared)).1 link hlink
    rw [← hlookup, ← hsame.lookup] at hfound
    obtain ⟨made, hmade, hmadeKind, hmadeFound, hmadeNear⟩ :=
      sensor_edge_rekey hasking hother hfound
    obtain ⟨edge, hedge, hrenamed⟩ := made_of_rekeyed hkeys h hmade
    refine ⟨edge, hedge, ?_, end_eq_key (ends_mem_nodeNames hedge).1
      (hmadeFound.symm.trans hrenamed.found), end_eq_key (ends_mem_nodeNames hedge).2
        (hmadeNear.symm.trans hrenamed.near)⟩
    rw [← hrenamed.kind, hmadeKind]
    exact (near_of_sensor hother).1
  -- With a key that ends in nothing that is asked for, it is not.
  obtain ⟨n, hn⟩ : ∃ n, ∀ link ∈ asking.sensors L, ∀ host, link.lookup = .hostname host →
      host.length ≤ n := exists_length_bound _
  let target : KeyText := ⟨'b' :: List.replicate n 'x', List.cons_ne_nil _ _, by
    refine Text.strip_eq_self (fun c hc => ?_) fun c hc => ?_
    · cases hc
      decide
    · have hmem := List.mem_of_getLast? hc
      rcases List.mem_cons.mp hmem with rfl | hmem
      · decide
      · rw [List.eq_of_mem_replicate hmem]
        decide⟩
  let rename := Renaming.greatest fact.canonicalKey target (List.replicate n 'x') rfl
  obtain ⟨other, hother, hrenamed⟩ := rekeyed_of_made hkeys h rename hedge
  obtain ⟨source, hsource, otherLink, hotherLink, found, hfound, rfl⟩ :=
    sensor_of_made (hrenamed.kind ▸ hedgeKind) hother
  obtain ⟨-, hlinkNear, hout⟩ := near_of_sensor hotherLink
  have hendsOf := ends_of_link hout source found
  have hsourceEq : source = asking.rekey rename := by
    refine (distinct_rekey hkeys).eq hsource (List.mem_map_of_mem hasking) ?_
    rw [← hlinkNear, ← hendsOf.2, hrenamed.near, hedgeNear]
    exact renamed_fact hasking
  subst hsourceEq
  have hfoundEq : found = (fact.rekey rename).key := by
    rw [← hendsOf.1, hrenamed.found, hedgeFound]
    exact renamed_fact hfact
  obtain ⟨hit, hhit, hhitLookup, hhitKey⟩ := fact_of_get hfound
  have hhitEq : hit = fact.rekey rename :=
    (distinct_rekey hkeys).eq (mem_byKey.mp hhit) (List.mem_map_of_mem hfact)
      (hhitKey.trans hfoundEq)
  subst hhitEq
  have hno : ':' ∉ target.text := by
    intro hmem
    rcases List.mem_cons.mp hmem with hb | hx
    · exact absurd hb (by decide)
    · exact absurd (List.eq_of_mem_replicate hx) (by decide)
  have htargetLookup := hfactLookup rename target.text target.nonblank (by
    rw [show rename.toFun fact.canonicalKey = target from greatest_chosen]
    exact lastPart_of_not_mem hno)
  obtain ⟨original, horiginal, hsame⟩ :=
    (exists_of_forall₂ (@sensors_same L input rename asking hasking hdeclared)).2 otherLink hotherLink
  have hlong := hn original horiginal target.text
    (hsame.lookup.symm.trans (Option.some.inj (hhitLookup.symm.trans htargetLookup)))
  rw [show target.text.length = n + 1 by
    show ('b' :: List.replicate n 'x').length = n + 1
    rw [List.length_cons, List.length_replicate]] at hlong
  omega

/-- What a later pass looks up is the fact that it finds, for each fact there. -/
theorem found_of_looked {x : Lookup} (hlooked : LookedUp L input x) {fact : LedgerFact}
    (hfact : fact ∈ input.facts) (hlookup : fact.lookup = some x) :
    (indexOf (byKey input.facts)).get x = some fact.key := by
  let rename := Renaming.greatest fact.canonicalKey
    (fact.canonicalKey.prefixed 'b' (by decide)) fact.canonicalKey.text rfl
  -- The fact is found by the same under its other key.
  have hsameLookup : (fact.rekey rename).lookup = some x := by
    by_cases hkind : fact.factKind = .hostname
    · cases hhost : hostnameFromAttributes fact.attributes with
      | some host => rw [rekey_lookup_declared hkind hhost, hlookup]
      | none =>
        obtain ⟨host, rfl, hends⟩ := endsKey_of_lookup hkind hhost hlookup
        exact absurd hends (hostless_of_invariant hkeys h hfact hkind hhost host hlooked)
    · rw [rekey_lookup hkind, hlookup]
  have hfound := get_greatest hkeys hfact rfl hsameLookup
  -- So some edge leads to it, and this edge is there under the old keys.
  obtain ⟨edge, hedge, hedgeKind, hedgeFound⟩ : ∃ edge ∈ madeEdges L (input.rekey rename),
      edge.kind ∈ laterKinds ∧ foundEnd edge = (fact.rekey rename).key := by
    rcases hlooked with ⟨asking, hasking, link, hlink, rfl⟩ | ⟨asking, hasking, link, hlink, rfl⟩ |
      ⟨inference, hinference, hkind, path, hpath, origin, rfl⟩
    · have hdeclared : asking.factKind = .hostname →
          ∃ host, hostnameFromAttributes asking.attributes = some host := by
        intro hkind
        cases hhost : hostnameFromAttributes asking.attributes with
        | some host => exact ⟨host, rfl⟩
        | none =>
          refine absurd ?_ (originless_of_invariant hkeys h hasking hkind hhost fact hfact)
          rw [hlookup]
          unfold LedgerFact.sensors LedgerFact.sensorLinks at hlink
          rw [hkind] at hlink
          dsimp only at hlink
          split at hlink
          · cases hlink
          · rw [List.mem_singleton.mp hlink]
            rfl
      obtain ⟨other, hother, hsame⟩ :=
        (exists_of_forall₂ (@sensors_same L input rename asking hasking hdeclared)).1 link hlink
      rw [← hsame.lookup] at hfound
      obtain ⟨edge, hedge, hkind, hend, -⟩ := sensor_edge_rekey hasking hother hfound
      refine ⟨edge, hedge, ?_, hend⟩
      rw [hkind]
      exact List.mem_cons_of_mem _ (List.mem_cons_of_mem _ (near_of_sensor hother).1)
    · obtain ⟨other, hother, hsame⟩ :=
        (exists_of_forall₂ (@transitionLinks_same input rename asking)).1 link hlink
      rw [← hsame.lookup] at hfound
      refine ⟨other.edge (asking.rekey rename) (fact.rekey rename).key,
        mem_madeEdges.mpr (Or.inr (Or.inl (mem_transitionEdges.mpr
          ⟨asking.rekey rename, List.mem_map_of_mem hasking,
            mem_resolve.mpr ⟨other, hother, _, hfound, rfl⟩⟩))), ?_, ?_⟩
      · obtain ⟨-, preId, -, preKey, -, rfl⟩ := mem_transitionLinks.mp hother
        exact List.mem_cons_self
      · obtain ⟨-, preId, -, preKey, -, rfl⟩ := mem_transitionLinks.mp hother
        rfl
    · refine ⟨(inference.rekey rename).edge
          ((fact.rekey rename).key ++ ":variant:".toList ++ (inference.rekey rename).key)
          .variantOf (fact.rekey rename).key,
        mem_madeEdges.mpr (Or.inr (Or.inr (mem_inferenceEdges.mpr
          ⟨inference.rekey rename, List.mem_map_of_mem hinference, ?_⟩))),
        List.mem_cons_of_mem _ List.mem_cons_self, rfl⟩
      unfold LedgerInference.edges
      rw [show (inference.rekey rename).inferenceKind = .routeTemplate from hkind]
      refine List.mem_flatMap.mpr ⟨path, hpath, List.mem_map.mpr
        ⟨(.path origin path, (fact.rekey rename).key), List.mem_filter.mpr
          ⟨mem_indexOf.mpr hfound, ?_⟩, rfl⟩⟩
      simp [LedgerInference.isFor]
  obtain ⟨original, horiginal, hrenamed⟩ := made_of_rekeyed hkeys h hedge
  have hend : foundEnd original = fact.key :=
    @end_eq_key input rename _ _ (ends_mem_nodeNames horiginal).1
      (hedgeFound.symm.trans hrenamed.found)
  obtain ⟨y, hy⟩ := found_of_later (hrenamed.kind ▸ hedgeKind) horiginal
  rw [hend] at hy
  -- What that edge was found by is what the fact is found by.
  obtain ⟨hit, hhit, hhitLookup, hhitKey⟩ := fact_of_get hy
  cases hkeys.eq (mem_byKey.mp hhit) hfact hhitKey
  cases hhitLookup.symm.trans hlookup
  exact hy

/-- **Where the graph is the same** under any keys, they decide nothing. -/
theorem immaterial_of_invariant : KeysImmaterial L input where
  unjoined := unjoined_of_invariant hkeys h
  foundOnce := by
    intro x hlooked a ha b hb haLookup hbLookup
    have hboth := (found_of_looked hkeys h hlooked ha haLookup).symm.trans
      (found_of_looked hkeys h hlooked hb hbLookup)
    exact hkeys.eq ha hb (Option.some.inj hboth)
  hostless := fun _ hfact hkind hnone => ⟨originless_of_invariant hkeys h hfact hkind hnone,
    hostless_of_invariant hkeys h hfact hkind hnone⟩
  apart := apart_of_invariant hkeys h

end Necessary

end Keys

/-! ## Edges determined by what the facts say -/

/-- The rebuild goes through; every fact is joined to one that it belongs to;
neither the order of the facts nor their keys matter; and edges are between
nodes. -/
def DeterminedByContents (L : UrlCodecs) (input : SurfaceInput) : Prop :=
  ∃ graph, rebuildAttackSurfaceGraph L input = .ok graph ∧ Wired input.facts graph ∧
    OrderInvariant L input graph ∧ RenamingInvariant L input graph ∧ EndpointsPresent graph

/-- **Edges are determined by the facts** exactly where nothing is left for the
keys to decide: each fact that belongs to another has one with a smaller key,
and no other key could change that, which is to say that nothing belongs to
anything. -/
theorem attack_surface_determined (L : UrlCodecs) (input : SurfaceInput)
    (hkeys : DistinctKeys input.facts) :
    DeterminedByContents L input ↔
      Accepted L input ∧ ParentsFirst input.facts ∧ StatesNamedOnce input.facts ∧
        KeysImmaterial L input ∧ ∀ edge ∈ input.workflowEdges,
          edge.fromNodeId ∈ nodeNames input ∧ edge.toNodeId ∈ nodeNames input := by
  constructor
  · rintro ⟨graph, hgraph, hwired, horder, hrenaming, hends⟩
    obtain ⟨haccepted, rfl⟩ := (rebuild_eq_ok hkeys).mp hgraph
    exact ⟨haccepted, (wired_iff hkeys haccepted).mp hwired,
      (orderInvariant_iff hkeys haccepted).mp horder, immaterial_of_invariant hkeys hrenaming,
      endpoints_iff.mp hends⟩
  · rintro ⟨haccepted, hparents, honce, himm, hends⟩
    exact ⟨_, (rebuild_eq_ok hkeys).mpr ⟨haccepted, rfl⟩, (wired_iff hkeys haccepted).mpr hparents,
      (orderInvariant_iff hkeys haccepted).mpr honce,
      renamingInvariant_of_immaterial hkeys haccepted himm, endpoints_iff.mpr hends⟩

/-- What is said of `https://shop.example` by an observation of it. -/
def shopFields (kind : DiscoveryFactKind) (key : KeyText) (path : Option Text) :
    FactFields KeyText where
  factKind := kind
  canonicalKey := key
  epistemicStatus := .observed
  identityId := "ANONYMOUS".toList
  targetReference := "https://shop.example/".toList
  sessionContextId := none
  normalizedOrigin := some "https://shop.example".toList
  normalizedPath := path
  httpMethod := none
  attributes := []

/-- The origin, under the SHA-256 of `["ORIGIN","https://shop.example"]`. -/
def shopOrigin : LedgerFact where
  toFactFields := shopFields .origin
    ⟨"deddb16841f777d51f08bb658534a39a23b3b07b332fa51f37cc8cea53f0ca72".toList,
      by decide, by decide⟩ none
  valid := by decide
  stripped := by decide
  sources := [.observation "observation-1".toList]
  sources_nonempty := by decide
  factId := "fact-1".toList

/-- Its start page, under that of `["EXACT_PATH","https://shop.example","/"]`. -/
def shopPath : LedgerFact where
  toFactFields := shopFields .exactPath
    ⟨"6956ca3c7d9712c7fff76bd92d22f5e5de698d1169f4a7a255eee988247867b6".toList,
      by decide, by decide⟩ (some "/".toList)
  valid := by decide
  stripped := by decide
  sources := [.observation "observation-1".toList]
  sources_nonempty := by decide
  factId := "fact-2".toList

/-- An origin on its own is wired to nothing, under this key and under any other. -/
theorem attack_surface_determined_origin :
    DeterminedByContents asciiCodecs ⟨[shopOrigin], [], []⟩ := by
  refine (attack_surface_determined asciiCodecs ⟨[shopOrigin], [], []⟩ (by decide)).mpr
    ⟨⟨?_, ?_, ?_⟩, ?_, ?_, ⟨?_, ?_, ?_, ?_⟩, ?_⟩
  · rintro fact hfact
    cases List.mem_singleton.mp hfact
    exact ⟨.unknown, rfl⟩
  · rintro fact hfact
    cases List.mem_singleton.mp hfact
    exact ⟨[], rfl⟩
  · intro edge hedge
    cases hedge
  · rintro wire child hchild ⟨parent, -, hjoins⟩
    cases List.mem_singleton.mp hchild
    have hkind := hjoins.child_kind
    cases wire <;> cases hkind
  · intro transition htransition hkind
    cases List.mem_singleton.mp htransition
    cases hkind
  · intro wire parent _ child hchild hjoins
    cases List.mem_singleton.mp hchild
    have hkind := hjoins.child_kind
    cases wire <;> cases hkind
  · intro x _ a ha b hb _ _
    rw [List.mem_singleton.mp ha, List.mem_singleton.mp hb]
  · intro fact hfact hkind
    cases List.mem_singleton.mp hfact
    cases hkind
  · intro key hkey fact hfact
    cases List.mem_singleton.mp hkey
    cases List.mem_singleton.mp hfact
    exact ⟨by decide, fun id hid => (by cases hid)⟩
  · intro edge hedge
    cases hedge

/-- **The start page of a shop is in no origin**: its hash is smaller than that
of the origin, so it is visited first. -/
theorem shop_path_not_contained :
    DistinctKeys [shopOrigin, shopPath] ∧ Wire.contains.Joins shopOrigin shopPath ∧
      ∃ graph, rebuildAttackSurfaceGraph asciiCodecs ⟨[shopOrigin, shopPath], [], []⟩ = .ok graph ∧
        graph.edges.map AttackSurfaceEdge.kind = [.observedUnder, .observedUnder] ∧
        ¬ Wired [shopOrigin, shopPath] graph ∧
        ¬ DeterminedByContents asciiCodecs ⟨[shopOrigin, shopPath], [], []⟩ := by
  have hkeys : DistinctKeys [shopOrigin, shopPath] := by decide
  have hjoins : Wire.contains.Joins shopOrigin shopPath :=
    ⟨rfl, rfl, ⟨_, rfl, rfl⟩, fun h => (by cases h)⟩
  refine ⟨hkeys, hjoins, _, rfl, by decide, ?_⟩
  have hnot : ∀ graph, rebuildAttackSurfaceGraph asciiCodecs ⟨[shopOrigin, shopPath], [], []⟩ =
      .ok graph → ¬ Wired [shopOrigin, shopPath] graph := by
    intro graph hgraph hwired
    obtain ⟨haccepted, rfl⟩ := (rebuild_eq_ok hkeys).mp hgraph
    obtain ⟨-, parent, hparent, hparentJoins, hlt⟩ := (wired_iff hkeys haccepted).mp hwired
      .contains shopPath (by simp) ⟨shopOrigin, by simp, hjoins⟩
    rcases List.mem_cons.mp hparent with rfl | hparent
    · exact absurd hlt (by decide)
    · cases List.mem_singleton.mp hparent
      cases hparentJoins.parent_kind
  exact ⟨hnot _ rfl, fun ⟨graph, hgraph, hwired, _⟩ => hnot graph hgraph hwired⟩

end Zest.Discovery
