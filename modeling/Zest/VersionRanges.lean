import Zest.NdayAdvisories
import Zest.PaddedOrder
import Zest.SeparatorJoin

/-! # Ranges in the order of versions

A version is meant to be compared component by component, and components that
are not written count as zero.  The lane compares tuples that it has filled up to
three components, so `1.2.3` and `1.2.3.0` are one version and two tuples.

The advisories that are reported are meant to be those of the technology with a
range whose clauses the version all satisfies, in whatever order advisories,
ranges and clauses come.  A clause that cannot be read stands in the way: it is an
error if it is reached, and whether it is reached depends on the order.
-/
namespace Zest.Nday

open PaddedOrder (Same Below)
open ResearchSelection (Name)

/-! ## Tuples and versions -/

theorem tupleLt_iff {v w : List Nat} : tupleLt v w = true ↔ List.Lex (· < ·) v w := by
  induction v generalizing w with
  | nil =>
    cases w with
    | nil => simp [tupleLt]
    | cons y w => simp [tupleLt]
  | cons x v ih =>
    cases w with
    | nil => simp [tupleLt]
    | cons y w =>
      rw [tupleLt, Bool.or_eq_true, Bool.and_eq_true, decide_eq_true_iff, decide_eq_true_iff, ih]
      constructor
      · rintro (hlt | ⟨rfl, hrest⟩)
        · exact List.Lex.rel hlt
        · exact List.Lex.cons hrest
      · rintro (_ | hlt | hrest)
        · exact Or.inl hlt
        · exact Or.inr ⟨rfl, hrest⟩

/-- What an operator says of two versions. -/
def Comparison.Means (version bound : List Nat) : Comparison → Prop
  | .atLeast => ¬ Below (· < ·) 0 version bound
  | .above => Below (· < ·) 0 bound version
  | .atMost => ¬ Below (· < ·) 0 bound version
  | .below => Below (· < ·) 0 version bound
  | .equal => Same 0 version bound

/-- The tuples are compared as the versions are. -/
structure ComparedAs (version bound : List Nat) : Prop where
  lt_iff : tupleLt version bound = true ↔ Below (· < ·) 0 version bound
  gt_iff : tupleLt bound version = true ↔ Below (· < ·) 0 bound version
  eq_iff : version = bound ↔ Same 0 version bound

/-- **When tuples are compared as versions**: if they are not two spellings of one
version. -/
theorem comparedAs_iff {version bound : List Nat} :
    ComparedAs version bound ↔ (Same 0 version bound → version.length = bound.length) := by
  have hagree := @PaddedOrder.agree_iff Nat (· < ·) 0 _ Nat.eq_zero_or_pos version bound
  rw [← tupleLt_iff, ← tupleLt_iff] at hagree
  rw [← hagree]
  constructor
  · rintro ⟨hlt, hgt, heq⟩
    exact ⟨hlt, hgt, heq⟩
  · rintro ⟨hlt, hgt, heq⟩
    exact ⟨hlt, hgt, heq⟩

theorem Comparison.holds_iff {version bound : List Nat} (h : ComparedAs version bound)
    (comparison : Comparison) :
    comparison.holds version bound = true ↔ comparison.Means version bound := by
  cases comparison with
  | atLeast => rw [holds, Means, ← h.lt_iff, Bool.not_eq_true', Bool.not_eq_true]
  | above => rw [holds, Means, h.gt_iff]
  | atMost => rw [holds, Means, ← h.gt_iff, Bool.not_eq_true', Bool.not_eq_true]
  | below => rw [holds, Means, h.lt_iff]
  | equal => rw [holds, Means, decide_eq_true_iff, h.eq_iff]

/-! ## Clauses -/

/-- The clauses of a range, stripped. -/
def clauseTexts (spec : Text) : List Text := (spec.splitOn ',').map Text.strip

section Ranges

variable (isDigit : Text → Bool) (int : Text → Option Nat)

/-- The version satisfies the clause. -/
def Satisfies (version : List Nat) (clause : Text) : Prop :=
  ∃ comparison bound, readClause isDigit int clause = .ok (comparison, bound) ∧
    comparison.Means version bound

/-- The clause can be read, and its bound is not another spelling of the version. -/
def PlainClause (version : List Nat) (clause : Text) : Prop :=
  ∃ comparison bound, readClause isDigit int clause = .ok (comparison, bound) ∧
    (Same 0 version bound → version.length = bound.length)

variable {isDigit} {int} {version : List Nat}

theorem text_eq_ok {value : Text} {fieldName : String} {name : Name}
    (h : text value fieldName = .ok name) : name.val = value.strip := by
  unfold text ResearchSelection.requireText at h
  split at h
  · cases h
  · cases h
    rfl

theorem exists_text {value : Text} (fieldName : String) (h : value.strip ≠ []) :
    ∃ name, text value fieldName = .ok name := by
  unfold text ResearchSelection.requireText
  rw [dif_neg h]
  exact ⟨_, rfl⟩

/-- The clauses that are read are those of the text. -/
theorem val_of_mapM_text {items : List Text} {clauses : List Name}
    (h : (items.mapM fun item => text item "range_clause") = .ok clauses) :
    clauses.map (·.val) = items.map Text.strip := by
  induction items generalizing clauses with
  | nil =>
    cases h
    rfl
  | cons item items ih =>
    rw [List.mapM_cons] at h
    obtain ⟨first, hfirst, h⟩ := bind_eq_ok h
    obtain ⟨others, hothers, h⟩ := bind_eq_ok h
    cases h
    rw [List.map_cons, List.map_cons, ih hothers, text_eq_ok hfirst]

/-- A clause that can be read is not blank. -/
theorem ne_nil_of_readClause {clause : Text} {read : Comparison × List Nat}
    (h : readClause isDigit int clause = .ok read) : clause ≠ [] := by
  rintro rfl
  cases h

/-- One clause of a range, as it is meant. -/
theorem holds_iff_satisfies {clause : Text} {comparison : Comparison} {bound : List Nat}
    (hread : readClause isDigit int clause = .ok (comparison, bound))
    (hplain : PlainClause isDigit int version clause) :
    comparison.holds version bound = true ↔ Satisfies isDigit int version clause := by
  obtain ⟨_, _, hread', hspelled⟩ := hplain
  cases hread.symm.trans hread'
  rw [Comparison.holds_iff (comparedAs_iff.mpr hspelled)]
  constructor
  · intro hmeans
    exact ⟨comparison, bound, hread, hmeans⟩
  · rintro ⟨_, _, hread'', hmeans⟩
    cases hread.symm.trans hread''
    exact hmeans

/-- Plain clauses are all looked at, or one of them rejects the version. -/
theorem clausesHold_spec {clauses : List Name}
    (hplain : ∀ clause ∈ clauses, PlainClause isDigit int version clause.val) :
    ∃ verdict, clausesHold isDigit int version clauses = .ok verdict ∧
      (verdict = true ↔ ∀ clause ∈ clauses, Satisfies isDigit int version clause.val) := by
  induction clauses with
  | nil => exact ⟨true, rfl, by simp⟩
  | cons clause clauses ih =>
    obtain ⟨hhead, hrest⟩ := List.forall_mem_cons.mp hplain
    obtain ⟨verdict, hverdict, hiff⟩ := ih hrest
    obtain ⟨comparison, bound, hread, -⟩ := id hhead
    have hholds := holds_iff_satisfies hread hhead
    rw [clausesHold, hread, ok_bind]
    dsimp only
    by_cases h : comparison.holds version bound = true
    · refine ⟨verdict, by rw [if_pos h, hverdict], ?_⟩
      rw [List.forall_mem_cons, hiff]
      exact ⟨fun hall => ⟨hholds.mp h, hall⟩, And.right⟩
    · refine ⟨false, by rw [if_neg h]; rfl, ?_⟩
      rw [List.forall_mem_cons, ← hholds]
      exact ⟨fun hfalse => absurd hfalse Bool.false_ne_true, fun hall => absurd hall.1 h⟩

/-- **What a range of plain clauses says**: that the version satisfies them all. -/
theorem rangeMatches_spec {spec : Text}
    (hplain : ∀ clause ∈ clauseTexts spec, PlainClause isDigit int version clause) :
    ∃ verdict, rangeMatches isDigit int version spec = .ok verdict ∧
      (verdict = true ↔ ∀ clause ∈ clauseTexts spec, Satisfies isDigit int version clause) := by
  have hreadable : ∀ item ∈ spec.splitOn ',', ∃ name, text item "range_clause" = .ok name := by
    intro item hitem
    obtain ⟨_, _, hread, -⟩ := hplain (Text.strip item) (List.mem_map_of_mem hitem)
    exact exists_text _ (ne_nil_of_readClause hread)
  obtain ⟨clauses, hclauses⟩ := mapM_eq_ok_of_forall hreadable
  have hvals : clauses.map (·.val) = clauseTexts spec := val_of_mapM_text hclauses
  have hforall : ∀ P : Text → Prop,
      (∀ clause ∈ clauseTexts spec, P clause) ↔ ∀ clause ∈ clauses, P clause.val := by
    intro P
    rw [← hvals, List.forall_mem_map]
  rw [hforall] at hplain
  rw [rangeMatches, hclauses, ok_bind, hforall]
  exact clausesHold_spec hplain

/-- A range that is evaluated has read its first clause. -/
theorem readClause_of_rangeMatches {spec : Text} {clause : Text} {others : List Text}
    {verdict : Bool} (h : rangeMatches isDigit int version spec = .ok verdict)
    (hspec : clauseTexts spec = clause :: others) :
    ∃ read, readClause isDigit int clause = .ok read := by
  obtain ⟨clauses, hclauses, h⟩ := bind_eq_ok h
  have hvals : clauses.map (·.val) = clauseTexts spec := val_of_mapM_text hclauses
  cases clauses with
  | nil =>
    rw [hspec] at hvals
    cases hvals
  | cons first clauses =>
    rw [hspec, List.map_cons] at hvals
    obtain ⟨hfirst, -⟩ := List.cons.inj hvals
    obtain ⟨read, hread, -⟩ := bind_eq_ok h
    exact ⟨read, hfirst ▸ hread⟩

/-- **What the ranges of an advisory say**, if their clauses are plain: that the
version satisfies all clauses of one of them. -/
theorem anyRangeMatches_spec {specs : List Name}
    (hplain : ∀ spec ∈ specs, ∀ clause ∈ clauseTexts spec.val,
      PlainClause isDigit int version clause) :
    ∃ verdict, anyRangeMatches isDigit int version specs = .ok verdict ∧
      (verdict = true ↔ ∃ spec ∈ specs, ∀ clause ∈ clauseTexts spec.val,
        Satisfies isDigit int version clause) := by
  induction specs with
  | nil => exact ⟨false, rfl, by simp⟩
  | cons spec specs ih =>
    obtain ⟨hhead, hrest⟩ := List.forall_mem_cons.mp hplain
    obtain ⟨verdict, hverdict, hiff⟩ := ih hrest
    obtain ⟨first, hfirst, hfirstIff⟩ := rangeMatches_spec hhead
    rw [anyRangeMatches, hfirst, ok_bind]
    cases first with
    | true =>
      refine ⟨true, rfl, ?_⟩
      exact ⟨fun _ => ⟨spec, List.mem_cons_self, hfirstIff.mp rfl⟩, fun _ => rfl⟩
    | false =>
      refine ⟨verdict, hverdict, ?_⟩
      rw [hiff]
      constructor
      · rintro ⟨item, hitem, hall⟩
        exact ⟨item, List.mem_cons_of_mem _ hitem, hall⟩
      · rintro ⟨item, hitem, hall⟩
        rcases List.mem_cons.mp hitem with rfl | hitem
        · exact absurd (hfirstIff.mpr hall) Bool.false_ne_true
        · exact ⟨item, hitem, hall⟩

/-! ## Another order of the same advisories -/

/-- The same clauses, in some order. -/
def ArrangedRange (spec spec' : Name) : Prop :=
  (clauseTexts spec.val).Perm (clauseTexts spec'.val)

/-- The same advisory, with its ranges and their clauses in some order. -/
structure ArrangedAdvisory (advisory advisory' : NDayAdvisory) : Prop where
  advisoryId : advisory'.advisoryId = advisory.advisoryId
  cveId : advisory'.cveId = advisory.cveId
  technology : advisory'.technology = advisory.technology
  reference : advisory'.reference = advisory.reference
  affectedRanges : ∃ specs, advisory.affectedRanges.Perm specs ∧
    List.Forall₂ ArrangedRange specs advisory'.affectedRanges

/-- The same advisories in some order. -/
def Arranged (advisories advisories' : List NDayAdvisory) : Prop :=
  ∃ middle, advisories.Perm middle ∧ List.Forall₂ ArrangedAdvisory middle advisories'

theorem mem_left_of_forall₂ {α β : Type} {R : α → β → Prop} {l : List α} {l' : List β}
    (h : List.Forall₂ R l l') {b : β} (hb : b ∈ l') : ∃ a ∈ l, R a b := by
  induction h with
  | nil => cases hb
  | cons hhead _ ih =>
    rcases List.mem_cons.mp hb with rfl | hb
    · exact ⟨_, List.mem_cons_self, hhead⟩
    · obtain ⟨a, ha, hR⟩ := ih hb
      exact ⟨a, List.mem_cons_of_mem _ ha, hR⟩

theorem mem_right_of_forall₂ {α β : Type} {R : α → β → Prop} {l : List α} {l' : List β}
    (h : List.Forall₂ R l l') {a : α} (ha : a ∈ l) : ∃ b ∈ l', R a b :=
  mem_left_of_forall₂ h.flip ha

theorem ArrangedAdvisory.refl (advisory : NDayAdvisory) : ArrangedAdvisory advisory advisory where
  advisoryId := rfl
  cveId := rfl
  technology := rfl
  reference := rfl
  affectedRanges := ⟨_, List.Perm.refl _, List.forall₂_same.mpr fun _ _ => List.Perm.refl _⟩

/-- The ranges of the one are those of the other. -/
theorem ArrangedAdvisory.ranges {advisory advisory' : NDayAdvisory}
    (h : ArrangedAdvisory advisory advisory') :
    (∀ spec ∈ advisory.affectedRanges, ∃ spec' ∈ advisory'.affectedRanges,
      ArrangedRange spec spec') ∧
    ∀ spec' ∈ advisory'.affectedRanges, ∃ spec ∈ advisory.affectedRanges,
      ArrangedRange spec spec' := by
  obtain ⟨specs, hperm, hranges⟩ := h.affectedRanges
  constructor
  · intro spec hspec
    exact mem_right_of_forall₂ hranges (hperm.mem_iff.mp hspec)
  · intro spec' hspec'
    obtain ⟨spec, hspec, hrange⟩ := mem_left_of_forall₂ hranges hspec'
    exact ⟨spec, hperm.mem_iff.mpr hspec, hrange⟩

/-! ### A clause that is put first -/

/-- What is stripped does not begin with white space. -/
theorem head_of_stripped {s : Text} (h : Text.strip s = s) {c : Char}
    (hhead : s.head? = some c) : Text.isSpace c = false := by
  obtain ⟨rest, rfl⟩ := List.head?_eq_some_iff.mp hhead
  by_contra hspace
  have hdrop : (c :: rest).dropWhile Text.isSpace = rest.dropWhile Text.isSpace :=
    List.dropWhile_cons_of_pos (by simpa using hspace)
  have hstripped : (Text.strip (c :: rest)).length ≤ (rest.dropWhile Text.isSpace).length := by
    rw [← hdrop]
    exact (List.rdropWhile_prefix Text.isSpace _).length_le
  have hshorter : (rest.dropWhile Text.isSpace).length ≤ rest.length :=
    (List.dropWhile_suffix Text.isSpace).length_le
  rw [h, List.length_cons] at hstripped
  omega

theorem comma_not_space : Text.isSpace ',' = false := by decide

theorem head_intercalate {pieces : List Text} (h : ∀ piece ∈ pieces, Text.strip piece = piece)
    {c : Char} (hhead : ([','].intercalate pieces).head? = some c) : Text.isSpace c = false := by
  cases pieces with
  | nil => cases hhead
  | cons piece rest =>
    have hpiece := h piece List.mem_cons_self
    cases rest with
    | nil => exact head_of_stripped hpiece (by simpa using hhead)
    | cons next rest =>
      rw [List.intercalate_cons_cons] at hhead
      cases piece with
      | nil =>
        obtain rfl : ',' = c := by simpa using hhead
        exact comma_not_space
      | cons first piece => exact head_of_stripped hpiece (by simpa using hhead)

theorem getLast_intercalate {pieces : List Text}
    (h : ∀ piece ∈ pieces, Text.strip piece = piece) {c : Char}
    (hlast : ([','].intercalate pieces).getLast? = some c) : Text.isSpace c = false := by
  induction pieces with
  | nil => cases hlast
  | cons piece rest ih =>
    obtain ⟨hpiece, hrest⟩ := List.forall_mem_cons.mp h
    cases rest with
    | nil => exact Text.last_of_stripped hpiece (by simpa using hlast)
    | cons next rest =>
      rw [List.intercalate_cons_cons, List.append_assoc, List.getLast?_append] at hlast
      by_cases hempty : [','].intercalate (next :: rest) = []
      · rw [hempty] at hlast
        obtain rfl : ',' = c := by simpa using hlast
        exact comma_not_space
      · refine ih hrest ?_
        rw [List.getLast?_append, List.getLast?_eq_some_getLast hempty] at hlast
        rw [List.getLast?_eq_some_getLast hempty]
        simpa using hlast

/-- Stripped pieces that are joined are stripped. -/
theorem strip_intercalate {pieces : List Text} (h : ∀ piece ∈ pieces, Text.strip piece = piece) :
    Text.strip ([','].intercalate pieces) = [','].intercalate pieces :=
  Text.strip_eq_self (fun _ => head_intercalate h) fun _ => getLast_intercalate h

/-- The clauses are stripped and have no comma in them. -/
theorem clauseTexts_pieces {spec piece : Text} (h : piece ∈ clauseTexts spec) :
    Text.strip piece = piece ∧ ',' ∉ piece := by
  obtain ⟨item, hitem, rfl⟩ := List.mem_map.mp h
  refine ⟨Text.strip_strip item, fun hmem => ?_⟩
  have hsub : (Text.strip item).Sublist item :=
    (List.rdropWhile_prefix Text.isSpace _).sublist.trans
      (List.dropWhile_suffix Text.isSpace).sublist
  exact SeparatorJoin.not_mem_of_mem_splitOn hitem (hsub.subset hmem)

/-- A range is not made of one blank clause. -/
theorem clauseTexts_ne_blank (spec : Name) : clauseTexts spec.val ≠ [[]] := by
  intro h
  obtain ⟨item, hitems, hitem⟩ := List.map_eq_singleton_iff.mp h
  have hspec := @List.intercalate_splitOn _ spec.val _ _ ','
  rw [hitems, List.intercalate_singleton] at hspec
  rw [hspec, spec.property.2] at hitem
  exact spec.property.1 hitem

/-- Clauses of a range, in any order, are those of a range. -/
theorem exists_range {spec : Name} {pieces : List Text}
    (hperm : (clauseTexts spec.val).Perm pieces) :
    ∃ spec' : Name, clauseTexts spec'.val = pieces := by
  have hpieces : ∀ piece ∈ pieces, Text.strip piece = piece ∧ ',' ∉ piece :=
    fun piece hpiece => clauseTexts_pieces (hperm.mem_iff.mpr hpiece)
  have hne : pieces ≠ [] := by
    rintro rfl
    exact List.splitOn_ne_nil ',' spec.val (List.map_eq_nil_iff.mp hperm.eq_nil)
  have hsplit := List.splitOn_intercalate ',' (fun piece hpiece => (hpieces piece hpiece).2) hne
  have hstrip := strip_intercalate fun piece hpiece => (hpieces piece hpiece).1
  have hnonempty : [','].intercalate pieces ≠ [] := by
    intro hempty
    rw [hempty, List.splitOn_nil] at hsplit
    rw [← hsplit] at hperm
    exact clauseTexts_ne_blank spec (List.perm_singleton.mp hperm)
  refine ⟨⟨[','].intercalate pieces, hnonempty, hstrip⟩, ?_⟩
  rw [clauseTexts, hsplit]
  exact (List.map_congr_left fun piece hpiece => (hpieces piece hpiece).1).trans
    (List.map_id pieces)

/-- Any clause of an advisory can be the first that is looked at. -/
theorem exists_arranged_first {advisory : NDayAdvisory} {spec : Name}
    (hspec : spec ∈ advisory.affectedRanges) {clause : Text}
    (hclause : clause ∈ clauseTexts spec.val) :
    ∃ advisory' spec' specs others, ArrangedAdvisory advisory advisory' ∧
      advisory'.affectedRanges = spec' :: specs ∧
      clauseTexts spec'.val = clause :: others := by
  obtain ⟨spec', hspec'⟩ := exists_range (List.perm_cons_erase hclause)
  refine ⟨{ advisory with
      affectedRanges := spec' :: advisory.affectedRanges.erase spec
      affectedRanges_ne := List.cons_ne_nil _ _ },
    spec', advisory.affectedRanges.erase spec, (clauseTexts spec.val).erase clause, ?_, rfl,
    hspec'⟩
  refine ⟨rfl, rfl, rfl, rfl, spec :: advisory.affectedRanges.erase spec,
    List.perm_cons_erase hspec, List.Forall₂.cons ?_ ?_⟩
  · rw [ArrangedRange, hspec']
    exact List.perm_cons_erase hclause
  · exact List.forall₂_same.mpr fun _ _ => List.Perm.refl _

end Ranges

/-! ## What is reported -/

section Reports

variable (lower : Text → Text) (isDigit : Text → Bool) (int : Text → Option Nat)
  (sha256 : Text → HexDigest)

/-- The advisory is one for the technology, and the version satisfies all clauses of
one of its ranges. -/
def Affected (observed : ObservedTechVersion) (advisory : NDayAdvisory) : Prop :=
  sameTechnology lower observed advisory = true ∧
  ∃ version, parseVersion isDigit int observed.version.val = .ok version ∧
    ∃ spec ∈ advisory.affectedRanges, ∀ clause ∈ clauseTexts spec.val,
      Satisfies isDigit int version clause

/-- The clauses of all advisories for the technology. -/
def ComparedClause (observed : ObservedTechVersion) (advisories : List NDayAdvisory)
    (clause : Text) : Prop :=
  ∃ advisory ∈ advisories, sameTechnology lower observed advisory = true ∧
    ∃ spec ∈ advisory.affectedRanges, clause ∈ clauseTexts spec.val

/-- The lane is about the observed technology, in the version that has been read. -/
def InLane (observed : ObservedTechVersion) (version : List Nat) : Prop :=
  observed.scopeClassification.val = "IN_SCOPE".toList ∧
  parseVersion isDigit int observed.version.val = .ok version

/-- The advisories that are reported are the affected ones. -/
def ReportsAffected (observed : ObservedTechVersion) (advisories : List NDayAdvisory) : Prop :=
  ∃ reported, matchNdayAdvisories lower isDigit int sha256 observed advisories = .ok reported ∧
    (∀ item ∈ reported, item.advisory ∈ advisories ∧ item.observed = observed) ∧
    ∀ advisory ∈ advisories, (∃ item ∈ reported, item.advisory = advisory) ↔
      Affected lower isDigit int observed advisory

/-- The ranges of some advisories follow the order of versions. -/
structure FollowsVersionOrder (observed : ObservedTechVersion)
    (advisories : List NDayAdvisory) : Prop where
  /-- The order is total, up to components that are not written. -/
  total : ∀ v w : List Nat, Below (· < ·) 0 v w ∨ Same 0 v w ∨ Below (· < ·) 0 w v
  transitive : ∀ u v w : List Nat, Below (· < ·) 0 u v → Below (· < ·) 0 v w →
    Below (· < ·) 0 u w
  disjoint : ∀ v w : List Nat, Below (· < ·) 0 v w → ¬ Same 0 v w ∧ ¬ Below (· < ·) 0 w v
  /-- It is the one that the clauses compare with. -/
  compared : ∀ version, InLane isDigit int observed version →
    ∀ clause, ComparedClause lower observed advisories clause →
      ∀ comparison bound, readClause isDigit int clause = .ok (comparison, bound) →
        ComparedAs version bound
  /-- What is reported is what is affected, in whatever order it all comes. -/
  reported : ∀ version, InLane isDigit int observed version →
    ∀ arranged, Arranged advisories arranged →
      ReportsAffected lower isDigit int sha256 observed arranged
  arranged : ∀ advisory advisory', ArrangedAdvisory advisory advisory' →
    (Affected lower isDigit int observed advisory ↔
      Affected lower isDigit int observed advisory')
  /-- Advisories for other technologies make no difference. -/
  others : matchNdayAdvisories lower isDigit int sha256 observed advisories =
    matchNdayAdvisories lower isDigit int sha256 observed
      (advisories.filter (sameTechnology lower observed))
  outOfScope : observed.scopeClassification.val ≠ "IN_SCOPE".toList →
    matchNdayAdvisories lower isDigit int sha256 observed advisories = .ok []

variable {lower} {isDigit} {int} {sha256} {observed : ObservedTechVersion}
  {version : List Nat} {advisories : List NDayAdvisory}

theorem sameTechnology_of_arranged {advisory advisory' : NDayAdvisory}
    (h : ArrangedAdvisory advisory advisory') :
    sameTechnology lower observed advisory' = sameTechnology lower observed advisory := by
  rw [sameTechnology, sameTechnology, h.technology]

/-- What is affected does not depend on the order of ranges and clauses. -/
theorem affected_iff_of_arranged {advisory advisory' : NDayAdvisory}
    (h : ArrangedAdvisory advisory advisory') :
    Affected lower isDigit int observed advisory ↔
      Affected lower isDigit int observed advisory' := by
  obtain ⟨hforth, hback⟩ := h.ranges
  rw [Affected, Affected, sameTechnology_of_arranged h]
  refine and_congr_right fun _ => exists_congr fun version => and_congr_right fun _ => ?_
  constructor
  · rintro ⟨spec, hspec, hall⟩
    obtain ⟨spec', hspec', hrange⟩ := hforth spec hspec
    exact ⟨spec', hspec', fun clause hclause => hall clause (hrange.mem_iff.mpr hclause)⟩
  · rintro ⟨spec', hspec', hall⟩
    obtain ⟨spec, hspec, hrange⟩ := hback spec' hspec'
    exact ⟨spec, hspec, fun clause hclause => hall clause (hrange.mem_iff.mp hclause)⟩

/-- The clauses that are compared do not depend on any order. -/
theorem comparedClause_of_arranged {arranged : List NDayAdvisory}
    (h : Arranged advisories arranged) {clause : Text}
    (hclause : ComparedClause lower observed arranged clause) :
    ComparedClause lower observed advisories clause := by
  obtain ⟨middle, hperm, hadvisories⟩ := h
  obtain ⟨advisory', hadvisory', hsame, spec', hspec', hmem⟩ := hclause
  obtain ⟨advisory, hadvisory, harranged⟩ := mem_left_of_forall₂ hadvisories hadvisory'
  obtain ⟨spec, hspec, hrange⟩ := harranged.ranges.2 spec' hspec'
  exact ⟨advisory, hperm.mem_iff.mpr hadvisory, (sameTechnology_of_arranged harranged) ▸ hsame,
    spec, hspec, hrange.mem_iff.mpr hmem⟩

/-- An advisory for the technology, all of whose clauses are plain. -/
theorem anyRangeMatches_iff {advisory : NDayAdvisory}
    (hversion : parseVersion isDigit int observed.version.val = .ok version)
    (hsame : sameTechnology lower observed advisory = true)
    (hplain : ∀ spec ∈ advisory.affectedRanges, ∀ clause ∈ clauseTexts spec.val,
      PlainClause isDigit int version clause) :
    ∃ verdict, anyRangeMatches isDigit int version advisory.affectedRanges = .ok verdict ∧
      (verdict = true ↔ Affected lower isDigit int observed advisory) := by
  obtain ⟨verdict, hverdict, hiff⟩ := anyRangeMatches_spec hplain
  refine ⟨verdict, hverdict, hiff.trans ⟨fun h => ⟨hsame, version, hversion, h⟩, ?_⟩⟩
  rintro ⟨-, version', hversion', h⟩
  cases hversion.symm.trans hversion'
  exact h

/-- **What is matched**: where all clauses are plain, the affected advisories. -/
theorem matchAll_spec (hversion : parseVersion isDigit int observed.version.val = .ok version)
    (hplain : ∀ clause, ComparedClause lower observed advisories clause →
      PlainClause isDigit int version clause) :
    ∃ reported, matchAll lower isDigit int sha256 observed version advisories = .ok reported ∧
      (∀ item ∈ reported, item.advisory ∈ advisories ∧ item.observed = observed ∧
        Affected lower isDigit int observed item.advisory) ∧
      ∀ advisory ∈ advisories, Affected lower isDigit int observed advisory →
        ∃ item ∈ reported, item.advisory = advisory := by
  induction advisories with
  | nil => exact ⟨[], rfl, by simp, by simp⟩
  | cons advisory advisories ih =>
    have hrest : ∀ clause, ComparedClause lower observed advisories clause →
        PlainClause isDigit int version clause := by
      rintro clause ⟨item, hitem, hclause⟩
      exact hplain clause ⟨item, List.mem_cons_of_mem _ hitem, hclause⟩
    obtain ⟨later, hlater, hsound, hcomplete⟩ := ih hrest
    have hsoundLater : ∀ item ∈ later, item.advisory ∈ advisory :: advisories ∧
        item.observed = observed ∧ Affected lower isDigit int observed item.advisory :=
      fun item hitem => ⟨List.mem_cons_of_mem _ (hsound item hitem).1, (hsound item hitem).2⟩
    rw [matchAll]
    by_cases hsame : sameTechnology lower observed advisory = true
    · obtain ⟨verdict, hverdict, hiff⟩ := anyRangeMatches_iff hversion hsame
        fun spec hspec clause hclause =>
          hplain clause ⟨advisory, List.mem_cons_self, hsame, spec, hspec, hclause⟩
      rw [if_neg (by simp [hsame]), hverdict, ok_bind, hlater, ok_bind]
      cases verdict with
      | true =>
        refine ⟨advisoryMatch lower sha256 observed advisory :: later, rfl, ?_, ?_⟩
        · rw [List.forall_mem_cons]
          exact ⟨⟨List.mem_cons_self, rfl, hiff.mp rfl⟩, hsoundLater⟩
        · intro item hitem haffected
          rcases List.mem_cons.mp hitem with rfl | hitem
          · exact ⟨_, List.mem_cons_self, rfl⟩
          · obtain ⟨found, hfound, heq⟩ := hcomplete item hitem haffected
            exact ⟨found, List.mem_cons_of_mem _ hfound, heq⟩
      | false =>
        refine ⟨later, rfl, hsoundLater, ?_⟩
        intro item hitem haffected
        rcases List.mem_cons.mp hitem with rfl | hitem
        · exact absurd (hiff.mpr haffected) Bool.false_ne_true
        · exact hcomplete item hitem haffected
    · rw [if_pos (by simpa using hsame)]
      refine ⟨later, hlater, hsoundLater, ?_⟩
      intro item hitem haffected
      rcases List.mem_cons.mp hitem with rfl | hitem
      · exact absurd haffected.1 hsame
      · exact hcomplete item hitem haffected

theorem matchNdayAdvisories_of_inLane (h : InLane isDigit int observed version) :
    matchNdayAdvisories lower isDigit int sha256 observed advisories =
      matchAll lower isDigit int sha256 observed version advisories := by
  rw [matchNdayAdvisories, if_neg (by simp [h.1]), h.2, ok_bind]

/-- Where all clauses are plain, the affected advisories are reported. -/
theorem reportsAffected (h : InLane isDigit int observed version)
    (hplain : ∀ clause, ComparedClause lower observed advisories clause →
      PlainClause isDigit int version clause) :
    ReportsAffected lower isDigit int sha256 observed advisories := by
  obtain ⟨reported, hreported, hsound, hcomplete⟩ := matchAll_spec h.2 hplain
  refine ⟨reported, (matchNdayAdvisories_of_inLane h).trans hreported, ?_, ?_⟩
  · exact fun item hitem => ⟨(hsound item hitem).1, (hsound item hitem).2.1⟩
  · intro advisory hadvisory
    constructor
    · rintro ⟨item, hitem, rfl⟩
      exact (hsound item hitem).2.2
    · exact hcomplete advisory hadvisory

/-- A run that returns has evaluated every advisory for the technology. -/
theorem anyRangeMatches_of_matchAll {reported : List NDayAdvisoryMatch}
    (h : matchAll lower isDigit int sha256 observed version advisories = .ok reported)
    {advisory : NDayAdvisory} (hadvisory : advisory ∈ advisories)
    (hsame : sameTechnology lower observed advisory = true) :
    ∃ verdict, anyRangeMatches isDigit int version advisory.affectedRanges = .ok verdict := by
  induction advisories generalizing reported with
  | nil => cases hadvisory
  | cons first advisories ih =>
    rw [matchAll] at h
    split at h
    next hother =>
      rcases List.mem_cons.mp hadvisory with rfl | hadvisory
      · rw [hsame] at hother
        cases hother
      · exact ih h hadvisory
    next =>
      obtain ⟨verdict, hverdict, h⟩ := bind_eq_ok h
      obtain ⟨later, hlater, -⟩ := bind_eq_ok h
      rcases List.mem_cons.mp hadvisory with rfl | hadvisory
      · exact ⟨verdict, hverdict⟩
      · exact ih hlater hadvisory

/-- **A clause that cannot be read stands in the way** of the advisories, in some
order of them. -/
theorem readClause_of_reported (hlane : InLane isDigit int observed version)
    (h : ∀ arranged, Arranged advisories arranged →
      ReportsAffected lower isDigit int sha256 observed arranged)
    {clause : Text} (hclause : ComparedClause lower observed advisories clause) :
    ∃ read, readClause isDigit int clause = .ok read := by
  obtain ⟨advisory, hadvisory, hsame, spec, hspec, hmem⟩ := hclause
  obtain ⟨advisory', spec', specs, others, harranged, hranges, htexts⟩ :=
    exists_arranged_first hspec hmem
  -- the clause is looked at first, when its advisory is
  have hall : Arranged advisories (advisory' :: advisories.erase advisory) :=
    ⟨advisory :: advisories.erase advisory, List.perm_cons_erase hadvisory,
      List.Forall₂.cons harranged
        (List.forall₂_same.mpr fun item _ => ArrangedAdvisory.refl item)⟩
  obtain ⟨reported, hreported, -⟩ := h _ hall
  rw [matchNdayAdvisories_of_inLane hlane] at hreported
  have hsame' : sameTechnology lower observed advisory' = true :=
    (sameTechnology_of_arranged harranged).trans hsame
  obtain ⟨verdict, hverdict⟩ :=
    anyRangeMatches_of_matchAll hreported List.mem_cons_self hsame'
  rw [hranges, anyRangeMatches] at hverdict
  obtain ⟨first, hfirst, -⟩ := bind_eq_ok hverdict
  exact readClause_of_rangeMatches hfirst htexts

/-- Advisories for other technologies are passed by. -/
theorem matchAll_filter :
    matchAll lower isDigit int sha256 observed version
        (advisories.filter (sameTechnology lower observed)) =
      matchAll lower isDigit int sha256 observed version advisories := by
  induction advisories with
  | nil => rfl
  | cons advisory advisories ih =>
    by_cases hsame : sameTechnology lower observed advisory = true
    · rw [List.filter_cons_of_pos hsame, matchAll, matchAll, ih]
    · rw [List.filter_cons_of_neg hsame, ih, matchAll, if_pos (by simpa using hsame)]

/-- **When ranges follow the order of versions**: if every clause for the technology
can be read, and no bound is another spelling of the observed version. -/
theorem followsVersionOrder_iff (lower : Text → Text) (isDigit : Text → Bool)
    (int : Text → Option Nat) (sha256 : Text → HexDigest) (observed : ObservedTechVersion)
    (advisories : List NDayAdvisory) :
    FollowsVersionOrder lower isDigit int sha256 observed advisories ↔
      ∀ version, InLane isDigit int observed version →
        ∀ clause, ComparedClause lower observed advisories clause →
          PlainClause isDigit int version clause := by
  constructor
  · intro h version hlane clause hclause
    obtain ⟨⟨comparison, bound⟩, hread⟩ :=
      readClause_of_reported hlane (h.reported version hlane) hclause
    exact ⟨comparison, bound, hread,
      comparedAs_iff.mp (h.compared version hlane clause hclause comparison bound hread)⟩
  · intro hplain
    exact {
      total := PaddedOrder.trichotomy
      transitive := fun _ _ _ => PaddedOrder.Below.trans
      disjoint := fun _ _ hbelow => ⟨fun hsame => hsame.not_below hbelow, hbelow.asymm⟩
      compared := by
        intro version hlane clause hclause comparison bound hread
        obtain ⟨_, _, hread', hspelled⟩ := hplain version hlane clause hclause
        cases hread.symm.trans hread'
        exact comparedAs_iff.mpr hspelled
      reported := fun version hlane arranged harranged =>
        reportsAffected hlane fun clause hclause =>
          hplain version hlane clause (comparedClause_of_arranged harranged hclause)
      arranged := fun _ _ => affected_iff_of_arranged
      others := by
        unfold matchNdayAdvisories
        split
        · rfl
        · exact congrArg _ (funext fun version => matchAll_filter.symm)
      outOfScope := fun hout => if_pos hout }

end Reports

/-! ## Two advisories of a laboratory -/

theorem lab_name : "lab".toList ≠ [] ∧ Text.strip "lab".toList = "lab".toList := by decide

theorem cve_name : "CVE-1".toList ≠ [] ∧ Text.strip "CVE-1".toList = "CVE-1".toList := by decide

theorem cve_prefix : Text.startsWith "CVE-1".toList "CVE-".toList = true := by decide

theorem inScope_name : "IN_SCOPE".toList ≠ [] ∧
    Text.strip "IN_SCOPE".toList = "IN_SCOPE".toList := by decide

theorem version_name : "1.2.3".toList ≠ [] ∧ Text.strip "1.2.3".toList = "1.2.3".toList := by
  decide

theorem longer_name : "=1.2.3.0".toList ≠ [] ∧
    Text.strip "=1.2.3.0".toList = "=1.2.3.0".toList := by decide

theorem below_name : "<2".toList ≠ [] ∧ Text.strip "<2".toList = "<2".toList := by decide

theorem labDigest_length : (List.replicate 64 'a').length = 64 := List.length_replicate

/-- A digest that is the same for every text. -/
def labSha256 (_ : Text) : HexDigest := ⟨List.replicate 64 'a', labDigest_length⟩

/-- `int`, of a text of decimal digits. -/
def decimal (s : Text) : Option Nat := some (Text.toNat s)

def labObserved : ObservedTechVersion where
  technology := ⟨"lab".toList, lab_name⟩
  version := ⟨"1.2.3".toList, version_name⟩
  canonicalKey := ⟨"lab".toList, lab_name⟩
  scopeClassification := ⟨"IN_SCOPE".toList, inScope_name⟩
  sourceRef := ⟨"lab".toList, lab_name⟩

/-- An advisory for the technology of the laboratory. -/
def labAdvisory (first : Name) (others : List Name) : NDayAdvisory where
  advisoryId := ⟨"lab".toList, lab_name⟩
  cveId := ⟨"CVE-1".toList, cve_name⟩
  cveId_prefix := cve_prefix
  technology := ⟨"lab".toList, lab_name⟩
  affectedRanges := first :: others
  affectedRanges_ne := List.cons_ne_nil first others
  reference := ⟨"lab".toList, lab_name⟩

/-- It affects exactly `1.2.3.0`. -/
def labExact : NDayAdvisory := labAdvisory ⟨"=1.2.3.0".toList, longer_name⟩ []

/-- It affects what is below `2`, and its second range cannot be read. -/
def labUnread : NDayAdvisory :=
  labAdvisory ⟨"<2".toList, below_name⟩ [⟨"lab".toList, lab_name⟩]

theorem labObserved_inLane : InLane Text.isDecimal decimal labObserved [1, 2, 3] := ⟨rfl, rfl⟩

theorem labExact_affected : Affected id Text.isDecimal decimal labObserved labExact := by
  refine ⟨rfl, [1, 2, 3], rfl, _, List.mem_singleton_self _, ?_⟩
  intro clause hclause
  obtain rfl : clause = "=1.2.3.0".toList := List.mem_singleton.mp hclause
  refine ⟨.equal, [1, 2, 3, 0], rfl, ?_⟩
  exact PaddedOrder.same_cons_iff.mpr ⟨rfl, PaddedOrder.same_cons_iff.mpr ⟨rfl,
    PaddedOrder.same_cons_iff.mpr ⟨rfl, PaddedOrder.same_nil_cons_iff.mpr
      ⟨rfl, PaddedOrder.same_refl []⟩⟩⟩⟩

/-- Version `1.2.3` is not reported for `=1.2.3.0`; and of `<2` and a range that cannot
be read, the second one stands in the way if it comes first. -/
theorem spelling_missed :
    matchNdayAdvisories id Text.isDecimal decimal labSha256 labObserved [labExact] = .ok [] ∧
    Affected id Text.isDecimal decimal labObserved labExact ∧
    ¬ FollowsVersionOrder id Text.isDecimal decimal labSha256 labObserved [labExact] ∧
    ¬ FollowsVersionOrder id Text.isDecimal decimal labSha256 labObserved [labUnread] := by
  refine ⟨rfl, labExact_affected, fun h => ?_, fun h => ?_⟩
  · have hsame : Arranged [labExact] [labExact] :=
      ⟨[labExact], List.Perm.refl _, List.forall₂_same.mpr fun item _ => ArrangedAdvisory.refl item⟩
    obtain ⟨reported, hreported, -, hiff⟩ :=
      h.reported [1, 2, 3] labObserved_inLane [labExact] hsame
    cases hreported
    obtain ⟨item, hitem, -⟩ := (hiff labExact (List.mem_singleton_self _)).mpr labExact_affected
    cases hitem
  · have hclause : ComparedClause id labObserved [labUnread] "lab".toList :=
      ⟨labUnread, List.mem_singleton_self _, rfl, ⟨"lab".toList, lab_name⟩,
        List.mem_cons_of_mem _ (List.mem_singleton_self _), List.mem_singleton_self _⟩
    obtain ⟨read, hread⟩ :=
      readClause_of_reported labObserved_inLane (h.reported [1, 2, 3] labObserved_inLane) hclause
    cases hread

end Zest.Nday
