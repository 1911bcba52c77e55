import Zest.ExecutionAuthorization

/-! # The scope check as Core's input

What the compiled scope said of a candidate becomes the input of Core's own scope
check: the rules that were matched, looked up again by their ids, and an ambiguity
where the compiled scope asked for review.

The review is asked for a rule that has expired, and the expiry is lost: Core reads
the expired rule as a match like any other, and where it is an exclusion, denies.
-/
namespace Zest.Execution

/-- `by_id.get(rule_id)`: the last of the rules with the id. -/
def ruleById (compiled : CompiledScope) (ruleId : Text) : Option CompiledScopeRule :=
  (compiled.rules.filter (·.ruleId = ruleId)).getLast?

/-- `scope_evaluation_from_compiled_check`. -/
def scopeEvaluationFromCompiledCheck (check : ScopeCheck) (compiled : CompiledScope) :
    ScopeEvaluationInput where
  ruleMatches := check.matchedRuleIds.filterMap fun ruleId =>
    (ruleById compiled ruleId).map fun rule =>
      ⟨rule.ruleId, rule.effect, true, rule.sourceReference⟩
  ambiguous := check.decision == .requireHumanReview

/-- What Core decides of the compiled scope's check. -/
def bridgedDecision (candidate : ScopeCandidate) (compiled : CompiledScope) (now : Instant) :
    ScopeDecision :=
  (checkScope (scopeEvaluationFromCompiledCheck
    (evaluateScopeCandidate candidate compiled now) compiled)).decision

/-! ## The rules found again -/

variable {candidate : ScopeCandidate} {compiled : CompiledScope} {now : Instant}

theorem ruleById_of_mem (hids : (compiled.rules.map (·.ruleId)).Nodup) {rule : CompiledScopeRule}
    (hrule : rule ∈ compiled.rules) : ruleById compiled rule.ruleId = some rule := by
  unfold ruleById
  have halone : ∀ other ∈ compiled.rules, other.ruleId = rule.ruleId → other = rule :=
    fun other hother hsame => List.inj_on_of_nodup_map hids hother hrule hsame
  obtain ⟨last, hlast⟩ : ∃ last,
      (compiled.rules.filter (·.ruleId = rule.ruleId)).getLast? = some last := by
    rw [← Option.isSome_iff_exists, List.getLast?_isSome]
    exact List.ne_nil_of_mem (List.mem_filter.mpr ⟨hrule, by simp⟩)
  obtain ⟨hmem, hsame⟩ := List.mem_filter.mp (List.mem_of_getLast? hlast)
  rw [hlast, halone last hmem (of_decide_eq_true hsame)]

/-- Rules of the scope, named in a check, are matches of Core's input with their effects. -/
theorem filterMap_ruleById (hids : (compiled.rules.map (·.ruleId)).Nodup)
    {rules : List CompiledScopeRule} (hrules : rules ⊆ compiled.rules) :
    ((rules.map (·.ruleId)).filterMap fun ruleId => (ruleById compiled ruleId).map fun rule =>
      (⟨rule.ruleId, rule.effect, true, rule.sourceReference⟩ : ScopeRuleMatch)) =
        rules.map fun rule => ⟨rule.ruleId, rule.effect, true, rule.sourceReference⟩ := by
  rw [List.filterMap_map]
  induction rules with
  | nil => rfl
  | cons rule rules ih =>
    obtain ⟨hrule, hrest⟩ := List.cons_subset.mp hrules
    rw [List.filterMap_cons, Function.comp_apply, ruleById_of_mem hids hrule, ih hrest]
    rfl

/-- Core's input for a check that names rules of the scope. -/
theorem excluded_bridge_iff (hids : (compiled.rules.map (·.ruleId)).Nodup) {check : ScopeCheck}
    {rules : List CompiledScopeRule} (hrules : rules ⊆ compiled.rules)
    (hnamed : check.matchedRuleIds = rules.map (·.ruleId)) :
    (Excluded (scopeEvaluationFromCompiledCheck check compiled) ↔
      ∃ rule ∈ rules, rule.exclusion = true) ∧
    (Included (scopeEvaluationFromCompiledCheck check compiled) ↔
      ∃ rule ∈ rules, rule.effect = .allow) := by
  unfold Excluded Included scopeEvaluationFromCompiledCheck
  rw [hnamed, filterMap_ruleById hids hrules]
  simp [ScopeRuleMatch.denies, CompiledScopeRule.exclusion]

/-- The rule is the first of the scope's that matches and has expired. -/
def FirstExpired (candidate : ScopeCandidate) (compiled : CompiledScope) (now : Instant)
    (rule : CompiledScopeRule) : Prop :=
  ∃ before after, compiled.rules = before ++ rule :: after ∧ rule.Matches candidate ∧
    rule.expired now = true ∧
      ∀ earlier ∈ before, earlier.Matches candidate → earlier.expired now = false

theorem find_expired_iff {path : Text} (hclean : candidate.normalizationError = none)
    (hpath : candidate.scopeMatchPath = some path) {rule : CompiledScopeRule} :
    (matching candidate path compiled.rules).find? (·.expired now) = some rule ↔
      FirstExpired candidate compiled now rule := by
  have hmatches : ∀ rule, CompiledScopeRule.Matches rule candidate ↔
      ruleMatches candidate path rule = true := by
    simp [CompiledScopeRule.Matches, hclean, hpath]
  unfold matching FirstExpired
  rw [List.find?_filter, List.find?_eq_some_iff_append]
  simp only [hmatches, decide_eq_true_eq]
  constructor
  · rintro ⟨⟨hmatch, hexpired⟩, before, after, hrules, hbefore⟩
    refine ⟨before, after, hrules, hmatch, hexpired, fun earlier hearlier hmatch' => ?_⟩
    simpa [hmatch'] using hbefore earlier hearlier
  · rintro ⟨before, after, hrules, hmatch, hexpired, hbefore⟩
    refine ⟨⟨hmatch, hexpired⟩, before, after, hrules, fun earlier hearlier => ?_⟩
    by_cases hmatch' : ruleMatches candidate path earlier = true
    · simp [hbefore earlier hearlier hmatch']
    · simp [hmatch']

/-! ## Agreement -/

/-- A candidate that did not normalize is denied on both sides. -/
theorem bridged_of_denyWith {reason : ReasonCode}
    (h : evaluateScopeCandidate candidate compiled now = denyWith reason) :
    bridgedDecision candidate compiled now = .deny := by
  unfold bridgedDecision
  rw [h]
  rfl

/-- Where nothing that matches has expired, the collected rules decide the same. -/
theorem bridged_of_collected (hids : (compiled.rules.map (·.ruleId)).Nodup) {acc : Collected}
    (hexclusions : acc.exclusions ⊆ compiled.rules.filter (·.exclusion))
    (hallows : acc.allows ⊆ compiled.rules.filter (·.effect = .allow))
    (hunknown : acc.unknown ⊆ compiled.rules.filter (·.effect = .unknown)) :
    (checkScope (scopeEvaluationFromCompiledCheck acc.check compiled)).decision =
      acc.check.decision := by
  obtain ⟨hdeny, -, hallow, hnone⟩ :=
    checkScope_decision (scopeEvaluationFromCompiledCheck acc.check compiled)
  by_cases hexcluded : acc.exclusions = []
  · by_cases hallowed : acc.allows = []
    · -- Only unknown rules are named, or none.
      have hnamed : acc.check.matchedRuleIds = acc.unknown.map (·.ruleId) ∧
          acc.check.decision = .deny := by
        unfold Collected.check
        rw [if_neg (not_not.mpr hexcluded), if_neg (not_not.mpr hallowed)]
        by_cases hempty : acc.unknown = []
        · rw [if_neg (not_not.mpr hempty), hempty]
          exact ⟨rfl, rfl⟩
        · rw [if_pos hempty]
          exact ⟨rfl, rfl⟩
      obtain ⟨hexcludedIff, hincludedIff⟩ := excluded_bridge_iff hids
        (fun rule hrule => (List.mem_filter.mp (hunknown hrule)).1) hnamed.1
      have heffect : ∀ rule ∈ acc.unknown, rule.effect = .unknown := fun rule hrule =>
        of_decide_eq_true (List.mem_filter.mp (hunknown hrule)).2
      rw [hnone, hnamed.2]
      · rw [hexcludedIff]
        rintro ⟨rule, hrule, hexclusion⟩
        simp [CompiledScopeRule.exclusion, heffect rule hrule] at hexclusion
      · unfold scopeEvaluationFromCompiledCheck
        rw [hnamed.2]
        rfl
      · rw [hincludedIff]
        rintro ⟨rule, hrule, hallow⟩
        rw [heffect rule hrule] at hallow
        cases hallow
    · have hcheck : acc.check = ⟨.allow, .allowed, acc.allows.map (·.ruleId), .inScope⟩ := by
        unfold Collected.check
        rw [if_neg (not_not.mpr hexcluded), if_pos hallowed]
      have hnamed : acc.check.matchedRuleIds = acc.allows.map (·.ruleId) := by rw [hcheck]
      obtain ⟨hexcludedIff, hincludedIff⟩ := excluded_bridge_iff hids
        (fun rule hrule => (List.mem_filter.mp (hallows hrule)).1) hnamed
      have heffect : ∀ rule ∈ acc.allows, rule.effect = .allow := fun rule hrule =>
        of_decide_eq_true (List.mem_filter.mp (hallows hrule)).2
      rw [hallow]
      · rw [hcheck]
      · rw [hexcludedIff]
        rintro ⟨rule, hrule, hexclusion⟩
        simp [CompiledScopeRule.exclusion, heffect rule hrule] at hexclusion
      · rw [hcheck]
        rfl
      · obtain ⟨rule, hrule⟩ := List.exists_mem_of_ne_nil _ hallowed
        exact hincludedIff.mpr ⟨rule, hrule, heffect rule hrule⟩
  · have hcheck :
        acc.check = ⟨.deny, .scopeDenied, acc.exclusions.map (·.ruleId), .outOfScope⟩ := by
      unfold Collected.check
      rw [if_pos hexcluded]
    have hnamed : acc.check.matchedRuleIds = acc.exclusions.map (·.ruleId) := by rw [hcheck]
    obtain ⟨hexcludedIff, -⟩ := excluded_bridge_iff hids
      (fun rule hrule => (List.mem_filter.mp (hexclusions hrule)).1) hnamed
    obtain ⟨rule, hrule⟩ := List.exists_mem_of_ne_nil _ hexcluded
    rw [hdeny (hexcludedIff.mpr ⟨rule, hrule, (List.mem_filter.mp (hexclusions hrule)).2⟩), hcheck]

/-- **The bridge and expiry.**  Core decides as the compiled scope did, exactly unless the
rule whose expiry asks for the review is an exclusion. -/
theorem bridged_decision_iff (candidate : ScopeCandidate) (compiled : CompiledScope)
    (now : Instant) (hids : (compiled.rules.map (·.ruleId)).Nodup) :
    bridgedDecision candidate compiled now =
        (evaluateScopeCandidate candidate compiled now).decision ↔
      ∀ rule, FirstExpired candidate compiled now rule → rule.exclusion = false := by
  by_cases hclean : candidate.normalizationError = none ∧
      ∃ path, candidate.scopeMatchPath = some path
  · obtain ⟨hclean, path, hpath⟩ := hclean
    have hstopped : ∀ check, collect candidate path now compiled.rules ⟨[], [], []⟩ =
        .error check → evaluateScopeCandidate candidate compiled now = check := by
      intro check hcheck
      simp only [evaluateScopeCandidate, hclean, hpath, hcheck]
    have hwalked : ∀ acc, collect candidate path now compiled.rules ⟨[], [], []⟩ = .ok acc →
        evaluateScopeCandidate candidate compiled now = acc.check := by
      intro acc hacc
      simp only [evaluateScopeCandidate, hclean, hpath, hacc]
    have hcollect : collect candidate path now compiled.rules ⟨[], [], []⟩ = _ :=
      collect_eq candidate path now compiled.rules ⟨[], [], []⟩
    cases hfind : (matching candidate path compiled.rules).find? (·.expired now) with
    | some rule =>
      rw [hfind] at hcollect
      have hcheck := hstopped (expiredCheck rule) hcollect
      have hfirst := (find_expired_iff hclean hpath).mp hfind
      have hmem : [rule] ⊆ compiled.rules := by
        obtain ⟨before, after, hrules, -⟩ := hfirst
        rw [hrules]
        simp
      have hnamed : (expiredCheck rule).matchedRuleIds = [rule].map (·.ruleId) := rfl
      obtain ⟨hexcludedIff, -⟩ := excluded_bridge_iff hids hmem hnamed
      obtain ⟨hdeny, hreview, -⟩ :=
        checkScope_decision (scopeEvaluationFromCompiledCheck (expiredCheck rule) compiled)
      unfold bridgedDecision
      rw [hcheck]
      constructor
      · intro hsame other hother
        obtain rfl : rule = other :=
          Option.some.inj (hfind.symm.trans ((find_expired_iff hclean hpath).mpr hother))
        by_contra hexclusion
        rw [hdeny (hexcludedIff.mpr ⟨rule, List.mem_cons_self, by simpa using hexclusion⟩)] at hsame
        cases hsame
      · intro hall
        have hexclusion := hall rule hfirst
        refine hreview (fun hexcluded => ?_) rfl
        obtain ⟨other, hother, hother'⟩ := hexcludedIff.mp hexcluded
        obtain rfl := List.mem_singleton.mp hother
        rw [hexclusion] at hother'
        cases hother'
    | none =>
      rw [hfind] at hcollect
      have hcheck := hwalked _ hcollect
      unfold bridgedDecision
      rw [hcheck]
      refine iff_of_true (bridged_of_collected hids ?_ ?_ ?_) fun rule hrule => ?_
      · exact (List.filter_sublist.filter _).subset
      · exact (List.filter_sublist.filter _).subset
      · exact (List.filter_sublist.filter _).subset
      · rw [(find_expired_iff hclean hpath).mpr hrule] at hfind
        cases hfind
  · have hdenied : ∃ reason, evaluateScopeCandidate candidate compiled now = denyWith reason := by
      unfold evaluateScopeCandidate
      split
      · exact ⟨_, rfl⟩
      · exact ⟨_, rfl⟩
      · exact ⟨_, rfl⟩
      · exact ⟨_, rfl⟩
      next hnone =>
        split
        · exact ⟨_, rfl⟩
        next path hpath => exact absurd ⟨hnone, path, hpath⟩ hclean
    obtain ⟨reason, hreason⟩ := hdenied
    refine iff_of_true ?_ fun rule hfirst => ?_
    · rw [bridged_of_denyWith hreason, hreason]
      rfl
    · obtain ⟨-, -, -, ⟨hnone, path, hpath, -⟩, -⟩ := hfirst
      exact absurd ⟨hnone, path, hpath⟩ hclean

/-- A scope whose exclusion has run out. -/
def lapsedExclusion : CompiledScope :=
  { rules :=
    [{ ruleId := "rule-deny".toList, effect := .deny, scheme := "https".toList,
       host := some "api.example.com".toList, hostPattern := none, port := 443,
       pathPrefix := none, sourceReference := "scope-src".toList, expiresAt := some 0 }] }

/-- **A lapsed exclusion** is reviewed by the compiled scope and denied by Core. -/
theorem lapsed_exclusion_denied :
    ¬ ∀ (candidate : ScopeCandidate) (compiled : CompiledScope) (now : Instant),
      (compiled.rules.map (·.ruleId)).Nodup →
        bridgedDecision candidate compiled now =
          (evaluateScopeCandidate candidate compiled now).decision := by
  intro hall
  have hsame := hall adminCandidate lapsedExclusion 1 (by decide)
  exact absurd hsame (by decide)

/-- A lapsed allow is reviewed on both sides. -/
theorem bridged_decision_lapsed_allow :
    bridgedDecision adminCandidate lapsedScope 1 =
      (evaluateScopeCandidate adminCandidate lapsedScope 1).decision := by
  refine (bridged_decision_iff adminCandidate lapsedScope 1 (by decide)).mpr fun rule hfirst => ?_
  obtain ⟨before, after, hrules, -, hexpired, hbefore⟩ := hfirst
  cases before with
  | nil =>
    obtain rfl : _ = rule := (List.cons.inj hrules).1
    rfl
  | cons earlier before =>
    obtain rfl : _ = earlier := (List.cons.inj hrules).1
    have hfresh := hbefore _ List.mem_cons_self ⟨rfl, _, rfl, by decide⟩
    cases hfresh

end Zest.Execution
