import Zest.Text

/-! # Scope compilation and evaluation

Core decides about a normalized candidate by walking the compiled rules.  A
rule that matches is collected under its effect, and the collected rules are
then read in a fixed order: exclusions, allows, unknowns.  A rule that matches
but has expired ends the walk at once.

This module holds the rules, their compilation and the walk, and settles what
the order of the rules can change.  The verdict depends only on which kinds of
rule match (`verdict`), so it is the same for every order; but one expired
match decides alone, whatever else matches, so an exclusion wins only where
nothing that matches has expired (`exclusions_win_iff`).
-/
namespace Zest

/-- An aware `datetime`: the instant it names. -/
abbrev Instant := Int

inductive ScopeRuleEffect where
  | allow
  | deny
  | outOfScope
  | unknown
  deriving DecidableEq, Repr

inductive ScopeDecision where
  | allow
  | deny
  | requireHumanReview
  deriving DecidableEq, Repr

inductive ScopeClassification where
  | inScope
  | unknown
  | outOfScope
  deriving DecidableEq, Repr

/-- The reason codes that the evaluation of a scope and of an execution gives. -/
inductive ReasonCode where
  | allowed
  | authorizationMissing
  | authorizationInactive
  | scopeDenied
  | scopeNotExplicitlyAllowed
  | scopeAmbiguous
  | budgetExhausted
  | budgetMismatch
  | approvalRequired
  | approvalRejected
  | approvalInvalidActor
  | approvalSubjectMismatch
  | approvalNotRecorded
  | sideEffectLevelDenied
  | capabilityAuthorizationMissing
  | unknownCapability
  | unknownAction
  | unsupportedCapabilityVersion
  | definitionFingerprintMismatch
  | riskUnderstatement
  | riskExceedsCapability
  | sideEffectBindingMismatch
  | scopePathAmbiguous
  | scopeNormalizationInvalid
  | scopeUserinfoDenied
  | scopeWildcardRejected
  | scopeUnknownClassification
  | scopeExpired
  deriving DecidableEq, Repr

/-- Why normalization refused a target.  `normalization_error` is one of the
code's string constants. -/
inductive NormalizationError where
  | userinfo
  | wildcard
  | pathAmbiguous
  | idna
  | ipv6
  | ipv4
  | parse
  | emptyHost
  deriving DecidableEq, Repr

structure ScopeCandidate where
  rawTarget : Text
  normalizedScheme : Option Text
  normalizedHost : Option Text
  normalizedPort : Option Nat
  rawPath : Text
  scopeMatchPath : Option Text
  normalizationError : Option NormalizationError
  deriving DecidableEq, Repr

structure ScopeRuleDefinition where
  ruleId : Text
  effect : ScopeRuleEffect
  scheme : Text
  host : Option Text
  port : Option Int
  pathPrefix : Option Text
  sourceReference : Text
  hostPattern : Option Text
  expiresAt : Option Instant
  deriving DecidableEq, Repr

structure CompiledScopeRule where
  ruleId : Text
  effect : ScopeRuleEffect
  scheme : Text
  host : Option Text
  hostPattern : Option Text
  port : Nat
  pathPrefix : Option Text
  sourceReference : Text
  expiresAt : Option Instant
  deriving DecidableEq, Repr

structure CompiledScope where
  rules : List CompiledScopeRule
  deriving DecidableEq, Repr

structure ScopeCheck where
  decision : ScopeDecision
  reasonCode : ReasonCode
  matchedRuleIds : List Text
  classification : ScopeClassification
  deriving DecidableEq, Repr

/-- `DEFAULT_SCHEME_PORTS`. -/
def defaultSchemePort (scheme : Text) : Option Nat :=
  if scheme = "http".toList then some 80
  else if scheme = "https".toList then some 443
  else none

/-! ## Compilation -/

section Compile

variable (lower : Text → Text)

/-- `ScopeRuleDefinition.__post_init__`: the text of the `CoreInputError`. -/
def ScopeRuleDefinition.postInit (r : ScopeRuleDefinition) : Except String Unit := do
  if r.ruleId.strip = [] then throw "rule_id must be a non-empty opaque id"
  if r.sourceReference.strip = [] then
    throw "source_reference must be a non-empty opaque id"
  if r.scheme.strip = [] then throw "scheme must be a non-empty string"
  if r.host.isSome ∧ r.hostPattern.isSome then
    throw "host and host_pattern are mutually exclusive"
  if r.host = none ∧ r.hostPattern = none then throw "host or host_pattern is required"
  if let some host := r.host then
    if host.strip = [] then throw "host must be a non-empty string"
    if '*' ∈ host then throw "wildcard is not allowed in exact host"
  if let some pattern := r.hostPattern then
    if !pattern.startsWith "*.".toList then throw "host_pattern must start with '*.'"
    let apex := lower (Text.strip (pattern.drop 2))
    if apex = [] ∨ '*' ∈ apex then
      throw "host_pattern apex must be a non-empty literal host"
  if '*' ∈ r.scheme then throw "wildcard scheme is not allowed"
  if let some port := r.port then
    if port < 1 then throw "port must be a positive integer or None"
  if let some pathPrefix := r.pathPrefix then
    if !pathPrefix.startsWith ['/'] then throw "path_prefix must be an absolute path or None"

/-- One turn of the loop of `compile_scope_rules`. -/
def compileScopeRule (rule : ScopeRuleDefinition) : Except String CompiledScopeRule :=
  let scheme := Text.strip (lower rule.scheme)
  match defaultSchemePort scheme with
  | none => throw "scheme must be http or https"
  | some defaultPort =>
    return {
      ruleId := rule.ruleId
      effect := rule.effect
      scheme := scheme
      host := rule.host.map fun h => lower (h.stripBy (fun c => c == '[' || c == ']'))
      hostPattern :=
        if rule.host.isSome then none else rule.hostPattern.map fun p => lower p.strip
      port := (rule.port.map Int.toNat).getD defaultPort
      pathPrefix := rule.pathPrefix
      sourceReference := rule.sourceReference
      expiresAt := rule.expiresAt }

/-- `compile_scope_rules`, of rules that were built by their constructor. -/
def compileScopeRules (rules : List ScopeRuleDefinition) : Except String CompiledScope := do
  rules.forM (ScopeRuleDefinition.postInit lower)
  return { rules := ← rules.mapM (compileScopeRule lower) }

end Compile

/-! ## Evaluation -/

/-- `_host_matches`. -/
def hostMatches (host : Option Text) (rule : CompiledScopeRule) : Bool :=
  match host with
  | none => false
  | some host =>
    match rule.host, rule.hostPattern with
    | some h, _ => host == h
    | none, some pattern =>
      let apex := pattern.drop 2
      host != apex && host.endsWith ('.' :: apex)
    | none, none => false

/-- `_origin_matches`. -/
def originMatches (candidate : ScopeCandidate) (rule : CompiledScopeRule) : Bool :=
  candidate.normalizedScheme == some rule.scheme &&
  hostMatches candidate.normalizedHost rule &&
  candidate.normalizedPort == some rule.port

/-- `_path_prefix_matches`. -/
def pathPrefixMatches (path pre : Text) : Bool :=
  if path = pre then true
  else if pre.endsWith ['/'] then path.startsWith pre
  else path.startsWith (pre ++ ['/'])

/-- The rule speaks about this path: it has no prefix, or the prefix matches. -/
def pathMatches (path : Text) (rule : CompiledScopeRule) : Bool :=
  match rule.pathPrefix with
  | none => true
  | some pre => pathPrefixMatches path pre

namespace CompiledScopeRule

/-- `rule.expires_at is not None and rule.expires_at <= evaluated_at`. -/
def expired (now : Instant) (rule : CompiledScopeRule) : Bool :=
  match rule.expiresAt with
  | none => false
  | some t => t ≤ now

/-- `rule.effect in (DENY, OUT_OF_SCOPE)`. -/
def exclusion (rule : CompiledScopeRule) : Bool :=
  rule.effect = .deny || rule.effect = .outOfScope

end CompiledScopeRule

/-- `_deny`. -/
def denyWith (reason : ReasonCode) : ScopeCheck :=
  { decision := .deny, reasonCode := reason, matchedRuleIds := [],
    classification := .outOfScope }

/-- The three lists that the loop of `evaluate_scope_candidate` fills. -/
structure Collected where
  exclusions : List CompiledScopeRule
  allows : List CompiledScopeRule
  unknown : List CompiledScopeRule

/-- The loop of `evaluate_scope_candidate`: the lists it fills, or the check it
returns from inside at the first match that has expired. -/
def collect (candidate : ScopeCandidate) (path : Text) (now : Instant) :
    List CompiledScopeRule → Collected → Except ScopeCheck Collected
  | [], acc => .ok acc
  | rule :: rules, acc =>
    if !originMatches candidate rule then collect candidate path now rules acc
    else if !pathMatches path rule then collect candidate path now rules acc
    else if rule.expired now then
      .error { decision := .requireHumanReview, reasonCode := .scopeExpired,
               matchedRuleIds := [rule.ruleId], classification := .outOfScope }
    else match rule.effect with
      | .deny | .outOfScope =>
        collect candidate path now rules { acc with exclusions := acc.exclusions ++ [rule] }
      | .allow => collect candidate path now rules { acc with allows := acc.allows ++ [rule] }
      | .unknown => collect candidate path now rules { acc with unknown := acc.unknown ++ [rule] }

/-- What follows the loop of `evaluate_scope_candidate`. -/
def Collected.check (acc : Collected) : ScopeCheck :=
  if acc.exclusions ≠ [] then
    { decision := .deny, reasonCode := .scopeDenied,
      matchedRuleIds := acc.exclusions.map (·.ruleId), classification := .outOfScope }
  else if acc.allows ≠ [] then
    { decision := .allow, reasonCode := .allowed,
      matchedRuleIds := acc.allows.map (·.ruleId), classification := .inScope }
  else if acc.unknown ≠ [] then
    { decision := .deny, reasonCode := .scopeUnknownClassification,
      matchedRuleIds := acc.unknown.map (·.ruleId), classification := .unknown }
  else
    { decision := .deny, reasonCode := .scopeNotExplicitlyAllowed,
      matchedRuleIds := [], classification := .unknown }

/-- `evaluate_scope_candidate`. -/
def evaluateScopeCandidate (candidate : ScopeCandidate) (compiled : CompiledScope)
    (now : Instant) : ScopeCheck :=
  match candidate.normalizationError with
  | some .userinfo => denyWith .scopeUserinfoDenied
  | some .wildcard => denyWith .scopeWildcardRejected
  | some .pathAmbiguous => denyWith .scopePathAmbiguous
  | some _ => denyWith .scopeNormalizationInvalid
  | none =>
    match candidate.scopeMatchPath with
    | none => denyWith .scopePathAmbiguous
    | some path =>
      match collect candidate path now compiled.rules ⟨[], [], []⟩ with
      | .error check => check
      | .ok acc => acc.check

/-! ## What the walk finds -/

/-- The rule matches a candidate whose path is `path`. -/
def ruleMatches (candidate : ScopeCandidate) (path : Text) (rule : CompiledScopeRule) : Bool :=
  originMatches candidate rule && pathMatches path rule

/-- The check that an expired match returns. -/
def expiredCheck (rule : CompiledScopeRule) : ScopeCheck :=
  { decision := .requireHumanReview, reasonCode := .scopeExpired,
    matchedRuleIds := [rule.ruleId], classification := .outOfScope }

section Walk

variable (candidate : ScopeCandidate) (path : Text) (now : Instant)

/-- The rules that match, in the order of the scope. -/
def matching (rules : List CompiledScopeRule) : List CompiledScopeRule :=
  rules.filter (ruleMatches candidate path)

theorem mem_matching {rules : List CompiledScopeRule} {r : CompiledScopeRule} :
    r ∈ matching candidate path rules ↔ r ∈ rules ∧ ruleMatches candidate path r = true :=
  List.mem_filter

/-- **The loop in closed form.**  The first expired match ends it; without one
the three lists are the matching rules, sorted by effect. -/
theorem collect_eq (rules : List CompiledScopeRule) (acc : Collected) :
    collect candidate path now rules acc =
      match (matching candidate path rules).find? (·.expired now) with
      | some r => .error (expiredCheck r)
      | none => .ok
        { exclusions := acc.exclusions ++
            (matching candidate path rules).filter (·.exclusion)
          allows := acc.allows ++ (matching candidate path rules).filter (·.effect = .allow)
          unknown := acc.unknown ++
            (matching candidate path rules).filter (·.effect = .unknown) } := by
  induction rules generalizing acc with
  | nil => simp [collect, matching]
  | cons r rules ih =>
    unfold collect
    by_cases hm : ruleMatches candidate path r = true
    · obtain ⟨ho, hp⟩ : originMatches candidate r = true ∧ pathMatches path r = true := by
        simpa [ruleMatches] using hm
      rw [if_neg (by simp [ho]), if_neg (by simp [hp])]
      have hcons : matching candidate path (r :: rules) = r :: matching candidate path rules := by
        simp [matching, hm]
      rw [hcons]
      by_cases he : r.expired now = true
      · simp [he, expiredCheck]
      · simp only [he, Bool.false_eq_true, if_false]
        cases heff : r.effect <;> simp [ih, heff, he, CompiledScopeRule.exclusion]
    · have hcons : matching candidate path (r :: rules) = matching candidate path rules := by
        simp [matching, hm]
      rw [hcons, ← ih]
      by_cases ho : originMatches candidate r = true
      · have hp : pathMatches path r = false := by
          simpa [ruleMatches, ho] using hm
        simp [ho, hp]
      · simp [ho]

end Walk

/-- What a check says apart from the rules it names. -/
def ScopeCheck.verdict (check : ScopeCheck) :
    ScopeDecision × ReasonCode × ScopeClassification :=
  (check.decision, check.reasonCode, check.classification)

/-- The verdict as a function of which kinds of rule match: an expired one, an
exclusion, an allow, an unknown. -/
def verdict (expired exclusion allow unknown : Bool) :
    ScopeDecision × ReasonCode × ScopeClassification :=
  if expired then (.requireHumanReview, .scopeExpired, .outOfScope)
  else if exclusion then (.deny, .scopeDenied, .outOfScope)
  else if allow then (.allow, .allowed, .inScope)
  else if unknown then (.deny, .scopeUnknownClassification, .unknown)
  else (.deny, .scopeNotExplicitlyAllowed, .unknown)

theorem ne_nil_of_filter {α : Type} (p : α → Bool) (l : List α) :
    l.filter p ≠ [] ↔ l.any p = true := by
  simp [List.filter_eq_nil_iff]

/-- **The verdict depends only on which kinds of rule match.** -/
theorem evaluate_verdict {candidate : ScopeCandidate} {path : Text}
    (hclean : candidate.normalizationError = none)
    (hpath : candidate.scopeMatchPath = some path) (compiled : CompiledScope) (now : Instant) :
    (evaluateScopeCandidate candidate compiled now).verdict =
      verdict ((matching candidate path compiled.rules).any (·.expired now))
        ((matching candidate path compiled.rules).any (·.exclusion))
        ((matching candidate path compiled.rules).any (·.effect = .allow))
        ((matching candidate path compiled.rules).any (·.effect = .unknown)) := by
  simp only [evaluateScopeCandidate, hclean, hpath, collect_eq]
  cases hf : (matching candidate path compiled.rules).find? (·.expired now) with
  | some r =>
    have hany : (matching candidate path compiled.rules).any (·.expired now) = true :=
      List.any_eq_true.2 ⟨r, List.mem_of_find?_eq_some hf, List.find?_some hf⟩
    simp [hany, verdict, ScopeCheck.verdict, expiredCheck]
  | none =>
    have hany : (matching candidate path compiled.rules).any (·.expired now) = false := by
      rw [List.find?_eq_none] at hf
      exact List.any_eq_false.2 hf
    simp only [hany, verdict, Collected.check, List.nil_append, ne_nil_of_filter,
      Bool.false_eq_true, if_false]
    split
    · rfl
    · split
      · rfl
      · split <;> rfl

/-! ## Exclusions and the order of the rules -/

/-- The rule matches the candidate: the candidate normalized, and its origin
and its path are the rule's. -/
def CompiledScopeRule.Matches (rule : CompiledScopeRule) (candidate : ScopeCandidate) : Prop :=
  candidate.normalizationError = none ∧
    ∃ path, candidate.scopeMatchPath = some path ∧ ruleMatches candidate path rule = true

/-- An exclusion that matches and has not expired decides. -/
def ExclusionsWin (candidate : ScopeCandidate) (compiled : CompiledScope) (now : Instant) :
    Prop :=
  (∃ r ∈ compiled.rules, r.exclusion = true ∧ r.expired now = false ∧ r.Matches candidate) →
    (evaluateScopeCandidate candidate compiled now).decision = .deny ∧
    (evaluateScopeCandidate candidate compiled now).reasonCode = .scopeDenied

/-- The order of the rules changes neither decision nor classification. -/
def OrderInvariant (candidate : ScopeCandidate) (compiled : CompiledScope) (now : Instant) :
    Prop :=
  ∀ rules', compiled.rules.Perm rules' →
    (evaluateScopeCandidate candidate ⟨rules'⟩ now).decision =
      (evaluateScopeCandidate candidate compiled now).decision ∧
    (evaluateScopeCandidate candidate ⟨rules'⟩ now).classification =
      (evaluateScopeCandidate candidate compiled now).classification

theorem any_matching_perm {rules rules' : List CompiledScopeRule} (h : rules.Perm rules')
    (candidate : ScopeCandidate) (path : Text) (p : CompiledScopeRule → Bool) :
    (matching candidate path rules').any p = (matching candidate path rules).any p := by
  rw [Bool.eq_iff_iff, List.any_eq_true, List.any_eq_true]
  simp only [mem_matching, h.mem_iff]

/-- A candidate that did not normalize gets its check before any rule is read. -/
theorem evaluate_rules_irrelevant {candidate : ScopeCandidate}
    (h : candidate.normalizationError ≠ none ∨ candidate.scopeMatchPath = none)
    (compiled compiled' : CompiledScope) (now : Instant) :
    evaluateScopeCandidate candidate compiled now =
      evaluateScopeCandidate candidate compiled' now := by
  unfold evaluateScopeCandidate
  rcases he : candidate.normalizationError with _ | e
  · have hp : candidate.scopeMatchPath = none := h.resolve_left (fun hne => hne he)
    simp [hp]
  · cases e <;> rfl

/-- The order of the rules never matters, expired rules included. -/
theorem orderInvariant (candidate : ScopeCandidate) (compiled : CompiledScope)
    (now : Instant) : OrderInvariant candidate compiled now := by
  intro rules' hperm
  rcases he : candidate.normalizationError with _ | e
  · rcases hp : candidate.scopeMatchPath with _ | path
    · rw [evaluate_rules_irrelevant (Or.inr hp) ⟨rules'⟩ compiled now]
      exact ⟨rfl, rfl⟩
    · have hv : (evaluateScopeCandidate candidate ⟨rules'⟩ now).verdict =
          (evaluateScopeCandidate candidate compiled now).verdict := by
        rw [evaluate_verdict he hp, evaluate_verdict he hp]
        simp only [any_matching_perm hperm]
      exact ⟨congrArg Prod.fst hv, congrArg (·.2.2) hv⟩
  · rw [evaluate_rules_irrelevant (Or.inl (by simp [he])) ⟨rules'⟩ compiled now]
    exact ⟨rfl, rfl⟩

/-- An expired match decides, whatever else matches. -/
theorem evaluate_expired {candidate : ScopeCandidate} {compiled : CompiledScope} {now : Instant}
    {r : CompiledScopeRule} (hr : r ∈ compiled.rules) (hm : r.Matches candidate)
    (hexp : r.expired now = true) :
    (evaluateScopeCandidate candidate compiled now).verdict =
      (.requireHumanReview, .scopeExpired, .outOfScope) := by
  obtain ⟨hclean, path, hpath, hmatch⟩ := hm
  have hany : (matching candidate path compiled.rules).any (·.expired now) = true :=
    List.any_eq_true.2 ⟨r, (mem_matching ..).2 ⟨hr, hmatch⟩, hexp⟩
  rw [evaluate_verdict hclean hpath, hany]
  rfl

/-- Where nothing that matches has expired, a matching exclusion decides. -/
theorem evaluate_exclusion {candidate : ScopeCandidate} {compiled : CompiledScope}
    {now : Instant} {r : CompiledScopeRule} (hr : r ∈ compiled.rules)
    (hm : r.Matches candidate) (hexcl : r.exclusion = true)
    (hfresh : ∀ s ∈ compiled.rules, s.Matches candidate → s.expired now = false) :
    (evaluateScopeCandidate candidate compiled now).verdict =
      (.deny, .scopeDenied, .outOfScope) := by
  obtain ⟨hclean, path, hpath, hmatch⟩ := hm
  have hexp : (matching candidate path compiled.rules).any (·.expired now) = false := by
    rw [List.any_eq_false]
    intro s hs
    obtain ⟨hs, hsm⟩ := (mem_matching ..).1 hs
    simp [hfresh s hs ⟨hclean, path, hpath, hsm⟩]
  have hany : (matching candidate path compiled.rules).any (·.exclusion) = true :=
    List.any_eq_true.2 ⟨r, (mem_matching ..).2 ⟨hr, hmatch⟩, hexcl⟩
  rw [evaluate_verdict hclean hpath, hexp, hany]
  rfl

/-- **When exclusions win.**  The order of the rules never matters; an
unexpired exclusion that matches is overruled exactly when some other rule that
matches has expired. -/
theorem exclusions_win_iff (candidate : ScopeCandidate) (compiled : CompiledScope)
    (now : Instant) :
    (ExclusionsWin candidate compiled now ∧ OrderInvariant candidate compiled now) ↔
      ((∀ r ∈ compiled.rules, r.Matches candidate → r.exclusion = true → r.expired now = true) ∨
        ∀ r ∈ compiled.rules, r.Matches candidate → r.expired now = false) := by
  constructor
  · rintro ⟨hwin, -⟩
    by_cases hfresh : ∀ r ∈ compiled.rules, r.Matches candidate → r.expired now = false
    · exact Or.inr hfresh
    · refine Or.inl fun r hr hm hexcl => ?_
      obtain ⟨s, hs, hsm, hsexp⟩ :
          ∃ s ∈ compiled.rules, s.Matches candidate ∧ s.expired now = true := by
        simpa using hfresh
      have hreview : (evaluateScopeCandidate candidate compiled now).decision =
          .requireHumanReview := congrArg Prod.fst (evaluate_expired hs hsm hsexp)
      cases hexp : r.expired now with
      | true => rfl
      | false =>
        have hdeny := (hwin ⟨r, hr, hexcl, hexp, hm⟩).1
        rw [hreview] at hdeny
        cases hdeny
  · intro hcond
    refine ⟨?_, orderInvariant candidate compiled now⟩
    rintro ⟨r, hr, hexcl, hexp, hm⟩
    rcases hcond with hall | hfresh
    · rw [hall r hr hm hexcl] at hexp
      cases hexp
    · have hv := evaluate_exclusion hr hm hexcl hfresh
      exact ⟨congrArg Prod.fst hv, congrArg (·.2.1) hv⟩

theorem verdict_allow_iff (expired exclusion allow unknown : Bool) :
    (verdict expired exclusion allow unknown).1 = .allow ↔
      (expired = false ∧ exclusion = false) ∧ allow = true := by
  cases expired <;> cases exclusion <;> cases allow <;> cases unknown <;> decide

/-- **When a candidate is allowed.**  It normalized, nothing that matches has
expired or excludes, and some allow matches. -/
theorem evaluate_allow_iff (candidate : ScopeCandidate) (compiled : CompiledScope)
    (now : Instant) :
    (evaluateScopeCandidate candidate compiled now).decision = .allow ↔
      candidate.normalizationError = none ∧
      (∀ r ∈ compiled.rules, r.Matches candidate →
        r.expired now = false ∧ r.exclusion = false) ∧
      ∃ r ∈ compiled.rules, r.Matches candidate ∧ r.effect = .allow := by
  rcases he : candidate.normalizationError with _ | e
  · rcases hp : candidate.scopeMatchPath with _ | path
    · simp [evaluateScopeCandidate, he, hp, denyWith, CompiledScopeRule.Matches]
    · have hmatches : ∀ r, r.Matches candidate ↔ ruleMatches candidate path r = true := by
        simp [CompiledScopeRule.Matches, he, hp]
      have hv : (evaluateScopeCandidate candidate compiled now).decision = _ :=
        congrArg Prod.fst (evaluate_verdict he hp compiled now)
      rw [hv, verdict_allow_iff, List.any_eq_false, List.any_eq_false, List.any_eq_true]
      simp only [mem_matching, hmatches, Bool.not_eq_true, decide_eq_true_eq, true_and,
        and_assoc, and_imp]
      constructor
      · rintro ⟨hexp, hexcl, hallow⟩
        exact ⟨fun r hr hm => ⟨hexp r hr hm, hexcl r hr hm⟩, hallow⟩
      · rintro ⟨hfresh, hallow⟩
        exact ⟨fun r hr hm => (hfresh r hr hm).1, fun r hr hm => (hfresh r hr hm).2, hallow⟩
  · have hdeny : (evaluateScopeCandidate candidate compiled now).decision = .deny := by
      unfold evaluateScopeCandidate
      rw [he]
      cases e <;> rfl
    rw [hdeny]
    exact iff_of_false (by decide) (fun h => by cases h.1)

/-- A scope with an allow that has run out and an exclusion that has not. -/
def lapsedScope : CompiledScope :=
  { rules :=
    [{ ruleId := "rule-allow".toList, effect := .allow, scheme := "https".toList,
       host := some "api.example.com".toList, hostPattern := none, port := 443,
       pathPrefix := none, sourceReference := "scope-src".toList, expiresAt := some 0 },
     { ruleId := "rule-deny-admin".toList, effect := .deny, scheme := "https".toList,
       host := some "api.example.com".toList, hostPattern := none, port := 443,
       pathPrefix := some "/admin".toList, sourceReference := "scope-src".toList,
       expiresAt := none }] }

/-- What normalization makes of `https://api.example.com/admin`. -/
def adminCandidate : ScopeCandidate :=
  { rawTarget := "https://api.example.com/admin".toList
    normalizedScheme := some "https".toList
    normalizedHost := some "api.example.com".toList
    normalizedPort := some 443
    rawPath := "/admin".toList
    scopeMatchPath := some "/admin".toList
    normalizationError := none }

/-- The lapsed allow sends an excluded path to human review. -/
theorem lapsed_allow_outranks_exclusion :
    ¬ (ExclusionsWin adminCandidate lapsedScope 1 ∧
        OrderInvariant adminCandidate lapsedScope 1) := by
  rintro ⟨hwin, -⟩
  have hdeny := hwin
    ⟨_, List.mem_cons_of_mem _ List.mem_cons_self, rfl, rfl, rfl, _, rfl, by decide⟩
  exact absurd hdeny.1 (by decide)

end Zest
