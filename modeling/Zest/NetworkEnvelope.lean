import Zest.UrlNormalize

/-! # The network envelope a Worker enforces

Core decides about a target and hands the Worker an envelope: the target's
origin, the prefixes that were allowed on it and the prefixes that were denied.
The Worker then admits every URL it meets on its own, by a second matcher that
knows the envelope and not the rules.

Both matchers are written out here, with the derivation of the envelope and its
passage through the request.  The envelope keeps less than the rules say: it
has no exclusion that is written as a host pattern, no expiry, and its prefixes
are compared as strings.  So the Worker does not only tighten what Core
decided; `envelope_allows_iff` says for which URLs it does.
-/
namespace Zest

/-- `AuthorizedNetworkEnvelope`. -/
structure AuthorizedNetworkEnvelope where
  normalizedScheme : Text
  normalizedHost : Text
  normalizedPort : Nat
  documentPath : Text
  originWide : Bool
  allowedPathPrefixes : List Text
  deniedPathPrefixes : List Text
  loopbackOnly : Bool
  sourceScopeRuleIds : List Text
  authorizationDecisionReference : Option Text
  deriving DecidableEq, Repr

/-- `AuthorizedNetworkEnvelope.__post_init__`: the text of its `ValueError`. -/
def AuthorizedNetworkEnvelope.postInit (env : AuthorizedNetworkEnvelope) :
    Except String AuthorizedNetworkEnvelope :=
  if '*' ∈ env.normalizedHost ∨ '*' ∈ env.normalizedScheme then
    .error "wildcard envelope is not allowed"
  else if env.normalizedPort < 1 then
    .error "normalized_port must be a positive integer"
  else if !env.documentPath.startsWith ['/'] then
    .error "document_path must be an absolute path"
  else .ok env

/-! ## Core's side -/

/-- `_origin_matches` of the envelope's own module: an exact host, no pattern. -/
def exactOriginMatches (candidate : ScopeCandidate) (rule : CompiledScopeRule) : Bool :=
  candidate.normalizedScheme == some rule.scheme &&
  candidate.normalizedHost == rule.host &&
  candidate.normalizedPort == some rule.port

/-- The allows of the exact origin that the check names. -/
def matchedAllows (candidate : ScopeCandidate) (compiled : CompiledScope) (check : ScopeCheck) :
    List CompiledScopeRule :=
  compiled.rules.filter fun rule =>
    exactOriginMatches candidate rule && rule.effect = .allow &&
    check.matchedRuleIds.contains rule.ruleId

/-- The exclusions of the exact origin, matched or not. -/
def originDenies (candidate : ScopeCandidate) (compiled : CompiledScope) :
    List CompiledScopeRule :=
  compiled.rules.filter fun rule => exactOriginMatches candidate rule && rule.exclusion

/-- `rule.path_prefix or "/"`. -/
def deniedPathPrefix (rule : CompiledScopeRule) : Text :=
  match rule.pathPrefix with
  | none | some [] => ['/']
  | some pre => pre

/-- `derive_authorized_network_envelope`; `.error` is the `ValueError` of the
envelope's constructor. -/
def deriveAuthorizedNetworkEnvelope (candidate : ScopeCandidate) (compiled : CompiledScope)
    (check : ScopeCheck) (loopbackOnly : Bool) (authorizationDecisionReference : Option Text) :
    Except String (Option AuthorizedNetworkEnvelope) :=
  if check.decision ≠ .allow then .ok none
  else match candidate.normalizedScheme, candidate.normalizedHost, candidate.normalizedPort,
      candidate.scopeMatchPath with
    | some scheme, some host, some port, some path =>
      let allows := matchedAllows candidate compiled check
      some <$> AuthorizedNetworkEnvelope.postInit {
        normalizedScheme := scheme
        normalizedHost := host
        normalizedPort := port
        documentPath := path
        originWide := allows.any (·.pathPrefix.isNone)
        allowedPathPrefixes := allows.filterMap (·.pathPrefix)
        deniedPathPrefixes := (originDenies candidate compiled).map deniedPathPrefix
        loopbackOnly := loopbackOnly
        sourceScopeRuleIds := check.matchedRuleIds
        authorizationDecisionReference := authorizationDecisionReference }
    | _, _, _, _ => .ok none

/-- The `network_envelope` object of a Worker request, by its keys. -/
structure EnvelopeMapping where
  normalizedScheme : Text
  normalizedHost : Text
  normalizedPort : Nat
  documentPath : Text
  originWide : Bool
  allowedPathPrefixes : List Text
  deniedPathPrefixes : List Text
  loopbackOnly : Bool
  sourceScopeRuleIds : List Text
  authorizationDecisionReference : Option Text
  deriving DecidableEq, Repr

/-- `to_mapping`. -/
def AuthorizedNetworkEnvelope.toMapping (env : AuthorizedNetworkEnvelope) : EnvelopeMapping :=
  { normalizedScheme := env.normalizedScheme
    normalizedHost := env.normalizedHost
    normalizedPort := env.normalizedPort
    documentPath := env.documentPath
    originWide := env.originWide
    allowedPathPrefixes := env.allowedPathPrefixes
    deniedPathPrefixes := env.deniedPathPrefixes
    loopbackOnly := env.loopbackOnly
    sourceScopeRuleIds := env.sourceScopeRuleIds
    authorizationDecisionReference := env.authorizationDecisionReference }

/-! ## The Worker's side -/

/-- `BrowserNetworkEnvelope`. -/
structure BrowserNetworkEnvelope where
  normalizedScheme : Text
  normalizedHost : Text
  normalizedPort : Nat
  documentPath : Text
  originWide : Bool
  allowedPathPrefixes : List Text
  deniedPathPrefixes : List Text
  loopbackOnly : Bool
  sourceScopeRuleIds : List Text
  authorizationDecisionReference : Option Text
  deriving DecidableEq, Repr

variable (L : UrlCodecs)

/-- `parse_envelope`; `none` fails closed. -/
def parseEnvelope (mapping : EnvelopeMapping) : Option BrowserNetworkEnvelope :=
  let scheme := L.lower mapping.normalizedScheme.strip
  let host := L.lower mapping.normalizedHost.strip
  if '*' ∈ host ∨ '*' ∈ scheme then none
  else if scheme = [] ∨ host = [] then none
  else if mapping.normalizedPort < 1 then none
  else if !mapping.documentPath.startsWith ['/'] then none
  else some {
    normalizedScheme := scheme
    normalizedHost := host
    normalizedPort := mapping.normalizedPort
    documentPath := mapping.documentPath
    originWide := mapping.originWide
    allowedPathPrefixes := mapping.allowedPathPrefixes
    deniedPathPrefixes := mapping.deniedPathPrefixes
    loopbackOnly := mapping.loopbackOnly
    sourceScopeRuleIds := mapping.sourceScopeRuleIds
    authorizationDecisionReference := mapping.authorizationDecisionReference }

/-- The reasons `envelope_allows` gives for a refusal. -/
inductive EnvelopeRefusal where
  | unsupportedScheme
  | outsideEnvelope
  deriving DecidableEq, Repr

/-- `_path_ambiguous`. -/
def pathAmbiguous (path : Text) : Bool :=
  let lowered := L.lower path
  if path.contains '\\' || path.hasInfix "/../".toList || path.endsWith "/..".toList ||
      path.hasInfix "/./".toList || path.endsWith "/.".toList then true
  else if path.hasInfix "//".toList then true
  else path.contains '%' && (lowered.hasInfix "%2f".toList || lowered.hasInfix "%2e".toList)

/-- What the Worker reads off a URL. -/
structure WorkerUrl where
  scheme : Text
  host : Text
  port : Nat
  path : Text
  deriving DecidableEq, Repr

/-- `_split_url`. -/
def splitUrl (url : Text) : Except EnvelopeRefusal WorkerUrl :=
  if url.strip = [] then .error .outsideEnvelope
  else match urlsplit L url.strip with
  | none => .error .outsideEnvelope
  | some parts =>
    if parts.userinfo.1.isSome ∨ parts.userinfo.2.isSome then .error .outsideEnvelope
    else match defaultSchemePort (L.lower parts.scheme) with
    | none => .error .unsupportedScheme
    | some defaultPort =>
      let host := L.lower ((parts.hostname L).getD [])
      if host = [] then .error .outsideEnvelope
      else if '*' ∈ host then .error .outsideEnvelope
      else match parts.port with
      | none => .error .outsideEnvelope
      | some port =>
        let path := if parts.path = [] then ['/'] else parts.path
        if pathAmbiguous L path then .error .outsideEnvelope
        else .ok ⟨L.lower parts.scheme, host, port.getD defaultPort, path⟩

/-- `LOOPBACK_HOST`. -/
def loopbackHost : Text := "127.0.0.1".toList

/-- A prefix of the envelope applies to a path: it is not empty and the path
starts with it. -/
def prefixApplies (path pre : Text) : Bool := pre ≠ [] && path.startsWith pre

/-- `envelope_allows`; `none` stands for `(True, "")`. -/
def envelopeAllows (envelope : BrowserNetworkEnvelope) (url : Text) : Option EnvelopeRefusal :=
  match splitUrl L url with
  | .error reason => some reason
  | .ok parsed =>
    if envelope.loopbackOnly ∧ parsed.host ≠ loopbackHost then some .outsideEnvelope
    else if parsed.scheme ≠ envelope.normalizedScheme then some .outsideEnvelope
    else if parsed.host ≠ envelope.normalizedHost then some .outsideEnvelope
    else if parsed.port ≠ envelope.normalizedPort then some .outsideEnvelope
    else if envelope.deniedPathPrefixes.any (prefixApplies parsed.path) then
      some .outsideEnvelope
    else if envelope.originWide then none
    else if parsed.path = envelope.documentPath then none
    else if envelope.allowedPathPrefixes.any (prefixApplies parsed.path) then none
    else some .outsideEnvelope

/-! ## What each side keeps -/

variable {L}

theorem postInit_eq_ok {env env' : AuthorizedNetworkEnvelope} (h : env.postInit = .ok env') :
    env' = env := by
  unfold AuthorizedNetworkEnvelope.postInit at h
  repeat' split at h
  all_goals cases h
  rfl

theorem derive_eq_some {candidate : ScopeCandidate} {compiled : CompiledScope}
    {check : ScopeCheck} {loopbackOnly : Bool} {ref : Option Text}
    {env : AuthorizedNetworkEnvelope}
    (h : deriveAuthorizedNetworkEnvelope candidate compiled check loopbackOnly ref =
      .ok (some env)) :
    check.decision = .allow ∧
      env.deniedPathPrefixes = (originDenies candidate compiled).map deniedPathPrefix := by
  unfold deriveAuthorizedNetworkEnvelope at h
  split at h
  · cases h
  next hallow =>
  split at h
  · simp only [Functor.map, Except.map] at h
    split at h
    · cases h
    next hinit =>
    cases h
    obtain rfl := postInit_eq_ok hinit
    exact ⟨by simpa using hallow, rfl⟩
  · cases h

theorem parseEnvelope_eq_some {env : AuthorizedNetworkEnvelope} {benv : BrowserNetworkEnvelope}
    (h : parseEnvelope L env.toMapping = some benv) :
    benv.deniedPathPrefixes = env.deniedPathPrefixes := by
  simp only [parseEnvelope] at h
  repeat' split at h
  all_goals cases h
  rfl

theorem envelopeAllows_eq_none {benv : BrowserNetworkEnvelope} {url : Text}
    (h : envelopeAllows L benv url = none) :
    ∃ parsed, splitUrl L url = .ok parsed ∧
      ∀ pre ∈ benv.deniedPathPrefixes, prefixApplies parsed.path pre = false := by
  unfold envelopeAllows at h
  split at h
  · cases h
  next parsed hsplit =>
  refine ⟨parsed, hsplit, fun pre hpre => ?_⟩
  split at h
  · cases h
  split at h
  · cases h
  split at h
  · cases h
  split at h
  · cases h
  split at h
  · cases h
  next hdenied =>
  simpa using List.any_eq_false.1 (by simpa using hdenied) pre hpre

/-! ## Where the two matchers agree -/

/-- Core reads in the URL the candidate's own origin, and the path that the
Worker reads. -/
def ReadAlike (L : UrlCodecs) (candidate : ScopeCandidate) (url : Text) : Prop :=
  ∃ parsed, splitUrl L url = .ok parsed ∧
    (normalizeUrl L url).normalizedScheme = candidate.normalizedScheme ∧
    (normalizeUrl L url).normalizedHost = candidate.normalizedHost ∧
    (normalizeUrl L url).normalizedPort = candidate.normalizedPort ∧
    (normalizeUrl L url).scopeMatchPath = some parsed.path

/-- Some allow names the candidate's exact origin without a path prefix. -/
def WholeOriginAllowed (candidate : ScopeCandidate) (compiled : CompiledScope) : Prop :=
  ∃ r ∈ compiled.rules, exactOriginMatches candidate r = true ∧ r.effect = .allow ∧
    r.pathPrefix = none

/-- What the envelope leaves out does not bear on the URL. -/
structure EnvelopeCovers (L : UrlCodecs) (candidate : ScopeCandidate)
    (compiled : CompiledScope) (now : Instant) (url : Text) : Prop where
  /-- Core takes the URL for one. -/
  normalizes : (normalizeUrl L url).normalizationError = none
  /-- No rule that covers the URL has expired. -/
  unexpired : ∀ r ∈ compiled.rules, r.Matches (normalizeUrl L url) → r.expired now = false
  /-- No exclusion that is a host pattern covers the URL, nor any exclusion if
  Core and the Worker read the URL differently. -/
  exclusions : ∀ r ∈ compiled.rules, r.Matches (normalizeUrl L url) → r.exclusion = true →
    r.host.isSome = true ∧ ReadAlike L candidate url
  /-- The URL is the document's own or the whole origin is allowed; otherwise
  some allow covers it, with its prefix ending where a segment does. -/
  allowed : (ReadAlike L candidate url ∧ (WholeOriginAllowed candidate compiled ∨
      (normalizeUrl L url).scopeMatchPath = candidate.scopeMatchPath)) ∨
    ∃ r ∈ compiled.rules, r.Matches (normalizeUrl L url) ∧ r.effect = .allow

section Agreement

variable {candidate : ScopeCandidate} {compiled : CompiledScope} {url : Text}

theorem exactOriginMatches_iff {r : CompiledScopeRule} :
    exactOriginMatches candidate r = true ↔ candidate.normalizedScheme = some r.scheme ∧
      candidate.normalizedHost = r.host ∧ candidate.normalizedPort = some r.port := by
  simp [exactOriginMatches, and_assoc]

theorem originMatches_congr {candidate' : ScopeCandidate}
    (hs : candidate'.normalizedScheme = candidate.normalizedScheme)
    (hh : candidate'.normalizedHost = candidate.normalizedHost)
    (hp : candidate'.normalizedPort = candidate.normalizedPort) (r : CompiledScopeRule) :
    originMatches candidate' r = originMatches candidate r := by
  rw [originMatches, originMatches, hs, hh, hp]

/-- An exact-host rule that matches an origin names it exactly. -/
theorem exactOriginMatches_of_originMatches {r : CompiledScopeRule}
    (hr : r.host.isSome = true) (h : originMatches candidate r = true) :
    exactOriginMatches candidate r = true := by
  obtain ⟨host, hhost⟩ := Option.isSome_iff_exists.1 hr
  simp only [originMatches, Bool.and_eq_true, beq_iff_eq] at h
  obtain ⟨⟨hs, hm⟩, hp⟩ := h
  unfold hostMatches at hm
  rcases hc : candidate.normalizedHost with _ | host'
  · simp [hc] at hm
  · simp only [hc, hhost, beq_iff_eq] at hm
    exact exactOriginMatches_iff.2 ⟨hs, by rw [hc, hhost, hm], hp⟩

theorem originMatches_of_exactOriginMatches {r : CompiledScopeRule}
    (hhost : candidate.normalizedHost.isSome = true)
    (h : exactOriginMatches candidate r = true) : originMatches candidate r = true := by
  obtain ⟨hs, hh, hp⟩ := exactOriginMatches_iff.1 h
  obtain ⟨host, hc⟩ := Option.isSome_iff_exists.1 hhost
  have hr : r.host = some host := hh ▸ hc
  simp [originMatches, hostMatches, hs, hp, hc, hr]

/-- A denied prefix applies wherever the exclusion it comes from matches: a
string prefix is wider than a path prefix. -/
theorem prefixApplies_of_pathMatches {path : Text} {r : CompiledScopeRule}
    (habs : ['/'] <+: path) (h : pathMatches path r = true) :
    prefixApplies path (deniedPathPrefix r) = true := by
  have hroot : prefixApplies path ['/'] = true := by
    simpa [prefixApplies, Text.startsWith] using habs
  unfold pathMatches at h
  rcases hp : r.pathPrefix with _ | pre
  · simpa [deniedPathPrefix, hp] using hroot
  · rw [hp] at h
    rcases pre with _ | ⟨c, pre⟩
    · simpa [deniedPathPrefix, hp] using hroot
    · have hunder := (pathPrefixMatches_iff path (c :: pre)).1 h
      have hpre : c :: pre <+: path := by
        rcases hunder with rfl | hunder
        · exact List.prefix_refl _
        · split at hunder
          · exact hunder
          · exact (List.prefix_append _ _).trans hunder
      simpa [prefixApplies, deniedPathPrefix, hp, Text.startsWith] using hpre

theorem Matches.congr {candidate' : ScopeCandidate} {r : CompiledScopeRule}
    (he : candidate'.normalizationError = none)
    (hs : candidate'.normalizedScheme = candidate.normalizedScheme)
    (hh : candidate'.normalizedHost = candidate.normalizedHost)
    (hp : candidate'.normalizedPort = candidate.normalizedPort)
    (hpath : candidate'.scopeMatchPath = candidate.scopeMatchPath)
    (h : r.Matches candidate) : r.Matches candidate' := by
  obtain ⟨-, path, hpath', hm⟩ := h
  refine ⟨he, path, hpath.trans hpath', ?_⟩
  rw [ruleMatches, originMatches_congr hs hh hp]
  exact hm

end Agreement

/-- **Where the Worker only tightens.**  A URL that the Worker admits under the
envelope of an allowed target is allowed by Core exactly when what the envelope
leaves out does not bear on it. -/
theorem envelope_allows_iff (L : UrlCodecs) (compiled : CompiledScope) (now : Instant)
    (target : Text) (loopbackOnly : Bool) (ref : Option Text) (url : Text)
    (env : AuthorizedNetworkEnvelope) (benv : BrowserNetworkEnvelope)
    (hderive : deriveAuthorizedNetworkEnvelope (normalizeUrl L target) compiled
      (evaluateScopeCandidate (normalizeUrl L target) compiled now) loopbackOnly ref =
        .ok (some env))
    (hparse : parseEnvelope L env.toMapping = some benv)
    (haccept : envelopeAllows L benv url = none) :
    (evaluateScopeCandidate (normalizeUrl L url) compiled now).decision = .allow ↔
      EnvelopeCovers L (normalizeUrl L target) compiled now url := by
  obtain ⟨hallow, hdenied⟩ := derive_eq_some hderive
  obtain ⟨parsed, hsplit, happly⟩ := envelopeAllows_eq_none haccept
  rw [parseEnvelope_eq_some hparse, hdenied] at happly
  obtain ⟨-, -, t, ht, htm, hteff⟩ := (evaluate_allow_iff _ _ _).1 hallow
  rw [evaluate_allow_iff]
  constructor
  · rintro ⟨hclean, hfresh, r, hr, hm, heff⟩
    refine ⟨hclean, fun s hs hsm => (hfresh s hs hsm).1, fun s hs hsm hexcl => ?_,
      Or.inr ⟨r, hr, hm, heff⟩⟩
    rw [(hfresh s hs hsm).2] at hexcl
    cases hexcl
  · intro hcov
    have hclean := hcov.normalizes
    refine ⟨hclean, fun r hr hm => ⟨hcov.unexpired r hr hm, ?_⟩, ?_⟩
    · -- An exact-host exclusion that matched would have been a denied prefix.
      rw [← Bool.not_eq_true]
      intro hexcl
      obtain ⟨hhost, parsed', hsplit', hs, hh, hp, hpath⟩ := hcov.exclusions r hr hm hexcl
      obtain rfl : parsed = parsed' := Except.ok.inj (hsplit.symm.trans hsplit')
      obtain ⟨-, path, hpath', hrm⟩ := hm
      obtain rfl : path = parsed.path := Option.some.inj (hpath'.symm.trans hpath)
      obtain ⟨ho, hpm⟩ : originMatches (normalizeUrl L url) r = true ∧
          pathMatches parsed.path r = true := by simpa [ruleMatches] using hrm
      rw [originMatches_congr hs hh hp] at ho
      have hmem : r ∈ originDenies (normalizeUrl L target) compiled :=
        List.mem_filter.2 ⟨hr, by simp [exactOriginMatches_of_originMatches hhost ho, hexcl]⟩
      obtain ⟨_, _, _, q, hacc, hq⟩ := normalizeUrl_accepted L hclean
      obtain rfl : parsed.path = q := Option.some.inj (hpath.symm.trans hacc.path_eq)
      have happ := prefixApplies_of_pathMatches hq.absolute hpm
      rw [happly _ (List.mem_map_of_mem hmem)] at happ
      cases happ
    · rcases hcov.allowed with ⟨⟨parsed', -, hs, hh, hp, hpath⟩, hwhole | hsame⟩ | hrule
      · obtain ⟨r, hr, hexact, heff, hnone⟩ := hwhole
        obtain ⟨_, _, _, _, hacc, -⟩ := normalizeUrl_accepted L hclean
        have hhost : (normalizeUrl L target).normalizedHost.isSome = true := by
          rw [← hh, hacc.host_eq]
          rfl
        refine ⟨r, hr, ⟨hclean, _, hpath, ?_⟩, heff⟩
        rw [ruleMatches, originMatches_congr hs hh hp,
          originMatches_of_exactOriginMatches hhost hexact, pathMatches, hnone]
        rfl
      · exact ⟨t, ht, Matches.congr hclean hs hh hp hsame htm, hteff⟩
      · exact hrule

/-- One host is allowed; under every host of the domain `/admin` is excluded. -/
def patternScope : CompiledScope :=
  { rules :=
    [originRule "https".toList "api.example.com".toList 443 .allow none,
     { ruleId := "rule-deny-admin".toList, effect := .deny, scheme := "https".toList,
       host := none, hostPattern := some "*.example.com".toList, port := 443,
       pathPrefix := some "/admin".toList, sourceReference := "scope-src".toList,
       expiresAt := none }] }

def appUrl : Text := "https://api.example.com/app".toList

def apiAdminUrl : Text := "https://api.example.com/admin".toList

/-- The envelope of `appUrl`.  Nothing in it tells of the exclusion. -/
def appEnvelope : AuthorizedNetworkEnvelope :=
  { normalizedScheme := "https".toList
    normalizedHost := "api.example.com".toList
    normalizedPort := 443
    documentPath := "/app".toList
    originWide := true
    allowedPathPrefixes := []
    deniedPathPrefixes := []
    loopbackOnly := false
    sourceScopeRuleIds := ["rule".toList]
    authorizationDecisionReference := none }

/-- What the Worker reads back from it. -/
def appBrowserEnvelope : BrowserNetworkEnvelope :=
  { normalizedScheme := "https".toList
    normalizedHost := "api.example.com".toList
    normalizedPort := 443
    documentPath := "/app".toList
    originWide := true
    allowedPathPrefixes := []
    deniedPathPrefixes := []
    loopbackOnly := false
    sourceScopeRuleIds := ["rule".toList]
    authorizationDecisionReference := none }

/-- The Worker admits a path that Core excludes by a host pattern. -/
theorem pattern_exclusion_admitted :
    deriveAuthorizedNetworkEnvelope (normalizeUrl asciiCodecs appUrl) patternScope
        (evaluateScopeCandidate (normalizeUrl asciiCodecs appUrl) patternScope 0) false none =
      .ok (some appEnvelope) ∧
    parseEnvelope asciiCodecs appEnvelope.toMapping = some appBrowserEnvelope ∧
    envelopeAllows asciiCodecs appBrowserEnvelope apiAdminUrl = none ∧
    (evaluateScopeCandidate (normalizeUrl asciiCodecs apiAdminUrl) patternScope 0).decision =
      .deny :=
  ⟨rfl, by decide, by decide, by decide⟩

theorem envelope_allows_iff_app :
    (evaluateScopeCandidate (normalizeUrl asciiCodecs appUrl) patternScope 0).decision =
        .allow ↔
      EnvelopeCovers asciiCodecs (normalizeUrl asciiCodecs appUrl) patternScope 0 appUrl :=
  envelope_allows_iff asciiCodecs patternScope 0 appUrl false none appUrl appEnvelope
    appBrowserEnvelope rfl (by decide) (by decide)

end Zest
