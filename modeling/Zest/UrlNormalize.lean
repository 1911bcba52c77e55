import Zest.PercentEncoding
import Zest.ScopeCompiler
import Zest.UrlSplit

/-! # URL normalization and the path a scope rule sees

`normalize_url` turns a URL into the candidate that Core evaluates.  It refuses
a path in which an escape is malformed or spells a slash or a dot, and decodes
the segments of every other path; but the path it hands on is the one it was
given, escapes and all.

So a rule is matched against the spelling of a path and not against the path.
Two accepted URLs with the same path after decoding are told apart by some rule
as soon as their spellings differ, and a path with an escape in it is never
under the exclusion it decodes to (`percent_encoding_bypass_iff`).
-/
namespace Zest

open PercentEncoding

/-! ## Normalization -/

/-- `_BAD_PERCENT`: a `%` with no two hexadecimal digits after it. -/
def badPercent : Text → Bool
  | '%' :: x :: y :: _ => !(Text.isHex x && Text.isHex y)
  | '%' :: _ => true
  | _ => false

/-- `_ENCODED_SLASH`. -/
def encodedSlash : Text → Bool
  | '%' :: '2' :: x :: _ => x == 'f' || x == 'F'
  | _ => false

/-- `_ENCODED_DOT`. -/
def encodedDot : Text → Bool
  | '%' :: '2' :: x :: _ => x == 'e' || x == 'E'
  | _ => false

/-- `_is_unambiguous_segment`, of a decoded segment.  The digits that
`_PERCENT` finds are hexadecimal, so `bytes.fromhex` never fails on them. -/
def isUnambiguousSegment (segment : Text) : Bool :=
  if '%' ∈ segment then !segment.search badPercent else true

/-- `segment.encode("ascii").decode("utf-8")`: the segment itself, where it is
ASCII. -/
def decodeSegment (segment : Text) : Option Text :=
  if segment.all Text.isAscii then some segment else none

/-- The loop of `_scope_match_path` over the segments after the first slash. -/
def decodedSegments : List Text → Option (List Text)
  | [] => some []
  | segment :: rest =>
    if segment = ['.'] ∨ segment = ['.', '.'] then none
    else do
      let decoded ← decodeSegment segment
      let others ← decodedSegments rest
      return decoded :: others

/-- `_scope_match_path`; `none` is `PATH_AMBIGUOUS`. -/
def scopeMatchPath (rawPath : Text) : Option Text :=
  if '\\' ∈ rawPath then none
  else if rawPath.search badPercent then none
  else if rawPath.search encodedSlash || rawPath.search encodedDot then none
  else if !rawPath.startsWith ['/'] then none
  else if rawPath.hasInfix ['/', '/'] then none
  else match decodedSegments (rawPath.splitOn '/').tail with
    | none => none
    | some segments =>
      if segments.any (fun item => item ≠ [] ∧ !isUnambiguousSegment item) then none
      else some rawPath

variable (L : UrlCodecs)

/-- `_canonical_host`. -/
def canonicalHost (host : Text) : Except NormalizationError Text :=
  let stripped := host.strip
  let stripped :=
    if stripped.startsWith ['['] && stripped.endsWith [']'] then stripped.tail.dropLast
    else stripped
  if ':' ∈ stripped then
    match L.ipv6Address stripped with
    | some address => .ok address
    | none => .error .ipv6
  else match L.ipv4Address stripped with
    | some address => .ok address
    | none =>
      if (stripped.splitOn '.').any (fun label => label ≠ [] ∧ L.lower label = "xn--".toList)
      then .error .idna
      else match L.idna stripped with
        | some ascii => .ok (L.lower ascii)
        | none => .error .idna

/-- `_error`. -/
def normalizationFailure (raw : Text) (code : NormalizationError) : ScopeCandidate :=
  { rawTarget := raw, normalizedScheme := none, normalizedHost := none,
    normalizedPort := none, rawPath := [], scopeMatchPath := none,
    normalizationError := some code }

/-- `normalize_url`. -/
def normalizeUrl (raw : Text) : ScopeCandidate :=
  if raw.strip = [] then normalizationFailure raw .parse
  else match urlsplit L raw with
  | none => normalizationFailure raw .parse
  | some parts =>
    if parts.userinfo.1.isSome ∨ parts.userinfo.2.isSome then
      normalizationFailure raw .userinfo
    else match defaultSchemePort (L.lower parts.scheme) with
    | none => normalizationFailure raw .parse
    | some defaultPort =>
      match parts.hostname L with
      | none => normalizationFailure raw .emptyHost
      | some host =>
        if host = [] then normalizationFailure raw .emptyHost
        else if '*' ∈ host then normalizationFailure raw .wildcard
        else match canonicalHost L host with
        | .error code => normalizationFailure raw code
        | .ok canonical =>
          match parts.port with
          | none => normalizationFailure raw .parse
          | some port =>
            let rawPath := if parts.path = [] then ['/'] else parts.path
            let matchPath := scopeMatchPath rawPath
            { rawTarget := raw
              normalizedScheme := some (L.lower parts.scheme)
              normalizedHost := some canonical
              normalizedPort := some (port.getD defaultPort)
              rawPath := rawPath
              scopeMatchPath := matchPath
              normalizationError := if matchPath.isNone then some .pathAmbiguous else none }

/-! ## What an accepted path looks like -/

theorem hexValue_isSome {c : Char} (h : Text.isHex c = true) : (hexValue c).isSome = true := by
  simp only [Text.isHex, Bool.or_eq_true, Bool.and_eq_true, decide_eq_true_eq, Char.le_def,
    UInt32.le_iff_toNat_le] at h
  change ((0x30 ≤ c.toNat ∧ c.toNat ≤ 0x39 ∨ 0x61 ≤ c.toNat ∧ c.toNat ≤ 0x66) ∨
    0x41 ≤ c.toNat ∧ c.toNat ≤ 0x46) at h
  simp only [hexValue]
  split
  · rfl
  · split
    · rfl
    · rw [if_pos (by omega)]
      rfl

theorem badPercent_eq_false {t : Text} (h : badPercent ('%' :: t) = false) :
    ∃ x y rest b, t = x :: y :: rest ∧ hexOctet x y = some b := by
  match t with
  | [] => simp [badPercent] at h
  | [x] => simp [badPercent] at h
  | x :: y :: rest =>
    simp only [badPercent, Bool.not_eq_false', Bool.and_eq_true] at h
    obtain ⟨a, ha⟩ := Option.isSome_iff_exists.1 (hexValue_isSome h.1)
    obtain ⟨b, hb⟩ := Option.isSome_iff_exists.1 (hexValue_isSome h.2)
    exact ⟨x, y, rest, _, rfl, by rw [hexOctet, ha, hb]⟩

theorem slash_separator : Separator '/' := ⟨by decide, by decide, by decide⟩

theorem encodedSlash_of_hexOctet {x y : Char} (rest : Text)
    (h : hexOctet x y = some (octet '/')) : encodedSlash ('%' :: x :: y :: rest) = true := by
  obtain ⟨hx, hy⟩ := hexOctet_eq_some h
  have hx' : x = '2' := by
    have := hexValue_eq_some hx
    exact Char.toNat_inj.1 (show x.toNat = 50 by simp [octet] at this; omega)
  have hy' : y = 'f' ∨ y = 'F' := by
    have hyv := hexValue_eq_some hy
    have : y.toNat = 102 ∨ y.toNat = 70 := by simp [octet] at hyv; omega
    exact this.imp (fun h => Char.toNat_inj.1 h) (fun h => Char.toNat_inj.1 h)
  subst hx'
  rcases hy' with rfl | rfl <;> rfl

/-- What `_scope_match_path` promises of a path it accepts. -/
structure AcceptedPath (path : Text) : Prop where
  absolute : ['/'] <+: path
  wellEscaped : WellEscaped path
  noEncodedSlash : NeverSpells (octet '/') path

theorem scopeMatchPath_eq_some {rawPath path : Text} (h : scopeMatchPath rawPath = some path) :
    path = rawPath ∧ AcceptedPath path := by
  unfold scopeMatchPath at h
  split at h
  · cases h
  split at h
  · cases h
  next hbad =>
  split at h
  · cases h
  next henc =>
  split at h
  · cases h
  next habs =>
  split at h
  · cases h
  split at h
  · cases h
  split at h
  · cases h
  obtain rfl : rawPath = path := Option.some.inj h
  simp only [Bool.or_eq_true, not_or, Bool.not_eq_true] at hbad henc
  refine ⟨rfl, by simpa [Text.startsWith] using habs, fun t ht => ?_, fun x y rest ht hx => ?_⟩
  · exact badPercent_eq_false (Text.search_suffix hbad ht)
  · have hslash := Text.search_suffix henc.1 ht
    rw [encodedSlash_of_hexOctet rest hx] at hslash
    cases hslash

/-- The candidate of a URL that normalization accepts, read as an origin and
the path that the rules are matched against. -/
structure Accepted (candidate : ScopeCandidate) (scheme host : Text) (port : Nat)
    (path : Text) : Prop where
  error : candidate.normalizationError = none
  scheme_eq : candidate.normalizedScheme = some scheme
  host_eq : candidate.normalizedHost = some host
  port_eq : candidate.normalizedPort = some port
  path_eq : candidate.scopeMatchPath = some path

theorem normalizeUrl_accepted {url : Text}
    (h : (normalizeUrl L url).normalizationError = none) :
    ∃ scheme host port path,
      Accepted (normalizeUrl L url) scheme host port path ∧ AcceptedPath path := by
  generalize hc : normalizeUrl L url = candidate at h ⊢
  unfold normalizeUrl at hc
  split at hc
  · subst hc; cases h
  split at hc
  · subst hc; cases h
  next parts _ =>
  split at hc
  · subst hc; cases h
  split at hc
  · subst hc; cases h
  next defaultPort _ =>
  split at hc
  · subst hc; cases h
  split at hc
  · subst hc; cases h
  split at hc
  · subst hc; cases h
  split at hc
  · subst hc; cases h
  next canonical _ =>
  split at hc
  · subst hc; cases h
  next port _ =>
  subst hc
  simp only at h ⊢
  cases hp : scopeMatchPath (if parts.path = [] then ['/'] else parts.path) with
  | none => simp [hp] at h
  | some path =>
    refine ⟨_, _, _, path, ⟨?_, rfl, rfl, rfl, rfl⟩, ?_⟩
    · rfl
    · exact (scopeMatchPath_eq_some hp).2

/-! ## Matching a path before it is decoded -/

/-- The octets of a path, every segment decoded. -/
def decodedOctets (path : Text) : List UInt8 :=
  [octet '/'].intercalate ((path.splitOn '/').map percentDecode)

/-- `d` is the path that `path` spells: decoding every segment of `path` gives
`d`, in UTF-8. -/
def DecodesTo (path d : Text) : Prop := decodedOctets path = utf8 d

instance (path d : Text) : Decidable (DecodesTo path d) :=
  inferInstanceAs (Decidable (decodedOctets path = utf8 d))

theorem decodedOctets_eq (path : Text) : decodedOctets path = percentDecode path :=
  intercalate_percentDecode_splitOn slash_separator path

theorem endsWith_slash_iff (pre : Text) : pre.endsWith ['/'] = true ↔ ['/'] <:+ pre := by
  simp [Text.endsWith]

theorem pathPrefixMatches_iff (path pre : Text) :
    pathPrefixMatches path pre = true ↔ Under '/' pre path := by
  unfold pathPrefixMatches Under
  by_cases heq : path = pre
  · simp [heq]
  · rw [if_neg heq]
    by_cases hend : ['/'] <:+ pre
    · simp [heq, hend, (endsWith_slash_iff pre).2 hend, Text.startsWith]
    · have : ¬ pre.endsWith ['/'] = true := fun h => hend ((endsWith_slash_iff pre).1 h)
      simp [heq, hend, this, Text.startsWith]

/-- A rule about one origin. -/
def originRule (scheme host : Text) (port : Nat) (effect : ScopeRuleEffect)
    (pathPrefix : Option Text) : CompiledScopeRule :=
  { ruleId := "rule".toList, effect := effect, scheme := scheme, host := some host,
    hostPattern := none, port := port, pathPrefix := pathPrefix,
    sourceReference := "scope-src".toList, expiresAt := none }

section Origin

variable {candidate : ScopeCandidate} {scheme host : Text} {port : Nat} {path : Text}

theorem Accepted.originMatches (h : Accepted candidate scheme host port path)
    (effect : ScopeRuleEffect) (pathPrefix : Option Text) :
    originMatches candidate (originRule scheme host port effect pathPrefix) = true := by
  simp [Zest.originMatches, hostMatches, originRule, h.scheme_eq, h.host_eq, h.port_eq]

theorem Accepted.ruleMatches_whole (h : Accepted candidate scheme host port path)
    (effect : ScopeRuleEffect) :
    ruleMatches candidate path (originRule scheme host port effect none) = true := by
  rw [ruleMatches, h.originMatches, Bool.true_and]
  rfl

/-- Whether a rule about the candidate's own origin matches is a matter of the
path alone. -/
theorem Accepted.ruleMatches_prefix (h : Accepted candidate scheme host port path)
    (effect : ScopeRuleEffect) (pre : Text) :
    ruleMatches candidate path (originRule scheme host port effect (some pre)) =
      pathPrefixMatches path pre := by
  rw [ruleMatches, h.originMatches, Bool.true_and]
  rfl

/-- An allow of the whole origin and an exclusion under `d` allow every path
that does not lie under `d`. -/
theorem Accepted.allow_of_not_under (h : Accepted candidate scheme host port path)
    {d : Text} (hd : pathPrefixMatches path d = false) (now : Instant) :
    (evaluateScopeCandidate candidate
      ⟨[originRule scheme host port .allow none, originRule scheme host port .deny (some d)]⟩
      now).decision = .allow := by
  have hv := evaluate_verdict h.error h.path_eq
    ⟨[originRule scheme host port .allow none, originRule scheme host port .deny (some d)]⟩ now
  rw [matching, List.filter_cons_of_pos (h.ruleMatches_whole .allow),
    List.filter_cons_of_neg (by simp [h.ruleMatches_prefix, hd]), List.filter_nil] at hv
  exact congrArg Prod.fst hv

/-- An allow under `pre` allows exactly the paths under `pre`. -/
theorem Accepted.allow_prefix_iff (h : Accepted candidate scheme host port path)
    (pre : Text) (now : Instant) :
    (evaluateScopeCandidate candidate ⟨[originRule scheme host port .allow (some pre)]⟩
      now).decision = .allow ↔ pathPrefixMatches path pre = true := by
  have hv := evaluate_verdict h.error h.path_eq
    ⟨[originRule scheme host port .allow (some pre)]⟩ now
  cases hp : pathPrefixMatches path pre with
  | true =>
    rw [matching, List.filter_cons_of_pos (by rw [h.ruleMatches_prefix, hp]),
      List.filter_nil] at hv
    exact iff_of_true (congrArg Prod.fst hv) rfl
  | false =>
    rw [matching, List.filter_cons_of_neg (by simp [h.ruleMatches_prefix, hp]),
      List.filter_nil] at hv
    have hdeny : (evaluateScopeCandidate candidate
        ⟨[originRule scheme host port .allow (some pre)]⟩ now).decision = .deny :=
      congrArg Prod.fst hv
    exact iff_of_false (by rw [hdeny]; decide) (by decide)

end Origin

/-- No encoding of an excluded path is allowed: where the decoded path lies
under an unexpired exclusion of the candidate's origin, the decision is not
`ALLOW`. -/
def ExcludedPathNotAllowed (candidate : ScopeCandidate) (path : Text) : Prop :=
  ∀ d, DecodesTo path d → ∀ (compiled : CompiledScope) (now : Instant),
    (∃ r ∈ compiled.rules, r.exclusion = true ∧ r.expired now = false ∧
      originMatches candidate r = true ∧
      ∃ pre, r.pathPrefix = some pre ∧ pathPrefixMatches d pre = true) →
    (evaluateScopeCandidate candidate compiled now).decision ≠ .allow

/-- Every scope decides alike about the two candidates. -/
def SameDecision (candidate candidate' : ScopeCandidate) : Prop :=
  ∀ (compiled : CompiledScope) (now : Instant),
    (evaluateScopeCandidate candidate compiled now).decision =
      (evaluateScopeCandidate candidate' compiled now).decision

theorem excludedPathNotAllowed_iff {candidate : ScopeCandidate} {scheme host : Text}
    {port : Nat} {path : Text} (h : Accepted candidate scheme host port path)
    (hpath : AcceptedPath path) :
    ExcludedPathNotAllowed candidate path ↔ '%' ∉ path ∨ ∀ d, ¬ DecodesTo path d := by
  constructor
  · intro hsafe
    by_cases hp : '%' ∈ path
    · refine Or.inr fun d hd => ?_
      have hspells : Spells path d := by rw [Spells, ← decodedOctets_eq]; exact hd
      have hnot := not_under_of_spells slash_separator hpath.noEncodedSlash hpath.wellEscaped
        hp hspells
      have hmiss : pathPrefixMatches path d = false := by
        rw [← Bool.not_eq_true, pathPrefixMatches_iff]
        exact hnot
      refine hsafe d hd _ 0 ⟨_, List.mem_cons_of_mem _ List.mem_cons_self, rfl, rfl,
        h.originMatches .deny (some d), d, rfl, ?_⟩ (h.allow_of_not_under hmiss 0)
      exact (pathPrefixMatches_iff d d).2 (Or.inl rfl)
    · exact Or.inl hp
  · rintro (hp | hnone) d hd compiled now ⟨r, hr, hexcl, hexp, horigin, pre, hpre, hmatch⟩
    · have hd' : path = d := by
        apply utf8_injective
        rw [← percentDecode_eq_utf8 hp, ← decodedOctets_eq]
        exact hd
      subst hd'
      have hrule : ruleMatches candidate path r = true := by
        rw [ruleMatches, horigin, Bool.true_and, pathMatches, hpre]
        exact hmatch
      have hany : (matching candidate path compiled.rules).any (·.exclusion) = true :=
        List.any_eq_true.2 ⟨r, (mem_matching ..).2 ⟨hr, hrule⟩, hexcl⟩
      have hv := congrArg Prod.fst (evaluate_verdict h.error h.path_eq compiled now)
      rw [hany] at hv
      intro hallow
      rw [ScopeCheck.verdict, hallow] at hv
      unfold verdict at hv
      split at hv <;> cases hv
    · exact absurd hd (hnone d)

/-- Two paths that decode alike and are spelled differently are told apart by
an allow under one of them. -/
theorem sameDecision_iff {candidate candidate' : ScopeCandidate} {scheme host : Text}
    {port : Nat} {path path' : Text} (h : Accepted candidate scheme host port path)
    (h' : Accepted candidate' scheme host port path') (hpath : AcceptedPath path)
    (hpath' : AcceptedPath path') (hdecode : decodedOctets path = decodedOctets path') :
    SameDecision candidate candidate' ↔ path = path' := by
  constructor
  · intro hsame
    have hown := (h.allow_prefix_iff path 0).2 ((pathPrefixMatches_iff path path).2 (Or.inl rfl))
    rw [hsame] at hown
    have hunder := (pathPrefixMatches_iff path' path).1 ((h'.allow_prefix_iff path 0).1 hown)
    rw [decodedOctets_eq, decodedOctets_eq] at hdecode
    exact (eq_of_under slash_separator hpath.noEncodedSlash hpath'.noEncodedSlash hdecode
      hunder).symm
  · rintro rfl compiled now
    have hmatching : matching candidate path compiled.rules =
        matching candidate' path compiled.rules := by
      refine List.filter_congr fun r _ => ?_
      simp only [ruleMatches, originMatches, h.scheme_eq, h'.scheme_eq, h.host_eq, h'.host_eq,
        h.port_eq, h'.port_eq]
    have hv := evaluate_verdict h.error h.path_eq compiled now
    have hv' := evaluate_verdict h'.error h'.path_eq compiled now
    rw [hmatching] at hv
    exact congrArg Prod.fst (hv.trans hv'.symm)

/-- The tables on plain ASCII domain names, which no address literal is. -/
def asciiCodecs : UrlCodecs :=
  { lower := fun s => s.map Text.asciiLower
    nfkcSafe := fun _ => true
    bracketedHost := fun _ => false
    ipv6Address := fun _ => none
    ipv4Address := fun _ => none
    idna := fun s => some s }

/-- `/admin`, with its first letter written as an escape. -/
def encodedAdminUrl : Text := "https://example.com/%61dmin".toList

/-- `/admin` itself. -/
def adminUrl : Text := "https://example.com/admin".toList

theorem encodedAdminUrl_accepted :
    Accepted (normalizeUrl asciiCodecs encodedAdminUrl) "https".toList "example.com".toList 443
      "/%61dmin".toList :=
  ⟨by decide, by decide, by decide, by decide, by decide⟩

theorem adminUrl_accepted :
    Accepted (normalizeUrl asciiCodecs adminUrl) "https".toList "example.com".toList 443
      "/admin".toList :=
  ⟨by decide, by decide, by decide, by decide, by decide⟩

end Zest
