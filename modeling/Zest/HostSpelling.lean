import Mathlib.Data.List.TakeDrop
import Zest.UrlNormalize

/-! # The spellings of a host

A scope rule is given a host and so is a URL, and the two are made canonical by
different functions.  The compiler of the rules takes brackets off and lowers the
case; normalization also writes an address in its canonical form and a name in
ASCII.  A rule matches the URL of its own host where the first is enough.

The tables of the codecs are parameters; what is asked of them is that they follow
their specifications.
-/
namespace Zest

/-- What the codecs' specifications say of the tables. -/
structure UrlCodecs.Conform (L : UrlCodecs) : Prop where
  /-- Lower-casing of ASCII. -/
  lower_ascii : ∀ s, s.all Text.isAscii = true → L.lower s = s.map Text.asciiLower
  lower_lower : ∀ s, L.lower (L.lower s) = L.lower s
  /-- Case has nothing to do with delimiters. -/
  lower_delimiter : ∀ s, ∀ c ∈ [':', '[', ']', '%'], (c ∈ L.lower s ↔ c ∈ s)
  /-- An IPv4 address has one text. -/
  ipv4_text : ∀ s t, L.ipv4Address s = some t → t = s ∧ s.all Text.isAscii = true
  /-- The text of an IPv6 address is ASCII and without white space, and its canonical text
  is that of the same address. -/
  ipv6_text : ∀ s t, '%' ∉ s → L.ipv6Address s = some t →
    s.all Text.isAscii = true ∧ s.strip = s ∧ L.ipv6Address t = some t
  /-- A name is encoded in ASCII; an ASCII name is itself. -/
  idna_text : ∀ s t, L.idna s = some t →
    t.all Text.isAscii = true ∧ (s.all Text.isAscii = true → t = s)

/-- The delimiters of a URL that no host has in it, and what `urlsplit` removes. -/
def hostDelimiters : List Char := ['/', '?', '#', '@', '%', '\t', '\r', '\n']

/-- A text is the spelling of a host: the host itself, or between brackets, where it may
have colons. -/
structure HostString (spelling host : Text) : Prop where
  clean : ∀ c ∈ spelling, c ∉ hostDelimiters
  written : (spelling = host ∧ ∀ c ∈ host, c ∉ [':', '[', ']']) ∨
    (spelling = '[' :: host ++ [']'] ∧ ∀ c ∈ host, c ∉ ['[', ']'])

/-- `"https://" + h + "/"`. -/
def hostUrl (spelling : Text) : Text := "https://".toList ++ spelling ++ ['/']

/-- The host, without brackets and in lower case, is the canonical text already. -/
structure SpelledCanonically (L : UrlCodecs) (host : Text) : Prop where
  ascii : (L.lower host).all Text.isAscii = true
  stripped : (L.lower host).strip = L.lower host
  ipv6 : ':' ∈ host → L.ipv6Address (L.lower host) = some (L.lower host)

/-- What a test of each character decides. -/
theorem forall_mem_of_all {P : Char → Prop} [DecidablePred P] {s : Text}
    (h : s.all (fun c => decide (P c)) = true) : ∀ c ∈ s, P c :=
  fun c hc => of_decide_eq_true (List.all_eq_true.mp h c hc)

/-! ## What the rule makes of a spelling -/

theorem stripBy_middle {p : Char → Bool} {before host after : Text}
    (hbefore : ∀ c ∈ before, p c = true) (hafter : ∀ c ∈ after, p c = true)
    (hhost : ∀ c ∈ host, p c = false) : (before ++ host ++ after).stripBy p = host := by
  have hdrop : ∀ {outer inner : Text}, (∀ c ∈ outer, p c = true) → (∀ c ∈ inner, p c = false) →
      ∀ rest, inner ≠ [] → (outer ++ (inner ++ rest)).dropWhile p = inner ++ rest := by
    intro outer inner houter hinner rest hne
    rw [List.dropWhile_append_of_pos houter]
    obtain ⟨c, inner, rfl⟩ := List.exists_cons_of_ne_nil hne
    rw [List.cons_append, List.dropWhile_cons_of_neg]
    simp [hinner c List.mem_cons_self]
  unfold Text.stripBy
  by_cases hempty : host = []
  · subst hempty
    rw [List.append_nil, List.dropWhile_append_of_pos hbefore,
      List.dropWhile_eq_nil_iff.mpr hafter]
    rfl
  · rw [List.append_assoc, hdrop hbefore hhost after hempty, List.reverse_append,
      ← List.append_nil host.reverse, hdrop (by simpa using hafter) (by simpa using hhost) []
        (by simpa using hempty), List.append_nil, List.reverse_reverse]

variable {L : UrlCodecs} {spelling host : Text}

theorem HostString.stripBy_brackets (h : HostString spelling host) :
    spelling.stripBy (fun c => c == '[' || c == ']') = host := by
  have hhost : ∀ c ∈ host, (c == '[' || c == ']') = false := by
    intro c hc
    rcases h.written with ⟨-, hclean⟩ | ⟨-, hclean⟩
    · simpa [not_or] using (not_or.mp (List.mem_cons.not.mp (hclean c hc))).2
    · simpa [not_or] using hclean c hc
  rcases h.written with ⟨rfl, -⟩ | ⟨rfl, -⟩
  · have hnone : ∀ c ∈ ([] : Text), (c == '[' || c == ']') = true := by simp
    simpa using stripBy_middle hnone hnone hhost
  · have hopen : ∀ c ∈ ['['], (c == '[' || c == ']') = true := by simp
    have hclose : ∀ c ∈ [']'], (c == '[' || c == ']') = true := by simp
    exact stripBy_middle hopen hclose hhost

/-! ## What normalization makes of a spelling -/

theorem HostString.urlsplit (h : HostString spelling host) :
    urlsplit L (hostUrl spelling) = some ⟨"https".toList, spelling, ['/']⟩ ∨
      urlsplit L (hostUrl spelling) = none := by
  have hhead : ∀ c ∈ "https://".toList, isUnsafeUrlByte c = false :=
    forall_mem_of_all (by decide)
  have hclean : ∀ c ∈ hostUrl spelling, isUnsafeUrlByte c = false := by
    intro c hc
    rcases List.mem_append.mp hc with hc | hc
    · rcases List.mem_append.mp hc with hc | hc
      · exact hhead c hc
      · have hnot := h.clean c hc
        simp only [hostDelimiters, List.mem_cons, List.not_mem_nil, or_false, not_or] at hnot
        simp [isUnsafeUrlByte, hnot]
    · rw [List.mem_singleton.mp hc]
      rfl
  have hfilter : ((hostUrl spelling).dropWhile isC0ControlOrSpace).filter
      (fun c => !isUnsafeUrlByte c) = hostUrl spelling := by
    have hdrop : (hostUrl spelling).dropWhile isC0ControlOrSpace = hostUrl spelling := rfl
    rw [hdrop, List.filter_eq_self]
    intro c hc
    rw [hclean c hc]
    rfl
  have hscheme : splitScheme (hostUrl spelling) =
      ("https".toList, "//".toList ++ (spelling ++ ['/'])) := by
    have hcolon : ':' ∉ "https".toList := by decide
    have hpartition : (hostUrl spelling).partition ':' =
        ("https".toList, true, "//".toList ++ (spelling ++ ['/'])) := Text.partition_of_mem hcolon
    unfold splitScheme
    rw [hpartition]
    rfl
  have hnetloc : splitNetloc (spelling ++ ['/']) = (spelling, ['/']) := by
    have hin : ∀ c ∈ spelling, (c != '/' && c != '?' && c != '#') = true := by
      intro c hc
      have hnot := h.clean c hc
      simp only [hostDelimiters, List.mem_cons, List.not_mem_nil, or_false, not_or] at hnot
      simp [hnot]
    unfold splitNetloc
    rw [List.span_eq_takeWhile_dropWhile, List.takeWhile_append_of_pos hin,
      List.dropWhile_append_of_pos hin]
    simp
  unfold Zest.urlsplit
  dsimp only
  rw [hfilter, hscheme]
  have hslashes : Text.startsWith ("//".toList ++ (spelling ++ ['/'])) "//".toList = true := rfl
  have hdrop : ("//".toList ++ (spelling ++ ['/'])).drop 2 = spelling ++ ['/'] := rfl
  simp only [hslashes, if_true, hdrop, hnetloc]
  split
  · exact .inr rfl
  · split
    · exact .inr rfl
    · exact .inl rfl

theorem HostString.percent_not_mem (h : HostString spelling host) : '%' ∉ host := by
  intro hmem
  have hspelled : '%' ∈ spelling := by
    rcases h.written with ⟨rfl, -⟩ | ⟨rfl, -⟩
    · exact hmem
    · exact List.mem_cons_of_mem _ (List.mem_append_left _ hmem)
  exact absurd (h.clean '%' hspelled) (by decide)

theorem HostString.bracket_not_mem (h : HostString spelling host) : '[' ∉ host := by
  intro hmem
  rcases h.written with ⟨-, hclean⟩ | ⟨-, hclean⟩
  · exact absurd (hclean '[' hmem) (by decide)
  · exact absurd (hclean '[' hmem) (by decide)

/-- The host that `urlsplit` reads, as written. -/
theorem HostString.hostinfo (h : HostString spelling host) :
    (⟨"https".toList, spelling, ['/']⟩ : SplitResult).hostinfo = (host, none) := by
  have hat : '@' ∉ spelling := fun hmem => absurd (h.clean '@' hmem) (by decide)
  have hinfo : Text.rpartition '@' spelling = ([], false, spelling) := by
    unfold Text.rpartition
    rw [Text.partition_of_not_mem (by simpa using hat)]
    rfl
  unfold SplitResult.hostinfo
  dsimp only
  rw [hinfo]
  rcases h.written with ⟨rfl, hclean⟩ | ⟨rfl, hclean⟩
  · have hopen : '[' ∉ spelling := fun hmem => absurd (hclean '[' hmem) (by decide)
    have hcolon : ':' ∉ spelling := fun hmem => absurd (hclean ':' hmem) (by decide)
    rw [Text.partition_of_not_mem hopen]
    dsimp only
    rw [Text.partition_of_not_mem hcolon]
    rfl
  · have hclose : ']' ∉ host := fun hmem => absurd (hclean ']' hmem) (by decide)
    have hopened : Text.partition '[' ('[' :: host ++ [']']) = ([], true, host ++ [']']) :=
      Text.partition_of_mem List.not_mem_nil
    rw [hopened]
    dsimp only
    rw [Text.partition_of_mem hclose]
    rfl

theorem HostString.userinfo (h : HostString spelling host) :
    (⟨"https".toList, spelling, ['/']⟩ : SplitResult).userinfo = (none, none) := by
  have hat : '@' ∉ spelling := fun hmem => absurd (h.clean '@' hmem) (by decide)
  unfold SplitResult.userinfo Text.rpartition
  dsimp only
  rw [Text.partition_of_not_mem (by simpa using hat)]
  rfl

theorem HostString.hostname (h : HostString spelling host) (hne : host ≠ []) :
    (⟨"https".toList, spelling, ['/']⟩ : SplitResult).hostname L = some (L.lower host) := by
  unfold SplitResult.hostname
  rw [h.hostinfo]
  dsimp only
  rw [if_neg hne, Text.partition_of_not_mem h.percent_not_mem]
  simp

theorem scopeMatchPath_root : scopeMatchPath ['/'] = some ['/'] := by decide

/-- **What normalization makes of a spelling** that it accepts. -/
theorem HostString.normalized (hL : L.Conform) (h : HostString spelling host)
    (hok : (normalizeUrl L (hostUrl spelling)).normalizationError = none) :
    ∃ canonical, canonicalHost L (L.lower host) = .ok canonical ∧
      Accepted (normalizeUrl L (hostUrl spelling)) "https".toList canonical 443 ['/'] := by
  have hstrip : (hostUrl spelling).strip ≠ [] := by
    have hmem : 'h' ∈ (hostUrl spelling).strip := by
      unfold Text.strip Text.stripBy
      have hdrop : (hostUrl spelling).dropWhile Text.isSpace = hostUrl spelling := rfl
      rw [hdrop, List.mem_reverse]
      have hlast : (hostUrl spelling).reverse.dropWhile Text.isSpace =
          (hostUrl spelling).reverse := by
        unfold hostUrl
        rw [List.reverse_append]
        rfl
      rw [hlast, List.mem_reverse]
      exact List.mem_append_left _ (List.mem_append_left _ (by decide))
    exact List.ne_nil_of_mem hmem
  have hscheme : defaultSchemePort (L.lower "https".toList) = some 443 := by
    rw [hL.lower_ascii _ (by decide)]
    decide
  have hlower : L.lower "https".toList = "https".toList := by
    rw [hL.lower_ascii _ (by decide)]
    decide
  rcases h.urlsplit (L := L) with hsplit | hsplit
  · by_cases hempty : host = []
    · -- There is no host between the brackets.
      have hnone : (⟨"https".toList, spelling, ['/']⟩ : SplitResult).hostname L = none := by
        unfold SplitResult.hostname
        rw [h.hostinfo]
        exact if_pos hempty
      unfold normalizeUrl at hok
      rw [if_neg hstrip, hsplit] at hok
      dsimp only at hok
      rw [h.userinfo, if_neg (by simp), hscheme] at hok
      dsimp only at hok
      rw [hnone] at hok
      cases hok
    · generalize hc : normalizeUrl L (hostUrl spelling) = candidate at hok ⊢
      unfold normalizeUrl at hc
      rw [if_neg hstrip, hsplit] at hc
      dsimp only at hc
      rw [h.userinfo, if_neg (by simp), hscheme] at hc
      dsimp only at hc
      rw [h.hostname hempty] at hc
      dsimp only at hc
      split at hc
      · subst hc
        cases hok
      · split at hc
        · subst hc
          cases hok
        · split at hc
          · subst hc
            cases hok
          next canonical hcanonical =>
            have hport : (⟨"https".toList, spelling, ['/']⟩ : SplitResult).port = some none := by
              unfold SplitResult.port
              rw [h.hostinfo]
            rw [hport] at hc
            dsimp only at hc
            rw [if_neg (by simp), scopeMatchPath_root, hlower] at hc
            subst hc
            exact ⟨canonical, hcanonical, rfl, rfl, rfl, rfl, rfl⟩
  · unfold normalizeUrl at hok
    rw [if_neg hstrip, hsplit] at hok
    cases hok

/-! ## When the two agree -/

theorem all_isAscii_iff {s : Text} :
    s.all Text.isAscii = true ↔ ∀ c ∈ s, Text.isAscii c = true := List.all_eq_true

theorem toNat_asciiLower {c : Char} (h : 'A' ≤ c ∧ c ≤ 'Z') :
    (Text.asciiLower c).toNat = c.toNat + 0x20 := by
  have hle : c.toNat ≤ 'Z'.toNat := h.2
  have hz : 'Z'.toNat = 90 := rfl
  have hvalid : (c.toNat + 0x20).isValidChar := .inl (by omega)
  unfold Text.asciiLower
  rw [if_pos h]
  unfold Char.ofNat
  rw [dif_pos hvalid]
  unfold Char.ofNatAux Char.toNat
  simp
  omega

theorem asciiLower_of_not_upper {c : Char} (h : ¬ ('A' ≤ c ∧ c ≤ 'Z')) :
    Text.asciiLower c = c := if_neg h

theorem isAscii_asciiLower {c : Char} (h : Text.isAscii c = true) :
    Text.isAscii (Text.asciiLower c) = true := by
  by_cases hupper : 'A' ≤ c ∧ c ≤ 'Z'
  · have hle : c.toNat ≤ 'Z'.toNat := hupper.2
    have hz : 'Z'.toNat = 90 := rfl
    unfold Text.isAscii
    rw [toNat_asciiLower hupper]
    exact decide_eq_true (by omega)
  · rw [asciiLower_of_not_upper hupper]
    exact h

theorem UrlCodecs.Conform.lower_isAscii (hL : L.Conform) {s : Text}
    (h : s.all Text.isAscii = true) : (L.lower s).all Text.isAscii = true := by
  rw [hL.lower_ascii s h, all_isAscii_iff]
  intro c hc
  obtain ⟨d, hd, rfl⟩ := List.mem_map.mp hc
  exact isAscii_asciiLower (all_isAscii_iff.mp h d hd)

theorem strip_isAscii {s : Text} (h : s.all Text.isAscii = true) :
    s.strip.all Text.isAscii = true := by
  rw [all_isAscii_iff] at h ⊢
  intro c hc
  unfold Text.strip Text.stripBy at hc
  have hmem := (List.dropWhile_sublist _).subset (List.mem_reverse.mp hc)
  exact h c ((List.dropWhile_sublist _).subset (List.mem_reverse.mp hmem))

/-- A text that stripping does not shorten has nothing to strip. -/
theorem strip_eq_of_length {s : Text} (h : s.length ≤ s.strip.length) : s.strip = s := by
  have hsub : s.strip.Sublist s := by
    unfold Text.strip Text.stripBy
    have hinner : ((s.dropWhile Text.isSpace).reverse.dropWhile Text.isSpace).reverse.Sublist
        (s.dropWhile Text.isSpace).reverse.reverse := (List.dropWhile_sublist _).reverse
    rw [List.reverse_reverse] at hinner
    exact hinner.trans (List.dropWhile_sublist _)
  exact hsub.eq_of_length_le h

/-- `_canonical_host` of a host that has no brackets. -/
theorem canonicalHost_of_unbracketed {name : Text} (hbracket : '[' ∉ name) :
    canonicalHost L name =
      if ':' ∈ name.strip then
        match L.ipv6Address name.strip with
        | some address => .ok address
        | none => .error .ipv6
      else match L.ipv4Address name.strip with
        | some address => .ok address
        | none =>
          if (name.strip.splitOn '.').any (fun label => label ≠ [] ∧ L.lower label = "xn--".toList)
          then .error .idna
          else match L.idna name.strip with
            | some ascii => .ok (L.lower ascii)
            | none => .error .idna := by
  have hopen : Text.startsWith name.strip ['['] = false := by
    cases hname : name.strip with
    | nil => rfl
    | cons c rest =>
      have hc : c ∈ name := by
        have hmem : c ∈ name.strip := hname ▸ List.mem_cons_self
        unfold Text.strip Text.stripBy at hmem
        have hmem := (List.dropWhile_sublist _).subset (List.mem_reverse.mp hmem)
        exact (List.dropWhile_sublist _).subset (List.mem_reverse.mp hmem)
      have hne : '[' ≠ c := fun heq => hbracket (heq ▸ hc)
      show ('[' == c && [].isPrefixOf rest) = false
      rw [beq_false_of_ne hne]
      rfl
  unfold canonicalHost
  simp only [hopen, Bool.false_and, Bool.false_eq_true, if_false] <;> rfl

/-- **When a host is its own canonical text.** -/
theorem canonicalHost_eq_self_iff (hL : L.Conform) {name canonical : Text}
    (hlowered : L.lower name = name) (hbracket : '[' ∉ name) (hpercent : '%' ∉ name)
    (h : canonicalHost L name = .ok canonical) :
    canonical = name ↔ name.all Text.isAscii = true ∧ name.strip = name ∧
      (':' ∈ name → L.ipv6Address name = some name) := by
  have hmem : ∀ c ∈ name.strip, c ∈ name := by
    intro c hc
    unfold Text.strip Text.stripBy at hc
    have hc := (List.dropWhile_sublist _).subset (List.mem_reverse.mp hc)
    exact (List.dropWhile_sublist _).subset (List.mem_reverse.mp hc)
  rw [canonicalHost_of_unbracketed hbracket] at h
  by_cases hcolon : ':' ∈ name.strip
  · rw [if_pos hcolon] at h
    cases haddress : L.ipv6Address name.strip with
    | none =>
      rw [haddress] at h
      cases h
    | some address =>
      rw [haddress] at h
      obtain rfl : address = canonical := Except.ok.inj h
      obtain ⟨-, -, hagain⟩ := hL.ipv6_text _ _ (fun hc => hpercent (hmem _ hc)) haddress
      constructor
      · rintro rfl
        obtain ⟨hascii, hstrip, -⟩ := hL.ipv6_text _ _ hpercent hagain
        exact ⟨hascii, hstrip, fun _ => hagain⟩
      · rintro ⟨-, hstrip, hipv6⟩
        rw [hstrip, hipv6 (hmem _ hcolon)] at haddress
        exact (Option.some.inj haddress).symm
  · rw [if_neg hcolon] at h
    cases hipv4 : L.ipv4Address name.strip with
    | some address =>
      rw [hipv4] at h
      obtain rfl : address = canonical := Except.ok.inj h
      obtain ⟨rfl, hascii⟩ := hL.ipv4_text _ _ hipv4
      constructor
      · intro hstrip
        rw [hstrip] at hascii
        exact ⟨hascii, hstrip, fun hc => absurd (hstrip.symm ▸ hc) hcolon⟩
      · exact fun h => h.2.1
    | none =>
      rw [hipv4] at h
      dsimp only at h
      split at h
      · cases h
      · cases hidna : L.idna name.strip with
        | none =>
          rw [hidna] at h
          cases h
        | some encoded =>
          rw [hidna] at h
          obtain rfl : L.lower encoded = canonical := Except.ok.inj h
          obtain ⟨hencoded, hsame⟩ := hL.idna_text _ _ hidna
          constructor
          · intro heq
            have hascii : name.all Text.isAscii = true := heq ▸ hL.lower_isAscii hencoded
            have hstrip : name.strip = name := by
              -- The encoded name is as long as the stripped one.
              refine strip_eq_of_length ?_
              have hlength := congrArg List.length heq
              rw [hsame (strip_isAscii hascii), hL.lower_ascii _ (strip_isAscii hascii),
                List.length_map] at hlength
              exact hlength.ge
            exact ⟨hascii, hstrip, fun hc => absurd (hstrip.symm ▸ hc) hcolon⟩
          · rintro ⟨hascii, hstrip, -⟩
            rw [hstrip] at hsame
            rw [hsame hascii, hlowered]

/-- A rule for a host, with nothing else to match but the scheme. -/
structure IsHostRule (rule : ScopeRuleDefinition) (spelling : Text) : Prop where
  host : rule.host = some spelling
  hostPattern : rule.hostPattern = none
  scheme : rule.scheme = "https".toList
  port : rule.port = none
  pathPrefix : rule.pathPrefix = none

/-- The rule is compiled and matches the URL of its host, which it excludes if it is an
exclusion. -/
def MatchesOwnHost (L : UrlCodecs) (rule : ScopeRuleDefinition) (spelling : Text) : Prop :=
  ∃ compiled, compileScopeRules L.lower [rule] = .ok ⟨[compiled]⟩ ∧
    compiled.Matches (normalizeUrl L (hostUrl spelling)) ∧
    ∀ (scope : CompiledScope) (now : Instant), compiled ∈ scope.rules →
      compiled.exclusion = true →
      (∀ other ∈ scope.rules, other.Matches (normalizeUrl L (hostUrl spelling)) →
        other.expired now = false) →
      (evaluateScopeCandidate (normalizeUrl L (hostUrl spelling)) scope now).decision = .deny

theorem compileScopeRules_hostRule (hL : L.Conform) {rule : ScopeRuleDefinition}
    (h : HostString spelling host) (hrule : IsHostRule rule spelling)
    (hinit : rule.postInit L.lower = .ok ()) :
    compileScopeRules L.lower [rule] =
      .ok ⟨[⟨rule.ruleId, rule.effect, "https".toList, some (L.lower host), none, 443, none,
        rule.sourceReference, rule.expiresAt⟩]⟩ := by
  have hlower : L.lower "https".toList = "https".toList := by
    rw [hL.lower_ascii _ (by decide)]
    decide
  have hcompile : compileScopeRule L.lower rule =
      .ok ⟨rule.ruleId, rule.effect, "https".toList, some (L.lower host), none, 443, none,
        rule.sourceReference, rule.expiresAt⟩ := by
    have hscheme : Text.strip (L.lower rule.scheme) = "https".toList := by
      rw [hrule.scheme, hlower]
      decide
    have hport : defaultSchemePort "https".toList = some 443 := by decide
    unfold compileScopeRule
    simp only [hscheme, hport, hrule.host, hrule.port, hrule.pathPrefix, Option.map_some,
      Option.map_none, Option.getD_none, Option.isSome_some, if_true, h.stripBy_brackets]
    rfl
  have hpost : [rule].forM (ScopeRuleDefinition.postInit L.lower) = .ok () := by
    show (rule.postInit L.lower >>= fun _ => pure ()) = _
    rw [hinit]
    rfl
  unfold compileScopeRules
  rw [hpost, List.mapM_cons, hcompile]
  rfl

/-- **When a rule matches its own host.**  A rule for a host that a URL can name matches
that URL exactly when the host, without brackets and in lower case, is its canonical
text. -/
theorem host_rule_matches_iff (L : UrlCodecs) (hL : L.Conform) {spelling host : Text}
    (h : HostString spelling host)
    (hok : (normalizeUrl L (hostUrl spelling)).normalizationError = none)
    (rule : ScopeRuleDefinition) (hrule : IsHostRule rule spelling)
    (hinit : rule.postInit L.lower = .ok ()) :
    MatchesOwnHost L rule spelling ↔ SpelledCanonically L host := by
  obtain ⟨canonical, hcanonical, haccepted⟩ := h.normalized hL hok
  have hcompiled := compileScopeRules_hostRule hL h hrule hinit
  have hbracket : '[' ∉ L.lower host := fun hmem =>
    h.bracket_not_mem ((hL.lower_delimiter host '[' (by simp)).mp hmem)
  have hpercent : '%' ∉ L.lower host := fun hmem =>
    h.percent_not_mem ((hL.lower_delimiter host '%' (by simp)).mp hmem)
  have hself := canonicalHost_eq_self_iff hL (hL.lower_lower host) hbracket hpercent hcanonical
  rw [hL.lower_delimiter host ':' (by simp)] at hself
  have hmatches : ∀ compiled : CompiledScopeRule,
      compiled = ⟨rule.ruleId, rule.effect, "https".toList, some (L.lower host), none, 443, none,
        rule.sourceReference, rule.expiresAt⟩ →
      (compiled.Matches (normalizeUrl L (hostUrl spelling)) ↔ canonical = L.lower host) := by
    rintro compiled rfl
    unfold CompiledScopeRule.Matches ruleMatches originMatches hostMatches pathMatches
    simp [haccepted.error, haccepted.path_eq, haccepted.scheme_eq, haccepted.host_eq,
      haccepted.port_eq]
  constructor
  · rintro ⟨compiled, hcompile, hmatch, -⟩
    rw [hcompiled] at hcompile
    have heq := (List.cons.inj (CompiledScope.mk.inj (Except.ok.inj hcompile))).1.symm
    obtain ⟨hascii, hstrip, hipv6⟩ := hself.mp ((hmatches compiled heq).mp hmatch)
    exact ⟨hascii, hstrip, hipv6⟩
  · rintro ⟨hascii, hstrip, hipv6⟩
    have hmatch := (hmatches _ rfl).mpr (hself.mpr ⟨hascii, hstrip, hipv6⟩)
    refine ⟨_, hcompiled, hmatch, fun scope now hmem hexclusion hfresh => ?_⟩
    exact congrArg Prod.fst (evaluate_exclusion hmem hmatch hexclusion hfresh)

/-- `bücher.example`. -/
def bucherHost : Text := "bücher.example".toList

/-- The tables on ASCII names and on one other. -/
def bucherCodecs : UrlCodecs :=
  { asciiCodecs with
    idna := fun s =>
      if s = bucherHost then some "xn--bcher-kva.example".toList
      else if s.all Text.isAscii then some s else none }

theorem asciiLower_asciiLower (c : Char) :
    Text.asciiLower (Text.asciiLower c) = Text.asciiLower c := by
  by_cases hupper : 'A' ≤ c ∧ c ≤ 'Z'
  · refine asciiLower_of_not_upper fun hagain => ?_
    have hge : 'A'.toNat ≤ c.toNat := hupper.1
    have hle : (Text.asciiLower c).toNat ≤ 'Z'.toNat := hagain.2
    have ha : 'A'.toNat = 65 := rfl
    have hz : 'Z'.toNat = 90 := rfl
    rw [toNat_asciiLower hupper] at hle
    omega
  · rw [asciiLower_of_not_upper hupper, asciiLower_of_not_upper hupper]

/-- Case leaves the delimiters alone. -/
theorem asciiLower_eq_delimiter {c d : Char} (hd : d ∈ [':', '[', ']', '%']) :
    Text.asciiLower c = d ↔ c = d := by
  have hcodes : ∀ d ∈ [':', '[', ']', '%'], ¬ ('A' ≤ d ∧ d ≤ 'Z') ∧ ¬ ('a' ≤ d ∧ d ≤ 'z') :=
    forall_mem_of_all (by decide)
  obtain ⟨hupper', hlower'⟩ := hcodes d hd
  by_cases hupper : 'A' ≤ c ∧ c ≤ 'Z'
  · have hge : 'A'.toNat ≤ c.toNat := hupper.1
    have hle : c.toNat ≤ 'Z'.toNat := hupper.2
    have hlow : 'A'.toNat + 0x20 = 'a'.toNat := rfl
    have hhigh : 'Z'.toNat + 0x20 = 'z'.toNat := rfl
    refine iff_of_false (fun heq => hlower' ?_) fun heq => hupper' (heq ▸ hupper)
    have hval := toNat_asciiLower hupper
    rw [heq] at hval
    exact ⟨show 'a'.toNat ≤ d.toNat by omega, show d.toNat ≤ 'z'.toNat by omega⟩
  · rw [asciiLower_of_not_upper hupper]

theorem bucherCodecs_conform : bucherCodecs.Conform where
  lower_ascii _ _ := rfl
  lower_lower s := by
    show (s.map Text.asciiLower).map Text.asciiLower = s.map Text.asciiLower
    rw [List.map_map]
    exact List.map_congr_left fun c _ => asciiLower_asciiLower c
  lower_delimiter s c hc := by
    show c ∈ s.map Text.asciiLower ↔ c ∈ s
    rw [List.mem_map]
    constructor
    · rintro ⟨d, hd, heq⟩
      exact (asciiLower_eq_delimiter hc).mp heq ▸ hd
    · intro hmem
      exact ⟨c, hmem, (asciiLower_eq_delimiter hc).mpr rfl⟩
  ipv4_text _ _ h := by cases h
  ipv6_text _ _ _ h := by cases h
  idna_text s t h := by
    have hidna : (if s = bucherHost then some "xn--bcher-kva.example".toList
      else if s.all Text.isAscii then some s else none) = some t := h
    by_cases hs : s = bucherHost
    · rw [if_pos hs] at hidna
      obtain rfl := Option.some.inj hidna
      refine ⟨by decide, fun hascii => ?_⟩
      rw [hs] at hascii
      exact absurd hascii (by decide)
    · rw [if_neg hs] at hidna
      by_cases hascii : s.all Text.isAscii = true
      · rw [if_pos hascii] at hidna
        obtain rfl := Option.some.inj hidna
        exact ⟨hascii, fun _ => rfl⟩
      · rw [if_neg hascii] at hidna
        cases hidna

/-- A rule that excludes a host. -/
def denyRule (spelling : Text) : ScopeRuleDefinition :=
  { ruleId := "rule-deny".toList, effect := .deny, scheme := "https".toList
    host := some spelling, port := none, pathPrefix := none
    sourceReference := "scope-src".toList, hostPattern := none, expiresAt := none }

/-- **A name outside ASCII** is not matched by a rule for it. -/
theorem bucher_not_denied :
    ¬ ∀ (L : UrlCodecs), L.Conform → ∀ spelling host : Text, HostString spelling host →
      (normalizeUrl L (hostUrl spelling)).normalizationError = none →
        ∀ rule, IsHostRule rule spelling → rule.postInit L.lower = .ok () →
          MatchesOwnHost L rule spelling := by
  intro hall
  have hhost : HostString bucherHost bucherHost :=
    ⟨forall_mem_of_all (by decide), .inl ⟨rfl, forall_mem_of_all (by decide)⟩⟩
  have hok : (normalizeUrl bucherCodecs (hostUrl bucherHost)).normalizationError = none := by
    decide
  have hrule : IsHostRule (denyRule bucherHost) bucherHost := ⟨rfl, rfl, rfl, rfl, rfl⟩
  have hinit : (denyRule bucherHost).postInit bucherCodecs.lower = .ok () := by decide
  obtain ⟨compiled, hcompile, ⟨-, path, -, hmatch⟩, -⟩ :=
    hall bucherCodecs bucherCodecs_conform _ _ hhost hok _ hrule hinit
  rw [compileScopeRules_hostRule bucherCodecs_conform hhost hrule hinit] at hcompile
  obtain rfl := (List.cons.inj (CompiledScope.mk.inj (Except.ok.inj hcompile))).1
  have horigin := (Bool.and_eq_true_iff.mp hmatch).1
  exact absurd horigin (by decide)

/-- A rule for a name in ASCII matches it in any case. -/
theorem host_rule_matches_example :
    MatchesOwnHost bucherCodecs (denyRule "EXAMPLE.com".toList) "EXAMPLE.com".toList := by
  have hhost : HostString "EXAMPLE.com".toList "EXAMPLE.com".toList :=
    ⟨forall_mem_of_all (by decide), .inl ⟨rfl, forall_mem_of_all (by decide)⟩⟩
  refine (host_rule_matches_iff bucherCodecs bucherCodecs_conform hhost (by decide)
    _ ⟨rfl, rfl, rfl, rfl, rfl⟩ (by decide)).mpr ?_
  exact ⟨by decide, by decide +kernel, fun hcolon => absurd hcolon (by decide)⟩

end Zest
