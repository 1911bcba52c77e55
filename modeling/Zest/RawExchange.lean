import Mathlib.Data.List.TakeDrop
import Zest.Fallible
import Zest.HttpMessage
import Zest.NetworkEnvelope
import Zest.UrlNormalize

/-! # The raw exchange of the Worker

The executor of `http.raw_exchange` checks the origin and the path of a request,
and writes the octets of one framing profile of a closed catalog.  What it writes
is read here as HTTP/1.1, and compared with what the catalog says about the
checked origin and path.

The control and the lane of a request go into header lines without a check.
`wire_says_catalog_iff` says exactly when the octets say what the catalog does.
-/
namespace Zest.RawExchange

open Http

/-- An argument of a request, as far as the executor looks at it; `True` and
`False` are the integers 1 and 0. -/
inductive Argument where
  | text (s : Text)
  | integer (n : Int)
  | other (truthy : Bool)

/-- `FRAMING_PROFILES`. -/
inductive FramingProfile where
  | http1Canonical
  | http1HeaderCaseFold
  | http1AbsoluteUri
  | http1ClTe
  | http1TeCl
  | http1ConnectionReuse
  | http2Preface
  | h2cUpgrade
  | http1CacheHost
  | http1CacheScheme
  | http1CachePath
  | http1CacheQuery
  | http1CacheHeader
  deriving DecidableEq, Repr

/-- The profiles by their names. -/
def framingProfiles : List (String × FramingProfile) :=
  [("http1_canonical", .http1Canonical), ("http1_header_case_fold", .http1HeaderCaseFold),
    ("http1_absolute_uri", .http1AbsoluteUri), ("http1_cl_te", .http1ClTe),
    ("http1_te_cl", .http1TeCl), ("http1_connection_reuse", .http1ConnectionReuse),
    ("http2_preface", .http2Preface), ("h2c_upgrade", .h2cUpgrade),
    ("http1_cache_host", .http1CacheHost), ("http1_cache_scheme", .http1CacheScheme),
    ("http1_cache_path", .http1CachePath), ("http1_cache_query", .http1CacheQuery),
    ("http1_cache_header", .http1CacheHeader)]

def FramingProfile.ofText (name : Text) : Option FramingProfile :=
  (framingProfiles.find? fun entry => entry.1.toList = name).map (·.2)

inductive Status where
  | executionFailed
  | blocked
  deriving DecidableEq, Repr

/-- Why no connection is opened: the executor has answered, or an exception has
left it. -/
inductive Refusal where
  | answered (status : Status) (error : String)
  | raised (exception : String)

structure Request where
  arguments : Option (Text → Option Argument)
  networkEnvelope : Option EnvelopeMapping

/-- What the executor connects to and writes, and the arguments that it names in
its answer. -/
structure Exchange where
  origin : Text
  path : Text
  profile : FramingProfile
  control : Text
  lane : Text
  host : Text
  port : Nat
  writes : List Octets
  maxResponseBytes : Int
  timeoutMs : Int

def defaultMaxResponseBytes : Int := 4096

def absoluteMaxResponseBytes : Int := 1048576

def defaultTimeoutMs : Int := 2000

def absoluteTimeoutMs : Int := 10000

/-- `MAX_WRITES`. -/
def maxWrites : Nat := 2

/-! ## The checks -/

/-- An argument that is a text and is not blank. -/
def textArgument (arguments : Text → Option Argument) (key : String) : Option Text :=
  match arguments key.toList with
  | some (.text s) => if s.strip = [] then none else some s
  | _ => none

/-- `any(marker in s for marker in CRLF_MARKERS)`. -/
def hasCrlfMarker (s : Text) : Bool := s.any isBreak

/-- The query and the fragment of `urlsplit(url)`, where it does not raise. -/
def queryAndFragment (url : Text) : Text × Text :=
  let url := (url.dropWhile isC0ControlOrSpace).filter (fun c => !isUnsafeUrlByte c)
  let (_, url) := splitScheme url
  let (_, url) := if url.startsWith "//".toList then splitNetloc (url.drop 2) else ([], url)
  let (url, _, fragment) := url.partition '#'
  ((url.partition '?').2.2, fragment)

section Executor

variable (L : UrlCodecs)

/-- `_reject_origin`. -/
def rejectOrigin (origin : Text) : Except Refusal (Option String) :=
  if hasCrlfMarker origin then .ok (some "authorized_origin must not contain CRLF")
  else
    match urlsplit L origin with
    | none => .error (.raised "ValueError")
    | some parsed => .ok <|
      if parsed.scheme ≠ "http".toList then some "authorized_origin scheme is not allowed"
      else if parsed.hostname L ≠ some loopbackHost then some "authorized_origin must be loopback"
      else if parsed.path ≠ [] ∧ parsed.path ≠ ['/'] then
        some "authorized_origin must not include a path"
      else if (queryAndFragment origin).1 ≠ [] ∨ (queryAndFragment origin).2 ≠ [] then
        some "authorized_origin must not include query or fragment"
      else if parsed.userinfo.1.any (· ≠ []) ∨ parsed.userinfo.2.any (· ≠ []) then
        some "authorized_origin must not include userinfo"
      else none

/-- `_reject_path`. -/
def rejectPath (path : Text) : Option String :=
  if hasCrlfMarker path then some "path must not contain CRLF"
  else if !path.startsWith ['/'] then some "path must be absolute"
  else if path.startsWith "//".toList || path.hasInfix "://".toList then
    some "path must not be an absolute URL"
  else if path.contains '\\' || path.hasInfix "/../".toList || path.endsWith "/..".toList then
    some "path is ambiguous"
  else none

/-- The reasons of `envelope_allows`. -/
def refusalText : EnvelopeRefusal → String
  | .unsupportedScheme => "UNSUPPORTED_SCHEME"
  | .outsideEnvelope => "OUTSIDE_ENVELOPE"

/-- `arguments.get("max_response_bytes") or DEFAULT_MAX_RESPONSE_BYTES`, checked. -/
def responseBound : Option Argument → Except Refusal Int
  | none => .ok defaultMaxResponseBytes
  | some (.integer n) =>
    if n = 0 then .ok defaultMaxResponseBytes
    else if n < 1 then .error (.answered .executionFailed "max_response_bytes is invalid")
    else .ok (min n absoluteMaxResponseBytes)
  | some (.other false) => .ok defaultMaxResponseBytes
  | some (.text []) => .ok defaultMaxResponseBytes
  | some _ => .error (.answered .executionFailed "max_response_bytes is invalid")

/-- The timeout, in milliseconds. -/
def timeoutBound : Option Argument → Except Refusal Int
  | none => .ok defaultTimeoutMs
  | some (.integer n) =>
    if n < 1 then .error (.answered .executionFailed "timeout_ms is invalid")
    else .ok (min n absoluteTimeoutMs)
  | some _ => .error (.answered .executionFailed "timeout_ms is invalid")

/-! ## The catalog -/

/-- `encode("ascii")`: an octet is written as the character it stands for. -/
def encodeAscii (text : Text) : Except Refusal Octets :=
  if text.all Text.isAscii then .ok text else .error (.raised "UnicodeEncodeError")

/-- `_http1`. -/
def http1 (host target extra hostHeader : Text) : Except Refusal Octets :=
  encodeAscii ("GET ".toList ++ target ++ " HTTP/1.1\r\n".toList ++ hostHeader ++ ": ".toList ++
    host ++ "\r\n".toList ++ extra ++ "\r\n".toList)

/-- The request of `_cl_te` and `_te_cl`, whose framing lines are in another
order. -/
def conflicting (framing host path marker : Text) : Except Refusal Octets := do
  let head ← encodeAscii ("POST ".toList ++ path ++ " HTTP/1.1\r\nHost: ".toList ++ host ++
    "\r\n".toList ++ marker ++ framing ++ "\r\n".toList)
  return head ++ "0\r\n\r\n".toList

/-- `_cl_te`. -/
def clTe : Text → Text → Text → Except Refusal Octets :=
  conflicting "Content-Length: 6\r\nTransfer-Encoding: chunked\r\n".toList

/-- `_te_cl`. -/
def teCl : Text → Text → Text → Except Refusal Octets :=
  conflicting "Transfer-Encoding: chunked\r\nContent-Length: 6\r\n".toList

/-- The connection preface of HTTP/2. -/
def http2Preface : Octets := "PRI * HTTP/2.0\r\n\r\nSM\r\n\r\n".toList

/-- The field lines that have the control and the lane. -/
def marker (control lane : Text) : Text :=
  "x-ros-ctl: ".toList ++ control ++ "\r\nx-ros-lane: ".toList ++ lane ++ "\r\n".toList

/-- `_catalog_writes`, with `urlsplit(origin).netloc`. -/
def catalogWrites (profile : FramingProfile) (host origin path control lane : Text) :
    Except Refusal (List Octets) :=
  let marker := marker control lane
  let one (target extra hostHeader : Text) := (http1 host target extra hostHeader).map ([·])
  match profile with
  | .http1Canonical => one path marker "Host".toList
  | .http1HeaderCaseFold => one path marker "HOST".toList
  | .http1AbsoluteUri => one (origin ++ path) marker "Host".toList
  | .http1ClTe => (clTe host path marker).map ([·])
  | .http1TeCl => (teCl host path marker).map ([·])
  | .http1ConnectionReuse => do
    let first ← http1 host path (marker ++ "connection: keep-alive\r\n".toList) "Host".toList
    let second ← http1 host path (marker ++ "connection: close\r\n".toList) "Host".toList
    return [first, second]
  | .http2Preface => .ok [http2Preface]
  | .h2cUpgrade =>
    one path (marker ++ "connection: Upgrade, HTTP2-Settings\r\n".toList ++
      "upgrade: h2c\r\n".toList ++ "http2-settings: AAMAAABkAAQAAP__\r\n".toList) "Host".toList
  | .http1CacheHost => one (origin ++ path) marker "Host".toList
  | .http1CacheScheme => one path (marker ++ "x-forwarded-proto: https\r\n".toList) "Host".toList
  | .http1CachePath => one path (marker ++ "x-ros-cache-path: 1\r\n".toList) "Host".toList
  | .http1CacheQuery =>
    one (if path.contains '?' then path else path ++ "?ros_ck=1".toList) marker "Host".toList
  | .http1CacheHeader => one path (marker ++ "x-ros-cache-key: 1\r\n".toList) "Host".toList

/-- `execute_http_raw_exchange`, up to the exchange itself. -/
def execute (request : Request) : Except Refusal Exchange :=
  match request.arguments with
  | none => .error (.answered .executionFailed "arguments must be an object")
  | some arguments =>
    match request.networkEnvelope.bind (parseEnvelope L) with
    | none => .error (.answered .executionFailed "network_envelope is required")
    | some envelope =>
      match textArgument arguments "authorized_origin", textArgument arguments "path",
        textArgument arguments "framing_profile", textArgument arguments "control",
        textArgument arguments "lane" with
      | some origin, some path, some profile, some control, some lane => do
        let origin := origin.strip.rstrip '/'
        let path := path.strip
        match FramingProfile.ofText profile.strip with
        | none => .error (.answered .blocked "framing_profile is not in the closed catalog")
        | some profile =>
          match ← rejectOrigin L origin, rejectPath path with
          | some error, _ => .error (.answered .blocked error)
          | none, some error => .error (.answered .blocked error)
          | none, none =>
            match envelopeAllows L envelope (origin ++ path) with
            | some reason => .error (.answered .executionFailed
                ("request is outside authorized network envelope: " ++ refusalText reason))
            | none =>
              let maxResponseBytes ← responseBound (arguments "max_response_bytes".toList)
              let timeoutMs ← timeoutBound (arguments "timeout_ms".toList)
              match urlsplit L origin with
              | none => .error (.raised "ValueError")
              | some parsed =>
                match parsed.port with
                | none => .error (.raised "ValueError")
                | some port =>
                  let writes ← catalogWrites profile parsed.netloc origin path control.strip
                    lane.strip
                  if writes.length > maxWrites then
                    .error (.answered .blocked "framing_profile exceeds write bound")
                  else return {
                    origin := origin
                    path := path
                    profile := profile
                    control := control.strip
                    lane := lane.strip
                    host := (parsed.hostname L).getD []
                    port := match port with
                      | none | some 0 => 80
                      | some port => port
                    writes := writes
                    maxResponseBytes := maxResponseBytes
                    timeoutMs := timeoutMs }
      | _, _, _, _, _ => .error (.answered .executionFailed
          "authorized_origin, path, framing_profile, control, lane are required")

end Executor

/-! ## What the catalog says

The abstract catalog: the requests of each profile, with the checked values in
their places. -/

/-- The target of the requests of a profile. -/
def FramingProfile.target (profile : FramingProfile) (origin path : Octets) : Octets :=
  match profile with
  | .http1AbsoluteUri | .http1CacheHost => origin ++ path
  | .http1CacheQuery => if path.contains '?' then path else path ++ "?ros_ck=1".toList
  | _ => path

def FramingProfile.method : FramingProfile → Octets
  | .http1ClTe | .http1TeCl => "POST".toList
  | _ => "GET".toList

def FramingProfile.hostName : FramingProfile → Octets
  | .http1HeaderCaseFold => "HOST".toList
  | _ => "Host".toList

/-- The fixed field lines of each request of a profile. -/
def FramingProfile.fixedFields : FramingProfile → List (List Octets)
  | .http1ClTe => [[field "Content-Length".toList "6".toList,
      field "Transfer-Encoding".toList "chunked".toList]]
  | .http1TeCl => [[field "Transfer-Encoding".toList "chunked".toList,
      field "Content-Length".toList "6".toList]]
  | .http1ConnectionReuse => [[field "connection".toList "keep-alive".toList],
      [field "connection".toList "close".toList]]
  | .http2Preface => []
  | .h2cUpgrade => [[field "connection".toList "Upgrade, HTTP2-Settings".toList,
      field "upgrade".toList "h2c".toList,
      field "http2-settings".toList "AAMAAABkAAQAAP__".toList]]
  | .http1CacheScheme => [[field "x-forwarded-proto".toList "https".toList]]
  | .http1CachePath => [[field "x-ros-cache-path".toList "1".toList]]
  | .http1CacheHeader => [[field "x-ros-cache-key".toList "1".toList]]
  | _ => [[]]

/-- The body of the requests of a profile. -/
def FramingProfile.body : FramingProfile → Octets
  | .http1ClTe | .http1TeCl => lastChunk
  | _ => []

/-- A request of a profile, with its fixed field lines. -/
def FramingProfile.request (profile : FramingProfile) (authority origin path control lane : Octets)
    (fixed : List Octets) : Http.Request where
  method := profile.method
  target := profile.target origin path
  fields := field profile.hostName authority :: field "x-ros-ctl".toList control ::
    field "x-ros-lane".toList lane :: fixed
  content := []

/-- What goes over a connection: requests, or the preface of HTTP/2. -/
inductive Said where
  | requests (requests : List Http.Request)
  | preface
  deriving DecidableEq

/-- What the octets of a connection say. -/
def readWire (octets : Octets) : Option Said :=
  if octets = http2Preface then some .preface else (readConnection octets).map .requests

/-- **What the catalog says** about the checked values. -/
def FramingProfile.said (profile : FramingProfile) (authority origin path control lane : Octets) :
    Said :=
  if profile = .http2Preface then .preface
  else .requests (profile.fixedFields.map (profile.request authority origin path control lane))

section Catalog

variable {profile : FramingProfile} {host origin path control lane target hostHeader : Text}
variable {octets : Octets} {writes : List Octets}

/-- The field lines of a request of the catalog. -/
def catalogFields (hostHeader host control lane : Octets) (fixed : List Octets) : List Octets :=
  field hostHeader host :: field "x-ros-ctl".toList control ::
    field "x-ros-lane".toList lane :: fixed

theorem encodeAscii_eq_ok {text : Text} (h : encodeAscii text = .ok octets) : octets = text := by
  unfold encodeAscii at h
  split at h
  · exact (Except.ok.inj h).symm
  · cases h

theorem renderLines_cons (line : Octets) (lines : List Octets) :
    renderLines (line :: lines) = line ++ crlf ++ renderLines lines := rfl

/-! The literals of the code, cut where a request is put together here. -/

theorem versionLine_eq : " HTTP/1.1\r\n".toList = ' ' :: (version ++ crlf) := rfl

theorem lineEnd_eq : "\r\n".toList = crlf := rfl

theorem colon_eq : ": ".toList = [':', ' '] := rfl

theorem marker_eq : marker control lane =
    field "x-ros-ctl".toList control ++ crlf ++ (field "x-ros-lane".toList lane ++ crlf) := by
  have hctl : "x-ros-ctl: ".toList = "x-ros-ctl".toList ++ [':', ' '] := rfl
  have hlane : "\r\nx-ros-lane: ".toList = crlf ++ ("x-ros-lane".toList ++ [':', ' ']) := rfl
  unfold marker field
  rw [hctl, hlane, lineEnd_eq]
  simp only [List.append_assoc, List.cons_append, List.nil_append]

theorem http1_eq_ok (fixed : List Octets)
    (h : http1 host target (marker control lane ++ renderLines fixed) hostHeader = .ok octets) :
    octets = render "GET".toList target (catalogFields hostHeader host control lane fixed) [] := by
  have hget : "GET ".toList = "GET".toList ++ [' '] := rfl
  have hhost : field hostHeader host = hostHeader ++ [':', ' '] ++ host := by simp [field]
  rw [encodeAscii_eq_ok h]
  unfold render catalogFields
  rw [renderLines_cons, renderLines_cons, renderLines_cons, hget, versionLine_eq, lineEnd_eq,
    colon_eq, marker_eq, hhost]
  simp only [List.append_assoc, List.cons_append, List.nil_append, List.append_nil]

theorem conflicting_eq_ok {fixed : List Octets}
    (h : conflicting (renderLines fixed) host path (marker control lane) = .ok octets) :
    octets = render "POST".toList path (catalogFields "Host".toList host control lane fixed)
      lastChunk := by
  unfold conflicting at h
  obtain ⟨head, hhead, h⟩ := bind_eq_ok h
  cases h
  have hpost : "POST ".toList = "POST".toList ++ [' '] := rfl
  have hversion : " HTTP/1.1\r\nHost: ".toList =
      ' ' :: (version ++ crlf) ++ ("Host".toList ++ [':', ' ']) := rfl
  have hhost : field "Host".toList host = "Host".toList ++ [':', ' '] ++ host := by simp [field]
  have hlast : "0\r\n\r\n".toList = lastChunk := rfl
  rw [encodeAscii_eq_ok hhead]
  unfold render catalogFields
  rw [renderLines_cons, renderLines_cons, renderLines_cons, hpost, hversion, lineEnd_eq,
    marker_eq, hhost, hlast]
  simp only [List.append_assoc, List.cons_append, List.nil_append]

theorem oneRequest_eq_ok {extra : Text} (fixed : List Octets)
    (h : (http1 host target extra hostHeader).map ([·]) = .ok writes)
    (hextra : extra = marker control lane ++ renderLines fixed) :
    writes =
      [render "GET".toList target (catalogFields hostHeader host control lane fixed) []] := by
  subst hextra
  cases hone : http1 host target (marker control lane ++ renderLines fixed) hostHeader with
  | error e =>
    rw [hone] at h
    cases h
  | ok octets =>
    rw [hone] at h
    cases h
    rw [← http1_eq_ok fixed hone]

theorem oneConflicting_eq_ok (fixed : List Octets)
    (h : (conflicting (renderLines fixed) host path (marker control lane)).map ([·]) =
      .ok writes) :
    writes = [render "POST".toList path
      (catalogFields "Host".toList host control lane fixed) lastChunk] := by
  cases hone : conflicting (renderLines fixed) host path (marker control lane) with
  | error e =>
    rw [hone] at h
    cases h
  | ok octets =>
    rw [hone] at h
    cases h
    rw [← conflicting_eq_ok hone]

/-- **The writes are the requests of the catalog**, one after the other. -/
theorem catalogWrites_eq_ok
    (h : catalogWrites profile host origin path control lane = .ok writes)
    (hprofile : profile ≠ .http2Preface) :
    writes = profile.fixedFields.map fun fixed =>
      (profile.request host origin path control lane fixed).rendered profile.body := by
  cases profile with
  | http1Canonical =>
    exact oneRequest_eq_ok [] h (List.append_nil _).symm
  | http1HeaderCaseFold =>
    exact oneRequest_eq_ok [] h (List.append_nil _).symm
  | http1AbsoluteUri =>
    exact oneRequest_eq_ok [] h (List.append_nil _).symm
  | http1ClTe =>
    exact oneConflicting_eq_ok _ h
  | http1TeCl =>
    exact oneConflicting_eq_ok _ h
  | http1ConnectionReuse =>
    obtain ⟨first, hfirst, h⟩ := bind_eq_ok h
    obtain ⟨second, hsecond, h⟩ := bind_eq_ok h
    cases h
    rw [http1_eq_ok [field "connection".toList "keep-alive".toList] hfirst,
      http1_eq_ok [field "connection".toList "close".toList] hsecond]
    rfl
  | http2Preface => exact absurd rfl hprofile
  | h2cUpgrade =>
    exact oneRequest_eq_ok _ h (by simp only [List.append_assoc]; rfl)
  | http1CacheHost =>
    exact oneRequest_eq_ok [] h (List.append_nil _).symm
  | http1CacheScheme =>
    exact oneRequest_eq_ok _ h rfl
  | http1CachePath =>
    exact oneRequest_eq_ok _ h rfl
  | http1CacheQuery =>
    exact oneRequest_eq_ok [] h (List.append_nil _).symm
  | http1CacheHeader =>
    exact oneRequest_eq_ok _ h rfl

/-! ### Its requests are well formed where the checked values are harmless -/

theorem isToken_hostName (profile : FramingProfile) : isToken profile.hostName = true := by
  cases profile <;> decide

theorem isToken_method (profile : FramingProfile) : isToken profile.method = true := by
  cases profile <;> decide

/-- Only the fixed field lines may frame a request. -/
theorem valuesOf_request {name : Octets} {fixed : List Octets}
    (hname : name ≠ "host".toList ∧ name ≠ "x-ros-ctl".toList ∧ name ≠ "x-ros-lane".toList) :
    valuesOf name (profile.request host origin path control lane fixed).fields =
      valuesOf name fixed := by
  have hhost : profile.hostName.map Char.toLower = "host".toList := by cases profile <;> decide
  unfold FramingProfile.request
  rw [valuesOf_field (isToken_hostName profile), valuesOf_field (by decide),
    valuesOf_field (by decide), hhost, if_neg hname.1.symm, if_neg, if_neg]
  · exact fun heq => hname.2.2 (heq.symm.trans (by decide))
  · exact fun heq => hname.2.1 (heq.symm.trans (by decide))

/-- How the fixed field lines frame a request, and what its body is. -/
theorem framing (profile : FramingProfile) :
    ∀ fixed ∈ profile.fixedFields,
      profile.body = [] ∧ valuesOf "transfer-encoding".toList fixed = [] ∧
          valuesOf "content-length".toList fixed = [] ∨
        profile.body = lastChunk ∧
          valuesOf "transfer-encoding".toList fixed = ["chunked".toList] := by
  cases profile <;> decide

theorem isFieldLine_fixed (profile : FramingProfile) :
    ∀ fixed ∈ profile.fixedFields, ∀ line ∈ fixed, isFieldLine line = true := by
  cases profile <;> decide

theorem wellFormed_request {fixed : List Octets} (hfixed : fixed ∈ profile.fixedFields)
    (hhost : clean host = true) (hcontrol : clean control = true) (hlane : clean lane = true)
    (htarget : isTarget (profile.target origin path) = true) :
    WellFormed (profile.request host origin path control lane fixed) profile.body where
  method := isToken_method profile
  target := htarget
  fields := by
    refine List.forall_mem_cons.mpr ⟨isFieldLine_field (isToken_hostName profile) hhost, ?_⟩
    refine List.forall_mem_cons.mpr ⟨isFieldLine_field (by decide) hcontrol, ?_⟩
    exact List.forall_mem_cons.mpr ⟨isFieldLine_field (by decide) hlane,
      isFieldLine_fixed profile fixed hfixed⟩
  content rest := by
    rcases framing profile fixed hfixed with ⟨hbody, hcoding, hlength⟩ | ⟨hbody, hcoding⟩
    · rw [hbody]
      exact readContent_empty ((valuesOf_request (by decide)).trans hcoding)
        ((valuesOf_request (by decide)).trans hlength) rest
    · rw [hbody]
      exact readContent_lastChunk ((valuesOf_request (by decide)).trans hcoding) rest

/-! ### The preface is nothing else -/

/-- The octets of a request are not those of the preface. -/
theorem rendered_ne_preface (profile : FramingProfile) {requests : List (Http.Request × Octets)}
    (hmethod : ∀ p ∈ requests, p.1.method = profile.method) :
    (requests.flatMap fun p => p.1.rendered p.2) ≠ http2Preface := by
  cases requests with
  | nil => exact List.cons_ne_nil _ _ ∘ Eq.symm
  | cons p requests =>
    have hp : p.1.method = profile.method := hmethod p List.mem_cons_self
    intro hsame
    -- The first two octets are those of the method.
    have htwo := congrArg (List.take 2) hsame
    rw [List.flatMap_cons, Http.Request.rendered, render, hp, List.append_assoc, List.append_assoc,
      List.append_assoc, List.take_append_of_le_length (by cases profile <;> decide)] at htwo
    revert htwo
    cases profile <;> decide

/-! ### What is on the wire is in the fields -/

/-- The octets say what the catalog does only where every line is one line and
every target one target. -/
theorem harmless_of_readConnection {octets : Octets}
    (h : readConnection octets =
      some (profile.fixedFields.map (profile.request host origin path control lane)))
    (hprofile : profile ≠ .http2Preface) :
    clean control = true ∧ clean lane = true ∧ isTarget (profile.target origin path) = true := by
  have hsome : ∃ fixed, fixed ∈ profile.fixedFields := by
    cases profile <;> first | exact ⟨_, List.mem_cons_self⟩ | exact absurd rfl hprofile
  obtain ⟨fixed, hfixed⟩ := hsome
  obtain ⟨htarget, hfields⟩ := readRequests_eq_some h _ (List.mem_map_of_mem hfixed)
  refine ⟨clean_field (hfields (field "x-ros-ctl".toList control) ?_),
    clean_field (hfields (field "x-ros-lane".toList lane) ?_), htarget⟩
  · exact List.mem_cons_of_mem _ List.mem_cons_self
  · exact List.mem_cons_of_mem _ (List.mem_cons_of_mem _ List.mem_cons_self)

end Catalog

/-! ## The exchange -/

section Exchange

variable {L : UrlCodecs} {request : Request} {exchange : Exchange}

/-- `urlsplit(origin).netloc`. -/
def authorityOf (L : UrlCodecs) (origin : Text) : Text :=
  ((urlsplit L origin).map (·.netloc)).getD []

theorem mem_of_partition {sep c : Char} {s : Text} (h : c ∈ (s.partition sep).2.2) : c ∈ s := by
  induction s with
  | nil => exact h
  | cons d s ih =>
    unfold Text.partition at h
    split at h
    · exact List.mem_cons_of_mem _ h
    · exact List.mem_cons_of_mem _ (ih h)

theorem mem_of_splitScheme {url : Text} {c : Char} (h : c ∈ (splitScheme url).2) : c ∈ url := by
  unfold splitScheme at h
  dsimp only at h
  split at h
  · split at h
    · exact mem_of_partition h
    · exact h
  · exact h

/-- A network location is made of characters of the URL. -/
theorem mem_of_netloc {url : Text} {parts : SplitResult} (h : urlsplit L url = some parts)
    {c : Char} (hc : c ∈ parts.netloc) : c ∈ url := by
  unfold urlsplit at h
  dsimp only at h
  generalize hsplit : (if (splitScheme ((url.dropWhile isC0ControlOrSpace).filter
      fun c => !isUnsafeUrlByte c)).2.startsWith "//".toList = true then _ else _) = found at h
  obtain ⟨netloc, rest⟩ := found
  dsimp only at h
  split at h
  · cases h
  split at h
  · cases h
  cases h
  split at hsplit
  · unfold splitNetloc at hsplit
    rw [List.span_eq_takeWhile_dropWhile] at hsplit
    cases hsplit
    have hdrop := List.mem_of_mem_drop ((List.takeWhile_sublist _).subset hc)
    have hfilter := List.mem_filter.mp (mem_of_splitScheme hdrop)
    exact (List.dropWhile_sublist _).subset hfilter.1
  · cases hsplit
    cases hc

theorem clean_eq (s : Octets) : clean s = !hasCrlfMarker s := by
  unfold clean hasCrlfMarker
  exact List.not_any_eq_all_not.symm

/-- What has been checked, and what is written, when a connection is opened. -/
theorem execute_eq_ok (h : execute L request = .ok exchange) :
    rejectOrigin L exchange.origin = .ok none ∧
      catalogWrites exchange.profile (authorityOf L exchange.origin) exchange.origin exchange.path
        exchange.control exchange.lane = .ok exchange.writes := by
  unfold execute at h
  split at h
  · cases h
  split at h
  · cases h
  split at h
  swap
  · cases h
  dsimp only at h
  split at h
  · cases h
  obtain ⟨originError, horigin, h⟩ := bind_eq_ok h
  split at h
  · cases h
  · cases h
  split at h
  · cases h
  obtain ⟨maxResponseBytes, -, h⟩ := bind_eq_ok h
  obtain ⟨timeoutMs, -, h⟩ := bind_eq_ok h
  split at h
  · cases h
  next parsed hparsed =>
    split at h
    · cases h
    obtain ⟨writes, hwrites, h⟩ := bind_eq_ok h
    split at h
    · cases h
    cases h
    refine ⟨horigin, ?_⟩
    unfold authorityOf
    rw [hparsed]
    exact hwrites

/-- The profile of an exchange is the one that is asked for. -/
theorem profile_of_execute (h : execute L request = .ok exchange) :
    ∃ arguments name, request.arguments = some arguments ∧
      textArgument arguments "framing_profile" = some name ∧
      FramingProfile.ofText name.strip = some exchange.profile := by
  unfold execute at h
  split at h
  · cases h
  next arguments harguments =>
  split at h
  · cases h
  split at h
  swap
  · cases h
  next origin path name control lane _ _ hname _ _ =>
  refine ⟨arguments, name, harguments, hname, ?_⟩
  dsimp only at h
  split at h
  · cases h
  next profile hprofile =>
  rw [hprofile]
  obtain ⟨originError, -, h⟩ := bind_eq_ok h
  split at h
  · cases h
  · cases h
  split at h
  · cases h
  obtain ⟨maxResponseBytes, -, h⟩ := bind_eq_ok h
  obtain ⟨timeoutMs, -, h⟩ := bind_eq_ok h
  split at h
  · cases h
  split at h
  · cases h
  obtain ⟨writes, -, h⟩ := bind_eq_ok h
  split at h
  · cases h
  cases h
  rfl

/-- No break of a line comes from the origin. -/
theorem clean_authority {origin : Text} (h : rejectOrigin L origin = .ok none) :
    clean (authorityOf L origin) = true := by
  unfold rejectOrigin at h
  split at h
  · cases h
  next hmarker =>
    rw [Bool.not_eq_true] at hmarker
    unfold authorityOf
    cases hparts : urlsplit L origin with
    | none => rfl
    | some parts =>
      refine List.all_eq_true.mpr fun c hc => ?_
      have hall := List.any_eq_false.mp hmarker c (mem_of_netloc hparts hc)
      simpa using hall

/-- What the executor does not check: the control and the lane are one line each,
and the target is one run of visible characters. -/
structure Harmless (exchange : Exchange) : Prop where
  control : hasCrlfMarker exchange.control = false
  lane : hasCrlfMarker exchange.lane = false
  target : isTarget (exchange.profile.target exchange.origin exchange.path) = true

/-- **What is on the wire is what was checked** exactly where the control, the
lane and the target are harmless, or the profile has none of them. -/
theorem wire_says_catalog_iff (L : UrlCodecs) {request : Request} {exchange : Exchange}
    (h : execute L request = .ok exchange) :
    readWire exchange.writes.flatten = some (exchange.profile.said (authorityOf L exchange.origin)
        exchange.origin exchange.path exchange.control exchange.lane) ↔
      exchange.profile = .http2Preface ∨ Harmless exchange := by
  obtain ⟨horigin, hwrites⟩ := execute_eq_ok h
  by_cases hprofile : exchange.profile = .http2Preface
  · rw [hprofile] at hwrites
    have hpreface : exchange.writes = [http2Preface] := (Except.ok.inj hwrites).symm
    refine ⟨fun _ => Or.inl hprofile, fun _ => ?_⟩
    unfold readWire FramingProfile.said
    rw [hpreface, hprofile]
    rfl
  have hwire : exchange.writes.flatten = (exchange.profile.fixedFields.map fun fixed =>
      (exchange.profile.request (authorityOf L exchange.origin) exchange.origin exchange.path
        exchange.control exchange.lane fixed, exchange.profile.body)).flatMap
          fun p => p.1.rendered p.2 := by
    rw [catalogWrites_eq_ok hwrites hprofile, List.flatMap_map, List.flatMap_def]
  have hnotPreface : exchange.writes.flatten ≠ http2Preface := by
    rw [hwire]
    refine rendered_ne_preface exchange.profile fun p hp => ?_
    obtain ⟨fixed, -, rfl⟩ := List.mem_map.mp hp
    rfl
  unfold readWire FramingProfile.said
  rw [if_neg hnotPreface, if_neg hprofile]
  constructor
  · intro hsaid
    obtain ⟨requests, hrequests, hsame⟩ := Option.map_eq_some_iff.mp hsaid
    cases hsame
    obtain ⟨hcontrol, hlane, htarget⟩ := harmless_of_readConnection hrequests hprofile
    rw [clean_eq, Bool.not_eq_true'] at hcontrol hlane
    exact Or.inr ⟨hcontrol, hlane, htarget⟩
  · intro hharmless
    have hsafe := hharmless.resolve_left hprofile
    have hformed : ∀ p ∈ exchange.profile.fixedFields.map (fun fixed =>
        (exchange.profile.request (authorityOf L exchange.origin) exchange.origin exchange.path
          exchange.control exchange.lane fixed, exchange.profile.body)), WellFormed p.1 p.2 := by
      intro p hp
      obtain ⟨fixed, hfixed, rfl⟩ := List.mem_map.mp hp
      exact wellFormed_request hfixed (clean_authority horigin)
        (by rw [clean_eq, hsafe.control]; rfl) (by rw [clean_eq, hsafe.lane]; rfl) hsafe.target
    rw [hwire, readConnection_rendered hformed, List.map_map]
    rfl

/-- A request for a page of the local host, under a control. -/
def rootRequest (control : Text) : Request where
  arguments := some fun key =>
    if key = "authorized_origin".toList then some (.text "http://127.0.0.1:8080".toList)
    else if key = "path".toList then some (.text ['/'])
    else if key = "framing_profile".toList then some (.text "http1_canonical".toList)
    else if key = "control".toList then some (.text control)
    else if key = "lane".toList then some (.text "http_request_smuggling_desync".toList)
    else none
  networkEnvelope := some {
    normalizedScheme := "http".toList
    normalizedHost := loopbackHost
    normalizedPort := 8080
    documentPath := ['/']
    originWide := true
    allowedPathPrefixes := []
    deniedPathPrefixes := []
    loopbackOnly := true
    sourceScopeRuleIds := []
    authorizationDecisionReference := none }

/-- What is exchanged for it. -/
def rootExchange (control : Text) : Exchange where
  origin := "http://127.0.0.1:8080".toList
  path := ['/']
  profile := .http1Canonical
  control := control
  lane := "http_request_smuggling_desync".toList
  host := loopbackHost
  port := 8080
  writes := [("GET / HTTP/1.1\r\nHost: 127.0.0.1:8080\r\n".toList ++
    marker control "http_request_smuggling_desync".toList ++ "\r\n".toList)]
  maxResponseBytes := 4096
  timeoutMs := 2000

theorem wire_says_catalog_iff_root :
    ∃ exchange, execute asciiCodecs (rootRequest "baseline".toList) = .ok exchange ∧
      readWire exchange.writes.flatten = some (exchange.profile.said
        (authorityOf asciiCodecs exchange.origin) exchange.origin exchange.path exchange.control
        exchange.lane) := by
  have h : execute asciiCodecs (rootRequest "baseline".toList) = .ok (rootExchange _) := rfl
  refine ⟨_, h, (wire_says_catalog_iff asciiCodecs h).mpr (Or.inr ⟨?_, ?_, ?_⟩)⟩ <;> decide

/-- **A control adds a header line.** -/
theorem control_adds_line :
    ∃ exchange, execute asciiCodecs (rootRequest "deceptive\r\nX-Injected: 1".toList) = .ok exchange ∧
      readWire exchange.writes.flatten = some (.requests [{
        method := "GET".toList
        target := ['/']
        fields := ["Host: 127.0.0.1:8080".toList, "x-ros-ctl: deceptive".toList,
          "X-Injected: 1".toList, "x-ros-lane: http_request_smuggling_desync".toList]
        content := [] }]) ∧
      readWire exchange.writes.flatten ≠ some (exchange.profile.said
        (authorityOf asciiCodecs exchange.origin) exchange.origin exchange.path exchange.control
        exchange.lane) := by
  have h : execute asciiCodecs (rootRequest "deceptive\r\nX-Injected: 1".toList) =
      .ok (rootExchange _) := rfl
  refine ⟨_, h, ?_, ?_⟩ <;> decide

end Exchange

end Zest.RawExchange
