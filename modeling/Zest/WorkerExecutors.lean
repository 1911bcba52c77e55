import Zest.HttpTransaction
import Zest.RawExchange

/-! # The executors of the Worker

The Worker checks a request against the packaged definition of its capability
and hands it to the executor of that capability.  This module says how many HTTP
requests an executor sends.  Most send one; two of them have a plan of four, and
go on with the next as long as the last was answered; the raw exchange writes
what its catalog says; and the browser lets the page send requests of its own,
as long as its action has not attempted too many.

What is not the Worker's is in `World`: which requests `http.client` lets out,
what the network answers, and what a page asks for.
-/
namespace Zest.WorkerExecutors

open HttpTransaction (refuseIf textArgument)
open RawExchange (queryAndFragment)

inductive WorkerStatus where
  | succeeded
  | executionFailed
  | blocked
  | timedOut
  | reauthorizationRequired
  | budgetExhausted
  deriving DecidableEq, Repr

/-- An answer: its status, and the `error` or the `reason_code` of its
diagnostics. -/
structure Answer where
  status : WorkerStatus
  error : Option String
  deriving DecidableEq, Repr

/-- `("EXECUTION_FAILED", {}, {"error": error})`. -/
def executionFailed (error : String) : Answer := ⟨.executionFailed, some error⟩

/-- `("BLOCKED", {}, {"error": error})`. -/
def blocked (error : String) : Answer := ⟨.blocked, some error⟩

/-- A request that is given to `http.client`. -/
structure ClientRequest where
  method : Text
  url : Text
  headers : List (Text × Text)
  body : Option (List UInt8)
  deriving DecidableEq

/-- How a request ends, seen from the Worker. -/
inductive Reply where
  | redirect
  /-- Any other answer; its body is within the bound, or not. -/
  | answered (withinBound : Bool)
  /-- An exception, before or after the request is on the wire. -/
  | failed (sent timedOut : Bool)
  deriving DecidableEq, Repr

/-- What is not the Worker's. -/
structure World where
  /-- `http.client` lets the request out: it refuses some paths and headers. -/
  lets : ClientRequest → Bool
  /-- The end of each request that goes out, in their order. -/
  network : Nat → Reply
  /-- How many writes go out before a socket fails. -/
  writes : Nat
  /-- The requests of the page that reach the route handler during the action;
  none, if a check of the page, the session or the lease refuses the action. -/
  page : List Text
  /-- What the action of a page comes to, if it is not cut short. -/
  pageAnswer : Answer

/-- A Worker request. -/
structure Request where
  workerCapability : Text
  action : Text
  capabilityVersion : Text
  capabilityDefinitionFingerprint : Text
  arguments : Dict
  networkEnvelope : Option EnvelopeMapping
  resolvedSecretValues : Option (List (Text × Text))
  maxAttemptedRequests : Option Int

section Executors

variable (L : UrlCodecs)

/-! ## The two probes

`http.authorization.differential` and `http.state_transition` differ in their
arguments and in what they plan. -/

/-- `_reject_origin` of the two probes and of the login. -/
def rejectOrigin (origin : Text) : Except Answer Unit :=
  match urlsplit L origin with
  | none => .error (executionFailed "ValueError")
  | some parsed => do
    refuseIf (parsed.scheme ≠ "http".toList) (blocked "scheme must be http")
    refuseIf (parsed.userinfo.1.any (· ≠ []) || parsed.userinfo.2.any (· ≠ []))
      (blocked "userinfo is not allowed")
    refuseIf (parsed.path ≠ [] && parsed.path ≠ ['/'])
      (blocked "authorized_origin must not include a path")
    refuseIf (queryAndFragment origin ≠ ([], []))
      (blocked "authorized_origin must not include query or fragment")

/-- `str` of a port. -/
def portText (n : Nat) : Text := (toString n).toList

/-- `_origin_of`; `none` is the `ValueError` of a URL or a port. -/
def originOf (url : Text) : Option Text :=
  match urlsplit L url with
  | none => none
  | some parsed =>
    match parsed.port with
    | none => none
    | some port =>
      let host := (parsed.hostname L).getD []
      if parsed.scheme = [] then some []
      else
        match port with
        | none => some (parsed.scheme ++ "://".toList ++ host)
        | some n => some (parsed.scheme ++ "://".toList ++ host ++ [':'] ++ portText n)

/-- The name of the header that says who asks. -/
def actorHeader : Text := "X-Lab-Actor".toList

/-- A request of a probe, with its headers. -/
def probeRequest (method url : Text) (actor body : Option Text) : ClientRequest where
  method := method
  url := url
  headers := [("Accept".toList, "application/json".toList),
      ("Connection".toList, "close".toList)] ++
    (actor.map fun value => (actorHeader, value)).toList ++
    (body.map fun _ => ("Content-Type".toList, "application/json".toList)).toList
  body := body.map PercentEncoding.utf8

/-- What a probe has checked: where it may go, and what it plans. -/
structure Probe where
  envelope : BrowserNetworkEnvelope
  origin : Text
  planned : List ClientRequest

/-- `arguments.get(key) or default`; `none` stands for a value that is no text. -/
def textOr (default : Text) : JsonValue → Option Text
  | .text s => some (if s = [] then default else s)
  | value => if value.truthy then none else some default

/-- `MAX_REQUESTS`. -/
def maxRequests : Nat := 4

/-- The modes of the differential probe. -/
def differentialModes : List Text :=
  ["vulnerable".toList, "secure_only".toList, "redirect".toList]

/-- The requests that `execute_http_authorization` plans. -/
def authorizationPlanned (origin actor ownObject crossObject mode : Text) : List ClientRequest :=
  if mode = "redirect".toList then
    [probeRequest "GET".toList (origin ++ "/redirect".toList) (some actor) none]
  else
    let pre := if mode = "vulnerable".toList then "/vulnerable".toList else "/secure".toList
    let account (pre object : Text) := origin ++ pre ++ "/accounts/".toList ++ object
    [probeRequest "GET".toList (account pre ownObject) (some actor) none,
      probeRequest "GET".toList (account pre crossObject) (some actor) none,
      probeRequest "GET".toList (account "/secure".toList crossObject) (some actor) none,
      probeRequest "GET".toList (account pre crossObject) none none]

/-- `execute_http_authorization`, up to its requests. -/
def prepareAuthorization (request : Request) : Except Answer Probe :=
  match request.networkEnvelope.bind (parseEnvelope L) with
  | none => .error (executionFailed "network_envelope is required")
  | some envelope =>
    match textArgument request.arguments "authorized_origin",
      textArgument request.arguments "actor", textArgument request.arguments "own_object",
      textArgument request.arguments "cross_object" with
    | some origin, some actor, some ownObject, some crossObject =>
      match textOr "vulnerable".toList (request.arguments.get "mode".toList) with
      | none => .error (executionFailed "mode must be vulnerable, secure_only, or redirect")
      | some mode => do
        refuseIf (!differentialModes.contains mode)
          (executionFailed "mode must be vulnerable, secure_only, or redirect")
        rejectOrigin L origin.strip
        let planned := authorizationPlanned origin.strip actor.strip ownObject.strip
          crossObject.strip mode
        refuseIf (maxRequests < planned.length) (executionFailed "request budget exceeded")
        return ⟨envelope, origin.strip, planned⟩
    | _, _, _, _ => .error (executionFailed
        "authorized_origin, actor, own_object, cross_object are required")

/-- `ALLOWED_TRANSITIONS`. -/
def allowedTransitions : List Text :=
  ["submit".toList, "review".toList, "approve".toList, "reject".toList]

/-- `ALLOWED_AREAS`. -/
def allowedAreas : List Text := ["workflow".toList, "control".toList, "redirect".toList]

/-- `json.dumps({"transition": transition}, separators=(",", ":"))`, of a
transition that is allowed. -/
def transitionBody (transition : Text) : Text :=
  "\x7b\"transition\":\"".toList ++ transition ++ "\"\x7d".toList

/-- The requests that `execute_http_state_transition` plans. -/
def transitionPlanned (origin actor resourceId transition area : Text) : List ClientRequest :=
  if area = "redirect".toList then
    [probeRequest "GET".toList (origin ++ "/redirect".toList) (some actor) none]
  else
    let pre := origin ++ ['/'] ++ area ++ "/requests/".toList ++ resourceId
    let control := origin ++ "/control/requests/".toList ++ resourceId ++ ['/'] ++ transition
    let body := some (transitionBody transition)
    [probeRequest "GET".toList pre (some actor) none,
      probeRequest "POST".toList control (some actor) body,
      probeRequest "POST".toList (pre ++ ['/'] ++ transition) (some actor) body,
      probeRequest "GET".toList pre (some actor) none]

/-- `execute_http_state_transition`, up to its requests. -/
def prepareTransition (request : Request) : Except Answer Probe :=
  match request.networkEnvelope.bind (parseEnvelope L) with
  | none => .error (executionFailed "network_envelope is required")
  | some envelope =>
    match textArgument request.arguments "authorized_origin",
      textArgument request.arguments "actor", textArgument request.arguments "resource_id",
      textArgument request.arguments "transition" with
    | some origin, some actor, some resourceId, some transition =>
      match textOr "workflow".toList (request.arguments.get "area".toList) with
      | none => .error (executionFailed "area must be workflow, control, or redirect")
      | some area => do
        refuseIf (!allowedAreas.contains area)
          (executionFailed "area must be workflow, control, or redirect")
        refuseIf (!allowedTransitions.contains transition)
          (executionFailed "transition is not in the allowlist")
        rejectOrigin L origin.strip
        let planned := transitionPlanned origin.strip actor.strip resourceId.strip transition area
        refuseIf (maxRequests < planned.length) (executionFailed "request budget exceeded")
        return ⟨envelope, origin.strip, planned⟩
    | _, _, _, _ => .error (executionFailed
        "authorized_origin, actor, resource_id, transition are required")

/-- `MAX_POST_BYTES`. -/
def maxPostBytes : Nat := 512

/-- What stops a planned request before it is given to `http.client`. -/
def stopped (envelope : BrowserNetworkEnvelope) (origin : Text) (planned : ClientRequest) :
    Option Answer :=
  match envelopeAllows L envelope planned.url with
  | some reason => some (executionFailed
      ("request is outside authorized network envelope: " ++ RawExchange.refusalText reason))
  | none =>
    match originOf L planned.url with
    | none => some (executionFailed "ValueError")
    | some found =>
      if found ≠ origin then
        some (blocked "request origin does not match authorized_origin")
      else if (urlsplit L planned.url).any (·.scheme ≠ "http".toList) then
        some (blocked "non-loopback HTTP is blocked")
      else if planned.body.any (maxPostBytes < ·.length) then
        some (executionFailed "response exceeded byte bound")
      else none

/-- A request, after `sent` others: how many have gone out then, and the answer
that it ends the executor with, if it does. -/
def send (world : World) (sent : Nat) (request : ClientRequest) : Nat × Option Answer :=
  if !world.lets request then (sent, some (executionFailed "InvalidURL"))
  else
    match world.network sent with
    | .redirect => (sent + 1, some ⟨.reauthorizationRequired, none⟩)
    | .answered true => (sent + 1, none)
    | .answered false => (sent + 1, some (executionFailed "response exceeded byte bound"))
    | .failed out timedOut =>
      (if out then sent + 1 else sent,
        some (if timedOut then ⟨.timedOut, some "timeout"⟩ else executionFailed "OSError"))

/-- The planned requests, one after another, after `sent` others. -/
def probe (world : World) (envelope : BrowserNetworkEnvelope) (origin : Text) :
    Nat → List ClientRequest → Nat × Answer
  | sent, [] => (sent, ⟨.succeeded, none⟩)
  | sent, planned :: rest =>
    match stopped L envelope origin planned with
    | some answer => (sent, answer)
    | none =>
      match send world sent planned with
      | (sent, some answer) => (sent, answer)
      | (sent, none) => probe world envelope origin sent rest

/-- A probe, from its checks on. -/
def runProbe (world : World) : Except Answer Probe → Nat × Answer
  | .error answer => (0, answer)
  | .ok prepared => probe L world prepared.envelope prepared.origin 0 prepared.planned

/-! ## One request -/

/-- A request, and nothing after it. -/
def sendOne (world : World) : Except Answer ClientRequest → Nat × Answer
  | .error answer => (0, answer)
  | .ok request =>
    match send world 0 request with
    | (sent, answer) => (sent, answer.getD ⟨.succeeded, none⟩)

/-- The answer of a refusal; an exception ends the Worker. -/
def transactionAnswer : HttpTransaction.Refusal → Answer
  | .executionFailed error => executionFailed error
  | .blocked _ error => blocked error
  | .raised exception => executionFailed exception

/-- `execute_http_transaction`, up to its request. -/
def prepareTransaction (isAlnum : Char → Bool) (upper : Text → Text) (request : Request) :
    Except Answer ClientRequest :=
  match HttpTransaction.execute L isAlnum upper
    ⟨request.action, request.arguments, request.networkEnvelope, request.resolvedSecretValues⟩ with
  | .error refusal => .error (transactionAnswer refusal)
  | .ok exchange => .ok
    ⟨exchange.method, exchange.origin ++ exchange.requestPath, exchange.headers, exchange.body⟩

/-- `isinstance(value, int)`. -/
def isInt : JsonValue → Bool
  | .integer _ | .bool _ => true
  | _ => false

/-- The check of `success_status_codes`, whose default stands for what is false. -/
def successCodesCheck : JsonValue → Except Answer Unit
  | .array items =>
    refuseIf (!items.all isInt) (executionFailed "success_status_codes is invalid")
  | value => refuseIf value.truthy (executionFailed "success_status_codes is invalid")

/-- `execute_http_authentication`, up to its request. -/
def prepareAuthentication (request : Request) : Except Answer ClientRequest :=
  match request.networkEnvelope.bind (parseEnvelope L) with
  | none => .error (executionFailed "network_envelope is required")
  | some envelope =>
    match textArgument request.arguments "authorized_origin",
      textArgument request.arguments "path", textArgument request.arguments "username",
      textArgument request.arguments "username_field",
      textArgument request.arguments "password_secret_name",
      textArgument request.arguments "session_cookie_name",
      textArgument request.arguments "session_context_id" with
    | some origin, some path, some username, some usernameField, some secretName, some _,
      some _ => do
      refuseIf (path.any Http.isBreak || path.startsWith "//".toList ||
        path.hasInfix "://".toList) (blocked "path is invalid")
      let origin := origin.strip.rstrip '/'
      rejectOrigin L origin
      match request.resolvedSecretValues.bind fun values =>
        (values.find? fun value => value.1 = secretName).map (·.2) with
      | none | some [] => .error (blocked "password secret is unavailable")
      | some password => do
        successCodesCheck (request.arguments.get "success_status_codes".toList)
        match envelopeAllows L envelope (origin ++ path) with
        | some reason => .error (executionFailed
            ("request is outside authorized network envelope: " ++
              RawExchange.refusalText reason))
        | none => return {
            method := "POST".toList
            url := origin ++ path
            headers := [("Content-Type".toList, "application/x-www-form-urlencoded".toList),
              ("Accept".toList, "application/json".toList), ("Connection".toList, "close".toList)]
            body := some (PercentEncoding.utf8 (HttpTransaction.urlencode
              (HttpTransaction.setHeader [(usernameField, username)]
                ("password".toList, password)))) }
    | _, _, _, _, _, _, _ => .error (executionFailed "login arguments are incomplete")

/-! ## Raw writes -/

/-- The arguments as the raw exchange takes them. -/
def rawArguments (arguments : Dict) (key : Text) : Option RawExchange.Argument :=
  match arguments.get key with
  | .null => none
  | .text s => some (.text s)
  | .integer n => some (.integer n)
  | .bool b => some (.integer (if b then 1 else 0))
  | value => some (.other value.truthy)

def rawAnswer : RawExchange.Refusal → Answer
  | .answered .executionFailed error => executionFailed error
  | .answered .blocked error => blocked error
  | .raised exception => executionFailed exception

/-- The requests of some writes: each of them is one, and so is whatever else
HTTP/1.1 reads as one. -/
def requestsOf (writes : List Http.Octets) : Nat :=
  max writes.length (Http.leadingRequests writes.flatten.length writes.flatten).length

/-- `execute_http_raw_exchange`. -/
def rawExchange (world : World) (request : Request) : Nat × Answer :=
  match RawExchange.execute L ⟨some (rawArguments request.arguments), request.networkEnvelope⟩ with
  | .error refusal => (0, rawAnswer refusal)
  | .ok exchange =>
    (requestsOf (exchange.writes.take world.writes),
      match world.network 0 with
      | .redirect => ⟨.reauthorizationRequired, none⟩
      | .answered _ => ⟨.succeeded, none⟩
      | .failed _ true => ⟨.timedOut, some "timeout"⟩
      | .failed _ false => executionFailed "OSError")

/-! ## Pages -/

/-- What an action of a page has asked for so far. -/
structure Routed where
  attempted : Nat
  fetched : Nat
  exhausted : Bool
  deriving DecidableEq, Repr

/-- `MAX_ATTEMPTED_REQUESTS`. -/
def maxAttemptedRequests : Nat := 16

/-- `_handle_route`, up to its response. -/
def handleRoute (envelope : BrowserNetworkEnvelope) (limit : Nat) (routed : Routed) (url : Text) :
    Routed :=
  if limit ≤ routed.attempted then { routed with exhausted := true }
  else if (envelopeAllows L envelope url).isSome then
    { routed with attempted := routed.attempted + 1 }
  else { routed with attempted := routed.attempted + 1, fetched := routed.fetched + 1 }

/-- `execute_browser_page`. -/
def browserPage (world : World) (request : Request) : Nat × Answer :=
  match request.networkEnvelope.bind (parseEnvelope L) with
  | none => (0, executionFailed "network_envelope is required")
  | some envelope =>
    match request.maxAttemptedRequests with
    | none => (0, executionFailed "max_attempted_requests is required")
    | some allowed =>
      if allowed < 1 then (0, executionFailed "max_attempted_requests is required")
      else
        let routed := world.page.foldl
          (handleRoute L envelope (min allowed.toNat maxAttemptedRequests)) ⟨0, 0, false⟩
        (routed.fetched, if routed.exhausted then
            ⟨.budgetExhausted, some "attempted network requests would exceed max"⟩
          else world.pageAnswer)

end Executors

/-! ## The packaged capabilities -/

/-- `IMPLEMENTATION_EXECUTORS`. -/
inductive Implementation where
  | browserPage
  | diagnosticEcho
  | httpAuthentication
  | httpAuthorizationDifferential
  | httpRawExchange
  | httpStateTransition
  | httpTransaction
  deriving DecidableEq, Repr

/-- The capability that the implementation is of. -/
def Implementation.capabilityId : Implementation → Text
  | .browserPage => "browser.page".toList
  | .diagnosticEcho => "diagnostic.echo".toList
  | .httpAuthentication => "http.authentication".toList
  | .httpAuthorizationDifferential => "http.authorization.differential".toList
  | .httpRawExchange => "http.raw_exchange".toList
  | .httpStateTransition => "http.state_transition".toList
  | .httpTransaction => "http.transaction".toList

/-- The packaged capabilities; the implementation of each has its name, and all
of them are the Worker's. -/
def packagedCapabilities : List (Text × Implementation) :=
  [Implementation.browserPage, .diagnosticEcho, .httpAuthentication,
    .httpAuthorizationDifferential, .httpRawExchange, .httpStateTransition,
    .httpTransaction].map fun implementation => (implementation.capabilityId, implementation)

/-- The version of all of them. -/
def packagedVersion : Text := ['1']

/-- A text of a length, and one of a few. -/
def someText (maxLength : Nat) : PropertySchema := .text 1 (some maxLength) none

def oneOf (values : List Text) : PropertySchema := .text 0 none (some values)

/-- The properties of the actions of a page that all of them have. -/
def pageProperties (maxTimeoutMs : Int) : List (Text × PropertySchema) :=
  [("authorized_origin".toList, someText 256), ("path".toList, someText 256),
    ("session_context_reference".toList, someText 128), ("identity_id".toList, someText 128),
    ("browser_context_reference".toList, someText 128),
    ("timeout_ms".toList, .integer 1 maxTimeoutMs)]

def pageRequired : List Text := ["authorized_origin".toList, "path".toList]

/-- The framing profiles, under their names. -/
def framingProfileNames : List Text := RawExchange.framingProfiles.map fun entry => entry.1.toList

/-- The argument schemas of the actions of a capability. -/
def Implementation.actions : Implementation → List (Text × ArgumentSchema)
  | .browserPage =>
    [("observe".toList, {
        required := pageRequired
        properties := pageProperties 8000 ++ [("page_reference".toList, someText 128)] }),
      ("navigate".toList, { required := pageRequired, properties := pageProperties 5000 }),
      ("interact".toList, {
        required := pageRequired ++ ["browser_context_reference".toList,
          "page_reference".toList, "element_reference".toList, "snapshot_fingerprint".toList,
          "kind".toList]
        properties := pageProperties 8000 ++ [("page_reference".toList, someText 128),
          ("element_reference".toList, someText 128),
          ("snapshot_fingerprint".toList, someText 128),
          ("kind".toList,
            oneOf ["click".toList, "fill".toList, "select".toList, "submit".toList]),
          ("value".toList, .text 0 (some 256) none)] })]
  | .diagnosticEcho =>
    [("echo".toList, {
      required := ["message".toList]
      properties := [("message".toList, .text 0 none none)] })]
  | .httpAuthentication =>
    [("login".toList, {
      required := ["authorized_origin".toList, "path".toList, "username".toList,
        "username_field".toList, "password_secret_name".toList, "session_cookie_name".toList,
        "session_context_id".toList]
      properties := [("authorized_origin".toList, someText 256), ("path".toList, someText 256),
        ("username".toList, someText 128), ("username_field".toList, someText 64),
        ("password_secret_name".toList, someText 128),
        ("session_cookie_name".toList, someText 64),
        ("session_context_id".toList, someText 128), ("identity_id".toList, someText 128),
        ("success_status_codes".toList, .integers 1 4 100 599),
        ("timeout_ms".toList, .integer 1 2000),
        ("max_response_bytes".toList, .integer 1 4096)] })]
  | .httpAuthorizationDifferential =>
    [("probe".toList, {
      required := ["authorized_origin".toList, "actor".toList, "own_object".toList,
        "cross_object".toList, "mode".toList]
      properties := [("authorized_origin".toList, .text 1 none none),
        ("actor".toList, .text 1 none none), ("own_object".toList, .text 1 none none),
        ("cross_object".toList, .text 1 none none),
        ("mode".toList, oneOf differentialModes)] })]
  | .httpRawExchange =>
    [("probe".toList, {
      required := ["authorized_origin".toList, "path".toList, "framing_profile".toList,
        "control".toList, "lane".toList]
      properties := [("authorized_origin".toList, someText 256), ("path".toList, someText 256),
        ("framing_profile".toList, oneOf framingProfileNames),
        ("control".toList, someText 64),
        ("lane".toList, oneOf ["http_request_smuggling_desync".toList,
          "http_cache_poisoning_deception".toList]),
        ("max_response_bytes".toList, .integer 1 1048576),
        ("timeout_ms".toList, .integer 1 10000)] })]
  | .httpStateTransition =>
    [("probe".toList, {
      required := ["authorized_origin".toList, "actor".toList, "resource_id".toList,
        "transition".toList, "area".toList]
      properties := [("authorized_origin".toList, .text 1 none none),
        ("actor".toList, .text 1 none none), ("resource_id".toList, .text 1 none none),
        ("transition".toList, oneOf allowedTransitions),
        ("area".toList, oneOf allowedAreas)] })]
  | .httpTransaction =>
    [("read".toList, HttpTransaction.readAction.argumentSchema),
      ("mutate".toList, HttpTransaction.mutateAction.argumentSchema)]

/-- `type(value) is int`. -/
def isInteger : JsonValue → Bool
  | .integer _ => true
  | _ => false

/-- `_validate_value`, which knows the types, the choices and the least lengths
of a schema, and no other bounds. -/
def accepts : PropertySchema → JsonValue → Bool
  | .text minLength _ enum, .text s => enum.all (·.contains s) && minLength ≤ s.length
  | .texts .., .object _ => true
  | .integer .., .integer _ => true
  | .integers .., .array items => items.all isInteger
  | _, _ => false

/-- `validate_arguments`. -/
def validateArguments (schema : ArgumentSchema) (arguments : Dict) : Bool :=
  schema.required.all (fun name => (arguments.lookup name).isSome) &&
    arguments.all fun entry =>
      (KeyedList.get Prod.fst schema.properties entry.1).any (accepts ·.2 entry.2)

/-- The checks of `execute` before the executor; the fingerprints are those of
the packaged documents. -/
def dispatch (fingerprints : Implementation → Text) (request : Request) :
    Except Answer Implementation :=
  match KeyedList.get Prod.fst packagedCapabilities request.workerCapability with
  | none => .error (executionFailed "UNKNOWN_CAPABILITY")
  | some (_, implementation) =>
    match KeyedList.get Prod.fst implementation.actions request.action with
    | none => .error (executionFailed "UNKNOWN_ACTION")
    | some (_, schema) => do
      refuseIf (request.capabilityVersion ≠ packagedVersion)
        (executionFailed "UNSUPPORTED_CAPABILITY_VERSION")
      refuseIf (request.capabilityDefinitionFingerprint ≠ fingerprints implementation)
        (executionFailed "DEFINITION_FINGERPRINT_MISMATCH")
      refuseIf (!validateArguments schema request.arguments)
        (executionFailed "SCHEMA_MISMATCH")
      return implementation

/-- `_execute_echo`. -/
def echo (request : Request) : Answer :=
  match request.arguments.lookup "message".toList with
  | none | some (.text _) => ⟨.succeeded, none⟩
  | some _ => executionFailed "diagnostic.echo message must be a string"

/-- `execute`: how many HTTP requests the Worker sends, and its answer. -/
def execute (L : UrlCodecs) (isAlnum : Char → Bool) (upper : Text → Text)
    (fingerprints : Implementation → Text) (world : World) (request : Request) : Nat × Answer :=
  match dispatch fingerprints request with
  | .error answer => (0, answer)
  | .ok .browserPage => browserPage L world request
  | .ok .diagnosticEcho => (0, echo request)
  | .ok .httpAuthentication => sendOne world (prepareAuthentication L request)
  | .ok .httpAuthorizationDifferential => runProbe L world (prepareAuthorization L request)
  | .ok .httpRawExchange => rawExchange L world request
  | .ok .httpStateTransition => runProbe L world (prepareTransition L request)
  | .ok .httpTransaction => sendOne world (prepareTransaction L isAlnum upper request)

/-! ## How many requests an executor sends -/

section Counts

variable {L : UrlCodecs} {world : World} {envelope : BrowserNetworkEnvelope} {origin : Text}

theorem le_send (world : World) (sent : Nat) (request : ClientRequest) :
    sent ≤ (send world sent request).1 ∧ (send world sent request).1 ≤ sent + 1 := by
  unfold send
  split
  · exact ⟨Nat.le_refl _, Nat.le_succ _⟩
  split
  · exact ⟨Nat.le_succ _, Nat.le_refl _⟩
  · exact ⟨Nat.le_succ _, Nat.le_refl _⟩
  · exact ⟨Nat.le_succ _, Nat.le_refl _⟩
  · dsimp only
    split <;> omega

theorem sendOne_le (world : World) (prepared : Except Answer ClientRequest) :
    (sendOne world prepared).1 ≤ 1 := by
  cases prepared with
  | error answer => exact Nat.zero_le _
  | ok request => exact (le_send world 0 request).2

/-- Requests are only added to those that have gone out. -/
theorem le_probe (planned : List ClientRequest) (sent : Nat) :
    sent ≤ (probe L world envelope origin sent planned).1 := by
  induction planned generalizing sent with
  | nil => exact Nat.le_refl _
  | cons request rest ih =>
    unfold probe
    split
    · exact Nat.le_refl _
    have hsend := (le_send world sent request).1
    split
    next sent' answer heq =>
      rw [heq] at hsend
      exact hsend
    next sent' heq =>
      rw [heq] at hsend
      exact Nat.le_trans hsend (ih sent')

/-- A planned request goes out, if the executor comes to it. -/
structure Sendable (L : UrlCodecs) (lets : ClientRequest → Bool)
    (envelope : BrowserNetworkEnvelope) (origin : Text) (request : ClientRequest) : Prop where
  goesOn : stopped L envelope origin request = none
  lets : lets request = true

/-- A request that cannot go out ends the executor. -/
theorem probe_of_not_sendable {request : ClientRequest}
    (h : ¬ Sendable L world.lets envelope origin request) (rest : List ClientRequest) (sent : Nat) :
    (probe L world envelope origin sent (request :: rest)).1 = sent := by
  unfold probe
  split
  · rfl
  next hgoesOn =>
    have hlets : world.lets request = false := by
      rw [← Bool.not_eq_true]
      exact fun hlets => h ⟨hgoesOn, hlets⟩
    simp [send, hlets]

/-- **A probe without a second request** sends at most one. -/
theorem probe_le_one {planned : List ClientRequest}
    (h : ∀ first second rest, planned = first :: second :: rest →
      Sendable L world.lets envelope origin first →
        ¬ Sendable L world.lets envelope origin second) :
    (probe L world envelope origin 0 planned).1 ≤ 1 := by
  match planned with
  | [] => exact Nat.zero_le _
  | first :: rest =>
    by_cases hfirst : Sendable L world.lets envelope origin first
    · have hsend := (le_send world 0 first).2
      unfold probe
      rw [hfirst.goesOn]
      dsimp only
      split
      next sent answer heq =>
        rw [heq] at hsend
        exact hsend
      next sent heq =>
        rw [heq] at hsend
        cases rest with
        | nil => exact hsend
        | cons second rest =>
          rw [probe_of_not_sendable (h first second rest rfl hfirst)]
          exact hsend
    · rw [probe_of_not_sendable hfirst]
      exact Nat.zero_le _

/-- **A probe with a second request** sends it, if the first is answered. -/
theorem two_le_probe {first second : ClientRequest}
    (hfirst : Sendable L world.lets envelope origin first)
    (hsecond : Sendable L world.lets envelope origin second)
    (hnetwork : ∀ n, world.network n = .answered true) (rest : List ClientRequest) :
    2 ≤ (probe L world envelope origin 0 (first :: second :: rest)).1 := by
  have hone : send world 0 first = (1, none) := by simp [send, hfirst.lets, hnetwork]
  have htwo : send world 1 second = (2, none) := by simp [send, hsecond.lets, hnetwork]
  unfold probe
  rw [hfirst.goesOn, hone]
  dsimp only
  unfold probe
  rw [hsecond.goesOn, htwo]
  exact le_probe rest 2

/-- **One request of a page**: it is counted before it is fetched. -/
theorem handleRoute_le {limit : Nat} {routed : Routed} (url : Text)
    (h : routed.fetched ≤ routed.attempted ∧ routed.attempted ≤ limit) :
    (handleRoute L envelope limit routed url).fetched ≤
        (handleRoute L envelope limit routed url).attempted ∧
      (handleRoute L envelope limit routed url).attempted ≤ limit := by
  unfold handleRoute
  split
  · exact h
  split <;> dsimp only <;> omega

/-- **The requests of a page** stay within the limit. -/
theorem foldl_handleRoute_le {limit : Nat} {routed : Routed} (urls : List Text)
    (h : routed.fetched ≤ routed.attempted ∧ routed.attempted ≤ limit) :
    (urls.foldl (handleRoute L envelope limit) routed).fetched ≤ limit := by
  induction urls generalizing routed with
  | nil => exact Nat.le_trans h.1 h.2
  | cons url urls ih => exact ih (handleRoute_le url h)

theorem browserPage_le {request : Request} {allowed : Int}
    (h : request.maxAttemptedRequests = some allowed) :
    (browserPage L world request).1 ≤ allowed.toNat := by
  unfold browserPage
  rw [h]
  split
  · exact Nat.zero_le _
  dsimp only
  split
  · exact Nat.zero_le _
  · exact Nat.le_trans
      (foldl_handleRoute_le world.page ⟨Nat.le_refl 0, Nat.zero_le _⟩) (Nat.min_le_left _ _)

end Counts

end Zest.WorkerExecutors
