import Mathlib.Data.List.Basic
import Zest.TransitionSystem

/-! # A Worker that outlives its invocations

The browser Worker is one process for many requests.  It announces itself, and
from then on each invocation writes a request to it and reads one line.  The
process may write and exit whenever it likes, also while nobody is waiting; what
it has written stays in the pipe until somebody reads it.

What the operating system does is part of the labels of the steps.
-/
namespace Zest.PersistentWorker

/-- A line as it was written, without its end. -/
abbrev Line := List UInt8

/-- `CORRELATION_KEYS`. -/
inductive CorrelationKey where
  | correlationId
  | researchRunId
  | experimentId
  | requestId
  deriving DecidableEq, Repr

/-- `CORRELATION_KEYS`, in order. -/
def correlationKeys : List CorrelationKey :=
  [.correlationId, .researchRunId, .experimentId, .requestId]

/-- What `json.loads` makes of a line. -/
inductive Parsed (Document : Type) where
  | invalid (message : String)
  | other
  | object (document : Document)

/-- The validator, the JSON reader and the checks of the announcement. -/
structure Contract (Request Document Value : Type) where
  requestError : Request → Option String
  maxRuntimeMs : Request → Option Int
  requestCorrelation : Request → Option (CorrelationKey → Value)
  parse : Line → Parsed Document
  resultError : Document → Option String
  resultCorrelation : Document → Option (CorrelationKey → Value)
  announcementError : Line → Option String

/-- What of the configuration is used. -/
structure Config where
  defaultTimeoutMs : Int
  maxStdoutBytes : Nat

/-- `InvocationStatus`. -/
inductive InvocationStatus where
  | completed
  | startFailed
  | timedOut
  | processFailed
  | protocolError
  | contractInvalid
  deriving DecidableEq, Repr

/-- `WorkerInvocationOutcome`. -/
structure WorkerInvocationOutcome (Document : Type) where
  invocationStatus : InvocationStatus
  workerResult : Option Document := none
  exitCode : Option Int := none
  reason : Option String := none

/-! ## The process and the adapter -/

/-- A line in the pipe, and how many requests had been sent before it. -/
structure Output where
  line : Line
  after : Nat
  deriving DecidableEq, Repr

/-- A Worker process.  How many lines it has written and how many requests it
was sent is its history. -/
structure Process where
  unread : List Output := []
  exitCode : Option Int := none
  written : Nat := 0
  requested : Nat := 0
  deriving DecidableEq, Repr

/-- An invocation whose request was sent: which request this is, and what was in
the pipe already. -/
structure Sent (Request : Type) where
  request : Request
  serial : Nat
  stale : List Output

/-- Where the adapter is; its lock lets one invocation in at a time. -/
inductive Phase (Request : Type) where
  | idle
  | announcing (request : Request)
  | awaiting (sent : Sent Request)

/-- An answered invocation: the line that was read, and whether the process had
exited when it was. -/
structure Record (Request Document : Type) where
  sent : Sent Request
  read : Option Output
  exitCode : Option Int
  outcome : WorkerInvocationOutcome Document

/-- The adapter, and what it has done. -/
structure Adapter (Request Document : Type) where
  process : Option Process := none
  containmentFailureReason : Option String := none
  phase : Phase Request := .idle
  sent : Nat := 0
  answered : List (Record Request Document) := []
  unanswered : List (WorkerInvocationOutcome Document) := []

/-- What the system does.  A containment that is not confirmed and one that cannot
be acknowledged are both a `confirmError`. -/
structure System where
  breach : Option String := none
  killedExitCode : Option Int := none
  cleanupFailure : Option String := none
  notReady : Option String := none
  prepareError : Option String := none
  spawnError : Option String := none
  confirmError : Option String := none
  writeFails : Bool := false
  endOfOutput : Bool := false
  timedOut : Bool := false

/-- What happens. -/
inductive Event (Request : Type) where
  | output (line : Line)
  | exit (code : Int)
  | invoke (request : Request) (timeoutMs : Option Int) (system : System)
  | announce (system : System)
  | answer (system : System)

section Adapter

variable {Request Document Value : Type} [DecidableEq Value]
  (C : Contract Request Document Value) (config : Config)

/-- `correlation_matches`. -/
def correlationMatches (request : Request) (result : Document) : Bool :=
  match C.requestCorrelation request, C.resultCorrelation result with
  | some wanted, some given => correlationKeys.all fun key => wanted key = given key
  | _, _ => false

/-- `_effective_timeout_ms`. -/
def effectiveTimeoutMs (request : Request) (timeoutMs : Option Int) : Int :=
  let effective := timeoutMs.getD config.defaultTimeoutMs
  match C.maxRuntimeMs request with
  | some runtime => min effective runtime
  | none => effective

/-- `_breach_reason`. -/
def breachReason (system : System) (base : String) : String :=
  match system.breach with
  | none => base
  | some breach => "browser resource limit breached: " ++ breach ++ "; " ++ base

/-- The status where no document came. -/
def noDocumentStatus (exitCode : Option Int) : InvocationStatus :=
  match exitCode with
  | none => .protocolError
  | some code => if code = 0 then .protocolError else .processFailed

/-- The outcome of a line, and whether the process is killed over it. -/
def classifyLine (request : Request) (line : Line) (exitCode : Option Int) :
    WorkerInvocationOutcome Document × Bool :=
  if line.take config.maxStdoutBytes = [] then
    ({ invocationStatus := noDocumentStatus exitCode, exitCode := exitCode
       reason := some "no stdout WorkerResult document" }, true)
  else if config.maxStdoutBytes < line.length then
    ({ invocationStatus := .protocolError, exitCode := exitCode
       reason := some
         "stdout exceeded max_stdout_bytes; truncated output is not a WorkerResult" }, true)
  else
    match C.parse line with
    | .invalid message =>
      ({ invocationStatus := .protocolError, exitCode := exitCode, reason := some message }, true)
    | .other =>
      ({ invocationStatus := .protocolError, exitCode := exitCode
         reason := some "stdout JSON must be an object" }, true)
    | .object document =>
      match C.resultError document with
      | some message =>
        ({ invocationStatus := .contractInvalid, exitCode := exitCode, reason := some message },
          false)
      | none =>
        if correlationMatches C request document then
          ({ invocationStatus := .completed, workerResult := some document
             exitCode := some 0 }, false)
        else
          ({ invocationStatus := .contractInvalid, exitCode := exitCode
             reason := some
               "correlation mismatch; WorkerResult not rewritten and not ingested" }, false)

namespace Adapter

variable (a : Adapter Request Document)

/-- `_kill`. -/
def kill (system : System) : Adapter Request Document :=
  match a.process with
  | none => a
  | some _ =>
    { a with
      process := none
      containmentFailureReason := a.containmentFailureReason.or system.cleanupFailure }

/-- The invocation is over before its request was sent. -/
def refuse (status : InvocationStatus) (reason : String) (exitCode : Option Int) :
    Adapter Request Document :=
  { a with
    phase := .idle
    unanswered := a.unanswered ++
      [{ invocationStatus := status, exitCode := exitCode, reason := some reason }] }

/-- `process.stdin.write(payload)`. -/
def send (request : Request) (p : Process) (system : System) : Adapter Request Document :=
  if system.writeFails then
    (a.kill system).refuse .processFailed (breachReason system "worker stdin write failed")
      (p.exitCode.or system.killedExitCode)
  else
    { a with
      process := some { p with requested := p.requested + 1 }
      sent := a.sent + 1
      phase := .awaiting ⟨request, a.sent + 1, p.unread⟩ }

/-- The spawning half of `_ensure_process`. -/
def spawn (request : Request) (system : System) : Adapter Request Document :=
  match a.containmentFailureReason with
  | some failure =>
    a.refuse .startFailed ("browser resource containment cleanup failed: " ++ failure) none
  | none =>
    match system.notReady, system.prepareError, system.spawnError with
    | some reason, _, _ =>
      a.refuse .startFailed ("browser resource containment unavailable: " ++ reason) none
    | none, some reason, _ =>
      a.refuse .startFailed ("browser resource containment unavailable: " ++ reason) none
    | none, none, some reason => a.refuse .startFailed reason none
    | none, none, none => { a with process := some {}, phase := .announcing request }

/-- `invoke`, until the request is sent or the process has to announce itself. -/
def invoke (request : Request) (timeoutMs : Option Int) (system : System) :
    Adapter Request Document :=
  match C.requestError request with
  | some message => a.refuse .contractInvalid message none
  | none =>
    if effectiveTimeoutMs C config request timeoutMs ≤ 0 then
      a.refuse .timedOut "timeout_ms/budget max_runtime_ms is 0; worker not started" none
    else
      match a.process with
      | some p =>
        if p.exitCode = none then a.send request p system
        else (a.kill system).spawn request system
      | none => a.spawn request system

/-- Why the announcement is refused, if it is. -/
def announcementRefusal (p : Process) (system : System) : Option String :=
  if system.timedOut then some "the browser Worker did not announce itself"
  else
    match p.unread with
    | [] => some "the browser Worker exited before announcing itself"
    | output :: _ =>
      if output.line.take config.maxStdoutBytes = [] ∨ config.maxStdoutBytes < output.line.length then
        some "the browser Worker exited before announcing itself"
      else (C.announcementError output.line).or system.confirmError

/-- `_complete_containment_handshake`, and what follows it. -/
def announce (request : Request) (p : Process) (system : System) : Adapter Request Document :=
  match announcementRefusal C config p system with
  | some reason =>
    (a.kill system).refuse .startFailed ("browser resource containment unavailable: " ++ reason) none
  | none => a.send request { p with unread := p.unread.tail } system

/-- An invocation gets its outcome. -/
def finish (sent : Sent Request) (read : Option Output) (exitCode : Option Int)
    (outcome : WorkerInvocationOutcome Document) : Adapter Request Document :=
  { a with phase := .idle, answered := a.answered ++ [⟨sent, read, exitCode, outcome⟩] }

/-- `_terminal_outcome`. -/
def terminalOutcome (sent : Sent Request) (read : Option Output) (exitCode : Option Int)
    (outcome : WorkerInvocationOutcome Document) (system : System) : Adapter Request Document :=
  (a.kill system).finish sent read exitCode
    { outcome with
      exitCode := exitCode.or system.killedExitCode
      reason := outcome.reason.map (breachReason system) }

/-- The rest of `invoke`, from the reading of the answer. -/
def answer (sent : Sent Request) (p : Process) (system : System) : Adapter Request Document :=
  if system.timedOut then
    a.terminalOutcome sent none p.exitCode
      { invocationStatus := .timedOut
        reason := some "worker exceeded caller/budget timeout; no WorkerResult fabricated" } system
  else
    match p.unread with
    | [] =>
      a.terminalOutcome sent none p.exitCode
        { invocationStatus := noDocumentStatus p.exitCode
          reason := some "no stdout WorkerResult document" } system
    | output :: rest =>
      let read : Adapter Request Document := { a with process := some { p with unread := rest } }
      match classifyLine C config sent.request output.line p.exitCode with
      | (outcome, true) => read.terminalOutcome sent (some output) p.exitCode outcome system
      | (outcome, false) => read.finish sent (some output) p.exitCode outcome

end Adapter

/-- The reading thread comes back: with a line, at the end of the output, or not in time. -/
def Readable (p : Process) (system : System) : Prop :=
  system.timedOut = true ∨ p.unread ≠ [] ∨ p.exitCode ≠ none ∨ system.endOfOutput = true

/-- One step. -/
inductive Step : Adapter Request Document → Event Request → Adapter Request Document → Prop
  | output {a : Adapter Request Document} {p : Process} (line : Line)
      (hprocess : a.process = some p) (hruns : p.exitCode = none) :
      Step a (.output line) { a with
        process := some { p with
          unread := p.unread ++ [⟨line, a.sent⟩]
          written := p.written + 1 } }
  | exit {a : Adapter Request Document} {p : Process} (code : Int)
      (hprocess : a.process = some p) (hruns : p.exitCode = none) :
      Step a (.exit code) { a with process := some { p with exitCode := some code } }
  | invoke {a : Adapter Request Document} (request : Request) (timeoutMs : Option Int)
      (system : System) (hidle : a.phase = .idle) :
      Step a (.invoke request timeoutMs system) (a.invoke C config request timeoutMs system)
  | announce {a : Adapter Request Document} {p : Process} {request : Request} (system : System)
      (hphase : a.phase = .announcing request) (hprocess : a.process = some p)
      (hread : Readable p system) :
      Step a (.announce system) (a.announce C config request p system)
  | answer {a : Adapter Request Document} {p : Process} {sent : Sent Request} (system : System)
      (hphase : a.phase = .awaiting sent) (hprocess : a.process = some p)
      (hread : Readable p system) :
      Step a (.answer system) (a.answer C config sent p system)

/-! ## The one-shot adapter -/

/-- `LocalProcessWorkerAdapter.invoke`, once the process has exited and its only
line has been read. -/
def oneShotStatus (request : Request) (line : Line) (exitCode : Int) : InvocationStatus :=
  match (classifyLine C config request line (some exitCode)).1.invocationStatus with
  | .completed => if exitCode ≠ 0 then .protocolError else .completed
  | status => status

end Adapter

end Zest.PersistentWorker
