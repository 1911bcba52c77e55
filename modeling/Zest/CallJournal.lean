import Zest.JsonValue
import Zest.TransitionSystem
import Zest.UnitOfWork

/-! # The journal of the calls of a benchmark

A benchmark asks a provider once for each slot of its plan, and a slot is a
scenario, a run and a role.  It may be stopped at any point and be resumed by
another process, so each call is written down twice: as an intent before the
provider is asked, and as what has come of it afterwards.  A process may have a
budget of new calls, and pauses before the first one that goes beyond it.

A process is a program whose steps are its looks at the directory, its writes,
which are atomic, and the question to the provider.  What the provider answers
and which writes fail is in `Environment`, with the digest.
-/
namespace Zest.Benchmark

open UnitOfWork TransitionSystem

/-! ## Requests and slots -/

/-- `ModelCallRequest`. -/
structure ModelCallRequest where
  role : Text
  correlationId : Text
  contextFingerprint : Text
  instructions : Text
  payload : Dict
  modelIdHint : Option Text
  timeoutMs : Option Int

structure Slot where
  planFingerprint : Text
  scenarioIdentity : Text
  runIndex : Int
  role : Text
  deriving DecidableEq

/-- `slot`, as the dictionary that it is. -/
def Slot.toMapping (slot : Slot) : Dict :=
  [("plan_fingerprint".toList, .text slot.planFingerprint),
    ("scenario_identity".toList, .text slot.scenarioIdentity),
    ("run_index".toList, .integer slot.runIndex), ("role".toList, .text slot.role)]

/-- A text that may be `None`. -/
def optionalText : Option Text → JsonValue
  | none => .null
  | some s => .text s

/-- `request_fingerprint`, before the digest. -/
def ModelCallRequest.material (request : ModelCallRequest) : JsonValue :=
  .object [("role".toList, .text request.role),
    ("correlation_id".toList, .text request.correlationId),
    ("context_fingerprint".toList, .text request.contextFingerprint),
    ("instructions".toList, .text request.instructions),
    ("payload".toList, .object request.payload),
    ("model_id_hint".toList, optionalText request.modelIdHint),
    ("timeout_ms".toList, match request.timeoutMs with
      | none => .null
      | some ms => .integer ms)]

/-! ## Errors -/

/-- The errors of a `ModelPort`; the last two stand for all that the journal does
not list. -/
inductive ModelPortError where
  | structuredOutputTransport
  | contentPolicyBlocked
  | providerAuth
  | providerRateLimit
  | providerTimeout
  | runtimeProcess
  | runtimeUnavailable
  | providerRuntime
  | runtimeCancelled
  | modelPort
  deriving DecidableEq, Repr

/-- `_allowlisted_error_code`. -/
def allowlistedErrorCode : ModelPortError → Option String
  | .structuredOutputTransport => some "STRUCTURED_OUTPUT_FAILURE"
  | .contentPolicyBlocked => some "CONTENT_POLICY_BLOCKED"
  | .providerAuth => some "PROVIDER_AUTH"
  | .providerRateLimit => some "PROVIDER_RATE_LIMIT"
  | .providerTimeout => some "PROVIDER_TIMEOUT"
  | .runtimeProcess => some "RUNTIME_PROCESS_ERROR"
  | .runtimeUnavailable => some "RUNTIME_UNAVAILABLE"
  | .providerRuntime => some "PROVIDER_RUNTIME"
  | .runtimeCancelled | .modelPort => none

/-- `ModelCallBoundaryBudget`. -/
structure ModelCallBoundaryBudget where
  maxNewModelCalls : Nat
  newModelCalls : Nat
  replayedCompletedCalls : Nat
  positive : 0 < maxNewModelCalls

/-- The payload of a pause, less its constants and its time. -/
structure PausePayload where
  maxNewModelCalls : Nat
  newModelCalls : Nat
  replayedCompletedCalls : Nat
  slot : Slot
  slotId : Text
  callIdentity : Text
  requestFingerprint : Text

/-- What `complete_or_call` may raise. -/
inductive Failure where
  | benchmarkError (message : String)
  | operationalPause (payload : PausePayload)
  | modelPortError (error : ModelPortError)
  /-- Any other exception, of the provider or of a write. -/
  | other

/-! ## Records -/

inductive CallStatus where
  | intent
  | completed
  | completedSuccess
  | completedError
  | other
  deriving DecidableEq, Repr

/-- A record of a call, less its times and its constants.  A field is `none` where
it is missing, or not what it should be; and of the outcome the record has what
the readers of completed records make of it. -/
structure CallRecord (ρ : Type) where
  kind : Option Text
  checkpointVersion : Option Text
  status : CallStatus
  slot : Option Slot
  slotId : Option Text
  callIdentity : Option Text
  requestFingerprint : Option Text
  result : Except String ρ
  error : Except String ModelPortError

/-- A file under `calls`. -/
inductive CallFile (ρ : Type) where
  | corrupt
  | record (record : CallRecord ρ)

/-- The record says what has come of its call. -/
def CallRecord.Completed {ρ : Type} (record : CallRecord ρ) : Prop :=
  record.status = .completed ∨ record.status = .completedSuccess ∨
    record.status = .completedError

/-- `CHECKPOINT_VERSION`. -/
def checkpointVersion : Text := "gate04b.model-call-journal.v1".toList

def recordKind : Text := "BenchmarkModelCallCheckpoint".toList

/-- What identifies a call. -/
structure CallKey where
  slot : Slot
  slotId : Text
  requestFingerprint : Text
  callIdentity : Text

/-- A record that is written for a call. -/
def CallKey.record {ρ : Type} (key : CallKey) (status : CallStatus) (result : Except String ρ)
    (error : Except String ModelPortError) : CallRecord ρ where
  kind := some recordKind
  checkpointVersion := some checkpointVersion
  status := status
  slot := some key.slot
  slotId := some key.slotId
  callIdentity := some key.callIdentity
  requestFingerprint := some key.requestFingerprint
  result := result
  error := error

/-- `_validate_record`. -/
def validateRecord {ρ : Type} (record : CallRecord ρ) (key : CallKey) : Except Failure Unit :=
  if record.kind ≠ some recordKind then
    .error (.benchmarkError "checkpoint call record has invalid kind")
  else if record.checkpointVersion ≠ some checkpointVersion then
    .error (.benchmarkError "checkpoint call record version mismatch")
  else if record.slot ≠ some key.slot then
    .error (.benchmarkError "checkpoint call slot mismatch")
  else if record.requestFingerprint ≠ some key.requestFingerprint then
    .error (.benchmarkError "checkpoint request fingerprint mismatch")
  else if record.callIdentity ≠ some key.callIdentity then
    .error (.benchmarkError "checkpoint call identity mismatch")
  else .ok ()

/-! ## The world of a process -/

/-- The directory of a plan, and the name of a file under its `calls`. -/
abbrev Path := Text × Text

/-- What has happened, as far as the journal is about it. -/
inductive Entry where
  | invoked (process : Nat) (path : Path)
  | replayed (process : Nat) (path : Path) (requested : Text) (recorded : Option Text)
  | paused (process : Nat) (path : Path)
  deriving DecidableEq

/-- The checkpoint directory, the budget of the process that works on it, and what
has happened so far. -/
structure World (ρ : Type) where
  calls : Path → Option (CallFile ρ)
  /-- `pause.json`. -/
  pauseFile : Option PausePayload
  process : Nat
  budget : Option ModelCallBoundaryBudget
  /-- How many writes have been tried. -/
  writes : Nat
  history : List Entry

/-- What comes of a question to the provider. -/
inductive Answer (ρ : Type) where
  | returned (result : ρ)
  | modelPortError (error : ModelPortError)
  | raised

/-- What is not the journal's. -/
structure Environment (ρ : Type) where
  /-- `_sha256`. -/
  sha256 : JsonValue → Text
  provider : List Entry → ModelCallRequest → Answer ρ
  /-- Which writes go through. -/
  disk : Nat → Bool
  /-- What is read back of a result that has been written. -/
  stored : ρ → Except String ρ

/-- `BenchmarkPlanCheckpoint`. -/
structure PlanCheckpoint where
  planDir : Text
  fingerprint : Text
  hasPausePath : Bool

section Journal

variable {ρ : Type} (env : Environment ρ)

/-- `_read_json`. -/
def readJson (path : Path) : Prog (World ρ) (Option (CallRecord ρ)) :=
  Prog.read fun w => match w.calls path with
    | some (.record record) => some record
    | some .corrupt | none => none

def corruptState : Failure := .benchmarkError "checkpoint state is corrupt or truncated"

/-- The world with a file under `calls`. -/
def World.put (w : World ρ) (path : Path) (file : CallFile ρ) : World ρ :=
  { w with calls := fun other => if other = path then some file else w.calls other }

/-- One write: what it says is there, or it raises. -/
def World.tryWrite (w : World ρ) (written : World ρ) (answer : Except Failure Unit) :
    World ρ × Except Failure Unit :=
  if env.disk w.writes then ({ written with writes := w.writes + 1 }, answer)
  else ({ w with writes := w.writes + 1 }, .error .other)

/-- `_atomic_write_json` of a record. -/
def atomicWrite (path : Path) (record : CallRecord ρ) : Prog (World ρ) (Except Failure Unit) :=
  Prog.tx (fun w => w.tryWrite env (w.put path (.record record)) (.ok ())) .done

/-- The same of the pause, which is raised then. -/
def writePause (path : Path) (payload : PausePayload) : Prog (World ρ) (Except Failure Unit) :=
  Prog.tx (fun w => w.tryWrite env
    { w with pauseFile := some payload, history := w.history ++ [.paused w.process path] }
    (.error (.operationalPause payload))) .done

/-- `new_model_calls += 1`. -/
def World.countCall (w : World ρ) : World ρ :=
  { w with budget := w.budget.map fun budget =>
      { budget with newModelCalls := budget.newModelCalls + 1 } }

/-- `reserve_new_call_or_pause`, of the budget that there is. -/
def reserveOrPause (plan : PlanCheckpoint) (path : Path) (key : CallKey) :
    Prog (World ρ) (Except Failure Unit) := do
  match ← Prog.read (World.budget (ρ := ρ)) with
  | none => return .ok ()
  | some budget =>
    if !plan.hasPausePath then
      return .error (.benchmarkError "checkpoint pause path is not configured")
    else if budget.newModelCalls < budget.maxNewModelCalls then do
      Prog.write World.countCall
      return .ok ()
    else
      writePause env path ⟨budget.maxNewModelCalls, budget.newModelCalls,
        budget.replayedCompletedCalls, key.slot, key.slotId, key.callIdentity,
        key.requestFingerprint⟩

/-- `record_replay`, of the budget that there is. -/
def recordReplay (path : Path) (key : CallKey) (record : CallRecord ρ) : Prog (World ρ) Unit :=
  Prog.write fun w => { w with
    budget := w.budget.map fun budget =>
      { budget with replayedCompletedCalls := budget.replayedCompletedCalls + 1 }
    history := w.history ++
      [.replayed w.process path key.requestFingerprint record.requestFingerprint] }

/-- A record that is there: it is replayed, or the call is refused. -/
def replay (path : Path) (key : CallKey) (record : CallRecord ρ) :
    Prog (World ρ) (Except Failure ρ) :=
  match validateRecord record key with
  | .error failure => return .error failure
  | .ok () =>
    match record.status with
    | .completed | .completedSuccess => do
      recordReplay path key record
      return record.result.mapError .benchmarkError
    | .completedError => do
      recordReplay path key record
      match record.error with
      | .ok error => return .error (.modelPortError error)
      | .error message => return .error (.benchmarkError message)
    | .intent => return .error (.benchmarkError
        "checkpoint call is UNKNOWN_OUTCOME; automatic retry is refused")
    | .other => return .error (.benchmarkError "checkpoint call has invalid status")

/-- `invoke(request)`. -/
def invoke (path : Path) (request : ModelCallRequest) : Prog (World ρ) (Answer ρ) :=
  Prog.tx (fun w => ({ w with history := w.history ++ [.invoked w.process path] },
    env.provider w.history request)) .done

/-- The record of what has come of a call, over its intent. -/
def replaceIntent (path : Path) (key : CallKey) (record : CallRecord ρ) (overwrites : String)
    (answer : Except Failure ρ) : Prog (World ρ) (Except Failure ρ) := do
  match ← readJson path with
  | none => return .error corruptState
  | some existing =>
    if existing.status ≠ .intent then return .error (.benchmarkError overwrites)
    else
      match validateRecord existing key with
      | .error failure => return .error failure
      | .ok () => do
        match ← atomicWrite env path record with
        | .error failure => return .error failure
        | .ok () => return answer

/-- What follows the answer of the provider. -/
def settle (path : Path) (key : CallKey) : Answer ρ → Prog (World ρ) (Except Failure ρ)
  | .raised => return .error .other
  | .modelPortError error =>
    match allowlistedErrorCode error with
    | none => return .error (.modelPortError error)
    | some _ =>
      replaceIntent env path key
        (key.record .completedError (.error "checkpoint completed record is missing result")
          (.ok error))
        "checkpoint error record would overwrite immutable state" (.error (.modelPortError error))
  | .returned result =>
    replaceIntent env path key
      (key.record .completedSuccess (env.stored result)
        (.error "checkpoint completed error record is missing error"))
      "checkpoint completed record would overwrite immutable state" (.ok result)

/-- The intent, the call and its outcome. -/
def callOnce (path : Path) (key : CallKey) (request : ModelCallRequest) :
    Prog (World ρ) (Except Failure ρ) := do
  match ← atomicWrite env path (key.record .intent
      (.error "checkpoint completed record is missing result")
      (.error "checkpoint completed error record is missing error")) with
  | .error failure => return .error failure
  | .ok () => do
    let answer ← invoke env path request
    settle env path key answer

/-- A new call, if the budget has one left. -/
def newCall (plan : PlanCheckpoint) (path : Path) (key : CallKey) (request : ModelCallRequest) :
    Prog (World ρ) (Except Failure ρ) := do
  match ← reserveOrPause env plan path key with
  | .error failure => return .error failure
  | .ok () => callOnce env path key request

/-- The key of a call. -/
def callKey (plan : PlanCheckpoint) (request : ModelCallRequest) (scenarioIdentity : Text)
    (runIndex : Int) : CallKey :=
  let slot : Slot := ⟨plan.fingerprint, scenarioIdentity, runIndex, request.role⟩
  let requestFingerprint := env.sha256 request.material
  { slot := slot
    slotId := env.sha256 (.object slot.toMapping)
    requestFingerprint := requestFingerprint
    callIdentity := env.sha256 (.object (slot.toMapping ++
      [("request_fingerprint".toList, .text requestFingerprint)])) }

/-- The file of a slot. -/
def slotPath (plan : PlanCheckpoint) (key : CallKey) : Path := (plan.planDir, key.slotId)

/-- `complete_or_call`. -/
def completeOrCall (plan : PlanCheckpoint) (request : ModelCallRequest) (scenarioIdentity : Text)
    (runIndex : Int) : Prog (World ρ) (Except Failure ρ) := do
  let key := callKey env plan request scenarioIdentity runIndex
  let path := slotPath plan key
  if ← Prog.read fun w => (w.calls path).isSome then
    match ← readJson path with
    | none => return .error corruptState
    | some record => replay path key record
  else newCall env plan path key request

/-! ## Processes -/

/-- The world, and what the process that works on it has still to do. -/
structure System (ρ : Type) where
  world : World ρ
  alive : Bool
  running : Option (Prog (World ρ) (Except Failure ρ))

/-- What may happen.  A process has a limit of new calls, or none. -/
inductive Label where
  | start (limit : Option {n : Nat // 0 < n})
  | call
  | advance
  | finish
  | stop

/-- A process has a new budget, with nothing spent of it. -/
def freshBudget (limit : Option {n : Nat // 0 < n}) : Option ModelCallBoundaryBudget :=
  limit.map fun n => ⟨n.val, 0, 0, n.property⟩

/-- One process works on the directory at a time.  It calls `complete_or_call` as
often as it likes, and is stopped at any point. -/
inductive Step : System ρ → Label → System ρ → Prop
  | start {w : World ρ} (limit : Option {n : Nat // 0 < n}) :
      Step ⟨w, false, none⟩ (.start limit)
        ⟨{ w with process := w.process + 1, budget := freshBudget limit }, true, none⟩
  | call {w : World ρ} (plan : PlanCheckpoint) (request : ModelCallRequest)
      (scenarioIdentity : Text) (runIndex : Int) :
      Step ⟨w, true, none⟩ .call
        ⟨w, true, some (completeOrCall env plan request scenarioIdentity runIndex)⟩
  | advance {w : World ρ} {p : Prog (World ρ) (Except Failure ρ)} :
      Step ⟨w, true, some p⟩ .advance ⟨(p.advance w).1, true, some (p.advance w).2⟩
  | finish {w : World ρ} (r : Except Failure ρ) :
      Step ⟨w, true, some (.done r)⟩ .finish ⟨w, true, none⟩
  | stop {w : World ρ} {running : Option (Prog (World ρ) (Except Failure ρ))} :
      Step ⟨w, true, running⟩ .stop ⟨w, false, none⟩

/-- A directory, before any process. -/
def initial (calls : Path → Option (CallFile ρ)) (pauseFile : Option PausePayload) : System ρ where
  world := ⟨calls, pauseFile, 0, none, 0, []⟩
  alive := false
  running := none

end Journal

end Zest.Benchmark
