import Zest.OperatorCommands
import Zest.SupervisedRuns

/-! # The thread of a supervisor

Pausing and cancelling a run ask the supervisor of it to stop; that is a flag, which
the thread looks at between two ticks.  A tick takes as long as it takes, and only
when it is over the thread leaves its loop, releases the lease and ends.  Until then
the runtime takes the run to be supervised.

There is one runtime and one run here.  The operator's calls come one after the
other; each is a sequence of transactions, and the thread may do anything it does
between two of them.
-/
namespace Zest.Supervision

open TransitionSystem RuntimeRecovery

inductive ThreadPhase where
  /-- About to look at the stop flag. -/
  | looping
  | ticking
  /-- In a tick, handling an exception. -/
  | faulted
  /-- Out of the loop, the lease not yet released. -/
  | leaving
  | released
  | ended
  deriving DecidableEq, Repr

/-- `LocalRunSupervisor`, and what its thread has read and saved in its tick. -/
structure Supervisor where
  stopping : Bool
  leaseLost : Bool
  phase : ThreadPhase
  lease : LeaseIdentity
  seen : List ResearchOrchestrationRecord

/-- `is_running`. -/
def Supervisor.isRunning (v : Supervisor) : Bool :=
  v.phase ≠ .ended

/-- The commands that an operator has for a run. -/
inductive Command where
  | pause
  | resume
  | cancel
  deriving DecidableEq, Repr

def Command.operator : Command → OperatorCommand
  | pause => .pause
  | resume => .resume
  | cancel => .cancel

/-- How far the operator's call has come. -/
inductive CallPhase where
  | idle
  | saving (command : Command) (record : ResearchOrchestrationRecord)
  /-- The registry is to stop the supervisor. -/
  | stopping
  /-- The resumption has found or made the run `READY`, and a supervisor is to be
  attached.  `since` is true as long as the run has not left `READY` and `RUNNING`
  since. -/
  | attaching (since : Bool)

structure System where
  run : RunSnapshot
  /-- What the registry has for the run. -/
  supervisor : Option Supervisor
  call : CallPhase
  /-- A resumption has returned `READY`, and the run has not left `READY` and `RUNNING`
  since. -/
  owed : Bool

/-- The run is `READY` or `RUNNING`. -/
def goingOn (run : RunSnapshot) : Bool :=
  run.orchestration.any fun row => row.state = .ready || row.state = .running

/-- What is kept since a moment ends when the run leaves `READY` and `RUNNING`. -/
def System.settle (s : System) : System :=
  { s with
    call := match s.call with
      | .attaching since => .attaching (since && goingOn s.run)
      | call => call
    owed := s.owed && goingOn s.run }

def System.setRow (s : System) (row : ResearchOrchestrationRecord) : System :=
  { s with run := { s.run with orchestration := some row } }

/-- `is_supervising`. -/
def System.isSupervising (s : System) : Bool :=
  s.supervisor.any (·.isRunning)

/-- The runtime, as far as attaching a supervisor goes by it. -/
def System.asRuntime (s : System) : Runtime where
  database _ := s.run
  live := if s.isSupervising then [0] else []
  attached := []

section Calls

variable (config : RuntimeConfig)

/-- The supervisor that `LocalRunSupervisorRegistry.start` makes. -/
def newSupervisor (run : RunSnapshot) : Supervisor where
  stopping := false
  leaseLost := false
  phase := .looping
  lease := ⟨config.owner, (run.orchestration.map (·.leaseEpoch)).getD 0⟩
  seen := []

/-- What the runtime has done with the run and its supervisor. -/
def System.adopt (s : System) (w : Runtime) : System :=
  { s with
    run := w.database 0
    supervisor :=
      if w.attached.isEmpty then s.supervisor else some (newSupervisor config (w.database 0))
    call := .idle }

/-- No other runtime holds the lease. -/
def leaseFree (run : RunSnapshot) (serverNow : Instant) : Bool :=
  run.orchestration.any fun row =>
    row.unownedOrExpired serverNow || row.ownerRuntimeInstanceId = some config.owner

/-- How a call goes on when it has read the row. -/
def afterRead (command : Command) (current : ResearchOrchestrationRecord) : CallPhase :=
  match command.operator.update current, command with
  | some record, _ => .saving command record
  | none, .resume => if current.state = .ready then .attaching true else .idle
  | none, _ => .stopping

/-- How it goes on when it has saved the row. -/
def afterSave : Command → CallPhase
  | .resume => .attaching true
  | .pause | .cancel => .stopping

/-! ## Steps -/

inductive Event where
  | begin (command : Command)
  | save (serverNow : Instant)
  | stop
  | attach (env : Surroundings) (command : StartCommand)
  | abort
  | start (env : Surroundings)
  | wake
  | renew (serverNow : Instant)
  | read
  | write (record : ResearchOrchestrationRecord) (serverNow : Instant)
  | tickEnds (record : ResearchOrchestrationRecord)
  | fault
  | faultEnds
  | die
  | work (attempts : List RecordedAttempt) (hypotheses experiments : List Id)
  | release
  | exit

/-- A transaction of the operator's call. -/
inductive CallStep (s : System) : Event → System → Prop where
  | begin {current : ResearchOrchestrationRecord} (command : Command) (hcall : s.call = .idle)
      (hrow : s.run.orchestration = some current) :
      CallStep s (.begin command) { s with call := afterRead command current }
  | save {command : Command} {record row row' : ResearchOrchestrationRecord}
      {serverNow : Instant} (hcall : s.call = .saving command record)
      (hrow : s.run.orchestration = some row)
      (hsave : Zest.save row record none false serverNow = .ok row') :
      CallStep s (.save serverNow) { s.setRow row' with call := afterSave command }
  | stop (hcall : s.call = .stopping) :
      CallStep s .stop { s with
        supervisor := s.supervisor.map fun v => { v with stopping := true }
        call := .idle }
  | attach {since : Bool} {w : Runtime} {env : Surroundings} {command : StartCommand}
      (hcall : s.call = .attaching since)
      (hattach : attachSupervisor config s.asRuntime 0 env true (some command) = .ok w) :
      CallStep s (.attach env command) { s.adopt config w with
        owed := s.owed || since && leaseFree config s.run env.serverNow }
  /-- The call raises. -/
  | abort : CallStep s .abort { s with call := .idle }
  | start {env : Surroundings} (hcall : s.call = .idle) (hmeanwhile : env.meanwhile = .nothing) :
      CallStep s (.start env) (s.adopt config (startRun config s.asRuntime 0 env).2)

/-- What the thread does, from a row and a supervisor to a row and a supervisor. -/
inductive ThreadStep (row : ResearchOrchestrationRecord) (v : Supervisor) :
    Event → ResearchOrchestrationRecord → Supervisor → Prop where
  | leave (hphase : v.phase = .looping) (hstopping : v.stopping = true) :
      ThreadStep row v .wake row { v with phase := .leaving }
  | tick (hphase : v.phase = .looping) (hstopping : v.stopping = false) :
      ThreadStep row v .wake row { v with phase := .ticking, seen := [] }
  | renewed {row' : ResearchOrchestrationRecord} {serverNow : Instant}
      (hphase : v.phase = .ticking)
      (hrenew : renewLease row v.lease config.leaseTtl serverNow = some row') :
      ThreadStep row v (.renew serverNow) row' v
  | rejected {serverNow : Instant} (hphase : v.phase = .ticking)
      (hrenew : renewLease row v.lease config.leaseTtl serverNow = none) :
      ThreadStep row v (.renew serverNow) row
        { v with leaseLost := true, stopping := true, phase := .looping }
  | read (hphase : v.phase = .ticking ∨ v.phase = .faulted) :
      ThreadStep row v .read row { v with seen := row :: v.seen }
  /-- A save of a record that was made from one it has seen. -/
  | write {snapshot record row' : ResearchOrchestrationRecord} {serverNow : Instant}
      (hphase : v.phase = .ticking ∨ v.phase = .faulted) (hseen : snapshot ∈ v.seen)
      (hlease : SameLease record snapshot)
      (hsave : Zest.save row record (some v.lease) false serverNow = .ok row') :
      ThreadStep row v (.write record serverNow) row' { v with seen := row' :: v.seen }
  /-- `LeaseFencingError`. -/
  | fenced {snapshot record : ResearchOrchestrationRecord} {serverNow : Instant}
      (hphase : v.phase = .ticking) (hseen : snapshot ∈ v.seen)
      (hlease : SameLease record snapshot)
      (hsave : Zest.save row record (some v.lease) false serverNow = .error .fenced) :
      ThreadStep row v (.write record serverNow) row
        { v with leaseLost := true, stopping := true, phase := .looping }
  /-- The result is of a record that the tick has seen last. -/
  | tickEnds {record : ResearchOrchestrationRecord} (hphase : v.phase = .ticking)
      (hseen : record ∈ v.seen) :
      ThreadStep row v (.tickEnds record) row
        { v with stopping := v.stopping || record.state.terminal, phase := .looping }
  | fault (hphase : v.phase = .ticking) :
      ThreadStep row v .fault row { v with phase := .faulted }
  | faultEnds (hphase : v.phase = .faulted) :
      ThreadStep row v .faultEnds row { v with stopping := true, phase := .looping }
  /-- An exception that nobody handles. -/
  | die (hphase : v.isRunning = true) : ThreadStep row v .die row { v with phase := .ended }
  | released {row' : ResearchOrchestrationRecord} (hphase : v.phase = .leaving)
      (hrelease : releaseLease row v.lease = some row') :
      ThreadStep row v .release row' { v with phase := .released }
  /-- The release fails, or finds the lease gone. -/
  | unreleased (hphase : v.phase = .leaving) :
      ThreadStep row v .release row { v with phase := .released }
  | exit (hphase : v.phase = .released) : ThreadStep row v .exit row { v with phase := .ended }

/-- A step of the call or of the thread. -/
inductive Step (s : System) : Event → System → Prop where
  | call {e : Event} {t : System} (h : CallStep config s e t) : Step s e t.settle
  | thread {e : Event} {row row' : ResearchOrchestrationRecord} {v v' : Supervisor}
      (hrow : s.run.orchestration = some row) (hsupervisor : s.supervisor = some v)
      (h : ThreadStep config row v e row' v') :
      Step s e (System.settle { s.setRow row' with supervisor := some v' })
  /-- What else the tick writes of the run. -/
  | work {v : Supervisor} (attempts : List RecordedAttempt) (hypotheses experiments : List Id)
      (hsupervisor : s.supervisor = some v) (hphase : v.phase = .ticking) :
      Step s (.work attempts hypotheses experiments) (System.settle { s with run := { s.run with
        attempts := attempts, hypotheses := hypotheses, experiments := experiments } })

/-- A runtime that has just been started. -/
structure System.Initial (s : System) : Prop where
  supervisor : s.supervisor = none
  call : s.call = .idle
  owed : s.owed = false

end Calls

end Zest.Supervision
