import Zest.PersistentWorker

/-! # Whose line an invocation reads

An invocation takes the first line in the pipe for its answer.  It is the answer
if and only if the Worker keeps count: one line to announce itself and one for
each request.  A line too many stays in the pipe, since a refused document does
not cost the process its life, and from then on each invocation reads the line
of the one before it.
-/
namespace Zest.PersistentWorker

open TransitionSystem

section Streams

variable {Request Document Value : Type} [DecidableEq Value]
  (C : Contract Request Document Value) (config : Config)

/-- The adapter keeps the invocations apart: an answered one found the pipe empty
when its request was sent, read a line that was written after that, and is
completed only with a document of its own that the one-shot adapter would not
refuse over the exit of the process. -/
structure Sound (r : Record Request Document) : Prop where
  clean : r.sent.stale = []
  own : ∀ output, r.read = some output → r.sent.serial ≤ output.after
  completed : r.outcome.invocationStatus = .completed → ∃ output document,
    r.read = some output ∧ C.parse output.line = .object document ∧
    r.outcome.workerResult = some document ∧
    correlationMatches C r.sent.request document = true
  exited : ∀ output code, r.read = some output → r.exitCode = some code →
    oneShotStatus C config r.sent.request output.line code ≠ .completed →
    r.outcome.invocationStatus ≠ .completed

/-- No response has slipped from one request to another. -/
structure InStep (a : Adapter Request Document) : Prop where
  awaiting : ∀ sent, a.phase = .awaiting sent → sent.stale = []
  answered : ∀ r ∈ a.answered, Sound C config r

/-- A step sends a request to a process. -/
inductive SendsTo (a : Adapter Request Document) : Event Request → Process → Prop
  | running {p : Process} {request : Request} {timeoutMs : Option Int} {system : System}
      (hvalid : C.requestError request = none)
      (htime : 0 < effectiveTimeoutMs C config request timeoutMs)
      (hprocess : a.process = some p) (hruns : p.exitCode = none)
      (hwrite : system.writeFails = false) :
      SendsTo a (.invoke request timeoutMs system) p
  | announced {p : Process} {request : Request} {system : System}
      (hphase : a.phase = .announcing request) (hprocess : a.process = some p)
      (haccepted : Adapter.announcementRefusal C config p system = none)
      (hwrite : system.writeFails = false) :
      SendsTo a (.announce system) p

/-- A step reads a line that makes a result of a request. -/
inductive Accepts (a : Adapter Request Document) : Event Request → Process → Prop
  | line {p : Process} {sent : Sent Request} {system : System} {output : Output}
      {rest : List Output}
      (hphase : a.phase = .awaiting sent) (hprocess : a.process = some p)
      (htime : system.timedOut = false) (hread : p.unread = output :: rest)
      (haccepted : oneShotStatus C config sent.request output.line 0 = .completed) :
      Accepts a (.answer system) p

/-- The Worker keeps count and does not fail behind its own answer.  When a request
is sent to it, it has written its announcement and a line for each request it was
sent before; when a result is read, it has not exited with a non-zero code. -/
structure KeepsCount (a : Adapter Request Document) (e : Event Request) : Prop where
  count : ∀ p, SendsTo C config a e p → p.written = p.requested + 1
  exit : ∀ p, Accepts C config a e p → p.exitCode = none ∨ p.exitCode = some 0

/-! ## Lines -/

variable {C config}

theorem classifyLine_completed {request : Request} {line : Line} {exitCode : Option Int}
    (h : (classifyLine C config request line exitCode).1.invocationStatus = .completed) :
    ∃ document, C.parse line = .object document ∧
      (classifyLine C config request line exitCode).1.workerResult = some document ∧
      correlationMatches C request document = true := by
  unfold classifyLine at h ⊢
  by_cases hempty : line.take config.maxStdoutBytes = []
  · rw [if_pos hempty] at h
    rcases exitCode with _ | code
    · cases h
    · dsimp only [noDocumentStatus] at h
      split at h <;> cases h
  · rw [if_neg hempty] at h ⊢
    by_cases hlong : config.maxStdoutBytes < line.length
    · rw [if_pos hlong] at h
      cases h
    · rw [if_neg hlong] at h ⊢
      cases hparse : C.parse line with
      | invalid message => simp [hparse] at h
      | other => simp [hparse] at h
      | object document =>
        cases herror : C.resultError document with
        | some message => simp [hparse, herror] at h
        | none =>
          by_cases hmatch : correlationMatches C request document = true
          · exact ⟨document, rfl, by simp [herror, hmatch], hmatch⟩
          · simp [hparse, herror, hmatch] at h

/-- Whether a line is a result is a matter of the line. -/
theorem classifyLine_exitCode (request : Request) (line : Line) (exitCode other : Option Int) :
    (classifyLine C config request line exitCode).1.invocationStatus = .completed ↔
      (classifyLine C config request line other).1.invocationStatus = .completed := by
  have hstatus : ∀ code : Option Int, noDocumentStatus code ≠ .completed := by
    intro code
    rcases code with _ | code
    · exact InvocationStatus.noConfusion
    · dsimp only [noDocumentStatus]
      split <;> exact InvocationStatus.noConfusion
  unfold classifyLine
  by_cases hempty : line.take config.maxStdoutBytes = []
  · rw [if_pos hempty, if_pos hempty]
    exact iff_of_false (hstatus _) (hstatus _)
  · rw [if_neg hempty, if_neg hempty]
    by_cases hlong : config.maxStdoutBytes < line.length
    · rw [if_pos hlong, if_pos hlong]
    · rw [if_neg hlong, if_neg hlong]
      cases C.parse line with
      | invalid message => exact Iff.rfl
      | other => exact Iff.rfl
      | object document =>
        dsimp only
        cases C.resultError document with
        | some message => exact Iff.rfl
        | none =>
          dsimp only
          split <;> exact Iff.rfl

theorem oneShotStatus_completed {request : Request} {line : Line} {code : Int}
    (exitCode : Option Int) :
    oneShotStatus C config request line code = .completed ↔
      (classifyLine C config request line exitCode).1.invocationStatus = .completed ∧
        code = 0 := by
  rw [classifyLine_exitCode request line exitCode (some code)]
  unfold oneShotStatus
  cases (classifyLine C config request line (some code)).1.invocationStatus with
  | completed =>
    by_cases hcode : code = 0
    · simp [hcode]
    · simp [hcode]
  | _ => simp

/-! ## What the steps do -/

/-- How many lines there are in the pipe: all but those that were read, one for
the announcement and one for each request.  Where a request is not answered, what
came since it was sent is behind what was there before. -/
def Counted (a : Adapter Request Document) : Prop :=
  match a.phase with
  | .idle => ∀ p, a.process = some p → p.written = p.unread.length + p.requested + 1
  | .announcing _ => ∃ p, a.process = some p ∧ p.written = p.unread.length ∧ p.requested = 0
  | .awaiting sent => ∃ p fresh, a.process = some p ∧
      p.written = p.unread.length + p.requested ∧ p.unread = sent.stale ++ fresh ∧
      sent.serial = a.sent ∧ ∀ output ∈ fresh, sent.serial ≤ output.after

namespace Adapter

variable {a : Adapter Request Document}

theorem kill_spec {p : Process} (hprocess : a.process = some p) (system : System) :
    a.kill system = { a with
      process := none
      containmentFailureReason := a.containmentFailureReason.or system.cleanupFailure } := by
  unfold kill
  rw [hprocess]

/-- What spawning comes to. -/
theorem spawn_spec (request : Request) (system : System) :
    (∃ status reason exitCode, a.spawn request system = a.refuse status reason exitCode) ∨
      a.spawn request system = { a with process := some {}, phase := .announcing request } := by
  unfold spawn
  cases a.containmentFailureReason with
  | some failure => exact Or.inl ⟨_, _, _, rfl⟩
  | none =>
    cases system.notReady with
    | some reason => exact Or.inl ⟨_, _, _, rfl⟩
    | none =>
      cases system.prepareError with
      | some reason => exact Or.inl ⟨_, _, _, rfl⟩
      | none =>
        cases system.spawnError with
        | some reason => exact Or.inl ⟨_, _, _, rfl⟩
        | none => exact Or.inr rfl

/-- What becomes of an answer: a line is read, or the process is killed. -/
theorem answer_spec {p : Process} (hprocess : a.process = some p) (sent : Sent Request)
    (system : System) :
    ∃ process failure record, a.answer C config sent p system = { a with
        process := process
        containmentFailureReason := failure
        phase := .idle
        answered := a.answered ++ [record] } ∧
      record.sent = sent ∧ record.exitCode = p.exitCode ∧
      ((process = none ∧ record.read = none ∧ record.outcome.invocationStatus ≠ .completed ∧
          (system.timedOut = true ∨ p.unread = [])) ∨
        ∃ output rest, system.timedOut = false ∧ p.unread = output :: rest ∧
          (process = none ∨ process = some { p with unread := rest }) ∧
          record.read = some output ∧
          ∃ outcome killed, classifyLine C config sent.request output.line p.exitCode =
              (outcome, killed) ∧
            record.outcome.invocationStatus = outcome.invocationStatus ∧
            record.outcome.workerResult = outcome.workerResult) := by
  unfold answer
  by_cases htime : system.timedOut = true
  · rw [if_pos htime]
    unfold terminalOutcome finish
    rw [kill_spec hprocess]
    exact ⟨_, _, _, rfl, rfl, rfl, Or.inl ⟨rfl, rfl, InvocationStatus.noConfusion, Or.inl htime⟩⟩
  rw [if_neg htime]
  have htime : system.timedOut = false := by simpa using htime
  cases hread : p.unread with
  | nil =>
    dsimp only
    unfold terminalOutcome finish
    rw [kill_spec hprocess]
    refine ⟨_, _, _, rfl, rfl, rfl, Or.inl ⟨rfl, rfl, ?_, Or.inr rfl⟩⟩
    show noDocumentStatus p.exitCode ≠ .completed
    rcases p.exitCode with _ | code
    · exact InvocationStatus.noConfusion
    · dsimp only [noDocumentStatus]
      split <;> exact InvocationStatus.noConfusion
  | cons output rest =>
    dsimp only
    rcases hline : classifyLine C config sent.request output.line p.exitCode with
      ⟨outcome, _ | _⟩
    · exact ⟨_, _, _, rfl, rfl, rfl, Or.inr
        ⟨output, rest, htime, rfl, Or.inr rfl, rfl, _, _, hline, rfl, rfl⟩⟩
    · dsimp only
      unfold terminalOutcome finish
      rw [kill_spec rfl]
      exact ⟨_, _, _, rfl, rfl, rfl, Or.inr
        ⟨output, rest, htime, rfl, Or.inl rfl, rfl, _, _, hline, rfl, rfl⟩⟩

end Adapter

variable (C config) in
/-- **What a step does**, as far as requests and answers go. -/
inductive Does (a : Adapter Request Document) (e : Event Request)
    (b : Adapter Request Document) : Prop
  -- The process writes or exits.
  | worker (hsends : ∀ p, ¬ SendsTo C config a e p) (haccepts : ∀ p, ¬ Accepts C config a e p)
      (hphase : b.phase = a.phase) (hanswered : b.answered = a.answered)
  -- An invocation ends, or its process starts, before the request is sent.
  | unsent (hsends : ∀ p, ¬ SendsTo C config a e p) (haccepts : ∀ p, ¬ Accepts C config a e p)
      (hpending : ∀ sent, a.phase ≠ .awaiting sent) (hunsent : ∀ sent, b.phase ≠ .awaiting sent)
      (hanswered : b.answered = a.answered)
  | sent {p : Process} {sent : Sent Request} (hsends : ∀ q, SendsTo C config a e q ↔ q = p)
      (haccepts : ∀ p, ¬ Accepts C config a e p) (hpending : ∀ sent, a.phase ≠ .awaiting sent)
      (hphase : b.phase = .awaiting sent) (hanswered : b.answered = a.answered)
      (hcount : p.written = sent.stale.length + p.requested + 1)
  | answered {p : Process} {sent : Sent Request} {system : System}
      (hevent : e = .answer system) (hphase : a.phase = .awaiting sent)
      (hprocess : a.process = some p) (hb : b = a.answer C config sent p system)

section Counting

variable {a : Adapter Request Document}

theorem counted_idle (hphase : a.phase = .idle) :
    Counted a ↔ ∀ p, a.process = some p → p.written = p.unread.length + p.requested + 1 := by
  unfold Counted
  rw [hphase]

theorem counted_announcing {request : Request} (hphase : a.phase = .announcing request) :
    Counted a ↔ ∃ p, a.process = some p ∧ p.written = p.unread.length ∧ p.requested = 0 := by
  unfold Counted
  rw [hphase]

theorem counted_awaiting {sent : Sent Request} (hphase : a.phase = .awaiting sent) :
    Counted a ↔ ∃ p fresh, a.process = some p ∧ p.written = p.unread.length + p.requested ∧
      p.unread = sent.stale ++ fresh ∧ sent.serial = a.sent ∧
      ∀ output ∈ fresh, sent.serial ≤ output.after := by
  unfold Counted
  rw [hphase]

theorem counted_of_no_process (hphase : a.phase = .idle) (hprocess : a.process = none) :
    Counted a := by
  rw [counted_idle hphase, hprocess]
  intro p hp
  cases hp

/-- A write and an exit leave the count right. -/
theorem counted_worker {p q : Process} {extra : List Output} (hcounted : Counted a)
    (hprocess : a.process = some p) (hunread : q.unread = p.unread ++ extra)
    (hwritten : q.written = p.written + extra.length) (hrequested : q.requested = p.requested)
    (hextra : ∀ output ∈ extra, output.after = a.sent) :
    Counted { a with process := some q } := by
  have hlength : q.unread.length = p.unread.length + extra.length := by
    rw [hunread, List.length_append]
  cases hphase : a.phase with
  | idle =>
    rw [counted_idle hphase] at hcounted
    refine (counted_idle rfl).mpr ?_
    intro q' hq'
    cases hq'
    have := hcounted p hprocess
    omega
  | announcing request =>
    rw [counted_announcing hphase] at hcounted
    refine (counted_announcing rfl).mpr ?_
    obtain ⟨p', hp', hcount, hzero⟩ := hcounted
    rw [hprocess] at hp'
    cases hp'
    exact ⟨q, rfl, by omega, by omega⟩
  | awaiting sent =>
    rw [counted_awaiting hphase] at hcounted
    refine (counted_awaiting rfl).mpr ?_
    obtain ⟨p', fresh, hp', hcount, hpipe, hserial, hfresh⟩ := hcounted
    rw [hprocess] at hp'
    cases hp'
    refine ⟨q, fresh ++ extra, rfl, by omega, ?_, hserial, ?_⟩
    · rw [hunread, hpipe, List.append_assoc]
    · intro output houtput
      rcases List.mem_append.mp houtput with houtput | houtput
      · exact hfresh output houtput
      · exact Nat.le_of_eq (hserial.trans (hextra output houtput).symm)

/-- The sending of a request, to a process from which everything but `p.unread`
was read. -/
theorem send_does {e : Event Request} {request : Request} {p q : Process} {system : System}
    (hprocess : a.process = some p) (hpending : ∀ sent, a.phase ≠ .awaiting sent)
    (hrequested : q.requested = p.requested) (hwritten : q.written = p.written)
    (hcount : p.written = q.unread.length + p.requested + 1)
    (hsends : ∀ p', SendsTo C config a e p' ↔ p' = p ∧ system.writeFails = false)
    (haccepts : ∀ p', ¬ Accepts C config a e p') :
    Does C config a e (a.send request q system) ∧
      Counted (a.send request q system) := by
  unfold Adapter.send
  by_cases hwrite : system.writeFails = true
  · rw [if_pos hwrite, Adapter.kill_spec hprocess]
    refine ⟨.unsent ?_ haccepts hpending (fun _ h => by cases h) rfl,
      counted_of_no_process rfl rfl⟩
    intro p' hp'
    rw [hsends, hwrite] at hp'
    cases hp'.2
  · have hwrite : system.writeFails = false := by simpa using hwrite
    rw [if_neg (by rw [hwrite]; exact Bool.false_ne_true)]
    constructor
    · refine @Does.sent _ _ _ _ _ _ _ _ _ p ⟨request, a.sent + 1, q.unread⟩ ?_ haccepts hpending rfl
        rfl hcount
      intro p'
      rw [hsends, hwrite]
      exact and_iff_left rfl
    · rw [counted_awaiting rfl]
      refine ⟨_, [], rfl, ?_, ?_, rfl, ?_⟩
      · show q.written = q.unread.length + (q.requested + 1)
        omega
      · exact (List.append_nil _).symm
      · intro output houtput
        cases houtput

theorem invoke_does (hidle : a.phase = .idle) (hcounted : Counted a) (request : Request)
    (timeoutMs : Option Int) (system : System) :
    Does C config a (.invoke request timeoutMs system)
        (a.invoke C config request timeoutMs system) ∧
      Counted (a.invoke C config request timeoutMs system) := by
  have hpending : ∀ sent, a.phase ≠ .awaiting sent := fun _ h => by
    rw [hidle] at h
    cases h
  have haccepts : ∀ p, ¬ Accepts C config a (.invoke request timeoutMs system) p := fun _ h => by
    cases h
  have hcount := (counted_idle hidle).mp hcounted
  -- The process, if there is one, is left as it is.
  have hrefuse : ∀ status reason exitCode,
      (∀ p, ¬ SendsTo C config a (.invoke request timeoutMs system) p) →
      Does C config a (.invoke request timeoutMs system)
        (a.refuse status reason exitCode) ∧ Counted (a.refuse status reason exitCode) :=
    fun status reason exitCode hsends =>
      ⟨.unsent hsends haccepts hpending (fun _ h => by cases h) rfl,
        (counted_idle rfl).mpr hcount⟩
  -- A process is started, or there is none.
  have hspawn : ∀ a' : Adapter Request Document, a'.process = none → a'.phase = .idle →
      a'.answered = a.answered →
      (∀ p, ¬ SendsTo C config a (.invoke request timeoutMs system) p) →
      Does C config a (.invoke request timeoutMs system)
        (a'.spawn request system) ∧ Counted (a'.spawn request system) := by
    intro a' hnone hidle' hanswered hsends
    rcases a'.spawn_spec request system with ⟨status, reason, exitCode, hb⟩ | hb
    · rw [hb]
      exact ⟨.unsent hsends haccepts hpending (fun _ h => by cases h) hanswered,
        counted_of_no_process rfl hnone⟩
    · rw [hb]
      exact ⟨.unsent hsends haccepts hpending (fun _ h => by cases h) hanswered,
        (counted_announcing rfl).mpr ⟨{}, rfl, rfl, rfl⟩⟩
  unfold Adapter.invoke
  cases hvalid : C.requestError request with
  | some message =>
    refine hrefuse _ _ _ fun p hp => ?_
    cases hp with
    | running hvalid' => rw [hvalid] at hvalid'; cases hvalid'
  | none =>
    dsimp only
    by_cases htime : effectiveTimeoutMs C config request timeoutMs ≤ 0
    · rw [if_pos htime]
      refine hrefuse _ _ _ fun p hp => ?_
      cases hp with
      | running _ htime' => omega
    rw [if_neg htime]
    cases hprocess : a.process with
    | none =>
      refine hspawn a hprocess hidle rfl fun p hp => ?_
      cases hp with
      | running _ _ hprocess' => rw [hprocess] at hprocess'; cases hprocess'
    | some p =>
      dsimp only
      by_cases hruns : p.exitCode = none
      · rw [if_pos hruns]
        refine send_does hprocess hpending rfl rfl (hcount p hprocess) (fun p' => ?_) haccepts
        constructor
        · rintro (⟨_, _, hprocess', _, hwrite⟩ | _)
          rw [hprocess] at hprocess'
          cases hprocess'
          exact ⟨rfl, hwrite⟩
        · rintro ⟨rfl, hwrite⟩
          exact .running hvalid (by omega) hprocess hruns hwrite
      · rw [if_neg hruns, Adapter.kill_spec hprocess]
        refine hspawn _ rfl hidle rfl fun p' hp => ?_
        cases hp with
        | running _ _ hprocess' hruns' =>
          rw [hprocess] at hprocess'
          cases hprocess'
          exact hruns hruns'

theorem announce_does {request : Request} {p : Process} {system : System}
    (hphase : a.phase = .announcing request) (hprocess : a.process = some p)
    (hcounted : Counted a) :
    Does C config a (.announce system)
        (a.announce C config request p system) ∧
      Counted (a.announce C config request p system) := by
  have hpending : ∀ sent, a.phase ≠ .awaiting sent := fun _ h => by
    rw [hphase] at h
    cases h
  have haccepts : ∀ p, ¬ Accepts C config a (.announce system) p := fun _ h => by cases h
  obtain ⟨p', hp', hcount, hzero⟩ := (counted_announcing hphase).mp hcounted
  rw [hprocess] at hp'
  cases hp'
  unfold Adapter.announce
  cases hrefusal : Adapter.announcementRefusal C config p system with
  | some reason =>
    dsimp only
    rw [Adapter.kill_spec hprocess]
    refine ⟨.unsent (fun q hq => ?_) haccepts hpending (fun _ h => by cases h) rfl,
      counted_of_no_process rfl rfl⟩
    cases hq with
    | announced _ hprocess' haccepted =>
      rw [hprocess] at hprocess'
      cases hprocess'
      rw [hrefusal] at haccepted
      cases haccepted
  | none =>
    have hread : p.unread.length = p.unread.tail.length + 1 := by
      rcases hunread : p.unread with _ | ⟨output, rest⟩
      · unfold Adapter.announcementRefusal at hrefusal
        rw [hunread] at hrefusal
        split at hrefusal <;> cases hrefusal
      · rfl
    refine send_does hprocess hpending rfl rfl ?_ (fun p' => ?_) haccepts
    · show p.written = p.unread.tail.length + p.requested + 1
      omega
    · constructor
      · rintro (_ | ⟨_, hprocess', _, hwrite⟩)
        rw [hprocess] at hprocess'
        cases hprocess'
        exact ⟨rfl, hwrite⟩
      · rintro ⟨rfl, hwrite⟩
        exact .announced hphase hprocess hrefusal hwrite

/-- **Every step** does one of these things and leaves the count right. -/
theorem step_does {e : Event Request} {b : Adapter Request Document} (h : Step C config a e b)
    (hcounted : Counted a) : Does C config a e b ∧ Counted b := by
  cases h with
  | output line hprocess hruns =>
    refine ⟨.worker (fun _ h => by cases h) (fun _ h => by cases h) rfl rfl,
      counted_worker hcounted hprocess rfl rfl rfl ?_⟩
    intro output houtput
    rw [List.mem_singleton.mp houtput]
  | exit code hprocess hruns =>
    refine ⟨.worker (fun _ h => by cases h) (fun _ h => by cases h) rfl rfl,
      counted_worker hcounted hprocess (List.append_nil _).symm rfl rfl ?_⟩
    intro output houtput
    cases houtput
  | invoke request timeoutMs system hidle =>
    exact invoke_does hidle hcounted request timeoutMs system
  | announce system hphase hprocess => exact announce_does hphase hprocess hcounted
  | answer system hphase hprocess =>
    refine ⟨.answered rfl hphase hprocess rfl, ?_⟩
    obtain ⟨p', fresh, hp', hcount, -, -, -⟩ := (counted_awaiting hphase).mp hcounted
    rw [hprocess] at hp'
    cases hp'
    obtain ⟨process, failure, record, hb, -, -, hread⟩ :=
      @Adapter.answer_spec _ _ _ _ C config a _ hprocess _ system
    rw [hb, counted_idle rfl]
    intro q hq
    rcases hread with ⟨hnone, -⟩ | ⟨output, rest, -, hunread, hprocess', -⟩
    · rw [show process = some q from hq] at hnone
      cases hnone
    · rcases hprocess' with hnone | hsome
      · rw [show process = some q from hq] at hnone
        cases hnone
      · rw [show process = some q from hq] at hsome
        cases hsome
        rw [hunread, List.length_cons] at hcount
        dsimp only
        omega

/-- **An answer is sound** if the pipe was empty when its request was sent and the
process has not failed behind it, and only then. -/
theorem sound_iff {p : Process} {sent : Sent Request} {system : System}
    {record : Record Request Document} (hphase : a.phase = .awaiting sent)
    (hprocess : a.process = some p) (hcounted : Counted a) (hsent : record.sent = sent)
    (hexit : record.exitCode = p.exitCode)
    (hread : (record.read = none ∧ record.outcome.invocationStatus ≠ .completed ∧
        (system.timedOut = true ∨ p.unread = [])) ∨
      ∃ output rest, system.timedOut = false ∧ p.unread = output :: rest ∧
        record.read = some output ∧
        ∃ outcome killed, classifyLine C config sent.request output.line p.exitCode =
            (outcome, killed) ∧
          record.outcome.invocationStatus = outcome.invocationStatus ∧
          record.outcome.workerResult = outcome.workerResult) :
    Sound C config record ↔ sent.stale = [] ∧
      ∀ q, Accepts C config a (.answer system) q → q.exitCode = none ∨ q.exitCode = some 0 := by
  rcases hread with ⟨hnone, hstatus, hempty⟩ | ⟨output, rest, htime, hunread, hsome, outcome, killed,
    hline, hstatus, hresult⟩
  · have haccepts : ∀ q, ¬ Accepts C config a (.answer system) q := by
      rintro q ⟨-, hprocess', htime, hunread, -⟩
      rw [hprocess] at hprocess'
      cases hprocess'
      rcases hempty with hempty | hempty
      · rw [hempty] at htime
        cases htime
      · rw [hempty] at hunread
        cases hunread
    constructor
    · exact fun h => ⟨hsent ▸ h.clean, fun q hq => absurd hq (haccepts q)⟩
    · rintro ⟨hclean, -⟩
      refine ⟨hsent ▸ hclean, fun output h => ?_, fun h => absurd h hstatus, fun output _ h => ?_⟩
      · rw [hnone] at h
        cases h
      · rw [hnone] at h
        cases h
  · have hcompleted : record.outcome.invocationStatus = .completed ↔
        (classifyLine C config sent.request output.line p.exitCode).1.invocationStatus =
          .completed := by
      rw [hstatus, hline]
    have haccepts : record.outcome.invocationStatus = .completed ↔
        Accepts C config a (.answer system) p := by
      rw [hcompleted]
      constructor
      · exact fun h => .line hphase hprocess htime hunread
          ((oneShotStatus_completed p.exitCode).mpr ⟨h, rfl⟩)
      · rintro ⟨hphase', hprocess', -, hunread', haccepted⟩
        rw [hphase] at hphase'
        cases hphase'
        rw [hunread] at hunread'
        cases hunread'
        exact ((oneShotStatus_completed p.exitCode).mp haccepted).1
    constructor
    · refine fun h => ⟨hsent ▸ h.clean, fun q hq => ?_⟩
      have hq' : q = p := by
        obtain ⟨-, hprocess', -, -, -⟩ := hq
        rw [hprocess] at hprocess'
        cases hprocess'
        rfl
      subst hq'
      have hdone := haccepts.mpr hq
      by_contra hne
      obtain ⟨hrunning, hzero⟩ := not_or.mp hne
      rcases hcode : q.exitCode with _ | code
      · exact hrunning hcode
      · refine h.exited output code hsome (hexit.trans hcode) ?_ hdone
        rw [Ne, oneShotStatus_completed q.exitCode]
        rintro ⟨-, rfl⟩
        exact hzero hcode
    · rintro ⟨hclean, hcodes⟩
      obtain ⟨p', fresh, hp', -, hpipe, -, hfresh⟩ := (counted_awaiting hphase).mp hcounted
      rw [hprocess] at hp'
      cases hp'
      rw [hclean, List.nil_append, hunread] at hpipe
      refine ⟨hsent ▸ hclean, ?_, ?_, ?_⟩
      · intro output' houtput'
        rw [hsome] at houtput'
        cases houtput'
        rw [hsent]
        exact hfresh output (hpipe ▸ List.mem_cons_self)
      · intro hdone
        obtain ⟨document, hparse, hdocument, hmatch⟩ := classifyLine_completed (hcompleted.mp hdone)
        refine ⟨output, document, hsome, hparse, ?_, hsent ▸ hmatch⟩
        rw [hresult]
        rw [hline] at hdocument
        exact hdocument
      · intro output' code houtput' hcode hrefused hdone
        rw [hsome] at houtput'
        cases houtput'
        refine hrefused ((oneShotStatus_completed p.exitCode).mpr ⟨?_, ?_⟩)
        · rw [hsent]
          exact hcompleted.mp hdone
        · rcases hcodes p (haccepts.mp hdone) with hnone | hzero
          · rw [hexit, hnone] at hcode
            cases hcode
          · rw [hexit, hzero] at hcode
            cases hcode
            rfl

/-- **One step** keeps the invocations apart if and only if the Worker keeps count. -/
theorem inStep_step {e : Event Request} {b : Adapter Request Document}
    (h : Does C config a e b) (hcounted : Counted a) :
    InStep C config b ↔ InStep C config a ∧ KeepsCount C config a e := by
  cases h with
  | worker hsends haccepts hphase hanswered =>
    have hkeeps : KeepsCount C config a e :=
      ⟨fun p hp => absurd hp (hsends p), fun p hp => absurd hp (haccepts p)⟩
    constructor
    · exact fun hb => ⟨⟨hphase ▸ hb.awaiting, hanswered ▸ hb.answered⟩, hkeeps⟩
    · rintro ⟨ha, -⟩
      exact ⟨hphase.symm ▸ ha.awaiting, hanswered.symm ▸ ha.answered⟩
  | unsent hsends haccepts hpending hunsent hanswered =>
    have hkeeps : KeepsCount C config a e :=
      ⟨fun p hp => absurd hp (hsends p), fun p hp => absurd hp (haccepts p)⟩
    constructor
    · exact fun hb => ⟨⟨fun sent hsent => absurd hsent (hpending sent),
        hanswered ▸ hb.answered⟩, hkeeps⟩
    · rintro ⟨ha, -⟩
      exact ⟨fun sent hsent => absurd hsent (hunsent sent), hanswered.symm ▸ ha.answered⟩
  | @sent p sent hsends haccepts hpending hphase hanswered hcount =>
    have hcountIff : (∀ q, SendsTo C config a e q → q.written = q.requested + 1) ↔
        sent.stale = [] := by
      constructor
      · intro hq
        have := hq p ((hsends p).mpr rfl)
        exact List.length_eq_zero_iff.mp (by omega)
      · intro hstale q hq
        rw [(hsends q).mp hq, hcount, hstale, List.length_nil, Nat.zero_add]
    constructor
    · intro hb
      exact ⟨⟨fun other hother => absurd hother (hpending other), hanswered ▸ hb.answered⟩,
        hcountIff.mpr (hb.awaiting sent hphase), fun q hq => absurd hq (haccepts q)⟩
    · rintro ⟨ha, hkeeps⟩
      refine ⟨fun other hother => ?_, hanswered.symm ▸ ha.answered⟩
      rw [hphase] at hother
      cases hother
      exact hcountIff.mp hkeeps.count
  | @answered p sent system hevent hphase hprocess hb =>
    subst hevent
    obtain ⟨process, failure, record, hanswer, hsent, hexit, hread⟩ :=
      @Adapter.answer_spec _ _ _ _ C config a _ hprocess sent system
    have hsound : Sound C config record ↔ sent.stale = [] ∧
        ∀ q, Accepts C config a (.answer system) q →
          q.exitCode = none ∨ q.exitCode = some 0 := by
      refine sound_iff hphase hprocess hcounted hsent hexit ?_
      rcases hread with ⟨-, hnone⟩ | ⟨output, rest, htime, hunread, -, hsome⟩
      · exact Or.inl hnone
      · exact Or.inr ⟨output, rest, htime, hunread, hsome⟩
    rw [hb, hanswer]
    constructor
    · intro hstep
      obtain ⟨hclean, hcodes⟩ := hsound.mp (hstep.answered record (List.mem_append_right _
        List.mem_cons_self))
      refine ⟨⟨fun other hother => ?_, fun r hr => hstep.answered r (List.mem_append_left _ hr)⟩,
        fun q hq => ?_, hcodes⟩
      · rw [hphase] at hother
        cases hother
        exact hclean
      · cases hq
    · rintro ⟨ha, hkeeps⟩
      refine ⟨fun other hother => ?_, fun r hr => ?_⟩
      · cases hother
      · rcases List.mem_append.mp hr with hr | hr
        · exact ha.answered r hr
        · rw [List.mem_singleton.mp hr]
          exact hsound.mpr ⟨ha.awaiting sent hphase, hkeeps.exit⟩

end Counting

/-! ## Runs -/

variable (C config)

/-- **Responses do not slip between requests** if and only if the Worker keeps
count in every step of the run. -/
theorem responses_in_step_iff (es : List (Event Request)) (a : Adapter Request Document)
    (h : Run (Step C config) {} es a) :
    InStep C config a ↔ Run (Guarded (Step C config) (KeepsCount C config)) {} es a := by
  have hkept : ∀ a e b, Step C config a e b → Counted a →
      (InStep C config b ↔ InStep C config a ∧ KeepsCount C config a e) :=
    fun _ _ _ hstep hcounted => inStep_step (step_does hstep hcounted).1 hcounted
  refine h.guarded_iff (fun _ _ _ hstep hcounted => (step_does hstep hcounted).2) hkept
    (counted_of_no_process rfl rfl) ?_
  exact ⟨fun _ h => (by cases h), fun _ h => (by cases h)⟩

end Streams

/-! ## A small Worker -/

/-- Requests and documents are numbers, and a line is one byte. -/
def byteContract : Contract Nat Nat Nat where
  requestError _ := none
  maxRuntimeMs _ := none
  requestCorrelation request := some fun _ => request
  parse
    | [byte] => .object byte.toNat
    | _ => .other
  resultError _ := none
  resultCorrelation document := some fun _ => document
  announcementError _ := none

/-- Thirty seconds and 64 KiB. -/
def byteConfig : Config := ⟨30000, 65536⟩

/-- A run of it goes on. -/
theorem byte_snoc {es : List (Event Nat)} {e : Event Nat} {a b : Adapter Nat Nat}
    (h : Run (Guarded (Step byteContract byteConfig) (KeepsCount byteContract byteConfig)) {} es a)
    (hstep : Step byteContract byteConfig a e b)
    (hcount : ∀ p, SendsTo byteContract byteConfig a e p → p.written = p.requested + 1)
    (hexit : ∀ p, Accepts byteContract byteConfig a e p →
      p.exitCode = none ∨ p.exitCode = some 0) :
    Run (Guarded (Step byteContract byteConfig) (KeepsCount byteContract byteConfig)) {}
      (es ++ [e]) b :=
  h.snoc ⟨hstep, hcount, hexit⟩

/-- A Worker that answers its first request. -/
theorem responses_in_step_iff_first :
    ∃ es a, Run (Step byteContract byteConfig) {} es a ∧
      a.answered.map (fun r => r.outcome.workerResult) = [some 1] ∧
      InStep byteContract byteConfig a := by
  have hstart : Run (Guarded (Step byteContract byteConfig) (KeepsCount byteContract byteConfig))
      {} [] {} := .nil _
  have hinvoke := byte_snoc hstart (.invoke 1 none {} rfl)
    (fun p h => by
      cases h with
      | running _ _ hprocess => cases hprocess)
    (fun p h => by cases h)
  have hhello := byte_snoc hinvoke (.output [0] rfl rfl) (fun p h => by cases h)
    (fun p h => by cases h)
  have hannounce := byte_snoc hhello (.announce {} rfl rfl (by simp [Readable]))
    (fun p h => by
      cases h with
      | announced _ hprocess =>
        cases hprocess
        rfl)
    (fun p h => by cases h)
  have hanswer := byte_snoc (byte_snoc hannounce (.output [1] rfl rfl) (fun p h => by cases h)
      (fun p h => by cases h)) (.answer {} rfl rfl (by simp [Readable]))
    (fun p h => by cases h)
    (fun p h => by
      cases h with
      | line _ hprocess =>
        cases hprocess
        exact Or.inl rfl)
  have hrun := hanswer.mono fun _ _ _ h => h.1
  exact ⟨_, _, hrun, rfl, (responses_in_step_iff byteContract byteConfig _ _ hrun).mpr hanswer⟩

/-- The process has announced itself and was sent the first request. -/
theorem byte_started : ∃ es, Run (Step byteContract byteConfig) {} es
    { process := some ⟨[], none, 1, 1⟩, phase := .awaiting ⟨1, 1, []⟩, sent := 1 } := by
  have hstart : Run (Step byteContract byteConfig) {} [] {} := .nil _
  have hinvoke := hstart.snoc (.invoke 1 none {} rfl)
  have hhello := hinvoke.snoc (.output [0] rfl rfl)
  have hannounce := hhello.snoc (.announce {} rfl rfl (by simp [Readable]))
  exact ⟨_, hannounce⟩

/-- **One line too many** makes every later invocation read the answer to the one
before it, and an answer that is there before its request was sent is taken for
one.  **A process that failed** after its answer is not noticed. -/
theorem stray_line_shifts_answers :
    (∃ es a, Run (Step byteContract byteConfig) {} es a ∧
      a.answered.map (fun r => r.outcome.invocationStatus) =
        [.completed, .contractInvalid, .contractInvalid] ∧
      ¬ InStep byteContract byteConfig a) ∧
    (∃ es a r, Run (Step byteContract byteConfig) {} es a ∧ r ∈ a.answered ∧
      r.outcome.invocationStatus = .completed ∧ r.sent.serial = 2 ∧ r.read = some ⟨[2], 1⟩) ∧
    ∃ es a r, Run (Step byteContract byteConfig) {} es a ∧ r ∈ a.answered ∧
      r.outcome.invocationStatus = .completed ∧ r.exitCode = some 3 ∧
      oneShotStatus byteContract byteConfig r.sent.request [1] 3 = .protocolError := by
  obtain ⟨es, hstarted⟩ := byte_started
  have hanswered := hstarted.snoc (.output [1] rfl rfl)
  refine ⟨?_, ?_, ?_⟩
  · -- The answer is written twice.
    have hfirst := (hanswered.snoc (.output [1] rfl rfl)).snoc
      (.answer {} rfl rfl (by simp [Readable]))
    have hsecond := ((hfirst.snoc (.invoke 2 none {} rfl)).snoc (.output [2] rfl rfl)).snoc
      (.answer {} rfl rfl (by simp [Readable]))
    have hthird := ((hsecond.snoc (.invoke 3 none {} rfl)).snoc (.output [3] rfl rfl)).snoc
      (.answer {} rfl rfl (by simp [Readable]))
    refine ⟨_, _, hthird, rfl, fun hstep => ?_⟩
    have hclean := (hstep.answered _ (List.mem_cons_of_mem _ List.mem_cons_self)).clean
    cases hclean
  · -- The second answer is written before the second request is sent.
    have hfirst := (hanswered.snoc (.output [2] rfl rfl)).snoc
      (.answer {} rfl rfl (by simp [Readable]))
    have hsecond := (hfirst.snoc (.invoke 2 none {} rfl)).snoc
      (.answer {} rfl rfl (by simp [Readable]))
    exact ⟨_, _, _, hsecond, List.mem_cons_of_mem _ List.mem_cons_self, rfl, rfl, rfl⟩
  · -- The process exits with 3 behind its answer.
    have hfirst := (hanswered.snoc (.exit 3 rfl rfl)).snoc
      (.answer {} rfl rfl (by simp [Readable]))
    exact ⟨_, _, _, hfirst, List.mem_cons_self, rfl, rfl, rfl⟩

end Zest.PersistentWorker
