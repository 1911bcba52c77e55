import Zest.CallJournal

/-! # What the journal guarantees

Every step of `complete_or_call` is looked at once, and `Respects` says what it
leaves: no slot is asked about twice, a slot that was asked about has a file, a
record that is complete stays, and nobody asks more often than the budget of his
process has it.  A call that is stopped anywhere has done some of these steps, so
that is all that its successors need to know of it.
-/
namespace Zest.Benchmark

open UnitOfWork TransitionSystem

variable {ρ : Type}

/-! ## The history -/

/-- A question to the provider, about a slot. -/
def Entry.asks (path : Path) : Entry → Bool
  | .invoked _ other => other = path
  | .replayed .. | .paused .. => false

/-- A question to the provider, by a process. -/
def Entry.askedBy (process : Nat) : Entry → Bool
  | .invoked other _ => other = process
  | .replayed .. | .paused .. => false

/-- How often the provider has been asked about a slot. -/
def World.invocations (w : World ρ) (path : Path) : Nat := w.history.countP (·.asks path)

/-- How often a process has asked the provider. -/
def World.callsBy (w : World ρ) (process : Nat) : Nat := w.history.countP (·.askedBy process)

/-- What holds of the world at any time. -/
structure Inv (w : World ρ) : Prop where
  once : ∀ path, w.invocations path ≤ 1
  filed : ∀ path, w.invocations path ≠ 0 → (w.calls path).isSome
  budgeted : ∀ budget, w.budget = some budget →
    w.callsBy w.process ≤ budget.newModelCalls ∧
      budget.newModelCalls ≤ budget.maxNewModelCalls
  later : ∀ process, w.process < process → w.callsBy process = 0
  replays : ∀ process path requested recorded,
    .replayed process path requested recorded ∈ w.history → recorded = some requested

/-- What a step leaves of the world. -/
structure Respects (w w' : World ρ) : Prop where
  inv : Inv w'
  completed : ∀ path record, w.calls path = some (.record record) → record.Completed →
    w'.calls path = w.calls path ∧ w'.invocations path = w.invocations path
  kept : ∀ path, (w.calls path).isSome → (w'.calls path).isSome

theorem Inv.respects {w : World ρ} (h : Inv w) : Respects w w :=
  ⟨h, fun _ _ _ _ => ⟨rfl, rfl⟩, fun _ hsome => hsome⟩

theorem Respects.trans {w w' w'' : World ρ} (h : Respects w w') (h' : Respects w' w'') :
    Respects w w'' := by
  refine ⟨h'.inv, fun path record hrecord hcompleted => ?_, fun path hsome => ?_⟩
  · obtain ⟨hcalls, hasked⟩ := h.completed path record hrecord hcompleted
    obtain ⟨hcalls', hasked'⟩ := h'.completed path record (hcalls.trans hrecord) hcompleted
    exact ⟨hcalls'.trans hcalls, hasked'.trans hasked⟩
  · exact h'.kept path (h.kept path hsome)

/-- How a call ends: what it pauses before has no file. -/
structure Ended (r : Except Failure ρ) (w : World ρ) : Prop where
  inv : Inv w
  paused : ∀ payload, r = .error (.operationalPause payload) → ∃ process dir,
    w.history.getLast? = some (.paused process (dir, payload.slotId)) ∧
      w.calls (dir, payload.slotId) = none

/-- A call that does not pause. -/
theorem Inv.ended {w : World ρ} (h : Inv w) {r : Except Failure ρ}
    (hr : ∀ payload, r ≠ .error (.operationalPause payload)) : Ended r w :=
  ⟨h, fun payload hpause => absurd hpause (hr payload)⟩

/-! ## Steps -/

section Steps

variable {env : Environment ρ} {w : World ρ} {path : Path} {key : CallKey}

/-- An entry that is no question to the provider. -/
theorem count_append {entry : Entry} {asked : Entry → Bool} (h : asked entry = false)
    (history : List Entry) : (history ++ [entry]).countP asked = history.countP asked := by
  rw [List.countP_append, List.countP_singleton, h]
  simp

/-- A file may be written where there is none, and over an intent. -/
theorem Inv.put (h : Inv w) {file : CallFile ρ} {n : Nat}
    (hpath : ∀ record, w.calls path = some (.record record) → ¬ record.Completed) :
    Respects w { w.put path file with writes := n } := by
  have hcalls : ∀ other, (w.calls other).isSome →
      ((w.put path file).calls other).isSome := by
    intro other hsome
    unfold World.put
    dsimp only
    split
    · rfl
    · exact hsome
  refine ⟨⟨h.once, fun other hasked => hcalls other (h.filed other hasked), h.budgeted, h.later,
    h.replays⟩, fun other record hrecord hcompleted => ?_, hcalls⟩
  by_cases hother : other = path
  · subst hother
    exact absurd hcompleted (hpath record hrecord)
  · refine ⟨?_, rfl⟩
    show (if other = path then some file else w.calls other) = w.calls other
    rw [if_neg hother]

/-- A write that fails. -/
theorem Inv.failed (h : Inv w) (n : Nat) : Respects w { w with writes := n } :=
  ⟨⟨h.once, h.filed, h.budgeted, h.later, h.replays⟩, fun _ _ _ _ => ⟨rfl, rfl⟩,
    fun _ hsome => hsome⟩

theorem Inv.countCall (h : Inv w) {budget : ModelCallBoundaryBudget}
    (hbudget : w.budget = some budget)
    (hleft : budget.newModelCalls < budget.maxNewModelCalls) : Respects w w.countCall := by
  refine ⟨⟨h.once, h.filed, fun counted hcounted => ?_, h.later, h.replays⟩,
    fun _ _ _ _ => ⟨rfl, rfl⟩, fun _ hsome => hsome⟩
  unfold World.countCall at hcounted
  dsimp only at hcounted
  rw [hbudget] at hcounted
  cases hcounted
  have hcalls := (h.budgeted budget hbudget).1
  exact ⟨Nat.le_succ_of_le hcalls, hleft⟩

/-- One more entry that is no question, and no replay of another request. -/
theorem Inv.append (h : Inv w) {entry : Entry} (hasks : ∀ other, entry.asks other = false)
    (hasked : ∀ process, entry.askedBy process = false)
    (hreplay : ∀ process other requested recorded,
      entry = .replayed process other requested recorded → recorded = some requested) :
    Inv { w with history := w.history ++ [entry] } := by
  refine ⟨fun other => ?_, fun other => ?_, fun budget hbudget => ?_, fun process hlater => ?_,
    fun process other requested recorded hmem => ?_⟩
  · have honce := h.once other
    unfold World.invocations at honce ⊢
    rwa [count_append (hasks other)]
  · have hfiled := h.filed other
    unfold World.invocations at hfiled ⊢
    rwa [count_append (hasks other)]
  · have hbudgeted := h.budgeted budget hbudget
    unfold World.callsBy at hbudgeted ⊢
    rwa [count_append (hasked _)]
  · have hnone := h.later process hlater
    unfold World.callsBy at hnone ⊢
    rwa [count_append (hasked _)]
  · rcases List.mem_append.mp hmem with hmem | hmem
    · exact h.replays process other requested recorded hmem
    · exact hreplay process other requested recorded (List.mem_singleton.mp hmem).symm

/-- **The question to the provider**: about a slot that has its intent, and that
nobody has asked about. -/
theorem Inv.invoked (h : Inv w) (hfile : (w.calls path).isSome) (hnew : w.invocations path = 0)
    (hopen : ∀ record, w.calls path = some (.record record) → ¬ record.Completed)
    (hbudget : ∀ budget, w.budget = some budget →
      w.callsBy w.process < budget.newModelCalls) :
    Respects w { w with history := w.history ++ [.invoked w.process path] } := by
  refine ⟨⟨fun other => ?_, fun other hasked => ?_, fun budget hsome => ?_,
    fun process hlater => ?_, fun process other requested recorded hmem => ?_⟩,
    fun other record hrecord hcompleted => ⟨rfl, ?_⟩, fun _ hsome => hsome⟩
  · have honce := h.once other
    unfold World.invocations at honce hnew ⊢
    rw [List.countP_append, List.countP_singleton]
    by_cases hother : path = other
    · subst hother
      rw [hnew]
      split <;> omega
    · have hnot : (Entry.invoked w.process path).asks other = false := decide_eq_false hother
      rw [hnot]
      simpa using honce
  · by_cases hother : path = other
    · exact hother ▸ hfile
    · refine h.filed other fun hnone => hasked ?_
      have hnot : (Entry.invoked w.process path).asks other = false := decide_eq_false hother
      unfold World.invocations at hnone ⊢
      rw [count_append hnot]
      exact hnone
  · have hlt := hbudget budget hsome
    refine ⟨?_, (h.budgeted budget hsome).2⟩
    unfold World.callsBy at hlt ⊢
    rw [List.countP_append, List.countP_singleton]
    dsimp only
    split <;> omega
  · have hnone := h.later process hlater
    have hnot : (Entry.invoked w.process path).askedBy process = false :=
      decide_eq_false (Nat.ne_of_lt hlater)
    unfold World.callsBy at hnone ⊢
    rw [count_append hnot]
    exact hnone
  · rcases List.mem_append.mp hmem with hmem | hmem
    · exact h.replays process other requested recorded hmem
    · cases List.mem_singleton.mp hmem
  · have hother : path ≠ other := by
      rintro rfl
      exact hopen record hrecord hcompleted
    exact count_append (decide_eq_false hother) w.history

theorem validateRecord_eq_ok {record : CallRecord ρ} (h : validateRecord record key = .ok ()) :
    record.requestFingerprint = some key.requestFingerprint := by
  unfold validateRecord at h
  split at h
  · cases h
  split at h
  · cases h
  split at h
  · cases h
  split at h
  · cases h
  next hsame => exact not_not.mp hsame

theorem validateRecord_eq_error {record : CallRecord ρ} {failure : Failure}
    (h : validateRecord record key = .error failure) :
    ∀ payload, failure ≠ .operationalPause payload := by
  rintro payload rfl
  unfold validateRecord at h
  repeat' split at h
  all_goals cases h

/-! ## One call -/

/-- A write goes through, or leaves nothing but its count. -/
theorem tryWrite_moves {written : World ρ} {answer : Except Failure Unit}
    {Q : Except Failure Unit → World ρ → Prop} {f : World ρ → World ρ × Except Failure Unit}
    (hf : f w = w.tryWrite env written answer)
    (hfailed : Respects w { w with writes := w.writes + 1 } →
      Q (.error .other) { w with writes := w.writes + 1 })
    (hwritten : Respects w { written with writes := w.writes + 1 } ∧
      Q answer { written with writes := w.writes + 1 }) (h : Inv w) :
    Moves Respects Q (Prog.tx f .done) w := by
  by_cases hdisk : env.disk w.writes = true
  · have hf' : f w = ({ written with writes := w.writes + 1 }, answer) := by
      rw [hf, World.tryWrite, if_pos hdisk]
    refine ⟨?_, ?_⟩
    · rw [hf']
      exact hwritten.1
    · rw [hf']
      exact hwritten.2
  · have hf' : f w = ({ w with writes := w.writes + 1 }, .error .other) := by
      rw [hf, World.tryWrite, if_neg hdisk]
    refine ⟨?_, ?_⟩
    · rw [hf']
      exact h.failed _
    · rw [hf']
      exact hfailed (h.failed _)

/-- A write over an intent, or where there is nothing. -/
theorem atomicWrite_moves {record : CallRecord ρ} (h : Inv w)
    (hpath : ∀ old, w.calls path = some (.record old) → ¬ old.Completed) :
    Moves Respects (fun r w' => Inv w' ∧ (r = .error .other ∨
        r = .ok () ∧ w' = { w.put path (.record record) with writes := w.writes + 1 }))
      (atomicWrite env path record) w := by
  have hput := @Inv.put ρ w path h (.record record) (w.writes + 1) hpath
  exact tryWrite_moves rfl (fun hfailed => ⟨hfailed.inv, Or.inl rfl⟩)
    ⟨hput, hput.inv, Or.inr ⟨rfl, rfl⟩⟩ h

theorem replay_moves {record : CallRecord ρ} (h : Inv w) :
    Moves Respects Ended (replay path key record) w := by
  have hreplayed : record.requestFingerprint = some key.requestFingerprint →
      ∀ budget, (∀ counted, budget = some counted →
        w.callsBy w.process ≤ counted.newModelCalls ∧
          counted.newModelCalls ≤ counted.maxNewModelCalls) →
      Respects w { w with
        budget := budget
        history := w.history ++
          [.replayed w.process path key.requestFingerprint record.requestFingerprint] } := by
    intro hsame budget hbudget
    have hcounted : Inv { w with budget := budget } :=
      ⟨h.once, h.filed, hbudget, h.later, h.replays⟩
    refine ⟨@Inv.append ρ { w with budget := budget } hcounted _ (fun _ => rfl) (fun _ => rfl) ?_,
      fun _ _ _ _ => ⟨rfl, count_append rfl w.history⟩, fun _ hsome => hsome⟩
    rintro process other requested recorded hentry
    cases hentry
    exact hsame
  have hbudget : ∀ counted, (w.budget.map fun budget =>
      { budget with replayedCompletedCalls := budget.replayedCompletedCalls + 1 }) =
        some counted → w.callsBy w.process ≤ counted.newModelCalls ∧
          counted.newModelCalls ≤ counted.maxNewModelCalls := by
    intro counted hcounted
    obtain ⟨budget, hsome, rfl⟩ := Option.map_eq_some_iff.mp hcounted
    exact h.budgeted budget hsome
  unfold replay
  cases hvalid : validateRecord record key with
  | error failure =>
    exact h.ended fun payload hpause => validateRecord_eq_error hvalid payload
      (Except.error.inj hpause)
  | ok _ =>
    have hstep := hreplayed (validateRecord_eq_ok hvalid) _ hbudget
    have hresult : ∀ payload, record.result.mapError Failure.benchmarkError ≠
        .error (.operationalPause payload) := by
      intro payload
      cases record.result with
      | error message => exact fun hpause => by cases hpause
      | ok result => exact fun hpause => by cases hpause
    cases hstatus : record.status with
    | completed => exact ⟨hstep, hstep.inv.ended hresult⟩
    | completedSuccess => exact ⟨hstep, hstep.inv.ended hresult⟩
    | completedError =>
      refine ⟨hstep, ?_⟩
      cases herror : record.error with
      | ok error => exact hstep.inv.ended fun payload hpause => by cases hpause
      | error message => exact hstep.inv.ended fun payload hpause => by cases hpause
    | intent => exact h.ended fun payload hpause => by cases hpause
    | other => exact h.ended fun payload hpause => by cases hpause

theorem replaceIntent_moves {record : CallRecord ρ} {overwrites : String}
    {answer : Except Failure ρ} (h : Inv w)
    (hanswer : ∀ payload, answer ≠ .error (.operationalPause payload)) :
    Moves Respects Ended (replaceIntent env path key record overwrites answer) w := by
  refine ⟨h.respects, ?_⟩
  dsimp only
  cases hfile : w.calls path with
  | none => exact h.ended fun payload hpause => by cases hpause
  | some file =>
    cases file with
    | corrupt => exact h.ended fun payload hpause => by cases hpause
    | record existing =>
      show Moves Respects Ended (if existing.status ≠ .intent then _ else _) w
      by_cases hintent : existing.status ≠ .intent
      · rw [if_pos hintent]
        exact h.ended fun payload hpause => by cases hpause
      rw [if_neg hintent]
      have hnot : ∀ old, w.calls path = some (.record old) → ¬ old.Completed := by
        intro old hold hcompleted
        rw [hfile] at hold
        cases hold
        rw [CallRecord.Completed, not_not.mp hintent] at hcompleted
        simp at hcompleted
      cases hvalid : validateRecord existing key with
      | error failure =>
        exact h.ended fun payload hpause => validateRecord_eq_error hvalid payload
          (Except.error.inj hpause)
      | ok _ =>
        refine (atomicWrite_moves h hnot).seq fun r w' hr => ?_
        obtain ⟨hinv, rfl | ⟨rfl, -⟩⟩ := hr
        · exact hinv.ended fun payload hpause => by cases hpause
        · exact hinv.ended hanswer

theorem settle_moves {answer : Answer ρ} (h : Inv w) :
    Moves Respects Ended (settle env path key answer) w := by
  cases answer with
  | raised => exact h.ended fun payload hpause => by cases hpause
  | modelPortError error =>
    rw [settle]
    cases allowlistedErrorCode error with
    | none => exact h.ended fun payload hpause => by cases hpause
    | some code => exact replaceIntent_moves h fun payload hpause => by cases hpause
  | returned result => exact replaceIntent_moves h fun payload hpause => by cases hpause

/-- The intent goes before the question, so nobody asks again. -/
theorem callOnce_moves {request : ModelCallRequest} (h : Inv w) (hfile : w.calls path = none)
    (hbudget : ∀ budget, w.budget = some budget → w.callsBy w.process < budget.newModelCalls) :
    Moves Respects Ended (callOnce env path key request) w := by
  have hnew : w.invocations path = 0 := by
    by_contra hasked
    have hsome := h.filed path hasked
    rw [hfile] at hsome
    cases hsome
  refine (atomicWrite_moves h fun old hold => ?_).seq fun r w' hr => ?_
  · rw [hfile] at hold
    cases hold
  obtain ⟨hinv, rfl | ⟨rfl, rfl⟩⟩ := hr
  · exact hinv.ended fun payload hpause => by cases hpause
  -- the intent is the file now
  have hwritten : (w.put path (.record (key.record .intent
      (.error "checkpoint completed record is missing result")
      (.error "checkpoint completed error record is missing error")))).calls path =
        some (.record (key.record .intent
          (.error "checkpoint completed record is missing result")
          (.error "checkpoint completed error record is missing error"))) := if_pos rfl
  have hasked := hinv.invoked (hwritten ▸ rfl) hnew (fun old hold hcompleted => by
    have hsame := hwritten.symm.trans hold
    cases hsame
    simp [CallRecord.Completed, CallKey.record] at hcompleted) hbudget
  exact ⟨hasked, settle_moves hasked.inv⟩

theorem newCall_moves {plan : PlanCheckpoint} {request : ModelCallRequest} (h : Inv w)
    (hslot : path = slotPath plan key) (hfile : w.calls path = none) :
    Moves Respects Ended (newCall env plan path key request) w := by
  refine ⟨h.respects, ?_⟩
  dsimp only
  cases hbudget : w.budget with
  | none =>
    refine callOnce_moves h hfile fun budget hsome => ?_
    rw [hbudget] at hsome
    cases hsome
  | some budget =>
    show Moves Respects Ended ((if !plan.hasPausePath then _ else _) >>= _) w
    by_cases hpath : (!plan.hasPausePath) = true
    · rw [if_pos hpath]
      exact h.ended fun payload hpause => by cases hpause
    rw [if_neg hpath]
    by_cases hleft : budget.newModelCalls < budget.maxNewModelCalls
    · rw [if_pos hleft]
      have hcounted := h.countCall hbudget hleft
      refine ⟨hcounted, callOnce_moves hcounted.inv hfile fun counted hsome => ?_⟩
      unfold World.countCall at hsome
      dsimp only at hsome
      rw [hbudget] at hsome
      cases hsome
      exact Nat.lt_succ_of_le (h.budgeted budget hbudget).1
    · -- the pause comes before the intent
      rw [if_neg hleft]
      have happended : Inv { w with history := w.history ++ [.paused w.process path] } :=
        h.append (fun _ => rfl) (fun _ => rfl) fun _ _ _ _ hentry => by cases hentry
      have hpaused : Inv { w with
          pauseFile := some (⟨budget.maxNewModelCalls, budget.newModelCalls,
            budget.replayedCompletedCalls, key.slot, key.slotId, key.callIdentity,
            key.requestFingerprint⟩ : PausePayload)
          writes := w.writes + 1
          history := w.history ++ [.paused w.process path] } :=
        ⟨happended.once, happended.filed, happended.budgeted, happended.later, happended.replays⟩
      refine Moves.bind (tryWrite_moves rfl (fun hfailed => ?_)
        ⟨⟨hpaused, fun _ _ _ _ => ⟨rfl, count_append rfl w.history⟩, fun _ hsome => hsome⟩,
          ?_⟩ h)
      · exact hfailed.inv.ended fun payload hpause => by cases hpause
      · refine ⟨hpaused, fun payload hpause => ?_⟩
        cases hpause
        subst hslot
        exact ⟨w.process, plan.planDir, List.getLast?_concat, hfile⟩

/-- **One call**, wherever it may be stopped. -/
theorem completeOrCall_moves {plan : PlanCheckpoint} {request : ModelCallRequest}
    {scenarioIdentity : Text} {runIndex : Int} (h : Inv w) :
    Moves Respects Ended (completeOrCall env plan request scenarioIdentity runIndex) w := by
  refine ⟨h.respects, ?_⟩
  generalize hkey : callKey env plan request scenarioIdentity runIndex = key
  dsimp only
  cases hfile : w.calls (slotPath plan key) with
  | none => exact newCall_moves h rfl hfile
  | some file =>
    refine ⟨h.respects, ?_⟩
    dsimp only
    rw [hfile]
    cases file with
    | corrupt => exact h.ended fun payload hpause => by cases hpause
    | record record => exact replay_moves h

end Steps

/-! ## What a call is about -/

/-- What a transaction of a call for the slot at `own` leaves alone: the number
and the limit of the process, what others have asked, and the other slots. -/
structure Touches (own : Path) (w w' : World ρ) : Prop where
  process : w'.process = w.process
  limit : w'.budget.map (·.maxNewModelCalls) = w.budget.map (·.maxNewModelCalls)
  others : ∀ process, process ≠ w.process → w'.callsBy process = w.callsBy process
  elsewhere : ∀ path, path ≠ own → w'.calls path = w.calls path ∧
    w'.invocations path = w.invocations path

/-- The same of a transaction that asks nobody and writes no file of a call. -/
structure Silent (w w' : World ρ) : Prop where
  process : w'.process = w.process
  limit : w'.budget.map (·.maxNewModelCalls) = w.budget.map (·.maxNewModelCalls)
  asked : ∀ process, w'.callsBy process = w.callsBy process
  calls : w'.calls = w.calls
  invocations : ∀ path, w'.invocations path = w.invocations path

theorem Silent.touches {w w' : World ρ} (h : Silent w w') (own : Path) : Touches own w w' :=
  ⟨h.process, h.limit, fun process _ => h.asked process,
    fun path _ => ⟨congrFun h.calls path, h.invocations path⟩⟩

theorem Silent.refl (w : World ρ) : Silent w w :=
  ⟨rfl, rfl, fun _ => rfl, rfl, fun _ => rfl⟩

section About

variable {env : Environment ρ} {path : Path} {key : CallKey}

theorem keeps_readJson : Keeps Silent (readJson (ρ := ρ) path) := keeps_read .refl

theorem keeps_recordReplay {record : CallRecord ρ} :
    Keeps Silent (recordReplay path key record) := by
  refine keeps_write fun w => ⟨rfl, ?_, fun process => ?_, rfl, fun other => ?_⟩
  · cases w.budget <;> rfl
  · exact count_append rfl w.history
  · exact count_append rfl w.history

theorem keeps_replay {record : CallRecord ρ} : Keeps Silent (replay path key record) := by
  unfold replay
  split
  · exact keeps_pure
  split
  · exact keeps_recordReplay.bind fun _ => keeps_pure
  · exact keeps_recordReplay.bind fun _ => keeps_pure
  · refine keeps_recordReplay.bind fun _ => ?_
    split
    · exact keeps_pure
    · exact keeps_pure
  · exact keeps_pure
  · exact keeps_pure

theorem keeps_atomicWrite {record : CallRecord ρ} :
    Keeps (Touches path) (atomicWrite env path record) := by
  refine keeps_tx fun w => ?_
  unfold World.tryWrite
  split
  · refine ⟨rfl, rfl, fun _ _ => rfl, fun other hother => ⟨?_, rfl⟩⟩
    show (if other = path then _ else w.calls other) = w.calls other
    rw [if_neg hother]
  · exact ⟨rfl, rfl, fun _ _ => rfl, fun _ _ => ⟨rfl, rfl⟩⟩

theorem keeps_writePause {payload : PausePayload} :
    Keeps (Silent (ρ := ρ)) (writePause env path payload) := by
  refine keeps_tx fun w => ?_
  unfold World.tryWrite
  split
  · exact ⟨rfl, rfl, fun _ => count_append rfl w.history, rfl, fun _ => count_append rfl w.history⟩
  · exact ⟨rfl, rfl, fun _ => rfl, rfl, fun _ => rfl⟩

theorem keeps_invoke {request : ModelCallRequest} :
    Keeps (Touches path) (invoke env path request) := by
  refine keeps_tx fun w => ⟨rfl, rfl, fun process hprocess => ?_, fun other hother => ⟨rfl, ?_⟩⟩
  · exact count_append (decide_eq_false (Ne.symm hprocess)) w.history
  · exact count_append (decide_eq_false (Ne.symm hother)) w.history

theorem keeps_replaceIntent {record : CallRecord ρ} {overwrites : String}
    {answer : Except Failure ρ} :
    Keeps (Touches path) (replaceIntent env path key record overwrites answer) := by
  refine (keeps_readJson.mono fun _ _ h => h.touches path).bind fun file => ?_
  split
  · exact keeps_pure
  split
  · exact keeps_pure
  split
  · exact keeps_pure
  · refine keeps_atomicWrite.bind fun written => ?_
    split
    · exact keeps_pure
    · exact keeps_pure

theorem keeps_callOnce {request : ModelCallRequest} :
    Keeps (Touches path) (callOnce env path key request) := by
  refine keeps_atomicWrite.bind fun written => ?_
  split
  · exact keeps_pure
  refine keeps_invoke.bind fun answer => ?_
  unfold settle
  split
  · exact keeps_pure
  · split
    · exact keeps_pure
    · exact keeps_replaceIntent
  · exact keeps_replaceIntent

theorem keeps_reserveOrPause {plan : PlanCheckpoint} :
    Keeps (Silent (ρ := ρ)) (reserveOrPause env plan path key) := by
  refine (keeps_read .refl).bind fun budget => ?_
  split
  · exact keeps_pure
  split
  · exact keeps_pure
  split
  · refine (keeps_write fun w => ⟨rfl, ?_, fun _ => rfl, rfl, fun _ => rfl⟩).bind fun _ =>
      keeps_pure
    unfold World.countCall
    cases w.budget <;> rfl
  · exact keeps_writePause

theorem keeps_newCall {plan : PlanCheckpoint} {request : ModelCallRequest} :
    Keeps (Touches path) (newCall env plan path key request) := by
  refine (keeps_reserveOrPause.mono fun _ _ h => h.touches path).bind fun reserved => ?_
  split
  · exact keeps_pure
  · exact keeps_callOnce

/-- **A call is about one slot**, and says nothing new about it if there is a file. -/
theorem completeOrCall_touches {plan : PlanCheckpoint} {request : ModelCallRequest}
    {scenarioIdentity : Text} {runIndex : Int} (w : World ρ) :
    Moves (fun w w' => ∃ own, Touches own w w') (fun _ _ => True)
      (completeOrCall env plan request scenarioIdentity runIndex) w := by
  refine ⟨⟨([], []), (Silent.refl w).touches _⟩, ?_⟩
  generalize callKey env plan request scenarioIdentity runIndex = key
  show Moves _ _ (if (w.calls (slotPath plan key)).isSome = true then _ else _) w
  split
  · refine (((keeps_readJson.bind fun file => ?_).mono fun _ _ h => ?_).moves w)
    · split
      · exact keeps_pure
      · exact keeps_replay
    · exact ⟨([], []), Silent.touches h _⟩
  · exact (keeps_newCall.mono fun _ _ h => ⟨_, h⟩).moves w

/-- A slot with a file is not asked about. -/
theorem completeOrCall_filed {plan : PlanCheckpoint} {request : ModelCallRequest}
    {scenarioIdentity : Text} {runIndex : Int} {filed : Path} {w : World ρ}
    (hfiled : (w.calls filed).isSome) :
    Moves (fun w w' => w'.calls filed = w.calls filed ∧
        w'.invocations filed = w.invocations filed) (fun _ _ => True)
      (completeOrCall env plan request scenarioIdentity runIndex) w := by
  refine ⟨⟨rfl, rfl⟩, ?_⟩
  generalize callKey env plan request scenarioIdentity runIndex = key
  show Moves _ _ (if (w.calls (slotPath plan key)).isSome = true then _ else _) w
  by_cases hown : (w.calls (slotPath plan key)).isSome = true
  · rw [if_pos hown]
    refine (((keeps_readJson.bind fun file => ?_).mono fun _ _ h => ?_).moves w)
    · split
      · exact keeps_pure
      · exact keeps_replay
    · exact ⟨congrFun (Silent.calls h) filed, Silent.invocations h filed⟩
  · rw [if_neg hown]
    have hne : filed ≠ slotPath plan key := fun heq => hown (heq ▸ hfiled)
    exact (keeps_newCall.mono fun _ _ h => h.elsewhere filed hne).moves w

end About

/-! ## Processes -/

/-- The limits of the processes that have been started. -/
def limits (es : List Label) : List (Option {n : Nat // 0 < n}) :=
  es.filterMap fun
    | .start limit => some limit
    | .call | .advance | .finish | .stop => none

/-- What holds of the world, and of what the process has still to do. -/
structure System.Safe (s : System ρ) : Prop where
  inv : Inv s.world
  running : ∀ p, s.running = some p → Moves Respects Ended p s.world

section Runs

variable {env : Environment ρ} {s t : System ρ} {e : Label} {es : List Label}

/-- A new process has asked nobody. -/
theorem Inv.start {w : World ρ} (h : Inv w) (limit : Option {n : Nat // 0 < n}) :
    Inv { w with process := w.process + 1, budget := freshBudget limit } := by
  refine ⟨h.once, h.filed, fun budget hbudget => ?_, fun process hlater => ?_, h.replays⟩
  · obtain ⟨n, -, rfl⟩ := Option.map_eq_some_iff.mp hbudget
    exact ⟨(h.later _ (Nat.lt_succ_self _)).le, Nat.zero_le _⟩
  · exact h.later process (Nat.lt_of_succ_lt hlater)

theorem System.Safe.step (hs : s.Safe) (h : Step env s e t) :
    t.Safe ∧ Respects s.world t.world := by
  cases h with
  | start limit =>
    have hstarted := hs.inv.start limit
    exact ⟨⟨hstarted, fun p hp => by cases hp⟩, hstarted, fun _ _ _ _ => ⟨rfl, rfl⟩,
      fun _ hsome => hsome⟩
  | call plan request scenarioIdentity runIndex =>
    exact ⟨⟨hs.inv, fun p hp => Option.some.inj hp ▸ completeOrCall_moves hs.inv⟩,
      hs.inv.respects⟩
  | @advance w p =>
    obtain ⟨hmove, hrest⟩ := (hs.running p rfl).advance hs.inv.respects
    exact ⟨⟨hmove.inv, fun q hq => Option.some.inj hq ▸ hrest⟩, hmove⟩
  | finish r => exact ⟨⟨hs.inv, fun p hp => by cases hp⟩, hs.inv.respects⟩
  | stop => exact ⟨⟨hs.inv, fun p hp => by cases hp⟩, hs.inv.respects⟩

theorem initial_safe (calls : Path → Option (CallFile ρ)) (pauseFile : Option PausePayload) :
    (initial calls pauseFile).Safe := by
  refine ⟨⟨fun _ => Nat.zero_le _, fun _ hasked => absurd rfl hasked, fun budget hbudget => ?_,
    fun _ _ => rfl, fun _ _ _ _ hmem => ?_⟩, fun p hp => ?_⟩
  · cases hbudget
  · cases hmem
  · cases hp

theorem run_safe (h : Run (Step env) s es t) (hs : s.Safe) : t.Safe :=
  h.invariant (I := System.Safe) (fun _ _ _ hstep hsafe => (hsafe.step hstep).1) hs

theorem run_respects (h : Run (Step env) s es t) (hs : s.Safe) : Respects s.world t.world := by
  refine h.relation (I := System.Safe)
    (R := fun a b => Inv a.world → Respects a.world b.world) (fun _ hinv => hinv.respects)
    (fun hab hbc hinv => (hab hinv).trans (hbc (hab hinv).inv))
    (fun _ _ _ hstep hsafe => (hsafe.step hstep).1)
    (fun _ _ _ hstep hsafe _ => (hsafe.step hstep).2) hs hs.inv

/-- A slot that is not being asked about, and what its file and its count of
questions are. -/
structure System.Rests (filed : Path) (file : Option (CallFile ρ)) (n : Nat) (s : System ρ) :
    Prop where
  calls : s.world.calls filed = file
  invocations : s.world.invocations filed = n
  running : ∀ p, s.running = some p →
    Moves (fun w w' => w'.calls filed = w.calls filed ∧
      w'.invocations filed = w.invocations filed) (fun _ _ => True) p s.world

theorem System.Rests.step {filed : Path} {file : Option (CallFile ρ)} {n : Nat}
    (hfile : file.isSome) (hs : s.Rests filed file n) (h : Step env s e t) :
    t.Rests filed file n := by
  cases h with
  | start limit => exact ⟨hs.calls, hs.invocations, fun p hp => by cases hp⟩
  | call plan request scenarioIdentity runIndex =>
    refine ⟨hs.calls, hs.invocations, fun p hp => ?_⟩
    exact Option.some.inj hp ▸ completeOrCall_filed (hs.calls ▸ hfile)
  | @advance w p =>
    obtain ⟨⟨hcalls, hasked⟩, hrest⟩ := (hs.running p rfl).advance ⟨rfl, rfl⟩
    exact ⟨hcalls.trans hs.calls, hasked.trans hs.invocations,
      fun q hq => Option.some.inj hq ▸ hrest⟩
  | finish r => exact ⟨hs.calls, hs.invocations, fun p hp => by cases hp⟩
  | stop => exact ⟨hs.calls, hs.invocations, fun p hp => by cases hp⟩

/-- Between two calls, a slot with a file is a slot that nobody asks about again. -/
theorem run_rests {filed : Path} (h : Run (Step env) s es t) (hidle : s.running = none)
    (hfiled : (s.world.calls filed).isSome) :
    t.world.calls filed = s.world.calls filed ∧
      t.world.invocations filed = s.world.invocations filed := by
  have hrests := h.invariant
    (I := System.Rests filed (s.world.calls filed) (s.world.invocations filed))
    (fun _ _ _ hstep hrests => hrests.step hfiled hstep)
    ⟨rfl, rfl, fun p hp => by rw [hidle] at hp; cases hp⟩
  exact ⟨hrests.calls, hrests.invocations⟩

/-- What the processes that have been started have to do with the world. -/
structure System.Limited (limits : List (Option {n : Nat // 0 < n})) (s : System ρ) : Prop where
  process : s.world.process = limits.length
  running : ∀ p, s.running = some p →
    Moves (fun w w' => ∃ own, Touches own w w') (fun _ _ => True) p s.world
  current : ∀ limit, limits.getLast? = some (some limit) →
    s.world.budget.map (·.maxNewModelCalls) = some limit.val
  bound : ∀ n limit, limits[n]? = some (some limit) → s.world.callsBy (n + 1) ≤ limit.val

/-- What a process has asked is what its budget has counted. -/
theorem System.Limited.step {started : List (Option {n : Nat // 0 < n})} (hsafe : s.Safe)
    (hs : s.Limited started) (h : Step env s e t) : t.Limited (started ++ limits [e]) := by
  have hsame : limits [e] = [] → started ++ limits [e] = started := fun hnone => by
    rw [hnone, List.append_nil]
  cases h with
  | @start w limit =>
    refine ⟨?_, fun p hp => (Option.some_ne_none p hp.symm).elim, fun n hn => ?_,
      fun n bound hn => ?_⟩
    · rw [List.length_append]
      exact congrArg Nat.succ hs.process
    · rw [show limits [Label.start limit] = [limit] from rfl, List.getLast?_concat] at hn
      rw [Option.some.inj hn]
      rfl
    · by_cases hlt : n < started.length
      · rw [List.getElem?_append_left hlt] at hn
        exact hs.bound n bound hn
      · -- the new process
        have hprocess := hs.process
        refine (hsafe.inv.later (n + 1) ?_).trans_le (Nat.zero_le _)
        dsimp only at hprocess ⊢
        omega
  | call plan request scenarioIdentity runIndex =>
    rw [hsame rfl]
    exact ⟨hs.process, fun p hp => Option.some.inj hp ▸ completeOrCall_touches _, hs.current,
      hs.bound⟩
  | @advance w p =>
    rw [hsame rfl]
    obtain ⟨⟨own, htouches⟩, hrest⟩ :=
      (hs.running p rfl).advance ⟨([], []), (Silent.refl w).touches _⟩
    have hinv := ((hsafe.running p rfl).advance hsafe.inv.respects).1.inv
    have hcurrent : ∀ limit, started.getLast? = some (some limit) →
        (p.advance w).1.budget.map (·.maxNewModelCalls) = some limit.val :=
      fun limit hlast => htouches.limit.trans (hs.current limit hlast)
    refine ⟨htouches.process.trans hs.process, fun q hq => Option.some.inj hq ▸ hrest, hcurrent,
      fun n limit hn => ?_⟩
    by_cases hown : n + 1 = w.process
    · have hlast : started.getLast? = some (some limit) := by
        have hlength : w.process = started.length := hs.process
        rw [List.getLast?_eq_getElem?, show started.length - 1 = n by omega, hn]
      obtain ⟨budget, hbudget, hmax⟩ := Option.map_eq_some_iff.mp (hcurrent limit hlast)
      obtain ⟨hcalls, hcount⟩ := hinv.budgeted budget hbudget
      rw [htouches.process, ← hown] at hcalls
      exact hcalls.trans (hcount.trans hmax.le)
    · exact (htouches.others (n + 1) hown).trans_le (hs.bound n limit hn)
  | finish r =>
    rw [hsame rfl]
    exact ⟨hs.process, fun p hp => (Option.some_ne_none p hp.symm).elim, hs.current, hs.bound⟩
  | stop =>
    rw [hsame rfl]
    exact ⟨hs.process, fun p hp => (Option.some_ne_none p hp.symm).elim, hs.current, hs.bound⟩

theorem run_limited {calls : Path → Option (CallFile ρ)} {pauseFile : Option PausePayload}
    (h : Run (Step env) (initial calls pauseFile) es s) : s.Limited (limits es) := by
  induction h with
  | nil =>
    refine ⟨rfl, fun p hp => ?_, fun limit hlast => ?_, fun n limit hn => ?_⟩
    · cases hp
    · cases hlast
    · cases hn
  | @snoc s t es e hrun hstep ih =>
    have hsplit : limits (es ++ [e]) = limits es ++ limits [e] := List.filterMap_append
    rw [hsplit]
    exact ih.step (run_safe hrun (initial_safe calls pauseFile)) hstep

end Runs

/-- **The journal asks at most once**: whatever processes have worked on the
directory, and wherever they were stopped. -/
theorem journal_asks_once {env : Environment ρ} {calls : Path → Option (CallFile ρ)}
    {pauseFile : Option PausePayload} {es : List Label} {s : System ρ}
    (h : Run (Step env) (initial calls pauseFile) es s) :
    (∀ path, s.world.invocations path ≤ 1) ∧
    (∀ es' t, Run (Step env) s es' t → ∀ path record,
      s.world.calls path = some (.record record) → record.Completed →
        t.world.calls path = some (.record record) ∧
          t.world.invocations path = s.world.invocations path) ∧
    (∀ process path requested recorded,
      .replayed process path requested recorded ∈ s.world.history →
        recorded = some requested) ∧
    (∀ es' t, Run (Step env) s es' t → s.running = none → ∀ path,
      (s.world.calls path).isSome → t.world.calls path = s.world.calls path ∧
        t.world.invocations path = s.world.invocations path) ∧
    (∀ payload, s.running = some (.done (.error (.operationalPause payload))) →
      ∃ process dir, s.world.history.getLast? = some (.paused process (dir, payload.slotId)) ∧
        s.world.calls (dir, payload.slotId) = none) ∧
    (∀ n limit, (limits es)[n]? = some (some limit) →
      s.world.callsBy (n + 1) ≤ limit.val) := by
  have hsafe := run_safe h (initial_safe calls pauseFile)
  refine ⟨hsafe.inv.once, fun es' t hrun path record hrecord hcompleted => ?_,
    hsafe.inv.replays, fun es' t hrun hidle path hfiled => run_rests hrun hidle hfiled,
    fun payload hpause => ?_, (run_limited h).bound⟩
  · obtain ⟨hcalls, hasked⟩ := (run_respects hrun hsafe).completed path record hrecord hcompleted
    exact ⟨hcalls.trans hrecord, hasked⟩
  · exact (hsafe.running _ hpause).paused payload rfl

/-! ## A process that is stopped -/

/-- The digests of the one call below, as `_sha256` has them, with a provider that
answers and a disk that does not fail. -/
def quietLab : Environment Unit where
  sha256
    | .object [_, _, _, _] =>
      "710c0676273a06eadf75ce016325a15e7be87113edad101b34bb808a9646ec94".toList
    | .object [_, _, _, _, _] =>
      "ded60709ee906c3df4c598742b8801676a0cdb6cbb830eda6550f59b7aa5e202".toList
    | _ => "5707161c19c33056ea5ebc315bb3f7b1cbbc32a447e28354efc11dfde63c724b".toList
  provider _ _ := .returned ()
  disk _ := true
  stored := .ok

def firstRequest : ModelCallRequest where
  role := "GENERATOR".toList
  correlationId := "c".toList
  contextFingerprint := "f".toList
  instructions := "i".toList
  payload := []
  modelIdHint := none
  timeoutMs := none

def onePlan : PlanCheckpoint := ⟨"plan".toList, "plan".toList, true⟩

def firstKey : CallKey := callKey quietLab onePlan firstRequest "login".toList 0

/-- The provider was asked, and then the process was stopped. -/
def stoppedAfterAsking : System Unit where
  world :=
    { calls := fun path => if path = slotPath onePlan firstKey then
        some (.record (firstKey.record .intent
          (.error "checkpoint completed record is missing result")
          (.error "checkpoint completed error record is missing error"))) else none
      pauseFile := none
      process := 1
      budget := some ⟨1, 1, 0, Nat.one_pos⟩
      writes := 1
      history := [.invoked 1 (slotPath onePlan firstKey)] }
  alive := false
  running := none

theorem run_stoppedAfterAsking :
    Run (Step quietLab) (initial (fun _ => none) none)
      [.start (some ⟨1, Nat.one_pos⟩), .call, .advance, .advance, .advance, .advance, .advance,
        .stop] stoppedAfterAsking := by
  have hcalled := ((Run.nil (initial (fun _ => none) none)).snoc (@Step.start _ quietLab _
    (some ⟨1, Nat.one_pos⟩))).snoc (.call onePlan firstRequest "login".toList 0)
  -- is there a file, the budget, its count, the intent, the question
  have hasked := ((((hcalled.snoc .advance).snoc .advance).snoc .advance).snoc .advance).snoc
    .advance
  exact hasked.snoc .stop

theorem journal_asks_once_stopped :
    stoppedAfterAsking.world.invocations (slotPath onePlan firstKey) ≤ 1 ∧
      stoppedAfterAsking.world.callsBy 1 ≤ 1 := by
  obtain ⟨honce, -, -, -, -, hlimit⟩ := journal_asks_once run_stoppedAfterAsking
  exact ⟨honce _, hlimit 0 ⟨1, Nat.one_pos⟩ rfl⟩

end Zest.Benchmark
