import Zest.CandidateLifecycle
import Zest.TransitionSystem

/-! # A candidate that several use cases work on

Starting and completing a verification read the candidate, decide in memory
whether the step is legal, and write the new state by an `UPDATE` that names the
candidate and nothing else.  Units of work run side by side under the
read-committed isolation of the engine: a statement sees what was committed
before it, and an `UPDATE` or an `INSERT` under a unique key waits for whoever
holds the row or the key.

So a state that was legal for what was read is written over whatever is there
by then.  `candidate_lifecycle` says that nothing else goes wrong, and that in
any case a candidate is never seen as validated without the verification that
says so.
-/
namespace Zest

open TransitionSystem

/-- How far a use case has come.  All but the first and the last are inside its
unit of work. -/
inductive CandidatePhase where
  | idle
  /-- `StartCandidateVerification` has read the candidate in this state. -/
  | starting (current : CandidateState)
  /-- It has written `VERIFYING`, and holds the row. -/
  | started
  /-- `CompleteCandidateVerification` has read the candidate in this state. -/
  | completing (current : CandidateState)
  /-- It has found no verification, and has a verdict. -/
  | decided (current : CandidateState) (outcome : VerificationOutcome)
  /-- It has inserted the verification, and holds its key. -/
  | recorded (current : CandidateState) (outcome : VerificationOutcome)
  /-- It has written the state of the verdict, and holds the row as well. -/
  | concluded (outcome : VerificationOutcome)
  /-- Has returned, raised or crashed. -/
  | done
  deriving DecidableEq, Repr

structure CandidateSystem (ι : Type) where
  /-- The committed states of the candidate, the present one first. -/
  states : List CandidateState
  /-- The outcomes of its committed verifications. -/
  verifications : List VerificationOutcome
  phase : ι → CandidatePhase
  /-- Who holds the row of the candidate. -/
  rowLock : Option ι
  /-- Who holds the entry of `uq_verification_candidate`. -/
  keyLock : Option ι

inductive CandidateEvent (ι : Type) where
  | selectStart (p : ι)
  | setVerifying (p : ι)
  | commitStart (p : ι)
  | selectComplete (p : ι)
  | listVerifications (p : ι)
  | insertVerification (p : ι)
  | setVerdict (p : ι)
  | commitComplete (p : ι)
  | readOnly (p : ι)
  | crash (p : ι)

variable {ι : Type} [DecidableEq ι]

namespace CandidateSystem

/-- The use case moves on. -/
def goto (s : CandidateSystem ι) (p : ι) (phase : CandidatePhase) : CandidateSystem ι :=
  { s with phase := fun q => if q = p then phase else s.phase q }

/-- What the use case holds is let go. -/
def unlock (s : CandidateSystem ι) (p : ι) : CandidateSystem ι :=
  { s with
    rowLock := if s.rowLock = some p then none else s.rowLock
    keyLock := if s.keyLock = some p then none else s.keyLock }

end CandidateSystem

/-- Where `StartCandidateVerification` goes from what it reads: a candidate that
is being verified needs nothing, and from an illegal state it raises. -/
def afterStartRead (current : CandidateState) : CandidatePhase :=
  if current = .verifying then .done
  else match startCandidateVerification current with
    | .ok _ => .starting current
    | .error _ => .done

/-- Where `CompleteCandidateVerification` goes with its verdict. -/
def afterVerdict (current : CandidateState) (outcome : VerificationOutcome) : CandidatePhase :=
  match transitionCandidate current outcome.proposedState with
  | .ok _ => .decided current outcome
  | .error _ => .done

/-- One statement of one use case, its commit, or its end. -/
inductive CandidateStep (s : CandidateSystem ι) : CandidateEvent ι → CandidateSystem ι → Prop where
  | selectStart {p : ι} {current : CandidateState} {earlier : List CandidateState}
      (h : s.phase p = .idle) (hread : s.states = current :: earlier) :
      CandidateStep s (.selectStart p) (s.goto p (afterStartRead current))
  | setVerifying {p : ι} {current : CandidateState} (h : s.phase p = .starting current)
      (hfree : s.rowLock = none) :
      CandidateStep s (.setVerifying p) (({ s with rowLock := some p }).goto p .started)
  | commitStart {p : ι} (h : s.phase p = .started) :
      CandidateStep s (.commitStart p)
        ((({ s with states := .verifying :: s.states }).unlock p).goto p .done)
  | selectComplete {p : ι} {current : CandidateState} {earlier : List CandidateState}
      (h : s.phase p = .idle) (hread : s.states = current :: earlier) :
      CandidateStep s (.selectComplete p) (s.goto p (.completing current))
  /-- There is a verification already. -/
  | found {p : ι} {current : CandidateState} (h : s.phase p = .completing current)
      (hsome : s.verifications ≠ []) :
      CandidateStep s (.listVerifications p) (s.goto p .done)
  /-- The verifier has looked at the evidence; its verdict may be any. -/
  | verdict {p : ι} {current : CandidateState} {outcome : VerificationOutcome}
      (h : s.phase p = .completing current) (hnone : s.verifications = []) :
      CandidateStep s (.listVerifications p) (s.goto p (afterVerdict current outcome))
  | insertVerification {p : ι} {current : CandidateState} {outcome : VerificationOutcome}
      (h : s.phase p = .decided current outcome) (hfree : s.keyLock = none)
      (hnone : s.verifications = []) :
      CandidateStep s (.insertVerification p)
        (({ s with keyLock := some p }).goto p (.recorded current outcome))
  /-- The unique key is taken: the unit of work is rolled back. -/
  | conflict {p : ι} {current : CandidateState} {outcome : VerificationOutcome}
      (h : s.phase p = .decided current outcome) (hfree : s.keyLock = none)
      (hsome : s.verifications ≠ []) :
      CandidateStep s (.insertVerification p) (s.goto p .done)
  | setVerdict {p : ι} {current : CandidateState} {outcome : VerificationOutcome}
      (h : s.phase p = .recorded current outcome) (hfree : s.rowLock = none) :
      CandidateStep s (.setVerdict p) (({ s with rowLock := some p }).goto p (.concluded outcome))
  | commitComplete {p : ι} {outcome : VerificationOutcome} (h : s.phase p = .concluded outcome) :
      CandidateStep s (.commitComplete p)
        ((({ s with
            states := outcome.proposedState :: s.states
            verifications := s.verifications ++ [outcome] }).unlock p).goto p .done)
  /-- Submitting or finalizing a finding and reviewing it only read the
  candidate. -/
  | readOnly {p : ι} (h : s.phase p = .idle) : CandidateStep s (.readOnly p) (s.goto p .done)
  | crash {p : ι} : CandidateStep s (.crash p) ((s.unlock p).goto p .done)

/-- Where the state of a candidate is written, it is still the one that was
read. -/
def StillAsRead (s : CandidateSystem ι) : CandidateEvent ι → Prop
  | .setVerifying p => ∀ current, s.phase p = .starting current → s.states.head? = some current
  | .setVerdict p =>
    ∀ current outcome, s.phase p = .recorded current outcome → s.states.head? = some current
  | _ => True

/-- Every state but the first has come by a legal transition; the present one
is the head. -/
def LegalPath : List CandidateState → Prop
  | [] => True
  | [first] => first = .open
  | next :: current :: earlier =>
    (current, next) ∈ legalCandidateTransitions ∧ LegalPath (current :: earlier)

namespace CandidateSystem

/-- A candidate that has been proposed, and nobody has started. -/
structure Initial (s : CandidateSystem ι) : Prop where
  states : s.states = [.open]
  verifications : s.verifications = []
  idle : ∀ p, s.phase p = .idle
  rowLock : s.rowLock = none
  keyLock : s.keyLock = none

/-- The use case holds the row of the candidate. -/
def holdsRow : CandidatePhase → Bool
  | .started | .concluded _ => true
  | _ => false

/-- The use case holds the key of its verification. -/
def holdsKey : CandidatePhase → Bool
  | .recorded _ _ | .concluded _ => true
  | _ => false

/-- What every step keeps. -/
structure Inv (s : CandidateSystem ι) : Prop where
  row : ∀ p, holdsRow (s.phase p) = true → s.rowLock = some p
  key : ∀ p, holdsKey (s.phase p) = true → s.keyLock = some p
  keyed : s.keyLock ≠ none → s.verifications = []
  validated : s.states.head? = some .validated → s.verifications = [.validated]

/-- What a use case has under way is legal from the state it has read; from the
present one, once it holds the row. -/
def Entitled (present : Option CandidateState) : CandidatePhase → Prop
  | .starting current => (current, .verifying) ∈ legalCandidateTransitions
  | .started => ∃ current, present = some current ∧
      (current, .verifying) ∈ legalCandidateTransitions
  | .decided current outcome | .recorded current outcome =>
    (current, outcome.proposedState) ∈ legalCandidateTransitions
  | .concluded outcome => ∃ current, present = some current ∧
      (current, outcome.proposedState) ∈ legalCandidateTransitions
  | _ => True

/-- What the steps keep that find the state as it was read. -/
structure Undisturbed (s : CandidateSystem ι) : Prop where
  inv : s.Inv
  legal : LegalPath s.states
  entitled : ∀ p, Entitled s.states.head? (s.phase p)

@[simp] theorem goto_phase_self (s : CandidateSystem ι) (p : ι) (ph : CandidatePhase) :
    (s.goto p ph).phase p = ph := if_pos rfl

theorem goto_phase_ne (s : CandidateSystem ι) {p q : ι} (ph : CandidatePhase) (h : q ≠ p) :
    (s.goto p ph).phase q = s.phase q := if_neg h

@[simp] theorem goto_states (s : CandidateSystem ι) (p : ι) (ph : CandidatePhase) :
    (s.goto p ph).states = s.states := rfl

@[simp] theorem goto_verifications (s : CandidateSystem ι) (p : ι) (ph : CandidatePhase) :
    (s.goto p ph).verifications = s.verifications := rfl

@[simp] theorem unlock_states (s : CandidateSystem ι) (p : ι) : (s.unlock p).states = s.states :=
  rfl

@[simp] theorem unlock_verifications (s : CandidateSystem ι) (p : ι) :
    (s.unlock p).verifications = s.verifications := rfl

variable {s t u : CandidateSystem ι} {p : ι} {ph : CandidatePhase}

/-- A use case moves on, with what it holds. -/
theorem Inv.move (hi : s.Inv) (hphase : u.phase = s.phase)
    (hrow : ∀ q, q ≠ p → s.rowLock = some q → u.rowLock = some q)
    (hkey : ∀ q, q ≠ p → s.keyLock = some q → u.keyLock = some q)
    (hself : (holdsRow ph = true → u.rowLock = some p) ∧ (holdsKey ph = true → u.keyLock = some p))
    (hkeyed : u.keyLock ≠ none → u.verifications = [])
    (hvalidated : u.states.head? = some .validated → u.verifications = [.validated]) :
    (u.goto p ph).Inv := by
  refine ⟨fun q hq => ?_, fun q hq => ?_, hkeyed, hvalidated⟩
  · by_cases hqp : q = p
    · subst hqp
      rw [goto_phase_self] at hq
      exact hself.1 hq
    · rw [goto_phase_ne _ _ hqp, hphase] at hq
      exact hrow q hqp (hi.row q hq)
  · by_cases hqp : q = p
    · subst hqp
      rw [goto_phase_self] at hq
      exact hself.2 hq
    · rw [goto_phase_ne _ _ hqp, hphase] at hq
      exact hkey q hqp (hi.key q hq)

/-- A use case moves on and holds nothing. -/
theorem Inv.idle (hi : s.Inv) (hfree : holdsRow ph = false ∧ holdsKey ph = false) :
    (s.goto p ph).Inv :=
  hi.move rfl (fun _ _ h => h) (fun _ _ h => h) ⟨by simp [hfree.1], by simp [hfree.2]⟩ hi.keyed
    hi.validated

theorem unlock_rowLock_ne {q : ι} (hq : q ≠ p) (h : s.rowLock = some q) :
    (s.unlock p).rowLock = some q := by
  simp [unlock, h, hq]

theorem unlock_keyLock_ne {q : ι} (hq : q ≠ p) (h : s.keyLock = some q) :
    (s.unlock p).keyLock = some q := by
  simp [unlock, h, hq]

/-- What a use case can do after it has let go of everything. -/
theorem Inv.unlocked (hi : s.Inv) (hphase : u.phase = s.phase) (hrow : u.rowLock = s.rowLock)
    (hkey : u.keyLock = s.keyLock)
    (hkeyed : (u.unlock p).keyLock ≠ none → u.verifications = [])
    (hvalidated : u.states.head? = some .validated → u.verifications = [.validated]) :
    ((u.unlock p).goto p .done).Inv := by
  refine hi.move hphase (fun q hq hlock => ?_) (fun q hq hlock => ?_) ⟨?_, ?_⟩ hkeyed hvalidated
  · exact unlock_rowLock_ne hq (hrow.trans hlock)
  · exact unlock_keyLock_ne hq (hkey.trans hlock)
  · intro h; cases h
  · intro h; cases h

theorem afterStartRead_free (current : CandidateState) :
    holdsRow (afterStartRead current) = false ∧ holdsKey (afterStartRead current) = false := by
  unfold afterStartRead
  split
  next => exact ⟨rfl, rfl⟩
  next => split <;> exact ⟨rfl, rfl⟩

theorem afterVerdict_free (current : CandidateState) (outcome : VerificationOutcome) :
    holdsRow (afterVerdict current outcome) = false ∧
      holdsKey (afterVerdict current outcome) = false := by
  unfold afterVerdict
  split <;> exact ⟨rfl, rfl⟩

/-- **Every step** keeps the locks in order, and a candidate that is seen as
validated has the verification for it. -/
theorem Inv.step {e : CandidateEvent ι} (hi : s.Inv) (h : CandidateStep s e t) : t.Inv := by
  cases h with
  | selectStart => exact hi.idle (afterStartRead_free _)
  | verdict => exact hi.idle (afterVerdict_free _ _)
  | selectComplete | found | conflict | readOnly => exact hi.idle ⟨rfl, rfl⟩
  | setVerifying h hfree =>
    refine hi.move (u := { s with rowLock := some _ }) rfl (fun q _ hlock => ?_) (fun _ _ h => h)
      ⟨fun _ => rfl, fun h => ?_⟩ hi.keyed hi.validated
    · rw [hfree] at hlock; cases hlock
    · cases h
  | commitStart h =>
    refine hi.unlocked rfl rfl rfl (fun hne => hi.keyed fun hnone => hne ?_) (fun h => ?_)
    · simp [unlock, hnone]
    · cases h
  | insertVerification h hfree hnone =>
    refine hi.move (u := { s with keyLock := some _ }) rfl (fun _ _ h => h) (fun q _ hlock => ?_)
      ⟨fun h => ?_, fun _ => rfl⟩ (fun _ => hnone) hi.validated
    · rw [hfree] at hlock; cases hlock
    · cases h
  | @setVerdict p current outcome h hfree =>
    refine hi.move (u := { s with rowLock := some _ }) rfl (fun q _ hlock => ?_) (fun _ _ h => h)
      ⟨fun _ => rfl, fun _ => hi.key p (by rw [h]; rfl)⟩ hi.keyed hi.validated
    rw [hfree] at hlock; cases hlock
  | @commitComplete p outcome h =>
    have hkey : s.keyLock = some p := hi.key p (by rw [h]; rfl)
    have hnone : s.verifications = [] := hi.keyed (by simp [hkey])
    refine hi.unlocked rfl rfl rfl (fun hne => ?_) (fun hhead => ?_)
    · simp [unlock, hkey] at hne
    · cases outcome <;> simp_all [VerificationOutcome.proposedState]
  | crash =>
    refine hi.unlocked rfl rfl rfl (fun hne => hi.keyed fun hnone => hne ?_) hi.validated
    simp [unlock, hnone]

/-! ## Writes that find the state as it was read -/

/-- Who does not hold the row is entitled whatever the present state is. -/
theorem Entitled.of_not_holdsRow {present present' : Option CandidateState}
    (h : Entitled present ph) (hfree : holdsRow ph = false) : Entitled present' ph := by
  cases ph with
  | started | concluded => cases hfree
  | _ => exact h

theorem entitled_afterStartRead (present : Option CandidateState) (current : CandidateState) :
    Entitled present (afterStartRead current) := by
  unfold afterStartRead
  split
  next => trivial
  next =>
    split
    next hok => exact (transitionCandidate_eq_ok.1 hok).1
    next => trivial

theorem entitled_afterVerdict (present : Option CandidateState) (current : CandidateState)
    (outcome : VerificationOutcome) : Entitled present (afterVerdict current outcome) := by
  unfold afterVerdict
  split
  next hok => exact (transitionCandidate_eq_ok.1 hok).1
  next => trivial

/-- The present state stays, and a use case moves on. -/
theorem Undisturbed.move (hi : s.Undisturbed) (hinv : (u.goto p ph).Inv)
    (hphase : u.phase = s.phase) (hstates : u.states = s.states)
    (hself : Entitled s.states.head? ph) : (u.goto p ph).Undisturbed := by
  refine ⟨hinv, by simpa [hstates] using hi.legal, fun q => ?_⟩
  rw [goto_states, hstates]
  by_cases hq : q = p
  · subst hq
    rwa [goto_phase_self]
  · rw [goto_phase_ne _ _ hq, hphase]
    exact hi.entitled q

/-- The holder of the row commits a state that is legal from the present one. -/
theorem Undisturbed.commit {next current : CandidateState} (hi : s.Undisturbed)
    (hinv : (u.goto p .done).Inv) (hphase : u.phase = s.phase)
    (hstates : u.states = next :: s.states) (hholds : holdsRow (s.phase p) = true)
    (hpresent : s.states.head? = some current)
    (hlegal : (current, next) ∈ legalCandidateTransitions) : (u.goto p .done).Undisturbed := by
  refine ⟨hinv, ?_, fun q => ?_⟩
  · rw [goto_states, hstates]
    obtain ⟨earlier, hearlier⟩ := List.head?_eq_some_iff.1 hpresent
    have hpath := hi.legal
    rw [hearlier] at hpath ⊢
    exact ⟨hlegal, hpath⟩
  · by_cases hq : q = p
    · subst hq
      rw [goto_phase_self]
      trivial
    · rw [goto_phase_ne _ _ hq, hphase]
      -- there is only one holder of the row
      have hfree : holdsRow (s.phase q) = false := by
        cases hrow : holdsRow (s.phase q) with
        | false => rfl
        | true =>
          have hsame := (hi.inv.row q hrow).symm.trans (hi.inv.row p hholds)
          exact absurd (Option.some.inj hsame) hq
      exact (hi.entitled q).of_not_holdsRow hfree

/-- **A step** that finds the state as it was read takes a legal one. -/
theorem Undisturbed.step {e : CandidateEvent ι} (hi : s.Undisturbed) (h : CandidateStep s e t)
    (hread : StillAsRead s e) : t.Undisturbed := by
  have hinv := hi.inv.step h
  cases h with
  | selectStart => exact hi.move hinv rfl rfl (entitled_afterStartRead _ _)
  | verdict => exact hi.move hinv rfl rfl (entitled_afterVerdict _ _ _)
  | selectComplete | found | conflict | readOnly => exact hi.move hinv rfl rfl trivial
  | @setVerifying p current h hfree =>
    have hlegal := hi.entitled p
    rw [h] at hlegal
    exact hi.move hinv rfl rfl ⟨current, hread current h, hlegal⟩
  | @commitStart p h =>
    obtain ⟨current, hpresent, hlegal⟩ : Entitled s.states.head? .started := h ▸ hi.entitled p
    exact hi.commit hinv rfl rfl (by rw [h]; rfl) hpresent hlegal
  | @insertVerification p current outcome h hfree hnone =>
    have hlegal := hi.entitled p
    rw [h] at hlegal
    exact hi.move hinv rfl rfl hlegal
  | @setVerdict p current outcome h hfree =>
    have hlegal := hi.entitled p
    rw [h] at hlegal
    exact hi.move hinv rfl rfl ⟨current, hread current outcome h, hlegal⟩
  | @commitComplete p outcome h =>
    obtain ⟨current, hpresent, hlegal⟩ : Entitled s.states.head? (.concluded outcome) :=
      h ▸ hi.entitled p
    exact hi.commit hinv rfl rfl (by rw [h]; rfl) hpresent hlegal
  | crash => exact hi.move hinv rfl rfl trivial

end CandidateSystem

omit [DecidableEq ι] in
theorem CandidateSystem.Initial.inv {s : CandidateSystem ι} (h : s.Initial) : s.Inv := by
  refine ⟨?_, ?_, fun hne => absurd h.keyLock hne, ?_⟩
  · intro p hp; rw [h.idle] at hp; cases hp
  · intro p hp; rw [h.idle] at hp; cases hp
  · intro hhead; rw [h.states] at hhead; cases hhead

omit [DecidableEq ι] in
theorem CandidateSystem.Initial.undisturbed {s : CandidateSystem ι} (h : s.Initial) :
    s.Undisturbed := by
  refine ⟨h.inv, by rw [h.states]; rfl, fun p => ?_⟩
  rw [h.idle]
  trivial

/-- **The lifecycle of a candidate.**  In every run a candidate that is seen as
validated has one verification, which validated it.  In every run whose writes
find the state that was read, the committed states are a path of legal
transitions. -/
theorem candidate_lifecycle {s₀ s : CandidateSystem ι} {es : List (CandidateEvent ι)}
    (hinit : s₀.Initial) :
    (Run CandidateStep s₀ es s → s.states.head? = some .validated →
      s.verifications = [.validated]) ∧
    (Run (Guarded CandidateStep StillAsRead) s₀ es s → LegalPath s.states) := by
  constructor
  · intro hrun
    have hinv : s.Inv := hrun.invariant (fun _ _ _ h hi => hi.step h) hinit.inv
    exact hinv.validated
  · intro hrun
    have hpath : s.Undisturbed :=
      hrun.invariant (fun _ _ _ h hi => hi.step h.1 h.2) hinit.undisturbed
    exact hpath.legal

/-! ## A candidate, validated and opened again -/

/-- A candidate that has just been proposed. -/
def proposedCandidate : CandidateSystem Nat where
  states := [.open]
  verifications := []
  phase := fun _ => .idle
  rowLock := none
  keyLock := none

theorem proposedCandidate_initial : proposedCandidate.Initial :=
  ⟨rfl, rfl, fun _ => rfl, rfl, rfl⟩

/-- `0` starts the verification, and `1` completes it. -/
theorem candidate_lifecycle_validated :
    ∃ s : CandidateSystem Nat, s.states = [.validated, .verifying, .open] ∧
      s.verifications = [.validated] ∧ LegalPath s.states := by
  have hread : Run (Guarded CandidateStep StillAsRead) proposedCandidate _ _ :=
    (Run.nil _).snoc ⟨.selectStart (p := 0) rfl rfl, trivial⟩
  have hwritten := hread.snoc ⟨@CandidateStep.setVerifying _ _ _ 0 .open rfl rfl, by
    rintro current hcurrent
    cases hcurrent
    rfl⟩
  have hstarted := hwritten.snoc ⟨.commitStart (p := 0) rfl, trivial⟩
  have hdecided := (hstarted.snoc ⟨.selectComplete (p := 1) rfl rfl, trivial⟩).snoc
    ⟨@CandidateStep.verdict _ _ _ 1 .verifying .validated rfl rfl, trivial⟩
  have hrecorded := hdecided.snoc
    ⟨@CandidateStep.insertVerification _ _ _ 1 .verifying .validated rfl rfl rfl,
      trivial⟩
  have hconcluded := hrecorded.snoc
    ⟨@CandidateStep.setVerdict _ _ _ 1 .verifying .validated rfl rfl, by
      rintro current outcome hcurrent
      cases hcurrent
      rfl⟩
  have hcompleted := hconcluded.snoc ⟨@CandidateStep.commitComplete _ _ _ 1 .validated rfl, trivial⟩
  have hrun : Run CandidateStep proposedCandidate _ _ := hcompleted.mono fun _ _ _ h => h.1
  exact ⟨_, rfl, (candidate_lifecycle proposedCandidate_initial).1 hrun rfl,
    (candidate_lifecycle proposedCandidate_initial).2 hcompleted⟩

/-- `0` and `1` both start the verification of an open candidate; `2` completes
it before `1` writes. -/
theorem validated_candidate_reopened :
    ∃ (s : CandidateSystem Nat) (es : List (CandidateEvent Nat)), proposedCandidate.Initial ∧
      Run CandidateStep proposedCandidate es s ∧
      s.states = [.verifying, .validated, .verifying, .open] ∧ ¬LegalPath s.states := by
  have hread : Run CandidateStep proposedCandidate _ _ :=
    ((Run.nil _).snoc (.selectStart (p := 0) rfl rfl)).snoc (.selectStart (p := 1) rfl rfl)
  have hstarted := (hread.snoc (@CandidateStep.setVerifying _ _ _ 0 .open rfl rfl)).snoc
    (.commitStart (p := 0) rfl)
  have hdecided := (hstarted.snoc (.selectComplete (p := 2) rfl rfl)).snoc
    (@CandidateStep.verdict _ _ _ 2 .verifying .validated rfl rfl)
  have hrecorded := hdecided.snoc
    (@CandidateStep.insertVerification _ _ _ 2 .verifying .validated rfl rfl rfl)
  have hcompleted := (hrecorded.snoc
    (@CandidateStep.setVerdict _ _ _ 2 .verifying .validated rfl rfl)).snoc
    (@CandidateStep.commitComplete _ _ _ 2 .validated rfl)
  have hreopened := (hcompleted.snoc (@CandidateStep.setVerifying _ _ _ 1 .open rfl rfl)).snoc
    (.commitStart (p := 1) rfl)
  refine ⟨_, _, proposedCandidate_initial, hreopened, rfl, ?_⟩
  rintro ⟨hlegal, -⟩
  revert hlegal
  decide

end Zest
