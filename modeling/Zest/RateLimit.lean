import Mathlib.Data.List.Count
import Mathlib.Data.List.Perm.Subperm
import Mathlib.Order.Basic
import Zest.Orchestration
import Zest.TransitionSystem

/-! # The rate limit of a program

A rate-limit profile belongs to a program.  Before an attempt is authorized the
gate counts how many were authorized in the window that ends at its clock
reading.  It asks the research run of the attempt, though, and asks before the
attempt is inserted: what the other runs of the program have sent, and what
other dispatchers are about to insert, it does not see.  An attempt that is
authorized can also be dispatched much later, and the gate is not asked again.
-/
namespace Zest

open TransitionSystem

/-- `RateLimitProfile`. -/
structure RateLimitProfile where
  maxRequestsPerWindow : Nat
  windowSeconds : Nat
  deriving DecidableEq, Repr

namespace RateLimitProfile

/-- The length of the window in microseconds, as instants are. -/
def window (profile : RateLimitProfile) : Nat := 1000000 * profile.windowSeconds

/-- The window that ends at an instant is open where it begins. -/
def InWindow (profile : RateLimitProfile) (last t : Nat) : Prop :=
  last < t + profile.window ∧ t ≤ last

instance (profile : RateLimitProfile) (last t : Nat) : Decidable (profile.InWindow last t) :=
  inferInstanceAs (Decidable (_ ∧ _))

end RateLimitProfile

inductive RateLimitReason where
  | allowed
  | rateLimitDenied
  deriving DecidableEq, Repr

structure RateLimitCheck where
  allowed : Bool
  reasonCode : RateLimitReason
  nextAllowedAt : Option Nat
  deriving DecidableEq, Repr

/-- `check_rate_limit`. -/
def checkRateLimit (profile : RateLimitProfile) (attemptTimes : List Nat) (now : Nat) :
    RateLimitCheck :=
  if profile.maxRequestsPerWindow = 0 ∨ profile.windowSeconds = 0 then
    ⟨false, .rateLimitDenied, none⟩
  else
    let recent := attemptTimes.filter fun t => profile.InWindow now t
    if profile.maxRequestsPerWindow ≤ recent.length then
      ⟨false, .rateLimitDenied, recent.min?.map fun oldest => oldest + profile.window⟩
    else ⟨true, .allowed, none⟩

/-- What the limit reads of an `ExecutionAttemptRecord`. -/
structure TimedAttempt where
  runId : Id
  authorizedAt : Nat
  dispatchStartedAt : Option Nat
  deriving DecidableEq, Repr

/-- An authorization that has read the clock. -/
structure Authorization where
  runId : Id
  now : Nat
  deriving DecidableEq, Repr

/-- The attempts of a program, and the authorizations its dispatchers are in the
middle of: before their gate check, and past it with the attempt not committed. -/
structure ProgramAttempts where
  clock : Nat
  opened : List Authorization
  passed : List Authorization
  attempts : List TimedAttempt
  deriving DecidableEq, Repr

namespace ProgramAttempts

/-- `_check_rate_limit`: the attempts of the run. -/
def gate (profile : RateLimitProfile) (s : ProgramAttempts) (a : Authorization) :
    RateLimitCheck :=
  checkRateLimit profile
    ((s.attempts.filter fun attempt => attempt.runId = a.runId).map TimedAttempt.authorizedAt)
    a.now

/-- When the attempts of the program were authorized, those that are about to be
inserted among them. -/
def instants (s : ProgramAttempts) : List Nat :=
  s.attempts.map TimedAttempt.authorizedAt ++ s.passed.map Authorization.now

/-- The attempts authorized in the window that ends at `last`. -/
def authorizedIn (profile : RateLimitProfile) (s : ProgramAttempts) (last : Nat) : Nat :=
  s.attempts.countP fun attempt => profile.InWindow last attempt.authorizedAt

/-- The attempts dispatched in the window that ends at `last`. -/
def dispatchedIn (profile : RateLimitProfile) (s : ProgramAttempts) (last : Nat) : Nat :=
  s.attempts.countP fun attempt => attempt.dispatchStartedAt.any fun t => profile.InWindow last t

/-- An attempt is marked as dispatching, at the clock reading. -/
def marked (s : ProgramAttempts) (i : Nat) (attempt : TimedAttempt) : ProgramAttempts :=
  { s with
    attempts := s.attempts.set i { attempt with dispatchStartedAt := some s.clock } }

/-- The start of a run. -/
structure Initial (s : ProgramAttempts) : Prop where
  opened : s.opened = []
  passed : s.passed = []
  attempts : s.attempts = []

end ProgramAttempts

inductive RateEvent where
  | tick (now : Nat)
  | read (runId : Id)
  | pass (a : Authorization)
  | deny (a : Authorization)
  | commit (a : Authorization)
  | rollback (a : Authorization)
  | dispatch (i : Nat)

/-- A step of the clock or of one of the program's dispatchers.  `authorize`
reads the clock, asks the gate and inserts its attempt, and may give up after
each of these; `dispatch` marks an attempt that is authorized. -/
inductive RateStep (profile : RateLimitProfile) (s : ProgramAttempts) :
    RateEvent → ProgramAttempts → Prop where
  | tick (now : Nat) (h : s.clock ≤ now) : RateStep profile s (.tick now) { s with clock := now }
  | read (runId : Id) :
      RateStep profile s (.read runId) { s with opened := ⟨runId, s.clock⟩ :: s.opened }
  | pass (a : Authorization) (h : a ∈ s.opened) (hgate : (s.gate profile a).allowed = true) :
      RateStep profile s (.pass a)
        { s with opened := s.opened.erase a, passed := a :: s.passed }
  | deny (a : Authorization) (h : a ∈ s.opened) :
      RateStep profile s (.deny a) { s with opened := s.opened.erase a }
  | commit (a : Authorization) (h : a ∈ s.passed) :
      RateStep profile s (.commit a)
        { s with
          passed := s.passed.erase a
          attempts := s.attempts ++ [⟨a.runId, a.now, none⟩] }
  | rollback (a : Authorization) (h : a ∈ s.passed) :
      RateStep profile s (.rollback a) { s with passed := s.passed.erase a }
  | dispatch (i : Nat) (attempt : TimedAttempt) (h : s.attempts[i]? = some attempt)
      (hnot : attempt.dispatchStartedAt = none) :
      RateStep profile s (.dispatch i) (s.marked i attempt)

/-- The gate lets an authorization through only if fewer than the limit of the
program's attempts are authorized since its window began, and an attempt is
dispatched only while its authorization is in the window, with those of the
attempts dispatched in the window. -/
def WithinProgram (profile : RateLimitProfile) (s : ProgramAttempts) : RateEvent → Prop
  | .pass a =>
    s.instants.countP (fun t => a.now < t + profile.window) < profile.maxRequestsPerWindow
  | .dispatch i =>
    ∀ j attempt, s.attempts[j]? = some attempt →
      (j = i ∨ ∃ t, attempt.dispatchStartedAt = some t ∧ s.clock < t + profile.window) →
        s.clock < attempt.authorizedAt + profile.window
  | _ => True

/-! ## What the steps keep -/

namespace ProgramAttempts

/-- What such steps keep. -/
structure Inv (profile : RateLimitProfile) (s : ProgramAttempts) : Prop where
  opened_le : ∀ a ∈ s.opened, a.now ≤ s.clock
  instants_le : ∀ t ∈ s.instants, t ≤ s.clock
  authorized : ∀ last,
    s.instants.countP (fun t => profile.InWindow last t) ≤ profile.maxRequestsPerWindow
  dispatched : ∀ last, s.dispatchedIn profile last ≤ profile.maxRequestsPerWindow

theorem Initial.inv {s : ProgramAttempts} (h : s.Initial) (profile : RateLimitProfile) :
    s.Inv profile := by
  constructor <;> simp [h.opened, h.passed, h.attempts, instants, dispatchedIn]

/-- What is authorized in a window has an instant there. -/
theorem authorizedIn_le (profile : RateLimitProfile) (s : ProgramAttempts) (last : Nat) :
    s.authorizedIn profile last ≤ s.instants.countP fun t => profile.InWindow last t := by
  unfold authorizedIn instants
  rw [List.countP_append, List.countP_map]
  exact Nat.le_add_right _ _

variable {profile : RateLimitProfile} {s : ProgramAttempts}

/-- One more instant, with fewer than the limit since its window began. -/
theorem Inv.pass {a : Authorization} (hi : s.Inv profile)
    (hfew : s.instants.countP (fun t => a.now < t + profile.window) < profile.maxRequestsPerWindow)
    (last : Nat) :
    (a.now :: s.instants).countP (fun t => profile.InWindow last t) ≤
      profile.maxRequestsPerWindow := by
  have hold := hi.authorized last
  by_cases ha : profile.InWindow last a.now
  · -- A window that holds `a.now` begins no earlier than the one that ends there.
    have hsince : s.instants.countP (fun t => profile.InWindow last t) ≤
        s.instants.countP (fun t => a.now < t + profile.window) := by
      refine List.countP_mono_left fun t _ ht => ?_
      have ht : profile.InWindow last t := of_decide_eq_true ht
      have hlt : a.now < t + profile.window := Nat.lt_of_le_of_lt ha.2 ht.1
      exact decide_eq_true hlt
    have hcons : (a.now :: s.instants).countP (fun t => profile.InWindow last t) =
        s.instants.countP (fun t => profile.InWindow last t) + 1 :=
      List.countP_cons_of_pos (by simpa using ha)
    omega
  · have hcons : (a.now :: s.instants).countP (fun t => profile.InWindow last t) =
        s.instants.countP (fun t => profile.InWindow last t) :=
      List.countP_cons_of_neg (by simpa using ha)
    omega

/-- An attempt that is dispatched was authorized when it was. -/
theorem authorizedAt_marked {i : Nat} {attempt : TimedAttempt}
    (hget : s.attempts[i]? = some attempt) :
    (s.marked i attempt).attempts.map TimedAttempt.authorizedAt =
      s.attempts.map TimedAttempt.authorizedAt := by
  obtain ⟨hlt, rfl⟩ := List.getElem?_eq_some_iff.mp hget
  unfold marked
  rw [List.map_set]
  show (s.attempts.map TimedAttempt.authorizedAt).set i s.attempts[i].authorizedAt = _
  rw [← List.getElem_map TimedAttempt.authorizedAt (h := by simpa using hlt),
    List.set_getElem_self]

/-- A dispatch that stays in the window of the authorizations. -/
theorem Inv.dispatch {i : Nat} {attempt : TimedAttempt} (hi : s.Inv profile)
    (hget : s.attempts[i]? = some attempt) (hwithin : WithinProgram profile s (.dispatch i))
    (last : Nat) :
    (s.marked i attempt).dispatchedIn profile last ≤ profile.maxRequestsPerWindow := by
  by_cases hclock : profile.InWindow last s.clock
  · -- What the window holds now was authorized in the window that ends at the clock.
    have hsame := authorizedAt_marked hget
    have hall := (s.authorizedIn_le profile s.clock).trans (hi.authorized s.clock)
    refine le_trans ?_ hall
    have hcount : s.authorizedIn profile s.clock =
        (s.marked i attempt).authorizedIn profile s.clock := by
      have hmap := congrArg (List.countP fun t => decide (profile.InWindow s.clock t)) hsame
      rw [List.countP_map, List.countP_map] at hmap
      exact hmap.symm
    rw [hcount]
    refine List.countP_mono_left fun other hother hin => ?_
    obtain ⟨j, hj⟩ := List.mem_iff_getElem?.mp hother
    unfold marked at hj
    have hwithin : ∀ j attempt, s.attempts[j]? = some attempt →
        (j = i ∨ ∃ t, attempt.dispatchStartedAt = some t ∧ s.clock < t + profile.window) →
          s.clock < attempt.authorizedAt + profile.window := hwithin
    have hle : ∀ old ∈ s.attempts, old.authorizedAt ≤ s.clock := fun old hold =>
      hi.instants_le _ (List.mem_append_left _ (List.mem_map_of_mem hold))
    refine decide_eq_true ?_
    by_cases hij : j = i
    · subst hij
      rw [List.getElem?_set_self (List.getElem?_eq_some_iff.mp hget).1] at hj
      obtain rfl : _ = other := Option.some.inj hj
      exact ⟨hwithin j attempt hget (Or.inl rfl), hle attempt (List.mem_of_getElem? hget)⟩
    · rw [List.getElem?_set_ne (Ne.symm hij)] at hj
      obtain ⟨t, ht, hwindow⟩ := (Option.any_eq_true _ _).mp hin
      have hwindow : profile.InWindow last t := of_decide_eq_true hwindow
      have hlt : s.clock < t + profile.window := Nat.lt_of_le_of_lt hclock.2 hwindow.1
      exact ⟨hwithin j other hj (Or.inr ⟨t, ht, hlt⟩), hle other (List.mem_of_getElem? hj)⟩
  · -- The window holds what it held.
    refine le_trans ?_ (hi.dispatched last)
    have hlt := (List.getElem?_eq_some_iff.mp hget).1
    have hnew : ((some s.clock).any fun t => profile.InWindow last t) ≠ true := by
      simpa using hclock
    unfold dispatchedIn marked
    rw [List.countP_set hlt, if_neg hnew]
    exact Nat.sub_le _ _

/-- Instants that were there already. -/
theorem Inv.of_sublist {t : ProgramAttempts} (hi : s.Inv profile)
    (hopened : ∀ a ∈ t.opened, a.now ≤ t.clock) (hclock : s.clock ≤ t.clock)
    (hinstants : t.instants.Subperm s.instants)
    (hdispatched : ∀ last, t.dispatchedIn profile last = s.dispatchedIn profile last) :
    t.Inv profile where
  opened_le := hopened
  instants_le := fun instant h => (hi.instants_le instant (hinstants.subset h)).trans hclock
  authorized := fun last => (hinstants.countP_le _).trans (hi.authorized last)
  dispatched := fun last => hdispatched last ▸ hi.dispatched last

theorem Inv.step {t : ProgramAttempts} {event : RateEvent} (hi : s.Inv profile)
    (h : RateStep profile s event t) (hwithin : WithinProgram profile s event) :
    t.Inv profile := by
  cases h with
  | tick now h =>
    exact hi.of_sublist (fun a ha => (hi.opened_le a ha).trans h) h (List.Subperm.refl _)
      fun _ => rfl
  | read runId =>
    refine hi.of_sublist (fun a ha => ?_) le_rfl (List.Subperm.refl _) fun _ => rfl
    rcases List.mem_cons.mp ha with rfl | ha
    · exact le_rfl
    · exact hi.opened_le a ha
  | pass a h hgate =>
    have hperm : (s.attempts.map TimedAttempt.authorizedAt ++
        (a :: s.passed).map Authorization.now).Perm (a.now :: s.instants) :=
      List.perm_middle
    constructor
    · exact fun b hb => hi.opened_le b (List.mem_of_mem_erase hb)
    · intro instant hinstant
      rcases List.mem_cons.mp (hperm.subset hinstant) with rfl | hinstant
      · exact hi.opened_le a h
      · exact hi.instants_le instant hinstant
    · intro last
      exact (hperm.countP_eq _).trans_le (hi.pass hwithin last)
    · exact hi.dispatched
  | deny a h =>
    exact hi.of_sublist (fun b hb => hi.opened_le b (List.mem_of_mem_erase hb)) le_rfl
      (List.Subperm.refl _) fun _ => rfl
  | commit a h =>
    refine hi.of_sublist hi.opened_le le_rfl (List.Perm.subperm ?_) fun last => ?_
    · have hpassed : s.passed.Perm (a :: s.passed.erase a) := List.perm_cons_erase h
      unfold instants
      rw [List.map_append, List.append_assoc]
      exact ((hpassed.map Authorization.now).symm).append_left _
    · simp [dispatchedIn, List.countP_append]
  | rollback a h =>
    refine hi.of_sublist hi.opened_le le_rfl (List.Sublist.subperm ?_) fun _ => rfl
    exact (List.erase_sublist.map _).append_left _
  | dispatch i attempt h hnot =>
    have hinstants : (s.marked i attempt).instants = s.instants := by
      unfold instants
      rw [authorizedAt_marked h]
      rfl
    constructor
    · exact hi.opened_le
    · exact hinstants ▸ hi.instants_le
    · exact hinstants ▸ hi.authorized
    · exact hi.dispatch h hwithin

end ProgramAttempts

/-- **The limit holds program-wide** in every run in which no authorization goes
through that the attempts of the whole program would have stopped, and no
attempt is dispatched after its window. -/
theorem rate_limit_program_wide (profile : RateLimitProfile) {s t : ProgramAttempts}
    {events : List RateEvent} (hs : s.Initial)
    (h : Run (Guarded (RateStep profile) (WithinProgram profile)) s events t) (last : Nat) :
    t.dispatchedIn profile last ≤ profile.maxRequestsPerWindow ∧
      t.authorizedIn profile last ≤ profile.maxRequestsPerWindow := by
  have hi : t.Inv profile := by
    refine h.invariant (I := ProgramAttempts.Inv profile) ?_ (hs.inv profile)
    exact fun _ _ _ hstep hi => hi.step hstep.1 hstep.2
  exact ⟨hi.dispatched last, (t.authorizedIn_le profile last).trans (hi.authorized last)⟩

/-- A program before its first attempt. -/
def quietProgram : ProgramAttempts where
  clock := 0
  opened := []
  passed := []
  attempts := []

/-- One request in ten seconds. -/
def onePerWindow : RateLimitProfile := ⟨1, 10⟩

/-- One attempt of one run, authorized and dispatched. -/
def oneAttempt : ProgramAttempts where
  clock := 0
  opened := []
  passed := []
  attempts := [⟨0, 0, some 0⟩]

theorem rate_limit_program_wide_one :
    oneAttempt.dispatchedIn onePerWindow 0 ≤ 1 ∧ oneAttempt.authorizedIn onePerWindow 0 ≤ 1 := by
  have hpassed : Run (Guarded (RateStep onePerWindow) (WithinProgram onePerWindow)) quietProgram
      [.read 0, .pass ⟨0, 0⟩] ⟨0, [], [⟨0, 0⟩], []⟩ := by
    have hpass : ([] : List Nat).countP (fun t => 0 < t + onePerWindow.window) <
        onePerWindow.maxRequestsPerWindow := by decide
    have hread : Run (Guarded (RateStep onePerWindow) (WithinProgram onePerWindow)) quietProgram
        [.read 0] ⟨0, [⟨0, 0⟩], [], []⟩ := (Run.nil _).snoc ⟨.read 0, trivial⟩
    exact hread.snoc ⟨.pass ⟨0, 0⟩ (by decide) (by decide), hpass⟩
  have hcommitted : Run (Guarded (RateStep onePerWindow) (WithinProgram onePerWindow)) quietProgram
      [.read 0, .pass ⟨0, 0⟩, .commit ⟨0, 0⟩] ⟨0, [], [], [⟨0, 0, none⟩]⟩ :=
    hpassed.snoc ⟨.commit ⟨0, 0⟩ (by decide), trivial⟩
  have hrun : Run (Guarded (RateStep onePerWindow) (WithinProgram onePerWindow)) quietProgram
      [.read 0, .pass ⟨0, 0⟩, .commit ⟨0, 0⟩, .dispatch 0] oneAttempt := by
    refine hcommitted.snoc ⟨.dispatch 0 ⟨0, 0, none⟩ rfl rfl, ?_⟩
    intro j attempt hj _
    cases j with
    | zero =>
      obtain rfl : _ = attempt := Option.some.inj hj
      decide
    | succ j => cases hj
  exact rate_limit_program_wide onePerWindow ⟨rfl, rfl, rfl⟩ hrun 0

/-- An attempt each of two runs. -/
def twoRuns : ProgramAttempts where
  clock := 0
  opened := []
  passed := []
  attempts := [⟨0, 0, some 0⟩, ⟨1, 0, some 0⟩]

/-- **Two runs of one program** each get the limit of the program. -/
theorem rate_limit_per_run :
    (∃ events, Run (RateStep onePerWindow) quietProgram events twoRuns) ∧
      onePerWindow.maxRequestsPerWindow < twoRuns.dispatchedIn onePerWindow 0 := by
  refine ⟨⟨[.read 0, .pass ⟨0, 0⟩, .commit ⟨0, 0⟩, .dispatch 0, .read 1, .pass ⟨1, 0⟩,
    .commit ⟨1, 0⟩, .dispatch 1], ?_⟩, by decide⟩
  exact ((((((((Run.nil _).snoc (.read 0)).snoc
    (.pass ⟨0, 0⟩ (by decide) (by decide))).snoc (.commit ⟨0, 0⟩ (by decide))).snoc
    (.dispatch 0 ⟨0, 0, none⟩ rfl rfl)).snoc (.read 1)).snoc
    (.pass ⟨1, 0⟩ (by decide) (by decide))).snoc (.commit ⟨1, 0⟩ (by decide))).snoc
    (.dispatch 1 ⟨1, 0, none⟩ rfl rfl)

end Zest
