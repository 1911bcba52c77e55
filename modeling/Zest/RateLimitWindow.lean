import Mathlib.Order.Basic
import Zest.RateLimit

/-! # The rolling window of the rate limit

Attempts that are appended when the check allows them, at clock readings that do
not go back, are never more than the limit in any window.  When the check denies,
it names the instant at which the oldest attempt leaves the window.  It is not
allowed before; that it is allowed then is another question, since one attempt
leaves the window at that instant, and more than one may have to.
-/
namespace Zest

namespace RateLimitProfile

variable (profile : RateLimitProfile)

/-- The attempts of a run of the gate: a reading is appended when the check allows
it. -/
def attemptsOf (readings : List Nat) : List Nat :=
  readings.foldl (fun attempts now =>
    if (checkRateLimit profile attempts now).allowed then attempts ++ [now] else attempts) []

@[simp] theorem attemptsOf_nil : profile.attemptsOf [] = [] := rfl

theorem attemptsOf_concat (readings : List Nat) (now : Nat) :
    profile.attemptsOf (readings ++ [now]) =
      if (checkRateLimit profile (profile.attemptsOf readings) now).allowed then
        profile.attemptsOf readings ++ [now] else profile.attemptsOf readings := by
  unfold attemptsOf
  rw [List.foldl_append]
  rfl

/-- The check allows exactly when the limit is not zero and the window has room. -/
theorem checkRateLimit_allowed_iff (attempts : List Nat) (now : Nat) :
    (checkRateLimit profile attempts now).allowed = true ↔
      profile.windowSeconds ≠ 0 ∧
        attempts.countP (fun t => profile.InWindow now t) < profile.maxRequestsPerWindow := by
  rw [List.countP_eq_length_filter]
  unfold checkRateLimit
  by_cases hzero : profile.maxRequestsPerWindow = 0 ∨ profile.windowSeconds = 0
  · rw [if_pos hzero]
    rcases hzero with hzero | hzero <;> simp [hzero]
  · obtain ⟨hmax, hwindow⟩ := not_or.mp hzero
    rw [if_neg hzero]
    dsimp only
    split
    next hfull => simp [hwindow, Nat.not_lt.mpr hfull]
    next hroom => simpa [hwindow] using hroom

variable {profile} {readings attempts : List Nat} {now next : Nat}

/-- An attempt is one of the readings. -/
theorem mem_of_mem_attemptsOf {t : Nat} (h : t ∈ profile.attemptsOf readings) : t ∈ readings := by
  induction readings using List.reverseRecOn with
  | nil => simp at h
  | append_singleton readings now ih =>
    rw [attemptsOf_concat] at h
    split at h
    · rcases List.mem_append.mp h with h | h
      · exact List.mem_append_left _ (ih h)
      · exact List.mem_append_right _ h
    · exact List.mem_append_left _ (ih h)

/-- One more attempt, at an instant that none is after. -/
theorem countP_append_le (hle : ∀ t ∈ attempts, t ≤ now)
    (hallowed : (checkRateLimit profile attempts now).allowed = true) {last : Nat}
    (hold : attempts.countP (fun t => profile.InWindow last t) ≤ profile.maxRequestsPerWindow) :
    (attempts ++ [now]).countP (fun t => profile.InWindow last t) ≤
      profile.maxRequestsPerWindow := by
  have hroom := ((profile.checkRateLimit_allowed_iff attempts now).mp hallowed).2
  rw [List.countP_append]
  by_cases hnow : profile.InWindow last now
  · -- What a window holds with `now` is in the window that ends at `now`.
    have hwithin : attempts.countP (fun t => profile.InWindow last t) ≤
        attempts.countP (fun t => profile.InWindow now t) := by
      refine List.countP_mono_left fun t ht hin => ?_
      have hin : profile.InWindow last t := of_decide_eq_true hin
      exact decide_eq_true ⟨Nat.lt_of_le_of_lt hnow.2 hin.1, hle t ht⟩
    have hone : [now].countP (fun t => profile.InWindow last t) = 1 := by simp [hnow]
    omega
  · have hnone : [now].countP (fun t => profile.InWindow last t) = 0 := by simp [hnow]
    omega

/-- **The rolling window.**  No window holds more attempts than the limit. -/
theorem countP_attemptsOf_le (hsorted : readings.Pairwise (· ≤ ·)) (last : Nat) :
    (profile.attemptsOf readings).countP (fun t => profile.InWindow last t) ≤
      profile.maxRequestsPerWindow := by
  induction readings using List.reverseRecOn with
  | nil => simp
  | append_singleton readings now ih =>
    obtain ⟨hbefore, -, hlast⟩ := List.pairwise_append.mp hsorted
    have hle : ∀ t ∈ profile.attemptsOf readings, t ≤ now := fun t ht =>
      hlast t (mem_of_mem_attemptsOf ht) now List.mem_cons_self
    rw [attemptsOf_concat]
    split
    next hallowed => exact countP_append_le hle hallowed (ih hbefore)
    next => exact ih hbefore

/-! ## The instant that a denial names -/

/-- The check is allowed at the instant that it names, and at none before. -/
structure NextAllowedExact (profile : RateLimitProfile) (attempts : List Nat) (now next : Nat) :
    Prop where
  allowed : (checkRateLimit profile attempts next).allowed = true
  denied : ∀ instant, now ≤ instant → instant < next →
    (checkRateLimit profile attempts instant).allowed = false

/-- When the oldest attempt of the window leaves it, there is room: the others of the
window that are later than it, with those that lie after `now` and not after that
instant, are fewer than the limit. -/
def OldestMakesRoom (profile : RateLimitProfile) (attempts : List Nat) (now : Nat) : Prop :=
  ∀ oldest ∈ attempts, profile.InWindow now oldest →
    (∀ t ∈ attempts, profile.InWindow now t → oldest ≤ t) →
      attempts.countP (fun t => profile.InWindow now t ∧ oldest < t) +
        attempts.countP (fun t => now < t ∧ t ≤ oldest + profile.window) <
          profile.maxRequestsPerWindow

/-- The instant that a denial names is one window after the oldest attempt, and the
window is full. -/
theorem nextAllowedAt_eq_some
    (h : (checkRateLimit profile attempts now).nextAllowedAt = some next) :
    profile.windowSeconds ≠ 0 ∧
      profile.maxRequestsPerWindow ≤ attempts.countP (fun t => profile.InWindow now t) ∧
        ∃ oldest ∈ attempts, profile.InWindow now oldest ∧
          (∀ t ∈ attempts, profile.InWindow now t → oldest ≤ t) ∧
            next = oldest + profile.window := by
  unfold checkRateLimit at h
  split at h
  next => cases h
  next hzero =>
    dsimp only at h
    split at h
    next hfull =>
      obtain ⟨oldest, hmin, hnext⟩ := Option.map_eq_some_iff.mp h
      obtain ⟨hmem, hleast⟩ := List.min?_eq_some_iff.mp hmin
      obtain ⟨hmem, hin⟩ := List.mem_filter.mp hmem
      refine ⟨(not_or.mp hzero).2, List.countP_eq_length_filter ▸ hfull, oldest, hmem,
        of_decide_eq_true hin, fun t ht hin => ?_, hnext.symm⟩
      exact hleast t (List.mem_filter.mpr ⟨ht, decide_eq_true hin⟩)
    next => cases h

/-- While the oldest attempt is in the window, so are the others. -/
theorem denied_before {oldest instant : Nat}
    (hfull : profile.maxRequestsPerWindow ≤ attempts.countP (fun t => profile.InWindow now t))
    (hleast : ∀ t ∈ attempts, profile.InWindow now t → oldest ≤ t) (hnow : now ≤ instant)
    (hbefore : instant < oldest + profile.window) :
    (checkRateLimit profile attempts instant).allowed = false := by
  have hstay : attempts.countP (fun t => profile.InWindow now t) ≤
      attempts.countP (fun t => profile.InWindow instant t) := by
    refine List.countP_mono_left fun t ht hin => ?_
    have hin : profile.InWindow now t := of_decide_eq_true hin
    have holdest := hleast t ht hin
    exact decide_eq_true ⟨by omega, hin.2.trans hnow⟩
  by_contra hallowed
  have hroom := ((profile.checkRateLimit_allowed_iff attempts instant).mp
    (by simpa using hallowed)).2
  omega

/-- What the window holds one window after the oldest attempt. -/
theorem countP_next {oldest : Nat} (hin : profile.InWindow now oldest) :
    attempts.countP (fun t => profile.InWindow (oldest + profile.window) t) =
      attempts.countP (fun t => profile.InWindow now t ∧ oldest < t) +
        attempts.countP (fun t => now < t ∧ t ≤ oldest + profile.window) := by
  obtain ⟨hafter, hbefore⟩ := hin
  induction attempts with
  | nil => rfl
  | cons t attempts ih =>
    have hsplit : profile.InWindow (oldest + profile.window) t ↔
        (profile.InWindow now t ∧ oldest < t) ∨ (now < t ∧ t ≤ oldest + profile.window) := by
      unfold InWindow
      omega
    have hapart : ¬ ((profile.InWindow now t ∧ oldest < t) ∧
        (now < t ∧ t ≤ oldest + profile.window)) := by
      unfold InWindow
      omega
    rw [List.countP_cons, List.countP_cons, List.countP_cons, ih]
    by_cases hfirst : profile.InWindow now t ∧ oldest < t
    · have hsecond : ¬ (now < t ∧ t ≤ oldest + profile.window) := fun h => hapart ⟨hfirst, h⟩
      simp only [hsplit, hfirst, hsecond, true_or, and_self, decide_true, decide_false, if_true]
      simp
      omega
    · by_cases hsecond : now < t ∧ t ≤ oldest + profile.window
      · simp [hsplit, hfirst, hsecond]
        omega
      · simp [hsplit, hfirst, hsecond]

theorem nextAllowedExact_iff
    (h : (checkRateLimit profile attempts now).nextAllowedAt = some next) :
    NextAllowedExact profile attempts now next ↔ OldestMakesRoom profile attempts now := by
  obtain ⟨hwindow, hfull, oldest, hmem, hin, hleast, rfl⟩ := nextAllowedAt_eq_some h
  have hallowed := profile.checkRateLimit_allowed_iff attempts (oldest + profile.window)
  rw [countP_next hin] at hallowed
  constructor
  · intro hexact other hother hotherIn hotherLeast
    have hsame : other = oldest :=
      le_antisymm (hotherLeast oldest hmem hin) (hleast other hother hotherIn)
    rw [hsame]
    exact (hallowed.mp hexact.allowed).2
  · intro hroom
    exact {
      allowed := hallowed.mpr ⟨hwindow, hroom oldest hmem hin hleast⟩
      denied := fun instant hnow hbefore => denied_before hfull hleast hnow hbefore }

end RateLimitProfile

open RateLimitProfile

/-- **The gate's window and the instant it names.**  No window ever holds more attempts
than the limit.  A denial names the instant of the next allowance exactly when the
oldest attempt, in leaving the window, makes room. -/
theorem rate_limit_window (profile : RateLimitProfile) :
    (∀ readings : List Nat, readings.Pairwise (· ≤ ·) → ∀ last,
      (profile.attemptsOf readings).countP (fun t => profile.InWindow last t) ≤
        profile.maxRequestsPerWindow) ∧
    ∀ (attempts : List Nat) (now next : Nat),
      (checkRateLimit profile attempts now).nextAllowedAt = some next →
        (NextAllowedExact profile attempts now next ↔ OldestMakesRoom profile attempts now) :=
  ⟨fun _ hsorted => countP_attemptsOf_le hsorted, fun _ _ _ h => nextAllowedExact_iff h⟩

/-- **Two attempts in a window of one.**  Six seconds in, the check names the tenth
second, at which the attempt of the fifth is still in the window. -/
theorem next_allowed_denied :
    ¬ ∀ profile : RateLimitProfile,
      (∀ readings : List Nat, readings.Pairwise (· ≤ ·) → ∀ last,
        (profile.attemptsOf readings).countP (fun t => profile.InWindow last t) ≤
          profile.maxRequestsPerWindow) ∧
      ∀ (attempts : List Nat) (now next : Nat),
        (checkRateLimit profile attempts now).nextAllowedAt = some next →
          NextAllowedExact profile attempts now next := by
  intro hall
  have hdenied : (checkRateLimit onePerWindow [0, 5000000] 10000000).allowed = false := by decide
  have hexact := (hall onePerWindow).2 [0, 5000000] 6000000 10000000 (by decide)
  rw [hexact.allowed] at hdenied
  cases hdenied

/-- One attempt in a window of one makes room when it leaves. -/
theorem rate_limit_window_one :
    (onePerWindow.attemptsOf [0, 6000000, 10000000]).countP
      (fun t => onePerWindow.InWindow 10000000 t) ≤ 1 ∧
    NextAllowedExact onePerWindow [0] 6000000 10000000 := by
  obtain ⟨hwindow, hnext⟩ := rate_limit_window onePerWindow
  refine ⟨hwindow _ (by decide) _, (hnext [0] 6000000 10000000 (by decide)).mpr ?_⟩
  intro oldest hmem hin hleast
  obtain rfl := List.mem_singleton.mp hmem
  decide

end Zest
