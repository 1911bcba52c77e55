import Zest.OperatorCommands
import Zest.TransitionSystem

/-! # Lease fencing

Any number of runtime instances and operators share the row of a run.  Each
step of the system is one read or one conditional write of that row, or one of
the two halves of a Worker dispatch: the lease is checked first, and the Worker
invoked after.

An epoch is granted once and the next one is larger.  What undoes this is a
save that brings back an old epoch with an old record, and a Worker that is
invoked on a check that another grant has overtaken.  In every run without
these two, the epoch never decreases and nothing that is fenced with an
overtaken epoch goes through (`lease_fencing`).
-/
namespace Zest

open TransitionSystem

/-- A party: a runtime instance or an operator. -/
abbrev Party := Nat

/-- A dispatch that has found its lease on the row and has not invoked the
Worker yet. -/
structure CheckedDispatch where
  party : Party
  lease : LeaseIdentity
  /-- How many leases had been granted when the row was read. -/
  grantsSeen : Nat
  deriving DecidableEq, Repr

structure LeaseSystem where
  row : ResearchOrchestrationRecord
  /-- What each party has read of the row, or was handed by `acquire_lease`. -/
  reads : List (Party × ResearchOrchestrationRecord)
  /-- The leases granted so far. -/
  granted : List LeaseIdentity
  checked : List CheckedDispatch
  deriving DecidableEq, Repr

inductive LeaseEvent where
  | get (p : Party)
  | acquire (p : Party) (owner : Id) (ttl serverNow : Instant)
  | renew (p : Party) (lease : LeaseIdentity) (ttl serverNow : Instant)
  | release (p : Party) (lease : LeaseIdentity)
  | save (p : Party) (record : ResearchOrchestrationRecord) (expect : Option LeaseIdentity)
      (requireUnownedOrExpired : Bool) (serverNow : Instant)
  | check (p : Party) (lease : LeaseIdentity)
  | invoke (dispatch : CheckedDispatch)

/-- One read, one write that goes through, or one half of a dispatch.  Writes
that the row refuses change nothing and are left out. -/
inductive LeaseStep (s : LeaseSystem) : LeaseEvent → LeaseSystem → Prop where
  | get (p : Party) : LeaseStep s (.get p) { s with reads := (p, s.row) :: s.reads }
  | acquire {p : Party} {owner : Id} {ttl serverNow : Instant}
      {row' : ResearchOrchestrationRecord}
      (h : acquireLease s.row owner ttl serverNow = some row') :
      LeaseStep s (.acquire p owner ttl serverNow)
        { s with
          row := row', reads := (p, row') :: s.reads
          granted := ⟨owner, row'.leaseEpoch⟩ :: s.granted }
  | renew {p : Party} {lease : LeaseIdentity} {ttl serverNow : Instant}
      {row' : ResearchOrchestrationRecord}
      (h : renewLease s.row lease ttl serverNow = some row') :
      LeaseStep s (.renew p lease ttl serverNow) { s with row := row' }
  | release {p : Party} {lease : LeaseIdentity} {row' : ResearchOrchestrationRecord}
      (h : releaseLease s.row lease = some row') :
      LeaseStep s (.release p lease) { s with row := row' }
  /-- A save of a record that was built from one the party read: the step of a
  controller or an operator command, fenced or not. -/
  | save {p : Party} {snapshot record row' : ResearchOrchestrationRecord}
      {expect : Option LeaseIdentity} {require : Bool} {serverNow : Instant}
      (hread : (p, snapshot) ∈ s.reads) (hlease : SameLease record snapshot)
      (h : save s.row record expect require serverNow = .ok row') :
      LeaseStep s (.save p record expect require serverNow) { s with row := row' }
  | check {p : Party} {lease : LeaseIdentity} (h : s.row.heldBy lease = true) :
      LeaseStep s (.check p lease)
        { s with checked := ⟨p, lease, s.granted.length⟩ :: s.checked }
  | invoke {dispatch : CheckedDispatch} (h : dispatch ∈ s.checked) :
      LeaseStep s (.invoke dispatch) { s with checked := s.checked.erase dispatch }

/-- An operator command is such a save: it writes back the lease it read. -/
theorem LeaseStep.command {s : LeaseSystem} {p : Party} {command : OperatorCommand}
    {snapshot record row' : ResearchOrchestrationRecord} {serverNow : Instant}
    (hread : (p, snapshot) ∈ s.reads) (hupdate : command.update snapshot = some record)
    (h : Zest.save s.row record none command.requiresUnowned serverNow = .ok row') :
    LeaseStep s (.save p record none command.requiresUnowned serverNow)
      { s with row := row' } :=
  .save hread (OperatorCommand.sameLease hupdate) h

/-- The lease that a save or a Worker invocation is fenced with. -/
def LeaseEvent.fencedWith : LeaseEvent → Option LeaseIdentity
  | save _ _ expect _ _ => expect
  | invoke dispatch => some dispatch.lease
  | _ => none

/-- A save carries the epoch that the row has, and the Worker is invoked before
another lease is granted. -/
def Undisturbed (s : LeaseSystem) : LeaseEvent → Prop
  | .save _ record _ _ _ => record.leaseEpoch = s.row.leaseEpoch
  | .invoke dispatch => dispatch.grantsSeen = s.granted.length
  | _ => True

/-- The start of a run: nobody has read, been granted or checked anything. -/
structure LeaseSystem.Initial (s : LeaseSystem) : Prop where
  reads : s.reads = []
  granted : s.granted = []
  checked : s.checked = []

/-- What undisturbed steps keep: no grant is ahead of the row, and a check that
no grant has overtaken still holds. -/
structure LeaseSystem.Inv (s : LeaseSystem) : Prop where
  granted_le : ∀ g ∈ s.granted, g.epoch ≤ s.row.leaseEpoch
  seen_le : ∀ d ∈ s.checked, d.grantsSeen ≤ s.granted.length
  checked_epoch : ∀ d ∈ s.checked, d.grantsSeen = s.granted.length →
    d.lease.epoch = s.row.leaseEpoch

theorem LeaseSystem.Initial.inv {s : LeaseSystem} (h : s.Initial) : s.Inv := by
  refine ⟨?_, ?_, ?_⟩
  · simp [h.granted]
  · simp [h.checked]
  · simp [h.checked]

/-- An undisturbed step never lowers the epoch. -/
theorem LeaseStep.epoch_mono {s t : LeaseSystem} {ev : LeaseEvent} (h : LeaseStep s ev t)
    (hu : Undisturbed s ev) : s.row.leaseEpoch ≤ t.row.leaseEpoch := by
  cases h with
  | get | check | invoke => exact Nat.le_refl _
  | acquire h => rw [(acquireLease_eq_some h).1]; exact Nat.le_succ _
  | renew h => exact Nat.le_of_eq (by rw [renewLease_eq_some h])
  | release h => exact Nat.le_of_eq (by rw [releaseLease_eq_some h])
  | save _ _ h =>
    rw [(save_eq_ok h).1]
    exact Nat.le_of_eq (Eq.symm hu)

/-- A step that keeps the epoch, the grants and the checks keeps the
invariant. -/
theorem LeaseSystem.Inv.of_eq {s t : LeaseSystem} (hi : s.Inv)
    (hrow : t.row.leaseEpoch = s.row.leaseEpoch) (hgranted : t.granted = s.granted)
    (hchecked : ∀ d ∈ t.checked, d ∈ s.checked) : t.Inv := by
  refine ⟨?_, ?_, ?_⟩
  · rw [hgranted, hrow]; exact hi.granted_le
  · rw [hgranted]; exact fun d hd => hi.seen_le d (hchecked d hd)
  · rw [hgranted, hrow]; exact fun d hd => hi.checked_epoch d (hchecked d hd)

theorem LeaseStep.inv {s t : LeaseSystem} {ev : LeaseEvent} (h : LeaseStep s ev t)
    (hu : Undisturbed s ev) (hi : s.Inv) : t.Inv := by
  cases h with
  | get => exact hi.of_eq rfl rfl (fun _ hd => hd)
  | renew h => exact hi.of_eq (by rw [renewLease_eq_some h]) rfl (fun _ hd => hd)
  | release h => exact hi.of_eq (by rw [releaseLease_eq_some h]) rfl (fun _ hd => hd)
  | save _ _ h =>
    refine hi.of_eq ?_ rfl (fun _ hd => hd)
    rw [(save_eq_ok h).1]
    exact hu
  | invoke => exact hi.of_eq rfl rfl (fun _ hd => List.mem_of_mem_erase hd)
  | acquire h =>
    have hrow := (acquireLease_eq_some h).1
    subst hrow
    refine ⟨?_, ?_, ?_⟩
    · intro g hg
      rcases List.mem_cons.1 hg with rfl | hg
      · exact Nat.le_refl _
      · exact Nat.le_succ_of_le (hi.granted_le g hg)
    · exact fun d hd => Nat.le_succ_of_le (hi.seen_le d hd)
    · -- Every check that is still open has been overtaken.
      intro d hd heq
      have hle : d.grantsSeen ≤ s.granted.length := hi.seen_le d hd
      have heq : d.grantsSeen = s.granted.length + 1 := heq
      omega
  | check h =>
    refine ⟨hi.granted_le, ?_, ?_⟩
    · intro d hd
      rcases List.mem_cons.1 hd with rfl | hd
      · exact Nat.le_refl _
      · exact hi.seen_le d hd
    · intro d hd heq
      rcases List.mem_cons.1 hd with rfl | hd
      · exact (heldBy_epoch h).symm
      · exact hi.checked_epoch d hd heq

/-- What is fenced goes through only with the newest epoch. -/
theorem LeaseStep.fenced {s t : LeaseSystem} {ev : LeaseEvent} (h : LeaseStep s ev t)
    (hu : Undisturbed s ev) (hi : s.Inv) {lease : LeaseIdentity}
    (hlease : ev.fencedWith = some lease) {g : LeaseIdentity} (hg : g ∈ s.granted) :
    g.epoch ≤ lease.epoch := by
  have hle := hi.granted_le g hg
  cases h with
  | get | acquire | renew | release | check => cases hlease
  | save _ _ h =>
    rw [← heldBy_epoch ((save_eq_ok h).2.2.1 lease hlease)]
    exact hle
  | invoke hmem =>
    obtain rfl := Option.some.inj hlease
    rw [hi.checked_epoch _ hmem hu]
    exact hle

/-- **Lease fencing.**  In every run in which saves carry the row's epoch and
no grant overtakes a checked dispatch, the epoch never decreases, and no save
and no Worker invocation goes through that is fenced with an epoch smaller than
one already granted. -/
theorem lease_fencing {s₀ s t : LeaseSystem} {es es' : List LeaseEvent} (hinit : s₀.Initial)
    (hrun : Run (Guarded LeaseStep Undisturbed) s₀ es s)
    (hrest : Run (Guarded LeaseStep Undisturbed) s es' t) :
    s.row.leaseEpoch ≤ t.row.leaseEpoch ∧
    ∀ ev t', Guarded LeaseStep Undisturbed t ev t' → ∀ lease, ev.fencedWith = some lease →
      ∀ g ∈ t.granted, g.epoch ≤ lease.epoch := by
  have hstep : ∀ a e b, Guarded LeaseStep Undisturbed a e b → a.Inv → b.Inv :=
    fun a e b h => h.1.inv h.2
  have hinv : t.Inv := hrest.invariant hstep (hrun.invariant hstep hinit.inv)
  refine ⟨?_, fun ev t' h lease hlease g hg => h.1.fenced h.2 hinv hlease hg⟩
  exact hrest.relation (I := fun _ => True) (R := fun a b => a.row.leaseEpoch ≤ b.row.leaseEpoch)
    (fun _ => Nat.le_refl _) Nat.le_trans (fun _ _ _ _ _ => trivial)
    (fun a e b h _ => h.1.epoch_mono h.2) trivial

/-! ## A lease brought back -/

/-- A run at its start, with nobody holding the lease. -/
def freshRow : ResearchOrchestrationRecord :=
  { state := .ready, cycleNumber := 0, lastPhase := "start", currentPhase := .cycleReady
    bounds :=
      { maxCycles := 3, maxExperiments := 10, maxModelCalls := 3, maxWorkerInvocations := 10
        maxElapsedMs := 1000000, maxSelectedOpportunities := 1, maxRuntimeFallback := 0
        sideEffectCeiling := 0, allowRepeatedControlExperiments := true }
    budgetId := 0, lastOpportunityId := none, lastHypothesisId := none
    lastExperimentId := none, pauseReason := none, stopReason := none, activeCycleId := none
    lastAttemptId := none, lastObservationId := none, lastAssessmentId := none
    lastWorkerResultId := none, ownerRuntimeInstanceId := none, leaseEpoch := 0
    leaseExpiresAt := none }

def freshLeaseSystem : LeaseSystem :=
  { row := freshRow, reads := [], granted := [], checked := [] }

/-- Instance `7` holds the first lease. -/
def firstLeaseRow : ResearchOrchestrationRecord :=
  { freshRow with
    ownerRuntimeInstanceId := some 7, leaseEpoch := 1, leaseExpiresAt := some 90 }

/-- Instance `8` holds the second, the first having expired. -/
def secondLeaseRow : ResearchOrchestrationRecord :=
  { freshRow with
    ownerRuntimeInstanceId := some 8, leaseEpoch := 2, leaseExpiresAt := some 190 }

/-- The operator's pause, built from the row of the first lease. -/
def stalePauseRow : ResearchOrchestrationRecord :=
  { firstLeaseRow with
    state := .paused, stopReason := some .operatorPaused
    pauseReason := some "OPERATOR_PAUSED", lastPhase := "operator" }

/-- Instance `7` has acquired the lease. -/
def firstLeaseSystem : LeaseSystem :=
  { row := firstLeaseRow, reads := [(0, firstLeaseRow)], granted := [⟨7, 1⟩], checked := [] }

/-- An operator, party `2`, has read the row, and instance `8` has acquired the
lease after that. -/
def secondLeaseSystem : LeaseSystem :=
  { row := secondLeaseRow
    reads := [(1, secondLeaseRow), (2, firstLeaseRow), (0, firstLeaseRow)]
    granted := [⟨8, 2⟩, ⟨7, 1⟩], checked := [] }

theorem firstLease_step : LeaseStep freshLeaseSystem (.acquire 0 7 90 0) firstLeaseSystem :=
  .acquire rfl

/-- The operator pauses the run with the old record, and instance `7` saves
again with epoch `1`. -/
theorem stale_pause_revives_lease :
    ∃ (s t u : LeaseSystem) (es es' : List LeaseEvent) (ev : LeaseEvent),
      freshLeaseSystem.Initial ∧ Run LeaseStep freshLeaseSystem es s ∧ Run LeaseStep s es' t ∧
      t.row.leaseEpoch < s.row.leaseEpoch ∧ LeaseStep t ev u ∧
      ev.fencedWith = some ⟨7, 1⟩ ∧ (⟨8, 2⟩ : LeaseIdentity) ∈ t.granted := by
  have hread : LeaseStep firstLeaseSystem (.get 2)
      { firstLeaseSystem with reads := [(2, firstLeaseRow), (0, firstLeaseRow)] } := .get 2
  have hacquire : LeaseStep
      { firstLeaseSystem with reads := [(2, firstLeaseRow), (0, firstLeaseRow)] }
      (.acquire 1 8 90 100) secondLeaseSystem := .acquire rfl
  have hpause : LeaseStep secondLeaseSystem (.save 2 stalePauseRow none false 101)
      { secondLeaseSystem with row := stalePauseRow } :=
    @LeaseStep.command _ 2 .pause firstLeaseRow _ _ 101 (by decide) rfl rfl
  have hsave : LeaseStep { secondLeaseSystem with row := stalePauseRow }
      (.save 0 firstLeaseRow (some ⟨7, 1⟩) false 102) { secondLeaseSystem with row := firstLeaseRow } :=
    .save (show (0, firstLeaseRow) ∈ _ by decide) ⟨rfl, rfl, rfl⟩ rfl
  exact ⟨_, _, _, _, _, _, ⟨rfl, rfl, rfl⟩,
    (((Run.nil _).snoc firstLease_step).snoc hread).snoc hacquire, (Run.nil _).snoc hpause,
    by decide, hsave, rfl, by decide⟩

/-- A fenced save under the first lease. -/
theorem lease_fencing_firstLease :
    firstLeaseSystem.row.leaseEpoch ≤ firstLeaseSystem.row.leaseEpoch ∧
    ∀ ev t', Guarded LeaseStep Undisturbed firstLeaseSystem ev t' →
      ∀ lease, ev.fencedWith = some lease →
        ∀ g ∈ firstLeaseSystem.granted, g.epoch ≤ lease.epoch := by
  have hrun : Run (Guarded LeaseStep Undisturbed) freshLeaseSystem [.acquire 0 7 90 0]
      firstLeaseSystem := (Run.nil _).snoc ⟨firstLease_step, trivial⟩
  have hsave : LeaseStep firstLeaseSystem (.save 0 firstLeaseRow (some ⟨7, 1⟩) false 5)
      firstLeaseSystem :=
    .save (show (0, firstLeaseRow) ∈ _ by decide) ⟨rfl, rfl, rfl⟩ rfl
  exact lease_fencing ⟨rfl, rfl, rfl⟩ hrun ((Run.nil _).snoc ⟨hsave, rfl⟩)

end Zest
