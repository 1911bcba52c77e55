import Zest.Orchestration

/-! # The orchestration row and its lease

`save`, `acquire_lease`, `renew_lease` and `release_lease` are each one
conditional `UPDATE` of the row, so each is a function from the row to the row
it leaves, or to the reason it leaves it alone.  The row of the run exists from
its start and is never deleted.

A save writes every column of the record it is given.  The record was read some
time before, and the lease columns are among its columns: what a save does to
the lease depends on how old its record is.
-/
namespace Zest

/-- Why `save` refused to write. -/
inductive SaveError where
  /-- Both kinds of fencing were asked for. -/
  | input
  /-- `TerminalOrchestrationStateError`. -/
  | terminal
  /-- `LeaseFencingError`. -/
  | fenced
  deriving DecidableEq, Repr

/-- Whom a fenced write must find as the holder: an owner and its epoch. -/
structure LeaseIdentity where
  owner : Id
  epoch : Nat
  deriving DecidableEq, Repr

variable (row : ResearchOrchestrationRecord)

/-- The row's lease is the given one. -/
def ResearchOrchestrationRecord.heldBy (lease : LeaseIdentity) : Bool :=
  row.ownerRuntimeInstanceId = some lease.owner && row.leaseEpoch = lease.epoch

/-- `lease_expires_at < server_now`; a missing time compares as unknown. -/
def ResearchOrchestrationRecord.leaseExpired (serverNow : Instant) : Bool :=
  match row.leaseExpiresAt with
  | none => false
  | some t => t < serverNow

/-- The row has no owner, or its lease has expired. -/
def ResearchOrchestrationRecord.unownedOrExpired (serverNow : Instant) : Bool :=
  row.ownerRuntimeInstanceId.isNone || row.leaseExpired serverNow

/-- `PostgresResearchOrchestrationRepository.save`.  The two `expect_` arguments
are given together or not at all. -/
def save (record : ResearchOrchestrationRecord) (expect : Option LeaseIdentity)
    (requireUnownedOrExpired : Bool) (serverNow : Instant) :
    Except SaveError ResearchOrchestrationRecord :=
  if expect.isSome && requireUnownedOrExpired then .error .input
  else if row.state.terminal then .error .terminal
  else if expect.any (fun lease => !row.heldBy lease) then .error .fenced
  else if requireUnownedOrExpired && !row.unownedOrExpired serverNow then .error .fenced
  else .ok record

/-- `acquire_lease`; `none` where it is denied. -/
def acquireLease (owner : Id) (ttl : Instant) (serverNow : Instant) :
    Option ResearchOrchestrationRecord :=
  if row.state.terminal then none
  else if row.unownedOrExpired serverNow || row.ownerRuntimeInstanceId = some owner then
    some { row with
      ownerRuntimeInstanceId := some owner
      leaseEpoch := row.leaseEpoch + 1
      leaseExpiresAt := some (serverNow + ttl) }
  else none

/-- `renew_lease`; `none` where it returns `False`. -/
def renewLease (lease : LeaseIdentity) (ttl : Instant) (serverNow : Instant) :
    Option ResearchOrchestrationRecord :=
  if row.heldBy lease && !row.state.terminal then
    some { row with leaseExpiresAt := some (serverNow + ttl) }
  else none

/-- `release_lease`; `none` where it returns `False`. -/
def releaseLease (lease : LeaseIdentity) : Option ResearchOrchestrationRecord :=
  if row.heldBy lease then
    some { row with ownerRuntimeInstanceId := none, leaseExpiresAt := none }
  else none

variable {row} {row' record : ResearchOrchestrationRecord} {expect : Option LeaseIdentity}
  {lease : LeaseIdentity} {require : Bool} {owner : Id} {ttl serverNow : Instant}

/-- **What a save does**, when it writes: the record, over a row that is not
terminal and that the expected lease holds. -/
theorem save_eq_ok (h : save row record expect require serverNow = .ok row') :
    row' = record ∧ row.state.terminal = false ∧
      (∀ lease ∈ expect, row.heldBy lease = true) ∧
      (require = true → row.unownedOrExpired serverNow = true) := by
  unfold save at h
  split at h
  · cases h
  split at h
  · cases h
  next hterminal =>
  split at h
  · cases h
  next hheld =>
  split at h
  · cases h
  next hfree =>
  cases h
  refine ⟨rfl, by simpa using hterminal, ?_, ?_⟩
  · rintro lease hlease
    obtain rfl : expect = some lease := hlease
    simpa using hheld
  · rintro rfl
    simpa using hfree

theorem acquireLease_eq_some (h : acquireLease row owner ttl serverNow = some row') :
    row' = { row with
      ownerRuntimeInstanceId := some owner
      leaseEpoch := row.leaseEpoch + 1
      leaseExpiresAt := some (serverNow + ttl) } ∧ row.state.terminal = false := by
  unfold acquireLease at h
  split at h
  · cases h
  next hterminal =>
  split at h
  · cases h; exact ⟨rfl, by simpa using hterminal⟩
  · cases h

theorem renewLease_eq_some (h : renewLease row lease ttl serverNow = some row') :
    row' = { row with leaseExpiresAt := some (serverNow + ttl) } := by
  unfold renewLease at h
  split at h
  · cases h; rfl
  · cases h

theorem releaseLease_eq_some (h : releaseLease row lease = some row') :
    row' = { row with ownerRuntimeInstanceId := none, leaseExpiresAt := none } := by
  unfold releaseLease at h
  split at h
  · cases h; rfl
  · cases h

theorem heldBy_epoch (h : row.heldBy lease = true) : row.leaseEpoch = lease.epoch := by
  simp only [ResearchOrchestrationRecord.heldBy, Bool.and_eq_true, decide_eq_true_eq] at h
  exact h.2

end Zest
