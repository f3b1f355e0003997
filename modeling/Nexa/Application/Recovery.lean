import Mathlib.Data.List.Sort
import Nexa.Application.Events

namespace Nexa

open Relational Outcome

def revokePatch (now : Time) (reason : Option RevokeReason) : Patch nexaSchema .attemptLeases where
  apply lease := { lease with revokedAt := some now, revokeReason := reason }

def endGrantPatch (now : Time) : Patch nexaSchema .authorityGrants where
  apply grant := { grant with endedAt := some now }

def quarantinePatch (now : Time) : Patch nexaSchema .allocations where
  apply allocation := { allocation with state := .quarantined, quarantinedAt := some now }

def abandonResultPatch : Patch nexaSchema .resultReservations where
  apply reservation := { reservation with state := .abandoned }

def abandonCheckpointPatch (now : Time) : Patch nexaSchema .checkpointReservations where
  apply reservation := { reservation with state := .abandoned, endedAt := some now }

def fencePatch (now : Time) (state : AttemptState) (failureClass : FailureClass)
    (failureReason : FailureReason) : Patch nexaSchema .attempts where
  apply attempt :=
    { attempt with
      state, failureClass := some failureClass, failureReason := some failureReason, updatedAt := now }

def endAuthority (db : Db) (attemptId : AttemptId) (now : Time) (reason : Option RevokeReason) : Db :=
  (db.update .attemptLeases (fun lease => lease.attemptId = attemptId ∧ lease.revokedAt = none)
      (revokePatch now reason)).update
    .authorityGrants (fun grant => grant.attemptId = attemptId ∧ grant.endedAt = none)
      (endGrantPatch now)

def abandonReservations (db : Db) (attemptId : AttemptId) (now : Time) : Db :=
  (db.update .resultReservations
      (fun reservation => reservation.attemptId = attemptId ∧ reservation.state = .active)
      abandonResultPatch).update
    .checkpointReservations
      (fun reservation => reservation.attemptId = attemptId ∧ reservation.state = .reserved)
      (abandonCheckpointPatch now)

def fenceAttempt (db : Db) (attemptId : AttemptId) (now : Time) (state : AttemptState)
    (failureClass : FailureClass) (failureReason : FailureReason) (revokeReason : RevokeReason) : Db :=
  let db := db.update .attempts (fun attempt => attempt.attemptId = attemptId)
    (fencePatch now state failureClass failureReason)
  let db := endAuthority db attemptId now (some revokeReason)
  let db := db.update .allocations
    (fun allocation => allocation.attemptId = attemptId ∧ allocation.state = .held) (quarantinePatch now)
  abandonReservations db attemptId now

def revokeLeftoverAuthority (db : Db) (attemptId : AttemptId) (allocationId : AllocationId) (now : Time)
    (revokeReason : RevokeReason) : Db :=
  let db := endAuthority db attemptId now (some revokeReason)
  let db := db.update .allocations
    (fun allocation => allocation.allocationId = allocationId ∧ allocation.state = .held)
    (quarantinePatch now)
  abandonReservations db attemptId now

def recoverPatch (fence : Nat) : JobChanges where
  apply row := { row with state := .recovering, jobFence := fence }

structure Revocation where
  actor : Actor
  attemptState : AttemptState
  failureReason : FailureReason
  revokeReason : RevokeReason
  fenced : EventType
  reason : EventReason

/-- The job's desired state is kept, so a PAUSING job recovers toward PAUSED. -/
def revokeLease (db : Db) (revocation : Revocation) (now : Time) (job : Job) (attempt : Attempt)
    (lease : AttemptLease) : Outcome Db :=
  if job.state.active ∧ attempt.jobFence = job.jobFence then
    writeEvent
      (fenceAttempt db attempt.attemptId now revocation.attemptState .infrastructure
        revocation.failureReason revocation.revokeReason)
      job revocation.actor now revocation.fenced (some revocation.reason) false
      (recoverPatch (job.jobFence + 1))
  else
    -- A terminal job keeps its attempt state and fence; only the leftover authority goes.
    writeEvent
      (revokeLeftoverAuthority db attempt.attemptId lease.allocationId now revocation.revokeReason)
      job revocation.actor now .leaseRevoked (some revocation.reason) true noChanges

def restorableScope (db : Db) (jobId : JobId) (checkpoint : Checkpoint) : Bool :=
  checkpoint.jobId = jobId ∨
    (db.rows .checkpointReferences).any fun reference =>
      reference.targetJobId = jobId ∧ reference.sourceCheckpointId = checkpoint.checkpointId

def notCorrupt (db : Db) (checkpoint : Checkpoint) : Bool :=
  !(db.rows .checkpointCorruptions).any fun mark => mark.checkpointId = checkpoint.checkpointId

def committedCheckpoint (db : Db) (jobId : JobId) (attemptId : Option AttemptId) : Bool :=
  (db.rows .checkpoints).any fun checkpoint =>
    restorableScope db jobId checkpoint ∧ notCorrupt db checkpoint ∧
      (attemptId = none ∨ attemptId = some checkpoint.attemptId)

def restoreBefore (jobId : JobId) (left right : Checkpoint) : Bool :=
  let key (checkpoint : Checkpoint) : Nat := if checkpoint.jobId = jobId then 0 else 1
  key left < key right ∨ key left = key right ∧
    (right.sequence < left.sequence ∨ left.sequence = right.sequence ∧ right.checkpointId ≤ left.checkpointId)

def restorable (db : Db) (jobId : JobId) : List Checkpoint :=
  (db.select .checkpoints fun checkpoint =>
    restorableScope db jobId checkpoint ∧ notCorrupt db checkpoint).insertionSort
      fun left right => restoreBefore jobId left right

def inherits (db : Db) (jobId : JobId) : Bool :=
  (db.rows .checkpointReferences).any fun reference => reference.targetJobId = jobId

def specAndTemplate (db : Db) (jobId : JobId) : Outcome (JobSpec × TemplateVersion) := do
  let spec ← one (db.select .jobSpecs fun spec => spec.jobId = jobId)
  let template ← one (db.select .templateVersions fun template =>
    template.templateId = spec.templateId ∧ template.version = spec.templateVersion)
  return (spec, template)

def extendRetention (db : Db) (jobId : JobId) (terminalAt : Time) (retentionDays : Nat) : Db :=
  db.update .idempotencyRecords (fun record => record.resourceId = some jobId)
    { apply := fun record =>
        { record with
          expiresAt := max record.expiresAt (terminalAt + seconds (86400 * retentionDays)) } }

end Nexa
