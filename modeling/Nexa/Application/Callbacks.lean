import Nexa.Application.Authority
import Nexa.Application.Recovery

namespace Nexa

open Relational Outcome

def leaseDuration : Time := seconds 45

structure ContainerReference where
  containerId : Nat
  runtimeIdentityDigest : Nat

structure AdoptRequest where
  priorAuthority : Authority
  currentWorkerIncarnationId : IncarnationId
  container : ContainerReference

def CheckpointReservation.ticket (row : CheckpointReservation) : CheckpointTicket where
  callbackId := row.callbackId
  checkpointId := row.checkpointId
  jobId := row.jobId
  attemptId := row.attemptId
  sequence := row.sequence
  reservedAt := row.reservedAt

def ResultReservation.ticket (row : ResultReservation) : ResultTicket where
  callbackId := row.callbackId
  resultId := row.resultId
  jobId := row.jobId
  attemptId := row.attemptId
  reservedAt := row.reservedAt

/-- An open reservation must be of the grant that is handed over. -/
def requireLineage (reservationGrant : Option GrantId) (grant : AuthorityGrant) : Outcome Unit :=
  require (reservationGrant = none ∨ reservationGrant = some grant.grantId)
    (stateConflict "Reservation lineage mismatch")

def adoptLeasePatch (incarnationId : IncarnationId) (expiry : Time) : Patch nexaSchema .attemptLeases where
  apply lease := { lease with currentWorkerIncarnationId := incarnationId, expiresAt := expiry }

def adoptAttemptPatch (incarnationId : IncarnationId) (now : Time) : Patch nexaSchema .attempts where
  apply attempt := { attempt with workerIncarnationId := incarnationId, updatedAt := now }

def regrantCheckpointPatch (grantId : GrantId) : Patch nexaSchema .checkpointReservations where
  apply reservation := { reservation with authorityGrantId := grantId }

def regrantResultPatch (grantId : GrantId) : Patch nexaSchema .resultReservations where
  apply reservation := { reservation with authorityGrantId := grantId }

def successorGrant (call : Call) (callback : Callback) (request : AdoptRequest) (rows : AuthorityRows) :
    AuthorityGrant where
  grantId := call.fresh 1
  tenantId := rows.attempt.tenantId
  jobId := rows.job.jobId
  attemptId := request.priorAuthority.attemptId
  allocationId := request.priorAuthority.allocationId
  leaseId := request.priorAuthority.leaseId
  workerId := request.priorAuthority.workerId
  workerIncarnationId := request.currentWorkerIncarnationId
  jobFence := request.priorAuthority.jobFence
  predecessorGrantId := some rows.grant.grantId
  callbackId := callback.callbackId
  grantedAt := call.now
  endedAt := none

def transferAuthority (db : Db) (call : Call) (callback : Callback) (request : AdoptRequest)
    (rows : AuthorityRows) (checkpoint : Option CheckpointReservation)
    (result : Option ResultReservation) : Outcome Db := do
  let prior := request.priorAuthority
  let grant := successorGrant call callback request rows
  let db := db.update .authorityGrants (fun row => row.grantId = rows.grant.grantId)
    (endGrantPatch call.now)
  let db ← insertInto db .authorityGrants grant
  let db := db.update .attempts (fun attempt => attempt.attemptId = prior.attemptId)
    (adoptAttemptPatch request.currentWorkerIncarnationId call.now)
  let db := db.update .attemptLeases (fun lease => lease.leaseId = prior.leaseId)
    (adoptLeasePatch request.currentWorkerIncarnationId (call.now + leaseDuration))
  let db := db.update .checkpointReservations
    (fun reservation => some reservation.checkpointId = checkpoint.map (·.checkpointId))
    (regrantCheckpointPatch grant.grantId)
  return db.update .resultReservations
    (fun reservation => some reservation.resultId = result.map (·.resultId))
    (regrantResultPatch grant.grantId)

def adoptAttempt (db : Db) (call : Call) (workerId : WorkerId) (attemptId : AttemptId)
    (callback : Callback) (request : AdoptRequest) : Outcome (Db × Acknowledgment) := do
  let (db, replay) ← beginCallback db call workerId .adoptAttempt callback
  let mode ← operationalMode db
  let worker ← workerAuth db call workerId
  let incarnation ← requireCurrentIncarnation db worker request.currentWorkerIncarnationId true
  let prior := request.priorAuthority
  require (prior.attemptId = attemptId ∧ prior.workerId = workerId) (stateConflict "Authority mismatch")
  let found ← oneOrNone (db.select .workerIncarnations fun row =>
    row.workerIncarnationId = prior.workerIncarnationId ∧ row.workerId = workerId)
  let predecessor ← orFail (stateConflict "Not the prior incarnation") found
  require (predecessor.endedAt ≠ none ∧ predecessor.sequence + 1 = incarnation.sequence)
    (stateConflict "Not the prior incarnation")
  match replay with
  | some acknowledgment => return (db, acknowledgment)
  | none => do
    require (mode ≠ .writeFrozen) (stateConflict "Writes are frozen")
    let rows ← authorityRows db prior workerId
    let foundContainer ← oneOrNone (db.select .containerIdentities fun row =>
      row.attemptId = attemptId ∧ row.containerId = request.container.containerId)
    let container ← orFail (stateConflict "Container identity mismatch") foundContainer
    require
      (container.allocationId = prior.allocationId ∧ container.startupNonce = rows.attempt.startupNonce ∧
        container.runtimeIdentityDigest = request.container.runtimeIdentityDigest ∧
        container.stoppedAt = none)
      (stateConflict "Container identity mismatch")
    let checkpoint ← oneOrNone (db.select .checkpointReservations fun row =>
      row.attemptId = attemptId ∧ row.state = .reserved)
    let result ← oneOrNone (db.select .resultReservations fun row =>
      row.attemptId = attemptId ∧ row.state = .active)
    requireLineage (checkpoint.map (·.authorityGrantId)) rows.grant
    requireLineage (result.map (·.authorityGrantId)) rows.grant
    liveAuthority rows call.now
    require
      (rows.attempt.workerIncarnationId = prior.workerIncarnationId ∧
        rows.lease.currentWorkerIncarnationId = prior.workerIncarnationId)
      (staleAuthority "Authority is stale")
    let db ← transferAuthority db call callback request rows checkpoint result
    completeCallback db call
      (.adopted callback.callbackId call.now
        { prior with workerIncarnationId := request.currentWorkerIncarnationId }
        (checkpoint.map CheckpointReservation.ticket) (result.map ResultReservation.ticket)
        (call.now + leaseDuration))

structure RenewRequest where
  authority : Authority
  progressSequence : Nat
  progress : Option Nat

def expiryPatch (expiry : Time) : Patch nexaSchema .attemptLeases where
  apply lease := { lease with expiresAt := expiry }

def progressPatch (now : Time) (sequence : Nat) (progress : Option Nat) : Patch nexaSchema .attempts where
  apply attempt := { attempt with progressSequence := sequence, progressSnapshot := progress, updatedAt := now }

def renewAttempt (db : Db) (call : Call) (workerId : WorkerId) (attemptId : AttemptId)
    (callback : Callback) (request : RenewRequest) : Outcome (Db × Acknowledgment) := do
  let (db, replay) ← beginCallback db call workerId .renewAttempt callback
  let mode ← operationalMode db
  let worker ← workerAuth db call workerId
  let authority := request.authority
  require
    (authority.attemptId = attemptId ∧ worker.currentIncarnationId = some authority.workerIncarnationId)
    (staleAuthority "Authority is stale")
  let _ ← requireCurrentIncarnation db worker authority.workerIncarnationId false
  match replay with
  | some acknowledgment => return (db, acknowledgment)
  | none => do
    require (mode ≠ .writeFrozen) (stateConflict "Writes are frozen")
    let rows ← authorityRows db authority workerId
    liveAuthority rows call.now
    require
      (rows.attempt.workerIncarnationId = authority.workerIncarnationId ∧
        rows.lease.currentWorkerIncarnationId = authority.workerIncarnationId)
      (staleAuthority "Authority is stale")
    require
      (¬(request.progressSequence < rows.attempt.progressSequence ∨
        request.progressSequence = rows.attempt.progressSequence ∧ request.progress ≠ rows.attempt.progressSnapshot))
      (stateConflict "Progress sequence conflicts")
    let db :=
      if rows.attempt.progressSequence < request.progressSequence then
        db.update .attempts (fun attempt => attempt.attemptId = attemptId)
          (progressPatch call.now request.progressSequence request.progress)
      else db
    let db := db.update .attemptLeases (fun lease => lease.leaseId = authority.leaseId)
      (expiryPatch (call.now + leaseDuration))
    completeCallback db call
      (.renewed call.now (call.now + leaseDuration) rows.job.desiredState)

end Nexa
