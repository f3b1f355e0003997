import Nexa.Store.Queries

namespace Nexa

open Relational Outcome

structure Settings where
  localWorkerId : WorkerId
  idempotencyTerminalRetentionDays : Nat
  /-- The decimal context of the accounting. -/
  round : ℚ -> ℚ

structure Call where
  now : Time
  observed : Time
  /-- The identifiers `new_uuid7` returns, in order. -/
  fresh : Nat -> Nat
  /-- The identifiers of new ledger segments, by allocation. -/
  segmentId : AllocationId -> Nat
  credentialValid : Bool

structure AuthorityRows where
  job : Job
  attempt : Attempt
  lease : AttemptLease
  allocation : Allocation
  grant : AuthorityGrant

structure Callback where
  callbackId : CallbackId
  payloadHash : Nat

def invalidCredentials : Failure :=
  .application { code := .authenticationRequired, status := 401, message := "Invalid credentials" }

def workerAuth (db : Db) (call : Call) (workerId : WorkerId) : Outcome Worker := do
  let found ← oneOrNone (db.select .workers fun row => row.workerId = workerId)
  let worker ← orFail invalidCredentials found
  require (call.credentialValid = true) invalidCredentials
  return worker

def requireCurrentIncarnation (db : Db) (worker : Worker) (incarnationId : IncarnationId)
    (requireReconciling : Bool) : Outcome WorkerIncarnation := do
  require (worker.currentIncarnationId = some incarnationId)
    (staleAuthority "Worker incarnation is stale")
  let found ← oneOrNone (db.select .workerIncarnations fun row =>
    row.workerId = worker.workerId ∧ row.workerIncarnationId = incarnationId)
  let incarnation ← orFail (staleAuthority "Worker incarnation is stale") found
  require (incarnation.endedAt = none) (staleAuthority "Worker incarnation is stale")
  require (requireReconciling = false ∨ incarnation.reconcileCompletedAt = none)
    (stateConflict "Worker reconciliation is complete")
  return incarnation

def beginCallback (db : Db) (call : Call) (workerId : WorkerId) (operation : CallbackOperation)
    (callback : Callback) : Outcome (Db × Option Acknowledgment) := do
  let _ ← operationalMode db
  match db.insert .callbackReceipts
      { receiptId := call.fresh 0, workerId, operation, callbackId := callback.callbackId
        payloadHash := callback.payloadHash, acknowledgment := none } with
  | some inserted => return (inserted, none)
  | none => do
    let row ← one (db.select .callbackReceipts fun row =>
      row.workerId = workerId ∧ row.operation = operation ∧ row.callbackId = callback.callbackId)
    require (row.payloadHash = callback.payloadHash)
      (.application
        { code := .idempotencyConflict, status := 409
          message := "Callback ID was already used with a different request" })
    let acknowledgment ← orFail
      (.application
        { code := .idempotencyInProgress, status := 409
          message := "An identical callback is still in progress", retryAfter := some 1 })
      row.acknowledgment
    return (db, some acknowledgment)

def acknowledgePatch (body : Acknowledgment) : Patch nexaSchema .callbackReceipts where
  apply receipt := { receipt with acknowledgment := some body }

def completeCallback (db : Db) (call : Call) (body : Acknowledgment) :
    Outcome (Db × Acknowledgment) := do
  require
    ((db.select .callbackReceipts fun row =>
      row.receiptId = call.fresh 0 ∧ row.acknowledgment = none).length = 1)
    (.runtime "Callback receipt is not pending")
  return (db.update .callbackReceipts
    (fun row => row.receiptId = call.fresh 0 ∧ row.acknowledgment = none) (acknowledgePatch body), body)

def authorityRows (db : Db) (authority : Authority) (workerId : WorkerId) : Outcome AuthorityRows := do
  require (authority.workerId = workerId)
    (.application
      { code := .permissionDenied, status := 403, message := "Worker authority mismatch" })
  let reference ← oneOrNone (db.select .attempts fun row => row.attemptId = authority.attemptId)
  let attempt ← orFail (stateConflict "Attempt is not available") reference
  let job ← one (db.select .jobs fun row => row.jobId = attempt.jobId)
  let foundLease ← oneOrNone (db.select .attemptLeases fun row => row.leaseId = authority.leaseId)
  let foundAllocation ←
    oneOrNone (db.select .allocations fun row => row.allocationId = authority.allocationId)
  let foundGrant ← oneOrNone (db.select .authorityGrants fun row =>
    row.attemptId = authority.attemptId ∧ row.endedAt = none)
  -- A committed cancel fenced this authority; only the attempt's own worker learns of it.
  require (¬(job.desiredState = .cancelled ∧ job.jobId = attempt.jobId ∧ attempt.workerId = workerId))
    (staleAuthority "Job cancellation is committed")
  let stale := staleAuthority "Worker authority is stale"
  let lease ← orFail stale foundLease
  let allocation ← orFail stale foundAllocation
  let grant ← orFail stale foundGrant
  require
    (job.jobFence = authority.jobFence ∧ attempt.jobFence = authority.jobFence ∧ attempt.workerId = workerId)
    stale
  require
    (lease.attemptId = authority.attemptId ∧ lease.allocationId = authority.allocationId ∧
      lease.workerId = workerId ∧ lease.jobFence = authority.jobFence)
    stale
  require
    (allocation.attemptId = authority.attemptId ∧ allocation.jobId = job.jobId ∧ allocation.workerId = workerId)
    stale
  require
    (grant.workerIncarnationId = authority.workerIncarnationId ∧ grant.leaseId = authority.leaseId ∧
      grant.allocationId = authority.allocationId ∧ grant.workerId = workerId ∧
      grant.jobFence = authority.jobFence)
    stale
  return { job, attempt, lease, allocation, grant }

/-- The combinations under which an attempt is live. -/
def livePhase (job : Job) (attempt : Attempt) : Bool :=
  let normalRun :=
    job.desiredState = .running ∧ (job.state = .dispatching ∨ job.state = .running) ∧ attempt.executionIntent = .run
  let pausingRun := job.desiredState = .paused ∧ job.state = .pausing ∧ attempt.executionIntent = .run
  let checkpointForPause :=
    job.desiredState = .paused ∧ (job.state = .dispatching ∨ job.state = .pausing) ∧
      attempt.executionIntent = .checkpointForPause
  normalRun ∨ pausingRun ∨ checkpointForPause

def liveAttemptState (desired : DesiredState) : AttemptState -> Bool
  | .created | .claimed | .starting | .running | .checkpointing => true
  | .stopping => desired = .paused
  | _ => false

def liveAuthority (rows : AuthorityRows) (now : Time) : Outcome Unit := do
  require (rows.job.desiredState ≠ .cancelled) (staleAuthority "Job cancellation is committed")
  require
    (livePhase rows.job rows.attempt = true ∧ liveAttemptState rows.job.desiredState rows.attempt.state = true ∧
      rows.allocation.state = .held ∧ rows.lease.revokedAt = none ∧ now < rows.lease.expiresAt)
    (staleAuthority "Attempt is not live")

def resultAuthority (job : Job) (attempt : Attempt) : Outcome Unit :=
  require (job.desiredState = .running ∧ attempt.executionIntent = .run)
    (staleAuthority "Attempt may not produce a result")

/-- `_callback`: the rows of the authority, unless it is a replay. -/
def callbackRows (db : Db) (call : Call) (operation : CallbackOperation) (callback : Callback)
    (authority : Authority) (attemptId : AttemptId) :
    Outcome (Db × (Acknowledgment ⊕ AuthorityRows)) := do
  require (authority.attemptId = attemptId) (stateConflict "Attempt identity mismatch")
  let (db, replay) ← beginCallback db call authority.workerId operation callback
  let worker ← workerAuth db call authority.workerId
  let _ ← requireCurrentIncarnation db worker authority.workerIncarnationId false
  match replay with
  | some acknowledgment => return (db, .inl acknowledgment)
  | none => do
    let rows ← authorityRows db authority authority.workerId
    return (db, .inr rows)

end Nexa
