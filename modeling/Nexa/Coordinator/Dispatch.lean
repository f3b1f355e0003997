import Nexa.Application.Callbacks
import Nexa.Application.Control
import Nexa.Coordinator.Accounting

namespace Nexa

open Relational Outcome

structure Leader where
  holderId : Nat
  epoch : Nat

def invalidateReservation (db : Db) (reservationId : Nat) (now : Time) (reason : ReservationReason) : Db :=
  db.update .reservations
    (fun row => row.reservationId = reservationId ∧ row.invalidatedAt = none)
    (invalidatePatch now reason)

def dispatchingPatch (fence : Nat) : JobChanges where
  apply row := { row with state := .dispatching, jobFence := fence, waitingReason := none }

structure Offer where
  attempt : Attempt
  allocation : Allocation
  lease : AttemptLease
  grant : AuthorityGrant

def nextAttemptNumber (db : Db) (jobId : JobId) : Nat :=
  ((db.select .attempts fun row => row.jobId = jobId).map (·.attemptNumber)).foldl max 0 + 1

def offerOf (db : Db) (call : Call) (epoch : Nat) (workerId : WorkerId)
    (incarnationId : IncarnationId) (job : Job) (spec : JobSpec) : Offer :=
  let fence := job.jobFence + 1
  let attemptId := call.fresh 0
  let allocationId := call.fresh 1
  let leaseId := call.fresh 2
  { attempt :=
      { attemptId, tenantId := job.tenantId, jobId := job.jobId
        attemptNumber := nextAttemptNumber db job.jobId, state := .created
        executionIntent := ExecutionIntent.ofRecovery job.recoveryIntent, workerId
        workerIncarnationId := incarnationId, jobFence := fence, startupNonce := call.fresh 3
        failureClass := none, failureReason := none, progressSequence := 0
        progressSnapshot := none, startedAt := none, endedAt := none, claimedAt := none
        executionContext := none, executorOperationSequence := none
        dispatchCoordinatorEpoch := epoch, createdAt := call.now, updatedAt := call.now }
    allocation :=
      { allocationId, tenantId := job.tenantId, jobId := job.jobId, attemptId, workerId
        resources :=
          { cpuMillis := spec.resources.cpuMillis, memoryBytes := spec.resources.memoryBytes
            gpuCount := 0, cpu_pos := spec.resources.cpu_pos
            memory_pos := spec.resources.memory_pos, gpu_le := noGpu_le }
        state := .held, heldAt := call.now, quarantinedAt := none, releasedAt := none
        reconciliationSequence := 0 }
    lease :=
      { leaseId, tenantId := job.tenantId, jobId := job.jobId, attemptId, allocationId, workerId
        currentWorkerIncarnationId := incarnationId, jobFence := fence, issuedAt := call.now
        expiresAt := call.now + leaseDuration, revokedAt := none, revokeReason := none }
    grant :=
      { grantId := call.fresh 4, tenantId := job.tenantId, jobId := job.jobId, attemptId
        allocationId, leaseId, workerId, workerIncarnationId := incarnationId, jobFence := fence
        predecessorGrantId := none, callbackId := call.fresh 5, grantedAt := call.now
        endedAt := none } }

def writeOffer (db : Db) (leader : Leader) (now : Time) (job : Job) (offer : Offer) : Outcome Db := do
  let db ← insertInto db .attempts offer.attempt
  let db ← insertInto db .allocations offer.allocation
  let db ← insertInto db .attemptLeases offer.lease
  let db ← insertInto db .authorityGrants offer.grant
  let db ← takeActive db job.scopes now
  Dispatch.event db (some job) leader.holderId now .jobDispatching none false
    (dispatchingPatch offer.attempt.jobFence)

def applyDispatch (settings : Settings) (db : Db) (call : Call) (leader : Leader) (worker : Worker)
    (job : Job) (expectedJobVersion : Nat) (reservationId : Option Nat) : Outcome Db := do
  require
    (job.state = .queued ∧ dispatchable job.desiredState job.recoveryIntent = true ∧ job.version = expectedJobVersion)
    (.runtime "stale dispatch proposal")
  require
    ((db.select .authorityGrants fun grant =>
      grant.jobId = job.jobId ∧ grant.endedAt = none).isEmpty = true)
    (.runtime "job already has live authority")
  let spec ← one (db.select .jobSpecs fun row => row.jobId = job.jobId)
  require (spec.resources.gpuCount = 0) (.runtime "B11 CPU dispatch cannot grant a GPU")
  let incarnationId ← orFail (.integrity .attempts) worker.currentIncarnationId
  let db ← writeOffer db leader call.now job
    (offerOf db call leader.epoch worker.workerId incarnationId job spec)
  let db := match reservationId with
    | some id => invalidateReservation db id call.now .dispatched
    | none => db
  rebaseLocked settings.round db call.now call.segmentId

def applyDecision (settings : Settings) (db : Db) (call : Call) (leader : Leader) (worker : Worker)
    (job : Option Job) : SchedulingDecision -> Outcome Db
  | .invalidateReservation reservationId reason =>
    Dispatch.event (invalidateReservation db reservationId call.now reason) job leader.holderId call.now
      .reservationInvalidated (some (.reservation reason)) false noChanges
  | .createReservation _ _ reason => do
    let job ← orFail (.runtime "missing job") job
    let current ← one (db.select .policyVersions fun row => row.isCurrent)
    let db ← insertInto db .reservations
      { reservationId := call.fresh 0, tenantId := job.tenantId, jobId := job.jobId
        eligibilitySince := job.eligibleSince.getD call.now, policyVersion := current.policyVersion
        createdAt := call.now, invalidatedAt := none, invalidationReason := none }
    Dispatch.event db (some job) leader.holderId call.now .reservationCreated
      (some (.reservation reason)) false noChanges
  | .dispatch _ expectedJobVersion _ reservationId => do
    let job ← orFail (.runtime "missing job") job
    applyDispatch settings db call leader worker job expectedJobVersion reservationId
  | _ => .ok db

end Nexa
