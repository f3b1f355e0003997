import Nexa.Application.Checkpoint
import Nexa.Coordinator.Accounting

namespace Nexa

open Relational Outcome

def cleanupConflict : Failure := stateConflict "Cleanup identity or state is not valid"

inductive ProofKind where
  | noContainer (tombstoneSequence : Nat)
  | stopped (container : ContainerReference) (stoppedAt : Time)

structure CleanupProof where
  startupNonce : Nat
  executorOperationSequence : Nat
  kind : ProofKind

def containerOf (db : Db) (attemptId : AttemptId) : Outcome (Option ContainerIdentity) :=
  oneOrNone (db.select .containerIdentities fun row => row.attemptId = attemptId)

def operationSequence (attempt : Attempt) : Nat := match attempt.executorOperationSequence with
  | some 0 | none => 1
  | some sequence => sequence

def proofValid (attempt : Attempt) (container : Option ContainerIdentity) (proof : CleanupProof) : Bool :=
  let observed : Bool := match proof.kind, container with
    | .noContainer tombstone, none =>
      attempt.startedAt = none ∧ proof.executorOperationSequence ≤ tombstone
    | .stopped reference stoppedAt, some row =>
      reference.containerId = row.containerId ∧ reference.runtimeIdentityDigest = row.runtimeIdentityDigest ∧
        row.executorCreateSequence ≤ proof.executorOperationSequence ∧ row.createdAt ≤ stoppedAt
    | _, _ => false
  proof.startupNonce = attempt.startupNonce ∧ operationSequence attempt ≤ proof.executorOperationSequence ∧ observed

inductive Observation where
  | noContainer (proof : CleanupProof)
  | container (reference : ContainerReference) (observedAt : Time) (oomKilled : Bool)
      (runtimeLimitReached : Bool)

structure FailRequest where
  authority : Authority
  failureClass : FailureClass
  reasonCode : FailureReason
  observation : Observation

def failable : AttemptState -> Bool
  | .claimed | .starting | .running | .checkpointing => true
  | _ => false

def observeFailure (db : Db) (now : Time) (rows : AuthorityRows) (attemptId : AttemptId)
    (request : FailRequest) : Outcome Db := do
  let container ← containerOf db attemptId
  match request.observation with
  | .noContainer proof => do
    require (proofValid rows.attempt container proof = true) cleanupConflict
    require (request.failureClass ≠ .oom) (stateConflict "Failure class contradicts observation")
    return db
  | .container reference observedAt oomKilled runtimeLimitReached => do
    let bind : Bool :=
      container.isNone ∧ rows.attempt.state = .claimed ∧ rows.attempt.startedAt = none ∧
        rows.job.state = .dispatching ∧ rows.attempt.createdAt ≤ observedAt ∧
        observedAt ≤ now + seconds 5
    let db ←
      if bind then
        insertInto db .containerIdentities
          { tenantId := rows.job.tenantId, jobId := rows.job.jobId, attemptId
            allocationId := rows.allocation.allocationId, startupNonce := rows.attempt.startupNonce
            executorCreateSequence := operationSequence rows.attempt
            containerId := reference.containerId
            runtimeIdentityDigest := reference.runtimeIdentityDigest
            createdAt := observedAt, stoppedAt := none, verifiedAt := none }
      else .ok db
    let bound ← containerOf db attemptId
    let row ← orFail cleanupConflict bound
    require
      (reference.containerId = row.containerId ∧ reference.runtimeIdentityDigest = row.runtimeIdentityDigest)
      cleanupConflict
    let runtimeTimeout : Bool := request.failureClass = .timeout ∧ request.reasonCode = .runtimeLimitReached
    require
      (decide (request.failureClass = .oom) = oomKilled ∧ runtimeTimeout = runtimeLimitReached)
      (stateConflict "Failure class contradicts observation")
    return db

def commitFailure (db : Db) (now : Time) (workerId : WorkerId) (rows : AuthorityRows)
    (attemptId : AttemptId) (request : FailRequest) : Outcome (Db × Nat) := do
  let db := db.update .attempts (fun attempt => attempt.attemptId = attemptId)
    (fencePatch now .stopping request.failureClass request.reasonCode)
  let db := db.update .attemptLeases (fun lease => lease.leaseId = rows.lease.leaseId)
    (revokePatch now rows.lease.revokeReason)
  let db := db.update .authorityGrants (fun grant => grant.grantId = rows.grant.grantId)
    (endGrantPatch now)
  let db := db.update .allocations
    (fun allocation => allocation.allocationId = rows.allocation.allocationId) (quarantinePatch now)
  let (db, version) ← Cleanup.event db rows.job workerId now .attemptFailed
    (.failure request.reasonCode) false (recoverPatch (rows.job.jobFence + 1))
  return (abandonReservations db attemptId now, version)

def failAttempt (db : Db) (call : Call) (workerId : WorkerId) (attemptId : AttemptId)
    (callback : Callback) (request : FailRequest) : Outcome (Db × Acknowledgment) := do
  let (db, replay) ← beginCallback db call workerId .failAttempt callback
  let (mode, _) ← lockPolicyCounters db attemptId
  let worker ← workerAuth db call workerId
  let _ ← requireCurrentIncarnation db worker request.authority.workerIncarnationId false
  require (request.authority.attemptId = attemptId ∧ request.authority.workerId = workerId)
    cleanupConflict
  match replay with
  | some acknowledgment => return (db, acknowledgment)
  | none => do
    require (mode ≠ .writeFrozen) (stateConflict "Writes are frozen")
    let rows ← authorityRows db request.authority workerId
    require
      (rows.job.state.active = true ∧ rows.allocation.state = .held ∧
        rows.lease.revokedAt = none ∧ call.now < rows.lease.expiresAt)
      (staleAuthority "Failure authority is stale")
    require (rows.attempt.state ≠ .stopping) (staleAuthority "Attempt is already stopping")
    require (failable rows.attempt.state = true)
      (stateConflict "Attempt cannot fail in its state")
    require (request.reasonCode ∈ failureReasons request.failureClass)
      (.application
        { code := .validationFailed, status := 422, message := "Unknown failure reason" })
    let db ← observeFailure db call.now rows attemptId request
    let (db, version) ← commitFailure db call.now workerId rows attemptId request
    completeCallback db call (.failed callback.callbackId call.now .recovering version)

structure CleanupRequest where
  workerId : WorkerId
  workerIncarnationId : IncarnationId
  attemptId : AttemptId
  allocationId : AllocationId
  jobFence : Nat
  proof : CleanupProof
  jitter : Fin 1001

def storeCleanupAcknowledgment (db : Db) (call : Call) (workerId : WorkerId) (callbackId : CallbackId)
    (replay : Option Acknowledgment) (response : Acknowledgment) : Outcome (Db × Acknowledgment) :=
  match replay with
  | none => completeCallback db call response
  | some pending => do
    let selected (row : CallbackReceipt) : Bool :=
      row.workerId = workerId ∧ row.operation = .reportCleanup ∧ row.callbackId = callbackId ∧
        row.acknowledgment = some pending
    require ((db.select .callbackReceipts selected).length = 1)
      (.runtime "Pending cleanup receipt was not promoted")
    return (db.update .callbackReceipts selected (acknowledgePatch response), response)

def releasePatch (now : Time) : Patch nexaSchema .allocations where
  apply allocation := { allocation with state := .released, releasedAt := some now }

def pausedPatch : JobChanges where
  apply row := { row with recoveryIntent := none, waitingReason := none }

def retryPatch (paused : Bool) (retry : Nat) (readyAt : Time) : JobChanges where
  apply row :=
    { row with
      recoveryIntent := if paused then some .checkpointForPause else row.recoveryIntent
      retryCount := retry
      retryReadyAt := some readyAt
      waitingReason := some .waitingForRetry }

def endAttemptPatch (now : Time) (state : AttemptState) (reason : Option FailureReason) :
    Patch nexaSchema .attempts where
  apply attempt :=
    { attempt with
      state, failureReason := reason, endedAt := some now, updatedAt := now }

def endedState (attempt : Attempt) (ended : AttemptState) : AttemptState :=
  if attempt.state = .lost then .lost else ended

def retryBackoff (retry : Nat) (jitter : Nat) : Time := seconds (min 30 (2 ^ (retry - 1))) + milliseconds jitter

def newSchedule (job : Job) (retry : Nat) (readyAt : Time) (jitter : Nat) : RetrySchedule where
  jobId := job.jobId
  tenantId := job.tenantId
  retryNumber := retry
  readyAt := readyAt
  jitterMilliseconds := jitter
  closedAt := none

def recoverJob (db : Db) (job : Job) (attempt : Attempt) (now : Time) (jitter : Nat) :
    Outcome (Db × JobState × JobChanges) := do
  let (_, template) ← specAndTemplate db job.jobId
  let checkpointed := committedCheckpoint db job.jobId none
  let infrastructure : Bool := attempt.failureClass = some .infrastructure
  let paused : Bool := job.desiredState = .paused
  let ended (db : Db) : Db := db.update .attempts (fun row => row.attemptId = attempt.attemptId)
    (endAttemptPatch now (endedState attempt .failed) attempt.failureReason)
  if infrastructure ∧ paused ∧ checkpointed then return (ended db, .paused, pausedPatch)
  else if infrastructure ∧ job.retryCount < job.maxRetries ∧
      (template.restartSafe ∨ checkpointed ∧ ¬paused) then do
    -- Desired PAUSED without a checkpoint consumes one retry that only produces the checkpoint.
    let retry := job.retryCount + 1
    let readyAt := now + retryBackoff retry jitter
    let db ← insertInto db .retrySchedules (newSchedule job retry readyAt jitter)
    return (ended db, .retryWait, retryPatch paused retry readyAt)
  else return (ended db, .failed, noChanges)

def cleanupBranch (db : Db) (job : Job) (attempt : Attempt) (now : Time) (jitter : Nat) :
    Outcome (Db × JobState × JobChanges) :=
  let ofAttempt (row : Attempt) : Bool := row.attemptId = attempt.attemptId
  match job.state with
  | .cancelling =>
    .ok (db.update .attempts ofAttempt
      (endAttemptPatch now (endedState attempt .cancelled) attempt.failureReason),
      .cancelled, noChanges)
  | .pausing =>
    let db := db.update .attempts ofAttempt (endAttemptPatch now .cancelled (some .pause))
    .ok (db.update .resultReservations
      (fun row => row.attemptId = attempt.attemptId ∧ row.state = .active) abandonResultPatch,
      .paused, pausedPatch)
  | .recovering => recoverJob db job attempt now jitter
  | state => .ok (db, state, noChanges)

def releasedPatch (state : JobState) (terminalized : Bool) (now : Time) (branch : JobChanges) : JobChanges where
  apply row :=
    { branch.apply row with
      state
      recoveryIntent := if terminalized then none else (branch.apply row).recoveryIntent
      terminalAt := if terminalized then some now else (branch.apply row).terminalAt }
  keys_apply row := branch.keys_apply row
  indexes_apply row := branch.indexes_apply row
  refs_apply row := branch.refs_apply row
  owner_apply row := branch.owner_apply row

def stopContainerPatch (now stoppedAt : Time) : Patch nexaSchema .containerIdentities where
  apply row := { row with stoppedAt := some stoppedAt, verifiedAt := some now }

def stopContainer (db : Db) (attemptId : AttemptId) (now : Time) : ProofKind -> Db
  | .noContainer _ => db
  | .stopped _ stoppedAt =>
    db.update .containerIdentities (fun row => row.attemptId = attemptId)
      (stopContainerPatch now stoppedAt)

def releaseAllocation (settings : Settings) (db : Db) (call : Call) (workerId : WorkerId)
    (job : Job) (attempt : Attempt) (lease : AttemptLease) (counters : List AdmissionCounter)
    (request : CleanupRequest) : Outcome Db := do
  let db ← accountLocked settings.round db call.now call.observed
  let db := db.update .allocations
    (fun allocation => allocation.allocationId = request.allocationId) (releasePatch call.now)
  let (db, next, branch) ← cleanupBranch db job attempt call.now request.jitter
  let terminalized : Bool := next.terminal && !job.state.terminal
  let db ← adjustCounters db counters call.now terminalized.toNat 1
  let db :=
    if terminalized then
      extendRetention db job.jobId call.now settings.idempotencyTerminalRetentionDays
    else db
  let db ← rebaseLocked settings.round db call.now call.segmentId
  let db := stopContainer db attempt.attemptId call.now request.proof.kind
  let db :=
    if lease.revokedAt = none then
      db.update .attemptLeases (fun row => row.leaseId = lease.leaseId)
        (revokePatch call.now lease.revokeReason)
    else db
  let db := db.update .authorityGrants
    (fun grant => grant.attemptId = attempt.attemptId ∧ grant.endedAt = none) (endGrantPatch call.now)
  let (db, _) ← Cleanup.event db job workerId call.now .allocationReleased .verifiedCleanup false
    (releasedPatch next terminalized call.now branch)
  return db

def cleanable : JobState -> Bool
  | .succeeded | .failed | .cancelled | .recovering | .cancelling | .pausing => true
  | _ => false

def cleanupRows (db : Db) (workerId : WorkerId) (attemptId : AttemptId) (request : CleanupRequest) :
    Outcome (Job × Attempt × AttemptLease × Allocation) := do
  require (request.workerId = workerId ∧ request.attemptId = attemptId) cleanupConflict
  let attempt ← one (db.select .attempts fun row => row.attemptId = attemptId)
  let job ← one (db.select .jobs fun row => row.jobId = attempt.jobId)
  let lease ← one (db.select .attemptLeases fun row => row.attemptId = attemptId)
  let found ← oneOrNone (db.select .allocations fun row => row.allocationId = request.allocationId)
  let lineage ← oneOrNone (db.select .authorityGrants fun row =>
    row.attemptId = attemptId ∧ row.workerId = workerId ∧ row.workerIncarnationId = request.workerIncarnationId ∧
      row.allocationId = request.allocationId ∧ row.jobFence = request.jobFence)
  let allocation ← orFail cleanupConflict found
  require
    (lineage.isSome ∧ attempt.workerId = workerId ∧ attempt.jobFence = request.jobFence ∧
      allocation.attemptId = attemptId)
    cleanupConflict
  return (job, attempt, lease, allocation)

def Acknowledgment.isVerified : Acknowledgment -> Bool
  | .cleanup _ verified _ _ => verified
  | _ => false

def reportCleanup (settings : Settings) (db : Db) (call : Call) (workerId : WorkerId)
    (attemptId : AttemptId) (callback : Callback) (request : CleanupRequest) :
    Outcome (Db × Acknowledgment) := do
  let (db, replay) ← beginCallback db call workerId .reportCleanup callback
  let (mode, counters) ← lockPolicyCounters db attemptId
  let _ ← workerAuth db call workerId
  let (job, attempt, lease, allocation) ← cleanupRows db workerId attemptId request
  let container ← containerOf db attemptId
  require (proofValid attempt container request.proof = true) cleanupConflict
  let released := Acknowledgment.cleanup callback.callbackId true .released call.now
  match replay.filter Acknowledgment.isVerified with
  | some acknowledgment => return (db, acknowledgment)
  | none => do
    require (mode ≠ .writeFrozen) (stateConflict "Writes are frozen")
    if allocation.state = .released then
      storeCleanupAcknowledgment db call workerId callback.callbackId replay released
    else do
      require (cleanable job.state = true)
        (stateConflict "Failure or completion must be committed before cleanup")
      -- Only a pause checkpoint committed by this attempt ends the pause.
      require
        (job.state ≠ .pausing ∨ job.desiredState = .paused ∧ attempt.state = .stopping ∧
          committedCheckpoint db job.jobId (some attemptId) = true)
        (stateConflict "Pause checkpoint is not committed")
      if job.state = .recovering ∧ attempt.failureClass = none then
        match replay with
        | some acknowledgment => return (db, acknowledgment)
        | none =>
          completeCallback db call
            (.cleanup callback.callbackId false allocation.state call.now)
      else do
        let db ← releaseAllocation settings db call workerId job attempt lease counters request
        storeCleanupAcknowledgment db call workerId callback.callbackId replay released

end Nexa
