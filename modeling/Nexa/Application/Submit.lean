import Nexa.Application.Control
import Nexa.Coordinator.Accounting

namespace Nexa

open Relational Outcome

structure Spec where
  templateId : Nat
  templateVersion : Nat
  resources : Resources
  priority : Nat
  /-- What validation of template, parameters and artifacts raised. -/
  refusal : Option ApplicationError
  supportedBy : List Nat

def workerIsReady (worker : Worker) (now : Time) : Bool :=
  worker.health = .ready ∧ worker.adminState = .enabled ∧
    worker.lastHeartbeatAt.any fun heartbeat => now ≤ heartbeat + seconds 30

def schedulableWorkers (db : Db) : List (Worker × WorkerInventory) :=
  (db.select .workers fun worker => worker.adminState ≠ .disabled).flatMap fun worker =>
    (db.select .workerInventories fun inventory =>
      inventory.workerId = worker.workerId ∧ worker.currentIncarnationId = some inventory.workerIncarnationId ∧
        worker.currentInventoryVersion = some inventory.inventoryVersion).map fun inventory =>
          (worker, inventory)

def waitingReason (db : Db) (spec : Spec) (now : Time) : Outcome (Option WaitingReason) := do
  let rows := schedulableWorkers db
  if rows.isEmpty then do
    require (spec.resources.gpuCount = 0) (infeasible "No configured GPU can satisfy the request")
    return some .waitingForWorker
  else do
    let capable := rows.filter fun row =>
      spec.resources.amounts.Fits row.2.capacity ∧ row.2.inventoryId ∈ spec.supportedBy
    require (capable.isEmpty = false) (infeasible "No configured worker can satisfy the request")
    return if capable.any fun row => workerIsReady row.1 now then none else some .waitingForWorker

structure Admission where
  policy : TenantPolicy
  globalCounter : AdmissionCounter

def admitJob (db : Db) (call : Call) (user : UserId) (tenantId : TenantId)
    (storage : Option ApplicationError) : Outcome (Db × Admission) := do
  let current ← one (db.select .policyVersions fun row => row.isCurrent)
  require (current.operationalMode = .normal)
    (stateConflict "New job submissions are disabled in the current operational mode")
  refuse storage
  let found ← oneOrNone (db.select .tenantPolicies fun row => row.tenantId = tenantId ∧ row.isCurrent)
  let policy ← orFail (dependencyUnavailable "Tenant admission policy is unavailable") found
  let (db, globalCounter) ← counterLock db .global call.now
  let (db, tenantCounter) ← counterLock db (.tenant tenantId) call.now
  let (db, userCounter) ← counterLock db (.user tenantId user) call.now
  require (globalCounter.outstanding < current.globalOutstandingLimit)
    (.application
      { code := .queueFull, status := 503, message := "The durable queue is full"
        retryAfter := some 1 })
  require (tenantCounter.outstanding < policy.outstandingLimit)
    (.application
      { code := .quotaExceeded, status := 429, message := "Tenant outstanding quota exceeded"
        retryAfter := some 1 })
  require (userCounter.outstanding < policy.userOutstandingLimit)
    (.application
      { code := .quotaExceeded, status := 429, message := "User outstanding quota exceeded"
        retryAfter := some 1 })
  let db ← rateLock db (.tenant tenantId) policy.tenantRateBurst policy.tenantRatePerSecond call.now
  let db ← rateLock db (.user tenantId user) policy.userRateBurst policy.userRatePerSecond call.now
  return (db, { policy, globalCounter })

def defaultMaxRetries : Nat := 2

def newJob (jobId : JobId) (tenantId : TenantId) (user : UserId) (spec : Spec)
    (waiting : Option WaitingReason) (readySequence : Nat) (now : Time) (retryOf : Option JobId) :
    Job where
  jobId := jobId
  tenantId := tenantId
  submitterUserId := user
  state := .queued
  desiredState := .running
  waitingReason := waiting
  recoveryIntent := none
  version := 1
  jobFence := 0
  eventSequence := 1
  checkpointSequence := 0
  retryCount := 0
  maxRetries := defaultMaxRetries
  retryOfJobId := retryOf
  basePriority := spec.priority
  readySequence := readySequence
  eligibleSince := some now
  retryReadyAt := none
  terminalAt := none
  updatedAt := now

/-- A QUEUED job graph with its outstanding admission. -/
def createJob (db : Db) (now : Time) (user : UserId) (tenantId : TenantId) (jobId : JobId)
    (spec : Spec) (admission : Admission) (retryOf : Option JobId) (reason : EventReason) :
    Outcome Db := do
  refuse spec.refusal
  let limit : ResourceCapacity :=
    ⟨admission.policy.cpuLimitMillis, admission.policy.memoryLimitBytes, admission.policy.gpuLimit⟩
  require (spec.resources.amounts.Fits limit)
    (infeasible "Requested resources exceed the tenant limit")
  let waiting ← waitingReason db spec now
  let db ← insertInto db .jobs
    (newJob jobId tenantId user spec waiting admission.globalCounter.version now retryOf)
  let db ← insertInto db .jobSpecs
    { jobId, tenantId, templateId := spec.templateId, templateVersion := spec.templateVersion
      resources := spec.resources }
  let db ← insertInto db .events
    { tenantId, jobId, sequence := 1, eventType := .jobAccepted, reason := some reason
      actor := .user user, createdAt := now }
  return takeOutstanding db (Scope.ofJob tenantId user) now

def acceptedResponse (jobId : JobId) : StoredResponse where
  status := 202
  resourceId := some jobId
  jobState := some .queued
  jobVersion := some 1

structure SubmitRequest extends Request where
  tenantId : TenantId
  spec : Spec
  storage : Option ApplicationError

def submitUseCase (settings : Settings) (db : Db) (call : Call) (request : SubmitRequest)
    (storage : Option ApplicationError) : Outcome (Db × StoredResponse) := do
  let user := request.principal.userId
  authorize request.principal
  let (db, replay) ← beginIdempotency db call (.tenant request.tenantId) user .submitJob request.key
    request.requestHash (call.now + retention settings)
  match replay with
  | some response => return (db, response)
  | none => do
    let (db, admission) ← admitJob db call user request.tenantId storage
    let jobId := call.fresh 1
    let db ← createJob db call.now user request.tenantId jobId request.spec admission none .accepted
    completeIdempotency db call (acceptedResponse jobId)

def submit (settings : Settings) (db : Db) (call : Call) (request : SubmitRequest) : Outcome (Db × StoredResponse) :=
  submitUseCase settings db call request request.storage

/-- A sweep child skips the storage check, its parent was checked at creation. -/
def submitChild (settings : Settings) (db : Db) (call : Call) (request : SubmitRequest) :
    Outcome (Db × StoredResponse) :=
  submitUseCase settings db call request none

structure RetryRequest extends Request where
  tenantId : TenantId
  jobId : JobId
  ifMatch : Option Nat
  /-- Its priority and what its checks find when it is admitted again. -/
  spec : Spec
  checkpointId : Option CheckpointId
  /-- What the scan and the recheck say of the requested checkpoint. -/
  checkpointVerdict : Option ApplicationError

def retryLineage (db : Db) (tenantId : TenantId) : Nat -> JobId -> List JobId
  | 0, _ => []
  | fuel + 1, jobId =>
    match (db.rows .jobs).find? fun row => row.tenantId = tenantId ∧ row.jobId = jobId with
    | none => []
    | some job => jobId :: (job.retryOfJobId.elim [] (retryLineage db tenantId fuel))

def lockRetryCheckpoint (db : Db) (request : RetryRequest) : Outcome Unit := match request.checkpointId with
  | none => .ok ()
  | some checkpointId => do
    let missing : Failure :=
      .application
        { code := .resourceNotFound, status := 404, message := "Checkpoint was not found" }
    let found ← oneOrNone (db.select .checkpoints fun row =>
      row.checkpointId = checkpointId ∧ row.tenantId = request.tenantId)
    let row ← orFail missing found
    match visibleSubmitter db request.principal request.tenantId row.jobId with
    | .error _ => .error missing
    | .ok _ => do
      refuse request.checkpointVerdict
      let lineage := retryLineage db request.tenantId (db.rows .jobs).length request.jobId
      require (notCorrupt db row = true ∧ row.jobId ∈ lineage)
        (infeasible "Checkpoint is not a compatible committed checkpoint")

def retryFailedJob (settings : Settings) (db : Db) (call : Call) (request : RetryRequest) :
    Outcome (Db × StoredResponse) := do
  let user := request.principal.userId
  authorize request.principal
  let _ ← visibleSubmitter db request.principal request.tenantId request.jobId
  let (db, replay) ← beginIdempotency db call (.tenant request.tenantId) user .retryJob request.key
    request.requestHash (call.now + retention settings)
  match replay with
  | some response => return (db, response)
  | none => do
    let expected ← resolveExpectedVersion request.ifMatch
    let (db, admission) ← admitJob db call user request.tenantId none
    let source ← one (db.select .jobs fun row =>
      row.tenantId = request.tenantId ∧ row.jobId = request.jobId)
    require (source.version = expected) (versionConflict "Job version does not match If-Match")
    require (source.state = .failed) (cannotBe source "retried")
    let sourceSpec ← one (db.select .jobSpecs fun row => row.jobId = request.jobId)
    lockRetryCheckpoint db request
    let jobId := call.fresh 1
    let spec : Spec :=
      { request.spec with
        templateId := sourceSpec.templateId, templateVersion := sourceSpec.templateVersion
        resources := sourceSpec.resources }
    let db ← createJob db call.now user request.tenantId jobId spec admission (some request.jobId)
      .manualRetry
    let db ←
      match request.checkpointId with
      | none => .ok db
      | some checkpointId =>
        insertInto db .checkpointReferences
          { tenantId := request.tenantId, sourceCheckpointId := checkpointId
            targetJobId := jobId }
    completeIdempotency db call (acceptedResponse jobId)

end Nexa
