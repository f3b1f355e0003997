import Nexa.Store.Rows

namespace Nexa

structure PolicyVersion where
  policyVersion : Nat
  globalOutstandingLimit : Nat
  operationalMode : OperationalMode
  isCurrent : Bool

structure TenantPolicy where
  tenantId : TenantId
  version : Nat
  weight : ℚ
  cpuLimitMillis : Nat
  memoryLimitBytes : Nat
  gpuLimit : Nat
  outstandingLimit : Nat
  userOutstandingLimit : Nat
  tenantActiveLimit : Nat
  userActiveLimit : Nat
  tenantRatePerSecond : ℚ
  tenantRateBurst : ℚ
  userRatePerSecond : ℚ
  userRateBurst : ℚ
  isCurrent : Bool
  weight_pos : 0 < weight
  tenantActive_pos : 0 < tenantActiveLimit
  userActive_pos : 0 < userActiveLimit

structure AdmissionCounter where
  scope : Scope
  outstanding : Nat
  activeAttempts : Nat
  version : Nat
  updatedAt : Time

structure RateBucket where
  scope : Scope
  tokens : ℚ
  capacity : ℚ
  refillRate : ℚ
  lastRefillAt : Time
  version : Nat

structure Worker where
  workerId : WorkerId
  adminState : AdminState
  health : WorkerHealth
  currentIncarnationId : Option IncarnationId
  currentInventoryVersion : Option Nat
  lastHeartbeatAt : Option Time
  readyAt : Option Time
  version : Nat

structure WorkerIncarnation where
  workerIncarnationId : IncarnationId
  workerId : WorkerId
  sequence : Nat
  processStartNonce : Nat
  processStartedAt : Time
  reconcileCompletedAt : Option Time
  readyAt : Option Time
  endedAt : Option Time

structure WorkerInventory where
  inventoryId : Nat
  workerId : WorkerId
  workerIncarnationId : IncarnationId
  inventoryVersion : Nat
  architecture : Nat
  allocatableCpuMillis : Nat
  allocatableMemoryBytes : Nat
  allocatableGpuCount : Nat
  checksum : Nat
  observedAt : Time

inductive CallbackOperation where
  | claimAttempt | startAttempt | renewAttempt | adoptAttempt | reserveCheckpoint | publishCheckpoint
  | reserveResult | completeAttempt | failAttempt | reportCleanup | workerHeartbeat
deriving DecidableEq

structure Authority where
  workerId : WorkerId
  workerIncarnationId : IncarnationId
  attemptId : AttemptId
  allocationId : AllocationId
  leaseId : LeaseId
  jobFence : Nat
deriving DecidableEq

structure ResultTicket where
  callbackId : CallbackId
  resultId : ResultId
  jobId : JobId
  attemptId : AttemptId
  reservedAt : Time
deriving DecidableEq

structure CheckpointTicket where
  callbackId : CallbackId
  checkpointId : CheckpointId
  jobId : JobId
  attemptId : AttemptId
  sequence : Nat
  reservedAt : Time
deriving DecidableEq

/-- Stored in the receipt, so that a replay returns the same body. -/
inductive Acknowledgment where
  | claimed (callbackId : CallbackId) (serverTime : Time) (jobState : JobState) (jobVersion : Nat)
      (context : ExecutionContext)
  | started (callbackId : CallbackId) (serverTime : Time) (jobState : JobState) (jobVersion : Nat)
      (leaseExpiresAt : Time)
  | renewed (serverTime : Time) (leaseExpiresAt : Time) (desiredState : DesiredState)
  | adopted (callbackId : CallbackId) (serverTime : Time) (authority : Authority)
      (checkpoint : Option CheckpointTicket) (result : Option ResultTicket) (leaseExpiresAt : Time)
  | resultReserved (ticket : ResultTicket)
  | checkpointReserved (ticket : CheckpointTicket)
  | checkpointCommitted (checkpoint : Checkpoint)
  | checkpointRejected (code : ErrorCode) (message : String)
  | completed (callbackId : CallbackId) (serverTime : Time) (jobState : JobState) (jobVersion : Nat)
  | failed (callbackId : CallbackId) (serverTime : Time) (jobState : JobState) (jobVersion : Nat)
  | cleanup (callbackId : CallbackId) (verified : Bool) (allocationState : AllocationState)
      (serverTime : Time)
  | heartbeat (serverTime : Time) (adminState : AdminState) (acceptedIncarnationId : IncarnationId)
deriving DecidableEq

structure CallbackReceipt where
  receiptId : Nat
  workerId : WorkerId
  operation : CallbackOperation
  callbackId : CallbackId
  payloadHash : Nat
  acknowledgment : Option Acknowledgment

inductive RequestOperation where
  | submitJob | retryJob | cancelJob | pauseJob | resumeJob | submitSweep | createIncarnation
  | updateTenantPolicy | updateGlobalPolicy | disableWorker | drainWorker | enableWorker | createTenant
deriving DecidableEq

structure StoredResponse where
  status : Nat
  resourceId : Option Nat
  jobState : Option JobState
  jobVersion : Option Nat
deriving DecidableEq

inductive RequestContext where
  | global
  | tenant (id : TenantId)
  | worker (id : WorkerId)
deriving DecidableEq

structure IdempotencyRecord where
  idempotencyId : Nat
  context : RequestContext
  principalId : Nat
  operation : RequestOperation
  key : Nat
  requestHash : Nat
  response : Option StoredResponse
  resourceId : Option Nat
  expiresAt : Time

structure FairnessState where
  virtualFloor : ℚ
  version : Nat
  updatedAt : Time

structure FairnessLedger where
  tenantId : TenantId
  virtualScore : ℚ
  accountedThrough : Time
  hadEligibleDemand : Bool
  version : Nat

structure LedgerSegment where
  segmentId : Nat
  allocationId : AllocationId
  tenantId : TenantId
  startedAt : Time
  endedAt : Option Time
  dominantShare : ℚ
  weight : ℚ
  chargedAmount : ℚ
  policyVersion : Nat

end Nexa
