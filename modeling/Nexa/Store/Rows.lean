import Nexa.Store.Enums

/-! The columns that the modelled transactions read or write. Checks of the database on one row are its fields. -/

namespace Nexa

structure Job where
  jobId : JobId
  tenantId : TenantId
  submitterUserId : UserId
  state : JobState
  desiredState : DesiredState
  waitingReason : Option WaitingReason
  recoveryIntent : Option RecoveryIntent
  version : Nat
  jobFence : Nat
  eventSequence : Nat
  checkpointSequence : Nat
  retryCount : Nat
  maxRetries : Nat
  retryOfJobId : Option JobId
  basePriority : Nat
  readySequence : Nat
  eligibleSince : Option Time
  retryReadyAt : Option Time
  terminalAt : Option Time
  updatedAt : Time

structure Resources where
  cpuMillis : Nat
  memoryBytes : Nat
  gpuCount : Nat
  cpu_pos : 0 < cpuMillis
  memory_pos : 0 < memoryBytes
  gpu_le : gpuCount ≤ 1
deriving DecidableEq

theorem noGpu_le : 0 ≤ 1 := Nat.zero_le 1

structure JobSpec where
  jobId : JobId
  tenantId : TenantId
  templateId : Nat
  templateVersion : Nat
  resources : Resources

structure TemplateVersion where
  templateId : Nat
  version : Nat
  enabled : Bool
  checkpointable : Bool
  restartSafe : Bool
  chunked : Bool

structure ExecutionContext where
  jobId : JobId
  executionIntent : ExecutionIntent
  restartSafe : Bool
  restoreCheckpoint : Option CheckpointId
  recognizedChunks : Option (List Nat)
  startupNonce : Nat
deriving DecidableEq

structure Attempt where
  attemptId : AttemptId
  tenantId : TenantId
  jobId : JobId
  attemptNumber : Nat
  state : AttemptState
  executionIntent : ExecutionIntent
  workerId : WorkerId
  workerIncarnationId : IncarnationId
  jobFence : Nat
  startupNonce : Nat
  failureClass : Option FailureClass
  failureReason : Option FailureReason
  progressSequence : Nat
  progressSnapshot : Option Nat
  startedAt : Option Time
  endedAt : Option Time
  claimedAt : Option Time
  executionContext : Option ExecutionContext
  executorOperationSequence : Option Nat
  dispatchCoordinatorEpoch : Nat
  createdAt : Time
  updatedAt : Time

structure Allocation where
  allocationId : AllocationId
  tenantId : TenantId
  jobId : JobId
  attemptId : AttemptId
  workerId : WorkerId
  resources : Resources
  state : AllocationState
  heldAt : Time
  quarantinedAt : Option Time
  releasedAt : Option Time
  reconciliationSequence : Nat

inductive RevokeReason where
  | leaseExpired | workerDisabled | userCancel
deriving DecidableEq

structure AttemptLease where
  leaseId : LeaseId
  tenantId : TenantId
  jobId : JobId
  attemptId : AttemptId
  allocationId : AllocationId
  workerId : WorkerId
  currentWorkerIncarnationId : IncarnationId
  jobFence : Nat
  issuedAt : Time
  expiresAt : Time
  revokedAt : Option Time
  revokeReason : Option RevokeReason

structure AuthorityGrant where
  grantId : GrantId
  tenantId : TenantId
  jobId : JobId
  attemptId : AttemptId
  allocationId : AllocationId
  leaseId : LeaseId
  workerId : WorkerId
  workerIncarnationId : IncarnationId
  jobFence : Nat
  predecessorGrantId : Option GrantId
  callbackId : CallbackId
  grantedAt : Time
  endedAt : Option Time

structure ContainerIdentity where
  tenantId : TenantId
  jobId : JobId
  attemptId : AttemptId
  allocationId : AllocationId
  startupNonce : Nat
  executorCreateSequence : Nat
  containerId : Nat
  runtimeIdentityDigest : Nat
  createdAt : Time
  stoppedAt : Option Time
  verifiedAt : Option Time

structure ResultReservation where
  resultId : ResultId
  tenantId : TenantId
  jobId : JobId
  attemptId : AttemptId
  authorityGrantId : GrantId
  callbackId : CallbackId
  state : ResultReservationState
  reservedAt : Time

structure JobResult where
  resultId : ResultId
  tenantId : TenantId
  jobId : JobId
  attemptId : AttemptId
  manifestArtifactId : ArtifactId
  manifestChecksum : Nat
  completionCallbackId : CallbackId
  createdAt : Time

structure CheckpointReservation where
  checkpointId : CheckpointId
  tenantId : TenantId
  jobId : JobId
  attemptId : AttemptId
  authorityGrantId : GrantId
  sequence : Nat
  callbackId : CallbackId
  state : CheckpointReservationState
  reservedAt : Time
  endedAt : Option Time

structure Checkpoint where
  checkpointId : CheckpointId
  tenantId : TenantId
  jobId : JobId
  attemptId : AttemptId
  sequence : Nat
  manifestArtifactId : ArtifactId
  manifestChecksum : Nat
  compatibility : Nat
  createdAt : Time
deriving DecidableEq

structure CheckpointCorruption where
  checkpointId : CheckpointId
  tenantId : TenantId
  reasonCode : CheckpointReason

structure CheckpointReference where
  tenantId : TenantId
  sourceCheckpointId : CheckpointId
  targetJobId : JobId

structure RecognizedChunk where
  recognizedChunkId : Nat
  tenantId : TenantId
  jobId : JobId
  chunkId : Nat
  rangeStart : Nat
  rangeEnd : Nat
  artifactId : ArtifactId
  checksum : Nat
  sourceAttemptId : AttemptId
  sourceJobFence : Nat

structure InferenceExtent where
  jobId : JobId
  tenantId : TenantId
  itemCount : Nat
  chunkSize : Nat
  sourceAttemptId : AttemptId
  sourceJobFence : Nat

structure RetrySchedule where
  jobId : JobId
  tenantId : TenantId
  retryNumber : Nat
  readyAt : Time
  jitterMilliseconds : Nat
  closedAt : Option Time

structure Event where
  tenantId : TenantId
  jobId : JobId
  sequence : Nat
  eventType : EventType
  reason : Option EventReason
  actor : Actor
  createdAt : Time

structure Reservation where
  reservationId : Nat
  tenantId : TenantId
  jobId : JobId
  eligibilitySince : Time
  policyVersion : Nat
  createdAt : Time
  invalidatedAt : Option Time
  invalidationReason : Option ReservationReason

structure UploadSession where
  uploadId : Nat
  tenantId : TenantId
  jobId : JobId
  attemptId : AttemptId
  authorityGrantId : GrantId
  artifactId : ArtifactId

end Nexa
