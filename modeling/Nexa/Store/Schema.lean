import Nexa.Shared.Relational
import Nexa.Store.Control

/-! The constraints under their names in the store, but for foreign keys to tenants, users, artifacts and workers. -/

namespace Nexa

open Relational

inductive Table where
  | jobs | jobSpecs | templateVersions | attempts | allocations | attemptLeases | authorityGrants
  | containerIdentities | resultReservations | results | checkpointReservations | checkpoints
  | checkpointCorruptions | checkpointReferences | recognizedChunks | inferenceExtents
  | retrySchedules | events | reservations | uploadSessions | policyVersions | tenantPolicies
  | admissionCounters | rateBuckets | workers | workerIncarnations | workerInventories
  | callbackReceipts | idempotencyRecords | fairnessState | fairnessLedgers | ledgerSegments
deriving DecidableEq

@[reducible]
def Row : Table -> Type
  | .jobs => Job
  | .jobSpecs => JobSpec
  | .templateVersions => TemplateVersion
  | .attempts => Attempt
  | .allocations => Allocation
  | .attemptLeases => AttemptLease
  | .authorityGrants => AuthorityGrant
  | .containerIdentities => ContainerIdentity
  | .resultReservations => ResultReservation
  | .results => JobResult
  | .checkpointReservations => CheckpointReservation
  | .checkpoints => Checkpoint
  | .checkpointCorruptions => CheckpointCorruption
  | .checkpointReferences => CheckpointReference
  | .recognizedChunks => RecognizedChunk
  | .inferenceExtents => InferenceExtent
  | .retrySchedules => RetrySchedule
  | .events => Event
  | .reservations => Reservation
  | .uploadSessions => UploadSession
  | .policyVersions => PolicyVersion
  | .tenantPolicies => TenantPolicy
  | .admissionCounters => AdmissionCounter
  | .rateBuckets => RateBucket
  | .workers => Worker
  | .workerIncarnations => WorkerIncarnation
  | .workerInventories => WorkerInventory
  | .callbackReceipts => CallbackReceipt
  | .idempotencyRecords => IdempotencyRecord
  | .fairnessState => FairnessState
  | .fairnessLedgers => FairnessLedger
  | .ledgerSegments => LedgerSegment

def Scope.columns : Scope -> List Nat
  | .global => [0]
  | .tenant id => [1, id]
  | .user owner id => [2, owner, id]

theorem Scope.columns_injective {left right : Scope} (same : left.columns = right.columns) : left = right := by
  cases left <;> cases right <;> simp_all [Scope.columns]

def CallbackOperation.code : CallbackOperation -> Nat
  | .claimAttempt => 0
  | .startAttempt => 1
  | .renewAttempt => 2
  | .adoptAttempt => 3
  | .reserveCheckpoint => 4
  | .publishCheckpoint => 5
  | .reserveResult => 6
  | .completeAttempt => 7
  | .failAttempt => 8
  | .reportCleanup => 9
  | .workerHeartbeat => 10

def RequestOperation.code : RequestOperation -> Nat
  | .submitJob => 0
  | .retryJob => 1
  | .cancelJob => 2
  | .pauseJob => 3
  | .resumeJob => 4
  | .submitSweep => 5
  | .createIncarnation => 6
  | .updateTenantPolicy => 7
  | .updateGlobalPolicy => 8
  | .disableWorker => 9
  | .drainWorker => 10
  | .enableWorker => 11
  | .createTenant => 12

def RequestContext.columns : RequestContext -> List Nat
  | .global => [0]
  | .tenant id => [1, id]
  | .worker id => [2, id]

@[simp]
def keysOf : (table : Table) -> Row table -> List Key
  | .jobs, row => [⟨"pk_jobs", [row.jobId]⟩, ⟨"uq_jobs_tenant_job", [row.tenantId, row.jobId]⟩]
  | .jobSpecs, row => [⟨"pk_job_specs", [row.jobId]⟩]
  | .templateVersions, row => [⟨"pk_template_versions", [row.templateId, row.version]⟩]
  | .attempts, row =>
    [⟨"pk_attempts", [row.attemptId]⟩, ⟨"uq_attempts_job_id_attempt_number", [row.jobId, row.attemptNumber]⟩,
      ⟨"uq_attempts_startup_nonce", [row.startupNonce]⟩,
      ⟨"uq_attempts_tenant_job_attempt", [row.tenantId, row.jobId, row.attemptId]⟩,
      ⟨"uq_attempts_worker_identity", [row.tenantId, row.jobId, row.attemptId, row.workerId]⟩,
      ⟨"uq_attempts_authority_identity", [row.tenantId, row.jobId, row.attemptId, row.jobFence]⟩,
      ⟨"uq_attempts_authority_worker_identity", [row.tenantId, row.jobId, row.attemptId, row.jobFence, row.workerId]⟩]
  | .allocations, row =>
    [⟨"pk_allocations", [row.allocationId]⟩, ⟨"uq_allocations_attempt_id", [row.attemptId]⟩,
      ⟨"uq_allocations_authority_identity", [row.tenantId, row.jobId, row.attemptId, row.allocationId]⟩,
      ⟨"uq_allocations_authority_worker_identity",
        [row.tenantId, row.jobId, row.attemptId, row.allocationId, row.workerId]⟩,
      ⟨"uq_allocations_tenant_allocation", [row.tenantId, row.allocationId]⟩]
  | .attemptLeases, row =>
    [⟨"pk_attempt_leases", [row.leaseId]⟩,
      ⟨"uq_attempt_leases_authority_worker_identity",
        [row.tenantId, row.jobId, row.attemptId, row.leaseId, row.jobFence, row.allocationId, row.workerId]⟩]
  | .authorityGrants, row =>
    [⟨"pk_attempt_authority_grants", [row.grantId]⟩, ⟨"uq_attempt_authority_grants_callback_id", [row.callbackId]⟩,
      ⟨"uq_authority_grants_attempt_incarnation", [row.attemptId, row.workerIncarnationId]⟩,
      ⟨"uq_authority_grants_owner", [row.tenantId, row.jobId, row.attemptId, row.grantId]⟩]
  | .containerIdentities, row =>
    [⟨"pk_container_identities", [row.attemptId, row.containerId]⟩,
      ⟨"uq_container_identities_startup_nonce", [row.startupNonce]⟩]
  | .resultReservations, row =>
    [⟨"pk_result_reservations", [row.resultId]⟩, ⟨"uq_result_reservations_callback_id", [row.callbackId]⟩,
      ⟨"uq_result_reservations_identity", [row.tenantId, row.jobId, row.attemptId, row.resultId]⟩]
  | .results, row =>
    [⟨"pk_results", [row.resultId]⟩, ⟨"uq_results_job_id", [row.jobId]⟩,
      ⟨"uq_results_completion_callback", [row.completionCallbackId]⟩]
  | .checkpointReservations, row =>
    [⟨"pk_checkpoint_reservations", [row.checkpointId]⟩,
      ⟨"uq_checkpoint_reservations_job_id_sequence", [row.jobId, row.sequence]⟩,
      ⟨"uq_checkpoint_reservations_callback_id", [row.callbackId]⟩,
      ⟨"uq_checkpoint_reservations_identity",
        [row.tenantId, row.jobId, row.attemptId, row.checkpointId, row.sequence]⟩]
  | .checkpoints, row =>
    [⟨"pk_checkpoints", [row.checkpointId]⟩, ⟨"uq_checkpoints_job_id_sequence", [row.jobId, row.sequence]⟩,
      ⟨"uq_checkpoints_tenant_checkpoint", [row.tenantId, row.checkpointId]⟩]
  | .checkpointCorruptions, row => [⟨"pk_checkpoint_corruptions", [row.checkpointId]⟩]
  | .checkpointReferences, row =>
    [⟨"pk_checkpoint_references", [row.targetJobId, row.sourceCheckpointId]⟩]
  | .recognizedChunks, row =>
    [⟨"pk_recognized_chunks", [row.recognizedChunkId]⟩,
      ⟨"uq_recognized_chunks_job_id_chunk_id", [row.jobId, row.chunkId]⟩]
  | .inferenceExtents, row => [⟨"pk_inference_extents", [row.jobId]⟩]
  | .retrySchedules, row => [⟨"pk_retry_schedules", [row.jobId, row.retryNumber]⟩]
  | .events, row => [⟨"uq_events_job_id_sequence", [row.jobId, row.sequence]⟩]
  | .reservations, row => [⟨"pk_reservations", [row.reservationId]⟩]
  | .uploadSessions, row => [⟨"pk_upload_sessions", [row.uploadId]⟩]
  | .policyVersions, row => [⟨"pk_policy_versions", [row.policyVersion]⟩]
  | .tenantPolicies, row => [⟨"pk_tenant_policies", [row.tenantId, row.version]⟩]
  | .admissionCounters, row => [⟨"pk_admission_counters", row.scope.columns⟩]
  | .rateBuckets, row => [⟨"pk_rate_buckets", row.scope.columns⟩]
  | .workers, row => [⟨"pk_workers", [row.workerId]⟩]
  | .workerIncarnations, row =>
    [⟨"pk_worker_incarnations", [row.workerIncarnationId]⟩,
      ⟨"uq_worker_incarnations_sequence", [row.workerId, row.sequence]⟩,
      ⟨"uq_worker_incarnations_process_nonce", [row.workerId, row.processStartNonce]⟩]
  | .workerInventories, row =>
    [⟨"pk_worker_inventories", [row.inventoryId]⟩,
      ⟨"uq_worker_inventories_worker_id_inventory_version", [row.workerId, row.inventoryVersion]⟩]
  | .callbackReceipts, row =>
    [⟨"pk_callback_receipts", [row.receiptId]⟩,
      ⟨"uq_callback_scope", [row.workerId, row.operation.code, row.callbackId]⟩]
  | .idempotencyRecords, row =>
    [⟨"pk_idempotency_records", [row.idempotencyId]⟩,
      ⟨"uq_idempotency_scope", row.context.columns ++ [row.principalId, row.operation.code, row.key]⟩]
  | .fairnessState, _ => [⟨"pk_fairness_state", []⟩]
  | .fairnessLedgers, row => [⟨"pk_fairness_ledgers", [row.tenantId]⟩]
  | .ledgerSegments, row => [⟨"pk_allocation_ledger_segments", [row.segmentId]⟩]

def indexesOf : (table : Table) -> Row table -> List Key
  | .attemptLeases, row =>
    match row.revokedAt with
    | none => [⟨"uq_attempt_leases_active_attempt", [row.attemptId]⟩]
    | some _ => []
  | .authorityGrants, row =>
    match row.endedAt with
    | none => [⟨"uq_attempt_authority_grants_current_job", [row.jobId]⟩]
    | some _ => []
  | .resultReservations, row =>
    match row.state with
    | .active => [⟨"uq_result_reservations_active_job", [row.jobId]⟩]
    | _ => []
  | .checkpointReservations, row =>
    match row.state with
    | .reserved => [⟨"uq_checkpoint_reservations_reserved_attempt", [row.attemptId]⟩]
    | _ => []
  | .reservations, row =>
    match row.invalidatedAt with
    | none => [⟨"uq_reservations_one_active", []⟩]
    | some _ => []
  | .policyVersions, row =>
    match row.isCurrent with
    | true => [⟨"uq_policy_versions_current", []⟩]
    | false => []
  | .tenantPolicies, row =>
    match row.isCurrent with
    | true => [⟨"uq_tenant_policies_current", [row.tenantId]⟩]
    | false => []
  | .workerIncarnations, row =>
    match row.endedAt with
    | none => [⟨"uq_worker_incarnations_current", [row.workerId]⟩]
    | some _ => []
  | .ledgerSegments, row =>
    match row.endedAt with
    | none => [⟨"ix_allocation_ledger_segments_open", [row.allocationId]⟩]
    | some _ => []
  | _, _ => []

def refsOf : (table : Table) -> Row table -> List (Table × Key)
  | .jobs, row =>
    match row.retryOfJobId with
    | some source => [(.jobs, ⟨"uq_jobs_tenant_job", [row.tenantId, source]⟩)]
    | none => []
  | .jobSpecs, row => [(.jobs, ⟨"uq_jobs_tenant_job", [row.tenantId, row.jobId]⟩)]
  | .attempts, row => [(.jobs, ⟨"uq_jobs_tenant_job", [row.tenantId, row.jobId]⟩)]
  | .allocations, row =>
    [(.attempts, ⟨"uq_attempts_worker_identity", [row.tenantId, row.jobId, row.attemptId, row.workerId]⟩)]
  | .attemptLeases, row =>
    [(.attempts, ⟨"uq_attempts_authority_worker_identity",
        [row.tenantId, row.jobId, row.attemptId, row.jobFence, row.workerId]⟩),
      (.allocations, ⟨"uq_allocations_authority_worker_identity",
        [row.tenantId, row.jobId, row.attemptId, row.allocationId, row.workerId]⟩)]
  | .authorityGrants, row =>
    [(.attempts, ⟨"uq_attempts_authority_worker_identity",
        [row.tenantId, row.jobId, row.attemptId, row.jobFence, row.workerId]⟩),
      (.allocations, ⟨"uq_allocations_authority_worker_identity",
        [row.tenantId, row.jobId, row.attemptId, row.allocationId, row.workerId]⟩),
      (.attemptLeases, ⟨"uq_attempt_leases_authority_worker_identity",
        [row.tenantId, row.jobId, row.attemptId, row.leaseId, row.jobFence, row.allocationId, row.workerId]⟩)]
  | .containerIdentities, row =>
    [(.attempts, ⟨"uq_attempts_tenant_job_attempt", [row.tenantId, row.jobId, row.attemptId]⟩),
      (.allocations, ⟨"uq_allocations_authority_identity",
        [row.tenantId, row.jobId, row.attemptId, row.allocationId]⟩)]
  | .resultReservations, row =>
    [(.attempts, ⟨"uq_attempts_tenant_job_attempt", [row.tenantId, row.jobId, row.attemptId]⟩)]
  | .results, row =>
    [(.resultReservations, ⟨"uq_result_reservations_identity",
        [row.tenantId, row.jobId, row.attemptId, row.resultId]⟩),
      (.attempts, ⟨"uq_attempts_tenant_job_attempt", [row.tenantId, row.jobId, row.attemptId]⟩)]
  | .checkpointReservations, row =>
    [(.attempts, ⟨"uq_attempts_tenant_job_attempt", [row.tenantId, row.jobId, row.attemptId]⟩)]
  | .checkpoints, row =>
    [(.checkpointReservations, ⟨"uq_checkpoint_reservations_identity",
        [row.tenantId, row.jobId, row.attemptId, row.checkpointId, row.sequence]⟩),
      (.attempts, ⟨"uq_attempts_tenant_job_attempt", [row.tenantId, row.jobId, row.attemptId]⟩)]
  | .checkpointCorruptions, row =>
    [(.checkpoints, ⟨"uq_checkpoints_tenant_checkpoint", [row.tenantId, row.checkpointId]⟩)]
  | .checkpointReferences, row =>
    [(.checkpoints, ⟨"uq_checkpoints_tenant_checkpoint", [row.tenantId, row.sourceCheckpointId]⟩),
      (.jobs, ⟨"uq_jobs_tenant_job", [row.tenantId, row.targetJobId]⟩)]
  | .recognizedChunks, row =>
    [(.jobs, ⟨"uq_jobs_tenant_job", [row.tenantId, row.jobId]⟩),
      (.attempts, ⟨"uq_attempts_authority_identity",
        [row.tenantId, row.jobId, row.sourceAttemptId, row.sourceJobFence]⟩)]
  | .inferenceExtents, row => [(.jobs, ⟨"uq_jobs_tenant_job", [row.tenantId, row.jobId]⟩)]
  | .retrySchedules, row => [(.jobs, ⟨"uq_jobs_tenant_job", [row.tenantId, row.jobId]⟩)]
  | .events, row => [(.jobs, ⟨"uq_jobs_tenant_job", [row.tenantId, row.jobId]⟩)]
  | .reservations, row => [(.jobs, ⟨"uq_jobs_tenant_job", [row.tenantId, row.jobId]⟩)]
  | .ledgerSegments, row =>
    [(.allocations, ⟨"uq_allocations_tenant_allocation", [row.tenantId, row.allocationId]⟩)]
  | _, _ => []

def ownerOf : (table : Table) -> Row table -> Option JobId
  | .jobs, row => some row.jobId
  | .attempts, row => some row.jobId
  | .allocations, row => some row.jobId
  | .attemptLeases, row => some row.jobId
  | .authorityGrants, row => some row.jobId
  | .results, row => some row.jobId
  | .retrySchedules, row => some row.jobId
  | .events, row => some row.jobId
  | _, _ => none

@[reducible]
def nexaSchema : Schema Table JobId where
  Row := Row
  keys := keysOf
  indexes := indexesOf
  refs := refsOf
  owner := ownerOf

abbrev Db := Database nexaSchema

end Nexa
