import Nexa.Application.Policies
import Nexa.Coordinator.Maintenance
import Nexa.Scheduler.Policy

/-! Which jobs the window queries return, and from when they count an age, is given from outside. -/

namespace Nexa

open Relational Outcome

/-- Jobs, each with its effective eligible time. -/
structure Selection where
  normal : List (JobId × Time)
  oldest : Option (JobId × Time)
  continuationCursor : Option String

structure SnapshotSources where
  windows : TenantId -> Selection
  runsOn : TemplateVersion -> WorkerInventory -> Bool
  quotaExhausted : TenantId -> Bool

def activeAttempts (db : Db) (scope : Scope) : Nat :=
  ((db.rows .admissionCounters).find? fun row => row.scope = scope).elim 0 (·.activeAttempts)

def compatibleTemplate (db : Db) (sources : SnapshotSources) (inventory : WorkerInventory) (spec : JobSpec) : Bool :=
  (db.rows .templateVersions).any fun template =>
    template.templateId = spec.templateId ∧ template.version = spec.templateVersion ∧
      template.enabled ∧ sources.runsOn template inventory

/-- A queued job of the tenant, compatible and within the held-quota headroom. -/
def baseRow (db : Db) (now : Time) (sources : SnapshotSources) (inventory : WorkerInventory)
    (limit : TenantPolicy) (job : Job) (spec : JobSpec) : Bool :=
  let held := tenantHeld db limit.tenantId
  job.tenantId = limit.tenantId ∧ job.state = .queued ∧ job.eligibleSince.isSome ∧
    (job.retryReadyAt.all fun ready => ready ≤ now) ∧ compatibleTemplate db sources inventory spec ∧
    spec.resources.gpuCount = 0 ∧
    spec.resources.cpuMillis ≤ inventory.allocatableCpuMillis ∧
    held.cpuMillis + spec.resources.cpuMillis ≤ limit.cpuLimitMillis ∧
    spec.resources.memoryBytes ≤ inventory.allocatableMemoryBytes ∧
    held.memoryBytes + spec.resources.memoryBytes ≤ limit.memoryLimitBytes

def candidateOf (db : Db) (now : Time) (job : Job) (spec : JobSpec) (since : Time) : Candidate where
  jobId := job.jobId
  tenantId := job.tenantId
  userId := job.submitterUserId
  jobVersion := job.version
  readySequence := job.readySequence
  resources := spec.resources
  basePriority := job.basePriority
  eligibleWaitSeconds := (epochMs now - epochMs since) / 1000
  retryReadyAtMs := job.retryReadyAt.elim 0 epochMs
  templateVersion := spec.templateVersion
  tenantActiveAttempts := activeAttempts db (.tenant job.tenantId)
  userActiveAttempts := activeAttempts db (.user job.tenantId job.submitterUserId)

def selectedCandidate (db : Db) (now : Time) (sources : SnapshotSources) (inventory : WorkerInventory)
    (limit : TenantPolicy) (selected : JobId × Time) : Option Candidate := do
  let job ← (db.rows .jobs).find? fun row => row.jobId = selected.1
  let spec ← (db.rows .jobSpecs).find? fun row => row.jobId = selected.1
  if baseRow db now sources inventory limit job spec then
    some (candidateOf db now job spec selected.2)
  else none

def windowOf (db : Db) (now : Time) (sources : SnapshotSources) (inventory : WorkerInventory)
    (limit : TenantPolicy) : CandidateWindow :=
  let selection := sources.windows limit.tenantId
  if activeAttempts db (.tenant limit.tenantId) < limit.tenantActiveLimit then
    { normal := (selection.normal.take maxNormalCandidates).filterMap
        (selectedCandidate db now sources inventory limit)
      oldestEligible := selection.oldest.bind (selectedCandidate db now sources inventory limit)
      continuationCursor := selection.continuationCursor }
  else
    { normal := []
      oldestEligible := selection.oldest.bind (selectedCandidate db now sources inventory limit)
      continuationCursor := none }

def orderedLimits (db : Db) : List TenantPolicy :=
  (currentPolicies db).insertionSort fun left right => left.tenantId ≤ right.tenantId

def FairnessLedger.asLedger (row : FairnessLedger) (accountedThroughMs : Nat) : TenantLedger where
  tenantId := row.tenantId
  virtualScore := row.virtualScore
  accountedThroughMs := accountedThroughMs
  hadEligibleDemand := row.hadEligibleDemand

def snapshotLedgers (db : Db) (now : Time) : List TenantLedger := let rows := db.rows .fairnessLedgers
  let stored := rows.map fun row =>
    row.asLedger (min (epochMs row.accountedThrough) (epochMs now))
  let missing := (orderedLimits db).filter fun limit =>
    !rows.any fun row => row.tenantId = limit.tenantId
  stored ++ missing.map fun limit =>
    { tenantId := limit.tenantId, virtualScore := 0, accountedThroughMs := epochMs now
      hadEligibleDemand := false }

def TenantPolicy.asLimits (policy : TenantPolicy) (sources : SnapshotSources) : TenantPolicySnapshot where
  tenantId := policy.tenantId
  weight := policy.weight
  resourceQuota := policy.quota
  maxActiveAttempts := policy.tenantActiveLimit
  maxUserActiveAttempts := policy.userActiveLimit
  artifactQuotaAvailable := !sources.quotaExhausted policy.tenantId

def Allocation.asHeld (allocation : Allocation) : HeldAllocation where
  allocationId := allocation.allocationId
  tenantId := allocation.tenantId
  resources := allocation.resources
  gpuUuids := []
  state := if allocation.state = .held then .held else .quarantined

def snapshotOf (db : Db) (now : Time) (policy : PolicyVersion) (inventory : WorkerInventory)
    (sources : SnapshotSources) : Outcome SchedulingSnapshot := do
  let reservation ← oneOrNone (db.select .reservations fun row => row.invalidatedAt = none)
  let floor ← oneOrNone (db.rows .fairnessState)
  return {
    policyVersion := policy.policyVersion
    allocatableCapacity := inventory.capacity
    heldAllocations := (db.select .allocations fun row => row.state ≠ .released).map Allocation.asHeld
    tenantLedgers := snapshotLedgers db now
    tenantLimits := (orderedLimits db).map fun limit => limit.asLimits sources
    candidatesByTenant := (orderedLimits db).map fun limit =>
      (limit.tenantId, windowOf db now sources inventory limit)
    activeReservation := reservation.map fun row =>
      { reservationId := row.reservationId, jobId := row.jobId, tenantId := row.tenantId
        policyVersion := row.policyVersion }
    virtualFloor := floor.elim 0 (·.virtualFloor) }

def invalidSnapshot (error : PolicyError) : Failure :=
  .runtime ("invalid scheduler snapshot: " ++ match error with
    | .invalidSnapshot reason => "InvalidSnapshot(reason='" ++ reason ++ "')"
    | .accountingRegression tenant accounted now =>
      "AccountingRegression(tenant_id='" ++ toString tenant ++ "', accounted_through_ms=" ++
        toString accounted ++ ", now_ms=" ++ toString now ++ ")"
    | .duplicateGpuUuid uuid => "DuplicateGpuUuid(gpu_uuid='" ++ toString uuid ++ "')"
    | .nonPositiveWeight tenant weight =>
      "NonPositiveWeight(tenant_id='" ++ toString tenant ++ "', weight=" ++ toString weight ++ ")"
    | .candidateBoundExceeded tenant count =>
      "CandidateBoundExceeded(tenant_id='" ++ toString tenant ++ "', count=" ++ toString count ++ ")")

def advanced (round : ℚ -> ℚ) (snapshot : SchedulingSnapshot) (nowMs : Nat) : Outcome AccountingState :=
  (advanceAccounting round snapshot nowMs).mapError invalidSnapshot

def readSnapshot (round : ℚ -> ℚ) (db : Db) (now : Time) (policy : PolicyVersion)
    (inventory : WorkerInventory) (sources : SnapshotSources) : Outcome SchedulingSnapshot := do
  let snapshot ← snapshotOf db now policy inventory sources
  let state ← advanced round snapshot (epochMs now)
  return { snapshot with
    tenantLedgers := state.tenantLedgers, virtualFloor := state.virtualFloor }

def fairnessPatch (ledger : TenantLedger) : Patch nexaSchema .fairnessLedgers where
  apply row := { row with virtualScore := ledger.virtualScore, hadEligibleDemand := ledger.hadEligibleDemand }

def floorPatch (floor : ℚ) (boundary : Time) : Patch nexaSchema .fairnessState where
  apply row := { row with virtualFloor := floor, version := row.version + 1, updatedAt := boundary }

def writeLedgers (db : Db) (ledgers : List TenantLedger) : Db :=
  ledgers.foldl
    (fun db ledger =>
      db.update .fairnessLedgers (fun row => row.tenantId = ledger.tenantId) (fairnessPatch ledger))
    db

def freshLedgers (db : Db) (snapshot : SchedulingSnapshot) : List TenantLedger :=
  ((db.rows .fairnessLedgers).filter fun row =>
    snapshot.tenantLimits.any fun limit => limit.tenantId = row.tenantId).map fun row =>
      row.asLedger (epochMs row.accountedThrough)

def persistFairnessLocked (round : ℚ -> ℚ) (db : Db) (snapshot : SchedulingSnapshot)
    (boundary : Time) : Outcome Db := do
  let floor ← one (db.rows .fairnessState)
  let state ← advanced round
    { snapshot with tenantLedgers := freshLedgers db snapshot, virtualFloor := floor.virtualFloor }
    (epochMs boundary)
  return (writeLedgers db state.tenantLedgers).update .fairnessState (fun _ => true)
    (floorPatch state.virtualFloor boundary)

end Nexa
