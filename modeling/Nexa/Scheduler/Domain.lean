import Nexa.Store.Control

namespace Nexa

inductive Axis where
  | cpu | memory | gpu
deriving DecidableEq

structure ResourceCapacity where
  cpuMillis : Nat
  memoryBytes : Nat
  gpuCount : Nat
deriving DecidableEq

namespace ResourceCapacity

def get (capacity : ResourceCapacity) : Axis -> Nat
  | .cpu => capacity.cpuMillis
  | .memory => capacity.memoryBytes
  | .gpu => capacity.gpuCount

def zero : ResourceCapacity := ⟨0, 0, 0⟩

def add (left right : ResourceCapacity) : ResourceCapacity :=
  ⟨left.cpuMillis + right.cpuMillis, left.memoryBytes + right.memoryBytes, left.gpuCount + right.gpuCount⟩

def Fits (request capacity : ResourceCapacity) : Prop :=
  request.cpuMillis ≤ capacity.cpuMillis ∧ request.memoryBytes ≤ capacity.memoryBytes ∧
    request.gpuCount ≤ capacity.gpuCount

instance (request capacity : ResourceCapacity) : Decidable (request.Fits capacity) := by
  unfold Fits
  infer_instance

end ResourceCapacity

def Resources.amounts (request : Resources) : ResourceCapacity :=
  ⟨request.cpuMillis, request.memoryBytes, request.gpuCount⟩

def ResourceCapacity.total (requests : List Resources) : ResourceCapacity :=
  requests.foldl (fun sum request => sum.add request.amounts) .zero

structure HeldAllocation where
  allocationId : AllocationId
  tenantId : TenantId
  resources : Resources
  gpuUuids : List Nat
  state : AllocationState
deriving DecidableEq

structure TenantLedger where
  tenantId : TenantId
  virtualScore : ℚ
  accountedThroughMs : Nat
  hadEligibleDemand : Bool
deriving DecidableEq

structure TenantPolicySnapshot where
  tenantId : TenantId
  weight : ℚ
  resourceQuota : ResourceCapacity
  maxActiveAttempts : Nat
  maxUserActiveAttempts : Nat
  artifactQuotaAvailable : Bool
deriving DecidableEq

inductive CandidateState where
  | queued | cancelled
deriving DecidableEq

structure Candidate where
  jobId : JobId
  tenantId : TenantId
  userId : UserId
  jobVersion : Nat
  readySequence : Nat
  resources : Resources
  basePriority : Nat
  eligibleWaitSeconds : Nat
  retryReadyAtMs : Nat
  templateVersion : Nat
  tenantActiveAttempts : Nat
  userActiveAttempts : Nat
  state : CandidateState := .queued
  templateCompatible : Bool := true
  capabilitiesCompatible : Bool := true
  policyCompatible : Bool := true
deriving DecidableEq

structure CandidateWindow where
  normal : List Candidate
  oldestEligible : Option Candidate
  continuationCursor : Option String
deriving DecidableEq

structure ReservationSnapshot where
  reservationId : Nat
  jobId : JobId
  tenantId : TenantId
  policyVersion : Nat
  invalidReason : Option ReservationReason := none
deriving DecidableEq

structure SchedulingSnapshot where
  policyVersion : Nat
  allocatableCapacity : ResourceCapacity
  heldAllocations : List HeldAllocation
  tenantLedgers : List TenantLedger
  tenantLimits : List TenantPolicySnapshot
  candidatesByTenant : List (TenantId × CandidateWindow)
  activeReservation : Option ReservationSnapshot
  virtualFloor : ℚ
deriving DecidableEq

inductive SchedulingDecision where
  | dispatch (jobId : JobId) (expectedJobVersion expectedPolicyVersion : Nat)
      (reservationId : Option Nat)
  | createReservation (jobId : JobId) (tenantId : TenantId) (reason : ReservationReason)
  | drainForReservation (reservationId : Nat) (jobId : JobId)
  | invalidateReservation (reservationId : Nat) (reason : ReservationReason)
  | noDecision (reason : String) (continuationCursors : List (TenantId × String))
deriving DecidableEq

inductive PolicyError where
  | invalidSnapshot (reason : String)
  | accountingRegression (tenantId : TenantId) (accountedThroughMs nowMs : Nat)
  | duplicateGpuUuid (gpuUuid : Nat)
  | nonPositiveWeight (tenantId : TenantId) (weight : ℚ)
  | candidateBoundExceeded (tenantId : TenantId) (count : Nat)
deriving DecidableEq

end Nexa
