import Mathlib.Algebra.Order.Ring.Rat
import Mathlib.Data.List.Sort
import Nexa.Scheduler.Domain
import Nexa.Shared.Outcome

/-! `round` is the decimal context: every operation on decimals rounds its result. -/

namespace Nexa

open Outcome

structure AccountingState where
  tenantLedgers : List TenantLedger
  virtualFloor : ℚ
  heldResources : TenantId -> ResourceCapacity
  dominantShares : TenantId -> ℚ
  eligibleTenantIds : List TenantId

def dominantShare (round : ℚ -> ℚ) (resources capacity : ResourceCapacity) : ℚ :=
  let shares := ([.cpu, .memory, .gpu].filter fun axis => 0 < capacity.get axis).map
    fun axis => round ((resources.get axis : ℚ) / capacity.get axis)
  shares.foldl max 0

inductive IneligibilityReason where
  | cancelled | retryNotReady | templateIncompatible | capabilityIncompatible | policyIncompatible
  | artifactQuotaExhausted | requestExceedsCapacity | requestExceedsQuota | tenantConcurrency
  | userConcurrency
deriving DecidableEq

def candidateIneligibilityReason (candidate : Candidate) (nowMs : Nat)
    (capacity held : ResourceCapacity) (limits : TenantPolicySnapshot) : Option IneligibilityReason :=
  if candidate.state ≠ .queued then some .cancelled
  else if nowMs < candidate.retryReadyAtMs then some .retryNotReady
  else if ¬candidate.templateCompatible then some .templateIncompatible
  else if ¬candidate.capabilitiesCompatible then some .capabilityIncompatible
  else if ¬candidate.policyCompatible then some .policyIncompatible
  else if ¬limits.artifactQuotaAvailable then some .artifactQuotaExhausted
  else if ¬candidate.resources.amounts.Fits capacity then some .requestExceedsCapacity
  else if ¬(held.add candidate.resources.amounts).Fits limits.resourceQuota then
    some .requestExceedsQuota
  else if limits.maxActiveAttempts ≤ candidate.tenantActiveAttempts then some .tenantConcurrency
  else if limits.maxUserActiveAttempts ≤ candidate.userActiveAttempts then some .userConcurrency
  else none

def SchedulingSnapshot.held (snapshot : SchedulingSnapshot) (tenant : TenantId) : ResourceCapacity :=
  .total ((snapshot.heldAllocations.filter fun row => row.tenantId = tenant).map (·.resources))

def SchedulingSnapshot.totalHeld (snapshot : SchedulingSnapshot) : ResourceCapacity :=
  .total (snapshot.heldAllocations.map (·.resources))

def SchedulingSnapshot.limit? (snapshot : SchedulingSnapshot) (tenant : TenantId) : Option TenantPolicySnapshot :=
  snapshot.tenantLimits.find? fun limit => limit.tenantId = tenant

def invalidTenant (tenant : TenantId) (what : String) : PolicyError :=
  .invalidSnapshot ("tenant " ++ toString tenant ++ " " ++ what)

/-- Known tenants, and GPU claims that are counted and not shared. -/
def validateHeld (known : List TenantId) : List Nat -> List HeldAllocation -> Except PolicyError Unit
  | _, [] => .ok ()
  | seen, allocation :: rest => do
    require (allocation.tenantId ∈ known)
      (.invalidSnapshot "held allocation references an unknown tenant")
    require (allocation.gpuUuids.length = allocation.resources.gpuCount)
      (.invalidSnapshot "held allocation GPU UUID count does not match request")
    match allocation.gpuUuids.find? fun uuid => uuid ∈ seen with
    | some uuid => .error (.duplicateGpuUuid uuid)
    | none => validateHeld known (seen ++ allocation.gpuUuids) rest

def validateAndAggregate (snapshot : SchedulingSnapshot) : Except PolicyError Unit := do
  require (0 < snapshot.policyVersion) (.invalidSnapshot "policy_version must be positive")
  require (0 ≤ snapshot.virtualFloor)
    (.invalidSnapshot "virtual_floor must be finite and non-negative")
  let ledgerIds : List TenantId := snapshot.tenantLedgers.map (·.tenantId)
  let limitIds : List TenantId := snapshot.tenantLimits.map (·.tenantId)
  require ledgerIds.Nodup (.invalidSnapshot "tenant ledgers contain duplicate tenant IDs")
  require limitIds.Nodup (.invalidSnapshot "tenant limits contain duplicate tenant IDs")
  require (ledgerIds ⊆ limitIds ∧ limitIds ⊆ ledgerIds)
    (.invalidSnapshot "tenant ledger and limit sets differ")
  snapshot.tenantLedgers.forM fun ledger =>
    require (0 ≤ ledger.virtualScore)
      (invalidTenant ledger.tenantId "virtual_score must be finite and non-negative")
  snapshot.tenantLimits.forM fun limit => do
    require (0 < limit.weight) (.nonPositiveWeight limit.tenantId limit.weight)
    require (0 < limit.maxActiveAttempts ∧ 0 < limit.maxUserActiveAttempts)
      (invalidTenant limit.tenantId "concurrency limits must be positive")
  validateHeld ledgerIds [] snapshot.heldAllocations
  require (snapshot.totalHeld.Fits snapshot.allocatableCapacity)
    (.invalidSnapshot "held allocations exceed allocatable capacity")
  snapshot.tenantLedgers.forM fun ledger =>
    require (∀ limit ∈ snapshot.limit? ledger.tenantId, (snapshot.held ledger.tenantId).Fits limit.resourceQuota)
      (invalidTenant ledger.tenantId "held resources exceed quota")

def chargeOf (round : ℚ -> ℚ) (share weight : ℚ) (elapsedMs : Nat) : ℚ :=
  round (round (round (share * elapsedMs) / 1000) / weight)

def chargeLedger (round : ℚ -> ℚ) (snapshot : SchedulingSnapshot) (nowMs : Nat)
    (ledger : TenantLedger) : Except PolicyError TenantLedger := do
  require (ledger.accountedThroughMs ≤ nowMs)
    (.accountingRegression ledger.tenantId ledger.accountedThroughMs nowMs)
  let share := dominantShare round (snapshot.held ledger.tenantId) snapshot.allocatableCapacity
  let weight := ((snapshot.limit? ledger.tenantId).map (·.weight)).getD 1
  let charge := chargeOf round share weight (nowMs - ledger.accountedThroughMs)
  return { ledger with
    virtualScore := round (ledger.virtualScore + charge), accountedThroughMs := nowMs }

def CandidateWindow.offered (window : CandidateWindow) : List Candidate :=
  window.normal ++ window.oldestEligible.toList

/-- Of two entries for one job the later one counts. -/
def CandidateWindow.candidates (window : CandidateWindow) : List Candidate :=
  window.offered.pwFilter fun left right => left.jobId ≠ right.jobId

def SchedulingSnapshot.eligible (snapshot : SchedulingSnapshot) (nowMs : Nat)
    (limits : TenantPolicySnapshot) (candidate : Candidate) : Bool :=
  candidateIneligibilityReason candidate nowMs snapshot.allocatableCapacity
    (snapshot.held limits.tenantId) limits = none

def SchedulingSnapshot.eligibleTenants (snapshot : SchedulingSnapshot) (nowMs : Nat) : List TenantId :=
  (snapshot.candidatesByTenant.filter fun entry =>
    (snapshot.limit? entry.1).any fun limits =>
      entry.2.candidates.any (snapshot.eligible nowMs limits)).map (·.1)

def liftLedger (floor : ℚ) (eligible : List TenantId) (ledger : TenantLedger) : TenantLedger :=
  let hasDemand : Bool := ledger.tenantId ∈ eligible
  { ledger with
    virtualScore := if hasDemand ∧ ¬ledger.hadEligibleDemand then max ledger.virtualScore floor
      else ledger.virtualScore
    hadEligibleDemand := hasDemand }

def minimumScore (ledgers : List TenantLedger) : Option ℚ :=
  ((ledgers.filter (·.hadEligibleDemand)).map (·.virtualScore)).min?

def checkWindows (known : List TenantId) : List TenantId -> List TenantId -> Except PolicyError Unit
  | _, [] => .ok ()
  | seen, tenant :: rest => do
    require (tenant ∉ seen) (.invalidSnapshot "candidate windows contain duplicate tenant IDs")
    require (tenant ∈ known) (.invalidSnapshot "candidate window references an unknown tenant")
    checkWindows known (tenant :: seen) rest

def advanceAccounting (round : ℚ -> ℚ) (snapshot : SchedulingSnapshot) (nowMs : Nat) :
    Except PolicyError AccountingState := do
  validateAndAggregate snapshot
  let charged ← snapshot.tenantLedgers.mapM (chargeLedger round snapshot nowMs)
  checkWindows (snapshot.tenantLimits.map (·.tenantId)) [] (snapshot.candidatesByTenant.map (·.1))
  let eligible := snapshot.eligibleTenants nowMs
  let updated := charged.map (liftLedger snapshot.virtualFloor eligible)
  let floor := (minimumScore updated).elim snapshot.virtualFloor (max snapshot.virtualFloor)
  return {
    tenantLedgers := updated.insertionSort fun left right => left.tenantId ≤ right.tenantId
    virtualFloor := floor
    heldResources := snapshot.held
    dominantShares := fun tenant =>
      dominantShare round (snapshot.held tenant) snapshot.allocatableCapacity
    eligibleTenantIds := eligible.insertionSort (· ≤ ·) }

end Nexa
