import Mathlib.Data.List.Sort
import Nexa.Scheduler.Domain
import Nexa.Shared.Split
import Nexa.Store.Queries

/-! A caller accounts before it changes allocations, capacity or weights, and rebases afterwards. -/

namespace Nexa

open Relational Outcome

def epochMs (time : Time) : Nat := time / 1000

def elapsedSeconds (start finish : Time) : ℚ := ((epochMs finish : ℚ) - epochMs start) / 1000

def ensureFairnessState (db : Db) (now : Time) : Db :=
  (db.insert .fairnessState { virtualFloor := 0, version := 1, updatedAt := now }).getD db

def currentPolicies (db : Db) : List TenantPolicy := db.select .tenantPolicies fun policy => policy.isCurrent

def newLedger (now : Time) (tenantId : TenantId) : FairnessLedger where
  tenantId := tenantId
  virtualScore := 0
  accountedThrough := now
  hadEligibleDemand := false
  version := 1

def ensureLedger (now : Time) (db : Db) (tenantId : TenantId) : Db :=
  (db.insert .fairnessLedgers (newLedger now tenantId)).getD db

def lockLedgers (db : Db) (now : Time) (ensureState : Bool) : Db :=
  let db := if ensureState then ensureFairnessState db now else db
  ((currentPolicies db).map (·.tenantId)).foldl (ensureLedger now) db

def openSegments (db : Db) (tenant : TenantId) : List LedgerSegment :=
  (db.select .ledgerSegments fun segment =>
    segment.endedAt = none ∧ segment.tenantId = tenant).insertionSort
      fun left right => left.allocationId ≤ right.allocationId

def boundaryConsistent (now : Time) : List LedgerSegment -> Bool
  | [] => true
  | first :: rest =>
    first.startedAt ≤ now ∧
      rest.all fun segment => segment.startedAt = first.startedAt ∧ segment.weight = first.weight

def segmentCharges (round : ℚ -> ℚ) (accountedThrough now : Time) (owned : List LedgerSegment) :
    ℚ × List (LedgerSegment × ℚ) :=
  match owned with
  | [] => (0, [])
  | first :: _ =>
    let elapsed := elapsedSeconds (max accountedThrough first.startedAt) now
    let share := (owned.map (·.dominantShare)).foldl (fun sum part => round (sum + part)) 0
    let charge := round (round (share * elapsed) / first.weight)
    (charge, Split.amounts round
      (fun segment => round (round (segment.dominantShare * elapsed) / segment.weight)) charge 0 owned)

def chargeSegmentPatch (amount : ℚ) : Patch nexaSchema .ledgerSegments where
  apply segment := { segment with chargedAmount := amount }

def chargeSegment (round : ℚ -> ℚ) (db : Db) (entry : LedgerSegment × ℚ) : Outcome Db := do
  let amount := round (entry.1.chargedAmount + entry.2)
  require (0 ≤ amount) (.integrity .ledgerSegments)
  return db.update .ledgerSegments (fun segment => segment.segmentId = entry.1.segmentId)
    (chargeSegmentPatch amount)

def chargeLedgerPatch (score : ℚ) (now : Time) (version : Nat) : Patch nexaSchema .fairnessLedgers where
  apply ledger := { ledger with virtualScore := score, accountedThrough := now, version }

def chargeTenant (round : ℚ -> ℚ) (now : Time) (db : Db) (ledger : FairnessLedger) : Outcome Db := do
  let owned := openSegments db ledger.tenantId
  require (boundaryConsistent now owned = true) (.runtime "inconsistent tenant accounting boundary")
  let (charge, amounts) := segmentCharges round ledger.accountedThrough now owned
  let db ← amounts.foldlM (chargeSegment round) db
  let score := round (ledger.virtualScore + charge)
  require (0 ≤ score) (.integrity .fairnessLedgers)
  return db.update .fairnessLedgers (fun row => row.tenantId = ledger.tenantId)
    (chargeLedgerPatch score now (ledger.version + 1))

/-- `observed` is database time read after the ledger locks, `now` itself if strict. -/
def chargeLocked (round : ℚ -> ℚ) (db : Db) (now observed : Time) : Outcome Db := do
  let ledgers := (db.rows .fairnessLedgers).insertionSort
    fun left right => left.tenantId ≤ right.tenantId
  require (ledgers.all (fun ledger => ledger.accountedThrough ≤ now) ∨
      ledgers.all fun ledger => ledger.accountedThrough ≤ observed)
    (.runtime "accounting DB time regressed")
  ledgers.foldlM (chargeTenant round now) db

def accountLocked (round : ℚ -> ℚ) (db : Db) (now observed : Time) : Outcome Db :=
  chargeLocked round (lockLedgers db now true) now observed

def accountNowLocked (round : ℚ -> ℚ) (db : Db) (now boundary : Time) : Outcome Db :=
  chargeLocked round (lockLedgers db now true) boundary boundary

def heldAllocations (db : Db) : List Allocation :=
  (db.select .allocations fun allocation => allocation.state ≠ .released).insertionSort
    fun left right => left.allocationId ≤ right.allocationId

def WorkerInventory.capacity (inventory : WorkerInventory) : ResourceCapacity :=
  ⟨inventory.allocatableCpuMillis, inventory.allocatableMemoryBytes, inventory.allocatableGpuCount⟩

def currentInventories (db : Db) : List WorkerInventory :=
  db.select .workerInventories fun inventory =>
    (db.rows .workers).any fun worker =>
      worker.workerId = inventory.workerId ∧ worker.currentInventoryVersion = some inventory.inventoryVersion

def axisShare (round : ℚ -> ℚ) (totals capacity : ResourceCapacity) (axis : Axis) : ℚ :=
  if capacity.get axis = 0 then 0 else round ((totals.get axis : ℚ) / capacity.get axis)

def dominantAxis (round : ℚ -> ℚ) (totals capacity : ResourceCapacity) : Axis :=
  let share := axisShare round totals capacity
  let better (best next : Axis) : Axis := if share best < share next then next else best
  better (better .cpu .memory) .gpu

def closePatch (now : Time) : Patch nexaSchema .ledgerSegments where
  apply segment := { segment with endedAt := some now }

def closeSegments (db : Db) (now : Time) : Outcome Db := do
  require
    ((db.select .ledgerSegments fun segment => segment.endedAt = none).all
      fun segment => segment.startedAt ≤ now)
    (.integrity .ledgerSegments)
  return db.update .ledgerSegments (fun segment => segment.endedAt = none) (closePatch now)

def segmentShares (round : ℚ -> ℚ) (capacity : ResourceCapacity) (owned : List Allocation) : List (Allocation × ℚ) :=
  let totals := ResourceCapacity.total (owned.map (·.resources))
  let axis := dominantAxis round totals capacity
  let aggregate := round ((totals.get axis : ℚ) / capacity.get axis)
  Split.amounts round
    (fun allocation => round ((allocation.resources.amounts.get axis : ℚ) / capacity.get axis))
    aggregate 0 owned

def openSegment (now : Time) (segmentId : AllocationId -> Nat) (policy : TenantPolicy) (version : Nat)
    (db : Db) (entry : Allocation × ℚ) : Outcome Db := do
  require (0 ≤ entry.2) (.integrity .ledgerSegments)
  insertInto db .ledgerSegments
    { segmentId := segmentId entry.1.allocationId, allocationId := entry.1.allocationId
      tenantId := policy.tenantId, startedAt := now, endedAt := none, dominantShare := entry.2
      weight := policy.weight, chargedAmount := 0, policyVersion := version }

def rebaseTenant (round : ℚ -> ℚ) (now : Time) (segmentId : AllocationId -> Nat)
    (held : List Allocation) (capacity : ResourceCapacity) (version : Nat) (db : Db)
    (policy : TenantPolicy) : Outcome Db := do
  let owned := held.filter fun allocation => allocation.tenantId = policy.tenantId
  let totals := ResourceCapacity.total (owned.map (·.resources))
  require ([Axis.cpu, .memory, .gpu].all fun axis => totals.get axis = 0 ∨ 0 < capacity.get axis)
    (.runtime "held resources exceed current capacity")
  (segmentShares round capacity owned).foldlM (openSegment now segmentId policy version) db

def rebaseLocked (round : ℚ -> ℚ) (db : Db) (now : Time) (segmentId : AllocationId -> Nat) :
    Outcome Db := do
  let held := heldAllocations db
  let policies := currentPolicies db
  let inventory ← oneOrNone (currentInventories db)
  require (inventory.isSome ∨ held = []) (.runtime "held allocation has no current inventory")
  let current ← one (db.select .policyVersions fun row => row.isCurrent)
  let db ← closeSegments db now
  match inventory with
  | none => return db
  | some inventory =>
    policies.foldlM
      (rebaseTenant round now segmentId held inventory.capacity current.policyVersion) db

end Nexa
