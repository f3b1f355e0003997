import Nexa.Application.Cleanup
import Nexa.Application.Requests

namespace Nexa

open Relational Outcome

def enrolWorker (settings : Settings) (db : Db) : Outcome Db := do
  let mode ← operationalMode db
  require (mode ≠ .writeFrozen) (stateConflict "Worker bootstrap is disabled while writes are frozen")
  match db.rows .workers with
  | [] =>
    insertInto db .workers
      { workerId := settings.localWorkerId, adminState := .enabled, health := .starting
        currentIncarnationId := none, currentInventoryVersion := none, lastHeartbeatAt := none
        readyAt := none, version := 1 }
  | _ => .ok db

structure IncarnationRequest where
  workerId : WorkerId
  processStartNonce : Nat
  key : Nat
  requestHash : Nat

def endIncarnationPatch (now : Time) : Patch nexaSchema .workerIncarnations where
  apply row := { row with endedAt := some now }

def incarnationPatch (incarnationId : IncarnationId) : Patch nexaSchema .workers where
  apply row :=
    { row with
      currentIncarnationId := some incarnationId, currentInventoryVersion := none
      health := .starting, lastHeartbeatAt := none, readyAt := none, version := row.version + 1 }

def endIncarnation (db : Db) (now : Time) (worker : Worker) : Outcome (Db × Nat) :=
  match worker.currentIncarnationId with
  | some previousId => do
    let previous ← one (db.select .workerIncarnations fun row =>
      row.workerId = worker.workerId ∧ row.workerIncarnationId = previousId)
    return (db.update .workerIncarnations
      (fun row => row.workerId = worker.workerId ∧ row.workerIncarnationId = previousId ∧ row.endedAt = none)
      (endIncarnationPatch now), previous.sequence)
  | none =>
    .ok (db, ((db.select .workerIncarnations fun row => row.workerId = worker.workerId).map
      (·.sequence)).foldl max 0)

def createIncarnation (db : Db) (call : Call) (request : IncarnationRequest) :
    Outcome (Db × StoredResponse) := do
  let (db, replay) ← beginIdempotency db call (.worker request.workerId) request.workerId
    .createIncarnation request.key request.requestHash (call.now + seconds (86400 * 30))
  let mode ← operationalMode db
  let worker ← workerAuth db call request.workerId
  match replay with
  | some response => return (db, response)
  | none => do
    require (mode ≠ .writeFrozen)
      (stateConflict "Worker incarnation creation is disabled while writes are frozen")
    require
      ((db.select .workerIncarnations fun row =>
        row.workerId = request.workerId ∧ row.processStartNonce = request.processStartNonce).isEmpty = true)
      (stateConflict "Process start nonce already belongs to an incarnation")
    let (db, sequence) ← endIncarnation db call.now worker
    let incarnationId := call.fresh 1
    let db ← insertInto db .workerIncarnations
      { workerIncarnationId := incarnationId, workerId := request.workerId
        sequence := sequence + 1, processStartNonce := request.processStartNonce
        processStartedAt := call.now, reconcileCompletedAt := none, readyAt := none
        endedAt := none }
    let db := db.update .workers (fun row => row.workerId = request.workerId)
      (incarnationPatch incarnationId)
    completeIdempotency db call
      { status := 201, resourceId := some incarnationId, jobState := none, jobVersion := none }

structure HeartbeatRequest where
  workerIncarnationId : IncarnationId
  architecture : Nat
  allocatable : ResourceCapacity
  checksum : Nat
  discoveredAt : Time
  passes : Bool

def heldCapacity (db : Db) (workerId : WorkerId) : ResourceCapacity :=
  .total ((db.select .allocations fun row =>
    row.workerId = workerId ∧ row.state ≠ .released).map (·.resources))

def currentChecksum (db : Db) (worker : Worker) : Outcome (Option Nat) := match worker.currentInventoryVersion with
  | none => .ok none
  | some version => do
    let row ← one (db.select .workerInventories fun row =>
      row.workerId = worker.workerId ∧ row.inventoryVersion = version)
    return some row.checksum

def replaceInventory (settings : Settings) (db : Db) (call : Call) (workerId : WorkerId)
    (request : HeartbeatRequest) : Outcome (Db × Nat) := do
  require ((heldCapacity db workerId).Fits request.allocatable)
    (stateConflict "Inventory cannot cover unreleased allocations")
  let db ← accountLocked settings.round db call.now call.observed
  let version := ((db.select .workerInventories fun row => row.workerId = workerId).map
    (·.inventoryVersion)).foldl max 0 + 1
  let db ← insertInto db .workerInventories
    { inventoryId := call.fresh 1, workerId, workerIncarnationId := request.workerIncarnationId
      inventoryVersion := version, architecture := request.architecture
      allocatableCpuMillis := request.allocatable.cpuMillis
      allocatableMemoryBytes := request.allocatable.memoryBytes
      allocatableGpuCount := request.allocatable.gpuCount, checksum := request.checksum
      observedAt := request.discoveredAt }
  return (db, version)

def readyIncarnationPatch (ready : Bool) (now : Time) : Patch nexaSchema .workerIncarnations where
  apply row :=
    if ready then
      { row with
        reconcileCompletedAt := some (row.reconcileCompletedAt.getD now)
        readyAt := some (row.readyAt.getD now) }
    else row
  keys_apply row := by cases ready <;> rfl
  indexes_apply row := by cases ready <;> exact List.Subset.refl _
  refs_apply row := by cases ready <;> rfl
  owner_apply row := by cases ready <;> rfl

def heartbeatPatch (worker : Worker) (ready : Bool) (version : Option Nat) (now : Time) : Patch nexaSchema .workers :=
  let health : WorkerHealth := if ready then .ready else .starting
  let readyAt : Option Time := if ready then some (worker.readyAt.getD now) else none
  let changed : Bool := health ≠ worker.health ∨ version ≠ worker.currentInventoryVersion ∨ readyAt ≠ worker.readyAt
  { apply := fun row =>
      { row with
        health, currentInventoryVersion := version, lastHeartbeatAt := some now, readyAt
        version := if changed then row.version + 1 else row.version } }

def heartbeat (settings : Settings) (db : Db) (call : Call) (workerId : WorkerId) (callback : Callback)
    (request : HeartbeatRequest) : Outcome (Db × Acknowledgment) := do
  let (db, replay) ← beginCallback db call workerId .workerHeartbeat callback
  let mode ← operationalMode db
  let worker ← workerAuth db call workerId
  let _ ← requireCurrentIncarnation db worker request.workerIncarnationId false
  match replay with
  | some acknowledgment => return (db, acknowledgment)
  | none => do
    require (mode ≠ .writeFrozen) (stateConflict "Worker heartbeat is disabled while writes are frozen")
    let checksum ← currentChecksum db worker
    let changed : Bool := checksum ≠ some request.checksum
    let (db, version) ←
      if changed then do
        let (db, version) ← replaceInventory settings db call workerId request
        .ok (db, some version)
      else .ok (db, worker.currentInventoryVersion)
    let ready := request.passes && worker.adminState ≠ .disabled
    let db := db.update .workerIncarnations
      (fun row => row.workerIncarnationId = request.workerIncarnationId)
      (readyIncarnationPatch ready call.now)
    let db := db.update .workers (fun row => row.workerId = workerId)
      (heartbeatPatch worker ready version call.now)
    let db ← if changed then rebaseLocked settings.round db call.now call.segmentId else .ok db
    completeCallback db call
      (.heartbeat call.now worker.adminState request.workerIncarnationId)

end Nexa
