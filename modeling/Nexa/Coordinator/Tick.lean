import Nexa.Coordinator.Snapshot

namespace Nexa

open Relational Outcome

def tickLocks (db : Db) : Outcome (PolicyVersion × Option (Worker × WorkerInventory)) := do
  let policy ← one (db.select .policyVersions fun row => row.isCurrent)
  let (worker, inventory) ← onlyWorker db
  return (policy, worker.bind fun worker => inventory.map fun inventory => (worker, inventory))

def eligibleSincePatch (ages : JobId -> Option Time) : JobChanges where
  apply row := { row with eligibleSince := ages row.jobId }

def processEligibilityBatch (db : Db) (page : List JobId) (ages : JobId -> Option Time) : Db :=
  db.update .jobs (fun job => job.jobId ∈ page ∧ job.state = .queued) (eligibleSincePatch ages)

structure SnapshotRequest where
  leader : Leader
  now : Time
  boundary : Time
  eligibilityPage : List JobId
  ages : JobId -> Option Time
  sources : SnapshotSources

def snapshotOperation (settings : Settings) (db : Db) (request : SnapshotRequest) :
    Outcome (Db × Option SchedulingSnapshot) := do
  let (policy, found) ← tickLocks db
  match found with
  | none => return (db, none)
  | some (worker, inventory) =>
    if policy.operationalMode ≠ .normal ∨ workerIsReady worker request.now = false then
      return (db, none)
    else do
      let db := processEligibilityBatch db request.eligibilityPage request.ages
      let snapshot ← readSnapshot settings.round db request.now policy inventory request.sources
      let db ← accountNowLocked settings.round db request.now request.boundary
      let db ← persistFairnessLocked settings.round db snapshot request.boundary
      return (db, some snapshot)

structure CommitRequest where
  leader : Leader
  decision : SchedulingDecision
  sources : SnapshotSources
  replayPending : Bool

def SchedulingDecision.committed : SchedulingDecision -> Bool
  | .dispatch .. | .createReservation .. | .invalidateReservation .. => true
  | .drainForReservation .. | .noDecision .. => false

def decisionJob (db : Db) : SchedulingDecision -> Option Job
  | .dispatch jobId _ _ _ | .createReservation jobId _ _ | .drainForReservation _ jobId =>
    (db.rows .jobs).find? fun row => row.jobId = jobId
  | .invalidateReservation reservationId _ => do
    let reservation ← (db.rows .reservations).find? fun row => row.reservationId = reservationId
    (db.rows .jobs).find? fun row => row.jobId = reservation.jobId
  | .noDecision _ _ => none

def commitDecision (settings : Settings) (db : Db) (call : Call) (request : CommitRequest)
    (worker : Worker) (fresh : SchedulingSnapshot) : Outcome Db := do
  let job := decisionJob db request.decision
  let db ← accountLocked settings.round db call.now call.observed
  let db ← persistFairnessLocked settings.round db fresh call.now
  applyDecision settings db call request.leader worker job request.decision

/-- Nothing happens unless the policy still decides the same. -/
def commitOperation (settings : Settings) (db : Db) (call : Call) (request : CommitRequest) :
    Outcome Db := do
  let (policy, found) ← tickLocks db
  match found with
  | none => return db
  | some (worker, inventory) =>
    if policy.operationalMode ≠ .normal ∨ workerIsReady worker call.now = false then return db
    else do
      let fresh ← readSnapshot settings.round db call.now policy inventory request.sources
      if request.decision.committed = false ∨ request.replayPending = true ∨
          decidePolicy settings.round fresh (epochMs call.now) ≠ .ok request.decision then
        return db
      else commitDecision settings db call request worker fresh

def account (settings : Settings) (db : Db) (now boundary : Time) : Outcome Db := do
  let db := lockLedgers db now false
  let mode ← operationalMode db
  if mode = .writeFrozen then return db
  else chargeLocked settings.round db boundary boundary

end Nexa
