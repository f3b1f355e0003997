import Nexa.Application.Workers

namespace Nexa

open Relational Outcome

def adminRetention : Time := seconds (86400 * 30)

def ensureMutable (db : Db) : Outcome Unit := do
  let mode ← operationalMode db
  require (mode ≠ .writeFrozen)
    (stateConflict "Administrative mutations are disabled while writes are frozen")

structure WorkerAdminRequest extends Request where
  workerId : WorkerId
  ifMatch : Option Nat

structure WorkerChanges where
  adminState : AdminState
  withdraw : Bool

def workerAdminPatch (changes : WorkerChanges) (version : Nat) : Patch nexaSchema .workers where
  apply row :=
    { row with
      adminState := changes.adminState
      health := if changes.withdraw then .starting else row.health
      readyAt := if changes.withdraw then none else row.readyAt
      version }

def mutateWorker (db : Db) (call : Call) (operation : RequestOperation) (status : Nat)
    (request : WorkerAdminRequest) (apply : Db -> Worker -> Outcome (Db × WorkerChanges)) :
    Outcome (Db × StoredResponse) := do
  authorize request.principal
  let (db, replay) ← beginIdempotency db call .global request.principal.userId operation request.key
    request.requestHash (call.now + adminRetention)
  match replay with
  | some response => return (db, response)
  | none => do
    let expected ← resolveExpectedVersion request.ifMatch
    ensureMutable db
    let found ← oneOrNone (db.select .workers fun row => row.workerId = request.workerId)
    let worker ← orFail
      (.application
        { code := .resourceNotFound, status := 404, message := "Worker was not found" })
      found
    require (worker.version = expected) (versionConflict "Worker version does not match If-Match")
    let (db, changes) ← apply db worker
    let db := db.update .workers (fun row => row.workerId = request.workerId)
      (workerAdminPatch changes (worker.version + 1))
    completeIdempotency db call
      { status, resourceId := some request.workerId, jobState := none, jobVersion := none }

def AdminState.text : AdminState -> String
  | .enabled => "ENABLED"
  | .draining => "DRAINING"
  | .disabled => "DISABLED"

def drainWorker (db : Db) (call : Call) (request : WorkerAdminRequest) : Outcome (Db × StoredResponse) :=
  mutateWorker db call .drainWorker 202 request fun db worker => do
    require (worker.adminState = .enabled)
      (stateConflict ("A " ++ worker.adminState.text ++ " worker cannot be drained"))
    return (db, { adminState := .draining, withdraw := false })

def workerDisabling (admin : UserId) : Revocation where
  actor := .admin admin
  attemptState := .stopping
  failureReason := .workerDisabled
  revokeReason := .workerDisabled
  fenced := .attemptFenced
  reason := .workerDisabled

def fenceWorkerAttempt (admin : UserId) (now : Time) (db : Db) (probe : AttemptLease) : Outcome Db := do
  let job ← one (db.select .jobs fun row => row.jobId = probe.jobId)
  let lease ← one (db.select .attemptLeases fun row => row.leaseId = probe.leaseId)
  let attempt ← one (db.select .attempts fun row => row.attemptId = lease.attemptId)
  if lease.revokedAt ≠ none then return db
  else revokeLease db (workerDisabling admin) now job attempt lease

def workerLeases (db : Db) (workerId : WorkerId) : List AttemptLease :=
  (db.select .attemptLeases fun lease =>
    lease.revokedAt = none ∧ (db.rows .allocations).any fun allocation =>
      allocation.allocationId = lease.allocationId ∧ allocation.workerId = workerId).insertionSort
    fun left right => left.jobId < right.jobId ∨ left.jobId = right.jobId ∧ left.leaseId ≤ right.leaseId

def disableWorker (db : Db) (call : Call) (request : WorkerAdminRequest) : Outcome (Db × StoredResponse) :=
  mutateWorker db call .disableWorker 202 request fun db worker => do
    require (worker.adminState ≠ .disabled) (stateConflict "The worker is already disabled")
    let db ← (workerLeases db request.workerId).foldlM
      (fenceWorkerAttempt request.principal.userId call.now) db
    return (db, { adminState := .disabled, withdraw := true })

/-- `readiness` is what the readiness checks of the current incarnation raised. -/
def enableWorker (db : Db) (call : Call) (readiness : Option ApplicationError)
    (request : WorkerAdminRequest) : Outcome (Db × StoredResponse) :=
  mutateWorker db call .enableWorker 200 request fun db worker => do
    require (worker.adminState ≠ .enabled) (stateConflict "The worker is already enabled")
    require (worker.adminState ≠ .draining ∨ worker.health = .ready)
      (stateConflict "The worker is not READY")
    refuse readiness
    require
      ((db.select .allocations fun row =>
        row.workerId = request.workerId ∧ row.state = .quarantined).isEmpty = true)
      (stateConflict "Quarantined allocations still await verified cleanup")
    return (db, { adminState := .enabled, withdraw := false })

def healthPatch (health : WorkerHealth) : Patch nexaSchema .workers where
  apply row := { row with health, readyAt := none, version := row.version + 1 }

def staleHealth (now reference : Time) : Option WorkerHealth := if reference + seconds 30 ≤ now then some .unavailable
  else if reference + seconds 15 ≤ now then some .suspect
  else none

def writeHealth (db : Db) (worker : Worker) : Option WorkerHealth -> Db
  | none => db
  | some health =>
    if worker.health = health then db
    else db.update .workers (fun row => row.workerId = worker.workerId) (healthPatch health)

def sweepWorker (now : Time) (db : Db) (worker : Worker) : Db :=
  let incarnation := (db.rows .workerIncarnations).find? fun row =>
    worker.currentIncarnationId = some row.workerIncarnationId
  incarnation.elim db fun incarnation =>
    writeHealth db worker (staleHealth now (worker.lastHeartbeatAt.getD incarnation.processStartedAt))

def sweepHealth (db : Db) (now : Time) : Outcome Db := do
  let mode ← operationalMode db
  if mode = .writeFrozen then return db
  else return (db.rows .workers).foldl (sweepWorker now) db

def firstPolicy (tenantId : TenantId) : TenantPolicy where
  tenantId := tenantId
  version := 1
  weight := 1
  cpuLimitMillis := 0
  memoryLimitBytes := 0
  gpuLimit := 0
  outstandingLimit := 2000
  userOutstandingLimit := 2000
  tenantActiveLimit := 2
  userActiveLimit := 1
  tenantRatePerSecond := 5
  tenantRateBurst := 20
  userRatePerSecond := 2
  userRateBurst := 10
  isCurrent := true
  weight_pos := by decide
  tenantActive_pos := by decide
  userActive_pos := by decide

def createTenant (db : Db) (call : Call) (request : Request) : Outcome (Db × StoredResponse) := do
  authorize request.principal
  let (db, replay) ← beginIdempotency db call .global request.principal.userId .createTenant request.key
    request.requestHash (call.now + adminRetention)
  match replay with
  | some response => return (db, response)
  | none => do
    ensureMutable db
    let tenantId := call.fresh 1
    let db ← insertInto db .tenantPolicies (firstPolicy tenantId)
    completeIdempotency db call
      { status := 201, resourceId := some tenantId, jobState := none, jobVersion := none }

end Nexa
