import Nexa.Application.Submit
import Nexa.Coordinator.Dispatch

namespace Nexa

open Relational Outcome

def leaseExpiry (leader : Leader) : Revocation where
  actor := .coordinator leader.holderId
  attemptState := .lost
  failureReason := .leaseExpired
  revokeReason := .leaseExpired
  fenced := .attemptLost
  reason := .leaseExpired

/-- A renewal or a revocation that committed first leaves nothing to do. -/
def reapLeaseLocked (db : Db) (leader : Leader) (now : Time) (leaseId : LeaseId) : Outcome Db := do
  let reference ← oneOrNone (db.select .attemptLeases fun row => row.leaseId = leaseId)
  match reference with
  | none => return db
  | some lease => do
    let job ← one (db.select .jobs fun row => row.jobId = lease.jobId)
    let attempt ← one (db.select .attempts fun row => row.attemptId = lease.attemptId)
    if lease.revokedAt ≠ none ∨ now < lease.expiresAt then return db
    else revokeLease db (leaseExpiry leader) now job attempt lease

def reapLease (db : Db) (leader : Leader) (now : Time) (leaseId : LeaseId) : Outcome Db := do
  let mode ← operationalMode db
  if mode = .writeFrozen then return db else reapLeaseLocked db leader now leaseId

def due (now : Time) (job : Job) (schedule : RetrySchedule) : Bool :=
  schedule.closedAt = none ∧ schedule.readyAt ≤ now ∧ schedule.retryNumber = job.retryCount ∧
    job.state = .retryWait ∧ dispatchable job.desiredState job.recoveryIntent

def WaitingReason.blocked (reason : Option WaitingReason) : Bool :=
  reason = some .waitingForCompatibility ∨ reason = some .waitingForQuota

def retryBatchSize : Nat := 16

def retryBefore (left right : Job × RetrySchedule) : Bool :=
  let leftBlocked := WaitingReason.blocked left.1.waitingReason
  let rightBlocked := WaitingReason.blocked right.1.waitingReason
  leftBlocked < rightBlocked ∨ leftBlocked = rightBlocked ∧
    (left.2.readyAt < right.2.readyAt ∨ left.2.readyAt = right.2.readyAt ∧ left.2.jobId ≤ right.2.jobId)

def retryCandidates (db : Db) (now : Time) : List (Job × RetrySchedule) :=
  let pairs := (db.rows .jobs).flatMap fun job =>
    (db.select .retrySchedules fun schedule => schedule.jobId = job.jobId ∧ due now job schedule).map
      fun schedule => (job, schedule)
  (pairs.insertionSort fun left right => retryBefore left right).take retryBatchSize

def onlyWorker (db : Db) : Outcome (Option Worker × Option WorkerInventory) := match db.rows .workers with
  | [worker] => do
    let inventory ← oneOrNone (db.select .workerInventories fun row =>
      row.workerId = worker.workerId ∧ worker.currentInventoryVersion = some row.inventoryVersion ∧
        worker.currentIncarnationId = some row.workerIncarnationId)
    return (some worker, inventory)
  | _ => .ok (none, none)

def retryBlockedReason (db : Db) (runsOn : TemplateVersion -> WorkerInventory -> Bool) (job : Job)
    (inventory : Option WorkerInventory) : Outcome (Option WaitingReason) := do
  let spec ← one (db.select .jobSpecs fun row => row.jobId = job.jobId)
  let template ← oneOrNone (db.select .templateVersions fun row =>
    row.templateId = spec.templateId ∧ row.version = spec.templateVersion)
  let policy ← oneOrNone (db.select .tenantPolicies fun row =>
    row.tenantId = job.tenantId ∧ row.isCurrent)
  let incompatible : Bool := inventory.any fun inventory =>
    spec.resources.gpuCount ≠ 0 ∨ inventory.allocatableCpuMillis < spec.resources.cpuMillis ∨
      inventory.allocatableMemoryBytes < spec.resources.memoryBytes ∨
      !template.any fun template => template.enabled && runsOn template inventory
  let withinPolicy : Bool := policy.any fun policy =>
    spec.resources.amounts.Fits ⟨policy.cpuLimitMillis, policy.memoryLimitBytes, policy.gpuLimit⟩
  return if incompatible then some .waitingForCompatibility
    else if withinPolicy then none else some .waitingForQuota

def blockedPatch (reason : WaitingReason) : JobChanges where
  apply row := { row with waitingReason := some reason }

def promotedPatch (readySequence : Nat) (workerReady : Bool) : JobChanges where
  apply row :=
    { row with
      state := .queued
      readySequence
      waitingReason := if workerReady then none else some .waitingForWorker }

structure Promotion where
  db : Db
  sequence : Nat

def promoteJob (state : Promotion) (leader : Leader) (now : Time) (ready : Bool) (job : Job)
    (schedule : RetrySchedule) : Outcome Promotion := do
  let isOpen (row : RetrySchedule) : Bool :=
    row.jobId = job.jobId ∧ row.retryNumber = schedule.retryNumber ∧ row.closedAt = none
  require ((state.db.select .retrySchedules isOpen).length = 1)
    (.runtime "retry promotion lost its compare-and-set")
  let db := state.db.update .retrySchedules isOpen (closeSchedulePatch now)
  let db ← Dispatch.event db (some job) leader.holderId now .retryReady (some .backoffElapsed) false
    (promotedPatch state.sequence ready)
  return { db, sequence := state.sequence + 1 }

def promoteOne (leader : Leader) (now : Time) (runsOn : TemplateVersion -> WorkerInventory -> Bool)
    (inventory : Option WorkerInventory) (ready : Bool) (state : Promotion) (jobId : JobId) :
    Outcome Promotion := do
  let job ← one (state.db.select .jobs fun row => row.jobId = jobId)
  let found ← oneOrNone (state.db.select .retrySchedules fun row =>
    row.jobId = jobId ∧ row.retryNumber = job.retryCount)
  match found.filter (due now job) with
  | none => return state
  | some schedule => do
    let blocked ← retryBlockedReason state.db runsOn job inventory
    match blocked with
    | some reason =>
      if job.waitingReason = some reason then return state
      else do
        let db ← Dispatch.event state.db (some job) leader.holderId now .retryBlocked
          (some (.waiting reason)) false (blockedPatch reason)
        return { state with db }
    | none => promoteJob state leader now ready job schedule

def promoteDueLocked (db : Db) (leader : Leader) (now : Time)
    (runsOn : TemplateVersion -> WorkerInventory -> Bool) : Outcome Db := do
  let jobIds : List JobId := ((retryCandidates db now).map (·.1.jobId)).insertionSort (· ≤ ·)
  if jobIds.isEmpty then return db
  else do
    let (db, counter) ← counterLock db .global now
    let (worker, inventory) ← onlyWorker db
    let ready := worker.any fun worker => workerIsReady worker now
    let state ← jobIds.foldlM (promoteOne leader now runsOn inventory ready)
      { db, sequence := counter.version }
    return if state.sequence = counter.version then state.db
      else state.db.update .admissionCounters (fun counter => counter.scope = .global)
        (globalVersionPatch state.sequence now)

def promoteRetries (db : Db) (leader : Leader) (now : Time)
    (runsOn : TemplateVersion -> WorkerInventory -> Bool) : Outcome Db := do
  let mode ← operationalMode db
  if mode = .writeFrozen then return db else promoteDueLocked db leader now runsOn

def quotaBatchSize : Nat := 256

def quotaPatch (blocked : Bool) (now : Time) : JobChanges where
  apply row :=
    { row with
      waitingReason := if blocked then some .waitingForQuota else none
      version := row.version + 1, updatedAt := now }

def markBatch (db : Db) (now : Time) (unlocked : JobId -> Bool) (tenantId : TenantId) (blocked : Bool) : Db :=
  let pending (job : Job) : Bool := if blocked then job.waitingReason ≠ some .waitingForQuota
    else job.waitingReason = some .waitingForQuota
  let target := (((db.select .jobs fun job =>
    job.tenantId = tenantId ∧ job.state = .queued ∧ pending job ∧ unlocked job.jobId).map
      (·.jobId)).insertionSort (· ≤ ·)).take quotaBatchSize
  db.update .jobs (fun job => job.jobId ∈ target) (quotaPatch blocked now)

def trackArtifactQuota (db : Db) (now : Time) (unlocked : JobId -> Bool)
    (marking clearing : List TenantId) : Outcome Db := do
  let mode ← operationalMode db
  if mode = .writeFrozen then return db
  else
    let marked := marking.foldl (fun db tenant => markBatch db now unlocked tenant true) db
    return (clearing.insertionSort (· ≤ ·)).foldl
      (fun db tenant => markBatch db now unlocked tenant false) marked

end Nexa
