import Nexa.Application.Admission
import Nexa.Application.Requests

namespace Nexa

open Relational Outcome

structure ControlRequest extends Request where
  tenantId : TenantId
  jobId : JobId
  ifMatch : Option Nat

structure ControlContext where
  job : Job
  counters : List AdmissionCounter
  now : Time

structure ControlStep where
  db : Db
  changes : JobChanges
  eventType : EventType
  reason : EventReason
  terminal : Bool

def retention (settings : Settings) : Time := seconds (86400 * settings.idempotencyTerminalRetentionDays)

def control (settings : Settings) (db : Db) (call : Call) (operation : RequestOperation)
    (request : ControlRequest) (apply : Db -> ControlContext -> Outcome ControlStep) :
    Outcome (Db × StoredResponse) := do
  authorize request.principal
  let submitter ← visibleSubmitter db request.principal request.tenantId request.jobId
  let (db, replay) ← beginIdempotency db call (.tenant request.tenantId) request.principal.userId
    operation request.key request.requestHash (call.now + retention settings)
  match replay with
  | some response => return (db, response)
  | none => do
    let expected ← resolveExpectedVersion request.ifMatch
    let mode ← operationalMode db
    require (mode ≠ .writeFrozen) (stateConflict "Writes are frozen")
    let counters ← lockCounters db (Scope.ofJob request.tenantId submitter)
    let job ← one (db.select .jobs fun row =>
      row.tenantId = request.tenantId ∧ row.jobId = request.jobId)
    require (job.version = expected) (versionConflict "Job version does not match If-Match")
    let step ← apply db { job, counters, now := call.now }
    let db ← Control.controlEvent step.db job request.principal.userId call.now step.eventType
      step.reason step.changes
    let row ← one (db.select .jobs fun row =>
      row.tenantId = request.tenantId ∧ row.jobId = request.jobId)
    let (db, response) ← completeIdempotency db call
      { status := 202, resourceId := some request.jobId, jobState := some row.state
        jobVersion := some row.version }
    let db :=
      if step.terminal then
        extendRetention db request.jobId call.now settings.idempotencyTerminalRetentionDays
      else db
    return (db, response)

def JobState.text : JobState -> String
  | .queued => "QUEUED"
  | .dispatching => "DISPATCHING"
  | .running => "RUNNING"
  | .pausing => "PAUSING"
  | .paused => "PAUSED"
  | .recovering => "RECOVERING"
  | .retryWait => "RETRY_WAIT"
  | .cancelling => "CANCELLING"
  | .succeeded => "SUCCEEDED"
  | .failed => "FAILED"
  | .cancelled => "CANCELLED"

def cannotBe (job : Job) (what : String) : Failure :=
  stateConflict ("A " ++ job.state.text ++ " job cannot be " ++ what)

def lockLiveAttempt (db : Db) (jobId : JobId) : Outcome (Option Attempt) :=
  oneOrNone ((db.select .attempts fun attempt => attempt.jobId = jobId).flatMap fun attempt =>
    (db.select .attemptLeases fun lease =>
      lease.attemptId = attempt.attemptId ∧ lease.revokedAt = none).map fun _ => attempt)

def invalidatePatch (now : Time) (reason : ReservationReason) : Patch nexaSchema .reservations where
  apply reservation := { reservation with invalidatedAt := some now, invalidationReason := some reason }

def closeSchedulePatch (now : Time) : Patch nexaSchema .retrySchedules where
  apply schedule := { schedule with closedAt := some now }

def cancelledPatch (now : Time) : JobChanges where
  apply row :=
    { row with
      state := .cancelled, desiredState := .cancelled, recoveryIntent := none, waitingReason := none
      terminalAt := some now }

def cancellingPatch : JobChanges where
  apply row := { row with state := .cancelling, desiredState := .cancelled }

def fencedCancelPatch (fence : Nat) : JobChanges where
  apply row := { row with state := .cancelling, desiredState := .cancelled, jobFence := fence }

def cancelWaiting (db : Db) (context : ControlContext) : Outcome ControlStep := do
  let job := context.job
  let db := db.update .reservations
    (fun reservation => reservation.jobId = job.jobId ∧ reservation.invalidatedAt = none)
    (invalidatePatch context.now .jobCancelled)
  let db := db.update .retrySchedules
    (fun schedule => schedule.jobId = job.jobId ∧ schedule.closedAt = none)
    (closeSchedulePatch context.now)
  let db ← adjustCounters db context.counters context.now 1 0
  return { db, changes := cancelledPatch context.now, eventType := .jobCancelled
           reason := .userCancel, terminal := true }

def cancelActive (db : Db) (context : ControlContext) : Outcome ControlStep := do
  let found ← lockLiveAttempt db context.job.jobId
  match found with
  | some attempt =>
    return { db := fenceAttempt db attempt.attemptId context.now .stopping .userCancel .userCancel
               .userCancel
             changes := fencedCancelPatch (context.job.jobFence + 1)
             eventType := .cancelRequested, reason := .userCancel, terminal := false }
  | none =>
    return { db, changes := cancellingPatch, eventType := .cancelRequested, reason := .userCancel
             terminal := false }

def applyCancel (db : Db) (context : ControlContext) : Outcome ControlStep :=
  if context.job.state.immediateCancel then cancelWaiting db context
  else if context.job.state.active then cancelActive db context
  else if context.job.state = .recovering then
    -- Authority was already fenced; the cleanup proof finishes the cancel.
    .ok { db, changes := cancellingPatch, eventType := .cancelRequested, reason := .userCancel
          terminal := false }
  else .error (cannotBe context.job "cancelled")

def cancelJob (settings : Settings) (db : Db) (call : Call) (request : ControlRequest) :
    Outcome (Db × StoredResponse) :=
  control settings db call .cancelJob request applyCancel

def pausingPatch : JobChanges where
  apply row := { row with state := .pausing, desiredState := .paused }

def applyPause (db : Db) (context : ControlContext) : Outcome ControlStep := do
  let (_, template) ← specAndTemplate db context.job.jobId
  require (template.checkpointable = true) (infeasible "Job template is not checkpointable")
  require (context.job.state = .running ∧ context.job.desiredState = .running)
    (cannotBe context.job "paused")
  -- The lease is kept: the worker sees desired PAUSED on its next renewal.
  return { db, changes := pausingPatch, eventType := .pauseRequested, reason := .userPause
           terminal := false }

def pauseJob (settings : Settings) (db : Db) (call : Call) (request : ControlRequest) :
    Outcome (Db × StoredResponse) :=
  control settings db call .pauseJob request applyPause

/-- `compatible` holds the compatibilities the frozen template accepts. -/
def restorableCheckpoint (db : Db) (jobId : JobId) (compatible : List Nat) : Bool :=
  (db.rows .checkpoints).any fun checkpoint =>
    restorableScope db jobId checkpoint ∧ notCorrupt db checkpoint ∧ checkpoint.compatibility ∈ compatible

def globalVersionPatch (version : Nat) (now : Time) : Patch nexaSchema .admissionCounters where
  apply counter := { counter with version, updatedAt := now }

def resumedPatch (readySequence : Nat) : JobChanges where
  apply row :=
    { row with
      state := .queued, desiredState := .running, recoveryIntent := none, waitingReason := none
      readySequence }

def applyResume (compatible : List Nat) (db : Db) (context : ControlContext) : Outcome ControlStep := do
  require (context.job.state = .paused) (cannotBe context.job "resumed")
  let (_, template) ← specAndTemplate db context.job.jobId
  require (template.restartSafe = true ∨ restorableCheckpoint db context.job.jobId compatible = true)
    (infeasible "No compatible checkpoint or restart-safe input")
  let globalCounter ← orFail (dependencyUnavailable "Admission accounting is unavailable")
    context.counters.head?
  let db := db.update .admissionCounters (fun counter => counter.scope = .global)
    (globalVersionPatch (globalCounter.version + 1) context.now)
  return { db, changes := resumedPatch globalCounter.version, eventType := .jobResumed
           reason := .userResume, terminal := false }

def resumeJob (settings : Settings) (db : Db) (call : Call) (compatible : List Nat)
    (request : ControlRequest) : Outcome (Db × StoredResponse) :=
  control settings db call .resumeJob request (applyResume compatible)

end Nexa
