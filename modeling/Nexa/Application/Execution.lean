import Nexa.Application.Admission
import Nexa.Application.Callbacks
import Nexa.Application.Chunks

namespace Nexa

open Relational Outcome

structure RestoreScan where
  remaining : List CheckpointId
  selected : Option CheckpointId
  incompatible : List CheckpointReason
  attemptNumber : Nat
  restartSafe : Bool
  inherited : Bool
  /-- The recognized chunks of the scan and those to carry forward. -/
  recognized : Option (List Nat × Option (List Nat))

structure ClaimRequest where
  authority : Authority
  scan : Option RestoreScan
  /-- Those of the input, the selected checkpoint and the carried chunks. -/
  inputsCommitted : Bool
  restoreCommitted : Bool
  chunksCommitted : Bool

def restoreRetry : Failure := dependencyUnavailable "Checkpoint restore selection must be retried"

def restoreEvents (scan : RestoreScan) : List (EventType × CheckpointReason) :=
  let outcome := if scan.selected.isSome then [(.checkpointRestoreSelected, .restored)]
    else if 1 < scan.attemptNumber ∨ scan.inherited then
      if scan.restartSafe then [(.checkpointFallbackToInput, .fallbackToInput)]
      else [(.checkpointRestoreUnavailable, .restoreUnavailable)]
    else []
  scan.incompatible.map (fun reason => (.checkpointIncompatible, reason)) ++ outcome

def appendEvents (db : Db) (job : Job) (workerId : WorkerId) (now : Time) :
    List (EventType × CheckpointReason) -> Outcome (Db × Job)
  | [] => .ok (db, job)
  | (eventType, reason) :: rest => do
    let (db, _) ← Cleanup.event db job workerId now eventType (.checkpoint reason) true noChanges
    appendEvents db { job with eventSequence := job.eventSequence + 1 } workerId now rest

def restoreDecision (db : Db) (job : Job) (workerId : WorkerId) (request : ClaimRequest) (now : Time) :
    Outcome (Db × Job × RestoreScan) := do
  let scan ← orFail restoreRetry request.scan
  require ((restorable db job.jobId).map (·.checkpointId) = scan.remaining) restoreRetry
  require (scan.selected = none ∨ request.restoreCommitted) restoreRetry
  let (db, job) ← appendEvents db job workerId now (restoreEvents scan)
  return (db, job, scan)

def recognizedDecision (db : Db) (job : Job) (request : ClaimRequest) (scan : RestoreScan) :
    Outcome (Option (List Nat)) :=
  match scan.recognized with
  | none => .ok none
  | some (ids, items) => do
    let current := (db.select .recognizedChunks fun row =>
      row.tenantId = job.tenantId ∧ row.jobId = job.jobId).insertionSort
        fun left right => left.chunkId ≤ right.chunkId
    require (current.map (·.recognizedChunkId) = ids) restoreRetry
    require (items.getD [] = [] ∨ request.chunksCommitted) restoreRetry
    return items

def claimPatch (now : Time) (context : ExecutionContext) : Patch nexaSchema .attempts where
  apply attempt := { attempt with state := .claimed, executionContext := some context, claimedAt := some now }

def claimAttempt (db : Db) (call : Call) (attemptId : AttemptId) (callback : Callback)
    (request : ClaimRequest) : Outcome (Db × Acknowledgment) := do
  let workerId := request.authority.workerId
  let (db, found) ← callbackRows db call .claimAttempt callback request.authority attemptId
  match found with
  | .inl acknowledgment => return (db, acknowledgment)
  | .inr rows => do
    liveAuthority rows call.now
    match rows.attempt.executionContext with
    | some context =>
      completeCallback db call
        (.claimed callback.callbackId call.now rows.job.state rows.job.version context)
    | none => do
      require (rows.attempt.state = .created ∧ rows.job.state = .dispatching)
        (stateConflict "Attempt is not claimable")
      let (_, template) ← specAndTemplate db rows.job.jobId
      require (request.inputsCommitted = true) (stateConflict "Execution input unavailable")
      let (db, job, scan) ← restoreDecision db rows.job workerId request call.now
      let carried ← recognizedDecision db job request scan
      let context : ExecutionContext :=
        { jobId := job.jobId, executionIntent := rows.attempt.executionIntent
          restartSafe := template.restartSafe, restoreCheckpoint := scan.selected
          recognizedChunks := carried, startupNonce := rows.attempt.startupNonce }
      let db := db.update .attempts (fun attempt => attempt.attemptId = attemptId)
        (claimPatch call.now context)
      completeCallback db call
        (.claimed callback.callbackId call.now job.state job.version context)

structure StartRequest where
  authority : Authority
  startupNonce : Nat
  executorOperationSequence : Nat
  container : ContainerReference

def startupLimit : Time := seconds 30

def restoreRequired (db : Db) (attempt : Attempt) : Bool :=
  (1 < attempt.attemptNumber || inherits db attempt.jobId) &&
    attempt.executionContext.elim true fun context =>
      !context.restartSafe && context.restoreCheckpoint.isNone

def startPatch (now : Time) (sequence : Nat) : Patch nexaSchema .attempts where
  apply attempt :=
    { attempt with
      state := .running, startedAt := some now, executorOperationSequence := some sequence }

def statePatch (state : JobState) : JobChanges where
  apply row := { row with state }

def startAttempt (db : Db) (call : Call) (attemptId : AttemptId) (callback : Callback)
    (request : StartRequest) : Outcome (Db × Acknowledgment) := do
  let authority := request.authority
  let (db, found) ← callbackRows db call .startAttempt callback authority attemptId
  match found with
  | .inl acknowledgment => return (db, acknowledgment)
  | .inr rows => do
    liveAuthority rows call.now
    require
      (rows.attempt.state = .claimed ∧ rows.attempt.claimedAt ≠ none ∧
        call.now < rows.attempt.createdAt + startupLimit ∧
        request.startupNonce = rows.attempt.startupNonce)
      (stateConflict "Attempt startup identity or budget is invalid")
    require (restoreRequired db rows.attempt = false)
      (stateConflict "Checkpoint restore is required for this Attempt")
    let db ← insertInto db .containerIdentities
      { tenantId := rows.job.tenantId, jobId := rows.job.jobId, attemptId
        allocationId := authority.allocationId, startupNonce := request.startupNonce
        executorCreateSequence := request.executorOperationSequence
        containerId := request.container.containerId
        runtimeIdentityDigest := request.container.runtimeIdentityDigest
        createdAt := call.now, stoppedAt := none, verifiedAt := none }
    let db := db.update .attempts (fun attempt => attempt.attemptId = attemptId)
      (startPatch call.now request.executorOperationSequence)
    let db := db.update .attemptLeases (fun lease => lease.leaseId = authority.leaseId)
      (expiryPatch (call.now + leaseDuration))
    -- A checkpoint-for-pause start enters PAUSING, never RUNNING.
    let started : JobState := if rows.attempt.executionIntent = .checkpointForPause then .pausing else .running
    let (db, job) ← Execution.transition db rows.job authority.workerId call.now .attemptStarted
      .attemptStarted (statePatch started)
    completeCallback db call
      (.started callback.callbackId call.now job.state job.version (call.now + leaseDuration))

def reserveResult (db : Db) (call : Call) (attemptId : AttemptId) (callback : Callback)
    (authority : Authority) : Outcome (Db × Acknowledgment) := do
  let (db, found) ← callbackRows db call .reserveResult callback authority attemptId
  match found with
  | .inl acknowledgment => return (db, acknowledgment)
  | .inr rows => do
    liveAuthority rows call.now
    resultAuthority rows.job rows.attempt
    require (rows.attempt.state = .running) (stateConflict "Attempt has not started")
    let existing ← oneOrNone (db.select .resultReservations fun row =>
      row.jobId = rows.job.jobId ∧ row.state = .active)
    require (existing.isNone = true)
      (stateConflict "A different result reservation callback is already active")
    let reservation : ResultReservation :=
      { resultId := call.fresh 1, tenantId := rows.job.tenantId, jobId := rows.job.jobId, attemptId
        authorityGrantId := rows.grant.grantId, callbackId := callback.callbackId
        state := .active, reservedAt := call.now }
    let db ← insertInto db .resultReservations reservation
    completeCallback db call (.resultReserved reservation.ticket)

inductive ResultVerdict where
  | refused (error : ApplicationError)
  | accepted (manifestArtifactId : ArtifactId) (manifestChecksum : Nat) (chunks : Option ChunkGraph)

structure CompleteRequest where
  authority : Authority
  resultId : ResultId
  verdict : ResultVerdict

def chunksInvalid : Failure :=
  .application
    { code := .validationFailed, status := 422, message := "Result chunk outputs failed validation" }

def recognizedResultChunks (db : Db) (job : Job) (attemptId : AttemptId) (fresh : Nat -> Nat) :
    Option ChunkGraph -> Outcome Db
  | none => .ok db
  | some graph =>
    let outcome : Except ChunkFailure Db := do
      let db ← pinExtents db job attemptId graph.itemCount graph.chunkSize
      if graph.manifestValid then recognize db job attemptId fresh graph.entries
      else .error (.defect "chunk-output manifest")
    match outcome with
    | .ok db => .ok db
    | .error (.defect _) => .error chunksInvalid
    | .error (.raised failure) => .error failure

theorem committedResult_indexes (row : Row .resultReservations) :
    indexesOf .resultReservations { row with state := .committed } ⊆ indexesOf .resultReservations row :=
  List.nil_subset _

def commitResultPatch : Patch nexaSchema .resultReservations where
  apply reservation := { reservation with state := .committed }
  indexes_apply := committedResult_indexes

def succeedPatch (now : Time) : Patch nexaSchema .attempts where
  apply attempt := { attempt with state := .succeeded, endedAt := some now, updatedAt := now }

def terminalPatch (state : JobState) (now : Time) : JobChanges where
  apply row := { row with state, terminalAt := some now }

def lockPolicyCounters (db : Db) (attemptId : AttemptId) :
    Outcome (OperationalMode × List AdmissionCounter) := do
  let reference ← oneOrNone (db.select .attempts fun row => row.attemptId = attemptId)
  let attempt ← orFail (stateConflict "Cleanup identity or state is not valid") reference
  let found ← oneOrNone (db.select .jobs fun row => row.jobId = attempt.jobId)
  let job ← orFail (stateConflict "Cleanup identity or state is not valid") found
  let mode ← operationalMode db
  let counters ← lockCounters db job.scopes
  return (mode, counters)

def commitResult (settings : Settings) (db : Db) (call : Call) (callback : Callback)
    (workerId : WorkerId) (job : Job) (attemptId : AttemptId) (counters : List AdmissionCounter)
    (resultId : ResultId) (manifestArtifactId : ArtifactId) (manifestChecksum : Nat) :
    Outcome (Db × Job) := do
  let db ← insertInto db .results
    { resultId, tenantId := job.tenantId, jobId := job.jobId, attemptId, manifestArtifactId
      manifestChecksum, completionCallbackId := callback.callbackId, createdAt := call.now }
  let db := db.update .resultReservations (fun row => row.resultId = resultId) commitResultPatch
  let db := db.update .attempts (fun attempt => attempt.attemptId = attemptId) (succeedPatch call.now)
  let db ← adjustCounters db counters call.now 1 0
  let (db, job) ← Execution.transition db job workerId call.now .resultRecognized .resultRecognized
    (terminalPatch .succeeded call.now)
  return (extendRetention db job.jobId call.now settings.idempotencyTerminalRetentionDays, job)

def completeAttempt (settings : Settings) (db : Db) (call : Call) (attemptId : AttemptId)
    (callback : Callback) (request : CompleteRequest) : Outcome (Db × Acknowledgment) := do
  let (_, counters) ← lockPolicyCounters db attemptId
  let (db, found) ← callbackRows db call .completeAttempt callback request.authority attemptId
  match found with
  | .inl acknowledgment => return (db, acknowledgment)
  | .inr rows => do
    liveAuthority rows call.now
    resultAuthority rows.job rows.attempt
    require (rows.job.state = .running ∧ rows.attempt.state = .running)
      (stateConflict "Attempt is not running")
    let foundReservation ← oneOrNone (db.select .resultReservations fun row =>
      row.jobId = rows.job.jobId ∧ row.attemptId = attemptId ∧
        row.authorityGrantId = rows.grant.grantId ∧ row.state = .active)
    let invalid := stateConflict "Result reservation identity is invalid"
    let reservation ← orFail invalid foundReservation
    require (request.resultId = reservation.resultId) invalid
    match request.verdict with
    | .refused error => .error (.external error)
    | .accepted manifestArtifactId manifestChecksum chunks => do
      let db ← recognizedResultChunks db rows.job attemptId (fun index => call.fresh (index + 1))
        chunks
      let (db, job) ← commitResult settings db call callback request.authority.workerId rows.job
        attemptId counters reservation.resultId manifestArtifactId manifestChecksum
      completeCallback db call
        (.completed callback.callbackId call.now .succeeded job.version)

end Nexa
