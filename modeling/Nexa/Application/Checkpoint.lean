import Nexa.Application.Execution

namespace Nexa

open Relational Outcome

def checkpointPhase (job : Job) (attempt : Attempt) : Bool := match job.state with
  | .running =>
    job.desiredState = .running ∧ job.recoveryIntent = none ∧ attempt.executionIntent = .run
  | .pausing =>
    job.desiredState = .paused ∧ attempt.executionIntent = ExecutionIntent.ofRecovery job.recoveryIntent
  | _ => false

def checkpointSequencePatch (sequence : Nat) : JobChanges where
  apply row := { row with checkpointSequence := sequence }

def attemptStatePatch (state : AttemptState) (now : Time) : Patch nexaSchema .attempts where
  apply attempt := { attempt with state, updatedAt := now }

def reserveCheckpoint (db : Db) (call : Call) (attemptId : AttemptId) (callback : Callback)
    (authority : Authority) : Outcome (Db × Acknowledgment) := do
  let (db, found) ← callbackRows db call .reserveCheckpoint callback authority attemptId
  match found with
  | .inl acknowledgment => return (db, acknowledgment)
  | .inr rows => do
    let mode ← operationalMode db
    require (mode ≠ .writeFrozen) (stateConflict "Writes are frozen")
    liveAuthority rows call.now
    require (rows.attempt.state = .running ∧ checkpointPhase rows.job rows.attempt = true)
      (stateConflict "Attempt cannot reserve a checkpoint now")
    let (_, template) ← specAndTemplate db rows.job.jobId
    require (template.checkpointable = true) (stateConflict "Template is not checkpointable")
    require
      ((db.select .checkpointReservations fun row =>
          row.attemptId = attemptId ∧ row.state = .reserved).isEmpty ∧
        (db.select .resultReservations fun row =>
          row.jobId = rows.job.jobId ∧ row.state = .active).isEmpty)
      (stateConflict "A checkpoint or result reservation is already active")
    let sequence := rows.job.checkpointSequence + 1
    let db := db.update .jobs (fun job => job.jobId = rows.job.jobId)
      (checkpointSequencePatch sequence)
    let reservation : CheckpointReservation :=
      { checkpointId := call.fresh 1, tenantId := rows.job.tenantId, jobId := rows.job.jobId
        attemptId, authorityGrantId := rows.grant.grantId, sequence
        callbackId := callback.callbackId, state := .reserved, reservedAt := call.now
        endedAt := none }
    let db ← insertInto db .checkpointReservations reservation
    let db := db.update .attempts (fun attempt => attempt.attemptId = attemptId)
      (attemptStatePatch .checkpointing call.now)
    completeCallback db call (.checkpointReserved reservation.ticket)

inductive GraphFailure where
  | rejected (reason : CheckpointReason) (message : String)
  | raised (failure : Failure)

inductive CheckpointVerdict where
  | refused (error : ApplicationError)
  | rejected (reason : CheckpointReason) (message : String)
  | accepted (manifestArtifactId : ArtifactId) (manifestChecksum : Nat) (compatibility : Nat)
      (chunks : Option ChunkGraph)

structure PublishRequest where
  authority : Authority
  verdict : CheckpointVerdict

def chunkRejection (reason : CheckpointReason) : ChunkFailure -> GraphFailure
  | .defect message => .rejected reason message
  | .raised failure => .raised failure

def recognizedChunkGraph (db : Db) (job : Job) (attemptId : AttemptId) (fresh : Nat -> Nat)
    (graph : ChunkGraph) : Except GraphFailure Db := do
  let db ← (pinExtents db job attemptId graph.itemCount graph.chunkSize).mapError
    (chunkRejection .stateInvalid)
  if graph.manifestValid then
    (recognize db job attemptId fresh graph.entries).mapError (chunkRejection .filesInvalid)
  else .error (.rejected .filesInvalid "chunk-output manifest")

def verifiedCheckpointGraph (db : Db) (job : Job) (attemptId : AttemptId) (fresh : Nat -> Nat) :
    CheckpointVerdict -> Except GraphFailure (Db × ArtifactId × Nat × Nat)
  | .refused error => .error (.raised (.external error))
  | .rejected reason message => .error (.rejected reason message)
  | .accepted manifestArtifactId manifestChecksum compatibility none =>
    .ok (db, manifestArtifactId, manifestChecksum, compatibility)
  | .accepted manifestArtifactId manifestChecksum compatibility (some graph) => do
    let db ← recognizedChunkGraph db job attemptId fresh graph
    return (db, manifestArtifactId, manifestChecksum, compatibility)

theorem rejectedReservation_indexes (now : Time) (row : Row .checkpointReservations) :
    indexesOf .checkpointReservations { row with state := .rejected, endedAt := some now } ⊆
      indexesOf .checkpointReservations row :=
  List.nil_subset _

theorem committedReservation_indexes (now : Time) (row : Row .checkpointReservations) :
    indexesOf .checkpointReservations { row with state := .committed, endedAt := some now } ⊆
      indexesOf .checkpointReservations row :=
  List.nil_subset _

def rejectReservationPatch (now : Time) : Patch nexaSchema .checkpointReservations where
  apply reservation := { reservation with state := .rejected, endedAt := some now }
  indexes_apply := rejectedReservation_indexes now

def commitReservationPatch (now : Time) : Patch nexaSchema .checkpointReservations where
  apply reservation := { reservation with state := .committed, endedAt := some now }
  indexes_apply := committedReservation_indexes now

def pauseAbortedPatch : JobChanges where
  apply row := { row with state := .running, desiredState := .running }

/-- The attempt keeps running, a pause of a run is aborted. -/
def rejectCheckpoint (db : Db) (now : Time) (workerId : WorkerId) (job : Job) (attempt : Attempt)
    (checkpointId : CheckpointId) (reason : CheckpointReason) : Outcome Db := do
  let db := db.update .checkpointReservations (fun row => row.checkpointId = checkpointId)
    (rejectReservationPatch now)
  let db := db.update .attempts (fun row => row.attemptId = attempt.attemptId)
    (attemptStatePatch .running now)
  if job.state = .pausing ∧ attempt.executionIntent = .run then do
    let (db, _) ← Cleanup.event db job workerId now .pauseAborted (.checkpoint reason) false
      pauseAbortedPatch
    return db
  else do
    let (db, _) ← Cleanup.event db job workerId now .checkpointRejected (.checkpoint reason) false
      noChanges
    return db

/-- A pause checkpoint ends the attempt's work. -/
def commitCheckpoint (db : Db) (now : Time) (workerId : WorkerId) (job : Job) (attempt : Attempt)
    (checkpoint : Checkpoint) : Outcome Db := do
  let db := db.update .checkpointReservations (fun row => row.checkpointId = checkpoint.checkpointId)
    (commitReservationPatch now)
  let db ← insertInto db .checkpoints checkpoint
  let next : AttemptState := if job.state = .pausing then .stopping else .running
  let db := db.update .attempts (fun row => row.attemptId = attempt.attemptId)
    (attemptStatePatch next now)
  let (db, _) ← Cleanup.event db job workerId now .checkpointCommitted (.checkpoint .committed) false
    noChanges
  return db

/-- The graph is verified in a savepoint, so a rejection keeps none of it. -/
def publishCheckpoint (db : Db) (call : Call) (attemptId : AttemptId) (callback : Callback)
    (request : PublishRequest) : Outcome (Db × Acknowledgment) := do
  let authority := request.authority
  let (db, found) ← callbackRows db call .publishCheckpoint callback authority attemptId
  match found with
  | .inl acknowledgment => return (db, acknowledgment)
  | .inr rows => do
    let mode ← operationalMode db
    require (mode ≠ .writeFrozen) (stateConflict "Writes are frozen")
    liveAuthority rows call.now
    require (rows.attempt.state = .checkpointing ∧ checkpointPhase rows.job rows.attempt = true)
      (stateConflict "Attempt has no checkpoint in progress")
    let foundReservation ← oneOrNone (db.select .checkpointReservations fun row =>
      row.attemptId = attemptId ∧ row.state = .reserved)
    let notHeld := stateConflict "Checkpoint reservation is not held by this Authority"
    let reservation ← orFail notHeld foundReservation
    require (reservation.authorityGrantId = rows.grant.grantId) notHeld
    match verifiedCheckpointGraph db rows.job attemptId (fun index => call.fresh (index + 1))
        request.verdict with
    | .error (.raised failure) => .error failure
    | .error (.rejected reason message) => do
      let db ← rejectCheckpoint db call.now authority.workerId rows.job rows.attempt
        reservation.checkpointId reason
      completeCallback db call (.checkpointRejected .validationFailed message)
    | .ok (verified, manifestArtifactId, manifestChecksum, compatibility) => do
      let checkpoint : Checkpoint :=
        { checkpointId := reservation.checkpointId, tenantId := rows.job.tenantId
          jobId := rows.job.jobId, attemptId, sequence := reservation.sequence
          manifestArtifactId, manifestChecksum, compatibility, createdAt := call.now }
      let db ← commitCheckpoint verified call.now authority.workerId rows.job rows.attempt
        checkpoint
      completeCallback db call (.checkpointCommitted checkpoint)

def markEach (db : Db) (job : Job) (workerId : WorkerId) (now : Time) :
    List (CheckpointId × CheckpointReason) -> Outcome Db
  | [] => .ok db
  | (checkpointId, reason) :: rest => do
    require
      (((db.select .checkpoints fun row =>
        row.checkpointId = checkpointId ∧ restorableScope db job.jobId row).isEmpty) = false)
      (stateConflict "Checkpoint does not belong to this Job")
    match db.insert .checkpointCorruptions
        { checkpointId, tenantId := job.tenantId, reasonCode := reason } with
    | none => do
      require ((db.rows .checkpointCorruptions).any fun mark => mark.checkpointId = checkpointId)
        (.integrity .checkpointCorruptions)
      markEach db job workerId now rest
    | some marked => do
      let (db, _) ← Cleanup.event marked job workerId now .checkpointCorrupt (.checkpoint reason) true
        noChanges
      markEach db { job with eventSequence := job.eventSequence + 1 } workerId now rest

def markCorrupt (db : Db) (call : Call) (authority : Authority)
    (marks : List (CheckpointId × CheckpointReason)) : Outcome Db := do
  let mode ← operationalMode db
  require (mode ≠ .writeFrozen) (stateConflict "Writes are frozen")
  let worker ← workerAuth db call authority.workerId
  let _ ← requireCurrentIncarnation db worker authority.workerIncarnationId false
  let rows ← authorityRows db authority authority.workerId
  liveAuthority rows call.now
  markEach db rows.job authority.workerId call.now marks

end Nexa
