import Nexa.Store.Queries

namespace Nexa

open Relational Outcome

inductive ChunkFailure where
  /-- The worker's graph is a deterministic defect of this publish. -/
  | defect (message : String)
  | raised (failure : Failure)

structure ChunkEntry where
  chunkId : Nat
  rangeStart : Nat
  rangeEnd : Nat
  artifactId : ArtifactId
  checksum : Nat
  sourceAttemptId : AttemptId
  sourceJobFence : Nat
  /-- A committed chunk file with the entry's media type, size and checksum. -/
  committed : Bool
  /-- The artifact was uploaded by the current authority lineage. -/
  uploaded : Bool

structure ChunkGraph where
  itemCount : Nat
  chunkSize : Nat
  manifestValid : Bool
  entries : List ChunkEntry

/-- The first recognition fixes the job's item count, every later one must agree. -/
def pinExtents (db : Db) (job : Job) (attemptId : AttemptId) (itemCount chunkSize : Nat) : Except ChunkFailure Db :=
  let inserted : Db :=
    (db.insert .inferenceExtents
      { jobId := job.jobId, tenantId := job.tenantId, itemCount, chunkSize
        sourceAttemptId := attemptId, sourceJobFence := job.jobFence }).getD db
  match one (inserted.select .inferenceExtents fun row => row.jobId = job.jobId) with
  | .error failure => .error (.raised failure)
  | .ok pinned =>
    if pinned.itemCount = itemCount ∧ pinned.chunkSize = chunkSize then .ok inserted
    else .error (.defect "inference extent differs from the job's recognized extent")

def recognized (db : Db) (jobId : JobId) (chunkId : Nat) : Option RecognizedChunk :=
  (db.rows .recognizedChunks).find? fun row => row.jobId = jobId ∧ row.chunkId = chunkId

def ChunkEntry.same (entry : ChunkEntry) (row : RecognizedChunk) : Bool :=
  row.rangeStart = entry.rangeStart ∧ row.rangeEnd = entry.rangeEnd ∧
    row.artifactId = entry.artifactId ∧ row.checksum = entry.checksum ∧
    row.sourceAttemptId = entry.sourceAttemptId ∧ row.sourceJobFence = entry.sourceJobFence

def ChunkEntry.row (entry : ChunkEntry) (job : Job) (id : Nat) : RecognizedChunk where
  recognizedChunkId := id
  tenantId := job.tenantId
  jobId := job.jobId
  chunkId := entry.chunkId
  rangeStart := entry.rangeStart
  rangeEnd := entry.rangeEnd
  artifactId := entry.artifactId
  checksum := entry.checksum
  sourceAttemptId := entry.sourceAttemptId
  sourceJobFence := entry.sourceJobFence

def recognizeEntry (db : Db) (job : Job) (attemptId : AttemptId) (id : Nat) (entry : ChunkEntry) :
    Except ChunkFailure Db :=
  if ¬entry.committed then .error (.defect (toString entry.chunkId ++ " is not a committed chunk file"))
  else if (entry.sourceAttemptId, entry.sourceJobFence) ≠ (attemptId, job.jobFence) then
    -- Carry-forward: only a fact an earlier fenced publish recognized.
    match recognized db job.jobId entry.chunkId with
    | some existing =>
      if entry.same existing then .ok db
      else .error (.defect (toString entry.chunkId ++ " has no exact prior recognition"))
    | none => .error (.defect (toString entry.chunkId ++ " has no exact prior recognition"))
  else if ¬entry.uploaded then .error (.defect (toString entry.chunkId ++ " has no current upload lineage"))
  else
    match recognized db job.jobId entry.chunkId with
    | some existing =>
      if entry.same existing then .ok db
      else .error (.raised (stateConflict "Chunk output differs from its recognized output"))
    | none =>
      match db.insert .recognizedChunks (entry.row job id) with
      | some inserted => .ok inserted
      | none => .error (.raised (.integrity .recognizedChunks))

def recognize (db : Db) (job : Job) (attemptId : AttemptId) (fresh : Nat -> Nat) :
    List ChunkEntry -> Except ChunkFailure Db
  | [] => .ok db
  | entry :: rest => do
    let db ← recognizeEntry db job attemptId (fresh rest.length) entry
    recognize db job attemptId fresh rest

end Nexa
