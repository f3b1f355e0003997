import Nexa.Application.Authority
import Nexa.Application.Recovery

namespace Nexa

open Relational Outcome

inductive UploadKind where
  | checkpoint
  | chunkOutput
  | result
deriving DecidableEq

def uploadPhases (chunked : Bool) : UploadKind -> List AttemptState
  | .checkpoint => [.checkpointing]
  | .chunkOutput => if chunked then [.running, .checkpointing] else [.running]
  | .result => [.running]

structure UploadRequest where
  authority : Authority
  tenantId : TenantId
  kind : UploadKind
  artifactId : ArtifactId
  /-- What the checks of media type, size and storage raised. -/
  refusal : Option ApplicationError

def bindUpload (db : Db) (call : Call) (request : UploadRequest) : Outcome Db := do
  let authority := request.authority
  let _ ← operationalMode db
  let worker ← workerAuth db call authority.workerId
  let _ ← requireCurrentIncarnation db worker authority.workerIncarnationId false
  let rows ← authorityRows db authority authority.workerId
  liveAuthority rows call.now
  let (_, template) ← specAndTemplate db rows.job.jobId
  require
    (rows.job.tenantId = request.tenantId ∧ rows.attempt.state ∈ uploadPhases template.chunked request.kind)
    (stateConflict "Upload execution scope mismatch")
  refuse request.refusal
  insertInto db .uploadSessions
    { uploadId := call.fresh 0, tenantId := rows.job.tenantId, jobId := rows.job.jobId
      attemptId := rows.attempt.attemptId, authorityGrantId := rows.grant.grantId
      artifactId := request.artifactId }

end Nexa
