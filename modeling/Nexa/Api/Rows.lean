import Nexa.Api.Files
import Nexa.Shared.Statements

/-! The tables of the identity, idempotency and artifact services with their unique keys; other rows are work. -/

namespace Nexa.Api

open Locking

abbrev Time := Nat
abbrev TenantId := Nat
abbrev UserId := Nat
abbrev SessionId := Nat
abbrev TokenId := Nat
abbrev RecordId := Nat
abbrev ArtifactId := Nat

inductive ErrorCode where
  | authenticationRequired
  | permissionDenied
  | resourceNotFound
  | versionConflict
  | preconditionRequired
  | stateConflict
  | validationFailed
  | invalidCsrf
  | payloadTooLarge
  | checksumMismatch
  | quotaExceeded
  | storagePressure
  | dependencyUnavailable
  | idempotencyConflict
  | idempotencyInProgress
  | oneTimeSecretUnavailable
deriving DecidableEq

structure ApplicationError where
  code : ErrorCode
  status : Nat
  message : String
  retryAfter : Option Nat := none
  location : Option String := none
deriving DecidableEq

/-- An answer to the client, or an error of the store, the database or the host. -/
inductive Failure where
  | application (error : ApplicationError)
  | artifact (error : ArtifactError)
  | blobMissing (error : ApplicationError)
  | noResultFound
  | multipleResultsFound
  | integrityError
  | runtimeError (message : String)
  | typeError
  | conflict
  | retryExhausted
  | connectionLost
  | cancelled
deriving DecidableEq

inductive OperationalMode where
  | running
  | draining
  | writeFrozen
deriving DecidableEq

inductive TokenScope where
  | jobsRead
  | jobsWrite
  | artifactsRead
  | artifactsWrite
  | tokensWrite
  | adminRead
  | adminWrite
deriving DecidableEq

def TokenScope.text : TokenScope -> String
  | .jobsRead => "jobs:read"
  | .jobsWrite => "jobs:write"
  | .artifactsRead => "artifacts:read"
  | .artifactsWrite => "artifacts:write"
  | .tokensWrite => "tokens:write"
  | .adminRead => "admin:read"
  | .adminWrite => "admin:write"

structure User where
  userId : UserId
  displayName : String
  passwordHash : Nat
  enabled : Bool
  version : Nat
deriving DecidableEq

structure BrowserSession where
  sessionId : SessionId
  userId : UserId
  secretHash : Nat
  csrfSecretHash : Nat
  expiresAt : Time
  lastSeenAt : Time
  revokedAt : Option Time
deriving DecidableEq

structure CliToken where
  tokenId : TokenId
  userId : UserId
  tokenHash : Nat
  name : String
  scopes : List TokenScope
  expiresAt : Time
  revokedAt : Option Time
deriving DecidableEq

structure SystemRoleGrant where
  userId : UserId
  version : Nat
  grantedByUserId : Option UserId
  grantedAt : Time
  revokedAt : Option Time
deriving DecidableEq

structure Tenant where
  tenantId : TenantId
  enabled : Bool
deriving DecidableEq

inductive MembershipRole where
  | member
  | tenantAdmin
deriving DecidableEq

structure Membership where
  tenantId : TenantId
  userId : UserId
  role : MembershipRole
deriving DecidableEq

structure MembershipSet where
  tenantId : TenantId
  version : Nat
deriving DecidableEq

inductive ArtifactKind where
  | input
  | dataset
  | model
  | checkpointFile
  | checkpointManifest
  | resultFile
  | resultManifest
  | chunkOutputManifest
  | log
deriving DecidableEq

inductive ArtifactState where
  | staging
  | committed
  | deleting
  | deleted
deriving DecidableEq

structure Artifact where
  artifactId : ArtifactId
  tenantId : TenantId
  kind : ArtifactKind
  mediaType : String
  sizeBytes : Int
  checksum : Checksum
  blobKey : BlobKey
  state : ArtifactState
  version : Nat
deriving DecidableEq

structure StorageCounter where
  tenantId : TenantId
  committedBytes : Int
  reservedBytes : Int
  version : Nat
deriving DecidableEq

inductive UploadState where
  | active
  | committed
  | expired
  | aborted
deriving DecidableEq

structure UploadSession where
  uploadId : UploadId
  tenantId : TenantId
  expectedSizeBytes : Int
  expectedChecksum : Checksum
  idempotencyId : Option RecordId
  bytesReceived : Int
  expiresAt : Time
  state : UploadState
deriving DecidableEq

inductive RecordContext where
  | global
  | tenant (tenantId : TenantId)
deriving DecidableEq

inductive OperationId where
  | uploadArtifact
  | workerUploadAttemptArtifact
  | createCliToken
  | revokeCliToken
  | adminUpdateUser
  | adminDeleteMembership
deriving DecidableEq

structure RecordScope where
  context : RecordContext
  principalId : Nat
  operationId : OperationId
  idempotencyKey : String
deriving DecidableEq

inductive RecordState where
  | pending
  | completed
deriving DecidableEq

inductive ResponseBody where
  | none
  | artifact (artifactId : ArtifactId) (tenantId : TenantId) (kind : ArtifactKind) (mediaType : String)
      (sizeBytes : Int) (checksum : Checksum) (version : Nat)
  | failure (code : ErrorCode) (message : String)
  | user (userId : UserId) (displayName : String) (enabled systemAdmin : Bool) (version : Nat)
  | token (tokenId : TokenId)
deriving DecidableEq

structure ResponseHeaders where
  location : Option String := none
  etag : Option Nat := none
  retryAfter : Option Nat := none
deriving DecidableEq

structure StoredResponse where
  status : Nat
  body : ResponseBody
  headers : ResponseHeaders
deriving DecidableEq

structure IdempotencyRecord where
  idempotencyId : RecordId
  scope : RecordScope
  requestHash : Nat
  state : RecordState
  response : Option StoredResponse
  resourceId : Option Nat
  oneTimeSecret : Bool
  originalAuthority : Option Nat := none
deriving DecidableEq

structure Work where
  table : String
  rowId : Nat
  content : Nat
deriving DecidableEq

inductive Row where
  | user (row : User)
  | session (row : BrowserSession)
  | token (row : CliToken)
  | grant (row : SystemRoleGrant)
  | tenant (row : Tenant)
  | membership (row : Membership)
  | membershipSet (row : MembershipSet)
  | authControl
  | policy (mode : OperationalMode)
  | record (row : IdempotencyRecord)
  | counter (row : StorageCounter)
  | upload (row : UploadSession)
  | artifact (row : Artifact)
  | work (row : Work)
deriving DecidableEq

inductive Key where
  | user (userId : UserId)
  | session (sessionId : SessionId)
  | sessionSecret (secretHash : Nat)
  | token (tokenId : TokenId)
  | tokenSecret (tokenHash : Nat)
  | grant (userId : UserId)
  | tenant (tenantId : TenantId)
  | membership (tenantId : TenantId) (userId : UserId)
  | membershipSet (tenantId : TenantId)
  | authControl
  | policy
  | record (recordId : RecordId)
  | recordScope (scope : RecordScope)
  | counter (tenantId : TenantId)
  | upload (tenantId : TenantId) (uploadId : UploadId)
  | uploadId (uploadId : UploadId)
  | uploadRecord (recordId : RecordId)
  | artifact (tenantId : TenantId) (artifactId : ArtifactId)
  | artifactBlob (blobKey : BlobKey)
  | artifactContent (tenantId : TenantId) (checksum : Checksum) (kind : ArtifactKind) (mediaType : String)
  | work (table : String) (rowId : Nat)
  | blob (blobKey : BlobKey)
deriving DecidableEq

def Row.key : Row -> Key
  | .user row => .user row.userId
  | .session row => .session row.sessionId
  | .token row => .token row.tokenId
  | .grant row => .grant row.userId
  | .tenant row => .tenant row.tenantId
  | .membership row => .membership row.tenantId row.userId
  | .membershipSet row => .membershipSet row.tenantId
  | .authControl => .authControl
  | .policy _ => .policy
  | .record row => .record row.idempotencyId
  | .counter row => .counter row.tenantId
  | .upload row => .upload row.tenantId row.uploadId
  | .artifact row => .artifact row.tenantId row.artifactId
  | .work row => .work row.table row.rowId

def Row.uniques : Row -> List Key
  | .session row => [.sessionSecret row.secretHash]
  | .token row => [.tokenSecret row.tokenHash]
  | .record row => [.recordScope row.scope]
  | .upload row => .uploadId row.uploadId :: row.idempotencyId.toList.map .uploadRecord
  | .artifact row =>
    [.artifactBlob row.blobKey, .artifactContent row.tenantId row.checksum row.kind row.mediaType]
  | _ => []

instance : Keyed Row Key where
  key := Row.key
  uniques := Row.uniques

structure Table (α : Type) where
  encode : α -> Row
  decode : Row -> Option α

def users : Table User := ⟨.user, fun | .user row => some row | _ => none⟩

def browserSessions : Table BrowserSession := ⟨.session, fun | .session row => some row | _ => none⟩

def cliTokens : Table CliToken := ⟨.token, fun | .token row => some row | _ => none⟩

def systemRoleGrants : Table SystemRoleGrant := ⟨.grant, fun | .grant row => some row | _ => none⟩

def tenants : Table Tenant := ⟨.tenant, fun | .tenant row => some row | _ => none⟩

def memberships : Table Membership := ⟨.membership, fun | .membership row => some row | _ => none⟩

def membershipSets : Table MembershipSet := ⟨.membershipSet, fun | .membershipSet row => some row | _ => none⟩

def policyVersions : Table OperationalMode := ⟨.policy, fun | .policy mode => some mode | _ => none⟩

def idempotencyRecords : Table IdempotencyRecord := ⟨.record, fun | .record row => some row | _ => none⟩

def artifactStorageCounters : Table StorageCounter := ⟨.counter, fun | .counter row => some row | _ => none⟩

def uploadSessions : Table UploadSession := ⟨.upload, fun | .upload row => some row | _ => none⟩

def artifacts : Table Artifact := ⟨.artifact, fun | .artifact row => some row | _ => none⟩

def works : Table Work := ⟨.work, fun | .work row => some row | _ => none⟩

end Nexa.Api
