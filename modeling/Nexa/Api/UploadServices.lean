import Nexa.Api.Uploads

namespace Nexa.Api

open Interaction Locking

def Regular : Failure -> Prop
  | .application error => error.message ≠ inconsistent.message
  | .artifact error => error.message ≠ inconsistent.message
  | .blobMissing error => error.message ≠ inconsistent.message
  | _ => True

def metadataError {α : Type} (message : String) : Except ArtifactError α :=
  .error { code := .validationFailed, message }

def publicMediaTypes : ArtifactKind -> Option (List String)
  | .input => some ["application/vnd.nexa.cpu-iterative-input+json", "application/json"]
  | .dataset => some ["application/vnd.apache.arrow.file", "application/json"]
  | .model => some ["application/octet-stream"]
  | _ => none

def tokenCharacter (character : Char) : Bool :=
  ('A' ≤ character ∧ character ≤ 'Z') ∨ ('a' ≤ character ∧ character ≤ 'z') ∨
    ('0' ≤ character ∧ character ≤ '9') ∨ character ∈ "!#$&^_.+-".toList

def valueCharacter (character : Char) : Bool := tokenCharacter character ∨ character = ' ' ∨ character = '='

def isToken (characters : List Char) : Bool := characters ≠ [] ∧ characters.all tokenCharacter

def isParameter (characters : List Char) : Bool := match characters.span (· ≠ '=') with
  | (name, _ :: value) => isToken name ∧ value ≠ [] ∧ value.all valueCharacter
  | (_, []) => false

def validMediaType (mediaType : String) : Bool := let (essence, parameters) := mediaType.toList.span (· ≠ ';')
  (match essence.span (· ≠ '/') with
    | (kind, _ :: subtype) => isToken kind ∧ isToken subtype
    | (_, []) => false) &&
  (match parameters with
    | [] => true
    | _ :: parameter => isParameter parameter)

def validatePublicArtifactMetadata (kind : ArtifactKind) (mediaType : String) :
    Except ArtifactError (ArtifactKind × String) :=
  match publicMediaTypes kind with
  | none => metadataError "Artifact kind is not allowed for public upload"
  | some allowed =>
    if validMediaType mediaType = false ∨ 127 < mediaType.length then
      metadataError "Artifact media type is invalid"
    else if mediaType ∈ allowed then .ok (kind, mediaType)
    else metadataError "Artifact media type is not allowed for this artifact kind"

def artifactService (settings : IdentitySettings) (credential : Credential) (tenantId : TenantId)
    (requestHash : UploadRequest -> Nat) : UploadHooks where
  operation := .uploadArtifact
  storageOperation := .userUpload
  label := some ⟨credential, .tenant tenantId⟩
  requestHash := requestHash
  metadata := validatePublicArtifactMetadata
  authorize := fun tenantId => do
    let live <- authorizeTenant settings credential tenantId .artifactsWrite
    pure live.userId
  receiptIdentity := none
  validateReplay := fun _ => pure ()
  commitReference := fun _ _ _ => pure ()

def attemptMediaTypes : ArtifactKind -> List String
  | .resultFile =>
    ["application/vnd.nexa.cpu-iterative-result+json", "application/json", "application/octet-stream",
      "application/x-ndjson", "application/vnd.apache.parquet"]
  | .resultManifest => ["application/json"]
  | .checkpointFile => ["application/json", "application/octet-stream"]
  | .checkpointManifest => ["application/json"]
  | .chunkOutputManifest => ["application/json"]
  | _ => []

/-- What the checks read of workers, leases and grants is in tables that uploads do not write. -/
structure AttemptScope where
  workerId : UserId
  kind : ArtifactKind
  mediaType : Option String
  authority : Nat
  authorize : TenantId -> Program workInterface Failure Unit
  /-- A receipt's authority against the current one, along the adoptions. -/
  lineage : Option Nat -> Program workInterface Failure Unit
  authorizes : ∀ tenantId, (authorize tenantId).Confined (fun _ => True) Regular
  compares : ∀ original, (lineage original).Confined (fun _ => True) Regular

def AttemptScope.uploadMetadata (scope : AttemptScope) (kind : ArtifactKind) (mediaType : String) :
    Except ArtifactError (ArtifactKind × String) :=
  if kind ≠ scope.kind ∨ mediaType ∉ attemptMediaTypes kind ∨ (∃ own ∈ scope.mediaType, mediaType ≠ own) then
    metadataError "Artifact kind or media is unavailable for CPU execution"
  else .ok (kind, mediaType)

def committedLineage (session : Option UploadSession) : Operation Unit :=
  require (session.any fun row => row.state = .committed) .stateConflict 409
    "Upload replay has no committed lineage"

def AttemptScope.validateUploadReplay (scope : AttemptScope) (recordId : RecordId) : Operation Unit := do
  let rows <- idempotencyRecords.query fun row => row.idempotencyId = recordId
  let found <- oneOrNone rows
  let receipt <- one found
  let sessions <- uploadSessions.query fun row => row.idempotencyId = some recordId
  let session <- oneOrNone sessions
  committedLineage session
  runWork (scope.lineage receipt.originalAuthority)

def commitUploadReference (uploadId : UploadId) (artifactId : ArtifactId) : Operation Unit := do
  let _ <- insert (.work ⟨"artifact_reference_guards", artifactId, artifactId⟩)
  works.add ⟨"artifact_references", uploadId, artifactId⟩

def attemptArtifactService (scope : AttemptScope) (requestHash : UploadRequest -> Nat) : UploadHooks where
  operation := .workerUploadAttemptArtifact
  storageOperation := .workerUpload
  label := none
  requestHash := requestHash
  metadata := scope.uploadMetadata
  authorize := fun tenantId => do
    runWork (scope.authorize tenantId)
    pure scope.workerId
  receiptIdentity := some scope.authority
  validateReplay := scope.validateUploadReplay
  commitReference := fun _ uploadId artifactId => commitUploadReference uploadId artifactId

end Nexa.Api
