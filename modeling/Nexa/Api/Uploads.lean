import Nexa.Api.ArtifactStore
import Nexa.Api.Identity

namespace Nexa.Api

open Interaction Locking

def retried {α : Type} (operation : Operation α) : Operation α := do
  let value <- operation
  let conflict <- ask .conflict
  .demand (conflict = false) .conflict
  pure value

/-- Again after a conflict. The answer to a commit may be lost. -/
def runTransaction {α : Type} (label : Label) (operation : Operation α) : Nat -> Operation α
  | 0 => .raise .retryExhausted
  | attempts + 1 =>
    Program.handle
      (do
        let value <- transact label (retried operation)
        let lost <- ask .connectionLost
        .demand (lost = false) .connectionLost
        pure value)
      fun
      | .conflict => runTransaction label operation attempts
      | failure => .raise failure

def maxAttempts : Nat := 3

inductive StreamEnd where
  | finished
  | interrupted
  | cancelled
deriving DecidableEq

structure UploadRequest where
  tenantId : TenantId
  idempotencyKey : String
  kind : ArtifactKind
  mediaType : String
  expectedSize : Int
  expectedChecksum : Checksum
  contentLength : Option Int
  chunks : List Bytes
  last : StreamEnd

structure UploadHooks where
  operation : OperationId
  storageOperation : StorageOperation
  label : Label
  requestHash : UploadRequest -> Nat
  metadata : ArtifactKind -> String -> Except ArtifactError (ArtifactKind × String)
  authorize : TenantId -> Operation UserId
  receiptIdentity : Option Nat
  validateReplay : RecordId -> Operation Unit
  commitReference : TenantId -> UploadId -> ArtifactId -> Operation Unit

def inconsistent : ApplicationError where
  code := .dependencyUnavailable
  status := 503
  message := "Artifact reservation state is inconsistent"
  retryAfter := some 1

def interruptedStream : ApplicationError where
  code := .validationFailed
  status := 422
  message := "Artifact stream was interrupted"

def storageUnavailable : ApplicationError where
  code := .dependencyUnavailable
  status := 503
  message := "Artifact storage is unavailable"
  retryAfter := some 1

def raiseError {α : Type} : Except ApplicationError α -> Operation α
  | .ok value => pure value
  | .error error => .raise (.application error)

def counterLock (tenantId : TenantId) : Operation StorageCounter := do
  let _ <- insert (.counter { tenantId, committedBytes := 0, reservedBytes := 0, version := 1 })
  let row <- artifactStorageCounters.fetch (.counter tenantId) .update
  match row with
  | none => raise .resourceNotFound 404 "Tenant was not found"
  | some counter => pure counter

def moveCounter (tenantId : TenantId) (reserved committed : Int) : Operation Unit := do
  let _ <- artifactStorageCounters.update (fun row => row.tenantId = tenantId) fun row =>
    { row with
      reservedBytes := row.reservedBytes + reserved
      committedBytes := row.committedBytes + committed
      version := row.version + 1 }
  pure ()

def noteReceipt (receipt : Option Nat) (recordId : RecordId) : Operation Unit := match receipt with
  | none => pure ()
  | some identity => do
    let _ <- idempotencyRecords.update (fun row => row.idempotencyId = recordId)
      fun row => { row with originalAuthority := some identity }
    pure ()

def reserveUpload (settings : StorageSettings) (hooks : UploadHooks) (request : UploadRequest)
    (reading : StorageReading) (uploadId : UploadId) (now : Time) (recordId : RecordId) : Operation Unit := do
  raiseError (enforceWatermark settings hooks.storageOperation reading request.expectedSize)
  let counter <- counterLock request.tenantId
  .demand
    (counter.committedBytes + counter.reservedBytes + request.expectedSize ≤ settings.tenantArtifactQuotaBytes)
    (.application
      { code := .quotaExceeded, status := 429, message := "Tenant artifact quota exceeded"
        retryAfter := some 1 })
  moveCounter request.tenantId request.expectedSize 0
  uploadSessions.add
    { uploadId, tenantId := request.tenantId, expectedSizeBytes := request.expectedSize
      expectedChecksum := request.expectedChecksum, idempotencyId := some recordId, bytesReceived := 0
      expiresAt := now + settings.stagingTtlSeconds, state := .active }

def beginOperation (settings : StorageSettings) (hooks : UploadHooks) (request : UploadRequest)
    (reading : StorageReading) (uploadId : UploadId) : Operation (Option StoredResponse × RecordId) := do
  let principalId <- hooks.authorize request.tenantId
  let now <- transactionTimestamp
  let outcome <- beginIdempotency
    ⟨.tenant request.tenantId, principalId, hooks.operation, request.idempotencyKey⟩ (hooks.requestHash request)
  match outcome.replay with
  | some response => do
    hooks.validateReplay outcome.recordId
    pure (some response, outcome.recordId)
  | none => do
    noteReceipt hooks.receiptIdentity outcome.recordId
    reserveUpload settings hooks request reading uploadId now outcome.recordId
    pure (none, outcome.recordId)

structure Reservation where
  uploadId : UploadId
  tenantId : TenantId
  expectedSize : Int
  recordId : RecordId

def failureResponse (failure : ApplicationError) : StoredResponse where
  status := failure.status
  body := .failure failure.code failure.message
  headers := { retryAfter := failure.retryAfter }

def endSession (reservation : Reservation) (state : UploadState) (bytesReceived : Nat)
    (failure : ApplicationError) : Operation Unit := do
  moveCounter reservation.tenantId (-reservation.expectedSize) 0
  let _ <- uploadSessions.update
    (fun row => row.tenantId = reservation.tenantId ∧ row.uploadId = reservation.uploadId)
    fun row => { row with state, bytesReceived }
  completeIdempotency reservation.recordId (failureResponse failure) none false

def abortOperation (reservation : Reservation) (bytesReceived : Nat) (failure : ApplicationError) :
    Operation Unit := do
  let found <- idempotencyRecords.fetch (.record reservation.recordId) .update
  let record <- one found
  if record.state = .completed then pure ()
  else do
    let counter <- counterLock reservation.tenantId
    let row <- uploadSessions.fetch (.upload reservation.tenantId reservation.uploadId) .update
    if (row.any fun row => row.state = .active) = false then pure ()
    else do
      .demand (reservation.expectedSize ≤ counter.reservedBytes) (.application inconsistent)
      endSession reservation .aborted bytesReceived failure

def abortUpload (reservation : Reservation) (bytesReceived : Nat) (failure : ApplicationError) : Operation Unit :=
  runTransaction none (abortOperation reservation bytesReceived failure) maxAttempts

structure UploadResult where
  response : StoredResponse
  orphan : Bool

def artifactResponse (artifact : Artifact) : StoredResponse where
  status := 201
  body := .artifact artifact.artifactId artifact.tenantId artifact.kind artifact.mediaType artifact.sizeBytes
    artifact.checksum artifact.version
  headers := { location := some ("/v1/artifacts/" ++ toString artifact.artifactId), etag := some artifact.version }

def presence : Except ArtifactError Bool -> Bool
  | .ok present => present
  | .error _ => false

def publishArtifact (artifact : Artifact) : Operation Unit := do
  lock (.blob artifact.blobKey) .share
  let found <- attempt (hasBlob artifact.blobKey)
  .demand (presence found = true) (.blobMissing storageUnavailable)
  artifacts.add artifact

def settleArtifact (artifact : Artifact) : Operation (Artifact × Bool) := do
  let rows <- artifacts.queryLocked
    (fun row => row.tenantId = artifact.tenantId ∧ row.checksum = artifact.checksum ∧
      row.kind = artifact.kind ∧ row.mediaType = artifact.mediaType ∧ row.state = .committed) .update
  let existing <- oneOrNone rows
  match existing with
  | some row => pure (row, true)
  | none => do
    publishArtifact artifact
    pure (artifact, false)

def commitSession (hooks : UploadHooks) (reservation : Reservation) (settled : Artifact × Bool) :
    Operation UploadResult := do
  moveCounter reservation.tenantId (-reservation.expectedSize)
    (if settled.2 then 0 else reservation.expectedSize)
  let _ <- uploadSessions.update
    (fun row => row.tenantId = reservation.tenantId ∧ row.uploadId = reservation.uploadId ∧ row.state = .active)
    fun row => { row with state := .committed, bytesReceived := reservation.expectedSize }
  hooks.commitReference reservation.tenantId reservation.uploadId settled.1.artifactId
  completeIdempotency reservation.recordId (artifactResponse settled.1) (some settled.1.artifactId) false
  pure ⟨artifactResponse settled.1, settled.2⟩

def completedResult (record : IdempotencyRecord) : Operation UploadResult := match record.response with
  | none => .raise .typeError
  | some response => pure ⟨response, true⟩

def commitOperation (hooks : UploadHooks) (reservation : Reservation) (artifact : Artifact) :
    Operation UploadResult := do
  let _ <- hooks.authorize reservation.tenantId
  let found <- idempotencyRecords.fetch (.record reservation.recordId) .update
  let record <- one found
  if record.state = .completed then completedResult record
  else do
    let counter <- counterLock reservation.tenantId
    .demand (reservation.expectedSize ≤ counter.reservedBytes) (.application inconsistent)
    let settled <- settleArtifact artifact
    commitSession hooks reservation settled

def streamCheckBytes : Nat := 1024 * 1024

inductive Reception where
  | whole (state : StagingState)
  | failed (failure : ApplicationError) (received : Nat)
  | cancelled (received : Nat)

def endOfStream (state : StagingState) : StreamEnd -> Reception
  | .finished => .whole state
  | .interrupted => .failed interruptedStream state.receivedBytes
  | .cancelled => .cancelled state.receivedBytes

def tooLarge : ArtifactError where
  code := .payloadTooLarge
  message := "Artifact stream exceeds the declared size"

def receive (settings : StorageSettings) (operation : StorageOperation) (handle : StagingHandle)
    (last : StreamEnd) : List Bytes -> StagingState -> Nat -> Operation Reception
  | [], state, _ => pure (endOfStream state last)
  | chunk :: rest, state, nextCheck => do
    let appended <- attempt (append settings handle state chunk)
    match appended with
    | .error error =>
      pure (.failed (storeFailure error) (error.receivedBytes.getD state.receivedBytes))
    | .ok state =>
      if handle.expectedSize < state.receivedBytes then
        pure (.failed (storeFailure tooLarge) state.receivedBytes)
      else if state.receivedBytes < nextCheck then
        receive settings operation handle last rest state nextCheck
      else do
        let reading <- readStorage
        match enforceWatermark settings operation reading (handle.expectedSize - state.receivedBytes) with
        | .error failure => pure (.failed failure state.receivedBytes)
        | .ok () =>
          receive settings operation handle last rest state (state.receivedBytes + streamCheckBytes)

def giveUp {α : Type} (reservation : Reservation) (handle : StagingHandle) (received : Nat)
    (failure : ApplicationError) : Operation α := do
  ensuring (abortUpload reservation received failure) (abortStaging handle)
  .raise (.application failure)

def giveUpCancelled {α : Type} (reservation : Reservation) (handle : StagingHandle) (received : Nat) :
    Operation α := do
  Program.handle (abortUpload reservation received interruptedStream) fun _ => pure ()
  abortStaging handle
  .raise .cancelled

def referencesOf (artifactId : ArtifactId) : Operation (List Work) :=
  works.query fun row => row.table = "artifact_references" ∧ row.content = artifactId

def reclaimable (row : Option Artifact) : Operation Unit := match row with
  | none => pure ()
  | some row => do
    require (row.state = .committed) .stateConflict 409
      "Only unreferenced committed artifacts can be reclaimed"
    let references <- referencesOf row.artifactId
    require (references = []) .stateConflict 409 "Referenced artifacts cannot be reclaimed"

def issueGcToken (settings : StorageSettings) (blobKey : BlobKey) (checksum : Checksum) (sizeBytes : Int)
    (expiresAt : Time) : Operation GcToken := do
  runTransaction none
    (do
      let rows <- artifacts.queryLocked (fun row => row.blobKey = blobKey) .update
      let row <- oneOrNone rows
      reclaimable row)
    maxAttempts
  issueStoreToken settings blobKey checksum sizeBytes expiresAt

/-- Removed by the upload itself, or left for the garbage collection. -/
def discardOrphan (settings : StorageSettings) (artifact : Artifact) : Operation Unit := do
  let now <- askStore .wallClock
  let _ <- attempt do
    let token <- issueGcToken settings artifact.blobKey artifact.checksum artifact.sizeBytes
      (now + settings.orphanTtlSeconds)
    deleteUnreferenced settings artifact.blobKey token
  pure ()

def commitUpload (settings : StorageSettings) (hooks : UploadHooks) (request : UploadRequest)
    (reservation : Reservation) (blobKey : BlobKey) : Operation UploadResult := do
  let artifactId <- newUuid
  let artifact : Artifact :=
    { artifactId, tenantId := request.tenantId, kind := request.kind, mediaType := request.mediaType
      sizeBytes := request.expectedSize, checksum := request.expectedChecksum, blobKey, state := .committed
      version := 1 }
  let result <- Program.handle
    (runTransaction hooks.label (commitOperation hooks reservation artifact) maxAttempts) fun
    | .blobMissing failure => do
      abortUpload reservation request.expectedSize.toNat failure
      .raise (.application failure)
    | failure => .raise failure
  only (result.orphan = true) (discardOrphan settings artifact)
  pure result

def endedEarly : ApplicationError where
  code := .validationFailed
  status := 422
  message := "Artifact stream ended before the declared size"

def storeUpload (settings : StorageSettings) (hooks : UploadHooks) (request : UploadRequest)
    (reservation : Reservation) (handle : StagingHandle) (state : StagingState) : Operation UploadResult :=
  if (state.receivedBytes : Int) ≠ request.expectedSize then
    giveUp reservation handle state.receivedBytes endedEarly
  else do
    let reading <- readStorage
    match enforceWatermark settings hooks.storageOperation reading 0 with
    | .error failure => giveUp reservation handle state.receivedBytes failure
    | .ok () => do
      let blob <- attempt (commitBlob settings handle state)
      match blob with
      | .error error => giveUp reservation handle state.receivedBytes (storeFailure error)
      | .ok blobKey => commitUpload settings hooks request reservation blobKey

def stageUpload (settings : StorageSettings) (hooks : UploadHooks) (request : UploadRequest)
    (reservation : Reservation) : Operation UploadResult := do
  let staged <- attempt
    (beginStaging settings reservation.uploadId request.expectedSize request.expectedChecksum request.mediaType)
  match staged with
  | .error error => do
    abortUpload reservation 0 (storeFailure error)
    .raise (.application (storeFailure error))
  | .ok handle => do
    let reception <- receive settings hooks.storageOperation handle request.last request.chunks ⟨[]⟩
      streamCheckBytes
    match reception with
    | .failed failure received => giveUp reservation handle received failure
    | .cancelled received => giveUpCancelled reservation handle received
    | .whole state => storeUpload settings hooks request reservation handle state

def replayResult (response : StoredResponse) : Operation UploadResult :=
  if response.status < 400 then pure ⟨response, false⟩
  else
    match response.body with
    | .failure code message =>
      .raise (.application
        { code, status := response.status, message, retryAfter := response.headers.retryAfter })
    | _ => .raise .typeError

def replayUpload (recordId : RecordId) : Operation UploadResult :=
  runTransaction none
    (do
      let rows <- idempotencyRecords.query fun row => row.idempotencyId = recordId
      let found <- oneOrNone rows
      let row <- one found
      match row.response with
      | none => .raise .typeError
      | some response => replayResult response)
    maxAttempts

def validateUpload (settings : StorageSettings) (request : UploadRequest) : Operation Unit := do
  require (0 ≤ request.expectedSize) .validationFailed 422 "Artifact size is invalid"
  require (request.expectedSize ≤ settings.artifactMaxFileBytes) .payloadTooLarge 413
    "Artifact size exceeds the configured limit"
  require (∀ length ∈ request.contentLength, length = request.expectedSize) .validationFailed 422
    "Content-Length does not match X-Artifact-Size"
  require (validChecksum request.expectedChecksum) .validationFailed 422 "Artifact checksum is invalid"

def metadataOf (hooks : UploadHooks) (request : UploadRequest) : Operation (ArtifactKind × String) :=
  match hooks.metadata request.kind request.mediaType with
  | .ok normalized => pure normalized
  | .error error =>
    .raise (.application { code := .validationFailed, status := 422, message := error.message })

def upload (settings : StorageSettings) (hooks : UploadHooks) (request : UploadRequest) :
    Operation UploadResult := do
  validateUpload settings request
  let normalized <- metadataOf hooks request
  let request := { request with kind := normalized.1, mediaType := normalized.2 }
  let uploadId <- newUuid
  let reading <- readStorage
  let begun <- runTransaction hooks.label (beginOperation settings hooks request reading uploadId) maxAttempts
  match begun.1 with
  | some _ => replayUpload begun.2
  | none =>
    stageUpload settings hooks request
      { uploadId, tenantId := request.tenantId, expectedSize := request.expectedSize, recordId := begun.2 }

def expired : ApplicationError where
  code := .validationFailed
  status := 422
  message := "Artifact upload staging expired"

def lockRecords : List UploadSession -> Operation (List IdempotencyRecord)
  | [] => pure []
  | candidate :: rest => do
    let found <- lockRecord candidate.idempotencyId
    let others <- lockRecords rest
    pure (found.toList ++ others)
where
  lockRecord : Option RecordId -> Operation (Option IdempotencyRecord)
    | none => pure none
    | some recordId => idempotencyRecords.fetch (.record recordId) .update

def lockCounters : List TenantId -> Operation (List StorageCounter)
  | [] => pure []
  | tenantId :: rest => do
    let counter <- counterLock tenantId
    let others <- lockCounters rest
    pure (counter :: others)

def lockSessions : List UploadSession -> Operation (List UploadSession)
  | [] => pure []
  | candidate :: rest => do
    let found <- uploadSessions.fetch (.upload candidate.tenantId candidate.uploadId) .update
    let others <- lockSessions rest
    pure (found.toList ++ others)

def completeExpired (records : List IdempotencyRecord) : Option RecordId -> Operation Unit
  | none => pure ()
  | some recordId =>
    only (∃ record ∈ records, record.idempotencyId = recordId ∧ record.state = .pending)
      (completeIdempotency recordId (failureResponse expired) none false)

def expireSession (records : List IdempotencyRecord) (counters : List StorageCounter) (row : UploadSession) :
    Operation Unit := do
  -- The counter is the one that was locked, as it was before the sessions of this batch were released.
  let counter <- one (counters.find? fun counter => counter.tenantId = row.tenantId)
  .demand (row.expectedSizeBytes ≤ counter.reservedBytes) (.application inconsistent)
  moveCounter row.tenantId (-row.expectedSizeBytes) 0
  let _ <- uploadSessions.update
    (fun other => other.tenantId = row.tenantId ∧ other.uploadId = row.uploadId ∧ other.state = .active)
    fun other => { other with state := .expired }
  completeExpired records row.idempotencyId

def expireSessions (records : List IdempotencyRecord) (counters : List StorageCounter) (now : Time) :
    List UploadSession -> Operation Nat
  | [] => pure 0
  | row :: rest =>
    if row.state ≠ .active ∨ now < row.expiresAt then expireSessions records counters now rest
    else do
      expireSession records counters row
      let others <- expireSessions records counters now rest
      pure (others + 1)

def earlier (first second : UploadSession) : Bool :=
  first.expiresAt < second.expiresAt ∨ (first.expiresAt = second.expiresAt ∧ first.uploadId ≤ second.uploadId)

def byRecord (one other : UploadSession) : Bool := one.idempotencyId.getD 0 ≤ other.idempotencyId.getD 0

def expireOperation (limit : Nat) : Operation Nat := do
  let now <- transactionTimestamp
  let found <- uploadSessions.query fun row => row.state = .active ∧ row.expiresAt ≤ now
  let candidates := (found.mergeSort earlier).take limit
  let records <- lockRecords (candidates.mergeSort byRecord)
  let counters <- lockCounters ((candidates.map fun row => row.tenantId).dedup.mergeSort fun one other => one ≤ other)
  let rows <- lockSessions (candidates.mergeSort fun one other => one.uploadId ≤ other.uploadId)
  expireSessions records counters now rows

def expireUploads (limit : Nat) : Operation Nat := do
  require (1 ≤ limit ∧ limit ≤ 1000) .validationFailed 400 "Expiry batch size is invalid"
  runTransaction none (expireOperation limit) maxAttempts

end Nexa.Api
