import Nexa.Api.Transactions

namespace Nexa.Api

open Interaction Locking

structure StorageSettings where
  artifactMaxFileBytes : Int
  tenantArtifactQuotaBytes : Int
  stagingTtlSeconds : Nat
  orphanTtlSeconds : Nat
  storageHighWatermarkPercent : Nat
  storageCriticalWatermarkPercent : Nat
  /-- The hash of the store, in the notation of its checksums. -/
  sha256 : Bytes -> Checksum

def askStore (command : StoreCommand) : Operation command.Answer := ask (.store command)

def storeError {α : Type} (code : StoreCode) (message : String) (receivedBytes : Option Nat := none) :
    Operation α :=
  .raise (.artifact { code, message, receivedBytes })

def writeFailure {α : Type} (error : OsError) (message : String) (receivedBytes : Option Nat := none) :
    Operation α :=
  storeError (if error = .full then .storageFull else .storageUnavailable) message receivedBytes

def wrote {α : Type} (message : String) : Except OsError α -> Operation α
  | .ok value => pure value
  | .error error => writeFailure error message

def attempt {α : Type} (operation : Operation α) : Operation (Except ArtifactError α) :=
  Program.handle (operation >>= fun value => pure (Except.ok value)) fun
    | .artifact error => pure (.error error)
    | failure => .raise failure

def ensuring {α : Type} (operation : Operation α) (cleanup : Operation Unit) : Operation α := do
  let value <- operation.handle fun failure => do
    cleanup
    .raise failure
  cleanup
  pure value

def hexDigit (character : Char) : Bool := ('0' ≤ character ∧ character ≤ '9') ∨ ('a' ≤ character ∧ character ≤ 'f')

def validChecksum (checksum : Checksum) : Bool :=
  checksum.toList.take 7 = "sha256:".toList ∧ checksum.length = 71 ∧ (checksum.toList.drop 7).all hexDigit

structure StagingHandle where
  uploadId : UploadId
  expectedSize : Int
  expectedChecksum : Checksum
  mediaType : String

structure StagingState where
  received : Bytes

def StagingState.receivedBytes (state : StagingState) : Nat := state.received.length

def created : Except CreateError Unit -> Operation Unit
  | .ok () => pure ()
  | .error .exists => storeError .stateConflict "Upload identity is already active"
  | .error (.os error) => writeFailure error "Artifact staging cannot be created"

def beginStaging (settings : StorageSettings) (uploadId : UploadId) (expectedSize : Int)
    (expectedChecksum : Checksum) (mediaType : String) : Operation StagingHandle := do
  .demand (0 ≤ expectedSize ∧ expectedSize ≤ settings.artifactMaxFileBytes)
    (.artifact { code := .payloadTooLarge, message := "Artifact size exceeds the configured limit" })
  .demand (validChecksum expectedChecksum)
    (.artifact { code := .validationFailed, message := "Artifact checksum is invalid" })
  .demand (mediaType ≠ "" ∧ mediaType.length ≤ 127)
    (.artifact { code := .validationFailed, message := "Artifact media type is invalid" })
  let result <- askStore (.create uploadId)
  created result
  askStore (.activate uploadId)
  pure { uploadId, expectedSize, expectedChecksum, mediaType }

/-- A write takes some of the bytes, or fails after some of them. -/
def written (state : StagingState) (rest : Bytes) : Except OsError Nat -> Operation Nat
  | .error error => writeFailure error "Artifact staging cannot be written" (some state.receivedBytes)
  | .ok count =>
    if count = 0 ∨ rest.length < count then
      storeError .storageUnavailable "Artifact staging cannot be written" (some state.receivedBytes)
    else pure count

/-- Every write takes a byte at least, so the length bounds the loop. -/
def writeAll (handle : StagingHandle) : Nat -> StagingState -> Bytes -> Operation StagingState
  | 0, state, _ => pure state
  | bound + 1, state, rest =>
    if rest = [] then pure state
    else do
      let answer <- askStore (.write handle.uploadId rest)
      let count <- written state rest answer
      writeAll handle bound ⟨state.received ++ rest.take count⟩ (rest.drop count)

def append (settings : StorageSettings) (handle : StagingHandle) (state : StagingState) (value : Bytes) :
    Operation StagingState := do
  let nextSize : Int := state.receivedBytes + value.length
  .demand (nextSize ≤ handle.expectedSize ∧ nextSize ≤ settings.artifactMaxFileBytes)
    (.artifact { code := .payloadTooLarge, message := "Artifact stream exceeds the declared size" })
  writeAll handle value.length state value

def commitBlob (settings : StorageSettings) (handle : StagingHandle) (state : StagingState) :
    Operation BlobKey := do
  .demand ((state.receivedBytes : Int) = handle.expectedSize)
    (.artifact { code := .sizeMismatch, message := "Received bytes do not match the declared size" })
  .demand (settings.sha256 state.received = handle.expectedChecksum)
    (.artifact { code := .checksumMismatch, message := "Artifact checksum does not match the declaration" })
  let durable <- askStore (.fsync handle.uploadId)
  wrote "Artifact staging cannot be made durable" durable
  let blobKey <- askStore .tokenHex
  let renamed <- askStore (.rename handle.uploadId blobKey)
  wrote "Artifact blob cannot be committed" renamed
  -- The renamed blob has no metadata yet: after an error here it stays an orphan.
  let synced <- askStore (.fsyncDirectory .blobs)
  wrote "Artifact committed directory cannot be synced" synced
  askStore (.deactivate handle.uploadId)
  pure blobKey

def abortStaging (handle : StagingHandle) : Operation Unit := do
  askStore (.deactivate handle.uploadId)
  let _ <- askStore (.unlink (.staging handle.uploadId))
  let _ <- askStore (.fsyncDirectory .staging)
  pure ()

def hasBlob (blobKey : BlobKey) : Operation Bool := do
  let found <- askStore (.lstat (.blob blobKey))
  match found with
  | .ok _ => pure true
  | .error .missing => pure false
  | .error .other => storeError .storageUnavailable "Artifact blob cannot be inspected"

def missingBlob {α : Type} (blobKey : BlobKey) : Operation α := do
  let bound <- askStore .verifyBound
  .demand (bound = true)
    (.artifact { code := .storageUnavailable, message := "Artifact storage identity is not verified" })
  let found <- askStore (.lstat (.blob blobKey))
  match found with
  | .error .missing => storeError .notFound "Artifact blob was not found"
  | .error .other => storeError .storageUnavailable "Artifact blob cannot be inspected"
  | .ok _ => storeError .storageUnavailable "Artifact blob changed during inspection"

def inspect (blobKey : BlobKey) : Operation Bytes := do
  let content <- askStore (.read blobKey)
  match content with
  | .ok content => pure content
  | .error .missing => missingBlob blobKey
  | .error .other => storeError .storageUnavailable "Artifact blob cannot be inspected"

structure GcToken where
  blobKey : BlobKey
  checksum : Checksum
  sizeBytes : Int
  expiresAt : Time

def claimed (settings : StorageSettings) (checksum : Checksum) (sizeBytes : Int) (content : Bytes) : Operation Unit :=
  .demand (settings.sha256 content = checksum ∧ (content.length : Int) = sizeBytes)
    (.artifact
      { code := .invalidGcToken, message := "Garbage-collection claim does not match the blob" })

def issueStoreToken (settings : StorageSettings) (blobKey : BlobKey) (checksum : Checksum) (sizeBytes : Int)
    (expiresAt : Time) : Operation GcToken := do
  let content <- inspect blobKey
  claimed settings checksum sizeBytes content
  pure { blobKey, checksum, sizeBytes, expiresAt }

def reclaimed : Except LookupError Unit -> Operation Unit
  | .ok () => pure ()
  | .error .missing => storeError .notFound "Artifact blob was not found"
  | .error .other => storeError .storageUnavailable "Artifact blob cannot be reclaimed"

def deleteUnreferenced (settings : StorageSettings) (blobKey : BlobKey) (token : GcToken) : Operation Unit := do
  let now <- askStore .wallClock
  .demand (token.blobKey = blobKey ∧ now < token.expiresAt)
    (.artifact { code := .invalidGcToken, message := "Garbage-collection claim is invalid" })
  let content <- inspect blobKey
  claimed settings token.checksum token.sizeBytes content
  let removed <- askStore (.unlink (.blob blobKey))
  reclaimed removed
  let synced <- askStore (.fsyncDirectory .blobs)
  match synced with
  | .ok () => pure ()
  | .error _ => storeError .storageUnavailable "Artifact blob cannot be reclaimed"

inductive StorageOperation where
  | userUpload
  | workerUpload
deriving DecidableEq

def unavailable : ApplicationError where
  code := .dependencyUnavailable
  status := 503
  message := "Artifact storage capacity cannot be checked"
  retryAfter := some 1

def pressure : ApplicationError where
  code := .storagePressure
  status := 503
  message := "Artifact storage is under pressure"
  retryAfter := some 1

abbrev StorageReading := Except ApplicationError (Nat × Nat)

def readStorage : Operation StorageReading := do
  let capacity <- askStore .statvfs
  match capacity with
  | none => pure (.error unavailable)
  | some (total, free) =>
    if 0 < total ∧ free ≤ total then pure (.ok (total, free)) else pure (.error unavailable)

def enforceWatermark (settings : StorageSettings) (operation : StorageOperation) (reading : StorageReading)
    (extraBytes : Int) : Except ApplicationError Unit := do
  let (total, free) <- reading
  let threshold := if operation = .workerUpload then settings.storageCriticalWatermarkPercent
    else settings.storageHighWatermarkPercent
  if (threshold : Int) * total ≤ ((total : Int) - free + extraBytes) * 100 then .error pressure else .ok ()

def storeFailure (error : ArtifactError) : ApplicationError := match error.code with
  | .payloadTooLarge => { code := .payloadTooLarge, status := 413, message := error.message }
  | .checksumMismatch => { code := .checksumMismatch, status := 422, message := error.message }
  | .sizeMismatch => { code := .validationFailed, status := 422, message := error.message }
  | .validationFailed => { code := .validationFailed, status := 422, message := error.message }
  | .storageFull => pressure
  | _ =>
    { code := .dependencyUnavailable, status := 503, message := "Artifact storage is unavailable"
      retryAfter := some 1 }

end Nexa.Api
