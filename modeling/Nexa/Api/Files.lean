namespace Nexa.Api

abbrev UploadId := Nat
abbrev BlobKey := Nat
abbrev Checksum := String
abbrev Bytes := List UInt8

inductive StoreCode where
  | validationFailed
  | payloadTooLarge
  | stateConflict
  | storageFull
  | storageUnavailable
  | sizeMismatch
  | checksumMismatch
  | notFound
  | invalidGcToken
deriving DecidableEq

structure ArtifactError where
  code : StoreCode
  message : String
  receivedBytes : Option Nat := none
deriving DecidableEq

inductive OsError where
  | full
  | other
deriving DecidableEq

inductive CreateError where
  | exists
  | os (error : OsError)
deriving DecidableEq

inductive LookupError where
  | missing
  | other
deriving DecidableEq

inductive FileKey where
  | staging (uploadId : UploadId)
  | blob (blobKey : BlobKey)
deriving DecidableEq

inductive Area where
  | staging
  | blobs
deriving DecidableEq

inductive StoreCommand where
  | statvfs
  | create (uploadId : UploadId)
  | write (uploadId : UploadId) (value : Bytes)
  | fsync (uploadId : UploadId)
  | fsyncDirectory (area : Area)
  | tokenHex
  | rename (uploadId : UploadId) (blobKey : BlobKey)
  | lstat (key : FileKey)
  | read (blobKey : BlobKey)
  | unlink (key : FileKey)
  | verifyBound
  | activate (uploadId : UploadId)
  | deactivate (uploadId : UploadId)
  | wallClock

abbrev StoreCommand.Answer : StoreCommand -> Type
  | .statvfs => Option (Nat × Nat)
  | .create _ => Except CreateError Unit
  | .write _ _ => Except OsError Nat
  | .fsync _ => Except OsError Unit
  | .fsyncDirectory _ => Except OsError Unit
  | .tokenHex => BlobKey
  | .rename _ _ => Except OsError Unit
  | .read _ => Except LookupError Bytes
  | .lstat _ | .unlink _ => Except LookupError Unit
  | .verifyBound => Bool
  | .activate _ => Unit
  | .deactivate _ => Unit
  | .wallClock => Nat

def StoreCommand.idle : (command : StoreCommand) -> command.Answer
  | .statvfs => none
  | .create _ => .error (.os .other)
  | .write _ _ => .error .other
  | .fsync _ => .error .other
  | .fsyncDirectory _ => .error .other
  | .tokenHex => (0 : Nat)
  | .rename _ _ => .error .other
  | .lstat _ => .error .missing
  | .read _ => .error .missing
  | .unlink _ => .error .missing
  | .verifyBound => false
  | .activate _ => ()
  | .deactivate _ => ()
  | .wallClock => (0 : Nat)

end Nexa.Api
