import Nexa.Storage.Drafts

namespace Nexa.Storage

open Interaction Locking Nexa.Api

abbrev StorageCommand := Command outer Key Row Label Failure

section

structure Outward (allowed : StorageCommand -> Prop) (raises : Failure -> Prop) : Prop where
  outer : ∀ command, allowed (.outer command)
  artifact : ∀ error, error.message ≠ inconsistent.message -> raises (.artifact error)

variable {allowed : StorageCommand -> Prop} {raises : Failure -> Prop} {α : Type}

theorem Outward.ask (outward : Outward allowed raises) (command : Outer) :
    (Nexa.Api.ask command).Confined allowed raises :=
  confined_perform (outward.outer command)

theorem Outward.demand (outward : Outward allowed raises) {condition : Prop} [Decidable condition]
    {error : ArtifactError} (other : error.message ≠ inconsistent.message) :
    (Program.demand condition (.artifact error) : Operation Unit).Confined allowed raises :=
  confined_demand (outward.artifact error other)

theorem Outward.wrote (outward : Outward allowed raises) {message : String}
    (other : message ≠ inconsistent.message) (answer : Except OsError α) :
    (Nexa.Api.wrote message answer).Confined allowed raises := by
  cases answer with
  | ok value => exact confined_pure value
  | error error => exact outward.artifact _ other

theorem confined_attempt {operation : Operation α} (confined : operation.Confined allowed raises) :
    (attempt operation).Confined allowed raises := by
  refine confined_handle (confined_bind confined fun value => confined_pure _) fun error raised => ?_
  cases error with
  | artifact error => exact confined_pure _
  | _ => exact raised

section

variable (outward : Outward allowed raises)

include outward

theorem Outward.beginStaging (settings : StorageSettings) (uploadId : UploadId)
    (expectedSize : Int) (expectedChecksum : Checksum) (mediaType : String) :
    (Nexa.Api.beginStaging settings uploadId expectedSize expectedChecksum mediaType).Confined allowed raises := by
  refine confined_bind (outward.demand (by decide)) fun _ => confined_bind (outward.demand (by decide)) fun _ => ?_
  refine confined_bind (outward.demand (by decide)) fun _ => confined_bind (outward.ask _) fun result => ?_
  have creates : (created result).Confined allowed raises := by
    cases result with
    | ok _ => exact confined_pure ()
    | error error => cases error <;> exact outward.artifact _ (by simp [inconsistent])
  exact confined_bind creates fun _ => confined_bind (outward.ask _) fun _ => confined_pure _

theorem Outward.written (state : StagingState) (rest : Bytes)
    (answer : Except OsError Nat) : (Nexa.Api.written state rest answer).Confined allowed raises := by
  cases answer with
  | error error => exact outward.artifact _ (by simp [inconsistent])
  | ok count =>
    simp only [Nexa.Api.written]
    split_ifs
    · exact outward.artifact _ (by simp [inconsistent])
    · exact confined_pure count

theorem Outward.writeAll (handle : StagingHandle) (bound : Nat) (state : StagingState) (rest : Bytes) :
    (Nexa.Api.writeAll handle bound state rest).Confined allowed raises := by
  induction bound generalizing state rest with
  | zero => exact confined_pure state
  | succ bound ih =>
    unfold Nexa.Api.writeAll
    split_ifs
    · exact confined_pure state
    · refine confined_bind (outward.ask _) fun answer => ?_
      exact confined_bind (outward.written state rest answer) fun count => ih _ _

theorem Outward.append (settings : StorageSettings) (handle : StagingHandle) (state : StagingState) (value : Bytes) :
    (Nexa.Api.append settings handle state value).Confined allowed raises :=
  confined_bind (outward.demand (by decide)) fun _ => outward.writeAll handle value.length state value

theorem Outward.commitBlob (settings : StorageSettings) (handle : StagingHandle) (state : StagingState) :
    (Nexa.Api.commitBlob settings handle state).Confined allowed raises := by
  refine confined_bind (outward.demand (by decide)) fun _ => confined_bind (outward.demand (by decide)) fun _ => ?_
  refine confined_bind (outward.ask _) fun durable => confined_bind (outward.wrote (by decide) durable) fun _ => ?_
  refine confined_bind (outward.ask _) fun blobKey => confined_bind (outward.ask _) fun renamed => ?_
  refine confined_bind (outward.wrote (by decide) renamed) fun _ => confined_bind (outward.ask _) fun synced => ?_
  exact confined_bind (outward.wrote (by decide) synced) fun _ => confined_bind (outward.ask _) fun _ => confined_pure _

theorem Outward.abortStaging (handle : StagingHandle) : (Nexa.Api.abortStaging handle).Confined allowed raises :=
  confined_bind (outward.ask _) fun _ => confined_bind (outward.ask _) fun _ =>
    confined_bind (outward.ask _) fun _ => confined_pure ()

theorem Outward.hasBlob (blobKey : BlobKey) : (Nexa.Api.hasBlob blobKey).Confined allowed raises := by
  refine confined_bind (outward.ask _) fun found => ?_
  rcases found with (_ | _) | _
  · exact confined_pure false
  · exact outward.artifact _ (by decide)
  · exact confined_pure true

theorem Outward.inspect (blobKey : BlobKey) : (Nexa.Api.inspect blobKey).Confined allowed raises := by
  refine confined_bind (outward.ask _) fun content => ?_
  rcases content with (_ | _) | content
  · refine confined_bind (outward.ask _) fun bound => confined_bind (outward.demand (by decide)) fun _ => ?_
    refine confined_bind (outward.ask _) fun found => ?_
    rcases found with (_ | _) | _ <;> exact outward.artifact _ (by decide)
  · exact outward.artifact _ (by decide)
  · exact confined_pure content

theorem Outward.issueStoreToken (settings : StorageSettings)
    (blobKey : BlobKey) (checksum : Checksum) (sizeBytes : Int) (expiresAt : Time) :
    (Nexa.Api.issueStoreToken settings blobKey checksum sizeBytes expiresAt).Confined allowed raises :=
  confined_bind (outward.inspect blobKey) fun _ => confined_bind (outward.demand (by decide)) fun _ => confined_pure _

theorem Outward.deleteUnreferenced (settings : StorageSettings) (blobKey : BlobKey) (token : GcToken) :
    (Nexa.Api.deleteUnreferenced settings blobKey token).Confined allowed raises := by
  refine confined_bind (outward.ask _) fun now => confined_bind (outward.demand (by decide)) fun _ => ?_
  refine confined_bind (outward.inspect blobKey) fun content => confined_bind (outward.demand (by decide)) fun _ => ?_
  refine confined_bind (outward.ask _) fun removed => ?_
  have reclaims : (reclaimed removed).Confined allowed raises := by
    rcases removed with (_ | _) | _
    · exact outward.artifact _ (by decide)
    · exact outward.artifact _ (by decide)
    · exact confined_pure ()
  refine confined_bind reclaims fun _ => confined_bind (outward.ask _) fun synced => ?_
  cases synced with
  | ok _ => exact confined_pure ()
  | error _ => exact outward.artifact _ (by decide)

end

end

section

abbrev Harmless {α : Type} (operation : Operation α) : Prop :=
  operation.Confined (Touches fun key => guard key = none) Regular

theorem outward_harmless : Outward (Touches fun key => guard key = none) Regular where
  outer := fun _ => trivial
  artifact := fun _ other => other

theorem regular_of_message {error : ApplicationError} (other : error.message ≠ inconsistent.message) :
    Regular (.application error) :=
  other

def RegularError {α : Type} (result : Except ApplicationError α) : Prop :=
  ∀ error, result = .error error -> error.message ≠ inconsistent.message

theorem RegularError.enforceWatermark {reading : StorageReading} (read : RegularError reading)
    (settings : StorageSettings) (operation : StorageOperation) (extraBytes : Int) :
    RegularError (Nexa.Api.enforceWatermark settings operation reading extraBytes) := by
  intro failure failed
  cases reading with
  | error error =>
    cases failed
    exact read _ rfl
  | ok capacity =>
    obtain ⟨total, free⟩ := capacity
    simp only [Nexa.Api.enforceWatermark, bind, Except.bind] at failed
    generalize (if operation = .workerUpload then settings.storageCriticalWatermarkPercent
      else settings.storageHighWatermarkPercent) = threshold at failed
    split_ifs at failed
    cases failed
    decide

theorem regular_storeFailure {error : ArtifactError} (other : error.message ≠ inconsistent.message) :
    (storeFailure error).message ≠ inconsistent.message := by
  unfold storeFailure
  split <;> first | exact other | decide

theorem harmless_raiseError {α : Type} {result : Except ApplicationError α} (regular : RegularError result) :
    Harmless (raiseError result) := by
  cases result with
  | ok value => exact confined_pure value
  | error error => exact regular error rfl

theorem harmless_require {condition : Prop} [Decidable condition] {code : ErrorCode} {status : Nat}
    {message : String} (other : message ≠ inconsistent.message) :
    Harmless (require condition code status message) :=
  confined_demand (regular_of_message other)

theorem harmless_query {α : Type} (table : Table α) (wanted : α -> Bool) : Harmless (table.query wanted) :=
  confined_bind (confined_perform trivial) fun _ => confined_pure _

theorem harmless_fetch {α : Type} (table : Table α) (key : Key) (strength : Strength) :
    Harmless (table.fetch key strength) :=
  confined_bind (confined_perform trivial) fun _ => confined_pure _

theorem harmless_one {α : Type} (found : Option α) : Harmless (one found) := by
  cases found with
  | none => trivial
  | some value => exact confined_pure value

theorem harmless_oneOrNone {α : Type} (rows : List α) : Harmless (oneOrNone rows) := by
  rcases rows with _ | ⟨row, _ | _⟩
  · exact confined_pure none
  · exact confined_pure (some row)
  · trivial

theorem harmless_principalOf (userId : UserId) (credential : Credential) (scopes : List TokenScope) :
    Harmless (principalOf userId credential scopes) := by
  have memberships : Harmless (membershipsOf userId) :=
    confined_bind (confined_perform trivial) fun _ =>
      confined_bind (confined_demand (regular_of_message (by decide))) fun _ => confined_pure _
  have admin : Harmless (systemAdmin userId) := confined_bind (harmless_query _ _) fun _ => confined_pure _
  exact confined_bind memberships fun _ => confined_bind admin fun _ => confined_pure _

theorem regular_authenticationError : Regular (.application authenticationError) := regular_of_message (by decide)

theorem harmless_revalidatePrincipal (settings : IdentitySettings) (credential : Credential) :
    Harmless (revalidatePrincipal settings credential) := by
  cases credential
  case browser | cli =>
    refine confined_bind (confined_bind (harmless_fetch _ _ _) fun found => ?_) fun row =>
      confined_bind (outward_harmless.ask _) fun now => ?_
    · cases found with
      | none => exact confined_pure none
      | some found => exact confined_bind (harmless_fetch _ _ _) fun _ => confined_pure _
    · cases row with
      | none => exact regular_authenticationError
      | some row =>
        exact confined_bind (confined_demand regular_authenticationError) fun _ => harmless_principalOf _ _ _
  case worker | bootstrap => exact regular_authenticationError

theorem harmless_authorizeTenant (settings : IdentitySettings) (credential : Credential) (tenantId : TenantId)
    (required : TokenScope) : Harmless (authorizeTenant settings credential tenantId required) :=
  confined_bind (harmless_revalidatePrincipal settings credential) fun _ =>
    confined_bind (harmless_require (by decide)) fun _ =>
      confined_bind (harmless_require (by cases required <;> decide)) fun _ => confined_pure _

theorem harmless_runWork {α : Type} {work : Program workInterface Failure α}
    (confined : work.Confined (fun _ => True) Regular) : Harmless (runWork work) := by
  induction work with
  | done value => exact confined_pure value
  | raise failure => exact confined
  | call command next ih =>
    refine confined_bind ?_ fun answer => ih answer (confined.2 answer)
    cases command with
    | select | acquire | insert | put | erase => exact confined_perform (by simp [Touches, Keyed.key, Row.key, guard])
    | clockTimestamp => exact outward_harmless.ask _

structure HarmlessHooks (hooks : UploadHooks) : Prop where
  metadata : ∀ kind mediaType error, hooks.metadata kind mediaType = .error error ->
    error.message ≠ inconsistent.message
  authorize : ∀ tenantId, Harmless (hooks.authorize tenantId)
  validateReplay : ∀ recordId, Harmless (hooks.validateReplay recordId)
  commitReference : ∀ tenantId uploadId artifactId, Harmless (hooks.commitReference tenantId uploadId artifactId)

theorem harmless_artifactService (settings : IdentitySettings) (credential : Credential) (tenantId : TenantId)
    (requestHash : UploadRequest -> Nat) :
    HarmlessHooks (artifactService settings credential tenantId requestHash) where
  metadata := by
    intro kind mediaType error failed
    simp only [artifactService, validatePublicArtifactMetadata, metadataError] at failed
    split at failed
    · cases failed
      decide
    · split_ifs at failed <;> cases failed <;> simp [inconsistent]
  authorize := fun _ => confined_bind (harmless_authorizeTenant _ _ _ _) fun _ => confined_pure _
  validateReplay := fun _ => confined_pure ()
  commitReference := fun _ _ _ => confined_pure ()

theorem harmless_attemptArtifactService (scope : AttemptScope) (requestHash : UploadRequest -> Nat) :
    HarmlessHooks (attemptArtifactService scope requestHash) where
  metadata := by
    intro kind mediaType error failed
    simp only [attemptArtifactService, AttemptScope.uploadMetadata, metadataError] at failed
    split_ifs at failed
    cases failed
    decide
  authorize := fun tenantId =>
    confined_bind (harmless_runWork (scope.authorizes tenantId)) fun _ => confined_pure _
  validateReplay := fun recordId =>
    confined_bind (harmless_query _ _) fun _ => confined_bind (harmless_oneOrNone _) fun _ =>
      confined_bind (harmless_one _) fun receipt => confined_bind (harmless_query _ _) fun _ =>
        confined_bind (harmless_oneOrNone _) fun _ => confined_bind (harmless_require (by decide)) fun _ =>
          harmless_runWork (scope.compares receipt.originalAuthority)
  commitReference := fun _ uploadId artifactId => by
    refine confined_bind (confined_perform ?_) fun _ => confined_bind (confined_perform ?_) fun _ => ?_
    · exact rfl
    · exact rfl
    · exact confined_demand trivial

end

end Nexa.Storage
