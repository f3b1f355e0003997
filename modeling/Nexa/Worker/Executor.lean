import Nexa.Shared.Program
import Nexa.Worker.Journal

namespace Nexa.Host

open Interaction

inductive LabelKey where
  | managed
  | attemptId
  | allocationId
  | startupNonce
  | installationId
deriving DecidableEq

abbrev Labels := List (LabelKey × Nat)

structure ContainerState where
  running : Option Bool
  status : Option String
  startedAt : Option String
  exitCode : Option Int

/-- Nothing stands for a part that is not an object. -/
structure Inspection where
  runtimeIdentityDigest : Checksum
  image : Option Nat
  labels : Option Labels
  state : Option ContainerState

inductive DockerReply (α : Type) where
  | ok (value : α)
  | failed
  | timedOut

inductive Command where
  | load (attemptId : AttemptId)
  | write (record : JournalRecord)
  | create (labels : Labels)
  | start (containerId : ContainerId)
  | execDetached (containerId : ContainerId)
  | stop (containerId : ContainerId)
  | remove (containerId : ContainerId)
  | inspect (containerId : ContainerId)
  | findByLabels (labels : Labels)
  | monotonic
  | now
  | materialize
  | verifyMaterialized

/-- An inspection of an absent container finds nothing; the file commands answer with their error. -/
abbrev Command.Answer : Command -> Type
  | .load _ => Option JournalRecord
  | .write _ => Bool
  | .create _ => DockerReply ContainerId
  | .start _ | .execDetached _ | .stop _ | .remove _ => DockerReply Unit
  | .inspect _ => DockerReply (Option Inspection)
  | .findByLabels _ => DockerReply (List ContainerId)
  | .monotonic | .now => Nat
  | .materialize | .verifyMaterialized => Option String

abbrev interface : Interface where
  Command := Command
  Answer := Command.Answer

abbrev Exec := Program interface WorkerFailure

structure ImageReference where
  name : String
  digests : List Checksum

structure InputMount where
  targetPath : String
  contentChecksum : Checksum

structure StartExecution where
  identity : ExecutionIdentity
  imageDigest : Checksum
  inputChecksum : Checksum
  binding : Nat
  architecture : String
  startupLimitSeconds : Nat
  inputMounts : List InputMount
  cpuWorkload : Bool
  adapterLaunch : Option String

structure DockerExecutor where
  imageRef : ImageReference
  imageRefs : List ImageReference
  clockDomain : Nat
  installationId : Option Nat
  /-- The hash of an observation that finds no container for some labels. -/
  observationChecksum : Labels -> Checksum

inductive ProofType where
  | noContainer
  | containerStopped
deriving DecidableEq

structure CleanupProof where
  proofType : ProofType
  startupNonce : StartupNonce
  executorOperationSequence : Nat
  inspectionChecksum : Checksum
  observedAt : Time
  tombstoneSequence : Option Nat := none
  container : Option ContainerIdentity := none
  stoppedAt : Option Time := none
  exitCode : Option Int := none

structure ContainerObservation where
  running : Bool
  exitCode : Option Int
  configChecksum : Checksum

def executorError (code : ExecutorErrorCode) (message : String) : WorkerFailure := .executor code message

def WorkerFailure.isRuntimeError : WorkerFailure -> Bool
  | .timeout | .value _ => false
  | _ => true

def StartExecution.attemptId (request : StartExecution) : AttemptId := request.identity.attemptId

def StartExecution.inputs (request : StartExecution) : ExecutionInputs where
  imageDigest := request.imageDigest
  inputChecksum := some request.inputChecksum
  executionBinding := .request request.binding

def StartExecution.supervised (request : StartExecution) : Bool := request.cpuWorkload || request.adapterLaunch.isSome

def replied {α : Type} : DockerReply α -> Exec α
  | .ok value => .done value
  | .failed => .raise .docker
  | .timedOut => .raise .timeout

def ofExcept {α : Type} : Except WorkerFailure α -> Exec α
  | .ok value => .done value
  | .error error => .raise error

def orRuntime {α : Type} (program : Exec α) (error : WorkerFailure) : Exec α :=
  program.handle fun raised => .raise (if raised.isRuntimeError then error else raised)

def orJournal {α : Type} (program : Exec α) (code : ExecutorErrorCode) : Exec α :=
  program.handle fun
    | .journalWrite message => .raise (executorError code message)
    | raised => .raise raised

def perform (command : Command) : Exec command.Answer := @Program.perform interface WorkerFailure command

def loaded (attemptId : AttemptId) : Exec (Option JournalRecord) := perform (.load attemptId)

def written (record : JournalRecord) : Exec Bool := perform (.write record)

def monotonic : Exec Nat := perform .monotonic

def now : Exec Time := perform .now

def journal (attemptId : AttemptId) (method : JournalMethod) : Exec JournalRecord := do
  match <- ofExcept (method (<- loaded attemptId)) with
  | .keep record => pure record
  | .write record => do
    let wrote <- written record
    .demand (wrote = true) (.journalWrite "journal write failed")
    pure record

def load (attemptId : AttemptId) : Exec JournalRecord :=
  journal attemptId fun found => .keep <$> Journal.load attemptId found

def dockerCreate (labels : Labels) : Exec ContainerId := perform (.create labels) >>= replied

def dockerStart (containerId : ContainerId) : Exec Unit := perform (.start containerId) >>= replied

def dockerExecDetached (containerId : ContainerId) : Exec Unit := perform (.execDetached containerId) >>= replied

def dockerStop (containerId : ContainerId) : Exec Unit := perform (.stop containerId) >>= replied

def dockerRemove (containerId : ContainerId) : Exec Unit := perform (.remove containerId) >>= replied

def dockerInspect (containerId : ContainerId) : Exec Inspection := do
  match <- perform (.inspect containerId) >>= replied with
  | some inspection => pure inspection
  | none => .raise .containerNotFound

def dockerFindByLabels (labels : Labels) : Exec (List ContainerId) := perform (.findByLabels labels) >>= replied

def fileCheck (command : Exec (Option String)) (failure : String -> WorkerFailure) : Exec Unit := do
  match <- command with
  | none => pure ()
  | some message => .raise (failure message)

def pinnedImageRef (imageRef : ImageReference) (digest : Checksum) (extraRefs : List ImageReference) :
    Except WorkerFailure ImageReference :=
  match extraRefs.find? fun extra => extra.digests = [digest] with
  | some extra => .ok extra
  | none =>
    if imageRef.digests = [] then .ok { imageRef with digests := [digest] }
    else if imageRef.digests = [digest] then .ok imageRef
    else .error (.value "configured image digest does not match execution context")

def validatePrimaryInputBinding (request : StartExecution) : Except WorkerFailure Unit :=
  let primary := request.adapterLaunch.getD "/input/input.json"
  Outcome.require
    (∀ mount ∈ request.inputMounts, mount.targetPath = primary -> mount.contentChecksum = request.inputChecksum)
    (.value "primary input checksum does not match authorized context")

def mentions (message word : String) : Bool := 1 < (message.splitOn word).length

def preparationError (request : StartExecution) (message : String) : WorkerFailure :=
  if mentions message "immutable" || mentions message "identity" then
    executorError .identityMismatch message
  else if request.inputMounts.isEmpty then executorError .invalidState message
  else executorError .invalidState ("input verification failed: " ++ message)

def DockerExecutor.prepare (executor : DockerExecutor) (request : StartExecution) : Exec Unit :=
  Program.handle
    (do
      let _ <- ofExcept (pinnedImageRef executor.imageRef request.imageDigest executor.imageRefs)
      ofExcept (validatePrimaryInputBinding request)
      let _ <- journal request.attemptId (Journal.prepare request.identity request.inputs)
      fileCheck (perform .materialize) .value)
    fun
      | .journalWrite message | .value message => .raise (preparationError request message)
      | raised => .raise raised

def DockerExecutor.remaining (executor : DockerExecutor) (record : JournalRecord)
    (request : StartExecution) : Exec Unit :=
  match record.startupStartedMonotonicNs with
  | none => pure ()
  | some startedNs =>
    if record.startupClockDomain ≠ some executor.clockDomain then pure ()
    else do
      let reading <- monotonic
      .demand (reading < startedNs + request.startupLimitSeconds * 1000000000)
        (executorError .startTimeout "startup deadline expired")

def inspectRaw (containerId : ContainerId) : Exec Inspection :=
  (dockerInspect containerId).handle fun
    | .containerNotFound => .raise .containerNotFound
    | raised =>
      .raise
        (if raised.isRuntimeError then executorError .inspectionUnavailable "container inspection failed"
        else raised)

def inspectIdentity (identity : ContainerIdentity) : Exec Inspection := do
  let payload <- inspectRaw identity.containerId
  .demand (payload.runtimeIdentityDigest = identity.runtimeIdentityDigest)
    (executorError .identityMismatch "container identity digest mismatch")
  pure payload

def inspect (identity : ContainerIdentity) : Exec ContainerObservation := do
  let payload <- inspectIdentity identity
  match payload.state with
  | none => .raise (executorError .inspectionUnavailable "container state is invalid")
  | some state =>
    pure {
      running := state.running = some true
      exitCode := state.exitCode
      configChecksum := payload.runtimeIdentityDigest }

def DockerExecutor.labels (executor : DockerExecutor) (attemptId : AttemptId)
    (allocationId : AllocationId) (startupNonce : StartupNonce) : Labels :=
  [(.managed, 1), (.attemptId, attemptId), (.allocationId, allocationId), (.startupNonce, startupNonce)]
    ++ (executor.installationId.map fun installation => (LabelKey.installationId, installation)).toList

def Labels.carries (actual expected : Labels) : Bool := expected.all fun entry => actual.lookup entry.1 = some entry.2

def DockerExecutor.create (executor : DockerExecutor) (request : StartExecution)
    (record : JournalRecord) : Exec JournalRecord := do
  let attemptId := request.attemptId
  let labels := executor.labels attemptId request.identity.allocationId request.identity.startupNonce
  let startedNs <- monotonic
  let (begun, containerId) <- Program.handle
    (do
      let begun <- journal attemptId
        (Journal.beginCreate attemptId record.operationSequence startedNs executor.clockDomain)
      executor.remaining begun request
      let containerId <- dockerCreate labels
      pure (begun, containerId))
    fun
      | .timeout => .raise (executorError .createOutcomeUnknown "Docker create outcome is unknown")
      | raised =>
        .raise
          (if raised.isRuntimeError then executorError .runtimeError "Docker create failed" else raised)
  executor.remaining begun request
  let inspection <- inspectRaw containerId
  match inspection.labels with
  | none => .raise (executorError .identityMismatch "Docker labels are invalid")
  | some actual => do
    .demand (Labels.carries actual labels)
      (executorError .identityMismatch "Docker identity labels mismatch")
    orJournal
      (journal attemptId (Journal.bindCreated attemptId {
        containerId
        runtimeIdentityDigest := inspection.runtimeIdentityDigest
        attemptId
        allocationId := request.identity.allocationId
        startupNonce := request.identity.startupNonce
        architecture := request.architecture
        imageId := inspection.image }))
      .identityMismatch

def startSupervisor (identity : ContainerIdentity) (request : StartExecution) : Exec Unit :=
  if request.supervised then
    (dockerExecDetached identity.containerId).handle fun raised =>
      .raise
        (if raised.isRuntimeError || raised = .timeout then
          executorError .startOutcomeUnknown "workload supervisor start outcome is unknown"
        else raised)
  else pure ()

def clockChanged : WorkerFailure :=
  executorError .startOutcomeUnknown
    "clock domain changed; the original startup deadline cannot be reconstructed"

def DockerExecutor.adoptRunning (executor : DockerExecutor) (record : JournalRecord)
    (identity : ContainerIdentity) (request : StartExecution) : Exec ContainerIdentity :=
  match record.state with
  | .startInFlight => do
    .demand (request.supervised = false)
      (executorError .startOutcomeUnknown "running container cannot prove the supervisor exec outcome")
    let _ <- journal identity.attemptId (Journal.markStarted identity.attemptId record.operationSequence)
    pure identity
  | .created => do
    let begun <- journal identity.attemptId
      (Journal.beginStart identity.attemptId record.operationSequence)
    executor.remaining begun request
    startSupervisor identity request
    let _ <- journal identity.attemptId (Journal.markStarted identity.attemptId begun.operationSequence)
    pure identity
  | _ => pure identity

/-- A start that failed, also at the deadline, is taken back. -/
def startRaised (record : JournalRecord) (identity : ContainerIdentity) (raised : WorkerFailure) : Exec Unit :=
  if raised = .timeout then
    .raise (executorError .startOutcomeUnknown "Docker start outcome is unknown")
  else if raised.isRuntimeError then do
    Program.handle
      (do
        let _ <- journal identity.attemptId
          (Journal.resetStartAfterFailure identity.attemptId record.operationSequence)
        pure ())
      fun
        | .journalWrite _ => pure ()
        | other => .raise other
    .raise (executorError .runtimeError "Docker start failed")
  else .raise raised

def DockerExecutor.giveStart (executor : DockerExecutor) (record : JournalRecord)
    (identity : ContainerIdentity) (request : StartExecution) : Exec Unit :=
  Program.handle
    (do
      executor.remaining record request
      dockerStart identity.containerId)
    (startRaised record identity)

def startBegun (record : JournalRecord) (identity : ContainerIdentity) : Exec JournalRecord :=
  if record.state = .created then
    journal identity.attemptId (Journal.beginStart identity.attemptId record.operationSequence)
  else do
    .demand (record.state = .startInFlight) (executorError .invalidState "container is not startable")
    pure record

def DockerExecutor.startCreated (executor : DockerExecutor) (record : JournalRecord)
    (identity : ContainerIdentity) (request : StartExecution) : Exec ContainerIdentity := do
  let begun <- startBegun record identity
  executor.giveStart begun identity request
  executor.remaining begun request
  startSupervisor identity request
  let _ <- orJournal
    (journal identity.attemptId (Journal.markStarted identity.attemptId begun.operationSequence))
    .invalidState
  pure identity

def DockerExecutor.reconcileAndStart (executor : DockerExecutor) (record : JournalRecord)
    (identity : ContainerIdentity) (request : StartExecution) : Exec ContainerIdentity := do
  .demand
    (¬ ((record.state = .created ∨ record.state = .startInFlight) ∧
      record.startupStartedMonotonicNs ≠ none ∧ record.startupClockDomain ≠ some executor.clockDomain))
    clockChanged
  executor.remaining record request
  let inspection <- inspectIdentity identity
  match inspection.state with
  | none => .raise (executorError .inspectionUnavailable "container state is invalid")
  | some state =>
    if state.running = some true then executor.adoptRunning record identity request
    else do
      let status := (state.status.getD "").toLower
      .demand (status = "" ∨ status = "created")
        (executorError .invalidState "container already exited and will not be restarted")
      .demand
        (¬ (record.state = .startInFlight ∧ record.startupClockDomain ≠ some executor.clockDomain))
        (executorError .startOutcomeUnknown
          "clock domain changed; inspection cannot prove the pending start outcome")
      executor.startCreated record identity request

def DockerExecutor.created (executor : DockerExecutor) (request : StartExecution)
    (found : JournalRecord) : Exec JournalRecord :=
  if found.state = .prepared then executor.create request found else pure found

def DockerExecutor.start (executor : DockerExecutor) (request : StartExecution) :
    Exec ContainerIdentity := do
  fileCheck (perform .verifyMaterialized) (executorError .invalidState)
  let found <- load request.attemptId
  .demand (found.state ≠ .tombstoned) (executorError .invalidState "attempt is tombstoned")
  .demand (found.state ≠ .cleanupInFlight) (executorError .invalidState "attempt cleanup is in flight")
  .demand (found.state ≠ .createInFlight)
    (executorError .createOutcomeUnknown "Docker create outcome is unknown")
  let record <- executor.created request found
  match record.container with
  | none => .raise (executorError .invalidState "container identity is absent")
  | some identity =>
    if record.state = .started then do
      executor.remaining record request
      let _ <- inspectIdentity identity
      pure identity
    else executor.reconcileAndStart record identity request

def stop (identity : ContainerIdentity) : Exec ContainerObservation := do
  let record <- load identity.attemptId
  .demand (record.container = some identity)
    (executorError .identityMismatch "stop identity is not bound to the attempt")
  let observation <- inspect identity
  if observation.running then do
    orRuntime (dockerStop identity.containerId) (executorError .stopTimeout "container stop failed")
    inspect identity
  else pure observation

def stoppedProof (record : JournalRecord) (identity : ContainerIdentity) : Exec CleanupProof :=
  match record.inspectionChecksum, record.stoppedAt, record.exitCode with
  | some inspectionChecksum, some stoppedAt, some exitCode =>
    pure {
      proofType := .containerStopped
      startupNonce := identity.startupNonce
      executorOperationSequence := record.operationSequence
      inspectionChecksum
      observedAt := stoppedAt
      container := some identity
      stoppedAt := some stoppedAt
      exitCode := some exitCode }
  | _, _, _ => .raise (executorError .invalidState "cleanup evidence is incomplete")

def present (identity : ContainerIdentity) : Exec Bool :=
  Program.handle
    (do
      let _ <- inspectIdentity identity
      pure true)
    fun
      | .containerNotFound => pure false
      | raised => .raise raised

def removeStopped (identity : ContainerIdentity) : Exec Unit := do
  if <- present identity then
    orRuntime (dockerRemove identity.containerId) (executorError .runtimeError "container removal failed")
  else pure ()

def resumeCleanup (record : JournalRecord) (identity : ContainerIdentity) : Exec CleanupProof := do
  removeStopped identity
  let cleaned <- orJournal
    (journal identity.attemptId (Journal.finishCleanup identity.attemptId record.operationSequence))
    .invalidState
  stoppedProof cleaned identity

def cleanup : Option ContainerIdentity -> Exec CleanupProof
  | none =>
    .raise
      (executorError .inspectionUnavailable "cleanup needs a corroborated identity or journal tombstone")
  | some identity => do
    let record <- load identity.attemptId
    .demand (record.container = some identity)
      (executorError .identityMismatch "cleanup identity is not bound to the attempt")
    match record.state with
    | .tombstoned => stoppedProof record identity
    | .createInFlight =>
      .raise (executorError .createOutcomeUnknown "cannot cleanup while a Docker outcome is unknown")
    | .cleanupInFlight => resumeCleanup record identity
    | .prepared =>
      .raise (executorError .invalidState "cleanup requires a created container identity")
    | .created | .startInFlight | .started => do
      let observation <- stop identity
      let stoppedAt <- now
      let begun <- orJournal
        (journal identity.attemptId
          (Journal.beginCleanup identity.attemptId record.operationSequence
            observation.configChecksum stoppedAt (observation.exitCode.getD (-1))))
        .invalidState
      resumeCleanup begun identity

def findStartupIdentity (labels : Labels) : Exec (List ContainerId) :=
  orRuntime (dockerFindByLabels labels)
    (executorError .inspectionUnavailable "Docker observation is unavailable")

def stillThere : WorkerFailure :=
  executorError .identityMismatch "Docker still has a container for the startup identity"

def noContainerProof (record : JournalRecord) (startupNonce : StartupNonce)
    (inspectionChecksum : Checksum) : Exec CleanupProof := do
  let observedAt <- now
  .demand (0 < record.operationSequence)
    (.value "executor_operation_sequence must be positive")
  .demand (record.tombstoneSequence ≠ none) (.value "NO_CONTAINER proof requires tombstone_sequence")
  pure {
    proofType := .noContainer
    startupNonce
    executorOperationSequence := record.operationSequence
    inspectionChecksum
    observedAt
    tombstoneSequence := record.tombstoneSequence }

/-- Nothing, or a record of the request that owns no container. -/
def unclaimedCheck (request : StartExecution) : Option JournalRecord -> Exec Unit
  | none => pure ()
  | some found => do
    let existing <- ofExcept (Journal.load request.attemptId (some found))
    .demand (request.identity.fits existing ∧ request.inputs.fits existing)
      (executorError .identityMismatch
        "unclaimed tombstone request does not match the journal identity")
    .demand (existing.state ≠ .createInFlight ∧ existing.state ≠ .startInFlight)
      (executorError .createOutcomeUnknown
        "cannot issue no-container proof while an operation is in flight")
    .demand (existing.container = none ∨ existing.state = .tombstoned)
      (executorError .invalidState "a bound container requires identity cleanup")

def DockerExecutor.tombstoneUnclaimed (executor : DockerExecutor) (request : StartExecution)
    (reason : String) : Exec CleanupProof := do
  let attemptId := request.attemptId
  let labels := executor.labels attemptId request.identity.allocationId request.identity.startupNonce
  unclaimedCheck request (<- loaded attemptId)
  let containers <- findStartupIdentity labels
  .demand (containers = []) stillThere
  let checksum := executor.observationChecksum labels
  let tombstone <- orJournal
    (journal attemptId (Journal.createUnclaimedTombstone request.identity request.inputs reason checksum))
    .invalidState
  noContainerProof tombstone request.identity.startupNonce checksum

def neverStarted : String := "0001-01-01T00:00:00Z"

def ContainerState.unstarted (state : ContainerState) : Bool :=
  state.running = some false && state.status = some "created"
    && (state.startedAt = none || state.startedAt = some "" || state.startedAt = some neverStarted)

def inspectPresent (containerId : ContainerId) : Exec (Option Inspection) :=
  Program.handle
    (do
      let payload <- inspectRaw containerId
      pure (some payload))
    fun
      | .containerNotFound => pure none
      | raised => .raise raised

def removeUnstarted (containerId : ContainerId) (labels : Labels) : Exec Unit := do
  match <- inspectPresent containerId with
  | none => pure ()
  | some payload => do
    .demand (payload.labels.any fun actual => Labels.carries actual labels)
      (executorError .identityMismatch "Docker identity labels mismatch")
    .demand (payload.state.any ContainerState.unstarted)
      (executorError .invalidState
        "a started container of an unbound request needs manual reconciliation")
    orRuntime (dockerRemove containerId) (executorError .runtimeError "container removal failed")
    let after <- inspectPresent containerId
    .demand after.isNone (executorError .runtimeError "container removal was not observed")

def neverCreated : WorkerFailure :=
  executorError .identityMismatch "a container exists for a startup identity that was never created"

def resolveOne (labels : Labels) (record : Option JournalRecord) (containerId : ContainerId) : Exec Unit :=
  match record with
  | none => .raise neverCreated
  | some current => do
    .demand (current.state ≠ .prepared) neverCreated
    match current.container with
    | none => removeUnstarted containerId labels
    | some bound => do
      .demand (bound.containerId = containerId)
        (executorError .identityMismatch "Docker has another container for the startup identity")
      let _ <- cleanup (some bound)
      pure ()

def resolveFound (attemptId : AttemptId) (labels : Labels) :
    Option JournalRecord -> List ContainerId -> Exec (Option JournalRecord)
  | record, [] => pure record
  | record, containerId :: rest => do
    resolveOne labels record containerId
    let next <- load attemptId
    resolveFound attemptId labels (some next) rest

def finishInterrupted (attemptId : AttemptId) : Option JournalRecord -> Exec (Option JournalRecord)
  | some record =>
    match record.state, record.container with
    | .cleanupInFlight, some bound => do
      let _ <- cleanup (some bound)
      let next <- load attemptId
      pure (some next)
    | _, _ => pure (some record)
  | none => pure none

def buryFenced (identity : ExecutionIdentity) (reason : String) (checksum : Checksum) :
    Option JournalRecord -> Exec JournalRecord
  | none =>
    journal identity.attemptId (Journal.createReconciliationTombstone identity checksum reason .claimed)
  | some record =>
    match record.state with
    | .prepared =>
      journal identity.attemptId
        (Journal.tombstone identity.attemptId record.operationSequence reason (some checksum))
    | .createInFlight =>
      journal identity.attemptId
        (Journal.tombstoneAbandonedCreate identity.attemptId record.operationSequence reason checksum)
    | _ => pure record

def fencedRecord (identity : ExecutionIdentity) : Option JournalRecord -> Exec (Option JournalRecord)
  | none => pure none
  | some found => do
    let record <- ofExcept (Journal.load identity.attemptId (some found))
    .demand (identity.fits record)
      (executorError .identityMismatch "fenced claim does not match the journal identity")
    pure (some record)

/-- The journal is tombstoned before the last scan, so that a delayed create is never started. -/
def DockerExecutor.resolveFencedClaim (executor : DockerExecutor) (identity : ExecutionIdentity)
    (reason : String) : Exec CleanupProof := do
  let attemptId := identity.attemptId
  let labels := executor.labels attemptId identity.allocationId identity.startupNonce
  let checksum := executor.observationChecksum labels
  let record <- fencedRecord identity (<- loaded attemptId)
  let containers <- findStartupIdentity labels
  let resolved <- resolveFound attemptId labels record containers
  let finished <- finishInterrupted attemptId resolved
  let buried <- orJournal (buryFenced identity reason checksum finished) .invalidState
  .demand (buried.state = .tombstoned ∧ buried.tombstoneSequence ≠ none)
    (executorError .invalidState "fenced claim cleanup did not tombstone")
  let remaining <- findStartupIdentity labels
  .demand (remaining = []) stillThere
  noContainerProof buried identity.startupNonce checksum

def DockerExecutor.removeUnstartedOrphan (executor : DockerExecutor) (identity : ContainerIdentity) :
    Exec Bool := do
  let labels := executor.labels identity.attemptId identity.allocationId identity.startupNonce
  match <- loaded identity.attemptId with
  | none => pure false
  | some found => do
    let record <- ofExcept (Journal.load identity.attemptId (some found))
    if record.state ≠ .tombstoned ∨ record.container ≠ none
        ∨ record.allocationId ≠ identity.allocationId ∨ record.startupNonce ≠ identity.startupNonce then
      pure false
    else do
      removeUnstarted identity.containerId labels
      pure true

end Nexa.Host
