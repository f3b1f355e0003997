import Nexa.Shared.Outcome
import Nexa.Store.Control

namespace Nexa.Host

open Outcome

abbrev Checksum := Nat
abbrev ContainerId := Nat
abbrev StartupNonce := Nat

inductive JournalState where
  | prepared
  | createInFlight
  | created
  | startInFlight
  | started
  | cleanupInFlight
  | tombstoned
deriving DecidableEq

structure ResourceVector where
  cpuMillis : Nat
  memoryBytes : Nat
  gpuCount : Nat
deriving DecidableEq

structure ContainerIdentity where
  containerId : ContainerId
  runtimeIdentityDigest : Checksum
  attemptId : AttemptId
  allocationId : AllocationId
  startupNonce : StartupNonce
  architecture : String
  imageId : Option Nat
deriving DecidableEq

inductive ClaimState where
  | unclaimed
  | claimed
deriving DecidableEq

/-- In canonical form, or the row a tombstone without one comes from. -/
inductive ExecutionBinding where
  | request (encoding : Nat)
  | reconciliation (claimState : ClaimState)
deriving DecidableEq

structure JournalRecord where
  attemptId : AttemptId
  allocationId : AllocationId
  startupNonce : StartupNonce
  authority : Authority
  resources : ResourceVector
  imageDigest : Option Checksum
  inputChecksum : Option Checksum
  executionBinding : ExecutionBinding
  state : JournalState
  operationSequence : Nat
  container : Option ContainerIdentity := none
  startupStartedMonotonicNs : Option Nat := none
  startupClockDomain : Option Nat := none
  tombstoneSequence : Option Nat := none
  reason : Option String := none
  inspectionChecksum : Option Checksum := none
  stoppedAt : Option Time := none
  exitCode : Option Int := none
deriving DecidableEq

inductive ExecutorErrorCode where
  | identityMismatch
  | startTimeout
  | createOutcomeUnknown
  | startOutcomeUnknown
  | runtimeError
  | stopTimeout
  | inspectionUnavailable
  | invalidState
deriving DecidableEq

inductive WorkerFailure where
  | executor (code : ExecutorErrorCode) (message : String)
  | journalWrite (message : String)
  | journalCorruption (message : String)
  | containerNotFound
  | docker
  | timeout
  | value (message : String)
deriving DecidableEq

inductive JournalDecision where
  | keep (record : JournalRecord)
  | write (record : JournalRecord)
deriving DecidableEq

abbrev JournalMethod := Option JournalRecord -> Except WorkerFailure JournalDecision

structure ExecutionIdentity where
  attemptId : AttemptId
  allocationId : AllocationId
  startupNonce : StartupNonce
  authority : Authority
  resources : ResourceVector

structure ExecutionInputs where
  imageDigest : Checksum
  inputChecksum : Option Checksum
  executionBinding : ExecutionBinding

def ExecutionIdentity.fits (identity : ExecutionIdentity) (record : JournalRecord) : Bool :=
  record.allocationId = identity.allocationId && record.startupNonce = identity.startupNonce
    && record.authority = identity.authority && record.resources = identity.resources

def ExecutionInputs.fits (inputs : ExecutionInputs) (record : JournalRecord) : Bool :=
  record.imageDigest = some inputs.imageDigest && record.inputChecksum = inputs.inputChecksum
    && record.executionBinding = inputs.executionBinding

def JournalRecord.moved (record : JournalRecord) (state : JournalState) : JournalRecord :=
  { record with state, operationSequence := record.operationSequence + 1 }

def JournalRecord.buried (record : JournalRecord) : JournalRecord :=
  { record.moved .tombstoned with
    tombstoneSequence := some (record.operationSequence + 1) }

inductive JournalState.Leads : JournalState -> JournalState -> Prop where
  | create : Leads .prepared .createInFlight
  | bind : Leads .createInFlight .created
  | start : Leads .created .startInFlight
  | mark : Leads .startInFlight .started
  | reset : Leads .startInFlight .created
  | cleanCreated : Leads .created .cleanupInFlight
  | cleanStarting : Leads .startInFlight .cleanupInFlight
  | cleanStarted : Leads .started .cleanupInFlight
  | finish : Leads .cleanupInFlight .tombstoned
  | abandonPrepared : Leads .prepared .tombstoned
  | abandonCreate : Leads .createInFlight .tombstoned

def JournalState.binds : JournalState -> Bool
  | .created | .startInFlight | .started | .cleanupInFlight => true
  | .prepared | .createInFlight | .tombstoned => false

structure JournalRecord.Coherent (record : JournalRecord) (attemptId : AttemptId) : Prop where
  attempt : record.attemptId = attemptId
  sequence : 1 ≤ record.operationSequence
  bound : record.state.binds = true -> record.container ≠ none
  unbound : record.state = .prepared ∨ record.state = .createInFlight -> record.container = none
  owner : ∀ identity, record.container = some identity -> identity.attemptId = attemptId

structure JournalRecord.Advances (before after : JournalRecord) : Prop where
  leads : before.state.Leads after.state
  sequence : after.operationSequence = before.operationSequence + 1
  attempt : after.attemptId = before.attemptId
  bound : ∀ identity, before.container = some identity -> after.container = some identity

structure JournalRecord.Moved (before after : JournalRecord) (target : JournalState) : Prop where
  state : after.state = target
  sequence : after.operationSequence = before.operationSequence + 1
  attempt : after.attemptId = before.attemptId
  container : after.container = before.container

theorem JournalRecord.Moved.advances {before after : JournalRecord} {target : JournalState}
    (moved : before.Moved after target) (leads : before.state.Leads target) : before.Advances after where
  leads := moved.state ▸ leads
  sequence := moved.sequence
  attempt := moved.attempt
  bound := fun _ bound => moved.container.trans bound

theorem JournalRecord.Moved.coherent {before after : JournalRecord} {target : JournalState}
    {attemptId : AttemptId} (moved : before.Moved after target) (coherent : before.Coherent attemptId)
    (leads : before.state.Leads target) (ends : before.state = .createInFlight -> target = .tombstoned) :
    after.Coherent attemptId where
  attempt := moved.attempt.trans coherent.attempt
  sequence := by rw [moved.sequence]; exact Nat.le_add_left 1 _
  bound := fun binds => by
    rw [moved.container]
    rw [moved.state] at binds
    generalize source : before.state = first at leads
    cases leads with
    | create | finish | abandonPrepared | abandonCreate => cases binds
    | bind => cases ends source
    | start | mark | reset | cleanCreated | cleanStarting | cleanStarted =>
      exact coherent.bound (by rw [source]; rfl)
  unbound := fun free => by
    rw [moved.container]
    rw [moved.state] at free
    generalize source : before.state = first at leads
    cases leads with
    | create => exact coherent.unbound (.inl source)
    | _ => simp at free
  owner := fun identity bound => coherent.owner identity (moved.container.symm.trans bound)

namespace Journal

def writeError (message : String) : WorkerFailure := .journalWrite message

def load (attemptId : AttemptId) (found : Option JournalRecord) : Except WorkerFailure JournalRecord := do
  let record <- orFail
    (.journalCorruption ("journal record is invalid for attempt " ++ toString attemptId)) found
  require (record.attemptId = attemptId ∧ 1 ≤ record.operationSequence)
    (.journalCorruption ("journal identity is invalid for attempt " ++ toString attemptId))
  pure record

def expectSequence (record : JournalRecord) (expected : Nat) : Except WorkerFailure Unit :=
  require (record.operationSequence = expected) (writeError "operation sequence conflict")

def prepare (identity : ExecutionIdentity) (inputs : ExecutionInputs) : JournalMethod
  | some found => do
    let record <- load identity.attemptId (some found)
    require (identity.fits record ∧ inputs.fits record) (writeError "immutable execution context mismatch")
    pure (.keep record)
  | none =>
    pure (.write {
      attemptId := identity.attemptId
      allocationId := identity.allocationId
      startupNonce := identity.startupNonce
      authority := identity.authority
      resources := identity.resources
      imageDigest := some inputs.imageDigest
      inputChecksum := inputs.inputChecksum
      executionBinding := inputs.executionBinding
      state := .prepared
      operationSequence := 1 })

def beginCreate (attemptId : AttemptId) (expected startedMonotonicNs clockDomain : Nat) : JournalMethod :=
  fun found => do
    let record <- load attemptId found
    require (record.state ≠ .tombstoned) (writeError "attempt is tombstoned")
    expectSequence record expected
    if record.state ≠ .prepared then pure (.keep record)
    else
      pure (.write {
        record.moved .createInFlight with
        startupStartedMonotonicNs := some startedMonotonicNs
        startupClockDomain := some clockDomain })

def bindCreated (attemptId : AttemptId) (identity : ContainerIdentity) : JournalMethod :=
  fun found => do
    let record <- load attemptId found
    require
      (identity.attemptId = record.attemptId ∧ identity.allocationId = record.allocationId ∧
        identity.startupNonce = record.startupNonce)
      (writeError "container identity mismatch")
    require (record.container = none ∨ record.container = some identity)
      (writeError "container identity conflict")
    if record.container = some identity ∧ record.state ≠ .prepared ∧ record.state ≠ .createInFlight then
      pure (.keep record)
    else do
      require (record.state = .createInFlight)
        (writeError "create identity cannot be bound in current state")
      pure (.write { record.moved .created with container := some identity })

def beginStart (attemptId : AttemptId) (expected : Nat) : JournalMethod :=
  fun found => do
    let record <- load attemptId found
    expectSequence record expected
    if record.state = .startInFlight then pure (.keep record)
    else do
      require (record.state = .created ∧ record.container ≠ none)
        (writeError "container is not ready to start")
      pure (.write (record.moved .startInFlight))

def markStarted (attemptId : AttemptId) (expected : Nat) : JournalMethod :=
  fun found => do
    let record <- load attemptId found
    expectSequence record expected
    if record.state = .started then pure (.keep record)
    else do
      require (record.state = .startInFlight ∧ record.container ≠ none)
        (writeError "container start is not in flight")
      pure (.write (record.moved .started))

def resetStartAfterFailure (attemptId : AttemptId) (expected : Nat) : JournalMethod :=
  fun found => do
    let record <- load attemptId found
    expectSequence record expected
    require (record.state = .startInFlight) (writeError "container start is not in flight")
    pure (.write (record.moved .created))

def beginCleanup (attemptId : AttemptId) (expected : Nat) (inspectionChecksum : Checksum)
    (stoppedAt : Time) (exitCode : Int) : JournalMethod :=
  fun found => do
    let record <- load attemptId found
    expectSequence record expected
    if record.state = .cleanupInFlight then pure (.keep record)
    else do
      require
        (record.container ≠ none ∧
          (record.state = .created ∨ record.state = .startInFlight ∨ record.state = .started))
        (writeError "created identity is required for cleanup")
      pure (.write {
        record.moved .cleanupInFlight with
        inspectionChecksum := some inspectionChecksum
        stoppedAt := some stoppedAt
        exitCode := some exitCode })

def finishCleanup (attemptId : AttemptId) (expected : Nat) : JournalMethod :=
  fun found => do
    let record <- load attemptId found
    expectSequence record expected
    if record.state = .tombstoned then pure (.keep record)
    else do
      require (record.state = .cleanupInFlight ∧ record.container ≠ none)
        (writeError "cleanup is not in flight")
      pure (.write (record.buried))

def tombstone (attemptId : AttemptId) (expected : Nat) (reason : String)
    (inspectionChecksum : Option Checksum) : JournalMethod :=
  fun found => do
    let record <- load attemptId found
    expectSequence record expected
    require (record.state ≠ .createInFlight ∧ record.state ≠ .startInFlight)
      (writeError "cannot tombstone while operation is in flight")
    require (record.container = none ∨ record.state = .tombstoned)
      (writeError "created container requires identity cleanup")
    if record.state = .tombstoned then pure (.keep record)
    else
      pure (.write { record.buried with reason := some reason, inspectionChecksum })

def tombstoneAbandonedCreate (attemptId : AttemptId) (expected : Nat) (reason : String)
    (inspectionChecksum : Checksum) : JournalMethod :=
  fun found => do
    let record <- load attemptId found
    expectSequence record expected
    if record.state = .tombstoned ∧ record.container = none then pure (.keep record)
    else do
      require (record.state = .createInFlight ∧ record.container = none)
        (writeError "only an unbound create in flight can be abandoned")
      pure (.write {
        record.buried with
        reason := some reason
        inspectionChecksum := some inspectionChecksum })

def createUnclaimedTombstone (identity : ExecutionIdentity) (inputs : ExecutionInputs) (reason : String)
    (inspectionChecksum : Checksum) : JournalMethod
  | some found => do
    let record <- load identity.attemptId (some found)
    require (identity.fits record ∧ inputs.fits record)
      (writeError "unclaimed tombstone identity mismatch")
    tombstone identity.attemptId record.operationSequence reason (some inspectionChecksum) (some found)
  | none =>
    pure (.write {
      attemptId := identity.attemptId
      allocationId := identity.allocationId
      startupNonce := identity.startupNonce
      authority := identity.authority
      resources := identity.resources
      imageDigest := some inputs.imageDigest
      inputChecksum := inputs.inputChecksum
      executionBinding := inputs.executionBinding
      state := .tombstoned
      operationSequence := 1
      tombstoneSequence := some 1
      reason := some reason
      inspectionChecksum := some inspectionChecksum })

def createReconciliationTombstone (identity : ExecutionIdentity) (inspectionChecksum : Checksum)
    (reason : String) (claimState : ClaimState) : JournalMethod
  | some found => do
    let record <- load identity.attemptId (some found)
    require (identity.fits record) (writeError "reconciliation tombstone identity mismatch")
    require (record.state = .tombstoned)
      (writeError "existing execution cannot become an unclaimed tombstone")
    pure (.keep record)
  | none =>
    pure (.write {
      attemptId := identity.attemptId
      allocationId := identity.allocationId
      startupNonce := identity.startupNonce
      authority := identity.authority
      resources := identity.resources
      imageDigest := none
      inputChecksum := none
      executionBinding := .reconciliation claimState
      state := .tombstoned
      operationSequence := 1
      tombstoneSequence := some 1
      reason := some reason
      inspectionChecksum := some inspectionChecksum })

section

variable {attemptId : AttemptId} {found after record : JournalRecord} {decision : JournalDecision}
  {expected : Nat}

theorem load_eq_ok :
    load attemptId (some found) = .ok record <->
      found = record ∧ found.attemptId = attemptId ∧ 1 ≤ found.operationSequence := by
  simp only [load, bind_eq_ok, orFail_eq_ok, require_eq_ok, pure_eq_ok, Option.some.injEq, exists_const]
  constructor
  · rintro ⟨_, rfl, checked, rfl⟩
    exact ⟨rfl, checked⟩
  · rintro ⟨rfl, checked⟩
    exact ⟨found, rfl, checked, rfl⟩

inductive Decides (found : JournalRecord) (source : Prop) (target : JournalState) (kept : Prop) :
    JournalDecision -> Prop where
  | keep (already : kept) : Decides found source target kept (.keep found)
  | write {after : JournalRecord} (ready : source) (moved : found.Moved after target) :
      Decides found source target kept (.write after)

theorem decides_of_ite {source kept ready : Prop} [Decidable kept] [Decidable ready] {failure : WorkerFailure}
    {target : JournalState}
    (decided :
      (if kept then pure (.keep found)
        else do
          require ready failure
          pure (.write after)) = Except.ok decision)
    (moved : found.Moved after target) (ready_source : ready -> source) :
    Decides found source target kept decision := by
  split_ifs at decided with already
  · cases decided
    exact .keep already
  · simp only [bind_eq_ok, require_eq_ok, exists_const, pure_eq_ok] at decided
    obtain ⟨holds, rfl⟩ := decided
    exact .write (ready_source holds) moved

theorem next_of_expected {next : JournalRecord -> Except WorkerFailure JournalDecision}
    (decided : (do
      let record <- load attemptId (some found)
      expectSequence record expected
      next record) = .ok decision) : next found = .ok decision := by
  simp only [expectSequence, bind_eq_ok, load_eq_ok, require_eq_ok, exists_const] at decided
  obtain ⟨_, ⟨rfl, -⟩, -, decided⟩ := decided
  exact decided

theorem beginCreate_decides {startedNs clockDomain : Nat}
    (decided : beginCreate attemptId expected startedNs clockDomain (some found) = .ok decision) :
    Decides found (found.state = .prepared) .createInFlight (found.state ≠ .prepared) decision := by
  simp only [beginCreate, expectSequence, bind_eq_ok, load_eq_ok, require_eq_ok, exists_const] at decided
  obtain ⟨_, ⟨rfl, -⟩, -, -, decided⟩ := decided
  split at decided
  · next moved =>
      cases decided
      exact .keep moved
  · next prepared =>
      cases decided
      exact .write (not_not.1 prepared) ⟨rfl, rfl, rfl, rfl⟩

theorem beginStart_decides (decided : beginStart attemptId expected (some found) = .ok decision) :
    Decides found (found.state = .created) .startInFlight (found.state = .startInFlight) decision :=
  decides_of_ite (next_of_expected decided) ⟨rfl, rfl, rfl, rfl⟩ And.left

theorem markStarted_decides (decided : markStarted attemptId expected (some found) = .ok decision) :
    Decides found (found.state = .startInFlight) .started (found.state = .started) decision :=
  decides_of_ite (next_of_expected decided) ⟨rfl, rfl, rfl, rfl⟩ And.left

theorem resetStartAfterFailure_decides
    (decided : resetStartAfterFailure attemptId expected (some found) = .ok decision) :
    Decides found (found.state = .startInFlight) .created False decision := by
  simp only [resetStartAfterFailure, expectSequence, bind_eq_ok, load_eq_ok, require_eq_ok, exists_const,
    pure_eq_ok] at decided
  obtain ⟨_, ⟨rfl, -⟩, -, flight, rfl⟩ := decided
  exact .write flight ⟨rfl, rfl, rfl, rfl⟩

theorem beginCleanup_decides {checksum : Checksum} {stoppedAt : Time} {exitCode : Int}
    (decided : beginCleanup attemptId expected checksum stoppedAt exitCode (some found) = .ok decision) :
    Decides found (found.state = .created ∨ found.state = .startInFlight ∨ found.state = .started)
      .cleanupInFlight (found.state = .cleanupInFlight) decision :=
  decides_of_ite (next_of_expected decided) ⟨rfl, rfl, rfl, rfl⟩ And.right

theorem finishCleanup_decides (decided : finishCleanup attemptId expected (some found) = .ok decision) :
    Decides found (found.state = .cleanupInFlight) .tombstoned (found.state = .tombstoned) decision :=
  decides_of_ite (next_of_expected decided) ⟨rfl, rfl, rfl, rfl⟩ And.left

theorem tombstone_decides {reason : String} {checksum : Option Checksum} (coherent : found.Coherent attemptId)
    (decided : tombstone attemptId expected reason checksum (some found) = .ok decision) :
    Decides found (found.state = .prepared) .tombstoned (found.state = .tombstoned) decision := by
  simp only [tombstone, expectSequence, bind_eq_ok, load_eq_ok, require_eq_ok, exists_const] at decided
  obtain ⟨_, ⟨rfl, -⟩, -, quiet, free, decided⟩ := decided
  split at decided
  · next buried =>
      cases decided
      exact .keep buried
  · next standing =>
      cases decided
      refine .write ?_ ⟨rfl, rfl, rfl, rfl⟩
      have unbound := coherent.bound
      have empty := free.resolve_right standing
      cases state : found.state <;> simp_all [JournalState.binds]

theorem tombstoneAbandonedCreate_decides {reason : String} {checksum : Checksum}
    (decided : tombstoneAbandonedCreate attemptId expected reason checksum (some found) = .ok decision) :
    Decides found (found.state = .createInFlight) .tombstoned (found.state = .tombstoned) decision := by
  simp only [tombstoneAbandonedCreate, expectSequence, bind_eq_ok, load_eq_ok, require_eq_ok, exists_const] at decided
  obtain ⟨_, ⟨rfl, -⟩, -, decided⟩ := decided
  split at decided
  · next buried =>
      cases decided
      exact .keep buried.1
  · simp only [bind_eq_ok, require_eq_ok, exists_const, pure_eq_ok] at decided
    obtain ⟨ready, rfl⟩ := decided
    exact .write ready.1 ⟨rfl, rfl, rfl, rfl⟩

structure Bound (before after : JournalRecord) (identity : ContainerIdentity) : Prop where
  source : before.state = .createInFlight
  state : after.state = .created
  sequence : after.operationSequence = before.operationSequence + 1
  attempt : after.attemptId = before.attemptId
  container : after.container = some identity
  owner : identity.attemptId = before.attemptId

theorem bindCreated_decides {identity : ContainerIdentity}
    (decided : bindCreated attemptId identity (some found) = .ok decision) :
    decision = .keep found ∧ found.container = some identity ∨
      ∃ after, decision = .write after ∧ Bound found after identity := by
  simp only [bindCreated, bind_eq_ok, load_eq_ok, require_eq_ok, exists_const] at decided
  obtain ⟨_, ⟨rfl, -⟩, same, -, decided⟩ := decided
  split at decided
  · next already =>
      cases decided
      exact .inl ⟨rfl, already.1⟩
  · simp only [bind_eq_ok, require_eq_ok, exists_const, pure_eq_ok] at decided
    obtain ⟨flight, rfl⟩ := decided
    exact .inr ⟨_, rfl, flight, rfl, rfl, rfl, rfl, same.1⟩

structure First (record : JournalRecord) (attemptId : AttemptId) (state : JournalState) : Prop where
  attempt : record.attemptId = attemptId
  state : record.state = state
  sequence : record.operationSequence = 1
  container : record.container = none

variable {identity : ExecutionIdentity} {inputs : ExecutionInputs} {reason : String} {checksum : Checksum}

theorem prepare_keeps (decided : prepare identity inputs (some found) = .ok decision) : decision = .keep found := by
  simp only [prepare, bind_eq_ok, load_eq_ok, require_eq_ok, exists_const, pure_eq_ok] at decided
  obtain ⟨_, ⟨rfl, -⟩, -, rfl⟩ := decided
  rfl

theorem prepare_first (decided : prepare identity inputs none = .ok decision) :
    ∃ record, decision = .write record ∧ First record identity.attemptId .prepared := by
  cases decided
  exact ⟨_, rfl, rfl, rfl, rfl, rfl⟩

theorem createUnclaimedTombstone_decides (coherent : found.Coherent identity.attemptId)
    (decided : createUnclaimedTombstone identity inputs reason checksum (some found) = .ok decision) :
    Decides found (found.state = .prepared) .tombstoned (found.state = .tombstoned) decision := by
  simp only [createUnclaimedTombstone, bind_eq_ok, load_eq_ok, require_eq_ok, exists_const] at decided
  obtain ⟨_, ⟨rfl, -⟩, -, decided⟩ := decided
  exact tombstone_decides coherent decided

theorem createUnclaimedTombstone_first
    (decided : createUnclaimedTombstone identity inputs reason checksum none = .ok decision) :
    ∃ record, decision = .write record ∧ First record identity.attemptId .tombstoned := by
  cases decided
  exact ⟨_, rfl, rfl, rfl, rfl, rfl⟩

theorem createReconciliationTombstone_first {claimState : ClaimState}
    (decided : createReconciliationTombstone identity checksum reason claimState none = .ok decision) :
    ∃ record, decision = .write record ∧ First record identity.attemptId .tombstoned := by
  cases decided
  exact ⟨_, rfl, rfl, rfl, rfl, rfl⟩

theorem First.coherent {state : JournalState} (first : First record attemptId state)
    (free : state.binds = false) : record.Coherent attemptId where
  attempt := first.attempt
  sequence := first.sequence.ge
  bound := fun binds => by
    rw [first.state, free] at binds
    cases binds
  unbound := fun _ => first.container
  owner := fun identity bound => nomatch first.container.symm.trans bound

theorem Bound.coherent {container : ContainerIdentity} (bound : Bound found after container)
    (coherent : found.Coherent attemptId) : after.Coherent attemptId where
  attempt := bound.attempt.trans coherent.attempt
  sequence := by rw [bound.sequence]; exact Nat.le_add_left 1 _
  bound := fun _ free => nomatch free.symm.trans bound.container
  unbound := fun free => by simp [bound.state] at free
  owner := fun other same => by
    rw [bound.container] at same
    cases same
    exact bound.owner.trans coherent.attempt

end

end Journal

end Nexa.Host
