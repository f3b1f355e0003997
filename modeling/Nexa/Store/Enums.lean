import Mathlib.Algebra.Order.Ring.Nat
import Mathlib.Algebra.Order.Ring.Rat
import Mathlib.Tactic.Common

namespace Nexa

abbrev TenantId := Nat
abbrev UserId := Nat
abbrev JobId := Nat
abbrev AttemptId := Nat
abbrev AllocationId := Nat
abbrev LeaseId := Nat
abbrev GrantId := Nat
abbrev WorkerId := Nat
abbrev IncarnationId := Nat
abbrev CallbackId := Nat
abbrev CheckpointId := Nat
abbrev ResultId := Nat
abbrev ArtifactId := Nat

abbrev Time := Nat

def seconds (count : Nat) : Time := count * 1000000

def milliseconds (count : Nat) : Time := count * 1000

inductive JobState where
  | queued | dispatching | running | pausing | paused | recovering | retryWait | cancelling
  | succeeded | failed | cancelled
deriving DecidableEq

namespace JobState

def terminal : JobState -> Bool
  | succeeded | failed | cancelled => true
  | _ => false

def active : JobState -> Bool
  | dispatching | running | pausing => true
  | _ => false

def immediateCancel : JobState -> Bool
  | queued | retryWait | paused => true
  | _ => false

end JobState

inductive DesiredState where
  | running | paused | cancelled
deriving DecidableEq

inductive RecoveryIntent where
  | checkpointForPause
deriving DecidableEq

inductive ExecutionIntent where
  | run | checkpointForPause
deriving DecidableEq

def ExecutionIntent.ofRecovery : Option RecoveryIntent -> ExecutionIntent
  | none => .run
  | some .checkpointForPause => .checkpointForPause

def dispatchable (desired : DesiredState) (intent : Option RecoveryIntent) : Bool :=
  (desired, intent) = (.running, none) ∨ (desired, intent) = (.paused, some .checkpointForPause)

inductive AttemptState where
  | created | claimed | starting | running | checkpointing | stopping | succeeded | failed | lost
  | cancelled
deriving DecidableEq

inductive FailureClass where
  | infrastructure | timeout | oom | invalidInput | incompatible | internal | userCancel
deriving DecidableEq

inductive FailureReason where
  | reconciliationIdentityMismatch | executorUnavailable | startupFailed | inputDownloadFailed
  | outputUploadFailed | runnerUnavailable | runtimeLimitReached | startupTimeout | containerOom
  | invalidInput | inputChecksumMismatch | capabilityMismatch | imageMismatch
  | checkpointRestoreUnavailable | workloadExitNonzero | runnerProtocolError | invalidResult
  | checkpointProtocolError | chunkOutputConflict | chunkOutputUnavailable | checkpointStorageFailed
  | leaseExpired | workerDisabled | userCancel | pause
deriving DecidableEq

def failureReasons : FailureClass -> List FailureReason
  | .infrastructure =>
    [.reconciliationIdentityMismatch, .executorUnavailable, .startupFailed, .inputDownloadFailed,
      .outputUploadFailed, .runnerUnavailable]
  | .timeout => [.runtimeLimitReached, .startupTimeout]
  | .oom => [.containerOom]
  | .invalidInput => [.invalidInput, .inputChecksumMismatch]
  | .incompatible => [.capabilityMismatch, .imageMismatch, .checkpointRestoreUnavailable]
  | .internal =>
    [.workloadExitNonzero, .runnerProtocolError, .invalidResult, .checkpointProtocolError,
      .chunkOutputConflict, .chunkOutputUnavailable, .checkpointStorageFailed]
  | .userCancel => []

inductive AllocationState where
  | held | quarantined | released
deriving DecidableEq

inductive ResultReservationState where
  | active | committed | abandoned
deriving DecidableEq

inductive CheckpointReservationState where
  | reserved | committed | rejected | abandoned
deriving DecidableEq

inductive OperationalMode where
  | normal | admissionOff | writeFrozen
deriving DecidableEq

inductive AdminState where
  | enabled | draining | disabled
deriving DecidableEq

inductive WorkerHealth where
  | starting | ready | suspect | unavailable
deriving DecidableEq

inductive WaitingReason where
  | waitingForWorker | waitingForRetry | waitingForCompatibility | waitingForQuota
deriving DecidableEq

inductive EventType where
  | jobAccepted | reservationCreated | reservationInvalidated | jobDispatching | attemptStarted
  | attemptFailed | attemptLost | attemptFenced | leaseRevoked | resultRecognized | allocationReleased
  | jobCancelled | cancelRequested | pauseRequested | pauseAborted | jobResumed | checkpointCommitted
  | checkpointRejected | checkpointCorrupt | checkpointIncompatible | checkpointRestoreSelected
  | checkpointFallbackToInput | checkpointRestoreUnavailable | retryReady | retryBlocked
deriving DecidableEq

inductive CheckpointReason where
  | manifestInvalid | manifestChecksumMismatch | manifestNotCanonical | identityMismatch
  | provenanceMismatch | compatibilityMismatch | templateUnsupported | cursorInvalid | filesInvalid
  | stateInvalid | checksumMismatch | blobMissing | committed | restored | fallbackToInput
  | restoreUnavailable
deriving DecidableEq

inductive ReservationReason where
  | eligibleWaitThreshold | policyIncompatible | noLongerEligible | cancelled
  | capabilityIncompatible | templateIncompatible | dispatched | jobCancelled
deriving DecidableEq

inductive EventReason where
  | accepted | manualRetry | userCancel | userPause | userResume | leaseExpired | workerDisabled
  | verifiedCleanup | backoffElapsed | attemptStarted | resultRecognized
  | failure (reason : FailureReason)
  | checkpoint (reason : CheckpointReason)
  | reservation (reason : ReservationReason)
  | waiting (reason : WaitingReason)
deriving DecidableEq

inductive Actor where
  | user (id : UserId)
  | admin (id : UserId)
  | worker (id : WorkerId)
  | coordinator (holder : Nat)
deriving DecidableEq

inductive ErrorCode where
  | authenticationRequired | permissionDenied | resourceNotFound | stateConflict | versionConflict
  | staleAuthority | validationFailed | infeasibleRequest | dependencyUnavailable | idempotencyConflict
  | idempotencyInProgress | preconditionRequired | queueFull | quotaExceeded | rateLimited
deriving DecidableEq

inductive Scope where
  | global
  | tenant (id : TenantId)
  | user (tenant : TenantId) (id : UserId)
deriving DecidableEq

def Scope.ofJob (tenant : TenantId) (submitter : UserId) : List Scope :=
  [.global, .tenant tenant, .user tenant submitter]

end Nexa
