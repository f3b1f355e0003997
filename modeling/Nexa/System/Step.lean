import Nexa.Application.Uploads
import Nexa.Coordinator.Tick
import Nexa.Shared.Transition

/-! One action is one transaction. A transaction that raises is rolled back, so it leaves the store as it is. -/

namespace Nexa

open Relational Outcome Transition

inductive WorkerAction where
  | claim (attemptId : AttemptId) (callback : Callback) (request : ClaimRequest)
  | markCorrupt (authority : Authority) (marks : List (CheckpointId × CheckpointReason))
  | start (attemptId : AttemptId) (callback : Callback) (request : StartRequest)
  | renew (workerId : WorkerId) (attemptId : AttemptId) (callback : Callback) (request : RenewRequest)
  | adopt (workerId : WorkerId) (attemptId : AttemptId) (callback : Callback) (request : AdoptRequest)
  | reserveResult (attemptId : AttemptId) (callback : Callback) (authority : Authority)
  | reserveCheckpoint (attemptId : AttemptId) (callback : Callback) (authority : Authority)
  | publishCheckpoint (attemptId : AttemptId) (callback : Callback) (request : PublishRequest)
  | bindUpload (request : UploadRequest)
  | complete (attemptId : AttemptId) (callback : Callback) (request : CompleteRequest)
  | fail (workerId : WorkerId) (attemptId : AttemptId) (callback : Callback) (request : FailRequest)

inductive UserAction where
  | submit (request : SubmitRequest)
  | submitChild (request : SubmitRequest)
  | retry (request : RetryRequest)
  | cancel (request : ControlRequest)
  | pause (request : ControlRequest)
  | resume (compatible : List Nat) (request : ControlRequest)

inductive AdminAction where
  | createTenant (request : Request)
  | updateTenantPolicy (request : TenantPolicyRequest)
  | updateGlobalPolicy (request : GlobalPolicyRequest)
  | drainWorker (request : WorkerAdminRequest)
  | disableWorker (request : WorkerAdminRequest)
  | enableWorker (readiness : Option ApplicationError) (request : WorkerAdminRequest)

inductive CoordinatorAction where
  | reap (leader : Leader) (now : Time) (leaseId : LeaseId)
  | promote (leader : Leader) (now : Time) (runsOn : TemplateVersion -> WorkerInventory -> Bool)
  | trackQuota (now : Time) (unlocked : JobId -> Bool) (marking clearing : List TenantId)
  | snapshot (request : SnapshotRequest)
  | commit (call : Call) (request : CommitRequest)
  | account (now boundary : Time)
  | sweepHealth (now : Time)

inductive Action where
  | enrolWorker
  | createIncarnation (call : Call) (request : IncarnationRequest)
  | heartbeat (call : Call) (workerId : WorkerId) (callback : Callback) (request : HeartbeatRequest)
  | worker (call : Call) (action : WorkerAction)
  | cleanup (call : Call) (workerId : WorkerId) (attemptId : AttemptId) (callback : Callback)
      (request : CleanupRequest)
  | user (call : Call) (action : UserAction)
  | admin (call : Call) (action : AdminAction)
  | coordinator (action : CoordinatorAction)

structure Delivered where
  workerId : WorkerId
  operation : CallbackOperation
  callback : Callback

def WorkerAction.delivered : WorkerAction -> Option Delivered
  | .claim _ callback request => some ⟨request.authority.workerId, .claimAttempt, callback⟩
  | .start _ callback request => some ⟨request.authority.workerId, .startAttempt, callback⟩
  | .renew workerId _ callback _ => some ⟨workerId, .renewAttempt, callback⟩
  | .adopt workerId _ callback _ => some ⟨workerId, .adoptAttempt, callback⟩
  | .reserveResult _ callback authority => some ⟨authority.workerId, .reserveResult, callback⟩
  | .reserveCheckpoint _ callback authority => some ⟨authority.workerId, .reserveCheckpoint, callback⟩
  | .publishCheckpoint _ callback request =>
    some ⟨request.authority.workerId, .publishCheckpoint, callback⟩
  | .complete _ callback request => some ⟨request.authority.workerId, .completeAttempt, callback⟩
  | .fail workerId _ callback _ => some ⟨workerId, .failAttempt, callback⟩
  | .markCorrupt .. | .bindUpload .. => none

def WorkerAction.authority : WorkerAction -> Authority
  | .claim _ _ request => request.authority
  | .markCorrupt authority _ => authority
  | .start _ _ request => request.authority
  | .renew _ _ _ request => request.authority
  | .adopt _ _ _ request => request.priorAuthority
  | .reserveResult _ _ authority => authority
  | .reserveCheckpoint _ _ authority => authority
  | .publishCheckpoint _ _ request => request.authority
  | .bindUpload request => request.authority
  | .complete _ _ request => request.authority
  | .fail _ _ _ request => request.authority

section

variable (settings : Settings) (db : Db)

def WorkerAction.execute (call : Call) : WorkerAction -> Outcome Db
  | .claim attemptId callback request => Prod.fst <$> claimAttempt db call attemptId callback request
  | .markCorrupt authority marks => Nexa.markCorrupt db call authority marks
  | .start attemptId callback request => Prod.fst <$> startAttempt db call attemptId callback request
  | .renew workerId attemptId callback request =>
    Prod.fst <$> renewAttempt db call workerId attemptId callback request
  | .adopt workerId attemptId callback request =>
    Prod.fst <$> adoptAttempt db call workerId attemptId callback request
  | .reserveResult attemptId callback authority =>
    Prod.fst <$> Nexa.reserveResult db call attemptId callback authority
  | .reserveCheckpoint attemptId callback authority =>
    Prod.fst <$> Nexa.reserveCheckpoint db call attemptId callback authority
  | .publishCheckpoint attemptId callback request =>
    Prod.fst <$> Nexa.publishCheckpoint db call attemptId callback request
  | .bindUpload request => Nexa.bindUpload db call request
  | .complete attemptId callback request =>
    Prod.fst <$> completeAttempt settings db call attemptId callback request
  | .fail workerId attemptId callback request =>
    Prod.fst <$> failAttempt db call workerId attemptId callback request

def WorkerAction.answer (call : Call) : WorkerAction -> Option (Outcome (Db × Acknowledgment))
  | .claim attemptId callback request => some (claimAttempt db call attemptId callback request)
  | .start attemptId callback request => some (startAttempt db call attemptId callback request)
  | .renew workerId attemptId callback request =>
    some (renewAttempt db call workerId attemptId callback request)
  | .adopt workerId attemptId callback request =>
    some (adoptAttempt db call workerId attemptId callback request)
  | .reserveResult attemptId callback authority =>
    some (Nexa.reserveResult db call attemptId callback authority)
  | .reserveCheckpoint attemptId callback authority =>
    some (Nexa.reserveCheckpoint db call attemptId callback authority)
  | .publishCheckpoint attemptId callback request =>
    some (Nexa.publishCheckpoint db call attemptId callback request)
  | .complete attemptId callback request =>
    some (completeAttempt settings db call attemptId callback request)
  | .fail workerId attemptId callback request =>
    some (failAttempt db call workerId attemptId callback request)
  | .markCorrupt .. | .bindUpload .. => none

def UserAction.execute (call : Call) : UserAction -> Outcome Db
  | .submit request => Prod.fst <$> Nexa.submit settings db call request
  | .submitChild request => Prod.fst <$> Nexa.submitChild settings db call request
  | .retry request => Prod.fst <$> retryFailedJob settings db call request
  | .cancel request => Prod.fst <$> cancelJob settings db call request
  | .pause request => Prod.fst <$> pauseJob settings db call request
  | .resume compatible request => Prod.fst <$> resumeJob settings db call compatible request

def AdminAction.execute (call : Call) : AdminAction -> Outcome Db
  | .createTenant request => Prod.fst <$> Nexa.createTenant db call request
  | .updateTenantPolicy request => Prod.fst <$> Nexa.updateTenantPolicy settings db call request
  | .updateGlobalPolicy request => Prod.fst <$> Nexa.updateGlobalPolicy settings db call request
  | .drainWorker request => Prod.fst <$> Nexa.drainWorker db call request
  | .disableWorker request => Prod.fst <$> Nexa.disableWorker db call request
  | .enableWorker readiness request => Prod.fst <$> Nexa.enableWorker db call readiness request

def CoordinatorAction.execute : CoordinatorAction -> Outcome Db
  | .reap leader now leaseId => reapLease db leader now leaseId
  | .promote leader now runsOn => promoteRetries db leader now runsOn
  | .trackQuota now unlocked marking clearing => trackArtifactQuota db now unlocked marking clearing
  | .snapshot request => Prod.fst <$> snapshotOperation settings db request
  | .commit call request => commitOperation settings db call request
  | .account now boundary => Nexa.account settings db now boundary
  | .sweepHealth now => Nexa.sweepHealth db now

def Action.execute : Action -> Outcome Db
  | .enrolWorker => Nexa.enrolWorker settings db
  | .createIncarnation call request => Prod.fst <$> Nexa.createIncarnation db call request
  | .heartbeat call workerId callback request =>
    Prod.fst <$> Nexa.heartbeat settings db call workerId callback request
  | .worker call action => action.execute settings db call
  | .cleanup call workerId attemptId callback request =>
    Prod.fst <$> reportCleanup settings db call workerId attemptId callback request
  | .user call action => action.execute settings db call
  | .admin call action => action.execute settings db call
  | .coordinator action => action.execute settings db

end

def committed (db : Db) : Outcome Db -> Db
  | .ok after => after
  | .error _ => db

def Installed (db : Db) : Prop :=
  (∃ policy, db.rows .policyVersions = [policy] ∧ policy.isCurrent = true) ∧
    ∀ table, table ≠ .policyVersions -> table ≠ .templateVersions -> db.rows table = []

def controlPlane (settings : Settings) : System Db Action where
  initial := Installed
  step db action after := after = committed db (action.execute settings db)

def perform (settings : Settings) (db : Db) (actions : List Action) : Db :=
  actions.foldl (fun db action => committed db (action.execute settings db)) db

theorem perform_run (settings : Settings) (db : Db) (actions : List Action) :
    (controlPlane settings).Run db actions (perform settings db actions) := by
  induction actions generalizing db with
  | nil => exact .nil db
  | cons action rest ih => exact .cons rfl (ih _)

theorem perform_step (settings : Settings) (db : Db) (action : Action) :
    (controlPlane settings).step db action (perform settings db [action]) := rfl

def installation : Db where
  rows
    | .policyVersions =>
      [{ policyVersion := 1, globalOutstandingLimit := 10000, operationalMode := .normal
         isCurrent := true }]
    | .templateVersions =>
      [{ templateId := 1, version := 1, enabled := true, checkpointable := true
         restartSafe := true, chunked := false }]
    | _ => []
  unique table := by
    cases table <;> first | exact List.Pairwise.nil | exact List.pairwise_singleton _ _
  closed table row member ref inside := by
    cases table <;> first | exact absurd member List.not_mem_nil | exact absurd inside List.not_mem_nil

theorem installation_installed : Installed installation := by
  refine ⟨⟨_, rfl, rfl⟩, fun table notPolicy notTemplate => ?_⟩
  cases table <;> first | rfl | contradiction

theorem perform_reachable (settings : Settings) (actions : List Action) :
    (controlPlane settings).Reachable (perform settings installation actions) :=
  ⟨installation, actions, installation_installed, perform_run settings installation actions⟩

def localSettings : Settings where
  localWorkerId := 1
  idempotencyTerminalRetentionDays := 30
  round := id

def callAt (now : Time) (base : Nat) : Call where
  now := now
  observed := now
  fresh index := base + index
  segmentId allocationId := allocationId
  credentialValid := true

def operator : Principal where
  userId := 7
  tenantAdmin := true
  refusal := none

def sessionTenant : Action :=
  .admin (callAt 1000 100) (.createTenant { principal := operator, key := 1, requestHash := 1 })

def sessionQuota : Action :=
  .admin (callAt 1010 110) (.updateTenantPolicy
    { principal := operator, key := 2, requestHash := 1, tenantId := 101, ifMatch := some 1
      changes :=
        { weight := none, resourceLimit := some ⟨4000, 4000, 0⟩, outstandingLimit := none
          userOutstandingLimit := none, tenantActiveLimit := none, userActiveLimit := none
          tenantRatePerSecond := none, tenantRateBurst := none, userRatePerSecond := none
          userRateBurst := none } })

def sessionIncarnation (now : Time) (base : Nat) : Action :=
  .createIncarnation (callAt now base)
    { workerId := 1, processStartNonce := base, key := base, requestHash := base }

def sessionHeartbeat : Action :=
  .heartbeat (callAt 1200 300) 1 { callbackId := 1, payloadHash := 1 }
    { workerIncarnationId := 201, architecture := 1, allocatable := ⟨8000, 8000, 0⟩, checksum := 9
      discoveredAt := 1150, passes := true }

def sessionSubmit : Action :=
  .user (callAt 1300 400) (.submit
    { principal := operator, key := 3, requestHash := 3, tenantId := 101, storage := none
      spec :=
        { templateId := 1, templateVersion := 1, priority := 1, refusal := none
          supportedBy := [301]
          resources :=
            { cpuMillis := 1000, memoryBytes := 1000, gpuCount := 0, cpu_pos := Nat.succ_pos 999
              memory_pos := Nat.succ_pos 999, gpu_le := noGpu_le } } })

def sessionDispatch (now : Time) (base version : Nat) : Action :=
  .coordinator (.commit (callAt now base)
    { leader := { holderId := 1, epoch := 1 }, decision := .dispatch 401 version 1 none
      replayPending := false
      sources :=
        { windows := fun _ =>
            { normal := [(401, 1300)], oldest := some (401, 1300), continuationCursor := none }
          runsOn := fun _ _ => true
          quotaExhausted := fun _ => false } })

def sessionAuthority : Authority where
  workerId := 1
  workerIncarnationId := 201
  attemptId := 500
  allocationId := 501
  leaseId := 502
  jobFence := 1

def sessionClaim : Action :=
  .worker (callAt 1500 600) (.claim 500 { callbackId := 2, payloadHash := 2 }
    { authority := sessionAuthority, inputsCommitted := true, restoreCommitted := true
      chunksCommitted := true
      scan := some
        { remaining := [], selected := none, incompatible := [], attemptNumber := 1
          restartSafe := true, inherited := false, recognized := none } })

def sessionStart : Action :=
  .worker (callAt 1600 700) (.start 500 { callbackId := 3, payloadHash := 3 }
    { authority := sessionAuthority, startupNonce := 503, executorOperationSequence := 1
      container := { containerId := 1, runtimeIdentityDigest := 1 } })

def sessionReserve : Action :=
  .worker (callAt 1700 800) (.reserveResult 500 { callbackId := 4, payloadHash := 4 } sessionAuthority)

def sessionComplete : Action :=
  .worker (callAt 1800 900) (.complete 500 { callbackId := 5, payloadHash := 5 }
    { authority := sessionAuthority, resultId := 801, verdict := .accepted 1 1 none })

def sessionJitter : Fin 1001 := 0

def sessionCleanup : Action :=
  .cleanup (callAt 1900 1000) 1 500 { callbackId := 6, payloadHash := 6 }
    { workerId := 1, workerIncarnationId := 201, attemptId := 500, allocationId := 501, jobFence := 1
      jitter := sessionJitter
      proof :=
        { startupNonce := 503, executorOperationSequence := 2
          kind := .stopped { containerId := 1, runtimeIdentityDigest := 1 } 1850 } }

def readySession : List Action :=
  [sessionTenant, sessionQuota, .enrolWorker, sessionIncarnation 1100 200, sessionHeartbeat]

def queuedSession : List Action := readySession ++ [sessionSubmit]

def runningSession : List Action := queuedSession ++ [sessionDispatch 1400 500 1, sessionClaim, sessionStart]

def completedSession : List Action := runningSession ++ [sessionReserve, sessionComplete, sessionCleanup]

theorem session_jobs :
    let running := perform localSettings installation runningSession
    let last := perform localSettings running [sessionReserve, sessionComplete, sessionCleanup]
    (∃ job ∈ running.rows .jobs, job.state = .running ∧ ∃ later ∈ last.rows .jobs,
        later.jobId = job.jobId ∧ later.state = .succeeded) ∧
      ∃ job ∈ (perform localSettings installation completedSession).rows .jobs, job.eventSequence = 5 := by
  decide +kernel

end Nexa
