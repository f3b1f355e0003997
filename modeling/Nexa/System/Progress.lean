import Nexa.Lifecycle.Balance
import Nexa.Refinement.Administration
import Nexa.Refinement.Callbacks
import Nexa.Refinement.Cleanup
import Nexa.Refinement.Execution
import Nexa.Refinement.Submit
import Nexa.System.Step

namespace Nexa

open Relational Outcome Transition List Tables

def Action.isCleanup : Action -> Bool
  | .cleanup .. => true
  | _ => false

def WorkerAction.writes : WorkerAction -> List Table
  | .claim .. => .callbackReceipts :: CallbackOperation.claimAttempt.writes
  | .markCorrupt .. => .checkpointCorruptions :: ownedTables
  | .start .. => .callbackReceipts :: CallbackOperation.startAttempt.writes
  | .renew .. => .callbackReceipts :: CallbackOperation.renewAttempt.writes
  | .adopt .. => .callbackReceipts :: CallbackOperation.adoptAttempt.writes
  | .reserveResult .. => .callbackReceipts :: CallbackOperation.reserveResult.writes
  | .reserveCheckpoint .. => .callbackReceipts :: CallbackOperation.reserveCheckpoint.writes
  | .publishCheckpoint .. => .callbackReceipts :: CallbackOperation.publishCheckpoint.writes
  | .bindUpload .. => [.uploadSessions]
  | .complete .. => .callbackReceipts :: CallbackOperation.completeAttempt.writes
  | .fail .. => .callbackReceipts :: CallbackOperation.failAttempt.writes

def UserAction.writes : UserAction -> List Table
  | .submit .. | .submitChild .. => .idempotencyRecords :: RequestOperation.submitJob.writes
  | .retry .. => .idempotencyRecords :: RequestOperation.retryJob.writes
  | .cancel .. => .idempotencyRecords :: RequestOperation.cancelJob.writes
  | .pause .. => .idempotencyRecords :: RequestOperation.pauseJob.writes
  | .resume .. => .idempotencyRecords :: RequestOperation.resumeJob.writes

def AdminAction.writes : AdminAction -> List Table
  | .createTenant .. => .idempotencyRecords :: RequestOperation.createTenant.writes
  | .updateTenantPolicy .. => .idempotencyRecords :: RequestOperation.updateTenantPolicy.writes
  | .updateGlobalPolicy .. => .idempotencyRecords :: RequestOperation.updateGlobalPolicy.writes
  | .drainWorker .. => .idempotencyRecords :: RequestOperation.drainWorker.writes
  | .disableWorker .. => .idempotencyRecords :: RequestOperation.disableWorker.writes
  | .enableWorker .. => .idempotencyRecords :: RequestOperation.enableWorker.writes

structure Asked where
  name : RequestKey
  requestHash : Nat

def UserAction.asked : UserAction -> Asked
  | .submit request | .submitChild request => ⟨request.requestKey, request.requestHash⟩
  | .retry request => ⟨request.requestKey, request.requestHash⟩
  | .cancel request => ⟨request.requestKey .cancelJob, request.requestHash⟩
  | .pause request => ⟨request.requestKey .pauseJob, request.requestHash⟩
  | .resume _ request => ⟨request.requestKey .resumeJob, request.requestHash⟩

def AdminAction.asked : AdminAction -> Asked
  | .createTenant request => ⟨request.adminKey .createTenant, request.requestHash⟩
  | .updateTenantPolicy request => ⟨request.adminKey .updateTenantPolicy, request.requestHash⟩
  | .updateGlobalPolicy request => ⟨request.adminKey .updateGlobalPolicy, request.requestHash⟩
  | .drainWorker request => ⟨request.requestKey .drainWorker, request.requestHash⟩
  | .disableWorker request => ⟨request.requestKey .disableWorker, request.requestHash⟩
  | .enableWorker _ request => ⟨request.requestKey .enableWorker, request.requestHash⟩

def CoordinatorAction.writes : CoordinatorAction -> List Table
  | .reap .. => revocationTables
  | .promote .. => .admissionCounters :: promotionTables
  | .trackQuota .. => [.jobs]
  | .snapshot .. => .jobs :: fairnessTables
  | .commit .. => decisionTables
  | .account .. => fairnessTables
  | .sweepHealth .. => [.workers]

def Action.writes : Action -> List Table
  | .enrolWorker => [.workers]
  | .createIncarnation .. => .idempotencyRecords :: RequestOperation.createIncarnation.writes
  | .heartbeat .. => .callbackReceipts :: CallbackOperation.workerHeartbeat.writes
  | .worker _ action => action.writes
  | .cleanup .. => .callbackReceipts :: CallbackOperation.reportCleanup.writes
  | .user _ action => action.writes
  | .admin _ action => action.writes
  | .coordinator action => action.writes

/-- Only a cleanup gives resources back, and every entry into the queue takes a ticket of its own. -/
structure Transacts (cleans : Bool) (effects : List (JobId × Cause)) (before after : Tables nexaSchema) : Prop where
  progress : Progress effects before after
  released : ∀ effect ∈ effects, effect.2 = .cleanup -> cleans = true
  increasing : (ticketsOf effects).Pairwise (· < ·)
  bounds : ∀ ticket ∈ ticketsOf effects, versionOf before .global ≤ ticket ∧ ticket < versionOf after .global

theorem Proceeds.transacts {before after : Tables nexaSchema} (proceeds : Proceeds before after)
    (cleans : Bool) : ∃ effects, Transacts cleans effects before after := by
  obtain ⟨effects, issues, progress⟩ := proceeds
  exact ⟨effects, progress, fun effect member cleanup => absurd cleanup (issues.kept effect member),
    issues.increasing, issues.bounds⟩

theorem Progresses.transacts {before after : Tables nexaSchema}
    (progress : Progresses .cleanup before after) : ∃ effects, Transacts true effects before after := by
  obtain ⟨effects, causes, steps⟩ := progress
  have none : ticketsOf effects = [] := by
    rw [ticketsOf, filterMap_eq_nil_iff]
    intro effect member
    rw [causes effect member]
  exact ⟨effects, steps, fun _ _ _ => rfl, by simp [none], by simp [none]⟩

section

variable {settings : Settings} {db after : Db} {call : Call} {workerId : WorkerId} {callback : Callback}
  {answer : Acknowledgment}

theorem callback_frame {opened done : Db} {receipt : CallbackReceipt} {body : Acknowledgment}
    {writes : List Table} (opening : opened.rows = db.rows.append .callbackReceipts receipt)
    (frame : Frame writes opened.rows done.rows)
    (completed : completeCallback done call body = .ok (after, answer)) :
    Frame (.callbackReceipts :: writes) db.rows after.rows := by
  have opens : Frame (.callbackReceipts :: writes) db.rows opened.rows := opening ▸ Frame.append _ _ mem_cons_self
  exact (opens.trans (frame.mono (subset_cons_self _ _))).trans
    ((completeCallback_frame completed).1.mono (by simp))

theorem receipt_quiet {opened : Db} {receipt : CallbackReceipt}
    (opening : opened.rows = db.rows.append .callbackReceipts receipt) : Quiet db.rows opened.rows :=
  .of_frame (opening ▸ Frame.append _ _ (mem_singleton_self _)) (by decide)

theorem completeCallback_quiet {done : Db} {body : Acknowledgment}
    (completed : completeCallback done call body = .ok (after, answer)) : Quiet done.rows after.rows :=
  .of_frame (completeCallback_frame completed).1 (by decide)

theorem Called.spec {operation : CallbackOperation} {authority : Authority}
    (called : Called db call workerId operation callback authority after answer) :
    Frame (.callbackReceipts :: operation.writes) db.rows after.rows ∧
      Proceeds db.rows after.rows := by
  cases called with
  | replayed same _ => exact same ▸ ⟨.refl _ _, Progresses.proceeds (.quiet (.refl _))⟩
  | performed opens _ frame progress completed =>
    exact ⟨callback_frame opens.receipt frame completed,
      progress.proceeds.of_quiet (receipt_quiet opens.receipt) (completeCallback_quiet completed)⟩

theorem Beaten.spec (beaten : Beaten db call workerId callback after answer) :
    Frame (.callbackReceipts :: CallbackOperation.workerHeartbeat.writes) db.rows after.rows ∧
      Proceeds db.rows after.rows := by
  cases beaten with
  | replayed same _ => exact same ▸ ⟨.refl _ _, Progresses.proceeds (.quiet (.refl _))⟩
  | performed _ receipt frame completed =>
    have writes : Quiet _ _ := .of_frame frame (by decide)
    exact ⟨callback_frame receipt frame completed, Progresses.proceeds
      (.quiet (((receipt_quiet receipt).trans writes).trans (completeCallback_quiet completed)))⟩

theorem Cleaned.spec (cleaned : Cleaned db call workerId callback after answer) :
    Frame (.callbackReceipts :: CallbackOperation.reportCleanup.writes) db.rows after.rows ∧
      Progresses .cleanup db.rows after.rows := by
  cases cleaned with
  | replayed same _ => exact same ▸ ⟨.refl _ _, .quiet (.refl _)⟩
  | promoted _ _ frame progress => exact ⟨frame, progress⟩
  | performed _ receipt frame progress completed _ =>
    exact ⟨callback_frame receipt frame completed,
      (progress.of_quiet (receipt_quiet receipt)).to_quiet (completeCallback_quiet completed)⟩

theorem Requested.spec {name : RequestKey} {requestHash : Nat} {response : StoredResponse}
    (requested : Requested db call name requestHash after response) :
    Frame (.idempotencyRecords :: name.operation.writes) db.rows after.rows ∧
      Proceeds db.rows after.rows := by
  cases requested with
  | replayed same _ => exact same ▸ ⟨.refl _ _, Progresses.proceeds (.quiet (.refl _))⟩
  | @performed _ opened done closed _ record frame proceeds completed retained =>
    have opening : Frame [.idempotencyRecords] db.rows opened.rows := record ▸ Frame.append _ _ (mem_singleton_self _)
    have retains : Frame [.idempotencyRecords] closed.rows after.rows := by
      rcases retained with rfl | ⟨jobId, terminalAt, days, rfl⟩
      · exact .refl _ _
      · exact extendRetention_frame jobId terminalAt days
    have closing := (completeIdempotency_frame completed).1.trans retains
    refine ⟨?_, proceeds.of_quiet (.of_frame opening (by decide)) (.of_frame closing (by decide))⟩
    exact ((opening.mono (by simp)).trans (frame.mono (subset_cons_self _ _))).trans
      (closing.mono (by simp))

/-- Every callback of a worker is one `Called` transaction under the authority that it presents. -/
theorem WorkerAction.answer_called {action : WorkerAction} {result : Outcome (Db × Acknowledgment)}
    (answers : action.answer settings db call = some result) (done : result = .ok (after, answer)) :
    ∃ delivered, action.delivered = some delivered ∧ action.writes = .callbackReceipts :: delivered.operation.writes ∧
      delivered.operation ≠ .reportCleanup ∧
      Called db call delivered.workerId delivered.operation delivered.callback action.authority after
        answer := by
  cases action <;> cases answers <;> refine ⟨_, rfl, rfl, by simp, ?_⟩
  case claim => exact claimAttempt_called done
  case start => exact startAttempt_called done
  case renew => exact renewAttempt_called done
  case adopt => exact adoptAttempt_called done
  case reserveResult => exact reserveResult_called done
  case reserveCheckpoint => exact reserveCheckpoint_called done
  case publishCheckpoint => exact publishCheckpoint_called done
  case complete => exact completeAttempt_called done
  case fail => exact failAttempt_called done

theorem WorkerAction.execute_eq (settings : Settings) (db : Db) (call : Call) (action : WorkerAction) :
    (∃ authority marks, action = .markCorrupt authority marks) ∨ (∃ request, action = .bindUpload request) ∨
      ∃ result, action.answer settings db call = some result ∧
        action.execute settings db call = Prod.fst <$> result := by
  cases action with
  | markCorrupt authority marks => exact .inl ⟨authority, marks, rfl⟩
  | bindUpload request => exact .inr (.inl ⟨request, rfl⟩)
  | _ => exact .inr (.inr ⟨_, rfl, rfl⟩)

theorem WorkerAction.execute_spec {action : WorkerAction} (done : action.execute settings db call = .ok after) :
    Frame action.writes db.rows after.rows ∧ Proceeds db.rows after.rows := by
  rcases action.execute_eq settings db call with
    ⟨authority, marks, rfl⟩ | ⟨request, rfl⟩ | ⟨result, answers, executes⟩
  · obtain ⟨_, _, _, moves, frame⟩ := markCorrupt_bound done
    exact ⟨frame, moves.progress.proceeds⟩
  · obtain ⟨_, _, _, frame⟩ := bindUpload_bound done
    exact ⟨frame, Progresses.proceeds (.quiet (.of_frame frame (by decide)))⟩
  · obtain ⟨answer, committed⟩ := fst_eq_ok.1 (executes.symm.trans done)
    obtain ⟨delivered, _, writes, _, called⟩ := WorkerAction.answer_called answers committed
    exact writes ▸ called.spec

theorem UserAction.execute_asked {action : UserAction} (done : action.execute settings db call = .ok after) :
    ∃ answer, Requested db call action.asked.name action.asked.requestHash after answer := by
  cases action <;> refine (fst_eq_ok.1 done).imp fun _ => ?_
  case submit | submitChild => exact submitUseCase_requested
  case retry => exact retryFailedJob_requested
  case cancel => exact cancelJob_requested
  case pause => exact pauseJob_requested
  case resume => exact resumeJob_requested

theorem UserAction.writes_asked (action : UserAction) :
    action.writes = .idempotencyRecords :: action.asked.name.operation.writes := by
  cases action <;> rfl

theorem UserAction.execute_spec {action : UserAction} (done : action.execute settings db call = .ok after) :
    Frame action.writes db.rows after.rows ∧ Proceeds db.rows after.rows := by
  obtain ⟨answer, requested⟩ := UserAction.execute_asked done
  exact action.writes_asked ▸ requested.spec

theorem AdminAction.execute_asked {action : AdminAction} (tracked : Tracked db.rows)
    (done : action.execute settings db call = .ok after) :
    ∃ answer, Requested db call action.asked.name action.asked.requestHash after answer := by
  cases action <;> refine (fst_eq_ok.1 done).imp fun _ => ?_
  case createTenant => exact createTenant_requested
  case updateTenantPolicy => exact updateTenantPolicy_requested
  case updateGlobalPolicy => exact updateGlobalPolicy_requested
  case drainWorker => exact drainWorker_requested tracked
  case disableWorker => exact disableWorker_requested tracked
  case enableWorker => exact enableWorker_requested tracked

theorem AdminAction.writes_asked (action : AdminAction) :
    action.writes = .idempotencyRecords :: action.asked.name.operation.writes := by
  cases action <;> rfl

theorem AdminAction.execute_spec {action : AdminAction} (tracked : Tracked db.rows)
    (done : action.execute settings db call = .ok after) :
    Frame action.writes db.rows after.rows ∧ Proceeds db.rows after.rows := by
  obtain ⟨answer, requested⟩ := AdminAction.execute_asked tracked done
  exact action.writes_asked ▸ requested.spec

theorem CoordinatorAction.execute_spec {action : CoordinatorAction} (done : action.execute settings db = .ok after) :
    Frame action.writes db.rows after.rows ∧ Proceeds db.rows after.rows := by
  cases action with
  | reap leader now leaseId =>
    obtain ⟨frame, progress⟩ := reapLease_progress done
    exact ⟨frame, progress.proceeds⟩
  | promote leader now runsOn => exact promoteRetries_proceeds done
  | trackQuota now unlocked marking clearing =>
    obtain ⟨frame, progress⟩ := trackArtifactQuota_progress done
    exact ⟨frame, progress.proceeds⟩
  | snapshot request =>
    obtain ⟨snapshot, committed⟩ := fst_eq_ok.1 done
    obtain ⟨frame, progress⟩ := snapshotOperation_progress committed
    exact ⟨frame, progress.proceeds⟩
  | commit call request =>
    obtain ⟨frame, progress⟩ := commitOperation_progress done
    exact ⟨frame, progress.proceeds⟩
  | account now boundary =>
    have frame := account_frame done
    exact ⟨frame, Progresses.proceeds (.quiet (fairness_quiet frame))⟩
  | sweepHealth now =>
    have frame := sweepHealth_frame done
    exact ⟨frame, Progresses.proceeds (.quiet (.of_frame frame (by decide)))⟩

theorem Action.execute_spec {action : Action} (tracked : Tracked db.rows)
    (done : action.execute settings db = .ok after) :
    Frame action.writes db.rows after.rows ∧
      ∃ effects, Transacts action.isCleanup effects db.rows after.rows := by
  cases action with
  | enrolWorker =>
    have frame := enrolWorker_frame done
    exact ⟨frame, (Progresses.proceeds (.quiet (.of_frame frame (by decide)))).transacts _⟩
  | createIncarnation call request =>
    obtain ⟨response, committed⟩ := fst_eq_ok.1 done
    obtain ⟨frame, proceeds⟩ := (createIncarnation_requested committed).spec
    exact ⟨frame, proceeds.transacts _⟩
  | heartbeat call workerId callback request =>
    obtain ⟨answer, committed⟩ := fst_eq_ok.1 done
    obtain ⟨frame, proceeds⟩ := (heartbeat_beaten committed).spec
    exact ⟨frame, proceeds.transacts _⟩
  | worker call action =>
    obtain ⟨frame, proceeds⟩ := WorkerAction.execute_spec done
    exact ⟨frame, proceeds.transacts _⟩
  | cleanup call workerId attemptId callback request =>
    obtain ⟨answer, committed⟩ := fst_eq_ok.1 done
    obtain ⟨frame, progress⟩ := (reportCleanup_cleaned committed).spec
    exact ⟨frame, progress.transacts⟩
  | user call action =>
    obtain ⟨frame, proceeds⟩ := UserAction.execute_spec done
    exact ⟨frame, proceeds.transacts _⟩
  | admin call action =>
    obtain ⟨frame, proceeds⟩ := AdminAction.execute_spec tracked done
    exact ⟨frame, proceeds.transacts _⟩
  | coordinator action =>
    obtain ⟨frame, proceeds⟩ := CoordinatorAction.execute_spec done
    exact ⟨frame, proceeds.transacts _⟩

end

end Nexa
