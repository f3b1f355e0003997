import Nexa.System.Receipts

namespace Nexa

open Relational Outcome Transition List

def callbackConflict : Failure :=
  .application
    { code := .idempotencyConflict, status := 409
      message := "Callback ID was already used with a different request" }

section

variable (db : Db)

def openingOf (authority : Authority) (attemptId : AttemptId) : Outcome Unit := do
  require (authority.attemptId = attemptId) (stateConflict "Attempt identity mismatch")
  let _ ← operationalMode db
  return ()

def currentWorker (call : Call) (workerId : WorkerId) (incarnationId : IncarnationId) : Outcome Unit := do
  let worker ← workerAuth db call workerId
  let _ ← requireCurrentIncarnation db worker incarnationId false
  return ()

def WorkerAction.opening : WorkerAction -> Outcome Unit
  | .claim attemptId _ request => openingOf db request.authority attemptId
  | .start attemptId _ request => openingOf db request.authority attemptId
  | .reserveResult attemptId _ authority => openingOf db authority attemptId
  | .reserveCheckpoint attemptId _ authority => openingOf db authority attemptId
  | .publishCheckpoint attemptId _ request => openingOf db request.authority attemptId
  | .complete attemptId _ request => do
    let _ ← lockPolicyCounters db attemptId
    openingOf db request.authority attemptId
  | _ => do
    let _ ← operationalMode db
    return ()

def Action.opening : Action -> Outcome Unit
  | .worker _ action => action.opening db
  | _ => do
    let _ ← operationalMode db
    return ()

def WorkerAction.recheck (call : Call) : WorkerAction -> Outcome Unit
  | .claim _ _ request => currentWorker db call request.authority.workerId request.authority.workerIncarnationId
  | .start _ _ request => currentWorker db call request.authority.workerId request.authority.workerIncarnationId
  | .renew workerId attemptId _ request => do
    let _ ← operationalMode db
    let worker ← workerAuth db call workerId
    let authority := request.authority
    require
      (authority.attemptId = attemptId ∧ worker.currentIncarnationId = some authority.workerIncarnationId)
      (staleAuthority "Authority is stale")
    let _ ← requireCurrentIncarnation db worker authority.workerIncarnationId false
    return ()
  | .adopt workerId attemptId _ request => do
    let _ ← operationalMode db
    let worker ← workerAuth db call workerId
    let incarnation ← requireCurrentIncarnation db worker request.currentWorkerIncarnationId true
    let prior := request.priorAuthority
    require (prior.attemptId = attemptId ∧ prior.workerId = workerId) (stateConflict "Authority mismatch")
    let found ← oneOrNone (db.select .workerIncarnations fun row =>
      row.workerIncarnationId = prior.workerIncarnationId ∧ row.workerId = workerId)
    let predecessor ← orFail (stateConflict "Not the prior incarnation") found
    require (predecessor.endedAt ≠ none ∧ predecessor.sequence + 1 = incarnation.sequence)
      (stateConflict "Not the prior incarnation")
  | .reserveResult _ _ authority => currentWorker db call authority.workerId authority.workerIncarnationId
  | .reserveCheckpoint _ _ authority => currentWorker db call authority.workerId authority.workerIncarnationId
  | .publishCheckpoint _ _ request =>
    currentWorker db call request.authority.workerId request.authority.workerIncarnationId
  | .complete _ _ request =>
    currentWorker db call request.authority.workerId request.authority.workerIncarnationId
  | .fail workerId attemptId _ request => do
    let _ ← lockPolicyCounters db attemptId
    currentWorker db call workerId request.authority.workerIncarnationId
    require (request.authority.attemptId = attemptId ∧ request.authority.workerId = workerId)
      cleanupConflict
  | .markCorrupt .. | .bindUpload .. => .ok ()

def Action.recheck : Action -> Outcome Unit
  | .heartbeat call workerId _ request => do
    let _ ← operationalMode db
    currentWorker db call workerId request.workerIncarnationId
  | .worker call action => action.recheck db call
  | .cleanup call workerId attemptId _ request => do
    let _ ← lockPolicyCounters db attemptId
    let _ ← workerAuth db call workerId
    let (_, attempt, _, _) ← cleanupRows db workerId attemptId request
    let container ← containerOf db attemptId
    require (proofValid attempt container request.proof = true) cleanupConflict
  | _ => .ok ()

end

section

variable {settings : Settings} {db : Db} {call : Call} {delivered : Delivered} {receipt : CallbackReceipt}
  {answer : Acknowledgment}

theorem receipt_unique (db : Db) {other : CallbackReceipt} (member : receipt ∈ db.rows .callbackReceipts)
    (otherMember : other ∈ db.rows .callbackReceipts) (same : receipt.key = other.key) : receipt = other := by
  simp only [CallbackReceipt.key, CallbackKey.mk.injEq] at same
  exact db.eq_of_key
    ⟨"uq_callback_scope", [receipt.workerId, receipt.operation.code, receipt.callbackId]⟩ member otherMember
    (by simp [keysOf]) (by simp [keysOf, same])

theorem beginCallback_found (member : receipt ∈ db.rows .callbackReceipts)
    (named : receipt.key = delivered.key) (filled : receipt.acknowledgment = some answer) :
    beginCallback db call delivered.workerId delivered.operation delivered.callback = (do
      let _ ← operationalMode db
      require (receipt.payloadHash = delivered.callback.payloadHash) callbackConflict
      return (db, some answer)) := by
  have refused : db.insert .callbackReceipts
      (pendingReceipt call delivered.workerId delivered.operation delivered.callback) = none := by
    rw [Option.eq_none_iff_forall_ne_some]
    intro after inserted
    exact fresh_key (Database.insert_eq_some.1 inserted).1 receipt member named
  have listed : db.select .callbackReceipts (fun row =>
      row.workerId = delivered.workerId ∧ row.operation = delivered.operation ∧
        row.callbackId = delivered.callback.callbackId) = [receipt] := by
    have names := named
    simp only [CallbackReceipt.key, Delivered.key, CallbackKey.mk.injEq] at names
    refine db.select_eq_singleton (by simp [keysOf]) member (by simpa using names) ?_
    intro other inside selected
    refine receipt_unique db inside member ?_
    simp only [decide_eq_true_eq] at selected
    rw [named, CallbackReceipt.key, Delivered.key, selected.1, selected.2.1, selected.2.2]
  unfold pendingReceipt at refused
  have first : ∀ next : CallbackReceipt -> Outcome (Db × Option Acknowledgment),
      (Except.ok receipt >>= next) = next receipt := fun _ => rfl
  simp only [beginCallback, refused, listed, one, first, filled, orFail]
  rfl

theorem WorkerAction.answer_found {action : WorkerAction} (is : action.delivered = some delivered)
    (member : receipt ∈ db.rows .callbackReceipts) (named : receipt.key = delivered.key)
    (filled : receipt.acknowledgment = some answer) :
    action.answer settings db call = some (do
      action.opening db
      require (receipt.payloadHash = delivered.callback.payloadHash) callbackConflict
      action.recheck db call
      return (db, answer)) := by
  -- Each callback begins with its receipt, and what it does after that is `recheck` followed by its own work.
  cases action <;> cases is <;>
    simp only [WorkerAction.answer, claimAttempt, startAttempt, renewAttempt, adoptAttempt, Nexa.reserveResult,
      Nexa.reserveCheckpoint, Nexa.publishCheckpoint, completeAttempt, failAttempt, callbackRows,
      beginCallback_found member named filled, WorkerAction.opening, openingOf, WorkerAction.recheck, currentWorker,
      bind_assoc, pure_bind]

theorem Action.answer_found {action : Action} (is : action.delivered = some delivered)
    (member : receipt ∈ db.rows .callbackReceipts) (named : receipt.key = delivered.key)
    (filled : receipt.acknowledgment = some answer)
    (verified : delivered.operation = .reportCleanup -> answer.isVerified = true) :
    action.answer settings db = some (do
      action.opening db
      require (receipt.payloadHash = delivered.callback.payloadHash) callbackConflict
      action.recheck db
      return (db, answer)) := by
  cases action with
  | heartbeat call workerId callback request =>
    cases is
    simp only [Action.answer, Nexa.heartbeat, beginCallback_found member named filled,
      Action.opening, Action.recheck, currentWorker, bind_assoc, pure_bind]
  | cleanup call workerId attemptId callback request =>
    cases is
    simp only [Action.answer, reportCleanup, beginCallback_found member named filled, Action.opening,
      Action.recheck, bind_assoc, pure_bind, Option.filter, verified rfl, if_true]
  | worker call action => exact WorkerAction.answer_found is member named filled
  | _ => simp [Action.delivered] at is

theorem Reliable.receipts_kept {action : Action} {after : Db} (reliable : Reliable db)
    (done : action.execute settings db = .ok after) :
    db.rows .callbackReceipts <+: after.rows .callbackReceipts := by
  rcases Action.execute_receipts reliable.sound.tracked reliable.settled done with
    ⟨_, same⟩ | ⟨_, _, _, receives⟩
  · exact same ▸ prefix_refl _
  · cases receives with
    | replayed same _ => exact same ▸ prefix_refl _
    | performed _ receipts _ => exact receipts ▸ prefix_append _ _

theorem Reliable.receipts_run {tries : List (Delivery.Try Action)} (reliable : Reliable db) :
    db.rows .callbackReceipts <+: ((callbacks settings).run db tries).rows .callbackReceipts := by
  induction tries generalizing db with
  | nil => exact prefix_refl _
  | cons attempt rest ih =>
    change _ <+: ((callbacks settings).run ((callbacks settings).commit db attempt) rest).rows _
    rcases (callbacks_lawful settings).try_cases reliable attempt rest with
      ⟨same, _⟩ | ⟨next, executed, done, _, _⟩
    · rw [same]
      exact ih reliable
    · rw [done]
      exact (reliable.receipts_kept executed).trans (ih (reliable.execute executed))

theorem Receives.stored {after : Db} (receives : Receives db delivered after answer) :
    ∃ receipt ∈ after.rows .callbackReceipts, receipt.key = delivered.key ∧
      receipt.payloadHash = delivered.callback.payloadHash ∧ receipt.acknowledgment = some answer := by
  cases receives with
  | replayed same answered =>
    obtain ⟨receipt, member, worker, operation, callback, hash, filled⟩ := answered
    refine ⟨receipt, same ▸ member, ?_, hash, filled⟩
    rw [CallbackReceipt.key, worker, operation, callback, Delivered.key]
  | @performed call _ receipts _ =>
    exact ⟨answeredReceipt call delivered answer, by simp [receipts], rfl, rfl, rfl⟩

/-- The store is that of the first commits in their order, and a committed callback answers from its receipt. -/
theorem callbacks_exactlyOnce (reachable : (controlPlane settings).Reachable db)
    (tries : List (Delivery.Try Action)) :
    ((callbacks settings).firsts db tries).foldlM (callbacks settings).execute db =
        .ok ((callbacks settings).run db tries) ∧
      (((callbacks settings).firsts db tries).filterMap (callbacks settings).key).Nodup ∧
      (∀ key, (callbacks settings).recorded ((callbacks settings).run db tries) key = true <->
        (callbacks settings).recorded db key = true ∨
          key ∈ ((callbacks settings).firsts db tries).filterMap (callbacks settings).key) ∧
      (∀ (action : Action) (after : Db) (answer : Acknowledgment),
        action.answer settings db = some (.ok (after, answer)) ->
        ∃ delivered receipt, action.delivered = some delivered ∧
          receipt ∈ ((callbacks settings).run after tries).rows .callbackReceipts ∧
          receipt.key = delivered.key ∧ receipt.payloadHash = delivered.callback.payloadHash ∧
          receipt.acknowledgment = some answer) ∧
      ∀ (action : Action) (delivered : Delivered) (receipt : CallbackReceipt),
        action.delivered = some delivered -> receipt.key = delivered.key ->
        receipt ∈ ((callbacks settings).run db tries).rows .callbackReceipts ->
        ∃ answer, receipt.acknowledgment = some answer ∧
          (delivered.operation = .reportCleanup -> answer.isVerified = true) ∧
          (receipt.payloadHash = delivered.callback.payloadHash ->
            action.answer settings ((callbacks settings).run db tries) = some (do
              action.opening ((callbacks settings).run db tries)
              action.recheck ((callbacks settings).run db tries)
              return ((callbacks settings).run db tries, answer))) ∧
          (receipt.payloadHash ≠ delivered.callback.payloadHash ->
            action.answer settings ((callbacks settings).run db tries) = some (do
              action.opening ((callbacks settings).run db tries)
              .error callbackConflict)) := by
  have reliable := reachable_reliable reachable
  have lawful := callbacks_lawful settings
  refine ⟨lawful.run_eq reliable, (lawful.firsts_nodup reliable).1, lawful.recorded_run reliable, ?_, ?_⟩
  · intro action after answer answers
    obtain ⟨delivered, is, receives⟩ := Action.answer_receives reliable.sound.tracked reliable.settled answers rfl
    obtain ⟨receipt, member, stored⟩ := receives.stored
    have executed : action.execute settings db = .ok after := by
      rcases action.execute_answer settings db with ⟨_, none, _⟩ | ⟨_, result, _, some, executes⟩
      · simp [none] at answers
      · rw [executes, Option.some_inj.1 (some.symm.trans answers)]
        rfl
    exact ⟨delivered, receipt, is, (reliable.execute executed).receipts_run.subset member, stored⟩
  · intro action delivered receipt is named member
    have ends : Reliable ((callbacks settings).run db tries) := lawful.run reliable
    obtain ⟨answer, filled, verified⟩ := ends.settled receipt member
    have operation : receipt.operation = delivered.operation := congrArg CallbackKey.operation named
    rw [operation] at verified
    have found : action.answer settings ((callbacks settings).run db tries) = some _ :=
      Action.answer_found is member named filled verified
    refine ⟨answer, filled, verified, fun same => ?_, fun different => ?_⟩
    · rw [found]
      simp only [require, same, if_true]
      rfl
    · rw [found]
      simp only [require, different, if_false]
      rfl

end

theorem callbacks_exactlyOnce_session :
    let db := perform localSettings installation runningSession
    let tries := [⟨sessionReserve, true⟩, ⟨sessionReserve, false⟩, ⟨sessionReserve, false⟩,
      ⟨sessionComplete, false⟩, ⟨sessionReserve, false⟩]
    ((callbacks localSettings).firsts db tries).length = 2 ∧
      ((callbacks localSettings).firsts db tries).foldlM (callbacks localSettings).execute db =
        .ok ((callbacks localSettings).run db tries) :=
  ⟨by decide +kernel, (callbacks_exactlyOnce (perform_reachable localSettings runningSession) _).1⟩

/-- A heartbeat is delivered again after the worker restarted, and a claim with another payload under
another attempt. -/
theorem redelivery_refused :
    let restarted := perform localSettings installation
      [.enrolWorker, sessionIncarnation 1100 200, sessionHeartbeat, sessionIncarnation 1250 250]
    let running := perform localSettings installation runningSession
    let other := Action.worker (callAt 1650 750) (.claim 900 { callbackId := 2, payloadHash := 9 }
      { authority := sessionAuthority, scan := none, inputsCommitted := true, restoreCommitted := true
        chunksCommitted := true })
    (∃ receipt ∈ restarted.rows .callbackReceipts, receipt.key = ⟨1, .workerHeartbeat, 1⟩ ∧ receipt.payloadHash = 1) ∧
      (sessionHeartbeat.answer localSettings restarted).bind failureOf =
        some (staleAuthority "Worker incarnation is stale") ∧
      (∃ receipt ∈ running.rows .callbackReceipts, receipt.key = ⟨1, .claimAttempt, 2⟩ ∧ receipt.payloadHash = 2) ∧
      (other.answer localSettings running).bind failureOf =
        some (stateConflict "Attempt identity mismatch") := by
  decide +kernel

end Nexa
