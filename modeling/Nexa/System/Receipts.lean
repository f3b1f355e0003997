import Nexa.Shared.Delivery
import Nexa.System.Reachable

namespace Nexa

open Relational Outcome Transition List

structure CallbackKey where
  workerId : WorkerId
  operation : CallbackOperation
  callbackId : CallbackId
deriving DecidableEq

def Delivered.key (delivered : Delivered) : CallbackKey :=
  ⟨delivered.workerId, delivered.operation, delivered.callback.callbackId⟩

def CallbackReceipt.key (receipt : CallbackReceipt) : CallbackKey :=
  ⟨receipt.workerId, receipt.operation, receipt.callbackId⟩

def Action.delivered : Action -> Option Delivered
  | .heartbeat _ workerId callback _ => some ⟨workerId, .workerHeartbeat, callback⟩
  | .cleanup _ workerId _ callback _ => some ⟨workerId, .reportCleanup, callback⟩
  | .worker _ action => action.delivered
  | _ => none

section

variable (settings : Settings) (db : Db)

def Action.answer : Action -> Option (Outcome (Db × Acknowledgment))
  | .heartbeat call workerId callback request =>
    some (Nexa.heartbeat settings db call workerId callback request)
  | .cleanup call workerId attemptId callback request =>
    some (reportCleanup settings db call workerId attemptId callback request)
  | .worker call action => action.answer settings db call
  | _ => none

end

def Settled (db : Db) : Prop :=
  ∀ receipt ∈ db.rows .callbackReceipts, ∃ answer, receipt.acknowledgment = some answer ∧
    (receipt.operation = .reportCleanup -> answer.isVerified = true)

def answeredReceipt (call : Call) (delivered : Delivered) (answer : Acknowledgment) : CallbackReceipt :=
  { pendingReceipt call delivered.workerId delivered.operation delivered.callback with
    acknowledgment := some answer }

inductive Receives (db : Db) (delivered : Delivered) (after : Db) (answer : Acknowledgment) : Prop where
  | replayed (same : after = db)
      (answered : Answered db delivered.workerId delivered.operation delivered.callback answer)
  | performed {call : Call}
      (fresh : ∀ receipt ∈ db.rows .callbackReceipts, receipt.key ≠ delivered.key)
      (receipts : after.rows .callbackReceipts = db.rows .callbackReceipts ++ [answeredReceipt call delivered answer])
      (verified : delivered.operation = .reportCleanup -> answer.isVerified = true)

variable {action : Action} {workerId : WorkerId} {callback : Callback}

section

variable {settings : Settings} {db after : Db} {call : Call} {delivered : Delivered}
  {answer : Acknowledgment}

theorem fresh_key (fresh : db.Insertable .callbackReceipts
      (pendingReceipt call delivered.workerId delivered.operation delivered.callback)) :
    ∀ receipt ∈ db.rows .callbackReceipts, receipt.key ≠ delivered.key := by
  intro receipt member same
  simp only [CallbackReceipt.key, Delivered.key, CallbackKey.mk.injEq] at same
  refine fresh.1 receipt member
    ⟨"uq_callback_scope", [receipt.workerId, receipt.operation.code, receipt.callbackId]⟩ ?_ ?_
  · simp [keysOf]
  · simp [keysOf, pendingReceipt, same]

theorem Settled.completed (settled : Settled db) {opened done : Db} {body : Acknowledgment}
    (receipt : opened.rows = db.rows.append .callbackReceipts
      (pendingReceipt call delivered.workerId delivered.operation delivered.callback))
    (frame : done.rows .callbackReceipts = opened.rows .callbackReceipts)
    (completed : completeCallback done call body = .ok (after, answer)) :
    after.rows .callbackReceipts =
      db.rows .callbackReceipts ++ [answeredReceipt call delivered answer] := by
  simp only [completeCallback, bind_eq_ok, require_eq_ok, pure_eq_ok, Prod.mk.injEq, exists_const] at completed
  obtain ⟨_, rfl, rfl⟩ := completed
  rw [Database.rows_update, Tables.update_same, frame, receipt, Tables.append_same, updateWhere, map_append]
  congr 1
  · rw [map_congr_left, map_id]
    intro other member
    obtain ⟨_, filled, _⟩ := settled other member
    simp [filled]
  · simp [pendingReceipt, answeredReceipt, acknowledgePatch]

theorem receipts_unwritten (operation : CallbackOperation) : .callbackReceipts ∉ operation.writes := by
  cases operation <;> decide

theorem Called.receives {operation : CallbackOperation} {authority : Authority} (settled : Settled db)
    (called : Called db call workerId operation callback authority after answer)
    (other : operation ≠ .reportCleanup) : Receives db ⟨workerId, operation, callback⟩ after answer := by
  cases called with
  | replayed same answered => exact .replayed same answered
  | performed opens _ frame _ completed =>
    exact .performed (fresh_key opens.fresh)
      (settled.completed opens.receipt (frame _ (receipts_unwritten operation)) completed)
      fun same => absurd same other

theorem Beaten.receives (settled : Settled db) (beaten : Beaten db call workerId callback after answer) :
    Receives db ⟨workerId, .workerHeartbeat, callback⟩ after answer := by
  cases beaten with
  | replayed same answered => exact .replayed same answered
  | performed fresh receipt frame completed =>
    exact .performed (fresh_key fresh)
      (settled.completed receipt (frame _ (by decide)) completed) (by simp)

theorem Cleaned.receives (tracked : Tracked db.rows)
    (settled : Settled db) (cleaned : Cleaned db call workerId callback after answer) :
    Receives db ⟨workerId, .reportCleanup, callback⟩ after answer := by
  cases cleaned with
  | replayed same answered => exact .replayed same answered
  | promoted unverified answered _ _ =>
    obtain ⟨receipt, member, _, operation, _, _, filled⟩ := answered
    obtain ⟨stored, same, verified⟩ := settled receipt member
    rw [filled, Option.some.injEq] at same
    rw [← same, unverified] at verified
    simp [operation] at verified
  | @performed opened _ fresh receipt frame _ completed verified =>
    refine .performed (fresh_key fresh)
      (settled.completed receipt (frame _ (by decide)) completed) fun _ => ?_
    rcases verified with verified | unclassified
    · exact verified
    · obtain ⟨job, member, unfit⟩ := unclassified.unfit
      have kept : Tracked opened.rows := tracked.of_quiet (receipt_quiet receipt)
      obtain ⟨v, represents, fits⟩ := kept job member
      exact absurd fits (unfit v represents)

theorem WorkerAction.answer_receives {action : WorkerAction} {result : Outcome (Db × Acknowledgment)}
    (settled : Settled db) (answers : action.answer settings db call = some result)
    (done : result = .ok (after, answer)) :
    ∃ delivered, action.delivered = some delivered ∧ Receives db delivered after answer := by
  obtain ⟨delivered, is, _, other, called⟩ := WorkerAction.answer_called answers done
  exact ⟨delivered, is, called.receives settled other⟩

theorem Action.answer_receives {result : Outcome (Db × Acknowledgment)}
    (tracked : Tracked db.rows) (settled : Settled db) (answers : action.answer settings db = some result)
    (done : result = .ok (after, answer)) :
    ∃ delivered, action.delivered = some delivered ∧ Receives db delivered after answer := by
  cases action with
  | heartbeat call workerId callback request =>
    simp only [Action.answer, Option.some.injEq] at answers
    exact ⟨_, rfl, (heartbeat_beaten (answers.trans done)).receives settled⟩
  | cleanup call workerId attemptId callback request =>
    simp only [Action.answer, Option.some.injEq] at answers
    exact ⟨_, rfl, (reportCleanup_cleaned (answers.trans done)).receives tracked settled⟩
  | worker call action => exact WorkerAction.answer_receives settled answers done
  | _ => simp [Action.answer] at answers

theorem Action.execute_answer (settings : Settings) (db : Db) (action : Action) :
    (action.delivered = none ∧ action.answer settings db = none ∧ .callbackReceipts ∉ action.writes) ∨
      ∃ delivered result, action.delivered = some delivered ∧ action.answer settings db = some result ∧
        action.execute settings db = Prod.fst <$> result := by
  cases action with
  | heartbeat | cleanup => exact .inr ⟨_, _, rfl, rfl, rfl⟩
  | worker call action =>
    cases action with
    | markCorrupt | bindUpload => exact .inl ⟨rfl, rfl, of_decide_eq_true rfl⟩
    | _ => exact .inr ⟨_, _, rfl, rfl, rfl⟩
  | user call action => exact .inl ⟨rfl, rfl, by cases action <;> exact of_decide_eq_true rfl⟩
  | admin call action => exact .inl ⟨rfl, rfl, by cases action <;> exact of_decide_eq_true rfl⟩
  | coordinator action => exact .inl ⟨rfl, rfl, by cases action <;> exact of_decide_eq_true rfl⟩
  | _ => exact .inl ⟨rfl, rfl, of_decide_eq_true rfl⟩

theorem Action.execute_receipts (tracked : Tracked db.rows) (settled : Settled db)
    (done : action.execute settings db = .ok after) :
    (action.delivered = none ∧ after.rows .callbackReceipts = db.rows .callbackReceipts) ∨
      ∃ delivered answer, action.delivered = some delivered ∧ Receives db delivered after answer := by
  rcases action.execute_answer settings db with ⟨other, _, outside⟩ | ⟨_, result, _, answers, executes⟩
  · exact .inl ⟨other, (Action.execute_spec tracked done).1 _ outside⟩
  · rw [executes] at done
    obtain ⟨answer, done⟩ := fst_eq_ok.1 done
    obtain ⟨delivered, is, receives⟩ := Action.answer_receives tracked settled answers done
    exact .inr ⟨delivered, answer, is, receives⟩

theorem Settled.execute (tracked : Tracked db.rows) (settled : Settled db)
    (done : action.execute settings db = .ok after) : Settled after := by
  intro receipt member
  rcases Action.execute_receipts tracked settled done with ⟨_, same⟩ | ⟨delivered, answer, _, receives⟩
  · exact settled receipt (same ▸ member)
  · cases receives with
    | replayed same _ => exact settled receipt (same ▸ member)
    | performed _ receipts verified =>
      rw [receipts, mem_append, mem_singleton] at member
      rcases member with old | rfl
      · exact settled receipt old
      · exact ⟨answer, rfl, verified⟩

structure Reliable (db : Db) : Prop where
  sound : Sound db
  settled : Settled db

theorem Reliable.execute (reliable : Reliable db)
    (done : action.execute settings db = .ok after) : Reliable after := by
  have step : (controlPlane settings).step db action after := by
    change after = committed db (action.execute settings db)
    rw [done]
    rfl
  exact ⟨reliable.sound.step step, reliable.settled.execute reliable.sound.tracked done⟩

theorem reachable_reliable (reachable : (controlPlane settings).Reachable db) : Reliable db := by
  refine reachable.invariant (fun db installed => ?_) fun db action after reliable step => ?_
  · refine ⟨installed.sound, fun receipt member => ?_⟩
    rw [installed.2 .callbackReceipts (by decide) (by decide)] at member
    simp at member
  · change after = committed db (action.execute settings db) at step
    cases done : action.execute settings db with
    | ok next =>
      rw [done] at step
      exact step ▸ reliable.execute done
    | error failure =>
      rw [done] at step
      exact step ▸ reliable

def callbacks (settings : Settings) : Delivery.Protocol Db Action CallbackKey Failure where
  execute db action := action.execute settings db
  key action := action.delivered.map Delivered.key
  recorded db key := (db.rows .callbackReceipts).any fun receipt => receipt.key = key

theorem Answered.recorded
    (answered : Answered db delivered.workerId delivered.operation delivered.callback answer) :
    (callbacks settings).recorded db delivered.key = true := by
  obtain ⟨receipt, member, worker, operation, callback, _⟩ := answered
  simp only [callbacks, any_eq_true, decide_eq_true_eq]
  exact ⟨receipt, member, by rw [CallbackReceipt.key, worker, operation, callback, Delivered.key]⟩

theorem Receives.records (settings : Settings) (receives : Receives db delivered after answer) (key : CallbackKey) :
    (callbacks settings).recorded after key = true <->
      (callbacks settings).recorded db key = true ∨ delivered.key = key := by
  cases receives with
  | replayed same answered =>
    subst same
    refine ⟨.inl, fun recorded => ?_⟩
    rcases recorded with recorded | rfl
    · exact recorded
    · exact answered.recorded
  | @performed call _ receipts _ =>
    have own : (answeredReceipt call delivered answer).key = delivered.key := rfl
    simp [callbacks, receipts, own]

theorem Receives.replay (settings : Settings) (receives : Receives db delivered after answer)
    (recorded : (callbacks settings).recorded db delivered.key = true) : after = db := by
  cases receives with
  | replayed same _ => exact same
  | performed fresh _ _ =>
    simp only [callbacks, any_eq_true, decide_eq_true_eq] at recorded
    obtain ⟨receipt, member, same⟩ := recorded
    exact absurd same (fresh receipt member)

theorem callbacks_lawful (settings : Settings) : (callbacks settings).Lawful Reliable := by
  refine ⟨fun reliable done => reliable.execute done, ?_, ?_⟩
  · intro db after action reliable done repeated
    rcases Action.execute_receipts reliable.sound.tracked reliable.settled done with
      ⟨other, _⟩ | ⟨delivered, answer, is, receives⟩
    · simp [Delivery.Protocol.repeats, callbacks, other] at repeated
    · refine receives.replay settings ?_
      simpa [Delivery.Protocol.repeats, callbacks, is] using repeated
  · intro db after action key reliable done
    rcases Action.execute_receipts reliable.sound.tracked reliable.settled done with
      ⟨other, same⟩ | ⟨delivered, answer, is, receives⟩
    · simp [callbacks, other, same]
    · rw [receives.records]
      simp [callbacks, is]

end

end Nexa
