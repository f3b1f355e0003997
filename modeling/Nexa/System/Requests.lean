import Nexa.System.Histories
import Nexa.System.Receipts

namespace Nexa

open Relational Outcome Transition

def Action.asked : Action -> Option Asked
  | .createIncarnation _ request => some ⟨request.requestKey, request.requestHash⟩
  | .user _ action => some action.asked
  | .admin _ action => some action.asked
  | _ => none

section

variable {settings : Settings} {db after : Db} {call : Call} {asked : Asked}

theorem Action.execute_asked {action : Action} (tracked : Tracked db.rows) (is : action.asked = some asked)
    (done : action.execute settings db = .ok after) :
    ∃ call answer, Requested db call asked.name asked.requestHash after answer := by
  cases action with
  | createIncarnation call request =>
    obtain ⟨response, committed⟩ := fst_eq_ok.1 done
    obtain rfl := Option.some.inj is
    exact ⟨call, response, createIncarnation_requested committed⟩
  | user call action =>
    obtain rfl := Option.some.inj is
    exact ⟨call, UserAction.execute_asked done⟩
  | admin call action =>
    obtain rfl := Option.some.inj is
    exact ⟨call, AdminAction.execute_asked tracked done⟩
  | _ => simp [Action.asked] at is

theorem fresh_request {name : RequestKey} {requestHash : Nat} {expiresAt : Time}
    (fresh : db.Insertable .idempotencyRecords (pendingRecord call name requestHash expiresAt)) :
    ∀ record ∈ db.rows .idempotencyRecords, record.requestKey ≠ name := by
  rintro record member rfl
  refine fresh.1 record member ⟨"uq_idempotency_scope", record.context.columns ++
    [record.principalId, record.operation.code, record.key]⟩ ?_ ?_
  · simp [keysOf]
  · simp [keysOf, pendingRecord, IdempotencyRecord.requestKey]

theorem Requested.replay {name : RequestKey} {requestHash : Nat} {answer : StoredResponse}
    (requested : Requested db call name requestHash after answer) {record : IdempotencyRecord}
    (member : record ∈ db.rows .idempotencyRecords) (named : record.requestKey = name) :
    after = db ∧ Stored db name requestHash answer := by
  cases requested with
  | replayed same stored => exact ⟨same, stored⟩
  | performed fresh _ _ _ _ _ => exact absurd named (fresh_request fresh record member)

end

section

variable {settings : Settings} {db after : Db} {action : Action} {job later : Job}

def Replays (settings : Settings) (db : Db) (action : Action) : Prop :=
  (∃ delivered, action.delivered = some delivered ∧ (callbacks settings).recorded db delivered.key = true) ∨
    ∃ asked, action.asked = some asked ∧ ∃ record ∈ db.rows .idempotencyRecords, record.requestKey = asked.name

theorem Replays.same (replays : Replays settings db action) (reachable : (controlPlane settings).Reachable db)
    (step : (controlPlane settings).step db action after) : after = db := by
  have reliable := reachable_reliable reachable
  change after = committed db (action.execute settings db) at step
  cases done : action.execute settings db with
  | error failure =>
    rw [done] at step
    exact step
  | ok next =>
    rw [done] at step
    obtain rfl : after = next := step
    rcases replays with ⟨delivered, is, recorded⟩ | ⟨asked, is, record, member, named⟩
    · refine (callbacks_lawful settings).replay reliable done ?_
      simpa [Delivery.Protocol.repeats, callbacks, is] using recorded
    · obtain ⟨call, answer, requested⟩ := Action.execute_asked reliable.sound.tracked is done
      exact (requested.replay member named).1

theorem version_lt_step (sound : Sound db) (step : (controlPlane settings).step db action after)
    (member : job ∈ db.rows .jobs) (laterMember : later ∈ after.rows .jobs)
    (same : later.jobId = job.jobId) (changed : later.state ≠ job.state) : job.version < later.version := by
  rcases control_step sound step member laterMember same with kept | ⟨v, _, next, _, move, before, now, _⟩
  · exact absurd (congrArg Control.state kept) changed
  · have state : job.state = v.state := congrArg Control.state before
    have version : job.version = v.version := congrArg Control.version before
    have laterState : later.state = next.state := congrArg Control.state now
    have laterVersion : later.version = next.version := congrArg Control.version now
    rw [version, laterVersion]
    rw [state, laterState] at changed
    exact move.version_lt changed

/-- The log of a job has no gap, a state never changes under one version, and a replay writes neither. -/
theorem events_consecutive (reachable : (controlPlane settings).Reachable db) :
    (∀ job ∈ db.rows .jobs,
      ((db.rows .events).filter fun event => event.jobId = job.jobId).map (·.sequence) =
        List.range' 1 job.eventSequence) ∧
      ∀ action after, (controlPlane settings).step db action after ->
        (∀ job ∈ db.rows .jobs, ∀ later ∈ after.rows .jobs, later.jobId = job.jobId ->
          later.state ≠ job.state -> job.version < later.version) ∧
        (Replays settings db action -> after = db) := by
  have sound := reachable_sound reachable
  refine ⟨fun job member => ?_, fun action after step => ⟨fun job member later laterMember =>
    version_lt_step sound step member laterMember, fun replays => replays.same reachable step⟩⟩
  obtain ⟨v, represents, _⟩ := sound.tracked job member
  have sequence : job.eventSequence = v.sequence := congrArg Control.sequence (represents.job_eq member rfl).2
  have slice : db.rows.slice job.jobId .events =
      (db.rows .events).filter fun event => event.jobId = job.jobId :=
    List.filter_congr fun event _ => decide_eq_decide.2 Option.some_inj
  rw [← slice, represents.events, sequence]

theorem events_consecutive_session :
    let db := perform localSettings installation completedSession
    (∃ job ∈ db.rows .jobs, job.eventSequence = 5) ∧ Replays localSettings db sessionClaim ∧
      committed db (sessionClaim.execute localSettings db) = db := by
  intro db
  have replays : Replays localSettings db sessionClaim := .inl ⟨_, rfl, by decide +kernel⟩
  exact ⟨session_jobs.2, replays,
    ((events_consecutive (perform_reachable localSettings completedSession)).2 _ _ rfl).2 replays⟩

end

end Nexa
