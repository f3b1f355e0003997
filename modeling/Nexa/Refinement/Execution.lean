import Nexa.Application.Execution
import Nexa.Refinement.Authority

namespace Nexa

open Relational Outcome

variable {db after : Db} {call : Call} {attemptId : AttemptId} {callback : Callback}
  {answer : Acknowledgment}

theorem appendEvents_local {job last : Job} {workerId : WorkerId} {now : Time}
    {events : List (EventType × CheckpointReason)}
    (appended : appendEvents db job workerId now events = .ok (after, last)) :
    Local job.jobId []
        (eventsWrite job (.worker workerId) now (events.map fun event => (event.1, .checkpoint event.2)))
        db.rows after.rows ∧
      Tables.Frame [.jobs, .events] db.rows after.rows ∧
      last = { job with eventSequence := job.eventSequence + events.length } := by
  induction events generalizing db job with
  | nil =>
    simp only [appendEvents, ok_eq_ok, Prod.mk.injEq] at appended
    obtain ⟨rfl, rfl⟩ := appended
    exact ⟨.unowned (.refl _ _) (by simp), .refl _ _, rfl⟩
  | cons event rest ih =>
    obtain ⟨eventType, reason⟩ := event
    simp only [appendEvents, Cleanup.event, bind_eq_ok, pure_eq_ok] at appended
    obtain ⟨_, ⟨next, written, rfl⟩, appended⟩ := appended
    obtain ⟨rewritten, frame, rfl⟩ := ih appended
    exact ⟨(Local.event written).trans rewritten, (writeEvent_frame written).trans frame,
      by simp [Nat.add_assoc, Nat.add_comm 1]⟩

theorem claim_advances {rows : AuthorityRows} (actor : Actor) (now : Time)
    (events : List (EventType × EventReason)) (context : ExecutionContext)
    {attemptId : AttemptId} (named : rows.attempt.attemptId = attemptId)
    (created : rows.attempt.state = .created) (dispatching : rows.job.state = .dispatching) :
    Advances rows fun s =>
      (eventsWrite rows.job actor now events s).update .attempts (fun row => row.attemptId = attemptId)
        (claimPatch now context).apply := by
  intro s v holding _
  obtain ⟨last, noted, control⟩ := holding.events actor now events (.refl rows.job)
  have claimed := noted.updateAttempt (claimPatch now context) named
  have move : Move (rows.onto v) .operation
      { (rows.onto v).noted events.length 0 with
        custody := .live .claimed rows.attempt.executionIntent rows.allocation.resources } :=
    Move.progress .claimed _ _ rfl (by simp [AuthorityRows.onto, Job.control, created, dispatching, proceeds])
  have represented : Represents _
      { v with
        toControl := last.control
        custody := .live .claimed rows.attempt.executionIntent rows.allocation.resources } :=
    claimed.represents
  rw [control] at represented
  exact ⟨_, move, represented, rfl⟩

theorem claimAttempt_called {request : ClaimRequest}
    (claimed : claimAttempt db call attemptId callback request = .ok (after, answer)) :
    Called db call request.authority.workerId .claimAttempt callback request.authority after answer := by
  simp only [claimAttempt, bind_eq_ok] at claimed
  obtain ⟨⟨opened, found⟩, called, claimed⟩ := claimed
  obtain ⟨rfl, replay | ⟨rows, opens, claimed⟩⟩ := callbackRows_called called claimed
  · exact replay
  · rw [bind_eq_ok] at claimed
    obtain ⟨_, alive, claimed⟩ := claimed
    obtain ⟨_, _, unrevoked⟩ := liveAuthority_ok alive
    split at claimed
    next =>
      exact .performed opens unrevoked (.refl _ _) (.quiet (.refl _)) claimed
    next =>
      simp only [bind_eq_ok, require_eq_ok, exists_const, restoreDecision, pure_eq_ok, orFail_eq_ok] at claimed
      obtain ⟨⟨created, dispatching⟩, _, _, _, _, ⟨scan, _, _, _, ⟨noted, job⟩, appended, rfl⟩, carried, _,
        completed⟩ := claimed
      obtain ⟨noting, frame, rfl⟩ := appendEvents_local appended
      have named := opens.bound
      have advanced (context : ExecutionContext) := named.advance .claimAttempt unrevoked
        (noting.trans (.updateAttempt named.attempt (frame .attempts (by decide)) named.attemptId
          named.jobId.symm (claimPatch call.now context)))
        (by decide) (by decide) (claim_advances _ _ _ context named.attemptId created dispatching)
      exact .performed opens unrevoked (advanced _).1 (advanced _).2.progress completed

theorem start_advances {rows : AuthorityRows} {authority : Authority} (actor : Actor) (now : Time)
    (sequence : Nat) (expiry : Time) (attemptId : rows.attempt.attemptId = authority.attemptId)
    (leaseId : rows.lease.leaseId = authority.leaseId) (phase : livePhase rows.job rows.attempt = true)
    (claimed : rows.attempt.state = .claimed) :
    Advances rows fun s =>
      eventWrite
        ((s.update .attempts (fun row => row.attemptId = authority.attemptId)
          (startPatch now sequence).apply).update .attemptLeases
          (fun row => row.leaseId = authority.leaseId) (expiryPatch expiry).apply)
        rows.job actor now .attemptStarted (some .attemptStarted) false
        (statePatch
          (if rows.attempt.executionIntent = .checkpointForPause then .pausing else .running)) := by
  intro s v holding fits
  have entered :
      (if rows.attempt.executionIntent = .checkpointForPause then JobState.pausing else .running) =
        startedState rows.attempt.executionIntent := by
    cases rows.attempt.executionIntent <;> rfl
  rw [entered]
  have running := holding.updateAttempt (startPatch now sequence) attemptId
  have extended := running.updateLease (expiryPatch expiry) (fun _ => rfl) leaseId
  have started := extended.event actor now .attemptStarted (some .attemptStarted) false
    (statePatch (startedState rows.attempt.executionIntent)) rfl
  have dispatching : rows.job.state = .dispatching := by
    have fit : liveFits rows.job.state .claimed = true := claimed ▸ fits.custody
    cases state : rows.job.state <;> simp_all [livePhase]
  have desired : rows.job.desiredState =
      if rows.attempt.executionIntent = .run then .running else .paused := by
    cases intent : rows.attempt.executionIntent <;> simp_all [livePhase]
  refine ⟨_, Move.start dispatching (congrArg (Custody.live · _ _) claimed) desired, started.represents, ?_⟩
  rw [Lifecycle.load_live rfl, Lifecycle.load_live rfl]
  · simp [AuthorityRows.onto, Job.control, dispatching, JobState.terminal]
  · cases rows.attempt.executionIntent <;> rfl

theorem startAttempt_called {request : StartRequest}
    (started : startAttempt db call attemptId callback request = .ok (after, answer)) :
    Called db call request.authority.workerId .startAttempt callback request.authority after answer := by
  simp only [startAttempt, bind_eq_ok] at started
  obtain ⟨⟨opened, found⟩, called, started⟩ := started
  obtain ⟨rfl, replay | ⟨rows, opens, started⟩⟩ := callbackRows_called called started
  · exact replay
  · simp only [bind_eq_ok, require_eq_ok, exists_const, Execution.transition, pure_eq_ok] at started
    obtain ⟨_, alive, startable, _, _, inserted, _, ⟨done, written, rfl⟩, completed⟩ := started
    obtain ⟨phase, _, unrevoked⟩ := liveAuthority_ok alive
    obtain ⟨accepted, rfl⟩ := insertRow_of_insertInto inserted
    have named := opens.bound
    obtain ⟨frame, moves⟩ := named.advance .startAttempt unrevoked
      ((Local.appendUnowned .containerIdentities (by decide)).trans
        ((Local.updateAttempt named.attempt (by rfl) named.attemptId named.jobId.symm _).trans
          ((Local.updateLease named.lease (by rfl) named.leaseId named.leaseOwner _).trans
            (.event written))))
      (by decide) (by decide)
      (start_advances _ _ _ _ named.attemptId named.leaseId phase startable.1)
    exact .performed opens unrevoked frame moves.progress completed

theorem reserveResult_called {authority : Authority}
    (reserved : reserveResult db call attemptId callback authority = .ok (after, answer)) :
    Called db call authority.workerId .reserveResult callback authority after answer := by
  simp only [reserveResult, bind_eq_ok] at reserved
  obtain ⟨⟨opened, found⟩, called, reserved⟩ := reserved
  obtain ⟨rfl, replay | ⟨rows, opens, reserved⟩⟩ := callbackRows_called called reserved
  · exact replay
  · simp only [bind_eq_ok, require_eq_ok, exists_const] at reserved
    obtain ⟨_, alive, _, _, _, _, _, _, done, inserted, completed⟩ := reserved
    obtain ⟨_, _, unrevoked⟩ := liveAuthority_ok alive
    have frame : Tables.Frame [.resultReservations] opened.rows done.rows :=
      (insertInto_eq_ok.1 inserted).2 ▸ .append _ _ (List.mem_singleton_self _)
    exact .performed opens unrevoked (frame.mono (by decide))
      (.quiet (.of_frame frame (by decide))) completed

end Nexa
