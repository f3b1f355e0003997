import Nexa.Application.Cleanup
import Nexa.Lifecycle.Counters
import Nexa.Refinement.Checkpoint

namespace Nexa

open Relational Outcome Tables Local

variable {db after : Db} {call : Call} {workerId : WorkerId} {attemptId : AttemptId}
  {callback : Callback} {answer : Acknowledgment} {settings : Settings}

variable {counters : List AdmissionCounter} {request : FailRequest}

section

theorem lockPolicyCounters_spec {mode : OperationalMode}
    (locked : lockPolicyCounters db attemptId = .ok (mode, counters)) :
    ∃ attempt ∈ db.rows .attempts, attempt.attemptId = attemptId ∧
      ∃ job ∈ db.rows .jobs, job.jobId = attempt.jobId ∧ CountersOf db.rows job.scopes counters := by
  simp only [lockPolicyCounters, bind_eq_ok, orFail_eq_ok, pure_eq_ok, Prod.mk.injEq] at locked
  obtain ⟨_, foundAttempt, attempt, rfl, _, foundJob, job, rfl, _, _, _, taken, rfl, rfl⟩ := locked
  obtain ⟨attemptMember, named⟩ := mem_of_oneOrNone foundAttempt
  obtain ⟨jobMember, owner⟩ := mem_of_oneOrNone foundJob
  simp only [decide_eq_true_eq] at named owner
  exact ⟨attempt, attemptMember, named, job, jobMember, owner, lockCounters_eq taken⟩

theorem Bound.countersOf {opened : Db} {authority : Authority} {rows : AuthorityRows}
    {mode : OperationalMode} (bound : Bound opened authority rows)
    (frame : Frame [.callbackReceipts] db.rows opened.rows)
    (locked : lockPolicyCounters db authority.attemptId = .ok (mode, counters)) :
    CountersOf opened.rows rows.job.scopes counters := by
  obtain ⟨attempt, attemptMember, named, job, jobMember, owner, matched⟩ := lockPolicyCounters_spec locked
  rw [← frame .attempts (by decide)] at attemptMember
  rw [← frame .jobs (by decide)] at jobMember
  obtain rfl := attempt_unique opened attemptMember bound.attempt (named.trans bound.attemptId.symm)
  obtain rfl := job_unique opened jobMember bound.job (owner.trans bound.jobId.symm)
  exact matched.congr (frame .admissionCounters (by decide))

variable {authority : Authority} {rows : AuthorityRows}

theorem extendRetention_frame (jobId : JobId) (terminalAt : Time) (days : Nat) :
    Frame [.idempotencyRecords] db.rows (extendRetention db jobId terminalAt days).rows :=
  .update _ _ _ (by simp)

theorem commitResult_moves {opened : Db} {resultId : ResultId}
    {manifestArtifactId : ArtifactId} {manifestChecksum : Nat} {job : Job}
    (bound : Bound opened authority rows) (unrevoked : rows.lease.revokedAt = none)
    (frame : Frame chunkTables opened.rows db.rows)
    (matched : CountersOf opened.rows rows.job.scopes counters)
    (running : rows.job.state = .running) (desired : rows.job.desiredState = .running)
    (attemptRunning : rows.attempt.state = .running)
    (recognized : commitResult settings db call callback workerId rows.job authority.attemptId counters
      resultId manifestArtifactId manifestChecksum = .ok (after, job)) :
    Frame CallbackOperation.completeAttempt.writes opened.rows after.rows ∧
      Moves .operation rows.job.jobId opened.rows after.rows := by
  simp only [commitResult, Execution.transition, bind_eq_ok, pure_eq_ok, Prod.mk.injEq] at recognized
  obtain ⟨_, inserted, adjusted, charging, _, ⟨_, written, rfl⟩, rfl, _⟩ := recognized
  obtain ⟨accepted, rfl⟩ := insertRow_of_insertInto inserted
  have steady : db.rows .admissionCounters = opened.rows .admissionCounters := frame _ (by decide)
  obtain ⟨charged, counted⟩ := adjustCounters_charged charging (matched.congr steady) (ofJob_nodup _ _)
  have rewritten := (unowned frame (by decide)).trans
    ((append .results _ (by rfl) (by decide)).trans
      ((updateUnowned .resultReservations (by decide)).trans
        ((updateAttempt bound.attempt (by exact frame .attempts (by decide)) bound.attemptId
          bound.jobId.symm (succeedPatch call.now)).trans
          ((unowned counted (by decide)).trans
            ((event written).trans
              (.unowned (extendRetention_frame rows.job.jobId call.now
                settings.idempotencyTerminalRetentionDays) (by decide)))))))
  refine ⟨rewritten.frame.mono (by decide), Moves.of_local rewritten bound.present ?_⟩
  intro v represents fits
  obtain ⟨onto, holding⟩ := bound.holding unrevoked represents
  have succeeded (result : JobResult) := ((holding.appendResult result).updateAttempt
    (succeedPatch call.now) bound.attemptId).event (.worker workerId) call.now .resultRecognized
    (some .resultRecognized) false (terminalPatch .succeeded call.now) rfl
  refine ⟨_, onto ▸ Move.succeed running desired (congrArg (Custody.live · _ _) attemptRunning),
    (succeeded _).represents, ?_⟩
  have load : v.load = (1, 1) := by
    rw [← onto]
    exact Lifecycle.load_live rfl (by simp [AuthorityRows.onto, Job.control, running, JobState.terminal])
  rw [load]
  have scopes : v.scopes = rows.job.scopes := by
    rw [← onto]
    rfl
  rw [scopes]
  exact (charged.shift (0, 1)).around steady (writeEvent_frame written _ (by decide))

theorem completeAttempt_called {request : CompleteRequest}
    (completed : completeAttempt settings db call attemptId callback request = .ok (after, answer)) :
    Called db call request.authority.workerId .completeAttempt callback request.authority after answer := by
  simp only [completeAttempt, bind_eq_ok] at completed
  obtain ⟨⟨mode, counters⟩, locked, ⟨opened, found⟩, called, completed⟩ := completed
  obtain ⟨rfl, replay | ⟨rows, opens, completed⟩⟩ := callbackRows_called called completed
  · exact replay
  · simp only [bind_eq_ok, require_eq_ok, orFail_eq_ok, resultAuthority, exists_const] at completed
    obtain ⟨_, alive, ⟨desired, _⟩, ⟨running, attemptRunning⟩, _, _, reservation, _, _, completed⟩ := completed
    obtain ⟨_, _, unrevoked⟩ := liveAuthority_ok alive
    split at completed
    next => simp at completed
    next =>
      simp only [bind_eq_ok] at completed
      obtain ⟨chunked, recognized, ⟨done, job⟩, committed, answered⟩ := completed
      have matched := opens.bound.countersOf
        (opens.receipt ▸ .append _ _ (List.mem_singleton_self _)) locked
      obtain ⟨frame, moves⟩ := commitResult_moves opens.bound unrevoked
        (recognizedResultChunks_frame recognized) matched running desired attemptRunning committed
      exact .performed opens unrevoked frame moves.progress answered

def failWrite (s : Tables nexaSchema) (rows : AuthorityRows) (attemptId : AttemptId) (now : Time)
    (failureClass : FailureClass) (failureReason : FailureReason) : Tables nexaSchema :=
  (((s.update .attempts (fun row => row.attemptId = attemptId)
      (fencePatch now .stopping failureClass failureReason).apply).update
    .attemptLeases (fun row => row.leaseId = rows.lease.leaseId)
      (revokePatch now rows.lease.revokeReason).apply).update
    .authorityGrants (fun row => row.grantId = rows.grant.grantId) (endGrantPatch now).apply).update
    .allocations (fun row => row.allocationId = rows.allocation.allocationId) (quarantinePatch now).apply

theorem Holding.fail {s : Tables nexaSchema} {v : Lifecycle} (holding : Holding s rows v)
    (named : rows.attempt.attemptId = attemptId) (now : Time) (failureClass : FailureClass)
    (failureReason : FailureReason)
    (unique : ∀ row ∈ s .allocations, row.allocationId = rows.allocation.allocationId -> row = rows.allocation) :
    Represents (failWrite s rows attemptId now failureClass failureReason)
      { rows.onto v with custody := .fenced (some failureClass) rows.allocation.resources } := by
  obtain ⟨represents, live⟩ := holding
  have fenced : Fenced (failWrite s rows attemptId now failureClass failureReason)
      ((fencePatch now .stopping failureClass failureReason).apply rows.attempt)
      ((quarantinePatch now).apply rows.allocation) := by
    refine ⟨?_, ?_, ?_, ?_, rfl, live.allocationAttempt⟩
    · change _ ∈ updateWhere _ _ (s .attempts)
      rw [mem_updateWhere]
      exact ⟨rows.attempt, live.attemptMember, by simp [named]⟩
    · refine unreleased_quarantine live.onlyAllocation (by simp) ?_ now
      intro row inside selected
      rw [unique row inside (by simpa using selected), live.held]
      decide
    · exact openLeases_revoke live.onlyLease (by simp) (revokePatch now rows.lease.revokeReason)
        (by simp [revokePatch])
    · exact openGrants_end live.onlyGrant (by simp) (endGrantPatch now) (by simp [endGrantPatch])
  have frame : Frame [.attempts, .allocations, .attemptLeases, .authorityGrants] s
      (failWrite s rows attemptId now failureClass failureReason) :=
    (((Frame.update _ _ _ (by decide)).trans (.update _ _ _ (by decide))).trans
      (.update _ _ _ (by decide))).trans (.update _ _ _ (by decide))
  exact represents.withCustody frame
    ((fencesOf_leases _ _ (revokePatch now rows.lease.revokeReason)).trans
      (fencesOf_attempts _ _ (fencePatch now .stopping failureClass failureReason))) ⟨_, _, fenced, rfl, rfl⟩

theorem observeFailure_frame {now : Time} (observed : observeFailure db now rows attemptId request = .ok after) :
    Frame [.containerIdentities] db.rows after.rows := by
  simp only [observeFailure, bind_eq_ok] at observed
  obtain ⟨container, _, observed⟩ := observed
  split at observed
  next =>
    simp only [bind_eq_ok, require_eq_ok, pure_eq_ok, exists_const] at observed
    exact observed.2.2 ▸ .refl _ _
  next =>
    split at observed
    all_goals
      simp only [bind_eq_ok, require_eq_ok, orFail_eq_ok, pure_eq_ok, ok_eq_ok, exists_const] at observed
      obtain ⟨_, binding, _, _, _, _, _, _, rfl⟩ := observed
    · exact (insertInto_eq_ok.1 binding).2 ▸ .append _ _ (List.mem_singleton_self _)
    · exact binding ▸ .refl _ _

theorem fail_advances (actor : Actor) (now : Time) (failureClass : FailureClass)
    (failureReason : FailureReason) (bound : Bound db authority rows)
    (active : rows.job.state.active = true) {v : Lifecycle}
    (holding : Holding (db.rows.slice rows.job.jobId) rows v) :
    ∃ next, Move (rows.onto v) .operation next ∧
      Represents
        (eventWrite
          (failWrite (db.rows.slice rows.job.jobId) rows authority.attemptId now failureClass failureReason)
          rows.job actor now .attemptFailed (some (.failure failureReason)) false
          (recoverPatch (rows.job.jobFence + 1)))
        next ∧
      next.load = (rows.onto v).load := by
  have unique : ∀ row ∈ db.rows.slice rows.job.jobId .allocations,
      row.allocationId = rows.allocation.allocationId -> row = rows.allocation :=
    fun row inside same => allocation_unique db (mem_slice.1 inside).1 bound.allocation same
  have failed := holding.fail bound.attemptId now failureClass failureReason unique
  have recovering := failed.event actor now .attemptFailed (some (.failure failureReason)) false
    (recoverPatch (rows.job.jobFence + 1)) holding.live.onlyJob (.refl rows.job)
    (.inr (failed.not_live rfl))
  refine ⟨_, Move.fence failureClass active rfl, recovering, ?_⟩
  have unfinished : (rows.onto v).state.terminal = false := by
    obtain state | state | state := active_cases active <;>
      simp [AuthorityRows.onto, Job.control, state, JobState.terminal]
  rw [Lifecycle.load_live rfl unfinished]
  rfl

theorem commitFailure_moves {now : Time} {opened : Db} {version : Nat}
    (bound : Bound opened authority rows) (unrevoked : rows.lease.revokedAt = none)
    (active : rows.job.state.active = true)
    (frame : Frame [.containerIdentities] opened.rows db.rows)
    (failed : commitFailure db now workerId rows authority.attemptId request = .ok (after, version)) :
    Frame CallbackOperation.failAttempt.writes opened.rows after.rows ∧
      Moves .operation rows.job.jobId opened.rows after.rows := by
  simp only [commitFailure, Cleanup.event, bind_eq_ok, pure_eq_ok, Prod.mk.injEq] at failed
  obtain ⟨_, ⟨_, written, rfl⟩, rfl, rfl⟩ := failed
  have rewritten := (unowned frame (by decide)).trans
    ((updateAttempt bound.attempt (by exact frame .attempts (by decide)) bound.attemptId
      bound.jobId.symm _).trans
      ((updateLease bound.lease (by exact frame .attemptLeases (by decide)) rfl bound.leaseOwner _).trans
        ((updateGrant bound.grant (by exact frame .authorityGrants (by decide)) rfl
          bound.grantOwner _).trans
          ((updateAllocation bound.allocation (by exact frame .allocations (by decide)) rfl
            bound.allocationOwner _).trans
            ((event written).trans
              (.unowned (abandonReservations_frame _ authority.attemptId now) (by decide)))))))
  refine ⟨rewritten.frame.mono (by decide), Moves.of_local rewritten bound.present ?_⟩
  intro v represents fits
  obtain ⟨onto, holding⟩ := bound.holding unrevoked represents
  obtain ⟨next, move, recovering, load⟩ := fail_advances (.worker workerId) now request.failureClass
    request.reasonCode bound active holding
  rw [onto] at move load
  refine ⟨next, move, recovering, ?_⟩
  rw [load]
  exact .steady (rewritten.frame _ (by decide)) _ _

theorem failAttempt_called
    (failed : failAttempt db call workerId attemptId callback request = .ok (after, answer)) :
    Called db call workerId .failAttempt callback request.authority after answer := by
  simp only [failAttempt, bind_eq_ok, require_eq_ok, exists_const] at failed
  obtain ⟨⟨opened, replay⟩, begun, _, _, _, _, _, _, ⟨rfl, rfl⟩, failed⟩ := failed
  obtain ⟨same, answered⟩ | ⟨fresh, receipt, failed⟩ := beginCallback_called begun failed
  · exact .replayed same answered
  · simp only [bind_eq_ok, require_eq_ok, exists_const] at failed
    obtain ⟨_, rows, found, ⟨active, _, unrevoked, _⟩, _, _, _, observed, observation, ⟨done, version⟩,
      written, completed⟩ := failed
    have named := authorityRows_bound found
    obtain ⟨frame, moves⟩ := commitFailure_moves named unrevoked active (observeFailure_frame observation) written
    exact .performed ⟨fresh, receipt, named⟩ unrevoked frame moves.progress completed

end

end Nexa
