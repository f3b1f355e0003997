import Nexa.Application.Checkpoint
import Nexa.Refinement.Authority

namespace Nexa

open Relational Outcome Tables Local

variable {db after : Db} {call : Call} {attemptId : AttemptId} {callback : Callback}
  {answer : Acknowledgment}

section

theorem insert_frame (db : Db) (table : Table) (row : Row table) :
    Frame [table] db.rows ((db.insert table row).getD db).rows := by
  cases inserted : db.insert table row with
  | none => exact .refl _ _
  | some after =>
    rw [Option.getD_some, (Database.insert_eq_some.1 inserted).2]
    exact .append _ _ (List.mem_singleton_self _)

def chunkTables : List Table := [.inferenceExtents, .recognizedChunks]

variable {job : Job} {fresh : Nat -> Nat}

theorem pinExtents_frame {itemCount chunkSize : Nat}
    (pinned : pinExtents db job attemptId itemCount chunkSize = .ok after) :
    Frame chunkTables db.rows after.rows := by
  simp only [pinExtents] at pinned
  split at pinned
  next => simp at pinned
  next =>
    split_ifs at pinned
    cases pinned
    exact (insert_frame db .inferenceExtents _).mono (by decide)

theorem recognizeEntry_frame {id : Nat} {entry : ChunkEntry}
    (accepted : recognizeEntry db job attemptId id entry = .ok after) :
    Frame chunkTables db.rows after.rows := by
  unfold recognizeEntry at accepted
  split_ifs at accepted
  · split at accepted
    next =>
      split_ifs at accepted
      cases accepted
      exact .refl _ _
    next => simp at accepted
  · split at accepted
    next =>
      split_ifs at accepted
      cases accepted
      exact .refl _ _
    next =>
      split at accepted
      next inserted stored =>
        cases accepted
        rw [(Database.insert_eq_some.1 stored).2]
        exact .append _ _ (by decide)
      next => simp at accepted

theorem recognize_frame {entries : List ChunkEntry}
    (accepted : recognize db job attemptId fresh entries = .ok after) :
    Frame chunkTables db.rows after.rows := by
  induction entries generalizing db with
  | nil =>
    simp only [recognize, ok_eq_ok] at accepted
    exact accepted ▸ .refl _ _
  | cons entry rest ih =>
    simp only [recognize, bind_eq_ok] at accepted
    obtain ⟨next, first, remaining⟩ := accepted
    exact (recognizeEntry_frame first).trans (ih remaining)

theorem mapError_eq_ok {ε ε' α : Type} {change : ε -> ε'} {value : Except ε α} {result : α} :
    value.mapError change = .ok result <-> value = .ok result := by
  cases value <;> simp [Except.mapError]

theorem recognizedChunkGraph_frame {graph : ChunkGraph}
    (accepted : recognizedChunkGraph db job attemptId fresh graph = .ok after) :
    Frame chunkTables db.rows after.rows := by
  simp only [recognizedChunkGraph, bind_eq_ok, mapError_eq_ok] at accepted
  obtain ⟨pinned, extents, accepted⟩ := accepted
  split_ifs at accepted
  exact (pinExtents_frame extents).trans (recognize_frame (mapError_eq_ok.1 accepted))

theorem verifiedCheckpointGraph_frame {verdict : CheckpointVerdict} {manifest : ArtifactId × Nat × Nat}
    (verified : verifiedCheckpointGraph db job attemptId fresh verdict = .ok (after, manifest)) :
    Frame chunkTables db.rows after.rows := by
  unfold verifiedCheckpointGraph at verified
  split at verified
  next => simp at verified
  next => simp at verified
  next =>
    cases verified
    exact .refl _ _
  next =>
    simp only [bind_eq_ok, pure_eq_ok, Prod.mk.injEq] at verified
    obtain ⟨recognized, accepted, rfl, _⟩ := verified
    exact recognizedChunkGraph_frame accepted

theorem recognizedResultChunks_frame {graph : Option ChunkGraph}
    (recognized : recognizedResultChunks db job attemptId fresh graph = .ok after) :
    Frame chunkTables db.rows after.rows := by
  cases graph with
  | none =>
    cases recognized
    exact .refl _ _
  | some graph =>
    simp only [recognizedResultChunks] at recognized
    split at recognized
    next done outcome =>
      cases recognized
      simp only [bind_eq_ok] at outcome
      obtain ⟨pinned, extents, outcome⟩ := outcome
      split_ifs at outcome
      exact (pinExtents_frame extents).trans (recognize_frame outcome)
    next => simp at recognized
    next => simp at recognized

end

section

variable {rows : AuthorityRows}

theorem checkpointPhase_cases (phase : checkpointPhase rows.job rows.attempt = true) :
    rows.job.state = .running ∨ rows.job.state = .pausing ∧
      rows.attempt.executionIntent = ExecutionIntent.ofRecovery rows.job.recoveryIntent := by
  cases state : rows.job.state <;> simp_all [checkpointPhase]

theorem reserve_advances (now : Time) (sequence : Nat)
    (named : rows.attempt.attemptId = attemptId) (running : rows.attempt.state = .running)
    (phase : checkpointPhase rows.job rows.attempt = true) :
    Advances rows fun s =>
      (s.update .jobs (fun row => row.jobId = rows.job.jobId) (checkpointSequencePatch sequence).apply).update
        .attempts (fun row => row.attemptId = attemptId) (attemptStatePatch .checkpointing now).apply := by
  intro s v holding _
  have counted := holding.updateJob rfl (checkpointSequencePatch sequence) rfl rfl
  have reserved := counted.updateAttempt (attemptStatePatch .checkpointing now) named
  refine ⟨_, Move.progress .checkpointing 0 0 rfl ?_, reserved.represents, rfl⟩
  rcases checkpointPhase_cases phase with state | ⟨state, _⟩ <;>
    simp [AuthorityRows.onto, Job.control, running, state, proceeds]

theorem reserveCheckpoint_called {authority : Authority}
    (reserved : reserveCheckpoint db call attemptId callback authority = .ok (after, answer)) :
    Called db call authority.workerId .reserveCheckpoint callback authority after answer := by
  simp only [reserveCheckpoint, bind_eq_ok] at reserved
  obtain ⟨⟨opened, found⟩, called, reserved⟩ := reserved
  obtain ⟨rfl, replay | ⟨rows, opens, reserved⟩⟩ := callbackRows_called called reserved
  · exact replay
  · simp only [bind_eq_ok, require_eq_ok, exists_const] at reserved
    obtain ⟨_, _, _, _, alive, ⟨running, phase⟩, _, _, _, _, _, inserted, completed⟩ := reserved
    obtain ⟨_, _, unrevoked⟩ := liveAuthority_ok alive
    obtain ⟨accepted, rfl⟩ := insertRow_of_insertInto inserted
    have named := opens.bound
    obtain ⟨frame, moves⟩ := named.advance .reserveCheckpoint unrevoked
      (((updateJob (checkpointSequencePatch (rows.job.checkpointSequence + 1))).trans
        (appendUnowned .checkpointReservations (by decide))).trans
        (updateAttempt named.attempt (by rfl) named.attemptId named.jobId.symm
          (attemptStatePatch .checkpointing call.now)))
      (by decide) (by decide) (reserve_advances _ _ named.attemptId running phase)
    exact .performed opens unrevoked frame moves.progress completed

theorem proceed_advances (actor : Actor) (now : Time) (next : AttemptState) (eventType : EventType)
    (reason : EventReason) (named : rows.attempt.attemptId = attemptId)
    (phase : proceeds rows.job.state rows.attempt.state next = true) :
    Advances rows fun s =>
      eventWrite
        (s.update .attempts (fun row => row.attemptId = attemptId) (attemptStatePatch next now).apply)
        rows.job actor now eventType (some reason) false noChanges := by
  intro s v holding _
  have stepped := holding.updateAttempt (attemptStatePatch next now) named
  have noted := stepped.event actor now eventType (some reason) false noChanges rfl
  exact ⟨_, Move.progress next 1 1 rfl phase, noted.represents, rfl⟩

theorem abort_advances (actor : Actor) (now : Time) (reason : EventReason)
    (named : rows.attempt.attemptId = attemptId) (checkpointing : rows.attempt.state = .checkpointing)
    (pausing : rows.job.state = .pausing) (plain : rows.job.recoveryIntent = none) :
    Advances rows fun s =>
      eventWrite
        (s.update .attempts (fun row => row.attemptId = attemptId) (attemptStatePatch .running now).apply)
        rows.job actor now .pauseAborted (some reason) false pauseAbortedPatch := by
  intro s v holding _
  have stepped := holding.updateAttempt (attemptStatePatch .running now) named
  have aborted := stepped.event actor now .pauseAborted (some reason) false pauseAbortedPatch rfl
  refine ⟨_, Move.abortPause pausing plain (congrArg (Custody.live · _ _) checkpointing), aborted.represents, ?_⟩
  rw [Lifecycle.load_live rfl rfl, Lifecycle.load_live rfl]
  simp [AuthorityRows.onto, Job.control, pausing, JobState.terminal]

variable {authority : Authority} {workerId : WorkerId} {now : Time}

theorem rejectCheckpoint_moves {checkpointId : CheckpointId} {reason : CheckpointReason}
    (bound : Bound db authority rows) (unrevoked : rows.lease.revokedAt = none)
    (checkpointing : rows.attempt.state = .checkpointing)
    (phase : checkpointPhase rows.job rows.attempt = true)
    (rejected : rejectCheckpoint db now workerId rows.job rows.attempt checkpointId reason = .ok after) :
    Frame CallbackOperation.publishCheckpoint.writes db.rows after.rows ∧
      Moves .operation rows.job.jobId db.rows after.rows := by
  have stepped (before : Tables nexaSchema) (same : before .attempts = db.rows .attempts) :=
    updateAttempt bound.attempt same rfl bound.jobId.symm (attemptStatePatch .running now)
  have states := checkpointPhase_cases phase
  simp only [rejectCheckpoint, Cleanup.event] at rejected
  split at rejected
  next aborts =>
    simp only [bind_eq_ok, pure_eq_ok] at rejected
    obtain ⟨_, ⟨_, written, rfl⟩, rfl⟩ := rejected
    obtain ⟨pausing, plain⟩ := aborts
    have none : rows.job.recoveryIntent = none := by
      cases intent : rows.job.recoveryIntent with
      | none => rfl
      | some kind => cases kind; simp_all [ExecutionIntent.ofRecovery]
    exact bound.advance .publishCheckpoint unrevoked
      ((updateUnowned .checkpointReservations (by decide)).trans
        ((stepped _ (by rfl)).trans (.event written)))
      (by decide) (by decide) (abort_advances _ _ _ rfl checkpointing pausing none)
  next =>
    simp only [bind_eq_ok, pure_eq_ok] at rejected
    obtain ⟨_, ⟨_, written, rfl⟩, rfl⟩ := rejected
    have proceed : proceeds rows.job.state rows.attempt.state .running = true := by
      rcases states with state | ⟨state, _⟩ <;> simp [state, checkpointing, proceeds]
    exact bound.advance .publishCheckpoint unrevoked
      ((updateUnowned .checkpointReservations (by decide)).trans
        ((stepped _ (by rfl)).trans (.event written)))
      (by decide) (by decide) (proceed_advances _ _ _ _ _ rfl proceed)

theorem commitCheckpoint_moves {verified : Db} {checkpoint : Checkpoint}
    (bound : Bound db authority rows) (unrevoked : rows.lease.revokedAt = none)
    (frame : Frame chunkTables db.rows verified.rows)
    (checkpointing : rows.attempt.state = .checkpointing)
    (phase : checkpointPhase rows.job rows.attempt = true)
    (committed : commitCheckpoint verified now workerId rows.job rows.attempt checkpoint = .ok after) :
    Frame CallbackOperation.publishCheckpoint.writes db.rows after.rows ∧
      Moves .operation rows.job.jobId db.rows after.rows := by
  simp only [commitCheckpoint, Cleanup.event, bind_eq_ok, pure_eq_ok] at committed
  obtain ⟨_, inserted, _, ⟨_, written, rfl⟩, rfl⟩ := committed
  obtain ⟨accepted, rfl⟩ := insertRow_of_insertInto inserted
  have proceed : proceeds rows.job.state rows.attempt.state
      (if rows.job.state = .pausing then .stopping else .running) = true := by
    rcases checkpointPhase_cases phase with state | ⟨state, _⟩ <;>
      simp [state, checkpointing, proceeds]
  exact bound.advance .publishCheckpoint unrevoked
    ((unowned frame (by decide)).trans
      ((updateUnowned .checkpointReservations (by decide)).trans
        ((appendUnowned .checkpoints (by decide)).trans
          ((updateAttempt bound.attempt (by exact frame .attempts (by decide)) rfl bound.jobId.symm
            (attemptStatePatch _ now)).trans (.event written)))))
    (by decide) (by decide) (proceed_advances _ _ _ _ _ rfl proceed)

theorem publishCheckpoint_called {request : PublishRequest}
    (published : publishCheckpoint db call attemptId callback request = .ok (after, answer)) :
    Called db call request.authority.workerId .publishCheckpoint callback request.authority after
      answer := by
  simp only [publishCheckpoint, bind_eq_ok] at published
  obtain ⟨⟨opened, found⟩, called, published⟩ := published
  obtain ⟨rfl, replay | ⟨rows, opens, published⟩⟩ := callbackRows_called called published
  · exact replay
  · simp only [bind_eq_ok, require_eq_ok, orFail_eq_ok, exists_const] at published
    obtain ⟨_, _, _, _, alive, ⟨checkpointing, phase⟩, _, _, _, _, _, published⟩ := published
    obtain ⟨_, _, unrevoked⟩ := liveAuthority_ok alive
    split at published
    next => simp at published
    next =>
      rw [bind_eq_ok] at published
      obtain ⟨done, rejected, completed⟩ := published
      obtain ⟨frame, moves⟩ := rejectCheckpoint_moves opens.bound unrevoked checkpointing phase rejected
      exact .performed opens unrevoked frame moves.progress completed
    next verified _ _ _ accepted =>
      rw [bind_eq_ok] at published
      obtain ⟨done, committed, completed⟩ := published
      obtain ⟨frame, moves⟩ := commitCheckpoint_moves opens.bound unrevoked
        (verifiedCheckpointGraph_frame accepted) checkpointing phase committed
      exact .performed opens unrevoked frame moves.progress completed

theorem markEach_local {job : Job} {marks : List (CheckpointId × CheckpointReason)}
    (marked : markEach db job workerId now marks = .ok after) :
    ∃ events, Local job.jobId [.checkpointCorruptions] (eventsWrite job (.worker workerId) now events)
      db.rows after.rows := by
  induction marks generalizing db job with
  | nil =>
    simp only [markEach, ok_eq_ok] at marked
    subst marked
    exact ⟨[], .unowned (.refl _ _) (by decide)⟩
  | cons mark rest ih =>
    obtain ⟨checkpointId, reason⟩ := mark
    simp only [markEach, bind_eq_ok, require_eq_ok, exists_const] at marked
    obtain ⟨_, marked⟩ := marked
    split at marked
    next =>
      simp only [bind_eq_ok, require_eq_ok, exists_const] at marked
      exact ih marked.2
    next inserted stored =>
      simp only [Cleanup.event, bind_eq_ok, pure_eq_ok] at marked
      obtain ⟨_, ⟨_, written, rfl⟩, marked⟩ := marked
      obtain ⟨accepted, rfl⟩ := Database.insertRow_of_insert stored
      obtain ⟨events, rewritten⟩ := ih marked
      refine ⟨(.checkpointCorrupt, .checkpoint reason) :: events, ?_⟩
      exact ((appendUnowned .checkpointCorruptions (by decide)).trans
        ((event written).trans rewritten)).mono (by decide)

theorem markCorrupt_bound {marks : List (CheckpointId × CheckpointReason)}
    (marked : markCorrupt db call authority marks = .ok after) :
    ∃ rows, Bound db authority rows ∧ rows.lease.revokedAt = none ∧
      Moves .operation rows.job.jobId db.rows after.rows ∧
      Frame (.checkpointCorruptions :: ownedTables) db.rows after.rows := by
  simp only [markCorrupt, bind_eq_ok, require_eq_ok, exists_const] at marked
  obtain ⟨_, _, _, _, _, _, _, rows, found, _, alive, marked⟩ := marked
  obtain ⟨events, rewritten⟩ := markEach_local marked
  have bound := authorityRows_bound found
  have unrevoked := (liveAuthority_ok alive).2.2
  refine ⟨rows, bound, unrevoked, Moves.of_local rewritten bound.present ?_, rewritten.frame⟩
  intro v represents fits
  obtain ⟨onto, holding⟩ := bound.holding unrevoked represents
  obtain ⟨last, noted, control⟩ := holding.events (.worker authority.workerId) call.now events (.refl rows.job)
  have represented : Represents _ { rows.onto v with toControl := last.control } := noted.represents
  rw [control] at represented
  refine ⟨_, onto ▸ Move.note events.length 0, represented, ?_⟩
  rw [← onto]
  exact .steady (rewritten.frame _ (by decide)) _ _

end

end Nexa
