import Nexa.Application.Administration
import Nexa.Coordinator.Maintenance
import Nexa.Refinement.Control

namespace Nexa

open Relational Outcome List Tables Local Lifecycle Database

def leftoverWrite (s : Tables nexaSchema) (attemptId : AttemptId) (allocationId : AllocationId) (now : Time)
    (revokeReason : RevokeReason) : Tables nexaSchema :=
  ((s.update .attemptLeases (fun row => row.attemptId = attemptId ∧ row.revokedAt = none)
      (revokePatch now (some revokeReason)).apply).update
    .authorityGrants (fun row => row.attemptId = attemptId ∧ row.endedAt = none)
      (endGrantPatch now).apply).update
    .allocations (fun row => row.allocationId = allocationId ∧ row.state = .held) (quarantinePatch now).apply

section

variable {s : Tables nexaSchema} {v : Lifecycle} {rows : AuthorityRows}

theorem Represents.leftover (represents : Represents s v) (live : Live s rows) (now : Time)
    (revokeReason : RevokeReason) :
    Represents (leftoverWrite s rows.attempt.attemptId rows.lease.allocationId now revokeReason)
      { v with custody := .fenced rows.attempt.failureClass rows.allocation.resources } := by
  have fenced : Fenced (leftoverWrite s rows.attempt.attemptId rows.lease.allocationId now revokeReason)
      rows.attempt ((quarantinePatch now).apply rows.allocation) := by
    refine ⟨live.attemptMember, ?_, ?_, ?_, rfl, live.allocationAttempt⟩
    · refine unreleased_quarantine live.onlyAllocation ?_ ?_ now
      · simp [live.leaseAllocation, live.held]
      · intro row _ selected
        simp only [decide_eq_true_eq] at selected
        simp [selected.2]
    · have opened : rows.lease ∈ openLeases s := by simp [live.onlyLease]
      exact openLeases_revoke live.onlyLease (by simp [live.leaseAttempt, (mem_openLeases.1 opened).2])
        (revokePatch now (some revokeReason)) (by simp [revokePatch])
    · have opened : rows.grant ∈ openGrants s := by simp [live.onlyGrant]
      exact openGrants_end live.onlyGrant (by simp [live.grantAttempt, (mem_openGrants.1 opened).2])
        (endGrantPatch now) (by simp [endGrantPatch])
  have frame : Frame [.attempts, .allocations, .attemptLeases, .authorityGrants] s
      (leftoverWrite s rows.attempt.attemptId rows.lease.allocationId now revokeReason) :=
    ((Frame.update _ _ _ (by decide)).trans (.update _ _ _ (by decide))).trans
      (.update _ _ _ (by decide))
  exact represents.withCustody frame
    (fencesOf_leases s (fun row => row.attemptId = rows.attempt.attemptId ∧ row.revokedAt = none)
      (revokePatch now (some revokeReason)))
    ⟨_, _, fenced, rfl, rfl⟩

end

variable {db after : Db} {call : Call}

variable {lease : AttemptLease}

theorem Local.leftover {attempt : Attempt} (member : attempt ∈ db.rows .attempts)
    (leased : lease ∈ db.rows .attemptLeases) (same : lease.attemptId = attempt.attemptId) (now : Time)
    (revokeReason : RevokeReason) :
    Local attempt.jobId [.resultReservations, .checkpointReservations]
      (fun s => leftoverWrite s attempt.attemptId lease.allocationId now revokeReason) db.rows
      (revokeLeftoverAuthority db attempt.attemptId lease.allocationId now revokeReason).rows := by
  have leases : ∀ row ∈ db.rows .attemptLeases,
      decide (row.attemptId = attempt.attemptId ∧ row.revokedAt = none) = true ->
        ownerOf .attemptLeases row = some attempt.jobId := by
    intro row inside selected
    simp only [decide_eq_true_eq] at selected
    exact congrArg some (lease_owner db member inside selected.1)
  have allocations : ∀ row ∈ db.rows .allocations,
      decide (row.allocationId = lease.allocationId ∧ row.state = .held) = true ->
        ownerOf .allocations row = some attempt.jobId := by
    intro row inside selected
    simp only [decide_eq_true_eq] at selected
    obtain ⟨owner, ownerMember, sameAllocation, ownerJob⟩ := lease_allocation db leased
    obtain rfl := allocation_unique db inside ownerMember (selected.1.trans sameAllocation.symm)
    exact congrArg some (ownerJob.trans (lease_owner db member leased same))
  have core : Local attempt.jobId []
      (fun s => leftoverWrite s attempt.attemptId lease.allocationId now revokeReason) db.rows
      (leftoverWrite db.rows attempt.attemptId lease.allocationId now revokeReason) :=
    (update _ (revokePatch now (some revokeReason)) leases (by decide)).trans
      ((endGrants member (by rfl) rfl rfl now).trans
        (.update _ (quarantinePatch now) allocations (by decide)))
  exact core.trans (.unowned (abandonReservations_frame _ attempt.attemptId now) (by decide))

def revocationTables : List Table := .resultReservations :: .checkpointReservations :: ownedTables

theorem revokeLease_moves {revocation : Revocation} {now : Time} {job : Job} {attempt : Attempt}
    (member : job ∈ db.rows .jobs) (attemptMember : attempt ∈ db.rows .attempts)
    (leased : lease ∈ db.rows .attemptLeases) (owner : job.jobId = lease.jobId)
    (same : attempt.attemptId = lease.attemptId) (unrevoked : lease.revokedAt = none)
    (revoked : revokeLease db revocation now job attempt lease = .ok after) :
    Frame revocationTables db.rows after.rows ∧ Moves .operation job.jobId db.rows after.rows := by
  have attemptOwner : attempt.jobId = job.jobId :=
    ((lease_owner db attemptMember leased same.symm).symm.trans owner.symm)
  unfold revokeLease at revoked
  split at revoked
  next active =>
    have fenced := fence attemptMember now revocation.attemptState .infrastructure
      revocation.failureReason revocation.revokeReason
    rw [attemptOwner] at fenced
    have rewritten := fenced.trans (event revoked)
    refine ⟨rewritten.frame.mono (by decide), Moves.of_local rewritten (slice_present member) ?_⟩
    intro v represents fits
    obtain ⟨onlyJob, control⟩ := represents.job_eq member rfl
    obtain ⟨rows, live, sameLease, custody⟩ := represents.live_of_lease leased owner.symm unrevoked
    obtain rfl : rows.attempt = attempt := by
      refine live.attempt_eq attemptMember ?_
      rw [← live.leaseAttempt, sameLease, same]
    obtain ⟨_, held, schedules, results, fences⟩ := v
    obtain rfl := control
    have lost := represents.fence now revocation.attemptState .infrastructure revocation.failureReason
      (some revocation.revokeReason) live
    have moved := lost.event revocation.actor now revocation.fenced (some revocation.reason) false
      (recoverPatch (job.jobFence + 1)) onlyJob (.refl job) (.inr (lost.not_live rfl))
    refine ⟨_, Move.fence .infrastructure active.1 custody, moved, ?_⟩
    rw [load_live custody (active_unfinished active.1)]
    exact .steady (rewritten.frame _ (by decide)) _ _
  next inactive =>
    have left := leftover attemptMember leased same.symm now revocation.revokeReason
    rw [attemptOwner] at left
    have rewritten := left.trans (event revoked)
    refine ⟨rewritten.frame.mono (by decide), Moves.of_local rewritten (slice_present member) ?_⟩
    intro v represents fits
    obtain ⟨onlyJob, control⟩ := represents.job_eq member rfl
    obtain ⟨rows, live, rfl, custody⟩ := represents.live_of_lease leased owner.symm unrevoked
    obtain rfl : rows.attempt = attempt := by
      refine live.attempt_eq attemptMember ?_
      rw [← live.leaseAttempt, same]
    obtain ⟨_, held, schedules, results, fences⟩ := v
    obtain rfl := control
    -- A live attempt of an active job carries the fence of its job, so the job has succeeded.
    have succeeded : job.state = .succeeded := by
      have sameJob : rows.job = job := by simpa [live.onlyJob] using onlyJob
      have fence : rows.attempt.jobFence = job.jobFence := sameJob ▸ live.attemptFence
      have idle : ¬job.state.active = true := fun active => inactive ⟨active, fence⟩
      have allowed := fits.custody
      simp only at custody
      cases state : job.state <;> simp_all [Job.control, JobState.active]
    have left := represents.leftover live now revocation.revokeReason
    have moved := left.event revocation.actor now .leaseRevoked (some revocation.reason) true noChanges
      onlyJob (.refl job) (.inl rfl)
    refine ⟨_, Move.leftover _ succeeded custody, moved, ?_⟩
    have load : load ⟨job.control, held, schedules, results, fences⟩ = (0, 1) := by
      simp only at custody
      simp [load, outstanding, active, custody, Job.control, succeeded, JobState.terminal]
    rw [load]
    change Charged db.rows after.rows _ (0, 1) (if job.state.terminal then 0 else 1, 1)
    rw [succeeded]
    exact .steady (rewritten.frame _ (by decide)) _ _

theorem reapLeaseLocked_progress {leader : Leader} {now : Time} {leaseId : LeaseId}
    (reaped : reapLeaseLocked db leader now leaseId = .ok after) :
    Frame revocationTables db.rows after.rows ∧ Progresses .operation db.rows after.rows := by
  simp only [reapLeaseLocked, bind_eq_ok] at reaped
  obtain ⟨reference, found, reaped⟩ := reaped
  cases reference with
  | none =>
    rw [pure_eq_ok] at reaped
    exact reaped ▸ ⟨.refl _ _, .quiet (.refl _)⟩
  | some lease =>
    simp only [bind_eq_ok, one_eq_ok] at reaped
    obtain ⟨job, foundJob, attempt, foundAttempt, reaped⟩ := reaped
    split at reaped
    next =>
      rw [pure_eq_ok] at reaped
      exact reaped ▸ ⟨.refl _ _, .quiet (.refl _)⟩
    next expired =>
      obtain ⟨leased, _⟩ := mem_of_oneOrNone found
      obtain ⟨member, owner⟩ := mem_of_select foundJob
      obtain ⟨attemptMember, same⟩ := mem_of_select foundAttempt
      simp only [decide_eq_true_eq] at owner same
      simp only [not_or, ne_eq, not_not] at expired
      obtain ⟨frame, moves⟩ := revokeLease_moves member attemptMember leased owner same expired.1 reaped
      exact ⟨frame, moves.progress⟩

theorem reapLease_progress {leader : Leader} {now : Time} {leaseId : LeaseId}
    (reaped : reapLease db leader now leaseId = .ok after) :
    Frame revocationTables db.rows after.rows ∧ Progresses .operation db.rows after.rows := by
  simp only [reapLease, bind_eq_ok] at reaped
  obtain ⟨mode, _, reaped⟩ := reaped
  split at reaped
  next =>
    rw [pure_eq_ok] at reaped
    exact reaped ▸ ⟨.refl _ _, .quiet (.refl _)⟩
  next => exact reapLeaseLocked_progress reaped

section

variable {admin : UserId} {now : Time}

theorem fenceWorkerAttempt_cases {probe : AttemptLease} (member : probe ∈ db.rows .attemptLeases)
    (fenced : fenceWorkerAttempt admin now db probe = .ok after) :
    after = db ∨ Frame revocationTables db.rows after.rows ∧
      Moves .operation probe.jobId db.rows after.rows := by
  simp only [fenceWorkerAttempt, bind_eq_ok, one_eq_ok] at fenced
  obtain ⟨job, foundJob, lease, foundLease, attempt, foundAttempt, fenced⟩ := fenced
  obtain ⟨jobMember, owner⟩ := mem_of_select foundJob
  obtain ⟨leased, sameLease⟩ := mem_of_select foundLease
  obtain ⟨attemptMember, same⟩ := mem_of_select foundAttempt
  simp only [decide_eq_true_eq] at owner sameLease same
  obtain rfl := lease_unique db leased member sameLease
  split at fenced
  next =>
    rw [pure_eq_ok] at fenced
    exact .inl fenced.symm
  next unrevoked =>
    rw [← owner]
    exact .inr (revokeLease_moves jobMember attemptMember leased owner same (not_not.1 unrevoked) fenced)

theorem fenceWorkerAttempts_progress {probes : List AttemptLease}
    (distinct : (probes.map (·.jobId)).Nodup) (members : ∀ probe ∈ probes, probe ∈ db.rows .attemptLeases)
    (fenced : probes.foldlM (fenceWorkerAttempt admin now) db = .ok after) :
    Frame revocationTables db.rows after.rows ∧
      ∃ effects, (∀ effect ∈ effects, effect.2 = .operation ∧ effect.1 ∈ probes.map (·.jobId)) ∧
        Progress effects db.rows after.rows := by
  induction probes generalizing db with
  | nil =>
    rw [foldlM_nil, pure_eq_ok] at fenced
    subst fenced
    exact ⟨.refl _ _, [], by simp, .quiet (.refl _)⟩
  | cons probe rest ih =>
    rw [foldlM_cons, bind_eq_ok] at fenced
    obtain ⟨between, turn, fenced⟩ := fenced
    rw [map_cons, nodup_cons] at distinct
    rw [forall_mem_cons] at members
    rcases fenceWorkerAttempt_cases members.1 turn with rfl | ⟨written, moves⟩
    · obtain ⟨frame, effects, causes, progress⟩ := ih distinct.2 members.2 fenced
      refine ⟨frame, effects, fun effect inside => ?_, progress⟩
      exact ⟨(causes effect inside).1, mem_cons_of_mem _ (causes effect inside).2⟩
    · have kept : ∀ other ∈ rest, other ∈ between.rows .attemptLeases := by
        intro other inside
        refine moves.mem (members.2 other inside) rfl fun same => distinct.1 ?_
        exact mem_map.2 ⟨other, inside, same⟩
      obtain ⟨frame, effects, causes, progress⟩ := ih distinct.2 kept fenced
      refine ⟨written.trans frame, (probe.jobId, .operation) :: effects, ?_, .cons (.moves moves) ?_ progress⟩
      · rw [forall_mem_cons]
        refine ⟨⟨rfl, mem_cons_self⟩, fun effect inside => ?_⟩
        exact ⟨(causes effect inside).1, mem_cons_of_mem _ (causes effect inside).2⟩
      · intro inside
        obtain ⟨effect, listed, same⟩ := mem_map.1 inside
        have named : effect.1 = probe.jobId := same
        exact distinct.1 (named ▸ (causes effect listed).2)

end

theorem openLease_unique (tracked : Tracked db.rows) {other : AttemptLease}
    (member : lease ∈ db.rows .attemptLeases) (otherMember : other ∈ db.rows .attemptLeases)
    (unrevoked : lease.revokedAt = none) (otherUnrevoked : other.revokedAt = none)
    (same : lease.jobId = other.jobId) : lease = other := by
  obtain ⟨job, jobMember, owner⟩ := owner_job db member rfl
  obtain ⟨v, represents, _⟩ := tracked job jobMember
  obtain ⟨rows, live, rfl, _⟩ := represents.live_of_lease member owner.symm unrevoked
  have inside : other ∈ openLeases (db.rows.slice job.jobId) := by
    rw [mem_openLeases, mem_slice]
    exact ⟨⟨otherMember, congrArg some (same.symm.trans owner.symm)⟩, otherUnrevoked⟩
  rw [live.onlyLease, mem_singleton] at inside
  exact inside.symm

theorem mem_workerLeases {workerId : WorkerId} (listed : lease ∈ workerLeases db workerId) :
    lease ∈ db.rows .attemptLeases ∧ lease.revokedAt = none := by
  rw [workerLeases, mem_insertionSort] at listed
  have facts := mem_filter.1 listed
  simp only [decide_eq_true_eq] at facts
  exact ⟨facts.1, facts.2.1⟩

theorem workerLeases_nodup (tracked : Tracked db.rows) (workerId : WorkerId) :
    ((workerLeases db workerId).map (·.jobId)).Nodup := by
  have rows : (workerLeases db workerId).Nodup := by
    rw [workerLeases, (perm_insertionSort _ _).nodup_iff]
    exact (db.nodup (by simp [keysOf])).filter _
  refine rows.map_on ?_
  intro lease listed other otherListed same
  obtain ⟨member, unrevoked⟩ := mem_workerLeases listed
  obtain ⟨otherMember, otherUnrevoked⟩ := mem_workerLeases otherListed
  exact openLease_unique tracked member otherMember unrevoked otherUnrevoked same

def WorkerAdminRequest.requestKey (request : WorkerAdminRequest) (operation : RequestOperation) : RequestKey where
  context := .global
  principalId := request.principal.userId
  operation := operation
  key := request.key

theorem Quiet.record {opened : Db} {record : IdempotencyRecord}
    (inserted : opened.rows = db.rows.append .idempotencyRecords record) : Quiet db.rows opened.rows := by
  have frame : Frame [.idempotencyRecords] db.rows opened.rows := inserted ▸ .append _ _ (mem_singleton_self _)
  exact .of_frame frame (by decide)

variable {request : WorkerAdminRequest} {response : StoredResponse}

theorem mutateWorker_requested {operation : RequestOperation} {status : Nat}
    {apply : Db -> Worker -> Outcome (Db × WorkerChanges)}
    (tracked : Tracked db.rows) (updates : .workers ∈ operation.writes)
    (applies : ∀ {db next : Db} {worker : Worker} {changes : WorkerChanges}, Tracked db.rows ->
      apply db worker = .ok (next, changes) ->
      Frame operation.writes db.rows next.rows ∧ Progresses .operation db.rows next.rows)
    (done : mutateWorker db call operation status request apply = .ok (after, response)) :
    Requested db call (request.requestKey operation) request.requestHash after response := by
  simp only [mutateWorker, bind_eq_ok] at done
  obtain ⟨_, _, ⟨opened, replay⟩, begun, done⟩ := done
  obtain ⟨same, stored⟩ | ⟨fresh, record, done⟩ :=
    beginIdempotency_requested (request.requestKey operation) begun done
  · exact .replayed same stored
  · simp only [bind_eq_ok, require_eq_ok, exists_const] at done
    obtain ⟨_, _, _, _, _, _, worker, _, _, ⟨next, changes⟩, applied, completing⟩ := done
    obtain ⟨frame, progress⟩ := applies (tracked.of_quiet (.record record)) applied
    have closing : Frame [.workers] next.rows
        (next.update .workers (fun row => row.workerId = request.workerId)
          (workerAdminPatch changes (worker.version + 1))).rows :=
      .update _ _ _ (mem_singleton_self _)
    obtain rfl := (completeIdempotency_frame completing).2
    exact .performed fresh record (frame.trans (.update _ _ _ updates))
      (progress.to_quiet (.of_frame closing (by decide))).proceeds completing (.inl rfl)

theorem drainWorker_requested
    (tracked : Tracked db.rows) (done : drainWorker db call request = .ok (after, response)) :
    Requested db call (request.requestKey .drainWorker) request.requestHash after response := by
  refine mutateWorker_requested tracked (by decide) ?_ done
  intro db next worker changes _ applied
  simp only [bind_eq_ok, require_eq_ok, pure_eq_ok, Prod.mk.injEq, exists_const] at applied
  exact applied.2.1 ▸ ⟨.refl _ _, .quiet (.refl _)⟩

theorem enableWorker_requested {readiness : Option ApplicationError} (tracked : Tracked db.rows)
    (done : enableWorker db call readiness request = .ok (after, response)) :
    Requested db call (request.requestKey .enableWorker) request.requestHash after response := by
  refine mutateWorker_requested tracked (by decide) ?_ done
  intro db next worker changes _ applied
  simp only [bind_eq_ok, require_eq_ok, pure_eq_ok, Prod.mk.injEq, exists_const] at applied
  obtain ⟨_, _, _, _, _, rfl, _⟩ := applied
  exact ⟨.refl _ _, .quiet (.refl _)⟩

theorem disableWorker_requested
    (tracked : Tracked db.rows) (done : disableWorker db call request = .ok (after, response)) :
    Requested db call (request.requestKey .disableWorker) request.requestHash after response := by
  refine mutateWorker_requested tracked (by decide) ?_ done
  intro db next worker changes tracked applied
  simp only [bind_eq_ok, require_eq_ok, pure_eq_ok, Prod.mk.injEq, exists_const] at applied
  obtain ⟨_, _, fenced, rfl, _⟩ := applied
  obtain ⟨frame, effects, causes, progress⟩ := fenceWorkerAttempts_progress (workerLeases_nodup tracked _)
    (fun probe listed => (mem_workerLeases listed).1) fenced
  exact ⟨frame.mono (by decide), effects, fun effect inside => (causes effect inside).1, progress⟩

end Nexa
