import Nexa.System.Transitions

namespace Nexa

open Relational Outcome Transition List Tables

section

variable {before after : Tables nexaSchema} {effects : List (JobId × Cause)}

theorem Effect.kept {item : JobId × Cause} (effect : Effect item before after) :
    ∀ table ∈ ownedTables, before.Kept after table := by
  cases effect with
  | moves moves => exact moves.kept
  | creates creates => exact creates.kept

theorem Progress.kept (progress : Progress effects before after) :
    ∀ table ∈ ownedTables, before.Kept after table := by
  induction progress with
  | quiet quiet => exact quiet.kept
  | cons effect _ _ ih => exact fun table inside => (effect.kept table inside).trans (ih table inside)

theorem Tables.Kept.revoked (kept : before.Kept after .attemptLeases) {lease : AttemptLease}
    (member : lease ∈ before .attemptLeases) (revoked : lease.revokedAt ≠ none) :
    ∃ later ∈ after .attemptLeases, later.leaseId = lease.leaseId ∧ later.attemptId = lease.attemptId ∧
      later.revokedAt ≠ none := by
  obtain ⟨later, inside, keys, indexes⟩ := kept lease member
  simp only [keysOf, List.cons.injEq, Key.mk.injEq, true_and, and_true] at keys
  refine ⟨later, inside, keys.1, keys.2.2.2.1, fun opened => ?_⟩
  cases state : lease.revokedAt with
  | none => exact revoked state
  | some time =>
    simp only [indexesOf, opened, state] at indexes
    exact not_mem_nil (indexes mem_cons_self)

end

section

variable {settings : Settings} {first db after last : Db} {actions : List Action}

theorem kept_step (sound : Sound db) {action : Action} (step : (controlPlane settings).step db action after)
    {table : Table} (inside : table ∈ ownedTables) : db.rows.Kept after.rows table := by
  obtain ⟨_, effects, transacts⟩ := step_spec sound step
  exact transacts.progress.kept table inside

theorem kept_run (reachable : (controlPlane settings).Reachable first)
    (run : (controlPlane settings).Run first actions last) {table : Table} (inside : table ∈ ownedTables) :
    first.rows.Kept last.rows table := by
  induction run with
  | nil => exact .of_same rfl
  | cons step _ ih =>
    exact (kept_step (reachable_sound reachable) step inside).trans (ih (reachable.step step))

theorem Called.unrevoked {call : Call} {workerId : WorkerId} {operation : CallbackOperation}
    {callback : Callback} {authority : Authority} {answer : Acknowledgment}
    (called : Called db call workerId operation callback authority after answer) :
    after = db ∨ ∃ lease ∈ db.rows .attemptLeases, lease.attemptId = authority.attemptId ∧
      lease.revokedAt = none := by
  cases called with
  | replayed same _ => exact .inl same
  | @performed _ _ rows _ opens unrevoked _ _ _ =>
    have member := opens.bound.lease
    rw [opens.receipt, append_other _ _ (by decide)] at member
    exact .inr ⟨rows.lease, member, opens.bound.leaseAttempt, unrevoked⟩

theorem WorkerAction.execute_unrevoked {call : Call} {action : WorkerAction}
    (done : action.execute settings db call = .ok after) :
    after = db ∨ ∃ lease ∈ db.rows .attemptLeases, lease.attemptId = action.authority.attemptId ∧
      lease.revokedAt = none := by
  rcases action.execute_eq settings db call with
    ⟨authority, marks, rfl⟩ | ⟨request, rfl⟩ | ⟨result, answers, executes⟩
  · obtain ⟨rows, bound, unrevoked, _⟩ := markCorrupt_bound done
    exact .inr ⟨rows.lease, bound.lease, bound.leaseAttempt, unrevoked⟩
  · obtain ⟨rows, bound, unrevoked, _⟩ := bindUpload_bound done
    exact .inr ⟨rows.lease, bound.lease, bound.leaseAttempt, unrevoked⟩
  · obtain ⟨answer, committed⟩ := fst_eq_ok.1 (executes.symm.trans done)
    obtain ⟨_, _, _, _, called⟩ := WorkerAction.answer_called answers committed
    exact called.unrevoked

theorem fences_nodup (sound : Sound db) {job : Job} (member : job ∈ db.rows .jobs) :
    ((db.rows.slice job.jobId .attempts).map (·.jobFence)).Nodup ∧
      ((db.rows.slice job.jobId .attemptLeases).map (·.jobFence)).Nodup := by
  obtain ⟨v, represents, fits⟩ := sound.tracked job member
  have fences := represents.fences
  simp only [fencesOf, Prod.mk.injEq] at fences
  rw [fences.1, fences.2]
  exact ⟨fits.fences.1, fits.fences.1⟩

theorem attempt_fence (sound : Sound db) {attempt other : Attempt} (member : attempt ∈ db.rows .attempts)
    (otherMember : other ∈ db.rows .attempts) (sameJob : attempt.jobId = other.jobId)
    (sameFence : attempt.jobFence = other.jobFence) : attempt = other := by
  obtain ⟨job, jobMember, named⟩ := attempt_owned db member
  refine inj_on_of_nodup_map (fences_nodup sound jobMember).1 ?_ ?_ sameFence
  · exact mem_slice.2 ⟨member, congrArg some named.symm⟩
  · exact mem_slice.2 ⟨otherMember, congrArg some (sameJob.symm.trans named.symm)⟩

theorem lease_of_attempt (sound : Sound db) {lease other : AttemptLease}
    (member : lease ∈ db.rows .attemptLeases) (otherMember : other ∈ db.rows .attemptLeases)
    (same : lease.attemptId = other.attemptId) : lease = other := by
  obtain ⟨attempt, attemptMember, named, owned, fence⟩ := lease_attempt db member
  obtain ⟨parent, parentMember, otherNamed, otherOwned, otherFence⟩ := lease_attempt db otherMember
  obtain rfl := attempt_unique db attemptMember parentMember (named.trans (same.trans otherNamed.symm))
  obtain ⟨job, jobMember, jobNamed⟩ := attempt_owned db attemptMember
  refine inj_on_of_nodup_map (fences_nodup sound jobMember).2 ?_ ?_ (fence.symm.trans otherFence)
  · exact mem_slice.2 ⟨member, congrArg some (owned.symm.trans jobNamed.symm)⟩
  · exact mem_slice.2 ⟨otherMember, congrArg some (otherOwned.symm.trans jobNamed.symm)⟩

theorem revoked_step (sound : Sound db) {lease : AttemptLease} (member : lease ∈ db.rows .attemptLeases)
    (revoked : lease.revokedAt ≠ none) {call : Call} {action : WorkerAction}
    (carried : action.authority.attemptId = lease.attemptId)
    (step : (controlPlane settings).step db (.worker call action) after) : after = db := by
  change after = committed db (action.execute settings db call) at step
  cases done : action.execute settings db call with
  | error failure =>
    rw [done] at step
    exact step
  | ok next =>
    rw [done] at step
    subst step
    rcases WorkerAction.execute_unrevoked done with same | ⟨other, otherMember, named, opened⟩
    · exact same
    · obtain rfl := lease_of_attempt sound otherMember member (named.trans carried)
      exact absurd opened revoked

/-- Fences only grow and are never shared, and a revoked lease gives no callback anything to write at any later time. -/
theorem revoked_authority_powerless (reachable : (controlPlane settings).Reachable first)
    (run : (controlPlane settings).Run first actions last) :
    (∀ job ∈ first.rows .jobs, ∀ later ∈ last.rows .jobs, later.jobId = job.jobId -> job.jobFence ≤ later.jobFence) ∧
      (∀ attempt ∈ last.rows .attempts, ∀ other ∈ last.rows .attempts, attempt.jobId = other.jobId ->
        attempt.jobFence = other.jobFence -> attempt = other) ∧
      ∀ lease ∈ first.rows .attemptLeases, lease.revokedAt ≠ none ->
        ∀ (call : Call) (action : WorkerAction) (after : Db), action.authority.attemptId = lease.attemptId ->
          (controlPlane settings).step last (.worker call action) after -> after = last := by
  have sound := reachable_sound (reachable.run run)
  refine ⟨?_, ?_, ?_⟩
  · intro job member later laterMember same
    obtain ⟨v, next, _, _, leads, _, control, laterControl⟩ := job_run reachable run member laterMember same
    have fence : job.jobFence = v.fence := congrArg Control.fence control
    have laterFence : later.jobFence = next.fence := congrArg Control.fence laterControl
    rw [fence, laterFence]
    exact leads.fence_le
  · intro attempt member other otherMember
    exact attempt_fence sound member otherMember
  · intro lease member revoked call action after carried step
    obtain ⟨later, laterMember, _, named, still⟩ :=
      Tables.Kept.revoked (kept_run reachable run (by decide)) member revoked
    exact revoked_step sound laterMember still (carried.trans named.symm) step

theorem revoked_authority_powerless_session :
    let first := perform localSettings installation (runningSession ++ [sessionPause, sessionReap])
    let last := perform localSettings first [sessionRecovery, sessionPromote]
    (∃ lease ∈ first.rows .attemptLeases, lease.revokedAt ≠ none ∧ lease.attemptId = 500) ∧
      perform localSettings last [sessionComplete] = last := by
  intro first last
  refine ⟨recoveredSession_rows.2, ?_⟩
  obtain ⟨-, lease, member, closed, named⟩ := recoveredSession_rows
  have step := perform_step localSettings last sessionComplete
  refine (revoked_authority_powerless (perform_reachable localSettings _)
    (perform_run localSettings first _)).2.2 lease member closed _ _ _ ?_ step
  exact named.symm

end

end Nexa
