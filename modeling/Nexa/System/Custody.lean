import Nexa.System.Receipts

namespace Nexa

open Relational Outcome Transition

section

variable {s : Tables nexaSchema} {v : Lifecycle}

def idleStates : List JobState := [.queued, .retryWait, .paused, .failed, .cancelled]

theorem vacant_of_idle {state : JobState} {custody : Custody} (idle : state ∈ idleStates)
    (allowed : custodyFits state custody = true) : custody = .vacant := by
  simp only [idleStates, List.mem_cons, List.not_mem_nil, or_false] at idle
  cases custody with
  | vacant => rfl
  | live attempt intent resources => rcases idle with rfl | rfl | rfl | rfl | rfl <;> simp at allowed
  | fenced failure resources => rcases idle with rfl | rfl | rfl | rfl | rfl <;> simp at allowed

theorem Represents.vacant (represents : Represents s v) (fits : Fits v) (idle : v.state ∈ idleStates) :
    unreleased s = [] ∧ openLeases s = [] ∧ openGrants s = [] := by
  have holds := represents.custody
  rw [vacant_of_idle idle fits.custody] at holds
  exact holds

theorem Represents.live (represents : Represents s v) (fits : Fits v)
    (working : v.state = .dispatching ∨ v.state = .running) : ∃ rows, Live s rows := by
  have allowed := fits.custody
  have holds := represents.custody
  cases custody : v.custody with
  | live attempt intent resources =>
    rw [custody] at holds
    obtain ⟨rows, live, _⟩ := holds
    exact ⟨rows, live⟩
  | vacant | fenced =>
    rw [custody] at allowed
    rcases working with state | state <;> rw [state] at allowed <;> simp at allowed

theorem Represents.fenced (represents : Represents s v) (fits : Fits v)
    (ending : v.state = .recovering ∨ v.state = .cancelling) :
    ∃ attempt allocation, Fenced s attempt allocation ∧
      (v.state = .recovering -> attempt.failureClass ≠ none) := by
  have allowed := fits.custody
  have holds := represents.custody
  cases custody : v.custody with
  | fenced failure resources =>
    rw [custody] at holds allowed
    obtain ⟨attempt, allocation, fenced, rfl, _⟩ := holds
    refine ⟨attempt, allocation, fenced, fun recovering => ?_⟩
    rw [recovering] at allowed
    cases failed : attempt.failureClass with
    | none => simp [failed] at allowed
    | some failure => simp
  | vacant | live =>
    rw [custody] at allowed
    rcases ending with state | state <;> rw [state] at allowed <;> simp at allowed

theorem Represents.unreleased_le (represents : Represents s v) : (unreleased s).length ≤ 1 := by
  have holds := represents.custody
  cases custody : v.custody with
  | vacant =>
    rw [custody] at holds
    simp [holds.1]
  | live attempt intent resources =>
    rw [custody] at holds
    obtain ⟨rows, live, _⟩ := holds
    simp [live.onlyAllocation]
  | fenced failure resources =>
    rw [custody] at holds
    obtain ⟨attempt, allocation, fenced, _⟩ := holds
    simp [fenced.onlyAllocation]

end

section

variable {settings : Settings} {db after : Db}

theorem reportCleanup_verified (reliable : Reliable db) {call : Call} {workerId : WorkerId}
    {attemptId : AttemptId} {callback : Callback} {request : CleanupRequest} {answer : Acknowledgment}
    (done : reportCleanup settings db call workerId attemptId callback request = .ok (after, answer)) :
    answer.isVerified = true := by
  have receives := (reportCleanup_cleaned done).receives reliable.sound.tracked reliable.settled
  cases receives with
  | replayed same answered =>
    obtain ⟨receipt, member, _, operation, _, _, filled⟩ := answered
    obtain ⟨stored, is, verified⟩ := reliable.settled receipt member
    rw [filled, Option.some.injEq] at is
    exact is ▸ verified operation
  | performed _ _ verified => exact verified rfl

/-- The state of a job decides what is held for it and who has authority. -/
theorem custody_by_state (reachable : (controlPlane settings).Reachable db) :
    (∀ job ∈ db.rows .jobs, (unreleased (db.rows.slice job.jobId)).length ≤ 1 ∧
      (job.state ∈ idleStates -> unreleased (db.rows.slice job.jobId) = [] ∧
        openLeases (db.rows.slice job.jobId) = [] ∧ openGrants (db.rows.slice job.jobId) = []) ∧
      (job.state = .dispatching ∨ job.state = .running ->
        ∃ attempt ∈ db.rows.slice job.jobId .attempts, ∃ allocation lease grant,
          unreleased (db.rows.slice job.jobId) = [allocation] ∧ allocation.state = .held ∧
            openLeases (db.rows.slice job.jobId) = [lease] ∧
            openGrants (db.rows.slice job.jobId) = [grant] ∧
            allocation.attemptId = attempt.attemptId ∧ lease.attemptId = attempt.attemptId ∧
            grant.attemptId = attempt.attemptId ∧ grant.jobFence = attempt.jobFence ∧
            grant.jobFence = job.jobFence) ∧
      (job.state = .recovering ∨ job.state = .cancelling ->
        openLeases (db.rows.slice job.jobId) = [] ∧ openGrants (db.rows.slice job.jobId) = [] ∧
          ∃ attempt ∈ db.rows.slice job.jobId .attempts, ∃ allocation,
            unreleased (db.rows.slice job.jobId) = [allocation] ∧ allocation.state = .quarantined ∧
              allocation.attemptId = attempt.attemptId ∧
              (job.state = .recovering -> attempt.failureClass ≠ none))) ∧
      ∀ call workerId attemptId callback request after answer,
        reportCleanup settings db call workerId attemptId callback request = .ok (after, answer) ->
          answer.isVerified = true := by
  have reliable := reachable_reliable reachable
  refine ⟨fun job member => ?_, fun _ _ _ _ _ _ _ => reportCleanup_verified reliable⟩
  obtain ⟨v, represents, fits⟩ := reliable.sound.tracked job member
  obtain ⟨only, control⟩ := represents.job_eq member rfl
  have state : job.state = v.state := congrArg Control.state control
  refine ⟨represents.unreleased_le, fun idle => represents.vacant fits (state ▸ idle), fun working => ?_,
    fun ending => ?_⟩
  · obtain ⟨rows, live⟩ := represents.live fits (state ▸ working)
    obtain rfl : rows.job = job := by
      have same := live.onlyJob
      rw [only] at same
      exact (List.singleton_inj.1 same).symm
    exact ⟨rows.attempt, live.attemptMember, rows.allocation, rows.lease, rows.grant, live.onlyAllocation,
      live.held, live.onlyLease, live.onlyGrant, live.allocationAttempt, live.leaseAttempt,
      live.grantAttempt, live.grantFence.trans live.attemptFence.symm, live.grantFence⟩
  · obtain ⟨attempt, allocation, fenced, failed⟩ := represents.fenced fits (state ▸ ending)
    exact ⟨fenced.noLease, fenced.noGrant, attempt, fenced.attemptMember, allocation, fenced.onlyAllocation,
      fenced.quarantined, fenced.allocationAttempt, fun recovering => failed (state ▸ recovering)⟩

theorem custody_by_state_session :
    let db := perform localSettings installation runningSession
    ∃ job ∈ db.rows .jobs, job.state = .running ∧
      ∃ allocation, unreleased (db.rows.slice job.jobId) = [allocation] ∧ allocation.state = .held := by
  intro db
  obtain ⟨⟨job, member, state, -⟩, -⟩ := session_jobs
  obtain ⟨_, _, allocation, _, _, only, held, _⟩ :=
    ((custody_by_state (perform_reachable localSettings runningSession)).1 job member).2.2.1 (.inr state)
  exact ⟨job, member, state, allocation, only, held⟩

theorem admission_counters_exact (reachable : (controlPlane settings).Reachable db) (scope : Scope) :
    outstandingOf db.rows scope = unfinishedIn db.rows scope ∧ activeOf db.rows scope = heldIn db.rows scope ∧
      (∀ job ∈ db.rows .jobs, scope ∈ job.scopes -> job.state.terminal = false -> 0 < outstandingOf db.rows scope) ∧
      ∀ row ∈ db.rows .allocations, inScope db.rows scope row.jobId = true -> row.state ≠ .released ->
        0 < activeOf db.rows scope := by
  obtain ⟨outstanding, active⟩ := (reachable_sound reachable).balanced scope
  refine ⟨outstanding, active, fun job member within unfinished => ?_, fun row member within held => ?_⟩
  · rw [outstanding]
    exact List.countP_pos_iff.mpr ⟨job, member, by simp [within, unfinished]⟩
  · rw [active]
    exact List.countP_pos_iff.mpr ⟨row, member, by simp [within, held]⟩

theorem admission_counters_exact_session :
    0 < outstandingOf (perform localSettings installation runningSession).rows .global := by
  obtain ⟨⟨job, member, state, -⟩, -⟩ := session_jobs
  exact (admission_counters_exact (perform_reachable localSettings runningSession) .global).2.2.1 job member
    List.mem_cons_self (state ▸ rfl)

end

end Nexa
