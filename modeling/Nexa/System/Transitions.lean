import Nexa.System.Custody
import Nexa.System.Histories

namespace Nexa

open Relational Outcome Transition

section

variable {settings : Settings} {db after : Db} {action : Action} {job later : Job}

theorem Represents.failed_attempt {jobId : JobId} {v : Lifecycle}
    (represents : Represents (db.rows.slice jobId) v) {failure : FailureClass} {resources : Resources}
    (custody : v.custody = .fenced (some failure) resources) :
    ∃ attempt ∈ db.rows.slice jobId .attempts, ∃ allocation, unreleased (db.rows.slice jobId) = [allocation] ∧
      allocation.state = .quarantined ∧ allocation.attemptId = attempt.attemptId ∧
      attempt.failureClass = some failure := by
  have holds := represents.custody
  rw [custody] at holds
  obtain ⟨attempt, allocation, fenced, failed, _⟩ := holds
  exact ⟨attempt, fenced.attemptMember, allocation, fenced.onlyAllocation, fenced.quarantined,
    fenced.allocationAttempt, failed⟩

theorem unreleased_retryWait (sound : Sound db) (member : job ∈ db.rows .jobs) (waiting : job.state = .retryWait) :
    unreleased (db.rows.slice job.jobId) = [] := by
  obtain ⟨v, represents, fits⟩ := sound.tracked job member
  have state : v.state = .retryWait :=
    (congrArg Control.state (represents.job_eq member rfl).2).symm.trans waiting
  exact (represents.vacant fits (by simp [state, idleStates])).1

theorem dispatchable_cases {desired : DesiredState} {intent : Option RecoveryIntent}
    (ready : dispatchable desired intent = true) :
    (desired = .running ∧ intent = none) ∨ (desired = .paused ∧ intent = some .checkpointForPause) := by
  cases desired <;> cases intent <;> simp_all [dispatchable]

theorem retryWait_due (sound : Sound db) (member : job ∈ db.rows .jobs) (waiting : job.state = .retryWait) :
    ∃ schedule, openSchedules (db.rows.slice job.jobId) = [schedule] ∧ schedule.retryNumber = job.retryCount ∧
      ∀ now, schedule.readyAt ≤ now -> due now job schedule = true := by
  obtain ⟨v, represents, fits⟩ := sound.tracked job member
  have control := (represents.job_eq member rfl).2
  have state : v.state = .retryWait := (congrArg Control.state control).symm.trans waiting
  have count : job.retryCount = v.retryCount := congrArg Control.retryCount control
  have ready : dispatchable job.desiredState job.recoveryIntent = true := by
    have desired : job.desiredState = v.desired := congrArg Control.desired control
    have intent : job.recoveryIntent = v.intent := congrArg Control.intent control
    rw [desired, intent]
    exact fits.waiting (.inr state)
  have numbers := represents.schedules
  rw [fits.schedules, if_pos state, List.map_eq_singleton_iff] at numbers
  obtain ⟨schedule, only, number⟩ := numbers
  have opened : schedule.closedAt = none := by
    have inside : schedule ∈ openSchedules (db.rows.slice job.jobId) := by simp [only]
    simpa [openSchedules] using (List.mem_filter.1 inside).2
  refine ⟨schedule, only, number.trans count.symm, fun now passed => ?_⟩
  simp [due, opened, passed, number, count, waiting, ready]

/-- Every transaction keeps to the published machine, and the control columns fit the state. -/
theorem transitions_published (reachable : (controlPlane settings).Reachable db) (member : job ∈ db.rows .jobs) :
    (∀ action after later, (controlPlane settings).step db action after -> later ∈ after.rows .jobs ->
      later.jobId = job.jobId ->
      (later.state ≠ job.state -> later.state ∈ published job.state) ∧
        (later.retryCount ≠ job.retryCount ->
          action.isCleanup = true ∧ later.retryCount = job.retryCount + 1 ∧
            unreleased (after.rows.slice job.jobId) = [] ∧
            -- The attempt that failed is the one whose resources this cleanup gives back.
            ∃ attempt ∈ db.rows.slice job.jobId .attempts, ∃ allocation,
              unreleased (db.rows.slice job.jobId) = [allocation] ∧ allocation.state = .quarantined ∧
                allocation.attemptId = attempt.attemptId ∧ attempt.failureClass = some .infrastructure)) ∧
      (job.recoveryIntent ≠ none -> job.desiredState = .paused ∨ job.state = .cancelling) ∧
      (job.state = .queued ∨ job.state = .retryWait ->
        (job.desiredState = .running ∧ job.recoveryIntent = none) ∨
          (job.desiredState = .paused ∧ job.recoveryIntent = some .checkpointForPause)) ∧
      (job.state = .retryWait ->
        ∃ schedule, openSchedules (db.rows.slice job.jobId) = [schedule] ∧ schedule.retryNumber = job.retryCount ∧
          ∀ now, schedule.readyAt ≤ now -> due now job schedule = true) ∧
      job.retryCount ≤ job.maxRetries := by
  have sound := reachable_sound reachable
  obtain ⟨v, represents, fits⟩ := sound.tracked job member
  have control := (represents.job_eq member rfl).2
  have state : job.state = v.state := congrArg Control.state control
  have desired : job.desiredState = v.desired := congrArg Control.desired control
  have intent : job.recoveryIntent = v.intent := congrArg Control.intent control
  have count : job.retryCount = v.retryCount := congrArg Control.retryCount control
  have budget : job.maxRetries = v.maxRetries := congrArg Control.maxRetries control
  refine ⟨?_, ?_, ?_, retryWait_due sound member, ?_⟩
  · intro action after later step laterMember same
    rcases control_step sound step member laterMember same with
      kept | ⟨v, cause, next, represents, move, before, now, cleans⟩
    · have state : later.state = job.state := congrArg Control.state kept
      have count : later.retryCount = job.retryCount := congrArg Control.retryCount kept
      exact ⟨fun changed => absurd state changed, fun changed => absurd count changed⟩
    · have state : job.state = v.state := congrArg Control.state before
      have laterState : later.state = next.state := congrArg Control.state now
      have count : job.retryCount = v.retryCount := congrArg Control.retryCount before
      have laterCount : later.retryCount = next.retryCount := congrArg Control.retryCount now
      rw [state, laterState, count, laterCount]
      refine ⟨move.published, fun changed => ?_⟩
      obtain ⟨cleanup, grows, waits, resources, custody⟩ := move.retryCount changed
      have given := unreleased_retryWait (reachable_sound (reachable.step step)) laterMember (laterState.trans waits)
      exact ⟨cleans cleanup, grows, same ▸ given, represents.failed_attempt custody⟩
  · rw [intent, desired, state]
    exact fits.intent
  · rw [intent, desired, state]
    exact fun waiting => dispatchable_cases (fits.waiting waiting)
  · rw [count, budget]
    exact fits.retries

end

def sessionPause : Action := .user (callAt 1700 1100) (.pause (sessionRequest 4 3))

def sessionReap : Action := .coordinator (.reap { holderId := 1, epoch := 1 } (seconds 50) 502)

def sessionRecovery : Action :=
  .cleanup (callAt (seconds 51) 1200) 1 500 { callbackId := 7, payloadHash := 7 }
    { workerId := 1, workerIncarnationId := 201, attemptId := 500, allocationId := 501, jobFence := 1
      jitter := sessionJitter
      proof :=
        { startupNonce := 503, executorOperationSequence := 2
          kind := .stopped { containerId := 1, runtimeIdentityDigest := 1 } (seconds 50) } }

def sessionPromote : Action := .coordinator (.promote { holderId := 1, epoch := 1 } (seconds 100) fun _ _ => true)

def sessionLaterHeartbeat : Action :=
  .heartbeat (callAt (seconds 101) 1300) 1 { callbackId := 8, payloadHash := 8 }
    { workerIncarnationId := 201, architecture := 1, allocatable := ⟨8000, 8000, 0⟩, checksum := 9
      discoveredAt := 1150, passes := true }

def sessionCancel : Action := .user (callAt (seconds 103) 1500) (.cancel (sessionRequest 5 8))

/-- The pause is lost with the worker, and the job waits to be run again for its checkpoint. -/
def recoveredSession : List Action := runningSession ++ [sessionPause, sessionReap, sessionRecovery]

theorem recoveredSession_rows :
    (∃ job ∈ (perform localSettings installation recoveredSession).rows .jobs, job.state = .retryWait) ∧
      ∃ lease ∈ (perform localSettings installation (runningSession ++ [sessionPause, sessionReap])).rows
        .attemptLeases, lease.revokedAt ≠ none ∧ lease.attemptId = 500 := by
  decide +kernel

theorem transitions_published_session :
    let db := perform localSettings installation recoveredSession
    ∃ job ∈ db.rows .jobs, job.state = .retryWait ∧
      ∃ schedule, openSchedules (db.rows.slice job.jobId) = [schedule] ∧
        schedule.retryNumber = job.retryCount := by
  intro db
  obtain ⟨⟨job, member, state⟩, -⟩ := recoveredSession_rows
  obtain ⟨schedule, only, number, _⟩ :=
    (transitions_published (perform_reachable localSettings recoveredSession) member).2.2.2.1 state
  exact ⟨job, member, state, schedule, only, number⟩

/-- The intent of the lost pause outlives a cancellation of the next attempt. -/
theorem intent_while_cancelling :
    ∃ job ∈ (perform localSettings installation (recoveredSession ++ [sessionPromote, sessionLaterHeartbeat,
        sessionDispatch (seconds 102) 1400 7, sessionCancel])).rows .jobs,
      job.recoveryIntent = some .checkpointForPause ∧ job.desiredState = .cancelled ∧
        job.state = .cancelling := by
  decide +kernel

end Nexa
