import Nexa.System.Reachable

namespace Nexa

open Relational Outcome Transition List

def Lifecycle.Leads : Lifecycle -> Lifecycle -> Prop := Relation.ReflTransGen fun v next => ∃ cause, Move v cause next

namespace Lifecycle.Leads

variable {v last : Lifecycle}

theorem fits (leads : v.Leads last) (fit : Fits v) : Fits last := by
  induction leads with
  | refl => exact fit
  | tail _ step ih =>
    obtain ⟨_, move⟩ := step
    exact move.fits ih

theorem fence_le (leads : v.Leads last) : v.fence ≤ last.fence := by
  induction leads with
  | refl => exact le_refl _
  | tail _ step ih =>
    obtain ⟨_, move⟩ := step
    exact ih.trans move.fence_le

theorem terminal (leads : v.Leads last) (ended : v.state.terminal = true) : last.state = v.state := by
  induction leads with
  | refl => rfl
  | tail _ step ih =>
    obtain ⟨_, move⟩ := step
    rw [move.terminal (ih ▸ ended), ih]

theorem cancelled (leads : v.Leads last) (fit : Fits v) (asked : v.desired = .cancelled) :
    last.desired = .cancelled := by
  induction leads with
  | refl => exact asked
  | tail before step ih =>
    obtain ⟨_, move⟩ := step
    exact move.desired_cancelled (fits before fit) ih

end Lifecycle.Leads

section

variable {settings : Settings} {first db after last : Db} {action : Action} {actions : List Action}
  {jobId : JobId} {v : Lifecycle}

theorem Represents.step (represents : Represents (db.rows.slice jobId) v) (fits : Fits v)
    (sound : Sound db) (step : (controlPlane settings).step db action after) :
    ∃ next, v.Leads next ∧ Represents (after.rows.slice jobId) next := by
  obtain ⟨_, effects, transacts⟩ := step_spec sound step
  rcases transacts.progress.moves represents fits with ⟨_, same⟩ | ⟨cause, next, _, move, represented⟩
  · exact ⟨v, .refl, same ▸ represents⟩
  · exact ⟨next, .single ⟨cause, move⟩, represented⟩

theorem control_step (sound : Sound db) (step : (controlPlane settings).step db action after)
    {job later : Job} (member : job ∈ db.rows .jobs) (laterMember : later ∈ after.rows .jobs)
    (same : later.jobId = job.jobId) :
    later.control = job.control ∨
      ∃ v cause next, Represents (db.rows.slice job.jobId) v ∧ Move v cause next ∧
        job.control = v.toControl ∧ later.control = next.toControl ∧
        (cause = .cleanup -> action.isCleanup = true) := by
  obtain ⟨v, represents, fits⟩ := sound.tracked job member
  obtain ⟨_, effects, transacts⟩ := step_spec sound step
  obtain ⟨only, control⟩ := represents.job_eq member rfl
  rcases transacts.progress.moves represents fits with ⟨_, slice⟩ | ⟨cause, next, effect, move, represented⟩
  · have inside : later ∈ after.rows.slice job.jobId .jobs := mem_jobs_slice.2 ⟨laterMember, same⟩
    rw [slice, only, mem_singleton] at inside
    exact .inl (inside ▸ rfl)
  · exact .inr ⟨v, cause, next, represents, move, control, (represented.job_eq laterMember same).2,
      transacts.released _ effect⟩

theorem Represents.run (represents : Represents (first.rows.slice jobId) v) (fits : Fits v)
    (reachable : (controlPlane settings).Reachable first)
    (run : (controlPlane settings).Run first actions last) :
    ∃ next, v.Leads next ∧ Represents (last.rows.slice jobId) next := by
  induction run generalizing v with
  | nil => exact ⟨v, .refl, represents⟩
  | cons step _ ih =>
    obtain ⟨between, leads, represented⟩ := represents.step fits (reachable_sound reachable) step
    obtain ⟨next, rest, ends⟩ := ih represented (leads.fits fits) (reachable.step step)
    exact ⟨next, leads.trans rest, ends⟩

theorem job_run (reachable : (controlPlane settings).Reachable first)
    (run : (controlPlane settings).Run first actions last) {job later : Job}
    (member : job ∈ first.rows .jobs) (laterMember : later ∈ last.rows .jobs)
    (same : later.jobId = job.jobId) :
    ∃ v next, Represents (first.rows.slice job.jobId) v ∧ Fits v ∧ v.Leads next ∧
      Represents (last.rows.slice job.jobId) next ∧ job.control = v.toControl ∧
      later.control = next.toControl := by
  obtain ⟨v, represents, fits⟩ := (reachable_sound reachable).tracked job member
  obtain ⟨next, leads, represented⟩ := represents.run fits reachable run
  exact ⟨v, next, represents, fits, leads, represented, (represents.job_eq member rfl).2,
    (represented.job_eq laterMember same).2⟩

theorem results_length (reachable : (controlPlane settings).Reachable db) {job : Job} (member : job ∈ db.rows .jobs) :
    (db.rows.slice job.jobId .results).length = if job.state = .succeeded then 1 else 0 := by
  obtain ⟨v, represents, fits⟩ := (reachable_sound reachable).tracked job member
  have state : job.state = v.state := congrArg Control.state (represents.job_eq member rfl).2
  rw [represents.results, fits.results, state]

theorem cancel_desired {prior : Db} {call : Call} {request : ControlRequest} {job : Job}
    (step : (controlPlane settings).step prior (.user call (.cancel request)) first) (member : job ∈ first.rows .jobs)
    (named : request.jobId = job.jobId) : first = prior ∨ job.desiredState = .cancelled := by
  change first = committed prior (Prod.fst <$> cancelJob settings prior call request) at step
  cases done : Prod.fst <$> cancelJob settings prior call request with
  | error failure => exact .inl (step.trans (by rw [done]; rfl))
  | ok after =>
    obtain ⟨_, cancelled⟩ := fst_eq_ok.1 done
    obtain rfl : first = after := step.trans (by rw [done]; rfl)
    exact (cancelJob_desired cancelled).imp_right fun all => all job member named.symm

/-- A job has a result exactly when it succeeded, and one at most; what has ended stays as it ended. -/
theorem results_once (reachable : (controlPlane settings).Reachable first)
    (run : (controlPlane settings).Run first actions last) {job later : Job}
    (member : job ∈ first.rows .jobs) (laterMember : later ∈ last.rows .jobs)
    (same : later.jobId = job.jobId) :
    ((last.rows .results).filter fun result => result.jobId = job.jobId).length ≤ 1 ∧
      ((∃ result ∈ last.rows .results, result.jobId = job.jobId) <-> later.state = .succeeded) ∧
      (job.desiredState = .cancelled -> ∀ result ∈ last.rows .results, result.jobId ≠ job.jobId) ∧
      (∀ prior call request, (controlPlane settings).step prior (.user call (.cancel request)) first ->
        request.jobId = job.jobId -> first = prior ∨ job.desiredState = .cancelled) ∧
      (job.state = .succeeded -> later.state = .succeeded) ∧
      (job.state.terminal = true -> later.state = job.state) := by
  obtain ⟨v, next, represents, fits, leads, represented, control, laterControl⟩ :=
    job_run reachable run member laterMember same
  have length := results_length (reachable.run run) laterMember
  have slice : last.rows.slice later.jobId .results =
      (last.rows .results).filter fun result => result.jobId = job.jobId := by
    rw [same]
    exact filter_congr fun result _ => decide_eq_decide.2 Option.some_inj
  rw [slice] at length
  have state : job.state = v.state := congrArg Control.state control
  have laterState : later.state = next.state := congrArg Control.state laterControl
  have ended : job.state.terminal = true -> later.state = job.state := by
    intro terminal
    rw [laterState, state]
    exact leads.terminal (state ▸ terminal)
  have exist : (∃ result ∈ last.rows .results, result.jobId = job.jobId) <-> later.state = .succeeded := by
    have positive := length_pos_iff_exists_mem (l := (last.rows .results).filter fun result =>
      result.jobId = job.jobId)
    rw [length] at positive
    simp only [mem_filter, decide_eq_true_eq] at positive
    rw [← positive]
    by_cases succeeded : later.state = .succeeded <;> simp [succeeded]
  refine ⟨?_, exist, ?_, fun _ _ _ step => cancel_desired step member, ?_, ended⟩
  · rw [length]
    split_ifs <;> omega
  · intro asked result inside named
    have succeeded := exist.1 ⟨result, inside, named⟩
    have desired : next.desired = .cancelled :=
      leads.cancelled fits ((congrArg Control.desired control).symm.trans asked)
    -- A job that was asked to end is never one that succeeded.
    have state := ((leads.fits fits).cancelled).1 desired
    rw [← laterState, succeeded] at state
    simp at state
  · intro succeeded
    rw [ended (by rw [succeeded]; rfl), succeeded]

def sessionRequest (key version : Nat) : ControlRequest where
  principal := operator
  key := key
  requestHash := key
  tenantId := 101
  jobId := 401
  ifMatch := some version

def sessionStop : Action := .user (callAt 1700 1100) (.cancel (sessionRequest 4 3))

theorem sessionStop_jobs :
    let running := perform localSettings installation runningSession
    let stopped := committed running (sessionStop.execute localSettings running)
    (∀ job ∈ running.rows .jobs, job.desiredState = .running) ∧
      ∃ job ∈ stopped.rows .jobs, job.jobId = 401 ∧ job.desiredState ≠ .running ∧
        ∃ later ∈ (perform localSettings stopped [sessionReserve, sessionComplete]).rows .jobs,
          later.jobId = job.jobId := by
  decide +kernel

theorem results_once_session :
    let first := perform localSettings installation runningSession
    let last := perform localSettings first [sessionReserve, sessionComplete, sessionCleanup]
    let stopped := committed first (sessionStop.execute localSettings first)
    (∃ job ∈ first.rows .jobs, ∃ later ∈ last.rows .jobs, later.jobId = job.jobId ∧
      later.state = .succeeded ∧ ∃ result ∈ last.rows .results, result.jobId = job.jobId) ∧
    ∃ job ∈ stopped.rows .jobs, job.desiredState = .cancelled ∧
      ∀ result ∈ (perform localSettings stopped [sessionReserve, sessionComplete]).rows .results,
        result.jobId ≠ job.jobId := by
  intro first last stopped
  have reachable := perform_reachable localSettings runningSession
  constructor
  · obtain ⟨⟨job, member, -, later, laterMember, same, succeeded⟩, -⟩ := session_jobs
    refine ⟨job, member, later, laterMember, same, succeeded, ?_⟩
    exact (results_once reachable (perform_run localSettings first _) member laterMember same).2.1.2 succeeded
  · obtain ⟨unasked, job, member, named, asked, later, laterMember, same⟩ := sessionStop_jobs
    have once := results_once (reachable.step rfl) (perform_run localSettings stopped _) member laterMember same
    have cancelled := (once.2.2.2.1 first _ (sessionRequest 4 3) rfl named.symm).resolve_left fun still =>
      asked (unasked job (still.subst (motive := fun db => job ∈ db.rows .jobs) member))
    exact ⟨job, member, cancelled, once.2.2.1 cancelled⟩

end

end Nexa
