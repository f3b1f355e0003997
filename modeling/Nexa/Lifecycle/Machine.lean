import Nexa.Store.Rows

namespace Nexa

open List

structure Control where
  tenantId : TenantId
  submitter : UserId
  state : JobState
  desired : DesiredState
  intent : Option RecoveryIntent
  version : Nat
  fence : Nat
  sequence : Nat
  retryCount : Nat
  maxRetries : Nat
  ticket : Nat

def Job.control (job : Job) : Control where
  tenantId := job.tenantId
  submitter := job.submitterUserId
  state := job.state
  desired := job.desiredState
  intent := job.recoveryIntent
  version := job.version
  fence := job.jobFence
  sequence := job.eventSequence
  retryCount := job.retryCount
  maxRetries := job.maxRetries
  ticket := job.readySequence

inductive Custody where
  | vacant
  /-- A worker has authority under an open lease. -/
  | live (attempt : AttemptState) (intent : ExecutionIntent) (resources : Resources)
  /-- The authority is gone, the container may still run. -/
  | fenced (failure : Option FailureClass) (resources : Resources)

structure Lifecycle extends Control where
  custody : Custody
  schedules : List Nat
  results : Nat
  fences : List Nat

namespace Lifecycle

def scopes (v : Lifecycle) : List Scope := Scope.ofJob v.tenantId v.submitter

def outstanding (v : Lifecycle) : Nat := if v.state.terminal then 0 else 1

def active (v : Lifecycle) : Nat := match v.custody with
  | .vacant => 0
  | _ => 1

@[simp]
def noted (v : Lifecycle) (events versions : Nat) : Lifecycle :=
  { v with sequence := v.sequence + events, version := v.version + versions }

@[simp]
def recorded (v : Lifecycle) : Lifecycle := v.noted 1 1

def accepted (tenantId : TenantId) (submitter : UserId) (maxRetries ticket : Nat) : Lifecycle where
  tenantId := tenantId
  submitter := submitter
  state := .queued
  desired := .running
  intent := none
  version := 1
  fence := 0
  sequence := 1
  retryCount := 0
  maxRetries := maxRetries
  ticket := ticket
  custody := .vacant
  schedules := []
  results := 0
  fences := []

end Lifecycle

def proceeds : JobState -> AttemptState -> AttemptState -> Bool
  | .dispatching, .created, .claimed => true
  | .running, .running, .checkpointing => true
  | .running, .checkpointing, .running => true
  | .pausing, .running, .checkpointing => true
  | .pausing, .checkpointing, .running => true
  | .pausing, .checkpointing, .stopping => true
  | _, _, _ => false

@[simp]
def startedState : ExecutionIntent -> JobState
  | .run => .running
  | .checkpointForPause => .pausing

/-- A cleanup gives resources back, an entry into the queue takes a new place, the others change the job there. -/
inductive Cause where
  | operation | cleanup
  | enqueue (ticket : Nat)

inductive Move (v : Lifecycle) : Cause -> Lifecycle -> Prop where
  | note (events versions : Nat) : Move v .operation (v.noted events versions)
  | dispatch (resources : Resources) (queued : v.state = .queued)
      (ready : dispatchable v.desired v.intent = true) :
      Move v .operation { v.recorded with
        state := .dispatching, fence := v.fence + 1
        custody := .live .created (ExecutionIntent.ofRecovery v.intent) resources
        fences := v.fences ++ [v.fence + 1] }
  | progress {attempt : AttemptState} (next : AttemptState) {intent : ExecutionIntent}
      {resources : Resources} (events versions : Nat)
      (held : v.custody = .live attempt intent resources)
      (phase : proceeds v.state attempt next = true) :
      Move v .operation { v.noted events versions with custody := .live next intent resources }
  | start {intent : ExecutionIntent} {resources : Resources}
      (dispatching : v.state = .dispatching) (held : v.custody = .live .claimed intent resources)
      (desired : v.desired = if intent = .run then .running else .paused) :
      Move v .operation { v.recorded with
        state := startedState intent, custody := .live .running intent resources }
  | pause (running : v.state = .running) (desired : v.desired = .running) :
      Move v .operation { v.recorded with state := .pausing, desired := .paused }
  | abortPause {intent : ExecutionIntent} {resources : Resources}
      (pausing : v.state = .pausing) (plain : v.intent = none)
      (held : v.custody = .live .checkpointing intent resources) :
      Move v .operation { v.recorded with
        state := .running, desired := .running, custody := .live .running intent resources }
  | succeed {intent : ExecutionIntent} {resources : Resources}
      (running : v.state = .running) (desired : v.desired = .running)
      (held : v.custody = .live .running intent resources) :
      Move v .operation { v.recorded with
        state := .succeeded, custody := .live .succeeded intent resources
        results := v.results + 1 }
  | fence {attempt : AttemptState} {intent : ExecutionIntent} {resources : Resources}
      (failure : FailureClass) (active : v.state.active = true)
      (held : v.custody = .live attempt intent resources) :
      Move v .operation { v.recorded with
        state := .recovering, fence := v.fence + 1, custody := .fenced (some failure) resources }
  | leftover {attempt : AttemptState} {intent : ExecutionIntent}
      {resources : Resources} (failure : Option FailureClass) (succeeded : v.state = .succeeded)
      (held : v.custody = .live attempt intent resources) :
      Move v .operation { v.noted 1 0 with custody := .fenced failure resources }
  | cancelWaiting (waiting : v.state.immediateCancel = true) :
      Move v .operation { v.recorded with
        state := .cancelled, desired := .cancelled, intent := none, schedules := [] }
  | cancelActive {attempt : AttemptState} {intent : ExecutionIntent}
      {resources : Resources} (active : v.state.active = true)
      (held : v.custody = .live attempt intent resources) :
      Move v .operation { v.recorded with
        state := .cancelling, desired := .cancelled, fence := v.fence + 1
        custody := .fenced (some .userCancel) resources }
  | cancelRecovering (recovering : v.state = .recovering) :
      Move v .operation { v.recorded with state := .cancelling, desired := .cancelled }
  | resume (ticket : Nat) (paused : v.state = .paused) :
      Move v (.enqueue ticket) { v.recorded with
        state := .queued, desired := .running, intent := none, ticket }
  | promote (ticket : Nat) (waiting : v.state = .retryWait) :
      Move v (.enqueue ticket) { v.recorded with state := .queued, schedules := [], ticket }
  | releaseSucceeded (succeeded : v.state = .succeeded) :
      Move v .cleanup { v.recorded with custody := .vacant }
  | releaseCancelling (cancelling : v.state = .cancelling) :
      Move v .cleanup { v.recorded with state := .cancelled, intent := none, custody := .vacant }
  | releasePausing (pausing : v.state = .pausing) (desired : v.desired = .paused) :
      Move v .cleanup { v.recorded with state := .paused, intent := none, custody := .vacant }
  | releasePaused {resources : Resources} (recovering : v.state = .recovering)
      (held : v.custody = .fenced (some .infrastructure) resources) (desired : v.desired = .paused) :
      Move v .cleanup { v.recorded with state := .paused, intent := none, custody := .vacant }
  | releaseRetry {resources : Resources} (recovering : v.state = .recovering)
      (held : v.custody = .fenced (some .infrastructure) resources)
      (budget : v.retryCount < v.maxRetries) :
      Move v .cleanup { v.recorded with
        state := .retryWait
        intent := if v.desired = .paused then some .checkpointForPause else v.intent
        retryCount := v.retryCount + 1, custody := .vacant
        schedules := v.schedules ++ [v.retryCount + 1] }
  | releaseFailed (recovering : v.state = .recovering) :
      Move v .cleanup { v.recorded with state := .failed, intent := none, custody := .vacant }

@[simp]
def liveFits : JobState -> AttemptState -> Bool
  | .dispatching, .created | .dispatching, .claimed => true
  | .running, .running | .running, .checkpointing => true
  | .pausing, .running | .pausing, .checkpointing | .pausing, .stopping => true
  | .succeeded, _ => true
  | _, _ => false

@[simp]
def vacantFits : JobState -> Bool
  | .queued | .retryWait | .paused | .failed | .cancelled | .succeeded => true
  | _ => false

@[simp]
def custodyFits (state : JobState) : Custody -> Bool
  | .vacant => vacantFits state
  | .live attempt _ _ => liveFits state attempt
  | .fenced failure _ =>
    state = .recovering ∧ failure.isSome ∨ state = .cancelling ∨ state = .succeeded

def FencesFit (fences : List Nat) (fence : Nat) : Prop := fences.Nodup ∧ ∀ issued ∈ fences, issued ≤ fence

/-- The control columns fit the state, and the state fits the custody. -/
structure Fits (v : Lifecycle) : Prop where
  custody : custodyFits v.state v.custody = true
  intent : v.intent ≠ none -> v.desired = .paused ∨ v.state = .cancelling
  waiting : v.state = .queued ∨ v.state = .retryWait -> dispatchable v.desired v.intent = true
  cancelled : v.desired = .cancelled <-> v.state = .cancelling ∨ v.state = .cancelled
  schedules : v.schedules = if v.state = .retryWait then [v.retryCount] else []
  retries : v.retryCount ≤ v.maxRetries
  results : v.results = if v.state = .succeeded then 1 else 0
  fences : FencesFit v.fences v.fence

theorem FencesFit.raise {fences : List Nat} {fence : Nat} (fit : FencesFit fences fence) :
    FencesFit fences (fence + 1) :=
  ⟨fit.1, fun issued member => Nat.le_succ_of_le (fit.2 issued member)⟩

theorem FencesFit.issue {fences : List Nat} {fence : Nat} (fit : FencesFit fences fence) :
    FencesFit (fences ++ [fence + 1]) (fence + 1) := by
  refine ⟨?_, ?_⟩
  · rw [nodup_append]
    refine ⟨fit.1, by simp, ?_⟩
    intro issued member new fresh same
    have bound := fit.2 issued member
    rw [mem_singleton] at fresh
    omega
  · intro issued member
    rcases mem_append.1 member with old | fresh
    · exact fit.raise.2 issued old
    · exact (mem_singleton.1 fresh).le

theorem active_cases {state : JobState} (active : state.active = true) :
    state = .dispatching ∨ state = .running ∨ state = .pausing := by
  cases state <;> simp_all [JobState.active]

theorem immediateCancel_cases {state : JobState} (waiting : state.immediateCancel = true) :
    state = .queued ∨ state = .retryWait ∨ state = .paused := by
  cases state <;> simp_all [JobState.immediateCancel]

theorem liveFits_proceeds {state : JobState} {attempt next : AttemptState}
    (phase : proceeds state attempt next = true) : liveFits state next = true := by
  cases state <;> cases attempt <;> cases next <;> simp_all [proceeds]

theorem accepted_fits (tenantId : TenantId) (submitter : UserId) (maxRetries ticket : Nat) :
    Fits (Lifecycle.accepted tenantId submitter maxRetries ticket) := by
  constructor <;> simp [Lifecycle.accepted, dispatchable, FencesFit]

theorem custody_of_running {v : Lifecycle} (fits : Fits v) (running : v.state = .running) :
    ∃ attempt intent resources, v.custody = .live attempt intent resources ∧
      (attempt = .running ∨ attempt = .checkpointing) := by
  have allowed := fits.custody
  rw [running] at allowed
  cases held : v.custody with
  | vacant => simp [held] at allowed
  | live attempt intent resources =>
    refine ⟨attempt, intent, resources, rfl, ?_⟩
    cases attempt <;> simp_all
  | fenced failure resources => simp [held] at allowed

section

variable {v : Lifecycle}

theorem Fits.schedules_nil (fits : Fits v) (other : v.state ≠ .retryWait) : v.schedules = [] := by
  rw [fits.schedules, if_neg other]

theorem Fits.results_zero (fits : Fits v) (other : v.state ≠ .succeeded) : v.results = 0 := by
  rw [fits.results, if_neg other]

theorem Fits.desired_open (fits : Fits v) (other : v.state ≠ .cancelling ∧ v.state ≠ .cancelled) :
    v.desired ≠ .cancelled :=
  fun cancelled => (fits.cancelled.1 cancelled).elim other.1 other.2

theorem Fits.paused_of_intent (fits : Fits v) (other : v.state ≠ .cancelling) (some : v.intent ≠ none) :
    v.desired = .paused :=
  (fits.intent some).resolve_right other

theorem cancelled_iff_of_open {desired : DesiredState} {state : JobState} (other : desired ≠ .cancelled)
    (stays : state ≠ .cancelling ∧ state ≠ .cancelled) :
    desired = .cancelled <-> state = .cancelling ∨ state = .cancelled :=
  ⟨fun cancelled => absurd cancelled other, fun ended => (ended.elim stays.1 stays.2).elim⟩

theorem Fits.active_columns (fits : Fits v) (active : v.state.active = true) : v.schedules = [] ∧ v.results = 0 := by
  refine ⟨fits.schedules_nil fun same => ?_, fits.results_zero fun same => ?_⟩
  · rw [same] at active
    cases active
  · rw [same] at active
    cases active

theorem Fits.active_open (fits : Fits v) (active : v.state.active = true) : v.desired ≠ .cancelled := by
  refine fits.desired_open ⟨fun same => ?_, fun same => ?_⟩
  · rw [same] at active
    cases active
  · rw [same] at active
    cases active

theorem Fits.active_intent (fits : Fits v) (active : v.state.active = true) (some : v.intent ≠ none) :
    v.desired = .paused := by
  refine fits.paused_of_intent (fun same => ?_) some
  rw [same] at active
  cases active

theorem custodyFits_cancelling {custody : Custody} (fit : custodyFits .recovering custody = true) :
    custodyFits .cancelling custody = true := by
  cases custody with
  | vacant => cases fit
  | live attempt intent resources => cases attempt <;> cases fit
  | fenced failure resources => simp

theorem custodyFits_vacant {state next : JobState} {custody : Custody}
    (fit : custodyFits state custody = true) (vacant : state = .paused ∨ state = .retryWait ∨ state = .queued)
    (also : vacantFits next = true) : custodyFits next custody = true := by
  cases custody with
  | vacant => exact also
  | live attempt intent resources =>
    obtain rfl | rfl | rfl := vacant <;> cases attempt <;> cases fit
  | fenced failure resources =>
    obtain rfl | rfl | rfl := vacant <;> simp at fit

end

theorem Move.fits {cause : Cause} {v next : Lifecycle} (fits : Fits v) (move : Move v cause next) : Fits next := by
  cases move with
  | note =>
    exact ⟨fits.custody, fits.intent, fits.waiting, fits.cancelled, fits.schedules, fits.retries,
      fits.results, fits.fences⟩
  | dispatch resources queued ready =>
    have state : v.state ≠ .cancelling ∧ v.state ≠ .cancelled := by simp [queued]
    exact ⟨rfl, fun some => .inl (fits.paused_of_intent state.1 some), by simp,
      cancelled_iff_of_open (fits.desired_open state) (by simp),
      fits.schedules_nil (by simp [queued]), fits.retries, fits.results_zero (by simp [queued]),
      fits.fences.issue⟩
  | progress next events versions held phase =>
    exact ⟨liveFits_proceeds phase, fits.intent, fits.waiting, fits.cancelled, fits.schedules,
      fits.retries, fits.results, fits.fences⟩
  | @start intent resources dispatching held desired =>
    have active : v.state.active = true := by rw [dispatching]; rfl
    obtain ⟨schedules, results⟩ := fits.active_columns active
    cases intent <;>
      exact ⟨rfl, fun some => .inl (fits.active_intent active some), by simp,
        cancelled_iff_of_open (fits.active_open active) (by simp), schedules, fits.retries, results,
        fits.fences⟩
  | pause running desired =>
    obtain ⟨schedules, results⟩ := fits.active_columns (by rw [running]; rfl)
    obtain ⟨attempt, execution, resources, held, phase⟩ := custody_of_running fits running
    refine ⟨?_, fun _ => .inl rfl, by simp, by simp, schedules, fits.retries, results, fits.fences⟩
    show custodyFits .pausing v.custody = true
    rw [held]
    rcases phase with rfl | rfl <;> rfl
  | abortPause pausing plain held =>
    obtain ⟨schedules, results⟩ := fits.active_columns (by rw [pausing]; rfl)
    exact ⟨rfl, fun some => absurd plain some, by simp, by simp, schedules, fits.retries, results, fits.fences⟩
  | succeed running desired held =>
    have active : v.state.active = true := by rw [running]; rfl
    obtain ⟨schedules, results⟩ := fits.active_columns active
    exact ⟨rfl, fun some => .inl (fits.active_intent active some), by simp,
      cancelled_iff_of_open (fits.active_open active) (by simp), schedules, fits.retries,
      congrArg (· + 1) results, fits.fences⟩
  | fence failure active held =>
    obtain ⟨schedules, results⟩ := fits.active_columns active
    exact ⟨rfl, fun some => .inl (fits.active_intent active some), by simp,
      cancelled_iff_of_open (fits.active_open active) (by simp), schedules, fits.retries, results,
      fits.fences.raise⟩
  | leftover failure succeeded held =>
    refine ⟨?_, fits.intent, fits.waiting, fits.cancelled, fits.schedules, fits.retries, fits.results, fits.fences⟩
    simp [succeeded]
  | cancelWaiting waiting =>
    have columns : v.results = 0 := fits.results_zero fun same => by
      rw [same] at waiting
      cases waiting
    have states := immediateCancel_cases waiting
    refine ⟨custodyFits_vacant fits.custody ?_ rfl, fun some => absurd rfl some, by simp, by simp, rfl,
      fits.retries, columns, fits.fences⟩
    obtain state | state | state := states
    · exact .inr (.inr state)
    · exact .inr (.inl state)
    · exact .inl state
  | cancelActive active held =>
    obtain ⟨schedules, results⟩ := fits.active_columns active
    exact ⟨rfl, fun _ => .inr rfl, by simp, by simp, schedules, fits.retries, results, fits.fences.raise⟩
  | cancelRecovering recovering =>
    exact ⟨custodyFits_cancelling (recovering ▸ fits.custody), fun _ => .inr rfl, by simp, by simp,
      fits.schedules_nil (by simp [recovering]), fits.retries, fits.results_zero (by simp [recovering]),
      fits.fences⟩
  | resume ticket paused =>
    exact ⟨custodyFits_vacant fits.custody (.inl paused) rfl, fun some => absurd rfl some, fun _ => rfl,
      by simp, fits.schedules_nil (by simp [paused]), fits.retries, fits.results_zero (by simp [paused]),
      fits.fences⟩
  | promote ticket retry =>
    have state : v.state ≠ .cancelling ∧ v.state ≠ .cancelled := by simp [retry]
    exact ⟨custodyFits_vacant fits.custody (.inr (.inl retry)) rfl,
      fun some => .inl (fits.paused_of_intent state.1 some), fun _ => fits.waiting (.inr retry),
      cancelled_iff_of_open (fits.desired_open state) (by simp), rfl, fits.retries,
      fits.results_zero (by simp [retry]), fits.fences⟩
  | releaseSucceeded succeeded =>
    refine ⟨?_, fits.intent, fits.waiting, fits.cancelled, fits.schedules, fits.retries, fits.results, fits.fences⟩
    simp [succeeded]
  | releaseCancelling cancelling =>
    exact ⟨rfl, fun some => absurd rfl some, by simp, by simp [fits.cancelled.2 (.inl cancelling)],
      fits.schedules_nil (by simp [cancelling]), fits.retries, fits.results_zero (by simp [cancelling]),
      fits.fences⟩
  | releasePausing pausing desired =>
    obtain ⟨schedules, results⟩ := fits.active_columns (by rw [pausing]; rfl)
    exact ⟨rfl, fun some => absurd rfl some, by simp, by simp [desired], schedules, fits.retries, results,
      fits.fences⟩
  | releasePaused recovering held desired =>
    exact ⟨rfl, fun some => absurd rfl some, by simp, by simp [desired],
      fits.schedules_nil (by simp [recovering]), fits.retries, fits.results_zero (by simp [recovering]),
      fits.fences⟩
  | releaseRetry recovering held budget =>
    have state : v.state ≠ .cancelling ∧ v.state ≠ .cancelled := by simp [recovering]
    have unscheduled : v.schedules = [] := fits.schedules_nil (by simp [recovering])
    refine ⟨rfl, fun some => ?_, fun _ => ?_, cancelled_iff_of_open (fits.desired_open state) (by simp),
      congrArg (· ++ [v.retryCount + 1]) unscheduled, budget, fits.results_zero (by simp [recovering]),
      fits.fences⟩
    · by_cases paused : v.desired = .paused
      · exact .inl paused
      · simp only [paused, if_false] at some
        exact absurd (fits.paused_of_intent state.1 some) paused
    · cases desired : v.desired with
      | paused => simp [dispatchable, desired]
      | cancelled => exact absurd desired (fits.desired_open state)
      | running =>
        -- A job that wants to run has no intent to pause.
        have plain : v.intent = none := by
          by_contra some
          exact absurd ((fits.paused_of_intent state.1 some).symm.trans desired) (by decide)
        simp [dispatchable, plain, desired]
  | releaseFailed recovering =>
    have state : v.state ≠ .cancelling ∧ v.state ≠ .cancelled := by simp [recovering]
    exact ⟨rfl, fun some => absurd rfl some, by simp, cancelled_iff_of_open (fits.desired_open state) (by simp),
      fits.schedules_nil (by simp [recovering]), fits.retries, fits.results_zero (by simp [recovering]),
      fits.fences⟩

end Nexa
