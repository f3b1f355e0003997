import Nexa.Refinement.Requests

namespace Nexa

open Relational Outcome List Tables Local Lifecycle

section

variable {s : Tables nexaSchema} {v : Lifecycle} {jobId : JobId}

theorem Represents.closeSchedules (represents : Represents s v) (condition : RetrySchedule -> Bool)
    (all : ∀ schedule ∈ s .retrySchedules, schedule.closedAt = none -> condition schedule = true) (now : Time) :
    Represents (s.update .retrySchedules condition (closeSchedulePatch now).apply)
      { v with schedules := [] } := by
  refine ⟨represents.job, ?_, ?_, represents.results, represents.fences, represents.events⟩
  · have holds := represents.custody
    cases custody : v.custody with
    | vacant =>
      rw [custody] at holds
      exact holds
    | live state intent resources =>
      rw [custody] at holds
      obtain ⟨rows, live, facts⟩ := holds
      exact ⟨rows, { live with }, facts⟩
    | fenced failure resources =>
      rw [custody] at holds
      obtain ⟨attempt, allocation, fenced, facts⟩ := holds
      exact ⟨attempt, allocation, { fenced with }, facts⟩
  · rw [map_eq_nil_iff, openSchedules, update_same,
      filter_updateWhere_drop (fun row _ _ => by simp [closeSchedulePatch]), filter_eq_nil_iff]
    intro schedule inside
    simp only [mem_filter, decide_eq_true_eq] at inside
    simp [all schedule inside.1 inside.2]

end

variable {db after : Db} {call : Call} {settings : Settings}

variable {jobId : JobId}

theorem owned_schedules (rows : Tables nexaSchema) :
    ∀ schedule ∈ rows.slice jobId .retrySchedules, schedule.closedAt = none ->
      decide (schedule.jobId = jobId ∧ schedule.closedAt = none) = true := by
  intro schedule inside unclosed
  have owner : schedule.jobId = jobId := Option.some.inj (mem_slice.1 inside).2
  simp [unclosed, owner]

def Controls (operation : RequestOperation) (apply : Db -> ControlContext -> Outcome ControlStep) : Prop :=
  ∀ {db after : Db} {context : ControlContext} {step : ControlStep} {user : UserId},
    context.job ∈ db.rows .jobs -> CountersOf db.rows context.job.scopes context.counters ->
    apply db context = .ok step ->
    writeEvent step.db context.job (.user user) context.now step.eventType (some step.reason) false
      step.changes = .ok after ->
    Frame operation.writes db.rows after.rows ∧ Proceeds db.rows after.rows

theorem slice_present {job : Job} (member : job ∈ db.rows .jobs) : db.rows.slice job.jobId .jobs ≠ [] :=
  ne_nil_of_mem (mem_slice.2 ⟨member, rfl⟩)

theorem Lifecycle.load_vacant {v : Lifecycle} (fits : Fits v) (waiting : v.state.immediateCancel = true) :
    v.custody = .vacant ∧ v.load = (1, 0) := by
  have allowed := fits.custody
  have held : v.custody = .vacant := by
    cases custody : v.custody with
    | vacant => rfl
    | live attempt intent resources =>
      obtain state | state | state := immediateCancel_cases waiting <;>
        simp [custody, state] at allowed
    | fenced failure resources =>
      obtain state | state | state := immediateCancel_cases waiting <;>
        simp [custody, state] at allowed
  refine ⟨held, ?_⟩
  obtain state | state | state := immediateCancel_cases waiting <;>
    simp [load, outstanding, active, held, state, JobState.terminal]

theorem lockLiveAttempt_spec {attempt : Attempt} (found : lockLiveAttempt db jobId = .ok (some attempt)) :
    attempt ∈ db.rows .attempts ∧ attempt.jobId = jobId ∧
      ∃ lease ∈ db.rows .attemptLeases, lease.attemptId = attempt.attemptId ∧ lease.revokedAt = none := by
  have listed := oneOrNone_eq_some.1 found
  have inside : attempt ∈ [attempt] := mem_singleton_self _
  rw [← listed] at inside
  simp only [Database.select, mem_flatMap, mem_filter, mem_map, decide_eq_true_eq] at inside
  obtain ⟨row, ⟨member, owner⟩, lease, ⟨leased, names⟩, rfl⟩ := inside
  exact ⟨member, owner, lease, leased, names⟩

theorem lockLiveAttempt_none (absent : lockLiveAttempt db jobId = .ok none)
    {rows : AuthorityRows} (live : Live (db.rows.slice jobId) rows) : False := by
  have empty := oneOrNone_eq_none.1 absent
  obtain ⟨attemptMember, owner⟩ := mem_slice.1 live.attemptMember
  have leased : rows.lease ∈ openLeases (db.rows.slice jobId) := by
    rw [live.onlyLease]
    exact mem_singleton_self _
  obtain ⟨inside, unrevoked⟩ := mem_openLeases.1 leased
  have listed : rows.attempt ∈ (db.select .attempts fun attempt => attempt.jobId = jobId).flatMap fun attempt =>
      (db.select .attemptLeases fun lease =>
        lease.attemptId = attempt.attemptId ∧ lease.revokedAt = none).map fun _ => attempt := by
    simp only [Database.select, mem_flatMap, mem_filter, mem_map, decide_eq_true_eq]
    exact ⟨rows.attempt, ⟨attemptMember, Option.some.inj owner⟩, rows.lease,
      ⟨(mem_slice.1 inside).1, live.leaseAttempt, unrevoked⟩, rfl⟩
  rw [empty] at listed
  simp at listed

theorem custody_of_active {v : Lifecycle} (fits : Fits v) (active : v.state.active = true) :
    ∃ attempt intent resources, v.custody = .live attempt intent resources := by
  have allowed := fits.custody
  cases custody : v.custody with
  | live attempt intent resources => exact ⟨attempt, intent, resources, rfl⟩
  | vacant => obtain state | state | state := active_cases active <;> simp [custody, state] at allowed
  | fenced failure resources =>
    obtain state | state | state := active_cases active <;> simp [custody, state] at allowed

theorem active_unfinished {state : JobState} (active : state.active = true) : state.terminal = false := by
  obtain rfl | rfl | rfl := active_cases active <;> rfl

section

variable {context : ControlContext} {step : ControlStep} {user : UserId} (member : context.job ∈ db.rows .jobs)
  (written : writeEvent step.db context.job (.user user) context.now step.eventType (some step.reason) false
    step.changes = .ok after)

include member written

theorem cancelWaiting_moves (matched : CountersOf db.rows context.job.scopes context.counters)
    (waiting : context.job.state.immediateCancel = true) (cancelled : cancelWaiting db context = .ok step) :
    Frame RequestOperation.cancelJob.writes db.rows after.rows ∧
      Moves .operation context.job.jobId db.rows after.rows := by
  simp only [cancelWaiting, bind_eq_ok, pure_eq_ok] at cancelled
  obtain ⟨adjusted, charging, rfl⟩ := cancelled
  obtain ⟨charged, counted⟩ := adjustCounters_charged charging
    (matched.congr (by rfl)) (ofJob_nodup _ _)
  have closes (rows : Tables nexaSchema) : ∀ schedule ∈ rows .retrySchedules,
      decide (schedule.jobId = context.job.jobId ∧ schedule.closedAt = none) = true ->
        ownerOf .retrySchedules schedule = some context.job.jobId := by
    intro schedule _ selected
    simp only [decide_eq_true_eq] at selected
    exact congrArg some selected.1
  have rewritten := (updateUnowned .reservations (by decide)).trans
    ((update _ (closeSchedulePatch context.now) (closes _) (by decide)).trans
      ((unowned counted (by decide)).trans (event written)))
  refine ⟨rewritten.frame.mono (by decide), Moves.of_local rewritten (slice_present member) ?_⟩
  intro v represents fits
  obtain ⟨onlyJob, control⟩ := represents.job_eq member rfl
  obtain ⟨_, held, schedules, results, fences⟩ := v
  obtain rfl := control
  obtain ⟨vacant, load⟩ := load_vacant fits waiting
  obtain rfl : held = .vacant := vacant
  have closed := represents.closeSchedules _ (owned_schedules _) context.now
  have moved := closed.event (.user user) context.now .jobCancelled (some .userCancel) false
    (cancelledPatch context.now) onlyJob (.refl context.job) (.inl rfl)
  refine ⟨_, Move.cancelWaiting waiting, moved, ?_⟩
  rw [load]
  exact charged.around rfl (writeEvent_frame written _ (by decide))

theorem cancelActive_moves (active : context.job.state.active = true)
    (cancelled : cancelActive db context = .ok step) :
    Frame RequestOperation.cancelJob.writes db.rows after.rows ∧
      Moves .operation context.job.jobId db.rows after.rows := by
  simp only [cancelActive, bind_eq_ok] at cancelled
  obtain ⟨found, locked, cancelled⟩ := cancelled
  cases found with
  | none =>
    rw [pure_eq_ok] at cancelled
    subst cancelled
    have rewritten := event written
    refine ⟨rewritten.frame.mono (by decide), Moves.of_local rewritten (slice_present member) ?_⟩
    intro v represents fits
    obtain ⟨_, control⟩ := represents.job_eq member rfl
    have state : v.state.active = true := by
      rw [← control]
      exact active
    -- An active job has a live attempt, so the lease the lock looks for exists.
    obtain ⟨attempt, intent, resources, custody⟩ := custody_of_active fits state
    have holds := represents.custody
    rw [custody] at holds
    obtain ⟨rows, live, _⟩ := holds
    exact (lockLiveAttempt_none locked live).elim
  | some attempt =>
    rw [pure_eq_ok] at cancelled
    subst cancelled
    obtain ⟨attemptMember, owner, lease, leased, sameAttempt, unrevoked⟩ := lockLiveAttempt_spec locked
    have fenced := fence attemptMember context.now .stopping .userCancel .userCancel .userCancel
    rw [owner] at fenced
    have rewritten := fenced.trans (event written)
    refine ⟨rewritten.frame.mono (by decide), Moves.of_local rewritten (slice_present member) ?_⟩
    intro v represents fits
    obtain ⟨onlyJob, control⟩ := represents.job_eq member rfl
    have leaseOwner : lease.jobId = context.job.jobId := (lease_owner db attemptMember leased sameAttempt).trans owner
    obtain ⟨rows, live, sameLease, custody⟩ := represents.live_of_lease leased leaseOwner unrevoked
    obtain rfl : rows.attempt = attempt := by
      refine live.attempt_eq attemptMember ?_
      rw [← live.leaseAttempt, sameLease, sameAttempt]
    obtain ⟨_, held, schedules, results, fences⟩ := v
    obtain rfl := control
    have stopped := represents.fence context.now .stopping .userCancel .userCancel (some .userCancel) live
    have moved := stopped.event (.user user) context.now .cancelRequested (some .userCancel) false
      (fencedCancelPatch (context.job.jobFence + 1)) onlyJob (.refl context.job)
      (.inr (stopped.not_live rfl))
    refine ⟨_, Move.cancelActive active custody, moved, ?_⟩
    rw [load_live custody (active_unfinished active)]
    exact .steady (rewritten.frame _ (by decide)) _ _

end

theorem Lifecycle.load_control {v : Lifecycle} {control : Control}
    (terminal : control.state.terminal = v.state.terminal) :
    load { v with toControl := control } = v.load := by
  refine Prod.ext ?_ rfl
  change (if control.state.terminal then 0 else 1) = if v.state.terminal then 0 else 1
  rw [terminal]

theorem event_moves {job : Job} {actor : Actor} {now : Time} {eventType : EventType}
    {reason : Option EventReason} {changes : JobChanges} (member : job ∈ db.rows .jobs)
    (written : writeEvent db job actor now eventType reason false changes = .ok after)
    (fence : (changes.apply job).jobFence = job.jobFence)
    (move : ∀ v, v.toControl = job.control -> Fits v ->
      Move v .operation { v with toControl := ((eventPatch job now false changes).apply job).control } ∧
        (changes.apply job).state.terminal = job.state.terminal) :
    Moves .operation job.jobId db.rows after.rows := by
  have rewritten := event written
  refine Moves.of_local rewritten (slice_present member) ?_
  intro v represents fits
  obtain ⟨onlyJob, control⟩ := represents.job_eq member rfl
  obtain ⟨step, terminal⟩ := move v control.symm fits
  refine ⟨_, step, represents.event actor now eventType reason false changes onlyJob (.refl job) (.inl fence), ?_⟩
  have load : load { v with toControl := ((eventPatch job now false changes).apply job).control } =
      v.load := by
    refine load_control ?_
    rw [← control]
    exact terminal
  rw [load]
  exact .steady (rewritten.frame _ (by decide)) _ _

theorem applyCancel_controls : Controls .cancelJob applyCancel := by
  intro db after context step user member matched applied written
  simp only [applyCancel] at applied
  split at applied
  next waiting =>
    obtain ⟨frame, moves⟩ := cancelWaiting_moves member written matched waiting applied
    exact ⟨frame, moves.progress.proceeds⟩
  next =>
    split at applied
    next active =>
      obtain ⟨frame, moves⟩ := cancelActive_moves member written active applied
      exact ⟨frame, moves.progress.proceeds⟩
    next =>
      split at applied
      next recovering =>
        rw [ok_eq_ok] at applied
        subst applied
        refine ⟨(writeEvent_frame written).mono (by decide), (event_moves member written rfl ?_).progress.proceeds⟩
        intro v control fits
        obtain ⟨_, held, schedules, results, fences⟩ := v
        obtain rfl := control
        exact ⟨Move.cancelRecovering recovering, by rw [recovering]; rfl⟩
      next => simp at applied

theorem applyPause_controls : Controls .pauseJob applyPause := by
  intro db after context step user member matched applied written
  simp only [applyPause, bind_eq_ok, require_eq_ok, pure_eq_ok, exists_const] at applied
  obtain ⟨_, _, _, ⟨running, desired⟩, rfl⟩ := applied
  refine ⟨writeEvent_frame written, (event_moves member written rfl ?_).progress.proceeds⟩
  intro v control fits
  obtain ⟨_, held, schedules, results, fences⟩ := v
  obtain rfl := control
  exact ⟨Move.pause running desired, by rw [running]; rfl⟩

theorem globalCounter_at {rows : Tables nexaSchema} {job : Job} {counters : List AdmissionCounter}
    {counter : AdmissionCounter} (matched : CountersOf rows job.scopes counters)
    (first : counters.head? = some counter) : countersAt rows .global = [counter] := by
  cases matched with
  | cons only _ =>
    simp only [head?_cons, Option.some.injEq] at first
    exact first ▸ only

theorem applyResume_controls (compatible : List Nat) : Controls .resumeJob (applyResume compatible) := by
  intro db after context step user member matched applied written
  simp only [applyResume, bind_eq_ok, require_eq_ok, orFail_eq_ok, pure_eq_ok, exists_const] at applied
  obtain ⟨paused, _, _, _, counter, first, rfl⟩ := applied
  have only := globalCounter_at matched first
  have steady := writeEvent_frame written .admissionCounters (by decide)
  have rewritten := (updateUnowned .admissionCounters (by decide)).trans (event written)
  have kept : Charged db.rows
      (db.rows.update .admissionCounters (fun row => row.scope = .global)
        (globalVersionPatch (counter.version + 1) context.now).apply) context.job.scopes (1, 0) (1, 0) := by
    refine .of_kept _ _ (fun _ => rfl) (fun _ => rfl) ?_ _
    intro row inside selected
    have listed : row ∈ countersAt db.rows .global := mem_filter.2 ⟨inside, selected⟩
    rw [only, mem_singleton] at listed
    exact listed ▸ Nat.le_succ _
  have moves : Moves (.enqueue counter.version) context.job.jobId db.rows after.rows := by
    refine Moves.of_local rewritten (slice_present member) ?_
    intro v represents fits
    obtain ⟨onlyJob, control⟩ := represents.job_eq member rfl
    obtain ⟨_, held, schedules, results, fences⟩ := v
    obtain rfl := control
    have moved := represents.event (.user user) context.now .jobResumed (some .userResume) false
      (resumedPatch counter.version) onlyJob (.refl context.job) (.inl rfl)
    have waiting : context.job.state.immediateCancel = true := by
      rw [paused]
      rfl
    obtain ⟨vacant, load⟩ := load_vacant fits waiting
    obtain rfl : held = .vacant := vacant
    refine ⟨_, Move.resume counter.version paused, moved, ?_⟩
    rw [load]
    exact kept.around rfl steady
  have issued : versionOf after.rows .global = counter.version + 1 := by
    rw [versionOf, countersAt, steady]
    exact versionOf_eq (countersAt_update_same (globalVersionPatch (counter.version + 1) context.now) only)
  refine ⟨?_, Effect.enqueue (.moves moves) (versionOf_eq only).le (issued ▸ Nat.lt_succ_self _)⟩
  exact (Frame.update _ _ _ (by decide)).trans ((writeEvent_frame written).mono (by decide))

theorem visibleSubmitter_spec {principal : Principal} {tenantId : TenantId} {submitter : UserId}
    (visible : visibleSubmitter db principal tenantId jobId = .ok submitter) :
    ∃ job ∈ db.rows .jobs, job.tenantId = tenantId ∧ job.jobId = jobId ∧ job.submitterUserId = submitter := by
  simp only [visibleSubmitter, bind_eq_ok, orFail_eq_ok, require_eq_ok, pure_eq_ok, exists_const] at visible
  obtain ⟨_, found, job, rfl, _, rfl⟩ := visible
  obtain ⟨member, names⟩ := mem_of_oneOrNone found
  simp only [decide_eq_true_eq] at names
  exact ⟨job, member, names.1, names.2, rfl⟩

def ControlRequest.requestKey (request : ControlRequest) (operation : RequestOperation) : RequestKey where
  context := .tenant request.tenantId
  principalId := request.principal.userId
  operation := operation
  key := request.key

variable {request : ControlRequest} {response : StoredResponse}

theorem control_requested {operation : RequestOperation} {apply : Db -> ControlContext -> Outcome ControlStep}
    (controls : Controls operation apply)
    (done : control settings db call operation request apply = .ok (after, response)) :
    Requested db call (request.requestKey operation) request.requestHash after response := by
  simp only [control, bind_eq_ok] at done
  obtain ⟨_, _, submitter, visible, ⟨opened, replay⟩, begun, done⟩ := done
  obtain ⟨same, stored⟩ | ⟨fresh, record, done⟩ :=
    beginIdempotency_requested (request.requestKey operation) begun done
  · exact .replayed same stored
  · simp only [bind_eq_ok, require_eq_ok, one_eq_ok, pure_eq_ok, Prod.mk.injEq, Control.controlEvent,
      exists_const] at done
    obtain ⟨_, _, _, _, _, counters, locked, job, found, _, step, applied, written, event, _, _,
      ⟨closed, answer⟩, completing, rfl, rfl⟩ := done
    obtain ⟨member, names⟩ := Database.mem_of_select found
    simp only [decide_eq_true_eq] at names
    have matched : CountersOf opened.rows job.scopes counters := by
      obtain ⟨seen, seenMember, tenant, same, rfl⟩ := visibleSubmitter_spec visible
      have kept : opened.rows .jobs = db.rows .jobs := by
        rw [record]
        rfl
      obtain rfl : seen = job := job_unique opened (kept ▸ seenMember) member (same.trans names.2.symm)
      rw [← tenant] at locked
      exact lockCounters_eq locked
    obtain ⟨frame, proceeds⟩ := controls member matched applied event
    obtain rfl := (completeIdempotency_frame completing).2
    refine .performed fresh record frame proceeds completing ?_
    split_ifs
    · exact .inr ⟨_, _, _, rfl⟩
    · exact .inl rfl

theorem cancelJob_requested (done : cancelJob settings db call request = .ok (after, response)) :
    Requested db call (request.requestKey .cancelJob) request.requestHash after response :=
  control_requested applyCancel_controls done

theorem applyCancel_desired {context : ControlContext} {step : ControlStep}
    (applied : applyCancel db context = .ok step) (job : Job) : (step.changes.apply job).desiredState = .cancelled := by
  simp only [applyCancel] at applied
  split_ifs at applied
  · simp only [cancelWaiting, bind_eq_ok, pure_eq_ok] at applied
    obtain ⟨_, _, rfl⟩ := applied
    rfl
  · simp only [cancelActive, bind_eq_ok] at applied
    obtain ⟨found, _, applied⟩ := applied
    cases found <;>
      obtain rfl := pure_eq_ok.1 applied <;> rfl
  · obtain rfl := ok_eq_ok.1 applied
    rfl

theorem cancelJob_desired (done : cancelJob settings db call request = .ok (after, response)) :
    after = db ∨ ∀ job ∈ after.rows .jobs, job.jobId = request.jobId -> job.desiredState = .cancelled := by
  simp only [cancelJob, control, bind_eq_ok] at done
  obtain ⟨_, _, _, _, ⟨opened, replay⟩, begun, done⟩ := done
  obtain ⟨same, _⟩ | ⟨_, _, done⟩ := beginIdempotency_requested (request.requestKey .cancelJob) begun done
  · exact .inl same
  simp only [bind_eq_ok, require_eq_ok, one_eq_ok, pure_eq_ok, Prod.mk.injEq, Control.controlEvent,
    exists_const] at done
  obtain ⟨_, _, _, _, _, _, _, locked, found, _, step, applied, written, event, _, _, ⟨closed, _⟩, completing,
    rfl, rfl⟩ := done
  refine .inr fun job member named => ?_
  have inside : job ∈ written.rows .jobs := by
    rw [<- (completeIdempotency_frame completing).1 _ (by decide)]
    split_ifs at member <;> exact member
  rw [writeEvent_rows event] at inside
  obtain ⟨old, -, rfl⟩ := mem_updateWhere.1 inside
  split_ifs at named ⊢ with chosen
  · exact applyCancel_desired applied old
  · have names := of_decide_eq_true (Database.mem_of_select found).2
    exact absurd (decide_eq_true (named.trans names.2.symm)) chosen

theorem pauseJob_requested (done : pauseJob settings db call request = .ok (after, response)) :
    Requested db call (request.requestKey .pauseJob) request.requestHash after response :=
  control_requested applyPause_controls done

theorem resumeJob_requested {compatible : List Nat}
    (done : resumeJob settings db call compatible request = .ok (after, response)) :
    Requested db call (request.requestKey .resumeJob) request.requestHash after response :=
  control_requested (applyResume_controls compatible) done

end Nexa
