import Nexa.Refinement.Maintenance

namespace Nexa

open Relational Outcome List Tables Local

def offerWrite (s : Tables nexaSchema) (offer : Offer) : Tables nexaSchema :=
  (((s.append .attempts offer.attempt).append .allocations offer.allocation).append
    .attemptLeases offer.lease).append .authorityGrants offer.grant

structure Offer.Matches (offer : Offer) (fence : Nat) : Prop where
  held : offer.allocation.state = .held
  unrevoked : offer.lease.revokedAt = none
  opens : offer.grant.endedAt = none
  allocationAttempt : offer.allocation.attemptId = offer.attempt.attemptId
  leaseAttempt : offer.lease.attemptId = offer.attempt.attemptId
  leaseAllocation : offer.lease.allocationId = offer.allocation.allocationId
  grantAttempt : offer.grant.attemptId = offer.attempt.attemptId
  attemptFence : offer.attempt.jobFence = fence
  grantFence : offer.grant.jobFence = fence
  leaseFence : offer.lease.jobFence = fence

theorem offerOf_matches (db : Db) (call : Call) (epoch : Nat) (workerId : WorkerId)
    (incarnationId : IncarnationId) (job : Job) (spec : JobSpec) :
    (offerOf db call epoch workerId incarnationId job spec).Matches (job.jobFence + 1) := by
  constructor <;> rfl

theorem offerWrite_event (s : Tables nexaSchema) (offer : Offer) (job : Job) (actor : Actor) (now : Time)
    (eventType : EventType) (changes : JobChanges) :
    eventWrite (offerWrite s offer) job actor now eventType none false changes =
      offerWrite (eventWrite s job actor now eventType none false changes) offer := by
  funext table
  cases table <;> rfl

theorem Represents.offer {s : Tables nexaSchema} {v : Lifecycle} {job : Job} {offer : Offer}
    (represents : Represents s v) (vacant : v.custody = .vacant) (only : s .jobs = [job])
    (agrees : offer.Matches job.jobFence) :
    Represents (offerWrite s offer)
      { v with
        custody := .live offer.attempt.state offer.attempt.executionIntent offer.allocation.resources
        fences := v.fences ++ [job.jobFence] } := by
  have holds := represents.custody
  rw [vacant] at holds
  obtain ⟨noAllocation, noLease, noGrant⟩ := holds
  have live : Live (offerWrite s offer)
      { attempt := offer.attempt, job, lease := offer.lease, allocation := offer.allocation
        grant := offer.grant } :=
    { onlyJob := only
      attemptMember := by
        change _ ∈ s .attempts ++ [offer.attempt]
        simp
      onlyAllocation := by
        change (s .allocations ++ [offer.allocation]).filter _ = _
        rw [filter_append]
        unfold unreleased at noAllocation
        rw [noAllocation]
        simp [agrees.held]
      onlyLease := by
        change (s .attemptLeases ++ [offer.lease]).filter _ = _
        rw [filter_append]
        unfold openLeases at noLease
        rw [noLease]
        simp [agrees.unrevoked]
      onlyGrant := by
        change (s .authorityGrants ++ [offer.grant]).filter _ = _
        rw [filter_append]
        unfold openGrants at noGrant
        rw [noGrant]
        simp [agrees.opens]
      held := agrees.held
      allocationAttempt := agrees.allocationAttempt
      leaseAttempt := agrees.leaseAttempt
      leaseAllocation := agrees.leaseAllocation
      grantAttempt := agrees.grantAttempt
      attemptFence := agrees.attemptFence
      grantFence := agrees.grantFence }
  refine ⟨represents.job, ⟨_, live, rfl, rfl, rfl⟩, represents.schedules, represents.results, ?_, represents.events⟩
  have fences := represents.fences
  simp only [fencesOf, Prod.mk.injEq] at fences
  change ((s .attempts ++ [offer.attempt]).map _, (s .attemptLeases ++ [offer.lease]).map _) = _
  rw [map_append, map_append, fences.1, fences.2, ← agrees.attemptFence]
  exact congrArg (Prod.mk _) (congrArg (fun fence => v.fences ++ [fence])
    (agrees.leaseFence.trans agrees.attemptFence.symm))

variable {db after : Db} {call : Call} {settings : Settings} {leader : Leader}

def decisionTables : List Table := .reservations :: .admissionCounters :: fairnessTables ++ ownedTables

theorem writeOffer_moves {now : Time} {job : Job} {offer : Offer} (member : job ∈ db.rows .jobs)
    (owned : offer.attempt.jobId = job.jobId ∧ offer.allocation.jobId = job.jobId ∧
      offer.lease.jobId = job.jobId ∧ offer.grant.jobId = job.jobId)
    (agrees : offer.Matches (job.jobFence + 1)) (created : offer.attempt.state = .created)
    (intent : offer.attempt.executionIntent = ExecutionIntent.ofRecovery job.recoveryIntent)
    (queued : job.state = .queued) (ready : dispatchable job.desiredState job.recoveryIntent = true)
    (written : writeOffer db leader now job offer = .ok after) :
    Frame decisionTables db.rows after.rows ∧ Moves .operation job.jobId db.rows after.rows := by
  simp only [writeOffer, Dispatch.event, bind_eq_ok] at written
  obtain ⟨_, insertedAttempt, _, insertedAllocation, _, insertedLease, _, insertedGrant, taken, taking,
    written⟩ := written
  obtain ⟨_, rfl⟩ := insertRow_of_insertInto insertedAttempt
  obtain ⟨_, rfl⟩ := insertRow_of_insertInto insertedAllocation
  obtain ⟨_, rfl⟩ := insertRow_of_insertInto insertedLease
  obtain ⟨_, rfl⟩ := insertRow_of_insertInto insertedGrant
  obtain ⟨charged, counted⟩ := takeActive_charged (ofJob_nodup _ _) taking
  have rewritten :=
    (append .attempts offer.attempt (congrArg some owned.1) (by decide)).trans
      ((append .allocations offer.allocation (congrArg some owned.2.1) (by decide)).trans
        ((append .attemptLeases offer.lease (congrArg some owned.2.2.1) (by decide)).trans
          ((append .authorityGrants offer.grant (congrArg some owned.2.2.2) (by decide)).trans
            ((unowned counted (by decide)).trans (event written)))))
  refine ⟨rewritten.frame.mono (by decide), Moves.of_local rewritten (slice_present member) ?_⟩
  intro v represents fits
  obtain ⟨onlyJob, control⟩ := represents.job_eq member rfl
  obtain ⟨_, held, schedules, results, fences⟩ := v
  obtain rfl := control
  have waiting : job.state.immediateCancel = true := by
    rw [queued]
    rfl
  obtain ⟨vacant, load⟩ := Lifecycle.load_vacant fits waiting
  obtain rfl : held = .vacant := vacant
  have idle (rows : AuthorityRows) : ¬Live (db.rows.slice job.jobId) rows := by
    intro live
    have holds : Custody.vacant.Holds (db.rows.slice job.jobId) := represents.custody
    have leased := live.onlyLease
    rw [holds.2.1] at leased
    simp at leased
  have recorded := represents.event (.coordinator leader.holderId) now .jobDispatching none false
    (dispatchingPatch offer.attempt.jobFence) onlyJob (.refl job) (.inr idle)
  have fence : ((eventPatch job now false (dispatchingPatch offer.attempt.jobFence)).apply job).jobFence =
      job.jobFence + 1 := agrees.attemptFence
  have offered := recorded.offer rfl
    (eventWrite_jobs (.coordinator leader.holderId) now .jobDispatching none false _ onlyJob (.refl job))
    (fence.symm ▸ agrees)
  refine ⟨_, Move.dispatch offer.allocation.resources queued ready, ?_, ?_⟩
  · convert offered using 1
    · exact offerWrite_event _ _ _ _ _ _ _
    · simp [Job.control, eventPatch, dispatchingPatch, created, intent, agrees.attemptFence]
  · rw [load]
    exact (charged.shift (1, 0)).around rfl (writeEvent_frame written _ (by decide))

theorem fairness_quiet {before after : Tables nexaSchema} (frame : Frame fairnessTables before after) :
    Quiet before after :=
  .of_frame frame (by decide)

theorem applyDispatch_moves {worker : Worker} {job : Job} {version : Nat} {reservationId : Option Nat}
    (member : job ∈ db.rows .jobs)
    (applied : applyDispatch settings db call leader worker job version reservationId = .ok after) :
    Frame decisionTables db.rows after.rows ∧ Moves .operation job.jobId db.rows after.rows := by
  simp only [applyDispatch, bind_eq_ok, require_eq_ok, exists_const] at applied
  obtain ⟨⟨queued, ready, _⟩, _, spec, _, _, incarnationId, _, offered, writing, rebasing⟩ := applied
  obtain ⟨offers, moves⟩ := writeOffer_moves member ⟨rfl, rfl, rfl, rfl⟩
    (offerOf_matches db call leader.epoch worker.workerId incarnationId job spec) rfl rfl queued ready writing
  -- The reservation that led to the dispatch, if any, is marked before the segments are rebased.
  have finish {reserved : Db} (marked : Frame [.reservations] offered.rows reserved.rows)
      (rebasing : rebaseLocked settings.round reserved call.now call.segmentId = .ok after) :
      Frame decisionTables db.rows after.rows ∧ Moves .operation job.jobId db.rows after.rows := by
    have rebases := rebaseLocked_frame rebasing
    exact ⟨(offers.trans (marked.mono (by decide))).trans (rebases.mono (by decide)),
      moves.of_quiet (.refl _) (.trans (.of_frame marked (by decide)) (fairness_quiet rebases))⟩
  cases reservationId with
  | none => exact finish (.refl _ _) rebasing
  | some id => exact finish (.update _ _ _ (by decide)) rebasing

theorem reservationEvent_progress {job : Option Job} {holder : Nat} {now : Time} {eventType : EventType}
    {reason : Option EventReason} (member : ∀ row ∈ job, row ∈ db.rows .jobs)
    (written : Dispatch.event db job holder now eventType reason false noChanges = .ok after) :
    Frame decisionTables db.rows after.rows ∧ Progresses .operation db.rows after.rows := by
  cases job with
  | none =>
    simp only [Dispatch.event, ok_eq_ok] at written
    exact written ▸ ⟨.refl _ _, .quiet (.refl _)⟩
  | some job =>
    refine ⟨(writeEvent_frame written).mono (by decide), (event_moves (member job rfl) written rfl ?_).progress⟩
    intro v control fits
    obtain ⟨_, held, schedules, results, fences⟩ := v
    obtain rfl := control
    exact ⟨Move.note 1 1, rfl⟩

theorem applyDecision_progress {worker : Worker} {job : Option Job} {decision : SchedulingDecision}
    (member : ∀ row ∈ job, row ∈ db.rows .jobs)
    (applied : applyDecision settings db call leader worker job decision = .ok after) :
    Frame decisionTables db.rows after.rows ∧ Progresses .operation db.rows after.rows := by
  cases decision with
  | invalidateReservation reservationId reason =>
    have frame : Frame [.reservations] db.rows
        (invalidateReservation db reservationId call.now reason).rows := .update _ _ _ (by decide)
    simp only [applyDecision] at applied
    obtain ⟨written, progress⟩ := reservationEvent_progress (by exact member) applied
    exact ⟨(frame.mono (by decide)).trans written, .of_quiet (.of_frame frame (by decide)) progress⟩
  | createReservation jobId version reason =>
    simp only [applyDecision, bind_eq_ok, orFail_eq_ok] at applied
    obtain ⟨job, rfl, _, _, _, inserted, written⟩ := applied
    obtain ⟨accepted, rfl⟩ := insertRow_of_insertInto inserted
    have frame : Frame [.reservations] db.rows (db.insertRow .reservations _ accepted).rows := .append _ _ (by decide)
    obtain ⟨written, progress⟩ := reservationEvent_progress (by exact member) written
    exact ⟨(frame.mono (by decide)).trans written, .of_quiet (.of_frame frame (by decide)) progress⟩
  | dispatch jobId version evidence reservationId =>
    simp only [applyDecision, bind_eq_ok, orFail_eq_ok] at applied
    obtain ⟨job, rfl, applied⟩ := applied
    obtain ⟨frame, moves⟩ := applyDispatch_moves (member job rfl) applied
    exact ⟨frame, moves.progress⟩
  | drainForReservation | noDecision =>
    simp only [applyDecision, ok_eq_ok] at applied
    exact applied ▸ ⟨.refl _ _, .quiet (.refl _)⟩

theorem decisionJob_mem {decision : SchedulingDecision} {job : Job} (found : decisionJob db decision = some job) :
    job ∈ db.rows .jobs := by
  cases decision with
  | invalidateReservation reservationId reason =>
    simp only [decisionJob, Option.bind_eq_bind, Option.bind_eq_some_iff] at found
    obtain ⟨_, _, found⟩ := found
    exact mem_of_find?_eq_some found
  | noDecision => simp [decisionJob] at found
  | _ => exact mem_of_find?_eq_some found

theorem commitOperation_progress {request : CommitRequest}
    (done : commitOperation settings db call request = .ok after) :
    Frame decisionTables db.rows after.rows ∧ Progresses .operation db.rows after.rows := by
  simp only [commitOperation, bind_eq_ok] at done
  obtain ⟨⟨policy, found⟩, _, done⟩ := done
  cases found with
  | none =>
    rw [pure_eq_ok] at done
    exact done ▸ ⟨.refl _ _, .quiet (.refl _)⟩
  | some pair =>
    obtain ⟨worker, inventory⟩ := pair
    simp only at done
    split at done
    next =>
      rw [pure_eq_ok] at done
      exact done ▸ ⟨.refl _ _, .quiet (.refl _)⟩
    next =>
      simp only [bind_eq_ok] at done
      obtain ⟨fresh, _, done⟩ := done
      split at done
      next =>
        rw [pure_eq_ok] at done
        exact done ▸ ⟨.refl _ _, .quiet (.refl _)⟩
      next =>
        simp only [commitDecision, bind_eq_ok] at done
        obtain ⟨accounted, accounting, persisted, persisting, applied⟩ := done
        have frame := (accountLocked_frame accounting).trans (persistFairnessLocked_frame persisting)
        have member : ∀ job ∈ decisionJob db request.decision, job ∈ persisted.rows .jobs := by
          intro job chosen
          rw [frame .jobs (by decide)]
          exact decisionJob_mem chosen
        obtain ⟨writes, progress⟩ := applyDecision_progress member applied
        exact ⟨(frame.mono (by decide)).trans writes, .of_quiet (fairness_quiet frame) progress⟩

theorem snapshotOperation_progress {request : SnapshotRequest} {snapshot : Option SchedulingSnapshot}
    (done : snapshotOperation settings db request = .ok (after, snapshot)) :
    Frame (.jobs :: fairnessTables) db.rows after.rows ∧
      Progresses .operation db.rows after.rows := by
  simp only [snapshotOperation, bind_eq_ok] at done
  obtain ⟨⟨policy, found⟩, _, done⟩ := done
  cases found with
  | none =>
    simp only [pure_eq_ok, Prod.mk.injEq] at done
    exact done.1 ▸ ⟨.refl _ _, .quiet (.refl _)⟩
  | some pair =>
    obtain ⟨worker, inventory⟩ := pair
    simp only at done
    split at done
    next =>
      simp only [pure_eq_ok, Prod.mk.injEq] at done
      exact done.1 ▸ ⟨.refl _ _, .quiet (.refl _)⟩
    next =>
      simp only [bind_eq_ok, pure_eq_ok, Prod.mk.injEq] at done
      obtain ⟨_, _, accounted, accounting, persisted, persisting, rfl, _⟩ := done
      have frame := (accountNowLocked_frame accounting).trans (persistFairnessLocked_frame persisting)
      have renoted := processEligibilityBatch_renoted db request.eligibilityPage request.ages
      exact ⟨(renoted.frame.mono (by decide)).trans (frame.mono (by decide)),
        renoted.progress.to_quiet (fairness_quiet frame)⟩

theorem account_frame {now boundary : Time} (done : account settings db now boundary = .ok after) :
    Frame fairnessTables db.rows after.rows := by
  simp only [account, bind_eq_ok] at done
  obtain ⟨mode, _, done⟩ := done
  split at done
  next =>
    rw [pure_eq_ok] at done
    exact done ▸ lockLedgers_frame db now false
  next => exact (lockLedgers_frame db now false).trans (chargeLocked_frame done)

end Nexa
