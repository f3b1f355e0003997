import Nexa.Refinement.Accounting
import Nexa.Refinement.Completion

namespace Nexa

open Relational Outcome List Tables Lifecycle Database

structure BranchWrite (write : Tables nexaSchema -> Tables nexaSchema) (retry : Option RetrySchedule) : Prop where
  frame : ∀ s, Frame [.attempts, .retrySchedules] s (write s)
  fences : ∀ s, fencesOf (write s) = fencesOf s
  schedules : ∀ s, write s .retrySchedules = s .retrySchedules ++ retry.toList

inductive Branch (job : Job) (attempt : Attempt) : JobState -> JobChanges -> Option RetrySchedule -> Prop where
  | cancelled (state : job.state = .cancelling) : Branch job attempt .cancelled noChanges none
  | stopped (state : job.state = .pausing) : Branch job attempt .paused pausedPatch none
  | paused (state : job.state = .recovering) (infrastructure : attempt.failureClass = some .infrastructure)
      (desired : job.desiredState = .paused) : Branch job attempt .paused pausedPatch none
  | retry (state : job.state = .recovering) (infrastructure : attempt.failureClass = some .infrastructure)
      (budget : job.retryCount < job.maxRetries) (readyAt : Time) (jitter : Nat) :
      Branch job attempt .retryWait
        (retryPatch (job.desiredState = .paused) (job.retryCount + 1) readyAt)
        (some (newSchedule job (job.retryCount + 1) readyAt jitter))
  | failed (state : job.state = .recovering) : Branch job attempt .failed noChanges none
  | kept (state : job.state ≠ .cancelling ∧ job.state ≠ .pausing ∧ job.state ≠ .recovering) :
      Branch job attempt job.state noChanges none

theorem BranchWrite.endAttempt (attemptId : AttemptId) (patch : Patch nexaSchema .attempts) :
    BranchWrite (fun s => s.update .attempts (fun row => row.attemptId = attemptId) patch.apply) none where
  frame _ := .update _ _ _ (by decide)
  fences _ := fencesOf_attempts _ _ patch
  schedules _ := by simp

variable {db after : Db} {call : Call} {workerId : WorkerId} {attemptId : AttemptId}
  {callback : Callback} {answer : Acknowledgment} {settings : Settings}

section

variable {job : Job} {attempt : Attempt} {now : Time} {jitter : Nat} {next : JobState}
  {branch : JobChanges}

theorem recoverJob_spec {base : Db} (member : attempt ∈ base.rows .attempts)
    (same : db.rows .attempts = base.rows .attempts) (owner : job.jobId = attempt.jobId)
    (state : job.state = .recovering)
    (recovered : recoverJob db job attempt now jitter = .ok (after, next, branch)) :
    Frame [.attempts, .retrySchedules] db.rows after.rows ∧
      ∃ write retry, Local job.jobId [] write db.rows after.rows ∧ BranchWrite write retry ∧
        Branch job attempt next branch retry := by
  have ending (before : Tables nexaSchema) (patch : Patch nexaSchema .attempts)
      (kept : before .attempts = db.rows .attempts) :=
    Local.updateAttempt member (kept.trans same) rfl owner.symm patch
  simp only [recoverJob, bind_eq_ok] at recovered
  obtain ⟨⟨spec, template⟩, _, recovered⟩ := recovered
  split at recovered
  next choice =>
    simp only [pure_eq_ok, Prod.mk.injEq] at recovered
    obtain ⟨rfl, rfl, rfl⟩ := recovered
    simp only [decide_eq_true_eq] at choice
    exact ⟨.update _ _ _ (by decide), _, none, ending _ _ rfl, .endAttempt _ _, .paused state choice.1 choice.2.1⟩
  next =>
    split at recovered
    next choice =>
      simp only [bind_eq_ok, pure_eq_ok, Prod.mk.injEq] at recovered
      obtain ⟨_, inserted, rfl, rfl, rfl⟩ := recovered
      obtain ⟨accepted, rfl⟩ := insertRow_of_insertInto inserted
      simp only [decide_eq_true_eq] at choice
      refine ⟨(Frame.append _ _ (by decide)).trans (.update _ _ _ (by decide)), _, _,
        (Local.append .retrySchedules _ (by rfl) (by decide)).trans (ending _ _ (by rfl)), ?_,
        .retry state choice.1 choice.2.1 _ jitter⟩
      exact
        { frame := fun _ => (Frame.append _ _ (by decide)).trans (.update _ _ _ (by decide))
          fences := fun s => fencesOf_attempts _ _ _
          schedules := fun _ => by simp }
    next =>
      simp only [pure_eq_ok, Prod.mk.injEq] at recovered
      obtain ⟨rfl, rfl, rfl⟩ := recovered
      exact ⟨.update _ _ _ (by decide), _, none, ending _ _ rfl, .endAttempt _ _, .failed state⟩

theorem cleanupBranch_spec {base : Db} (member : attempt ∈ base.rows .attempts)
    (same : db.rows .attempts = base.rows .attempts) (owner : job.jobId = attempt.jobId)
    (branched : cleanupBranch db job attempt now jitter = .ok (after, next, branch)) :
    Frame [.attempts, .retrySchedules, .resultReservations] db.rows after.rows ∧
      ∃ write retry, Local job.jobId [.resultReservations] write db.rows after.rows ∧
        BranchWrite write retry ∧ Branch job attempt next branch retry := by
  have ending (patch : Patch nexaSchema .attempts) := Local.updateAttempt member same rfl owner.symm patch
  simp only [cleanupBranch] at branched
  split at branched
  next state =>
    simp only [ok_eq_ok, Prod.mk.injEq] at branched
    obtain ⟨rfl, rfl, rfl⟩ := branched
    exact ⟨.update _ _ _ (by decide), _, none, (ending _).mono (by decide), .endAttempt _ _, .cancelled state⟩
  next state =>
    simp only [ok_eq_ok, Prod.mk.injEq] at branched
    obtain ⟨rfl, rfl, rfl⟩ := branched
    exact ⟨(Frame.update _ _ _ (by decide)).trans (.update _ _ _ (by decide)), _, none,
      (ending _).trans (.updateUnowned .resultReservations (by decide)), .endAttempt _ _, .stopped state⟩
  next state =>
    obtain ⟨frame, write, retry, rewritten, written, found⟩ := recoverJob_spec member same owner state branched
    exact ⟨frame.mono (by decide), write, retry, rewritten.mono (by decide), written, found⟩
  next cancelling pausing recovering =>
    simp only [ok_eq_ok, Prod.mk.injEq] at branched
    obtain ⟨rfl, rfl, rfl⟩ := branched
    refine ⟨.refl _ _, fun s => s, none, .unowned (.refl _ _) (by decide), ?_,
      .kept ⟨cancelling, pausing, recovering⟩⟩
    exact { frame := fun _ => .refl _ _, fences := fun _ => rfl, schedules := fun _ => by simp }

end

structure Named (db : Db) (attemptId : AttemptId) (allocationId : AllocationId) (job : Job)
    (attempt : Attempt) (lease : AttemptLease) (allocation : Allocation) : Prop where
  jobMember : job ∈ db.rows .jobs
  attemptMember : attempt ∈ db.rows .attempts
  leaseMember : lease ∈ db.rows .attemptLeases
  allocationMember : allocation ∈ db.rows .allocations
  owner : job.jobId = attempt.jobId
  sameAttempt : attempt.attemptId = attemptId
  leaseAttempt : lease.attemptId = attemptId
  onlyLease : ∀ row ∈ db.rows .attemptLeases, row.attemptId = attemptId -> row = lease
  sameAllocation : allocation.allocationId = allocationId
  allocationAttempt : allocation.attemptId = attemptId

variable {request : CleanupRequest}

theorem cleanupRows_named {job : Job} {attempt : Attempt} {lease : AttemptLease} {allocation : Allocation}
    (found : cleanupRows db workerId attemptId request = .ok (job, attempt, lease, allocation)) :
    Named db attemptId request.allocationId job attempt lease allocation := by
  simp only [cleanupRows, bind_eq_ok, require_eq_ok, one_eq_ok, orFail_eq_ok, pure_eq_ok,
    Prod.mk.injEq, exists_const] at found
  obtain ⟨_, _, foundAttempt, _, foundJob, _, foundLease, _, foundAllocation, _, _, _, rfl, names, rfl, rfl,
    rfl, rfl⟩ := found
  obtain ⟨attemptMember, sameAttempt⟩ := mem_of_select foundAttempt
  obtain ⟨jobMember, sameJob⟩ := mem_of_select foundJob
  obtain ⟨leaseMember, sameLease⟩ := mem_of_select foundLease
  obtain ⟨allocationMember, sameAllocation⟩ := mem_of_oneOrNone foundAllocation
  simp only [decide_eq_true_eq] at sameAttempt sameJob sameLease sameAllocation
  refine ⟨jobMember, attemptMember, leaseMember, allocationMember, sameJob, sameAttempt, sameLease, ?_,
    sameAllocation, names.2.2.2⟩
  intro row inside same
  have listed : row ∈ db.select .attemptLeases fun row => row.attemptId = attemptId := by
    simp [select, inside, same]
  rw [foundLease, mem_singleton] at listed
  exact listed

variable {retry : Option RetrySchedule} {next : JobState} {branch : JobChanges}

section

variable {job : Job} {attempt : Attempt} {lease : AttemptLease} {allocation : Allocation}
  {allocationId : AllocationId}

theorem Named.leaseOwner (named : Named db attemptId allocationId job attempt lease allocation) :
    lease.jobId = job.jobId := by
  rw [named.owner]
  exact lease_owner db named.attemptMember named.leaseMember (named.leaseAttempt.trans named.sameAttempt.symm)

theorem Named.allocationOwner (named : Named db attemptId allocationId job attempt lease allocation) :
    allocation.jobId = job.jobId := by
  rw [named.owner]
  exact allocation_owner db named.attemptMember named.allocationMember
    (named.allocationAttempt.trans named.sameAttempt.symm)

def revokeOpen (s : Tables nexaSchema) (lease : AttemptLease) (now : Time) : Tables nexaSchema :=
  if lease.revokedAt = none then
    s.update .attemptLeases (fun row => row.leaseId = lease.leaseId)
      (revokePatch now lease.revokeReason).apply
  else s

theorem revokeOpen_fences (s : Tables nexaSchema) (lease : AttemptLease) (now : Time) :
    fencesOf (revokeOpen s lease now) = fencesOf s := by
  rw [revokeOpen]
  split
  · exact fencesOf_leases _ _ (revokePatch now lease.revokeReason)
  · rfl

def releaseWrite (s : Tables nexaSchema) (write : Tables nexaSchema -> Tables nexaSchema)
    (attemptId : AttemptId) (allocationId : AllocationId) (lease : AttemptLease) (now : Time) :
    Tables nexaSchema :=
  (revokeOpen
      (write (s.update .allocations (fun row => row.allocationId = allocationId) (releasePatch now).apply))
      lease now).update
    .authorityGrants (fun row => row.attemptId = attemptId ∧ row.endedAt = none) (endGrantPatch now).apply

theorem revokeOpen_frame (s : Tables nexaSchema) (now : Time) :
    Frame [.attemptLeases] s (revokeOpen s lease now) := by
  unfold revokeOpen
  split_ifs
  · exact .update _ _ _ (by decide)
  · exact .refl _ _

theorem releaseWrite_frame {write : Tables nexaSchema -> Tables nexaSchema}
    (written : BranchWrite write retry) (s : Tables nexaSchema) (attemptId : AttemptId)
    (allocationId : AllocationId) (now : Time) :
    Frame [.attempts, .allocations, .attemptLeases, .authorityGrants, .retrySchedules] s
      (releaseWrite s write attemptId allocationId lease now) :=
  (((Frame.update _ _ _ (by decide)).trans ((written.frame _).mono (by decide))).trans
    ((revokeOpen_frame _ _).mono (by decide))).trans (.update _ _ _ (by decide))

theorem Named.custody (named : Named db attemptId allocationId job attempt lease allocation)
    (unreleased : allocation.state ≠ .released) {v : Lifecycle}
    (represents : Represents (db.rows.slice job.jobId) v) :
    Nexa.unreleased (db.rows.slice job.jobId) = [allocation] ∧
      ((∃ grant, openLeases (db.rows.slice job.jobId) = [lease] ∧
          openGrants (db.rows.slice job.jobId) = [grant] ∧ grant.attemptId = attemptId ∧
          v.custody = .live attempt.state attempt.executionIntent allocation.resources) ∨
        openLeases (db.rows.slice job.jobId) = [] ∧ openGrants (db.rows.slice job.jobId) = [] ∧
          v.custody = .fenced attempt.failureClass allocation.resources) := by
  have inside : allocation ∈ Nexa.unreleased (db.rows.slice job.jobId) := by
    rw [mem_unreleased, mem_slice]
    exact ⟨⟨named.allocationMember, congrArg some named.allocationOwner⟩, unreleased⟩
  have holds := represents.custody
  cases custody : v.custody with
  | vacant =>
    rw [custody] at holds
    rw [holds.1] at inside
    simp at inside
  | live state intent resources =>
    rw [custody] at holds
    obtain ⟨rows, live, rfl, rfl, rfl⟩ := holds
    rw [live.onlyAllocation, mem_singleton] at inside
    subst inside
    have sameAttempt : rows.attempt = attempt := by
      refine live.attempt_eq named.attemptMember ?_
      rw [← live.allocationAttempt, named.allocationAttempt, named.sameAttempt]
    have leased : rows.lease ∈ openLeases (db.rows.slice job.jobId) := by
      rw [live.onlyLease]
      exact mem_singleton_self _
    have sameLease : rows.lease = lease := by
      refine named.onlyLease _ (mem_slice.1 (mem_openLeases.1 leased).1).1 ?_
      rw [live.leaseAttempt, sameAttempt, named.sameAttempt]
    refine ⟨live.onlyAllocation, .inl ⟨rows.grant, sameLease ▸ live.onlyLease, live.onlyGrant, ?_, ?_⟩⟩
    · rw [live.grantAttempt, sameAttempt, named.sameAttempt]
    · rw [sameAttempt]
  | fenced failure resources =>
    rw [custody] at holds
    obtain ⟨held, quarantined, fenced, rfl, rfl⟩ := holds
    rw [fenced.onlyAllocation, mem_singleton] at inside
    subst inside
    have sameAttempt : held = attempt := by
      refine attempt_unique db (mem_slice.1 fenced.attemptMember).1 named.attemptMember ?_
      rw [← fenced.allocationAttempt, named.allocationAttempt, named.sameAttempt]
    exact ⟨fenced.onlyAllocation, .inr ⟨fenced.noLease, fenced.noGrant, by rw [sameAttempt]⟩⟩

theorem Named.release (named : Named db attemptId allocationId job attempt lease allocation)
    (unreleased : allocation.state ≠ .released) {v : Lifecycle}
    (represents : Represents (db.rows.slice job.jobId) v)
    {write : Tables nexaSchema -> Tables nexaSchema}
    (written : BranchWrite write retry) (opens : ∀ schedule ∈ retry, schedule.closedAt = none) (now : Time) :
    Represents (releaseWrite (db.rows.slice job.jobId) write attemptId allocationId lease now)
      { v with
        custody := .vacant
        schedules := v.schedules ++ retry.toList.map (·.retryNumber) } := by
  obtain ⟨onlyAllocation, held⟩ := named.custody unreleased represents
  generalize db.rows.slice job.jobId = s at represents onlyAllocation held ⊢
  let freed := s.update .allocations (fun row => row.allocationId = allocationId) (releasePatch now).apply
  have branched : Frame [.attempts, .retrySchedules] freed (write freed) := written.frame freed
  have revoked : Frame [.attemptLeases] (write freed) (revokeOpen (write freed) lease now) := revokeOpen_frame _ now
  have noAllocation : Nexa.unreleased (releaseWrite s write attemptId allocationId lease now) = [] := by
    have released : Nexa.unreleased freed = [] :=
      unreleased_release onlyAllocation (by simp [named.sameAllocation]) (releasePatch now) (fun _ => rfl)
    unfold Nexa.unreleased at released ⊢
    change (revokeOpen (write freed) lease now .allocations).filter _ = []
    rw [revoked .allocations (by decide), branched .allocations (by decide)]
    exact released
  have noLease : openLeases (releaseWrite s write attemptId allocationId lease now) = [] := by
    change openLeases (revokeOpen (write freed) lease now) = []
    have kept : openLeases (write freed) = openLeases s := by
      unfold openLeases
      rw [branched .attemptLeases (by decide)]
      rfl
    unfold revokeOpen
    rcases held with ⟨_, onlyLease, _⟩ | ⟨none, _⟩
    · have inside : lease ∈ openLeases s := by simp [onlyLease]
      rw [if_pos (mem_openLeases.1 inside).2]
      exact openLeases_revoke (kept.trans onlyLease) (by simp) (revokePatch now lease.revokeReason)
        (by simp [revokePatch])
    · split_ifs
      · unfold openLeases at kept none ⊢
        rw [update_same, filter_updateWhere_drop (fun row _ _ => by simp [revokePatch]), kept, none]
        rfl
      · exact kept.trans none
  have noGrant : openGrants (releaseWrite s write attemptId allocationId lease now) = [] := by
    have kept : openGrants (revokeOpen (write freed) lease now) = openGrants s := by
      unfold openGrants
      rw [revoked .authorityGrants (by decide), branched .authorityGrants (by decide)]
      rfl
    rcases held with ⟨grant, _, onlyGrant, owner, _⟩ | ⟨_, none, _⟩
    · have inside : grant ∈ openGrants s := by simp [onlyGrant]
      exact openGrants_end (kept.trans onlyGrant) (by simp [owner, (mem_openGrants.1 inside).2])
        (endGrantPatch now) (by simp [endGrantPatch])
    · unfold releaseWrite
      unfold openGrants at kept none ⊢
      rw [update_same, filter_updateWhere_drop (fun row _ _ => by simp [endGrantPatch]), kept, none]
      rfl
  have vacant : Custody.vacant.Holds (releaseWrite s write attemptId allocationId lease now) :=
    ⟨noAllocation, noLease, noGrant⟩
  refine represents.rebuild (releaseWrite_frame written _ _ _ now) ?_ vacant ?_
  · exact ((revokeOpen_fences _ lease now).trans (written.fences freed))
  · unfold openSchedules
    change ((revokeOpen (write freed) lease now .retrySchedules).filter _).map _ = _
    rw [revoked .retrySchedules (by decide), written.schedules, filter_append, map_append]
    congr 1
    · exact represents.schedules
    · cases retry with
      | none => rfl
      | some schedule => simp [opens schedule rfl]

theorem Local.revokeOpen {before : Tables nexaSchema} {jobId : JobId} (member : lease ∈ db.rows .attemptLeases)
    (same : before .attemptLeases = db.rows .attemptLeases) (owned : lease.jobId = jobId) (now : Time) :
    Local jobId [] (fun s => Nexa.revokeOpen s lease now) before (Nexa.revokeOpen before lease now) := by
  unfold Nexa.revokeOpen
  split_ifs
  · exact .updateLease member same rfl owned _
  · exact .unowned (.refl _ _) (by decide)

section

variable (found : Branch job attempt next branch retry)

include found

theorem Branch.move {v : Lifecycle} (control : job.control = v.toControl) (fits : Fits v)
    (custody : v.custody = .live attempt.state attempt.executionIntent allocation.resources ∨
      v.custody = .fenced attempt.failureClass allocation.resources)
    (cleans : cleanable job.state = true) (pausing : job.state = .pausing -> job.desiredState = .paused)
    (now : Time) :
    Move v .cleanup
      { v with
        toControl := ((eventPatch job now false
          (releasedPatch next (next.terminal && !job.state.terminal) now branch)).apply job).control
        custody := .vacant
        schedules := v.schedules ++ retry.toList.map (·.retryNumber) } := by
  obtain ⟨_, held, schedules, results, fences⟩ := v
  obtain rfl := control
  have allowed : custodyFits job.state held = true := fits.custody
  simp only at custody
  have lost (state : job.state = .recovering) (infrastructure : attempt.failureClass = some .infrastructure) :
      held = .fenced (some .infrastructure) allocation.resources := by
    rcases custody with live | fenced
    · simp [live, state] at allowed
    · rw [fenced, infrastructure]
  cases found with
  | cancelled state =>
    convert Move.releaseCancelling (v := ⟨job.control, held, schedules, results, fences⟩) state using 1
    simp [eventPatch, releasedPatch, noChanges, Job.control, state, JobState.terminal]
  | stopped state =>
    convert Move.releasePausing (v := ⟨job.control, held, schedules, results, fences⟩) state (pausing state) using 1
    simp [eventPatch, releasedPatch, pausedPatch, Job.control, JobState.terminal]
  | paused state infrastructure desired =>
    convert Move.releasePaused (v := ⟨job.control, held, schedules, results, fences⟩) state
      (lost state infrastructure) desired using 1
    simp [eventPatch, releasedPatch, pausedPatch, Job.control, JobState.terminal]
  | retry state infrastructure budget readyAt jitter =>
    convert Move.releaseRetry (v := ⟨job.control, held, schedules, results, fences⟩) state
      (lost state infrastructure) budget using 1
    simp only [eventPatch, releasedPatch, retryPatch, newSchedule, Job.control, JobState.terminal]
    by_cases desired : job.desiredState = .paused <;> simp [desired]
  | failed state =>
    convert Move.releaseFailed (v := ⟨job.control, held, schedules, results, fences⟩) state using 1
    simp [eventPatch, releasedPatch, noChanges, Job.control, state, JobState.terminal]
  | kept state =>
    have succeeded : job.state = .succeeded := by
      rcases custody with live | fenced
      · cases reached : job.state <;> simp_all [cleanable]
      · cases reached : job.state <;> simp_all [cleanable]
    convert Move.releaseSucceeded (v := ⟨job.control, held, schedules, results, fences⟩) succeeded using 1
    simp [eventPatch, releasedPatch, noChanges, Job.control, succeeded, JobState.terminal]

theorem Branch.fence (terminalized : Bool) (now : Time) :
    ((releasedPatch next terminalized now branch).apply job).jobFence = job.jobFence := by
  cases found <;> rfl

theorem Branch.opens
    : ∀ schedule ∈ retry, schedule.closedAt = none := by
  cases found with
  | retry => simp [newSchedule]
  | _ => simp

theorem Branch.outstanding :
    (if job.state.terminal then 0 else 1) =
      (next.terminal && !job.state.terminal).toNat + if next.terminal then 0 else 1 := by
  cases found with
  | kept state => cases job.state.terminal <;> rfl
  | _ => simp_all [JobState.terminal]

end

theorem stopContainer_frame (db : Db) (attemptId : AttemptId) (now : Time) (kind : ProofKind) :
    Frame [.containerIdentities] db.rows (stopContainer db attemptId now kind).rows := by
  cases kind with
  | noContainer => exact .refl _ _
  | stopped => exact .update _ _ _ (by decide)

theorem revokeOpen_rows (db : Db) (now : Time) :
    (if lease.revokedAt = none then
      db.update .attemptLeases (fun row => row.leaseId = lease.leaseId) (revokePatch now lease.revokeReason)
    else db).rows = revokeOpen db.rows lease now := by
  unfold revokeOpen
  split_ifs <;> rfl

theorem releaseAllocation_moves {counters : List AdmissionCounter}
    (named : Named db attempt.attemptId request.allocationId job attempt lease allocation)
    (unreleased : allocation.state ≠ .released) (matched : CountersOf db.rows job.scopes counters)
    (cleans : cleanable job.state = true) (pausing : job.state = .pausing -> job.desiredState = .paused)
    (released : releaseAllocation settings db call workerId job attempt lease counters request = .ok after) :
    Frame CallbackOperation.reportCleanup.writes db.rows after.rows ∧
      Moves .cleanup job.jobId db.rows after.rows := by
  simp only [releaseAllocation, Cleanup.event, bind_eq_ok, pure_eq_ok] at released
  obtain ⟨accounted, accounting, ⟨branched, next, branch⟩, branching, adjusted, charging, rebased, rebasing,
    _, ⟨_, written, rfl⟩, rfl⟩ := released
  have counted := accountLocked_frame accounting
  obtain ⟨branchFrame, write, retry, rewrites, writes, found⟩ := cleanupBranch_spec named.attemptMember
    (by exact counted .attempts (by decide)) named.owner branching
  have admitted : CountersOf branched.rows job.scopes counters := by
    refine matched.congr ?_
    rw [branchFrame .admissionCounters (by decide)]
    exact counted .admissionCounters (by decide)
  obtain ⟨charged, adjusting⟩ := adjustCounters_charged charging admitted (ofJob_nodup _ _)
  have retaining (choice : Bool) : Frame [.idempotencyRecords] adjusted.rows
      (if choice = true then extendRetention adjusted job.jobId call.now
        settings.idempotencyTerminalRetentionDays else adjusted).rows := by
    cases choice
    · exact .refl _ _
    · exact extendRetention_frame _ _ _
  have closing : Frame (.containerIdentities :: .idempotencyRecords :: fairnessTables) adjusted.rows
      (stopContainer rebased attempt.attemptId call.now request.proof.kind).rows :=
    (((retaining _).mono (by decide)).trans ((rebaseLocked_frame rebasing).mono (by decide))).trans
      ((stopContainer_frame _ _ _ _).mono (by decide))
  have opening : Frame
      ([.allocations, .attempts, .retrySchedules, .resultReservations, .admissionCounters,
        .containerIdentities, .idempotencyRecords] ++ fairnessTables) db.rows
      (stopContainer rebased attempt.attemptId call.now request.proof.kind).rows :=
    ((((counted.mono (by decide)).trans (.update _ _ _ (by decide))).trans
      (branchFrame.mono (by decide))).trans (adjusting.mono (by decide))).trans (closing.mono (by decide))
  have grants : revokeOpen (stopContainer rebased attempt.attemptId call.now request.proof.kind).rows lease
      call.now .authorityGrants = db.rows .authorityGrants :=
    (revokeOpen_frame _ _ _ (by decide)).trans (opening _ (by decide))
  have event := Local.event written
  change Local job.jobId [] _ (update (rows _) _ _ _) _ at event
  rw [revokeOpen_rows] at event
  have rewritten := (Local.unowned counted (by decide)).trans
    ((Local.updateAllocation named.allocationMember (by exact counted .allocations (by decide))
      named.sameAllocation named.allocationOwner (releasePatch call.now)).trans
      (rewrites.trans
        ((Local.unowned adjusting (by decide)).trans
          ((Local.unowned closing (by decide)).trans
            ((Local.revokeOpen named.leaseMember (by exact opening .attemptLeases (by decide))
              named.leaseOwner call.now).trans
              ((Local.endGrants named.attemptMember grants rfl named.owner.symm call.now).trans event))))))
  refine ⟨rewritten.frame.mono (by decide), Moves.of_local rewritten ?_ ?_⟩
  · exact ne_nil_of_mem (mem_slice.2 ⟨named.jobMember, rfl⟩)
  · intro v represents fits
    obtain ⟨onlyJob, control⟩ := represents.job_eq named.jobMember rfl
    have custody : v.custody = .live attempt.state attempt.executionIntent allocation.resources ∨
        v.custody = .fenced attempt.failureClass allocation.resources := by
      rcases (named.custody unreleased represents).2 with ⟨_, _, _, _, live⟩ | ⟨_, _, fenced⟩
      · exact .inl live
      · exact .inr fenced
    have emptied := named.release unreleased represents writes found.opens call.now
    have onlyLeft : releaseWrite (db.rows.slice job.jobId) write attempt.attemptId request.allocationId lease
        call.now .jobs = [job] :=
      (releaseWrite_frame writes _ _ _ _ _ (by decide)).trans onlyJob
    refine ⟨_, found.move control fits custody cleans pausing call.now,
      emptied.event (.worker workerId) call.now .allocationReleased (some .verifiedCleanup) false _ onlyLeft
        (.refl job) (.inl (found.fence _ _)), ?_⟩
    have state : v.state = job.state := congrArg Control.state control.symm
    have load : v.load =
        ((next.terminal && !job.state.terminal).toNat + if next.terminal then 0 else 1, 1) := by
      rw [← found.outstanding, ← state]
      rcases custody with live | fenced
      · simp [load, outstanding, active, live]
      · simp [load, outstanding, active, fenced]
    have scopes : v.scopes = job.scopes := by
      rw [scopes, ← control]
      rfl
    rw [load, scopes]
    have shifted := charged.shift (if next.terminal then 0 else 1, 0)
    simp only [Nat.zero_add, Nat.add_zero] at shifted
    refine shifted.around ?_ ?_
    · rw [branchFrame .admissionCounters (by decide)]
      exact counted .admissionCounters (by decide)
    · rw [event.frame .admissionCounters (by decide), update_other _ _ _ (by decide),
        revokeOpen_frame _ _ _ (by decide)]
      exact closing .admissionCounters (by decide)

end

theorem Named.countersOf {opened : Db} {job : Job} {attempt : Attempt} {lease : AttemptLease}
    {allocation : Allocation} {allocationId : AllocationId} {mode : OperationalMode}
    {counters : List AdmissionCounter}
    (named : Named opened attempt.attemptId allocationId job attempt lease allocation)
    (locked : lockPolicyCounters opened attempt.attemptId = .ok (mode, counters)) :
    CountersOf opened.rows job.scopes counters := by
  obtain ⟨found, foundMember, sameAttempt, owner, ownerMember, owns, matched⟩ := lockPolicyCounters_spec locked
  obtain rfl := attempt_unique opened foundMember named.attemptMember sameAttempt
  obtain rfl := job_unique opened ownerMember named.jobMember (owns.trans named.owner.symm)
  exact matched

def Unclassified (db : Db) : Prop :=
  ∃ attemptId allocationId job attempt lease allocation,
    Named db attemptId allocationId job attempt lease allocation ∧ allocation.state ≠ .released ∧
      job.state = .recovering ∧ attempt.failureClass = none

theorem Unclassified.unfit (unclassified : Unclassified db) :
    ∃ job ∈ db.rows .jobs, ∀ v, Represents (db.rows.slice job.jobId) v -> ¬Fits v := by
  obtain ⟨_, _, job, attempt, lease, allocation, named, unreleased, recovering, unknown⟩ := unclassified
  refine ⟨job, named.jobMember, fun v represents fits => ?_⟩
  have allowed := fits.custody
  obtain ⟨_, control⟩ := represents.job_eq named.jobMember rfl
  have state : v.state = .recovering := (congrArg Control.state control.symm).trans recovering
  rcases (named.custody unreleased represents).2 with ⟨_, _, _, _, live⟩ | ⟨_, _, fenced⟩
  · simp [live, state] at allowed
  · simp [fenced, state, unknown] at allowed

/-- A replay, the promotion of an answer that was not verified, or the release of what the attempt held. -/
inductive Cleaned (db : Db) (call : Call) (workerId : WorkerId) (callback : Callback) (after : Db)
    (answer : Acknowledgment) : Prop where
  | replayed (same : after = db)
      (answered : Answered db workerId .reportCleanup callback answer)
  | promoted {pending : Acknowledgment} (unverified : pending.isVerified = false)
      (answered : Answered db workerId .reportCleanup callback pending)
      (frame : Frame (.callbackReceipts :: CallbackOperation.reportCleanup.writes) db.rows after.rows)
      (progress : Progresses .cleanup db.rows after.rows)
  | performed {opened done : Db}
      (fresh : db.Insertable .callbackReceipts (pendingReceipt call workerId .reportCleanup callback))
      (receipt : opened.rows =
        db.rows.append .callbackReceipts (pendingReceipt call workerId .reportCleanup callback))
      (frame : Frame CallbackOperation.reportCleanup.writes opened.rows done.rows)
      (progress : Progresses .cleanup opened.rows done.rows)
      (completed : completeCallback done call answer = .ok (after, answer))
      (verified : answer.isVerified = true ∨ Unclassified opened)

theorem storeCleanupAcknowledgment_frame {callbackId : CallbackId} {replay : Option Acknowledgment}
    {response : Acknowledgment}
    (stored : storeCleanupAcknowledgment db call workerId callbackId replay response = .ok (after, answer)) :
    Frame [.callbackReceipts] db.rows after.rows := by
  cases replay with
  | none => exact (completeCallback_frame stored).1
  | some pending =>
    simp only [storeCleanupAcknowledgment, bind_eq_ok, require_eq_ok, pure_eq_ok, Prod.mk.injEq,
      exists_const] at stored
    exact stored.2.1 ▸ .update _ _ _ (mem_singleton_self _)

theorem reportCleanup_cleaned
    (reported : reportCleanup settings db call workerId attemptId callback request = .ok (after, answer)) :
    Cleaned db call workerId callback after answer := by
  simp only [reportCleanup, bind_eq_ok, require_eq_ok, exists_const] at reported
  obtain ⟨⟨opened, replay⟩, begun, ⟨mode, counters⟩, locked, _, _, ⟨job, attempt, lease, allocation⟩, found,
    _, _, _, reported⟩ := reported
  have named := cleanupRows_named found
  obtain rfl := named.sameAttempt
  split at reported
  next acknowledgment verified =>
    simp only [pure_eq_ok, Prod.mk.injEq] at reported
    obtain ⟨rfl, rfl⟩ := reported
    rcases beginCallback_cases begun with ⟨rfl, _⟩ | ⟨rfl, stored, rfl, answered⟩
    · simp at verified
    · simp only [Option.filter_eq_some_iff, Option.some.injEq] at verified
      exact .replayed rfl (verified.1 ▸ answered)
  next unverified =>
    simp only [bind_eq_ok, require_eq_ok, exists_const] at reported
    obtain ⟨_, reported⟩ := reported
    have outcome : (∃ done, Frame CallbackOperation.reportCleanup.writes opened.rows done.rows ∧
          Progresses .cleanup opened.rows done.rows ∧
          storeCleanupAcknowledgment done call workerId callback.callbackId replay
            (.cleanup callback.callbackId true .released call.now) = .ok (after, answer)) ∨
        Unclassified opened ∧
          (replay = some answer ∧ after = opened ∨
            replay = none ∧ ∃ body, completeCallback opened call body = .ok (after, answer)) := by
      split at reported
      next => exact .inl ⟨opened, .refl _ _, .quiet (.refl _), reported⟩
      next unreleased =>
        simp only [bind_eq_ok, require_eq_ok, exists_const] at reported
        obtain ⟨cleans, committed, reported⟩ := reported
        split at reported
        next recovering =>
          refine .inr ⟨⟨_, _, job, attempt, lease, allocation, named, unreleased, recovering⟩, ?_⟩
          cases replay with
          | none => exact .inr ⟨rfl, _, reported⟩
          | some acknowledgment =>
            simp only [pure_eq_ok, Prod.mk.injEq] at reported
            exact .inl ⟨congrArg some reported.2, reported.1.symm⟩
        next =>
          simp only [bind_eq_ok] at reported
          obtain ⟨done, released, stored⟩ := reported
          have matched := named.countersOf locked
          have pauses (pausing : job.state = .pausing) : job.desiredState = .paused := by
            rcases committed with other | ⟨desired, _⟩
            · exact absurd pausing other
            · exact desired
          obtain ⟨frame, moves⟩ := releaseAllocation_moves named unreleased matched cleans pauses released
          exact .inl ⟨done, frame, moves.progress, stored⟩
    rcases beginCallback_cases begun with ⟨rfl, fresh, receipt⟩ | ⟨rfl, pending, rfl, answered⟩
    · rcases outcome with ⟨done, frame, progress, stored⟩ | ⟨unclassified, ⟨replayed, _⟩ | ⟨_, body, stored⟩⟩
      · obtain rfl := (completeCallback_frame stored).2
        exact .performed fresh receipt frame progress stored (.inl rfl)
      · simp at replayed
      · obtain rfl := (completeCallback_frame stored).2
        exact .performed fresh receipt (.refl _ _) (.quiet (.refl _)) stored (.inr unclassified)
    · have pends : pending.isVerified = false := by
        simpa [Option.filter_eq_none_iff] using unverified
      rcases outcome with ⟨done, frame, progress, stored⟩ | ⟨_, ⟨replayed, rfl⟩ | ⟨absent, _⟩⟩
      · have closing := storeCleanupAcknowledgment_frame stored
        exact .promoted pends answered ((frame.mono (by decide)).trans (closing.mono (by decide)))
          (progress.to_quiet (.of_frame closing (by decide)))
      · exact .replayed rfl (Option.some.inj replayed ▸ answered)
      · simp at absent

end Nexa
