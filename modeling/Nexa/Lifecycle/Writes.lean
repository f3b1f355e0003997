import Nexa.Application.Events
import Nexa.Lifecycle.Effects

namespace Nexa

open Relational Tables

variable {after : Tables nexaSchema}

section

variable {s : Tables nexaSchema} {v : Lifecycle} {rows : AuthorityRows}

theorem attemptPatch_keeps (patch : Patch nexaSchema .attempts) (row : Attempt) :
    (patch.apply row).attemptId = row.attemptId ∧ (patch.apply row).jobFence = row.jobFence := by
  have keys := patch.keys_apply row
  simp only [keysOf, List.cons.injEq, Key.mk.injEq] at keys
  simp_all

theorem fencesOf_congr (attempts : after .attempts = s .attempts)
    (leases : after .attemptLeases = s .attemptLeases) : fencesOf after = fencesOf s := by
  rw [fencesOf, fencesOf, attempts, leases]

theorem fencesOf_attempts (s : Tables nexaSchema) (condition : Attempt -> Bool) (patch : Patch nexaSchema .attempts) :
    fencesOf (s.update .attempts condition patch.apply) = fencesOf s := by
  rw [fencesOf, fencesOf, update_same, map_updateWhere _ (fun row => (attemptPatch_keeps patch row).2)]
  rfl

theorem leasePatch_keeps (patch : Patch nexaSchema .attemptLeases) (row : AttemptLease) :
    (patch.apply row).attemptId = row.attemptId ∧ (patch.apply row).allocationId = row.allocationId ∧
      (patch.apply row).leaseId = row.leaseId ∧ (patch.apply row).jobFence = row.jobFence := by
  have keys := patch.keys_apply row
  simp only [keysOf, List.cons.injEq, Key.mk.injEq] at keys
  simp_all

theorem fencesOf_leases (s : Tables nexaSchema) (condition : AttemptLease -> Bool)
    (patch : Patch nexaSchema .attemptLeases) :
    fencesOf (s.update .attemptLeases condition patch.apply) = fencesOf s := by
  rw [fencesOf, fencesOf, update_same, map_updateWhere _ (fun row => (leasePatch_keeps patch row).2.2.2)]
  rfl

theorem Represents.rebuild (represents : Represents s v)
    (frame : Frame [.attempts, .allocations, .attemptLeases, .authorityGrants, .retrySchedules] s
      after)
    (fences : fencesOf after = fencesOf s) {custody : Custody}
    (holds : custody.Holds after) {schedules : List Nat}
    (scheduled : (openSchedules after).map (·.retryNumber) = schedules) :
    Represents after { v with custody, schedules } := by
  refine ⟨?_, holds, scheduled, ?_, fences.trans represents.fences, ?_⟩
  · rw [frame .jobs (by decide)]
    exact represents.job
  · rw [frame .results (by decide)]
    exact represents.results
  · rw [frame .events (by decide)]
    exact represents.events

theorem Represents.withCustody (represents : Represents s v)
    (frame : Frame [.attempts, .allocations, .attemptLeases, .authorityGrants] s after)
    (fences : fencesOf after = fencesOf s) {custody : Custody}
    (holds : custody.Holds after) : Represents after { v with custody } := by
  refine represents.rebuild (frame.mono (by decide)) fences holds ?_
  rw [openSchedules, frame .retrySchedules (by decide)]
  exact represents.schedules

def AuthorityRows.onto (rows : AuthorityRows) (v : Lifecycle) : Lifecycle :=
  { v with
    toControl := rows.job.control
    custody := .live rows.attempt.state rows.attempt.executionIntent rows.allocation.resources }

structure Holding (s : Tables nexaSchema) (rows : AuthorityRows) (v : Lifecycle) : Prop where
  represents : Represents s (rows.onto v)
  live : Live s rows

theorem Holding.updateAttempt (holding : Holding s rows v) (patch : Patch nexaSchema .attempts)
    {attemptId : AttemptId} (named : rows.attempt.attemptId = attemptId) :
    Holding (s.update .attempts (fun row => row.attemptId = attemptId) patch.apply)
      { rows with attempt := patch.apply rows.attempt } v := by
  obtain ⟨represents, live⟩ := holding
  obtain ⟨sameId, sameFence⟩ := attemptPatch_keeps patch rows.attempt
  have inside : patch.apply rows.attempt ∈
      s.update .attempts (fun row => row.attemptId = attemptId) patch.apply .attempts := by
    rw [update_same, mem_updateWhere]
    exact ⟨rows.attempt, live.attemptMember, by simp [named]⟩
  have fences : fencesOf (s.update .attempts (fun row => row.attemptId = attemptId) patch.apply) =
      (v.fences, v.fences) :=
    (fencesOf_attempts _ _ patch).trans represents.fences
  have moved : Live (s.update .attempts (fun row => row.attemptId = attemptId) patch.apply)
      { rows with attempt := patch.apply rows.attempt } :=
    { live with
      attemptMember := inside
      allocationAttempt := live.allocationAttempt.trans sameId.symm
      leaseAttempt := live.leaseAttempt.trans sameId.symm
      grantAttempt := live.grantAttempt.trans sameId.symm
      attemptFence := sameFence.trans live.attemptFence }
  exact ⟨⟨represents.job, ⟨_, moved, rfl, rfl, rfl⟩, represents.schedules, represents.results, fences,
    represents.events⟩, moved⟩

theorem Holding.appendResult (holding : Holding s rows v) (result : JobResult) :
    Holding (s.append .results result) rows { v with results := v.results + 1 } := by
  obtain ⟨represents, live⟩ := holding
  have kept : Live (s.append .results result) rows := { live with }
  refine ⟨⟨represents.job, ⟨rows, kept, rfl, rfl, rfl⟩, represents.schedules, ?_, represents.fences,
    represents.events⟩, kept⟩
  rw [append_same, List.length_append, represents.results]
  rfl

theorem Holding.updateLease (holding : Holding s rows v) (patch : Patch nexaSchema .attemptLeases)
    (keeps : ∀ row, (patch.apply row).revokedAt = row.revokedAt) {leaseId : LeaseId}
    (named : rows.lease.leaseId = leaseId) :
    Holding (s.update .attemptLeases (fun row => row.leaseId = leaseId) patch.apply)
      { rows with lease := patch.apply rows.lease } v := by
  obtain ⟨represents, live⟩ := holding
  obtain ⟨sameAttempt, sameAllocation, _, _⟩ := leasePatch_keeps patch rows.lease
  have onlyLease : openLeases (s.update .attemptLeases (fun row => row.leaseId = leaseId) patch.apply) =
      [patch.apply rows.lease] := by
    have only := live.onlyLease
    unfold openLeases at only ⊢
    rw [update_same, filter_updateWhere (fun row _ _ => by rw [keeps]), only]
    simp [named]
  have moved : Live (s.update .attemptLeases (fun row => row.leaseId = leaseId) patch.apply)
      { rows with lease := patch.apply rows.lease } :=
    { live with
      onlyLease := onlyLease
      leaseAttempt := sameAttempt.trans live.leaseAttempt
      leaseAllocation := sameAllocation.trans live.leaseAllocation }
  exact ⟨⟨represents.job, ⟨_, moved, rfl, rfl, rfl⟩, represents.schedules, represents.results,
    (fencesOf_leases _ _ patch).trans represents.fences, represents.events⟩, moved⟩

end

section

variable {s : Tables nexaSchema} {v : Lifecycle} {job stored : Job}

theorem Represents.replaceJob (represents : Represents s v) (only : s .jobs = [stored])
    (frame : Frame [.jobs] s after) (written : after .jobs = [job])
    (sequence : job.eventSequence = stored.eventSequence) (fence : job.jobFence = stored.jobFence) :
    Represents after { v with toControl := job.control } := by
  obtain ⟨row, onlyRow, control⟩ := represents.job
  obtain rfl : row = stored := by simpa [only] using onlyRow.symm
  have attempts : after .attempts = s .attempts := frame _ (by decide)
  have allocations : unreleased after = unreleased s := by
    rw [unreleased, unreleased, frame _ (by decide)]
  have leases : openLeases after = openLeases s := by
    rw [openLeases, openLeases, frame _ (by decide)]
  have grants : openGrants after = openGrants s := by
    rw [openGrants, openGrants, frame _ (by decide)]
  have schedules : openSchedules after = openSchedules s := by
    rw [openSchedules, openSchedules, frame _ (by decide)]
  refine ⟨⟨_, written, rfl⟩, ?_, ?_, ?_, ?_, ?_⟩
  · have holds := represents.custody
    cases custody : v.custody with
    | vacant =>
      rw [custody] at holds
      exact ⟨allocations.trans holds.1, leases.trans holds.2.1, grants.trans holds.2.2⟩
    | live state intent resources =>
      rw [custody] at holds
      obtain ⟨rows, live, facts⟩ := holds
      have sameJob : rows.job = row := by simpa [only] using live.onlyJob.symm
      exact ⟨{ rows with job },
        { live with
          onlyJob := written
          attemptMember := attempts ▸ live.attemptMember
          onlyAllocation := allocations.trans live.onlyAllocation
          onlyLease := leases.trans live.onlyLease
          onlyGrant := grants.trans live.onlyGrant
          attemptFence := by rw [live.attemptFence, sameJob, fence]
          grantFence := by rw [live.grantFence, sameJob, fence] }, facts⟩
    | fenced failure resources =>
      rw [custody] at holds
      obtain ⟨attempt, allocation, fenced, facts⟩ := holds
      exact ⟨attempt, allocation,
        { fenced with
          attemptMember := attempts ▸ fenced.attemptMember
          onlyAllocation := allocations.trans fenced.onlyAllocation
          noLease := leases.trans fenced.noLease
          noGrant := grants.trans fenced.noGrant }, facts⟩
  · rw [schedules]
    exact represents.schedules
  · rw [frame .results (by decide)]
    exact represents.results
  · exact (fencesOf_congr attempts (frame .attemptLeases (by decide))).trans represents.fences
  · rw [frame .events (by decide), represents.events]
    have same : job.eventSequence = v.sequence := sequence.trans (congrArg Control.sequence control)
    rw [← same]
    rfl

theorem Represents.updateJob (represents : Represents s v) (only : s .jobs = [stored]) {jobId : JobId}
    (named : stored.jobId = jobId) (patch : JobChanges)
    (sequence : (patch.apply stored).eventSequence = stored.eventSequence)
    (fence : (patch.apply stored).jobFence = stored.jobFence) :
    Represents (s.update .jobs (fun row => row.jobId = jobId) patch.apply)
      { v with toControl := (patch.apply stored).control } := by
  refine represents.replaceJob only (.update _ _ _ (by decide)) ?_ sequence fence
  simp [only, named]

theorem Holding.updateJob {rows : AuthorityRows} (holding : Holding s rows v) {jobId : JobId}
    (named : rows.job.jobId = jobId) (patch : JobChanges)
    (sequence : (patch.apply rows.job).eventSequence = rows.job.eventSequence)
    (fence : (patch.apply rows.job).jobFence = rows.job.jobFence) :
    Holding (s.update .jobs (fun row => row.jobId = jobId) patch.apply)
      { rows with job := patch.apply rows.job } v := by
  obtain ⟨represents, live⟩ := holding
  have written : s.update .jobs (fun row => row.jobId = jobId) patch.apply .jobs =
      [patch.apply rows.job] := by
    simp [live.onlyJob, named]
  exact ⟨represents.updateJob live.onlyJob named patch sequence fence,
    { live with
      onlyJob := written
      attemptFence := live.attemptFence.trans fence.symm
      grantFence := live.grantFence.trans fence.symm }⟩

def eventWrite (s : Tables nexaSchema) (job : Job) (actor : Actor) (now : Time) (eventType : EventType)
    (reason : Option EventReason) (keepVersion : Bool) (changes : JobChanges) : Tables nexaSchema :=
  (s.update .jobs (fun row => row.jobId = job.jobId) (eventPatch job now keepVersion changes).apply).append
    .events (eventRow job actor now eventType reason)

structure Fresh (job stored : Job) : Prop where
  jobId : stored.jobId = job.jobId
  eventSequence : stored.eventSequence = job.eventSequence
  version : stored.version = job.version

theorem Fresh.refl (job : Job) : Fresh job job := ⟨rfl, rfl, rfl⟩

variable (actor : Actor) (now : Time) (eventType : EventType) (reason : Option EventReason)
  (keepVersion : Bool) (changes : JobChanges)

theorem eventWrite_jobs (only : s .jobs = [stored]) (fresh : Fresh job stored) :
    eventWrite s job actor now eventType reason keepVersion changes .jobs =
      [(eventPatch job now keepVersion changes).apply stored] := by
  simp [eventWrite, only, fresh.jobId]

theorem eventWrite_events :
    eventWrite s job actor now eventType reason keepVersion changes .events =
      s .events ++ [eventRow job actor now eventType reason] := by
  simp [eventWrite]

theorem Represents.event (represents : Represents s v) (only : s .jobs = [stored]) (fresh : Fresh job stored)
    (fence : (changes.apply stored).jobFence = stored.jobFence ∨ ∀ rows, ¬Live s rows) :
    Represents (eventWrite s job actor now eventType reason keepVersion changes)
      { v with toControl := ((eventPatch job now keepVersion changes).apply stored).control } := by
  obtain ⟨row, onlyRow, control⟩ := represents.job
  obtain rfl : row = stored := by simpa [only] using onlyRow.symm
  refine ⟨⟨_, eventWrite_jobs actor now eventType reason keepVersion changes only fresh, rfl⟩, ?_,
    represents.schedules, represents.results, represents.fences, ?_⟩
  · have holds := represents.custody
    cases custody : v.custody with
    | vacant =>
      rw [custody] at holds
      exact holds
    | live state intent resources =>
      rw [custody] at holds
      obtain ⟨rows, live, facts⟩ := holds
      have sameJob : rows.job = row := by simpa [only] using live.onlyJob.symm
      have kept : (changes.apply row).jobFence = row.jobFence := by
        rcases fence with kept | none
        · exact kept
        · exact absurd live (none rows)
      refine ⟨{ rows with job := (eventPatch job now keepVersion changes).apply row },
        { live with
          onlyJob := eventWrite_jobs actor now eventType reason keepVersion changes only fresh
          attemptFence := ?_
          grantFence := ?_ }, facts⟩
      · rw [live.attemptFence, sameJob]
        exact kept.symm
      · rw [live.grantFence, sameJob]
        exact kept.symm
    | fenced failure resources =>
      rw [custody] at holds
      obtain ⟨attempt, allocation, fenced, facts⟩ := holds
      exact ⟨attempt, allocation, { fenced with }, facts⟩
  · have sequence : job.eventSequence = v.sequence :=
      fresh.eventSequence.symm.trans (congrArg Control.sequence control)
    rw [eventWrite_events, List.map_append, represents.events]
    simp [eventRow, eventPatch, Job.control, sequence, List.range'_1_concat, Nat.add_comm]

variable {rows : AuthorityRows}

theorem Holding.eventOf (holding : Holding s rows v) (fresh : Fresh job rows.job)
    (kept : (changes.apply rows.job).jobFence = rows.job.jobFence) :
    Holding (eventWrite s job actor now eventType reason keepVersion changes)
      { rows with job := (eventPatch job now keepVersion changes).apply rows.job } v := by
  obtain ⟨represents, live⟩ := holding
  exact ⟨represents.event actor now eventType reason keepVersion changes live.onlyJob fresh (.inl kept),
    { live with
      onlyJob := eventWrite_jobs actor now eventType reason keepVersion changes live.onlyJob fresh
      attemptFence := live.attemptFence.trans kept.symm
      grantFence := live.grantFence.trans kept.symm }⟩

theorem Holding.event (holding : Holding s rows v) (kept : (changes.apply rows.job).jobFence = rows.job.jobFence) :
    Holding (eventWrite s rows.job actor now eventType reason keepVersion changes)
      { rows with job := (eventPatch rows.job now keepVersion changes).apply rows.job } v :=
  holding.eventOf actor now eventType reason keepVersion changes (.refl rows.job) kept

end

section

/-- Each is computed from the sequence the one before it wrote. -/
def eventsWrite (job : Job) (actor : Actor) (now : Time) :
    List (EventType × EventReason) -> Tables nexaSchema -> Tables nexaSchema
  | [], s => s
  | (eventType, reason) :: rest, s =>
    eventsWrite { job with eventSequence := job.eventSequence + 1 } actor now rest
      (eventWrite s job actor now eventType (some reason) true noChanges)

variable {s : Tables nexaSchema} {v : Lifecycle} {rows : AuthorityRows}

theorem Holding.events (actor : Actor) (now : Time) (events : List (EventType × EventReason)) {job : Job}
    (holding : Holding s rows v) (fresh : Fresh job rows.job) :
    ∃ last : Job, Holding (eventsWrite job actor now events s) { rows with job := last } v ∧
      last.control = { rows.job.control with sequence := rows.job.eventSequence + events.length } := by
  -- The copy runs ahead of the row it was read from by one sequence number a turn.
  induction events generalizing s rows job with
  | nil => exact ⟨rows.job, holding, rfl⟩
  | cons event rest ih =>
    have first := holding.eventOf actor now event.1 (some event.2) true noChanges fresh rfl
    have ahead : Fresh { job with eventSequence := job.eventSequence + 1 }
        ((eventPatch job now true noChanges).apply rows.job) := ⟨fresh.jobId, rfl, rfl⟩
    obtain ⟨last, held, control⟩ := ih first ahead
    refine ⟨last, held, ?_⟩
    rw [control]
    simp [eventPatch, noChanges, Job.control, fresh.eventSequence, fresh.version, Nat.add_assoc, Nat.add_comm 1]

end

end Nexa
