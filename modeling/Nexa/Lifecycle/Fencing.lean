import Nexa.Application.Recovery
import Nexa.Lifecycle.Writes

namespace Nexa

open Relational Tables

section

variable {s : Tables nexaSchema}

theorem openLeases_revoke {lease : AttemptLease} (only : openLeases s = [lease])
    {condition : AttemptLease -> Bool} (selected : condition lease = true)
    (patch : Patch nexaSchema .attemptLeases) (revokes : ∀ row, (patch.apply row).revokedAt ≠ none) :
    openLeases (s.update .attemptLeases condition patch.apply) = [] := by
  unfold openLeases at only ⊢
  rw [update_same, filter_updateWhere_drop, only]
  · simp [selected]
  · intro row _ _
    simp [revokes row]

theorem openGrants_end {grant : AuthorityGrant} (only : openGrants s = [grant])
    {condition : AuthorityGrant -> Bool} (selected : condition grant = true)
    (patch : Patch nexaSchema .authorityGrants) (ends : ∀ row, (patch.apply row).endedAt ≠ none) :
    openGrants (s.update .authorityGrants condition patch.apply) = [] := by
  unfold openGrants at only ⊢
  rw [update_same, filter_updateWhere_drop, only]
  · simp [selected]
  · intro row _ _
    simp [ends row]

theorem unreleased_release {allocation : Allocation} (only : unreleased s = [allocation])
    {condition : Allocation -> Bool} (selected : condition allocation = true)
    (patch : Patch nexaSchema .allocations) (releases : ∀ row, (patch.apply row).state = .released) :
    unreleased (s.update .allocations condition patch.apply) = [] := by
  unfold unreleased at only ⊢
  rw [update_same, filter_updateWhere_drop, only]
  · simp [selected]
  · intro row _ _
    simp [releases row]

theorem unreleased_quarantine {allocation : Allocation} (only : unreleased s = [allocation])
    {condition : Allocation -> Bool} (selected : condition allocation = true)
    (inside : ∀ row ∈ s .allocations, condition row = true -> row.state ≠ .released) (now : Time) :
    unreleased (s.update .allocations condition (quarantinePatch now).apply) =
      [(quarantinePatch now).apply allocation] := by
  unfold unreleased at only ⊢
  rw [update_same, filter_updateWhere, only]
  · simp [selected]
  · intro row member chosen
    simp [quarantinePatch, inside row member chosen]

end

def regrantWrite (s : Tables nexaSchema) (grantId : GrantId) (now : Time) (grant : AuthorityGrant) :
    Tables nexaSchema :=
  (s.update .authorityGrants (fun row => row.grantId = grantId) (endGrantPatch now).apply).append
    .authorityGrants grant

theorem Holding.regrant {s : Tables nexaSchema} {rows : AuthorityRows} {v : Lifecycle}
    (holding : Holding s rows v) (now : Time) (grant : AuthorityGrant) (opens : grant.endedAt = none)
    (attempt : grant.attemptId = rows.attempt.attemptId) (fence : grant.jobFence = rows.job.jobFence) :
    Holding (regrantWrite s rows.grant.grantId now grant) { rows with grant } v := by
  obtain ⟨represents, live⟩ := holding
  have ended : openGrants (s.update .authorityGrants (fun row => row.grantId = rows.grant.grantId)
      (endGrantPatch now).apply) = [] :=
    openGrants_end live.onlyGrant (by simp) (endGrantPatch now) (by simp [endGrantPatch])
  have onlyGrant : openGrants (regrantWrite s rows.grant.grantId now grant) = [grant] := by
    unfold regrantWrite
    unfold openGrants at ended ⊢
    rw [append_same, List.filter_append, ended]
    simp [opens]
  have replaced : Live (regrantWrite s rows.grant.grantId now grant) { rows with grant } :=
    { live with onlyGrant, grantAttempt := attempt, grantFence := fence }
  exact ⟨⟨represents.job, ⟨_, replaced, rfl, rfl, rfl⟩, represents.schedules, represents.results,
    represents.fences, represents.events⟩, replaced⟩

def fenceWrite (s : Tables nexaSchema) (attemptId : AttemptId) (now : Time) (state : AttemptState)
    (failureClass : FailureClass) (failureReason : FailureReason) (revokeReason : Option RevokeReason) :
    Tables nexaSchema :=
  (((s.update .attempts (fun row => row.attemptId = attemptId)
      (fencePatch now state failureClass failureReason).apply).update
    .attemptLeases (fun row => row.attemptId = attemptId ∧ row.revokedAt = none)
      (revokePatch now revokeReason).apply).update
    .authorityGrants (fun row => row.attemptId = attemptId ∧ row.endedAt = none)
      (endGrantPatch now).apply).update
    .allocations (fun row => row.attemptId = attemptId ∧ row.state = .held) (quarantinePatch now).apply

theorem abandonReservations_frame (db : Db) (attemptId : AttemptId) (now : Time) :
    Frame [.resultReservations, .checkpointReservations] db.rows
      (abandonReservations db attemptId now).rows :=
  (Frame.update _ _ _ (by simp)).trans (.update _ _ _ (by simp))

theorem fenceAttempt_rows (db : Db) (attemptId : AttemptId) (now : Time) (state : AttemptState)
    (failureClass : FailureClass) (failureReason : FailureReason) (revokeReason : RevokeReason) :
    Frame [.resultReservations, .checkpointReservations]
      (fenceWrite db.rows attemptId now state failureClass failureReason (some revokeReason))
      (fenceAttempt db attemptId now state failureClass failureReason revokeReason).rows :=
  abandonReservations_frame _ attemptId now

section

variable (attemptId : AttemptId) (now : Time) (state : AttemptState) (failureClass : FailureClass)
  (failureReason : FailureReason) (revokeReason : Option RevokeReason)

theorem fenceWrite_slice (tables : Tables nexaSchema) (jobId : JobId) :
    (fenceWrite tables attemptId now state failureClass failureReason revokeReason).slice jobId =
      fenceWrite (tables.slice jobId) attemptId now state failureClass failureReason revokeReason := by
  simp only [fenceWrite, slice_update]

theorem fenceWrite_frame (tables : Tables nexaSchema) :
    Frame [.attempts, .allocations, .attemptLeases, .authorityGrants] tables
      (fenceWrite tables attemptId now state failureClass failureReason revokeReason) :=
  (((Frame.update _ _ _ (by decide)).trans (.update _ _ _ (by decide))).trans
    (.update _ _ _ (by decide))).trans (.update _ _ _ (by decide))

theorem fenceWrite_fences (tables : Tables nexaSchema) :
    fencesOf (fenceWrite tables attemptId now state failureClass failureReason revokeReason) =
      fencesOf tables :=
  (fencesOf_leases _ _ (revokePatch now revokeReason)).trans
    (fencesOf_attempts _ _ (fencePatch now state failureClass failureReason))

theorem fenceWrite_kept (tables : Tables nexaSchema) (table : Table) :
    tables.Kept (fenceWrite tables attemptId now state failureClass failureReason revokeReason) table :=
  (((Kept.update _ _ (fencePatch now state failureClass failureReason) table).trans
    (.update _ _ (revokePatch now revokeReason) table)).trans (.update _ _ (endGrantPatch now) table)).trans
    (.update _ _ (quarantinePatch now) table)

theorem attempt_rows (db : Db) {attempt : Attempt} (member : attempt ∈ db.rows .attempts)
    {row : Attempt} (inside : row ∈ db.rows .attempts) (same : row.attemptId = attempt.attemptId) :
    ownerOf .attempts row = some attempt.jobId := by
  rw [attempt_unique db inside member same]
  rfl

theorem fenceWrite_others (db : Db) {attempt : Attempt} (member : attempt ∈ db.rows .attempts) :
    (fenceWrite db.rows attempt.attemptId now state failureClass failureReason revokeReason).others
        attempt.jobId =
      db.rows.others attempt.jobId := by
  unfold fenceWrite
  rw [others_update, others_update, others_update, others_update]
  · intro row inside same
    exact attempt_rows db member inside (by simpa using same)
  · intro row inside same
    exact congrArg some (lease_owner db member inside (by simp at same; exact same.1))
  · intro row inside same
    exact congrArg some (grant_owner db member inside (by simp at same; exact same.1))
  · intro row inside same
    exact congrArg some (allocation_owner db member inside (by simp at same; exact same.1))

variable {s : Tables nexaSchema} {v : Lifecycle} {rows : AuthorityRows}

theorem Live.fence (live : Live s rows) :
    Fenced
      (fenceWrite s rows.attempt.attemptId now state failureClass failureReason revokeReason)
      ((fencePatch now state failureClass failureReason).apply rows.attempt)
      ((quarantinePatch now).apply rows.allocation) := by
  refine ⟨?_, ?_, ?_, ?_, rfl, live.allocationAttempt⟩
  · change _ ∈ updateWhere _ _ (s .attempts)
    rw [mem_updateWhere]
    exact ⟨rows.attempt, live.attemptMember, by simp⟩
  · refine unreleased_quarantine live.onlyAllocation ?_ ?_ now
    · simp [live.allocationAttempt, live.held]
    · intro row _ selected
      simp only [decide_eq_true_eq] at selected
      simp [selected.2]
  · have opened : rows.lease ∈ openLeases s := by simp [live.onlyLease]
    refine openLeases_revoke (s := s) live.onlyLease ?_ (revokePatch now revokeReason) (by simp [revokePatch])
    simp [live.leaseAttempt, (mem_openLeases.1 opened).2]
  · have opened : rows.grant ∈ openGrants s := by simp [live.onlyGrant]
    refine openGrants_end (s := s) live.onlyGrant ?_ (endGrantPatch now) (by simp [endGrantPatch])
    simp [live.grantAttempt, (mem_openGrants.1 opened).2]

theorem Represents.fence (represents : Represents s v) (live : Live s rows) :
    Represents
      (fenceWrite s rows.attempt.attemptId now state failureClass failureReason revokeReason)
      { v with custody := .fenced (some failureClass) rows.allocation.resources } :=
  represents.withCustody (fenceWrite_frame _ _ _ _ _ _ _) (fenceWrite_fences _ _ _ _ _ _ _)
    ⟨_, _, live.fence now state failureClass failureReason revokeReason, rfl, rfl⟩

end

end Nexa
