import Nexa.Application.Admission
import Nexa.Lifecycle.Fencing

namespace Nexa

open Relational Outcome List Tables

structure Local (jobId : JobId) (touched : List Table)
    (write : Tables nexaSchema -> Tables nexaSchema) (before after : Tables nexaSchema) : Prop where
  slice : after.slice jobId = write (before.slice jobId)
  others : after.others jobId = before.others jobId
  kept : ∀ table ∈ ownedTables, before.Kept after table
  frame : Frame (touched ++ ownedTables) before after

section

variable {jobId : JobId} {before between after : Tables nexaSchema}

theorem Local.trans {touched more : List Table} {first next : Tables nexaSchema -> Tables nexaSchema}
    (left : Local jobId touched first before between) (right : Local jobId more next between after) :
    Local jobId (touched ++ more) (fun s => next (first s)) before after where
  slice := by rw [right.slice, left.slice]
  others := right.others.trans left.others
  kept table inside := (left.kept table inside).trans (right.kept table inside)
  frame := (left.frame.mono (by simp)).trans (right.frame.mono (by simp))

theorem Local.mono {touched more : List Table} {write : Tables nexaSchema -> Tables nexaSchema}
    (rewritten : Local jobId touched write before after) (wider : touched ⊆ more) :
    Local jobId more write before after :=
  ⟨rewritten.slice, rewritten.others, rewritten.kept,
    rewritten.frame.mono (append_subset.2 ⟨subset_append_of_subset_left _ wider, subset_append_right _ _⟩)⟩

theorem Local.unowned {touched : List Table} (frame : Frame touched before after)
    (outside : ∀ table ∈ ownedTables, table ∉ touched) :
    Local jobId touched (fun s => s) before after := by
  have same : ∀ table ∈ ownedTables, after table = before table :=
    fun table inside => frame table (outside table inside)
  exact ⟨part_congr same (by simp), part_congr same (by simp),
    fun table inside => .of_same (same table inside), frame.mono (by simp)⟩

theorem Local.appendUnowned (table : Table) {row : Row table} (outside : table ∉ ownedTables) :
    Local jobId [table] (fun s => s) before (before.append table row) := by
  refine .unowned (.append _ _ (mem_singleton_self _)) ?_
  intro other owned inside
  exact outside (mem_singleton.1 inside ▸ owned)

theorem Local.updateUnowned (table : Table) {condition : Row table -> Bool} {change : Row table -> Row table}
    (outside : table ∉ ownedTables) :
    Local jobId [table] (fun s => s) before (before.update table condition change) := by
  refine .unowned (.update _ _ _ (mem_singleton_self _)) ?_
  intro other owned inside
  exact outside (mem_singleton.1 inside ▸ owned)

theorem Local.update {table : Table} (condition : Row table -> Bool) (patch : Patch nexaSchema table)
    (inside : ∀ row ∈ before table, condition row = true -> ownerOf table row = some jobId)
    (owned : table ∈ ownedTables) :
    Local jobId [] (fun s => s.update table condition patch.apply) before
      (before.update table condition patch.apply) where
  slice := slice_update _ _ _
  others := others_update _ _ inside
  kept other _ := .update _ _ patch other
  frame := .update _ _ _ owned

theorem Local.append (table : Table) (row : Row table) (owner : ownerOf table row = some jobId)
    (owned : table ∈ ownedTables) :
    Local jobId [] (fun s => s.append table row) before (before.append table row) where
  slice := slice_append _ owner
  others := others_append _ owner
  kept other _ := .append _ _ _ other
  frame := .append _ _ owned

end

section

variable {db after : Db}

section

variable {job : Job} {actor : Actor} {now : Time} {eventType : EventType} {reason : Option EventReason}
  {keepVersion : Bool} {changes : JobChanges}
  (written : writeEvent db job actor now eventType reason keepVersion changes = .ok after)

include written

theorem writeEvent_frame : Frame [.jobs, .events] db.rows after.rows := by
  rw [writeEvent_rows written]
  exact (Frame.update _ _ _ (by decide)).trans (.append _ _ (by decide))

theorem Local.event :
    Local job.jobId [] (fun s => eventWrite s job actor now eventType reason keepVersion changes)
      db.rows after.rows := by
  rw [writeEvent_rows written]
  refine (Local.update _ _ ?_ (by decide)).trans (.append _ _ rfl (by decide))
  intro row _ same
  exact congrArg some (by simpa using same)

end

variable {before : Tables nexaSchema} {jobId : JobId}

theorem Local.updateJob (patch : JobChanges) :
    Local jobId [] (fun s => s.update .jobs (fun row => row.jobId = jobId) patch.apply) before
      (before.update .jobs (fun row => row.jobId = jobId) patch.apply) := by
  refine .update _ _ ?_ (by decide)
  intro row _ selected
  exact congrArg some (by simpa using selected)

theorem Local.updateAttempt {attempt : Attempt} (member : attempt ∈ db.rows .attempts)
    (same : before .attempts = db.rows .attempts) {attemptId : AttemptId}
    (named : attempt.attemptId = attemptId) (owned : attempt.jobId = jobId)
    (patch : Patch nexaSchema .attempts) :
    Local jobId [] (fun s => s.update .attempts (fun row => row.attemptId = attemptId) patch.apply) before
      (before.update .attempts (fun row => row.attemptId = attemptId) patch.apply) := by
  refine .update _ _ ?_ (by decide)
  intro row inside selected
  have equal : row = attempt := attempt_unique db (same ▸ inside) member (by simpa [named] using selected)
  exact equal ▸ congrArg some owned

theorem Local.updateLease {lease : AttemptLease} (member : lease ∈ db.rows .attemptLeases)
    (same : before .attemptLeases = db.rows .attemptLeases) {leaseId : LeaseId}
    (named : lease.leaseId = leaseId) (owned : lease.jobId = jobId)
    (patch : Patch nexaSchema .attemptLeases) :
    Local jobId [] (fun s => s.update .attemptLeases (fun row => row.leaseId = leaseId) patch.apply) before
      (before.update .attemptLeases (fun row => row.leaseId = leaseId) patch.apply) := by
  refine .update _ _ ?_ (by decide)
  intro row inside selected
  have equal : row = lease := lease_unique db (same ▸ inside) member (by simpa [named] using selected)
  exact equal ▸ congrArg some owned

theorem Local.updateGrant {grant : AuthorityGrant} (member : grant ∈ db.rows .authorityGrants)
    (same : before .authorityGrants = db.rows .authorityGrants) {grantId : GrantId}
    (named : grant.grantId = grantId) (owned : grant.jobId = jobId)
    (patch : Patch nexaSchema .authorityGrants) :
    Local jobId [] (fun s => s.update .authorityGrants (fun row => row.grantId = grantId) patch.apply)
      before (before.update .authorityGrants (fun row => row.grantId = grantId) patch.apply) := by
  refine .update _ _ ?_ (by decide)
  intro row inside selected
  have equal : row = grant := grant_unique db (same ▸ inside) member (by simpa [named] using selected)
  exact equal ▸ congrArg some owned

theorem Local.endGrants {attempt : Attempt} (member : attempt ∈ db.rows .attempts)
    (same : before .authorityGrants = db.rows .authorityGrants) {attemptId : AttemptId}
    (named : attempt.attemptId = attemptId) (owned : attempt.jobId = jobId) (now : Time) :
    Local jobId []
      (fun s => s.update .authorityGrants (fun row => row.attemptId = attemptId ∧ row.endedAt = none)
        (endGrantPatch now).apply)
      before
      (before.update .authorityGrants (fun row => row.attemptId = attemptId ∧ row.endedAt = none)
        (endGrantPatch now).apply) := by
  refine .update _ _ ?_ (by decide)
  intro row inside selected
  simp only [decide_eq_true_eq] at selected
  exact congrArg some
    ((grant_owner db member (same ▸ inside) (selected.1.trans named.symm)).trans owned)

theorem Local.updateAllocation {allocation : Allocation} (member : allocation ∈ db.rows .allocations)
    (same : before .allocations = db.rows .allocations) {allocationId : AllocationId}
    (named : allocation.allocationId = allocationId) (owned : allocation.jobId = jobId)
    (patch : Patch nexaSchema .allocations) :
    Local jobId [] (fun s => s.update .allocations (fun row => row.allocationId = allocationId) patch.apply)
      before (before.update .allocations (fun row => row.allocationId = allocationId) patch.apply) := by
  refine .update _ _ ?_ (by decide)
  intro row inside selected
  have equal : row = allocation := allocation_unique db (same ▸ inside) member (by simpa [named] using selected)
  exact equal ▸ congrArg some owned

theorem Local.fence {attempt : Attempt} (member : attempt ∈ db.rows .attempts) (now : Time)
    (state : AttemptState) (failureClass : FailureClass) (failureReason : FailureReason)
    (revokeReason : RevokeReason) :
    Local attempt.jobId [.resultReservations, .checkpointReservations]
      (fun s => fenceWrite s attempt.attemptId now state failureClass failureReason (some revokeReason))
      db.rows
      (fenceAttempt db attempt.attemptId now state failureClass failureReason revokeReason).rows := by
  have fenced : Local attempt.jobId []
      (fun s => fenceWrite s attempt.attemptId now state failureClass failureReason (some revokeReason))
      db.rows
      (fenceWrite db.rows attempt.attemptId now state failureClass failureReason (some revokeReason)) :=
    ⟨fenceWrite_slice _ _ _ _ _ _ _ _, fenceWrite_others _ _ _ _ _ db member,
      fun table _ => fenceWrite_kept _ _ _ _ _ _ _ table, (fenceWrite_frame _ _ _ _ _ _ _).mono (by decide)⟩
  exact fenced.trans
    (.unowned (fenceAttempt_rows db _ now state failureClass failureReason revokeReason) (by decide))

end

section

variable {cause : Cause} {jobId : JobId} {before after : Tables nexaSchema}
  {touched : List Table} {write : Tables nexaSchema -> Tables nexaSchema}

theorem Moves.of_local (rewritten : Local jobId touched write before after) (present : before.slice jobId .jobs ≠ [])
    (move : ∀ v, Represents (before.slice jobId) v -> Fits v ->
      ∃ next, Move v cause next ∧ Represents (write (before.slice jobId)) next ∧
        Charged before after v.scopes v.load next.load) :
    Moves cause jobId before after := by
  refine ⟨rewritten.others, rewritten.kept, present, ?_⟩
  rw [rewritten.slice]
  exact move

theorem Creates.of_local (rewritten : Local jobId touched write before after)
    (absent : before.slice jobId .jobs = []) {tenantId : TenantId} {submitter : UserId}
    {maxRetries ticket : Nat}
    (represents : Represents (write (before.slice jobId)) (.accepted tenantId submitter maxRetries ticket))
    (charged : Charged before after (Scope.ofJob tenantId submitter) (0, 0) (1, 0)) :
    Creates ticket jobId before after := by
  refine ⟨rewritten.others, rewritten.kept, absent, tenantId, submitter, maxRetries, ?_, charged⟩
  rw [rewritten.slice]
  exact represents

end

end Nexa
