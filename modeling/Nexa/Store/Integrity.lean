import Nexa.Store.Schema

namespace Nexa

open Relational List

variable {attempt : Attempt} {lease : AttemptLease} {allocation : Allocation} {grant : AuthorityGrant}

section

variable (db : Db)

theorem job_unique {job other : Job} (member : job ∈ db.rows .jobs) (otherMember : other ∈ db.rows .jobs)
    (same : job.jobId = other.jobId) : job = other :=
  db.eq_of_key ⟨"pk_jobs", [job.jobId]⟩ member otherMember (by simp [keysOf]) (by simp [keysOf, same])

theorem attempt_unique {other : Attempt} (member : attempt ∈ db.rows .attempts)
    (otherMember : other ∈ db.rows .attempts) (same : attempt.attemptId = other.attemptId) :
    attempt = other :=
  db.eq_of_key ⟨"pk_attempts", [attempt.attemptId]⟩ member otherMember (by simp [keysOf])
    (by simp [keysOf, same])

theorem allocation_unique {other : Allocation} (member : allocation ∈ db.rows .allocations)
    (otherMember : other ∈ db.rows .allocations) (same : allocation.allocationId = other.allocationId) :
    allocation = other :=
  db.eq_of_key ⟨"pk_allocations", [allocation.allocationId]⟩ member otherMember (by simp [keysOf])
    (by simp [keysOf, same])

theorem lease_unique {other : AttemptLease} (member : lease ∈ db.rows .attemptLeases)
    (otherMember : other ∈ db.rows .attemptLeases) (same : lease.leaseId = other.leaseId) :
    lease = other :=
  db.eq_of_key ⟨"pk_attempt_leases", [lease.leaseId]⟩ member otherMember (by simp [keysOf])
    (by simp [keysOf, same])

theorem grant_unique {other : AuthorityGrant} (member : grant ∈ db.rows .authorityGrants)
    (otherMember : other ∈ db.rows .authorityGrants) (same : grant.grantId = other.grantId) :
    grant = other :=
  db.eq_of_key ⟨"pk_attempt_authority_grants", [grant.grantId]⟩ member otherMember (by simp [keysOf])
    (by simp [keysOf, same])

theorem attempt_job (member : attempt ∈ db.rows .attempts) :
    ∃ job ∈ db.rows .jobs, job.jobId = attempt.jobId ∧ job.tenantId = attempt.tenantId := by
  obtain ⟨job, inside, names⟩ := db.closed .attempts attempt member _ (mem_singleton_self _)
  refine ⟨job, inside, ?_⟩
  simp only [keysOf] at names
  simp_all

theorem allocation_attempt (member : allocation ∈ db.rows .allocations) :
    ∃ attempt ∈ db.rows .attempts, attempt.attemptId = allocation.attemptId ∧
      attempt.jobId = allocation.jobId ∧ attempt.tenantId = allocation.tenantId := by
  obtain ⟨attempt, inside, names⟩ := db.closed .allocations allocation member _ (mem_singleton_self _)
  refine ⟨attempt, inside, ?_⟩
  simp only [keysOf] at names
  simp_all

theorem lease_attempt (member : lease ∈ db.rows .attemptLeases) :
    ∃ attempt ∈ db.rows .attempts, attempt.attemptId = lease.attemptId ∧
      attempt.jobId = lease.jobId ∧ attempt.jobFence = lease.jobFence := by
  obtain ⟨attempt, inside, names⟩ := db.closed .attemptLeases lease member _ mem_cons_self
  refine ⟨attempt, inside, ?_⟩
  simp only [keysOf] at names
  simp_all

theorem lease_allocation (member : lease ∈ db.rows .attemptLeases) :
    ∃ allocation ∈ db.rows .allocations, allocation.allocationId = lease.allocationId ∧
      allocation.jobId = lease.jobId := by
  obtain ⟨allocation, inside, names⟩ := db.closed .attemptLeases lease member _ (mem_cons_of_mem _ mem_cons_self)
  refine ⟨allocation, inside, ?_⟩
  simp only [keysOf] at names
  simp_all

theorem grant_attempt (member : grant ∈ db.rows .authorityGrants) :
    ∃ attempt ∈ db.rows .attempts, attempt.attemptId = grant.attemptId ∧
      attempt.jobId = grant.jobId ∧ attempt.jobFence = grant.jobFence := by
  obtain ⟨attempt, inside, names⟩ := db.closed .authorityGrants grant member _ mem_cons_self
  refine ⟨attempt, inside, ?_⟩
  simp only [keysOf] at names
  simp_all

theorem allocation_owner (member : attempt ∈ db.rows .attempts) (inside : allocation ∈ db.rows .allocations)
    (same : allocation.attemptId = attempt.attemptId) : allocation.jobId = attempt.jobId := by
  obtain ⟨parent, parentMember, sameId, sameJob, _⟩ := allocation_attempt db inside
  rw [← sameJob, attempt_unique db parentMember member (sameId.trans same)]

theorem lease_owner (member : attempt ∈ db.rows .attempts)
    (inside : lease ∈ db.rows .attemptLeases) (same : lease.attemptId = attempt.attemptId) :
    lease.jobId = attempt.jobId := by
  obtain ⟨parent, parentMember, sameId, sameJob, _⟩ := lease_attempt db inside
  rw [← sameJob, attempt_unique db parentMember member (sameId.trans same)]

theorem grant_owner (member : attempt ∈ db.rows .attempts)
    (inside : grant ∈ db.rows .authorityGrants) (same : grant.attemptId = attempt.attemptId) :
    grant.jobId = attempt.jobId := by
  obtain ⟨parent, parentMember, sameId, sameJob, _⟩ := grant_attempt db inside
  rw [← sameJob, attempt_unique db parentMember member (sameId.trans same)]

theorem attempt_owned (member : attempt ∈ db.rows .attempts) : ∃ job ∈ db.rows .jobs, job.jobId = attempt.jobId := by
  obtain ⟨job, inside, same, _⟩ := attempt_job db member
  exact ⟨job, inside, same⟩

theorem owner_job {table : Table} {row : Row table} (member : row ∈ db.rows table) {jobId : JobId}
    (owned : ownerOf table row = some jobId) : ∃ job ∈ db.rows .jobs, job.jobId = jobId := by
  cases table with
  | jobs => exact ⟨row, member, Option.some.inj owned⟩
  | attempts => exact Option.some.inj owned ▸ attempt_owned db member
  | allocations =>
    obtain ⟨attempt, inside, _, same, _⟩ := allocation_attempt db member
    exact Option.some.inj owned ▸ same ▸ attempt_owned db inside
  | attemptLeases =>
    obtain ⟨attempt, inside, _, same, _⟩ := lease_attempt db member
    exact Option.some.inj owned ▸ same ▸ attempt_owned db inside
  | authorityGrants =>
    obtain ⟨attempt, inside, _, same, _⟩ := grant_attempt db member
    exact Option.some.inj owned ▸ same ▸ attempt_owned db inside
  | results =>
    obtain ⟨attempt, inside, names⟩ := db.closed .results row member _ (mem_cons_of_mem _ mem_cons_self)
    have same : attempt.jobId = row.jobId := by
      simp only [keysOf] at names
      simp_all
    exact Option.some.inj owned ▸ same ▸ attempt_owned db inside
  | retrySchedules =>
    obtain ⟨job, inside, names⟩ := db.closed .retrySchedules row member _ mem_cons_self
    refine ⟨job, inside, Option.some.inj owned ▸ ?_⟩
    simp only [keysOf] at names
    simp_all
  | events =>
    obtain ⟨job, inside, names⟩ := db.closed .events row member _ mem_cons_self
    refine ⟨job, inside, Option.some.inj owned ▸ ?_⟩
    simp only [keysOf] at names
    simp_all
  | _ => simp [ownerOf] at owned

theorem slice_absent {jobId : JobId} (absent : ∀ job ∈ db.rows .jobs, job.jobId ≠ jobId) (table : Table) :
    db.rows.slice jobId table = [] := by
  rw [eq_nil_iff_forall_not_mem]
  intro row inside
  obtain ⟨member, owned⟩ := Tables.mem_slice.1 inside
  obtain ⟨job, jobMember, same⟩ := owner_job db member owned
  exact absent job jobMember same

end

end Nexa
