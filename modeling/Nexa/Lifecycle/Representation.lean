import Nexa.Application.Authority
import Nexa.Lifecycle.Machine
import Nexa.Store.Integrity

namespace Nexa

open Relational

section

variable (rows : Tables nexaSchema)

def unreleased : List Allocation := (rows .allocations).filter fun row => row.state ≠ .released

def openLeases : List AttemptLease := (rows .attemptLeases).filter fun row => row.revokedAt = none

def openGrants : List AuthorityGrant := (rows .authorityGrants).filter fun row => row.endedAt = none

def openSchedules : List RetrySchedule := (rows .retrySchedules).filter fun row => row.closedAt = none

end

/-- The only open lease and grant and the only unreleased allocation. -/
structure Live (s : Tables nexaSchema) (rows : AuthorityRows) : Prop where
  onlyJob : s .jobs = [rows.job]
  attemptMember : rows.attempt ∈ s .attempts
  onlyAllocation : unreleased s = [rows.allocation]
  onlyLease : openLeases s = [rows.lease]
  onlyGrant : openGrants s = [rows.grant]
  held : rows.allocation.state = .held
  allocationAttempt : rows.allocation.attemptId = rows.attempt.attemptId
  leaseAttempt : rows.lease.attemptId = rows.attempt.attemptId
  leaseAllocation : rows.lease.allocationId = rows.allocation.allocationId
  grantAttempt : rows.grant.attemptId = rows.attempt.attemptId
  attemptFence : rows.attempt.jobFence = rows.job.jobFence
  grantFence : rows.grant.jobFence = rows.job.jobFence

structure Fenced (s : Tables nexaSchema) (attempt : Attempt) (allocation : Allocation) : Prop where
  attemptMember : attempt ∈ s .attempts
  onlyAllocation : unreleased s = [allocation]
  noLease : openLeases s = []
  noGrant : openGrants s = []
  quarantined : allocation.state = .quarantined
  allocationAttempt : allocation.attemptId = attempt.attemptId

def Custody.Holds (s : Tables nexaSchema) : Custody -> Prop
  | .vacant => unreleased s = [] ∧ openLeases s = [] ∧ openGrants s = []
  | .live state intent resources =>
    ∃ rows, Live s rows ∧ rows.attempt.state = state ∧ rows.attempt.executionIntent = intent ∧
      rows.allocation.resources = resources
  | .fenced failure resources =>
    ∃ attempt allocation, Fenced s attempt allocation ∧ attempt.failureClass = failure ∧
      allocation.resources = resources

def fencesOf (s : Tables nexaSchema) : List Nat × List Nat :=
  ((s .attempts).map (·.jobFence), (s .attemptLeases).map (·.jobFence))

structure Represents (s : Tables nexaSchema) (v : Lifecycle) : Prop where
  job : ∃ job, s .jobs = [job] ∧ job.control = v.toControl
  custody : v.custody.Holds s
  schedules : (openSchedules s).map (·.retryNumber) = v.schedules
  results : (s .results).length = v.results
  fences : fencesOf s = (v.fences, v.fences)
  events : (s .events).map (·.sequence) = List.range' 1 v.sequence

variable {s : Tables nexaSchema}

theorem mem_openLeases {lease : AttemptLease} :
    lease ∈ openLeases s <-> lease ∈ s .attemptLeases ∧ lease.revokedAt = none := by
  simp [openLeases]

theorem mem_openGrants {grant : AuthorityGrant} :
    grant ∈ openGrants s <-> grant ∈ s .authorityGrants ∧ grant.endedAt = none := by
  simp [openGrants]

theorem mem_unreleased {allocation : Allocation} :
    allocation ∈ unreleased s <-> allocation ∈ s .allocations ∧ allocation.state ≠ .released := by
  simp [unreleased]

theorem Represents.not_live {v : Lifecycle} (represents : Represents s v)
    {failure : Option FailureClass} {resources : Resources} (custody : v.custody = .fenced failure resources)
    (rows : AuthorityRows) : ¬Live s rows := by
  intro live
  have holds := represents.custody
  rw [custody] at holds
  obtain ⟨attempt, allocation, fenced, _⟩ := holds
  have none := live.onlyLease
  rw [fenced.noLease] at none
  simp at none

section

variable {db : Db} {jobId : JobId} {v : Lifecycle}

theorem Represents.job_eq (represents : Represents (db.rows.slice jobId) v) {job : Job}
    (member : job ∈ db.rows .jobs) (same : job.jobId = jobId) :
    db.rows.slice jobId .jobs = [job] ∧ job.control = v.toControl := by
  obtain ⟨stored, only, control⟩ := represents.job
  have inside : job ∈ db.rows.slice jobId .jobs := by
    rw [Tables.mem_slice]
    exact ⟨member, congrArg some same⟩
  rw [only, List.mem_singleton] at inside
  exact ⟨inside ▸ only, inside ▸ control⟩

theorem Represents.live_of_lease (represents : Represents (db.rows.slice jobId) v)
    {lease : AttemptLease} (member : lease ∈ db.rows .attemptLeases) (owned : lease.jobId = jobId)
    (unrevoked : lease.revokedAt = none) :
    ∃ rows, Live (db.rows.slice jobId) rows ∧ rows.lease = lease ∧
      v.custody = .live rows.attempt.state rows.attempt.executionIntent rows.allocation.resources := by
  have inside : lease ∈ openLeases (db.rows.slice jobId) := by
    rw [mem_openLeases, Tables.mem_slice]
    exact ⟨⟨member, congrArg some owned⟩, unrevoked⟩
  have holds := represents.custody
  cases custody : v.custody with
  | vacant =>
    rw [custody] at holds
    rw [holds.2.1] at inside
    simp at inside
  | live state intent resources =>
    rw [custody] at holds
    obtain ⟨rows, live, sameState, sameIntent, sameResources⟩ := holds
    rw [live.onlyLease, List.mem_singleton] at inside
    exact ⟨rows, live, inside.symm, by rw [sameState, sameIntent, sameResources]⟩
  | fenced failure resources =>
    rw [custody] at holds
    obtain ⟨attempt, allocation, fenced, _⟩ := holds
    rw [fenced.noLease] at inside
    simp at inside

end

end Nexa
