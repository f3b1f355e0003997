import Nexa.Lifecycle.Effects

namespace Nexa

open Relational List Tables

section

variable (rows : Tables nexaSchema) (scope : Scope)

def inScope (jobId : JobId) : Bool := (rows .jobs).any fun job => job.jobId = jobId ∧ scope ∈ job.scopes

def unfinishedIn : Nat := (rows .jobs).countP fun job => !job.state.terminal && decide (scope ∈ job.scopes)

def heldIn : Nat :=
  (rows .allocations).countP fun row => decide (row.state ≠ .released) && inScope rows scope row.jobId

end

def Balanced (rows : Tables nexaSchema) : Prop :=
  ∀ scope, outstandingOf rows scope = unfinishedIn rows scope ∧ activeOf rows scope = heldIn rows scope

section

variable {rows before after : Tables nexaSchema} {jobId : JobId} {v : Lifecycle}

theorem inScope_slice (scope : Scope) : inScope (rows.slice jobId) scope jobId = inScope rows scope jobId := by
  rw [Bool.eq_iff_iff]
  simp only [inScope, any_eq_true, decide_eq_true_eq]
  constructor
  · rintro ⟨job, member, named⟩
    exact ⟨job, (mem_slice.1 member).1, named⟩
  · rintro ⟨job, member, named⟩
    exact ⟨job, mem_slice.2 ⟨member, congrArg some named.1⟩, named⟩

theorem inScope_others (scope : Scope) {other : JobId} (different : other ≠ jobId) :
    inScope (rows.others jobId) scope other = inScope rows scope other := by
  rw [← inScope_slice, slice_others _ different, inScope_slice]

theorem Represents.inScope_eq (represents : Represents (rows.slice jobId) v) (scope : Scope) :
    inScope rows scope jobId = decide (scope ∈ v.scopes) := by
  obtain ⟨job, only, control⟩ := represents.job
  have owned : job ∈ rows.slice jobId .jobs := by
    rw [only]
    exact mem_singleton_self job
  have same : job.jobId = jobId := Option.some.inj (mem_slice.1 owned).2
  have scopes : job.scopes = v.scopes := by
    rw [Lifecycle.scopes, ← control]
    rfl
  rw [← inScope_slice]
  simp [inScope, only, same, scopes]

theorem Represents.unreleased_length (represents : Represents (rows.slice jobId) v) :
    (unreleased (rows.slice jobId)).length = v.active := by
  have holds := represents.custody
  cases custody : v.custody with
  | vacant =>
    rw [custody] at holds
    simp [Lifecycle.active, custody, holds.1]
  | live =>
    rw [custody] at holds
    obtain ⟨_, live, _⟩ := holds
    simp [Lifecycle.active, custody, live.onlyAllocation]
  | fenced =>
    rw [custody] at holds
    obtain ⟨_, _, fenced, _⟩ := holds
    simp [Lifecycle.active, custody, fenced.onlyAllocation]

theorem unfinishedIn_split (rows : Tables nexaSchema) (jobId : JobId) (scope : Scope) :
    unfinishedIn rows scope =
      unfinishedIn (rows.slice jobId) scope + unfinishedIn (rows.others jobId) scope :=
  rows.countP_slice_others jobId (fun _ _ => rfl) _

theorem heldIn_split (rows : Tables nexaSchema) (jobId : JobId) (scope : Scope) :
    heldIn rows scope =
      (if inScope rows scope jobId then (unreleased (rows.slice jobId)).length else 0) +
        heldIn (rows.others jobId) scope := by
  rw [heldIn, rows.countP_slice_others jobId (fun _ _ => rfl)]
  congr 1
  · rw [unreleased, ← countP_eq_length_filter]
    split_ifs with counts
    · refine countP_congr fun row inside => ?_
      have owner : row.jobId = jobId := Option.some.inj (mem_slice.1 inside).2
      simp [owner, counts]
    · rw [countP_eq_zero]
      intro row inside
      have owner : row.jobId = jobId := Option.some.inj (mem_slice.1 inside).2
      simp [owner, counts]
  · refine countP_congr fun row inside => ?_
    have different : row.jobId ≠ jobId := by
      have owned := (mem_part.1 inside).2
      simpa [ownerOf] using owned
    rw [inScope_others _ different]

theorem Represents.unfinishedIn_eq (represents : Represents (rows.slice jobId) v) (scope : Scope) :
    unfinishedIn rows scope =
      (if scope ∈ v.scopes then v.outstanding else 0) + unfinishedIn (rows.others jobId) scope := by
  rw [unfinishedIn_split rows jobId]
  congr 1
  obtain ⟨job, only, control⟩ := represents.job
  have state : job.state = v.state := congrArg Control.state control
  have scopes : job.scopes = v.scopes := by
    rw [Lifecycle.scopes, ← control]
    rfl
  by_cases inside : scope ∈ v.scopes <;> by_cases ended : v.state.terminal <;>
    simp [unfinishedIn, only, state, scopes, inside, ended, Lifecycle.outstanding]

theorem Represents.heldIn_eq (represents : Represents (rows.slice jobId) v) (scope : Scope) :
    heldIn rows scope =
      (if scope ∈ v.scopes then v.active else 0) + heldIn (rows.others jobId) scope := by
  rw [heldIn_split rows jobId, represents.inScope_eq, represents.unreleased_length]
  simp

theorem unfinishedIn_absent (absent : rows.slice jobId .jobs = []) (scope : Scope) :
    unfinishedIn rows scope = unfinishedIn (rows.others jobId) scope := by
  rw [unfinishedIn_split rows jobId]
  simp [unfinishedIn, absent]

theorem heldIn_absent (absent : rows.slice jobId .jobs = []) (scope : Scope) :
    heldIn rows scope = heldIn (rows.others jobId) scope := by
  have outside : inScope rows scope jobId = false := by
    rw [← inScope_slice]
    simp [inScope, absent]
  rw [heldIn_split rows jobId, outside]
  simp

theorem Quiet.balanced (quiet : Quiet before after) (balanced : Balanced before) : Balanced after := by
  intro scope
  obtain ⟨outstanding, active, _⟩ := quiet.charged scope
  obtain ⟨unfinished, held⟩ := balanced scope
  have jobs := quiet.owned .jobs (by decide)
  have allocations := quiet.owned .allocations (by decide)
  simp only [not_mem_nil, if_false, Nat.add_zero] at outstanding active
  rw [outstanding, active, unfinished, held]
  simp [unfinishedIn, heldIn, inScope, jobs, allocations]

theorem Moves.balanced {cause : Cause} (moves : Moves cause jobId before after)
    (represents : Represents (before.slice jobId) v) (fits : Fits v) (balanced : Balanced before) :
    Balanced after := by
  intro scope
  obtain ⟨next, move, represented, charged⟩ := moves.move v represents fits
  obtain ⟨outstanding, active, _⟩ := charged scope
  obtain ⟨unfinished, held⟩ := balanced scope
  rw [represents.unfinishedIn_eq] at unfinished
  rw [represents.heldIn_eq] at held
  rw [represented.unfinishedIn_eq, represented.heldIn_eq, moves.others, move.scopes]
  simp only [Lifecycle.load] at outstanding active
  omega

theorem Creates.balanced {ticket : Nat} (creates : Creates ticket jobId before after)
    (balanced : Balanced before) : Balanced after := by
  intro scope
  obtain ⟨tenantId, submitter, maxRetries, represented, charged⟩ := creates.accepted
  obtain ⟨outstanding, active, _⟩ := charged scope
  obtain ⟨unfinished, held⟩ := balanced scope
  rw [unfinishedIn_absent creates.absent] at unfinished
  rw [heldIn_absent creates.absent] at held
  rw [represented.unfinishedIn_eq, represented.heldIn_eq, creates.others]
  have counted : Lifecycle.outstanding (.accepted tenantId submitter maxRetries ticket) = 1 := rfl
  have vacant : Lifecycle.active (.accepted tenantId submitter maxRetries ticket) = 0 := rfl
  rw [counted, vacant]
  have scopes : Lifecycle.scopes (.accepted tenantId submitter maxRetries ticket) =
      Scope.ofJob tenantId submitter := rfl
  rw [scopes]
  by_cases inside : scope ∈ Scope.ofJob tenantId submitter <;>
    simp only [inside, if_true, if_false] at outstanding active ⊢ <;> omega

end

end Nexa
