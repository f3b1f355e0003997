import Nexa.Scheduler.Selection

namespace Nexa

open Outcome Selection List ResourceCapacity

variable {round : ℚ -> ℚ} {snapshot : SchedulingSnapshot} {nowMs : Nat}

def ResourceCapacity.subtract (left right : ResourceCapacity) : ResourceCapacity :=
  ⟨left.cpuMillis - right.cpuMillis, left.memoryBytes - right.memoryBytes, left.gpuCount - right.gpuCount⟩

def SchedulingSnapshot.free (snapshot : SchedulingSnapshot) : ResourceCapacity :=
  snapshot.allocatableCapacity.subtract snapshot.totalHeld

theorem SchedulingSnapshot.Valid.fitsFree_iff (valid : snapshot.Valid) {candidate : Candidate} :
    snapshot.fitsFree candidate = true <-> candidate.resources.amounts.Fits snapshot.free := by
  have below := valid.held_fits
  rw [SchedulingSnapshot.fitsFree, decide_eq_true_eq]
  simp only [SchedulingSnapshot.free, subtract, ResourceCapacity.Fits, add] at *
  omega

/-- Offered, eligible, and no larger than the free capacity. -/
structure Candidate.Admissible (candidate : Candidate) (snapshot : SchedulingSnapshot) (nowMs : Nat)
    (window : CandidateWindow) (limits : TenantPolicySnapshot) : Prop where
  windowed : (candidate.tenantId, window) ∈ snapshot.candidatesByTenant
  offered : candidate ∈ window.offered
  limited : limits ∈ snapshot.tenantLimits ∧ limits.tenantId = candidate.tenantId
  eligible : candidateIneligibilityReason candidate nowMs snapshot.allocatableCapacity
    (snapshot.held candidate.tenantId) limits = none
  fits : candidate.resources.amounts.Fits snapshot.free

theorem dispatch_of_decideReservation {reservation : ReservationSnapshot} {job : JobId}
    {version policy : Nat} {held : Option Nat}
    (dispatched : decideReservation snapshot nowMs reservation = .dispatch job version policy held) :
    ∃ candidate limits, (candidate ∈ snapshot.candidatesByTenant.flatMap fun entry => entry.2.candidates) ∧
      candidate.jobId = job ∧ job = reservation.jobId ∧
      snapshot.limit? candidate.tenantId = some limits ∧
      candidateIneligibilityReason candidate nowMs snapshot.allocatableCapacity
        (snapshot.held candidate.tenantId) limits = none ∧
      snapshot.fitsFree candidate = true := by
  simp only [decideReservation] at dispatched
  split at dispatched
  · cases dispatched
  split_ifs at dispatched
  split at dispatched
  · next candidate limits found limited =>
      split at dispatched
      · cases dispatched
      next foreign =>
      split at dispatched
      · cases dispatched
      · next eligible =>
          split_ifs at dispatched with fits
          cases dispatched
          have owner : candidate.tenantId = reservation.tenantId := not_not.mp foreign
          refine ⟨candidate, limits, mem_of_find?_eq_some found, rfl, ?_, ?_, ?_, fits⟩
          · simpa using find?_some found
          · rw [owner, limited]
          · rw [owner, eligible]
  · cases dispatched

theorem decideReservation_ne_createReservation (snapshot : SchedulingSnapshot) (nowMs : Nat)
    (reservation : ReservationSnapshot) (job : JobId) (tenant : TenantId) (reason : ReservationReason) :
    decideReservation snapshot nowMs reservation ≠ .createReservation job tenant reason := by
  simp only [decideReservation]
  repeat' split
  all_goals simp

theorem admissible_of_dispatch {job : JobId} {version policy : Nat} {held : Option Nat}
    (dispatched : decidePolicy round snapshot nowMs = .ok (.dispatch job version policy held)) :
    ∃ (candidate : Candidate) (window : CandidateWindow) (limits : TenantPolicySnapshot),
      candidate.Admissible snapshot nowMs window limits ∧
      candidate.jobId = job := by
  obtain ⟨windows, accountable, chosen⟩ := decidePolicy_eq_ok.mp dispatched
  have formed : ∀ {tenant : TenantId} {window : CandidateWindow} {candidate : Candidate},
      (tenant, window) ∈ snapshot.candidatesByTenant -> candidate ∈ window.offered ->
        candidate.tenantId = tenant := fun member offered =>
    ((windows.formed _ member).formed _ offered).tenant_eq
  cases reservation : snapshot.activeReservation with
  | some active =>
    simp only [SchedulingSnapshot.chosen, reservation] at chosen
    obtain ⟨candidate, limits, offered, jobs, _, limited, eligible, fits⟩ := dispatch_of_decideReservation chosen
    obtain ⟨⟨tenant, window⟩, member, inside⟩ := mem_flatMap.mp offered
    have inside := (CandidateWindow.mem_candidates (windows.agree_window member)).mp inside
    obtain rfl := formed member inside
    exact ⟨candidate, window, limits, ⟨member, inside, accountable.limit?_eq.mp limited, eligible,
      accountable.fitsFree_iff.mp fits⟩, jobs⟩
  | none =>
    obtain ⟨entry, least, acts⟩ | ⟨_, reason, none, _⟩ := chosen_cases round accountable windows reservation
    · rw [chosen] at acts
      cases acts with
      | @dispatch candidate _ best =>
        have contends := least.member.1
        have inside : candidate ∈ entry.window.offered := by
          simp [CandidateWindow.offered, best.member.normal]
        have owner := formed contends.windowed inside
        refine ⟨candidate, entry.window, entry.limits, ⟨owner ▸ contends.windowed, inside,
          ⟨contends.limited.1, contends.limited.2.trans owner.symm⟩, ?_,
          accountable.fitsFree_iff.mp best.member.fits⟩, rfl⟩
        have eligible := best.member.eligible
        simpa [SchedulingSnapshot.eligible, contends.limited.2, owner] using eligible
    · rw [chosen] at none
      cases none

namespace SchedulingSnapshot

def holding (snapshot : SchedulingSnapshot) (allocation : HeldAllocation) : SchedulingSnapshot :=
  { snapshot with heldAllocations := snapshot.heldAllocations ++ [allocation] }

theorem totalHeld_holding (snapshot : SchedulingSnapshot) (allocation : HeldAllocation) :
    (snapshot.holding allocation).totalHeld = snapshot.totalHeld.add allocation.resources.amounts := by
  simp [totalHeld, holding, total_append]

theorem held_holding (snapshot : SchedulingSnapshot) (allocation : HeldAllocation) (tenant : TenantId) :
    (snapshot.holding allocation).held tenant =
      if allocation.tenantId = tenant then (snapshot.held tenant).add allocation.resources.amounts
      else snapshot.held tenant := by
  split_ifs with mine <;> simp [held, holding, mine, total_append]

end SchedulingSnapshot

structure HeldAllocation.Serves (allocation : HeldAllocation) (candidate : Candidate)
    (snapshot : SchedulingSnapshot) : Prop where
  tenant : allocation.tenantId = candidate.tenantId
  resources : allocation.resources = candidate.resources
  counted : allocation.gpuUuids.length = candidate.resources.gpuCount
  fresh : ∀ uuid ∈ allocation.gpuUuids, ∀ held ∈ snapshot.heldAllocations, uuid ∉ held.gpuUuids

theorem ResourceCapacity.add_fits_of_fits_subtract {request held capacity : ResourceCapacity}
    (below : held.Fits capacity) (fits : request.Fits (capacity.subtract held)) :
    (held.add request).Fits capacity := by
  simp only [Fits, add, subtract] at *
  omega

theorem ite_some_eq_none {α : Type} {condition : Prop} [Decidable condition] {value : α}
    {rest : Option α} : (if condition then some value else rest) = none <-> ¬condition ∧ rest = none := by
  by_cases holds : condition <;> simp [holds]

theorem quota_of_eligible {candidate : Candidate} {capacity held : ResourceCapacity} {limits : TenantPolicySnapshot}
    (eligible : candidateIneligibilityReason candidate nowMs capacity held limits = none) :
    (held.add candidate.resources.amounts).Fits limits.resourceQuota := by
  simp only [candidateIneligibilityReason, ite_some_eq_none, not_not] at eligible
  obtain ⟨_, _, _, _, _, _, _, quota, _⟩ := eligible
  exact quota

theorem SchedulingSnapshot.Valid.holding (valid : snapshot.Valid) {candidate : Candidate}
    {window : CandidateWindow} {limits : TenantPolicySnapshot} {allocation : HeldAllocation}
    (admissible : candidate.Admissible snapshot nowMs window limits)
    (serves : allocation.Serves candidate snapshot) : (snapshot.holding allocation).Valid where
  version_pos := valid.version_pos
  floor_nonneg := valid.floor_nonneg
  ledgers_nodup := valid.ledgers_nodup
  limits_nodup := valid.limits_nodup
  known := valid.known
  scores_nonneg := valid.scores_nonneg
  weights_pos := valid.weights_pos
  concurrency_pos := valid.concurrency_pos
  held_known := by
    intro held member
    rcases mem_append.mp member with old | new
    · exact valid.held_known held old
    · obtain rfl := mem_singleton.mp new
      refine (valid.known held.tenantId).mpr ?_
      rw [serves.tenant, ← admissible.limited.2]
      exact mem_map_of_mem admissible.limited.1
  gpus_counted := by
    intro held member
    rcases mem_append.mp member with old | new
    · exact valid.gpus_counted held old
    · obtain rfl := mem_singleton.mp new
      rw [serves.counted, serves.resources]
  gpus_distinct := by
    have own := allocation.gpuUuids_nodup (serves.resources ▸ serves.counted)
    simp only [SchedulingSnapshot.holding, flatMap_append, flatMap_singleton, nodup_append]
    refine ⟨valid.gpus_distinct, own, ?_⟩
    rintro uuid taken _ mine rfl
    obtain ⟨held, member, claims⟩ := mem_flatMap.mp taken
    exact serves.fresh uuid mine held member claims
  held_fits := by
    rw [totalHeld_holding, serves.resources]
    exact add_fits_of_fits_subtract valid.held_fits admissible.fits
  quotas_kept := by
    intro limit member
    rw [held_holding]
    split_ifs with mine
    · -- the tenant that gains the allocation has the limits its candidate was judged under
      have same : limit = limits :=
        inj_on_of_nodup_map valid.limits_nodup member admissible.limited.1
          (mine.symm.trans (serves.tenant.trans admissible.limited.2.symm))
      rw [same, admissible.limited.2, serves.resources]
      exact quota_of_eligible admissible.eligible
    · exact valid.quotas_kept limit member

def sampleCandidate : Candidate where
  jobId := 7
  tenantId := 1
  userId := 1
  jobVersion := 3
  readySequence := 5
  resources := ⟨2, 2, 1, Nat.two_pos, Nat.two_pos, Nat.one_pos⟩
  basePriority := 1
  eligibleWaitSeconds := 30
  retryReadyAtMs := 0
  templateVersion := 1
  tenantActiveAttempts := 0
  userActiveAttempts := 0

def sampleSnapshot : SchedulingSnapshot where
  policyVersion := 1
  allocatableCapacity := ⟨8, 8, 2⟩
  heldAllocations := [⟨4, 1, ⟨1, 1, 1, Nat.one_pos, Nat.one_pos, Nat.one_pos⟩, [11], .held⟩]
  tenantLedgers := [⟨1, 0, 0, false⟩]
  tenantLimits := [⟨1, 2, ⟨8, 8, 2⟩, 4, 4, true⟩]
  candidatesByTenant := [(1, ⟨[sampleCandidate], none, none⟩)]
  activeReservation := none
  virtualFloor := 0

/-- What is dispatched is offered, eligible and fits. While a reservation is active, nothing else is dispatched. -/
theorem dispatch_safe (round : ℚ -> ℚ) (snapshot : SchedulingSnapshot) (nowMs : Nat)
    (decision : SchedulingDecision) (decided : decidePolicy round snapshot nowMs = .ok decision) :
    (∀ job version policy reservation, decision = .dispatch job version policy reservation ->
      ∃ (candidate : Candidate) (window : CandidateWindow) (limits : TenantPolicySnapshot), candidate.jobId = job ∧
        (candidate.tenantId, window) ∈ snapshot.candidatesByTenant ∧ candidate ∈ window.offered ∧
        limits ∈ snapshot.tenantLimits ∧ limits.tenantId = candidate.tenantId ∧
        candidateIneligibilityReason candidate nowMs snapshot.allocatableCapacity
          (snapshot.held candidate.tenantId) limits = none ∧
        candidate.resources.amounts.Fits snapshot.free ∧
        ∀ allocation : HeldAllocation, allocation.Serves candidate snapshot ->
          validateAndAggregate (snapshot.holding allocation) = .ok ()) ∧
    ∀ reservation, snapshot.activeReservation = some reservation ->
      (∀ job version policy held, decision = .dispatch job version policy held -> job = reservation.jobId) ∧
      ∀ job tenant reason, decision ≠ .createReservation job tenant reason := by
  obtain ⟨_, accountable, chosen⟩ := decidePolicy_eq_ok.mp decided
  constructor
  · rintro job version policy held rfl
    obtain ⟨candidate, window, limits, admissible, jobs⟩ := admissible_of_dispatch decided
    refine ⟨candidate, window, limits, jobs, admissible.windowed, admissible.offered,
      admissible.limited.1, admissible.limited.2, admissible.eligible, admissible.fits, ?_⟩
    intro allocation serves
    exact validateAndAggregate_eq_ok.mpr (accountable.toValid.holding admissible serves)
  · intro reservation active
    simp only [SchedulingSnapshot.chosen, active] at chosen
    constructor
    · rintro job version policy held rfl
      obtain ⟨_, _, _, _, jobs, _⟩ := dispatch_of_decideReservation chosen
      exact jobs
    · rintro job tenant reason rfl
      exact decideReservation_ne_createReservation _ _ _ _ _ _ chosen

theorem dispatch_safe_sample :
    decidePolicy id sampleSnapshot 1000 = .ok (.dispatch 7 3 1 none) ∧
      ∃ candidate : Candidate, candidate.jobId = 7 ∧
        ∀ allocation : HeldAllocation, allocation.Serves candidate sampleSnapshot ->
          validateAndAggregate (sampleSnapshot.holding allocation) = .ok () := by
  have decided : decidePolicy id sampleSnapshot 1000 = .ok (.dispatch 7 3 1 none) := rfl
  refine ⟨decided, ?_⟩
  obtain ⟨candidate, _, _, job, _, _, _, _, _, _, accepted⟩ :=
    (dispatch_safe id sampleSnapshot 1000 _ decided).1 7 3 1 none rfl
  exact ⟨candidate, job, accepted⟩

end Nexa
