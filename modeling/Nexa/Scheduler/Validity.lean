import Nexa.Scheduler.Policy
import Nexa.Shared.Selection

namespace Nexa

open Outcome List CandidateWindow

namespace ResourceCapacity

theorem total_eq (requests : List Resources) :
    total requests = ⟨(requests.map (·.cpuMillis)).sum, (requests.map (·.memoryBytes)).sum,
      (requests.map (·.gpuCount)).sum⟩ := by
  have fold : ∀ start : ResourceCapacity,
      requests.foldl (fun sum request => sum.add request.amounts) start =
        ⟨start.cpuMillis + (requests.map (·.cpuMillis)).sum, start.memoryBytes + (requests.map (·.memoryBytes)).sum,
          start.gpuCount + (requests.map (·.gpuCount)).sum⟩ := by
    induction requests with
    | nil => simp
    | cons request rest ih =>
      intro start
      rw [foldl_cons, ih]
      simp [add, Resources.amounts, Nat.add_assoc]
  rw [total, fold]
  simp [zero]

theorem total_perm {left right : List Resources} (perm : left.Perm right) : total left = total right := by
  simp only [total_eq, fun amount : Resources -> Nat => (perm.map amount).sum_nat]

theorem total_append (left : List Resources) (last : Resources) :
    total (left ++ [last]) = (total left).add last.amounts := by
  simp [total, foldl_append]

end ResourceCapacity

namespace SchedulingSnapshot

structure Valid (snapshot : SchedulingSnapshot) : Prop where
  version_pos : 0 < snapshot.policyVersion
  floor_nonneg : 0 ≤ snapshot.virtualFloor
  ledgers_nodup : (snapshot.tenantLedgers.map (·.tenantId)).Nodup
  limits_nodup : (snapshot.tenantLimits.map (·.tenantId)).Nodup
  known : ∀ tenant,
    tenant ∈ snapshot.tenantLedgers.map (·.tenantId) <-> tenant ∈ snapshot.tenantLimits.map (·.tenantId)
  scores_nonneg : ∀ ledger ∈ snapshot.tenantLedgers, 0 ≤ ledger.virtualScore
  weights_pos : ∀ limit ∈ snapshot.tenantLimits, 0 < limit.weight
  concurrency_pos : ∀ limit ∈ snapshot.tenantLimits, 0 < limit.maxActiveAttempts ∧ 0 < limit.maxUserActiveAttempts
  held_known : ∀ allocation ∈ snapshot.heldAllocations, allocation.tenantId ∈ snapshot.tenantLedgers.map (·.tenantId)
  gpus_counted : ∀ allocation ∈ snapshot.heldAllocations, allocation.gpuUuids.length = allocation.resources.gpuCount
  gpus_distinct : (snapshot.heldAllocations.flatMap (·.gpuUuids)).Nodup
  held_fits : snapshot.totalHeld.Fits snapshot.allocatableCapacity
  quotas_kept : ∀ limit ∈ snapshot.tenantLimits, (snapshot.held limit.tenantId).Fits limit.resourceQuota

end SchedulingSnapshot

theorem HeldAllocation.gpuUuids_nodup (allocation : HeldAllocation)
    (counted : allocation.gpuUuids.length = allocation.resources.gpuCount) :
    allocation.gpuUuids.Nodup := by
  have few := allocation.resources.gpu_le
  cases claims : allocation.gpuUuids with
  | nil => simp
  | cons uuid rest =>
    rw [claims, length_cons] at counted
    obtain rfl : rest = [] := eq_nil_of_length_eq_zero (by omega)
    simp

variable {value : Unit}

theorem validateHeld_eq_ok {known : List TenantId} {allocations : List HeldAllocation} {seen : List Nat} :
    validateHeld known seen allocations = .ok value <->
      (∀ allocation ∈ allocations, allocation.tenantId ∈ known ∧
        allocation.gpuUuids.length = allocation.resources.gpuCount) ∧
      (allocations.flatMap (·.gpuUuids)).Nodup ∧
      ∀ uuid ∈ allocations.flatMap (·.gpuUuids), uuid ∉ seen := by
  induction allocations generalizing seen with
  | nil => simp [validateHeld]
  | cons allocation rest ih =>
    simp only [validateHeld, bind_eq_ok, require_eq_ok, exists_and_left]
    cases clash : allocation.gpuUuids.find? fun uuid => uuid ∈ seen with
    | some uuid =>
      have claimed := mem_of_find?_eq_some clash
      have taken : uuid ∈ seen := by simpa using find?_some clash
      simp only [reduceCtorEq, and_false, exists_false, false_iff, not_and]
      intro _ _ fresh
      exact fresh uuid (by simp [claimed]) taken
    | none =>
      have fresh : ∀ uuid ∈ allocation.gpuUuids, uuid ∉ seen := by simpa using clash
      simp only [ih, exists_const, forall_mem_cons, flatMap_cons, nodup_append, mem_append, not_or]
      constructor
      · rintro ⟨knows, counted, others, distinct, apart⟩
        refine ⟨⟨⟨knows, counted⟩, others⟩, ⟨allocation.gpuUuids_nodup counted, distinct, ?_⟩, ?_⟩
        · rintro uuid mine other theirs rfl
          exact (apart uuid theirs).2 mine
        · rintro uuid (mine | theirs)
          · exact fresh uuid mine
          · exact (apart uuid theirs).1
      · rintro ⟨⟨⟨knows, counted⟩, others⟩, ⟨_, distinct, apart⟩, unseen⟩
        refine ⟨knows, counted, others, distinct, ?_⟩
        intro uuid theirs
        exact ⟨unseen uuid (.inr theirs), fun mine => apart uuid mine uuid theirs rfl⟩

variable {snapshot : SchedulingSnapshot}

theorem validateAndAggregate_eq_ok : validateAndAggregate snapshot = .ok value <-> snapshot.Valid := by
  simp only [validateAndAggregate, bind_eq_ok, require_eq_ok, forM_eq_ok, validateHeld_eq_ok, SchedulingSnapshot.limit?,
    Option.mem_def, exists_and_left, exists_const, not_mem_nil, not_false_eq_true, implies_true, and_true]
  constructor
  · rintro ⟨version, floor, ledgers, limits, ⟨left, right⟩, scores, rates, ⟨held, gpus⟩, fits, quotas⟩
    exact {
      version_pos := version, floor_nonneg := floor, ledgers_nodup := ledgers, limits_nodup := limits
      known := fun tenant => ⟨fun member => left member, fun member => right member⟩
      scores_nonneg := scores
      weights_pos := fun limit member => (rates limit member).1
      concurrency_pos := fun limit member => (rates limit member).2
      held_known := fun allocation member => (held allocation member).1
      gpus_counted := fun allocation member => (held allocation member).2
      gpus_distinct := gpus, held_fits := fits
      quotas_kept := fun limit member => by
        obtain ⟨ledger, inside, same⟩ := mem_map.mp (right (mem_map_of_mem member))
        rw [← same]
        exact quotas ledger inside limit ((Selection.find?_key limits).mpr ⟨member, same.symm⟩) }
  · intro valid
    refine ⟨valid.version_pos, valid.floor_nonneg, valid.ledgers_nodup, valid.limits_nodup,
      ⟨fun tenant => (valid.known tenant).mp, fun tenant => (valid.known tenant).mpr⟩,
      valid.scores_nonneg,
      fun limit member => ⟨valid.weights_pos limit member, valid.concurrency_pos limit member⟩,
      ⟨fun allocation member =>
        ⟨valid.held_known allocation member, valid.gpus_counted allocation member⟩,
        valid.gpus_distinct⟩,
      valid.held_fits, fun ledger _ limit found => ?_⟩
    obtain ⟨member, same⟩ := (Selection.find?_key valid.limits_nodup).mp found
    exact same ▸ valid.quotas_kept limit member

variable {tenants : List TenantId}

theorem checkWindows_eq_ok {known seen : List TenantId} :
    checkWindows known seen tenants = .ok value <->
      tenants.Nodup ∧ (∀ tenant ∈ tenants, tenant ∉ seen) ∧ ∀ tenant ∈ tenants, tenant ∈ known := by
  induction tenants generalizing seen with
  | nil => simp [checkWindows]
  | cons tenant rest ih =>
    simp only [forall_mem_cons, checkWindows, bind_eq_ok, require_eq_ok, exists_and_left,
      exists_const, ih, nodup_cons]
    simp only [mem_cons, not_or]
    constructor
    · rintro ⟨fresh, knows, distinct, apart, others⟩
      exact ⟨⟨fun member => (apart tenant member).1 rfl, distinct⟩,
        ⟨fresh, fun other member => (apart other member).2⟩, knows, others⟩
    · rintro ⟨⟨absent, distinct⟩, ⟨fresh, unseen⟩, knows, others⟩
      refine ⟨fresh, knows, distinct, fun other member => ⟨?_, unseen other member⟩, others⟩
      rintro rfl
      exact absent member

namespace SchedulingSnapshot

def weightOf (snapshot : SchedulingSnapshot) (tenant : TenantId) : ℚ :=
  ((snapshot.limit? tenant).map (·.weight)).getD 1

def shareOf (round : ℚ -> ℚ) (snapshot : SchedulingSnapshot) (tenant : TenantId) : ℚ :=
  dominantShare round (snapshot.held tenant) snapshot.allocatableCapacity

def charged (round : ℚ -> ℚ) (snapshot : SchedulingSnapshot) (nowMs : Nat) (ledger : TenantLedger) : TenantLedger :=
  { ledger with
    virtualScore := round (ledger.virtualScore +
      chargeOf round (snapshot.shareOf round ledger.tenantId) (snapshot.weightOf ledger.tenantId)
        (nowMs - ledger.accountedThroughMs))
    accountedThroughMs := nowMs }

def settled (round : ℚ -> ℚ) (snapshot : SchedulingSnapshot) (nowMs : Nat) (ledger : TenantLedger) : TenantLedger :=
  liftLedger snapshot.virtualFloor (snapshot.eligibleTenants nowMs) (snapshot.charged round nowMs ledger)

def settledLedgers (round : ℚ -> ℚ) (snapshot : SchedulingSnapshot) (nowMs : Nat) : List TenantLedger :=
  snapshot.tenantLedgers.map (snapshot.settled round nowMs)

def accounted (round : ℚ -> ℚ) (snapshot : SchedulingSnapshot) (nowMs : Nat) : AccountingState where
  tenantLedgers := (snapshot.settledLedgers round nowMs).insertionSort fun left right =>
    left.tenantId ≤ right.tenantId
  virtualFloor := (minimumScore (snapshot.settledLedgers round nowMs)).elim snapshot.virtualFloor
    (max snapshot.virtualFloor)
  heldResources := snapshot.held
  dominantShares := snapshot.shareOf round
  eligibleTenantIds := (snapshot.eligibleTenants nowMs).insertionSort (· ≤ ·)

structure Accountable (snapshot : SchedulingSnapshot) (nowMs : Nat) : Prop extends snapshot.Valid where
  past : ∀ ledger ∈ snapshot.tenantLedgers, ledger.accountedThroughMs ≤ nowMs
  windows_nodup : (snapshot.candidatesByTenant.map (·.1)).Nodup
  windows_known : ∀ tenant ∈ snapshot.candidatesByTenant.map (·.1), tenant ∈ snapshot.tenantLimits.map (·.tenantId)

end SchedulingSnapshot

theorem mapM_chargeLedger_eq_ok {round : ℚ -> ℚ} {nowMs : Nat} {ledgers charged : List TenantLedger} :
    ledgers.mapM (chargeLedger round snapshot nowMs) = .ok charged <->
      (∀ ledger ∈ ledgers, ledger.accountedThroughMs ≤ nowMs) ∧
        ledgers.map (snapshot.charged round nowMs) = charged :=
  mapM_require_eq_ok

theorem advanceAccounting_eq_ok {round : ℚ -> ℚ} {nowMs : Nat} {state : AccountingState} :
    advanceAccounting round snapshot nowMs = .ok state <->
      snapshot.Accountable nowMs ∧ snapshot.accounted round nowMs = state := by
  simp only [advanceAccounting, bind_eq_ok, validateAndAggregate_eq_ok, mapM_chargeLedger_eq_ok,
    checkWindows_eq_ok, pure_eq_ok, exists_and_left, exists_const]
  constructor
  · rintro ⟨valid, _, ⟨past, rfl⟩, ⟨distinct, _, known⟩, rfl⟩
    refine ⟨{ toValid := valid, past, windows_nodup := distinct, windows_known := known }, ?_⟩
    simp only [SchedulingSnapshot.accounted, SchedulingSnapshot.settledLedgers, map_map]
    rfl
  · rintro ⟨accountable, rfl⟩
    refine ⟨accountable.toValid, _, ⟨accountable.past, rfl⟩,
      ⟨accountable.windows_nodup, by simp, accountable.windows_known⟩, ?_⟩
    simp only [SchedulingSnapshot.accounted, SchedulingSnapshot.settledLedgers, map_map]
    rfl

def Agree (candidates : List Candidate) : Prop :=
  ∀ left ∈ candidates, ∀ right ∈ candidates, left.jobId = right.jobId -> left = right

theorem Agree.of_subset {few many : List Candidate} (agree : Agree many) (subset : few ⊆ many) : Agree few :=
  fun left leftMember right rightMember => agree left (subset leftMember) right (subset rightMember)

variable {seen : List Candidate} {candidate : Candidate}

theorem agree_cons : Agree (candidate :: seen) <-> Agree seen ∧ sameCandidate seen candidate = true := by
  have same : sameCandidate seen candidate = true <->
      ∀ other ∈ seen, other.jobId = candidate.jobId -> other = candidate := by
    simp [sameCandidate, imp_iff_not_or]
  rw [same]
  constructor
  · intro agree
    exact ⟨agree.of_subset (by simp), fun other member => agree other (by simp [member]) candidate (by simp)⟩
  · rintro ⟨agree, matching⟩ left leftMember right rightMember jobs
    rcases mem_cons.mp leftMember with rfl | leftSeen <;>
      rcases mem_cons.mp rightMember with rfl | rightSeen
    · rfl
    · exact (matching right rightSeen jobs.symm).symm
    · exact matching left leftSeen jobs
    · exact agree left leftSeen right rightSeen jobs

structure Candidate.WellFormed (candidate : Candidate) (tenant : TenantId) : Prop where
  tenant_eq : candidate.tenantId = tenant
  version_pos : 0 < candidate.jobVersion
  priority_le : candidate.basePriority ≤ 2
  template_pos : 0 < candidate.templateVersion

variable {tenant : TenantId}

theorem validateCandidate_eq_ok : validateCandidate candidate tenant = .ok value <-> candidate.WellFormed tenant := by
  simp only [validateCandidate, bind_eq_ok, require_eq_ok, exists_and_left, exists_const]
  constructor
  · rintro ⟨tenantEq, version, priority, template⟩
    exact ⟨tenantEq, version, priority, template⟩
  · intro formed
    exact ⟨formed.tenant_eq, formed.version_pos, formed.priority_le, formed.template_pos⟩

theorem validateNormal_eq_ok {ids : List JobId} {items result : List Candidate}
    (agree : Agree seen) : validateNormal tenant ids seen items = .ok result <->
      (∀ candidate ∈ items, candidate.WellFormed tenant) ∧ (items.map (·.jobId)).Nodup ∧
      (∀ candidate ∈ items, candidate.jobId ∉ ids) ∧ Agree (items.reverse ++ seen) ∧
      items.reverse ++ seen = result := by
  induction items generalizing ids seen with
  | nil => simp [validateNormal, agree]
  | cons candidate rest ih =>
    simp only [validateNormal, bind_eq_ok, require_eq_ok, validateCandidate_eq_ok, exists_and_left, exists_const]
    simp only [forall_mem_cons, map_cons, nodup_cons, reverse_cons, append_assoc, singleton_append]
    have apart : (∀ other ∈ rest, other.jobId ∉ candidate.jobId :: ids) <->
        candidate.jobId ∉ rest.map (·.jobId) ∧ ∀ other ∈ rest, other.jobId ∉ ids := by
      simp only [mem_cons, not_or, mem_map, not_exists, not_and, forall_and]
    by_cases same : sameCandidate seen candidate = true
    · rw [ih (agree_cons.mpr ⟨agree, same⟩), apart]
      tauto
    · have broken : ¬Agree (rest.reverse ++ candidate :: seen) := by
        intro all
        exact same (agree_cons.mp (all.of_subset (by simp))).2
      tauto

structure CandidateWindow.WellFormed (window : CandidateWindow) (tenant : TenantId) : Prop where
  bounded : window.normal.length ≤ maxNormalCandidates
  distinct : (window.normal.map (·.jobId)).Nodup
  formed : ∀ candidate ∈ window.offered, candidate.WellFormed tenant

def offeredBy (windows : List (TenantId × CandidateWindow)) : List Candidate :=
  windows.flatMap fun entry => entry.2.offered

structure WindowsValid (windows : List (TenantId × CandidateWindow)) : Prop where
  tenants_nodup : (windows.map (·.1)).Nodup
  formed : ∀ entry ∈ windows, entry.2.WellFormed entry.1
  agree : Agree (offeredBy windows)

theorem validateWindows_step {window : CandidateWindow} {rest : List (TenantId × CandidateWindow)}
    (agree : Agree seen) : validateWindows tenants seen ((tenant, window) :: rest) = .ok value <->
      tenant ∉ tenants ∧ window.WellFormed tenant ∧ Agree (window.offered.reverse ++ seen) ∧
        validateWindows (tenant :: tenants) (window.offered.reverse ++ seen) rest = .ok value := by
  simp only [validateWindows, bind_eq_ok, require_eq_ok, exists_and_left, exists_const, validateNormal_eq_ok agree]
  cases oldest : window.oldestEligible with
  | none =>
    have offered : window.offered = window.normal := by simp [offered, oldest]
    rw [offered]
    constructor
    · rintro ⟨fresh, bounded, _, ⟨formed, distinct, _, agrees, rfl⟩, remaining⟩
      exact ⟨fresh, ⟨bounded, distinct, by rwa [offered]⟩, agrees, remaining⟩
    · rintro ⟨fresh, formed, agrees, remaining⟩
      exact ⟨fresh, formed.bounded, _, ⟨by rw [← offered]; exact formed.formed, formed.distinct, by simp,
        agrees, rfl⟩, remaining⟩
  | some last =>
    have offered : window.offered = window.normal ++ [last] := by
      simp [offered, oldest]
    rw [offered]
    simp only [bind_eq_ok, require_eq_ok, validateCandidate_eq_ok, exists_and_left, exists_const,
      reverse_append, reverse_singleton, cons_append, agree_cons]
    constructor
    · rintro ⟨fresh, bounded, _, ⟨formed, distinct, _, agrees, rfl⟩, lastFormed, same, remaining⟩
      refine ⟨fresh, ⟨bounded, distinct, ?_⟩, ⟨agrees, same⟩, remaining⟩
      rw [offered]
      simpa [or_imp, forall_and] using ⟨formed, lastFormed⟩
    · rintro ⟨fresh, formed, ⟨agrees, same⟩, remaining⟩
      have all := formed.formed
      rw [offered] at all
      exact ⟨fresh, formed.bounded, _,
        ⟨fun candidate member => all candidate (by simp [member]), formed.distinct, by simp, agrees, rfl⟩,
        all last (by simp), same, remaining⟩

theorem validateWindows_after {windows : List (TenantId × CandidateWindow)} (agree : Agree seen) :
    validateWindows tenants seen windows = .ok value <->
      (windows.map (·.1)).Nodup ∧ (∀ tenant ∈ windows.map (·.1), tenant ∉ tenants) ∧
      (∀ entry ∈ windows, entry.2.WellFormed entry.1) ∧ Agree (offeredBy windows ++ seen) := by
  induction windows generalizing tenants seen with
  | nil => simp [validateWindows, offeredBy, agree]
  | cons entry rest ih =>
    obtain ⟨tenant, window⟩ := entry
    -- only membership matters to the agreement, so the order in which candidates were seen does not
    have moved : Agree (offeredBy ((tenant, window) :: rest) ++ seen) <->
        Agree (offeredBy rest ++ (window.offered.reverse ++ seen)) := by
      have same : ∀ candidate, candidate ∈ offeredBy ((tenant, window) :: rest) ++ seen <->
          candidate ∈ offeredBy rest ++ (window.offered.reverse ++ seen) := by
        intro candidate
        simp only [offeredBy, flatMap_cons, mem_append, mem_reverse]
        tauto
      exact ⟨fun all => all.of_subset fun candidate => (same candidate).mpr,
        fun all => all.of_subset fun candidate => (same candidate).mp⟩
    have apart : (∀ other ∈ rest.map (·.1), other ∉ tenant :: tenants) <->
        tenant ∉ rest.map (·.1) ∧ ∀ other ∈ rest.map (·.1), other ∉ tenants := by
      simp only [mem_cons, not_or, forall_and, forall_mem_ne']
    rw [validateWindows_step agree, moved]
    simp only [map_cons, nodup_cons, forall_mem_cons]
    by_cases here : Agree (window.offered.reverse ++ seen)
    · rw [ih here, apart]
      tauto
    · have broken : ¬Agree (offeredBy rest ++ (window.offered.reverse ++ seen)) := by
        intro all
        exact here (all.of_subset (by simp))
      tauto

theorem validateWindows_eq_ok {windows : List (TenantId × CandidateWindow)} :
    validateWindows [] [] windows = .ok value <-> WindowsValid windows := by
  have empty : Agree [] := by simp [Agree]
  rw [validateWindows_after empty]
  simp only [not_mem_nil, not_false_eq_true, implies_true, true_and, append_nil]
  constructor
  · rintro ⟨distinct, formed, agree⟩
    exact ⟨distinct, formed, agree⟩
  · intro valid
    exact ⟨valid.tenants_nodup, valid.formed, valid.agree⟩

theorem CandidateWindow.mem_candidates {window : CandidateWindow} (agree : Agree window.offered) :
    candidate ∈ window.candidates <-> candidate ∈ window.offered := by
  have inside : window.candidates ⊆ window.offered := pwFilter_subset _
  refine ⟨fun member => inside member, fun offered => ?_⟩
  by_contra absent
  have apart : ∀ other ∈ window.candidates, candidate.jobId ≠ other.jobId := by
    intro other member jobs
    exact absent (agree candidate offered other (inside member) jobs ▸ member)
  rw [candidates, forall_mem_pwFilter (fun {x y z} differ => by
    by_cases same : x.jobId = y.jobId
    · exact .inr (same ▸ differ)
    · exact .inl same)] at apart
  exact apart candidate offered rfl

theorem SchedulingSnapshot.Valid.limit?_eq (valid : snapshot.Valid) {limits : TenantPolicySnapshot} :
    snapshot.limit? tenant = some limits <-> limits ∈ snapshot.tenantLimits ∧ limits.tenantId = tenant :=
  Selection.find?_key valid.limits_nodup

end Nexa
