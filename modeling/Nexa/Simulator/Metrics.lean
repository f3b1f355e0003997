import Mathlib
import Nexa.Shared.Outcome
import Nexa.Simulator.DeficitRoundRobin

/-! `benchmarks/simulator/metrics.py`. -/

namespace Nexa.Simulator

open List

deriving instance DecidableEq for ResourceVector

/-- A dictionary. What it holds at other names is never read. -/
structure Mapping (α : Type) where
  keys : Finset String
  value : String -> α

def weightedJain (resourceTime : Mapping ℚ) (weights : Mapping Int) : Except String ℚ := do
  let tenantIds := resourceTime.keys.sort
  if tenantIds = [] then throw "weighted Jain requires at least one tenant"
  if resourceTime.keys ≠ weights.keys then throw "resource-time and weight tenant sets must match"
  if ∃ id ∈ tenantIds, weights.value id ≤ 0 then throw "tenant weights must be positive"
  let normalized := tenantIds.map fun id => resourceTime.value id / weights.value id
  let denominator := normalized.length * (normalized.map fun value => value * value).sum
  if denominator = 0 then throw "weighted Jain is undefined when all resource-time values are zero"
  return normalized.sum ^ 2 / denominator

section

variable {ι : Type} {tenants : Finset ι} {x : ι -> ℚ}

theorem sum_sq_sub_mean (tenants : Finset ι) (x : ι -> ℚ) (mean : ℚ) (is : tenants.card * mean = ∑ i ∈ tenants, x i) :
    tenants.card * ∑ i ∈ tenants, (x i - mean) ^ 2 =
      tenants.card * ∑ i ∈ tenants, x i ^ 2 - (∑ i ∈ tenants, x i) ^ 2 := by
  have expand : ∑ i ∈ tenants, (x i - mean) ^ 2 =
      ∑ i ∈ tenants, x i ^ 2 - 2 * mean * ∑ i ∈ tenants, x i + tenants.card * mean ^ 2 := by
    simp only [sub_sq, Finset.sum_add_distrib, Finset.sum_sub_distrib, Finset.sum_const, nsmul_eq_mul, Finset.mul_sum]
    congr 2
    exact Finset.sum_congr rfl fun i _ => by ring
  rw [expand, ← is]
  ring

theorem sq_sum_sub_sum_sq (tenants : Finset ι) (x : ι -> ℚ) :
    (∑ i ∈ tenants, x i) ^ 2 - ∑ i ∈ tenants, x i ^ 2 =
      ∑ i ∈ tenants, x i * (∑ j ∈ tenants, x j - x i) := by
  simp only [mul_sub, Finset.sum_sub_distrib, ← Finset.sum_mul]
  congr 1
  · ring
  · exact Finset.sum_congr rfl fun i _ => sq (x i)

theorem sq_sum_eq_iff (some : tenants.Nonempty) :
    (∑ i ∈ tenants, x i) ^ 2 = tenants.card * ∑ i ∈ tenants, x i ^ 2 <-> ∃ mean, ∀ i ∈ tenants, x i = mean := by
  have count : (tenants.card : ℚ) ≠ 0 := by exact_mod_cast some.card_ne_zero
  constructor
  · intro equal
    let mean := (∑ i ∈ tenants, x i) / tenants.card
    have spread := sum_sq_sub_mean tenants x mean (mul_div_cancel₀ _ count)
    rw [equal, sub_self, mul_eq_zero_iff_left count, Finset.sum_eq_zero_iff_of_nonneg fun _ _ => sq_nonneg _] at spread
    exact ⟨mean, fun i member => sub_eq_zero.mp (pow_eq_zero_iff two_ne_zero |>.mp (spread i member))⟩
  · rintro ⟨mean, same⟩
    have squares : ∀ i ∈ tenants, x i ^ 2 = mean ^ 2 := fun i member => by rw [same i member]
    rw [Finset.sum_congr rfl same, Finset.sum_congr rfl squares]
    simp only [Finset.sum_const, nsmul_eq_mul]
    ring

variable (nonneg : ∀ i ∈ tenants, 0 ≤ x i)

include nonneg

theorem cross_nonneg : ∀ i ∈ tenants, 0 ≤ x i * (∑ j ∈ tenants, x j - x i) := fun i member =>
  mul_nonneg (nonneg i member) (sub_nonneg.mpr (Finset.single_le_sum nonneg member))

theorem sum_sq_le : ∑ i ∈ tenants, x i ^ 2 ≤ (∑ i ∈ tenants, x i) ^ 2 := by
  rw [← sub_nonneg, sq_sum_sub_sum_sq]
  exact Finset.sum_nonneg (cross_nonneg nonneg)

/-- The cross terms vanish exactly when no second tenant adds to the sum. -/
theorem sum_sq_eq_iff (some : ∃ i ∈ tenants, x i ≠ 0) :
    ∑ i ∈ tenants, x i ^ 2 = (∑ i ∈ tenants, x i) ^ 2 <-> ∃ i ∈ tenants, ∀ j ∈ tenants, x j ≠ 0 <-> j = i := by
  classical
  rw [eq_comm, ← sub_eq_zero, sq_sum_sub_sum_sq, Finset.sum_eq_zero_iff_of_nonneg (cross_nonneg nonneg)]
  constructor
  · intro crosses
    obtain ⟨i, member, served⟩ := some
    have whole : ∑ j ∈ tenants, x j = x i := sub_eq_zero.mp ((mul_eq_zero_iff_left served).mp (crosses i member))
    refine ⟨i, member, fun j other => ⟨fun also => ?_, fun same => same ▸ served⟩⟩
    by_contra different
    have both := Finset.add_le_sum nonneg member other (Ne.symm different)
    rw [whole] at both
    exact also (le_antisymm (by linarith) (nonneg j other))
  · rintro ⟨i, member, only⟩ j other
    have whole : ∑ k ∈ tenants, x k = x i :=
      Finset.sum_eq_single_of_mem i member fun k inside different =>
        by_contra fun served => different ((only k inside).mp served)
    by_cases same : j = i
    · rw [whole, same, sub_self, mul_zero]
    · rw [not_not.mp fun served => same ((only j other).mp served), zero_mul]

end

theorem sum_sort (keys : Finset String) (f : String -> ℚ) : (keys.sort.map f).sum = ∑ id ∈ keys, f id := by
  rw [← sum_toFinset _ (Finset.sort_nodup _ _), Finset.sort_toFinset]

section

variable {resourceTime : Mapping ℚ} {weights : Mapping Int} (same : resourceTime.keys = weights.keys)
  (positive : ∀ id ∈ weights.keys, 0 < weights.value id)

def normalized (resourceTime : Mapping ℚ) (weights : Mapping Int) (id : String) : ℚ :=
  resourceTime.value id / weights.value id

include same positive

theorem weightedJain_eq (some : ∃ id ∈ resourceTime.keys, resourceTime.value id ≠ 0) :
    0 < ∑ id ∈ resourceTime.keys, normalized resourceTime weights id ^ 2 ∧
      weightedJain resourceTime weights = .ok ((∑ id ∈ resourceTime.keys, normalized resourceTime weights id) ^ 2 /
        (resourceTime.keys.card * ∑ id ∈ resourceTime.keys, normalized resourceTime weights id ^ 2)) := by
  obtain ⟨id, member, served⟩ := some
  have squares : 0 < ∑ id ∈ resourceTime.keys, normalized resourceTime weights id ^ 2 := by
    refine Finset.sum_pos' (fun _ _ => sq_nonneg _) ⟨id, member, sq_pos_of_ne_zero ?_⟩
    exact div_ne_zero served (by exact_mod_cast (positive id (same ▸ member)).ne')
  refine ⟨squares, ?_⟩
  have count : (resourceTime.keys.card : ℚ) ≠ 0 := by exact_mod_cast Finset.card_ne_zero_of_mem member
  have nonempty : resourceTime.keys.sort ≠ [] := fun empty => by
    rw [← Finset.mem_sort (· ≤ ·), empty] at member
    cases member
  have weighted : ¬∃ id ∈ resourceTime.keys.sort, weights.value id ≤ 0 := by
    rintro ⟨other, inside, low⟩
    exact (positive other (same ▸ (Finset.mem_sort _).mp inside)).not_ge low
  let values := resourceTime.keys.sort.map (normalized resourceTime weights)
  have denominator : values.length * (values.map fun value => value * value).sum =
      resourceTime.keys.card * ∑ id ∈ resourceTime.keys, normalized resourceTime weights id ^ 2 := by
    rw [length_map, Finset.length_sort, map_map, sum_sort]
    simp only [Function.comp_apply, sq]
  refine (if_neg nonempty).trans ((if_neg (not_not.mpr same)).trans ((if_neg weighted).trans ((if_neg ?_).trans ?_)))
  · change values.length * (values.map fun value => value * value).sum ≠ (0 : ℚ)
    rw [denominator]
    exact mul_ne_zero count squares.ne'
  · change Except.ok (values.sum ^ 2 / (values.length * (values.map fun value => value * value).sum)) = _
    rw [denominator, sum_sort]

/-- The index is between `1 / n` and `1`, reached for one served tenant and for times in proportion. -/
theorem weightedJain_bounds (nonneg : ∀ id ∈ resourceTime.keys, 0 ≤ resourceTime.value id)
    (some : ∃ id ∈ resourceTime.keys, resourceTime.value id ≠ 0) :
    ∃ index, weightedJain resourceTime weights = .ok index ∧ 1 / (resourceTime.keys.card : ℚ) ≤ index ∧ index ≤ 1 ∧
      (index = 1 <-> ∃ factor, ∀ id ∈ resourceTime.keys, resourceTime.value id = factor * weights.value id) ∧
      (index = 1 / (resourceTime.keys.card : ℚ) <->
        ∃ id ∈ resourceTime.keys, ∀ other ∈ resourceTime.keys, resourceTime.value other ≠ 0 <-> other = id) ∧
      ∀ factor : ℚ, 0 < factor ->
        weightedJain ⟨resourceTime.keys, fun id => factor * resourceTime.value id⟩ weights = .ok index := by
  obtain ⟨squares, computed⟩ := weightedJain_eq same positive some
  have weight : ∀ id ∈ resourceTime.keys, (0 : ℚ) < weights.value id := fun id member =>
    by exact_mod_cast positive id (same ▸ member)
  have count : (0 : ℚ) < resourceTime.keys.card := by
    obtain ⟨id, member, -⟩ := some
    exact_mod_cast Finset.card_pos.mpr ⟨id, member⟩
  have served : ∀ id ∈ resourceTime.keys, normalized resourceTime weights id ≠ 0 <-> resourceTime.value id ≠ 0 :=
    fun id member => div_ne_zero_iff.trans (and_iff_left (weight id member).ne')
  have normal : ∀ id ∈ resourceTime.keys, 0 ≤ normalized resourceTime weights id := fun id member =>
    div_nonneg (nonneg id member) (weight id member).le
  have any : ∃ id ∈ resourceTime.keys, normalized resourceTime weights id ≠ 0 := by
    obtain ⟨id, member, is⟩ := some
    exact ⟨id, member, (served id member).mpr is⟩
  refine ⟨_, computed, ?_, ?_, ?_, ?_, fun factor scaled => ?_⟩
  · rw [div_le_div_iff₀ count (mul_pos count squares), one_mul, mul_comm]
    exact mul_le_mul_of_nonneg_right (sum_sq_le normal) count.le
  · rw [div_le_one (mul_pos count squares)]
    exact sq_sum_le_card_mul_sum_sq
  · obtain ⟨id, member, -⟩ := some
    rw [div_eq_one_iff_eq (mul_pos count squares).ne', sq_sum_eq_iff ⟨id, member⟩]
    exact exists_congr fun mean => forall₂_congr fun id member => div_eq_iff (weight id member).ne'
  · rw [div_eq_div_iff (mul_pos count squares).ne' count.ne', one_mul, mul_comm, mul_right_inj' count.ne', eq_comm,
      sum_sq_eq_iff normal any]
    refine exists_congr fun id => and_congr_right fun _ => forall₂_congr fun other inside => ?_
    rw [served other inside]
  · let scaledTime : Mapping ℚ := ⟨resourceTime.keys, fun id => factor * resourceTime.value id⟩
    have nonzero : ∃ id ∈ scaledTime.keys, scaledTime.value id ≠ 0 := by
      obtain ⟨id, member, is⟩ := some
      exact ⟨id, member, mul_ne_zero scaled.ne' is⟩
    have again := (weightedJain_eq (show scaledTime.keys = weights.keys from same) positive nonzero).2
    have values : normalized scaledTime weights = fun id => factor * normalized resourceTime weights id :=
      funext fun id => mul_div_assoc factor _ _
    simp only [values, mul_pow, ← Finset.mul_sum] at again
    rw [mul_left_comm, mul_div_mul_left _ _ (pow_ne_zero 2 scaled.ne')] at again
    exact again

end

theorem weightedJain_bounds_sample :
    ∃ index, weightedJain ⟨{"a", "b"}, fun id => if id = "a" then 2 else 1⟩ ⟨{"a", "b"}, fun _ => 1⟩ = .ok index ∧
      1 / 2 ≤ index ∧ index ≤ 1 := by
  obtain ⟨index, computed, low, high, -⟩ :=
    weightedJain_bounds (show (⟨{"a", "b"}, fun id => if id = "a" then 2 else 1⟩ : Mapping ℚ).keys =
      (⟨{"a", "b"}, fun _ => 1⟩ : Mapping Int).keys from rfl) (by simp) (by simp) ⟨"a", by simp, by simp⟩
  exact ⟨index, computed, by simpa using low, high⟩

inductive JobState where
  | pending
  | queued
  | running
  | completed
  | infeasible
deriving DecidableEq

inductive InfeasibleReason where
  | requestExceedsCapacity
  | requestExceedsTenantQuota
deriving DecidableEq

structure JobRecord where
  tenantId : String
  arrivalMs : Int
  resources : ResourceVector
  state : JobState
  completionMs : Option Int
  infeasibleReason : Option InfeasibleReason

structure Allocation where
  tenantId : String
  resources : ResourceVector
  startMs : Int
  releaseMs : Int

structure LimitedTenant extends TenantSpec where
  quota : ResourceVector
  maxRunningJobs : Nat

/-- What the metrics read of a result, with what the reader of a trace checks. -/
structure SimulationResult where
  capacity : ResourceVector
  tenants : List LimitedTenant
  startMs : Int
  endMs : Int
  tenantIds : List String
  jobRecords : List JobRecord
  allocations : List Allocation
  distinct : (tenants.map (·.tenantId)).Nodup
  lasts : startMs < endMs
  known : ∀ id ∈ tenantIds, id ∈ tenants.map (·.tenantId)

inductive Exclusion where
  | quotaDoesNotPermitWindowWorkload
  | notContinuouslyDemanding
  | quotaOrConcurrencyDoesNotPermitWeightedShare

def ResourceVector.add (resources other : ResourceVector) : ResourceVector :=
  ⟨resources.cpuMillis + other.cpuMillis, resources.memoryBytes + other.memoryBytes,
    resources.gpuCount + other.gpuCount⟩

def total (held : List ResourceVector) : ResourceVector := held.foldl .add ⟨0, 0, 0⟩

instance (resources capacity : ResourceVector) : Decidable (resources.fitsWithin capacity) :=
  inferInstanceAs (Decidable (_ ∧ _))

def requested (jobs : List JobRecord) : ResourceVector := total (jobs.map (·.resources))

def LimitedTenant.Runs (tenant : LimitedTenant) (capacity : ResourceVector) (jobs : List JobRecord) : Prop :=
  jobs.length ≤ tenant.maxRunningJobs ∧ (requested jobs).fitsWithin tenant.quota ∧
    (requested jobs).fitsWithin capacity

def covers (endMs : Int) : Int -> List (Int × Int) -> Bool
  | _, [] => false
  | cursor, (startMs, stopMs) :: rest =>
    if cursor < startMs then false
    else if endMs ≤ max cursor stopMs then true
    else covers endMs (max cursor stopMs) rest

/-- One round for a record over the states that the records before it reach. -/
def extended (tenant : LimitedTenant) (capacity : ResourceVector) (states : List (ResourceVector × Nat))
    (record : JobRecord) : List (ResourceVector × Nat) :=
  states ∪ states.filterMap fun state =>
    let combined := state.1.add record.resources
    if state.2 < tenant.maxRunningJobs ∧ combined.fitsWithin tenant.quota ∧ combined.fitsWithin capacity then
      some (combined, state.2 + 1)
    else none

namespace SimulationResult

variable (result : SimulationResult)

def tenantOf (tenantId : String) : Option LimitedTenant :=
  result.tenants.find? fun tenant => tenant.tenantId = tenantId

def weightOf (tenantId : String) : Nat := ((result.tenantOf tenantId).map (·.weight)).getD 0

def quotaBlocked (tenantId : String) : Bool :=
  result.jobRecords.any fun record => record.tenantId = tenantId ∧
    record.infeasibleReason = some .requestExceedsTenantQuota ∧
      result.startMs ≤ record.arrivalMs ∧ record.arrivalMs < result.endMs

/-- When a record of a tenant demanded, within the window. -/
def interval (tenantId : String) (record : JobRecord) : Option (Int × Int) := match record.completionMs with
  | none => none
  | some completionMs =>
    if record.tenantId = tenantId ∧ record.state = .completed ∧ record.arrivalMs < result.endMs ∧
        result.startMs < completionMs then
      some (max result.startMs record.arrivalMs, min result.endMs completionMs)
    else none

def continuouslyDemanding (tenantId : String) : Bool :=
  covers result.endMs result.startMs ((result.jobRecords.filterMap (result.interval tenantId)).insertionSort
    fun one other => toLex one ≤ toLex other)

def windowRecords (tenantId : String) : List JobRecord :=
  result.jobRecords.filter fun record => record.tenantId = tenantId ∧ record.infeasibleReason = none ∧
    record.arrivalMs < result.endMs ∧ record.completionMs.all fun completionMs => result.startMs < completionMs

def maxWindowShare (tenantId : String) : ℚ := match result.tenantOf tenantId with
  | none => 0
  | some tenant =>
    let states := (result.windowRecords tenantId).foldl (extended tenant result.capacity) [(⟨0, 0, 0⟩, 0)]
    ((states.map fun state => dominantShare state.1 result.capacity).max?).getD 0

def candidates : List String :=
  result.tenantIds.filter fun id => ¬result.quotaBlocked id ∧ result.continuouslyDemanding id

def exclusions (tenantId : String) : Option Exclusion := if tenantId ∉ result.tenantIds then none
  else if result.quotaBlocked tenantId then some .quotaDoesNotPermitWindowWorkload
  else if result.continuouslyDemanding tenantId then none
  else some .notContinuouslyDemanding

def includedWeight (included : List String) : Nat := (included.map result.weightOf).sum

def quotaLimited (included : List String) : List String :=
  included.filter fun id => result.maxWindowShare id < (result.weightOf id : ℚ) / result.includedWeight included

/-- The loop, which removes a tenant in every round, for so many rounds. -/
def narrow : Nat -> List String × (String -> Option Exclusion) -> List String × (String -> Option Exclusion)
  | 0, reached => reached
  | fuel + 1, (included, exclusions) =>
    let limited := result.quotaLimited included
    if 2 ≤ included.length ∧ limited ≠ [] then
      narrow fuel (included.filter fun id => id ∉ limited, fun id =>
        if id ∈ limited then some .quotaOrConcurrencyDoesNotPermitWeightedShare else exclusions id)
    else (included, exclusions)

def Accepted (tenantId : String) : Prop :=
  ∀ record ∈ result.jobRecords, record.tenantId = tenantId ->
    record.infeasibleReason = some .requestExceedsTenantQuota ->
      ¬(result.startMs ≤ record.arrivalMs ∧ record.arrivalMs < result.endMs)

end SimulationResult

namespace SimulationResult

variable {result : SimulationResult} {id : String}

def Settled (result : SimulationResult) (included : List String) : Prop :=
  included.length < 2 ∨ result.quotaLimited included = []

/-- The tenants that remain of a list of candidates. -/
def kept (result : SimulationResult) (candidates : List String) : List String :=
  (result.narrow candidates.length (candidates, result.exclusions)).1

end SimulationResult

end Nexa.Simulator
