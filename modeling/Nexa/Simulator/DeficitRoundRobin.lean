import Mathlib.Data.List.Sort
import Mathlib.Tactic.FieldSimp
import Mathlib.Tactic.Linarith

/-! `DeficitRoundRobinPolicy` of `benchmarks/simulator/baselines.py`. -/

namespace Nexa.Simulator

open List Function

structure ResourceVector where
  cpuMillis : Nat
  memoryBytes : Nat
  gpuCount : Nat

def ResourceVector.fitsWithin (resources capacity : ResourceVector) : Prop :=
  resources.cpuMillis ≤ capacity.cpuMillis ∧ resources.memoryBytes ≤ capacity.memoryBytes ∧
    resources.gpuCount ≤ capacity.gpuCount

structure TenantSpec where
  tenantId : String
  weight : Nat
  positive : 0 < weight

structure JobSpec where
  jobId : String
  tenantId : String
  readySequence : Nat
  resources : ResourceVector

/-- What the policy reads of a snapshot. The engine offers jobs of its tenants only. -/
structure SchedulingSnapshot where
  capacity : ResourceVector
  candidates : List JobSpec
  tenants : List TenantSpec
  known : ∀ job ∈ candidates, job.tenantId ∈ tenants.map (·.tenantId)

def shares (resources capacity : ResourceVector) : List ℚ :=
  ([(resources.cpuMillis, capacity.cpuMillis), (resources.memoryBytes, capacity.memoryBytes),
    (resources.gpuCount, capacity.gpuCount)].filter fun axis => 0 < axis.2).map fun axis => (axis.1 : ℚ) / axis.2

def dominantShare (resources capacity : ResourceVector) : ℚ := (shares resources capacity).max?.getD 0

namespace SchedulingSnapshot

variable (snapshot : SchedulingSnapshot)

def order : List String := snapshot.tenants.map (·.tenantId)

/-- The first of a tenant's candidates by `(ready_sequence, job_id)`. -/
def candidateOf (tenantId : String) : Option JobSpec :=
  ((snapshot.candidates.filter fun job => job.tenantId = tenantId).insertionSort fun job other =>
    job.readySequence < other.readySequence ∨ job.readySequence = other.readySequence ∧ job.jobId ≤ other.jobId).head?

/-- Of two tenants with one name the dictionary keeps the later. -/
def weightOf (tenantId : String) : Nat :=
  ((snapshot.tenants.reverse.find? fun tenant => tenant.tenantId = tenantId).map (·.weight)).getD 0

def maxWeight : Nat := ((snapshot.order.map snapshot.weightOf).max?).getD 0

def quantum (tenantId : String) : ℚ := (snapshot.weightOf tenantId : ℚ) / snapshot.maxWeight

def cost (job : JobSpec) : ℚ := dominantShare job.resources snapshot.capacity

def Fits : Prop := ∀ job ∈ snapshot.candidates, job.resources.fitsWithin snapshot.capacity

end SchedulingSnapshot

structure DeficitRoundRobin where
  cursor : Nat := 0
  tenantOrder : List String := []
  deficits : String -> ℚ := fun _ => 0
  activeTenant : Option String := none

namespace DeficitRoundRobin

variable (snapshot : SchedulingSnapshot)

def add (state : DeficitRoundRobin) (tenantId : String) (amount : ℚ) : DeficitRoundRobin :=
  { state with deficits := update state.deficits tenantId (state.deficits tenantId + amount) }

def serve (state : DeficitRoundRobin) (tenantId : String) (selected : JobSpec) : DeficitRoundRobin :=
  { state.add tenantId (-snapshot.cost selected) with activeTenant := some tenantId }

/-- The loop `while True`, for so many visits. -/
def search : Nat -> DeficitRoundRobin -> Option (String × DeficitRoundRobin)
  | 0, _ => none
  | fuel + 1, state =>
    match state.tenantOrder[state.cursor]? with
    | none => none
    | some tenantId =>
      let moved := { state with cursor := (state.cursor + 1) % state.tenantOrder.length }
      match snapshot.candidateOf tenantId with
      | none => search fuel moved
      | some selected =>
        let credited := moved.add tenantId (snapshot.quantum tenantId)
        if snapshot.cost selected ≤ credited.deficits tenantId then
          some (selected.jobId, credited.serve snapshot tenantId selected)
        else search fuel credited

def visits : Nat := snapshot.order.length * (snapshot.maxWeight + 1)

def continued (state : DeficitRoundRobin) : Option (String × DeficitRoundRobin) := match state.activeTenant with
  | none => none
  | some tenantId =>
    match snapshot.candidateOf tenantId with
    | none => none
    | some selected =>
      if snapshot.cost selected ≤ state.deficits tenantId then
        some (selected.jobId, state.serve snapshot tenantId selected)
      else none

def renewed (state : DeficitRoundRobin) : DeficitRoundRobin :=
  if snapshot.order = state.tenantOrder then state else { tenantOrder := snapshot.order }

def choose (state : DeficitRoundRobin) : Option (Option String × DeficitRoundRobin) :=
  let state := state.renewed snapshot
  if snapshot.candidates.isEmpty then some (none, state)
  else
    match state.continued snapshot with
    | some (jobId, after) => some (some jobId, after)
    | none =>
      (search snapshot (visits snapshot) { state with activeTenant := none }).map fun found =>
        (some found.1, found.2)

def run (snapshots : List SchedulingSnapshot) (state : DeficitRoundRobin) : Option DeficitRoundRobin :=
  snapshots.foldlM (fun state snapshot => (choose snapshot state).map (·.2)) state

end DeficitRoundRobin

variable {snapshot : SchedulingSnapshot} {job : JobSpec} {tenantId : String}

theorem dominantShare_nonneg (resources capacity : ResourceVector) : 0 ≤ dominantShare resources capacity := by
  rw [dominantShare]
  cases largest : (shares resources capacity).max? with
  | none => rfl
  | some share =>
    obtain ⟨_, _, rfl⟩ := mem_map.mp (max?_mem largest)
    exact div_nonneg (Nat.cast_nonneg _) (Nat.cast_nonneg _)

theorem dominantShare_le_one {resources capacity : ResourceVector} (fits : resources.fitsWithin capacity) :
    dominantShare resources capacity ≤ 1 := by
  rw [dominantShare]
  cases largest : (shares resources capacity).max? with
  | none => exact zero_le_one
  | some share =>
    obtain ⟨axis, member, rfl⟩ := mem_map.mp (max?_mem largest)
    obtain ⟨cpu, memory, gpu⟩ := fits
    have within : axis.1 ≤ axis.2 := by
      simp only [mem_filter, mem_cons, not_mem_nil, or_false] at member
      rcases member.1 with rfl | rfl | rfl <;> assumption
    exact div_le_one_of_le₀ (Nat.cast_le.mpr within) (Nat.cast_nonneg _)

namespace SchedulingSnapshot

theorem candidateOf_mem (found : snapshot.candidateOf tenantId = some job) : job ∈ snapshot.candidates := by
  have member := mem_of_head? found
  rw [mem_insertionSort] at member
  exact mem_of_mem_filter member

theorem candidateOf_isSome (offered : job ∈ snapshot.candidates) :
    (snapshot.candidateOf job.tenantId).isSome = true := by
  rw [candidateOf, isSome_head?]
  exact ne_nil_of_mem ((mem_insertionSort _).mpr (mem_filter.mpr ⟨offered, by simp⟩))

theorem cost_bounds (fits : snapshot.Fits) (found : snapshot.candidateOf tenantId = some job) :
    0 ≤ snapshot.cost job ∧ snapshot.cost job ≤ 1 :=
  ⟨dominantShare_nonneg _ _, dominantShare_le_one (fits job (candidateOf_mem found))⟩

theorem weightOf_pos (member : tenantId ∈ snapshot.order) : 0 < snapshot.weightOf tenantId := by
  rw [weightOf]
  cases found : snapshot.tenants.reverse.find? fun tenant => tenant.tenantId = tenantId with
  | some tenant => exact tenant.positive
  | none =>
    obtain ⟨tenant, inside, same⟩ := mem_map.mp member
    exact absurd same (by simpa using find?_eq_none.mp found tenant (mem_reverse.mpr inside))

theorem weightOf_le_maxWeight (member : tenantId ∈ snapshot.order) :
    snapshot.weightOf tenantId ≤ snapshot.maxWeight := by
  have inside : snapshot.weightOf tenantId ∈ snapshot.order.map snapshot.weightOf := mem_map_of_mem member
  rw [maxWeight]
  cases largest : (snapshot.order.map snapshot.weightOf).max? with
  | none => simp [max?_eq_none_iff.mp largest] at inside
  | some weight => exact (max?_eq_some_iff.mp largest).2 _ inside

theorem quantum_bounds (member : tenantId ∈ snapshot.order) :
    0 ≤ snapshot.quantum tenantId ∧ snapshot.quantum tenantId ≤ 1 ∧
      1 ≤ snapshot.maxWeight * snapshot.quantum tenantId := by
  have positive := weightOf_pos member
  have most := weightOf_le_maxWeight member
  refine ⟨div_nonneg (Nat.cast_nonneg _) (Nat.cast_nonneg _),
    div_le_one_of_le₀ (Nat.cast_le.mpr most) (Nat.cast_nonneg _), ?_⟩
  rw [quantum, mul_div_cancel₀ _ (by exact_mod_cast (positive.trans_le most).ne')]
  exact_mod_cast positive

end SchedulingSnapshot

namespace DeficitRoundRobin

variable {state after : DeficitRoundRobin} {fuel : Nat}

/-- Only the tenant that was served last may have a credit of one or more. -/
structure Lawful (state : DeficitRoundRobin) : Prop where
  cursor : state.tenantOrder = [] ∨ state.cursor < state.tenantOrder.length
  nonneg : ∀ id, 0 ≤ state.deficits id
  below : ∀ id, state.deficits id < 2
  idle : ∀ id, state.activeTenant ≠ some id -> state.deficits id < 1

theorem Lawful.add (lawful : state.Lawful) (others : ∀ id, id ≠ tenantId -> state.deficits id < 1) {amount : ℚ}
    (nonneg : 0 ≤ state.deficits tenantId + amount) (below : state.deficits tenantId + amount < 2) :
    ({ state.add tenantId amount with activeTenant := some tenantId } : DeficitRoundRobin).Lawful where
  cursor := lawful.cursor
  nonneg id := by
    by_cases same : id = tenantId
    · simpa [DeficitRoundRobin.add, same] using nonneg
    · simpa [DeficitRoundRobin.add, same] using lawful.nonneg id
  below id := by
    by_cases same : id = tenantId
    · simpa [DeficitRoundRobin.add, same] using below
    · simpa [DeficitRoundRobin.add, same] using lawful.below id
  idle id other := by
    have apart : id ≠ tenantId := fun same => other (congrArg some same.symm)
    simpa [DeficitRoundRobin.add, apart] using others id apart

theorem Lawful.serve (lawful : state.Lawful) (active : state.activeTenant = some tenantId)
    (nonneg : 0 ≤ snapshot.cost job) (paid : snapshot.cost job ≤ state.deficits tenantId) :
    (state.serve snapshot tenantId job).Lawful := by
  have below := lawful.below tenantId
  refine lawful.add (fun id apart => lawful.idle id ?_) (by linarith) (by linarith)
  rw [active]
  exact fun same => apart (Option.some.inj same).symm

theorem Lawful.moved (lawful : state.Lawful) :
    ({ state with cursor := (state.cursor + 1) % state.tenantOrder.length } : DeficitRoundRobin).Lawful where
  cursor := lawful.cursor.imp id fun inside => Nat.mod_lt _ (Nat.zero_lt_of_lt inside)
  nonneg := lawful.nonneg
  below := lawful.below
  idle := lawful.idle

theorem Lawful.credited (lawful : state.Lawful) (idle : state.activeTenant = none)
    (member : tenantId ∈ snapshot.order) :
    ({ state.add tenantId (snapshot.quantum tenantId) with activeTenant := some tenantId } :
      DeficitRoundRobin).Lawful := by
  obtain ⟨gain, most, -⟩ := snapshot.quantum_bounds member
  have poor (id : String) : state.deficits id < 1 := lawful.idle id (by simp [idle])
  have before := lawful.nonneg tenantId
  have less := poor tenantId
  exact lawful.add (fun id _ => poor id) (by linarith) (by linarith)

theorem Lawful.ended (lawful : state.Lawful) (poor : ∀ id, state.activeTenant = some id -> state.deficits id < 1) :
    ({ state with activeTenant := none } : DeficitRoundRobin).Lawful where
  cursor := lawful.cursor
  nonneg := lawful.nonneg
  below := lawful.below
  idle id _ := by
    by_cases active : state.activeTenant = some id
    · exact poor id active
    · exact lawful.idle id active

theorem search_lawful (fits : snapshot.Fits) (lawful : state.Lawful) (idle : state.activeTenant = none)
    (order : state.tenantOrder = snapshot.order) {found : String × DeficitRoundRobin}
    (served : search snapshot fuel state = some found) : found.2.Lawful := by
  induction fuel generalizing state with
  | zero => cases served
  | succ fuel ih =>
    obtain ⟨cursor, tenantOrder, deficits, activeTenant⟩ := state
    obtain rfl : activeTenant = none := idle
    rw [search] at served
    cases visited : tenantOrder[cursor]? with
    | none => simp [visited] at served
    | some tenantId =>
      have member : tenantId ∈ snapshot.order := order ▸ mem_of_getElem? visited
      simp only [visited] at served
      cases offer : snapshot.candidateOf tenantId with
      | none =>
        simp only [offer] at served
        exact ih lawful.moved rfl order served
      | some selected =>
        have credited := lawful.moved.credited rfl member
        obtain ⟨nonneg, most⟩ := snapshot.cost_bounds fits offer
        simp only [offer] at served
        split_ifs at served with paid
        · obtain rfl := Option.some.inj served
          exact credited.serve rfl nonneg paid
        · refine ih (credited.ended fun id active => ?_) rfl order served
          obtain rfl := Option.some.inj active
          exact (not_le.mp paid).trans_le most

def distance (length cursor goal : Nat) : Nat := if cursor ≤ goal then goal - cursor else goal + length - cursor

theorem distance_step {length cursor goal : Nat} (inside : cursor < length) (goalInside : goal < length) :
    distance length ((cursor + 1) % length) goal + 1 =
      if cursor = goal then length else distance length cursor goal := by
  by_cases less : cursor + 1 < length
  · rw [Nat.mod_eq_of_lt less, distance, distance]
    split_ifs <;> omega
  · obtain rfl : cursor + 1 = length := by omega
    rw [Nat.mod_self, distance, distance]
    split_ifs <;> omega

/-- Each round visits every tenant, and brings it nearer to the cost of a job. -/
theorem search_isSome (fits : snapshot.Fits) (order : state.tenantOrder = snapshot.order)
    (inside : state.cursor < snapshot.order.length) {goal rounds : Nat} (goalInside : goal < snapshot.order.length)
    (offer : snapshot.candidateOf snapshot.order[goal] = some job)
    (near : 1 ≤ state.deficits snapshot.order[goal] + (rounds + 1) * snapshot.quantum snapshot.order[goal])
    (enough : distance snapshot.order.length state.cursor goal + snapshot.order.length * rounds < fuel) :
    (search snapshot fuel state).isSome = true := by
  induction fuel generalizing state rounds with
  | zero => omega
  | succ fuel ih =>
    obtain ⟨cursor, tenantOrder, deficits, activeTenant⟩ := state
    obtain rfl : tenantOrder = snapshot.order := order
    simp only at inside near enough
    have turn : (cursor + 1) % snapshot.order.length < snapshot.order.length :=
      Nat.mod_lt _ (Nat.zero_lt_of_lt inside)
    have steps := distance_step inside goalInside
    rw [search]
    simp only [getElem?_eq_getElem inside]
    by_cases here : cursor = goal
    · subst here
      rw [if_pos rfl] at steps
      simp only [offer]
      split_ifs with paid
      · rfl
      -- The visit did not pay for the job, so there is a round left.
      have most := (snapshot.cost_bounds fits offer).2
      simp only [add, update_self, not_le] at paid
      obtain _ | rounds := rounds
      · rw [Nat.cast_zero, zero_add, one_mul] at near
        linarith
      · rw [Nat.mul_succ] at enough
        refine @ih _ rfl turn rounds ?_ (by simp only [add]; omega)
        push_cast at near
        simp only [add, update_self]
        linarith
    · rw [if_neg here] at steps
      cases other : snapshot.candidateOf snapshot.order[cursor] with
      | none => exact ih rfl turn near (by simp only; omega)
      | some selected =>
        simp only
        split_ifs with paid
        · rfl
        refine @ih _ rfl turn rounds (near.trans ?_) (by simp only [add]; omega)
        have gain := (snapshot.quantum_bounds (getElem_mem inside)).1
        simp only [add, update_apply]
        split_ifs with same
        · rw [same]
          linarith
        · exact le_rfl

theorem Lawful.renewed (lawful : state.Lawful) : (state.renewed snapshot).Lawful := by
  rw [DeficitRoundRobin.renewed]
  split_ifs
  · exact lawful
  · refine ⟨?_, by simp, by simp, by simp⟩
    exact (Nat.eq_zero_or_pos snapshot.order.length).imp eq_nil_of_length_eq_zero id

@[simp]
theorem renewed_tenantOrder : (state.renewed snapshot).tenantOrder = snapshot.order := by
  rw [DeficitRoundRobin.renewed]
  split_ifs with same
  · exact same.symm
  · rfl

/-- When there is something to choose from, the tenant that was served last has a candidate. -/
def Lasts (state : DeficitRoundRobin) (snapshot : SchedulingSnapshot) : Prop :=
  snapshot.candidates ≠ [] -> ∀ id, (state.renewed snapshot).activeTenant = some id ->
    (snapshot.candidateOf id).isSome = true

theorem search_returns (fits : snapshot.Fits) (offered : job ∈ snapshot.candidates) (lawful : state.Lawful)
    (order : state.tenantOrder = snapshot.order) : (search snapshot (visits snapshot) state).isSome = true := by
  obtain ⟨goal, inside, aim⟩ : ∃ goal, ∃ inside : goal < snapshot.order.length, snapshot.order[goal] = job.tenantId :=
    mem_iff_getElem.mp (snapshot.known job offered)
  obtain ⟨first, offer⟩ := Option.isSome_iff_exists.mp (SchedulingSnapshot.candidateOf_isSome offered)
  have cursor : state.cursor < snapshot.order.length := by
    rw [← order]
    refine lawful.cursor.resolve_left fun none => ?_
    rw [← order, none] at inside
    exact Nat.not_lt_zero _ inside
  obtain ⟨gain, -, pays⟩ := snapshot.quantum_bounds (getElem_mem inside)
  have nonneg := lawful.nonneg snapshot.order[goal]
  have near : 1 ≤ state.deficits snapshot.order[goal] +
      (snapshot.maxWeight + 1) * snapshot.quantum snapshot.order[goal] := by linarith
  refine search_isSome fits order cursor inside (aim.symm ▸ offer) near ?_
  rw [visits, Nat.mul_succ, distance]
  split_ifs <;> omega

theorem choose_lawful (fits : snapshot.Fits) (lawful : state.Lawful) (lasts : state.Lasts snapshot) :
    ∃ chosen after, choose snapshot state = some (chosen, after) ∧ after.Lawful := by
  have renewed : (state.renewed snapshot).Lawful := lawful.renewed
  rw [choose]
  split_ifs with empty
  · exact ⟨none, _, rfl, renewed⟩
  have nonempty : snapshot.candidates ≠ [] := fun none => empty (by rw [none]; rfl)
  obtain ⟨job, offered⟩ := exists_mem_of_ne_nil _ nonempty
  -- What is left to do once the last turn is over.
  have searches (poor : ∀ id, (state.renewed snapshot).activeTenant = some id ->
      (state.renewed snapshot).deficits id < 1) :
      ∃ chosen after, ((search snapshot (visits snapshot) { state.renewed snapshot with activeTenant := none }).map
        fun found => (some found.1, found.2)) = some (chosen, after) ∧ after.Lawful := by
    have ended := renewed.ended poor
    obtain ⟨found, served⟩ := Option.isSome_iff_exists.mp
      (search_returns fits offered ended renewed_tenantOrder)
    exact ⟨some found.1, found.2, by rw [served]; rfl, search_lawful fits ended rfl renewed_tenantOrder served⟩
  cases active : (state.renewed snapshot).activeTenant with
  | none =>
    simp only [continued, active]
    exact searches (by simp [active])
  | some id =>
    obtain ⟨selected, offer⟩ := Option.isSome_iff_exists.mp (lasts nonempty id active)
    obtain ⟨nonneg, most⟩ := snapshot.cost_bounds fits offer
    simp only [continued, active, offer]
    by_cases paid : snapshot.cost selected ≤ (state.renewed snapshot).deficits id
    · rw [if_pos paid]
      exact ⟨_, _, rfl, renewed.serve active nonneg paid⟩
    · rw [if_neg paid]
      refine searches fun other same => ?_
      obtain rfl : id = other := Option.some.inj (active.symm.trans same)
      exact (not_le.mp paid).trans_le most

def LastsThrough : List SchedulingSnapshot -> DeficitRoundRobin -> Prop
  | [], _ => True
  | snapshot :: rest, state =>
    state.Lasts snapshot ∧ ∀ chosen after, choose snapshot state = some (chosen, after) -> LastsThrough rest after

theorem run_lawful {snapshots : List SchedulingSnapshot} (fits : ∀ snapshot ∈ snapshots, snapshot.Fits)
    (lawful : state.Lawful) (lasts : LastsThrough snapshots state) :
    ∃ after, run snapshots state = some after ∧ after.Lawful := by
  induction snapshots generalizing state with
  | nil => exact ⟨state, rfl, lawful⟩
  | cons snapshot rest ih =>
    obtain ⟨chosen, next, chooses, kept⟩ := choose_lawful (fits snapshot mem_cons_self) lawful lasts.1
    obtain ⟨after, runs, final⟩ :=
      ih (fun other later => fits other (mem_cons_of_mem _ later)) kept (lasts.2 chosen next chooses)
    refine ⟨after, ?_, final⟩
    rw [run, foldlM_cons, chooses]
    exact runs

/-- While the tenant that was served last has a candidate, every choice returns and leaves credits below two. -/
theorem deficits_bounded {snapshots : List SchedulingSnapshot} (fits : ∀ snapshot ∈ snapshots, snapshot.Fits)
    (lasts : LastsThrough snapshots {}) :
    ∃ after, run snapshots {} = some after ∧ ∀ id, 0 ≤ after.deficits id ∧ after.deficits id < 2 := by
  have fresh : Lawful {} := ⟨.inl rfl, by simp, by simp, by simp⟩
  obtain ⟨after, runs, lawful⟩ := run_lawful fits fresh lasts
  exact ⟨after, runs, fun id => ⟨lawful.nonneg id, lawful.below id⟩⟩

def sampleTenant (tenantId : String) : TenantSpec := ⟨tenantId, 1, Nat.one_pos⟩

def sampleJob (first : Bool) : JobSpec := ⟨if first then "1" else "2", if first then "a" else "b", 1, ⟨1, 0, 0⟩⟩

theorem sampleTenants_known (owners : List Bool) (job : JobSpec) (offered : job ∈ owners.map sampleJob) :
    job.tenantId ∈ [sampleTenant "a", sampleTenant "b"].map (·.tenantId) := by
  obtain ⟨first, -, rfl⟩ := mem_map.mp offered
  cases first <;> decide

def sampleSnapshot (owners : List Bool) : SchedulingSnapshot where
  capacity := ⟨10, 0, 0⟩
  candidates := owners.map sampleJob
  tenants := [sampleTenant "a", sampleTenant "b"]
  known := sampleTenants_known owners

theorem fits_sampleSnapshot (owners : List Bool) : (sampleSnapshot owners).Fits := by
  intro job offered
  obtain ⟨first, -, rfl⟩ := mem_map.mp offered
  simp [sampleSnapshot, sampleJob, ResourceVector.fitsWithin]

/-- Two tenants that have one small job in turn keep nine tenths of each visit. -/
theorem deficits_grow :
    ∃ snapshots : List SchedulingSnapshot,
      (∀ snapshot ∈ snapshots, snapshot.Fits ∧ snapshot.tenants = [sampleTenant "a", sampleTenant "b"]) ∧
        (run snapshots {}).map (fun after => after.deficits "a") = some (27 / 10) := by
  refine ⟨[true, false, true, false, true].map fun first => sampleSnapshot [first], ?_, by decide +kernel⟩
  intro snapshot member
  obtain ⟨first, -, rfl⟩ := mem_map.mp member
  exact ⟨fits_sampleSnapshot _, rfl⟩

theorem deficits_bounded_sample :
    let both := sampleSnapshot [true, false]
    ∃ after, run [both, both] {} = some after ∧ ∀ id, 0 ≤ after.deficits id ∧ after.deficits id < 2 := by
  intro both
  refine deficits_bounded (by simp [both, fits_sampleSnapshot]) ⟨fun _ id active => ?_, fun chosen after chooses => ?_⟩
  · simp [renewed, both, sampleSnapshot, SchedulingSnapshot.order] at active
  have served : (choose both {}).map (fun chosen => (chosen.2.tenantOrder, chosen.2.activeTenant)) =
    some (["a", "b"], some "a") := by decide +kernel
  rw [chooses] at served
  obtain ⟨order, active⟩ := Prod.mk.inj (Option.some.inj served)
  refine ⟨fun _ id same => ?_, fun _ _ _ => trivial⟩
  rw [renewed, if_pos (order ▸ rfl), active] at same
  obtain rfl := Option.some.inj same
  decide

end DeficitRoundRobin
end Nexa.Simulator
