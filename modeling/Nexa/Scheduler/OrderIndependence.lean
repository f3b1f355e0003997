import Mathlib.Data.List.Perm.Basic
import Nexa.Scheduler.Decisions

namespace Nexa

open Outcome Selection List TenantEntry

structure CandidateWindow.Rearranged (left right : CandidateWindow) : Prop where
  normal : left.normal.Perm right.normal
  oldest : left.oldestEligible = right.oldestEligible
  cursor : left.continuationCursor = right.continuationCursor

structure SchedulingSnapshot.Rearranged (left right : SchedulingSnapshot) : Prop where
  version : left.policyVersion = right.policyVersion
  capacity : left.allocatableCapacity = right.allocatableCapacity
  allocations : left.heldAllocations.Perm right.heldAllocations
  ledgers : left.tenantLedgers.Perm right.tenantLedgers
  limits : left.tenantLimits.Perm right.tenantLimits
  windows : ∃ middle, left.candidatesByTenant.Perm middle ∧
    List.Forall₂ (fun entry other => entry.1 = other.1 ∧ entry.2.Rearranged other.2) middle
      right.candidatesByTenant
  reservation : left.activeReservation = right.activeReservation
  floor : left.virtualFloor = right.virtualFloor

namespace CandidateWindow.Rearranged

variable {left right : CandidateWindow}

theorem symm (same : left.Rearranged right) : right.Rearranged left :=
  ⟨same.normal.symm, same.oldest.symm, same.cursor.symm⟩

theorem offered (same : left.Rearranged right) : left.offered.Perm right.offered := by
  rw [CandidateWindow.offered, CandidateWindow.offered, same.oldest]
  exact same.normal.append_right _

theorem wellFormed {tenant : TenantId} (same : left.Rearranged right) (formed : left.WellFormed tenant) :
    right.WellFormed tenant where
  bounded := same.normal.length_eq ▸ formed.bounded
  distinct := (same.normal.map _).nodup_iff.mp formed.distinct
  formed := fun candidate member => formed.formed candidate (same.offered.mem_iff.mpr member)

end CandidateWindow.Rearranged

theorem WindowsValid.find?_candidates {snapshot : SchedulingSnapshot}
    (windows : WindowsValid snapshot.candidatesByTenant) {job : JobId} {candidate : Candidate} :
    (snapshot.candidatesByTenant.flatMap fun entry => entry.2.candidates).find? (fun other =>
        other.jobId = job) = some candidate <->
      candidate ∈ offeredBy snapshot.candidatesByTenant ∧ candidate.jobId = job := by
  have inside : ∀ other, (other ∈ snapshot.candidatesByTenant.flatMap fun entry => entry.2.candidates) <->
      other ∈ offeredBy snapshot.candidatesByTenant := by
    intro other
    simp only [offeredBy, mem_flatMap]
    exact exists_congr fun entry => and_congr_right fun member =>
      CandidateWindow.mem_candidates (windows.agree_window member)
  constructor
  · intro found
    exact ⟨(inside _).mp (mem_of_find?_eq_some found), by simpa using find?_some found⟩
  · rintro ⟨member, rfl⟩
    have listed := (inside candidate).mpr member
    cases found : (snapshot.candidatesByTenant.flatMap fun entry => entry.2.candidates).find?
        fun other => other.jobId = candidate.jobId with
    | none =>
      rw [find?_eq_none] at found
      simpa using found candidate listed
    | some other =>
      have jobs : other.jobId = candidate.jobId := by simpa using find?_some found
      rw [windows.agree other ((inside other).mp (mem_of_find?_eq_some found)) candidate member jobs]

theorem continuationCursors_eq (windows : List (TenantId × CandidateWindow)) :
    continuationCursors windows =
      ((windows.map fun entry => (entry.1, entry.2.continuationCursor)).insertionSort
        fun left right => left.1 ≤ right.1).filterMap fun entry => entry.2.map (entry.1, ·) := by
  rw [continuationCursors, ← map_insertionSort (fun left right => left.1 ≤ right.1) _ _ _
    fun _ _ _ _ => Iff.rfl, filterMap_map]
  rfl

theorem TenantEntry.Acts.unique {snapshot : SchedulingSnapshot} {nowMs : Nat} {entry : TenantEntry}
    {first second : SchedulingDecision} (acts : entry.Acts snapshot nowMs first)
    (formed : entry.window.WellFormed entry.tenantId) (others : entry.Acts snapshot nowMs second) :
    first = second := by
  cases acts with
  | @reserve oldest waiting =>
    cases others with
    | reserve later =>
      rw [Option.some.inj (waiting.is_oldest.symm.trans later.is_oldest)]
    | dispatch patient => exact absurd waiting (patient oldest)
  | @dispatch candidate patient least =>
    cases others with
    | @reserve oldest waiting => exact absurd waiting (patient oldest)
    | dispatch _ other =>
      have same := least.unique other fun left right leftFits rightFits ranks => by
        simp only [Candidate.rank, toLex_inj, Prod.mk.injEq] at ranks
        exact inj_on_of_nodup_map formed.distinct leftFits.normal rightFits.normal ranks.2.2
      rw [same]

theorem liftLedger_congr {some other : List TenantId} (same : ∀ tenant, tenant ∈ some <-> tenant ∈ other)
    (floor : ℚ) (ledger : TenantLedger) : liftLedger floor some ledger = liftLedger floor other ledger := by
  have demand : decide (ledger.tenantId ∈ some) = decide (ledger.tenantId ∈ other) := by simp [same]
  simp only [liftLedger, demand]

namespace SchedulingSnapshot.Rearranged

variable {left right : SchedulingSnapshot} {round : ℚ -> ℚ} {nowMs : Nat}

section

variable (same : left.Rearranged right)

include same

theorem symm : right.Rearranged left where
  version := same.version.symm
  capacity := same.capacity.symm
  allocations := same.allocations.symm
  ledgers := same.ledgers.symm
  limits := same.limits.symm
  windows := by
    obtain ⟨middle, perm, pairs⟩ := same.windows
    have swapped : List.Forall₂ (fun entry other : TenantId × CandidateWindow =>
        entry.1 = other.1 ∧ entry.2.Rearranged other.2) right.candidatesByTenant middle :=
      pairs.flip.imp fun _ _ related => ⟨related.1.symm, related.2.symm⟩
    have composed : Relation.Comp (List.Forall₂ (fun entry other : TenantId × CandidateWindow =>
        entry.1 = other.1 ∧ entry.2.Rearranged other.2)) List.Perm right.candidatesByTenant
          left.candidatesByTenant := ⟨middle, swapped, perm.symm⟩
    rw [List.forall₂_comp_perm_eq_perm_comp_forall₂] at composed
    exact composed
  reservation := same.reservation.symm
  floor := same.floor.symm

theorem held (tenant : TenantId) : left.held tenant = right.held tenant :=
  ResourceCapacity.total_perm ((same.allocations.filter _).map _)

theorem totalHeld : left.totalHeld = right.totalHeld := ResourceCapacity.total_perm (same.allocations.map _)

theorem eligible : left.eligible = right.eligible := by
  funext nowMs limits candidate
  simp only [SchedulingSnapshot.eligible, same.held, same.capacity]

theorem fitsFree : left.fitsFree = right.fitsFree := by
  funext candidate
  simp only [SchedulingSnapshot.fitsFree, same.totalHeld, same.capacity]

theorem valid (valid : left.Valid) : right.Valid where
  version_pos := same.version ▸ valid.version_pos
  floor_nonneg := same.floor ▸ valid.floor_nonneg
  ledgers_nodup := (same.ledgers.map _).nodup_iff.mp valid.ledgers_nodup
  limits_nodup := (same.limits.map _).nodup_iff.mp valid.limits_nodup
  known := fun tenant => by
    rw [← (same.ledgers.map _).mem_iff, ← (same.limits.map _).mem_iff]
    exact valid.known tenant
  scores_nonneg := fun ledger member => valid.scores_nonneg ledger (same.ledgers.mem_iff.mpr member)
  weights_pos := fun limit member => valid.weights_pos limit (same.limits.mem_iff.mpr member)
  concurrency_pos := fun limit member => valid.concurrency_pos limit (same.limits.mem_iff.mpr member)
  held_known := fun allocation member => by
    rw [← (same.ledgers.map _).mem_iff]
    exact valid.held_known allocation (same.allocations.mem_iff.mpr member)
  gpus_counted := fun allocation member =>
    valid.gpus_counted allocation (same.allocations.mem_iff.mpr member)
  gpus_distinct := (same.allocations.flatMap_right _).nodup_iff.mp valid.gpus_distinct
  held_fits := same.totalHeld ▸ same.capacity ▸ valid.held_fits
  quotas_kept := fun limit member =>
    same.held limit.tenantId ▸ valid.quotas_kept limit (same.limits.mem_iff.mpr member)

theorem window {tenant : TenantId} {window : CandidateWindow} (member : (tenant, window) ∈ left.candidatesByTenant) :
    ∃ other, (tenant, other) ∈ right.candidatesByTenant ∧ window.Rearranged other := by
  obtain ⟨middle, perm, pairs⟩ := same.windows
  obtain ⟨⟨otherTenant, other⟩, inside, rfl, rearranged⟩ := exists_partner pairs (perm.mem_iff.mp member)
  exact ⟨other, inside, rearranged⟩

theorem tenants : (left.candidatesByTenant.map (·.1)).Perm (right.candidatesByTenant.map (·.1)) := by
  obtain ⟨middle, perm, pairs⟩ := same.windows
  have equal : middle.map (·.1) = right.candidatesByTenant.map (·.1) := by
    rw [← List.forall₂_eq_eq_eq, List.forall₂_map_left_iff, List.forall₂_map_right_iff]
    exact pairs.imp fun _ _ related => related.1
  exact equal ▸ perm.map _

theorem mem_offeredBy {candidate : Candidate} (member : candidate ∈ offeredBy right.candidatesByTenant) :
    candidate ∈ offeredBy left.candidatesByTenant := by
  obtain ⟨⟨tenant, window⟩, inside, offered⟩ := mem_flatMap.mp member
  obtain ⟨other, otherInside, rearranged⟩ := same.symm.window inside
  exact mem_flatMap.mpr ⟨(tenant, other), otherInside, rearranged.offered.mem_iff.mp offered⟩

theorem windowsValid (valid : WindowsValid left.candidatesByTenant) : WindowsValid right.candidatesByTenant where
  tenants_nodup := same.tenants.nodup_iff.mp valid.tenants_nodup
  formed := by
    rintro ⟨tenant, window⟩ member
    obtain ⟨other, inside, rearranged⟩ := same.symm.window member
    exact rearranged.symm.wellFormed (valid.formed _ inside)
  agree := valid.agree.of_subset fun _ => same.mem_offeredBy

theorem accountable (accountable : left.Accountable nowMs) : right.Accountable nowMs where
  toValid := same.valid accountable.toValid
  past := fun ledger member => accountable.past ledger (same.ledgers.mem_iff.mpr member)
  windows_nodup := same.tenants.nodup_iff.mp accountable.windows_nodup
  windows_known := fun tenant member => by
    rw [← (same.limits.map _).mem_iff]
    exact accountable.windows_known tenant (same.tenants.mem_iff.mpr member)

theorem limit? (valid : left.Valid) (tenant : TenantId) : left.limit? tenant = right.limit? tenant := by
  refine Option.ext fun limits => ?_
  rw [valid.limit?_eq, (same.valid valid).limit?_eq, same.limits.mem_iff]

theorem shareOf : left.shareOf round = right.shareOf round := by
  funext tenant
  simp only [SchedulingSnapshot.shareOf, same.held, same.capacity]

theorem acts {entry other : TenantEntry}
    (limits : entry.limits = other.limits) (tenant : entry.tenantId = other.tenantId)
    (window : entry.window.Rearranged other.window) {decision : SchedulingDecision}
    (acts : entry.Acts left nowMs decision) : other.Acts right nowMs decision := by
  have waiting : ∀ oldest, entry.Waiting left nowMs oldest <-> other.Waiting right nowMs oldest := by
    intro oldest
    constructor <;> rintro ⟨isOldest, passes, waits⟩ <;>
      exact ⟨by simpa [window.oldest] using isOldest, by simpa [limits, same.eligible] using passes, waits⟩
  have fitting : ∀ candidate,
      entry.Dispatchable left nowMs candidate <-> other.Dispatchable right nowMs candidate := by
    intro candidate
    constructor <;> rintro ⟨normal, passes, fits⟩ <;>
      exact ⟨by simpa [window.normal.mem_iff] using normal, by simpa [limits, same.eligible] using passes,
        by simpa [same.fitsFree] using fits⟩
  cases acts with
  | reserve waits => exact tenant ▸ .reserve ((waiting _).mp waits)
  | dispatch patient least =>
    rw [same.version]
    exact .dispatch (fun oldest waits => patient oldest ((waiting oldest).mpr waits))
      (least.congr fitting)

theorem found (windows : WindowsValid left.candidatesByTenant) (job : JobId) :
    (left.candidatesByTenant.flatMap fun entry => entry.2.candidates).find? (fun candidate =>
        candidate.jobId = job) =
      (right.candidatesByTenant.flatMap fun entry => entry.2.candidates).find? fun candidate =>
        candidate.jobId = job := by
  refine Option.ext fun candidate => ?_
  rw [windows.find?_candidates, (same.windowsValid windows).find?_candidates]
  exact and_congr_left fun _ => ⟨same.symm.mem_offeredBy, same.mem_offeredBy⟩

theorem continuationCursors (windows : WindowsValid left.candidatesByTenant) :
    continuationCursors left.candidatesByTenant = continuationCursors right.candidatesByTenant := by
  obtain ⟨middle, perm, pairs⟩ := same.windows
  have equal : middle.map (fun entry => (entry.1, entry.2.continuationCursor)) =
      right.candidatesByTenant.map fun entry => (entry.1, entry.2.continuationCursor) := by
    rw [← List.forall₂_eq_eq_eq, List.forall₂_map_left_iff, List.forall₂_map_right_iff]
    exact pairs.imp fun _ _ related => Prod.ext related.1 related.2.cursor
  have cursors : (left.candidatesByTenant.map fun entry => (entry.1, entry.2.continuationCursor)).Perm
      (right.candidatesByTenant.map fun entry => (entry.1, entry.2.continuationCursor)) :=
    equal ▸ perm.map _
  rw [continuationCursors_eq, continuationCursors_eq]
  refine congrArg _ (sorted_eq_of_perm (fun _ _ => Iff.rfl) cursors ?_)
  have distinct : ((left.candidatesByTenant.map fun entry =>
      (entry.1, entry.2.continuationCursor)).map (·.1)).Nodup := by
    rw [map_map]
    exact windows.tenants_nodup
  intro first firstMember second secondMember tenants
  exact inj_on_of_nodup_map distinct firstMember secondMember tenants

theorem usable {entry other : TenantEntry}
    (limits : entry.limits = other.limits) (window : entry.window.Rearranged other.window) :
    entry.Usable left nowMs -> other.Usable right nowMs := by
  rintro (⟨oldest, isOldest, passes, waits⟩ | ⟨candidate, normal, passes, fits⟩)
  · exact .inl ⟨oldest, window.oldest ▸ isOldest, limits ▸ same.eligible ▸ passes, waits⟩
  · exact .inr ⟨candidate, window.normal.mem_iff.mp normal, limits ▸ same.eligible ▸ passes, same.fitsFree ▸ fits⟩

section

variable (valid : left.Valid) (windows : WindowsValid left.candidatesByTenant)

include valid windows

theorem demand {tenant : TenantId}
    (eligible : tenant ∈ left.eligibleTenants nowMs) : tenant ∈ right.eligibleTenants nowMs := by
  simp only [eligibleTenants, mem_map, mem_filter, Option.any_eq_true, any_eq_true,
    Prod.exists, exists_and_right, exists_eq_right] at *
  obtain ⟨window, member, limits, limited, candidate, offered, passes⟩ := eligible
  obtain ⟨other, otherMember, rearranged⟩ := same.window member
  rw [CandidateWindow.mem_candidates (windows.agree_window member)] at offered
  refine ⟨other, otherMember, limits, same.limit? valid tenant ▸ limited, candidate, ?_, ?_⟩
  · rw [CandidateWindow.mem_candidates ((same.windowsValid windows).agree_window otherMember)]
    exact rearranged.offered.mem_iff.mp offered
  · exact same.eligible ▸ passes

theorem settled :
    left.settled round nowMs = right.settled round nowMs := by
  have demands : ∀ tenant, tenant ∈ left.eligibleTenants nowMs <-> tenant ∈ right.eligibleTenants nowMs :=
    fun tenant => ⟨same.demand valid windows, same.symm.demand (same.valid valid) (same.windowsValid windows)⟩
  funext ledger
  have charges : left.charged round nowMs ledger = right.charged round nowMs ledger := by
    simp only [charged, same.shareOf, weightOf, same.limit? valid]
  simp only [SchedulingSnapshot.settled, charges, same.floor]
  exact liftLedger_congr demands _ _

theorem accounted_ledgers :
    (left.accounted round nowMs).tenantLedgers = (right.accounted round nowMs).tenantLedgers := by
  simp only [accounted, settledLedgers, same.settled valid windows]
  refine sorted_eq_of_perm (fun _ _ => Iff.rfl) (same.ledgers.map _) ?_
  have distinct : ((left.tenantLedgers.map (right.settled round nowMs)).map (·.tenantId)).Nodup := by
    rw [map_map]
    exact valid.ledgers_nodup
  intro first firstMember second secondMember tenants
  exact inj_on_of_nodup_map distinct firstMember secondMember tenants

theorem contends {entry : TenantEntry}
    (contends : entry.Contends round left (left.accounted round nowMs) nowMs) :
    ∃ other : TenantEntry, other.Contends round right (right.accounted round nowMs) nowMs ∧
      other.rank = entry.rank ∧ entry.limits = other.limits ∧ entry.tenantId = other.tenantId ∧
      entry.window.Rearranged other.window := by
  obtain ⟨window, member, rearranged⟩ := same.window contends.windowed
  refine ⟨{ entry with window }, ⟨member, ?_, ?_, ?_, ?_, ?_⟩, rfl, rfl, rfl, rearranged⟩
  · exact ⟨same.limits.mem_iff.mp contends.limited.1, contends.limited.2⟩
  · rw [← same.accounted_ledgers valid windows]
    exact contends.scored
  · have shared := contends.shared
    simp only [accounted, same.shareOf] at shared
    exact shared
  · obtain ⟨candidate, offered, passes, ready⟩ := contends.demand
    exact ⟨candidate, rearranged.offered.mem_iff.mp offered, same.eligible ▸ passes, ready⟩
  · intro candidate offered passes
    exact contends.first candidate (rearranged.offered.mem_iff.mpr offered) (same.eligible ▸ passes)

theorem decideReservation (reservation : ReservationSnapshot) :
    decideReservation left nowMs reservation = decideReservation right nowMs reservation := by
  simp only [Nexa.decideReservation, same.version, same.found windows, same.limit? valid, same.capacity,
    same.held, same.fitsFree]

theorem runs {entry : TenantEntry}
    (runs : entry.Runs round left nowMs) :
    ∃ other : TenantEntry, other.Runs round right nowMs ∧ other.rank = entry.rank ∧
      entry.limits = other.limits ∧ entry.tenantId = other.tenantId ∧
      entry.window.Rearranged other.window := by
  obtain ⟨other, contends, ranks, limits, tenants, window⟩ := same.contends valid windows runs.1
  exact ⟨other, ⟨contends, same.usable limits window runs.2⟩, ranks, limits, tenants, window⟩

end

section

variable (accountable : left.Accountable nowMs) (windows : WindowsValid left.candidatesByTenant)

include accountable windows

theorem isEmpty (empty : (tenantHeap round right (right.accounted round nowMs) nowMs).isEmpty) :
    (tenantHeap round left (left.accounted round nowMs) nowMs).isEmpty := by
  rw [List.isEmpty_iff, eq_nil_iff_forall_not_mem] at *
  intro entry member
  obtain ⟨other, contends, _⟩ := same.contends accountable.toValid windows
    ((accountable.mem_tenantHeap windows).mp member)
  exact empty other
    (((same.accountable accountable).mem_tenantHeap (same.windowsValid windows)).mpr contends)

theorem least {entry other : TenantEntry}
    (first : Least rank (Runs round left nowMs) entry)
    (second : Least rank (Runs round right nowMs) other) :
    entry.limits = other.limits ∧ entry.tenantId = other.tenantId ∧
      entry.window.Rearranged other.window := by
  have valid := accountable.toValid
  have rightWindows := same.windowsValid windows
  obtain ⟨image, imageRuns, imageRank, limits, tenants, window⟩ := same.runs valid windows first.member
  obtain ⟨source, sourceRuns, sourceRank, _⟩ := same.symm.runs (same.valid valid) rightWindows second.member
  have ranks : image.rank = other.rank := by
    refine le_antisymm ?_ (second.le image imageRuns)
    rw [imageRank, ← sourceRank]
    exact first.le source sourceRuns
  have distinct := (right.accounted_tenants round nowMs).nodup_iff.mpr
    (same.valid valid).ledgers_nodup
  simp only [rank, toLex_inj, Prod.mk.injEq] at ranks
  obtain rfl := imageRuns.1.unique (same.valid valid) rightWindows distinct second.member.1 ranks.2.2.2
  exact ⟨limits, tenants, window⟩

theorem chosen :
    left.chosen round nowMs = right.chosen round nowMs := by
  have valid := accountable.toValid
  have rightWindows := same.windowsValid windows
  have rightAccountable := same.accountable accountable
  cases reservation : left.activeReservation with
  | some active =>
    have rightReservation : right.activeReservation = some active := same.reservation ▸ reservation
    simp only [SchedulingSnapshot.chosen, reservation, rightReservation]
    exact same.decideReservation valid windows active
  | none =>
    have rightReservation : right.activeReservation = none := same.reservation ▸ reservation
    obtain ⟨entry, first, acts⟩ | ⟨idle, reason, none, reasonEq⟩ :=
        chosen_cases round accountable windows reservation <;>
      obtain ⟨other, second, otherActs⟩ | ⟨otherIdle, otherReason, otherNone, otherEq⟩ :=
        chosen_cases round rightAccountable rightWindows rightReservation
    · obtain ⟨limits, tenants, window⟩ := same.least accountable windows first second
      exact (same.acts limits tenants window acts).unique
        (rightWindows.formed _ second.member.1.windowed) otherActs
    · obtain ⟨image, runs, _⟩ := same.runs valid windows first.member
      exact absurd runs (otherIdle image)
    · obtain ⟨image, runs, _⟩ := same.symm.runs rightAccountable.toValid rightWindows second.member
      exact absurd runs (idle image)
    · have empty : (tenantHeap round left (left.accounted round nowMs) nowMs).isEmpty =
          (tenantHeap round right (right.accounted round nowMs) nowMs).isEmpty :=
        Bool.eq_iff_iff.mpr ⟨same.symm.isEmpty rightAccountable rightWindows, same.isEmpty accountable windows⟩
      rw [none, otherNone, reasonEq, otherEq, empty, same.continuationCursors windows]

end

theorem decidePolicy {decision : SchedulingDecision} (decided : decidePolicy round left nowMs = .ok decision) :
    decidePolicy round right nowMs = .ok decision := by
  obtain ⟨windows, accountable, rfl⟩ := decidePolicy_eq_ok.mp decided
  exact decidePolicy_eq_ok.mpr ⟨same.windowsValid windows, same.accountable accountable,
    (same.chosen accountable windows).symm⟩

end

end SchedulingSnapshot.Rearranged

/-- Two readings of one snapshot get the same decision or an error both. -/
theorem decide_order_independent (round : ℚ -> ℚ) (left right : SchedulingSnapshot) (nowMs : Nat)
    (same : left.Rearranged right) (decision : SchedulingDecision) :
    decidePolicy round left nowMs = .ok decision <-> decidePolicy round right nowMs = .ok decision :=
  ⟨same.decidePolicy, same.symm.decidePolicy⟩

def crowdedSnapshot : SchedulingSnapshot :=
  { sampleSnapshot with
    tenantLedgers := [⟨1, 0, 0, false⟩, ⟨2, 1, 0, false⟩]
    tenantLimits := [⟨1, 2, ⟨8, 8, 2⟩, 4, 4, true⟩, ⟨2, 1, ⟨8, 8, 2⟩, 4, 4, true⟩]
    candidatesByTenant := [(1, ⟨[sampleCandidate], none, none⟩), (2, ⟨[], none, some "0:3:7"⟩)] }

theorem decide_order_independent_sample :
    decidePolicy id crowdedSnapshot 1000 = .ok (.dispatch 7 3 1 none) ∧
      decidePolicy id { crowdedSnapshot with
        tenantLedgers := crowdedSnapshot.tenantLedgers.reverse
        tenantLimits := crowdedSnapshot.tenantLimits.reverse
        candidatesByTenant := crowdedSnapshot.candidatesByTenant.reverse } 1000 =
          .ok (.dispatch 7 3 1 none) := by
  have decided : decidePolicy id crowdedSnapshot 1000 = .ok (.dispatch 7 3 1 none) := rfl
  refine ⟨decided, (decide_order_independent id crowdedSnapshot _ 1000 ?_ _).mp decided⟩
  exact {
    version := rfl, capacity := rfl, allocations := .refl _
    ledgers := (reverse_perm _).symm, limits := (reverse_perm _).symm
    windows := ⟨_, (reverse_perm _).symm, List.forall₂_same.mpr fun _ _ => ⟨rfl, .refl _, rfl, rfl⟩⟩
    reservation := rfl, floor := rfl }

end Nexa
