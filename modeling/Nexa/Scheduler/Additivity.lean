import Mathlib.Algebra.Order.Field.Basic
import Mathlib.Tactic.FieldSimp
import Mathlib.Tactic.Linarith
import Mathlib.Tactic.Positivity
import Mathlib.Tactic.Ring
import Nexa.Scheduler.Decisions

namespace Nexa

open Outcome Selection List

theorem dominantShare_nonneg (round : ℚ -> ℚ) (resources capacity : ResourceCapacity) :
    0 ≤ dominantShare round resources capacity := by
  have grows : ∀ (shares : List ℚ) (start : ℚ), start ≤ shares.foldl max start := by
    intro shares
    induction shares with
    | nil => simp
    | cons share rest ih =>
      intro start
      exact (le_max_left start share).trans (ih (max start share))
  exact grows _ 0

theorem minimumScore_eq_some {ledgers : List TenantLedger} {score : ℚ} :
    minimumScore ledgers = some score <->
      (∃ ledger ∈ ledgers, ledger.hadEligibleDemand ∧ ledger.virtualScore = score) ∧
        ∀ ledger ∈ ledgers, ledger.hadEligibleDemand -> score ≤ ledger.virtualScore := by
  rw [minimumScore, min?_eq_some_iff]
  simp only [mem_map, mem_filter, and_assoc]
  refine and_congr_right fun _ => ?_
  constructor
  · intro least ledger member demands
    exact least _ ⟨ledger, member, demands, rfl⟩
  · rintro least _ ⟨ledger, member, demands, rfl⟩
    exact least ledger member demands

theorem minimumScore_eq_none {ledgers : List TenantLedger} :
    minimumScore ledgers = none <-> ∀ ledger ∈ ledgers, ¬ledger.hadEligibleDemand := by
  rw [minimumScore, min?_eq_none_iff, map_eq_nil_iff, filter_eq_nil_iff]

theorem minimumScore_perm {left right : List TenantLedger} (perm : left.Perm right) :
    minimumScore left = minimumScore right := by
  refine Option.ext fun score => ?_
  simp only [minimumScore_eq_some, perm.mem_iff]

variable {later : Nat} {ledger : TenantLedger}

namespace SchedulingSnapshot

variable {snapshot : SchedulingSnapshot} {nowMs : Nat}

theorem Valid.weightOf_pos (valid : snapshot.Valid) (tenant : TenantId) : 0 < snapshot.weightOf tenant := by
  rw [weightOf]
  cases found : snapshot.limit? tenant with
  | none => norm_num
  | some limits => exact valid.weights_pos limits (valid.limit?_eq.mp found).1

def rate (snapshot : SchedulingSnapshot) (tenant : TenantId) : ℚ :=
  snapshot.shareOf id tenant / snapshot.weightOf tenant / 1000

theorem Valid.rate_nonneg (valid : snapshot.Valid) (tenant : TenantId) : 0 ≤ snapshot.rate tenant := by
  have share : 0 ≤ snapshot.shareOf id tenant := dominantShare_nonneg _ _ _
  have weight := valid.weightOf_pos tenant
  rw [rate]
  positivity

theorem Valid.charged_score (valid : snapshot.Valid) (nowMs : Nat) (ledger : TenantLedger) :
    (snapshot.charged id nowMs ledger).virtualScore = ledger.virtualScore +
      snapshot.rate ledger.tenantId * ((nowMs - ledger.accountedThroughMs : Nat) : ℚ) := by
  have weight := (valid.weightOf_pos ledger.tenantId).ne'
  simp only [charged, chargeOf, rate, id]
  field_simp

def Flagged (snapshot : SchedulingSnapshot) (nowMs : Nat) (ledger : TenantLedger) : Prop :=
  ledger.hadEligibleDemand = true <-> ledger.tenantId ∈ snapshot.eligibleTenants nowMs

theorem settled_of_flagged {round : ℚ -> ℚ} (flagged : snapshot.Flagged nowMs ledger) :
    snapshot.settled round nowMs ledger = snapshot.charged round nowMs ledger := by
  have demand : decide (ledger.tenantId ∈ snapshot.eligibleTenants nowMs) = ledger.hadEligibleDemand := by
    rw [Bool.eq_iff_iff, decide_eq_true_iff]
    exact flagged.symm
  simp only [settled, liftLedger]
  have charge : (snapshot.charged round nowMs ledger).tenantId = ledger.tenantId := rfl
  have flag : (snapshot.charged round nowMs ledger).hadEligibleDemand = ledger.hadEligibleDemand := rfl
  rw [charge, demand, flag]
  cases known : ledger.hadEligibleDemand <;> simp [← known, charged]

def writeBack (snapshot : SchedulingSnapshot) (state : AccountingState) : SchedulingSnapshot :=
  { snapshot with tenantLedgers := state.tenantLedgers, virtualFloor := state.virtualFloor }

theorem mem_accounted {round : ℚ -> ℚ} :
    ledger ∈ (snapshot.accounted round nowMs).tenantLedgers <->
      ∃ old ∈ snapshot.tenantLedgers, snapshot.settled round nowMs old = ledger := by
  simp [accounted, settledLedgers]

theorem Accountable.settled_score_ge (accountable : snapshot.Accountable nowMs) (ledger : TenantLedger) :
    ledger.virtualScore ≤ (snapshot.settled id nowMs ledger).virtualScore := by
  have charge := accountable.charged_score nowMs ledger
  have rate := accountable.rate_nonneg ledger.tenantId
  have gain : 0 ≤ snapshot.rate ledger.tenantId * ((nowMs - ledger.accountedThroughMs : Nat) : ℚ) := by
    positivity
  have charged : ledger.virtualScore ≤ (snapshot.charged id nowMs ledger).virtualScore := by
    linarith
  simp only [settled, liftLedger]
  split_ifs
  · exact charged.trans (le_max_left _ _)
  · exact charged

theorem accounted_floor (round : ℚ -> ℚ) (snapshot : SchedulingSnapshot) (nowMs : Nat) :
    (snapshot.accounted round nowMs).virtualFloor =
      (minimumScore (snapshot.settledLedgers round nowMs)).elim snapshot.virtualFloor
        (max snapshot.virtualFloor) := rfl

theorem floor_le_accounted (round : ℚ -> ℚ) (snapshot : SchedulingSnapshot) (nowMs : Nat) :
    snapshot.virtualFloor ≤ (snapshot.accounted round nowMs).virtualFloor := by
  rw [accounted_floor]
  cases minimumScore (snapshot.settledLedgers round nowMs) with
  | none => exact le_refl _
  | some score => exact le_max_left _ _

theorem Accountable.writeBack (accountable : snapshot.Accountable nowMs) (ordered : nowMs ≤ later) :
    (snapshot.writeBack (snapshot.accounted id nowMs)).Accountable later where
  version_pos := accountable.version_pos
  floor_nonneg := accountable.floor_nonneg.trans (floor_le_accounted id snapshot nowMs)
  ledgers_nodup := (snapshot.accounted_tenants id nowMs).nodup_iff.mpr accountable.ledgers_nodup
  limits_nodup := accountable.limits_nodup
  known := fun tenant => by
    refine Iff.trans ?_ (accountable.known tenant)
    exact (snapshot.accounted_tenants id nowMs).mem_iff
  scores_nonneg := by
    intro ledger member
    obtain ⟨old, oldMember, rfl⟩ := mem_accounted.mp member
    exact (accountable.scores_nonneg old oldMember).trans (accountable.settled_score_ge old)
  weights_pos := accountable.weights_pos
  concurrency_pos := accountable.concurrency_pos
  held_known := fun allocation member => by
    refine (snapshot.accounted_tenants id nowMs).mem_iff.mpr ?_
    exact accountable.held_known allocation member
  gpus_counted := accountable.gpus_counted
  gpus_distinct := accountable.gpus_distinct
  held_fits := accountable.held_fits
  quotas_kept := accountable.quotas_kept
  past := by
    intro ledger member
    obtain ⟨old, _, rfl⟩ := mem_accounted.mp member
    exact ordered
  windows_nodup := accountable.windows_nodup
  windows_known := accountable.windows_known

theorem Valid.charged_charged (valid : snapshot.Valid)
    (past : ledger.accountedThroughMs ≤ nowMs) (ordered : nowMs ≤ later) :
    snapshot.charged id later (snapshot.charged id nowMs ledger) = snapshot.charged id later ledger := by
  have elapsed : ((later - ledger.accountedThroughMs : Nat) : ℚ) =
      ((nowMs - ledger.accountedThroughMs : Nat) : ℚ) + ((later - nowMs : Nat) : ℚ) := by
    rw [← Nat.cast_add]
    congr 1
    omega
  have scores : (snapshot.charged id later (snapshot.charged id nowMs ledger)).virtualScore =
      (snapshot.charged id later ledger).virtualScore := by
    rw [valid.charged_score, valid.charged_score, valid.charged_score, elapsed]
    change _ + snapshot.rate ledger.tenantId * ((later - nowMs : Nat) : ℚ) = _
    ring
  simpa [charged] using scores

theorem settled_flag {round : ℚ -> ℚ} (ledger : TenantLedger) :
    (snapshot.settled round nowMs ledger).hadEligibleDemand =
      decide (ledger.tenantId ∈ snapshot.eligibleTenants nowMs) := rfl

section

variable (accountable : snapshot.Accountable nowMs) (ordered : nowMs ≤ later)
  (demand : ∀ tenant, tenant ∈ snapshot.eligibleTenants nowMs <-> tenant ∈ snapshot.eligibleTenants later)

include accountable ordered demand

theorem Accountable.settled_settled (member : ledger ∈ snapshot.tenantLedgers)
    (flagged : snapshot.Flagged nowMs ledger) :
    (snapshot.writeBack (snapshot.accounted id nowMs)).settled id later
      (snapshot.settled id nowMs ledger) = snapshot.settled id later ledger := by
  have laterFlagged : snapshot.Flagged later ledger := flagged.trans (demand ledger.tenantId)
  have settledFlagged : (snapshot.writeBack (snapshot.accounted id nowMs)).Flagged later
      (snapshot.settled id nowMs ledger) := by
    rw [Flagged, settled_flag, decide_eq_true_iff]
    exact demand ledger.tenantId
  rw [settled_of_flagged settledFlagged, settled_of_flagged flagged, settled_of_flagged laterFlagged]
  exact accountable.charged_charged (accountable.past ledger member) ordered

variable (flagged : ∀ ledger ∈ snapshot.tenantLedgers, snapshot.Flagged nowMs ledger)

include flagged

theorem Accountable.settledLedgers_perm :
    ((snapshot.writeBack (snapshot.accounted id nowMs)).settledLedgers id later).Perm
      (snapshot.settledLedgers id later) := by
  have staged : (snapshot.settledLedgers id nowMs).map
      ((snapshot.writeBack (snapshot.accounted id nowMs)).settled id later) =
        snapshot.settledLedgers id later := by
    simp only [settledLedgers, map_map]
    exact map_congr_left fun ledger member =>
      accountable.settled_settled ordered demand member (flagged ledger member)
  rw [← staged]
  exact (perm_insertionSort _ _).map _

theorem Accountable.floor_settled :
    ((snapshot.writeBack (snapshot.accounted id nowMs)).accounted id later).virtualFloor =
      (snapshot.accounted id later).virtualFloor := by
  have floor : (snapshot.writeBack (snapshot.accounted id nowMs)).virtualFloor =
      (snapshot.accounted id nowMs).virtualFloor := rfl
  rw [accounted_floor, accounted_floor, floor, accounted_floor,
    minimumScore_perm (accountable.settledLedgers_perm ordered demand flagged)]
  cases last : minimumScore (snapshot.settledLedgers id later) with
  | none =>
    have first : minimumScore (snapshot.settledLedgers id nowMs) = none := by
      rw [minimumScore_eq_none] at *
      simp only [settledLedgers, forall_mem_map, settled_flag, decide_eq_true_iff] at *
      exact fun ledger member => mt (demand ledger.tenantId).mp (last ledger member)
    simp [first]
  | some score =>
    obtain ⟨⟨_, lastMember, demands, rfl⟩, _⟩ := minimumScore_eq_some.mp last
    obtain ⟨ledger, member, rfl⟩ := mem_map.mp lastMember
    rw [settled_flag, decide_eq_true_iff, ← demand ledger.tenantId] at demands
    cases first : minimumScore (snapshot.settledLedgers id nowMs) with
    | none =>
      rw [minimumScore_eq_none] at first
      refine absurd ?_ (first _ (mem_map_of_mem member))
      rw [settled_flag]
      exact decide_eq_true demands
    | some least =>
      have below := (minimumScore_eq_some.mp first).2 _ (mem_map_of_mem member)
        (by rw [settled_flag]; exact decide_eq_true demands)
      have grows : (snapshot.settled id nowMs ledger).virtualScore ≤
          (snapshot.settled id later ledger).virtualScore := by
        rw [← accountable.settled_settled ordered demand member (flagged ledger member)]
        exact (accountable.writeBack ordered).settled_score_ge _
      simp only [Option.elim_some]
      rw [max_assoc, max_eq_right (below.trans grows)]

theorem Accountable.ledgers_settled :
    ((snapshot.writeBack (snapshot.accounted id nowMs)).accounted id later).tenantLedgers =
      (snapshot.accounted id later).tenantLedgers := by
  have perm := accountable.settledLedgers_perm ordered demand flagged
  have distinct : ((snapshot.settledLedgers id later).map (·.tenantId)).Nodup := by
    rw [settledLedgers, map_map]
    exact accountable.ledgers_nodup
  refine sorted_eq_of_perm (fun _ _ => Iff.rfl) perm ?_
  intro first firstMember second secondMember tenants
  exact inj_on_of_nodup_map distinct (perm.mem_iff.mp firstMember) (perm.mem_iff.mp secondMember)
    tenants

end

end SchedulingSnapshot

/-- While the demand stays what the flags say, advancing in two parts is advancing once. -/
theorem accounting_additive (snapshot : SchedulingSnapshot) (middle last : Nat)
    (valid : validateAndAggregate snapshot = .ok ())
    (windows : checkWindows (snapshot.tenantLimits.map (·.tenantId)) []
      (snapshot.candidatesByTenant.map (·.1)) = .ok ())
    (past : ∀ ledger ∈ snapshot.tenantLedgers, ledger.accountedThroughMs ≤ middle)
    (ordered : middle ≤ last)
    (demand : ∀ tenant, tenant ∈ snapshot.eligibleTenants middle <-> tenant ∈ snapshot.eligibleTenants last)
    (flagged : ∀ ledger ∈ snapshot.tenantLedgers,
      ledger.hadEligibleDemand = true <-> ledger.tenantId ∈ snapshot.eligibleTenants middle) :
    ∃ first second once, advanceAccounting id snapshot middle = .ok first ∧
      advanceAccounting id (snapshot.writeBack first) last = .ok second ∧
      advanceAccounting id snapshot last = .ok once ∧
      second.tenantLedgers = once.tenantLedgers ∧ second.virtualFloor = once.virtualFloor := by
  have known := checkWindows_eq_ok.mp windows
  have accountable : snapshot.Accountable middle :=
    { toValid := validateAndAggregate_eq_ok.mp valid, past
      windows_nodup := known.1, windows_known := known.2.2 }
  have accountableLast : snapshot.Accountable last :=
    { accountable with past := fun ledger member => (past ledger member).trans ordered }
  exact ⟨_, _, _, advanceAccounting_eq_ok.mpr ⟨accountable, rfl⟩,
    advanceAccounting_eq_ok.mpr ⟨accountable.writeBack ordered, rfl⟩,
    advanceAccounting_eq_ok.mpr ⟨accountableLast, rfl⟩,
    accountable.ledgers_settled ordered demand flagged, accountable.floor_settled ordered demand flagged⟩

def flaggedSnapshot : SchedulingSnapshot := { sampleSnapshot with tenantLedgers := [⟨1, 0, 0, true⟩] }

theorem accounting_additive_sample :
    ∃ first second once, advanceAccounting id flaggedSnapshot 400 = .ok first ∧
      advanceAccounting id (flaggedSnapshot.writeBack first) 1000 = .ok second ∧
      advanceAccounting id flaggedSnapshot 1000 = .ok once ∧
      second.tenantLedgers = once.tenantLedgers ∧ second.virtualFloor = once.virtualFloor := by
  have demand : ∀ nowMs, flaggedSnapshot.eligibleTenants nowMs = [1] := fun _ => rfl
  refine accounting_additive flaggedSnapshot 400 1000 rfl rfl (by decide) (by decide) ?_ ?_
  · simp [demand]
  · simp only [demand]
    decide

end Nexa
