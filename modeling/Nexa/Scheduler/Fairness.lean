import Mathlib.Algebra.Order.BigOperators.Group.List
import Mathlib.Data.List.Chain
import Nexa.Scheduler.Additivity

/-! Between two dispatches of a tenant its score grows at most at the rate it had after the first, and at a dispatch
it is not ahead of any tenant that could have been served. -/

namespace Nexa

open Outcome Selection List

namespace SchedulingSnapshot

def score (snapshot : SchedulingSnapshot) (tenant : TenantId) : ℚ :=
  ((snapshot.tenantLedgers.find? fun ledger => ledger.tenantId = tenant).map (·.virtualScore)).getD 0

def queueing (snapshot : SchedulingSnapshot) (windows : List (TenantId × CandidateWindow)) : SchedulingSnapshot :=
  { snapshot with candidatesByTenant := windows }

def releasing (snapshot : SchedulingSnapshot) (allocation : HeldAllocation) : SchedulingSnapshot :=
  { snapshot with heldAllocations := snapshot.heldAllocations.erase allocation }

end SchedulingSnapshot

/-- The accounting through `nowMs`, then one change, and whom it dispatched. -/
inductive PolicyStep (nowMs : Nat) :
    SchedulingSnapshot -> Option TenantId -> SchedulingSnapshot -> Prop
  | dispatch {before : SchedulingSnapshot} {state : AccountingState} {job : JobId} {version policy : Nat}
      {candidate : Candidate} {allocation : HeldAllocation} {windows : List (TenantId × CandidateWindow)}
      (accounted : advanceAccounting id before nowMs = .ok state)
      (chosen : decidePolicy id (before.writeBack state) nowMs = .ok (.dispatch job version policy none))
      (offered : candidate ∈ offeredBy before.candidatesByTenant) (named : candidate.jobId = job)
      (tenant : allocation.tenantId = candidate.tenantId)
      (resources : allocation.resources = candidate.resources) :
      PolicyStep nowMs before (some candidate.tenantId)
        (((before.writeBack state).holding allocation).queueing windows)
  | release {before : SchedulingSnapshot} {state : AccountingState} {allocation : HeldAllocation}
      {windows : List (TenantId × CandidateWindow)}
      (accounted : advanceAccounting id before nowMs = .ok state)
      (held : allocation ∈ before.heldAllocations) :
      PolicyStep nowMs before none (((before.writeBack state).releasing allocation).queueing windows)
  | enqueue {before : SchedulingSnapshot} {state : AccountingState}
      {windows : List (TenantId × CandidateWindow)}
      (accounted : advanceAccounting id before nowMs = .ok state) :
      PolicyStep nowMs before none ((before.writeBack state).queueing windows)

/-- What stands after the step at its time, and whom the step dispatched. -/
structure Stage where
  nowMs : Nat
  snapshot : SchedulingSnapshot
  dispatched : Option TenantId

/-- Two tenants always have demand, and can be served whenever one is chosen. -/
structure Contested (able : SchedulingSnapshot -> Nat -> TenantId -> Prop) (tenant rival : TenantId)
    (before after : Stage) : Prop where
  ordered : before.nowMs ≤ after.nowMs
  step : PolicyStep after.nowMs before.snapshot after.dispatched after.snapshot
  demands : tenant ∈ before.snapshot.eligibleTenants after.nowMs
  rivalDemands : rival ∈ before.snapshot.eligibleTenants after.nowMs
  usable : after.dispatched.isSome -> able before.snapshot after.nowMs tenant
  rivalUsable : after.dispatched.isSome -> able before.snapshot after.nowMs rival

/-- After an accounting that saw the demand of both, without a reservation. -/
structure Opens (tenant rival : TenantId) (first : Stage) : Prop where
  unreserved : first.snapshot.activeReservation = none
  accounted : ∃ origin state, advanceAccounting id origin first.nowMs = .ok state ∧
    first.snapshot = origin.writeBack state ∧
    tenant ∈ origin.eligibleTenants first.nowMs ∧ rival ∈ origin.eligibleTenants first.nowMs

def Stage.gap (stage : Stage) (tenant rival : TenantId) : ℚ :=
  stage.snapshot.score tenant - stage.snapshot.score rival

def Stage.accrual (stage : Stage) (tenant : TenantId) (last : Stage) : ℚ :=
  stage.snapshot.shareOf id tenant / stage.snapshot.weightOf tenant *
    ((last.nowMs : ℚ) - stage.nowMs) / 1000

/-- The gap is at most what was accrued since the tenant's last dispatch, or since the start. -/
structure GapBounded (tenant rival : TenantId) (first : Stage) (stages : List Stage) : Prop where
  since_dispatch : ∀ earlier mark later, stages = earlier ++ mark :: later ->
    mark.dispatched = some tenant -> (∀ stage ∈ later, stage.dispatched ≠ some tenant) ->
      (stages.getLastD first).gap tenant rival ≤ mark.accrual tenant (stages.getLastD first)
  since_start : (∀ stage ∈ stages, stage.dispatched ≠ some tenant) ->
    (stages.getLastD first).gap tenant rival ≤ first.gap tenant rival + first.accrual tenant (stages.getLastD first)

def NormalFits (snapshot : SchedulingSnapshot) (nowMs : Nat) (tenant : TenantId) : Prop :=
  ∃ window limits candidate, (tenant, window) ∈ snapshot.candidatesByTenant ∧
    limits ∈ snapshot.tenantLimits ∧ limits.tenantId = tenant ∧ candidate ∈ window.normal ∧
    snapshot.eligible nowMs limits candidate ∧ snapshot.fitsFree candidate

/-- An eligible candidate, normal or oldest, fits the free capacity. -/
def OfferFits (snapshot : SchedulingSnapshot) (nowMs : Nat) (tenant : TenantId) : Prop :=
  ∃ window limits candidate, (tenant, window) ∈ snapshot.candidatesByTenant ∧
    limits ∈ snapshot.tenantLimits ∧ limits.tenantId = tenant ∧ candidate ∈ window.offered ∧
    snapshot.eligible nowMs limits candidate ∧ snapshot.fitsFree candidate

/-- Its accounting stands at its time and its ledger notes the tenant's demand. -/
def Stage.Steady (stage : Stage) (tenant : TenantId) : Prop :=
  ∃ ledger ∈ stage.snapshot.tenantLedgers, ledger.tenantId = tenant ∧
    ledger.accountedThroughMs = stage.nowMs ∧ ledger.hadEligibleDemand = true

namespace SchedulingSnapshot

variable {snapshot : SchedulingSnapshot} {nowMs : Nat} {tenant : TenantId}

theorem score_of_mem (distinct : (snapshot.tenantLedgers.map (·.tenantId)).Nodup) {ledger : TenantLedger}
    (member : ledger ∈ snapshot.tenantLedgers) :
    snapshot.score ledger.tenantId = ledger.virtualScore := by
  have found := (find?_key distinct).mpr ⟨member, rfl⟩
  simp only [score, found, Option.map_some, Option.getD_some]

theorem Accountable.exists_ledger (accountable : snapshot.Accountable nowMs)
    (demand : tenant ∈ snapshot.eligibleTenants nowMs) :
    ∃ ledger ∈ snapshot.tenantLedgers, ledger.tenantId = tenant := by
  simp only [eligibleTenants, mem_map, mem_filter] at demand
  obtain ⟨entry, ⟨member, _⟩, rfl⟩ := demand
  have known := accountable.windows_known _ (mem_map_of_mem member)
  simpa using (accountable.known _).mpr known

theorem Accountable.settled_steady (accountable : snapshot.Accountable nowMs)
    (demand : tenant ∈ snapshot.eligibleTenants nowMs) :
    ∃ ledger ∈ (snapshot.accounted id nowMs).tenantLedgers, ledger.tenantId = tenant ∧
      ledger.accountedThroughMs = nowMs ∧ ledger.hadEligibleDemand = true := by
  obtain ⟨ledger, member, rfl⟩ := accountable.exists_ledger demand
  refine ⟨snapshot.settled id nowMs ledger, mem_accounted.mpr ⟨ledger, member, rfl⟩, rfl, rfl, ?_⟩
  rw [settled_flag]
  exact decide_eq_true demand

theorem Accountable.score_writeBack (accountable : snapshot.Accountable nowMs) {start : Nat}
    (demand : tenant ∈ snapshot.eligibleTenants nowMs)
    (steady : ∃ ledger ∈ snapshot.tenantLedgers, ledger.tenantId = tenant ∧
      ledger.accountedThroughMs = start ∧ ledger.hadEligibleDemand = true) :
    (snapshot.writeBack (snapshot.accounted id nowMs)).score tenant =
      snapshot.score tenant + snapshot.rate tenant * ((nowMs : ℚ) - start) := by
  obtain ⟨ledger, member, rfl, rfl, noted⟩ := steady
  have flagged : snapshot.Flagged nowMs ledger := iff_of_true noted demand
  have settled : snapshot.settled id nowMs ledger ∈ (snapshot.accounted id nowMs).tenantLedgers :=
    mem_accounted.mpr ⟨ledger, member, rfl⟩
  have later : (snapshot.writeBack (snapshot.accounted id nowMs)).score ledger.tenantId =
      (snapshot.settled id nowMs ledger).virtualScore :=
    score_of_mem (accountable.writeBack (le_refl nowMs)).ledgers_nodup settled
  rw [later, score_of_mem accountable.ledgers_nodup member, settled_of_flagged flagged,
    accountable.charged_score, Nat.cast_sub (accountable.past ledger member)]

end SchedulingSnapshot

theorem ResourceCapacity.total_sublist {few many : List Resources} (sublist : few.Sublist many) :
    (total few).Fits (total many) := by
  have sums : ∀ amount : Resources -> Nat, (few.map amount).sum ≤ (many.map amount).sum := fun amount =>
    (sublist.map amount).sum_le_sum fun _ _ => Nat.zero_le _
  rw [total_eq, total_eq]
  exact ⟨sums _, sums _, sums _⟩

theorem dominantShare_mono {less more : ResourceCapacity} (fits : less.Fits more)
    (capacity : ResourceCapacity) : dominantShare id less capacity ≤ dominantShare id more capacity := by
  have folds : ∀ (axes : List Axis) (low high : ℚ), low ≤ high ->
      (axes.map fun axis => id ((less.get axis : ℚ) / capacity.get axis)).foldl max low ≤
        (axes.map fun axis => id ((more.get axis : ℚ) / capacity.get axis)).foldl max high := by
    intro axes
    induction axes with
    | nil => exact fun _ _ le => le
    | cons axis rest ih =>
      intro low high le
      refine ih _ _ (max_le_max le ?_)
      have amount : less.get axis ≤ more.get axis := by
        obtain ⟨cpu, memory, gpu⟩ := fits
        cases axis <;> assumption
      have amounts : (less.get axis : ℚ) ≤ more.get axis := by exact_mod_cast amount
      exact div_le_div_of_nonneg_right amounts (by positivity)
  exact folds _ 0 0 (le_refl 0)

structure StepFacts (nowMs : Nat) (before : SchedulingSnapshot) (dispatched : Option TenantId)
    (after : SchedulingSnapshot) : Prop where
  accountable : before.Accountable nowMs
  ledgers : after.tenantLedgers = (before.accounted id nowMs).tenantLedgers
  limits : after.tenantLimits = before.tenantLimits
  capacity : after.allocatableCapacity = before.allocatableCapacity
  reservation : after.activeReservation = before.activeReservation
  held : ∀ tenant, dispatched ≠ some tenant -> (after.held tenant).Fits (before.held tenant)

variable {before : SchedulingSnapshot}

theorem PolicyStep.facts {nowMs : Nat} {after : SchedulingSnapshot} {dispatched : Option TenantId}
    (step : PolicyStep nowMs before dispatched after) : StepFacts nowMs before dispatched after := by
  have refl : ∀ amount : ResourceCapacity, amount.Fits amount := fun amount =>
    ⟨le_refl _, le_refl _, le_refl _⟩
  cases step with
  | @dispatch _ _ _ _ candidate allocation windows accounted chosen offered named owner resources =>
    obtain ⟨accountable, rfl⟩ := advanceAccounting_eq_ok.mp accounted
    refine ⟨accountable, rfl, rfl, rfl, rfl, fun tenant other => ?_⟩
    have foreign : allocation.tenantId ≠ tenant := by
      rw [owner]
      exact fun same => other (congrArg some same)
    have held := (before.writeBack (before.accounted id nowMs)).held_holding allocation tenant
    rw [if_neg foreign] at held
    exact held ▸ refl _
  | release accounted member =>
    obtain ⟨accountable, rfl⟩ := advanceAccounting_eq_ok.mp accounted
    refine ⟨accountable, rfl, rfl, rfl, rfl, fun tenant _ => ?_⟩
    exact ResourceCapacity.total_sublist ((erase_sublist.filter _).map _)
  | enqueue accounted =>
    obtain ⟨accountable, rfl⟩ := advanceAccounting_eq_ok.mp accounted
    exact ⟨accountable, rfl, rfl, rfl, rfl, fun tenant _ => refl _⟩

namespace StepFacts

variable {nowMs : Nat} {before after : SchedulingSnapshot} {dispatched : Option TenantId} {tenant : TenantId}

theorem score (facts : StepFacts nowMs before dispatched after) (tenant : TenantId) :
    after.score tenant = (before.writeBack (before.accounted id nowMs)).score tenant := by
  simp only [SchedulingSnapshot.score, facts.ledgers, SchedulingSnapshot.writeBack]

theorem weightOf (facts : StepFacts nowMs before dispatched after) (tenant : TenantId) :
    after.weightOf tenant = before.weightOf tenant := by
  simp only [SchedulingSnapshot.weightOf, SchedulingSnapshot.limit?, facts.limits]

theorem rate_le (facts : StepFacts nowMs before dispatched after) (other : dispatched ≠ some tenant) :
    after.rate tenant ≤ before.rate tenant := by
  have weight := facts.accountable.weightOf_pos tenant
  have share : after.shareOf id tenant ≤ before.shareOf id tenant := by
    simp only [SchedulingSnapshot.shareOf, facts.capacity]
    exact dominantShare_mono (facts.held tenant other) _
  simp only [SchedulingSnapshot.rate, facts.weightOf]
  gcongr

end StepFacts

variable {first : Stage} {stages : List Stage}

section

variable {able : SchedulingSnapshot -> Nat -> TenantId -> Prop} {tenant rival : TenantId}

theorem Stage.Steady.step {before after : Stage} {tenant : TenantId} (steady : before.Steady tenant)
    (facts : StepFacts after.nowMs before.snapshot after.dispatched after.snapshot)
    (demand : tenant ∈ before.snapshot.eligibleTenants after.nowMs) :
    after.Steady tenant ∧ after.snapshot.score tenant = before.snapshot.score tenant +
      before.snapshot.rate tenant * ((after.nowMs : ℚ) - before.nowMs) := by
  constructor
  · obtain ⟨ledger, member, settled⟩ := facts.accountable.settled_steady demand
    exact ⟨ledger, facts.ledgers ▸ member, settled⟩
  · rw [facts.score]
    exact facts.accountable.score_writeBack demand steady

section

variable (run : (first :: stages).IsChain (Contested able tenant rival))

include run

theorem nowMs_le_last : first.nowMs ≤ (stages.getLastD first).nowMs := by
  induction stages generalizing first with
  | nil => exact le_refl _
  | cons next rest ih =>
    rw [isChain_cons_cons] at run
    rw [getLastD_cons]
    exact run.1.ordered.trans (ih run.2)

theorem score_le_accrual
    (steady : first.Steady tenant)
    (idle : ∀ stage ∈ stages, stage.dispatched ≠ some tenant) :
    (stages.getLastD first).snapshot.score tenant ≤ first.snapshot.score tenant +
      first.snapshot.rate tenant * (((stages.getLastD first).nowMs : ℚ) - first.nowMs) := by
  induction stages generalizing first with
  | nil => simp
  | cons next rest ih =>
    rw [isChain_cons_cons] at run
    rw [getLastD_cons]
    obtain ⟨turn, run⟩ := run
    obtain ⟨nextSteady, score⟩ := steady.step turn.step.facts turn.demands
    have later := ih run nextSteady fun stage member => idle stage (by simp [member])
    have slower := turn.step.facts.rate_le (idle next (by simp))
    have passed : (0 : ℚ) ≤ ((rest.getLastD next).nowMs : ℚ) - next.nowMs := by
      rw [sub_nonneg]
      exact_mod_cast nowMs_le_last run
    -- the rest of the run stays below a line that is no steeper than the first one
    calc (rest.getLastD next).snapshot.score tenant
        ≤ next.snapshot.score tenant +
            next.snapshot.rate tenant * (((rest.getLastD next).nowMs : ℚ) - next.nowMs) := later
      _ ≤ next.snapshot.score tenant +
            first.snapshot.rate tenant * (((rest.getLastD next).nowMs : ℚ) - next.nowMs) := by
          gcongr
      _ = first.snapshot.score tenant +
            first.snapshot.rate tenant * (((rest.getLastD next).nowMs : ℚ) - first.nowMs) := by
          rw [score]
          ring

theorem rival_score_le
    (steady : first.Steady rival) :
    first.snapshot.score rival ≤ (stages.getLastD first).snapshot.score rival := by
  induction stages generalizing first with
  | nil => exact le_refl _
  | cons next rest ih =>
    rw [isChain_cons_cons] at run
    rw [getLastD_cons]
    obtain ⟨turn, run⟩ := run
    obtain ⟨nextSteady, score⟩ := steady.step turn.step.facts turn.rivalDemands
    have rate := turn.step.facts.accountable.rate_nonneg rival
    have passed : (0 : ℚ) ≤ (next.nowMs : ℚ) - first.nowMs := by
      rw [sub_nonneg]
      exact_mod_cast turn.ordered
    have gain := mul_nonneg rate passed
    have grows : first.snapshot.score rival ≤ next.snapshot.score rival := by linarith
    exact grows.trans (ih run nextSteady)

theorem gap_le_accrual
    (steady : first.Steady tenant)
    (rivalSteady : first.Steady rival) (idle : ∀ stage ∈ stages, stage.dispatched ≠ some tenant) :
    (stages.getLastD first).gap tenant rival ≤
      first.gap tenant rival + first.accrual tenant (stages.getLastD first) := by
  have own := score_le_accrual run steady idle
  have other := rival_score_le run rivalSteady
  have line : first.accrual tenant (stages.getLastD first) = first.snapshot.rate tenant *
      (((stages.getLastD first).nowMs : ℚ) - first.nowMs) := by
    simp only [Stage.accrual, SchedulingSnapshot.rate]
    ring
  simp only [Stage.gap, line]
  linarith

end

end

theorem exists_contender (round : ℚ -> ℚ) {snapshot : SchedulingSnapshot} {nowMs : Nat}
    (accountable : snapshot.Accountable nowMs) (windows : WindowsValid snapshot.candidatesByTenant)
    {tenant : TenantId} {window : CandidateWindow} {limits : TenantPolicySnapshot} {candidate : Candidate}
    (member : (tenant, window) ∈ snapshot.candidatesByTenant)
    (limited : limits ∈ snapshot.tenantLimits) (owner : limits.tenantId = tenant)
    (offered : candidate ∈ window.offered) (eligible : snapshot.eligible nowMs limits candidate) :
    ∃ entry : TenantEntry, entry.Contends round snapshot (snapshot.accounted round nowMs) nowMs ∧
      entry.tenantId = tenant ∧ entry.window = window ∧ entry.limits = limits := by
  have known : tenant ∈ (snapshot.accounted round nowMs).tenantLedgers.map (·.tenantId) := by
    rw [(snapshot.accounted_tenants round nowMs).mem_iff, accountable.known, ← owner]
    exact mem_map_of_mem limited
  obtain ⟨ledger, scored, ledgerOwner⟩ := mem_map.mp known
  have agree := windows.agree_window member
  cases ready : ((window.candidates.filter (snapshot.eligible nowMs limits)).map
      (·.readySequence)).min? with
  | none =>
    rw [min?_eq_none_iff, map_eq_nil_iff, filter_eq_nil_iff] at ready
    exact absurd eligible (ready candidate ((CandidateWindow.mem_candidates agree).mpr offered))
  | some first =>
    rw [min_ready_eq_some agree] at ready
    let share := round ((snapshot.accounted round nowMs).dominantShares tenant / limits.weight)
    exact ⟨⟨ledger.virtualScore, share, first, tenant, limits, window⟩,
      ⟨member, ⟨limited, owner⟩, ⟨ledger, scored, ledgerOwner, rfl⟩, rfl, ready.1, ready.2⟩, rfl, rfl, rfl⟩

theorem contender_score {nowMs : Nat} (accountable : before.Accountable nowMs) {entry : TenantEntry}
    (contends : entry.Contends id (before.writeBack (before.accounted id nowMs))
      ((before.writeBack (before.accounted id nowMs)).accounted id nowMs) nowMs)
    (demand : entry.tenantId ∈ before.eligibleTenants nowMs) :
    entry.score = (before.writeBack (before.accounted id nowMs)).score entry.tenantId := by
  have again := accountable.writeBack (le_refl nowMs)
  obtain ⟨ledger, member, owner, score⟩ := contends.scored
  have twice := again.score_writeBack demand
    (accountable.settled_steady demand)
  rw [sub_self, mul_zero, add_zero] at twice
  rw [← twice, ← score, ← owner]
  exact (SchedulingSnapshot.score_of_mem (again.writeBack (le_refl nowMs)).ledgers_nodup member).symm

theorem dispatch_not_ahead {nowMs : Nat} {after : SchedulingSnapshot} {tenant rival : TenantId}
    (step : PolicyStep nowMs before (some tenant) after) (unreserved : before.activeReservation = none)
    (demands : tenant ∈ before.eligibleTenants nowMs) (rivalDemands : rival ∈ before.eligibleTenants nowMs)
    (rivalFits : NormalFits before nowMs rival) : after.score tenant ≤ after.score rival := by
  have accountable := step.facts.accountable
  have again := accountable.writeBack (le_refl nowMs)
  obtain ⟨window, limits, offer, member, limited, owner, normal, eligible, fits⟩ := rivalFits
  rw [step.facts.score, step.facts.score]
  generalize served : some tenant = whom at step
  cases step with
  | release => cases served
  | enqueue => cases served
  | @dispatch _ _ _ _ candidate allocation _ accounted chosen offered named =>
    obtain ⟨_, rfl⟩ := advanceAccounting_eq_ok.mp accounted
    obtain ⟨windows, _, choice⟩ := decidePolicy_eq_ok.mp chosen
    obtain ⟨entry, least, acts⟩ | ⟨_, _, none, _⟩ := chosen_cases id again windows unreserved
    · rw [choice] at acts
      cases acts with
      | @dispatch best _ first =>
        have inside : best ∈ entry.window.offered := by
          simp [CandidateWindow.offered, first.member.normal]
        have same : candidate = best :=
          windows.agree candidate offered best
            (mem_flatMap.mpr ⟨_, least.member.1.windowed, inside⟩) named
        have tenantEq : entry.tenantId = tenant := by
          rw [Option.some.inj served, same]
          exact ((windows.formed _ least.member.1.windowed).formed best inside).tenant_eq.symm
        obtain ⟨other, contends, rfl, otherWindow, otherLimits⟩ :=
          exists_contender id again windows member limited owner
            (by simp [CandidateWindow.offered, normal]) eligible
        have usable : other.Usable (before.writeBack (before.accounted id nowMs)) nowMs :=
          .inr ⟨offer, otherWindow ▸ normal, otherLimits ▸ eligible, fits⟩
        have ranks := least.le other ⟨contends, usable⟩
        have scores : entry.score ≤ other.score := by
          simp only [TenantEntry.rank, Prod.Lex.le_iff', ofLex_toLex] at ranks
          exact ranks.1
        rw [contender_score accountable least.member.1 (tenantEq ▸ demands),
          contender_score accountable contends rivalDemands, tenantEq] at scores
        exact scores
    · rw [choice] at none
      cases none

structure Stage.Sound (stage : Stage) (tenant rival : TenantId) : Prop where
  steady : stage.Steady tenant
  rivalSteady : stage.Steady rival
  unreserved : stage.snapshot.activeReservation = none

section

variable {able : SchedulingSnapshot -> Nat -> TenantId -> Prop} {tenant rival : TenantId}

theorem Opens.sound (opens : Opens tenant rival first) : first.Sound tenant rival := by
  obtain ⟨origin, state, accounted, start, demands, rivalDemands⟩ := opens.accounted
  obtain ⟨accountable, rfl⟩ := advanceAccounting_eq_ok.mp accounted
  refine ⟨?_, ?_, opens.unreserved⟩
  · rw [Stage.Steady, start]
    exact accountable.settled_steady demands
  · rw [Stage.Steady, start]
    exact accountable.settled_steady rivalDemands

theorem Stage.Sound.step {before after : Stage} (sound : before.Sound tenant rival)
    (turn : Contested able tenant rival before after) : after.Sound tenant rival where
  steady := (sound.steady.step turn.step.facts turn.demands).1
  rivalSteady := (sound.rivalSteady.step turn.step.facts turn.rivalDemands).1
  unreserved := turn.step.facts.reservation.trans sound.unreserved

theorem exists_previous {mark : Stage} {earlier : List Stage}
    (run : (first :: (earlier ++ [mark])).IsChain (Contested able tenant rival))
    (sound : first.Sound tenant rival) :
    ∃ previous : Stage, previous.Sound tenant rival ∧ Contested able tenant rival previous mark := by
  induction earlier generalizing first with
  | nil => exact ⟨first, sound, (isChain_cons_cons.mp run).1⟩
  | cons next rest ih =>
    rw [cons_append, isChain_cons_cons] at run
    exact ih run.2 (sound.step run.1)

theorem getLastD_split (first mark : Stage) (earlier later : List Stage) :
    (earlier ++ mark :: later).getLastD first = later.getLastD mark := by
  induction earlier generalizing first with
  | nil => exact getLastD_cons ..
  | cons next rest ih => rw [cons_append, getLastD_cons, ih]

end

/-- While both have demand and a normal candidate that fits, neither runs away. -/
theorem gap_bounded (tenant rival : TenantId) (first : Stage) (stages : List Stage) (opens : Opens tenant rival first)
    (run : (first :: stages).IsChain (Contested NormalFits tenant rival)) :
    GapBounded tenant rival first stages where
  since_dispatch := by
    rintro earlier mark later rfl dispatched idle
    rw [isChain_cons_split] at run
    obtain ⟨previous, sound, turn⟩ := exists_previous run.1 opens.sound
    have marked := sound.step turn
    have level : mark.gap tenant rival ≤ 0 := sub_nonpos.mpr (dispatch_not_ahead (dispatched ▸ turn.step)
      sound.unreserved turn.demands turn.rivalDemands (turn.rivalUsable (by simp [dispatched])))
    have bound := gap_le_accrual run.2 marked.steady marked.rivalSteady idle
    rw [getLastD_split]
    linarith
  since_start := by
    intro idle
    exact gap_le_accrual run opens.sound.steady opens.sound.rivalSteady idle

def contestedJob (job tenant cores : Nat) (size : 0 < cores) : Candidate where
  jobId := job
  tenantId := tenant
  userId := tenant
  jobVersion := 1
  readySequence := job
  resources := ⟨cores, cores, 0, size, size, noGpu_le⟩
  basePriority := 1
  eligibleWaitSeconds := 60
  retryReadyAtMs := 0
  templateVersion := 1
  tenantActiveAttempts := 0
  userActiveAttempts := 0

def contestedSnapshot (score : ℚ) (window : CandidateWindow) : SchedulingSnapshot where
  policyVersion := 1
  allocatableCapacity := ⟨8, 8, 0⟩
  heldAllocations := [⟨1, 1, ⟨4, 4, 0, Nat.succ_pos 3, Nat.succ_pos 3, noGpu_le⟩, [], .held⟩]
  tenantLedgers := [⟨1, score, 0, true⟩, ⟨2, 1, 0, true⟩]
  tenantLimits := [⟨1, 1, ⟨8, 8, 0⟩, 4, 4, true⟩, ⟨2, 1, ⟨8, 8, 0⟩, 4, 4, true⟩]
  candidatesByTenant := [(1, ⟨[contestedJob 10 1 2 Nat.two_pos], none, none⟩), (2, window)]
  activeReservation := none
  virtualFloor := 0

def contestedStart (score : ℚ) (window : CandidateWindow) : Stage where
  nowMs := 0
  snapshot := (contestedSnapshot score window).writeBack ((contestedSnapshot score window).accounted id 0)
  dispatched := none

def contestedNext (score : ℚ) (window : CandidateWindow) : Stage where
  nowMs := 1000
  snapshot :=
    ((((contestedStart score window).snapshot.writeBack
      ((contestedStart score window).snapshot.accounted id 1000)).holding
        ⟨2, 1, ⟨2, 2, 0, Nat.two_pos, Nat.two_pos, noGpu_le⟩, [], .held⟩).queueing
      [(1, ⟨[], none, none⟩), (2, window)])
  dispatched := some 1

theorem contested_step {score : ℚ} {window : CandidateWindow}
    (accounted : advanceAccounting id (contestedSnapshot score window) 0 =
      .ok ((contestedSnapshot score window).accounted id 0))
    (chosen : decidePolicy id ((contestedStart score window).snapshot.writeBack
      ((contestedStart score window).snapshot.accounted id 1000)) 1000 = .ok (.dispatch 10 1 1 none)) :
    PolicyStep 1000 (contestedStart score window).snapshot (some 1) (contestedNext score window).snapshot := by
  have again : (contestedStart score window).snapshot.Accountable 1000 :=
    (advanceAccounting_eq_ok.mp accounted).1.writeBack (by decide)
  have offered : contestedJob 10 1 2 Nat.two_pos ∈
      offeredBy (contestedStart score window).snapshot.candidatesByTenant := mem_cons_self
  exact .dispatch (advanceAccounting_eq_ok.mpr ⟨again, rfl⟩) chosen offered rfl rfl rfl

theorem gap_bounded_sample :
    let window : CandidateWindow := ⟨[contestedJob 21 2 2 Nat.two_pos], none, none⟩
    Opens 1 2 (contestedStart 0 window) ∧ GapBounded 1 2 (contestedStart 0 window) [contestedNext 0 window] := by
  intro window
  have opens : Opens 1 2 (contestedStart 0 window) :=
    ⟨rfl, contestedSnapshot 0 window, _, rfl, rfl, by decide +kernel, by decide +kernel⟩
  have turn : Contested NormalFits 1 2 (contestedStart 0 window) (contestedNext 0 window) := by
    refine ⟨by decide, contested_step rfl (by decide +kernel), by decide +kernel, by decide +kernel,
      fun _ => ?_, fun _ => ?_⟩
    · exact ⟨⟨[contestedJob 10 1 2 Nat.two_pos], none, none⟩, ⟨1, 1, ⟨8, 8, 0⟩, 4, 4, true⟩,
        contestedJob 10 1 2 Nat.two_pos, by decide +kernel⟩
    · exact ⟨window, ⟨2, 1, ⟨8, 8, 0⟩, 4, 4, true⟩, contestedJob 21 2 2 Nat.two_pos, by decide +kernel⟩
  exact ⟨opens, gap_bounded 1 2 _ _ opens (by simpa using turn)⟩

/-- The normal job is too large, the oldest is small and not in the normal window. -/
def paginatedWindow : CandidateWindow :=
  ⟨[contestedJob 20 2 6 (Nat.succ_pos 5)], some (contestedJob 21 2 2 Nat.two_pos), none⟩

/-- The tenant that is far ahead is dispatched while the oldest job of its rival, not in the normal window,
would fit. -/
theorem oldest_overlooked :
    ¬∀ (tenant rival : TenantId) (first : Stage) (stages : List Stage), Opens tenant rival first ->
      (first :: stages).IsChain (Contested OfferFits tenant rival) ->
        GapBounded tenant rival first stages := by
  intro bounded
  have opens : Opens 1 2 (contestedStart 5 paginatedWindow) :=
    ⟨rfl, contestedSnapshot 5 paginatedWindow, _, rfl, rfl, by decide +kernel, by decide +kernel⟩
  have turn : Contested OfferFits 1 2 (contestedStart 5 paginatedWindow)
      (contestedNext 5 paginatedWindow) := by
    refine ⟨by decide, contested_step rfl (by decide +kernel), by decide +kernel, by decide +kernel,
      fun _ => ?_, fun _ => ?_⟩
    · exact ⟨⟨[contestedJob 10 1 2 Nat.two_pos], none, none⟩, ⟨1, 1, ⟨8, 8, 0⟩, 4, 4, true⟩,
        contestedJob 10 1 2 Nat.two_pos, by decide +kernel⟩
    · exact ⟨paginatedWindow, ⟨2, 1, ⟨8, 8, 0⟩, 4, 4, true⟩, contestedJob 21 2 2 Nat.two_pos,
        by decide +kernel⟩
  have claimed := (bounded 1 2 _ [contestedNext 5 paginatedWindow] opens (by simpa using turn)).since_dispatch
    [] _ [] rfl rfl (by simp)
  exact absurd claimed (by decide +kernel)

end Nexa
