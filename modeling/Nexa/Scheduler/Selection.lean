import Mathlib.Data.Prod.Lex
import Nexa.Scheduler.Validity

/-! The heap and the sort find the contender of least rank that can act, and its candidate of least rank that fits. -/

namespace Nexa

open Outcome Selection List SchedulingSnapshot TenantEntry

variable {round : ℚ -> ℚ} {snapshot : SchedulingSnapshot} {state : AccountingState} {nowMs : Nat}

def TenantEntry.rank (entry : TenantEntry) : ℚ ×ₗ ℚ ×ₗ Nat ×ₗ Nat :=
  toLex (entry.score, toLex (entry.weightedShare, toLex (entry.readySequence, entry.tenantId)))

def Candidate.rank (candidate : Candidate) : ℤ ×ₗ Nat ×ₗ Nat :=
  toLex (-(effectivePriority candidate : ℤ), toLex (candidate.readySequence, candidate.jobId))

theorem TenantEntry.before_iff (left right : TenantEntry) : left.before right = true <-> left.rank ≤ right.rank := by
  simp only [before, rank, Prod.Lex.le_iff', ofLex_toLex, decide_eq_true_eq]
  grind

theorem candidateBefore_iff (left right : Candidate) :
    candidateBefore left right = true <-> left.rank ≤ right.rank := by
  simp only [candidateBefore, Candidate.rank, Prod.Lex.le_iff', ofLex_toLex, decide_eq_true_eq]
  grind

structure TenantEntry.Contends (entry : TenantEntry) (round : ℚ -> ℚ) (snapshot : SchedulingSnapshot)
    (state : AccountingState) (nowMs : Nat) : Prop where
  windowed : (entry.tenantId, entry.window) ∈ snapshot.candidatesByTenant
  limited : entry.limits ∈ snapshot.tenantLimits ∧ entry.limits.tenantId = entry.tenantId
  scored : ∃ ledger ∈ state.tenantLedgers, ledger.tenantId = entry.tenantId ∧ ledger.virtualScore = entry.score
  shared : entry.weightedShare = round (state.dominantShares entry.tenantId / entry.limits.weight)
  demand : ∃ candidate ∈ entry.window.offered,
    snapshot.eligible nowMs entry.limits candidate ∧ candidate.readySequence = entry.readySequence
  first : ∀ candidate ∈ entry.window.offered, snapshot.eligible nowMs entry.limits candidate ->
    entry.readySequence ≤ candidate.readySequence

structure TenantEntry.Waiting (entry : TenantEntry) (snapshot : SchedulingSnapshot) (nowMs : Nat)
    (oldest : Candidate) : Prop where
  is_oldest : entry.window.oldestEligible = some oldest
  eligible : snapshot.eligible nowMs entry.limits oldest
  waits : 120 ≤ oldest.eligibleWaitSeconds

structure TenantEntry.Dispatchable (entry : TenantEntry) (snapshot : SchedulingSnapshot) (nowMs : Nat)
    (candidate : Candidate) : Prop where
  normal : candidate ∈ entry.window.normal
  eligible : snapshot.eligible nowMs entry.limits candidate
  fits : snapshot.fitsFree candidate

def TenantEntry.Usable (entry : TenantEntry) (snapshot : SchedulingSnapshot) (nowMs : Nat) : Prop :=
  (∃ oldest, entry.Waiting snapshot nowMs oldest) ∨ ∃ candidate, entry.Dispatchable snapshot nowMs candidate

inductive TenantEntry.Acts (entry : TenantEntry) (snapshot : SchedulingSnapshot) (nowMs : Nat) :
    SchedulingDecision -> Prop
  | reserve {oldest : Candidate} (waiting : entry.Waiting snapshot nowMs oldest) :
      entry.Acts snapshot nowMs (.createReservation oldest.jobId entry.tenantId .eligibleWaitThreshold)
  | dispatch {candidate : Candidate} (patient : ∀ oldest, ¬entry.Waiting snapshot nowMs oldest)
      (least : Least Candidate.rank (entry.Dispatchable snapshot nowMs) candidate) :
      entry.Acts snapshot nowMs
        (.dispatch candidate.jobId candidate.jobVersion snapshot.policyVersion none)

def SchedulingSnapshot.actFor (snapshot : SchedulingSnapshot) (nowMs : Nat) (entry : TenantEntry) :
    Option SchedulingDecision :=
  decideHeap snapshot nowMs [entry]

theorem decideHeap_eq_findSome? (heap : List TenantEntry) :
    decideHeap snapshot nowMs heap = heap.findSome? (snapshot.actFor nowMs) := by
  induction heap with
  | nil => rfl
  | cons entry rest ih =>
    rw [findSome?_cons, ← ih]
    unfold actFor
    simp only [decideHeap]
    split
    · rfl
    · split <;> rfl

variable {entry : TenantEntry}

theorem waiting_iff (agree : Agree entry.window.offered) {oldest : Candidate} :
    (entry.window.oldestEligible.filter fun oldest =>
      120 ≤ oldest.eligibleWaitSeconds ∧
        (entry.window.candidates.filter (snapshot.eligible nowMs entry.limits)).any fun candidate =>
          candidate.jobId = oldest.jobId) = some oldest <-> entry.Waiting snapshot nowMs oldest := by
  simp only [Option.filter_eq_some_iff, decide_eq_true_eq, any_eq_true, mem_filter,
    CandidateWindow.mem_candidates agree]
  constructor
  · rintro ⟨isOldest, waits, candidate, ⟨offered, eligible⟩, jobs⟩
    have same : candidate = oldest :=
      agree candidate offered oldest (by simp [CandidateWindow.offered, isOldest]) jobs
    exact ⟨isOldest, same ▸ eligible, waits⟩
  · rintro ⟨isOldest, eligible, waits⟩
    exact ⟨isOldest, waits, oldest, ⟨by simp [CandidateWindow.offered, isOldest], eligible⟩, rfl⟩

theorem TenantEntry.dispatchable_iff {candidate : Candidate} :
    candidate ∈ (entry.window.normal.filter fun candidate =>
      snapshot.eligible nowMs entry.limits candidate && snapshot.fitsFree candidate) <->
      entry.Dispatchable snapshot nowMs candidate := by
  simp only [mem_filter, Bool.and_eq_true]
  constructor
  · rintro ⟨normal, eligible, fits⟩
    exact ⟨normal, eligible, fits⟩
  · intro fitting
    exact ⟨fitting.normal, fitting.eligible, fitting.fits⟩

theorem SchedulingSnapshot.acts_of_actFor (agree : Agree entry.window.offered)
    {decision : SchedulingDecision} (acts : snapshot.actFor nowMs entry = some decision) :
    entry.Acts snapshot nowMs decision := by
  simp only [actFor, decideHeap] at acts
  split at acts
  · next oldest waiting =>
      cases acts
      exact .reserve ((waiting_iff agree).mp waiting)
  · next patient =>
      split at acts
      · next candidate rest sorted =>
          cases acts
          refine .dispatch (fun oldest waiting => ?_) ?_
          · exact absurd (patient.symm.trans ((waiting_iff agree).mpr waiting)) (by simp)
          · exact (head_sorted candidateBefore_iff sorted).congr fun _ => dispatchable_iff
      · cases acts

theorem SchedulingSnapshot.actFor_isSome (agree : Agree entry.window.offered) :
    (snapshot.actFor nowMs entry).isSome <-> entry.Usable snapshot nowMs := by
  constructor
  · intro acts
    obtain ⟨decision, some⟩ := Option.isSome_iff_exists.mp acts
    cases snapshot.acts_of_actFor agree some with
    | reserve waiting => exact .inl ⟨_, waiting⟩
    | dispatch _ least => exact .inr ⟨_, least.member⟩
  · intro usable
    simp only [actFor, decideHeap]
    split
    · rfl
    · next patient =>
        split
        · rfl
        · next sorted =>
            rcases usable with ⟨oldest, waiting⟩ | ⟨candidate, fitting⟩
            · exact absurd (patient.symm.trans ((waiting_iff agree).mpr waiting)) (by simp)
            · have member := dispatchable_iff.mpr fitting
              rw [← mem_insertionSort fun left right => candidateBefore left right = true, sorted] at member
              simp at member

theorem min_ready_eq_some {window : CandidateWindow} (agree : Agree window.offered)
    {limits : TenantPolicySnapshot} {ready : Nat} :
    ((window.candidates.filter (snapshot.eligible nowMs limits)).map (·.readySequence)).min? = some ready <->
      (∃ candidate ∈ window.offered, snapshot.eligible nowMs limits candidate ∧ candidate.readySequence = ready) ∧
      ∀ candidate ∈ window.offered, snapshot.eligible nowMs limits candidate ->
        ready ≤ candidate.readySequence := by
  rw [min?_eq_some_iff]
  simp only [mem_map, mem_filter, CandidateWindow.mem_candidates agree, and_assoc]
  refine and_congr_right fun _ => ?_
  constructor
  · intro least candidate offered eligible
    exact least _ ⟨candidate, offered, eligible, rfl⟩
  · rintro least _ ⟨candidate, offered, eligible, rfl⟩
    exact least candidate offered eligible

theorem WindowsValid.agree_window (valid : WindowsValid snapshot.candidatesByTenant)
    {entry : TenantId × CandidateWindow} (member : entry ∈ snapshot.candidatesByTenant) :
    Agree entry.2.offered :=
  valid.agree.of_subset fun _ offered => mem_flatMap.mpr ⟨entry, member, offered⟩

theorem mem_tenantHeap (valid : snapshot.Valid) (windows : WindowsValid snapshot.candidatesByTenant)
    (distinct : (state.tenantLedgers.map (·.tenantId)).Nodup) :
    entry ∈ tenantHeap round snapshot state nowMs <-> entry.Contends round snapshot state nowMs := by
  simp only [tenantHeap, mem_insertionSort, mem_filterMap, Prod.exists, Option.bind_eq_bind,
    Option.bind_eq_some_iff, Option.pure_def, Option.some.injEq, valid.limit?_eq,
    Selection.find?_key distinct]
  constructor
  · rintro ⟨tenant, window, member, limits, limited, ledger, ⟨scored, owner⟩, ready, least, rfl⟩
    rw [min_ready_eq_some (windows.agree_window member)] at least
    exact ⟨member, limited, ⟨ledger, scored, owner, rfl⟩, rfl, least.1, least.2⟩
  · intro contends
    obtain ⟨ledger, scored, owner, score⟩ := contends.scored
    refine ⟨entry.tenantId, entry.window, contends.windowed, entry.limits, contends.limited, ledger,
      ⟨scored, owner⟩, entry.readySequence, ?_, ?_⟩
    · rw [min_ready_eq_some (windows.agree_window contends.windowed)]
      exact ⟨contends.demand, contends.first⟩
    · rw [score, ← contends.shared]

theorem SchedulingSnapshot.accounted_tenants (round : ℚ -> ℚ) (snapshot : SchedulingSnapshot)
    (nowMs : Nat) : ((snapshot.accounted round nowMs).tenantLedgers.map (·.tenantId)).Perm
      (snapshot.tenantLedgers.map (·.tenantId)) := by
  have same : (snapshot.settledLedgers round nowMs).map (·.tenantId) =
      snapshot.tenantLedgers.map (·.tenantId) := by
    simp only [settledLedgers, map_map]
    rfl
  rw [← same]
  exact (perm_insertionSort _ _).map _

theorem SchedulingSnapshot.Accountable.mem_tenantHeap (accountable : snapshot.Accountable nowMs)
    (windows : WindowsValid snapshot.candidatesByTenant) :
    entry ∈ tenantHeap round snapshot (snapshot.accounted round nowMs) nowMs <->
      entry.Contends round snapshot (snapshot.accounted round nowMs) nowMs :=
  Nexa.mem_tenantHeap accountable.toValid windows
    ((snapshot.accounted_tenants round nowMs).nodup_iff.mpr accountable.ledgers_nodup)

def SchedulingSnapshot.chosen (round : ℚ -> ℚ) (snapshot : SchedulingSnapshot) (nowMs : Nat) : SchedulingDecision :=
  match snapshot.activeReservation with
  | some reservation => decideReservation snapshot nowMs reservation
  | none =>
    let heap := tenantHeap round snapshot (snapshot.accounted round nowMs) nowMs
    (decideHeap snapshot nowMs heap).getD (.noDecision
      (if heap.isEmpty then "no_eligible_candidate" else "no_candidate_fits_free_resources")
      (continuationCursors snapshot.candidatesByTenant))

theorem decidePolicy_eq_ok {decision : SchedulingDecision} :
    decidePolicy round snapshot nowMs = .ok decision <->
      WindowsValid snapshot.candidatesByTenant ∧ snapshot.Accountable nowMs ∧
        snapshot.chosen round nowMs = decision := by
  simp only [decidePolicy, bind_eq_ok, validateWindows_eq_ok, advanceAccounting_eq_ok, exists_and_left,
    exists_const, chosen]
  refine and_congr_right fun _ => ?_
  constructor
  · rintro ⟨_, ⟨accountable, rfl⟩, chosen⟩
    refine ⟨accountable, ?_⟩
    cases reservation : snapshot.activeReservation with
    | some active => simpa [reservation, pure_eq_ok] using chosen
    | none =>
      rw [reservation] at chosen
      cases acts : decideHeap snapshot nowMs
          (tenantHeap round snapshot (snapshot.accounted round nowMs) nowMs) with
      | some first => simpa [acts, pure_eq_ok] using chosen
      | none => simpa [acts, pure_eq_ok] using chosen
  · rintro ⟨accountable, rfl⟩
    refine ⟨_, ⟨accountable, rfl⟩, ?_⟩
    cases reservation : snapshot.activeReservation with
    | some active => rfl
    | none =>
      cases acts : decideHeap snapshot nowMs
          (tenantHeap round snapshot (snapshot.accounted round nowMs) nowMs) with
      | some first => simp [pure_eq_ok]
      | none => simp [pure_eq_ok]

def TenantEntry.Runs (round : ℚ -> ℚ) (snapshot : SchedulingSnapshot) (nowMs : Nat) (entry : TenantEntry) : Prop :=
  entry.Contends round snapshot (snapshot.accounted round nowMs) nowMs ∧ entry.Usable snapshot nowMs

theorem chosen_cases (round : ℚ -> ℚ) (accountable : snapshot.Accountable nowMs)
    (windows : WindowsValid snapshot.candidatesByTenant) (unreserved : snapshot.activeReservation = none) :
    (∃ entry, Least rank (Runs round snapshot nowMs) entry ∧
      entry.Acts snapshot nowMs (snapshot.chosen round nowMs)) ∨
    ((∀ entry, ¬Runs round snapshot nowMs entry) ∧
      ∃ reason, snapshot.chosen round nowMs = .noDecision reason (continuationCursors snapshot.candidatesByTenant) ∧
        reason = if (tenantHeap round snapshot (snapshot.accounted round nowMs) nowMs).isEmpty
          then "no_eligible_candidate" else "no_candidate_fits_free_resources") := by
  have agrees : ∀ entry ∈ tenantHeap round snapshot (snapshot.accounted round nowMs) nowMs,
      Agree entry.window.offered := fun entry member =>
    windows.agree_window ((accountable.mem_tenantHeap windows).mp member).windowed
  have family : ∀ entry, (entry ∈ tenantHeap round snapshot (snapshot.accounted round nowMs) nowMs ∧
      (snapshot.actFor nowMs entry).isSome) <-> Runs round snapshot nowMs entry := by
    intro entry
    rw [Runs, ← accountable.mem_tenantHeap windows]
    exact and_congr_right fun member => snapshot.actFor_isSome (agrees entry member)
  simp only [chosen, unreserved]
  cases acts : decideHeap snapshot nowMs
      (tenantHeap round snapshot (snapshot.accounted round nowMs) nowMs) with
  | some decision =>
    left
    have found := acts
    rw [decideHeap_eq_findSome?, tenantHeap] at found
    obtain ⟨entry, least, answer⟩ := findSome?_sorted before_iff found
    have inHeap : ∀ other, (other ∈ tenantHeap round snapshot (snapshot.accounted round nowMs) nowMs ∧
        (snapshot.actFor nowMs other).isSome) <-> _ := fun other => by
      rw [tenantHeap, mem_insertionSort]
    have chosen := (least.congr fun other => (inHeap other).symm).congr family
    refine ⟨entry, chosen, snapshot.acts_of_actFor ?_ answer⟩
    exact windows.agree_window chosen.member.1.windowed
  | none =>
    right
    refine ⟨fun entry runs => ?_, _, rfl, rfl⟩
    obtain ⟨member, answers⟩ := (family entry).mpr runs
    rw [decideHeap_eq_findSome?, findSome?_eq_none_iff] at acts
    simp [acts entry member] at answers

theorem TenantEntry.Contends.unique {left right : TenantEntry}
    (valid : snapshot.Valid) (windows : WindowsValid snapshot.candidatesByTenant)
    (distinct : (state.tenantLedgers.map (·.tenantId)).Nodup)
    (first : left.Contends round snapshot state nowMs) (second : right.Contends round snapshot state nowMs)
    (same : left.tenantId = right.tenantId) : left = right := by
  have window : left.window = right.window := by
    have entries := inj_on_of_nodup_map windows.tenants_nodup first.windowed second.windowed same
    exact (Prod.mk.inj entries).2
  have limits : left.limits = right.limits :=
    inj_on_of_nodup_map valid.limits_nodup first.limited.1 second.limited.1
      (first.limited.2.trans (same.trans second.limited.2.symm))
  have score : left.score = right.score := by
    obtain ⟨ledger, member, owner, score⟩ := first.scored
    obtain ⟨other, otherMember, otherOwner, otherScore⟩ := second.scored
    obtain rfl : ledger = other :=
      inj_on_of_nodup_map distinct member otherMember (owner.trans (same.trans otherOwner.symm))
    exact score.symm.trans otherScore
  have ready : left.readySequence = right.readySequence := by
    obtain ⟨candidate, offered, eligible, ready⟩ := first.demand
    obtain ⟨other, otherOffered, otherEligible, otherReady⟩ := second.demand
    refine le_antisymm (otherReady ▸ first.first other ?_ ?_) (ready ▸ second.first candidate ?_ ?_)
    · rwa [window]
    · rwa [limits]
    · rwa [← window]
    · rwa [← limits]
  have share : left.weightedShare = right.weightedShare := by
    rw [first.shared, second.shared, same, limits]
  cases left
  cases right
  simp_all

end Nexa
