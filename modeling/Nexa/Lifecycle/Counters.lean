import Mathlib.Algebra.Order.BigOperators.Group.List
import Mathlib.Algebra.Order.Ring.Nat
import Nexa.Application.Control
import Nexa.Lifecycle.Effects

namespace Nexa

open Relational Outcome List Tables

abbrev CounterChanges := Patch nexaSchema .admissionCounters

theorem counterPatch_keeps (patch : CounterChanges) (row : AdmissionCounter) :
    (patch.apply row).scope = row.scope := by
  have keys := patch.keys_apply row
  simp only [keysOf, List.cons.injEq, Key.mk.injEq] at keys
  exact Scope.columns_injective keys.1.2

variable {row : AdmissionCounter}

section

variable {before after : Tables nexaSchema} {scope : Scope}

theorem countersAt_update (condition : AdmissionCounter -> Bool) (patch : CounterChanges)
    (scope : Scope) :
    countersAt (before.update .admissionCounters condition patch.apply) scope =
      updateWhere condition patch.apply (countersAt before scope) := by
  unfold countersAt
  rw [update_same, filter_updateWhere]
  intro row _ _
  rw [counterPatch_keeps]

section

variable (only : countersAt before scope = [row])

include only

theorem scope_of_countersAt : row.scope = scope := by
  have member : row ∈ countersAt before scope := by simp [only]
  simp only [countersAt, mem_filter, decide_eq_true_eq] at member
  exact member.2

theorem outstandingOf_eq : outstandingOf before scope = row.outstanding := by
  simp [outstandingOf, only]

theorem activeOf_eq : activeOf before scope = row.activeAttempts := by
  simp [activeOf, only]

theorem versionOf_eq : versionOf before scope = row.version := by
  simp [versionOf, only]

end

theorem amounts_congr (same : countersAt after scope = countersAt before scope) :
    outstandingOf after scope = outstandingOf before scope ∧
      activeOf after scope = activeOf before scope ∧ versionOf after scope = versionOf before scope := by
  simp [outstandingOf, activeOf, versionOf, same]

theorem countersAt_update_other {target : Scope} (patch : CounterChanges)
    (different : scope ≠ target) :
    countersAt (before.update .admissionCounters (fun row => row.scope = target) patch.apply) scope =
      countersAt before scope := by
  rw [countersAt_update, updateWhere_eq_self]
  intro row member
  simp only [countersAt, mem_filter, decide_eq_true_eq] at member
  simp [member.2, different]

theorem countersAt_update_same (patch : CounterChanges)
    (only : countersAt before scope = [row]) :
    countersAt (before.update .admissionCounters (fun row => row.scope = scope) patch.apply) scope =
      [patch.apply row] := by
  rw [countersAt_update, only]
  simp [scope_of_countersAt only]

end

variable {counters : List AdmissionCounter} {scope : Scope} {rows before : Tables nexaSchema}
    {old new : Nat × Nat}

section

variable {db after : Db} {scopes : List Scope} {now : Time}

def CountersOf (rows : Tables nexaSchema) : List Scope -> List AdmissionCounter -> Prop :=
  List.Forall₂ fun scope row => countersAt rows scope = [row]

theorem CountersOf.congr {after : Tables nexaSchema} (matched : CountersOf before scopes counters)
    (same : after .admissionCounters = before .admissionCounters) : CountersOf after scopes counters := by
  unfold CountersOf countersAt at matched ⊢
  rw [same]
  exact matched

theorem lockCounters_eq
    (locked : lockCounters db scopes = .ok counters) : CountersOf db.rows scopes counters := by
  induction scopes generalizing counters with
  | nil =>
    simp only [lockCounters, mapM_nil, pure_eq_ok] at locked
    exact locked ▸ .nil
  | cons scope rest ih =>
    simp only [lockCounters, mapM_cons, bind_eq_ok, pure_eq_ok] at locked
    obtain ⟨row, ⟨found, selected, chosen⟩, others, remaining, rfl⟩ := locked
    refine .cons ?_ (ih remaining)
    cases found with
    | none => simp at chosen
    | some counter =>
      simp only [pure_eq_ok] at chosen
      subst chosen
      exact oneOrNone_eq_some.1 selected

theorem CountersOf.update (matched : CountersOf rows scopes counters) (outside : scope ∉ scopes)
    (patch : CounterChanges) :
    CountersOf (rows.update .admissionCounters (fun row => row.scope = scope) patch.apply) scopes
      counters := by
  induction matched with
  | nil => exact .nil
  | cons only _ ih =>
    simp only [mem_cons, not_or] at outside
    refine .cons ?_ (ih outside.2)
    rw [countersAt_update_other patch (Ne.symm outside.1)]
    exact only

theorem Charged.update (only : countersAt rows scope = [row]) (patch : CounterChanges)
    (outstanding : (patch.apply row).outstanding + old.1 = row.outstanding + new.1)
    (active : (patch.apply row).activeAttempts + old.2 = row.activeAttempts + new.2)
    (version : row.version ≤ (patch.apply row).version) :
    Charged rows (rows.update .admissionCounters (fun row => row.scope = scope) patch.apply) [scope]
      old new := by
  intro other
  by_cases same : other = scope
  · subst other
    have updated := countersAt_update_same patch only
    rw [outstandingOf_eq updated, outstandingOf_eq only, activeOf_eq updated, activeOf_eq only,
      versionOf_eq updated, versionOf_eq only]
    simpa using ⟨outstanding, active, version⟩
  · have kept : countersAt (rows.update .admissionCounters (fun row => row.scope = scope) patch.apply) other =
        countersAt rows other := countersAt_update_other patch same
    simp [amounts_congr kept, same]

theorem Charged.cons {first next last : Tables nexaSchema}
    (head : Charged first next [scope] old new) (tail : Charged next last scopes old new)
    (outside : scope ∉ scopes) : Charged first last (scope :: scopes) old new := by
  intro other
  obtain ⟨headOutstanding, headActive, headVersion⟩ := head other
  obtain ⟨tailOutstanding, tailActive, tailVersion⟩ := tail other
  by_cases same : other = scope
  · subst other
    simp only [mem_cons, not_mem_nil, outside, or_false, if_true, if_false] at *
    omega
  · by_cases inside : other ∈ scopes <;>
      simp only [mem_cons, not_mem_nil, same, inside, or_false, or_true, if_true, if_false] at * <;>
      omega

theorem adjustCounters_charged {outstanding active : Nat}
    (adjusted : adjustCounters db counters now outstanding active = .ok after)
    (matched : CountersOf db.rows scopes counters) (nodup : scopes.Nodup) :
    Charged db.rows after.rows scopes (outstanding, active) (0, 0) ∧
      Frame [.admissionCounters] db.rows after.rows := by
  induction counters generalizing db scopes with
  | nil =>
    cases matched
    simp only [adjustCounters, foldlM_nil, pure_eq_ok] at adjusted
    subst adjusted
    exact ⟨by intro scope; simp, .refl _ _⟩
  | cons row rest ih =>
    cases matched with
    | cons only matched =>
      rw [nodup_cons] at nodup
      simp only [adjustCounters, foldlM_cons, bind_eq_ok, require_eq_ok, pure_eq_ok, exists_const] at adjusted
      obtain ⟨_, ⟨covered, rfl⟩, adjusted⟩ := adjusted
      obtain rfl := scope_of_countersAt only
      obtain ⟨charged, frame⟩ := ih adjusted (CountersOf.update matched nodup.1 _) nodup.2
      refine ⟨.cons (.update only _ ?_ ?_ (Nat.le_succ _)) charged nodup.1,
        (Frame.update _ _ _ (by simp)).trans frame⟩
      · simp only [counterPatch]
        omega
      · simp only [counterPatch]
        omega

theorem takeActive_charged (nodup : scopes.Nodup) (taken : takeActive db scopes now = .ok after) :
    Charged db.rows after.rows scopes (0, 0) (0, 1) ∧
      Frame [.admissionCounters] db.rows after.rows := by
  induction scopes generalizing db with
  | nil =>
    simp only [takeActive, foldlM_nil, pure_eq_ok] at taken
    subst taken
    exact ⟨by intro scope; simp, .refl _ _⟩
  | cons scope rest ih =>
    rw [nodup_cons] at nodup
    simp only [takeActive, foldlM_cons, bind_eq_ok, require_eq_ok, pure_eq_ok, exists_const] at taken
    obtain ⟨_, ⟨single, rfl⟩, taken⟩ := taken
    obtain ⟨row, only⟩ := length_eq_one_iff.1 single
    obtain ⟨charged, frame⟩ := ih nodup.2 taken
    exact ⟨.cons (.update only (activePatch now) rfl rfl (Nat.le_succ _)) charged nodup.1,
      (Frame.update _ _ _ (by simp)).trans frame⟩

theorem versionOf_update (condition : AdmissionCounter -> Bool) (patch : CounterChanges)
    (grows : ∀ row ∈ rows .admissionCounters, condition row = true -> row.version ≤ (patch.apply row).version)
    (scope : Scope) :
    versionOf rows scope ≤ versionOf (rows.update .admissionCounters condition patch.apply) scope := by
  rw [versionOf, versionOf, countersAt_update, updateWhere, map_map]
  refine sum_le_sum fun row member => ?_
  by_cases selected : condition row
  · simpa [selected] using grows row (mem_filter.1 member).1 selected
  · simp [selected]

theorem Charged.of_kept (condition : AdmissionCounter -> Bool) (patch : CounterChanges)
    (outstanding : ∀ row, (patch.apply row).outstanding = row.outstanding)
    (active : ∀ row, (patch.apply row).activeAttempts = row.activeAttempts)
    (grows : ∀ row ∈ rows .admissionCounters, condition row = true -> row.version ≤ (patch.apply row).version)
    (load : Nat × Nat) :
    Charged rows (rows.update .admissionCounters condition patch.apply) scopes load load := by
  intro scope
  refine ⟨?_, ?_, versionOf_update condition patch grows scope⟩
  · rw [outstandingOf, outstandingOf, countersAt_update, map_updateWhere _ outstanding]
  · rw [activeOf, activeOf, countersAt_update, map_updateWhere _ active]

theorem counterLock_spec {counter : AdmissionCounter} (locked : counterLock db scope now = .ok (after, counter)) :
    countersAt after.rows scope = [counter] ∧ Frame [.admissionCounters] db.rows after.rows ∧
      (∀ other, other ≠ scope -> countersAt after.rows other = countersAt db.rows other) ∧
      Charged db.rows after.rows scopes (0, 0) (0, 0) := by
  simp only [counterLock, bind_eq_ok, one_eq_ok, pure_eq_ok, Prod.mk.injEq] at locked
  obtain ⟨_, only, rfl, rfl⟩ := locked
  refine ⟨only, ?_⟩
  cases inserted : db.insert .admissionCounters
      { scope, outstanding := 0, activeAttempts := 0, version := 1, updatedAt := now } with
  | none => exact ⟨.refl _ _, fun _ _ => rfl, .steady rfl _ _⟩
  | some fresh =>
    have rows := (Database.insert_eq_some.1 inserted).2
    rw [Option.getD_some, rows]
    refine ⟨.append _ _ (by simp), ?_, ?_⟩
    · intro other different
      simp [countersAt, Ne.symm different]
    · intro other
      by_cases same : scope = other <;> simp [outstandingOf, activeOf, versionOf, countersAt, same]

theorem CountersOf.of_mem (matched : CountersOf rows scopes counters) (member : scope ∈ scopes) :
    ∃ row ∈ counters, countersAt rows scope = [row] := by
  induction matched with
  | nil => simp at member
  | cons only _ ih =>
    rcases mem_cons.1 member with rfl | inside
    · exact ⟨_, mem_cons_self, only⟩
    · obtain ⟨row, listed, found⟩ := ih inside
      exact ⟨row, mem_cons_of_mem _ listed, found⟩

theorem countersAt_takeOutstanding (now : Time) (only : countersAt db.rows scope = [row]) (inside : scope ∈ scopes) :
    countersAt (takeOutstanding db scopes now).rows scope = [(admitPatch now).apply row] := by
  have updated : countersAt (takeOutstanding db scopes now).rows scope =
      updateWhere (fun row => row.scope ∈ scopes) (admitPatch now).apply (countersAt db.rows scope) :=
    countersAt_update _ _ _
  rw [updated, only]
  simp [scope_of_countersAt only, inside]

theorem takeOutstanding_charged (matched : CountersOf db.rows scopes counters) :
    Charged db.rows (takeOutstanding db scopes now).rows scopes (0, 0) (1, 0) := by
  intro scope
  by_cases inside : scope ∈ scopes
  · obtain ⟨row, _, only⟩ := matched.of_mem inside
    have admitted := countersAt_takeOutstanding now only inside
    simp [outstandingOf_eq admitted, outstandingOf_eq only, activeOf_eq admitted, activeOf_eq only,
      versionOf_eq admitted, versionOf_eq only, inside, admitPatch]
  · have kept : countersAt (takeOutstanding db scopes now).rows scope = countersAt db.rows scope := by
      refine (countersAt_update _ _ _).trans (updateWhere_eq_self ?_)
      intro row member
      simp only [countersAt, mem_filter, decide_eq_true_eq] at member
      simp [member.2, inside]
    simp [amounts_congr kept, inside]

theorem Charged.shift {after : Tables nexaSchema} (charged : Charged before after scopes old new) (kept : Nat × Nat) :
    Charged before after scopes (old.1 + kept.1, old.2 + kept.2) (new.1 + kept.1, new.2 + kept.2) := by
  intro scope
  obtain ⟨outstanding, active, version⟩ := charged scope
  by_cases inside : scope ∈ scopes <;> simp only [inside, if_true, if_false] at * <;> omega

theorem Charged.around {first after last : Tables nexaSchema} (charged : Charged before after scopes old new)
    (opening : before .admissionCounters = first .admissionCounters)
    (closing : last .admissionCounters = after .admissionCounters) : Charged first last scopes old new := by
  intro scope
  have fact := charged scope
  simp only [outstandingOf, activeOf, versionOf, countersAt, opening, ← closing] at fact
  exact fact

theorem ofJob_nodup (tenant : TenantId) (submitter : UserId) : (Scope.ofJob tenant submitter).Nodup := by
  simp [Scope.ofJob]

end

end Nexa
