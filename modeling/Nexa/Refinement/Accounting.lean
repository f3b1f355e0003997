import Nexa.Coordinator.Snapshot
import Nexa.Refinement.Checkpoint

namespace Nexa

open Relational Outcome Tables

section

variable {α : Type} {touched : List Table} {items : List α}

theorem foldlM_frame {step : Db -> α -> Outcome Db} {start finish : Db}
    (frames : ∀ db item next, step db item = .ok next -> Frame touched db.rows next.rows)
    (run : items.foldlM step start = .ok finish) : Frame touched start.rows finish.rows := by
  let framed (db : Db) : Prop := Frame touched start.rows db.rows
  have ends : framed finish := by
    refine foldlM_invariant ?_ (.refl _ _) run
    intro db item next _ kept stepped
    exact kept.trans (frames db item next stepped)
  exact ends

theorem foldl_frame {step : Db -> α -> Db} (start : Db)
    (frames : ∀ db item, Frame touched db.rows (step db item).rows) :
    Frame touched start.rows (items.foldl step start).rows := by
  induction items generalizing start with
  | nil => exact .refl _ _
  | cons item rest ih => exact (frames start item).trans (ih (step start item))

end

variable {db after : Db} {round : ℚ -> ℚ} {now observed : Time}

theorem lockLedgers_frame (db : Db) (now : Time) (ensureState : Bool) :
    Frame fairnessTables db.rows (lockLedgers db now ensureState).rows := by
  have state (db : Db) : Frame fairnessTables db.rows (ensureFairnessState db now).rows :=
    (insert_frame db .fairnessState _).mono (by decide)
  have ledgers (start : Db) (tenants : List TenantId) :
      Frame fairnessTables start.rows (tenants.foldl (ensureLedger now) start).rows :=
    foldl_frame start fun db tenant => (insert_frame db .fairnessLedgers _).mono (by decide)
  cases ensureState with
  | false => exact ledgers db _
  | true => exact (state db).trans (ledgers _ _)

theorem chargeTenant_frame {ledger : FairnessLedger} (charged : chargeTenant round now db ledger = .ok after) :
    Frame fairnessTables db.rows after.rows := by
  simp only [chargeTenant, bind_eq_ok, require_eq_ok, pure_eq_ok, exists_const] at charged
  obtain ⟨_, segments, written, _, rfl⟩ := charged
  refine (foldlM_frame ?_ written).trans (.update _ _ _ (by decide))
  intro state entry next stepped
  simp only [chargeSegment, bind_eq_ok, require_eq_ok, pure_eq_ok, exists_const] at stepped
  exact stepped.2 ▸ .update _ _ _ (by decide)

theorem chargeLocked_frame (charged : chargeLocked round db now observed = .ok after) :
    Frame fairnessTables db.rows after.rows := by
  simp only [chargeLocked, bind_eq_ok, require_eq_ok, exists_const] at charged
  exact foldlM_frame (fun _ _ _ stepped => chargeTenant_frame stepped) charged.2

theorem accountLocked_frame (charged : accountLocked round db now observed = .ok after) :
    Frame fairnessTables db.rows after.rows :=
  (lockLedgers_frame db now true).trans (chargeLocked_frame charged)

theorem accountNowLocked_frame (charged : accountNowLocked round db now observed = .ok after) :
    Frame fairnessTables db.rows after.rows :=
  (lockLedgers_frame db now true).trans (chargeLocked_frame charged)

theorem rebaseTenant_frame {segmentId : AllocationId -> Nat} {held : List Allocation}
    {capacity : ResourceCapacity} {version : Nat} {policy : TenantPolicy}
    (rebased : rebaseTenant round now segmentId held capacity version db policy = .ok after) :
    Frame fairnessTables db.rows after.rows := by
  simp only [rebaseTenant, bind_eq_ok, require_eq_ok, exists_const] at rebased
  refine foldlM_frame ?_ rebased.2
  intro state entry next stepped
  simp only [openSegment, bind_eq_ok, require_eq_ok, exists_const] at stepped
  exact (insertInto_eq_ok.1 stepped.2).2 ▸ .append _ _ (by decide)

theorem rebaseLocked_frame {segmentId : AllocationId -> Nat}
    (rebased : rebaseLocked round db now segmentId = .ok after) :
    Frame fairnessTables db.rows after.rows := by
  simp only [rebaseLocked, closeSegments, bind_eq_ok, require_eq_ok, pure_eq_ok, exists_const] at rebased
  obtain ⟨inventory, _, _, _, _, closed, ⟨_, rfl⟩, rebased⟩ := rebased
  have closing : Frame fairnessTables db.rows
      (db.update .ledgerSegments (fun segment => segment.endedAt = none) (closePatch now)).rows :=
    .update _ _ _ (by decide)
  cases inventory with
  | none =>
    rw [pure_eq_ok] at rebased
    exact rebased ▸ closing
  | some inventory =>
    exact closing.trans (foldlM_frame (fun _ _ _ stepped => rebaseTenant_frame stepped) rebased)

theorem persistFairnessLocked_frame {snapshot : SchedulingSnapshot}
    (persisted : persistFairnessLocked round db snapshot now = .ok after) :
    Frame fairnessTables db.rows after.rows := by
  simp only [persistFairnessLocked, bind_eq_ok, pure_eq_ok] at persisted
  obtain ⟨_, _, state, _, rfl⟩ := persisted
  have ledgers : Frame fairnessTables db.rows (writeLedgers db state.tenantLedgers).rows :=
    foldl_frame db fun _ _ => .update _ _ _ (by decide)
  exact ledgers.trans (.update _ _ _ (by decide))

end Nexa
