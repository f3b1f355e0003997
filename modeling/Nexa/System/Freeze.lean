import Nexa.Refinement.Freeze
import Nexa.System.Fencing

namespace Nexa

open Relational Outcome Transition Tables

section

variable {settings : Settings} {first db after last : Db} {action : Action} {actions : List Action}

theorem held_of_open (sound : Sound db) {lease : AttemptLease} (member : lease ∈ db.rows .attemptLeases)
    (opened : lease.revokedAt = none) : ∃ allocation ∈ db.rows .allocations, allocation.state = .held := by
  obtain ⟨attempt, attemptMember, _, owned, _⟩ := lease_attempt db member
  obtain ⟨job, jobMember, named⟩ := attempt_owned db attemptMember
  obtain ⟨v, represents, _⟩ := sound.tracked job jobMember
  have inside : lease ∈ openLeases (db.rows.slice job.jobId) :=
    mem_openLeases.2 ⟨mem_slice.2 ⟨member, congrArg some (owned.symm.trans named.symm)⟩, opened⟩
  have holds := represents.custody
  cases custody : v.custody with
  | vacant =>
    rw [custody] at holds
    rw [holds.2.1] at inside
    exact absurd inside List.not_mem_nil
  | fenced failure resources =>
    rw [custody] at holds
    obtain ⟨_, _, fenced, _⟩ := holds
    rw [fenced.noLease] at inside
    exact absurd inside List.not_mem_nil
  | live state intent resources =>
    rw [custody] at holds
    obtain ⟨rows, live, _⟩ := holds
    have held : rows.allocation ∈ unreleased (db.rows.slice job.jobId) := by simp [live.onlyAllocation]
    exact ⟨rows.allocation, (mem_slice.1 (List.mem_filter.1 held).1).1, live.held⟩

structure Halted (rows : Tables nexaSchema) : Prop where
  released : ∀ allocation ∈ rows .allocations, allocation.state = .released
  ledgered : Ledgered rows

/-- Only the policy may change, by a request that is recorded. -/
def thawedTables : List Table := [.policyVersions, .idempotencyRecords]

theorem WorkerAction.execute_frozen (sound : Sound db) (halted : Halted db.rows) {call : Call}
    {action : WorkerAction} (done : action.execute settings db call = .ok after) : after = db := by
  rcases WorkerAction.execute_unrevoked done with same | ⟨lease, member, _, opened⟩
  · exact same
  · obtain ⟨allocation, inside, held⟩ := held_of_open sound member opened
    rw [halted.released allocation inside] at held
    cases held

theorem UserAction.execute_frozen (frozen : Frozen db.rows) {call : Call} {action : UserAction}
    (done : action.execute settings db call = .ok after) : after = db := by
  cases action <;> obtain ⟨response, committed⟩ := fst_eq_ok.1 done
  case submit | submitChild => exact submitUseCase_frozen frozen committed
  case retry => exact retryFailedJob_frozen frozen committed
  case cancel | pause | resume => exact control_frozen frozen committed

theorem AdminAction.execute_frozen (frozen : Frozen db.rows) {call : Call} {action : AdminAction}
    (done : action.execute settings db call = .ok after) :
    Frame thawedTables db.rows after.rows := by
  cases action <;> obtain ⟨response, committed⟩ := fst_eq_ok.1 done
  case createTenant => exact createTenant_frozen frozen committed ▸ .refl _ _
  case updateTenantPolicy => exact updateTenantPolicy_frozen frozen committed ▸ .refl _ _
  case updateGlobalPolicy => exact (updateGlobalPolicy_frozen frozen committed).mono (by decide)
  case drainWorker | disableWorker | enableWorker => exact mutateWorker_frozen frozen committed ▸ .refl _ _

theorem CoordinatorAction.execute_frozen (frozen : Frozen db.rows) (halted : Halted db.rows)
    {action : CoordinatorAction} (done : action.execute settings db = .ok after) : after = db := by
  cases action
  case reap | promote | trackQuota | sweepHealth => exact frozen.skips done
  case snapshot =>
    obtain ⟨snapshot, committed⟩ := fst_eq_ok.1 done
    exact snapshotOperation_frozen frozen committed
  case commit => exact commitOperation_frozen frozen done
  case account => exact account_frozen frozen halted.ledgered done

theorem Action.execute_frozen (sound : Sound db) (frozen : Frozen db.rows) (halted : Halted db.rows)
    (done : action.execute settings db = .ok after) : Frame thawedTables db.rows after.rows := by
  cases action with
  | enrolWorker => exact absurd done (enrolWorker_frozen frozen)
  | createIncarnation call request =>
    obtain ⟨response, committed⟩ := fst_eq_ok.1 done
    exact createIncarnation_frozen frozen committed ▸ .refl _ _
  | heartbeat call workerId callback request =>
    obtain ⟨answer, committed⟩ := fst_eq_ok.1 done
    exact heartbeat_frozen frozen committed ▸ .refl _ _
  | worker call action => exact WorkerAction.execute_frozen sound halted done ▸ .refl _ _
  | cleanup call workerId attemptId callback request =>
    obtain ⟨answer, committed⟩ := fst_eq_ok.1 done
    exact reportCleanup_frozen frozen committed ▸ .refl _ _
  | user call action => exact UserAction.execute_frozen frozen done ▸ .refl _ _
  | admin call action => exact AdminAction.execute_frozen frozen done
  | coordinator action => exact CoordinatorAction.execute_frozen frozen halted done ▸ .refl _ _

theorem frozen_step (sound : Sound db) (frozen : Frozen db.rows) (halted : Halted db.rows)
    (step : (controlPlane settings).step db action after) :
    Frame thawedTables db.rows after.rows := by
  change after = committed db (action.execute settings db) at step
  cases done : action.execute settings db with
  | ok next =>
    rw [done] at step
    exact step ▸ Action.execute_frozen sound frozen halted done
  | error failure =>
    rw [done] at step
    exact step ▸ .refl _ _

theorem Halted.step (halted : Halted db.rows) (frame : Frame thawedTables db.rows after.rows) :
    Halted after.rows := by
  refine ⟨?_, ?_⟩
  · rw [frame .allocations (by decide)]
    exact halted.released
  · rw [Ledgered, frame .tenantPolicies (by decide), frame .fairnessLedgers (by decide)]
    exact halted.ledgered

theorem writes_policy (written : .policyVersions ∈ action.writes) :
    ∃ call request, action = .admin call (.updateGlobalPolicy request) := by
  cases action with
  | enrolWorker | createIncarnation _ _ | heartbeat _ _ _ _ | cleanup _ _ _ _ _ =>
    exact absurd written (of_decide_eq_true rfl)
  | worker call action => cases action <;> exact absurd written (of_decide_eq_true rfl)
  | user call action => cases action <;> exact absurd written (of_decide_eq_true rfl)
  | coordinator action => cases action <;> exact absurd written (of_decide_eq_true rfl)
  | admin call action =>
    cases action with
    | updateGlobalPolicy request => exact ⟨call, request, rfl⟩
    | createTenant _ | updateTenantPolicy _ | drainWorker _ | disableWorker _ | enableWorker _ _ =>
      exact absurd written (of_decide_eq_true rfl)

theorem freeze_entered (sound : Sound db) (step : (controlPlane settings).step db action after)
    (writable : ¬Frozen db.rows) (frozen : Frozen after.rows) :
    (∀ allocation ∈ db.rows .allocations, allocation.state = .released) ∧ Halted after.rows := by
  obtain ⟨frame, _⟩ := step_spec sound step
  by_cases written : .policyVersions ∈ action.writes
  · obtain ⟨call, request, rfl⟩ := writes_policy written
    have allocations := frame .allocations (of_decide_eq_true rfl)
    change after = committed db (Prod.fst <$> updateGlobalPolicy settings db call request) at step
    cases done : updateGlobalPolicy settings db call request with
    | error failure =>
      rw [done] at step
      obtain rfl : after = db := step
      exact absurd frozen writable
    | ok result =>
      obtain ⟨next, response⟩ := result
      rw [done] at step
      obtain rfl : after = next := step
      obtain ⟨released, ledgered⟩ := updateGlobalPolicy_freezes writable frozen done
      exact ⟨released, allocations ▸ released, ledgered⟩
  · rw [Frozen, frame _ written] at frozen
    exact absurd frozen writable

theorem Installed.halted (installed : Installed db) : Halted db.rows := by
  have allocations : db.rows .allocations = [] := installed.2 _ (by decide) (by decide)
  have policies : db.rows .tenantPolicies = [] := installed.2 _ (by decide) (by decide)
  refine ⟨?_, ?_⟩
  · simp [allocations]
  · simp [Ledgered, policies]

def Rests (db : Db) : Prop := Frozen db.rows -> Halted db.rows

theorem reachable_rests (reachable : (controlPlane settings).Reachable db) : Rests db := by
  refine reachable.induct ?_ ?_
  · exact fun db installed _ => installed.halted
  · intro db action after reachable held step frozen
    have sound := reachable_sound reachable
    by_cases already : Frozen db.rows
    · exact (held already).step (frozen_step sound already (held already) step)
    · exact (freeze_entered sound step already frozen).2

theorem frozen_run (reachable : (controlPlane settings).Reachable first)
    (run : (controlPlane settings).RunWhile (fun db => Frozen db.rows) first actions last) :
    Frame thawedTables first.rows last.rows := by
  induction run with
  | nil => exact .refl _ _
  | cons frozen step _ ih =>
    have frame := frozen_step (reachable_sound reachable) frozen (reachable_rests reachable frozen) step
    exact frame.trans (ih (reachable.step step))

/-- The freeze is entered without unreleased allocations; while it lasts nothing but the policy changes. -/
theorem write_freeze (reachable : (controlPlane settings).Reachable first) :
    (∀ action after, (controlPlane settings).step first action after -> ¬Frozen first.rows ->
        Frozen after.rows -> ∀ allocation ∈ first.rows .allocations, allocation.state = .released) ∧
      ∀ actions last, (controlPlane settings).RunWhile (fun db => Frozen db.rows) first actions last ->
        ∀ table ∉ thawedTables, last.rows table = first.rows table := by
  refine ⟨?_, ?_⟩
  · intro action after step writable frozen
    exact (freeze_entered (reachable_sound reachable) step writable frozen).1
  · intro actions last run
    exact frozen_run reachable run

def sessionMode (now : Time) (base version : Nat) (mode : OperationalMode) : Action :=
  .admin (callAt now base) (.updateGlobalPolicy
    { principal := operator, key := base, requestHash := base, ifMatch := some version
      globalOutstandingLimit := none, operationalMode := some mode
      proofs := { freezeReady := true, restoreVerified := true, readinessVerified := true } })

theorem write_freeze_session :
    let first := perform localSettings installation
      (completedSession ++ [sessionMode 2000 2000 1 .admissionOff, sessionMode 2100 2100 2 .writeFrozen])
    let called := committed first (sessionStart.execute localSettings first)
    let last := committed called (sessionSubmit.execute localSettings called)
    Frozen first.rows ∧ (first.rows .jobs).length = 1 ∧ last.rows .jobs = first.rows .jobs ∧
      last.rows .attempts = first.rows .attempts := by
  intro first called last
  have frozen : ∃ policy ∈ first.rows .policyVersions,
      policy.isCurrent = true ∧ policy.operationalMode = .writeFrozen := by decide +kernel
  have still : ∃ policy ∈ called.rows .policyVersions,
      policy.isCurrent = true ∧ policy.operationalMode = .writeFrozen := by decide +kernel
  have submits : (controlPlane localSettings).RunWhile (fun db => Frozen db.rows) called [sessionSubmit] last :=
    .cons still rfl (.nil last)
  have run : (controlPlane localSettings).RunWhile (fun db => Frozen db.rows) first
      [sessionStart, sessionSubmit] last := .cons frozen rfl submits
  have reachable : (controlPlane localSettings).Reachable first := perform_reachable localSettings _
  have kept := (write_freeze reachable).2 _ last run
  exact ⟨frozen, by decide +kernel, kept _ (by decide), kept _ (by decide)⟩

end

end Nexa
