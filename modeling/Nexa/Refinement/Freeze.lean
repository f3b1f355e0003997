import Nexa.Refinement.Administration
import Nexa.Refinement.Cleanup
import Nexa.Refinement.Submit

namespace Nexa

open Relational Outcome List Tables

def Frozen (rows : Tables nexaSchema) : Prop :=
  ∃ policy ∈ rows .policyVersions, policy.isCurrent = true ∧ policy.operationalMode = .writeFrozen

def Ledgered (rows : Tables nexaSchema) : Prop :=
  ∀ policy ∈ rows .tenantPolicies, policy.isCurrent = true ->
    ∃ ledger ∈ rows .fairnessLedgers, ledger.tenantId = policy.tenantId

variable {settings : Settings} {db after : Db} {call : Call}

section

variable {response : StoredResponse} (frozen : Frozen db.rows)

include frozen

theorem Frozen.current {policy : PolicyVersion}
    (only : (db.select .policyVersions fun row => row.isCurrent) = [policy]) :
    policy.operationalMode = .writeFrozen := by
  obtain ⟨frozenPolicy, member, current, mode⟩ := frozen
  have inside : frozenPolicy ∈ db.select .policyVersions fun row => row.isCurrent := mem_filter.2 ⟨member, current⟩
  rw [only, mem_singleton] at inside
  exact inside ▸ mode

theorem Frozen.mode {mode : OperationalMode} (read : operationalMode db = .ok mode) : mode = .writeFrozen := by
  simp only [operationalMode, bind_eq_ok, one_eq_ok, pure_eq_ok] at read
  obtain ⟨policy, only, rfl⟩ := read
  exact frozen.current only

theorem enrolWorker_frozen : enrolWorker settings db ≠ .ok after := by
  intro done
  simp only [enrolWorker, bind_eq_ok, require_eq_ok, exists_const] at done
  obtain ⟨mode, read, writable, _⟩ := done
  exact writable (frozen.mode read)

theorem Frozen.appended {table : Table} {row : Row table} {opened : Db}
    (inserted : opened.rows = db.rows.append table row) (other : .policyVersions ≠ table) :
    Frozen opened.rows := by
  rw [Frozen, inserted, append_other _ _ other]
  exact frozen

theorem createIncarnation_frozen {request : IncarnationRequest}
    (done : createIncarnation db call request = .ok (after, response)) :
    after = db := by
  simp only [createIncarnation, bind_eq_ok] at done
  obtain ⟨⟨opened, replay⟩, begun, mode, read, worker, _, done⟩ := done
  obtain ⟨same, _⟩ | ⟨_, record, done⟩ := beginIdempotency_requested request.requestKey begun done
  · exact same
  · simp only [bind_eq_ok, require_eq_ok, exists_const] at done
    exact absurd ((frozen.appended record (by decide)).mode read) done.1

theorem heartbeat_frozen {workerId : WorkerId} {callback : Callback}
    {request : HeartbeatRequest} {answer : Acknowledgment}
    (beat : heartbeat settings db call workerId callback request = .ok (after, answer)) : after = db := by
  simp only [heartbeat, bind_eq_ok] at beat
  obtain ⟨⟨opened, replay⟩, begun, mode, read, worker, _, _, _, beat⟩ := beat
  obtain ⟨same, _⟩ | ⟨_, receipt, beat⟩ := beginCallback_called begun beat
  · exact same
  · simp only [bind_eq_ok, require_eq_ok, exists_const] at beat
    exact absurd ((frozen.appended receipt (by decide)).mode read) beat.1

theorem reportCleanup_frozen {workerId : WorkerId} {attemptId : AttemptId}
    {callback : Callback} {request : CleanupRequest} {answer : Acknowledgment}
    (reported : reportCleanup settings db call workerId attemptId callback request = .ok (after, answer)) :
    after = db := by
  simp only [reportCleanup, bind_eq_ok, require_eq_ok, exists_const] at reported
  obtain ⟨⟨opened, replay⟩, begun, ⟨mode, counters⟩, locked, _, _, _, _, _, _, _, reported⟩ := reported
  simp only [lockPolicyCounters, bind_eq_ok, pure_eq_ok, Prod.mk.injEq] at locked
  obtain ⟨_, _, _, _, _, _, _, _, _, read, _, _, rfl, _⟩ := locked
  have still : Frozen opened.rows := by
    rcases beginCallback_cases begun with ⟨_, _, receipt⟩ | ⟨rfl, _⟩
    · exact frozen.appended receipt (by decide)
    · exact frozen
  split at reported
  next acknowledgment verified =>
    simp only [pure_eq_ok, Prod.mk.injEq] at reported
    rcases beginCallback_cases begun with ⟨rfl, _⟩ | ⟨rfl, _⟩
    · simp at verified
    · exact reported.1.symm
  next =>
    simp only [bind_eq_ok, require_eq_ok, exists_const] at reported
    exact absurd (still.mode read) reported.1

theorem control_frozen {operation : RequestOperation} {request : ControlRequest}
    {apply : Db -> ControlContext -> Outcome ControlStep}
    (done : control settings db call operation request apply = .ok (after, response)) : after = db := by
  simp only [control, bind_eq_ok] at done
  obtain ⟨_, _, submitter, _, ⟨opened, replay⟩, begun, done⟩ := done
  obtain ⟨same, _⟩ | ⟨_, record, done⟩ := beginIdempotency_requested (request.requestKey operation) begun done
  · exact same
  · simp only [bind_eq_ok, require_eq_ok, exists_const] at done
    obtain ⟨_, _, mode, read, writable, _⟩ := done
    exact absurd ((frozen.appended record (by decide)).mode read) writable

theorem admitJob_frozen {user : UserId} {tenantId : TenantId}
    {storage : Option ApplicationError} {admitted : Db × Admission} :
    admitJob db call user tenantId storage ≠ .ok admitted := by
  intro admitting
  simp only [admitJob, bind_eq_ok, one_eq_ok, require_eq_ok, exists_const] at admitting
  obtain ⟨current, only, normal, _⟩ := admitting
  rw [frozen.current only] at normal
  cases normal

theorem submitUseCase_frozen {request : SubmitRequest} {storage : Option ApplicationError}
    (done : submitUseCase settings db call request storage = .ok (after, response)) : after = db := by
  simp only [submitUseCase, bind_eq_ok] at done
  obtain ⟨_, _, ⟨opened, replay⟩, begun, done⟩ := done
  obtain ⟨same, _⟩ | ⟨_, record, done⟩ := beginIdempotency_requested request.requestKey begun done
  · exact same
  · simp only [bind_eq_ok] at done
    obtain ⟨_, admitting, _⟩ := done
    exact absurd admitting (admitJob_frozen (frozen.appended record (by decide)))

theorem retryFailedJob_frozen {request : RetryRequest}
    (done : retryFailedJob settings db call request = .ok (after, response)) : after = db := by
  simp only [retryFailedJob, bind_eq_ok] at done
  obtain ⟨_, _, _, _, ⟨opened, replay⟩, begun, done⟩ := done
  obtain ⟨same, _⟩ | ⟨_, record, done⟩ := beginIdempotency_requested request.requestKey begun done
  · exact same
  · simp only [bind_eq_ok, require_eq_ok, exists_const] at done
    obtain ⟨_, _, _, admitting, _⟩ := done
    exact absurd admitting (admitJob_frozen (frozen.appended record (by decide)))

theorem ensureMutable_frozen {checked : Unit} : ensureMutable db ≠ .ok checked := by
  intro mutable
  simp only [ensureMutable, bind_eq_ok, require_eq_ok] at mutable
  obtain ⟨mode, read, writable⟩ := mutable
  exact writable (frozen.mode read)

theorem createTenant_frozen {request : Request}
    (done : createTenant db call request = .ok (after, response)) : after = db := by
  simp only [createTenant, bind_eq_ok] at done
  obtain ⟨_, _, ⟨opened, replay⟩, begun, done⟩ := done
  obtain ⟨same, _⟩ | ⟨_, record, done⟩ := beginIdempotency_requested (request.adminKey .createTenant) begun done
  · exact same
  · simp only [bind_eq_ok] at done
    obtain ⟨_, mutable, _⟩ := done
    exact absurd mutable (ensureMutable_frozen (frozen.appended record (by decide)))

theorem updateTenantPolicy_frozen {request : TenantPolicyRequest}
    (done : updateTenantPolicy settings db call request = .ok (after, response)) : after = db := by
  simp only [updateTenantPolicy, bind_eq_ok] at done
  obtain ⟨_, _, ⟨opened, replay⟩, begun, done⟩ := done
  obtain ⟨same, _⟩ | ⟨_, record, done⟩ := beginIdempotency_requested (request.adminKey .updateTenantPolicy) begun done
  · exact same
  · simp only [bind_eq_ok, require_eq_ok, exists_const] at done
    obtain ⟨_, _, mode, read, writable, _⟩ := done
    exact absurd ((frozen.appended record (by decide)).mode read) writable

theorem mutateWorker_frozen {operation : RequestOperation} {status : Nat}
    {request : WorkerAdminRequest} {apply : Db -> Worker -> Outcome (Db × WorkerChanges)}
    (done : mutateWorker db call operation status request apply = .ok (after, response)) : after = db := by
  simp only [mutateWorker, bind_eq_ok] at done
  obtain ⟨_, _, ⟨opened, replay⟩, begun, done⟩ := done
  obtain ⟨same, _⟩ | ⟨_, record, done⟩ := beginIdempotency_requested (request.requestKey operation) begun done
  · exact same
  · simp only [bind_eq_ok, require_eq_ok, exists_const] at done
    obtain ⟨_, _, _, mutable, _⟩ := done
    exact absurd mutable (ensureMutable_frozen (frozen.appended record (by decide)))

theorem Frozen.skips {next : OperationalMode -> Outcome Db}
    (done : (do
      let mode ← operationalMode db
      if mode = OperationalMode.writeFrozen then return db
      next mode) = .ok after) : after = db := by
  obtain ⟨mode, read, done⟩ := bind_eq_ok.1 done
  rw [if_pos (frozen.mode read), pure_eq_ok] at done
  exact done.symm

theorem Frozen.tick {policy : PolicyVersion}
    {found : Option (Worker × WorkerInventory)} (locked : tickLocks db = .ok (policy, found)) :
    policy.operationalMode ≠ .normal := by
  simp only [tickLocks, bind_eq_ok, one_eq_ok, pure_eq_ok, Prod.mk.injEq] at locked
  obtain ⟨_, only, _, _, rfl, _⟩ := locked
  rw [frozen.current only]
  decide

theorem snapshotOperation_frozen {request : SnapshotRequest} {snapshot : Option SchedulingSnapshot}
    (taken : snapshotOperation settings db request = .ok (after, snapshot)) : after = db := by
  simp only [snapshotOperation, bind_eq_ok] at taken
  obtain ⟨⟨policy, found⟩, locked, taken⟩ := taken
  cases found with
  | none =>
    simp only [pure_eq_ok, Prod.mk.injEq] at taken
    exact taken.1.symm
  | some pair =>
    simp only [frozen.tick locked, ne_eq, not_false_eq_true, true_or, if_true, pure_eq_ok, Prod.mk.injEq] at taken
    exact taken.1.symm

theorem commitOperation_frozen {request : CommitRequest}
    (taken : commitOperation settings db call request = .ok after) : after = db := by
  simp only [commitOperation, bind_eq_ok] at taken
  obtain ⟨⟨policy, found⟩, locked, taken⟩ := taken
  cases found with
  | none =>
    rw [pure_eq_ok] at taken
    exact taken.symm
  | some pair =>
    simp only [frozen.tick locked, ne_eq, not_false_eq_true, true_or, if_true, pure_eq_ok] at taken
    exact taken.symm

end

section

variable {round : ℚ -> ℚ} {now observed : Time} {tenantId other : TenantId}

def HasLedger (db : Db) (tenantId : TenantId) : Prop :=
  ∃ ledger ∈ db.rows .fairnessLedgers, ledger.tenantId = tenantId

theorem ledger_insertable : db.Insertable .fairnessLedgers (newLedger now tenantId) <-> ¬HasLedger db tenantId := by
  simp only [Database.Insertable, keysOf, indexesOf, refsOf, append_nil, mem_singleton, HasLedger, newLedger]
  constructor
  · rintro ⟨fresh, _⟩ ⟨ledger, member, rfl⟩
    exact fresh ledger member _ rfl rfl
  · intro missing
    refine ⟨?_, by simp⟩
    rintro ledger member key rfl same
    simp only [Key.mk.injEq, List.cons.injEq, and_true, true_and] at same
    exact missing ⟨ledger, member, same⟩

theorem ensureLedger_of_hasLedger (has : HasLedger db tenantId) : ensureLedger now db tenantId = db := by
  rw [ensureLedger, Database.insert, dif_neg (fun fresh => ledger_insertable.1 fresh has)]
  rfl

theorem ensureLedger_rows (missing : ¬HasLedger db tenantId) :
    (ensureLedger now db tenantId).rows = db.rows.append .fairnessLedgers (newLedger now tenantId) := by
  rw [ensureLedger, Database.insert, dif_pos (ledger_insertable.2 missing)]
  rfl

theorem hasLedger_ensureLedger (now : Time) (db : Db) (tenantId : TenantId) :
    HasLedger (ensureLedger now db tenantId) tenantId := by
  by_cases has : HasLedger db tenantId
  · rw [ensureLedger_of_hasLedger has]
    exact has
  · refine ⟨newLedger now tenantId, ?_, rfl⟩
    rw [ensureLedger_rows has, append_same]
    exact mem_append_right _ (mem_singleton_self _)

theorem HasLedger.ensureLedger (has : HasLedger db tenantId) (now : Time) (other : TenantId) :
    HasLedger (ensureLedger now db other) tenantId := by
  by_cases present : HasLedger db other
  · rw [ensureLedger_of_hasLedger present]
    exact has
  · obtain ⟨ledger, member, same⟩ := has
    refine ⟨ledger, ?_, same⟩
    rw [ensureLedger_rows present, append_same]
    exact mem_append_left _ member

theorem hasLedger_foldl {tenants : List TenantId} (wanted : tenantId ∈ tenants ∨ HasLedger db tenantId) :
    HasLedger (tenants.foldl (ensureLedger now) db) tenantId := by
  induction tenants generalizing db with
  | nil => simpa using wanted
  | cons first rest ih =>
    refine ih ?_
    rcases wanted with member | has
    · rcases mem_cons.1 member with rfl | inside
      · exact .inr (hasLedger_ensureLedger now db tenantId)
      · exact .inl inside
    · exact .inr (has.ensureLedger now first)

theorem foldl_of_hasLedger {tenants : List TenantId} (present : ∀ tenant ∈ tenants, HasLedger db tenant) :
    tenants.foldl (ensureLedger now) db = db := by
  induction tenants with
  | nil => rfl
  | cons first rest ih =>
    rw [foldl_cons, ensureLedger_of_hasLedger (present first mem_cons_self)]
    exact ih fun tenant member => present tenant (mem_cons_of_mem _ member)

theorem mem_currentPolicies {policy : TenantPolicy} :
    policy ∈ currentPolicies db <-> policy ∈ db.rows .tenantPolicies ∧ policy.isCurrent = true :=
  mem_filter

theorem lockLedgers_of_ledgered (ledgered : Ledgered db.rows) : lockLedgers db now false = db := by
  rw [lockLedgers, if_neg (by decide)]
  refine foldl_of_hasLedger fun tenant member => ?_
  obtain ⟨policy, inside, rfl⟩ := mem_map.1 member
  obtain ⟨present, current⟩ := mem_currentPolicies.1 inside
  exact ledgered policy present current

theorem lockLedgers_ledgered (db : Db) (now : Time) : Ledgered (lockLedgers db now true).rows := by
  intro policy member current
  have policies : (lockLedgers db now true).rows .tenantPolicies = db.rows .tenantPolicies :=
    lockLedgers_frame db now true _ (by decide)
  have started : (ensureFairnessState db now).rows .tenantPolicies = db.rows .tenantPolicies :=
    insert_frame db .fairnessState _ _ (by decide)
  rw [policies, ← started] at member
  exact hasLedger_foldl (.inl (mem_map.2 ⟨policy, mem_currentPolicies.2 ⟨member, current⟩, rfl⟩))

theorem chargeLocked_kept (charged : chargeLocked round db now observed = .ok after) :
    db.rows.Kept after.rows .fairnessLedgers := by
  simp only [chargeLocked, bind_eq_ok, require_eq_ok, exists_const] at charged
  let kept (state : Db) : Prop := db.rows.Kept state.rows .fairnessLedgers
  have ends : kept after := by
    refine foldlM_invariant ?_ (.of_same rfl) charged.2
    intro state ledger next _ before stepped
    simp only [chargeTenant, bind_eq_ok, require_eq_ok, pure_eq_ok, exists_const] at stepped
    obtain ⟨_, segments, written, _, rfl⟩ := stepped
    have same : Frame [.ledgerSegments] state.rows segments.rows := by
      refine foldlM_frame ?_ written
      intro state entry next stepped
      simp only [chargeSegment, bind_eq_ok, require_eq_ok, pure_eq_ok, exists_const] at stepped
      exact stepped.2 ▸ .update _ _ _ (by decide)
    exact (before.trans (.of_same (same _ (by decide)))).trans (.update _ _ (chargeLedgerPatch _ _ _) _)
  exact ends

theorem accountLocked_ledgered (accounted : accountLocked round db now observed = .ok after) :
    Ledgered after.rows := by
  intro policy member current
  have policies := chargeLocked_frame accounted .tenantPolicies (by decide)
  rw [policies] at member
  obtain ⟨ledger, inside, same⟩ := lockLedgers_ledgered db now policy member current
  obtain ⟨later, present, keys, _⟩ := chargeLocked_kept accounted ledger inside
  simp only [keysOf, List.cons.injEq, Key.mk.injEq, and_true, true_and] at keys
  exact ⟨later, present, keys.trans same⟩

theorem account_frozen (frozen : Frozen db.rows) (ledgered : Ledgered db.rows) {boundary : Time}
    (accounted : account settings db now boundary = .ok after) : after = db := by
  simp only [account, lockLedgers_of_ledgered ledgered] at accounted
  exact frozen.skips accounted

end

theorem changeMode_freezes {current : OperationalMode} {proofs : ModeProofs} (writable : current ≠ .writeFrozen)
    (changed : changeMode settings db call current .writeFrozen proofs = .ok after) :
    (∀ allocation ∈ db.rows .allocations, allocation.state = .released) ∧ Ledgered after.rows := by
  rw [changeMode, if_neg writable.symm] at changed
  simp only [bind_eq_ok, if_true] at changed
  obtain ⟨_, valid, accounted⟩ := changed
  refine ⟨?_, accountLocked_ledgered accounted⟩
  cases current with
  | normal => simp [validateModeTransition] at valid
  | writeFrozen => exact absurd rfl writable
  | admissionOff =>
    simp only [validateModeTransition, require_eq_ok, Bool.and_eq_true, List.isEmpty_iff] at valid
    intro allocation member
    by_contra unreleased
    have inside : allocation ∈ db.select .allocations fun row => row.state ≠ .released :=
      mem_filter.2 ⟨member, by simpa using unreleased⟩
    rw [valid.1] at inside
    exact not_mem_nil inside

section

variable {request : GlobalPolicyRequest} {response : StoredResponse}

theorem updateGlobalPolicy_frozen (frozen : Frozen db.rows)
    (done : updateGlobalPolicy settings db call request = .ok (after, response)) :
    Frame [.policyVersions, .idempotencyRecords] db.rows after.rows := by
  simp only [updateGlobalPolicy, bind_eq_ok] at done
  obtain ⟨_, _, ⟨opened, replay⟩, begun, done⟩ := done
  obtain ⟨same, _⟩ | ⟨_, record, done⟩ := beginIdempotency_requested (request.adminKey .updateGlobalPolicy) begun done
  · exact same ▸ .refl _ _
  · simp only [bind_eq_ok, require_eq_ok, one_eq_ok, exists_const] at done
    obtain ⟨_, _, current, only, _, target, _, _, _, _, changed, changing, _, inserted, completing⟩ := done
    have mode := (frozen.appended record (by decide)).current only
    have thaws : request.operationalMode = some .admissionOff := target.resolve_left (fun writable => writable mode)
    rw [thaws, Option.getD_some, mode, changeMode, if_neg (by decide)] at changing
    simp only [bind_eq_ok, reduceCtorEq, if_false, pure_eq_ok] at changing
    obtain ⟨_, _, rfl⟩ := changing
    obtain ⟨accepted, rfl⟩ := insertRow_of_insertInto inserted
    have opens : Frame [.policyVersions, .idempotencyRecords] db.rows opened.rows := record ▸ .append _ _ (by decide)
    refine opens.trans (.trans ?_ ((completeIdempotency_frame completing).1.mono (by decide)))
    exact (Frame.update _ _ _ (by decide)).trans (.append _ _ (by decide))

theorem updateGlobalPolicy_freezes (writable : ¬Frozen db.rows) (frozen : Frozen after.rows)
    (done : updateGlobalPolicy settings db call request = .ok (after, response)) :
    (∀ allocation ∈ db.rows .allocations, allocation.state = .released) ∧ Ledgered after.rows := by
  simp only [updateGlobalPolicy, bind_eq_ok] at done
  obtain ⟨_, _, ⟨opened, replay⟩, begun, done⟩ := done
  obtain ⟨same, _⟩ | ⟨_, record, done⟩ := beginIdempotency_requested (request.adminKey .updateGlobalPolicy) begun done
  · exact absurd (same ▸ frozen) writable
  · simp only [bind_eq_ok, require_eq_ok, one_eq_ok, exists_const] at done
    obtain ⟨_, _, current, only, _, _, _, _, _, _, changed, changing, _, inserted, completing⟩ := done
    obtain ⟨accepted, rfl⟩ := insertRow_of_insertInto inserted
    have policies : opened.rows .policyVersions = db.rows .policyVersions := by
      rw [record]
      rfl
    have kept : changed.rows .policyVersions = db.rows .policyVersions :=
      ((changeMode_frame changing) _ (by decide)).trans policies
    -- The only policy that is current afterwards is the new one.
    have freezes : request.operationalMode.getD current.operationalMode = .writeFrozen := by
      obtain ⟨policy, member, isCurrent, mode⟩ := frozen
      rw [(completeIdempotency_frame completing).1 _ (by decide)] at member
      rcases mem_append.1 member with old | new
      · obtain ⟨earlier, before, rfl⟩ := mem_updateWhere.1 old
        split_ifs at isCurrent mode with retired
        · exact absurd isCurrent (by simp [retirePolicyPatch])
        · exact absurd ⟨earlier, kept ▸ before, isCurrent, mode⟩ writable
      · rw [mem_singleton.1 new] at mode
        exact mode
    have currentMode : current.operationalMode ≠ .writeFrozen := by
      obtain ⟨member, isCurrent⟩ := Database.mem_of_select only
      exact fun mode => writable ⟨current, policies ▸ member, isCurrent, mode⟩
    rw [freezes] at changing
    obtain ⟨released, ledgered⟩ := changeMode_freezes currentMode changing
    have allocations : opened.rows .allocations = db.rows .allocations := by
      rw [record]
      rfl
    refine ⟨allocations ▸ released, ?_⟩
    have closing := (completeIdempotency_frame completing).1
    rw [Ledgered, closing .tenantPolicies (by decide), closing .fairnessLedgers (by decide)]
    exact ledgered

end

end Nexa
