import Nexa.Refinement.Dispatch

namespace Nexa

open Relational Outcome Tables CallbackOperation

variable {db after : Db} {call : Call} {settings : Settings}

theorem enrolWorker_frame (enrolled : enrolWorker settings db = .ok after) : Frame [.workers] db.rows after.rows := by
  simp only [enrolWorker, bind_eq_ok, require_eq_ok, exists_const] at enrolled
  obtain ⟨_, _, _, enrolled⟩ := enrolled
  split at enrolled
  next => exact (insertInto_eq_ok.1 enrolled).2 ▸ .append _ _ (by decide)
  next =>
    rw [ok_eq_ok] at enrolled
    exact enrolled ▸ .refl _ _

theorem endIncarnation_frame {now : Time} {worker : Worker} {sequence : Nat}
    (ended : endIncarnation db now worker = .ok (after, sequence)) :
    Frame [.workerIncarnations] db.rows after.rows := by
  simp only [endIncarnation] at ended
  split at ended
  next =>
    simp only [bind_eq_ok, pure_eq_ok, Prod.mk.injEq] at ended
    obtain ⟨_, _, rfl, _⟩ := ended
    exact .update _ _ _ (by decide)
  next =>
    simp only [ok_eq_ok, Prod.mk.injEq] at ended
    exact ended.1 ▸ .refl _ _

theorem quiet_requested {name : RequestKey} {requestHash : Nat} {expiresAt : Time} {opened done : Db}
    {answer : StoredResponse} (operation : RequestOperation) (named : name.operation = operation)
    (fresh : db.Insertable .idempotencyRecords (pendingRecord call name requestHash expiresAt))
    (record : opened.rows = db.rows.append .idempotencyRecords (pendingRecord call name requestHash expiresAt))
    (outside : ∀ table ∈ operation.writes, table ∉ coreTables)
    (frame : Frame operation.writes opened.rows done.rows)
    (completed : completeIdempotency done call answer = .ok (after, answer)) :
    Requested db call name requestHash after answer :=
  .performed fresh record (named ▸ frame) (Progresses.proceeds (.quiet (.of_frame frame outside))) completed
    (.inl rfl)

def IncarnationRequest.requestKey (request : IncarnationRequest) : RequestKey where
  context := .worker request.workerId
  principalId := request.workerId
  operation := .createIncarnation
  key := request.key

variable {response : StoredResponse}

theorem createIncarnation_requested {request : IncarnationRequest}
    (done : createIncarnation db call request = .ok (after, response)) :
    Requested db call request.requestKey request.requestHash after response := by
  simp only [createIncarnation, bind_eq_ok] at done
  obtain ⟨⟨opened, replay⟩, begun, _, _, worker, _, done⟩ := done
  obtain ⟨same, stored⟩ | ⟨fresh, record, done⟩ := beginIdempotency_requested request.requestKey begun done
  · exact .replayed same stored
  · simp only [bind_eq_ok, require_eq_ok, exists_const] at done
    obtain ⟨_, _, ⟨ended, sequence⟩, ending, _, inserted, completing⟩ := done
    obtain ⟨accepted, rfl⟩ := insertRow_of_insertInto inserted
    obtain rfl := (completeIdempotency_frame completing).2
    exact quiet_requested .createIncarnation rfl fresh record (by decide)
      (((endIncarnation_frame ending).mono (by decide)).trans
        ((Frame.append _ _ (by decide)).trans (.update _ _ _ (by decide)))) completing

theorem replaceInventory_frame {workerId : WorkerId} {request : HeartbeatRequest} {version : Nat}
    (replaced : replaceInventory settings db call workerId request = .ok (after, version)) :
    Frame workerHeartbeat.writes db.rows after.rows := by
  simp only [replaceInventory, bind_eq_ok, require_eq_ok, pure_eq_ok, Prod.mk.injEq, exists_const] at replaced
  obtain ⟨_, accounted, accounting, _, inserted, rfl, _⟩ := replaced
  refine ((accountLocked_frame accounting).mono (by decide)).trans ?_
  exact (insertInto_eq_ok.1 inserted).2 ▸ .append _ _ (by decide)

inductive Beaten (db : Db) (call : Call) (workerId : WorkerId) (callback : Callback) (after : Db)
    (answer : Acknowledgment) : Prop where
  | replayed (same : after = db)
      (answered : Answered db workerId .workerHeartbeat callback answer)
  | performed {opened done : Db} {body : Acknowledgment}
      (fresh : db.Insertable .callbackReceipts (pendingReceipt call workerId .workerHeartbeat callback))
      (receipt : opened.rows =
        db.rows.append .callbackReceipts (pendingReceipt call workerId .workerHeartbeat callback))
      (frame : Frame workerHeartbeat.writes opened.rows done.rows)
      (completed : completeCallback done call body = .ok (after, answer))

theorem heartbeat_beaten {workerId : WorkerId} {callback : Callback} {request : HeartbeatRequest}
    {answer : Acknowledgment}
    (beat : heartbeat settings db call workerId callback request = .ok (after, answer)) :
    Beaten db call workerId callback after answer := by
  simp only [heartbeat, bind_eq_ok] at beat
  obtain ⟨⟨opened, replay⟩, begun, _, _, worker, _, _, _, beat⟩ := beat
  obtain ⟨same, answered⟩ | ⟨fresh, receipt, beat⟩ := beginCallback_called begun beat
  · exact .replayed same answered
  · simp only [bind_eq_ok, require_eq_ok, exists_const] at beat
    obtain ⟨_, checksum, _, beat⟩ := beat
    have patched (start : Db) (ready : Bool) (version : Option Nat) :
        Frame workerHeartbeat.writes start.rows
          ((start.update .workerIncarnations
            (fun row => row.workerIncarnationId = request.workerIncarnationId)
            (readyIncarnationPatch ready call.now)).update .workers (fun row => row.workerId = workerId)
            (heartbeatPatch worker ready version call.now)).rows :=
      (Frame.update _ _ _ (by decide)).trans (.update _ _ _ (by decide))
    split at beat
    next =>
      simp only [bind_eq_ok, ok_eq_ok] at beat
      obtain ⟨⟨replaced, version⟩, replacing, _, rfl, rebased, rebasing, completed⟩ := beat
      have frame := ((replaceInventory_frame replacing).trans (patched _ _ _)).trans
        ((rebaseLocked_frame rebasing).mono (by decide))
      exact .performed fresh receipt frame completed
    next =>
      simp only [bind_eq_ok, ok_eq_ok] at beat
      obtain ⟨_, rfl, _, rfl, completed⟩ := beat
      exact .performed fresh receipt (patched _ _ _) completed

section

def Request.adminKey (request : Request) (operation : RequestOperation) : RequestKey where
  context := .global
  principalId := request.principal.userId
  operation := operation
  key := request.key

theorem updateTenantPolicy_requested {request : TenantPolicyRequest}
    (done : updateTenantPolicy settings db call request = .ok (after, response)) :
    Requested db call (request.adminKey .updateTenantPolicy) request.requestHash after response := by
  simp only [updateTenantPolicy, bind_eq_ok] at done
  obtain ⟨_, _, ⟨opened, replay⟩, begun, done⟩ := done
  obtain ⟨same, stored⟩ | ⟨fresh, record, done⟩ :=
    beginIdempotency_requested (request.adminKey .updateTenantPolicy) begun done
  · exact .replayed same stored
  · simp only [bind_eq_ok, require_eq_ok, exists_const] at done
    obtain ⟨_, _, _, _, _, _, _, current, _, _, _, _, accounted, accounting, _, inserted, rebased, rebasing,
      completing⟩ := done
    obtain ⟨accepted, rfl⟩ := insertRow_of_insertInto inserted
    obtain rfl := (completeIdempotency_frame completing).2
    exact quiet_requested .updateTenantPolicy rfl fresh record (by decide)
      ((((accountLocked_frame accounting).mono (by decide)).trans (.update _ _ _ (by decide))).trans
        ((Frame.append _ _ (by decide)).trans ((rebaseLocked_frame rebasing).mono (by decide))))
      completing

theorem changeMode_frame {current target : OperationalMode} {proofs : ModeProofs}
    (changed : changeMode settings db call current target proofs = .ok after) :
    Frame fairnessTables db.rows after.rows := by
  simp only [changeMode] at changed
  split at changed
  next =>
    rw [ok_eq_ok] at changed
    exact changed ▸ .refl _ _
  next =>
    simp only [bind_eq_ok] at changed
    obtain ⟨_, _, changed⟩ := changed
    split at changed
    next => exact accountLocked_frame changed
    next =>
      rw [pure_eq_ok] at changed
      exact changed ▸ .refl _ _

theorem updateGlobalPolicy_requested {request : GlobalPolicyRequest}
    (done : updateGlobalPolicy settings db call request = .ok (after, response)) :
    Requested db call (request.adminKey .updateGlobalPolicy) request.requestHash after response := by
  simp only [updateGlobalPolicy, bind_eq_ok] at done
  obtain ⟨_, _, ⟨opened, replay⟩, begun, done⟩ := done
  obtain ⟨same, stored⟩ | ⟨fresh, record, done⟩ :=
    beginIdempotency_requested (request.adminKey .updateGlobalPolicy) begun done
  · exact .replayed same stored
  · simp only [bind_eq_ok, require_eq_ok, exists_const] at done
    obtain ⟨_, _, current, _, _, _, _, _, _, _, changed, changing, _, inserted, completing⟩ := done
    obtain ⟨accepted, rfl⟩ := insertRow_of_insertInto inserted
    obtain rfl := (completeIdempotency_frame completing).2
    exact quiet_requested .updateGlobalPolicy rfl fresh record (by decide)
      ((((changeMode_frame changing).mono (by decide)).trans (.update _ _ _ (by decide))).trans
        (.append _ _ (by decide))) completing

theorem createTenant_requested {request : Request} (done : createTenant db call request = .ok (after, response)) :
    Requested db call (request.adminKey .createTenant) request.requestHash after response := by
  simp only [createTenant, bind_eq_ok] at done
  obtain ⟨_, _, ⟨opened, replay⟩, begun, done⟩ := done
  obtain ⟨same, stored⟩ | ⟨fresh, record, done⟩ :=
    beginIdempotency_requested (request.adminKey .createTenant) begun done
  · exact .replayed same stored
  · simp only [bind_eq_ok] at done
    obtain ⟨_, _, _, inserted, completing⟩ := done
    obtain ⟨accepted, rfl⟩ := insertRow_of_insertInto inserted
    obtain rfl := (completeIdempotency_frame completing).2
    exact quiet_requested .createTenant rfl fresh record (by decide) (.append _ _ (by decide)) completing

theorem writeHealth_frame (db : Db) (worker : Worker) (health : Option WorkerHealth) :
    Frame [.workers] db.rows (writeHealth db worker health).rows := by
  cases health with
  | none => exact .refl _ _
  | some health =>
    simp only [writeHealth]
    split_ifs
    · exact .refl _ _
    · exact .update _ _ _ (by decide)

theorem sweepWorker_frame (now : Time) (db : Db) (worker : Worker) :
    Frame [.workers] db.rows (sweepWorker now db worker).rows := by
  rw [sweepWorker]
  rcases (db.rows .workerIncarnations).find? _ with _ | incarnation
  · exact .refl _ _
  · rw [Option.elim_some]
    -- spelt out: unifying a hole here would count the age's bound down in microseconds
    exact writeHealth_frame db worker
      (staleHealth now (worker.lastHeartbeatAt.getD incarnation.processStartedAt))

theorem sweepHealth_frame {now : Time} (swept : sweepHealth db now = .ok after) :
    Frame [.workers] db.rows after.rows := by
  simp only [sweepHealth, bind_eq_ok] at swept
  obtain ⟨mode, _, swept⟩ := swept
  split at swept
  all_goals
    rw [pure_eq_ok] at swept
    subst swept
  · exact .refl _ _
  · exact foldl_frame db fun db worker => sweepWorker_frame now db worker

end

end Nexa
