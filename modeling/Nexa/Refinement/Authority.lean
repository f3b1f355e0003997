import Nexa.Lifecycle.Local

namespace Nexa

open Relational Outcome Tables

structure Bound (db : Db) (authority : Authority) (rows : AuthorityRows) : Prop where
  job : rows.job ∈ db.rows .jobs
  attempt : rows.attempt ∈ db.rows .attempts
  lease : rows.lease ∈ db.rows .attemptLeases
  allocation : rows.allocation ∈ db.rows .allocations
  grant : rows.grant ∈ db.rows .authorityGrants
  jobId : rows.job.jobId = rows.attempt.jobId
  attemptId : rows.attempt.attemptId = authority.attemptId
  leaseId : rows.lease.leaseId = authority.leaseId
  allocationId : rows.allocation.allocationId = authority.allocationId
  leaseAttempt : rows.lease.attemptId = authority.attemptId
  leaseAllocation : rows.lease.allocationId = authority.allocationId
  allocationAttempt : rows.allocation.attemptId = authority.attemptId
  grantAttempt : rows.grant.attemptId = authority.attemptId
  grantOpen : rows.grant.endedAt = none
  notCancelled : rows.attempt.workerId = authority.workerId -> rows.job.desiredState ≠ .cancelled
  workerId : rows.attempt.workerId = authority.workerId
  leaseWorker : rows.lease.workerId = authority.workerId
  grantLease : rows.grant.leaseId = authority.leaseId
  fence : rows.job.jobFence = authority.jobFence

variable {authority : Authority}

theorem authorityRows_bound {db : Db} {workerId : WorkerId}
    {rows : AuthorityRows} (found : authorityRows db authority workerId = .ok rows) :
    Bound db authority rows := by
  simp only [authorityRows, bind_eq_ok, require_eq_ok, orFail_eq_ok, one_eq_ok, pure_eq_ok, exists_const] at found
  obtain ⟨rfl, _, foundAttempt, attempt, rfl, job, foundJob, _, foundLease, _, foundAllocation, _,
    foundGrant, uncancelled, lease, rfl, allocation, rfl, grant, rfl, fences, leaseNames,
    allocationNames, grantNames, rfl⟩ := found
  obtain ⟨attemptMember, sameAttempt⟩ := mem_of_oneOrNone foundAttempt
  obtain ⟨jobMember, sameJob⟩ := Database.mem_of_select foundJob
  obtain ⟨leaseMember, sameLease⟩ := mem_of_oneOrNone foundLease
  obtain ⟨allocationMember, sameAllocation⟩ := mem_of_oneOrNone foundAllocation
  obtain ⟨grantMember, sameGrant⟩ := mem_of_oneOrNone foundGrant
  simp only [decide_eq_true_eq] at sameAttempt sameJob sameLease sameAllocation sameGrant
  constructor <;> simp_all

section

variable {db : Db} {authority : Authority} {rows : AuthorityRows}

theorem Bound.leaseOwner (bound : Bound db authority rows) : rows.lease.jobId = rows.job.jobId := by
  rw [bound.jobId]
  exact lease_owner db bound.attempt bound.lease (bound.leaseAttempt.trans bound.attemptId.symm)

theorem Bound.grantOwner (bound : Bound db authority rows) : rows.grant.jobId = rows.job.jobId := by
  rw [bound.jobId]
  exact grant_owner db bound.attempt bound.grant (bound.grantAttempt.trans bound.attemptId.symm)

theorem Bound.allocationOwner (bound : Bound db authority rows) : rows.allocation.jobId = rows.job.jobId := by
  rw [bound.jobId]
  exact allocation_owner db bound.attempt bound.allocation
    (bound.allocationAttempt.trans bound.attemptId.symm)

theorem Live.attempt_eq {jobId : JobId} {held : AuthorityRows} (live : Live (db.rows.slice jobId) held)
    {attempt : Attempt} (member : attempt ∈ db.rows .attempts)
    (same : held.attempt.attemptId = attempt.attemptId) : held.attempt = attempt :=
  attempt_unique db (mem_slice.1 live.attemptMember).1 member same

theorem Live.allocation_mem {jobId : JobId} {held : AuthorityRows}
    (live : Live (db.rows.slice jobId) held) : held.allocation ∈ db.rows .allocations := by
  have inside : held.allocation ∈ unreleased (db.rows.slice jobId) := by
    rw [live.onlyAllocation]
    exact List.mem_singleton_self _
  exact (mem_slice.1 (mem_unreleased.1 inside).1).1

theorem Bound.holding (bound : Bound db authority rows) (unrevoked : rows.lease.revokedAt = none)
    {v : Lifecycle} (represents : Represents (db.rows.slice rows.job.jobId) v) :
    rows.onto v = v ∧ Holding (db.rows.slice rows.job.jobId) rows v := by
  obtain ⟨held, live, sameLease, custody⟩ := represents.live_of_lease bound.lease bound.leaseOwner unrevoked
  obtain ⟨onlyJob, control⟩ := represents.job_eq bound.job rfl
  have sameJob : held.job = rows.job := by simpa [live.onlyJob] using onlyJob
  have sameAttempt : held.attempt = rows.attempt := by
    refine live.attempt_eq bound.attempt ?_
    rw [← live.leaseAttempt, sameLease, bound.leaseAttempt, bound.attemptId]
  have sameAllocation : held.allocation = rows.allocation := by
    refine allocation_unique db live.allocation_mem bound.allocation ?_
    rw [← live.leaseAllocation, sameLease, bound.leaseAllocation, bound.allocationId]
  have sameGrant : held.grant = rows.grant := by
    have inside : rows.grant ∈ openGrants (db.rows.slice rows.job.jobId) := by
      rw [mem_openGrants, mem_slice]
      exact ⟨⟨bound.grant, congrArg some bound.grantOwner⟩, bound.grantOpen⟩
    rw [live.onlyGrant, List.mem_singleton] at inside
    exact inside.symm
  have same : held = rows := by
    cases held
    cases rows
    simp_all
  have onto : rows.onto v = v := by
    rw [AuthorityRows.onto, control, ← same, ← custody]
  exact ⟨onto, onto.symm ▸ represents, same ▸ live⟩

theorem Bound.present (bound : Bound db authority rows) : db.rows.slice rows.job.jobId .jobs ≠ [] := by
  have inside : rows.job ∈ db.rows.slice rows.job.jobId .jobs := mem_slice.2 ⟨bound.job, rfl⟩
  exact List.ne_nil_of_mem inside

def fairnessTables : List Table := [.fairnessState, .fairnessLedgers, .ledgerSegments]

def CallbackOperation.writes : CallbackOperation -> List Table
  | .claimAttempt | .renewAttempt => ownedTables
  | .startAttempt => .containerIdentities :: ownedTables
  | .adoptAttempt => .checkpointReservations :: .resultReservations :: ownedTables
  | .reserveCheckpoint => .checkpointReservations :: ownedTables
  | .publishCheckpoint =>
    .checkpointReservations :: .checkpoints :: .recognizedChunks :: .inferenceExtents :: ownedTables
  | .reserveResult => [.resultReservations]
  | .completeAttempt =>
    [.resultReservations, .recognizedChunks, .inferenceExtents, .admissionCounters,
      .idempotencyRecords] ++ ownedTables
  | .failAttempt => .containerIdentities :: .resultReservations :: .checkpointReservations :: ownedTables
  | .reportCleanup =>
    [.resultReservations, .containerIdentities, .admissionCounters, .idempotencyRecords] ++
      fairnessTables ++ ownedTables
  | .workerHeartbeat => [.workers, .workerIncarnations, .workerInventories] ++ fairnessTables

def Advances (rows : AuthorityRows) (write : Tables nexaSchema -> Tables nexaSchema) : Prop :=
  ∀ s v, Holding s rows v -> Fits (rows.onto v) ->
    ∃ next, Move (rows.onto v) .operation next ∧ Represents (write s) next ∧ next.load = (rows.onto v).load

theorem Bound.advance {after : Tables nexaSchema} {touched : List Table}
    {write : Tables nexaSchema -> Tables nexaSchema} (bound : Bound db authority rows)
    (operation : CallbackOperation) (unrevoked : rows.lease.revokedAt = none)
    (rewritten : Local rows.job.jobId touched write db.rows after)
    (steady : .admissionCounters ∉ touched ++ ownedTables)
    (inside : touched ++ ownedTables ⊆ operation.writes) (advances : Advances rows write) :
    Frame operation.writes db.rows after ∧ Moves .operation rows.job.jobId db.rows after := by
  refine ⟨rewritten.frame.mono inside, Moves.of_local rewritten bound.present ?_⟩
  intro v represents fits
  obtain ⟨onto, holding⟩ := bound.holding unrevoked represents
  obtain ⟨next, move, represented, load⟩ := advances _ v holding (onto.symm ▸ fits)
  rw [onto] at move load
  refine ⟨next, move, represented, ?_⟩
  rw [load]
  exact .steady (rewritten.frame _ steady) _ _

end

def pendingReceipt (call : Call) (workerId : WorkerId) (operation : CallbackOperation)
    (callback : Callback) : CallbackReceipt where
  receiptId := call.fresh 0
  workerId := workerId
  operation := operation
  callbackId := callback.callbackId
  payloadHash := callback.payloadHash
  acknowledgment := none

def Answered (db : Db) (workerId : WorkerId) (operation : CallbackOperation) (callback : Callback)
    (acknowledgment : Acknowledgment) : Prop :=
  ∃ receipt ∈ db.rows .callbackReceipts, receipt.workerId = workerId ∧
    receipt.operation = operation ∧ receipt.callbackId = callback.callbackId ∧
    receipt.payloadHash = callback.payloadHash ∧ receipt.acknowledgment = some acknowledgment

variable {answer : Acknowledgment}

section

variable {db after : Db} {call : Call} {workerId : WorkerId} {operation : CallbackOperation}
  {callback : Callback} {replay : Option Acknowledgment}

theorem beginCallback_cases (begun : beginCallback db call workerId operation callback = .ok (after, replay)) :
    (replay = none ∧ db.Insertable .callbackReceipts (pendingReceipt call workerId operation callback) ∧
        after.rows = db.rows.append .callbackReceipts (pendingReceipt call workerId operation callback)) ∨
      (after = db ∧ ∃ acknowledgment, replay = some acknowledgment ∧
        Answered db workerId operation callback acknowledgment) := by
  simp only [beginCallback, bind_eq_ok] at begun
  obtain ⟨mode, _, begun⟩ := begun
  split at begun
  next inserted accepted =>
    rw [pure_eq_ok, Prod.mk.injEq] at begun
    obtain ⟨rfl, rfl⟩ := begun
    exact .inl ⟨rfl, Database.insert_eq_some.1 accepted⟩
  next =>
    simp only [bind_eq_ok, one_eq_ok, require_eq_ok, orFail_eq_ok, pure_eq_ok, Prod.mk.injEq, exists_const] at begun
    obtain ⟨row, found, hash, acknowledgment, stored, rfl, rfl⟩ := begun
    obtain ⟨member, names⟩ := Database.mem_of_select found
    simp only [decide_eq_true_eq] at names
    exact .inr ⟨rfl, acknowledgment, rfl, row, member, names.1, names.2.1, names.2.2, hash, stored⟩

theorem completeCallback_frame {body : Acknowledgment}
    (completed : completeCallback db call body = .ok (after, answer)) :
    Frame [.callbackReceipts] db.rows after.rows ∧ answer = body := by
  simp only [completeCallback, bind_eq_ok, require_eq_ok, pure_eq_ok, Prod.mk.injEq, exists_const] at completed
  obtain ⟨_, rfl, rfl⟩ := completed
  exact ⟨.update _ _ _ (by simp), rfl⟩

/-- Its receipt is new, and its authority names rows of the store. -/
structure Opened (db after : Db) (call : Call) (workerId : WorkerId) (operation : CallbackOperation)
    (callback : Callback) (authority : Authority) (rows : AuthorityRows) : Prop where
  fresh : db.Insertable .callbackReceipts (pendingReceipt call workerId operation callback)
  receipt : after.rows = db.rows.append .callbackReceipts (pendingReceipt call workerId operation callback)
  bound : Bound after authority rows

/-- A replay, or an authority with an open lease did something between the receipt and the answer. -/
inductive Called (db : Db) (call : Call) (workerId : WorkerId) (operation : CallbackOperation)
    (callback : Callback) (authority : Authority) (after : Db) (answer : Acknowledgment) : Prop where
  | replayed (same : after = db) (answered : Answered db workerId operation callback answer)
  | performed {opened done : Db} {rows : AuthorityRows} {body : Acknowledgment}
      (opens : Opened db opened call workerId operation callback authority rows)
      (unrevoked : rows.lease.revokedAt = none)
      (frame : Frame operation.writes opened.rows done.rows)
      (progress : Progresses .operation opened.rows done.rows)
      (completed : completeCallback done call body = .ok (after, answer))

theorem beginCallback_called {opened : Db}
    (begun : beginCallback db call workerId operation callback = .ok (opened, replay))
    {next : Outcome (Db × Acknowledgment)}
    (result : (match replay with
      | some acknowledgment => (pure (opened, acknowledgment) : Outcome (Db × Acknowledgment))
      | none => next) = .ok (after, answer)) :
    (after = db ∧ Answered db workerId operation callback answer) ∨
      db.Insertable .callbackReceipts (pendingReceipt call workerId operation callback) ∧
        opened.rows = db.rows.append .callbackReceipts (pendingReceipt call workerId operation callback) ∧
        next = .ok (after, answer) := by
  rcases beginCallback_cases begun with ⟨rfl, accepted, inserted⟩ | ⟨rfl, stored, rfl, answered⟩
  · exact .inr ⟨accepted, inserted, result⟩
  · simp only [pure_eq_ok, Prod.mk.injEq] at result
    obtain ⟨rfl, rfl⟩ := result
    exact .inl ⟨rfl, answered⟩

theorem callbackRows_cases {attemptId : AttemptId} {found : Acknowledgment ⊕ AuthorityRows}
    (called : callbackRows db call operation callback authority attemptId = .ok (after, found)) :
    authority.attemptId = attemptId ∧
      ((after = db ∧ ∃ acknowledgment, found = .inl acknowledgment ∧
          Answered db authority.workerId operation callback acknowledgment) ∨
        ∃ rows, found = .inr rows ∧
          Opened db after call authority.workerId operation callback authority rows) := by
  simp only [callbackRows, bind_eq_ok, require_eq_ok, exists_const] at called
  obtain ⟨rfl, ⟨begun, replay⟩, started, worker, _, incarnation, _, called⟩ := called
  refine ⟨rfl, ?_⟩
  rcases beginCallback_cases started with ⟨rfl, accepted, inserted⟩ | ⟨rfl, stored, rfl, answered⟩
  · simp only [bind_eq_ok, pure_eq_ok, Prod.mk.injEq] at called
    obtain ⟨rows, bound, rfl, rfl⟩ := called
    exact .inr ⟨rows, rfl, accepted, inserted, authorityRows_bound bound⟩
  · simp only [pure_eq_ok, Prod.mk.injEq] at called
    obtain ⟨rfl, rfl⟩ := called
    exact .inl ⟨rfl, stored, rfl, answered⟩

theorem callbackRows_called {opened : Db} {attemptId : AttemptId} {found : Acknowledgment ⊕ AuthorityRows}
    (called : callbackRows db call operation callback authority attemptId = .ok (opened, found))
    {next : AuthorityRows -> Outcome (Db × Acknowledgment)}
    (result : (match found with
      | .inl acknowledgment => (pure (opened, acknowledgment) : Outcome (Db × Acknowledgment))
      | .inr rows => next rows) = .ok (after, answer)) :
    authority.attemptId = attemptId ∧
      (Called db call authority.workerId operation callback authority after answer ∨
        ∃ rows, Opened db opened call authority.workerId operation callback authority rows ∧
          next rows = .ok (after, answer)) := by
  obtain ⟨same, ⟨rfl, acknowledgment, rfl, answered⟩ | ⟨rows, rfl, opens⟩⟩ := callbackRows_cases called
  · simp only [pure_eq_ok, Prod.mk.injEq] at result
    obtain ⟨rfl, rfl⟩ := result
    exact ⟨same, .inl (.replayed rfl answered)⟩
  · exact ⟨same, .inr ⟨rows, opens, result⟩⟩

end

theorem liveAuthority_ok {rows : AuthorityRows} {now : Time} {value : Unit}
    (checked : liveAuthority rows now = .ok value) :
    livePhase rows.job rows.attempt = true ∧ liveAttemptState rows.job.desiredState rows.attempt.state = true ∧
      rows.lease.revokedAt = none := by
  simp only [liveAuthority, bind_eq_ok, require_eq_ok, exists_const] at checked
  exact ⟨checked.2.1, checked.2.2.1, checked.2.2.2.2.1⟩

end Nexa
