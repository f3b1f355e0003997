import Nexa.Refinement.Completion

namespace Nexa

open Relational Outcome

structure RequestKey where
  context : RequestContext
  principalId : Nat
  operation : RequestOperation
  key : Nat

def IdempotencyRecord.requestKey (record : IdempotencyRecord) : RequestKey where
  context := record.context
  principalId := record.principalId
  operation := record.operation
  key := record.key

def pendingRecord (call : Call) (name : RequestKey) (requestHash : Nat) (expiresAt : Time) : IdempotencyRecord where
  idempotencyId := call.fresh 0
  context := name.context
  principalId := name.principalId
  operation := name.operation
  key := name.key
  requestHash := requestHash
  response := none
  resourceId := none
  expiresAt := expiresAt

def Stored (db : Db) (name : RequestKey) (requestHash : Nat) (response : StoredResponse) : Prop :=
  ∃ record ∈ db.rows .idempotencyRecords, record.requestKey = name ∧ record.requestHash = requestHash ∧
    record.response = some response

section

variable {db after : Db} {call : Call} {name : RequestKey} {requestHash : Nat} {expiresAt : Time}

theorem beginIdempotency_cases {replay : Option StoredResponse}
    (begun : beginIdempotency db call name.context name.principalId name.operation name.key requestHash
      expiresAt = .ok (after, replay)) :
    (replay = none ∧ db.Insertable .idempotencyRecords (pendingRecord call name requestHash expiresAt) ∧
        after.rows = db.rows.append .idempotencyRecords (pendingRecord call name requestHash expiresAt)) ∨
      (after = db ∧ ∃ response, replay = some response ∧ Stored db name requestHash response) := by
  simp only [beginIdempotency] at begun
  split at begun
  next inserted accepted =>
    rw [ok_eq_ok, Prod.mk.injEq] at begun
    obtain ⟨rfl, rfl⟩ := begun
    exact .inl ⟨rfl, Database.insert_eq_some.1 accepted⟩
  next =>
    simp only [bind_eq_ok, orFail_eq_ok, require_eq_ok, pure_eq_ok, Prod.mk.injEq, exists_const] at begun
    obtain ⟨_, found, record, rfl, hash, response, stored, rfl, rfl⟩ := begun
    obtain ⟨member, names⟩ := mem_of_oneOrNone found
    simp only [decide_eq_true_eq] at names
    refine .inr ⟨rfl, response, rfl, record, member, ?_, hash, stored⟩
    obtain ⟨context, principalId, operation, key⟩ := name
    simpa [IdempotencyRecord.requestKey] using names

theorem completeIdempotency_frame {body answer : StoredResponse}
    (completed : completeIdempotency db call body = .ok (after, answer)) :
    Tables.Frame [.idempotencyRecords] db.rows after.rows ∧ answer = body := by
  simp only [completeIdempotency, bind_eq_ok, require_eq_ok, pure_eq_ok, Prod.mk.injEq, exists_const] at completed
  obtain ⟨_, rfl, rfl⟩ := completed
  exact ⟨.update _ _ _ (by simp), rfl⟩

def RequestOperation.writes : RequestOperation -> List Table
  | .submitJob => [.jobs, .jobSpecs, .events, .admissionCounters, .rateBuckets]
  | .retryJob =>
    [.jobs, .jobSpecs, .events, .admissionCounters, .rateBuckets, .checkpointReferences]
  | .cancelJob =>
    [.reservations, .admissionCounters, .resultReservations, .checkpointReservations] ++ ownedTables
  | .pauseJob => [.jobs, .events]
  | .resumeJob => [.jobs, .events, .admissionCounters]
  | .submitSweep => []
  | .createIncarnation => [.workers, .workerIncarnations]
  | .updateTenantPolicy => .tenantPolicies :: fairnessTables
  | .updateGlobalPolicy => .policyVersions :: fairnessTables
  | .disableWorker => .workers :: .resultReservations :: .checkpointReservations :: ownedTables
  | .drainWorker | .enableWorker => [.workers]
  | .createTenant => [.tenantPolicies]

/-- An idempotent request was a replay, or did something between its record and its response. -/
inductive Requested (db : Db) (call : Call) (name : RequestKey) (requestHash : Nat) (after : Db)
    (answer : StoredResponse) : Prop where
  | replayed (same : after = db) (stored : Stored db name requestHash answer)
  | performed {expiresAt : Time} {opened done closed : Db}
      (fresh : db.Insertable .idempotencyRecords (pendingRecord call name requestHash expiresAt))
      (record : opened.rows = db.rows.append .idempotencyRecords (pendingRecord call name requestHash expiresAt))
      (frame : Tables.Frame name.operation.writes opened.rows done.rows)
      (proceeds : Proceeds opened.rows done.rows)
      (completed : completeIdempotency done call answer = .ok (closed, answer))
      (retained : after = closed ∨ ∃ jobId terminalAt days, after = extendRetention closed jobId terminalAt days)

theorem beginIdempotency_requested (name : RequestKey) {opened : Db} {replay : Option StoredResponse}
    (begun : beginIdempotency db call name.context name.principalId name.operation name.key requestHash
      expiresAt = .ok (opened, replay))
    {next : Outcome (Db × StoredResponse)} {answer : StoredResponse}
    (result : (match replay with
      | some response => (pure (opened, response) : Outcome (Db × StoredResponse))
      | none => next) = .ok (after, answer)) :
    (after = db ∧ Stored db name requestHash answer) ∨
      db.Insertable .idempotencyRecords (pendingRecord call name requestHash expiresAt) ∧
        opened.rows = db.rows.append .idempotencyRecords (pendingRecord call name requestHash expiresAt) ∧
        next = .ok (after, answer) := by
  rcases beginIdempotency_cases begun with ⟨rfl, accepted, inserted⟩ | ⟨rfl, stored, rfl, found⟩
  · exact .inr ⟨accepted, inserted, result⟩
  · simp only [pure_eq_ok, Prod.mk.injEq] at result
    obtain ⟨rfl, rfl⟩ := result
    exact .inl ⟨rfl, found⟩

end

end Nexa
