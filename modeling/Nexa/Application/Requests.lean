import Nexa.Application.Authority
import Nexa.Application.Recovery

namespace Nexa

open Relational Outcome

structure Principal where
  userId : UserId
  tenantAdmin : Bool
  /-- What revalidation of the credential, membership or scope raised. -/
  refusal : Option ApplicationError

structure Request where
  principal : Principal
  key : Nat
  requestHash : Nat

def authorize (principal : Principal) : Outcome Unit := refuse principal.refusal

def resolveExpectedVersion (ifMatch : Option Nat) : Outcome Nat :=
  orFail
    (.application
      { code := .preconditionRequired, status := 428, message := "If-Match is required" })
    ifMatch

def versionConflict (message : String) : Failure := .application { code := .versionConflict, status := 412, message }

/-- A pending record, or the response stored under its key. -/
def beginIdempotency (db : Db) (call : Call) (context : RequestContext) (principalId : Nat)
    (operation : RequestOperation) (key requestHash : Nat) (expiresAt : Time) :
    Outcome (Db × Option StoredResponse) :=
  match db.insert .idempotencyRecords
      { idempotencyId := call.fresh 0, context, principalId, operation, key, requestHash
        response := none, resourceId := none, expiresAt } with
  | some inserted => .ok (inserted, none)
  | none => do
    let found ← oneOrNone (db.select .idempotencyRecords fun row =>
      row.context = context ∧ row.principalId = principalId ∧ row.operation = operation ∧ row.key = key)
    let row ← orFail
      (dependencyUnavailable "Idempotency record is changing; retry the request") found
    require (row.requestHash = requestHash)
      (.application
        { code := .idempotencyConflict, status := 409
          message := "Idempotency-Key was already used with a different request" })
    let response ← orFail
      (.application
        { code := .idempotencyInProgress, status := 409
          message := "An identical request is still in progress", retryAfter := some 1 })
      row.response
    return (db, some response)

def respondPatch (response : StoredResponse) : Patch nexaSchema .idempotencyRecords where
  apply record := { record with response := some response, resourceId := response.resourceId }

def completeIdempotency (db : Db) (call : Call) (response : StoredResponse) :
    Outcome (Db × StoredResponse) := do
  let pending (row : IdempotencyRecord) : Bool := row.idempotencyId = call.fresh 0 ∧ row.response = none
  require ((db.select .idempotencyRecords pending).length = 1)
    (.runtime "Idempotency record is not pending")
  return (db.update .idempotencyRecords pending (respondPatch response), response)

def visibleSubmitter (db : Db) (principal : Principal) (tenantId : TenantId) (jobId : JobId) :
    Outcome UserId := do
  let missing : Failure := .application { code := .resourceNotFound, status := 404, message := "Job was not found" }
  let found ← oneOrNone (db.select .jobs fun row => row.tenantId = tenantId ∧ row.jobId = jobId)
  let job ← orFail missing found
  require (principal.tenantAdmin = true ∨ job.submitterUserId = principal.userId) missing
  return job.submitterUserId

end Nexa
