import Nexa.Api.Rows

namespace Nexa.Api

open Interaction Locking

inductive Credential where
  | browser (sessionId : SessionId)
  | cli (tokenId : TokenId)
  | worker
  | bootstrap
deriving DecidableEq

inductive Need where
  | nothing
  | admin
  | tenant (tenantId : TenantId)
deriving DecidableEq

structure Authorization where
  credential : Credential
  need : Need
deriving DecidableEq

/-- The clocks, identities, secrets and the host. -/
inductive Outer where
  | transactionTimestamp
  | clockTimestamp
  | newUuid
  | lockTimeout
  | conflict
  | connectionLost
  | observedUser (username : String)
  | verifyPassword (passwordHash : Nat) (password : String)
  | hashPassword (password : String)
  | store (command : StoreCommand)

abbrev Outer.Answer : Outer -> Type
  | .transactionTimestamp => Time
  | .clockTimestamp => Time
  | .newUuid => Nat
  | .lockTimeout => Bool
  | .conflict => Bool
  | .connectionLost => Bool
  | .observedUser _ => Option User
  | .verifyPassword _ _ => Bool
  | .hashPassword _ => Nat
  | .store command => command.Answer

abbrev outer : Interface where
  Command := Outer
  Answer := Outer.Answer

/-- What a transaction was asked for with, unless the system itself runs it. -/
abbrev Label := Option Authorization

abbrev Operation (α : Type) := Code outer Key Row Label Failure α

def ask (command : Outer) : Operation command.Answer := @outside outer Key Row Label Failure command

def raise {α : Type} (code : ErrorCode) (status : Nat) (message : String) : Operation α :=
  .raise (.application { code, status, message })

def require (condition : Prop) [Decidable condition] (code : ErrorCode) (status : Nat) (message : String) :
    Operation Unit :=
  .demand condition (.application { code, status, message })

def only (condition : Prop) [Decidable condition] (program : Operation Unit) : Operation Unit :=
  if condition then program else pure ()

def transactionTimestamp : Operation Time := ask .transactionTimestamp

def clockTimestamp : Operation Time := ask .clockTimestamp

def newUuid : Operation Nat := ask .newUuid

namespace Table

variable {α : Type} (table : Table α)

def selects (wanted : α -> Bool) (row : Row) : Bool := (table.decode row).any wanted

def fetch (key : Key) (strength : Strength) : Operation (Option α) := do
  let row <- acquire key strength
  pure (row.bind table.decode)

def query (wanted : α -> Bool) : Operation (List α) := do
  let rows <- select (table.selects wanted)
  pure (rows.filterMap table.decode)

def queryLocked (wanted : α -> Bool) (strength : Strength) : Operation (List α) := do
  let rows <- selectLocked (table.selects wanted) strength
  pure (rows.filterMap table.decode)

def update (wanted : α -> Bool) (change : α -> α) : Operation Nat :=
  updateWhere (table.selects wanted) fun row => ((table.decode row).map (table.encode ∘ change)).getD row

def add (value : α) : Operation Unit := do
  let inserted <- insert (table.encode value)
  .demand (inserted = true) .integrityError

end Table

def one {α : Type} : Option α -> Operation α
  | some value => pure value
  | none => .raise .noResultFound

def oneOrNone {α : Type} : List α -> Operation (Option α)
  | [] => pure none
  | [value] => pure (some value)
  | _ => .raise .multipleResultsFound

def operationalMode : Operation OperationalMode := do
  let mode <- policyVersions.fetch .policy .share
  one mode

def validKey (key : String) : Bool :=
  16 ≤ key.length ∧ key.length ≤ 128 ∧ key.toList.all fun character => '!' ≤ character ∧ character ≤ '~'

structure IdempotencyOutcome where
  recordId : RecordId
  replay : Option StoredResponse

def inProgress : ApplicationError where
  code := .idempotencyInProgress
  status := 409
  message := "An identical request is still in progress"
  retryAfter := some 1

def replayOf (row : IdempotencyRecord) (requestHash : Nat) : Operation IdempotencyOutcome := do
  require (row.requestHash = requestHash) .idempotencyConflict 409
    "Idempotency-Key was already used with a different request"
  .demand (row.state = .completed) (.application inProgress)
  .demand (row.oneTimeSecret = false)
    (.application
      { code := .oneTimeSecretUnavailable, status := 409
        message := "The one-time secret was already committed and cannot be replayed"
        location := row.response.bind fun response => response.headers.location })
  match row.response with
  | none => .raise .typeError
  | some response => pure ⟨row.idempotencyId, some response⟩

/-- A record that goes in between frees the scope. -/
def claimRecord (record : IdempotencyRecord) : Nat -> Operation IdempotencyOutcome
  | 0 =>
    .raise (.application
      { code := .dependencyUnavailable, status := 503
        message := "Idempotency record is changing; retry the request", retryAfter := some 1 })
  | attempts + 1 => do
    let timeout <- ask .lockTimeout
    .demand (timeout = false) (.application inProgress)
    let inserted <- insert (.record record)
    if inserted then
      pure ⟨record.idempotencyId, none⟩
    else
      let rows <- idempotencyRecords.queryLocked (fun row => row.scope = record.scope) .update
      let found <- oneOrNone rows
      match found with
      | some row => replayOf row record.requestHash
      | none => claimRecord record attempts

def beginIdempotency (scope : RecordScope) (requestHash : Nat) : Operation IdempotencyOutcome := do
  require (validKey scope.idempotencyKey) .validationFailed 422
    "Idempotency-Key must contain 16 to 128 visible ASCII characters"
  let recordId <- newUuid
  claimRecord
    { idempotencyId := recordId, scope, requestHash, state := .pending, response := none
      resourceId := none, oneTimeSecret := false } 3

def completeIdempotency (recordId : RecordId) (response : StoredResponse) (resourceId : Option Nat)
    (oneTimeSecret : Bool) : Operation Unit := do
  let changed <- idempotencyRecords.update
    (fun row => row.idempotencyId = recordId ∧ row.state = .pending)
    (fun row => { row with state := .completed, response := some response, resourceId, oneTimeSecret })
  .demand (changed = 1) (.runtimeError "Idempotency record is not pending")

end Nexa.Api
