import Nexa.Api.Transactions

namespace Nexa.Api

open Interaction Locking

structure IdentitySettings where
  browserSessionIdleTtlSeconds : Nat
  browserSessionAbsoluteTtlSeconds : Nat

structure TenantMembership where
  tenantId : TenantId
  role : MembershipRole
deriving DecidableEq

structure Principal where
  userId : UserId
  credential : Credential
  scopes : List TokenScope
  memberships : List TenantMembership
  systemAdmin : Bool

def authenticationError : ApplicationError where
  code := .authenticationRequired
  status := 401
  message := "Invalid credentials"

def membershipsOf (userId : UserId) : Operation (List TenantMembership) := do
  let rows <- select fun row =>
    memberships.selects (fun membership => membership.userId = userId) row ||
      tenants.selects (fun tenant => tenant.enabled) row
  let enabled := (rows.filterMap tenants.decode).map fun tenant => tenant.tenantId
  let found := (rows.filterMap memberships.decode).filter fun membership => membership.tenantId ∈ enabled
  .demand (found.length ≤ 100)
    (.application
      { code := .dependencyUnavailable, status := 503
        message := "Principal membership context exceeds the API bound", retryAfter := some 1 })
  pure (found.map fun membership => ⟨membership.tenantId, membership.role⟩)

def systemAdmin (userId : UserId) : Operation Bool := do
  let rows <- systemRoleGrants.query fun grant => grant.userId = userId ∧ grant.revokedAt = none
  pure !rows.isEmpty

def principalOf (userId : UserId) (credential : Credential) (scopes : List TokenScope) :
    Operation Principal := do
  let memberships <- membershipsOf userId
  let admin <- systemAdmin userId
  pure ⟨userId, credential, scopes, memberships, admin⟩

def browserSessionRow (sessionId : SessionId) : Operation (Option (BrowserSession × User)) := do
  let session <- browserSessions.fetch (.session sessionId) .noKeyUpdate
  match session with
  | none => pure none
  | some session => do
    let user <- users.fetch (.user session.userId) .noKeyUpdate
    pure (user.map fun user => (session, user))

def cliTokenRow (tokenId : TokenId) : Operation (Option (CliToken × User)) := do
  let token <- cliTokens.fetch (.token tokenId) .noKeyUpdate
  match token with
  | none => pure none
  | some token => do
    let user <- users.fetch (.user token.userId) .noKeyUpdate
    pure (user.map fun user => (token, user))

def liveSession (settings : IdentitySettings) (session : BrowserSession) (user : User) (now : Time) : Bool :=
  session.revokedAt = none ∧ now < session.expiresAt ∧
    now < session.lastSeenAt + settings.browserSessionIdleTtlSeconds ∧ user.enabled

def liveToken (token : CliToken) (user : User) (now : Time) : Bool :=
  token.revokedAt = none ∧ now < token.expiresAt ∧ user.enabled

def revalidatePrincipal (settings : IdentitySettings) : Credential -> Operation Principal
  | .browser sessionId => do
    let row <- browserSessionRow sessionId
    let now <- clockTimestamp
    match row with
    | none => .raise (.application authenticationError)
    | some (session, user) => do
      .demand (liveSession settings session user now) (.application authenticationError)
      principalOf session.userId (.browser sessionId) []
  | .cli tokenId => do
    let row <- cliTokenRow tokenId
    let now <- clockTimestamp
    match row with
    | none => .raise (.application authenticationError)
    | some (token, user) => do
      .demand (liveToken token user now) (.application authenticationError)
      principalOf token.userId (.cli tokenId) token.scopes
  | .worker => .raise (.application authenticationError)
  | .bootstrap => .raise (.application authenticationError)

def Credential.isBrowser : Credential -> Bool
  | .browser _ => true
  | _ => false

def requireAdmin (principal : Principal) (write : Bool) : Operation Unit := do
  .demand principal.systemAdmin
    (.application
      { code := .permissionDenied, status := 403, message := "An active SYSTEM_ADMIN grant is required" })
  let required := if write then TokenScope.adminWrite else TokenScope.adminRead
  require (principal.credential.isBrowser ∨ required ∈ principal.scopes) .permissionDenied 403
    ("The exact " ++ required.text ++ " scope is required")

def requireTenantMembership (principal : Principal) (tenantId : TenantId) : Operation Unit :=
  require (∃ membership ∈ principal.memberships, membership.tenantId = tenantId) .permissionDenied 403
    "Active tenant membership is required"

def authorizeAdmin (settings : IdentitySettings) (credential : Credential) (write : Bool) :
    Operation Principal := do
  let live <- revalidatePrincipal settings credential
  requireAdmin live write
  pure live

def authorizeTenant (settings : IdentitySettings) (credential : Credential) (tenantId : TenantId)
    (required : TokenScope) : Operation Principal := do
  let live <- revalidatePrincipal settings credential
  requireTenantMembership live tenantId
  require (live.credential.isBrowser ∨ required ∈ live.scopes) .permissionDenied 403
    ("The exact " ++ required.text ++ " scope is required")
  pure live

def loginOperation (settings : IdentitySettings) (observed : User) (sessionId : SessionId)
    (secretHash csrfSecretHash : Nat) : Operation Principal := do
  let found <- users.fetch (.user observed.userId) .noKeyUpdate
  let user <- one found
  .demand (user.enabled ∧ user.passwordHash = observed.passwordHash) (.application authenticationError)
  let mode <- operationalMode
  let admin <- systemAdmin user.userId
  require (mode = .writeFrozen -> admin = true) .permissionDenied 403
    "Only an enabled system administrator may login while frozen"
  let now <- clockTimestamp
  browserSessions.add
    { sessionId, userId := user.userId, secretHash, csrfSecretHash
      expiresAt := now + settings.browserSessionAbsoluteTtlSeconds, lastSeenAt := now, revokedAt := none }
  principalOf user.userId (.browser sessionId) []

def login (settings : IdentitySettings) (username password : String) (secretHash csrfSecretHash : Nat) :
    Operation Unit := do
  let observed <- ask (.observedUser username)
  match observed with
  | none => .raise (.application authenticationError)
  | some user => do
    let valid <- ask (.verifyPassword user.passwordHash password)
    .demand (valid = true ∧ user.enabled = true) (.application authenticationError)
    let sessionId <- newUuid
    let _ <- transact none (loginOperation settings user sessionId secretHash csrfSecretHash)
    pure ()

structure Cookie where
  sessionId : SessionId
  digest : Nat
  csrfDigest : Nat

def resolveBrowserSession (settings : IdentitySettings) (cookie : Cookie) : Operation Principal := do
  let row <- browserSessionRow cookie.sessionId
  match row with
  | none => .raise (.application authenticationError)
  | some (session, user) => do
    .demand (session.secretHash = cookie.digest) (.application authenticationError)
    let mode <- operationalMode
    let now <- clockTimestamp
    .demand (liveSession settings session user now) (.application authenticationError)
    let principal <- principalOf session.userId (.browser cookie.sessionId) []
    .demand (mode = .writeFrozen -> principal.systemAdmin = true) (.application authenticationError)
    only (mode ≠ .writeFrozen) do
      let _ <- browserSessions.update (fun row => row.sessionId = cookie.sessionId)
        (fun row => { row with lastSeenAt := now })
    .demand (session.csrfSecretHash = cookie.csrfDigest) (.application authenticationError)
    pure principal

def logout (settings : IdentitySettings) (cookie : Cookie) : Operation Unit := do
  let row <- browserSessionRow cookie.sessionId
  match row with
  | none => .raise (.application authenticationError)
  | some (session, user) => do
    .demand (session.secretHash = cookie.digest) (.application authenticationError)
    let mode <- operationalMode
    let now <- clockTimestamp
    .demand (liveSession settings session user now) (.application authenticationError)
    require (session.csrfSecretHash = cookie.csrfDigest) .invalidCsrf 403
      "The CSRF token is missing or does not match this session"
    only (mode = .writeFrozen) do
      let admin <- systemAdmin session.userId
      .demand (admin = true) (.application authenticationError)
    let _ <- browserSessions.update (fun row => row.sessionId = cookie.sessionId)
      (fun row => { row with revokedAt := some now })
    pure ()

def tokenScopesFor (principal : Principal) : List TokenScope :=
  if principal.credential.isBrowser then
    .tokensWrite ::
      ((if principal.memberships.isEmpty then []
        else [.jobsRead, .jobsWrite, .artifactsRead, .artifactsWrite]) ++
      (if principal.systemAdmin then [.adminRead, .adminWrite] else []))
  else principal.scopes

def validateRequestedTokenScopes (principal : Principal) (requested : List TokenScope) : Operation Unit := do
  require (requested ≠ []) .permissionDenied 403 "At least one token scope is required"
  require (principal.credential.isBrowser ∨ TokenScope.tokensWrite ∈ principal.scopes) .permissionDenied 403
    "The exact tokens:write scope is required"
  require (∀ scope ∈ requested, scope ∈ tokenScopesFor principal) .permissionDenied 403
    "Requested scopes exceed the caller's current authority"

def ensureCredentialsMutable : Operation Unit := do
  let mode <- operationalMode
  require (mode ≠ .writeFrozen) .stateConflict 409 "Credential mutation is disabled while writes are frozen"

structure RequestKey where
  idempotencyKey : String
  requestHash : Nat

structure TokenRequest where
  tokenId : TokenId
  tokenHash : Nat
  name : String
  scopes : List TokenScope
  expiresInSeconds : Nat

def createCliToken (settings : IdentitySettings) (credential : Credential) (keyed : RequestKey)
    (request : TokenRequest) : Operation Unit := do
  let live <- revalidatePrincipal settings credential
  validateRequestedTokenScopes live request.scopes
  let now <- transactionTimestamp
  let outcome <- beginIdempotency ⟨.global, live.userId, .createCliToken, keyed.idempotencyKey⟩ keyed.requestHash
  ensureCredentialsMutable
  cliTokens.add
    { tokenId := request.tokenId, userId := live.userId, tokenHash := request.tokenHash
      name := request.name, scopes := request.scopes, expiresAt := now + request.expiresInSeconds
      revokedAt := none }
  completeIdempotency outcome.recordId
    { status := 201, body := .token request.tokenId
      headers := { location := some ("/v1/tokens/" ++ toString request.tokenId) } }
    (some request.tokenId) true

def revokeCliToken (settings : IdentitySettings) (credential : Credential) (keyed : RequestKey)
    (tokenId : TokenId) : Operation Unit := do
  let live <- revalidatePrincipal settings credential
  require (live.credential.isBrowser ∨ TokenScope.tokensWrite ∈ live.scopes) .permissionDenied 403
    "The exact tokens:write scope is required"
  let now <- transactionTimestamp
  let outcome <- beginIdempotency ⟨.global, live.userId, .revokeCliToken, keyed.idempotencyKey⟩ keyed.requestHash
  match outcome.replay with
  | some _ => pure ()
  | none => do
    ensureCredentialsMutable
    let found <- cliTokens.fetch (.token tokenId) .update
    match found.filter fun token => token.userId = live.userId with
    | none => raise .resourceNotFound 404 "Token was not found"
    | some token => do
      only (token.revokedAt = none) do
        let _ <- cliTokens.update (fun row => row.tokenId = tokenId)
          (fun row => { row with revokedAt := some now })
      completeIdempotency outcome.recordId { status := 204, body := .none, headers := {} }
        (some tokenId) false

def revokeUserCredentials (userId : UserId) (revokedAt : Time) : Operation Unit := do
  let _ <- browserSessions.update (fun row => row.userId = userId ∧ row.revokedAt = none)
    (fun row => { row with revokedAt := some revokedAt })
  let _ <- cliTokens.update (fun row => row.userId = userId ∧ row.revokedAt = none)
    (fun row => { row with revokedAt := some revokedAt })
  pure ()

def ensureMutable : Operation Unit := do
  let mode <- operationalMode
  require (mode ≠ .writeFrozen) .stateConflict 409
    "Administrative mutations are disabled while writes are frozen"

inductive ExpectedVersion where
  | version (value : Nat)
  | missing
  | malformed

def resolveExpectedVersion : ExpectedVersion -> Operation Nat
  | .version value => pure value
  | .missing => raise .preconditionRequired 428 "If-Match is required"
  | .malformed => raise .validationFailed 400 "If-Match must be a strong version ETag"

/-- Whether the user is to be an administrator comes as the wanted role set. -/
structure UserUpdate where
  userId : UserId
  expectedVersion : ExpectedVersion
  displayName : Option String
  password : Option String
  enabled : Option Bool
  systemAdmin : Option Bool

def otherAdministrator (userId : UserId) : Operation Bool := do
  let rows <- select fun row =>
    users.selects (fun user => user.enabled ∧ user.userId ≠ userId) row ||
      systemRoleGrants.selects (fun grant => grant.revokedAt = none) row
  let admins := (rows.filterMap systemRoleGrants.decode).map fun grant => grant.userId
  pure ((rows.filterMap users.decode).any fun user => user.userId ∈ admins)

def hashPassword : Option String -> Operation (Option Nat)
  | none => pure none
  | some password => do
    let hash <- ask (.hashPassword password)
    pure (some hash)

def changeRole (userId grantedBy : UserId) (grant : Option SystemRoleGrant) (desired : Bool) (now : Time) :
    Operation Unit :=
  match desired, grant with
  | true, none =>
    systemRoleGrants.add
      { userId, version := 1, grantedByUserId := some grantedBy, grantedAt := now, revokedAt := none }
  | true, some grant => do
    let _ <- systemRoleGrants.update (fun row => row.userId = userId) fun row =>
      { row with
        revokedAt := none, grantedByUserId := some grantedBy, grantedAt := now, version := grant.version + 1 }
    pure ()
  | false, none => pure ()
  | false, some grant => do
    let _ <- systemRoleGrants.update (fun row => row.userId = userId) fun row =>
      { row with revokedAt := some now, version := grant.version + 1 }
    pure ()

def updateUser (settings : IdentitySettings) (credential : Credential) (keyed : RequestKey)
    (request : UserUpdate) : Operation Unit := do
  let live <- authorizeAdmin settings credential true
  let now <- transactionTimestamp
  let outcome <- beginIdempotency ⟨.global, live.userId, .adminUpdateUser, keyed.idempotencyKey⟩ keyed.requestHash
  match outcome.replay with
  | some _ => pure ()
  | none => do
    let requiredVersion <- resolveExpectedVersion request.expectedVersion
    ensureMutable
    let control <- acquire .authControl .update
    let _ <- one control
    let found <- users.fetch (.user request.userId) .noKeyUpdate
    match found with
    | none => raise .resourceNotFound 404 "User was not found"
    | some row => do
      require (row.version = requiredVersion) .versionConflict 412 "User version does not match If-Match"
      let grant <- systemRoleGrants.fetch (.grant request.userId) .update
      let currentlyAdmin := grant.any fun grant => grant.revokedAt = none
      let desiredAdmin := request.systemAdmin.getD currentlyAdmin
      let desiredEnabled := request.enabled.getD row.enabled
      only (currentlyAdmin ∧ row.enabled ∧ (desiredAdmin = false ∨ desiredEnabled = false)) do
        let other <- otherAdministrator request.userId
        require (other = true) .stateConflict 409
          "The last enabled system administrator cannot be disabled or revoked"
      let passwordHash <- hashPassword request.password
      let _ <- users.update (fun user => user.userId = request.userId) fun user =>
        { user with
          version := row.version + 1
          displayName := request.displayName.getD user.displayName
          passwordHash := passwordHash.getD user.passwordHash
          enabled := request.enabled.getD user.enabled }
      only (desiredAdmin ≠ currentlyAdmin)
        (changeRole request.userId live.userId grant desiredAdmin now)
      only (passwordHash.isSome ∨ request.enabled = some false ∨ desiredAdmin ≠ currentlyAdmin)
        (revokeUserCredentials request.userId now)
      let admin <- systemAdmin request.userId
      completeIdempotency outcome.recordId
        { status := 200
          body := .user request.userId (request.displayName.getD row.displayName) desiredEnabled admin
            (row.version + 1)
          headers := { etag := some (row.version + 1) } }
        (some request.userId) false

structure MembershipRemoval where
  tenantId : TenantId
  userId : UserId
  expectedVersion : ExpectedVersion

def deleteMembershipRows (tenantId : TenantId) (userId : UserId) : Operation Nat := do
  let found <- acquire (.membership tenantId userId) .update
  match found with
  | none => pure 0
  | some _ => do
    erase (.membership tenantId userId)
    pure 1

def deleteMembership (settings : IdentitySettings) (credential : Credential) (keyed : RequestKey)
    (request : MembershipRemoval) : Operation Unit := do
  let live <- authorizeAdmin settings credential true
  let now <- transactionTimestamp
  let outcome <- beginIdempotency ⟨.global, live.userId, .adminDeleteMembership, keyed.idempotencyKey⟩
    keyed.requestHash
  match outcome.replay with
  | some _ => pure ()
  | none => do
    let requiredVersion <- resolveExpectedVersion request.expectedVersion
    ensureMutable
    let found <- membershipSets.fetch (.membershipSet request.tenantId) .update
    match found with
    | none => raise .resourceNotFound 404 "Tenant was not found"
    | some aggregate => do
      require (aggregate.version = requiredVersion) .versionConflict 412
        "MembershipSet version does not match If-Match"
      let deleted <- deleteMembershipRows request.tenantId request.userId
      require (deleted = 1) .resourceNotFound 404 "Membership was not found"
      let _ <- membershipSets.update (fun row => row.tenantId = request.tenantId)
        (fun row => { row with version := aggregate.version + 1 })
      revokeUserCredentials request.userId now
      completeIdempotency outcome.recordId
        { status := 204, body := .none, headers := { etag := some (aggregate.version + 1) } }
        (some request.userId) false

/-- An authorised request reads any table, and locks and writes rows of its own. -/
inductive WorkCommand where
  | select (wanted : Row -> Bool)
  | acquire (table : String) (rowId : Nat) (strength : Strength)
  | insert (row : Work)
  | put (row : Work)
  | erase (table : String) (rowId : Nat)
  | clockTimestamp

abbrev WorkCommand.Answer : WorkCommand -> Type
  | .select _ => List Row
  | .acquire _ _ _ => Option Row
  | .insert _ => Bool
  | .put _ => Unit
  | .erase _ _ => Unit
  | .clockTimestamp => Time

abbrev workInterface : Interface where
  Command := WorkCommand
  Answer := WorkCommand.Answer

def WorkCommand.run : (command : WorkCommand) -> Operation command.Answer
  | .select wanted => Locking.select wanted
  | .acquire table rowId strength => Locking.acquire (.work table rowId) strength
  | .insert row => Locking.insert (.work row)
  | .put row => Locking.put (.work row)
  | .erase table rowId => Locking.erase (.work table rowId)
  | .clockTimestamp => Nexa.Api.clockTimestamp

def runWork {α : Type} : Program workInterface Failure α -> Operation α
  | .done value => pure value
  | .raise failure => .raise failure
  | .call command next => command.run >>= fun answer => runWork (next answer)

def authorizeFor (settings : IdentitySettings) (credential : Credential) (required : TokenScope) :
    Need -> Operation Principal
  | .nothing => revalidatePrincipal settings credential
  | .admin => authorizeAdmin settings credential true
  | .tenant tenantId => authorizeTenant settings credential tenantId required

def request (settings : IdentitySettings) (credential : Credential) (need : Need) (required : TokenScope)
    (work : Principal -> Program workInterface Failure Unit) : Operation Unit := do
  let live <- authorizeFor settings credential required need
  runWork (work live)

end Nexa.Api
