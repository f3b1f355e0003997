import Nexa.Api.Revocation

namespace Nexa.Api

open Interaction Locking List Transaction

def Keeps {α : Type} (oath : Oath) (owned : List Key) (operation : Operation α) : Prop :=
  law.Triple (Faithful oath owned) operation fun _ => Faithful oath owned

section

variable {oath : Oath} {owned : List Key} {α β : Type}

theorem keeps_pure (value : α) : Keeps oath owned (pure value) := triple_pure fun _ _ _ held => held

theorem keeps_raise (failure : Failure) : Keeps oath owned (.raise failure : Operation α) := triple_raise trivial

theorem keeps_bind {operation : Operation β} {rest : β -> Operation α} (first : Keeps oath owned operation)
    (second : ∀ value, Keeps oath owned (rest value)) : Keeps oath owned (operation >>= rest) :=
  triple_bind first second

theorem keeps_demand (condition : Prop) [Decidable condition] (failure : Failure) :
    Keeps oath owned (.demand condition failure) :=
  triple_mono (triple_demand trivial) (fun _ _ _ held => held) fun _ _ _ _ held => held.2

theorem keeps_require (condition : Prop) [Decidable condition] (code : ErrorCode) (status : Nat)
    (message : String) : Keeps oath owned (require condition code status message) :=
  keeps_demand _ _

theorem keeps_ask (command : Outer) : Keeps oath owned (ask command) := triple_outside (faithful_stable oath owned)

theorem keeps_acquire (key : Key) (strength : Strength) : Keeps oath owned (acquire key strength) :=
  neutral_acquire (faithful_neutral oath owned)

theorem keeps_only {condition : Prop} [Decidable condition] {operation : Operation Unit}
    (keeps : Keeps oath owned operation) : Keeps oath owned (only condition operation) := by
  unfold only
  split_ifs
  · exact keeps
  · exact keeps_pure ()

theorem keeps_one (value : Option α) : Keeps oath owned (one value) := by
  cases value with
  | none => exact keeps_raise _
  | some value => exact keeps_pure value

theorem keeps_oneOrNone (values : List α) : Keeps oath owned (oneOrNone values) := by
  unfold oneOrNone
  split
  · exact keeps_pure none
  · exact keeps_pure _
  · exact keeps_raise _

theorem keeps_select (wanted : Row -> Bool) : Keeps oath owned (select wanted) :=
  neutral_select (faithful_neutral oath owned)

theorem keeps_fetch (table : Table α) (key : Key) (strength : Strength) :
    Keeps oath owned (table.fetch key strength) :=
  keeps_bind (keeps_acquire key strength) fun _ => keeps_pure _

theorem keeps_query (table : Table α) (wanted : α -> Bool) : Keeps oath owned (table.query wanted) :=
  keeps_bind (keeps_select _) fun _ => keeps_pure _

theorem keeps_queryLocked (table : Table α) (wanted : α -> Bool) (strength : Strength) :
    Keeps oath owned (table.queryLocked wanted strength) :=
  keeps_bind (neutral_selectLocked (faithful_neutral oath owned)) fun _ => keeps_pure _

theorem keeps_update {table : Table α} {wanted : α -> Bool} {change : α -> α}
    (mild : Mild fun row => ((table.decode row).map (table.encode ∘ change)).getD row)
    (granted : ∀ row, table.selects wanted row = true -> ∀ place, guard row.key = some place ->
      place ∈ owned ∨ place = row.key) : Keeps oath owned (table.update wanted change) :=
  updates_updateWhere (faithful_neutral oath owned) (faithful_updates mild granted)

theorem keeps_insert {row : Row} (granted : ∀ place, guard row.key = some place -> place ∈ owned ∨ place = row.key) :
    Keeps oath owned (insert row) := by
  refine triple_insert (faithful_stable oath owned) ?_ (fun _ _ _ held => held) ?_
  · intro transaction seen held place guarded
    exact (granted place guarded).imp (held.2.owns place) id
  · intro transaction next lawful held clear
    have absent : lookup (transaction.view next) row.key = none := by
      refine lookup_eq_none.2 fun other member same => ?_
      have collides := any_eq_false.1 clear other member
      simp [clashes, show Keyed.key other = Keyed.key row from same] at collides
    refine held.put mem_cons_self rfl (fun dead => ?_) ?_
    · obtain ⟨old, found, -⟩ := dead
      rw [absent] at found
      cases found
    · rintro authorization credential userId rfl same
      obtain ⟨mine, found, -⟩ := held.1.visible
      rw [← same, absent] at found
      cases found

theorem keeps_add {table : Table α} {value : α}
    (granted : ∀ place, guard (table.encode value).key = some place ->
      place ∈ owned ∨ place = (table.encode value).key) : Keeps oath owned (table.add value) :=
  keeps_bind (keeps_insert granted) fun _ => keeps_demand _ _

end

variable {α : Type}

section

variable {oath : Oath} {owned : List Key}

section

variable {wanted : BrowserSession -> Bool} {change : BrowserSession -> BrowserSession}
  (key : ∀ row, (change row).sessionId = row.sessionId) (user : ∀ row, (change row).userId = row.userId)
  (live : ∀ row, row.revokedAt ≠ none -> (change row).revokedAt ≠ none)

include key user live

theorem mild_sessions :
    Mild fun row => ((browserSessions.decode row).map (browserSessions.encode ∘ change)).getD row where
  key := by intro row; cases row <;> simp [browserSessions, Row.key, key]
  owner := by intro row; cases row <;> simp [browserSessions, Row.owner, user]
  live := by
    intro row
    cases row <;> simp [browserSessions, Row.owner, Row.live]
    exact live _

theorem keeps_updateSessions :
    Keeps oath owned (browserSessions.update wanted change) := by
  refine keeps_update (mild_sessions key user live) fun row selected place guarded => .inr ?_
  cases row <;> simp_all [Table.selects, browserSessions, Row.key, guard]

end

section

variable {wanted : CliToken -> Bool} {change : CliToken -> CliToken}
  (key : ∀ row, (change row).tokenId = row.tokenId) (user : ∀ row, (change row).userId = row.userId)
  (live : ∀ row, row.revokedAt ≠ none -> (change row).revokedAt ≠ none)

include key user live

theorem mild_tokens :
    Mild fun row => ((cliTokens.decode row).map (cliTokens.encode ∘ change)).getD row where
  key := by intro row; cases row <;> simp [cliTokens, Row.key, key]
  owner := by intro row; cases row <;> simp [cliTokens, Row.owner, user]
  live := by
    intro row
    cases row <;> simp [cliTokens, Row.owner, Row.live]
    exact live _

theorem keeps_updateTokens :
    Keeps oath owned (cliTokens.update wanted change) := by
  refine keeps_update (mild_tokens key user live) fun row selected place guarded => .inr ?_
  cases row <;> simp_all [Table.selects, cliTokens, Row.key, guard]

end

theorem mild_of_foreign {table : Table α} {change : α -> α}
    (foreign : ∀ row, (table.decode row).isSome = true -> row.owner = none)
    (encoded : ∀ value, (table.encode value).owner = none)
    (key : ∀ row value, table.decode row = some value -> (table.encode (change value)).key = row.key) :
    Mild fun row => ((table.decode row).map (table.encode ∘ change)).getD row where
  key := by
    intro row
    cases found : table.decode row with
    | none => simp
    | some value => simpa using key row value found
  owner := by
    intro row
    cases found : table.decode row with
    | none => simp
    | some value => simp [encoded, foreign row (by simp [found])]
  live := by
    intro row owns ended
    cases found : table.decode row with
    | none => simpa using ended
    | some value => simp [foreign row (by simp [found])] at owns

theorem keeps_completeIdempotency (recordId : RecordId) (response : StoredResponse)
    (resourceId : Option Nat) (oneTimeSecret : Bool) :
    Keeps oath owned (completeIdempotency recordId response resourceId oneTimeSecret) := by
  refine keeps_bind (keeps_update (mild_of_foreign ?_ (fun _ => rfl) ?_) ?_) fun _ => keeps_demand _ _
  · intro row found
    cases row <;> simp_all [idempotencyRecords, Row.owner]
  · intro row value found
    cases row <;> simp_all [idempotencyRecords, Row.key]
  · intro row selected place guarded
    cases row <;> simp_all [Table.selects, idempotencyRecords, Row.key, guard]

theorem keeps_replayOf (row : IdempotencyRecord) (requestHash : Nat) :
    Keeps oath owned (replayOf row requestHash) := by
  refine keeps_bind (keeps_require _ _ _ _) fun _ => ?_
  refine keeps_bind (keeps_demand _ _) fun _ => ?_
  refine keeps_bind (keeps_demand _ _) fun _ => ?_
  cases row.response with
  | none => exact keeps_raise _
  | some response => exact keeps_pure _

theorem keeps_claimRecord (record : IdempotencyRecord) (attempts : Nat) :
    Keeps oath owned (claimRecord record attempts) := by
  induction attempts with
  | zero => exact keeps_raise _
  | succ attempts ih =>
    refine keeps_bind (keeps_ask .lockTimeout) fun timeout => ?_
    refine keeps_bind (keeps_demand _ _) fun _ => ?_
    refine keeps_bind (keeps_insert fun place guarded => by cases guarded) fun inserted => ?_
    split_ifs
    · exact keeps_pure _
    · refine keeps_bind (keeps_queryLocked _ _ _) fun rows => ?_
      refine keeps_bind (keeps_oneOrNone rows) fun found => ?_
      cases found with
      | none => exact ih
      | some row => exact keeps_replayOf row _

theorem keeps_beginIdempotency (scope : RecordScope) (requestHash : Nat) :
    Keeps oath owned (beginIdempotency scope requestHash) := by
  refine keeps_bind (keeps_require _ _ _ _) fun _ => ?_
  exact keeps_bind (keeps_ask .newUuid) fun recordId => keeps_claimRecord _ _

theorem keeps_operationalMode : Keeps oath owned operationalMode :=
  keeps_bind (keeps_fetch _ _ _) fun _ => keeps_one _

theorem keeps_membershipsOf (userId : UserId) : Keeps oath owned (membershipsOf userId) := by
  refine keeps_bind (keeps_select _) fun rows => ?_
  exact keeps_bind (keeps_demand _ _) fun _ => keeps_pure _

theorem keeps_systemAdmin (userId : UserId) : Keeps oath owned (systemAdmin userId) :=
  keeps_bind (keeps_query _ _) fun _ => keeps_pure _

theorem keeps_principalOf (userId : UserId) (credential : Credential) (scopes : List TokenScope) :
    Keeps oath owned (principalOf userId credential scopes) := by
  refine keeps_bind (keeps_membershipsOf userId) fun memberships => ?_
  exact keeps_bind (keeps_systemAdmin userId) fun admin => keeps_pure _

theorem keeps_revokeUserCredentials (userId : UserId) (revokedAt : Time) :
    Keeps oath owned (revokeUserCredentials userId revokedAt) := by
  refine keeps_bind (keeps_updateSessions (fun _ => rfl) (fun _ => rfl) fun _ _ => by simp) fun _ => ?_
  exact keeps_bind (keeps_updateTokens (fun _ => rfl) (fun _ => rfl) fun _ _ => by simp) fun _ => keeps_pure ()

theorem keeps_ensureMutable : Keeps oath owned ensureMutable :=
  keeps_bind keeps_operationalMode fun _ => keeps_require _ _ _ _

theorem keeps_ensureCredentialsMutable : Keeps oath owned ensureCredentialsMutable :=
  keeps_bind keeps_operationalMode fun _ => keeps_require _ _ _ _

theorem keeps_requireAdmin (principal : Principal) (write : Bool) : Keeps oath owned (requireAdmin principal write) :=
  keeps_bind (keeps_demand _ _) fun _ => keeps_require _ _ _ _

theorem keeps_validateRequestedTokenScopes (principal : Principal) (requested : List TokenScope) :
    Keeps oath owned (validateRequestedTokenScopes principal requested) := by
  refine keeps_bind (keeps_require _ _ _ _) fun _ => ?_
  exact keeps_bind (keeps_require _ _ _ _) fun _ => keeps_require _ _ _ _

theorem keeps_resolveExpectedVersion (version : ExpectedVersion) :
    Keeps oath owned (resolveExpectedVersion version) := by
  cases version with
  | version value => exact keeps_pure value
  | missing => exact keeps_raise _
  | malformed => exact keeps_raise _

theorem keeps_hashPassword (password : Option String) : Keeps oath owned (hashPassword password) := by
  cases password with
  | none => exact keeps_pure none
  | some password => exact keeps_bind (keeps_ask (.hashPassword password)) fun _ => keeps_pure _

theorem keeps_otherAdministrator (userId : UserId) : Keeps oath owned (otherAdministrator userId) :=
  keeps_bind (keeps_select _) fun _ => keeps_pure _

end

structure CredentialLocked (authorization : Authorization) (credential : Row) (transaction : ApiTransaction)
    (chronicle : ApiChronicle) : Prop where
  label : transaction.label = some authorization
  named : authorization.credential.key = some credential.key
  holds : transaction.Freezes credential.key
  unwritten : transaction.written = []
  current : lookup chronicle.rows credential.key = some credential
  reads : ∃ commits, transaction.reads = [(commits, credential)] ∧
    ∀ index earlier, commits ≤ index -> chronicle.entries[index]? = some earlier -> ¬ Revokes earlier credential

theorem credentialLocked_stable (authorization : Authorization) (credential : Row) :
    law.Stable (CredentialLocked authorization credential) := by
  refine stable_of_step fun transaction chronicle entry lawful locked permitted spares => ?_
  have guarded := guard_of_owner (owner_isSome locked.named)
  refine { locked with
    current := (lookup_spared spares guarded locked.holds chronicle.rows).trans locked.current, reads := ?_ }
  obtain ⟨commits, read, fresh⟩ := locked.reads
  refine ⟨commits, read, fun index earlier after found => ?_⟩
  by_cases before : index < chronicle.entries.length
  · simp only [Chronicle.extend, getElem?_append_left before] at found
    exact fresh index earlier after found
  · obtain ⟨-, rfl⟩ := last_of_getElem found before
    rintro ⟨change, written, revoking⟩
    have protects : law.guard change.key = some credential.key := key_of_revokes revoking ▸ guarded
    exact spares change written _ protects locked.holds

def Found (found : Row -> Assertion Key Row Label) : Option Row -> Assertion Key Row Label
  | none => fun _ _ => True
  | some row => found row

def Fetched {α : Type} (table : Table α) (found : Row -> Assertion Key Row Label) :
    Option α -> Assertion Key Row Label
  | none => fun _ _ => True
  | some value => fun transaction chronicle =>
    ∃ row, table.decode row = some value ∧ found row transaction chronicle

theorem triple_fetch {table : Table α} {key : Key} {strength : Strength}
    {before : Assertion Key Row Label} {found : Row -> Assertion Key Row Label}
    (acquires : law.Triple before (acquire key strength : Operation _) (Found found)) :
    law.Triple before (table.fetch key strength) (Fetched table found) := by
  refine triple_bind acquires fun row => triple_pure fun transaction seen _ held => ?_
  cases row with
  | none => trivial
  | some row =>
    cases decoded : table.decode row with
    | none => simp [Fetched, decoded]
    | some value => simpa [Fetched, decoded] using ⟨row, decoded, held⟩

variable {authorization : Authorization}

theorem locks_credential {key : Key} (named : authorization.credential.key = some key) :
    law.Triple (fun transaction _ => transaction = .start (some authorization))
      (acquire key .noKeyUpdate : Operation _) (Found (CredentialLocked authorization)) := by
  refine triple_acquire (fun _ _ _ held _ => held) (fun _ _ _ _ _ => trivial) ?_
  rintro transaction next row lawful rfl found
  have same : row.key = key := key_of_lookup found
  refine ⟨rfl, same ▸ named, ?_, rfl, same ▸ found, next.entries.length, rfl, ?_⟩
  · rw [same]
    exact ⟨.noKeyUpdate, mem_cons_self, rfl⟩
  · intro index earlier after found
    rw [getElem?_eq_none after] at found
    cases found

variable {userId : UserId}

theorem locks_user {credential : Row} (owner : credential.owner = some userId) :
    law.Triple (CredentialLocked authorization credential)
      (acquire (.user userId) .noKeyUpdate : Operation _)
      (Found fun _ => Faithful (.sworn authorization credential userId) []) := by
  refine triple_acquire (credentialLocked_stable authorization credential) (fun _ _ _ _ _ => trivial) ?_
  intro transaction next user lawful locked found
  have same : user.key = .user userId := key_of_lookup found
  have foreign : user.key ≠ credential.key := by
    rw [same]
    intro equal
    have named := locked.named
    rw [← equal] at named
    cases chosen : authorization.credential <;> simp [chosen, Credential.key] at named
  have subset : transaction.held ⊆ ((transaction.noting next [user]).holding [.user userId] .noKeyUpdate).held :=
    subset_append_right _ _
  obtain ⟨commits, read, fresh⟩ := locked.reads
  refine ⟨?_, ?_⟩
  · refine ⟨locked.label, locked.named, owner, freezes_of_subset subset locked.holds,
      ⟨.noKeyUpdate, mem_cons_self, rfl⟩, locked.current, ?_, ?_, ?_⟩
    · intro time row member equal
      simp only [holding, noting, read, map_cons, map_nil, cons_append,
        nil_append, mem_cons, Prod.mk.injEq, not_mem_nil, or_false] at member
      obtain ⟨-, rfl⟩ | ⟨-, rfl⟩ := member
      · exact absurd equal foreign
      · exact owner
    · refine ⟨credential, ?_, owner⟩
      simp only [view, holding, noting, locked.unwritten, applyAll_nil]
      exact locked.current
    · intro time row member supports watched index earlier after position
      simp only [holding, noting, read, map_cons, map_nil, cons_append,
        nil_append, mem_cons, Prod.mk.injEq, not_mem_nil, or_false] at member
      obtain ⟨rfl, rfl⟩ | ⟨rfl, rfl⟩ := member
      · rw [getElem?_eq_none after] at position
        cases position
      · exact fresh index earlier after position
  · have unwritten : ((transaction.noting next [user]).holding [.user userId] .noKeyUpdate).written = [] :=
      locked.unwritten
    refine ⟨?_, ?_, ?_, by simp⟩ <;> simp [unwritten, KeepsDead]

def Starts (authorization : Authorization) : Assertion Key Row Label :=
  fun transaction _ => transaction = .start (some authorization)

def SessionHeld (authorization : Authorization) : Option (BrowserSession × User) -> Assertion Key Row Label
  | none => fun _ _ => True
  | some (session, _) => Faithful (.sworn authorization (.session session) session.userId) []

def TokenHeld (authorization : Authorization) : Option (CliToken × User) -> Assertion Key Row Label
  | none => fun _ _ => True
  | some (token, _) => Faithful (.sworn authorization (.token token) token.userId) []

theorem locks_browserSessionRow {sessionId : SessionId} (named : authorization.credential = .browser sessionId) :
    law.Triple (Starts authorization) (browserSessionRow sessionId) (SessionHeld authorization) := by
  have key : authorization.credential.key = some (.session sessionId) := by rw [named]; rfl
  refine triple_bind (triple_fetch (locks_credential key)) fun session => ?_
  cases session with
  | none => exact triple_pure fun _ _ _ _ => trivial
  | some session =>
    refine triple_exists fun row => triple_and fun decoded => ?_
    obtain rfl : row = .session session := by cases row <;> simp_all [browserSessions]
    refine triple_bind (triple_fetch (locks_user rfl)) fun user => triple_pure fun transaction seen _ held => ?_
    cases user with
    | none => trivial
    | some user =>
      obtain ⟨row, -, held⟩ := held
      exact held

theorem locks_cliTokenRow {tokenId : TokenId} (named : authorization.credential = .cli tokenId) :
    law.Triple (Starts authorization) (cliTokenRow tokenId) (TokenHeld authorization) := by
  have key : authorization.credential.key = some (.token tokenId) := by rw [named]; rfl
  refine triple_bind (triple_fetch (locks_credential key)) fun token => ?_
  cases token with
  | none => exact triple_pure fun _ _ _ _ => trivial
  | some token =>
    refine triple_exists fun row => triple_and fun decoded => ?_
    obtain rfl : row = .token token := by cases row <;> simp_all [cliTokens]
    refine triple_bind (triple_fetch (locks_user rfl)) fun user => triple_pure fun transaction seen _ held => ?_
    cases user with
    | none => trivial
    | some user =>
      obtain ⟨row, -, held⟩ := held
      exact held

def Authorised (authorization : Authorization) : Assertion Key Row Label :=
  fun transaction chronicle => ∃ credential userId owned, (credential : Row).live = true ∧
    Faithful (.sworn authorization credential userId) owned transaction chronicle

theorem authorised_of_keeps {operation : Operation α} (keeps : ∀ oath owned, Keeps oath owned operation) :
    law.Triple (Authorised authorization) operation fun _ => Authorised authorization := by
  refine triple_exists fun credential => triple_exists fun userId => triple_exists fun owned => ?_
  refine triple_and fun live => triple_mono (keeps _ owned) (fun _ _ _ held => held) ?_
  exact fun _ _ _ _ held => ⟨credential, userId, owned, live, held⟩

theorem authorised_of_live {credential : Row}
    {condition : Prop} [Decidable condition] {failure : Failure} {rest : Unit -> Operation α}
    (live : condition -> credential.live = true)
    (continues : law.Triple (Authorised authorization) (rest ()) fun _ => Authorised authorization) :
    law.Triple (Faithful (.sworn authorization credential userId) [])
      (.demand condition failure >>= rest) fun _ => Authorised authorization := by
  refine triple_bind (triple_demand trivial) fun _ => triple_and fun passed => ?_
  exact triple_mono continues (fun _ _ _ held => ⟨credential, userId, [], live passed, held⟩) fun _ _ _ _ held => held

/-- Whatever the operation does, the credential authorises it. -/
abbrev Authorises {α : Type} (credential : Credential) (need : Need) (operation : Operation α) : Prop :=
  law.Triple (Starts ⟨credential, need⟩) operation fun _ => Authorised ⟨credential, need⟩

theorem authorises_revalidatePrincipal (settings : IdentitySettings) (credential : Credential) (need : Need) :
    Authorises credential need (revalidatePrincipal settings credential) := by
  have stays : ∀ (held : Assertion Key Row Label), law.Stable held ->
      law.Triple held clockTimestamp fun _ => held := fun held stable => triple_outside stable
  cases credential with
  | browser sessionId =>
    refine triple_bind (locks_browserSessionRow rfl) fun row => ?_
    cases row with
    | none =>
      refine triple_bind (stays _ fun _ _ _ _ _ => trivial) fun now => triple_raise trivial
    | some pair =>
      obtain ⟨session, user⟩ := pair
      refine triple_bind (stays _ (faithful_stable _ _)) fun now => authorised_of_live ?_ ?_
      · intro passed
        simp only [liveSession, decide_eq_true_eq] at passed
        simpa [Row.live] using passed.1
      · exact authorised_of_keeps fun _ _ => keeps_principalOf _ _ _
  | cli tokenId =>
    refine triple_bind (locks_cliTokenRow rfl) fun row => ?_
    cases row with
    | none =>
      refine triple_bind (stays _ fun _ _ _ _ _ => trivial) fun now => triple_raise trivial
    | some pair =>
      obtain ⟨token, user⟩ := pair
      refine triple_bind (stays _ (faithful_stable _ _)) fun now => authorised_of_live ?_ ?_
      · intro passed
        simp only [liveToken, decide_eq_true_eq] at passed
        simpa [Row.live] using passed.1
      · exact authorised_of_keeps fun _ _ => keeps_principalOf _ _ _
  | worker => exact triple_raise trivial
  | bootstrap => exact triple_raise trivial

theorem authorises_authorizeAdmin (settings : IdentitySettings) (credential : Credential) (write : Bool)
    (need : Need) :
    Authorises credential need (authorizeAdmin settings credential write) := by
  refine triple_bind (authorises_revalidatePrincipal settings credential need) fun live => ?_
  refine triple_bind (authorised_of_keeps fun _ _ => keeps_requireAdmin live write) fun _ => ?_
  exact triple_pure fun _ _ _ held => held

theorem authorises_authorizeTenant (settings : IdentitySettings) (credential : Credential)
    (tenantId : TenantId) (required : TokenScope) (need : Need) :
    Authorises credential need (authorizeTenant settings credential tenantId required) := by
  refine triple_bind (authorises_revalidatePrincipal settings credential need) fun live => ?_
  refine triple_bind (authorised_of_keeps fun _ _ => keeps_require _ _ _ _) fun _ => ?_
  refine triple_bind (authorised_of_keeps fun _ _ => keeps_require _ _ _ _) fun _ => ?_
  exact triple_pure fun _ _ _ held => held

theorem authorises_authorizeFor (settings : IdentitySettings) (credential : Credential)
    (required : TokenScope) (need : Need) :
    Authorises credential need (authorizeFor settings credential required need) := by
  cases need with
  | nothing => exact authorises_revalidatePrincipal settings credential _
  | admin => exact authorises_authorizeAdmin settings credential true _
  | tenant tenantId => exact authorises_authorizeTenant settings credential tenantId required _

section

variable {oath : Oath} {owned : List Key}

theorem keeps_erase {key : Key} (unguarded : guard key = none) : Keeps oath owned (erase key) := by
  refine triple_erase (faithful_stable oath owned) ?_ ?_
  · intro transaction seen held place guarded
    have equal : guard key = some place := guarded
    rw [unguarded] at equal
    cases equal
  · intro transaction next lawful held
    refine ⟨?_, held.2.writes mem_cons_self rfl ?_ ?_⟩
    · cases oath with
      | system => exact held.1
      | sworn authorization credential userId =>
        refine Sworn.writes held.1 ?_
        obtain ⟨mine, found, owns⟩ := held.1.visible
        refine ⟨mine, (lookup_apply_other ?_).trans found, owns⟩
        rintro rfl
        rw [guard_of_owner (owner_isSome held.1.named)] at unguarded
        cases unguarded
    · intro dead
      have guarded := dead.guarded
      simp only [key_erase] at guarded
      rw [unguarded] at guarded
      cases guarded
    · rintro other same
      cases same
      exact unguarded

theorem keeps_work (command : WorkCommand) : Keeps oath owned command.run := by
  cases command with
  | select wanted => exact keeps_select wanted
  | acquire table rowId strength => exact keeps_acquire _ _
  | insert row => exact keeps_insert fun place guarded => by cases guarded
  | put row =>
    refine triple_put (faithful_stable oath owned) (fun _ _ _ place guarded => by cases guarded) ?_
    intro transaction next lawful held
    refine held.put mem_cons_self rfl (fun dead => ?_) ?_
    · have guarded := dead.guarded
      cases guarded
    · rintro authorization credential userId rfl same
      have guarded := guard_of_owner (owner_isSome held.1.named)
      rw [← same] at guarded
      cases guarded
  | erase table rowId => exact keeps_erase rfl
  | clockTimestamp => exact keeps_ask .clockTimestamp

theorem keeps_runWork (work : Program workInterface Failure α) : Keeps oath owned (runWork work) := by
  induction work with
  | done value => exact keeps_pure value
  | raise failure => exact keeps_raise failure
  | call command next ih => exact keeps_bind (keeps_work command) fun answer => ih answer

theorem keeps_loginOperation (settings : IdentitySettings) (observed : User) (sessionId : SessionId)
    (secretHash csrfSecretHash : Nat) :
    Keeps oath owned (loginOperation settings observed sessionId secretHash csrfSecretHash) := by
  refine keeps_bind (keeps_fetch _ _ _) fun found => ?_
  refine keeps_bind (keeps_one found) fun user => ?_
  refine keeps_bind (keeps_demand _ _) fun _ => ?_
  refine keeps_bind keeps_operationalMode fun mode => ?_
  refine keeps_bind (keeps_systemAdmin _) fun admin => ?_
  refine keeps_bind (keeps_require _ _ _ _) fun _ => ?_
  refine keeps_bind (keeps_ask .clockTimestamp) fun now => ?_
  refine keeps_bind (keeps_add fun place guarded => .inr ?_) fun _ => keeps_principalOf _ _ _
  simpa [browserSessions, Row.key, guard, eq_comm] using guarded

theorem keeps_deleteMembershipRows (tenantId : TenantId) (userId : UserId) :
    Keeps oath owned (deleteMembershipRows tenantId userId) := by
  refine keeps_bind (keeps_acquire _ _) fun found => ?_
  cases found with
  | none => exact keeps_pure 0
  | some row => exact keeps_bind (keeps_erase rfl) fun _ => keeps_pure 1

theorem keeps_updateMembershipSets {wanted : MembershipSet -> Bool} {change : MembershipSet -> MembershipSet}
    (key : ∀ row, (change row).tenantId = row.tenantId) :
    Keeps oath owned (membershipSets.update wanted change) := by
  refine keeps_update (mild_of_foreign ?_ (fun _ => rfl) ?_) ?_
  · intro row found
    cases row <;> simp_all [membershipSets, Row.owner]
  · intro row value found
    cases row <;> simp_all [membershipSets, Row.key]
  · intro row selected place guarded
    cases row <;> simp_all [Table.selects, membershipSets, Row.key, guard]

theorem keeps_updateUsers {wanted : User -> Bool} {change : User -> User}
    (key : ∀ row, (change row).userId = row.userId) : Keeps oath owned (users.update wanted change) := by
  refine keeps_update (mild_of_foreign ?_ (fun _ => rfl) ?_) fun row selected place guarded => .inr ?_
  · intro row found
    cases row <;> simp_all [users, Row.owner]
  · intro row value found
    cases row <;> simp_all [users, Row.key]
  · cases row <;> simp_all [Table.selects, users, Row.key, guard]

theorem keeps_updateGrants {change : SystemRoleGrant -> SystemRoleGrant}
    (key : ∀ row, (change row).userId = row.userId) (held : .user userId ∈ owned) :
    Keeps oath owned (systemRoleGrants.update (fun row => row.userId = userId) change) := by
  refine keeps_update (mild_of_foreign ?_ (fun _ => rfl) ?_) fun row selected place guarded => .inl ?_
  · intro row found
    cases row <;> simp_all [systemRoleGrants, Row.owner]
  · intro row value found
    cases row <;> simp_all [systemRoleGrants, Row.key]
  · cases row <;> simp_all [Table.selects, systemRoleGrants, Row.key, guard]

theorem keeps_changeRole (grantedBy : UserId) (grant : Option SystemRoleGrant)
    (desired : Bool) (now : Time) (held : .user userId ∈ owned) :
    Keeps oath owned (changeRole userId grantedBy grant desired now) := by
  cases desired with
  | true =>
    cases grant with
    | none =>
      refine keeps_add fun place guarded => .inl ?_
      simp only [systemRoleGrants, Row.key, guard, Option.some.injEq] at guarded
      exact guarded ▸ held
    | some grant => exact keeps_bind (keeps_updateGrants (fun _ => rfl) held) fun _ => keeps_pure ()
  | false =>
    cases grant with
    | none => exact keeps_pure ()
    | some grant => exact keeps_bind (keeps_updateGrants (fun _ => rfl) held) fun _ => keeps_pure ()

end

theorem owns_fetched {oath : Oath} {owned : List Key} (userId : UserId) :
    law.Triple (Faithful oath owned) (users.fetch (.user userId) .noKeyUpdate)
      (Fetched users fun _ => Faithful oath (.user userId :: owned)) := by
  refine triple_fetch (triple_acquire (faithful_stable oath owned) (fun _ _ _ _ _ => trivial) ?_)
  intro transaction next row lawful held found
  have noted := (faithful_neutral oath owned).notes transaction next [row] lawful held
    (by simpa using mem_of_lookup found)
  have locked := (faithful_neutral oath owned).locks _ next [.user userId] .noKeyUpdate noted
  refine ⟨locked.1, { locked.2 with owns := fun key member => ?_ }⟩
  obtain rfl | before := mem_cons.1 member
  · exact ⟨.noKeyUpdate, mem_cons_self, .inl rfl⟩
  · exact locked.2.owns key before

theorem authorised_mono {credential : Row}
    {owned : List Key} {operation : Operation α} (live : credential.live = true)
    (keeps : Keeps (.sworn authorization credential userId) owned operation) :
    law.Triple (Faithful (.sworn authorization credential userId) owned) operation fun _ =>
      Authorised authorization :=
  triple_mono keeps (fun _ _ _ held => held) fun _ _ _ _ held => ⟨credential, userId, owned, live, held⟩

section

variable (settings : IdentitySettings) (credential : Credential)

theorem authorises_request (need : Need) (required : TokenScope)
    (work : Principal -> Program workInterface Failure Unit) :
    Authorises credential need (request settings credential need required work) :=
  triple_bind (authorises_authorizeFor settings credential required need) fun live =>
    authorised_of_keeps fun _ _ => keeps_runWork (work live)

theorem authorises_createCliToken (need : Need) (keyed : RequestKey) (request : TokenRequest) :
    Authorises credential need (createCliToken settings credential keyed request) := by
  refine triple_bind (authorises_revalidatePrincipal settings credential need) fun live => ?_
  refine authorised_of_keeps fun oath owned => ?_
  refine keeps_bind (keeps_validateRequestedTokenScopes live _) fun _ => ?_
  refine keeps_bind (keeps_ask .transactionTimestamp) fun now => ?_
  refine keeps_bind (keeps_beginIdempotency _ _) fun outcome => ?_
  refine keeps_bind keeps_ensureCredentialsMutable fun _ => ?_
  refine keeps_bind (keeps_add fun place guarded => .inr ?_) fun _ => keeps_completeIdempotency _ _ _ _
  simpa [cliTokens, Row.key, guard, eq_comm] using guarded

theorem authorises_revokeCliToken (need : Need) (keyed : RequestKey) (tokenId : TokenId) :
    Authorises credential need (revokeCliToken settings credential keyed tokenId) := by
  refine triple_bind (authorises_revalidatePrincipal settings credential need) fun live => ?_
  refine authorised_of_keeps fun oath owned => ?_
  refine keeps_bind (keeps_require _ _ _ _) fun _ => ?_
  refine keeps_bind (keeps_ask .transactionTimestamp) fun now => ?_
  refine keeps_bind (keeps_beginIdempotency _ _) fun outcome => ?_
  cases outcome.replay with
  | some response => exact keeps_pure ()
  | none =>
    refine keeps_bind keeps_ensureCredentialsMutable fun _ => ?_
    refine keeps_bind (keeps_fetch _ _ _) fun found => ?_
    cases found.filter fun token => token.userId = live.userId with
    | none => exact keeps_raise _
    | some token =>
      refine keeps_bind (keeps_only ?_) fun _ => keeps_completeIdempotency _ _ _ _
      exact keeps_bind (keeps_updateTokens (fun _ => rfl) (fun _ => rfl) fun _ _ => by simp) fun _ =>
        keeps_pure ()

theorem authorises_deleteMembership (need : Need) (keyed : RequestKey) (request : MembershipRemoval) :
    Authorises credential need (deleteMembership settings credential keyed request) := by
  refine triple_bind (authorises_authorizeAdmin settings credential true need) fun live => ?_
  refine authorised_of_keeps fun oath owned => ?_
  refine keeps_bind (keeps_ask .transactionTimestamp) fun now => ?_
  refine keeps_bind (keeps_beginIdempotency _ _) fun outcome => ?_
  cases outcome.replay with
  | some response => exact keeps_pure ()
  | none =>
    refine keeps_bind (keeps_resolveExpectedVersion _) fun version => ?_
    refine keeps_bind keeps_ensureMutable fun _ => ?_
    refine keeps_bind (keeps_fetch _ _ _) fun found => ?_
    cases found with
    | none => exact keeps_raise _
    | some aggregate =>
      refine keeps_bind (keeps_require _ _ _ _) fun _ => ?_
      refine keeps_bind (keeps_deleteMembershipRows _ _) fun deleted => ?_
      refine keeps_bind (keeps_require _ _ _ _) fun _ => ?_
      refine keeps_bind (keeps_updateMembershipSets fun _ => rfl) fun _ => ?_
      refine keeps_bind (keeps_revokeUserCredentials _ _) fun _ => ?_
      exact keeps_completeIdempotency _ _ _ _

theorem authorises_updateUser (need : Need) (keyed : RequestKey) (request : UserUpdate) :
    Authorises credential need (updateUser settings credential keyed request) := by
  refine triple_bind (authorises_authorizeAdmin settings credential true need) fun live => ?_
  refine triple_exists fun basis => triple_exists fun userId => triple_exists fun owned =>
    triple_and fun current => ?_
  refine triple_bind (keeps_ask .transactionTimestamp) fun now => ?_
  refine triple_bind (keeps_beginIdempotency _ _) fun outcome => ?_
  cases outcome.replay with
  | some response => exact authorised_mono current (keeps_pure ())
  | none =>
    refine triple_bind (keeps_resolveExpectedVersion _) fun version => ?_
    refine triple_bind keeps_ensureMutable fun _ => ?_
    refine triple_bind (keeps_acquire _ _) fun control => ?_
    refine triple_bind (keeps_one control) fun _ => ?_
    refine triple_bind (owns_fetched request.userId) fun found => ?_
    cases found with
    | none => exact triple_raise trivial
    | some row =>
      -- From here on the user is owned, which the changes of the role need.
      refine triple_exists fun _ => triple_and fun _ => authorised_mono current ?_
      refine keeps_bind (keeps_require _ _ _ _) fun _ => ?_
      refine keeps_bind (keeps_fetch _ _ _) fun grant => ?_
      refine keeps_bind (keeps_only ?_) fun _ => ?_
      · exact keeps_bind (keeps_otherAdministrator _) fun _ => keeps_require _ _ _ _
      refine keeps_bind (keeps_hashPassword _) fun passwordHash => ?_
      refine keeps_bind (keeps_updateUsers fun _ => rfl) fun _ => ?_
      refine keeps_bind (keeps_only (keeps_changeRole _ _ _ _ mem_cons_self)) fun _ => ?_
      refine keeps_bind (keeps_only (keeps_revokeUserCredentials _ _)) fun _ => ?_
      exact keeps_bind (keeps_systemAdmin _) fun _ => keeps_completeIdempotency _ _ _ _

theorem authorises_resolveBrowserSession (need : Need) (cookie : Cookie) :
    Authorises (.browser cookie.sessionId) need (resolveBrowserSession settings cookie) := by
  refine triple_bind (locks_browserSessionRow rfl) fun row => ?_
  cases row with
  | none => exact triple_raise trivial
  | some pair =>
    obtain ⟨session, user⟩ := pair
    refine triple_bind (keeps_demand _ _) fun _ => ?_
    refine triple_bind keeps_operationalMode fun mode => ?_
    refine triple_bind (keeps_ask .clockTimestamp) fun now => authorised_of_live ?_ ?_
    · intro passed
      simp only [liveSession, decide_eq_true_eq] at passed
      simpa [Row.live] using passed.1
    refine authorised_of_keeps fun oath owned => ?_
    refine keeps_bind (keeps_principalOf _ _ _) fun principal => ?_
    refine keeps_bind (keeps_demand _ _) fun _ => ?_
    refine keeps_bind (keeps_only ?_) fun _ => ?_
    · exact keeps_bind (keeps_updateSessions (fun _ => rfl) (fun _ => rfl) fun _ live => live) fun _ => keeps_pure ()
    exact keeps_bind (keeps_demand _ _) fun _ => keeps_pure _

theorem authorises_logout (need : Need) (cookie : Cookie) :
    Authorises (.browser cookie.sessionId) need (logout settings cookie) := by
  refine triple_bind (locks_browserSessionRow rfl) fun row => ?_
  cases row with
  | none => exact triple_raise trivial
  | some pair =>
    obtain ⟨session, user⟩ := pair
    refine triple_bind (keeps_demand _ _) fun _ => ?_
    refine triple_bind keeps_operationalMode fun mode => ?_
    refine triple_bind (keeps_ask .clockTimestamp) fun now => authorised_of_live ?_ ?_
    · intro passed
      simp only [liveSession, decide_eq_true_eq] at passed
      simpa [Row.live] using passed.1
    refine authorised_of_keeps fun oath owned => ?_
    refine keeps_bind (keeps_require _ _ _ _) fun _ => ?_
    refine keeps_bind (keeps_only ?_) fun _ => ?_
    · exact keeps_bind (keeps_systemAdmin _) fun _ => keeps_demand _ _
    exact keeps_bind (keeps_updateSessions (fun _ => rfl) (fun _ => rfl) fun _ _ => by simp) fun _ => keeps_pure ()

end

end Nexa.Api
