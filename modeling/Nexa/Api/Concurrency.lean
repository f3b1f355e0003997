import Nexa.Api.Barrier
import Nexa.Shared.Simulation

namespace Nexa.Api

open Interaction Locking

inductive Call where
  | login (username password : String) (secretHash csrfSecretHash : Nat)
  | resolve (cookie : Cookie)
  | logout (cookie : Cookie)
  /-- The authority that the scopes of the token are taken from. -/
  | createCliToken (credential : Credential) (need : Need) (keyed : RequestKey) (request : TokenRequest)
  | revokeCliToken (credential : Credential) (keyed : RequestKey) (tokenId : TokenId)
  | updateUser (credential : Credential) (keyed : RequestKey) (request : UserUpdate)
  | deleteMembership (credential : Credential) (keyed : RequestKey) (request : MembershipRemoval)
  | request (credential : Credential) (need : Need) (required : TokenScope)
      (work : Principal -> Program workInterface Failure Unit)

def transactAs {α : Type} (credential : Credential) (need : Need) (operation : Operation α) :
    Operation Unit := do
  let _ <- transact (some ⟨credential, need⟩) operation
  pure ()

def Call.program (settings : IdentitySettings) : Call -> Operation Unit
  | .login username password secretHash csrfSecretHash =>
    Nexa.Api.login settings username password secretHash csrfSecretHash
  | .resolve cookie => transactAs (.browser cookie.sessionId) .nothing (resolveBrowserSession settings cookie)
  | .logout cookie => transactAs (.browser cookie.sessionId) .nothing (Nexa.Api.logout settings cookie)
  | .createCliToken credential need keyed wanted =>
    transactAs credential need (Nexa.Api.createCliToken settings credential keyed wanted)
  | .revokeCliToken credential keyed tokenId =>
    transactAs credential .nothing (Nexa.Api.revokeCliToken settings credential keyed tokenId)
  | .updateUser credential keyed wanted =>
    transactAs credential .admin (Nexa.Api.updateUser settings credential keyed wanted)
  | .deleteMembership credential keyed wanted =>
    transactAs credential .admin (Nexa.Api.deleteMembership settings credential keyed wanted)
  | .request credential need required work =>
    transactAs credential need (Nexa.Api.request settings credential need required work)

abbrev ApiWorld := World Nat Key Row Label Failure Unit

structure Fresh (world : ApiWorld) : Prop where
  distinct : Distinct world.chronicle.rows
  entries : world.chronicle.entries = []
  opened : ∀ process, world.opened process = none
  failures : world.failures = []

abbrev ApiPool := Programs outer Nat Key Row Label Failure Unit

/-- Each request in a process of its own. Clocks, identities and passwords may be anything. -/
def requests (settings : IdentitySettings) : Transition.System ApiPool (PoolEvent Nat Call) :=
  pools (database anything) (Call.program settings) Fresh

theorem authorised_stable (authorization : Authorization) : law.Stable (Authorised authorization) := by
  rintro transaction seen next ⟨credential, userId, owned, live, held⟩ drifts
  exact ⟨credential, userId, owned, live, faithful_stable _ _ _ _ _ held drifts⟩

theorem permitted_of_authorised {authorization : Authorization} {transaction : ApiTransaction}
    {chronicle : ApiChronicle} (authorised : Authorised authorization transaction chronicle) :
    Permitted chronicle transaction.entry := by
  obtain ⟨token, userId, owned, live, sworn, disciplined⟩ := authorised
  have sworn : Sworn authorization token userId transaction chronicle := sworn
  refine { keeps := disciplined.keeps, erases := disciplined.erases, fresh := ?_, live := ?_ }
  · rintro commits row credential ⟨read, named, reader, labelled, key, ⟨time, other, seen, same, owner, -⟩, supports⟩
    obtain rfl : authorization = named := Option.some.inj (sworn.label.symm.trans labelled)
    obtain rfl : token.key = credential := Option.some.inj (sworn.named.symm.trans key)
    obtain rfl : userId = reader := Option.some.inj ((sworn.mine time other seen same).symm.trans owner)
    exact sworn.fresh commits row read supports
  · rintro commits row credential ⟨-, named, -, labelled, key, -⟩ ⟨dead, found, -, ended⟩
    obtain rfl : authorization = named := Option.some.inj (sworn.label.symm.trans labelled)
    obtain rfl : token.key = credential := Option.some.inj (sworn.named.symm.trans key)
    rw [sworn.current, Option.some.injEq] at found
    rw [← found, live] at ended
    cases ended

theorem permitted_of_system {owned : List Key} {transaction : ApiTransaction} {chronicle : ApiChronicle}
    (faithful : Faithful .system owned transaction chronicle) : Permitted chronicle transaction.entry := by
  have unlabelled : transaction.label = none := faithful.1
  -- A transaction of the system is authorised by nothing.
  have unauthorised : ∀ commits row credential, ¬ AuthorisedBy transaction.entry commits row credential := by
    rintro commits row credential ⟨-, named, -, labelled, -⟩
    cases unlabelled.symm.trans labelled
  exact {
    keeps := faithful.2.keeps
    erases := faithful.2.erases
    fresh := fun commits row credential authorised => absurd authorised (unauthorised commits row credential)
    live := fun commits row credential authorised => absurd authorised (unauthorised commits row credential) }

theorem wp_transactAs {α : Type} {credential : Credential} {need : Need} {operation : Operation α}
    (authorises : Authorises credential need operation) (seen : ApiChronicle) :
    law.contract.wp (fun _ _ => True) (fun _ _ => True) (transactAs credential need operation)
      ⟨seen, none⟩ := by
  unfold transactAs
  rw [wp_bind]
  refine wp_transact_of_triple (fun next drifts => ?_) (fun _ => authorised_stable ⟨credential, need⟩)
    (fun value transaction next lawful authorised => ⟨permitted_of_authorised authorised, trivial⟩)
    (fun _ _ _ => trivial)
  exact triple_mono authorises (fun _ _ _ starts => starts.1) fun _ _ _ _ held => held

theorem faithful_start {label : Label} (unlabelled : label = none) (chronicle : ApiChronicle) :
    Faithful .system [] (.start label) chronicle := by
  refine ⟨unlabelled, ?_⟩
  constructor <;> simp [Transaction.start, KeepsDead]

theorem wp_login (settings : IdentitySettings) (username password : String) (secretHash csrfSecretHash : Nat)
    (seen : ApiChronicle) :
    law.contract.wp (fun _ _ => True) (fun _ _ => True)
      (login settings username password secretHash csrfSecretHash) ⟨seen, none⟩ := by
  unfold login
  rw [wp_bind]
  refine wp_outside.2 fun next _ observed => ?_
  cases observed with
  | none => trivial
  | some user =>
    simp only
    rw [wp_bind]
    refine wp_outside.2 fun next _ valid => ?_
    rw [wp_bind, wp_demand]
    refine ⟨fun _ => ?_, fun _ => trivial⟩
    rw [wp_bind]
    refine wp_outside.2 fun next _ sessionId => ?_
    rw [wp_bind]
    refine wp_transact_of_triple (fun later drifts => ?_) (fun _ => faithful_stable .system [])
      (fun value transaction next lawful held => ⟨permitted_of_system held, trivial⟩) (fun _ _ _ => trivial)
    refine triple_mono (keeps_loginOperation settings user sessionId secretHash csrfSecretHash) ?_
      fun _ _ _ _ held => held
    rintro transaction seen - ⟨rfl, -⟩
    exact faithful_start rfl seen

theorem wp_program (settings : IdentitySettings) (call : Call) (seen : ApiChronicle) :
    law.contract.wp (fun _ _ => True) (fun _ _ => True) (call.program settings) ⟨seen, none⟩ := by
  cases call with
  | login username password secretHash csrfSecretHash => exact wp_login _ _ _ _ _ seen
  | resolve cookie => exact wp_transactAs (authorises_resolveBrowserSession settings .nothing cookie) seen
  | logout cookie => exact wp_transactAs (authorises_logout settings .nothing cookie) seen
  | createCliToken credential need keyed request =>
    exact wp_transactAs (authorises_createCliToken settings credential need keyed request) seen
  | revokeCliToken credential keyed tokenId =>
    exact wp_transactAs (authorises_revokeCliToken settings credential .nothing keyed tokenId) seen
  | updateUser credential keyed request =>
    exact wp_transactAs (authorises_updateUser settings credential .admin keyed request) seen
  | deleteMembership credential keyed request =>
    exact wp_transactAs (authorises_deleteMembership settings credential .admin keyed request) seen
  | request credential need required work =>
    exact wp_transactAs (authorises_request settings credential need required work) seen

theorem lawful_of_fresh {world : ApiWorld} (fresh : Fresh world) : law.Lawful world.chronicle := by
  have same : world.chronicle = ⟨world.chronicle.rows, []⟩ := by rw [← fresh.entries]
  rw [same]
  exact .initial fresh.distinct

theorem lawful_of_requests {settings : IdentitySettings} {pool : ApiPool}
    (reachable : (requests settings).Reachable pool) : law.Lawful pool.state.chronicle := by
  have lawful : pool.Lawful law.contract law.Holds law.Knows Idle (fun _ _ => True) fun _ _ => True := by
    refine lawful_of_pools (law.secure anything) (fun world fresh => ?_) (fun call sight idle => ?_) reachable
    · exact law.starts (lawful_of_fresh fresh) fresh.opened fresh.failures
    · obtain ⟨seen, transaction⟩ := sight
      obtain rfl : transaction = none := idle
      exact wp_program settings call seen
  exact lawful.held.lawful

def overtakes (chronicle : ApiChronicle) (first second : Nat) (row token : Row) (authorization : Authorization) :
    Bool :=
  match chronicle.entries[first]?, chronicle.entries[second]? with
  | some revoker, some writer =>
    first < second ∧ revoker.written.any (revokes row) ∧ writer.label = some authorization ∧
      (writer.reads.any fun read => read.1 ≤ first ∧ read.2 = row) ∧
      (writer.reads.any fun read => read.2 = token)
  | _, _ => false

theorem overtaken_of_overtakes {chronicle : ApiChronicle} {first second : Nat} {row token : Row}
    {authorization : Authorization} {userId : UserId}
    (overtaking : overtakes chronicle first second row token authorization = true)
    (key : authorization.credential.key = some token.key) (owner : token.owner = some userId)
    (live : token.live = true) (supports : Supports authorization token.key userId row) :
    ∃ revoker writer, Overtaken chronicle revoker writer row token.key := by
  unfold overtakes at overtaking
  split at overtaking
  case h_2 => cases overtaking
  case h_1 revoker writer before after =>
    simp only [decide_eq_true_eq, List.any_eq_true] at overtaking
    obtain ⟨order, revoked, labelled, ⟨⟨commits, _⟩, read, early, rfl⟩, ⟨⟨time, _⟩, held, rfl⟩⟩ := overtaking
    refine ⟨revoker, writer, revoked, first, second, commits, before, after, order, ⟨read, ?_⟩, .inl early⟩
    exact ⟨authorization, userId, labelled, key, ⟨time, _, held, rfl, owner, live⟩, supports⟩

namespace Race

def settings : IdentitySettings where
  browserSessionIdleTtlSeconds := 1000
  browserSessionAbsoluteTtlSeconds := 10000

def member : User := { userId := 2, displayName := "member", passwordHash := 7, enabled := true, version := 1 }

def membership : Membership := { tenantId := 5, userId := 2, role := .member }

def oldSession : BrowserSession :=
  { sessionId := 31, userId := 2, secretHash := 1, csrfSecretHash := 1, expiresAt := 10000, lastSeenAt := 0
    revokedAt := none }

def newSession : BrowserSession :=
  { sessionId := 32, userId := 2, secretHash := 2, csrfSecretHash := 2, expiresAt := 10100, lastSeenAt := 100
    revokedAt := none }

def initial : ApiPool where
  state := {
    chronicle := {
      rows := [
        .user { userId := 1, displayName := "administrator", passwordHash := 6, enabled := true, version := 1 },
        .user member,
        .grant { userId := 1, version := 1, grantedByUserId := none, grantedAt := 0, revokedAt := none },
        .tenant { tenantId := 5, enabled := true },
        .membership membership,
        .membershipSet { tenantId := 5, version := 1 },
        .session { oldSession with sessionId := 30, userId := 1, secretHash := 0 },
        .session oldSession,
        .policy .running]
      entries := [] }
    opened := fun _ => none
    failures := []
    outside := () }
  running := fun _ => none

def supplied (uuid : Nat) : (command : Outer) -> command.Answer
  | .transactionTimestamp => (100 : Nat)
  | .clockTimestamp => (100 : Nat)
  | .newUuid => uuid
  | .lockTimeout => false
  | .observedUser _ => some member
  | .verifyPassword _ _ => true
  | .hashPassword _ => (0 : Nat)
  | .conflict => false
  | .connectionLost => false
  | .store command => command.idle

def removal : Call := .deleteMembership (.browser 30) ⟨"0123456789abcdef", 0⟩ ⟨5, 2, .version 1⟩

def login : Call := .login "member" "password" 2 2

/-- The rows that the begin of an upload writes: its record, the counter of the tenant and the upload session. -/
def upload (sessionId uploadId : Nat) : Call :=
  .request (.browser sessionId) (.tenant 5) .artifactsWrite fun _ =>
    .call (.insert ⟨"idempotency_records", uploadId, 0⟩) fun _ =>
    .call (.insert ⟨"artifact_storage_counters", 5, 0⟩) fun _ =>
    .call (.acquire "artifact_storage_counters" 5 .update) fun _ =>
    .call (.put ⟨"artifact_storage_counters", 5, uploadId⟩) fun _ =>
    .call (.insert ⟨"upload_sessions", uploadId, 0⟩) fun _ => .done ()

/-- The member begins an upload. Then the removal waits while they log in anew and begin another. -/
def schedule : List (Move outer Nat Call) :=
  .start 3 (upload 31 1) :: List.replicate 12 (.run 3 (supplied 49)) ++
    .start 0 removal :: List.replicate 24 (.run 0 (supplied 50)) ++
    .start 1 login :: List.replicate 12 (.run 1 (supplied 32)) ++
    .start 2 (upload 32 2) :: List.replicate 11 (.run 2 (supplied 51)) ++
    [.run 0 (supplied 50), .run 2 (supplied 51)]

def final : Option ApiPool := simulate (Call.program settings) [0, 1, 2, 3] schedule initial

theorem reachable_of_final {pool : ApiPool} (ended : final = some pool) : (requests settings).Reachable pool := by
  refine reachable_of_simulate ?_ (fun _ _ => rfl) ended
  refine ⟨initial, [], ⟨⟨?_, rfl, fun _ => rfl, rfl⟩, fun _ => rfl⟩, .nil _⟩
  unfold Distinct
  decide

theorem exists_final {check : ApiPool -> Bool} (checked : final.any check = true) :
    ∃ pool, (requests settings).Reachable pool ∧ check pool = true := by
  obtain ⟨pool, ended, passed⟩ := (Option.any_eq_true _ _).1 checked
  exact ⟨pool, reachable_of_final ended, passed⟩

theorem overtaken : ∃ pool revoker writer, (requests settings).Reachable pool ∧
    Overtaken pool.state.chronicle revoker writer (.membership membership) (.session 32) := by
  have checked : final.any (fun pool => overtakes pool.state.chronicle 2 3 (.membership membership)
      (.session newSession) ⟨.browser 32, .tenant 5⟩) = true := by decide +kernel
  obtain ⟨pool, reachable, overtaking⟩ := exists_final checked
  obtain ⟨revoker, writer, overtaken⟩ := overtaken_of_overtakes overtaking rfl rfl rfl (.membership rfl rfl)
  exact ⟨pool, revoker, writer, reachable, overtaken⟩

end Race

/-- The upload is committed after the removal of the membership that authorised it. -/
theorem membership_removal_overtaken :
    ∃ settings pool revoker writer row credential, (requests settings).Reachable pool ∧
      Overtaken pool.state.chronicle revoker writer row credential := by
  obtain ⟨pool, revoker, writer, reachable, overtaken⟩ := Race.overtaken
  exact ⟨Race.settings, pool, revoker, writer, _, _, reachable, overtaken⟩

inductive Revocable where
  | session
  | token
  | user
  | grant
  | membership

def Row.revocable : Row -> Option Revocable
  | .session _ => some .session
  | .token _ => some .token
  | .user _ => some .user
  | .grant _ => some .grant
  | .membership _ => some .membership
  | _ => none

theorem guard_of_revocable {row : Row} {kind : Revocable} (is : row.revocable = some kind)
    (other : kind ≠ .membership) : guard row.key ≠ none := by
  cases row <;> simp_all [Row.revocable, Row.key, guard]

/-- What is revoked authorises nothing that is committed later exactly if it is not a membership. Where a removed
membership does, the removal did not revoke the credential. -/
theorem revocation_barrier (kind : Revocable) :
    ((∀ settings pool, (requests settings).Reachable pool -> ∀ revoker writer row credential,
      row.revocable = some kind -> ¬ Overtaken pool.state.chronicle revoker writer row credential) <->
        kind ≠ .membership) ∧
    ∀ settings pool, (requests settings).Reachable pool -> ∀ revoker writer row credential,
      Overtaken pool.state.chronicle revoker writer row credential ->
      ∀ token : Row, token.key = credential -> ¬ Revokes revoker token := by
  refine ⟨⟨?_, fun other settings pool reachable revoker writer row credential is overtaken => ?_⟩, ?_⟩
  · rintro barrier rfl
    obtain ⟨pool, revoker, writer, reachable, overtaken⟩ := Race.overtaken
    exact barrier Race.settings pool reachable revoker writer _ _ rfl overtaken
  · exact guard_of_revocable is other (not_overtaken (lawful_of_requests reachable) overtaken).1
  · intro settings pool reachable revoker writer row credential overtaken
    exact (not_overtaken (lawful_of_requests reachable) overtaken).2

/-- An upload of the old session is committed before the removal revokes the session, and none after it. -/
theorem revocation_barrier_race :
    ∃ pool : ApiPool, (requests Race.settings).Reachable pool ∧
      (∃ writer ∈ pool.state.chronicle.entries, writer.label = some ⟨.browser 31, .tenant 5⟩ ∧ writer.written ≠ []) ∧
      (∃ revoker ∈ pool.state.chronicle.entries, Revokes revoker (.session Race.oldSession)) ∧
      ∀ revoker writer, ¬ Overtaken pool.state.chronicle revoker writer (.session Race.oldSession) (.session 31) := by
  have checked : Race.final.any (fun pool =>
      (pool.state.chronicle.entries.any fun entry =>
        entry.label = some ⟨.browser 31, .tenant 5⟩ ∧ entry.written ≠ []) &&
      pool.state.chronicle.entries.any fun entry =>
        entry.written.any (revokes (.session Race.oldSession))) = true := by decide +kernel
  obtain ⟨pool, reachable, both⟩ := Race.exists_final checked
  simp only [Bool.and_eq_true, List.any_eq_true, decide_eq_true_eq] at both
  exact ⟨pool, reachable, both.1, both.2, fun revoker writer =>
    (revocation_barrier .session).1.2 (by simp) _ pool reachable revoker writer _ _ rfl⟩

end Nexa.Api
