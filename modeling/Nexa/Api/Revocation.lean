import Nexa.Api.Identity

namespace Nexa.Api

open Interaction Locking List

def guard : Key -> Option Key
  | .session sessionId => some (.session sessionId)
  | .token tokenId => some (.token tokenId)
  | .user userId => some (.user userId)
  | .grant userId => some (.user userId)
  | _ => none

def Row.owner : Row -> Option UserId
  | .session row => some row.userId
  | .token row => some row.userId
  | _ => none

def Row.live : Row -> Bool
  | .session row => row.revokedAt = none
  | .token row => row.revokedAt = none
  | .user row => row.enabled
  | .grant row => row.revokedAt = none
  | _ => true

def Credential.key : Credential -> Option Key
  | .browser sessionId => some (.session sessionId)
  | .cli tokenId => some (.token tokenId)
  | _ => none

abbrev ApiEntry := Entry Key Row Label
abbrev ApiChronicle := Chronicle Key Row Label
abbrev ApiTransaction := Transaction Key Row Label

def revokes (row : Row) : Change Key Row -> Bool
  | .put new => new.key = row.key ∧ new.live = false
  | .erase key => key = row.key

variable {row : Row} {change : Change Key Row}

theorem key_of_revokes (revoking : revokes row change = true) : change.key = row.key := by
  cases change with
  | put new =>
    obtain ⟨same, -⟩ : new.key = row.key ∧ new.live = false := by simpa [revokes] using revoking
    exact same
  | erase key => simpa [revokes] using revoking

def Revokes (entry : ApiEntry) (row : Row) : Prop := ∃ change ∈ entry.written, revokes row change = true

/-- The credential, its user, and the role or membership. -/
inductive Supports (authorization : Authorization) (key : Key) (userId : UserId) : Row -> Prop where
  | credential {row : Row} (same : row.key = key) (live : row.live = true) : Supports authorization key userId row
  | user {row : User} (same : row.userId = userId) (enabled : row.enabled = true) :
      Supports authorization key userId (.user row)
  | grant {row : SystemRoleGrant} (same : row.userId = userId) (need : authorization.need = .admin)
      (live : row.revokedAt = none) : Supports authorization key userId (.grant row)
  | membership {row : Membership} (same : row.userId = userId)
      (need : authorization.need = .tenant row.tenantId) : Supports authorization key userId (.membership row)

/-- The transaction read the row after so many commits, and was authorised by it. -/
structure AuthorisedBy (entry : ApiEntry) (commits : Nat) (row : Row) (credential : Key) : Prop where
  reads : (commits, row) ∈ entry.reads
  supported : ∃ authorization userId, entry.label = some authorization ∧
    authorization.credential.key = some credential ∧
    (∃ time token, (time, token) ∈ entry.reads ∧ token.key = credential ∧ token.owner = some userId ∧
      token.live = true) ∧
    Supports authorization credential userId row

/-- The transaction comes after one that had revoked what authorised it. Only credentials never come back. -/
structure Overtaken (chronicle : ApiChronicle) (revoker writer : ApiEntry) (row : Row) (credential : Key) : Prop where
  revoked : Revokes revoker row
  order : ∃ first second commits, chronicle.entries[first]? = some revoker ∧
    chronicle.entries[second]? = some writer ∧ first < second ∧
    AuthorisedBy writer commits row credential ∧ (commits ≤ first ∨ row.key = credential)

def Dead (rows : List Row) (key : Key) : Prop :=
  ∃ row, lookup rows key = some row ∧ row.owner.isSome = true ∧ row.live = false

def KeepsDead : List Row -> List (Change Key Row) -> Prop
  | _, [] => True
  | rows, change :: rest =>
    (Dead rows change.key -> Dead (change.apply rows) change.key) ∧ KeepsDead (change.apply rows) rest

variable {rows : List Row} {key : Key}

theorem Dead.congr {others : List Row} (same : lookup rows key = lookup others key)
    (dead : Dead rows key) : Dead others key := by
  obtain ⟨row, found, owned, revoked⟩ := dead
  exact ⟨row, same ▸ found, owned, revoked⟩

theorem Dead.apply
    (keeps : Dead rows change.key -> Dead (change.apply rows) change.key) (dead : Dead rows key) :
    Dead (change.apply rows) key := by
  by_cases same : change.key = key
  · subst same
    exact keeps dead
  · exact dead.congr (lookup_apply_other same).symm

variable {changes : List (Change Key Row)}

theorem KeepsDead.dead (keeps : KeepsDead rows changes) (dead : Dead rows key) : Dead (applyAll rows changes) key := by
  induction changes generalizing rows with
  | nil => exact dead
  | cons change rest ih => exact ih keeps.2 (dead.apply keeps.1)

theorem KeepsDead.put (keeps : KeepsDead rows changes) (member : .put row ∈ changes)
    (owned : row.owner.isSome = true) (revoked : row.live = false) :
    Dead (applyAll rows changes) row.key := by
  induction changes generalizing rows with
  | nil => cases member
  | cons change rest ih =>
    obtain rfl | later := mem_cons.1 member
    · exact keeps.2.dead ⟨row, lookup_put_same rows row, owned, revoked⟩
    · exact ih keeps.2 later

theorem KeepsDead.append {last : Change Key Row} (keeps : KeepsDead rows changes)
    (final : Dead (applyAll rows changes) last.key -> Dead (last.apply (applyAll rows changes)) last.key) :
    KeepsDead rows (changes ++ [last]) := by
  induction changes generalizing rows with
  | nil => exact ⟨final, trivial⟩
  | cons change rest ih => exact ⟨keeps.1, ih keeps.2 final⟩

theorem guard_of_owner (owned : row.owner.isSome = true) : guard row.key = some row.key := by
  cases row <;> simp_all [Row.owner, Row.key, guard]

theorem Dead.guarded (dead : Dead rows key) : guard key = some key := by
  obtain ⟨row, found, owned, -⟩ := dead
  have same : row.key = key := key_of_lookup found
  exact same ▸ guard_of_owner owned

theorem KeepsDead.congr {others : List Row}
    (same : ∀ change ∈ changes, guard change.key = some change.key ->
      lookup rows change.key = lookup others change.key)
    (keeps : KeepsDead rows changes) : KeepsDead others changes := by
  induction changes generalizing rows others with
  | nil => trivial
  | cons change rest ih =>
    obtain ⟨first, later⟩ := forall_mem_cons.1 same
    refine ⟨fun dead => ?_, ih (fun other member guarded => ?_) keeps.2⟩
    · have equal := first dead.guarded
      exact (keeps.1 (dead.congr equal.symm)).congr (lookup_apply_congr equal change)
    · exact lookup_apply_congr (later other member guarded) change

structure Permitted (chronicle : ApiChronicle) (entry : ApiEntry) : Prop where
  keeps : KeepsDead chronicle.rows entry.written
  erases : ∀ key, .erase key ∈ entry.written -> guard key = none
  fresh : ∀ commits row credential, AuthorisedBy entry commits row credential -> guard row.key ≠ none ->
    ∀ index earlier, commits ≤ index -> chronicle.entries[index]? = some earlier -> ¬ Revokes earlier row
  live : ∀ commits row credential, AuthorisedBy entry commits row credential -> ¬ Dead chronicle.rows credential

def law : Law Key Row Label Failure where
  initial := Distinct
  guard := guard
  permits := Permitted
  tolerates := fun _ => True

variable {chronicle : ApiChronicle}

theorem distinct_of_lawful (lawful : law.Lawful chronicle) : Distinct chronicle.rows := by
  induction lawful with
  | initial begins => exact begins
  | extend _ _ ih => exact ih.applyAll _

theorem owner_isSome {credential : Credential} (key : credential.key = some row.key) : row.owner.isSome = true := by
  cases credential <;> simp only [Credential.key, Option.some.injEq, reduceCtorEq] at key <;>
    cases row <;> simp_all [Row.key, Row.owner]

variable {entry : ApiEntry}

theorem dead_of_revokes (permitted : Permitted chronicle entry) (owned : row.owner.isSome = true)
    (revoked : Revokes entry row) :
    Dead (chronicle.extend entry).rows row.key := by
  obtain ⟨change, written, revoking⟩ := revoked
  cases change with
  | erase key =>
    have same : key = row.key := by simpa [revokes] using revoking
    have unguarded := permitted.erases key written
    rw [same, guard_of_owner owned] at unguarded
    cases unguarded
  | put new =>
    obtain ⟨same, ended⟩ : new.key = row.key ∧ new.live = false := by simpa [revokes] using revoking
    have owns : new.owner.isSome = true := by
      cases row <;> simp only [Row.owner, Option.isSome_some, Option.isSome_none, Bool.false_eq_true] at owned <;>
        cases new <;> simp_all [Row.key, Row.owner]
    rw [← same]
    exact permitted.keeps.put written owns ended

theorem dead_of_lawful (lawful : law.Lawful chronicle) {index : Nat} (found : chronicle.entries[index]? = some entry)
    (owned : row.owner.isSome = true) (revoked : Revokes entry row) : Dead chronicle.rows row.key := by
  induction lawful with
  | initial begins => simp at found
  | @extend before last _ permitted ih =>
    simp only [Chronicle.extend, getElem?_append] at found
    split_ifs at found with earlier
    · exact permitted.keeps.dead (ih found)
    · obtain ⟨rfl⟩ : last = entry := by
        have position : index - before.entries.length = 0 := by
          by_contra later
          simp [later] at found
        simpa [position] using found
      exact dead_of_revokes permitted owned revoked

theorem last_of_getElem {earlier : List ApiEntry} {last : ApiEntry} {index : Nat}
    (found : (earlier ++ [last])[index]? = some entry) (later : ¬ index < earlier.length) :
    index = earlier.length ∧ entry = last := by
  rw [getElem?_append_right (by omega)] at found
  have position : index - earlier.length = 0 := by
    by_contra other
    simp [other] at found
  simp only [position, getElem?_cons_zero, Option.some.injEq] at found
  exact ⟨by omega, found.symm⟩

/-- No transaction is overtaken by what revokes its credential, user or role. -/
theorem not_overtaken (lawful : law.Lawful chronicle) {revoker writer : ApiEntry} {credential : Key}
    (overtaken : Overtaken chronicle revoker writer row credential) :
    guard row.key = none ∧ ∀ token : Row, token.key = credential -> ¬ Revokes revoker token := by
  obtain ⟨revoked, first, second, commits, before, after, order, authorised, late⟩ := overtaken
  induction lawful with
  | initial begins => simp at before
  | @extend past last lawful permitted ih =>
    simp only [Chronicle.extend] at before after
    by_cases earlier : second < past.entries.length
    · rw [getElem?_append_left (by omega)] at before
      rw [getElem?_append_left earlier] at after
      exact ih before after
    obtain ⟨rfl, rfl⟩ := last_of_getElem after earlier
    rw [getElem?_append_left order] at before
    -- The credential of the writer is not revoked when it commits, so the revoker left it alone.
    have spared : ∀ token : Row, token.key = credential -> ¬ Revokes revoker token := by
      rintro token rfl gone
      obtain ⟨authorization, userId, -, named, -⟩ := authorised.supported
      exact permitted.live _ _ _ authorised (dead_of_lawful lawful before (owner_isSome named) gone)
    refine ⟨?_, spared⟩
    by_contra guarded
    obtain read | same := late
    · exact permitted.fresh _ _ _ authorised guarded first revoker read before revoked
    · exact spared row same revoked

/-- It holds its credential and its user, and nothing that authorised it was revoked. -/
structure Sworn (authorization : Authorization) (credential : Row) (userId : UserId)
    (transaction : ApiTransaction) (chronicle : ApiChronicle) : Prop where
  label : transaction.label = some authorization
  named : authorization.credential.key = some credential.key
  owner : credential.owner = some userId
  holds : transaction.Freezes credential.key
  holdsUser : transaction.Freezes (.user userId)
  current : lookup chronicle.rows credential.key = some credential
  mine : ∀ commits row, (commits, row) ∈ transaction.reads -> row.key = credential.key -> row.owner = some userId
  visible : ∃ row, lookup (transaction.view chronicle) credential.key = some row ∧ row.owner = some userId
  fresh : ∀ commits row, (commits, row) ∈ transaction.reads ->
    Supports authorization credential.key userId row -> guard row.key ≠ none ->
      ∀ index earlier, commits ≤ index -> chronicle.entries[index]? = some earlier -> ¬ Revokes earlier row

inductive Oath where
  | system
  | sworn (authorization : Authorization) (credential : Row) (userId : UserId)

def Oath.Holds : Oath -> Assertion Key Row Label
  | .system => fun transaction _ => transaction.label = none
  | .sworn authorization credential userId => Sworn authorization credential userId

/-- The writes bring back no credential, and the keys that were locked for more are owned. -/
structure Disciplined (owned : List Key) (transaction : ApiTransaction) (chronicle : ApiChronicle) : Prop where
  frozen : ∀ change ∈ transaction.written, transaction.Freezes change.key
  keeps : KeepsDead chronicle.rows transaction.written
  erases : ∀ key, .erase key ∈ transaction.written -> guard key = none
  owns : ∀ key ∈ owned, transaction.Owns key

def Faithful (oath : Oath) (owned : List Key) : Assertion Key Row Label :=
  fun transaction chronicle => oath.Holds transaction chronicle ∧ Disciplined owned transaction chronicle

variable {transaction : ApiTransaction} {authorization : Authorization} {credential : Row} {userId : UserId}

theorem Supports.frozen (sworn : Sworn authorization credential userId transaction chronicle) {place : Key}
    (supports : Supports authorization credential.key userId row) (guarded : guard row.key = some place) :
    transaction.Freezes place := by
  cases supports with
  | credential same live =>
    have owned : row.owner.isSome = true := owner_isSome (same ▸ sworn.named)
    rw [guard_of_owner owned, Option.some.injEq] at guarded
    exact guarded ▸ same ▸ sworn.holds
  | user same enabled =>
    simp only [Row.key, guard, Option.some.injEq] at guarded
    exact guarded ▸ same ▸ sworn.holdsUser
  | grant same need live =>
    simp only [Row.key, guard, Option.some.injEq] at guarded
    exact guarded ▸ same ▸ sworn.holdsUser
  | membership same need => cases guarded

theorem lookup_spared {frozen : Key -> Prop} (spares : law.Spares frozen entry)
    (guarded : guard key = some key) (held : frozen key) (rows : List Row) :
    lookup (applyAll rows entry.written) key = lookup rows key :=
  Law.Spares.lookup_eq spares guarded held rows

theorem sworn_stable (authorization : Authorization) (credential : Row) (userId : UserId) :
    law.Stable (Sworn authorization credential userId) := by
  refine stable_of_step fun transaction chronicle entry lawful sworn permitted spares => ?_
  have same := lookup_spared spares (guard_of_owner (owner_isSome sworn.named)) sworn.holds chronicle.rows
  refine { sworn with current := same.trans sworn.current, visible := ?_, fresh := ?_ }
  · obtain ⟨row, found, owned⟩ := sworn.visible
    exact ⟨row, (lookup_applyAll_congr same _).trans found, owned⟩
  · intro commits row read supports watched index earlier after found
    by_cases before : index < chronicle.entries.length
    · simp only [Chronicle.extend, getElem?_append_left before] at found
      exact sworn.fresh commits row read supports watched index earlier after found
    · obtain ⟨-, rfl⟩ := last_of_getElem found before
      rintro ⟨change, written, revoking⟩
      obtain ⟨place, guarded⟩ := Option.ne_none_iff_exists'.1 watched
      have protects : law.guard change.key = some place := key_of_revokes revoking ▸ guarded
      exact spares change written place protects (supports.frozen sworn guarded)

theorem disciplined_stable (owned : List Key) : law.Stable (Disciplined owned) := by
  refine stable_of_step fun transaction chronicle entry lawful disciplined permitted spares => ?_
  refine { disciplined with keeps := disciplined.keeps.congr fun change written guarded => ?_ }
  exact (lookup_spared spares guarded (disciplined.frozen change written) chronicle.rows).symm

theorem faithful_stable (oath : Oath) (owned : List Key) : law.Stable (Faithful oath owned) := by
  intro transaction seen next held drifts
  refine ⟨?_, disciplined_stable owned _ _ _ held.2 drifts⟩
  cases oath with
  | system => exact held.1
  | sworn authorization credential userId => exact sworn_stable _ _ _ _ _ _ held.1 drifts

theorem freezes_of_subset {next : ApiTransaction} (subset : transaction.held ⊆ next.held)
    (freezes : transaction.Freezes key) : next.Freezes key := by
  obtain ⟨strength, held, freezing⟩ := freezes
  exact ⟨strength, subset held, freezing⟩

theorem Sworn.locks
    (sworn : Sworn authorization credential userId transaction chronicle) (keys : List Key) (strength : Strength) :
    Sworn authorization credential userId (transaction.holding keys strength) chronicle := by
  have subset : transaction.held ⊆ (transaction.holding keys strength).held := subset_append_right _ _
  exact { sworn with
    holds := freezes_of_subset subset sworn.holds, holdsUser := freezes_of_subset subset sworn.holdsUser
    visible := sworn.visible }

theorem Disciplined.locks {owned : List Key}
    (disciplined : Disciplined owned transaction chronicle) (keys : List Key) (strength : Strength) :
    Disciplined owned (transaction.holding keys strength) chronicle := by
  have subset : transaction.held ⊆ (transaction.holding keys strength).held := subset_append_right _ _
  exact { disciplined with
    frozen := fun change written => freezes_of_subset subset (disciplined.frozen change written)
    owns := fun key member => (disciplined.owns key member).mono subset }

theorem Sworn.notes
    (lawful : law.Lawful chronicle) (sworn : Sworn authorization credential userId transaction chronicle)
    (visible : ∀ row ∈ rows, row ∈ transaction.view chronicle) :
    Sworn authorization credential userId (transaction.noting chronicle rows) chronicle := by
  have distinct : Distinct (transaction.view chronicle) := (distinct_of_lawful lawful).applyAll _
  refine
    { sworn with
      holds := sworn.holds, holdsUser := sworn.holdsUser, mine := ?_, visible := sworn.visible, fresh := ?_ }
  · intro commits row read same
    obtain new | old := mem_append.1 read
    · obtain ⟨other, member, pair⟩ := mem_map.1 new
      cases pair
      obtain ⟨mine, found, owned⟩ := sworn.visible
      have lookedUp : lookup (transaction.view chronicle) row.key = some row := distinct.lookup (visible row member)
      rw [same, found, Option.some.injEq] at lookedUp
      exact lookedUp ▸ owned
    · exact sworn.mine commits row old same
  · intro commits row read supports watched index earlier after found
    obtain new | old := mem_append.1 read
    · obtain ⟨other, member, pair⟩ := mem_map.1 new
      cases pair
      rw [getElem?_eq_none after] at found
      cases found
    · exact sworn.fresh commits row old supports watched index earlier after found

theorem faithful_neutral (oath : Oath) (owned : List Key) : law.Neutral (Faithful oath owned) where
  stable := faithful_stable oath owned
  notes := by
    intro transaction next rows lawful held visible
    refine ⟨?_, { held.2 with frozen := held.2.frozen, owns := held.2.owns }⟩
    cases oath with
    | system => exact held.1
    | sworn authorization credential userId => exact Sworn.notes lawful held.1 visible
  locks := by
    intro transaction next keys strength held
    refine ⟨?_, held.2.locks keys strength⟩
    cases oath with
    | system => exact held.1
    | sworn authorization credential userId => exact Sworn.locks held.1 keys strength

variable {strength : Strength}

section

variable {oath : Oath} {owned : List Key} {transaction : ApiTransaction} {chronicle : ApiChronicle}

theorem view_writing (transaction : ApiTransaction) (change : Change Key Row) (keys : List Key)
    (strength : Strength) (chronicle : ApiChronicle) :
    ((transaction.writing change).holding keys strength).view chronicle =
      change.apply (transaction.view chronicle) := by
  simp [Transaction.view, Transaction.writing, Transaction.holding, applyAll_append]

def Oath.Protects (oath : Oath) (row : Row) : Prop :=
  ∀ authorization credential userId, oath = .sworn authorization credential userId ->
    row.key = credential.key -> row.owner = some userId

theorem Disciplined.writes {keys : List Key}
    (disciplined : Disciplined owned transaction chronicle) (locked : change.key ∈ keys)
    (freezing : strength.Freezing)
    (kept : Dead (transaction.view chronicle) change.key ->
      Dead (change.apply (transaction.view chronicle)) change.key)
    (erases : ∀ key, change = .erase key -> guard key = none) :
    Disciplined owned ((transaction.writing change).holding keys strength) chronicle := by
  have subset : transaction.held ⊆ ((transaction.writing change).holding keys strength).held :=
    subset_append_right _ _
  constructor
  case frozen =>
    intro other written
    obtain before | last := mem_append.1 written
    · exact freezes_of_subset subset (disciplined.frozen other before)
    · obtain rfl := mem_singleton.1 last
      exact ⟨strength, mem_append_left _ (mem_map_of_mem locked), freezing⟩
  case keeps => exact disciplined.keeps.append kept
  case erases =>
    intro key written
    obtain before | last := mem_append.1 written
    · exact disciplined.erases key before
    · exact erases key (mem_singleton.1 last).symm
  case owns => exact fun key member => (disciplined.owns key member).mono subset

theorem Sworn.writes {keys : List Key} (sworn : Sworn authorization credential userId transaction chronicle)
    (visible : ∃ row, lookup (change.apply (transaction.view chronicle)) credential.key = some row ∧
      row.owner = some userId) :
    Sworn authorization credential userId ((transaction.writing change).holding keys strength) chronicle := by
  have subset : transaction.held ⊆ ((transaction.writing change).holding keys strength).held :=
    subset_append_right _ _
  exact { sworn with
    holds := freezes_of_subset subset sworn.holds, holdsUser := freezes_of_subset subset sworn.holdsUser
    visible := view_writing transaction change keys strength chronicle ▸ visible }

theorem Faithful.put {keys : List Key} (held : Faithful oath owned transaction chronicle) (locked : row.key ∈ keys)
    (freezing : strength.Freezing) (kept : Dead (transaction.view chronicle) row.key -> row.live = false)
    (protects : oath.Protects row) :
    Faithful oath owned ((transaction.writing (.put row)).holding keys strength) chronicle := by
  refine ⟨?_, held.2.writes locked freezing (fun dead => ?_) (fun key erased => nomatch erased)⟩
  · cases oath with
    | system => exact held.1
    | sworn authorization credential userId =>
      refine Sworn.writes held.1 ?_
      by_cases same : row.key = credential.key
      · refine ⟨row, ?_, protects _ _ _ rfl same⟩
        rw [← same]
        exact lookup_put_same _ row
      · obtain ⟨mine, found, owns⟩ := held.1.visible
        exact ⟨mine, (lookup_put_other _ same).trans found, owns⟩
  · have ended := kept dead
    obtain ⟨old, found, owns, -⟩ := dead
    have same : old.key = row.key := key_of_lookup found
    refine ⟨row, lookup_put_same _ row, ?_, ended⟩
    cases old <;> simp only [Row.owner, Option.isSome_some, Option.isSome_none, Bool.false_eq_true] at owns <;>
      cases row <;> simp_all [Row.key, Row.owner]

structure Mild (change : Row -> Row) : Prop where
  key : ∀ row, (change row).key = row.key
  owner : ∀ row, (change row).owner = row.owner
  live : ∀ row : Row, row.owner.isSome = true -> row.live = false -> (change row).live = false

def UpdateLocked (oath : Oath) (owned : List Key) (row : Row) : Assertion Key Row Label :=
  fun transaction chronicle => Faithful oath owned transaction chronicle ∧ transaction.Freezes row.key ∧
    (guard row.key = some row.key -> lookup (transaction.view chronicle) row.key = some row)

theorem updateLocked_stable (row : Row) : law.Stable (UpdateLocked oath owned row) := by
  rintro transaction seen next ⟨held, frozen, found⟩ drifts
  refine ⟨faithful_stable oath owned _ _ _ held drifts, frozen, fun guarded => ?_⟩
  have same : lookup next.rows row.key = lookup seen.rows row.key := drifts.lookup_eq guarded frozen
  exact (lookup_applyAll_congr same _).trans (found guarded)

theorem faithful_updates {wanted : Row -> Bool} {change : Row -> Row} (mild : Mild change)
    (granted : ∀ row, wanted row = true -> ∀ place, guard row.key = some place -> place ∈ owned ∨ place = row.key) :
    law.Updates (Faithful oath owned) (UpdateLocked oath owned) wanted change where
  stable := updateLocked_stable
  finds := by
    intro transaction next row lawful held found
    have noted := (faithful_neutral oath owned).notes transaction next [row] lawful held
      (by simpa using mem_of_lookup found)
    refine ⟨(faithful_neutral oath owned).locks _ _ _ _ noted, ?_, fun _ => found⟩
    exact ⟨.noKeyUpdate, mem_cons_self, rfl⟩
  skips := fun row transaction next held => held.1
  grants := by
    intro row transaction next selected held place guarded
    have same : (change row).key = row.key := mild.key row
    have guarded : guard row.key = some place := same ▸ guarded
    obtain member | self := granted row selected place guarded
    · exact .inl (held.1.2.owns place member)
    · exact .inr (self.trans same.symm)
  writes := by
    intro row transaction next lawful selected held
    refine held.1.put mem_cons_self rfl (fun dead => ?_) ?_
    · rw [mild.key row] at dead
      have found := held.2.2 dead.guarded
      obtain ⟨old, lookedUp, owns, ended⟩ := dead
      rw [found, Option.some.injEq] at lookedUp
      exact mild.live row (lookedUp ▸ owns) (lookedUp ▸ ended)
    · rintro authorization credential userId rfl same
      rw [mild.key row] at same
      have sworn : Sworn authorization credential userId transaction next := held.1.1
      have found := held.2.2 (by rw [same]; exact guard_of_owner (owner_isSome sworn.named))
      obtain ⟨mine, lookedUp, owns⟩ := sworn.visible
      rw [← same, found, Option.some.injEq] at lookedUp
      rw [mild.owner row]
      exact lookedUp ▸ owns

end

end Nexa.Api
