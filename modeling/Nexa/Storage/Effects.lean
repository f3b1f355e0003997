import Nexa.Api.UploadServices
import Nexa.Shared.Procedures

/-! Sessions, artifacts and the counter of a tenant are written under the counter lock, a record under its own. -/

namespace Nexa.Storage

open Interaction Locking Nexa.Api

def guard : Key -> Option Key
  | .counter tenantId => some (.counter tenantId)
  | .upload tenantId _ => some (.counter tenantId)
  | .artifact tenantId _ => some (.counter tenantId)
  | .record recordId => some (.record recordId)
  | _ => none

/-- To the reserved bytes of a tenant: the counter for, the open sessions against. -/
def reserveWeight (tenantId : TenantId) : Row -> Int
  | .counter row => if row.tenantId = tenantId then row.reservedBytes else 0
  | .upload row => if row.tenantId = tenantId ∧ row.state = .active then -row.expectedSizeBytes else 0
  | _ => 0

def commitWeight (tenantId : TenantId) : Row -> Int
  | .counter row => if row.tenantId = tenantId then row.committedBytes else 0
  | .artifact row => if row.tenantId = tenantId ∧ row.state = .committed then -row.sizeBytes else 0
  | _ => 0

def contentKey (artifact : Artifact) : Key :=
  .artifactContent artifact.tenantId artifact.checksum artifact.kind artifact.mediaType

def RegularResponse (response : StoredResponse) : Prop :=
  ∀ code message, response.body = .failure code message -> message ≠ inconsistent.message

def RegularRecord (record : IdempotencyRecord) : Prop := ∀ response ∈ record.response, RegularResponse response

inductive Phase where
  | idle
  | claimed (recordId : RecordId)
  | closing (recordId : RecordId)
deriving DecidableEq

structure Ends (rows : List Row) (session old : UploadSession) : Prop where
  found : lookup rows (.upload session.tenantId session.uploadId) = some (.upload old)
  active : old.state = .active
  ended : session.state ≠ .active
  sized : session.expectedSizeBytes = old.expectedSizeBytes
  same : session.idempotencyId = old.idempotencyId

inductive Step (rows : List Row) : Phase -> Change Key Row -> Phase -> Prop where
  | other {phase : Phase} {change : Change Key Row} (unguarded : guard change.key = none) :
      Step rows phase change phase
  | openCounter {phase : Phase} (tenantId : TenantId) (absent : lookup rows (.counter tenantId) = none) :
      Step rows phase
        (.put (.counter { tenantId, committedBytes := 0, reservedBytes := 0, version := 1 })) phase
  | moveCounter {phase : Phase} {counter old : StorageCounter}
      (found : lookup rows (.counter counter.tenantId) = some (.counter old)) :
      Step rows phase (.put (.counter counter)) phase
  | claim {record : IdempotencyRecord} (absent : lookup rows (.record record.idempotencyId) = none)
      (pending : record.state = .pending) (unanswered : record.response = none) :
      Step rows .idle (.put (.record record)) (.claimed record.idempotencyId)
  | note {phase : Phase} {record old : IdempotencyRecord}
      (found : lookup rows (.record record.idempotencyId) = some (.record old))
      (same : record.state = old.state) (answer : record.response = old.response) :
      Step rows phase (.put (.record record)) phase
  | reserve {session : UploadSession} {recordId : RecordId}
      (absent : lookup rows (.upload session.tenantId session.uploadId) = none)
      (active : session.state = .active) (recorded : session.idempotencyId = some recordId)
      (sized : 0 ≤ session.expectedSizeBytes) : Step rows (.claimed recordId) (.put (.upload session)) .idle
  | close {session old : UploadSession} {recordId : RecordId} (ends : Ends rows session old)
      (recorded : old.idempotencyId = some recordId) :
      Step rows .idle (.put (.upload session)) (.closing recordId)
  | drop {phase : Phase} {session old : UploadSession} (ends : Ends rows session old)
      (unrecorded : old.idempotencyId = none) : Step rows phase (.put (.upload session)) phase
  | complete {record old : IdempotencyRecord}
      (found : lookup rows (.record record.idempotencyId) = some (.record old))
      (completed : record.state = .completed) (regular : RegularRecord record) :
      Step rows (.closing record.idempotencyId) (.put (.record record)) .idle
  | publish {phase : Phase} {artifact : Artifact}
      (absent : lookup rows (.artifact artifact.tenantId artifact.artifactId) = none)
      (fresh : ∀ other : Artifact, .artifact other ∈ under guard (.counter artifact.tenantId) rows ->
        other.state = .committed -> contentKey other ≠ contentKey artifact) :
      Step rows phase (.put (.artifact artifact)) phase

inductive Steps : List Row -> Phase -> List (Change Key Row) -> Phase -> Prop where
  | nil {rows : List Row} {phase : Phase} : Steps rows phase [] phase
  | cons {rows : List Row} {first middle last : Phase} {change : Change Key Row} {rest : List (Change Key Row)}
      (step : Step rows first change middle) (steps : Steps (change.apply rows) middle rest last) :
      Steps rows first (change :: rest) last

variable {rows : List Row} {first last : Phase} {change : Change Key Row} {changes : List (Change Key Row)}

theorem Steps.append {middle : Phase} (steps : Steps rows first changes middle)
    (step : Step (applyAll rows changes) middle change last) : Steps rows first (changes ++ [change]) last := by
  induction steps with
  | nil => exact .cons step .nil
  | cons earlier _ ih => exact .cons earlier (ih step)

def Agrees (rows others : List Row) (change : Change Key Row) : Prop :=
  ∀ place, guard change.key = some place -> under guard place rows = under guard place others

variable {others : List Row}

theorem Agrees.lookup (agrees : Agrees rows others change) {place : Key} (guarded : guard change.key = some place) :
    lookup rows change.key = lookup others change.key := by
  rw [← lookup_under guarded rows, agrees place guarded, lookup_under guarded others]

theorem Step.congr
    (agrees : Agrees rows others change) (step : Step rows first change last) : Step others first change last := by
  cases step with
  | other unguarded => exact .other unguarded
  | openCounter tenantId absent => exact .openCounter tenantId ((agrees.lookup rfl).symm.trans absent)
  | moveCounter found => exact .moveCounter ((agrees.lookup rfl).symm.trans found)
  | claim absent pending unanswered => exact .claim ((agrees.lookup rfl).symm.trans absent) pending unanswered
  | note found same answer => exact .note ((agrees.lookup rfl).symm.trans found) same answer
  | reserve absent active recorded sized =>
    exact .reserve ((agrees.lookup rfl).symm.trans absent) active recorded sized
  | close ends recorded => exact .close { ends with found := (agrees.lookup rfl).symm.trans ends.found } recorded
  | drop ends unrecorded => exact .drop { ends with found := (agrees.lookup rfl).symm.trans ends.found } unrecorded
  | complete found completed regular => exact .complete ((agrees.lookup rfl).symm.trans found) completed regular
  | publish absent fresh =>
    refine .publish ((agrees.lookup rfl).symm.trans absent) fun other member => ?_
    rw [← agrees _ rfl] at member
    exact fresh other member

theorem Steps.congr
    (agrees : ∀ change ∈ changes, Agrees rows others change) (steps : Steps rows first changes last) :
    Steps others first changes last := by
  induction steps generalizing others with
  | nil => exact .nil
  | @cons rows first middle last change rest step _ ih =>
    obtain ⟨here, later⟩ := List.forall_mem_cons.1 agrees
    refine .cons (step.congr here) (ih fun next member place guarded => ?_)
    exact under_applyAll_congr (later next member place guarded) [change]

def Found (rows : List Row) (row : Row) : Prop := lookup rows row.key = some row

theorem found_of_lookup {key : Key} {row : Row} (found : lookup rows key = some row) : Found rows row := by
  have same : row.key = key := key_of_lookup found
  unfold Found
  rw [same]
  exact found

theorem found_put {row other : Row} :
    Found ((Change.put row).apply rows) other <-> other = row ∨ (other.key ≠ row.key ∧ Found rows other) := by
  unfold Found
  rw [lookup_put]
  change (if row.key = other.key then some row else lookup rows other.key) = some other <-> _
  by_cases same : row.key = other.key
  · simp [same, eq_comm]
  · have different : other ≠ row := fun equal => same (equal ▸ rfl)
    simp [same, Ne.symm same, different]

theorem found_apply_other {row : Row} (other : change.key ≠ row.key) :
    Found (change.apply rows) row <-> Found rows row := by
  unfold Found
  rw [lookup_apply_other other]

structure Linked (phase : Phase) (rows : List Row) : Prop where
  distinct : Distinct rows
  recorded : ∀ session recordId, Found rows (.upload session) -> session.idempotencyId = some recordId ->
    ∃ record, lookup rows (.record recordId) = some (.record record) ∧
      (record.state = .pending <-> session.state = .active ∨ phase = .closing recordId)
  closing : ∀ session recordId, Found rows (.upload session) -> session.idempotencyId = some recordId ->
    phase = .closing recordId -> session.state ≠ .active
  claimed : ∀ recordId, phase = .claimed recordId ->
    ∃ record, lookup rows (.record recordId) = some (.record record) ∧ record.state = .pending
  unclaimed : ∀ session recordId, Found rows (.upload session) -> session.idempotencyId = some recordId ->
    phase ≠ .claimed recordId
  single : ∀ one other recordId, Found rows (.upload one) -> Found rows (.upload other) ->
    one.idempotencyId = some recordId -> other.idempotencyId = some recordId -> one = other
  sized : ∀ session, Found rows (.upload session) -> 0 ≤ session.expectedSizeBytes
  content : ∀ one other, Found rows (.artifact one) -> Found rows (.artifact other) ->
    one.state = .committed -> other.state = .committed -> contentKey one = contentKey other -> one = other

/-- What the sessions and the artifacts are held against stays where none of them is new. -/
theorem Linked.relink (linked : Linked first rows) (distinct : Distinct others)
    (sessions : ∀ session, Found others (.upload session) -> Found rows (.upload session))
    (artifacts : ∀ artifact, Found others (.artifact artifact) -> Found rows (.artifact artifact))
    (recorded : ∀ session recordId, Found rows (.upload session) -> session.idempotencyId = some recordId ->
      ∃ record, lookup others (.record recordId) = some (.record record) ∧
        (record.state = .pending <-> session.state = .active ∨ last = .closing recordId))
    (closing : ∀ session recordId, Found rows (.upload session) -> session.idempotencyId = some recordId ->
      last = .closing recordId -> session.state ≠ .active)
    (claimed : ∀ recordId, last = .claimed recordId ->
      ∃ record, lookup others (.record recordId) = some (.record record) ∧ record.state = .pending)
    (unclaimed : ∀ session recordId, Found rows (.upload session) -> session.idempotencyId = some recordId ->
      last ≠ .claimed recordId) : Linked last others where
  distinct := distinct
  recorded session recordId found := recorded session recordId (sessions session found)
  closing session recordId found := closing session recordId (sessions session found)
  claimed := claimed
  unclaimed session recordId found := unclaimed session recordId (sessions session found)
  single one other recordId found also := linked.single one other recordId (sessions one found) (sessions other also)
  sized session found := linked.sized session (sessions session found)
  content one other found also := linked.content one other (artifacts one found) (artifacts other also)

theorem Linked.apply_other {phase : Phase} (linked : Linked phase rows)
    (apart : (∀ tenantId uploadId, change.key ≠ .upload tenantId uploadId) ∧
      (∀ recordId, change.key ≠ .record recordId) ∧
      ∀ tenantId artifactId, change.key ≠ .artifact tenantId artifactId) :
    Linked phase (change.apply rows) := by
  have records (recordId : RecordId) : lookup (change.apply rows) (.record recordId) = lookup rows (.record recordId) :=
    lookup_apply_other (apart.2.1 recordId)
  refine linked.relink (linked.distinct.apply change) (fun session => (found_apply_other (apart.1 _ _)).1)
    (fun artifact => (found_apply_other (apart.2.2 _ _)).1) ?_ linked.closing ?_ linked.unclaimed
  · intro session recordId
    rw [records]
    exact linked.recorded session recordId
  · intro recordId
    rw [records]
    exact linked.claimed recordId

variable {session old : UploadSession} {record : IdempotencyRecord} {recordId : RecordId}

section

variable {phase : Phase} {rows : List Row}

theorem found_session_record (session : UploadSession) :
    Found ((Change.put (.record record)).apply rows) (.upload session) <-> Found rows (.upload session) :=
  found_apply_other (by simp [Keyed.key, Row.key])

theorem found_artifact_record (artifact : Artifact) :
    Found ((Change.put (.record record)).apply rows) (.artifact artifact) <-> Found rows (.artifact artifact) :=
  found_apply_other (by simp [Keyed.key, Row.key])

theorem lookup_record_put (record : IdempotencyRecord) (recordId : RecordId) :
    lookup ((Change.put (.record record)).apply rows) (.record recordId) =
      if record.idempotencyId = recordId then some (.record record) else lookup rows (.record recordId) := by
  rw [lookup_put]
  simp [Keyed.key, Row.key]

theorem Linked.claim (linked : Linked .idle rows)
    (absent : lookup rows (.record record.idempotencyId) = none) (pending : record.state = .pending) :
    Linked (.claimed record.idempotencyId) ((Change.put (.record record)).apply rows) := by
  -- A session has its record already, so none has the new one.
  have unused : ∀ session recordId, Found rows (.upload session) -> session.idempotencyId = some recordId ->
      record.idempotencyId ≠ recordId := by
    rintro session recordId found named rfl
    obtain ⟨other, present, -⟩ := linked.recorded session _ found named
    rw [absent] at present
    cases present
  refine linked.relink (linked.distinct.apply _) (fun _ => (found_session_record _).1)
    (fun _ => (found_artifact_record _).1) (fun session recordId found named => ?_) (by simp) ?_ ?_
  · rw [lookup_record_put, if_neg (unused session recordId found named)]
    obtain ⟨other, present, fits⟩ := linked.recorded session recordId found named
    exact ⟨other, present, by simpa using fits⟩
  · rintro recordId ⟨⟩
    exact ⟨record, by simp [lookup_record_put], pending⟩
  · rintro session recordId found named ⟨⟩
    exact unused session _ found named rfl

theorem Linked.note (linked : Linked phase rows) {old : IdempotencyRecord}
    (found : lookup rows (.record record.idempotencyId) = some (.record old)) (same : record.state = old.state) :
    Linked phase ((Change.put (.record record)).apply rows) := by
  -- The record has the state it had, which is all that its session is held against.
  have kept : ∀ recordId current, lookup rows (.record recordId) = some (.record current) ->
      ∃ later, lookup ((Change.put (.record record)).apply rows) (.record recordId) = some (.record later) ∧
        later.state = current.state := by
    intro recordId current present
    rw [lookup_record_put]
    split_ifs with here
    · subst here
      obtain rfl : old = current := by simpa [found] using present
      exact ⟨record, rfl, same⟩
    · exact ⟨current, present, rfl⟩
  refine linked.relink (linked.distinct.apply _) (fun _ => (found_session_record _).1)
    (fun _ => (found_artifact_record _).1) (fun session recordId present named => ?_) linked.closing ?_ linked.unclaimed
  · obtain ⟨current, there, fits⟩ := linked.recorded session recordId present named
    obtain ⟨later, now, equal⟩ := kept recordId current there
    exact ⟨later, now, equal ▸ fits⟩
  · intro recordId current
    obtain ⟨claimed, there, pending⟩ := linked.claimed recordId current
    obtain ⟨later, now, equal⟩ := kept recordId claimed there
    exact ⟨later, now, equal.trans pending⟩

theorem Linked.complete (linked : Linked (.closing record.idempotencyId) rows)
    (completed : record.state = .completed) : Linked .idle ((Change.put (.record record)).apply rows) := by
  refine linked.relink (linked.distinct.apply _) (fun _ => (found_session_record _).1)
    (fun _ => (found_artifact_record _).1) (fun session recordId found named => ?_) (by simp) (by simp) (by simp)
  obtain ⟨current, there, fits⟩ := linked.recorded session recordId found named
  rw [lookup_record_put]
  split_ifs with here
  · subst here
    have ended := linked.closing session _ found named rfl
    exact ⟨record, rfl, by simp [completed, ended]⟩
  · exact ⟨current, there, by simpa [here] using fits⟩

theorem lookup_record_upload (session : UploadSession) (recordId : RecordId) :
    lookup ((Change.put (.upload session)).apply rows) (.record recordId) = lookup rows (.record recordId) :=
  lookup_put_other _ (by simp [Keyed.key, Row.key])

theorem found_artifact_upload (artifact : Artifact) :
    Found ((Change.put (.upload session)).apply rows) (.artifact artifact) <-> Found rows (.artifact artifact) :=
  found_apply_other (by simp [Keyed.key, Row.key])

theorem found_upload_put (other : UploadSession) :
    Found ((Change.put (.upload session)).apply rows) (.upload other) <->
      other = session ∨
        ((other.tenantId, other.uploadId) ≠ (session.tenantId, session.uploadId) ∧ Found rows (.upload other)) := by
  rw [found_put]
  simp [Row.key]

theorem Linked.reserve (linked : Linked (.claimed recordId) rows)
    (active : session.state = .active) (recorded : session.idempotencyId = some recordId)
    (sized : 0 ≤ session.expectedSizeBytes) : Linked .idle ((Change.put (.upload session)).apply rows) := by
  have used : ∀ other, Found rows (.upload other) -> other.idempotencyId ≠ some recordId := by
    intro other found named
    exact linked.unclaimed other recordId found named rfl
  constructor
  case distinct => exact linked.distinct.apply _
  case recorded =>
    intro other otherId found named
    rw [lookup_record_upload]
    obtain rfl | ⟨-, before⟩ := (found_upload_put other).1 found
    · obtain rfl : recordId = otherId := Option.some.inj (recorded.symm.trans named)
      obtain ⟨record, there, pending⟩ := linked.claimed recordId rfl
      exact ⟨record, there, by simp [pending, active]⟩
    · obtain ⟨record, there, fits⟩ := linked.recorded other otherId before named
      exact ⟨record, there, by simpa using fits⟩
  case closing => simp
  case claimed => simp
  case unclaimed => simp
  case single =>
    intro one other otherId found also named known
    obtain rfl | ⟨-, before⟩ := (found_upload_put one).1 found
    · obtain rfl | ⟨-, earlier⟩ := (found_upload_put other).1 also
      · rfl
      · exact absurd (known.trans (named.symm.trans recorded)) (used other earlier)
    · obtain rfl | ⟨-, earlier⟩ := (found_upload_put other).1 also
      · exact absurd (named.trans (known.symm.trans recorded)) (used one before)
      · exact linked.single one other otherId before earlier named known
  case sized =>
    intro other found
    obtain rfl | ⟨-, before⟩ := (found_upload_put other).1 found
    · exact sized
    · exact linked.sized other before
  case content =>
    intro one other found also
    exact linked.content one other ((found_artifact_upload _).1 found) ((found_artifact_upload _).1 also)

theorem Ends.unique (ends : Ends rows session old) (linked : Linked phase rows)
    {other : UploadSession} (found : Found rows (.upload other))
    (apart : (other.tenantId, other.uploadId) ≠ (session.tenantId, session.uploadId))
    (named : other.idempotencyId = some recordId) : old.idempotencyId ≠ some recordId := by
  intro recorded
  obtain rfl := linked.single other old recordId found (found_of_lookup ends.found) named recorded
  have key : Row.key (.upload other) = .upload session.tenantId session.uploadId := key_of_lookup ends.found
  simp only [Row.key, Key.upload.injEq] at key
  exact apart (Prod.ext key.1 key.2)

theorem Ends.single (ends : Ends rows session old) (linked : Linked phase rows) {one other : UploadSession}
    (found : Found ((Change.put (.upload session)).apply rows) (.upload one))
    (also : Found ((Change.put (.upload session)).apply rows) (.upload other))
    (named : one.idempotencyId = some recordId) (known : other.idempotencyId = some recordId) : one = other := by
  obtain rfl | ⟨apart, before⟩ := (found_upload_put one).1 found
  · obtain rfl | ⟨apart, earlier⟩ := (found_upload_put other).1 also
    · rfl
    · exact absurd (ends.same.symm.trans named) (ends.unique linked earlier apart known)
  · obtain rfl | ⟨-, earlier⟩ := (found_upload_put other).1 also
    · exact absurd (ends.same.symm.trans known) (ends.unique linked before apart named)
    · exact linked.single one other recordId before earlier named known

theorem Ends.sizes (ends : Ends rows session old) (linked : Linked phase rows)
    {other : UploadSession} (found : Found ((Change.put (.upload session)).apply rows) (.upload other)) :
    0 ≤ other.expectedSizeBytes := by
  obtain rfl | ⟨-, before⟩ := (found_upload_put other).1 found
  · exact ends.sized ▸ linked.sized old (found_of_lookup ends.found)
  · exact linked.sized other before

theorem Linked.close (linked : Linked .idle rows)
    (ends : Ends rows session old) (recorded : old.idempotencyId = some recordId) :
    Linked (.closing recordId) ((Change.put (.upload session)).apply rows) := by
  constructor
  case distinct => exact linked.distinct.apply _
  case recorded =>
    intro other otherId found named
    rw [lookup_record_upload]
    obtain rfl | ⟨apart, before⟩ := (found_upload_put other).1 found
    · obtain rfl : recordId = otherId := Option.some.inj (recorded.symm.trans (ends.same.symm.trans named))
      obtain ⟨record, there, fits⟩ := linked.recorded old recordId (found_of_lookup ends.found) recorded
      exact ⟨record, there, by simp [fits, ends.active]⟩
    · obtain ⟨record, there, fits⟩ := linked.recorded other otherId before named
      have different : recordId ≠ otherId := by
        rintro rfl
        exact ends.unique linked before apart named recorded
      exact ⟨record, there, by simpa [different] using fits⟩
  case closing =>
    rintro other _ found named ⟨⟩
    obtain rfl | ⟨apart, before⟩ := (found_upload_put other).1 found
    · exact ends.ended
    · exact absurd recorded (ends.unique linked before apart named)
  case claimed => simp
  case unclaimed => simp
  case single => exact fun one other recordId => ends.single linked
  case sized => exact fun other => ends.sizes linked
  case content =>
    intro one other found also
    exact linked.content one other ((found_artifact_upload _).1 found) ((found_artifact_upload _).1 also)

theorem Linked.drop (linked : Linked phase rows) (ends : Ends rows session old)
    (unrecorded : old.idempotencyId = none) : Linked phase ((Change.put (.upload session)).apply rows) := by
  have other : ∀ {other : UploadSession} {recordId : RecordId},
      Found ((Change.put (.upload session)).apply rows) (.upload other) -> other.idempotencyId = some recordId ->
      Found rows (.upload other) := by
    intro other recordId found named
    obtain rfl | ⟨-, before⟩ := (found_upload_put other).1 found
    · rw [ends.same, unrecorded] at named
      cases named
    · exact before
  constructor
  case distinct => exact linked.distinct.apply _
  case recorded =>
    intro session recordId found named
    rw [lookup_record_upload]
    exact linked.recorded session recordId (other found named) named
  case closing =>
    intro session recordId found named
    exact linked.closing session recordId (other found named) named
  case claimed =>
    intro recordId current
    rw [lookup_record_upload]
    exact linked.claimed recordId current
  case unclaimed =>
    intro session recordId found named
    exact linked.unclaimed session recordId (other found named) named
  case single => exact fun one other recordId => ends.single linked
  case sized => exact fun other => ends.sizes linked
  case content =>
    intro one other found also
    exact linked.content one other ((found_artifact_upload _).1 found) ((found_artifact_upload _).1 also)

theorem Linked.publish {artifact : Artifact} (linked : Linked phase rows)
    (fresh : ∀ other : Artifact, .artifact other ∈ under guard (.counter artifact.tenantId) rows ->
      other.state = .committed -> contentKey other ≠ contentKey artifact) :
    Linked phase ((Change.put (.artifact artifact)).apply rows) := by
  have sessions : ∀ session, Found ((Change.put (.artifact artifact)).apply rows) (.upload session) <->
      Found rows (.upload session) :=
    fun session => found_apply_other (by simp [Keyed.key, Row.key])
  have records : ∀ recordId, lookup ((Change.put (.artifact artifact)).apply rows) (.record recordId) =
      lookup rows (.record recordId) :=
    fun recordId => lookup_put_other _ (by simp [Keyed.key, Row.key])
  -- An artifact with the content of the new one would be in its tenant.
  have unlike : ∀ other, Found rows (.artifact other) -> other.state = .committed ->
      contentKey other ≠ contentKey artifact := by
    intro other found committed same
    have tenant : other.tenantId = artifact.tenantId := by
      simp only [contentKey, Key.artifactContent.injEq] at same
      exact same.1
    refine fresh other (List.mem_filter.2 ⟨mem_of_lookup found, ?_⟩) committed same
    simp [Keyed.key, Row.key, guard, tenant]
  constructor
  case content =>
    intro one other found also committed settled same
    obtain here | ⟨-, before⟩ := found_put.1 found
    · obtain there | ⟨-, earlier⟩ := found_put.1 also
      · cases here
        cases there
        rfl
      · cases here
        exact absurd same.symm (unlike other earlier settled)
    · obtain there | ⟨-, earlier⟩ := found_put.1 also
      · cases there
        exact absurd same (unlike one before committed)
      · exact linked.content one other before earlier committed settled same
  case distinct => exact linked.distinct.apply _
  all_goals
    simp only [sessions, records]
  case recorded => exact linked.recorded
  case closing => exact linked.closing
  case claimed => exact linked.claimed
  case unclaimed => exact linked.unclaimed
  case single => exact linked.single
  case sized => exact linked.sized

end

theorem Linked.step (linked : Linked first rows)
    (step : Step rows first change last) : Linked last (change.apply rows) := by
  cases step with
  | other unguarded =>
    refine linked.apply_other ⟨fun _ _ same => ?_, fun _ same => ?_, fun _ _ same => ?_⟩ <;>
      simp [same, guard] at unguarded
  | openCounter tenantId absent => exact linked.apply_other (by simp [Keyed.key, Row.key])
  | moveCounter found => exact linked.apply_other (by simp [Keyed.key, Row.key])
  | claim absent pending _ => exact linked.claim absent pending
  | note found same _ => exact linked.note found same
  | reserve absent active recorded sized => exact linked.reserve active recorded sized
  | close ends recorded => exact linked.close ends recorded
  | drop ends unrecorded => exact linked.drop ends unrecorded
  | complete found completed _ => exact linked.complete completed
  | publish absent fresh => exact linked.publish fresh

theorem Linked.steps
    (linked : Linked first rows) (steps : Steps rows first changes last) : Linked last (applyAll rows changes) := by
  induction steps with
  | nil => exact linked
  | cons step _ ih => exact ih (linked.step step)

def Answered (rows : List Row) : Prop := ∀ record, Found rows (.record record) -> RegularRecord record

theorem Answered.put (answered : Answered rows)
    (regular : RegularRecord record) : Answered ((Change.put (.record record)).apply rows) := by
  intro other found
  obtain same | ⟨-, before⟩ := found_put.1 found
  · cases same
    exact regular
  · exact answered other before

theorem Answered.step (answered : Answered rows)
    (step : Step rows first change last) : Answered (change.apply rows) := by
  have other : (∀ recordId, change.key ≠ .record recordId) -> Answered (change.apply rows) :=
    fun apart record found => answered record ((found_apply_other (apart _)).1 found)
  cases step with
  | other unguarded =>
    refine other fun recordId same => ?_
    simp [same, guard] at unguarded
  | openCounter | moveCounter | reserve | close | drop | publish => exact other (by simp [Keyed.key, Row.key])
  | claim absent pending unanswered =>
    refine answered.put fun response given => ?_
    rw [unanswered] at given
    cases given
  | note found same answer =>
    refine answered.put fun response given => ?_
    exact answered _ (found_of_lookup found) response (answer ▸ given)
  | complete found completed regular => exact answered.put regular

theorem Answered.steps
    (answered : Answered rows) (steps : Steps rows first changes last) : Answered (applyAll rows changes) := by
  induction steps with
  | nil => exact answered
  | cons step _ ih => exact ih (answered.step step)

end Nexa.Storage
