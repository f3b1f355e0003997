import Nexa.Storage.Confinement

namespace Nexa.Storage

open Interaction Locking Nexa.Api List

section

variable {quota : Int} {bookings : List Booking} {phase last : Phase} {reserve commit : TenantId -> Int}
  {facts : List Row}

theorem Draft.found {row : Row} {transaction : StorageTransaction} {chronicle : StorageChronicle}
    (draft : Draft bookings phase reserve commit facts transaction chronicle) (member : row ∈ facts) :
    lookup (transaction.view chronicle) row.key = some row :=
  (draft.facts row member).1

theorem triple_change {old new : Row} {wanted : Row -> Bool} {change : Row -> Row}
    {moreReserve moreCommit : TenantId -> Int} (member : old ∈ facts) (changed : change old = new)
    (selected : wanted old = true) (same : ∀ row, wanted row = true -> row.key = old.key)
    (kept : new.key = old.key) (unlike : ∀ session, new = .upload session -> session.state ≠ .active)
    (step : ∀ transaction next, (law quota).Lawful next ->
      Draft bookings phase reserve commit facts transaction next ->
        Step (transaction.view next) phase (.put new) last)
    (reserves : ∀ tenantId, reserve tenantId - reserveWeight tenantId old + reserveWeight tenantId new =
      moreReserve tenantId)
    (commits : ∀ tenantId, commit tenantId - commitWeight tenantId old + commitWeight tenantId new =
      moreCommit tenantId) :
    (law quota).Triple (Draft bookings phase reserve commit facts) (updateWhere wanted change : Operation Nat)
      fun count transaction next => count = 1 ∧
        Draft bookings last moreReserve moreCommit (replaced facts new) transaction next := by
  subst changed
  refine triple_updateOne draft_neutral (fun _ lawful => distinct_of_lawful lawful)
    (fun _ _ _ draft => draft.found member) selected same kept ?_ ?_
  · intro transaction next draft place guarded
    obtain ⟨-, other, guards, owns⟩ := draft.facts old member
    obtain rfl : other = place := Option.some.inj (guards.symm.trans guarded)
    exact .inl owns
  · intro transaction next lawful draft
    obtain ⟨-, place, guards, owns⟩ := draft.facts old member
    have written := draft.write lawful (step transaction next lawful draft) (kept ▸ guards)
      (owns.mono (subset_holding (transaction.writing (.put (change old))) [old.key] .noKeyUpdate)) unlike
    rw [kept, draft.found member] at written
    simp only [Option.elim_some, reserves, commits] at written
    exact written.mono (subset_cons_self _ _)

/-- There was none just now, or the row for good. -/
def Learned (bookings : List Booking) (phase : Phase) (reserve commit : TenantId -> Int) (facts : List Row)
    (key : Key) : Option Row -> Assertion Key Row Label
  | none => fun transaction next => lookup (transaction.view next) key = none ∧
      Draft bookings phase reserve commit facts transaction next
  | some row => fun transaction next =>
    row.key = key ∧ Draft bookings phase reserve commit (row :: facts) transaction next

theorem triple_learn {key place : Key} {strength : Strength} (guarded : guard key = some place)
    (owned : (place = key ∧ strength.Exclusive) ∨ ∃ holder ∈ facts, guard holder.key = some place) :
    (law quota).Triple (Draft bookings phase reserve commit facts) (acquire key strength : Operation _)
      (Learned bookings phase reserve commit facts key) := by
  refine triple_acquire draft_stable (fun _ _ _ draft absent => ⟨absent, draft⟩)
    fun transaction next row lawful draft found => ?_
  have same : row.key = key := key_of_lookup found
  have kept : Draft bookings phase reserve commit facts
      ((transaction.noting next [row]).holding [key] strength) next := draft.reads [row]
  refine ⟨same, { kept with facts := fun other inside => ?_ }⟩
  obtain rfl | before := mem_cons.1 inside
  · refine ⟨found_of_lookup found, place, same ▸ guarded, ?_⟩
    obtain ⟨rfl, exclusive⟩ | ⟨holder, member, guards⟩ := owned
    · exact ⟨strength, mem_cons_self, exclusive⟩
    · obtain ⟨-, region, region_guards, owns⟩ := kept.facts holder member
      obtain rfl : region = place := Option.some.inj (region_guards.symm.trans guards)
      exact owns
  · exact kept.facts other before

def Reads {α : Type} (table : Table α) : Prop :=
  ∀ row value, table.decode row = some value -> row = table.encode value

theorem reads_counters : Reads artifactStorageCounters := by
  rintro ⟨⟩ value found <;> simp_all [artifactStorageCounters]

theorem reads_sessions : Reads uploadSessions := by
  rintro ⟨⟩ value found <;> simp_all [uploadSessions]

theorem reads_records : Reads idempotencyRecords := by
  rintro ⟨⟩ value found <;> simp_all [idempotencyRecords]

theorem triple_update {α : Type} {table : Table α} {value : α} {wanted : α -> Bool} {change : α -> α}
    {moreReserve moreCommit : TenantId -> Int} (reads : Reads table) (member : table.encode value ∈ facts)
    (decoded : table.decode (table.encode value) = some value) (selected : wanted value = true)
    (same : ∀ other, wanted other = true -> (table.encode other).key = (table.encode value).key)
    (kept : (table.encode (change value)).key = (table.encode value).key)
    (unlike : ∀ session, table.encode (change value) = .upload session -> session.state ≠ .active)
    (step : ∀ transaction next, (law quota).Lawful next ->
      Draft bookings phase reserve commit facts transaction next ->
        Step (transaction.view next) phase (.put (table.encode (change value))) last)
    (reserves : ∀ tenantId, reserve tenantId - reserveWeight tenantId (table.encode value) +
      reserveWeight tenantId (table.encode (change value)) = moreReserve tenantId)
    (commits : ∀ tenantId, commit tenantId - commitWeight tenantId (table.encode value) +
      commitWeight tenantId (table.encode (change value)) = moreCommit tenantId) :
    (law quota).Triple (Draft bookings phase reserve commit facts) (table.update wanted change)
      fun count transaction next => count = 1 ∧
        Draft bookings last moreReserve moreCommit (replaced facts (table.encode (change value)))
          transaction next := by
  refine triple_change member (by simp [decoded]) ?_ ?_ kept unlike step reserves commits
  · simp [Table.selects, decoded, selected]
  · intro row chosen
    obtain ⟨other, found, wanted_other⟩ := (Option.any_eq_true _ _).1 chosen
    rw [reads row other found]
    exact same other wanted_other

def Fetched {α : Type} (table : Table α) (bookings : List Booking) (phase : Phase)
    (reserve commit : TenantId -> Int) (facts : List Row) (key : Key) : Option α -> Assertion Key Row Label
  | none => fun transaction next => (lookup (transaction.view next) key).bind table.decode = none ∧
      Draft bookings phase reserve commit facts transaction next
  | some value => fun transaction next => (table.encode value).key = key ∧
      Draft bookings phase reserve commit (table.encode value :: facts) transaction next

theorem triple_fetch {α : Type} {table : Table α} {key place : Key} {strength : Strength} (reads : Reads table)
    (guarded : guard key = some place)
    (owned : (place = key ∧ strength.Exclusive) ∨ ∃ holder ∈ facts, guard holder.key = some place) :
    (law quota).Triple (Draft bookings phase reserve commit facts) (table.fetch key strength)
      (Fetched table bookings phase reserve commit facts key) := by
  refine triple_bind (triple_learn guarded owned) fun row => triple_pure fun transaction next _ held => ?_
  cases row with
  | none => exact ⟨by rw [held.1, Option.bind_none], held.2⟩
  | some row =>
    cases decoded : table.decode row with
    | none =>
      simp only [Option.bind_some, decoded]
      refine ⟨?_, held.2.mono (subset_cons_self _ _)⟩
      rw [← held.1, held.2.found mem_cons_self, Option.bind_some, decoded]
    | some value =>
      obtain rfl := reads row value decoded
      simp only [Option.bind_some, decoded]
      exact held

theorem triple_counterLock (tenantId : TenantId) :
    (law quota).Triple (Draft bookings phase reserve commit facts) (counterLock tenantId)
      fun counter transaction next => counter.tenantId = tenantId ∧
        Draft bookings phase reserve commit (.counter counter :: facts) transaction next := by
  have opened : (law quota).Triple (Draft bookings phase reserve commit facts)
      (insert (.counter { tenantId, committedBytes := 0, reservedBytes := 0, version := 1 }) : Operation Bool)
      fun _ => Draft bookings phase reserve commit facts := by
    refine triple_insert draft_stable (fun _ _ _ place guarded => .inr ?_) (fun _ _ _ draft => draft) ?_
    · exact (Option.some.inj guarded).symm
    · intro transaction next lawful draft clear
      have absent : lookup (transaction.view next) (.counter tenantId) = none := by
        refine lookup_eq_none.2 fun row member same => ?_
        have clash := any_eq_false.1 clear row member
        simp only [clashes, decide_eq_true_eq, not_or] at clash
        exact clash.1 same
      have owns : ((transaction.writing (.put (.counter
          { tenantId, committedBytes := 0, reservedBytes := 0, version := 1 }))).holding
            [Key.counter tenantId] .update).Owns (.counter tenantId) := ⟨.update, mem_cons_self, .inr rfl⟩
      have written := draft.write lawful (.openCounter tenantId absent) rfl owns (by simp)
      simp only [Row.key, absent, Option.elim_none, sub_zero, reserveWeight, commitWeight, ite_self,
        add_zero] at written
      refine written.mono fun row member => mem_cons_of_mem _ ?_
      obtain ⟨found, -⟩ := draft.facts row member
      refine mem_map.2 ⟨row, member, if_neg fun same => ?_⟩
      have key : row.key = .counter tenantId := same
      rw [Found, key, absent] at found
      cases found
  refine triple_bind opened fun _ => ?_
  refine triple_bind (triple_fetch reads_counters rfl (.inl ⟨rfl, .inr rfl⟩)) fun found => ?_
  cases found with
  | none => exact triple_raise (regular_of_message (by decide))
  | some counter =>
    exact triple_pure fun _ _ _ held => ⟨by simpa [artifactStorageCounters, Row.key] using held.1, held.2⟩

def amountAt (tenantId : TenantId) (amount : Int) (other : TenantId) : Int := if tenantId = other then amount else 0

def moved (counter : StorageCounter) (reserved committed : Int) : StorageCounter :=
  { counter with
    reservedBytes := counter.reservedBytes + reserved
    committedBytes := counter.committedBytes + committed
    version := counter.version + 1 }

theorem triple_moveCounter {counter : StorageCounter} (member : .counter counter ∈ facts) (reserved committed : Int) :
    (law quota).Triple (Draft bookings phase reserve commit facts)
      (moveCounter counter.tenantId reserved committed) fun _ =>
        Draft bookings phase (fun other => reserve other + amountAt counter.tenantId reserved other)
          (fun other => commit other + amountAt counter.tenantId committed other)
          (replaced facts (.counter (moved counter reserved committed))) := by
  have updated : (law quota).Triple (Draft bookings phase reserve commit facts)
      (artifactStorageCounters.update (fun row => row.tenantId = counter.tenantId)
        fun row => moved row reserved committed)
      fun count transaction next => count = 1 ∧
        Draft bookings phase (fun other => reserve other + amountAt counter.tenantId reserved other)
          (fun other => commit other + amountAt counter.tenantId committed other)
          (replaced facts (.counter (moved counter reserved committed))) transaction next := by
    have known : artifactStorageCounters.encode counter ∈ facts := member
    refine triple_update reads_counters known rfl (by simp) ?_ rfl (by rintro session ⟨⟩) ?_ ?_ ?_
    · intro other chosen
      simpa [artifactStorageCounters, Row.key] using chosen
    · exact fun transaction next _ draft => .moveCounter (draft.found member)
    · intro other
      by_cases here : counter.tenantId = other <;>
        simp only [artifactStorageCounters, reserveWeight, moved, amountAt, here, if_true, if_false] <;> omega
    · intro other
      by_cases here : counter.tenantId = other <;>
        simp only [artifactStorageCounters, commitWeight, moved, amountAt, here, if_true, if_false] <;> omega
  exact triple_bind updated fun _ => triple_pure fun _ _ _ held => held.2

structure EndsSession (change : UploadSession -> UploadSession) : Prop where
  tenant : ∀ session, (change session).tenantId = session.tenantId
  upload : ∀ session, (change session).uploadId = session.uploadId
  sized : ∀ session, (change session).expectedSizeBytes = session.expectedSizeBytes
  recorded : ∀ session, (change session).idempotencyId = session.idempotencyId
  ended : ∀ session, (change session).state ≠ .active

theorem weight_ended {change : UploadSession -> UploadSession} (ends : EndsSession change)
    {session : UploadSession} (active : session.state = .active) (tenantId : TenantId) (amount : Int) :
    amount - reserveWeight tenantId (.upload session) + reserveWeight tenantId (.upload (change session)) =
      amount + amountAt session.tenantId session.expectedSizeBytes tenantId := by
  by_cases here : session.tenantId = tenantId <;>
    simp [reserveWeight, amountAt, active, ends.ended session, here]

section

variable {session : UploadSession} {change : UploadSession -> UploadSession} {wanted : UploadSession -> Bool}

structure Selects (wanted : UploadSession -> Bool) (session : UploadSession) : Prop where
  selected : wanted session = true
  same : ∀ other, wanted other = true -> other.tenantId = session.tenantId ∧ other.uploadId = session.uploadId

variable (ends : EndsSession change) (selects : Selects wanted session) (member : .upload session ∈ facts)
  (active : session.state = .active)

include ends member active

theorem Draft.endsUpload {transaction : StorageTransaction} {chronicle : StorageChronicle}
    (draft : Draft bookings phase reserve commit facts transaction chronicle) :
    Ends (transaction.view chronicle) (change session) session where
  found := by
    rw [ends.tenant, ends.upload]
    exact draft.found member
  active := active
  ended := ends.ended session
  sized := ends.sized session
  same := ends.recorded session

include selects

theorem triple_endUpload
    (step : ∀ transaction next, (law quota).Lawful next ->
      Draft bookings phase reserve commit facts transaction next ->
        Step (transaction.view next) phase (.put (.upload (change session))) last) :
    (law quota).Triple (Draft bookings phase reserve commit facts) (uploadSessions.update wanted change) fun _ =>
      Draft bookings last
        (fun other => reserve other + amountAt session.tenantId session.expectedSizeBytes other) commit
        (replaced facts (.upload (change session))) := by
  have known : uploadSessions.encode session ∈ facts := member
  have updated : (law quota).Triple (Draft bookings phase reserve commit facts)
      (uploadSessions.update wanted change)
      fun count transaction next => count = 1 ∧
        Draft bookings last
          (fun other => reserve other + amountAt session.tenantId session.expectedSizeBytes other) commit
          (replaced facts (.upload (change session))) transaction next := by
    refine triple_update reads_sessions known rfl selects.selected ?_ ?_ ?_ step ?_ ?_
    · intro other chosen
      obtain ⟨tenant, upload⟩ := selects.same other chosen
      simp [uploadSessions, Row.key, tenant, upload]
    · simp [uploadSessions, Row.key, ends.tenant, ends.upload]
    · rintro _ ⟨⟩
      exact ends.ended session
    · exact fun tenantId => weight_ended ends active tenantId (reserve tenantId)
    · intro tenantId
      simp [uploadSessions, commitWeight]
  exact triple_mono updated (fun _ _ _ held => held) fun _ _ _ _ held => held.2

theorem triple_closeUpload {recordId : RecordId} (recorded : session.idempotencyId = some recordId) :
    (law quota).Triple (Draft bookings .idle reserve commit facts) (uploadSessions.update wanted change) fun _ =>
      Draft bookings (.closing recordId)
        (fun other => reserve other + amountAt session.tenantId session.expectedSizeBytes other) commit
        (replaced facts (.upload (change session))) :=
  triple_endUpload ends selects member active fun _ _ _ draft => .close (draft.endsUpload ends member active) recorded

theorem triple_dropUpload (unrecorded : session.idempotencyId = none) :
    (law quota).Triple (Draft bookings phase reserve commit facts) (uploadSessions.update wanted change) fun _ =>
      Draft bookings phase
        (fun other => reserve other + amountAt session.tenantId session.expectedSizeBytes other) commit
        (replaced facts (.upload (change session))) :=
  triple_endUpload ends selects member active fun _ _ _ draft => .drop (draft.endsUpload ends member active) unrecorded

end

def completedRecord (record : IdempotencyRecord) (response : StoredResponse) (resourceId : Option Nat)
    (oneTimeSecret : Bool) : IdempotencyRecord :=
  { record with state := .completed, response := some response, resourceId, oneTimeSecret }

theorem triple_completeIdempotency {record : IdempotencyRecord} (member : .record record ∈ facts)
    (pending : record.state = .pending) {response : StoredResponse} (regular : RegularResponse response)
    (resourceId : Option Nat) (oneTimeSecret : Bool) :
    (law quota).Triple (Draft bookings (.closing record.idempotencyId) reserve commit facts)
      (completeIdempotency record.idempotencyId response resourceId oneTimeSecret) fun _ =>
        Draft bookings .idle reserve commit
          (replaced facts (.record (completedRecord record response resourceId oneTimeSecret))) := by
  have known : idempotencyRecords.encode record ∈ facts := member
  have updated : (law quota).Triple (Draft bookings (.closing record.idempotencyId) reserve commit facts)
      (idempotencyRecords.update (fun row => row.idempotencyId = record.idempotencyId ∧ row.state = .pending)
        fun row => completedRecord row response resourceId oneTimeSecret)
      fun count transaction next => count = 1 ∧
        Draft bookings .idle reserve commit
          (replaced facts (.record (completedRecord record response resourceId oneTimeSecret)))
          transaction next := by
    refine triple_update reads_records known rfl (by simp [pending]) ?_ rfl (by rintro session ⟨⟩) ?_ ?_ ?_
    · intro other chosen
      simp only [decide_eq_true_eq] at chosen
      simp [idempotencyRecords, Row.key, chosen.1]
    · intro transaction next _ draft
      have found : lookup (transaction.view next)
          (.record (completedRecord record response resourceId oneTimeSecret).idempotencyId) =
            some (.record record) := draft.found member
      refine .complete found rfl fun other given => ?_
      cases given
      exact regular
    · intro tenantId
      simp [idempotencyRecords, reserveWeight]
    · intro tenantId
      simp [idempotencyRecords, commitWeight]
  refine triple_bind updated fun count => triple_and fun one => ?_
  exact triple_assured fun _ _ _ _ => one

end

end Nexa.Storage
