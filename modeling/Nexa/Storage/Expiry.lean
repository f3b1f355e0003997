import Mathlib.Data.List.Dedup
import Nexa.Storage.Reservations

namespace Nexa.Storage

open Interaction Locking Nexa.Api List

def bookingFor (session : UploadSession) : Booking where
  tenantId := session.tenantId
  uploadId := session.uploadId
  expectedSize := session.expectedSizeBytes
  idempotencyId := session.idempotencyId

def sessionKey (session : UploadSession) : Key := .upload session.tenantId session.uploadId

/-- As far as it still holds when some of its sessions are released. -/
structure Batch (records : List IdempotencyRecord) (counters : List StorageCounter) (rows : List UploadSession)
    (facts : List Row) : Prop where
  covered : ∀ counter ∈ counters, ∃ current : StorageCounter, .counter current ∈ facts ∧
    current.tenantId = counter.tenantId ∧ current.reservedBytes ≤ counter.reservedBytes
  pending : ∀ record ∈ records, ∃ current : IdempotencyRecord, .record current ∈ facts ∧
    current.idempotencyId = record.idempotencyId ∧ (current.state = .pending -> record.state = .pending)
  locked : ∀ row ∈ rows, .upload row ∈ facts
  recorded : ∀ row ∈ rows, ∀ recordId, row.idempotencyId = some recordId ->
    ∃ record ∈ records, record.idempotencyId = recordId
  distinct : (rows.map sessionKey).Nodup

section

variable {records : List IdempotencyRecord} {counters : List StorageCounter} {rows rest : List UploadSession}
  {row : UploadSession} {facts : List Row}

theorem Batch.tail (batch : Batch records counters (row :: rest) facts) : Batch records counters rest facts where
  covered := batch.covered
  pending := batch.pending
  locked := fun other member => batch.locked other (mem_cons_of_mem row member)
  recorded := fun other member => batch.recorded other (mem_cons_of_mem row member)
  distinct := (nodup_cons.1 batch.distinct).2

theorem Batch.replace (batch : Batch records counters rows facts) {new : Row}
    (lower : ∀ old : StorageCounter, .counter old ∈ facts -> Row.key (.counter old) = new.key ->
      ∃ later : StorageCounter, new = .counter later ∧ later.reservedBytes ≤ old.reservedBytes)
    (completed : ∀ old : IdempotencyRecord, .record old ∈ facts -> Row.key (.record old) = new.key ->
      ∃ later : IdempotencyRecord, new = .record later ∧ later.state = .completed)
    (apart : ∀ other ∈ rows, sessionKey other ≠ new.key) : Batch records counters rows (replaced facts new) := by
  constructor
  case covered =>
    intro stale inside
    obtain ⟨current, known, tenant, covered⟩ := batch.covered stale inside
    by_cases here : Row.key (.counter current) = new.key
    · obtain ⟨later, rfl, less⟩ := lower current known here
      refine ⟨later, mem_replaced_same known here, ?_, by omega⟩
      simp only [Row.key, Key.counter.injEq] at here
      exact here.symm.trans tenant
    · exact ⟨current, mem_replaced_other known here, tenant, covered⟩
  case pending =>
    intro stale inside
    obtain ⟨current, known, same, pending⟩ := batch.pending stale inside
    by_cases here : Row.key (.record current) = new.key
    · obtain ⟨later, rfl, ended⟩ := completed current known here
      refine ⟨later, mem_replaced_same known here, ?_, by simp [ended]⟩
      simp only [Row.key, Key.record.injEq] at here
      exact here.symm.trans same
    · exact ⟨current, mem_replaced_other known here, same, pending⟩
  case locked => exact fun other inside => mem_replaced_other (batch.locked other inside) (apart other inside)
  case recorded => exact batch.recorded
  case distinct => exact batch.distinct

theorem Batch.moved (batch : Batch records counters rows facts) {counter : StorageCounter} {amount : Int}
    (less : amount ≤ 0) (single : ∀ other : StorageCounter, .counter other ∈ facts ->
      other.tenantId = counter.tenantId -> other = counter) :
    Batch records counters rows (replaced facts (.counter (moved counter amount 0))) := by
  refine batch.replace (fun old known same => ⟨_, rfl, ?_⟩) (fun old _ same => ?_) fun other _ => ?_
  · simp only [Row.key, Storage.moved, Key.counter.injEq] at same
    obtain rfl := single old known same
    simp only [Storage.moved]
    omega
  · simp [Row.key] at same
  · simp [sessionKey, Row.key]

theorem Batch.ended (batch : Batch records counters (row :: rest) facts) {ended : UploadSession}
    (same : sessionKey ended = sessionKey row) :
    Batch records counters rest (replaced facts (.upload ended)) := by
  refine batch.tail.replace (fun old _ clash => ?_) (fun old _ clash => ?_) fun other inside clash => ?_
  · simp [Row.key] at clash
  · simp [Row.key] at clash
  · have twice : sessionKey other = sessionKey row := Eq.trans clash same
    exact (nodup_cons.1 batch.distinct).1 (twice ▸ mem_map_of_mem inside)

theorem Batch.completed (batch : Batch records counters rows facts) {record : IdempotencyRecord}
    (completed : record.state = .completed) :
    Batch records counters rows (replaced facts (.record record)) := by
  refine batch.replace (fun old _ clash => ?_) (fun old _ _ => ⟨record, rfl, completed⟩) fun other _ => ?_
  · simp [Row.key] at clash
  · simp [sessionKey, Row.key]

structure Batch.Next (facts : List Row) (row : UploadSession) (counter : StorageCounter) : Prop where
  sized : 0 ≤ row.expectedSizeBytes
  covered : row.expectedSizeBytes ≤ counter.reservedBytes
  single : ∀ other : StorageCounter, .counter other ∈ facts -> other.tenantId = counter.tenantId -> other = counter
  pending : ∀ record : IdempotencyRecord, .record record ∈ facts ->
    row.idempotencyId = some record.idempotencyId -> record.state = .pending

variable {quota : Int} {bookings : List Booking}

theorem Draft.next {transaction : StorageTransaction} {chronicle : StorageChronicle}
    (draft : Balanced bookings facts transaction chronicle) (lawful : (law quota).Lawful chronicle)
    {counter : StorageCounter} (known : .counter counter ∈ facts) (locked : .upload row ∈ facts)
    (tenant : counter.tenantId = row.tenantId) (active : row.state = .active) : Batch.Next facts row counter := by
  have linked := draft.core.view_linked lawful
  have found : Found (transaction.view chronicle) (.upload row) := draft.found locked
  constructor
  case sized => exact linked.sized row found
  case covered => exact draft.covers lawful known locked tenant active
  case single =>
    intro other member same
    have first := draft.found member
    have second := draft.found known
    simp only [Row.key, same] at first second
    simpa using first.symm.trans second
  case pending =>
    intro record member recorded
    obtain ⟨current, present, fits⟩ := linked.recorded row record.idempotencyId found recorded
    have mine : lookup (transaction.view chronicle) (.record record.idempotencyId) = some (.record record) :=
      draft.found member
    obtain rfl : current = record := by simpa using present.symm.trans mine
    exact fits.2 (.inl active)

theorem expires : EndsSession fun session => { session with state := .expired } where
  tenant := fun _ => rfl
  upload := fun _ => rfl
  sized := fun _ => rfl
  recorded := fun _ => rfl
  ended := fun _ => by simp

theorem selects_expiring (active : row.state = .active) :
    Selects (fun other => other.tenantId = row.tenantId ∧ other.uploadId = row.uploadId ∧ other.state = .active)
      row where
  selected := by simp [active]
  same := fun other chosen => by
    simp only [decide_eq_true_eq] at chosen
    exact ⟨chosen.1, chosen.2.1⟩

theorem triple_expireSession (batch : Batch records counters (row :: rest) facts) (active : row.state = .active) :
    (law quota).Triple (Balanced bookings facts) (expireSession records counters row) fun _ transaction next =>
      ∃ facts, Batch records counters rest facts ∧ Balanced bookings facts transaction next := by
  have locked := batch.locked row mem_cons_self
  unfold expireSession
  cases chosen : counters.find? fun counter => counter.tenantId = row.tenantId with
  | none => exact triple_raise tolerates_noResultFound
  | some stale =>
    have tenant : stale.tenantId = row.tenantId := by simpa using find?_some chosen
    obtain ⟨counter, known, same, above⟩ := batch.covered stale (mem_of_find?_eq_some chosen)
    have owner : counter.tenantId = row.tenantId := same.trans tenant
    refine triple_given (fun _ _ lawful draft => draft.next lawful known locked owner active)
      fun next : Batch.Next facts row counter => ?_
    refine triple_bind (triple_oneSome stale) fun value => triple_and fun equal => ?_
    subst equal
    refine triple_bind (triple_assured fun _ _ _ _ => next.covered.trans above) fun _ => ?_
    rw [← owner]
    refine triple_bind (triple_moveCounter known _ 0) fun _ => ?_
    rw [owner]
    have later := batch.moved (neg_nonpos.2 next.sized) next.single
    have member := later.locked row mem_cons_self
    have ended : Batch records counters rest
        (replaced (replaced facts (.counter (moved counter (-row.expectedSizeBytes) 0)))
          (.upload { row with state := .expired })) := later.ended rfl
    cases recorded : row.idempotencyId with
    | none =>
      refine triple_bind (triple_dropUpload expires (selects_expiring active) member active recorded) fun _ => ?_
      refine triple_pure fun _ _ _ draft => ⟨_, ended, ?_⟩
      simp only [zero_add, amountAt_cancel, amountAt_zero] at draft
      exact draft
    | some recordId =>
      obtain ⟨record, inside, rfl⟩ := batch.recorded row mem_cons_self recordId recorded
      obtain ⟨current, current_known, current_same, still⟩ := batch.pending record inside
      have pending := next.pending current current_known (by rw [recorded, current_same])
      refine triple_bind (triple_closeUpload expires (selects_expiring active) member active recorded)
        fun _ => ?_
      have due : ∃ other ∈ records, other.idempotencyId = record.idempotencyId ∧ other.state = .pending :=
        ⟨record, inside, rfl, still pending⟩
      have done : (completedRecord current (failureResponse expired) none false).state = .completed := rfl
      simp only [completeExpired, only, if_pos due]
      rw [← current_same]
      refine triple_mono (triple_completeIdempotency (mem_replaced_other (mem_replaced_other current_known ?_) ?_)
        pending (regular_failureResponse (by decide)) none false) (fun _ _ _ draft => draft) fun _ _ _ _ draft =>
          ⟨_, ended.completed done, ?_⟩
      · simp [Keyed.key, Row.key]
      · simp [Keyed.key, Row.key]
      · simp only [zero_add, amountAt_cancel, amountAt_zero] at draft
        exact draft

theorem triple_expireSessions (now : Time) (rows : List UploadSession) :
    (law quota).Triple
      (fun transaction next => ∃ facts, Batch records counters rows facts ∧ Balanced bookings facts transaction next)
      (expireSessions records counters now rows) fun _ => Balanced bookings [] := by
  induction rows with
  | nil =>
    refine triple_exists fun facts => triple_and fun _ => ?_
    exact triple_pure fun _ _ _ draft => draft.mono (nil_subset _)
  | cons row rest ih =>
    refine triple_exists fun facts => triple_and fun batch => ?_
    unfold expireSessions
    split_ifs with skipped
    · exact triple_mono ih (fun _ _ _ draft => ⟨facts, batch.tail, draft⟩) fun _ _ _ _ draft => draft
    · have active : row.state = .active := by
        by_contra ended
        exact skipped (.inl ended)
      refine triple_bind (triple_expireSession batch active) fun _ => triple_bind ih fun _ => ?_
      exact triple_pure fun _ _ _ draft => draft

end

section

variable {quota : Int} {bookings : List Booking} {facts : List Row}

theorem triple_lockRecord {candidate : UploadSession} (booked : bookingFor candidate ∈ bookings) :
    (law quota).Triple (Balanced bookings facts) (lockRecords.lockRecord candidate.idempotencyId)
      fun found transaction next =>
        (∀ recordId, candidate.idempotencyId = some recordId ->
          ∃ record ∈ found, IdempotencyRecord.idempotencyId record = recordId) ∧
        Balanced bookings (found.toList.map Row.record ++ facts) transaction next := by
  cases recorded : candidate.idempotencyId with
  | none => exact triple_pure fun _ _ _ draft => ⟨nofun, draft⟩
  | some recordId =>
    refine triple_mono (triple_fetch reads_records rfl (.inl ⟨rfl, .inr rfl⟩)) (fun _ _ _ draft => draft)
      fun found transaction next lawful held => ?_
    cases found with
    | none =>
      obtain ⟨session, present, -, same⟩ := held.2.core.view_booked booked
      obtain ⟨record, there, -⟩ := (held.2.core.view_linked lawful).recorded session recordId
        (found_of_lookup present) (same.trans recorded)
      have absent := held.1
      rw [there] at absent
      cases absent
    | some record =>
      refine ⟨fun other same => ⟨record, rfl, ?_⟩, held.2⟩
      have key : record.idempotencyId = recordId := by simpa [idempotencyRecords, Row.key] using held.1
      exact key.trans (Option.some.inj same)

theorem triple_lockRecords {candidates : List UploadSession}
    (booked : ∀ candidate ∈ candidates, bookingFor candidate ∈ bookings) :
    (law quota).Triple (Balanced bookings facts) (lockRecords candidates) fun records transaction next =>
      ∃ later, (facts ⊆ later ∧ (∀ record ∈ records, .record record ∈ later) ∧
        ∀ candidate ∈ candidates, ∀ recordId, candidate.idempotencyId = some recordId ->
          ∃ record ∈ records, record.idempotencyId = recordId) ∧ Balanced bookings later transaction next := by
  induction candidates generalizing facts with
  | nil => exact triple_pure fun _ _ _ draft => ⟨facts, ⟨List.Subset.refl _, by simp, by simp⟩, draft⟩
  | cons candidate rest ih =>
    obtain ⟨first, others⟩ := forall_mem_cons.1 booked
    refine triple_bind (triple_lockRecord first) fun found => triple_and fun mine => ?_
    refine triple_bind (ih others) fun records => triple_exists fun later => triple_and fun locked => ?_
    obtain ⟨subset, known, recorded⟩ := locked
    obtain ⟨own, before⟩ := append_subset.1 subset
    refine triple_pure fun _ _ _ draft => ⟨later, ⟨before, fun record inside => ?_, ?_⟩, draft⟩
    · obtain here | there := mem_append.1 inside
      · exact own (mem_map_of_mem here)
      · exact known record there
    · refine forall_mem_cons.2 ⟨fun recordId same => ?_, fun other inside recordId same => ?_⟩
      · obtain ⟨record, present, equal⟩ := mine recordId same
        exact ⟨record, mem_append_left _ (Option.mem_toList.2 present), equal⟩
      · obtain ⟨record, present, equal⟩ := recorded other inside recordId same
        exact ⟨record, mem_append_right _ present, equal⟩

theorem triple_lockCounters {tenants : List TenantId} :
    (law quota).Triple (Balanced bookings facts) (lockCounters tenants) fun counters transaction next =>
      ∃ later, (facts ⊆ later ∧ (∀ counter ∈ counters, .counter counter ∈ later) ∧
        ∀ tenantId ∈ tenants, ∃ counter ∈ counters, StorageCounter.tenantId counter = tenantId) ∧
        Balanced bookings later transaction next := by
  induction tenants generalizing facts with
  | nil => exact triple_pure fun _ _ _ draft => ⟨facts, ⟨List.Subset.refl _, by simp, by simp⟩, draft⟩
  | cons tenantId rest ih =>
    refine triple_bind (triple_counterLock tenantId) fun counter => triple_and fun same => ?_
    refine triple_bind ih fun counters => triple_exists fun later => triple_and fun locked => ?_
    obtain ⟨subset, known, counted⟩ := locked
    obtain ⟨own, before⟩ := cons_subset.1 subset
    refine triple_pure fun _ _ _ draft => ⟨later, ⟨before, ?_, ?_⟩, draft⟩
    · exact forall_mem_cons.2 ⟨own, known⟩
    · refine forall_mem_cons.2 ⟨⟨counter, mem_cons_self, same⟩, fun other inside => ?_⟩
      obtain ⟨found, present, equal⟩ := counted other inside
      exact ⟨found, mem_cons_of_mem _ present, equal⟩

theorem triple_lockSessions {candidates : List UploadSession}
    (booked : ∀ candidate ∈ candidates, bookingFor candidate ∈ bookings)
    (counted : ∀ candidate ∈ candidates, ∃ counter : StorageCounter, .counter counter ∈ facts ∧
      counter.tenantId = candidate.tenantId) :
    (law quota).Triple (Balanced bookings facts) (lockSessions candidates) fun rows transaction next =>
      ∃ later, (facts ⊆ later ∧ (∀ row ∈ rows, .upload row ∈ later) ∧
        (∀ row ∈ rows, ∃ candidate ∈ candidates, UploadSession.idempotencyId row = candidate.idempotencyId) ∧
        (rows.map sessionKey).Sublist (candidates.map sessionKey)) ∧
        Balanced bookings later transaction next := by
  induction candidates generalizing facts with
  | nil =>
    refine triple_pure fun _ _ _ draft => ⟨facts, ⟨List.Subset.refl _, ?_, ?_, ?_⟩, draft⟩ <;> simp
  | cons candidate rest ih =>
    obtain ⟨first, others⟩ := forall_mem_cons.1 booked
    obtain ⟨⟨counter, held, same⟩, counts⟩ := forall_mem_cons.1 counted
    have region : guard (Row.key (.counter counter)) = some (.counter candidate.tenantId) := by
      simp [Row.key, guard, same]
    have reads : (law quota).Triple (Balanced bookings facts)
        (uploadSessions.fetch (.upload candidate.tenantId candidate.uploadId) .update)
        fun found transaction next =>
          (∀ row ∈ found, sessionKey row = sessionKey candidate ∧ row.idempotencyId = candidate.idempotencyId) ∧
          Balanced bookings (found.toList.map Row.upload ++ facts) transaction next := by
      refine triple_mono (triple_fetch reads_sessions rfl (.inr ⟨_, held, region⟩)) (fun _ _ _ draft => draft)
        fun found transaction next lawful known => ?_
      cases found with
      | none => exact ⟨by simp, known.2⟩
      | some row =>
        refine ⟨?_, known.2⟩
        rintro _ ⟨⟩
        obtain ⟨session, present, -, recorded⟩ := known.2.core.view_booked first
        have mine : lookup (transaction.view next) (sessionKey candidate) = some (.upload row) := by
          rw [sessionKey, ← known.1]
          exact known.2.found mem_cons_self
        obtain rfl : session = row := by simpa using present.symm.trans mine
        exact ⟨known.1, recorded⟩
    refine triple_bind reads fun found => triple_and fun mine => ?_
    have more : ∀ other ∈ rest, ∃ counter : StorageCounter,
        .counter counter ∈ found.toList.map Row.upload ++ facts ∧ counter.tenantId = other.tenantId := by
      intro other inside
      obtain ⟨counter, present, equal⟩ := counts other inside
      exact ⟨counter, mem_append_right _ present, equal⟩
    refine triple_bind (ih others more) fun rows => triple_exists fun later => triple_and fun locked => ?_
    obtain ⟨subset, known, recorded, sublist⟩ := locked
    obtain ⟨own, before⟩ := append_subset.1 subset
    refine triple_pure fun _ _ _ draft => ⟨later, ⟨before, fun row inside => ?_, fun row inside => ?_, ?_⟩, draft⟩
    · obtain here | there := mem_append.1 inside
      · exact own (mem_map_of_mem here)
      · exact known row there
    · obtain here | there := mem_append.1 inside
      · exact ⟨candidate, mem_cons_self, (mine row (Option.mem_toList.1 here)).2⟩
      · obtain ⟨other, present, equal⟩ := recorded row there
        exact ⟨other, mem_cons_of_mem _ present, equal⟩
    · cases found with
      | none => exact sublist.cons _
      | some row =>
        have key := (mine row rfl).1
        simp only [Option.toList_some, singleton_append, map_cons, key]
        exact sublist.cons_cons _

theorem sublist_sessionKeys (rows : List Row) :
    ((rows.filterMap uploadSessions.decode).map sessionKey).Sublist (rows.map Row.key) := by
  induction rows with
  | nil => simp
  | cons row rest ih =>
    cases row with
    | upload session => exact ih.cons_cons _
    | _ => exact ih.cons _

theorem opens_stable {label : Label} : (law quota).Stable (Opens label fun _ => True) :=
  fun _ _ _ held _ => ⟨held.1, trivial⟩

theorem triple_candidates {label : Label} (wanted : UploadSession -> Bool) :
    (law quota).Triple (Opens label fun _ => True) (uploadSessions.query wanted) fun found transaction next =>
      (found.map sessionKey).Nodup ∧ Balanced (found.map bookingFor) [] transaction next := by
  have reads : (law quota).Triple (Opens label fun _ => True)
      (select (uploadSessions.selects wanted) : Operation (List Row)) fun rows transaction next =>
        ((rows.filterMap uploadSessions.decode).map sessionKey).Nodup ∧
          Balanced ((rows.filterMap uploadSessions.decode).map bookingFor) [] transaction next := by
    refine triple_select opens_stable fun transaction next lawful held => ?_
    obtain ⟨rfl, -⟩ := held
    have distinct : Distinct next.rows := distinct_of_lawful lawful
    have unwritten : Transaction.view (.start label) next = next.rows := rfl
    rw [unwritten]
    refine ⟨((sublist_sessionKeys _).trans ?_).nodup distinct, ?_⟩
    · exact (filter_sublist).map _
    · refine balanced_unwritten rfl fun booking member => ?_
      obtain ⟨session, inside, rfl⟩ := mem_map.1 member
      obtain ⟨row, chosen, decoded⟩ := mem_filterMap.1 inside
      obtain rfl := reads_sessions row session decoded
      exact ⟨session, distinct.lookup (mem_of_mem_filter chosen), rfl, rfl⟩
  exact triple_bind reads fun rows => triple_pure fun _ _ _ held => held

theorem triple_expireOperation (label : Label) (limit : Nat) :
    (law quota).Triple (Opens label fun _ => True) (expireOperation limit) fun _ transaction next =>
      ∃ bookings, Balanced bookings [] transaction next := by
  refine triple_bind (triple_outside opens_stable) fun now => ?_
  refine triple_bind (triple_candidates _) fun found => triple_and fun nodup => ?_
  simp only
  generalize chosen : (found.mergeSort earlier).take limit = candidates
  have inside : ∀ candidate ∈ candidates, bookingFor candidate ∈ found.map bookingFor := by
    intro candidate member
    rw [← chosen] at member
    exact mem_map_of_mem (mem_mergeSort.1 (mem_of_mem_take member))
  have distinct : (candidates.map sessionKey).Nodup := by
    rw [← chosen, map_take]
    refine (take_sublist _ _).nodup ?_
    exact ((mergeSort_perm found earlier).map sessionKey).nodup_iff.2 nodup
  refine triple_bind (triple_lockRecords fun candidate member => inside candidate (mem_mergeSort.1 member))
    fun records => triple_exists fun first => triple_and fun recorded => ?_
  refine triple_bind triple_lockCounters fun counters => triple_exists fun second => triple_and fun counted => ?_
  obtain ⟨-, record_known, recorded⟩ := recorded
  obtain ⟨records_kept, counter_known, counted⟩ := counted
  have covered : ∀ candidate ∈ candidates.mergeSort fun one other => one.uploadId ≤ other.uploadId,
      ∃ counter : StorageCounter, .counter counter ∈ second ∧ counter.tenantId = candidate.tenantId := by
    intro candidate member
    obtain ⟨counter, present, same⟩ := counted candidate.tenantId (by
      rw [mem_mergeSort, mem_dedup]
      exact mem_map_of_mem (mem_mergeSort.1 member))
    exact ⟨counter, counter_known counter present, same⟩
  refine triple_bind (triple_lockSessions (fun candidate member => inside candidate (mem_mergeSort.1 member))
    covered) fun rows => triple_exists fun third => triple_and fun locked => ?_
  obtain ⟨kept, row_known, row_recorded, sublist⟩ := locked
  have batch : Batch records counters rows third := by
    constructor
    case covered => exact fun counter member => ⟨counter, kept (counter_known counter member), rfl, le_refl _⟩
    case pending => exact fun record member => ⟨record, kept (records_kept (record_known record member)), rfl, id⟩
    case locked => exact row_known
    case recorded =>
      intro row member recordId same
      obtain ⟨candidate, present, equal⟩ := row_recorded row member
      refine recorded candidate ?_ recordId (equal.symm.trans same)
      exact mem_mergeSort.2 (mem_mergeSort.1 present)
    case distinct =>
      refine sublist.nodup ?_
      exact ((mergeSort_perm candidates _).map sessionKey).nodup_iff.2 distinct
  exact triple_mono (triple_expireSessions now rows) (fun _ _ _ draft => ⟨third, batch, draft⟩)
    fun _ _ _ _ draft => ⟨_, draft⟩

end

end Nexa.Storage
