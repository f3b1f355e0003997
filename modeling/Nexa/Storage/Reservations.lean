import Nexa.Storage.Accounting

namespace Nexa.Storage

open Interaction Locking Nexa.Api List

def bookingOf (reservation : Reservation) : Booking where
  tenantId := reservation.tenantId
  uploadId := reservation.uploadId
  expectedSize := reservation.expectedSize
  idempotencyId := some reservation.recordId

abbrev Balanced (bookings : List Booking) (facts : List Row) : Assertion Key Row Label :=
  Draft bookings .idle (fun _ => 0) (fun _ => 0) facts

variable {transaction : StorageTransaction} {chronicle : StorageChronicle}

theorem balanced_unwritten {bookings : List Booking} (unwritten : transaction.written = [])
    (booked : Booked bookings chronicle) :
    Balanced bookings [] transaction chronicle := by
  have view : transaction.view chronicle = chronicle.rows := by simp [Transaction.view, unwritten]
  refine ⟨⟨?_, ?_, ?_, ?_, booked⟩, by simp [Facts], by simp [unwritten]⟩
  · rw [unwritten]
    exact .nil
  · simp [unwritten]
  · simp [view]
  · simp [view]

variable {session : UploadSession} {failure : ApplicationError}

section

variable {quota : Int} {bookings : List Booking} {phase : Phase} {reserve commit : TenantId -> Int}
  {facts : List Row} {transaction : StorageTransaction} {chronicle : StorageChronicle}

theorem Core.view_booked (core : Core bookings phase reserve commit transaction chronicle) {booking : Booking}
    (member : booking ∈ bookings) : booking.Holds (transaction.view chronicle) :=
  (core.booked booking member).steps core.steps

theorem Draft.covers (draft : Balanced bookings facts transaction chronicle)
    (lawful : (law quota).Lawful chronicle) {counter : StorageCounter}
    (counter_known : .counter counter ∈ facts) (session_known : .upload session ∈ facts)
    (tenant : counter.tenantId = session.tenantId) (active : session.state = .active) :
    session.expectedSizeBytes ≤ counter.reservedBytes := by
  have balanced : total (reserveWeight counter.tenantId) (transaction.view chronicle) = 0 := by
    rw [draft.core.reserved, (exact_of_lawful lawful).reserved, add_zero]
  exact le_reserved (draft.core.view_linked lawful) balanced (draft.found counter_known)
    (draft.found session_known) tenant.symm active

theorem Draft.recall (draft : Draft bookings phase reserve commit facts transaction chronicle) {row holder : Row}
    {place : Key} (found : lookup (transaction.view chronicle) row.key = some row)
    (guarded : guard row.key = some place) (member : holder ∈ facts) (guards : guard holder.key = some place) :
    Draft bookings phase reserve commit (row :: facts) transaction chronicle := by
  refine { draft with facts := fun other inside => ?_ }
  obtain rfl | before := mem_cons.1 inside
  · obtain ⟨-, region, region_guards, owns⟩ := draft.facts holder member
    obtain rfl : region = place := Option.some.inj (region_guards.symm.trans guards)
    exact ⟨found, region, guarded, owns⟩
  · exact draft.facts other before

@[simp]
theorem amountAt_zero (tenantId other : TenantId) : amountAt tenantId 0 other = 0 := by
  simp [amountAt]

@[simp]
theorem amountAt_cancel (tenantId : TenantId) (amount : Int) (other : TenantId) :
    amountAt tenantId (-amount) other + amountAt tenantId amount other = 0 := by
  unfold amountAt
  split_ifs <;> omega

structure Opened (reservation : Reservation) (record : IdempotencyRecord) (session : UploadSession) : Prop where
  recordId : record.idempotencyId = reservation.recordId
  pending : record.state = .pending
  tenantId : session.tenantId = reservation.tenantId
  uploadId : session.uploadId = reservation.uploadId
  size : session.expectedSizeBytes = reservation.expectedSize
  recorded : session.idempotencyId = some reservation.recordId
  active : session.state = .active

def known (session : UploadSession) (counter : StorageCounter) (record : IdempotencyRecord) : List Row :=
  [.upload session, .counter counter, .record record]

section

variable {reservation : Reservation} {record : IdempotencyRecord} {counter : StorageCounter}
  {session : UploadSession}

theorem triple_moveKnown (tenant : counter.tenantId = reservation.tenantId) (reserved committed : Int) :
    (law quota).Triple (Draft bookings phase reserve commit (known session counter record))
      (moveCounter reservation.tenantId reserved committed) fun _ =>
        Draft bookings phase (fun other => reserve other + amountAt reservation.tenantId reserved other)
          (fun other => commit other + amountAt reservation.tenantId committed other)
          (known session (moved counter reserved committed) record) := by
  have facts : replaced (known session counter record) (.counter (moved counter reserved committed)) =
      known session (moved counter reserved committed) record := by
    simp [replaced, known, Keyed.key, Row.key, moved]
  have member : .counter counter ∈ known session counter record := by simp [known]
  have moves : (law quota).Triple (Draft bookings phase reserve commit (known session counter record)) _ _ :=
    triple_moveCounter member reserved committed
  rw [facts, tenant] at moves
  exact moves

theorem Opened.close (opened : Opened reservation record session) {wanted : UploadSession -> Bool}
    {change : UploadSession -> UploadSession} (ends : EndsSession change) (selects : Selects wanted session) :
    (law quota).Triple (Draft bookings .idle reserve commit (known session counter record))
      (uploadSessions.update wanted change) fun _ =>
        Draft bookings (.closing record.idempotencyId)
          (fun other => reserve other + amountAt reservation.tenantId reservation.expectedSize other) commit
          (known (change session) counter record) := by
  have facts : replaced (known session counter record) (.upload (change session)) =
      known (change session) counter record := by
    simp [replaced, known, Keyed.key, Row.key, ends.tenant, ends.upload]
  have member : .upload session ∈ known session counter record := by simp [known]
  have closes : (law quota).Triple (Draft bookings .idle reserve commit (known session counter record)) _ _ :=
    triple_closeUpload ends selects member opened.active opened.recorded
  rw [facts, opened.tenantId, opened.size, ← opened.recordId] at closes
  exact closes

theorem Opened.complete (opened : Opened reservation record session) {ended : UploadSession}
    {response : StoredResponse} (regular : RegularResponse response) (resourceId : Option Nat) :
    (law quota).Triple (Draft bookings (.closing record.idempotencyId) reserve commit (known ended counter record))
      (completeIdempotency reservation.recordId response resourceId false) fun _ =>
        Draft bookings .idle reserve commit [] := by
  have member : .record record ∈ known ended counter record := by simp [known]
  have completes : (law quota).Triple
      (Draft bookings (.closing record.idempotencyId) reserve commit (known ended counter record)) _ _ :=
    triple_completeIdempotency member opened.pending regular resourceId false
  rw [opened.recordId] at completes ⊢
  exact triple_mono completes (fun _ _ _ held => held) fun _ _ _ _ held => held.mono (nil_subset _)

theorem regular_failureResponse (other : failure.message ≠ inconsistent.message) :
    RegularResponse (failureResponse failure) := by
  intro code message same
  cases same
  exact other

theorem regular_artifactResponse (artifact : Artifact) : RegularResponse (artifactResponse artifact) :=
  fun _ _ same => nomatch same

theorem triple_endSession (opened : Opened reservation record session)
    (tenant : counter.tenantId = reservation.tenantId) {state : UploadState} (ended : state ≠ .active)
    (bytesReceived : Nat) (other : failure.message ≠ inconsistent.message) :
    (law quota).Triple (Balanced bookings (known session counter record))
      (endSession reservation state bytesReceived failure) fun _ => Balanced bookings [] := by
  have ends : EndsSession fun row => { row with state, bytesReceived } :=
    { tenant := fun _ => rfl, upload := fun _ => rfl, sized := fun _ => rfl, recorded := fun _ => rfl
      ended := fun _ => ended }
  have selects : Selects (fun row => row.tenantId = reservation.tenantId ∧ row.uploadId = reservation.uploadId)
      session :=
    { selected := by simp [opened.tenantId, opened.uploadId]
      same := fun other chosen => by simpa [opened.tenantId, opened.uploadId] using chosen }
  refine triple_bind (triple_moveKnown tenant _ _) fun _ => triple_bind (opened.close ends selects) fun _ => ?_
  refine triple_mono (opened.complete (regular_failureResponse other) none) (fun _ _ _ held => held)
    fun _ transaction next _ held => ?_
  simp only [zero_add, amountAt_cancel, amountAt_zero, add_zero] at held
  exact held

end

theorem tolerates_noResultFound : (law quota).tolerates .noResultFound := trivial

theorem triple_one {α : Type} {holds : Option α -> Assertion Key Row Label} (found : Option α) :
    (law quota).Triple (holds found) (one found) fun value => holds (some value) := by
  cases found with
  | none => exact triple_raise tolerates_noResultFound
  | some value => exact triple_pure fun _ _ _ held => held

theorem triple_oneSome {α : Type} {before : Assertion Key Row Label} (value : α) :
    (law quota).Triple before (one (some value)) fun found transaction next =>
      found = value ∧ before transaction next :=
  triple_pure fun _ _ _ held => ⟨rfl, held⟩

theorem triple_withRecord {α : Type} {recordId : RecordId} {rest : IdempotencyRecord -> Operation α}
    {after : α -> Assertion Key Row Label}
    (later : ∀ record, record.idempotencyId = recordId ->
      (law quota).Triple (Draft bookings phase reserve commit (.record record :: facts)) (rest record) after) :
    (law quota).Triple (Draft bookings phase reserve commit facts)
      (do
        let found <- idempotencyRecords.fetch (.record recordId) .update
        let record <- one found
        rest record) after := by
  refine triple_bind (triple_fetch reads_records rfl (.inl ⟨rfl, .inr rfl⟩)) fun found => ?_
  refine triple_bind (triple_one found) fun record => triple_and fun key => later record ?_
  simpa [idempotencyRecords, Row.key] using key

theorem Draft.opened {reservation : Reservation} {record : IdempotencyRecord}
    (draft : Draft bookings phase reserve commit facts transaction chronicle)
    (booked : bookingOf reservation ∈ bookings)
    (found : lookup (transaction.view chronicle) (.upload reservation.tenantId reservation.uploadId) =
      some (.upload session))
    (recordId : record.idempotencyId = reservation.recordId) (pending : record.state = .pending)
    (active : session.state = .active) : Opened reservation record session := by
  obtain ⟨other, present, sized, recorded⟩ := draft.core.view_booked booked
  obtain rfl : other = session := by
    have same := present.symm.trans found
    simpa using same
  have key : Row.key (.upload other) = .upload reservation.tenantId reservation.uploadId := key_of_lookup found
  simp only [Row.key, Key.upload.injEq] at key
  exact ⟨recordId, pending, key.1, key.2, sized, recorded, active⟩

theorem triple_abortOperation (reservation : Reservation) (bytesReceived : Nat)
    (other : failure.message ≠ inconsistent.message) :
    (law quota).Triple (Balanced [bookingOf reservation] []) (abortOperation reservation bytesReceived failure)
      fun _ => Balanced [bookingOf reservation] [] := by
  refine triple_withRecord fun record recordId => ?_
  split_ifs with completed
  · exact triple_pure fun _ _ _ held => held.mono (nil_subset _)
  have pending : record.state = .pending := by
    cases state : record.state <;> simp_all
  refine triple_bind (triple_counterLock reservation.tenantId) fun counter => triple_and fun tenant => ?_
  have region : guard (Row.key (.counter counter)) = some (.counter reservation.tenantId) := by
    simp [Row.key, guard, tenant]
  refine triple_bind (triple_fetch reads_sessions rfl (.inr ⟨_, mem_cons_self, region⟩)) fun found => ?_
  cases found with
  | none => exact triple_pure fun _ _ _ held => held.2.mono (nil_subset _)
  | some session =>
    split_ifs with closed
    · exact triple_pure fun _ _ _ held => held.2.mono (nil_subset _)
    have active : session.state = .active := by simpa using closed
    refine triple_and fun key => triple_given (fun transaction next _ draft => ?_)
      fun opened : Opened reservation record session => ?_
    · refine draft.opened mem_cons_self ?_ recordId pending active
      rw [← key]
      exact draft.found mem_cons_self
    · refine triple_bind (triple_assured fun transaction next lawful draft => ?_) fun _ =>
        triple_endSession opened tenant (by decide) bytesReceived other
      rw [← opened.size]
      exact draft.covers lawful (mem_cons_of_mem _ mem_cons_self) mem_cons_self
        (tenant.trans opened.tenantId.symm) active

theorem triple_harmless {α : Type} {operation : Operation α} (harmless : Harmless operation) :
    (law quota).Triple (Draft bookings phase reserve commit facts) operation fun _ =>
      Draft bookings phase reserve commit facts :=
  triple_confined draft_tolerant harmless

theorem triple_add {α : Type} {table : Table α} {value : α} {after : Assertion Key Row Label}
    (grants : ∀ transaction next, Draft bookings phase reserve commit facts transaction next ->
      (law quota).Grants transaction (table.encode value).key)
    (inserted : ∀ transaction next, (law quota).Lawful next ->
      Draft bookings phase reserve commit facts transaction next ->
        (transaction.view next).any (clashes (table.encode value)) = false ->
          after ((transaction.writing (.put (table.encode value))).holding
            ((table.encode value).key :: (table.encode value).uniques) .update) next) :
    (law quota).Triple (Draft bookings phase reserve commit facts) (table.add value) fun _ => after := by
  have inserts : (law quota).Triple (Draft bookings phase reserve commit facts)
      (insert (table.encode value) : Operation Bool)
      fun done transaction next => done = true -> after transaction next :=
    triple_insert draft_stable grants (fun _ _ _ _ failed => nomatch failed)
      fun transaction next lawful draft clear _ => inserted transaction next lawful draft clear
  refine triple_bind inserts fun done => ?_
  have checked : (law quota).Triple (fun transaction next => done = true -> after transaction next)
      (.demand (done = true) .integrityError : Operation Unit)
      fun _ transaction next => done = true ∧ (done = true -> after transaction next) :=
    triple_demand trivial
  exact triple_mono checked (fun _ _ _ held => held) fun _ _ _ _ held => held.2 held.1

theorem lookup_of_clear {rows : List Row} {row : Row} (clear : rows.any (clashes row) = false) :
    lookup rows row.key = none := by
  refine lookup_eq_none.2 fun other member same => ?_
  have clash := any_eq_false.1 clear other member
  simp only [clashes, decide_eq_true_eq, not_or] at clash
  exact clash.1 same

theorem content_of_clear {rows : List Row} {artifact other : Artifact}
    (clear : rows.any (clashes (.artifact artifact)) = false) (member : .artifact other ∈ rows) :
    contentKey other ≠ contentKey artifact := by
  intro same
  have clash := any_eq_false.1 clear _ member
  simp only [clashes, decide_eq_true_eq, not_or] at clash
  exact clash.2 ⟨contentKey other, by simp [Keyed.uniques, Row.uniques, contentKey], by
    rw [same]
    simp [Keyed.uniques, Row.uniques, contentKey]⟩

section

variable {session : UploadSession} {counter : StorageCounter} {record : IdempotencyRecord} {artifact : Artifact}

theorem triple_publishArtifact (tenant : counter.tenantId = artifact.tenantId)
    (committed : artifact.state = .committed) :
    (law quota).Triple (Draft bookings phase reserve (fun _ => 0) (known session counter record))
      (publishArtifact artifact) fun _ =>
        Draft bookings phase reserve (amountAt artifact.tenantId (-artifact.sizeBytes))
          (known session counter record) := by
  have member : .counter counter ∈ known session counter record := by simp [known]
  have region : guard (Row.key (.counter counter)) = some (.counter artifact.tenantId) := by
    simp [Row.key, guard, tenant]
  have owns : ∀ transaction next,
      Draft bookings phase reserve (fun _ => 0) (known session counter record) transaction next ->
        transaction.Owns (.counter artifact.tenantId) := by
    intro transaction next draft
    obtain ⟨-, place, guarded, owned⟩ := draft.facts _ member
    obtain rfl : place = .counter artifact.tenantId := Option.some.inj (guarded.symm.trans region)
    exact owned
  refine triple_bind (neutral_lock draft_neutral) fun _ => ?_
  refine triple_bind (triple_harmless (confined_attempt (outward_harmless.hasBlob _))) fun found => ?_
  have regular : (law quota).tolerates (.blobMissing storageUnavailable) := by
    show storageUnavailable.message ≠ inconsistent.message
    decide
  refine triple_bind (triple_demand regular) fun _ => triple_and fun _ => ?_
  refine triple_add (fun transaction next draft place guarded => .inl ?_) ?_
  · obtain rfl : Key.counter artifact.tenantId = place := Option.some.inj guarded
    exact owns transaction next draft
  · intro transaction next lawful draft clear
    have absent : lookup (transaction.view next) (.artifact artifact.tenantId artifact.artifactId) = none :=
      lookup_of_clear clear
    have fresh : Step (transaction.view next) phase (.put (.artifact artifact)) phase :=
      .publish absent fun other inside _ => content_of_clear clear (mem_of_mem_filter inside)
    have written := draft.write lawful fresh rfl
      ((owns transaction next draft).mono (subset_holding (transaction.writing (.put (.artifact artifact)))
        (Row.key (.artifact artifact) :: Row.uniques (.artifact artifact)) .update)) (by simp)
    have kept : replaced (known session counter record) (.artifact artifact) = known session counter record := by
      simp [replaced, known, Keyed.key, Row.key]
    simp only [Row.key, absent, Option.elim_none, sub_zero, zero_add, reserveWeight, commitWeight, committed,
      and_true, add_zero, kept] at written
    exact written.mono (subset_cons_self _ _)

theorem triple_settleArtifact (tenant : counter.tenantId = artifact.tenantId)
    (committed : artifact.state = .committed) :
    (law quota).Triple (Draft bookings phase reserve (fun _ => 0) (known session counter record))
      (settleArtifact artifact) fun settled =>
        Draft bookings phase reserve
          (amountAt artifact.tenantId (if settled.2 then 0 else -artifact.sizeBytes))
          (known session counter record) := by
  have reads : (law quota).Triple (Draft bookings phase reserve (fun _ => 0) (known session counter record))
      (artifacts.queryLocked (fun row => row.tenantId = artifact.tenantId ∧ row.checksum = artifact.checksum ∧
        row.kind = artifact.kind ∧ row.mediaType = artifact.mediaType ∧ row.state = .committed) .update) fun _ =>
          Draft bookings phase reserve (fun _ => 0) (known session counter record) :=
    triple_bind (neutral_selectLocked draft_neutral) fun _ => triple_pure fun _ _ _ draft => draft
  refine triple_bind reads fun rows => triple_bind (triple_harmless (harmless_oneOrNone rows)) fun existing => ?_
  cases existing with
  | some row =>
    refine triple_pure fun transaction next _ draft => ?_
    have nothing : amountAt artifact.tenantId 0 = fun _ => 0 := funext (amountAt_zero artifact.tenantId)
    simpa only [if_true, nothing] using draft
  | none =>
    refine triple_bind (triple_publishArtifact tenant committed) fun _ => triple_pure fun _ _ _ draft => ?_
    simpa only [Bool.false_eq_true, if_false] using draft

variable {reservation : Reservation} {hooks : UploadHooks}

theorem triple_commitSession (harmless : HarmlessHooks hooks) (opened : Opened reservation record session)
    (tenant : counter.tenantId = reservation.tenantId) (settled : Artifact × Bool) :
    (law quota).Triple
      (Draft bookings .idle (fun _ => 0)
        (amountAt reservation.tenantId (if settled.2 then 0 else -reservation.expectedSize))
        (known session counter record))
      (commitSession hooks reservation settled) fun _ => Balanced bookings [] := by
  have ends : EndsSession fun row =>
      { row with state := .committed, bytesReceived := reservation.expectedSize } :=
    { tenant := fun _ => rfl, upload := fun _ => rfl, sized := fun _ => rfl, recorded := fun _ => rfl
      ended := fun _ => by simp }
  have selects : Selects (fun row => row.tenantId = reservation.tenantId ∧
      row.uploadId = reservation.uploadId ∧ row.state = .active) session :=
    { selected := by simp [opened.tenantId, opened.uploadId, opened.active]
      same := fun other chosen => by
        simp only [decide_eq_true_eq] at chosen
        exact ⟨chosen.1.trans opened.tenantId.symm, chosen.2.1.trans opened.uploadId.symm⟩ }
  refine triple_bind (triple_moveKnown tenant _ _) fun _ => triple_bind (opened.close ends selects) fun _ => ?_
  refine triple_bind (triple_harmless (harmless.commitReference _ _ _)) fun _ => ?_
  refine triple_bind (opened.complete (regular_artifactResponse _) _) fun _ =>
    triple_pure fun transaction next _ draft => ?_
  -- What was reserved is released, and what was published is committed, so both differences are gone.
  have balanced : ∀ other, amountAt reservation.tenantId (if settled.2 then 0 else -reservation.expectedSize) other +
      amountAt reservation.tenantId (if settled.2 then 0 else reservation.expectedSize) other = 0 := by
    intro other
    cases settled.2 <;> simp
  simp only [zero_add, amountAt_cancel, balanced] at draft
  exact draft

theorem Draft.opens {facts : List Row}
    (draft : Balanced [bookingOf reservation] (.counter counter :: .record record :: facts) transaction chronicle)
    (lawful : (law quota).Lawful chronicle) (recordId : record.idempotencyId = reservation.recordId)
    (pending : record.state = .pending) (tenant : counter.tenantId = reservation.tenantId) :
    ∃ session, Opened reservation record session ∧
      Balanced [bookingOf reservation] (known session counter record) transaction chronicle := by
  obtain ⟨session, found, sized, recorded⟩ := draft.core.view_booked mem_cons_self
  obtain ⟨other, present, fits⟩ := (draft.core.view_linked lawful).recorded session reservation.recordId
    (found_of_lookup found) recorded
  have mine : lookup (transaction.view chronicle) (Row.key (.record record)) = some (.record record) :=
    draft.found (by simp)
  obtain rfl : other = record := by
    simp only [Row.key, recordId] at mine
    simpa using present.symm.trans mine
  have active : session.state = .active := by simpa using fits.1 pending
  have opened := draft.opened mem_cons_self found recordId pending active
  refine ⟨session, opened, ?_⟩
  have recalled := draft.recall (found_of_lookup found)
    (by simp [Row.key, guard, opened.tenantId] :
      guard (Row.key (.upload session)) = some (.counter reservation.tenantId))
    mem_cons_self (by simp [Row.key, guard, tenant])
  exact recalled.mono (by simp [known])

theorem triple_completedResult (record : IdempotencyRecord) :
    (law quota).Triple (Draft bookings phase reserve commit facts) (completedResult record) fun _ =>
      Draft bookings phase reserve commit facts := by
  unfold completedResult
  cases record.response with
  | none => exact triple_raise trivial
  | some response => exact triple_pure fun _ _ _ draft => draft

theorem triple_commitOperation (harmless : HarmlessHooks hooks) (artifact : Artifact)
    (tenantId : artifact.tenantId = reservation.tenantId) (size : artifact.sizeBytes = reservation.expectedSize)
    (committed : artifact.state = .committed) :
    (law quota).Triple (Balanced [bookingOf reservation] []) (commitOperation hooks reservation artifact)
      fun _ => Balanced [bookingOf reservation] [] := by
  refine triple_bind (triple_harmless (harmless.authorize _)) fun _ => triple_withRecord fun record recordId => ?_
  split_ifs with completed
  · exact triple_mono (triple_completedResult record) (fun _ _ _ draft => draft.mono (nil_subset _))
      fun _ _ _ _ draft => draft
  have pending : record.state = .pending := by
    cases state : record.state <;> simp_all
  refine triple_bind (triple_counterLock reservation.tenantId) fun counter => triple_and fun tenant => ?_
  refine triple_mono (triple_exists fun session => triple_and fun opened => ?_)
    (fun _ _ lawful draft => draft.opens lawful recordId pending tenant) fun _ _ _ _ draft => draft
  refine triple_bind (triple_assured fun transaction next lawful draft => ?_) fun _ => ?_
  · rw [← opened.size]
    exact draft.covers lawful (by simp [known]) (by simp [known]) (tenant.trans opened.tenantId.symm) opened.active
  · refine triple_bind (triple_settleArtifact (tenant.trans tenantId.symm) committed) fun settled => ?_
    rw [tenantId, size]
    exact triple_commitSession harmless opened tenant settled

end

end

structure Reserves (quota : Int) (booking : Booking) (transaction : StorageTransaction)
    (chronicle : StorageChronicle) : Prop where
  settled : Settled quota [] transaction chronicle
  written : ∃ session, .put (.upload session) ∈ transaction.written ∧ session.tenantId = booking.tenantId
  holds : booking.Holds (transaction.view chronicle)

theorem reserves_stable {quota : Int} {booking : Booking} : (law quota).Stable (Reserves quota booking) := by
  intro transaction seen next reserves drifts
  induction drifts with
  | refl _ => exact reserves
  | @extend next entry drifts permitted spares ih =>
    have settled := settled_stable _ _ _ reserves.settled (drifts.extend permitted spares)
    refine ⟨settled, ih.written, ?_⟩
    obtain ⟨session, written, tenant⟩ := ih.written
    have owns := settled.core.owned _ written (.counter booking.tenantId) (by simp [Keyed.key, Row.key, guard, tenant])
    obtain ⟨made, found, fits⟩ := ih.holds
    exact ⟨made, (lookup_drift spares rfl owns).trans found, fits⟩

theorem Reserves.booked {quota : Int} {booking : Booking} (reserves : Reserves quota booking transaction chronicle) :
    Booked [booking] (chronicle.extend transaction.entry) := by
  intro other member
  obtain rfl := mem_singleton.1 member
  exact reserves.holds

section

variable {quota : Int} {bookings : List Booking} {phase : Phase} {facts : List Row}

def Claims (bookings : List Booking) (recordId : RecordId) : Assertion Key Row Label :=
  fun transaction next => ∃ record : IdempotencyRecord, record.idempotencyId = recordId ∧
    Draft bookings (.claimed recordId) (fun _ => 0) (fun _ => 0) [.record record] transaction next

def Claimed (bookings : List Booking) (outcome : IdempotencyOutcome) : Assertion Key Row Label :=
  match outcome.replay with
  | some _ => Balanced bookings []
  | none => Claims bookings outcome.recordId

theorem triple_replayOf (row : IdempotencyRecord) (requestHash : Nat) :
    (law quota).Triple (Balanced bookings []) (replayOf row requestHash) (Claimed bookings) := by
  refine triple_bind (triple_harmless (harmless_require (by decide))) fun _ => ?_
  refine triple_bind (triple_harmless (confined_demand (regular_of_message (by decide)))) fun _ => ?_
  refine triple_bind (triple_harmless (confined_demand (regular_of_message (by simp [inconsistent])))) fun _ => ?_
  cases row.response with
  | none => exact triple_raise trivial
  | some response => exact triple_pure fun _ _ _ draft => draft

theorem triple_claimRecord {record : IdempotencyRecord} (pending : record.state = .pending)
    (unanswered : record.response = none) (attempts : Nat) :
    (law quota).Triple (Balanced bookings []) (claimRecord record attempts) (Claimed bookings) := by
  induction attempts with
  | zero => exact triple_raise (regular_of_message (by decide))
  | succ attempts ih =>
    refine triple_bind (triple_outside draft_stable) fun timeout => ?_
    refine triple_bind (triple_harmless (confined_demand (regular_of_message (by decide)))) fun _ => ?_
    have inserts : (law quota).Triple (Balanced bookings []) (insert (.record record) : Operation Bool)
        fun inserted => if inserted then
          Draft bookings (.claimed record.idempotencyId) (fun _ => 0) (fun _ => 0) [.record record]
        else Balanced bookings [] := by
      refine triple_insert draft_stable (fun _ _ _ place guarded => .inr (Option.some.inj guarded).symm)
        (fun _ _ _ draft => draft) fun transaction next lawful draft clear => ?_
      have absent : lookup (transaction.view next) (.record record.idempotencyId) = none := lookup_of_clear clear
      have owns : ((transaction.writing (.put (.record record))).holding
          (Row.key (.record record) :: Row.uniques (.record record)) .update).Owns
            (.record record.idempotencyId) := ⟨.update, mem_cons_self, .inr rfl⟩
      have written := draft.write lawful (.claim absent pending unanswered) rfl owns (by simp)
      simp only [Row.key, absent, Option.elim_none, sub_zero, reserveWeight, commitWeight, add_zero] at written
      exact written.mono (by simp)
    refine triple_bind inserts fun inserted => ?_
    cases inserted with
    | true => exact triple_pure fun _ _ _ draft => ⟨record, rfl, draft⟩
    | false =>
      have reads : (law quota).Triple (Balanced bookings [])
          (idempotencyRecords.queryLocked (fun row => row.scope = record.scope) .update) fun _ =>
            Balanced bookings [] :=
        triple_bind (neutral_selectLocked draft_neutral) fun _ => triple_pure fun _ _ _ draft => draft
      refine triple_bind reads fun rows => ?_
      refine triple_bind (triple_harmless (harmless_oneOrNone rows)) fun found => ?_
      cases found with
      | none => exact ih
      | some row => exact triple_replayOf row record.requestHash

theorem triple_beginIdempotency (scope : RecordScope) (requestHash : Nat) :
    (law quota).Triple (Balanced bookings []) (beginIdempotency scope requestHash) (Claimed bookings) :=
  triple_bind (triple_harmless (harmless_require (by decide))) fun _ =>
    triple_bind (triple_outside draft_stable) fun _ => triple_claimRecord rfl rfl 3

theorem triple_noteReceipt (receipt : Option Nat) (recordId : RecordId) :
    (law quota).Triple (Claims bookings recordId) (noteReceipt receipt recordId) fun _ =>
      Claims bookings recordId := by
  cases receipt with
  | none => exact triple_pure fun _ _ _ held => held
  | some identity =>
    refine triple_exists fun record => triple_and fun same => ?_
    subst same
    have member : idempotencyRecords.encode record ∈ [Row.record record] := mem_cons_self
    have notes : (law quota).Triple
        (Draft bookings (.claimed record.idempotencyId) (fun _ => 0) (fun _ => 0) [.record record])
        (idempotencyRecords.update (fun row => row.idempotencyId = record.idempotencyId)
          fun row => { row with originalAuthority := some identity })
        fun count transaction next => count = 1 ∧
          Draft bookings (.claimed record.idempotencyId) (fun _ => 0) (fun _ => 0)
            (replaced [Row.record record] (.record { record with originalAuthority := some identity }))
            transaction next := by
      refine triple_update reads_records member rfl (by simp) ?_ rfl (by rintro session ⟨⟩) ?_ ?_ ?_
      · intro other chosen
        simpa [idempotencyRecords, Row.key] using chosen
      · intro transaction next _ draft
        have found : lookup (transaction.view next) (.record record.idempotencyId) = some (.record record) :=
          draft.found mem_cons_self
        have same : { record with originalAuthority := some identity }.state = record.state := rfl
        exact .note found same rfl
      · intro tenantId
        simp [idempotencyRecords, reserveWeight]
      · intro tenantId
        simp [idempotencyRecords, commitWeight]
    refine triple_bind notes fun count => triple_pure fun _ _ _ held => ?_
    refine ⟨{ record with originalAuthority := some identity }, rfl, held.2.mono ?_⟩
    simp [replaced, Keyed.key, Row.key]

theorem Draft.reserve {counter : StorageCounter} {recordId : RecordId} {keys : List Key} {strength : Strength}
    (draft : Draft [] (.claimed recordId) (amountAt session.tenantId session.expectedSizeBytes) (fun _ => 0) facts
      transaction chronicle)
    (lawful : (law quota).Lawful chronicle) (member : .counter counter ∈ facts)
    (tenant : counter.tenantId = session.tenantId)
    (within : counter.reservedBytes + counter.committedBytes ≤ quota)
    (absent : lookup (transaction.view chronicle) (.upload session.tenantId session.uploadId) = none)
    (active : session.state = .active) (recorded : session.idempotencyId = some recordId)
    (sized : 0 ≤ session.expectedSizeBytes) :
    Reserves quota ⟨session.tenantId, session.uploadId, session.expectedSizeBytes, some recordId⟩
      ((transaction.writing (.put (.upload session))).holding keys strength) chronicle := by
  have owns : OwnsGuard transaction (.put (.upload session)) keys strength := by
    intro place guarded
    obtain rfl : Key.counter session.tenantId = place := Option.some.inj guarded
    obtain ⟨-, region, guards, owned⟩ := draft.facts _ member
    obtain rfl : Key.counter counter.tenantId = region := Option.some.inj guards
    rw [← tenant]
    exact owned.mono (subset_holding _ keys strength)
  have core := draft.core.write lawful (.reserve absent active recorded sized) owns
  have written : .put (.upload session) ∈
      ((transaction.writing (.put (.upload session))).holding keys strength).written :=
    mem_append_right _ (mem_singleton.2 rfl)
  have here : lookup (transaction.view chronicle) (Change.put (Row.upload session)).key = none := absent
  simp only [here, Option.elim_none, sub_zero, Change.weight] at core
  refine ⟨⟨?_, ?_⟩, ⟨session, written, rfl⟩, ?_⟩
  · have even : ∀ tenantId, amountAt session.tenantId session.expectedSizeBytes tenantId +
        reserveWeight tenantId (.upload session) = 0 := by
      intro tenantId
      by_cases mine : session.tenantId = tenantId <;> simp [amountAt, reserveWeight, mine, active]
    simpa only [even, commitWeight, add_zero] using core
  · intro other inside running
    obtain before | last := mem_append.1 inside
    · exact absurd running (draft.unreserved other before)
    · obtain rfl : other = session := by simpa using last
      have kept : lookup (((transaction.writing (.put (.upload other))).holding keys strength).view chronicle)
          (.counter other.tenantId) = some (.counter counter) := by
        rw [view_write, lookup_apply_other (by simp [Keyed.key, Row.key]), ← tenant]
        exact draft.found member
      simpa [counterOf, kept, artifactStorageCounters] using within
  · refine ⟨session, ?_, rfl, recorded⟩
    rw [view_write]
    exact lookup_put_same _ _

theorem triple_reserveUpload {settings : StorageSettings} {hooks : UploadHooks} {request : UploadRequest}
    {reading : StorageReading} (read : RegularError reading)
    (sized : 0 ≤ request.expectedSize) (uploadId : UploadId) (now : Time) (recordId : RecordId) :
    (law settings.tenantArtifactQuotaBytes).Triple (Claims [] recordId)
      (reserveUpload settings hooks request reading uploadId now recordId) fun _ =>
        Reserves settings.tenantArtifactQuotaBytes
          (bookingOf ⟨uploadId, request.tenantId, request.expectedSize, recordId⟩) := by
  refine triple_exists fun record => triple_and fun _ => ?_
  refine triple_bind (triple_harmless (harmless_raiseError (read.enforceWatermark _ _ _))) fun _ => ?_
  refine triple_bind (triple_counterLock request.tenantId) fun counter => triple_and fun tenant => ?_
  refine triple_bind (triple_demand (regular_of_message (by decide))) fun _ => triple_and fun within => ?_
  have moves : (law settings.tenantArtifactQuotaBytes).Triple
      (Draft [] (.claimed recordId) (fun _ => 0) (fun _ => 0) [.counter counter, .record record])
      (moveCounter request.tenantId request.expectedSize 0) fun _ =>
        Draft [] (.claimed recordId) (amountAt request.tenantId request.expectedSize) (fun _ => 0)
          [.counter (moved counter request.expectedSize 0)] := by
    rw [← tenant]
    refine triple_mono (triple_moveCounter mem_cons_self request.expectedSize 0) (fun _ _ _ draft => draft)
      fun _ _ _ _ draft => ?_
    simp only [zero_add, amountAt_zero] at draft
    exact draft.mono (by simp [replaced, Keyed.key, Row.key, moved])
  refine triple_bind moves fun _ => triple_add (fun transaction next draft place guarded => .inl ?_)
    fun transaction next lawful draft clear => ?_
  · obtain rfl : Key.counter request.tenantId = place := Option.some.inj guarded
    obtain ⟨-, region, guards, owned⟩ := draft.facts _ mem_cons_self
    obtain rfl : Key.counter counter.tenantId = region := Option.some.inj guards
    rw [← tenant]
    exact owned
  · refine draft.reserve lawful mem_cons_self tenant ?_ (lookup_of_clear clear) rfl rfl sized
    simp only [moved]
    omega

theorem triple_beginOperation {settings : StorageSettings} {hooks : UploadHooks} {request : UploadRequest}
    {reading : StorageReading} (harmless : HarmlessHooks hooks) (read : RegularError reading)
    (sized : 0 ≤ request.expectedSize) (uploadId : UploadId) :
    (law settings.tenantArtifactQuotaBytes).Triple (Balanced [] [])
      (beginOperation settings hooks request reading uploadId) fun begun transaction next =>
        (begun.1 ≠ none ∧ Settled settings.tenantArtifactQuotaBytes [] transaction next) ∨
          (begun.1 = none ∧ Reserves settings.tenantArtifactQuotaBytes
            (bookingOf ⟨uploadId, request.tenantId, request.expectedSize, begun.2⟩) transaction next) := by
  refine triple_bind (triple_harmless (harmless.authorize _)) fun principalId => ?_
  refine triple_bind (triple_outside draft_stable) fun now => ?_
  refine triple_bind (triple_beginIdempotency _ _) fun outcome => ?_
  obtain ⟨recordId, replay⟩ := outcome
  cases replay with
  | some response =>
    refine triple_bind (triple_harmless (harmless.validateReplay _)) fun _ => ?_
    exact triple_pure fun _ _ _ draft => .inl ⟨by simp, draft.settled⟩
  | none =>
    refine triple_bind (triple_noteReceipt _ _) fun _ => ?_
    refine triple_bind (triple_reserveUpload read sized _ _ _) fun _ => ?_
    exact triple_pure fun _ _ _ reserves => .inr ⟨rfl, reserves⟩

end

end Nexa.Storage
