import Nexa.Storage.Expiry

namespace Nexa.Storage

open Interaction Locking Nexa.Api

section

variable {quota : Int} {α : Type} {label : Label} {operation : Operation α} {before : StorageChronicle -> Prop}
  {after : α -> StorageChronicle -> Prop} {ended : α -> Assertion Key Row Label}

theorem triple_retried (triple : (law quota).Triple (Opens label before) operation ended)
    (stable : ∀ value, (law quota).Stable (ended value)) :
    (law quota).Triple (Opens label before) (retried operation) ended := by
  refine triple_bind triple fun value => triple_bind (triple_outside (stable value)) fun conflict => ?_
  refine triple_bind (triple_demand trivial) fun _ => triple_pure fun _ _ _ held => ?_
  exact held.2

theorem runs_runTransaction (persistent : (law quota).Persistent before)
    (triple : (law quota).Triple (Opens label before) operation ended)
    (stable : ∀ value, (law quota).Stable (ended value))
    (permits : ∀ value transaction next, (law quota).Lawful next -> ended value transaction next ->
      (law quota).permits next transaction.entry ∧ after value (next.extend transaction.entry))
    (lasts : ∀ value, (law quota).Persistent (after value)) (weakens : ∀ value seen, after value seen -> before seen)
    (attempts : Nat) : (law quota).Runs before (runTransaction label operation attempts) after := by
  induction attempts with
  | zero => exact runs_raise trivial
  | succ attempts ih =>
    refine runs_handle ?_ fun failure regular => ?_
    · refine runs_bind (runs_transact persistent (triple_retried triple stable) stable permits)
        (fun value => ?_) weakens
      refine runs_then (runs_outside (lasts value)) fun lost => ?_
      refine runs_bind (runs_demand trivial) (fun _ => runs_pure fun _ held => held.2) fun _ _ held => held.2
    · cases failure with
      | conflict => exact ih
      | _ => exact runs_raise regular

end

section

variable {quota : Int} {bookings : List Booking} {α : Type} {label : Label}

abbrev KeepsBooked (quota : Int) (bookings : List Booking) (program : Operation α) : Prop :=
  (law quota).Runs (Booked bookings) program fun _ => Booked bookings

theorem Draft.commits {transaction : StorageTransaction} {chronicle : StorageChronicle}
    (draft : Balanced bookings [] transaction chronicle) (lawful : (law quota).Lawful chronicle) :
    (law quota).permits chronicle transaction.entry ∧ Booked bookings (chronicle.extend transaction.entry) := by
  have permitted : Permitted quota chronicle transaction.entry := draft.settled.permitted
  exact ⟨permitted, booked_persistent quota bookings chronicle _ lawful draft.core.booked permitted⟩

theorem keeps_runTransaction {operation : Operation α}
    (triple : (law quota).Triple (Balanced bookings []) operation fun _ => Balanced bookings []) (attempts : Nat) :
    KeepsBooked quota bookings (runTransaction label operation attempts) := by
  refine runs_runTransaction (booked_persistent quota bookings) (triple_mono triple ?_ fun _ _ _ _ held => held)
    (fun _ => draft_stable) (fun _ _ _ lawful draft => draft.commits lawful)
    (fun _ => booked_persistent quota bookings) (fun _ _ held => held) attempts
  rintro transaction seen - ⟨rfl, booked⟩
  exact balanced_unwritten rfl booked

theorem outward_outside : Outward Outside (law quota).tolerates where
  outer := fun _ => trivial
  artifact := fun _ other => other

theorem keeps_store {program : Operation α} (confined : program.Confined Outside (law quota).tolerates) :
    KeepsBooked quota bookings program :=
  runs_confined (booked_persistent quota bookings) confined

theorem keeps_ask (command : Outer) : KeepsBooked quota bookings (ask command) :=
  keeps_store (outward_outside.ask command)

theorem runs_attempt {operation : Operation α} (keeps : KeepsBooked quota bookings operation) :
    (law quota).Runs (Booked bookings) (attempt operation) fun result seen =>
      (∀ error, result = .error error -> error.message ≠ inconsistent.message) ∧ Booked bookings seen := by
  refine runs_handle (runs_then keeps fun value => runs_pure fun _ held => ⟨nofun, held⟩) fun failure regular => ?_
  cases failure with
  | artifact error =>
    refine runs_pure fun _ held => ⟨?_, held⟩
    rintro _ ⟨⟩
    exact regular
  | _ => exact runs_raise regular

theorem keeps_ensuring {operation : Operation α} {cleanup : Operation Unit}
    (keeps : KeepsBooked quota bookings operation) (cleans : KeepsBooked quota bookings cleanup) :
    KeepsBooked quota bookings (ensuring operation cleanup) := by
  refine runs_then (runs_handle keeps fun failure regular => ?_) fun value => ?_
  · exact runs_then cleans fun _ => runs_raise regular
  · exact runs_then cleans fun _ => runs_pure fun _ held => held

end

section

variable {settings : StorageSettings} {hooks : UploadHooks} {request : UploadRequest} {reservation : Reservation}
  {quota : Int} {bookings : List Booking}

def RegularReception : Reception -> Prop
  | .failed failure _ => failure.message ≠ inconsistent.message
  | _ => True

theorem runs_readStorage :
    (law quota).Runs (Booked bookings) readStorage fun reading seen => RegularError reading ∧ Booked bookings seen := by
  have regular : RegularError (.error unavailable : StorageReading) := by
    rintro _ ⟨⟩
    decide
  refine runs_then (keeps_ask _) fun capacity => ?_
  rcases capacity with _ | ⟨total, free⟩
  · exact runs_pure fun _ held => ⟨regular, held⟩
  · simp only
    split_ifs
    · exact runs_pure fun _ held => ⟨nofun, held⟩
    · exact runs_pure fun _ held => ⟨regular, held⟩

theorem runs_receive (operation : StorageOperation) (handle : StagingHandle) (last : StreamEnd)
    (chunks : List Bytes) (state : StagingState) (nextCheck : Nat) :
    (law quota).Runs (Booked bookings) (receive settings operation handle last chunks state nextCheck)
      fun reception seen => RegularReception reception ∧ Booked bookings seen := by
  induction chunks generalizing state nextCheck with
  | nil =>
    refine runs_pure fun _ held => ⟨?_, held⟩
    cases last with
    | finished | cancelled => trivial
    | interrupted => exact (by decide : interruptedStream.message ≠ inconsistent.message)
  | cons chunk rest ih =>
    refine runs_thenOf (runs_attempt (keeps_store (outward_outside.append settings handle state chunk)))
      fun appended regular => ?_
    cases appended with
    | error error => exact runs_pure fun _ held => ⟨regular_storeFailure (regular error rfl), held⟩
    | ok state =>
      simp only
      split_ifs
      · exact runs_pure fun _ held => ⟨regular_storeFailure (by decide), held⟩
      · exact ih _ _
      · refine runs_thenOf runs_readStorage fun reading read => ?_
        have kept := read.enforceWatermark settings operation (handle.expectedSize - state.receivedBytes)
        cases checked : enforceWatermark settings operation reading (handle.expectedSize - state.receivedBytes) with
        | error failure => exact runs_pure fun _ held => ⟨kept failure checked, held⟩
        | ok _ => exact ih _ _

theorem keeps_abortUpload (reservation : Reservation) (bytesReceived : Nat) {failure : ApplicationError}
    (other : failure.message ≠ inconsistent.message) :
    KeepsBooked quota [bookingOf reservation] (abortUpload reservation bytesReceived failure) :=
  keeps_runTransaction (triple_abortOperation reservation bytesReceived other) maxAttempts

theorem keeps_giveUp {α : Type} (handle : StagingHandle) (received : Nat) {failure : ApplicationError}
    (other : failure.message ≠ inconsistent.message) :
    KeepsBooked quota [bookingOf reservation] (giveUp reservation handle received failure : Operation α) :=
  runs_then (keeps_ensuring (keeps_abortUpload reservation received other)
    (keeps_store (outward_outside.abortStaging handle))) fun _ => runs_raise other

theorem keeps_giveUpCancelled {α : Type} (handle : StagingHandle) (received : Nat) :
    KeepsBooked quota [bookingOf reservation] (giveUpCancelled reservation handle received : Operation α) :=
  runs_then (runs_handle (keeps_abortUpload reservation received (by decide)) fun _ _ =>
      runs_pure fun _ held => held) fun _ =>
    runs_then (keeps_store (outward_outside.abortStaging handle)) fun _ => runs_raise trivial

theorem harmless_queryLocked {α : Type} (table : Table α) (wanted : α -> Bool) (strength : Strength) :
    Harmless (table.queryLocked wanted strength) := by
  have acquires : ∀ rows : List Row, Harmless (acquireAll strength rows) := by
    intro rows
    induction rows with
    | nil => exact confined_pure []
    | cons row rest ih =>
      exact confined_bind (confined_perform trivial) fun _ => confined_bind ih fun _ => confined_pure _
  refine confined_bind (confined_bind (confined_perform trivial) fun rows => ?_) fun _ => confined_pure _
  exact confined_bind (acquires rows) fun _ => confined_pure _

theorem harmless_reclaimable (row : Option Artifact) : Harmless (reclaimable row) := by
  cases row with
  | none => exact confined_pure ()
  | some row =>
    exact confined_bind (harmless_require (by decide)) fun _ =>
      confined_bind (harmless_query _ _) fun _ => harmless_require (by decide)

theorem keeps_discardOrphan (artifact : Artifact) : KeepsBooked quota bookings (discardOrphan settings artifact) := by
  refine runs_then (keeps_ask _) fun now => ?_
  refine runs_thenOf (runs_attempt (runs_then (runs_then ?_ fun _ => ?_) fun token => ?_)) fun _ _ =>
    runs_pure fun _ held => held
  · refine keeps_runTransaction (triple_harmless ?_) maxAttempts
    exact confined_bind (harmless_queryLocked _ _ _) fun rows =>
      confined_bind (harmless_oneOrNone rows) fun row => harmless_reclaimable row
  · exact keeps_store (outward_outside.issueStoreToken _ _ _ _ _)
  · exact keeps_store (outward_outside.deleteUnreferenced _ _ token)

theorem keeps_commitUpload (harmless : HarmlessHooks hooks) (tenant : request.tenantId = reservation.tenantId)
    (size : request.expectedSize = reservation.expectedSize) (blobKey : BlobKey) :
    KeepsBooked quota [bookingOf reservation] (commitUpload settings hooks request reservation blobKey) := by
  refine runs_then (keeps_ask _) fun artifactId => ?_
  refine runs_then (runs_handle (keeps_runTransaction ?_ maxAttempts) fun failure regular => ?_) fun result => ?_
  · exact triple_commitOperation harmless _ tenant size rfl
  · cases failure with
    | blobMissing failure => exact runs_then (keeps_abortUpload reservation _ regular) fun _ => runs_raise regular
    | _ => exact runs_raise regular
  · refine runs_then ?_ fun _ => runs_pure fun _ held => held
    unfold only
    split_ifs
    · exact keeps_discardOrphan _
    · exact runs_pure fun _ held => held

theorem keeps_storeUpload (harmless : HarmlessHooks hooks) (tenant : request.tenantId = reservation.tenantId)
    (size : request.expectedSize = reservation.expectedSize) (handle : StagingHandle) (state : StagingState) :
    KeepsBooked quota [bookingOf reservation] (storeUpload settings hooks request reservation handle state) := by
  unfold storeUpload
  split_ifs
  · exact keeps_giveUp handle _ (by decide)
  · refine runs_thenOf runs_readStorage fun reading read => ?_
    have kept := read.enforceWatermark settings hooks.storageOperation 0
    cases checked : enforceWatermark settings hooks.storageOperation reading 0 with
    | error failure => exact keeps_giveUp handle _ (kept failure checked)
    | ok _ =>
      refine runs_thenOf (runs_attempt (keeps_store (outward_outside.commitBlob _ _ _))) fun blob regular => ?_
      cases blob with
      | error error => exact keeps_giveUp handle _ (regular_storeFailure (regular error rfl))
      | ok blobKey => exact keeps_commitUpload harmless tenant size blobKey

theorem keeps_stageUpload (harmless : HarmlessHooks hooks) (tenant : request.tenantId = reservation.tenantId)
    (size : request.expectedSize = reservation.expectedSize) :
    KeepsBooked quota [bookingOf reservation] (stageUpload settings hooks request reservation) := by
  refine runs_thenOf (runs_attempt (keeps_store (outward_outside.beginStaging _ _ _ _ _))) fun staged regular => ?_
  cases staged with
  | error error =>
    have other := regular_storeFailure (regular error rfl)
    exact runs_then (keeps_abortUpload reservation 0 other) fun _ => runs_raise other
  | ok handle =>
    refine runs_thenOf (runs_receive _ _ _ _ _ _) fun reception regular => ?_
    cases reception with
    | failed failure received => exact keeps_giveUp handle _ regular
    | cancelled received => exact keeps_giveUpCancelled handle _
    | whole state => exact keeps_storeUpload harmless tenant size handle state

theorem triple_oneOrNone {α : Type} {before : Assertion Key Row Label} (rows : List α) :
    (law quota).Triple before (oneOrNone rows) fun found transaction next =>
      (∀ row ∈ found, row ∈ rows) ∧ before transaction next := by
  rcases rows with _ | ⟨row, _ | _⟩
  · exact triple_pure fun _ _ _ held => ⟨nofun, held⟩
  · exact triple_pure fun _ _ _ held => ⟨by simp, held⟩
  · exact triple_raise trivial

theorem triple_queryRecords (wanted : IdempotencyRecord -> Bool) :
    (law quota).Triple (Balanced bookings []) (idempotencyRecords.query wanted) fun rows transaction next =>
      (∀ row ∈ rows, RegularRecord row) ∧ Balanced bookings [] transaction next := by
  have reads : (law quota).Triple (Balanced bookings [])
      (select (idempotencyRecords.selects wanted) : Operation (List Row)) fun rows transaction next =>
        (∀ record, .record record ∈ rows -> RegularRecord record) ∧ Balanced bookings [] transaction next := by
    refine triple_select draft_stable fun transaction next lawful draft => ⟨fun record member => ?_, ?_⟩
    · have distinct : Distinct (transaction.view next) := (distinct_of_lawful lawful).applyAll _
      exact draft.core.view_answered lawful record (distinct.lookup (List.mem_of_mem_filter member))
    · exact draft_neutral.notes _ _ _ lawful draft fun _ member => List.mem_of_mem_filter member
  refine triple_bind reads fun rows => triple_and fun regular => triple_pure fun _ _ _ draft => ⟨?_, draft⟩
  intro record member
  obtain ⟨row, inside, decoded⟩ := List.mem_filterMap.1 member
  obtain rfl := reads_records row record decoded
  exact regular record inside

theorem keeps_replayUpload (recordId : RecordId) : KeepsBooked quota [] (replayUpload recordId) := by
  refine keeps_runTransaction ?_ maxAttempts
  refine triple_bind (triple_queryRecords _) fun rows => triple_and fun regular => ?_
  refine triple_bind (triple_oneOrNone rows) fun found => triple_and fun inside => ?_
  cases found with
  | none => exact triple_raise trivial
  | some record =>
    have answered := regular record (inside record rfl)
    refine triple_bind (triple_oneSome record) fun row => triple_and fun same => ?_
    subst same
    cases given : row.response with
    | none => exact triple_raise trivial
    | some response =>
      simp only [replayResult]
      split_ifs
      · exact triple_pure fun _ _ _ draft => draft
      · cases body : response.body with
        | failure code message => exact triple_raise (answered response given code message body)
        | _ => exact triple_raise trivial

theorem booked_nil (chronicle : StorageChronicle) : Booked [] chronicle := by
  simp [Booked]

theorem runs_validateUpload (settings : StorageSettings) (request : UploadRequest) :
    (law quota).Runs (Booked []) (validateUpload settings request) fun _ seen =>
      0 ≤ request.expectedSize ∧ Booked [] seen := by
  refine runs_bind (runs_demand (regular_of_message (by decide)))
    (fun _ => runs_confined (persistent_and (booked_persistent quota [])) ?_) fun _ seen _ => booked_nil seen
  have checks : ∀ {condition : Prop} [Decidable condition] {code : ErrorCode} {status : Nat} {message : String},
      message ≠ inconsistent.message ->
        (require condition code status message).Confined Outside (law quota).tolerates :=
    fun other => confined_demand other
  exact confined_bind (checks (by decide)) fun _ => confined_bind (checks (by decide)) fun _ => checks (by decide)

theorem runs_begin (harmless : HarmlessHooks hooks) {reading : StorageReading} (read : RegularError reading)
    (request : UploadRequest) (sized : 0 ≤ request.expectedSize) (uploadId : UploadId) :
    (law settings.tenantArtifactQuotaBytes).Runs (Booked [])
      (runTransaction hooks.label (beginOperation settings hooks request reading uploadId) maxAttempts)
      fun begun seen => begun.1 = none ->
        Booked [bookingOf ⟨uploadId, request.tenantId, request.expectedSize, begun.2⟩] seen := by
  refine runs_runTransaction (booked_persistent _ [])
    (triple_mono (triple_beginOperation harmless read sized uploadId) ?_ fun _ _ _ _ held => held)
    (fun begun => ?_) ?_ (fun begun => ?_) ?_ maxAttempts
  · rintro transaction seen - ⟨rfl, booked⟩
    exact balanced_unwritten rfl booked
  · intro transaction seen next held drifts
    obtain ⟨replayed, settled⟩ | ⟨fresh, reserves⟩ := held
    · exact .inl ⟨replayed, settled_stable _ _ _ settled drifts⟩
    · exact .inr ⟨fresh, reserves_stable _ _ _ reserves drifts⟩
  · intro begun transaction next lawful held
    obtain ⟨replayed, settled⟩ | ⟨fresh, reserves⟩ := held
    · exact ⟨settled.permitted, fun fresh => absurd fresh replayed⟩
    · exact ⟨reserves.settled.permitted, fun _ => reserves.booked⟩
  · intro chronicle entry lawful held permitted fresh
    exact booked_persistent _ _ chronicle entry lawful (held fresh) permitted
  · exact fun _ seen _ => booked_nil seen

theorem keeps_upload (harmless : HarmlessHooks hooks) (request : UploadRequest) :
    KeepsBooked settings.tenantArtifactQuotaBytes [] (upload settings hooks request) := by
  refine runs_thenOf (runs_validateUpload settings request) fun _ sized => ?_
  refine runs_then ?_ fun normalized => ?_
  · unfold metadataOf
    cases checked : hooks.metadata request.kind request.mediaType with
    | ok normalized => exact runs_pure fun _ held => held
    | error error => exact runs_raise (harmless.metadata _ _ error checked)
  refine runs_then (keeps_ask _) fun uploadId => runs_thenOf runs_readStorage fun reading read => ?_
  refine runs_bind (runs_begin harmless read { request with kind := normalized.1, mediaType := normalized.2 } sized
    uploadId) (fun begun => ?_) fun _ seen _ => booked_nil seen
  obtain ⟨replay, recordId⟩ := begun
  cases replay with
  | some response =>
    refine runs_mono (keeps_replayUpload recordId) (fun seen => ?_) fun _ _ held => held
    exact ⟨fun _ => booked_nil seen, fun _ => nofun⟩
  | none =>
    refine runs_mono (keeps_stageUpload harmless rfl rfl) (fun seen => ?_) fun _ seen _ => booked_nil seen
    exact ⟨fun held => held rfl, fun held _ => held⟩

theorem keeps_expireUploads (limit : Nat) : KeepsBooked quota [] (expireUploads limit) := by
  refine runs_then (runs_mono (runs_demand (regular_of_message (by decide))) (fun _ => Iff.rfl)
    fun _ seen held => held.2) fun _ => ?_
  refine runs_runTransaction (booked_persistent quota []) (triple_mono (triple_expireOperation none limit) ?_
    fun _ _ _ _ held => held) (fun _ => ?_) ?_ (fun _ => booked_persistent quota []) (fun _ _ held => held) maxAttempts
  · exact fun _ _ _ opens => ⟨opens.1, trivial⟩
  · rintro transaction seen next ⟨bookings, draft⟩ drifts
    exact ⟨bookings, draft_stable _ _ _ draft drifts⟩
  · rintro _ transaction next lawful ⟨bookings, draft⟩
    exact ⟨(draft.commits lawful).1, booked_nil _⟩

end

end Nexa.Storage
