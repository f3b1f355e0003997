import Nexa.Storage.Ledger

namespace Nexa.Storage

open Interaction Locking Nexa.Api List

structure Booking where
  tenantId : TenantId
  uploadId : UploadId
  expectedSize : Int
  idempotencyId : Option RecordId

def Booking.Holds (booking : Booking) (rows : List Row) : Prop :=
  ∃ session, lookup rows (.upload booking.tenantId booking.uploadId) = some (.upload session) ∧
    session.expectedSizeBytes = booking.expectedSize ∧ session.idempotencyId = booking.idempotencyId

variable {change : Change Key Row} {booking : Booking} {rows : List Row}

theorem Booking.Holds.apply_other
    (holds : booking.Holds rows) (other : change.key ≠ .upload booking.tenantId booking.uploadId) :
    booking.Holds (change.apply rows) := by
  obtain ⟨session, found, fits⟩ := holds
  exact ⟨session, (lookup_apply_other other).trans found, fits⟩

theorem Booking.Holds.ends {session old : UploadSession} (holds : booking.Holds rows) (ends : Ends rows session old) :
    booking.Holds ((Change.put (.upload session)).apply rows) := by
  by_cases here : Row.key (.upload session) = .upload booking.tenantId booking.uploadId
  · obtain ⟨current, found, sized, recorded⟩ := holds
    have same : lookup rows (Row.key (.upload session)) = some (.upload old) := ends.found
    rw [here, found] at same
    cases same
    refine ⟨session, ?_, ends.sized.trans sized, ends.same.trans recorded⟩
    rw [← here]
    exact lookup_put_same rows _
  · exact holds.apply_other here

theorem Booking.Holds.step {first last : Phase}
    (holds : booking.Holds rows) (step : Step rows first change last) : booking.Holds (change.apply rows) := by
  cases step with
  | other unguarded =>
    refine holds.apply_other fun same => ?_
    simp [same, guard] at unguarded
  | openCounter | moveCounter | claim | note | complete | publish =>
    exact holds.apply_other (by simp [Keyed.key, Row.key])
  | reserve absent active recorded sized =>
    refine holds.apply_other fun same => ?_
    obtain ⟨session, found, -⟩ := holds
    rw [← same] at found
    exact absurd (absent.symm.trans found) (by simp)
  | close ends _ => exact holds.ends ends
  | drop ends _ => exact holds.ends ends

theorem Booking.Holds.steps {first last : Phase}
    {changes : List (Change Key Row)} (holds : booking.Holds rows) (steps : Steps rows first changes last) :
    booking.Holds (applyAll rows changes) := by
  induction steps with
  | nil => exact holds
  | cons step _ ih => exact ih (holds.step step)

def Booked (bookings : List Booking) (chronicle : StorageChronicle) : Prop :=
  ∀ booking ∈ bookings, booking.Holds chronicle.rows

theorem booked_persistent (quota : Int) (bookings : List Booking) : (law quota).Persistent (Booked bookings) :=
  fun _ _ _ booked permitted booking member => (booked booking member).steps permitted.steps

/-- The steps, and what they add to the difference between the counters and what they count. -/
structure Core (bookings : List Booking) (phase : Phase) (reserve commit : TenantId -> Int)
    (transaction : StorageTransaction) (chronicle : StorageChronicle) : Prop where
  steps : Steps chronicle.rows .idle transaction.written phase
  owned : ∀ change ∈ transaction.written, ∀ place, guard change.key = some place -> transaction.Owns place
  reserved : ∀ tenantId, total (reserveWeight tenantId) (transaction.view chronicle) =
    total (reserveWeight tenantId) chronicle.rows + reserve tenantId
  committed : ∀ tenantId, total (commitWeight tenantId) (transaction.view chronicle) =
    total (commitWeight tenantId) chronicle.rows + commit tenantId
  booked : Booked bookings chronicle

def Facts (facts : List Row) (transaction : StorageTransaction) (chronicle : StorageChronicle) : Prop :=
  ∀ row ∈ facts, Found (transaction.view chronicle) row ∧ ∃ place, guard row.key = some place ∧ transaction.Owns place

structure Draft (bookings : List Booking) (phase : Phase) (reserve commit : TenantId -> Int) (facts : List Row)
    (transaction : StorageTransaction) (chronicle : StorageChronicle) : Prop where
  core : Core bookings phase reserve commit transaction chronicle
  facts : Facts facts transaction chronicle
  unreserved : ∀ session, .put (.upload session) ∈ transaction.written -> session.state ≠ .active

structure Settled (quota : Int) (bookings : List Booking) (transaction : StorageTransaction)
    (chronicle : StorageChronicle) : Prop where
  core : Core bookings .idle (fun _ => 0) (fun _ => 0) transaction chronicle
  admitted : ∀ session, .put (.upload session) ∈ transaction.written -> session.state = .active ->
    (counterOf (transaction.view chronicle) session.tenantId).reservedBytes +
      (counterOf (transaction.view chronicle) session.tenantId).committedBytes ≤ quota

theorem Settled.permitted {quota : Int} {bookings : List Booking} {transaction : StorageTransaction}
    {chronicle : StorageChronicle} (settled : Settled quota bookings transaction chronicle) :
    Permitted quota chronicle transaction.entry where
  steps := settled.core.steps
  reserved := fun tenantId => (settled.core.reserved tenantId).trans (add_zero _)
  committed := fun tenantId => (settled.core.committed tenantId).trans (add_zero _)
  admitted := settled.admitted

theorem Draft.settled {quota : Int} {bookings : List Booking} {facts : List Row} {transaction : StorageTransaction}
    {chronicle : StorageChronicle}
    (draft : Draft bookings .idle (fun _ => 0) (fun _ => 0) facts transaction chronicle) :
    Settled quota bookings transaction chronicle where
  core := draft.core
  admitted := fun session written active => absurd active (draft.unreserved session written)

theorem reserveWeight_unguarded {row : Row} (unguarded : guard row.key = none) (tenantId : TenantId) :
    reserveWeight tenantId row = 0 := by
  cases row <;> first | rfl | simp [Row.key, guard] at unguarded

theorem commitWeight_unguarded {row : Row} (unguarded : guard row.key = none) (tenantId : TenantId) :
    commitWeight tenantId row = 0 := by
  cases row <;> first | rfl | simp [Row.key, guard] at unguarded

section

variable {quota : Int} {bookings : List Booking} {phase : Phase} {reserve commit : TenantId -> Int}
  {facts : List Row} {transaction : StorageTransaction} {chronicle : StorageChronicle} {entry : StorageEntry}

section

variable (core : Core bookings phase reserve commit transaction chronicle)

include core

theorem Core.agrees
    (spares : (law quota).Spares transaction.Freezes entry)
    (written : change ∈ transaction.written) :
    Agrees chronicle.rows (applyAll chronicle.rows entry.written) change := by
  intro place guarded
  exact (Law.Spares.under_eq spares (core.owned change written place guarded).freezes _).symm

theorem Core.weights
    (spares : (law quota).Spares transaction.Freezes entry) (distinct : Distinct chronicle.rows)
    {weight : Row -> Int} (weightless : ∀ row : Row, guard row.key = none -> weight row = 0) :
    total weight (transaction.view (chronicle.extend entry)) - total weight (chronicle.extend entry).rows =
      total weight (transaction.view chronicle) - total weight chronicle.rows := by
  refine total_applyAll_congr weight (distinct.applyAll _) distinct fun change written => ?_
  cases guarded : guard change.key with
  | some place => exact .inl ((core.agrees spares written).lookup guarded).symm
  | none =>
    refine .inr fun row same => weightless row ?_
    have own : row.key = change.key := same
    rw [own, guarded]

theorem Core.drift
    (lawful : (law quota).Lawful chronicle) (permitted : Permitted quota chronicle entry)
    (spares : (law quota).Spares transaction.Freezes entry) :
    Core bookings phase reserve commit transaction (chronicle.extend entry) := by
  have distinct := distinct_of_lawful lawful
  constructor
  case steps => exact core.steps.congr fun change written => core.agrees spares written
  case owned => exact core.owned
  case reserved =>
    intro tenantId
    have same := core.weights spares distinct fun row unguarded => reserveWeight_unguarded unguarded tenantId
    have before := core.reserved tenantId
    omega
  case committed =>
    intro tenantId
    have same := core.weights spares distinct fun row unguarded => commitWeight_unguarded unguarded tenantId
    have before := core.committed tenantId
    omega
  case booked => exact booked_persistent quota bookings chronicle entry lawful core.booked permitted

end

theorem lookup_drift (spares : (law quota).Spares transaction.Freezes entry) {key place : Key}
    (guarded : guard key = some place) (owns : transaction.Owns place) :
    lookup (transaction.view (chronicle.extend entry)) key = lookup (transaction.view chronicle) key :=
  lookup_applyAll_congr (Law.Spares.lookup_eq spares guarded owns.freezes chronicle.rows) _

theorem Facts.drift (held : Facts facts transaction chronicle)
    (spares : (law quota).Spares transaction.Freezes entry) :
    Facts facts transaction (chronicle.extend entry) := by
  intro row member
  obtain ⟨found, place, guarded, owns⟩ := held row member
  exact ⟨(lookup_drift spares guarded owns).trans found, place, guarded, owns⟩

theorem draft_stable : (law quota).Stable (Draft bookings phase reserve commit facts) :=
  stable_of_step fun _ _ _ lawful draft permitted spares =>
    ⟨draft.core.drift lawful permitted spares, draft.facts.drift spares, draft.unreserved⟩

theorem settled_stable : (law quota).Stable (Settled quota bookings) := by
  refine stable_of_step fun transaction chronicle entry lawful settled permitted spares => ?_
  refine ⟨settled.core.drift lawful permitted spares, fun session written active => ?_⟩
  have owns := settled.core.owned _ written (.counter session.tenantId) rfl
  have same : lookup (transaction.view (chronicle.extend entry)) (.counter session.tenantId) = _ :=
    lookup_drift spares rfl owns
  unfold counterOf
  rw [same]
  exact settled.admitted session written active

end

section

variable {quota : Int} {bookings : List Booking} {phase last : Phase} {reserve commit : TenantId -> Int}
  {facts : List Row} {transaction : StorageTransaction} {chronicle : StorageChronicle}
  {keys : List Key} {strength : Strength}

theorem subset_holding (transaction : StorageTransaction) (keys : List Key) (strength : Strength) :
    transaction.held ⊆ (transaction.holding keys strength).held :=
  subset_append_right _ _

theorem Core.locks (core : Core bookings phase reserve commit transaction chronicle) :
    Core bookings phase reserve commit (transaction.holding keys strength) chronicle :=
  { core with
    owned := fun change written place guarded =>
      (core.owned change written place guarded).mono (subset_holding transaction keys strength) }

theorem Facts.locks (held : Facts facts transaction chronicle) :
    Facts facts (transaction.holding keys strength) chronicle := by
  intro row member
  obtain ⟨found, place, guarded, owns⟩ := held row member
  exact ⟨found, place, guarded, owns.mono (subset_holding transaction keys strength)⟩

theorem Facts.mono {fewer : List Row} (held : Facts facts transaction chronicle) (subset : fewer ⊆ facts) :
    Facts fewer transaction chronicle :=
  fun row member => held row (subset member)

theorem Draft.mono {fewer : List Row} (draft : Draft bookings phase reserve commit facts transaction chronicle)
    (subset : fewer ⊆ facts) : Draft bookings phase reserve commit fewer transaction chronicle :=
  { draft with facts := draft.facts.mono subset }

theorem Draft.reads (draft : Draft bookings phase reserve commit facts transaction chronicle) (rows : List Row) :
    Draft bookings phase reserve commit facts ((transaction.noting chronicle rows).holding keys strength)
      chronicle :=
  ⟨Core.locks { draft.core with owned := draft.core.owned }, Facts.locks draft.facts, draft.unreserved⟩

theorem draft_neutral : (law quota).Neutral (Draft bookings phase reserve commit facts) where
  stable := draft_stable
  notes := fun _ _ _ _ draft _ =>
    ⟨{ draft.core with owned := draft.core.owned }, draft.facts, draft.unreserved⟩
  locks := fun _ _ _ _ draft => ⟨draft.core.locks, draft.facts.locks, draft.unreserved⟩

theorem view_write (transaction : StorageTransaction) (change : Change Key Row) (keys : List Key)
    (strength : Strength) (chronicle : StorageChronicle) :
    ((transaction.writing change).holding keys strength).view chronicle =
      change.apply (transaction.view chronicle) := by
  simp [Transaction.view, Transaction.writing, Transaction.holding, applyAll_append]

theorem Core.view_linked (core : Core bookings phase reserve commit transaction chronicle)
    (lawful : (law quota).Lawful chronicle) : Linked phase (transaction.view chronicle) :=
  (exact_of_lawful lawful).linked.steps core.steps

theorem Core.view_answered (core : Core bookings phase reserve commit transaction chronicle)
    (lawful : (law quota).Lawful chronicle) : Answered (transaction.view chronicle) :=
  (exact_of_lawful lawful).answered.steps core.steps

def OwnsGuard (transaction : StorageTransaction) (change : Change Key Row) (keys : List Key)
    (strength : Strength) : Prop :=
  ∀ place, guard change.key = some place -> ((transaction.writing change).holding keys strength).Owns place

theorem Core.write (core : Core bookings phase reserve commit transaction chronicle)
    (lawful : (law quota).Lawful chronicle) (step : Step (transaction.view chronicle) phase change last)
    (owns : OwnsGuard transaction change keys strength) :
    Core bookings last
      (fun tenantId => reserve tenantId -
        (lookup (transaction.view chronicle) change.key).elim 0 (reserveWeight tenantId) +
          change.weight (reserveWeight tenantId))
      (fun tenantId => commit tenantId -
        (lookup (transaction.view chronicle) change.key).elim 0 (commitWeight tenantId) +
          change.weight (commitWeight tenantId))
      ((transaction.writing change).holding keys strength) chronicle := by
  have distinct : Distinct (transaction.view chronicle) := (distinct_of_lawful lawful).applyAll _
  constructor
  case steps => exact core.steps.append step
  case owned =>
    intro other written place guarded
    obtain before | here := mem_append.1 written
    · exact (core.owned other before place guarded).mono (subset_holding _ keys strength)
    · obtain rfl := mem_singleton.1 here
      exact owns place guarded
  case reserved =>
    intro tenantId
    rw [view_write, total_apply _ _ distinct, core.reserved tenantId]
    omega
  case committed =>
    intro tenantId
    rw [view_write, total_apply _ _ distinct, core.committed tenantId]
    omega
  case booked => exact core.booked

theorem unguarded_weights (unguarded : guard change.key = none) (rows : List Row)
    {weight : Row -> Int} (weightless : ∀ row : Row, guard row.key = none -> weight row = 0) :
    (lookup rows change.key).elim 0 weight = 0 ∧ change.weight weight = 0 := by
  constructor
  · cases found : lookup rows change.key with
    | none => rfl
    | some row =>
      have same : row.key = change.key := key_of_lookup found
      exact weightless row (same ▸ unguarded)
  · cases change with
    | put row => exact weightless row unguarded
    | erase key => rfl

theorem Facts.write_other (held : Facts facts transaction chronicle) (other : ∀ row ∈ facts, change.key ≠ row.key) :
    Facts facts ((transaction.writing change).holding keys strength) chronicle := by
  intro row member
  obtain ⟨found, place, guarded, owns⟩ := held row member
  refine ⟨?_, place, guarded, owns.mono (subset_holding _ keys strength)⟩
  rw [view_write]
  exact (found_apply_other (other row member)).2 found

theorem Core.write_unguarded
    (core : Core bookings phase reserve commit transaction chronicle) (lawful : (law quota).Lawful chronicle)
    (unguarded : guard change.key = none) :
    Core bookings phase reserve commit ((transaction.writing change).holding keys strength) chronicle := by
  have owns : OwnsGuard transaction change keys strength := by
    intro place guarded
    rw [unguarded] at guarded
    cases guarded
  have written := core.write lawful (.other unguarded) owns
  have reserves := fun tenantId => unguarded_weights unguarded (transaction.view chronicle)
    fun row free => reserveWeight_unguarded free tenantId
  have commits := fun tenantId => unguarded_weights unguarded (transaction.view chronicle)
    fun row free => commitWeight_unguarded free tenantId
  simpa only [(reserves _).1, (reserves _).2, (commits _).1, (commits _).2, sub_zero, add_zero] using written

theorem unreserved_write
    (unreserved : ∀ session, .put (.upload session) ∈ transaction.written -> session.state ≠ .active)
    (unlike : ∀ session : UploadSession, change = .put (.upload session) -> session.state ≠ .active) :
    ∀ session, .put (.upload session) ∈ ((transaction.writing change).holding keys strength).written ->
      session.state ≠ .active := by
  intro session written
  obtain before | here := mem_append.1 written
  · exact unreserved session before
  · exact unlike session (mem_singleton.1 here).symm

theorem draft_tolerant : (law quota).Tolerant (fun key => guard key = none)
    (Draft bookings phase reserve commit facts) where
  toNeutral := draft_neutral
  unguarded := fun _ unguarded => unguarded
  writes := by
    intro transaction next change keys strength unguarded lawful draft
    refine ⟨draft.core.write_unguarded lawful unguarded, draft.facts.write_other fun row member same => ?_,
      unreserved_write draft.unreserved ?_⟩
    · obtain ⟨-, place, guarded, -⟩ := draft.facts row member
      rw [same, guarded] at unguarded
      cases unguarded
    · rintro session rfl
      cases unguarded

theorem Draft.write {row : Row} (draft : Draft bookings phase reserve commit facts transaction chronicle)
    (lawful : (law quota).Lawful chronicle) (step : Step (transaction.view chronicle) phase (.put row) last)
    {place : Key} (guarded : guard row.key = some place)
    (owns : ((transaction.writing (.put row)).holding keys strength).Owns place)
    (unlike : ∀ session, row = .upload session -> session.state ≠ .active) :
    Draft bookings last
      (fun tenantId => reserve tenantId -
        (lookup (transaction.view chronicle) row.key).elim 0 (reserveWeight tenantId) + reserveWeight tenantId row)
      (fun tenantId => commit tenantId -
        (lookup (transaction.view chronicle) row.key).elim 0 (commitWeight tenantId) + commitWeight tenantId row)
      (row :: replaced facts row) ((transaction.writing (.put row)).holding keys strength) chronicle := by
  have guards : OwnsGuard transaction (.put row) keys strength := by
    intro other guards
    obtain rfl : place = other := Option.some.inj (guarded.symm.trans guards)
    exact owns
  refine ⟨draft.core.write lawful step guards, ?_, unreserved_write draft.unreserved ?_⟩
  · have mine : Found (((transaction.writing (.put row)).holding keys strength).view chronicle) row := by
      rw [view_write]
      exact found_put.2 (.inl rfl)
    intro other member
    obtain rfl | member := mem_cons.1 member
    · exact ⟨mine, place, guarded, owns⟩
    · obtain ⟨old, known, rfl⟩ := mem_map.1 member
      by_cases same : Keyed.key old = Keyed.key row
      · simp only [same, if_true]
        exact ⟨mine, place, guarded, owns⟩
      · simp only [same, if_false]
        obtain ⟨found, region, region_guards, region_owned⟩ := draft.facts old known
        refine ⟨?_, region, region_guards, region_owned.mono (subset_holding _ keys strength)⟩
        rw [view_write]
        exact found_put.2 (.inr ⟨same, found⟩)
  · rintro session ⟨⟩
    exact unlike session rfl

end

end Nexa.Storage
