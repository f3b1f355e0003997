import Mathlib.Algebra.Order.BigOperators.Group.List
import Nexa.Storage.Effects

namespace Nexa.Storage

open Interaction Locking Nexa.Api List

abbrev StorageEntry := Entry Key Row Label
abbrev StorageChronicle := Chronicle Key Row Label
abbrev StorageTransaction := Transaction Key Row Label

def counterOf (rows : List Row) (tenantId : TenantId) : StorageCounter :=
  ((lookup rows (.counter tenantId)).bind artifactStorageCounters.decode).getD
    { tenantId, committedBytes := 0, reservedBytes := 0, version := 1 }

def reservedBy (rows : List Row) (tenantId : TenantId) : Int :=
  (((rows.filterMap uploadSessions.decode).filter fun row => row.tenantId = tenantId ∧ row.state = .active).map
    fun row => row.expectedSizeBytes).sum

def committedBy (rows : List Row) (tenantId : TenantId) : Int :=
  (((rows.filterMap artifacts.decode).filter fun row => row.tenantId = tenantId ∧ row.state = .committed).map
    fun row => row.sizeBytes).sum

structure Exact (rows : List Row) : Prop where
  linked : Linked .idle rows
  answered : Answered rows
  reserved : ∀ tenantId, total (reserveWeight tenantId) rows = 0
  committed : ∀ tenantId, total (commitWeight tenantId) rows = 0

structure Permitted (quota : Int) (chronicle : StorageChronicle) (entry : StorageEntry) : Prop where
  steps : Steps chronicle.rows .idle entry.written .idle
  reserved : ∀ tenantId, total (reserveWeight tenantId) (applyAll chronicle.rows entry.written) =
    total (reserveWeight tenantId) chronicle.rows
  committed : ∀ tenantId, total (commitWeight tenantId) (applyAll chronicle.rows entry.written) =
    total (commitWeight tenantId) chronicle.rows
  admitted : ∀ session, .put (.upload session) ∈ entry.written -> session.state = .active ->
    (counterOf (applyAll chronicle.rows entry.written) session.tenantId).reservedBytes +
      (counterOf (applyAll chronicle.rows entry.written) session.tenantId).committedBytes ≤ quota

def law (quota : Int) : Law Key Row Label Failure where
  initial := Exact
  guard := guard
  permits := Permitted quota
  tolerates := Regular

variable {quota : Int} {chronicle : StorageChronicle}

theorem Exact.extend {entry : StorageEntry}
    (exact_rows : Exact chronicle.rows) (permitted : Permitted quota chronicle entry) :
    Exact (chronicle.extend entry).rows where
  linked := exact_rows.linked.steps permitted.steps
  answered := exact_rows.answered.steps permitted.steps
  reserved := fun tenantId => (permitted.reserved tenantId).trans (exact_rows.reserved tenantId)
  committed := fun tenantId => (permitted.committed tenantId).trans (exact_rows.committed tenantId)

theorem exact_of_lawful (lawful : (law quota).Lawful chronicle) : Exact chronicle.rows := by
  induction lawful with
  | initial begins => exact begins
  | extend _ permitted ih => exact ih.extend permitted

theorem distinct_of_lawful (lawful : (law quota).Lawful chronicle) : Distinct chronicle.rows :=
  (exact_of_lawful lawful).linked.distinct

def counted {α : Type} (table : Table α) (wanted : α -> Bool) (amount : α -> Int) (row : Row) : Int :=
  match table.decode row with
  | some value => if wanted value then amount value else 0
  | none => 0

theorem total_counted {α : Type} (table : Table α) (wanted : α -> Bool) (amount : α -> Int) (rows : List Row) :
    total (counted table wanted amount) rows = (((rows.filterMap table.decode).filter wanted).map amount).sum := by
  induction rows with
  | nil => rfl
  | cons row rest ih =>
    simp only [total, map_cons, sum_cons] at ih ⊢
    rw [ih]
    cases decoded : table.decode row with
    | none => simp [counted, decoded]
    | some value => by_cases chosen : wanted value = true <;> simp [counted, decoded, chosen]

theorem reserveWeight_eq (tenantId : TenantId) :
    reserveWeight tenantId = fun row =>
      counted artifactStorageCounters (fun row => row.tenantId = tenantId) (fun row => row.reservedBytes) row -
        counted uploadSessions (fun row => row.tenantId = tenantId ∧ row.state = .active)
          (fun row => row.expectedSizeBytes) row := by
  funext row
  cases row with
  | counter row =>
    by_cases here : row.tenantId = tenantId <;>
      simp [reserveWeight, counted, artifactStorageCounters, uploadSessions, here]
  | upload row =>
    by_cases here : row.tenantId = tenantId <;> by_cases active : row.state = .active <;>
      simp [reserveWeight, counted, artifactStorageCounters, uploadSessions, here, active]
  | _ => rfl

theorem commitWeight_eq (tenantId : TenantId) :
    commitWeight tenantId = fun row =>
      counted artifactStorageCounters (fun row => row.tenantId = tenantId) (fun row => row.committedBytes) row -
        counted artifacts (fun row => row.tenantId = tenantId ∧ row.state = .committed)
          (fun row => row.sizeBytes) row := by
  funext row
  cases row with
  | counter row =>
    by_cases here : row.tenantId = tenantId <;>
      simp [commitWeight, counted, artifactStorageCounters, artifacts, here]
  | artifact row =>
    by_cases here : row.tenantId = tenantId <;> by_cases committed : row.state = .committed <;>
      simp [commitWeight, counted, artifactStorageCounters, artifacts, here, committed]
  | _ => rfl

variable {rows : List Row}

theorem total_counter (distinct : Distinct rows) (tenantId : TenantId) (amount : StorageCounter -> Int)
    (nothing : amount { tenantId, committedBytes := 0, reservedBytes := 0, version := 1 } = 0) :
    total (counted artifactStorageCounters (fun row => row.tenantId = tenantId) amount) rows =
      amount (counterOf rows tenantId) := by
  have only : ∀ row : Row, row.key ≠ .counter tenantId ->
      counted artifactStorageCounters (fun row => row.tenantId = tenantId) amount row = 0 := by
    intro row other
    cases row with
    | counter row =>
      have apart : row.tenantId ≠ tenantId := by simpa [Row.key] using other
      simp [counted, artifactStorageCounters, apart]
    | _ => rfl
  rw [total_eq_lookup distinct only]
  unfold counterOf
  cases found : lookup rows (Key.counter tenantId) with
  | none => simpa using nothing.symm
  | some row =>
    have same : row.key = .counter tenantId := key_of_lookup found
    cases row <;> simp only [Row.key, reduceCtorEq, Key.counter.injEq] at same
    simp [counted, artifactStorageCounters, same]

theorem Exact.reserved_eq (exact_rows : Exact rows) (tenantId : TenantId) :
    (counterOf rows tenantId).reservedBytes = reservedBy rows tenantId := by
  have balanced := exact_rows.reserved tenantId
  rw [reserveWeight_eq, total_sub, total_counter exact_rows.linked.distinct tenantId _ rfl, total_counted]
    at balanced
  unfold reservedBy
  omega

theorem Exact.committed_eq (exact_rows : Exact rows) (tenantId : TenantId) :
    (counterOf rows tenantId).committedBytes = committedBy rows tenantId := by
  have balanced := exact_rows.committed tenantId
  rw [commitWeight_eq, total_sub, total_counter exact_rows.linked.distinct tenantId _ rfl, total_counted]
    at balanced
  unfold committedBy
  omega

variable {session : UploadSession}

theorem le_reserved {tenantId : TenantId} {counter : StorageCounter}
    (linked : Linked .idle rows) (balanced : total (reserveWeight tenantId) rows = 0)
    (held : lookup rows (.counter tenantId) = some (.counter counter)) (found : Found rows (.upload session))
    (tenant : session.tenantId = tenantId) (active : session.state = .active) :
    session.expectedSizeBytes ≤ counter.reservedBytes := by
  rw [reserveWeight_eq, total_sub, total_counter linked.distinct tenantId _ rfl, total_counted] at balanced
  have own : counterOf rows tenantId = counter := by simp [counterOf, held, artifactStorageCounters]
  rw [own] at balanced
  have member : session ∈ (rows.filterMap uploadSessions.decode).filter fun row =>
      row.tenantId = tenantId ∧ row.state = .active := by
    refine mem_filter.2 ⟨mem_filterMap.2 ⟨_, mem_of_lookup found, rfl⟩, by simp [tenant, active]⟩
  have sizes : ∀ amount ∈ ((rows.filterMap uploadSessions.decode).filter fun row =>
      row.tenantId = tenantId ∧ row.state = .active).map fun row => row.expectedSizeBytes, 0 ≤ amount := by
    intro amount present
    obtain ⟨other, chosen, rfl⟩ := mem_map.1 present
    obtain ⟨row, inside, decoded⟩ := mem_filterMap.1 (mem_of_mem_filter chosen)
    cases row <;> simp only [uploadSessions, Option.some.injEq, reduceCtorEq] at decoded
    subst decoded
    exact linked.sized _ (linked.distinct.lookup inside)
  have bound := single_le_sum sizes _ (mem_map_of_mem member)
  omega

def reserves (tenantId : TenantId) (uploadId : UploadId) : Change Key Row -> Bool
  | .put (.upload session) =>
    session.tenantId = tenantId ∧ session.uploadId = uploadId ∧ session.state = .active
  | _ => false

def releases (tenantId : TenantId) (uploadId : UploadId) : Change Key Row -> Bool
  | .put (.upload session) =>
    session.tenantId = tenantId ∧ session.uploadId = uploadId ∧ session.state ≠ .active
  | _ => false

def sessionAt (rows : List Row) (tenantId : TenantId) (uploadId : UploadId) : Option UploadSession :=
  (lookup rows (.upload tenantId uploadId)).bind uploadSessions.decode

def made (rows : List Row) (tenantId : TenantId) (uploadId : UploadId) : Nat :=
  if (sessionAt rows tenantId uploadId).isSome then 1 else 0

def finished (rows : List Row) (tenantId : TenantId) (uploadId : UploadId) : Nat :=
  if (sessionAt rows tenantId uploadId).any fun session => session.state ≠ .active then 1 else 0

variable {change : Change Key Row}

section

variable {rows : List Row} {tenantId : TenantId} {uploadId : UploadId}

theorem sessionAt_other (other : change.key ≠ .upload tenantId uploadId) :
    sessionAt (change.apply rows) tenantId uploadId = sessionAt rows tenantId uploadId := by
  unfold sessionAt
  rw [lookup_apply_other other]

theorem sessionAt_put (tenant : session.tenantId = tenantId) (upload : session.uploadId = uploadId) :
    sessionAt ((Change.put (.upload session)).apply rows) tenantId uploadId = some session := by
  subst tenant upload
  unfold sessionAt
  rw [lookup_put]
  simp [Keyed.key, Row.key, uploadSessions]

structure Counts (rows : List Row) (change : Change Key Row) (tenantId : TenantId) (uploadId : UploadId) : Prop where
  made : made (change.apply rows) tenantId uploadId =
    made rows tenantId uploadId + if reserves tenantId uploadId change then 1 else 0
  finished : finished (change.apply rows) tenantId uploadId =
    finished rows tenantId uploadId + if releases tenantId uploadId change then 1 else 0

theorem counts_other (other : change.key ≠ .upload tenantId uploadId) : Counts rows change tenantId uploadId := by
  obtain ⟨unreserved, unreleased⟩ : reserves tenantId uploadId change = false ∧
      releases tenantId uploadId change = false := by
    cases change with
    | erase key => exact ⟨rfl, rfl⟩
    | put row =>
      cases row with
      | upload session =>
        have apart : ¬ (session.tenantId = tenantId ∧ session.uploadId = uploadId) := by
          simpa [Keyed.key, Row.key] using other
        simp only [reserves, releases, decide_eq_false_iff_not]
        exact ⟨fun same => apart ⟨same.1, same.2.1⟩, fun same => apart ⟨same.1, same.2.1⟩⟩
      | _ => exact ⟨rfl, rfl⟩
  constructor
  · simp [made, sessionAt_other other, unreserved]
  · simp [finished, sessionAt_other other, unreleased]

theorem counts_reserve
    (absent : lookup rows (.upload session.tenantId session.uploadId) = none) (active : session.state = .active) :
    Counts rows (.put (.upload session)) tenantId uploadId := by
  by_cases here : session.tenantId = tenantId ∧ session.uploadId = uploadId
  · obtain ⟨rfl, rfl⟩ := here
    have before : sessionAt rows session.tenantId session.uploadId = none := by simp [sessionAt, absent]
    constructor
    · simp [made, sessionAt_put, before, reserves, active]
    · simp [finished, sessionAt_put, before, releases, active]
  · exact counts_other (by simpa [Keyed.key, Row.key] using here)

theorem counts_end {old : UploadSession} (ends : Ends rows session old) :
    Counts rows (.put (.upload session)) tenantId uploadId := by
  by_cases here : session.tenantId = tenantId ∧ session.uploadId = uploadId
  · obtain ⟨rfl, rfl⟩ := here
    have before : sessionAt rows session.tenantId session.uploadId = some old := by
      simp [sessionAt, ends.found, uploadSessions]
    constructor
    · simp [made, sessionAt_put, before, reserves, ends.ended]
    · simp [finished, sessionAt_put, before, releases, ends.ended, ends.active]
  · exact counts_other (by simpa [Keyed.key, Row.key] using here)

theorem Step.counts {first last : Phase} (step : Step rows first change last)
    (tenantId : TenantId) (uploadId : UploadId) : Counts rows change tenantId uploadId := by
  cases step with
  | other unguarded =>
    refine counts_other fun same => ?_
    simp [same, guard] at unguarded
  | openCounter | moveCounter | claim | note | complete | publish =>
    exact counts_other (by simp [Keyed.key, Row.key])
  | reserve absent active _ _ => exact counts_reserve absent active
  | close ends _ => exact counts_end ends
  | drop ends _ => exact counts_end ends

theorem Steps.counts {first last : Phase} {changes : List (Change Key Row)} (steps : Steps rows first changes last)
    (tenantId : TenantId) (uploadId : UploadId) :
    made (applyAll rows changes) tenantId uploadId =
        made rows tenantId uploadId + changes.countP (reserves tenantId uploadId) ∧
      finished (applyAll rows changes) tenantId uploadId =
        finished rows tenantId uploadId + changes.countP (releases tenantId uploadId) := by
  induction steps with
  | nil => simp
  | cons step _ ih =>
    obtain ⟨made, finished⟩ := step.counts tenantId uploadId
    simp only [applyAll_cons, countP_cons]
    omega

end

def history (chronicle : StorageChronicle) : List (Change Key Row) :=
  chronicle.entries.flatMap fun entry => entry.written

theorem counts_of_lawful (lawful : (law quota).Lawful chronicle) (tenantId : TenantId) (uploadId : UploadId) :
    ∃ first ended : Nat, ended ≤ first ∧
      made chronicle.rows tenantId uploadId = first + (history chronicle).countP (reserves tenantId uploadId) ∧
      finished chronicle.rows tenantId uploadId = ended + (history chronicle).countP (releases tenantId uploadId) := by
  induction lawful with
  | @initial rows begins =>
    refine ⟨made rows tenantId uploadId, finished rows tenantId uploadId, ?_, rfl, rfl⟩
    cases found : sessionAt rows tenantId uploadId <;> simp only [made, finished, found]
    · simp
    · split_ifs <;> simp_all
  | @extend chronicle entry _ permitted ih =>
    obtain ⟨first, ended, bound, before, past⟩ := ih
    obtain ⟨made, finished⟩ := permitted.steps.counts tenantId uploadId
    refine ⟨first, ended, bound, ?_, ?_⟩ <;>
      simp only [Chronicle.extend, history, flatMap_append, flatMap_cons, flatMap_nil,
        append_nil, countP_append] at before past ⊢ <;> omega

theorem released_once (lawful : (law quota).Lawful chronicle) (tenantId : TenantId) (uploadId : UploadId) :
    (history chronicle).countP (reserves tenantId uploadId) ≤ 1 ∧
      (history chronicle).countP (releases tenantId uploadId) ≤ 1 ∧
      ∀ session, sessionAt chronicle.rows tenantId uploadId = some session ->
        (session.state = .active -> (history chronicle).countP (releases tenantId uploadId) = 0) ∧
        ((history chronicle).countP (reserves tenantId uploadId) = 1 -> session.state ≠ .active ->
          (history chronicle).countP (releases tenantId uploadId) = 1) := by
  obtain ⟨first, ended, bound, before, past⟩ := counts_of_lawful lawful tenantId uploadId
  have one : made chronicle.rows tenantId uploadId ≤ 1 := by unfold made; split_ifs <;> omega
  have once : finished chronicle.rows tenantId uploadId ≤ 1 := by unfold finished; split_ifs <;> omega
  refine ⟨by omega, by omega, fun session found => ⟨fun active => ?_, fun reserved over_now => ?_⟩⟩
  · have running : finished chronicle.rows tenantId uploadId = 0 := by simp [finished, found, active]
    omega
  · have stopped : finished chronicle.rows tenantId uploadId = 1 := by simp [finished, found, over_now]
    omega

end Nexa.Storage
