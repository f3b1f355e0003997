import Nexa.Shared.Simulation
import Nexa.Storage.Runs

namespace Nexa.Storage

open Interaction Locking Nexa.Api List

inductive StorageCall where
  | upload (credential : Credential) (request : UploadRequest) (requestHash : UploadRequest -> Nat)
  | uploadAttemptArtifact (scope : AttemptScope) (request : UploadRequest) (requestHash : UploadRequest -> Nat)
  | expireUploads (limit : Nat)

def StorageCall.program (settings : StorageSettings) (identity : IdentitySettings) :
    StorageCall -> Operation Unit
  | .upload credential request requestHash => do
    let _ <- Nexa.Api.upload settings (artifactService identity credential request.tenantId requestHash) request
    pure ()
  | .uploadAttemptArtifact scope request requestHash => do
    let _ <- Nexa.Api.upload settings (attemptArtifactService scope requestHash) request
    pure ()
  | .expireUploads limit => do
    let _ <- Nexa.Api.expireUploads limit
    pure ()

def Stored : Row -> Bool
  | .upload _ | .counter _ | .artifact _ | .record _ => true
  | _ => false

structure Unused (world : World Nat Key Row Label Failure Unit) : Prop where
  distinct : Distinct world.chronicle.rows
  unused : ∀ row ∈ world.chronicle.rows, Stored row = false
  entries : world.chronicle.entries = []
  opened : ∀ process, world.opened process = none
  failures : world.failures = []

abbrev StoragePool := Programs outer Nat Key Row Label Failure Unit

/-- Every call in a process of its own. The host, its clocks and its files may answer anything. -/
def storage (settings : StorageSettings) (identity : IdentitySettings) :
    Transition.System StoragePool (PoolEvent Nat StorageCall) :=
  pools (database anything) (StorageCall.program settings identity) Unused

theorem total_eq_zero {weight : Row -> Int} {rows : List Row} (nothing : ∀ row ∈ rows, weight row = 0) :
    total weight rows = 0 := by
  induction rows with
  | nil => rfl
  | cons row rest ih =>
    rw [forall_mem_cons] at nothing
    have rest_eq := ih nothing.2
    simp only [total, map_cons, sum_cons] at rest_eq ⊢
    rw [nothing.1, rest_eq]
    rfl

theorem exact_of_unused {rows : List Row} (distinct : Distinct rows)
    (unused : ∀ row ∈ rows, Stored row = false) : Exact rows := by
  have absent : ∀ row : Row, Stored row = true -> ¬ Found rows row := by
    intro row stored found
    rw [unused row (mem_of_lookup found)] at stored
    cases stored
  refine ⟨?_, ?_, fun tenantId => total_eq_zero fun row member => ?_,
    fun tenantId => total_eq_zero fun row member => ?_⟩
  · constructor
    case distinct => exact distinct
    case content => exact fun one _ found => absurd found (absent _ rfl)
    case sized => exact fun session found => absurd found (absent _ rfl)
    case claimed => nofun
    case single => exact fun one _ _ found => absurd found (absent _ rfl)
    all_goals exact fun session _ found => absurd found (absent _ rfl)
  · intro record found
    exact absurd found (absent _ rfl)
  · have other := unused row member
    cases row <;> simp_all [Stored, reserveWeight]
  · have other := unused row member
    cases row <;> simp_all [Stored, commitWeight]

theorem keeps_program (settings : StorageSettings) (identity : IdentitySettings) (call : StorageCall) :
    KeepsBooked settings.tenantArtifactQuotaBytes [] (call.program settings identity) := by
  cases call with
  | upload credential request requestHash =>
    exact runs_then (keeps_upload (harmless_artifactService identity credential _ requestHash) request)
      fun _ => runs_pure fun _ held => held
  | uploadAttemptArtifact scope request requestHash =>
    exact runs_then (keeps_upload (harmless_attemptArtifactService scope requestHash) request)
      fun _ => runs_pure fun _ held => held
  | expireUploads limit =>
    exact runs_then (keeps_expireUploads limit) fun _ => runs_pure fun _ held => held

theorem holds_of_storage {settings : StorageSettings} {identity : IdentitySettings} {pool : StoragePool}
    (reachable : (storage settings identity).Reachable pool) :
    (law settings.tenantArtifactQuotaBytes).Holds pool.state := by
  have lawful : pool.Lawful (law settings.tenantArtifactQuotaBytes).contract
      (law settings.tenantArtifactQuotaBytes).Holds (law settings.tenantArtifactQuotaBytes).Knows Idle
      (fun sight _ => sight.transaction = none ∧ Booked [] sight.seen)
      fun sight error => sight.transaction = none ∧ Regular error ∧ Booked [] sight.seen := by
    refine lawful_of_pools ((law settings.tenantArtifactQuotaBytes).secure anything) (fun world unused => ?_)
      (fun call sight idle => ?_) reachable
    · have same : world.chronicle = ⟨world.chronicle.rows, []⟩ := by rw [← unused.entries]
      have lawful : (law settings.tenantArtifactQuotaBytes).Lawful world.chronicle := by
        rw [same]
        exact .initial (exact_of_unused unused.distinct unused.unused)
      exact (law settings.tenantArtifactQuotaBytes).starts lawful unused.opened unused.failures
    · obtain ⟨seen, transaction⟩ := sight
      obtain rfl : transaction = none := idle
      exact keeps_program settings identity call seen (booked_nil seen)
  exact lawful.held

theorem replayed_of_lawful {quota : Int} {chronicle : StorageChronicle} (lawful : (law quota).Lawful chronicle) :
    ∃ start, Exact start ∧ chronicle.rows = applyAll start (history chronicle) ∧
      ∀ earlier entry later, chronicle.entries = earlier ++ entry :: later ->
        Permitted quota ⟨applyAll start (earlier.flatMap fun past => past.written), earlier⟩ entry := by
  induction lawful with
  | @initial rows begins => exact ⟨rows, begins, rfl, fun earlier entry later split => by simp at split⟩
  | @extend chronicle entry _ permitted ih =>
    obtain ⟨start, begins, replayed, past⟩ := ih
    refine ⟨start, begins, ?_, fun earlier other later split => ?_⟩
    · simp only [Chronicle.extend, history, flatMap_append, flatMap_singleton, applyAll_append]
      rw [replayed]
      rfl
    · -- the last commit is the new one, and those before it were there
      rcases eq_nil_or_concat later with rfl | ⟨before, last, rfl⟩
      · have ends := append_inj_right' split rfl
        have starts := append_inj_left' split rfl
        obtain rfl : entry = other := by simpa using ends
        rw [← starts]
        have same : (⟨applyAll start (chronicle.entries.flatMap fun past => past.written),
            chronicle.entries⟩ : StorageChronicle) = chronicle := by
          rw [show applyAll start (chronicle.entries.flatMap fun past => past.written) = chronicle.rows from
            replayed.symm]
        rw [same]
        exact permitted
      · have moved : chronicle.entries ++ [entry] = (earlier ++ other :: before) ++ [last] := by
          simpa [Chronicle.extend] using split
        exact past earlier other before (append_inj_left' moved rfl)

/-- The counters are always the sums that they stand for, a content is committed once, and a reservation is
released once. -/
theorem storage_counters_exact {settings : StorageSettings} {identity : IdentitySettings} {pool : StoragePool}
    (reachable : (storage settings identity).Reachable pool) :
    (∀ tenantId,
      (counterOf pool.state.chronicle.rows tenantId).reservedBytes = reservedBy pool.state.chronicle.rows tenantId ∧
        (counterOf pool.state.chronicle.rows tenantId).committedBytes =
          committedBy pool.state.chronicle.rows tenantId) ∧
    (∃ start, pool.state.chronicle.rows = applyAll start (history pool.state.chronicle) ∧
      ∀ earlier entry later session, pool.state.chronicle.entries = earlier ++ entry :: later ->
        .put (.upload session) ∈ entry.written -> session.state = .active ->
          (counterOf (applyAll start ((earlier ++ [entry]).flatMap fun past => past.written))
              session.tenantId).reservedBytes +
            (counterOf (applyAll start ((earlier ++ [entry]).flatMap fun past => past.written))
              session.tenantId).committedBytes ≤ settings.tenantArtifactQuotaBytes) ∧
    (∀ one other, .artifact one ∈ pool.state.chronicle.rows -> .artifact other ∈ pool.state.chronicle.rows ->
      one.state = .committed -> other.state = .committed -> one.tenantId = other.tenantId ->
      one.checksum = other.checksum -> one.kind = other.kind -> one.mediaType = other.mediaType -> one = other) ∧
    (∀ tenantId uploadId,
      (history pool.state.chronicle).countP (reserves tenantId uploadId) ≤ 1 ∧
        (history pool.state.chronicle).countP (releases tenantId uploadId) ≤ 1 ∧
        ∀ session, sessionAt pool.state.chronicle.rows tenantId uploadId = some session ->
          (session.state = .active -> (history pool.state.chronicle).countP (releases tenantId uploadId) = 0) ∧
          ((history pool.state.chronicle).countP (reserves tenantId uploadId) = 1 -> session.state ≠ .active ->
            (history pool.state.chronicle).countP (releases tenantId uploadId) = 1)) ∧
    ∀ failure ∈ pool.state.failures, failure ≠ .application inconsistent := by
  have holds := holds_of_storage reachable
  have exact_rows := exact_of_lawful holds.lawful
  refine ⟨fun tenantId => ⟨exact_rows.reserved_eq tenantId, exact_rows.committed_eq tenantId⟩, ?_, ?_,
    released_once holds.lawful, ?_⟩
  · obtain ⟨start, _, replayed, past⟩ := replayed_of_lawful holds.lawful
    refine ⟨start, replayed, fun earlier entry later session split written active => ?_⟩
    have admitted := (past earlier entry later split).admitted session written active
    simpa [flatMap_append, applyAll_append] using admitted
  · intro one other first second committed otherCommitted tenant checksum kind media
    refine exact_rows.linked.content one other (exact_rows.linked.distinct.lookup first)
      (exact_rows.linked.distinct.lookup second) committed otherCommitted ?_
    simp [contentKey, tenant, checksum, kind, media]
  · rintro failure member rfl
    exact holds.tolerated _ member rfl

namespace Interrupted

def settings : StorageSettings where
  artifactMaxFileBytes := 100
  tenantArtifactQuotaBytes := 100
  stagingTtlSeconds := 60
  orphanTtlSeconds := 60
  storageHighWatermarkPercent := 90
  storageCriticalWatermarkPercent := 95
  sha256 := fun _ => "sha256:" ++ String.ofList (List.replicate 64 '0')

def identity : IdentitySettings where
  browserSessionIdleTtlSeconds := 1000
  browserSessionAbsoluteTtlSeconds := 10000

def scope : AttemptScope where
  workerId := 3
  kind := .checkpointFile
  mediaType := none
  authority := 1
  authorize := fun _ => .done ()
  lineage := fun _ => .done ()
  authorizes := fun _ => trivial
  compares := fun _ => trivial

def request : UploadRequest where
  tenantId := 5
  idempotencyKey := "0123456789abcdef"
  kind := .checkpointFile
  mediaType := "application/json"
  expectedSize := 7
  expectedChecksum := "sha256:" ++ String.ofList (List.replicate 64 '0')
  contentLength := some 7
  chunks := []
  last := .interrupted

def initial : StoragePool where
  state := {
    chronicle := { rows := [.tenant { tenantId := 5, enabled := true }, .policy .running], entries := [] }
    opened := fun _ => none
    failures := []
    outside := () }
  running := fun _ => none

def supplied : (command : Outer) -> command.Answer
  | .transactionTimestamp => (100 : Nat)
  | .clockTimestamp => (100 : Nat)
  | .newUuid => (9 : Nat)
  | .lockTimeout => false
  | .observedUser _ => none
  | .verifyPassword _ _ => true
  | .hashPassword _ => (0 : Nat)
  | .conflict => false
  | .connectionLost => false
  | .store .statvfs => (some (1000, 1000) : Option (Nat × Nat))
  | .store .verifyBound => true
  | .store command => command.idle

def final : Option StoragePool :=
  simulate (StorageCall.program settings identity) [0]
    (.start 0 (.uploadAttemptArtifact scope request fun _ => 1) :: List.replicate 36 (.run 0 supplied)) initial

theorem reachable_of_final {pool : StoragePool} (ended : final = some pool) :
    (storage settings identity).Reachable pool := by
  refine reachable_of_simulate ?_ (fun _ _ => rfl) ended
  refine ⟨initial, [], ⟨⟨?_, ?_, rfl, fun _ => rfl, rfl⟩, fun _ => rfl⟩, .nil _⟩
  · unfold Distinct
    decide
  · decide

end Interrupted

theorem storage_counters_exact_interrupted :
    ∃ pool : StoragePool, (storage Interrupted.settings Interrupted.identity).Reachable pool ∧
      (history pool.state.chronicle).countP (reserves 5 9) = 1 ∧
      (history pool.state.chronicle).countP (releases 5 9) = 1 ∧
      (counterOf pool.state.chronicle.rows 5).reservedBytes = reservedBy pool.state.chronicle.rows 5 := by
  have checked : Interrupted.final.any (fun pool =>
      (history pool.state.chronicle).countP (reserves 5 9) = 1 ∧
        (history pool.state.chronicle).countP (releases 5 9) = 1) = true := by decide +kernel
  obtain ⟨pool, ended, passed⟩ := (Option.any_eq_true _ _).1 checked
  have counted := of_decide_eq_true passed
  have reachable := Interrupted.reachable_of_final ended
  exact ⟨pool, reachable, counted.1, counted.2, ((storage_counters_exact reachable).1 5).1⟩

end Nexa.Storage
