import Nexa.Lifecycle.Laws
import Nexa.Lifecycle.Representation

namespace Nexa

open Relational List Tables

def ownedTables : List Table :=
  [.jobs, .attempts, .allocations, .attemptLeases, .authorityGrants, .results, .retrySchedules, .events]

def coreTables : List Table := .admissionCounters :: ownedTables

def countersAt (rows : Tables nexaSchema) (scope : Scope) : List AdmissionCounter :=
  (rows .admissionCounters).filter fun row => row.scope = scope

def outstandingOf (rows : Tables nexaSchema) (scope : Scope) : Nat :=
  ((countersAt rows scope).map (·.outstanding)).sum

def activeOf (rows : Tables nexaSchema) (scope : Scope) : Nat := ((countersAt rows scope).map (·.activeAttempts)).sum

def versionOf (rows : Tables nexaSchema) (scope : Scope) : Nat := ((countersAt rows scope).map (·.version)).sum

/-- The counters moved between the amounts, and no version went back. -/
def Charged (before after : Tables nexaSchema) (scopes : List Scope) (old new : Nat × Nat) : Prop :=
  ∀ scope,
    outstandingOf after scope + (if scope ∈ scopes then old.1 else 0) =
        outstandingOf before scope + (if scope ∈ scopes then new.1 else 0) ∧
      activeOf after scope + (if scope ∈ scopes then old.2 else 0) =
        activeOf before scope + (if scope ∈ scopes then new.2 else 0) ∧
      versionOf before scope ≤ versionOf after scope

structure Quiet (before after : Tables nexaSchema) : Prop where
  owned : ∀ table ∈ ownedTables, after table = before table
  charged : Charged before after [] (0, 0) (0, 0)

def Lifecycle.load (v : Lifecycle) : Nat × Nat := (v.outstanding, v.active)

theorem Lifecycle.load_live {v : Lifecycle} {attempt : AttemptState} {intent : ExecutionIntent}
    {resources : Resources} (held : v.custody = .live attempt intent resources)
    (unfinished : v.state.terminal = false) : v.load = (1, 1) := by
  simp [Lifecycle.load, Lifecycle.outstanding, Lifecycle.active, held, unfinished]

structure Moves (cause : Cause) (jobId : JobId) (before after : Tables nexaSchema) : Prop where
  others : after.others jobId = before.others jobId
  kept : ∀ table ∈ ownedTables, before.Kept after table
  present : before.slice jobId .jobs ≠ []
  move : ∀ v, Represents (before.slice jobId) v -> Fits v ->
    ∃ next, Move v cause next ∧ Represents (after.slice jobId) next ∧ Charged before after v.scopes v.load next.load

structure Creates (ticket : Nat) (jobId : JobId) (before after : Tables nexaSchema) : Prop where
  others : after.others jobId = before.others jobId
  kept : ∀ table ∈ ownedTables, before.Kept after table
  absent : before.slice jobId .jobs = []
  accepted : ∃ tenantId submitter maxRetries,
    Represents (after.slice jobId) (.accepted tenantId submitter maxRetries ticket) ∧
      Charged before after (Scope.ofJob tenantId submitter) (0, 0) (1, 0)

inductive Effect : JobId × Cause -> Tables nexaSchema -> Tables nexaSchema -> Prop where
  | moves {cause : Cause} {jobId : JobId} {before after : Tables nexaSchema}
      (moves : Moves cause jobId before after) : Effect (jobId, cause) before after
  | creates {ticket : Nat} {jobId : JobId} {before after : Tables nexaSchema}
      (creates : Creates ticket jobId before after) : Effect (jobId, .enqueue ticket) before after

inductive Progress : List (JobId × Cause) -> Tables nexaSchema -> Tables nexaSchema -> Prop where
  | quiet {before after : Tables nexaSchema} (quiet : Quiet before after) : Progress [] before after
  | cons {item : JobId × Cause} {rest : List (JobId × Cause)} {before between after : Tables nexaSchema}
      (effect : Effect item before between) (different : item.1 ∉ rest.map Prod.fst)
      (progress : Progress rest between after) : Progress (item :: rest) before after

def ticketsOf (effects : List (JobId × Cause)) : List Nat :=
  effects.filterMap fun effect =>
    match effect.2 with
    | .enqueue ticket => some ticket
    | _ => none

def Progresses (cause : Cause) (before after : Tables nexaSchema) : Prop :=
  ∃ effects, (∀ effect ∈ effects, effect.2 = cause) ∧ Progress effects before after

structure Issues (effects : List (JobId × Cause)) (before after : Tables nexaSchema) : Prop where
  kept : ∀ effect ∈ effects, effect.2 ≠ .cleanup
  increasing : (ticketsOf effects).Pairwise (· < ·)
  bounds : ∀ ticket ∈ ticketsOf effects, versionOf before .global ≤ ticket ∧ ticket < versionOf after .global

def Proceeds (before after : Tables nexaSchema) : Prop :=
  ∃ effects, Issues effects before after ∧ Progress effects before after

def Tracked (rows : Tables nexaSchema) : Prop := ∀ job ∈ rows .jobs, ∃ v, Represents (rows.slice job.jobId) v ∧ Fits v

variable {before after : Tables nexaSchema}

theorem Charged.steady (same : after .admissionCounters = before .admissionCounters)
    (scopes : List Scope) (load : Nat × Nat) : Charged before after scopes load load := by
  intro scope
  simp [outstandingOf, activeOf, versionOf, countersAt, same]

theorem owner_eq_none {table : Table} (outside : table ∉ ownedTables) (row : Row table) :
    ownerOf table row = none := by
  cases table <;> first | rfl | exact absurd (by decide) outside

theorem part_congr (same : ∀ table ∈ ownedTables, after table = before table) {keep : Option JobId -> Bool}
    (owned : keep none = false) : after.part keep = before.part keep := by
  funext table
  by_cases inside : table ∈ ownedTables
  · simp [part, same table inside]
  · have empty : ∀ rows : Tables nexaSchema, rows.part keep table = [] := by
      intro rows
      rw [part, filter_eq_nil_iff]
      intro row _
      simp [owner_eq_none inside, owned]
    rw [empty, empty]

variable {first last : Tables nexaSchema}

theorem Charged.trans {next : Tables nexaSchema} {scopes : List Scope}
    {old between new : Nat × Nat} (left : Charged first next scopes old between)
    (right : Charged next last scopes between new) : Charged first last scopes old new := by
  intro scope
  have before := left scope
  have after := right scope
  by_cases inside : scope ∈ scopes <;> simp only [inside, if_true, if_false] at * <;> omega

theorem Charged.widen (charged : Charged before after [] (0, 0) (0, 0))
    (scopes : List Scope) (load : Nat × Nat) : Charged before after scopes load load := by
  intro scope
  have fact := charged scope
  simp only [not_mem_nil, if_false, Nat.add_zero] at fact
  by_cases inside : scope ∈ scopes <;> simp only [inside, if_true, if_false] <;> omega

theorem Quiet.refl (rows : Tables nexaSchema) : Quiet rows rows := ⟨fun _ _ => rfl, .steady rfl _ _⟩

theorem Quiet.trans {next : Tables nexaSchema} (left : Quiet first next)
    (right : Quiet next last) : Quiet first last :=
  ⟨fun table inside => (right.owned table inside).trans (left.owned table inside), left.charged.trans right.charged⟩

theorem Quiet.of_frame {touched : List Table}
    (frame : Frame touched before after) (outside : ∀ table ∈ touched, table ∉ coreTables) :
    Quiet before after :=
  ⟨fun table inside => frame table fun member => outside table member (mem_cons_of_mem _ inside),
    .steady (frame _ fun member => outside _ member mem_cons_self) _ _⟩

theorem Quiet.slice (quiet : Quiet before after) (jobId : JobId) : after.slice jobId = before.slice jobId :=
  part_congr quiet.owned (by simp)

theorem Quiet.others (quiet : Quiet before after) (jobId : JobId) : after.others jobId = before.others jobId :=
  part_congr quiet.owned (by simp)

theorem Tracked.of_quiet (tracked : Tracked before) (quiet : Quiet before after) : Tracked after := by
  intro job member
  rw [quiet.owned .jobs (by decide)] at member
  rw [quiet.slice]
  exact tracked job member

theorem Charged.of_quiet {scopes : List Scope}
    {old new : Nat × Nat} (charged : Charged before after scopes old new) (opening : Quiet first before)
    (closing : Quiet after last) : Charged first last scopes old new :=
  ((opening.charged.widen scopes old).trans charged).trans (closing.charged.widen scopes new)

theorem Quiet.kept (quiet : Quiet before after) : ∀ table ∈ ownedTables, before.Kept after table :=
  fun table inside => .of_same (quiet.owned table inside)

theorem Quiet.kept_around (opening : Quiet first before)
    (kept : ∀ table ∈ ownedTables, before.Kept after table) (closing : Quiet after last) :
    ∀ table ∈ ownedTables, first.Kept last table :=
  fun table inside =>
    ((opening.kept table inside).trans (kept table inside)).trans (closing.kept table inside)

variable {cause : Cause} {jobId : JobId}

theorem Moves.of_quiet
    (moves : Moves cause jobId before after) (opening : Quiet first before) (closing : Quiet after last) :
    Moves cause jobId first last := by
  refine ⟨?_, opening.kept_around moves.kept closing, ?_, ?_⟩
  · rw [closing.others, moves.others, opening.others]
  · rw [← opening.slice]
    exact moves.present
  · intro v represents fits
    rw [← opening.slice] at represents
    obtain ⟨next, move, represented, charged⟩ := moves.move v represents fits
    refine ⟨next, move, ?_, charged.of_quiet opening closing⟩
    rw [closing.slice]
    exact represented

theorem Creates.of_quiet {ticket : Nat} (creates : Creates ticket jobId before after) (opening : Quiet first before)
    (closing : Quiet after last) : Creates ticket jobId first last := by
  refine ⟨?_, opening.kept_around creates.kept closing, ?_, ?_⟩
  · rw [closing.others, creates.others, opening.others]
  · rw [← opening.slice]
    exact creates.absent
  · obtain ⟨tenantId, submitter, maxRetries, represented, charged⟩ := creates.accepted
    refine ⟨tenantId, submitter, maxRetries, ?_, charged.of_quiet opening closing⟩
    rw [closing.slice]
    exact represented

theorem Effect.of_quiet {item : JobId × Cause}
    (opening : Quiet first before) (effect : Effect item before after) : Effect item first after := by
  cases effect with
  | moves moves => exact .moves (moves.of_quiet opening (.refl after))
  | creates creates => exact .creates (creates.of_quiet opening (.refl after))

variable {effects : List (JobId × Cause)}

theorem Progress.of_quiet (opening : Quiet first before) (progress : Progress effects before after) :
    Progress effects first after := by
  cases progress with
  | quiet quiet => exact .quiet (opening.trans quiet)
  | cons effect different rest => exact .cons (effect.of_quiet opening) different rest

theorem Progress.to_quiet (progress : Progress effects before after) (closing : Quiet after last) :
    Progress effects before last := by
  induction progress with
  | quiet quiet => exact .quiet (quiet.trans closing)
  | cons effect different _ ih => exact .cons effect different (ih closing)

theorem Effect.progress {item : JobId × Cause} (effect : Effect item before after) : Progress [item] before after :=
  .cons effect (by simp) (.quiet (.refl after))

theorem Moves.mem {other : JobId}
    (moves : Moves cause jobId before after) {table : Table} {row : Row table} (member : row ∈ before table)
    (owned : ownerOf table row = some other) (different : other ≠ jobId) : row ∈ after table := by
  have inside : row ∈ before.others jobId table := mem_part.2 ⟨member, by simp [owned, different]⟩
  rw [← moves.others] at inside
  exact (mem_part.1 inside).1

theorem Moves.progress (moves : Moves cause jobId before after) : Progresses cause before after :=
  ⟨[(jobId, cause)], by simp, Effect.progress (.moves moves)⟩

theorem Progresses.quiet (quiet : Quiet before after) : Progresses cause before after :=
  ⟨[], by simp, .quiet quiet⟩

theorem Progresses.to_quiet (progress : Progresses cause before after) (closing : Quiet after last) :
    Progresses cause before last := by
  obtain ⟨effects, causes, steps⟩ := progress
  exact ⟨effects, causes, steps.to_quiet closing⟩

theorem Progresses.of_quiet (opening : Quiet first before) (progress : Progresses cause before after) :
    Progresses cause first after := by
  obtain ⟨effects, causes, steps⟩ := progress
  exact ⟨effects, causes, steps.of_quiet opening⟩

theorem ticketsOf_eq_nil (plain : ∀ effect ∈ effects, effect.2 = .operation) : ticketsOf effects = [] := by
  rw [ticketsOf, filterMap_eq_nil_iff]
  intro effect member
  rw [plain effect member]

theorem Progresses.proceeds (progress : Progresses .operation before after) : Proceeds before after := by
  obtain ⟨effects, causes, steps⟩ := progress
  have none := ticketsOf_eq_nil causes
  refine ⟨effects, ⟨?_, by simp [none], by simp [none]⟩, steps⟩
  intro effect member
  simp [causes effect member]

theorem Quiet.version_le (quiet : Quiet before after) (scope : Scope) :
    versionOf before scope ≤ versionOf after scope :=
  (quiet.charged scope).2.2

theorem Issues.mono (issues : Issues effects before after)
    (opening : versionOf first .global ≤ versionOf before .global)
    (closing : versionOf after .global ≤ versionOf last .global) : Issues effects first last := by
  refine ⟨issues.kept, issues.increasing, ?_⟩
  intro ticket issued
  obtain ⟨low, high⟩ := issues.bounds ticket issued
  exact ⟨opening.trans low, high.trans_le closing⟩

theorem Proceeds.of_quiet (opening : Quiet first before)
    (proceeds : Proceeds before after) (closing : Quiet after last) : Proceeds first last := by
  obtain ⟨effects, issues, steps⟩ := proceeds
  exact ⟨effects, issues.mono (opening.version_le _) (closing.version_le _),
    (steps.of_quiet opening).to_quiet closing⟩

theorem Effect.enqueue {ticket : Nat} (effect : Effect (jobId, .enqueue ticket) before after)
    (low : versionOf before .global ≤ ticket) (high : ticket < versionOf after .global) :
    Proceeds before after := by
  refine ⟨[(jobId, .enqueue ticket)], ⟨by simp, by simp [ticketsOf], ?_⟩, effect.progress⟩
  simpa [ticketsOf] using ⟨low, high⟩

end Nexa
