import Mathlib.Data.Prod.Lex
import Nexa.Coordinator.Snapshot
import Nexa.Shared.Numerals
import Nexa.Shared.Paging

namespace Nexa

open Paging

structure QueuedJob where
  jobId : JobId
  submitterUserId : UserId
  readySequence : Nat
  basePriority : Fin 3
  eligibleSince : Option Time
  cpuMillis : Nat
  memoryBytes : Nat
  /-- The retry is due, the template runs on the inventory and no GPU is asked for. -/
  runnable : Bool
deriving DecidableEq

structure QuotaCell where
  minCpu : Int
  maxCpu : Int
  minMemory : Int
  maxMemory : Int
  resumeAt : Option Time

def QuotaCell.holds (cell : QuotaCell) (job : QueuedJob) : Bool :=
  cell.minCpu < job.cpuMillis ∧ job.cpuMillis ≤ cell.maxCpu ∧
    cell.minMemory < job.memoryBytes ∧ job.memoryBytes ≤ cell.maxMemory

structure TenantQueue where
  jobs : List QueuedJob
  cells : List QuotaCell
  tenantResume : Option Time
  userResume : UserId -> Option Time
  admits : UserId -> Bool
  /-- Enabled, without a pending replay, below its limit of active attempts. -/
  enabled : Bool
  distinct : (jobs.map (·.jobId)).Nodup
  disjoint : cells.Pairwise fun one other => ∀ job, one.holds job = true -> other.holds job = false

structure QueueRow where
  job : QueuedJob
  eligibleSince : Time
  effectiveEligibleSince : Time
deriving DecidableEq

structure StreamRow extends QueueRow where
  effectivePriority : Nat
deriving DecidableEq

structure Cursor where
  priority : Nat
  readySequence : Nat
  jobId : JobId
deriving DecidableEq

def QueueRow.readyRank (row : QueueRow) : Nat ×ₗ Nat := toLex (row.job.readySequence, row.job.jobId)

def QueueRow.ageRank (row : QueueRow) : Nat ×ₗ Nat ×ₗ Nat := toLex (row.effectiveEligibleSince, row.readyRank)

def StreamRow.rank (row : StreamRow) : Natᵒᵈ ×ₗ Nat ×ₗ Nat :=
  toLex (OrderDual.toDual row.effectivePriority, row.readyRank)

def windowLimit : Nat := 16

def later : Option Time -> Option Time -> Option Time
  | some left, some right => some (max left right)
  | some left, none => some left
  | none, right => right

def agedBy (now : Time) (seconds : Nat) (since : Time) : Bool := seconds * 1000000 ≤ now - since

namespace TenantQueue

variable (queue : TenantQueue)

def submitters : List UserId := (queue.jobs.map (·.submitterUserId)).dedup

def eligibleUsers : List UserId := queue.submitters.filter queue.admits

def headPriorities : List Nat := queue.jobs.map fun job => job.basePriority

def quotaResume : Option Time := match queue.cells with
  | [cell] => cell.resumeAt
  | _ => none

def resumeOfTenant : Option Time := later queue.tenantResume queue.quotaResume

def noResume : Bool := queue.resumeOfTenant = none ∧ ∀ user ∈ queue.submitters, queue.userResume user = none

def resumeAt : Option Time := match queue.submitters with
  | [user] => later queue.resumeOfTenant (queue.userResume user)
  | _ => none

/-- `query`, with the age cut off at the resume time. -/
def rows (cell : QuotaCell) (users : List UserId) (resumeAt : Option Time) : List QueueRow :=
  queue.jobs.filterMap fun job =>
    job.eligibleSince.bind fun since =>
      if job.runnable ∧ cell.holds job ∧ job.submitterUserId ∈ users then
        some ⟨job, since, resumeAt.elim since (max since)⟩
      else none

/-- A queued job of these users and priority whose age is as asked. -/
def ageExists (users : List UserId) (priority : Nat) (wanted : Time -> Bool) : Bool :=
  queue.jobs.any fun job =>
    job.submitterUserId ∈ users ∧ job.basePriority = priority ∧ job.eligibleSince.any wanted

end TenantQueue

/-- An effective priority, from the highest down, and a base priority not above it. -/
def streamPriorities : List (Nat × Nat) :=
  [2, 1, 0].flatMap fun effective => (List.range (effective + 1)).reverse.map fun base => (effective, base)

def QueueRow.tagged (effective : Nat) (row : QueueRow) : StreamRow := { row with effectivePriority := effective }

def mergedStreams (streams : List (List StreamRow)) : List StreamRow :=
  first StreamRow.rank windowLimit (streams.flatMap (first (fun row => row.readyRank) windowLimit))

/-- The condition of `_window_rows`, or nothing when the stream is left out. -/
def windowCondition (now : Time) (resumeAt : Option Time) (effective base : Nat) : Option (QueueRow -> Bool) :=
  let age (row : QueueRow) : Time := if resumeAt.isSome then row.eligibleSince else row.effectiveEligibleSince
  let resumedAfter (seconds : Nat) : Bool := resumeAt.any fun time => !agedBy now seconds time
  match effective, base with
  | 2, 2 => some fun _ => true
  | 2, 1 => if resumedAfter 60 then none else some fun row => agedBy now 60 (age row)
  | 2, 0 => if resumedAfter 120 then none else some fun row => agedBy now 120 (age row)
  | 1, 1 => some fun row => resumedAfter 60 || !agedBy now 60 (age row)
  | 1, 0 =>
    if resumedAfter 60 then none
    else some fun row => agedBy now 60 (age row) && (resumedAfter 120 || !agedBy now 120 (age row))
  | 0, 0 => some fun row => resumedAfter 60 || !agedBy now 60 (age row)
  | _, _ => none

/-- The cursor's own priority begins behind it, a higher one is left out. -/
def Cursor.admits (cursor : Cursor) (effective : Nat) (row : QueueRow) : Bool :=
  effective < cursor.priority ∨
    (effective = cursor.priority ∧ toLex (cursor.readySequence, cursor.jobId) < row.readyRank)

def windowStreams (rows : List QueueRow) (now : Time) (resumeAt : Option Time) (priorities : List Nat)
    (cursor : Option Cursor) : List (List StreamRow) :=
  streamPriorities.filterMap fun (effective, base) =>
    if base ∈ priorities then
      (windowCondition now resumeAt effective base).map fun wanted =>
        (rows.filter fun row => row.job.basePriority = base ∧ wanted row ∧
          cursor.all fun cursor => cursor.admits effective row).map (·.tagged effective)
    else none

/-- Ages up to the resume time are equal, so these rows are ordered by readiness. -/
def oldestRow (queue : TenantQueue) (users : List UserId) (rows : List QueueRow) (resumeAt : Option Time) :
    Option QueueRow :=
  match resumeAt with
  | none => (ordered QueueRow.ageRank rows).head?
  | some resumed =>
    let clipped := [0, 1, 2].filterMap fun priority =>
      (ordered QueueRow.readyRank (rows.filter fun row => row.job.basePriority = priority ∧
        row.eligibleSince ≤ resumed ∧ queue.ageExists users priority (· ≤ resumed))).head?
    let aged := (ordered QueueRow.ageRank (rows.filter fun row => resumed < row.eligibleSince)).head?
    (ordered QueueRow.ageRank (clipped ++ aged.toList)).head?

def windowRows (queue : TenantQueue) (users : List UserId) (rows : List QueueRow) (now : Time)
    (cursor : Option Cursor) (resumeAt : Option Time) : List StreamRow × Option QueueRow :=
  let fetch (cursor : Option Cursor) := mergedStreams (windowStreams rows now resumeAt queue.headPriorities cursor)
  (if fetch cursor = [] then fetch none else fetch cursor, oldestRow queue users rows resumeAt)

/-- The condition of `_batched_window_rows`, with the probe that ends it early. -/
def batchCondition (now : Time) (resumeAt : Option Time) (ageExists : Nat -> (Time -> Bool) -> Bool)
    (effective priority : Nat) (row : QueueRow) : Bool :=
  let resumedAfter (seconds : Nat) : Bool := resumeAt.any fun time => !agedBy now seconds time
  let hasAge (seconds : Nat) : Bool := ageExists priority fun since => !agedBy now seconds since
  match effective, priority with
  | 2, 2 => true
  | 2, 1 => agedBy now 60 row.eligibleSince && !resumedAfter 60
  | 2, 0 => agedBy now 120 row.eligibleSince && !resumedAfter 120
  | 1, 1 => (resumedAfter 60 || !agedBy now 60 row.eligibleSince) && (resumedAfter 60 || hasAge 60)
  | 1, 0 =>
    agedBy now 60 row.eligibleSince && !resumedAfter 60 &&
      (resumedAfter 120 || !agedBy now 120 row.eligibleSince) && (resumedAfter 120 || hasAge 120)
  | 0, 0 => (resumedAfter 60 || !agedBy now 60 row.eligibleSince) && (resumedAfter 60 || hasAge 60)
  | _, _ => false

def batchedRows (queue : TenantQueue) (cell : QuotaCell) (users : List UserId) (resumeAt : Option Time)
    (now : Time) (cursor : Option Cursor) : List StreamRow × Option QueueRow :=
  let rows := queue.rows cell users resumeAt
  let streams := streamPriorities.map fun (effective, base) =>
    (rows.filter fun row => row.job.basePriority = base ∧ (cursor.all fun cursor => cursor.admits effective row) ∧
      batchCondition now resumeAt (queue.ageExists users) effective base row).map (·.tagged effective)
  (mergedStreams streams, oldestRow queue users rows resumeAt)

structure Group where
  user : UserId
  cell : QuotaCell
  resumeAt : Option Time

/-- Read by submitter and cell, so that each group has one resume time. -/
def TenantQueue.groups (queue : TenantQueue) : List Group :=
  queue.eligibleUsers.flatMap fun user => queue.cells.map fun cell =>
    let quotaResume := if queue.cells.length = 1 then none else cell.resumeAt
    ⟨user, cell, later (later queue.resumeOfTenant (queue.userResume user)) quotaResume⟩

def groupedRows (queue : TenantQueue) (now : Time) (cursor : Option Cursor) : List StreamRow × Option QueueRow :=
  let merged (cursor : Option Cursor) : List StreamRow :=
    first StreamRow.rank windowLimit (queue.groups.flatMap fun group =>
      (batchedRows queue group.cell [group.user] group.resumeAt now cursor).1)
  let oldest := queue.groups.filterMap fun group =>
    (batchedRows queue group.cell [group.user] group.resumeAt now cursor).2
  (if merged cursor = [] then merged none else merged cursor, (ordered QueueRow.ageRank oldest).head?)

/-- One statement for all tenants without a cursor, a query of its own with one. -/
def TenantQueue.readRows (queue : TenantQueue) (now : Time) (cursor : Option Cursor) :
    List StreamRow × Option QueueRow :=
  if queue.enabled then
    match queue.cells with
    | [] => ([], none)
    | [cell] =>
      if queue.noResume ∨ queue.submitters.length < 2 then
        match cursor with
        | none => batchedRows queue cell queue.eligibleUsers queue.resumeAt now none
        | some cursor =>
          windowRows queue queue.eligibleUsers (queue.rows cell queue.eligibleUsers queue.resumeAt) now
            (some cursor) queue.resumeAt
      else groupedRows queue now cursor
    | _ => groupedRows queue now cursor
  else ([], none)

def cursorOf (now : Time) (row : QueueRow) : Cursor where
  priority := min 2 (row.job.basePriority + (epochMs now - epochMs row.effectiveEligibleSince) / 60000)
  readySequence := row.job.readySequence
  jobId := row.job.jobId

def Cursor.text (cursor : Cursor) : String :=
  toString cursor.priority ++ ":" ++ toString cursor.readySequence ++ ":" ++ toString cursor.jobId

def Cursor.ofText (text : String) : Option Cursor := do
  let (priority, rest) := cut text.toList
  let (sequence, job) := cut rest
  let priority <- Numerals.value? priority
  let readySequence <- Numerals.value? sequence
  let jobId <- Numerals.value? job
  pure { priority, readySequence, jobId }
where
  cut (text : List Char) : List Char × List Char := (text.takeWhile (· ≠ ':'), (text.dropWhile (· ≠ ':')).tail)

structure QueueWindow where
  normal : List StreamRow
  oldest : Option QueueRow
  continuationCursor : Option String
deriving DecidableEq

def TenantQueue.readWindow (queue : TenantQueue) (now : Time) (cursor : Option Cursor) : QueueWindow :=
  let found := queue.readRows now cursor
  { normal := found.1, oldest := found.2
    continuationCursor := found.1.getLast?.map fun last => (cursorOf now last.toQueueRow).text }

/-- A tick without a decision goes on where its windows ended. -/
def advanceCursors (cursors : TenantId -> Option Cursor) : SchedulingDecision -> TenantId -> Option Cursor
  | .noDecision _ continuation =>
    continuation.foldl (fun cursors (tenant, text) =>
      match Cursor.ofText text with
      | some cursor => Function.update cursors tenant (some cursor)
      | none => cursors) cursors
  | _ => cursors

end Nexa
