import Mathlib.Data.List.Dedup
import Nexa.Coordinator.Window
import Nexa.Scheduler.Selection

namespace Nexa

open Paging List Function QueueRow

def QueueRow.effective (now : Time) (row : QueueRow) : Nat :=
  min 2 (row.job.basePriority + (now - row.effectiveEligibleSince) / 60000000)

def QueueRow.placed (now : Time) (row : QueueRow) : StreamRow := row.tagged (row.effective now)

@[simp]
theorem QueueRow.placed_effectivePriority (now : Time) (row : QueueRow) :
    (row.placed now).effectivePriority = row.effective now :=
  rfl

@[simp]
theorem QueueRow.placed_toQueueRow (now : Time) (row : QueueRow) : (row.placed now).toQueueRow = row := rfl

def QueueRow.Clipped (resumeAt : Option Time) (row : QueueRow) : Prop :=
  row.effectiveEligibleSince = resumeAt.elim row.eligibleSince (max row.eligibleSince)

def Cursor.rank (cursor : Cursor) : Natᵒᵈ ×ₗ Nat ×ₗ Nat :=
  toLex (OrderDual.toDual cursor.priority, toLex (cursor.readySequence, cursor.jobId))

section

variable {now : Time} {resumeAt : Option Time} {row : QueueRow}

theorem streamPriorities_eq : streamPriorities = [(2, 2), (2, 1), (2, 0), (1, 1), (1, 0), (0, 0)] := rfl

theorem QueueRow.mem_streamPriorities (now : Time) (row : QueueRow) :
    (row.effective now, (row.job.basePriority : Nat)) ∈ streamPriorities := by
  have below : (row.job.basePriority : Nat) < 3 := row.job.basePriority.isLt
  rw [streamPriorities_eq, effective]
  simp only [mem_cons, Prod.mk.injEq, not_mem_nil, or_false]
  omega

theorem agedBy_iff {now : Time} {seconds since : Nat} :
    agedBy now seconds since = true <-> seconds * 1000000 ≤ now - since := by
  simp [agedBy]

theorem agedBy_max (now : Time) (seconds left right : Nat) :
    agedBy now seconds (max left right) = (agedBy now seconds left && agedBy now seconds right) := by
  rw [Bool.eq_iff_iff, Bool.and_eq_true, agedBy_iff, agedBy_iff, agedBy_iff]
  omega

theorem QueueRow.effective_eq (now : Time) (row : QueueRow) :
    row.effective now = match (row.job.basePriority : Nat) with
      | 0 => if agedBy now 120 row.effectiveEligibleSince then 2
          else if agedBy now 60 row.effectiveEligibleSince then 1 else 0
      | 1 => if agedBy now 60 row.effectiveEligibleSince then 2 else 1
      | _ => 2 := by
  have below : (row.job.basePriority : Nat) < 3 := row.job.basePriority.isLt
  rw [effective]
  generalize (row.job.basePriority : Nat) = base at *
  obtain rfl | rfl | rfl : base = 0 ∨ base = 1 ∨ base = 2 := by omega
  all_goals simp only [agedBy_iff]
  · split_ifs <;> omega
  · split_ifs <;> omega
  · omega

theorem agedBy_later {now since : Time} (aged : agedBy now 120 since = true) : agedBy now 60 since = true := by
  rw [agedBy_iff] at *
  omega

theorem windowCondition_iff (clipped : row.Clipped resumeAt) {effective : Nat}
    (stream : (effective, (row.job.basePriority : Nat)) ∈ streamPriorities) :
    (windowCondition now resumeAt effective row.job.basePriority).any (fun wanted => wanted row) = true <->
      row.effective now = effective := by
  rw [effective_eq]
  unfold Clipped at clipped
  simp only [streamPriorities_eq, mem_cons, Prod.mk.injEq, not_mem_nil, or_false] at stream
  have older := @agedBy_later now
  obtain ⟨rfl, base⟩ | ⟨rfl, base⟩ | ⟨rfl, base⟩ | ⟨rfl, base⟩ | ⟨rfl, base⟩ | ⟨rfl, base⟩ := stream
  all_goals cases resumeAt <;> simp [base, windowCondition, clipped, agedBy_max] <;> grind

theorem batchCondition_iff (clipped : row.Clipped resumeAt) {effective : Nat}
    {ageExists : Nat -> (Time -> Bool) -> Bool}
    (shown : ∀ wanted, wanted row.eligibleSince = true -> ageExists row.job.basePriority wanted = true)
    (stream : (effective, (row.job.basePriority : Nat)) ∈ streamPriorities) :
    batchCondition now resumeAt ageExists effective row.job.basePriority row = true <->
      row.effective now = effective := by
  rw [effective_eq]
  unfold Clipped at clipped
  simp only [streamPriorities_eq, mem_cons, Prod.mk.injEq, not_mem_nil, or_false] at stream
  have older := @agedBy_later now
  have shown60 := shown fun since => !agedBy now 60 since
  have shown120 := shown fun since => !agedBy now 120 since
  clear shown
  obtain ⟨rfl, base⟩ | ⟨rfl, base⟩ | ⟨rfl, base⟩ | ⟨rfl, base⟩ | ⟨rfl, base⟩ | ⟨rfl, base⟩ := stream
  all_goals cases resumeAt <;> simp [base, batchCondition, clipped, agedBy_max] at * <;> grind

end

section

variable {now : Time} {resumeAt : Option Time} {rows : List QueueRow} {cursor : Option Cursor}

def behind (cursor : Option Cursor) (items : List StreamRow) : List StreamRow :=
  after StreamRow.rank (cursor.map Cursor.rank) items

def StreamRow.priorities (row : StreamRow) : Nat × Nat := (row.effectivePriority, row.job.basePriority)

theorem ranked_of_distinct {items : List StreamRow} (distinct : (items.map (·.job.jobId)).Nodup) :
    Ranked StreamRow.rank items := by
  refine List.Nodup.of_map (fun place => (ofLex (ofLex place).2).2) ?_
  rwa [map_map]

theorem Cursor.admits_iff (cursor : Cursor) (row : StreamRow) :
    cursor.admits row.effectivePriority row.toQueueRow = true <-> cursor.rank < row.rank := by
  rw [Cursor.rank, StreamRow.rank, Prod.Lex.toLex_lt_toLex]
  simp only [Cursor.admits, decide_eq_true_eq, OrderDual.toDual_lt_toDual, OrderDual.toDual_inj]
  rw [eq_comm (a := row.effectivePriority)]

theorem stream_eq {effective base : Nat} {wanted : QueueRow -> Bool}
    (kept : ∀ row ∈ rows, wanted row = true <-> (row.job.basePriority : Nat) = base ∧
      row.effective now = effective ∧ (cursor.all fun cursor => cursor.admits effective row) = true) :
    (rows.filter wanted).map (·.tagged effective) =
      (behind cursor (rows.map (·.placed now))).filter fun row => row.priorities = (effective, base) := by
  rw [behind, Paging.after, filter_filter, filter_map]
  have same : rows.filter wanted = rows.filter ((fun row : StreamRow =>
      decide (row.priorities = (effective, base)) && (cursor.map Cursor.rank).all fun place => place < row.rank) ∘
        (·.placed now)) := by
    refine filter_congr fun row member => Bool.eq_iff_iff.mpr ((kept row member).trans ?_)
    have key : (row.placed now).priorities = (effective, base) <->
        (row.job.basePriority : Nat) = base ∧ row.effective now = effective := by
      rw [StreamRow.priorities, Prod.mk.injEq, and_comm]
      rfl
    rw [comp_apply, Bool.and_eq_true, decide_eq_true_eq, key, and_assoc]
    refine and_congr_right fun _ => and_congr_right ?_
    rintro rfl
    cases cursor with
    | none => simp
    | some cursor => simpa using cursor.admits_iff (row.placed now)
  rw [same]
  refine map_congr_left fun row member => ?_
  have inside := (mem_filter.mp member).2
  simp only [comp_apply, Bool.and_eq_true, decide_eq_true_eq, StreamRow.priorities, Prod.mk.injEq] at inside
  rw [placed, ← inside.1.1]
  rfl

theorem mergedStreams_eq {streams : List (List StreamRow)} {items : List StreamRow}
    (ranked : Ranked StreamRow.rank items) (split : streams.flatten.Perm items)
    (uniform : ∀ stream ∈ streams, ∃ effective, ∀ row ∈ stream, row.effectivePriority = effective) :
    mergedStreams streams = first StreamRow.rank windowLimit items := by
  have flat := ranked.perm split.symm
  have streamed : streams.flatMap (first (fun row => row.readyRank) windowLimit) =
      streams.flatMap (first StreamRow.rank windowLimit) := by
    refine flatMap_congr fun stream member => ?_
    obtain ⟨effective, same⟩ := uniform stream member
    have inside := flat.sublist (sublist_flatten_of_mem member)
    rw [first, first]
    refine congrArg (List.take windowLimit) (ordered_agree inside fun a left b right le => ?_).symm
    rw [StreamRow.rank, StreamRow.rank, same a left, same b right]
    exact Prod.Lex.toLex_mono ⟨le_rfl, le⟩
  rw [mergedStreams, streamed, first_streams flat, first_congr flat split]

theorem merged_page {stream : Nat × Nat -> Option (List StreamRow)} (distinct : (rows.map (·.job.jobId)).Nodup)
    (kept : ∀ priorities ∈ streamPriorities, (stream priorities).getD [] =
      (behind cursor (rows.map (·.placed now))).filter fun row => row.priorities = priorities) :
    mergedStreams (streamPriorities.filterMap stream) =
      page StreamRow.rank windowLimit (rows.map (·.placed now)) (cursor.map Cursor.rank) := by
  have ranked : Ranked StreamRow.rank (behind cursor (rows.map (·.placed now))) := by
    refine (ranked_of_distinct ?_).sublist filter_sublist
    rwa [map_map]
  rw [page]
  refine mergedStreams_eq ranked ?_ fun found member => ?_
  · have flat : (streamPriorities.filterMap stream).flatten =
        streamPriorities.flatMap fun priorities => (stream priorities).getD [] := by
      generalize streamPriorities = all
      induction all with
      | nil => rfl
      | cons first rest ih =>
        rw [filterMap_cons, flatMap_cons, ← ih]
        cases stream first <;> rfl
    rw [flat, flatMap_congr kept]
    refine partition_perm StreamRow.priorities (by decide) fun row member => ?_
    obtain ⟨origin, -, rfl⟩ := mem_map.mp (mem_of_mem_filter member)
    exact origin.mem_streamPriorities now
  · obtain ⟨priorities, inside, same⟩ := mem_filterMap.mp member
    refine ⟨priorities.1, fun row rowMember => ?_⟩
    have content := kept priorities inside
    rw [same, Option.getD_some] at content
    rw [content] at rowMember
    have found := of_decide_eq_true (mem_filter.mp rowMember).2
    exact congrArg Prod.fst found

theorem window_page {priorities : List Nat} (distinct : (rows.map (·.job.jobId)).Nodup)
    (clipped : ∀ row ∈ rows, row.Clipped resumeAt)
    (headed : ∀ row ∈ rows, (row.job.basePriority : Nat) ∈ priorities) :
    mergedStreams (windowStreams rows now resumeAt priorities cursor) =
      page StreamRow.rank windowLimit (rows.map (·.placed now)) (cursor.map Cursor.rank) := by
  refine merged_page distinct fun ⟨effective, base⟩ stream => ?_
  -- A stream that is left out is one without rows.
  let wanted : QueueRow -> Bool := fun row => base ∈ priorities ∧ row.job.basePriority = base ∧
    (windowCondition now resumeAt effective base).any (fun condition => condition row) ∧
    cursor.all fun cursor => cursor.admits effective row
  have shape : ((if base ∈ priorities then
      (windowCondition now resumeAt effective base).map fun wanted =>
        (rows.filter fun row => row.job.basePriority = base ∧ wanted row ∧
          cursor.all fun cursor => cursor.admits effective row).map (·.tagged effective)
      else none).getD []) = (rows.filter wanted).map (·.tagged effective) := by
    by_cases headed : base ∈ priorities
    · cases condition : windowCondition now resumeAt effective base <;> simp [wanted, headed, condition]
    · simp [wanted, headed]
  rw [shape]
  refine stream_eq fun row member => ?_
  simp only [wanted, decide_eq_true_eq]
  constructor
  · rintro ⟨-, rfl, condition, behind⟩
    exact ⟨rfl, (windowCondition_iff (clipped row member) stream).mp condition, behind⟩
  · rintro ⟨rfl, same, behind⟩
    exact ⟨headed row member, rfl, (windowCondition_iff (clipped row member) stream).mpr same, behind⟩

theorem batch_page {ageExists : Nat -> (Time -> Bool) -> Bool} (distinct : (rows.map (·.job.jobId)).Nodup)
    (clipped : ∀ row ∈ rows, row.Clipped resumeAt)
    (shown : ∀ row ∈ rows, ∀ wanted, wanted row.eligibleSince = true ->
      ageExists row.job.basePriority wanted = true) :
    mergedStreams (streamPriorities.map fun (effective, base) =>
      (rows.filter fun row => row.job.basePriority = base ∧ (cursor.all fun cursor => cursor.admits effective row) ∧
        batchCondition now resumeAt ageExists effective base row).map (·.tagged effective)) =
      page StreamRow.rank windowLimit (rows.map (·.placed now)) (cursor.map Cursor.rank) := by
  rw [← filterMap_eq_map]
  refine merged_page distinct fun ⟨effective, base⟩ stream => ?_
  rw [comp_apply, Option.getD_some]
  refine stream_eq fun row member => ?_
  simp only [decide_eq_true_eq]
  constructor
  · rintro ⟨rfl, behind, condition⟩
    exact ⟨rfl, (batchCondition_iff (clipped row member) (shown row member) stream).mp condition, behind⟩
  · rintro ⟨rfl, same, behind⟩
    exact ⟨rfl, behind, (batchCondition_iff (clipped row member) (shown row member) stream).mpr same⟩

end

namespace TenantQueue

variable {queue : TenantQueue} {cell : QuotaCell} {users : List UserId} {resumeAt : Option Time} {row : QueueRow}

theorem mem_rows : row ∈ queue.rows cell users resumeAt <->
    row.job ∈ queue.jobs ∧ row.job.eligibleSince = some row.eligibleSince ∧ row.Clipped resumeAt ∧
      row.job.runnable = true ∧ cell.holds row.job = true ∧ row.job.submitterUserId ∈ users := by
  simp only [rows, mem_filterMap, Option.bind_eq_some_iff, Clipped]
  constructor
  · rintro ⟨job, member, since, eligible, found⟩
    split_ifs at found with kept
    obtain rfl := Option.some.inj found
    exact ⟨member, eligible, rfl, kept⟩
  · rintro ⟨member, eligible, clipped, kept⟩
    refine ⟨row.job, member, row.eligibleSince, eligible, ?_⟩
    rw [if_pos kept, ← clipped]

def finds (cell : QuotaCell) (users : List UserId) (job : QueuedJob) : Bool :=
  job.eligibleSince.isSome ∧ job.runnable ∧ cell.holds job ∧ job.submitterUserId ∈ users

theorem map_job_rows (queue : TenantQueue) (cell : QuotaCell) (users : List UserId) (resumeAt : Option Time) :
    (queue.rows cell users resumeAt).map (·.job) = queue.jobs.filter (finds cell users) := by
  rw [rows, map_filterMap, ← filterMap_eq_filter]
  refine filterMap_congr fun job _ => ?_
  cases eligible : job.eligibleSince with
  | none => simp [finds, eligible, Option.guard]
  | some since =>
    by_cases kept : job.runnable ∧ cell.holds job ∧ job.submitterUserId ∈ users
    · simp [finds, eligible, kept, Option.guard]
    · have lost : finds cell users job = false := by simpa [finds, eligible] using kept
      simp [kept, lost, Option.guard]

def groupRows (queue : TenantQueue) : List QueueRow :=
  queue.groups.flatMap fun group => queue.rows group.cell [group.user] group.resumeAt

def simple (queue : TenantQueue) : Bool := queue.noResume ∨ queue.submitters.length < 2

def eligibleRows (queue : TenantQueue) : List QueueRow :=
  if queue.enabled then
    match queue.cells with
    | [] => []
    | [cell] => if queue.simple then queue.rows cell queue.eligibleUsers queue.resumeAt else queue.groupRows
    | _ => queue.groupRows
  else []

def eligibleJobs (queue : TenantQueue) : List QueuedJob :=
  queue.jobs.filter fun job => queue.enabled ∧ ∃ cell ∈ queue.cells, finds cell queue.eligibleUsers job

theorem nodup_jobs (queue : TenantQueue) : queue.jobs.Nodup := queue.distinct.of_map

theorem mem_groups {group : Group} (member : group ∈ queue.groups) :
    group.user ∈ queue.eligibleUsers ∧ group.cell ∈ queue.cells := by
  simp only [groups, mem_flatMap, mem_map] at member
  obtain ⟨user, userMember, cell, cellMember, rfl⟩ := member
  exact ⟨userMember, cellMember⟩

theorem groupRows_perm (queue : TenantQueue) :
    (queue.groupRows.map (·.job)).Perm
      (queue.jobs.filter fun job => ∃ cell ∈ queue.cells, finds cell queue.eligibleUsers job) := by
  have shape : queue.groupRows.map (·.job) =
      queue.groups.flatMap fun group => queue.jobs.filter (finds group.cell [group.user]) := by
    rw [groupRows, map_flatMap]
    exact flatMap_congr fun group _ => queue.map_job_rows _ _ _
  rw [shape, perm_ext_iff_of_nodup]
  · intro job
    simp only [mem_flatMap, mem_filter, decide_eq_true_eq]
    constructor
    · rintro ⟨group, member, inside, found⟩
      obtain ⟨user, cell⟩ := mem_groups member
      refine ⟨inside, group.cell, cell, ?_⟩
      simp only [finds, decide_eq_true_eq, mem_singleton] at found ⊢
      obtain ⟨since, runnable, holds, same⟩ := found
      exact ⟨since, runnable, holds, same ▸ user⟩
    · rintro ⟨inside, cell, member, found⟩
      simp only [finds, decide_eq_true_eq] at found
      obtain ⟨since, runnable, holds, user⟩ := found
      refine ⟨_, mem_flatMap.mpr ⟨_, user, mem_map.mpr ⟨cell, member, rfl⟩⟩, inside, ?_⟩
      simp [finds, since, runnable, holds]
  · rw [nodup_flatMap]
    refine ⟨fun group _ => queue.nodup_jobs.filter _, ?_⟩
    -- A job has one submitter and is in one cell.
    rw [groups, pairwise_flatMap]
    constructor
    · intro user _
      rw [pairwise_map]
      refine queue.disjoint.imp fun apart => disjoint_left.mpr fun job left right => ?_
      simp only [mem_filter, finds, decide_eq_true_eq] at left right
      simp [apart job left.2.2.2.1] at right
    · have users : queue.eligibleUsers.Pairwise (· ≠ ·) := (nodup_dedup _).filter _
      refine users.imp fun apart left leftMember right rightMember => ?_
      obtain ⟨_, -, rfl⟩ := mem_map.mp leftMember
      obtain ⟨_, -, rfl⟩ := mem_map.mp rightMember
      refine disjoint_left.mpr fun job first second => apart ?_
      simp only [mem_filter, finds, decide_eq_true_eq, mem_singleton] at first second
      exact first.2.2.2.2.symm.trans second.2.2.2.2
  · exact queue.nodup_jobs.filter _

theorem eligibleRows_perm (queue : TenantQueue) : (queue.eligibleRows.map (·.job)).Perm queue.eligibleJobs := by
  rw [eligibleRows, eligibleJobs]
  cases enabled : queue.enabled with
  | false => simp
  | true =>
    have grouped := queue.groupRows_perm
    simp only [if_true, true_and]
    split
    case h_1 empty => simp [empty]
    case h_2 cell single =>
      split_ifs
      · rw [map_job_rows, single]
        simp
      · exact grouped
    case h_3 => exact grouped

theorem nodup_eligibleRows (queue : TenantQueue) : (queue.eligibleRows.map (·.job.jobId)).Nodup := by
  have same : queue.eligibleRows.map (·.job.jobId) = (queue.eligibleRows.map (·.job)).map (·.jobId) := by
    rw [map_map]
    rfl
  rw [same, (queue.eligibleRows_perm.map _).nodup_iff]
  exact queue.distinct.sublist (filter_sublist.map _)

section

variable {now : Time} {cursor : Option Cursor}

theorem nodup_rows (queue : TenantQueue) (cell : QuotaCell) (users : List UserId) (resumeAt : Option Time) :
    ((queue.rows cell users resumeAt).map (·.job.jobId)).Nodup := by
  have same : (queue.rows cell users resumeAt).map (·.job.jobId) =
      ((queue.rows cell users resumeAt).map (·.job)).map (·.jobId) := by
    rw [map_map]
    rfl
  rw [same, map_job_rows]
  exact queue.distinct.sublist (filter_sublist.map _)

theorem batchedRows_eq (queue : TenantQueue) (cell : QuotaCell) (users : List UserId) (resumeAt : Option Time)
    (now : Time) (cursor : Option Cursor) :
    (batchedRows queue cell users resumeAt now cursor).1 =
      page StreamRow.rank windowLimit ((queue.rows cell users resumeAt).map (·.placed now))
        (cursor.map Cursor.rank) := by
  refine batch_page (queue.nodup_rows cell users resumeAt) (fun row member => (mem_rows.mp member).2.2.1) ?_
  intro row member wanted shown
  obtain ⟨inside, eligible, -, -, -, user⟩ := mem_rows.mp member
  refine any_eq_true.mpr ⟨row.job, inside, ?_⟩
  simp [user, eligible, shown]

theorem windowRows_eq (queue : TenantQueue) (cell : QuotaCell) (users : List UserId) (resumeAt : Option Time)
    (now : Time) (cursor : Option Cursor) :
    (windowRows queue users (queue.rows cell users resumeAt) now cursor resumeAt).1 =
      read StreamRow.rank windowLimit ((queue.rows cell users resumeAt).map (·.placed now))
        (cursor.map Cursor.rank) := by
  have fetched : ∀ cursor, mergedStreams (windowStreams (queue.rows cell users resumeAt) now resumeAt
      queue.headPriorities cursor) = page StreamRow.rank windowLimit
        ((queue.rows cell users resumeAt).map (·.placed now)) (cursor.map Cursor.rank) := by
    intro cursor
    refine window_page (queue.nodup_rows cell users resumeAt) (fun row member => (mem_rows.mp member).2.2.1) ?_
    intro row member
    exact mem_map_of_mem (mem_rows.mp member).1
  simp only [windowRows, fetched, Paging.read, Option.map_none]

/-- Both queries find the same rows, but for the wrap. -/
theorem windowRows_batchedRows (queue : TenantQueue) (cell : QuotaCell) (users : List UserId)
    (resumeAt : Option Time) (now : Time) (cursor : Option Cursor) :
    (windowRows queue users (queue.rows cell users resumeAt) now cursor resumeAt).1 =
      let rows := (batchedRows queue cell users resumeAt now cursor).1
      if rows = [] then (batchedRows queue cell users resumeAt now none).1 else rows := by
  simp only [windowRows_eq, batchedRows_eq, Paging.read, Option.map_none]

theorem groupedRows_eq (ranked : Ranked StreamRow.rank (queue.groupRows.map (·.placed now))) :
    (groupedRows queue now cursor).1 =
      read StreamRow.rank windowLimit (queue.groupRows.map (·.placed now)) (cursor.map Cursor.rank) := by
  let streams := queue.groups.map fun group =>
    (queue.rows group.cell [group.user] group.resumeAt).map (·.placed now)
  have flat : queue.groupRows.map (·.placed now) = streams.flatten := by
    rw [groupRows, map_flatMap, flatMap_def]
  have merged : ∀ cursor : Option Cursor, first StreamRow.rank windowLimit (queue.groups.flatMap fun group =>
      (batchedRows queue group.cell [group.user] group.resumeAt now cursor).1) =
        page StreamRow.rank windowLimit (queue.groupRows.map (·.placed now)) (cursor.map Cursor.rank) := by
    intro cursor
    rw [flat] at ranked ⊢
    rw [← page_streams ranked, flatMap_map]
    exact congrArg _ (flatMap_congr fun group _ => queue.batchedRows_eq _ _ _ _ _)
  simp only [groupedRows, merged, Paging.read, Option.map_none]

def queued (queue : TenantQueue) (now : Time) : List StreamRow := queue.eligibleRows.map (·.placed now)

theorem ranked_queued (queue : TenantQueue) (now : Time) : Ranked StreamRow.rank (queue.queued now) := by
  refine ranked_of_distinct ?_
  rw [queued, map_map]
  exact queue.nodup_eligibleRows

theorem readRows_eq (queue : TenantQueue) (now : Time) (cursor : Option Cursor) :
    (queue.readRows now cursor).1 =
      read StreamRow.rank windowLimit (queue.queued now) (cursor.map Cursor.rank) := by
  have ranked := queue.ranked_queued now
  revert ranked
  rw [readRows, queued, eligibleRows]
  cases enabled : queue.enabled with
  | false => simp
  | true =>
    simp only [if_true]
    rcases cells : queue.cells with _ | ⟨cell, _ | ⟨other, rest⟩⟩
    · simp
    · simp only [simple, decide_eq_true_eq]
      split_ifs
      · intro _
        cases cursor with
        | none => rw [batchedRows_eq, Option.map_none, read_none]
        | some cursor => exact queue.windowRows_eq cell _ _ now (some cursor)
      · exact groupedRows_eq
    · exact groupedRows_eq

end

end TenantQueue

theorem Cursor.cut_text (number : Nat) (rest : List Char) :
    Cursor.ofText.cut (Numerals.text number ++ ':' :: rest) = (Numerals.text number, rest) := by
  have other : ∀ character ∈ Numerals.text number, decide (character ≠ ':') = true := by
    intro character member
    have digit := Numerals.isDigit_of_mem_text member
    refine decide_eq_true fun same => ?_
    subst same
    exact absurd digit (by decide)
  rw [ofText.cut, takeWhile_append_of_pos other, dropWhile_append_of_pos other]
  simp

theorem Cursor.ofText_text (cursor : Cursor) : Cursor.ofText cursor.text = some cursor := by
  have letters : cursor.text.toList = Numerals.text cursor.priority ++
      ':' :: (Numerals.text cursor.readySequence ++ ':' :: Numerals.text cursor.jobId) := by
    simp [Cursor.text, Numerals.text]
  simp [ofText, letters, cut_text, Numerals.value?_text]

theorem advanceCursors_cons (cursors : TenantId -> Option Cursor) (reason : String) (tenant : TenantId)
    (text : String) (rest : List (TenantId × String)) :
    advanceCursors cursors (.noDecision reason ((tenant, text) :: rest)) =
      advanceCursors (match Cursor.ofText text with
        | some cursor => update cursors tenant (some cursor)
        | none => cursors) (.noDecision reason rest) :=
  rfl

variable {reason : String} {tenant : TenantId} {continuation : List (TenantId × String)}

theorem advanceCursors_other {cursors : TenantId -> Option Cursor} (absent : ∀ entry ∈ continuation, entry.1 ≠ tenant) :
    advanceCursors cursors (.noDecision reason continuation) tenant = cursors tenant := by
  induction continuation generalizing cursors with
  | nil => rfl
  | cons entry rest ih =>
    rw [advanceCursors_cons, ih fun other member => absent other (mem_cons_of_mem _ member)]
    have apart := (absent entry mem_cons_self).symm
    cases Cursor.ofText entry.2 <;> simp [apart]

theorem advanceCursors_own {cursors : TenantId -> Option Cursor}
    {cursor : Cursor} (distinct : (continuation.map (·.1)).Nodup)
    (member : (tenant, cursor.text) ∈ continuation) :
    advanceCursors cursors (.noDecision reason continuation) tenant = some cursor := by
  induction continuation generalizing cursors with
  | nil => simp at member
  | cons entry rest ih =>
    rw [map_cons, nodup_cons] at distinct
    rcases mem_cons.mp member with rfl | inside
    · rw [advanceCursors_cons, Cursor.ofText_text]
      have absent : ∀ other ∈ rest, other.1 ≠ tenant := by
        intro other later same
        exact distinct.1 (mem_map.mpr ⟨other, later, same⟩)
      rw [advanceCursors_other absent]
      exact update_self ..
    · exact ih distinct.2 inside

variable {windows : List (TenantId × CandidateWindow)}

theorem mem_continuationCursors {entry : TenantId × String} :
    entry ∈ continuationCursors windows <->
      ∃ window, (entry.1, window) ∈ windows ∧ window.continuationCursor = some entry.2 := by
  simp only [continuationCursors, mem_filterMap, mem_insertionSort, Option.map_eq_some_iff]
  constructor
  · rintro ⟨⟨tenant, window⟩, member, text, written, rfl⟩
    exact ⟨window, member, written⟩
  · rintro ⟨window, member, written⟩
    exact ⟨(entry.1, window), member, entry.2, written, rfl⟩

theorem nodup_continuationCursors
    (distinct : (windows.map (·.1)).Nodup) : ((continuationCursors windows).map (·.1)).Nodup := by
  have sorted : (windows.insertionSort fun left right => left.1 ≤ right.1).Pairwise
      fun left right => left.1 ≠ right.1 :=
    pairwise_map.mp (((perm_insertionSort _ windows).map _).nodup_iff.mpr distinct)
  rw [continuationCursors, List.Nodup, pairwise_map, pairwise_filterMap]
  refine sorted.imp fun apart one first other second => ?_
  obtain ⟨_, -, rfl⟩ := Option.map_eq_some_iff.mp first
  obtain ⟨_, -, rfl⟩ := Option.map_eq_some_iff.mp second
  exact apart

theorem advanceCursors_window {cursors : TenantId -> Option Cursor} {window : CandidateWindow}
    {place : Option Cursor} (distinct : (windows.map (·.1)).Nodup) (member : (tenant, window) ∈ windows)
    (written : window.continuationCursor = place.map Cursor.text) :
    advanceCursors cursors (.noDecision reason (continuationCursors windows)) tenant =
      place.or (cursors tenant) := by
  cases place with
  | none =>
    rw [Option.none_or]
    refine advanceCursors_other fun entry inside same => ?_
    obtain ⟨other, found, text⟩ := mem_continuationCursors.mp inside
    have equal : other = window := by
      have := inj_on_of_nodup_map distinct found member same
      exact congrArg Prod.snd this
    rw [equal, written] at text
    simp at text
  | some cursor =>
    rw [Option.some_or]
    exact advanceCursors_own (nodup_continuationCursors distinct)
      (mem_continuationCursors.mpr ⟨window, member, written⟩)

structure QueueWindow.Shown (window : QueueWindow) (candidates : CandidateWindow) : Prop where
  normal : candidates.normal.map (·.jobId) = window.normal.map (·.job.jobId)
  oldest : candidates.oldestEligible.map (·.jobId) = window.oldest.map (·.job.jobId)
  cursor : candidates.continuationCursor = window.continuationCursor

/-- Each tick reads at the cursor of the one before. -/
structure Idles (round : ℚ -> ℚ) (queue : TenantQueue) (tenant : TenantId) (now : Time)
    (cursors : Nat -> TenantId -> Option Cursor) : Prop where
  start : cursors 0 tenant = none
  tick : ∀ reads, ∃ snapshot candidates reason continuation,
    (tenant, candidates) ∈ snapshot.candidatesByTenant ∧
      (queue.readWindow now (cursors reads tenant)).Shown candidates ∧
      decidePolicy round snapshot (epochMs now) = .ok (.noDecision reason continuation) ∧
      cursors (reads + 1) = advanceCursors (cursors reads) (.noDecision reason continuation)

def QueueRow.Aligned (now : Time) (row : QueueRow) : Prop := (cursorOf now row).priority = row.effective now

theorem decideHeap_ne_noDecision {snapshot : SchedulingSnapshot} {nowMs : Nat} {heap : List TenantEntry} :
    decideHeap snapshot nowMs heap ≠ some (.noDecision reason continuation) := by
  induction heap with
  | nil => simp [decideHeap]
  | cons entry rest ih =>
    simp only [decideHeap]
    split
    · simp
    · split
      · simp
      · exact ih

theorem continuation_of_decidePolicy {round : ℚ -> ℚ} {snapshot : SchedulingSnapshot} {nowMs : Nat}
    (decided : decidePolicy round snapshot nowMs = .ok (.noDecision reason continuation)) :
    continuation = continuationCursors snapshot.candidatesByTenant ∧
      (snapshot.candidatesByTenant.map (·.1)).Nodup := by
  obtain ⟨windows, -, chosen⟩ := decidePolicy_eq_ok.mp decided
  refine ⟨?_, windows.tenants_nodup⟩
  rw [SchedulingSnapshot.chosen] at chosen
  cases reserved : snapshot.activeReservation with
  | some reservation =>
    rw [reserved] at chosen
    simp only [decideReservation] at chosen
    repeat' split at chosen
    all_goals cases chosen
  | none =>
    rw [reserved] at chosen
    simp only at chosen
    cases acted : decideHeap snapshot nowMs
        (tenantHeap round snapshot (snapshot.accounted round nowMs) nowMs) with
    | some decision =>
      rw [acted, Option.getD_some] at chosen
      exact absurd (acted.trans (congrArg some chosen)) decideHeap_ne_noDecision
    | none =>
      rw [acted, Option.getD_none] at chosen
      cases chosen
      rfl

theorem Idles.next {round : ℚ -> ℚ} {queue : TenantQueue} {now : Time}
    {cursors : Nat -> TenantId -> Option Cursor} (idles : Idles round queue tenant now cursors) (reads : Nat) :
    cursors (reads + 1) tenant =
      ((queue.readWindow now (cursors reads tenant)).normal.getLast?.map
        fun row => cursorOf now row.toQueueRow).or (cursors reads tenant) := by
  obtain ⟨snapshot, candidates, reason, continuation, member, shown, decided, advanced⟩ := idles.tick reads
  obtain ⟨rfl, distinct⟩ := continuation_of_decidePolicy decided
  rw [advanced]
  refine advanceCursors_window distinct member (shown.cursor.trans ?_)
  rw [Option.map_map]
  rfl

section

variable {round : ℚ -> ℚ} {queue : TenantQueue} {tenant : TenantId} {now : Time}
  {cursors : Nat -> TenantId -> Option Cursor}

/-- The last row of a page when each page begins where the one before ends. -/
def TenantQueue.pageEnd (queue : TenantQueue) (now : Time) (page : Nat) : Option StreamRow :=
  (((ordered StreamRow.rank (queue.queued now)).drop (page * windowLimit)).take windowLimit).getLast?

theorem TenantQueue.mem_of_pageEnd {page : Nat} {row : StreamRow} (ends : row ∈ queue.pageEnd now page) :
    row ∈ queue.queued now :=
  (ordered_perm StreamRow.rank _).mem_iff.mp (mem_of_mem_drop (mem_of_mem_take (mem_of_getLast? ends)))

theorem cursorOf_rank {row : StreamRow} (member : row ∈ queue.queued now) :
    (cursorOf now row.toQueueRow).rank ≤ row.rank ∧
      (row.toQueueRow.Aligned now <-> (cursorOf now row.toQueueRow).rank = row.rank) := by
  obtain ⟨origin, -, rfl⟩ := mem_map.mp member
  have above : origin.effective now ≤ (cursorOf now origin).priority := by
    simp only [effective, cursorOf, epochMs]
    omega
  have alike : Cursor.rank ⟨origin.effective now, origin.job.readySequence, origin.job.jobId⟩ =
      (origin.placed now).rank := rfl
  rw [placed_toQueueRow, ← alike, Aligned]
  constructor
  · refine Prod.Lex.toLex_mono ⟨OrderDual.toDual_le_toDual.mpr above, le_refl _⟩
  · refine ⟨fun same => by rw [← same]; rfl, fun same => ?_⟩
    exact OrderDual.toDual.injective (congrArg (fun place => (ofLex place).1) same)

section

variable {reads : Nat} (idles : Idles round queue tenant now cursors)
  (aligned : ∀ page < reads, ∀ row ∈ queue.pageEnd now page, row.toQueueRow.Aligned now)
  (more : ∀ page < reads, page * windowLimit < (queue.queued now).length)

include idles aligned more

theorem Idles.cursor_eq :
    (cursors reads tenant).map Cursor.rank = cursorAt StreamRow.rank windowLimit (queue.queued now) reads := by
  induction reads with
  | zero => rw [idles.start]; rfl
  | succ reads ih =>
    have early := ih (fun page below => aligned page (by omega)) fun page below => more page (by omega)
    have found : (queue.readWindow now (cursors reads tenant)).normal = _ :=
      (queue.readRows_eq now (cursors reads tenant)).trans
        (early ▸ read_slice (queue.ranked_queued now) (by decide) (more reads (by omega)))
    rw [idles.next, cursorAt, read_slice (queue.ranked_queued now) (by decide) (more reads (by omega)), nextCursor,
      ← early, found]
    cases ends : queue.pageEnd now reads with
    | none => rw [TenantQueue.pageEnd] at ends; simp [ends]
    | some row =>
      have place := (cursorOf_rank (TenantQueue.mem_of_pageEnd ends)).2.mp (aligned reads (by omega) row ends)
      rw [TenantQueue.pageEnd] at ends
      simp [ends, place]

theorem Idles.window_eq : (queue.readWindow now (cursors reads tenant)).normal =
    read StreamRow.rank windowLimit (queue.queued now)
      (cursorAt StreamRow.rank windowLimit (queue.queued now) reads) := by
  rw [← idles.cursor_eq aligned more]
  exact queue.readRows_eq now (cursors reads tenant)

theorem Idles.window_slice (within : reads * windowLimit < (queue.queued now).length) :
    (queue.readWindow now (cursors reads tenant)).normal =
      ((ordered StreamRow.rank (queue.queued now)).drop (reads * windowLimit)).take windowLimit :=
  (idles.window_eq aligned more).trans (read_slice (queue.ranked_queued now) (by decide) within)

/-- Behind the cursor of a row that is not aligned the row itself is read again, or one before it. -/
theorem Idles.goes_back (within : reads * windowLimit < (queue.queued now).length) {row : StreamRow}
    (ends : row ∈ queue.pageEnd now reads) (rounded : ¬row.toQueueRow.Aligned now) :
    row ∈ (queue.readWindow now (cursors reads tenant)).normal ∧
      ∃ again ∈ (queue.readWindow now (cursors (reads + 1) tenant)).normal, again.rank ≤ row.rank := by
  have slice := idles.window_slice aligned more within
  have last : (queue.readWindow now (cursors reads tenant)).normal.getLast? = some row := slice ▸ ends
  have member := TenantQueue.mem_of_pageEnd ends
  have place : cursors (reads + 1) tenant = some (cursorOf now row.toQueueRow) := by
    rw [idles.next, last]
    rfl
  have below : (cursorOf now row.toQueueRow).rank < row.rank :=
    (cursorOf_rank member).1.lt_of_ne fun same => rounded ((cursorOf_rank member).2.mpr same)
  refine ⟨mem_of_getLast? last, ?_⟩
  have found : (queue.readWindow now (cursors (reads + 1) tenant)).normal = _ := queue.readRows_eq now _
  rw [found, place]
  exact read_behind (by decide) member below

end

theorem length_queued (queue : TenantQueue) (now : Time) : (queue.queued now).length = queue.eligibleJobs.length := by
  rw [TenantQueue.queued, length_map, ← queue.eligibleRows_perm.length_eq, length_map]

/-- The reads of a round show every eligible job, in order and in as few pages as can be, exactly if rounding is
harmless for the row at the end of each page that another one follows. -/
theorem window_covers_queue (idles : Idles round queue tenant now cursors) :
    let pages := (queue.eligibleJobs.length + 15) / 16
    ((∀ page, page + 1 < pages -> ∀ row ∈ queue.pageEnd now page, row.toQueueRow.Aligned now) <->
      (∀ job ∈ queue.eligibleJobs, ∃ reads < pages,
        job ∈ (queue.readWindow now (cursors reads tenant)).normal.map (·.job)) ∧
      (∀ earlier later, earlier < later -> later < pages ->
        ∀ first ∈ (queue.readWindow now (cursors earlier tenant)).normal,
        ∀ second ∈ (queue.readWindow now (cursors later tenant)).normal, first.rank < second.rank)) ∧
    ((∀ page < pages, ∀ row ∈ queue.pageEnd now page, row.toQueueRow.Aligned now) ->
      (queue.readWindow now (cursors pages tenant)).normal = (queue.readWindow now (cursors 0 tenant)).normal) := by
  intro pages
  have ranked := queue.ranked_queued now
  have positive : 0 < windowLimit := by decide
  have limit : windowLimit = 16 := rfl
  have total := length_queued queue now
  have inside {page : Nat} (below : page < pages) : page * windowLimit < (queue.queued now).length := by
    rw [limit]; omega
  refine ⟨⟨fun aligned => ?_, fun ⟨_, ascend⟩ page => ?_⟩, fun aligned => ?_⟩
  · have slice {reads : Nat} (below : reads < pages) :=
      idles.window_slice (fun page early => aligned page (by omega)) (fun page early => inside (by omega))
        (inside below)
    refine ⟨fun job member => ?_, fun earlier later order within one first other second => ?_⟩
    · have shown : job ∈ (queue.queued now).map (·.job) := by
        rw [TenantQueue.queued, map_map]
        exact queue.eligibleRows_perm.mem_iff.mpr member
      obtain ⟨row, listed, rfl⟩ := mem_map.mp shown
      obtain ⟨reads, more, found⟩ := mem_slice StreamRow.rank positive listed
      have below : reads < pages := by rw [limit] at more; omega
      exact ⟨reads, below, mem_map.mpr ⟨row, slice below ▸ found, rfl⟩⟩
    · rw [slice (order.trans within)] at first
      rw [slice within] at second
      exact slices_ascend ranked order first second
  · -- Up to the first page end that is not aligned the reads are the pages, and the next one goes back.
    induction page using Nat.strong_induction_on with
    | _ page ih =>
      intro within row ends
      by_contra rounded
      obtain ⟨shown, again, next, back⟩ := idles.goes_back (fun early below => ih early below (by omega))
        (fun early below => inside (by omega)) (inside (by omega)) ends rounded
      exact (ascend page (page + 1) (by omega) within row shown again next).not_ge back
  · rw [idles.window_eq aligned fun _ => inside, read_wraps ranked positive (fun _ => inside) (by rw [limit]; omega),
      idles.window_eq (fun _ below => absurd below (Nat.not_lt_zero _)) fun _ below => absurd below (Nat.not_lt_zero _)]
    rw [cursorAt, read_none, page_none]

end

namespace Blocked

/-- A second short of a minute old, but for one that is less than a millisecond short of it. -/
def job (short index : Nat) : QueuedJob where
  jobId := index
  submitterUserId := 1
  readySequence := index
  basePriority := ⟨0, Nat.zero_lt_succ 2⟩
  eligibleSince := some (if index = short then 900 else 1000000)
  cpuMillis := 1
  memoryBytes := 1
  runnable := true

def now : Time := 60000100

def jobs (short : Nat) : List QueuedJob := (List.range 17).map fun index => job short (index + 1)

theorem distinct_jobs (short : Nat) : ((jobs short).map (·.jobId)).Nodup := by
  rw [jobs, map_map]
  exact nodup_range.map fun _ _ same => Nat.succ.inj same

def cell : QuotaCell := ⟨-1, 8, -1, 8, none⟩

theorem single_cell : [cell].Pairwise fun one other => ∀ job, one.holds job = true -> other.holds job = false :=
  pairwise_singleton _ _

def queue (short : Nat) : TenantQueue where
  jobs := jobs short
  cells := [cell]
  tenantResume := none
  userResume := fun _ => none
  admits := fun _ => true
  enabled := true
  distinct := distinct_jobs short
  disjoint := single_cell

def candidate (short index : Nat) : Candidate where
  jobId := index
  tenantId := 1
  userId := 1
  jobVersion := 1
  readySequence := index
  resources := ⟨1, 1, 0, Nat.one_pos, Nat.one_pos, noGpu_le⟩
  basePriority := 0
  eligibleWaitSeconds := if index = short then 60 else 59
  retryReadyAtMs := 0
  templateVersion := 1
  tenantActiveAttempts := 0
  userActiveAttempts := 0

def candidates (short first count : Nat) (place : Cursor) : CandidateWindow where
  normal := (List.range count).map fun index => candidate short (first + index)
  oldestEligible := some (candidate short short)
  continuationCursor := some place.text

def snapshot (window : CandidateWindow) : SchedulingSnapshot where
  policyVersion := 1
  allocatableCapacity := ⟨1, 1, 0⟩
  heldAllocations := [⟨4, 2, ⟨1, 1, 0, Nat.one_pos, Nat.one_pos, noGpu_le⟩, [], .held⟩]
  tenantLedgers := [⟨1, 0, 0, false⟩, ⟨2, 0, 0, false⟩]
  tenantLimits := [⟨1, 2, ⟨8, 8, 2⟩, 4, 4, true⟩, ⟨2, 2, ⟨8, 8, 2⟩, 4, 4, true⟩]
  candidatesByTenant := [(1, window), (2, ⟨[], none, none⟩)]
  activeReservation := none
  virtualFloor := 0

def cursors (places : Nat -> Cursor) : Nat -> TenantId -> Option Cursor
  | 0 => fun _ => none
  | reads + 1 => update (fun _ => none) 1 (some (places reads))

theorem idles {short : Nat} {places : Nat -> Cursor} {windows : Nat -> CandidateWindow}
    (shown : ∀ reads, ((queue short).readWindow now (cursors places reads 1)).Shown (windows reads))
    (decides : ∀ reads, decidePolicy id (snapshot (windows reads)) (epochMs now) =
      .ok (.noDecision "no_candidate_fits_free_resources" [(1, (places reads).text)])) :
    Idles id (queue short) 1 now (cursors places) where
  start := rfl
  tick := by
    intro reads
    refine ⟨_, _, _, _, mem_cons_self, shown reads, decides reads, ?_⟩
    rw [advanceCursors_cons, Cursor.ofText_text]
    cases reads with
    | zero => rfl
    | succ reads => exact (update_idem ..).symm

def places (reads : Nat) : Cursor := if reads % 2 = 0 then ⟨0, 16, 16⟩ else ⟨0, 17, 17⟩

def pages (reads : Nat) : CandidateWindow :=
  if reads % 2 = 0 then candidates 3 1 16 ⟨0, 16, 16⟩ else candidates 3 17 1 ⟨0, 17, 17⟩

end Blocked

/-- Each read shows the first sixteen: the cursor of the last has a priority above the one it was read with. -/
theorem window_never_moves :
    ∃ round queue tenant now cursors, Idles round queue tenant now cursors ∧
      ∃ job ∈ queue.eligibleJobs, ∀ reads, job ∉ (queue.readWindow now (cursors reads tenant)).normal.map (·.job) ∧
        some job ≠ (queue.readWindow now (cursors reads tenant)).oldest.map (·.job) := by
  have stays : (Blocked.queue 16).readWindow Blocked.now (some ⟨1, 16, 16⟩) =
      (Blocked.queue 16).readWindow Blocked.now none := by decide +kernel
  have repeats (reads : Nat) : (Blocked.queue 16).readWindow Blocked.now
      (Blocked.cursors (fun _ => ⟨1, 16, 16⟩) reads 1) = (Blocked.queue 16).readWindow Blocked.now none := by
    cases reads with
    | zero => rfl
    | succ reads => simpa [Blocked.cursors] using stays
  refine ⟨id, Blocked.queue 16, 1, Blocked.now, Blocked.cursors fun _ => ⟨1, 16, 16⟩,
    @Blocked.idles 16 _ (fun _ => Blocked.candidates 16 1 16 ⟨1, 16, 16⟩) (fun reads => ?_)
      fun _ => by decide +kernel, Blocked.job 16 17, by decide +kernel, fun reads => ?_⟩
  · rw [repeats]
    constructor <;> decide +kernel
  · rw [repeats]
    decide +kernel

theorem window_covers_queue_sample :
    Idles id (Blocked.queue 3) 1 Blocked.now (Blocked.cursors Blocked.places) ∧
      (∃ row ∈ (Blocked.queue 3).eligibleRows, ¬row.Aligned Blocked.now) ∧
      ∀ job ∈ (Blocked.queue 3).eligibleJobs, ∃ reads < 2, job ∈
        ((Blocked.queue 3).readWindow Blocked.now (Blocked.cursors Blocked.places reads 1)).normal.map (·.job) := by
  have idles : Idles id (Blocked.queue 3) 1 Blocked.now (Blocked.cursors Blocked.places) := by
    refine @Blocked.idles 3 _ Blocked.pages (fun reads => ?_) fun reads => ?_
    · cases reads with
      | zero => constructor <;> decide +kernel
      | succ reads =>
        rcases Nat.mod_two_eq_zero_or_one reads with even | odd
        · have next : (reads + 1) % 2 = 1 := by omega
          simp only [Blocked.cursors, Blocked.places, Blocked.pages, even, next, update_self]
          constructor <;> decide +kernel
        · have next : (reads + 1) % 2 = 0 := by omega
          simp only [Blocked.cursors, Blocked.places, Blocked.pages, odd, next, update_self]
          constructor <;> decide +kernel
    · rw [Blocked.pages, Blocked.places]
      split_ifs <;> decide +kernel
  have length : (Blocked.queue 3).eligibleJobs.length = 17 := by decide +kernel
  have covers := (window_covers_queue idles).1
  rw [length] at covers
  refine ⟨idles, ?_, (covers.mp fun page below => ?_).1⟩
  · unfold Aligned
    decide +kernel
  · obtain rfl : page = 0 := by omega
    unfold Aligned
    decide +kernel

end Nexa
