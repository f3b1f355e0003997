import Nexa.Coordinator.Tick
import Nexa.Refinement.Accounting
import Nexa.Refinement.Revocation

namespace Nexa

open Relational Outcome List Tables

structure Renoted (before after : Tables nexaSchema) : Prop where
  frame : Frame [.jobs] before after
  rewritten : ∃ change : Job -> Job, after .jobs = (before .jobs).map change ∧
    ∀ job ∈ before .jobs, (change job).jobId = job.jobId ∧
      ∃ versions, (change job).control = { job.control with version := job.version + versions }

theorem Renoted.refl (rows : Tables nexaSchema) : Renoted rows rows :=
  ⟨.refl _ _, id, by simp, fun _ _ => ⟨rfl, 0, rfl⟩⟩

theorem Renoted.trans {first next last : Tables nexaSchema} (left : Renoted first next)
    (right : Renoted next last) : Renoted first last := by
  obtain ⟨frame, change, rows, keeps⟩ := left
  obtain ⟨nextFrame, nextChange, nextRows, nextKeeps⟩ := right
  refine ⟨frame.trans nextFrame, nextChange ∘ change, by rw [nextRows, rows, map_map], ?_⟩
  intro job member
  obtain ⟨same, versions, control⟩ := keeps job member
  have inside : change job ∈ next .jobs := rows ▸ mem_map_of_mem member
  obtain ⟨nextSame, more, nextControl⟩ := nextKeeps (change job) inside
  have version : (change job).version = job.version + versions := congrArg Control.version control
  refine ⟨nextSame.trans same, versions + more, ?_⟩
  rw [Function.comp_apply, nextControl, control, version, Nat.add_assoc]

theorem Renoted.update {before : Tables nexaSchema} (condition : Job -> Bool) (patch : JobChanges)
    (keeps : ∀ job, (patch.apply job).jobId = job.jobId ∧
      ∃ versions, (patch.apply job).control = { job.control with version := job.version + versions }) :
    Renoted before (before.update .jobs condition patch.apply) := by
  refine ⟨.update _ _ _ (by decide), _, by rw [update_same, updateWhere], ?_⟩
  intro job _
  by_cases selected : condition job
  · simpa [selected] using keeps job
  · simp only [selected, Bool.false_eq_true, if_false, true_and]
    exact ⟨0, rfl⟩

theorem note_moves {before after : Tables nexaSchema} {done rest : List Job} {job noted : Job}
    (rows : before .jobs = done ++ job :: rest) (frame : Frame [.jobs] before after)
    (written : after .jobs = done ++ noted :: rest) (named : noted.jobId = job.jobId) {versions : Nat}
    (control : noted.control = { job.control with version := job.version + versions })
    (outside : ∀ other ∈ done ++ rest, other.jobId ≠ job.jobId) :
    Moves .operation job.jobId before after := by
  have parts (keep : Option JobId -> Bool) : Frame [.jobs] (before.part keep) (after.part keep) := by
    intro table different
    change (after table).filter _ = (before table).filter _
    rw [frame table different]
  have alone (row : Job) (same : row.jobId = job.jobId) :
      (done ++ row :: rest).filter (fun other => ownerOf .jobs other = some job.jobId) = [row] := by
    have before : done.filter (fun other => ownerOf .jobs other = some job.jobId) = [] := by
      rw [filter_eq_nil_iff]
      intro other inside
      simpa [ownerOf] using outside other (mem_append_left _ inside)
    have after : rest.filter (fun other => ownerOf .jobs other = some job.jobId) = [] := by
      rw [filter_eq_nil_iff]
      intro other inside
      simpa [ownerOf] using outside other (mem_append_right _ inside)
    rw [filter_append, before, filter_cons_of_pos (by simp [ownerOf, same]), after]
    rfl
  have onlyJob : before.slice job.jobId .jobs = [job] := by
    change (before .jobs).filter _ = _
    rw [rows]
    exact alone job rfl
  have onlyNoted : after.slice job.jobId .jobs = [noted] := by
    change (after .jobs).filter _ = _
    rw [written]
    exact alone noted named
  have kept : ∀ table ∈ ownedTables, before.Kept after table := by
    intro table _
    by_cases changed : table = .jobs
    · subst changed
      have keys : keysOf .jobs noted = keysOf .jobs job := by
        have tenant : noted.tenantId = job.tenantId := congrArg Control.tenantId control
        simp [keysOf, named, tenant]
      intro row member
      rw [rows, mem_append, mem_cons] at member
      rw [written]
      rcases member with earlier | rfl | later
      · exact ⟨row, by simp [earlier], rfl, List.Subset.refl _⟩
      · exact ⟨noted, by simp, keys, List.Subset.refl _⟩
      · exact ⟨row, by simp [later], rfl, List.Subset.refl _⟩
    · exact .of_same (frame table (by simp [changed]))
  refine ⟨?_, kept, by rw [onlyJob]; simp, ?_⟩
  · funext table
    by_cases same : table ∈ [Table.jobs]
    · obtain rfl := mem_singleton.1 same
      change (after .jobs).filter _ = (before .jobs).filter _
      rw [written, rows, filter_append, filter_append,
        filter_cons_of_neg (by simp [ownerOf, named]), filter_cons_of_neg (by simp [ownerOf])]
    · exact parts _ table same
  · intro v represents fits
    obtain ⟨stored, only, same⟩ := represents.job
    obtain rfl : job = stored := by simpa [onlyJob] using only
    obtain ⟨_, held, schedules, results, fences⟩ := v
    obtain rfl := same
    have replaced : Represents (after.slice job.jobId) ⟨noted.control, held, schedules, results, fences⟩ :=
      represents.replaceJob onlyJob (parts _) onlyNoted (congrArg Control.sequence control)
        (congrArg Control.fence control)
    rw [control] at replaced
    exact ⟨_, .note 0 versions, replaced, .steady (frame _ (by decide)) _ _⟩

theorem Renoted.progress_from {change : Job -> Job} (rest done : List Job) {before after : Tables nexaSchema}
    (rows : before .jobs = done ++ rest) (frame : Frame [.jobs] before after)
    (written : after .jobs = done ++ rest.map change) (distinct : ((done ++ rest).map (·.jobId)).Nodup)
    (keeps : ∀ job ∈ rest, (change job).jobId = job.jobId ∧
      ∃ versions, (change job).control = { job.control with version := job.version + versions }) :
    Progress (rest.map fun job => (job.jobId, .operation)) before after := by
  induction rest generalizing done before with
  | nil =>
    have same : after = before := by
      funext table
      by_cases jobs : table = .jobs
      · subst table
        rw [written, rows]
        rfl
      · exact frame table (by simpa using jobs)
    rw [same]
    exact .quiet (.refl _)
  | cons job rest ih =>
    rw [forall_mem_cons] at keeps
    obtain ⟨⟨named, versions, control⟩, keeps⟩ := keeps
    have outside : ∀ other ∈ done ++ rest, other.jobId ≠ job.jobId := by
      have middle := distinct
      rw [map_append, map_cons, nodup_middle, nodup_cons, ← map_append] at middle
      intro other inside same
      exact middle.1 (mem_map.2 ⟨other, inside, same⟩)
    let between := before.replace .jobs (done ++ change job :: rest)
    have turn : Frame [.jobs] before between := fun table different => replace_other _ _ (by simpa using different)
    have moves := note_moves rows turn (replace_same _ _ _) named control outside
    refine .cons (.moves moves) ?_ (ih (done ++ [change job]) ?_ ?_ ?_ ?_ keeps)
    · rw [map_map]
      intro listed
      obtain ⟨other, inside, same⟩ := mem_map.1 listed
      exact outside other (mem_append_right _ inside) same
    · simp [between]
    · intro table different
      rw [frame table different, turn table different]
    · rw [written]
      simp
    · simpa [named] using distinct

variable {db after : Db} {call : Call} {settings : Settings}

theorem jobs_nodup (db : Db) : ((db.rows .jobs).map (·.jobId)).Nodup := by
  refine (db.nodup (by simp [keysOf])).map_on ?_
  intro job member other otherMember same
  exact job_unique db member otherMember same

theorem Renoted.progress {rows : Tables nexaSchema} (renoted : Renoted db.rows rows) :
    Progresses .operation db.rows rows := by
  obtain ⟨frame, change, written, keeps⟩ := renoted
  refine ⟨_, ?_, Renoted.progress_from (db.rows .jobs) [] rfl frame written (jobs_nodup db) keeps⟩
  intro effect listed
  obtain ⟨job, _, rfl⟩ := mem_map.1 listed
  rfl

theorem markBatch_renoted (db : Db) (now : Time) (unlocked : JobId -> Bool) (tenantId : TenantId)
    (blocked : Bool) : Renoted db.rows (markBatch db now unlocked tenantId blocked).rows :=
  .update _ (quotaPatch blocked now) fun _ => ⟨rfl, 1, rfl⟩

theorem markBatches_renoted (now : Time) (unlocked : JobId -> Bool) (blocked : Bool)
    (tenants : List TenantId) (db : Db) :
    Renoted db.rows
      (tenants.foldl (fun db tenant => markBatch db now unlocked tenant blocked) db).rows := by
  induction tenants generalizing db with
  | nil => exact .refl _
  | cons tenant rest ih => exact (markBatch_renoted db now unlocked tenant blocked).trans (ih _)

theorem trackArtifactQuota_progress {now : Time} {unlocked : JobId -> Bool} {marking clearing : List TenantId}
    (tracked : trackArtifactQuota db now unlocked marking clearing = .ok after) :
    Frame [.jobs] db.rows after.rows ∧ Progresses .operation db.rows after.rows := by
  simp only [trackArtifactQuota, bind_eq_ok] at tracked
  obtain ⟨mode, _, tracked⟩ := tracked
  split at tracked
  next =>
    rw [pure_eq_ok] at tracked
    exact tracked ▸ ⟨.refl _ _, .quiet (.refl _)⟩
  next =>
    rw [pure_eq_ok] at tracked
    subst tracked
    have renoted := (markBatches_renoted now unlocked true marking db).trans
      (markBatches_renoted now unlocked false (clearing.insertionSort (· ≤ ·)) _)
    exact ⟨renoted.frame, renoted.progress⟩

theorem processEligibilityBatch_renoted (db : Db) (page : List JobId) (ages : JobId -> Option Time) :
    Renoted db.rows (processEligibilityBatch db page ages).rows :=
  .update _ (eligibleSincePatch ages) fun _ => ⟨rfl, 0, rfl⟩

section

variable {leader : Leader} {now : Time} {runsOn : TemplateVersion -> WorkerInventory -> Bool}

def promotionTables : List Table := [.jobs, .retrySchedules, .events]

theorem promoteJob_moves {state next : Promotion} {ready : Bool} {job : Job} {schedule : RetrySchedule}
    (member : job ∈ state.db.rows .jobs) (isDue : due now job schedule = true)
    (promoted : promoteJob state leader now ready job schedule = .ok next) :
    Moves (.enqueue state.sequence) job.jobId state.db.rows next.db.rows ∧
      Frame promotionTables state.db.rows next.db.rows ∧
      next.sequence = state.sequence + 1 := by
  simp only [promoteJob, Dispatch.event, bind_eq_ok, require_eq_ok, pure_eq_ok, exists_const] at promoted
  obtain ⟨_, queued, written, rfl⟩ := promoted
  simp only [due, decide_eq_true_eq] at isDue
  obtain ⟨_, _, number, waiting, _⟩ := isDue
  have closes (rows : Tables nexaSchema) : ∀ row ∈ rows .retrySchedules,
      decide (row.jobId = job.jobId ∧ row.retryNumber = schedule.retryNumber ∧ row.closedAt = none) = true ->
        ownerOf .retrySchedules row = some job.jobId := by
    intro row _ selected
    simp only [decide_eq_true_eq] at selected
    exact congrArg some selected.1
  have rewritten := (Local.update _ (closeSchedulePatch now) (closes _) (by decide)).trans (Local.event written)
  have frame : Frame promotionTables state.db.rows queued.rows :=
    (Frame.update _ _ _ (by decide)).trans ((writeEvent_frame written).mono (by decide))
  refine ⟨Moves.of_local rewritten (slice_present member) ?_, frame, rfl⟩
  intro v represents fits
  obtain ⟨onlyJob, control⟩ := represents.job_eq member rfl
  obtain ⟨_, held, schedules, results, fences⟩ := v
  obtain rfl := control
  -- The only open schedule carries the retry count, so closing the due one closes all.
  have all : ∀ row ∈ state.db.rows.slice job.jobId .retrySchedules, row.closedAt = none ->
      decide (row.jobId = job.jobId ∧ row.retryNumber = schedule.retryNumber ∧ row.closedAt = none) = true := by
    intro row inside unclosed
    have owner : row.jobId = job.jobId := Option.some.inj (mem_slice.1 inside).2
    have listed : row.retryNumber ∈
        (openSchedules (state.db.rows.slice job.jobId)).map (·.retryNumber) :=
      mem_map_of_mem (mem_filter.2 ⟨inside, by simpa using unclosed⟩)
    have only : schedules = [job.retryCount] := fits.schedules.trans (if_pos waiting)
    rw [represents.schedules, only, mem_singleton] at listed
    simp [owner, unclosed, listed, number]
  have closed := represents.closeSchedules _ all now
  have moved := closed.event (.coordinator leader.holderId) now .retryReady (some .backoffElapsed) false
    (promotedPatch state.sequence ready) onlyJob (.refl job) (.inl rfl)
  have immediate : job.state.immediateCancel = true := by
    rw [waiting]
    rfl
  obtain ⟨vacant, load⟩ := Lifecycle.load_vacant fits immediate
  obtain rfl : held = .vacant := vacant
  refine ⟨_, Move.promote state.sequence waiting, moved, ?_⟩
  rw [load]
  exact .steady (frame _ (by decide)) _ _

theorem promoteOne_cases {state next : Promotion} {inventory : Option WorkerInventory} {ready : Bool}
    {jobId : JobId} (turn : promoteOne leader now runsOn inventory ready state jobId = .ok next) :
    next = state ∨
      Frame promotionTables state.db.rows next.db.rows ∧
        (Moves .operation jobId state.db.rows next.db.rows ∧ next.sequence = state.sequence ∨
          Moves (.enqueue state.sequence) jobId state.db.rows next.db.rows ∧
            next.sequence = state.sequence + 1) := by
  simp only [promoteOne, bind_eq_ok, one_eq_ok] at turn
  obtain ⟨job, foundJob, found, _, turn⟩ := turn
  obtain ⟨member, same⟩ := Database.mem_of_select foundJob
  simp only [decide_eq_true_eq] at same
  subst same
  split at turn
  next =>
    rw [pure_eq_ok] at turn
    exact .inl turn.symm
  next schedule chosen =>
    have isDue : due now job schedule = true := (Option.filter_eq_some_iff.1 chosen).2
    simp only [bind_eq_ok] at turn
    obtain ⟨blocked, _, turn⟩ := turn
    cases blocked with
    | none =>
      obtain ⟨moves, frame, sequence⟩ := promoteJob_moves member isDue turn
      exact .inr ⟨frame, .inr ⟨moves, sequence⟩⟩
    | some reason =>
      simp only at turn
      split at turn
      next =>
        rw [pure_eq_ok] at turn
        exact .inl turn.symm
      next =>
        simp only [Dispatch.event, bind_eq_ok, pure_eq_ok] at turn
        obtain ⟨_, written, rfl⟩ := turn
        refine .inr ⟨(writeEvent_frame written).mono (by decide), .inl ⟨?_, rfl⟩⟩
        refine event_moves member written rfl ?_
        intro v control fits
        obtain ⟨_, held, schedules, results, fences⟩ := v
        obtain rfl := control
        exact ⟨Move.note 1 1, rfl⟩

theorem promoteLoop_progress {inventory : Option WorkerInventory} {ready : Bool} {jobIds : List JobId}
    {state last : Promotion} (distinct : jobIds.Nodup)
    (run : jobIds.foldlM (promoteOne leader now runsOn inventory ready) state = .ok last) :
    Frame promotionTables state.db.rows last.db.rows ∧ state.sequence ≤ last.sequence ∧
      ∃ effects, Progress effects state.db.rows last.db.rows ∧
        (∀ effect ∈ effects, effect.2 ≠ .cleanup ∧ effect.1 ∈ jobIds) ∧
        (ticketsOf effects).Pairwise (· < ·) ∧
        ∀ ticket ∈ ticketsOf effects, state.sequence ≤ ticket ∧ ticket < last.sequence := by
  induction jobIds generalizing state with
  | nil =>
    rw [foldlM_nil, pure_eq_ok] at run
    subst run
    exact ⟨.refl _ _, le_rfl, [], .quiet (.refl _), by simp, by simp [ticketsOf], by simp [ticketsOf]⟩
  | cons jobId rest ih =>
    rw [foldlM_cons, bind_eq_ok] at run
    obtain ⟨next, turn, run⟩ := run
    rw [nodup_cons] at distinct
    obtain ⟨frame, grows, effects, progress, causes, increasing, bounds⟩ := ih distinct.2 run
    have outside : jobId ∉ effects.map Prod.fst := by
      intro listed
      obtain ⟨effect, inside, same⟩ := mem_map.1 listed
      exact distinct.1 (same ▸ (causes effect inside).2)
    have listed : ∀ effect ∈ effects, effect.2 ≠ .cleanup ∧ effect.1 ∈ jobId :: rest :=
      fun effect inside => ⟨(causes effect inside).1, mem_cons_of_mem _ (causes effect inside).2⟩
    rcases promoteOne_cases turn with rfl | ⟨kept, ⟨moves, sequence⟩ | ⟨moves, sequence⟩⟩
    · exact ⟨frame, grows, effects, progress, listed, increasing, bounds⟩
    · rw [sequence] at grows bounds
      refine ⟨kept.trans frame, grows, _, .cons (.moves moves) outside progress, ?_, increasing, bounds⟩
      rw [forall_mem_cons]
      exact ⟨⟨by simp, mem_cons_self⟩, listed⟩
    · rw [sequence] at grows bounds
      refine ⟨kept.trans frame, by omega, _, .cons (.moves moves) outside progress, ?_, ?_, ?_⟩
      · rw [forall_mem_cons]
        exact ⟨⟨by simp, mem_cons_self⟩, listed⟩
      · refine pairwise_cons.2 ⟨?_, increasing⟩
        intro ticket issued
        have bound := bounds ticket issued
        omega
      · refine forall_mem_cons.2 ⟨⟨le_rfl, by omega⟩, ?_⟩
        intro ticket issued
        have bound := bounds ticket issued
        omega

theorem schedule_unique {schedule other : RetrySchedule} (member : schedule ∈ db.rows .retrySchedules)
    (otherMember : other ∈ db.rows .retrySchedules) (sameJob : schedule.jobId = other.jobId)
    (sameNumber : schedule.retryNumber = other.retryNumber) : schedule = other :=
  db.eq_of_key ⟨"pk_retry_schedules", [schedule.jobId, schedule.retryNumber]⟩ member otherMember
    (by simp [keysOf]) (by simp [keysOf, sameJob, sameNumber])

theorem retryCandidates_nodup (db : Db) (now : Time) : ((retryCandidates db now).map (·.1.jobId)).Nodup := by
  let dueOf (job : Job) : List RetrySchedule :=
    db.select .retrySchedules fun schedule => schedule.jobId = job.jobId ∧ due now job schedule
  have pairs : (((db.rows .jobs).flatMap fun job => (dueOf job).map fun schedule => (job, schedule)).map
      (·.1.jobId)).Nodup := by
    rw [map_flatMap, nodup_flatMap]
    constructor
    · intro job _
      have rows : (dueOf job).Nodup := (db.nodup (by simp [keysOf])).filter _
      rw [map_map]
      refine rows.map_on ?_
      intro schedule inside other otherInside _
      have facts := mem_filter.1 inside
      have otherFacts := mem_filter.1 otherInside
      simp only [due, decide_eq_true_eq] at facts otherFacts
      exact schedule_unique facts.1 otherFacts.1 (facts.2.1.trans otherFacts.2.1.symm)
        (facts.2.2.2.2.1.trans otherFacts.2.2.2.2.1.symm)
    · have apart := pairwise_map.1 (jobs_nodup db)
      refine apart.imp ?_
      intro job other different jobId listed otherListed
      simp only [map_map, mem_map] at listed otherListed
      obtain ⟨_, _, rfl⟩ := listed
      obtain ⟨_, _, same⟩ := otherListed
      exact different same.symm
  have sorted := ((perm_insertionSort (fun left right => retryBefore left right)
    ((db.rows .jobs).flatMap fun job => (dueOf job).map fun schedule => (job, schedule))).map
      (·.1.jobId)).nodup_iff.2 pairs
  exact sorted.sublist ((take_sublist _ _).map _)

theorem bumpGlobal_quiet (now : Time) {counter : AdmissionCounter} {sequence : Nat}
    (only : countersAt db.rows .global = [counter]) (grows : counter.version ≤ sequence) :
    let last := if sequence = counter.version then db
      else db.update .admissionCounters (fun counter => counter.scope = .global) (globalVersionPatch sequence now)
    Quiet db.rows last.rows ∧ versionOf last.rows .global = sequence := by
  intro last
  by_cases same : sequence = counter.version
  · have kept : last = db := if_pos same
    rw [kept, versionOf_eq only]
    exact ⟨.refl _, same.symm⟩
  · have bumped : last = db.update .admissionCounters (fun counter => counter.scope = .global)
        (globalVersionPatch sequence now) := if_neg same
    rw [bumped]
    refine ⟨⟨?_, ?_⟩, versionOf_eq (countersAt_update_same (globalVersionPatch sequence now) only)⟩
    · intro table owned
      exact update_other _ _ _ fun same => by simp_all [ownedTables]
    · refine .of_kept _ _ (fun _ => rfl) (fun _ => rfl) ?_ _
      intro row inside selected
      have listed : row ∈ countersAt db.rows .global := mem_filter.2 ⟨inside, selected⟩
      rw [only, mem_singleton] at listed
      exact listed ▸ grows

theorem promoteRetries_proceeds (promoted : promoteRetries db leader now runsOn = .ok after) :
    Frame (.admissionCounters :: promotionTables) db.rows after.rows ∧
      Proceeds db.rows after.rows := by
  have idle : Frame (.admissionCounters :: promotionTables) db.rows db.rows ∧
      Proceeds db.rows db.rows := ⟨.refl _ _, Progresses.proceeds (.quiet (.refl _))⟩
  simp only [promoteRetries, bind_eq_ok] at promoted
  obtain ⟨mode, _, promoted⟩ := promoted
  split at promoted
  next =>
    rw [pure_eq_ok] at promoted
    exact promoted ▸ idle
  next =>
    simp only [promoteDueLocked] at promoted
    split at promoted
    next =>
      rw [pure_eq_ok] at promoted
      exact promoted ▸ idle
    next =>
      simp only [bind_eq_ok, pure_eq_ok] at promoted
      obtain ⟨⟨locked, counter⟩, locking, ⟨worker, inventory⟩, _, last, run, rfl⟩ := promoted
      obtain ⟨only, frame, _, charged⟩ := counterLock_spec locking
      have opening : Quiet db.rows locked.rows :=
        ⟨fun table owned => frame table fun inside => by simp_all [ownedTables], charged⟩
      have distinct := (perm_insertionSort (· ≤ ·) _).nodup_iff.2 (retryCandidates_nodup db now)
      obtain ⟨promotes, grows, effects, progress, causes, increasing, bounds⟩ := promoteLoop_progress distinct run
      have onlyLast : countersAt last.db.rows .global = [counter] := by
        rw [countersAt, promotes .admissionCounters (by decide)]
        exact only
      have closing := bumpGlobal_quiet now onlyLast grows
      have bumps : Frame [.admissionCounters] last.db.rows
          (if last.sequence = counter.version then last.db
          else last.db.update .admissionCounters (fun counter => counter.scope = .global)
            (globalVersionPatch last.sequence now)).rows := by
        split_ifs
        · exact .refl _ _
        · exact .update _ _ _ (mem_singleton_self _)
      refine ⟨((frame.mono (by decide)).trans (promotes.mono (by decide))).trans (bumps.mono (by decide)),
        effects, ⟨fun effect inside => (causes effect inside).1, increasing, ?_⟩,
        (progress.of_quiet opening).to_quiet closing.1⟩
      intro ticket issued
      obtain ⟨low, high⟩ := bounds ticket issued
      have start : versionOf db.rows .global ≤ counter.version := (opening.version_le _).trans_eq (versionOf_eq only)
      exact ⟨start.trans low, high.trans_eq closing.2.symm⟩

end

end Nexa
