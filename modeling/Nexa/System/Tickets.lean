import Nexa.System.Transitions

namespace Nexa

open Relational Outcome Transition List

def Entered (before after : Db) (job : Job) : Prop :=
  job ∈ after.rows .jobs ∧ job.state = .queued ∧
    ∀ old ∈ before.rows .jobs, old.jobId = job.jobId -> old.state ≠ .queued

def Ticketed (db : Db) : Prop := ∀ job ∈ db.rows .jobs, job.readySequence < versionOf db.rows .global

section

variable {before after : Tables nexaSchema} {effects : List (JobId × Cause)} {jobId : JobId}

theorem Effect.version_le {item : JobId × Cause} (effect : Effect item before after)
    (tracked : Tracked before) (scope : Scope) : versionOf before scope ≤ versionOf after scope := by
  cases effect with
  | moves moves =>
    obtain ⟨v, represents, fits⟩ := tracked.represents moves
    obtain ⟨_, _, _, charged⟩ := moves.move v represents fits
    exact (charged scope).2.2
  | creates creates =>
    obtain ⟨_, _, _, _, charged⟩ := creates.accepted
    exact (charged scope).2.2

theorem Progress.version_le (progress : Progress effects before after) (tracked : Tracked before)
    (scope : Scope) : versionOf before scope ≤ versionOf after scope := by
  induction progress with
  | quiet quiet => exact quiet.version_le scope
  | cons effect _ _ ih => exact (effect.version_le tracked scope).trans (ih (effect.tracked tracked))

theorem Effect.enqueued {ticket : Nat} (effect : Effect (jobId, .enqueue ticket) before after)
    (tracked : Tracked before) :
    ∃ next, Represents (after.slice jobId) next ∧ next.ticket = ticket ∧ next.state = .queued ∧
      ∀ v, Represents (before.slice jobId) v -> Fits v -> v.state ≠ .queued := by
  generalize item : (jobId, Cause.enqueue ticket) = entry at effect
  cases effect with
  | moves moves =>
    obtain ⟨rfl, rfl⟩ := Prod.mk.inj item
    obtain ⟨v, represents, fits⟩ := tracked.represents moves
    obtain ⟨next, move, represented, _⟩ := moves.move v represents fits
    obtain ⟨ticket, queued, _⟩ := move.enqueue
    refine ⟨next, represented, ticket, queued, fun other represents fits => ?_⟩
    obtain ⟨_, move, _⟩ := moves.move other represents fits
    exact move.enqueue.2.2
  | creates creates =>
    obtain ⟨rfl, same⟩ := Prod.mk.inj item
    obtain rfl := Cause.enqueue.inj same
    obtain ⟨tenantId, submitter, maxRetries, represented, _⟩ := creates.accepted
    refine ⟨_, represented, rfl, rfl, fun other represents _ => ?_⟩
    obtain ⟨job, only, _⟩ := represents.job
    rw [creates.absent] at only
    simp at only

theorem Progress.enqueued {ticket : Nat} (progress : Progress effects before after)
    (tracked : Tracked before) (member : (jobId, .enqueue ticket) ∈ effects) :
    ∃ next, Represents (after.slice jobId) next ∧ next.ticket = ticket ∧ next.state = .queued ∧
      ∀ v, Represents (before.slice jobId) v -> Fits v -> v.state ≠ .queued := by
  induction progress with
  | quiet => simp at member
  | @cons item rest before between after effect different progress ih =>
    rcases mem_cons.1 member with rfl | later
    · obtain ⟨next, represented, facts⟩ := effect.enqueued tracked
      exact ⟨next, (progress.slice different).symm ▸ represented, facts⟩
    · -- The effects are about different jobs, so this one does not touch the rows.
      have distinct : jobId ≠ item.1 := fun same =>
        different (same ▸ mem_map_of_mem (f := Prod.fst) later)
      obtain ⟨next, represented, ticket, queued, waits⟩ := ih (effect.tracked tracked) later
      rw [effect.slice distinct] at waits
      exact ⟨next, represented, ticket, queued, waits⟩

theorem Progress.created (progress : Progress effects before after)
    (absent : before.slice jobId .jobs = []) (present : after.slice jobId .jobs ≠ []) :
    ∃ ticket, (jobId, .enqueue ticket) ∈ effects := by
  induction progress with
  | quiet quiet =>
    rw [quiet.slice jobId] at present
    exact absurd absent present
  | @cons item rest before between after effect different progress ih =>
    by_cases same : jobId = item.1
    · subst same
      cases effect with
      | moves moves => exact absurd absent moves.present
      | creates creates => exact ⟨_, mem_cons_self⟩
    · rw [← effect.slice same] at absent
      obtain ⟨ticket, member⟩ := ih absent present
      exact ⟨ticket, mem_cons_of_mem _ member⟩

end

section

variable {settings : Settings} {db after : Db} {action : Action} {cleans : Bool}
  {effects : List (JobId × Cause)} {job : Job}

theorem slice_jobs_eq_nil {jobId : JobId} (absent : ∀ old ∈ db.rows .jobs, old.jobId ≠ jobId) :
    db.rows.slice jobId .jobs = [] := by
  rw [eq_nil_iff_forall_not_mem]
  intro old inside
  obtain ⟨member, same⟩ := mem_jobs_slice.1 inside
  exact absent old member same

theorem Entered.issued (entered : Entered db after job) (sound : Sound db)
    (progress : Progress effects db.rows after.rows) :
    (job.jobId, .enqueue job.readySequence) ∈ effects := by
  obtain ⟨member, queued, waited⟩ := entered
  have inside : job ∈ after.rows.slice job.jobId .jobs := mem_jobs_slice.2 ⟨member, rfl⟩
  by_cases known : ∃ old ∈ db.rows .jobs, old.jobId = job.jobId
  · obtain ⟨old, stored, same⟩ := known
    obtain ⟨v, represents, fits⟩ := sound.tracked old stored
    rw [same] at represents
    rcases progress.moves represents fits with ⟨_, slice⟩ | ⟨cause, next, effect, move, represented⟩
    · rw [slice] at inside
      exact absurd queued (waited job (mem_jobs_slice.1 inside).1 rfl)
    · have state : next.state = .queued :=
        (congrArg Control.state (represented.job_eq member rfl).2).symm.trans queued
      have ticket : job.readySequence = next.ticket := congrArg Control.ticket (represented.job_eq member rfl).2
      cases cause with
      | enqueue taken => rwa [ticket, move.enqueue.1]
      | operation | cleanup =>
        have before : old.state = v.state := congrArg Control.state (represents.job_eq stored same).2
        exact absurd (before.trans ((move.ticket_eq (by simp)).2 state)) (waited old stored same)
  · have absent := slice_jobs_eq_nil fun old stored same => known ⟨old, stored, same⟩
    obtain ⟨ticket, effect⟩ := progress.created absent (ne_nil_of_mem inside)
    obtain ⟨next, represented, same, _⟩ := progress.enqueued sound.tracked effect
    have own : job.readySequence = next.ticket := congrArg Control.ticket (represented.job_eq member rfl).2
    rwa [own, same]

theorem Progress.entered (progress : Progress effects db.rows after.rows) (sound : Sound db)
    {ticket : Nat} (effect : (job.jobId, .enqueue ticket) ∈ effects) (member : job ∈ after.rows .jobs) :
    Entered db after job ∧ job.readySequence = ticket := by
  obtain ⟨next, represented, same, queued, waits⟩ := progress.enqueued sound.tracked effect
  have control := (represented.job_eq member rfl).2
  refine ⟨⟨member, (congrArg Control.state control).trans queued, fun old stored known => ?_⟩,
    (congrArg Control.ticket control).trans same⟩
  obtain ⟨v, represents, fits⟩ := sound.tracked old stored
  rw [known] at represents
  have state : old.state = v.state := congrArg Control.state (represents.job_eq stored known).2
  exact state ▸ waits v represents fits

theorem Progress.place_kept (progress : Progress effects db.rows after.rows) (sound : Sound db)
    (member : job ∈ after.rows .jobs) (stays : ¬Entered db after job) :
    ∃ old ∈ db.rows .jobs, old.jobId = job.jobId ∧ old.readySequence = job.readySequence := by
  have inside : job ∈ after.rows.slice job.jobId .jobs := mem_jobs_slice.2 ⟨member, rfl⟩
  by_cases known : ∃ old ∈ db.rows .jobs, old.jobId = job.jobId
  · obtain ⟨old, stored, same⟩ := known
    refine ⟨old, stored, same, ?_⟩
    obtain ⟨v, represents, fits⟩ := sound.tracked old stored
    rw [same] at represents
    obtain ⟨only, control⟩ := represents.job_eq stored same
    rcases progress.moves represents fits with ⟨_, slice⟩ | ⟨cause, next, effect, move, represented⟩
    · rw [slice, only, mem_singleton] at inside
      rw [inside]
    · cases cause with
      | enqueue taken => exact absurd (progress.entered sound effect member).1 stays
      | operation | cleanup =>
        calc old.readySequence = v.ticket := congrArg Control.ticket control
          _ = next.ticket := (move.ticket_eq (by simp)).1.symm
          _ = job.readySequence := (congrArg Control.ticket (represented.job_eq member rfl).2).symm
  · have absent := slice_jobs_eq_nil fun old stored same => known ⟨old, stored, same⟩
    obtain ⟨ticket, effect⟩ := progress.created absent (ne_nil_of_mem inside)
    exact absurd (progress.entered sound effect member).1 stays

theorem version_le_step (sound : Sound db) (step : (controlPlane settings).step db action after)
    (scope : Scope) : versionOf db.rows scope ≤ versionOf after.rows scope := by
  obtain ⟨_, effects, transacts⟩ := step_spec sound step
  exact transacts.progress.version_le sound.tracked scope

theorem Transacts.ticket_bounds (transacts : Transacts cleans effects db.rows after.rows)
    {jobId : JobId} {ticket : Nat} (effect : (jobId, .enqueue ticket) ∈ effects) :
    versionOf db.rows .global ≤ ticket ∧ ticket < versionOf after.rows .global :=
  transacts.bounds ticket (mem_filterMap.2 ⟨_, effect, rfl⟩)

theorem Ticketed.step (ticketed : Ticketed db) (sound : Sound db)
    (step : (controlPlane settings).step db action after) : Ticketed after := by
  intro job member
  obtain ⟨_, effects, transacts⟩ := step_spec sound step
  by_cases entered : Entered db after job
  · exact (transacts.ticket_bounds (entered.issued sound transacts.progress)).2
  · obtain ⟨old, stored, _, same⟩ := transacts.progress.place_kept sound member entered
    exact same ▸ (ticketed old stored).trans_le (version_le_step sound step _)

theorem reachable_ticketed (reachable : (controlPlane settings).Reachable db) : Ticketed db := by
  refine reachable.induct (fun db installed job member => ?_) fun db action after reachable ticketed step =>
    ticketed.step (reachable_sound reachable) step
  rw [installed.2 .jobs (by decide) (by decide)] at member
  simp at member

theorem version_le_run {first last : Db} {actions : List Action} (reachable : (controlPlane settings).Reachable first)
    (run : (controlPlane settings).Run first actions last) (scope : Scope) :
    versionOf first.rows scope ≤ versionOf last.rows scope := by
  induction run with
  | nil => exact Nat.le_refl _
  | cons step _ ih =>
    exact (version_le_step (reachable_sound reachable) step scope).trans (ih (reachable.step step))

def entriesOf (after : Db) (effects : List (JobId × Cause)) : List Job :=
  effects.filterMap fun effect =>
    match effect.2 with
    | .enqueue _ => (after.rows .jobs).find? fun job => job.jobId = effect.1
    | _ => none

theorem mem_entriesOf (sound : Sound db) (progress : Progress effects db.rows after.rows) :
    job ∈ entriesOf after effects <-> Entered db after job := by
  rw [entriesOf, mem_filterMap]
  constructor
  · rintro ⟨⟨jobId, cause⟩, effect, found⟩
    cases cause with
    | enqueue ticket =>
      have member := mem_of_find?_eq_some found
      obtain rfl : job.jobId = jobId := by simpa using find?_some found
      exact (progress.entered sound effect member).1
    | operation | cleanup => simp at found
  · intro entered
    refine ⟨_, entered.issued sound progress, ?_⟩
    -- The identifier of a job is a key of its table.
    have there : ((after.rows .jobs).find? fun row => row.jobId = job.jobId).isSome := by
      rw [find?_isSome]
      exact ⟨job, entered.1, by simp⟩
    obtain ⟨found, is⟩ := Option.isSome_iff_exists.1 there
    have named : found.jobId = job.jobId := by simpa using find?_some is
    rw [is, job_unique after (mem_of_find?_eq_some is) entered.1 named]

theorem entriesOf_increasing (sound : Sound db) (transacts : Transacts cleans effects db.rows after.rows) :
    (entriesOf after effects).Pairwise fun job other => job.readySequence < other.readySequence := by
  have tickets := pairwise_filterMap.1 transacts.increasing
  refine pairwise_filterMap.2 (tickets.imp_of_mem ?_)
  rintro ⟨jobId, cause⟩ ⟨otherId, other⟩ effect later increasing job found next known
  cases cause with
  | operation | cleanup => simp at found
  | enqueue ticket =>
    cases other with
    | operation | cleanup => simp at known
    | enqueue following =>
      obtain rfl : job.jobId = jobId := by simpa using find?_some found
      obtain rfl : next.jobId = otherId := by simpa using find?_some known
      rw [(transacts.progress.entered sound effect (mem_of_find?_eq_some found)).2,
        (transacts.progress.entered sound later (mem_of_find?_eq_some known)).2]
      exact increasing ticket rfl following rfl

/-- Each entry into the queue takes a place behind every place that was given out before. -/
theorem entries_ordered {first : Db} {actions : List Action} (reachable : (controlPlane settings).Reachable first)
    (run : (controlPlane settings).Run first actions db)
    (step : (controlPlane settings).step db action after) :
    (∀ job, Entered db after job ->
      versionOf db.rows .global ≤ job.readySequence ∧ job.readySequence < versionOf after.rows .global ∧
        (∀ other ∈ first.rows .jobs, other.readySequence < job.readySequence) ∧
        ∀ other ∈ db.rows .jobs, other.readySequence < job.readySequence) ∧
      (∃ entries : List Job, (∀ job, job ∈ entries <-> Entered db after job) ∧
        entries.Pairwise fun job other => job.readySequence < other.readySequence) ∧
      ∀ job ∈ after.rows .jobs, ¬Entered db after job ->
        ∃ old ∈ db.rows .jobs, old.jobId = job.jobId ∧ old.readySequence = job.readySequence := by
  have sound := reachable_sound (reachable.run run)
  obtain ⟨_, effects, transacts⟩ := step_spec sound step
  refine ⟨fun job entered => ?_, ⟨entriesOf after effects, fun job => mem_entriesOf sound transacts.progress,
    entriesOf_increasing sound transacts⟩, fun job => transacts.progress.place_kept sound⟩
  obtain ⟨low, high⟩ := transacts.ticket_bounds (entered.issued sound transacts.progress)
  refine ⟨low, high, fun other member => ?_, fun other member => ?_⟩
  · exact (reachable_ticketed reachable other member).trans_le
      ((version_le_run reachable run _).trans low)
  · exact (reachable_ticketed (reachable.run run) other member).trans_le low

end

theorem sessionPromote_enters :
    let before := perform localSettings installation recoveredSession
    let after := committed before (sessionPromote.execute localSettings before)
    before.rows .jobs ≠ [] ∧ ∃ job ∈ after.rows .jobs, job.state = .queued ∧
      ∀ old ∈ before.rows .jobs, old.jobId = job.jobId -> old.state ≠ .queued := by
  decide +kernel

theorem entries_ordered_session :
    let before := perform localSettings installation recoveredSession
    let after := committed before (sessionPromote.execute localSettings before)
    ∃ job, Entered before after job ∧ ∃ old ∈ before.rows .jobs, old.readySequence < job.readySequence := by
  intro before after
  obtain ⟨nonempty, job, entered⟩ := sessionPromote_enters
  obtain ⟨old, member⟩ := exists_mem_of_ne_nil _ nonempty
  have ordered := (entries_ordered (perform_reachable localSettings [])
    (perform_run localSettings installation recoveredSession) rfl).1 job entered
  exact ⟨job, entered, old, member, ordered.2.2.2 old member⟩

end Nexa
