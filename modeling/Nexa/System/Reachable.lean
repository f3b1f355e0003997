import Nexa.System.Progress

namespace Nexa

open Relational Outcome Transition List Tables

variable {item : JobId × Cause}

section

variable {before after : Tables nexaSchema} {effects : List (JobId × Cause)}

theorem slice_of_others {jobId other : JobId} (others : after.others jobId = before.others jobId)
    (different : other ≠ jobId) : after.slice other = before.slice other := by
  rw [← slice_others after different, others, slice_others before different]

theorem Effect.slice {other : JobId} (effect : Effect item before after)
    (different : other ≠ item.1) : after.slice other = before.slice other := by
  cases effect with
  | moves moves => exact slice_of_others moves.others different
  | creates creates => exact slice_of_others creates.others different

theorem mem_jobs_slice {rows : Tables nexaSchema} {jobId : JobId} {job : Job} :
    job ∈ rows.slice jobId .jobs <-> job ∈ rows .jobs ∧ job.jobId = jobId := by
  rw [mem_slice]
  exact and_congr_right fun _ => Option.some_inj

theorem Tracked.represents {cause : Cause} {jobId : JobId} (tracked : Tracked before)
    (moves : Moves cause jobId before after) : ∃ v, Represents (before.slice jobId) v ∧ Fits v := by
  obtain ⟨job, inside⟩ := exists_mem_of_ne_nil _ moves.present
  obtain ⟨member, rfl⟩ := mem_jobs_slice.1 inside
  exact tracked job member

theorem Effect.represented (effect : Effect item before after)
    (tracked : Tracked before) : ∃ next, Represents (after.slice item.1) next ∧ Fits next := by
  cases effect with
  | moves moves =>
    obtain ⟨v, represents, fits⟩ := tracked.represents moves
    obtain ⟨next, move, represented, _⟩ := moves.move v represents fits
    exact ⟨next, represented, move.fits fits⟩
  | creates creates =>
    obtain ⟨tenantId, submitter, maxRetries, represented, _⟩ := creates.accepted
    exact ⟨_, represented, accepted_fits tenantId submitter maxRetries _⟩

theorem Effect.tracked (effect : Effect item before after) (tracked : Tracked before) : Tracked after := by
  intro job member
  by_cases same : job.jobId = item.1
  · rw [same]
    exact effect.represented tracked
  · have inside : job ∈ after.slice job.jobId .jobs := mem_jobs_slice.2 ⟨member, rfl⟩
    rw [effect.slice same] at inside ⊢
    exact tracked job (mem_jobs_slice.1 inside).1

theorem Effect.balanced (effect : Effect item before after)
    (tracked : Tracked before) (balanced : Balanced before) : Balanced after := by
  cases effect with
  | moves moves =>
    obtain ⟨v, represents, fits⟩ := tracked.represents moves
    exact moves.balanced represents fits balanced
  | creates creates => exact creates.balanced balanced

section

variable (progress : Progress effects before after)

include progress

theorem Progress.tracked (tracked : Tracked before) : Tracked after := by
  induction progress with
  | quiet quiet => exact tracked.of_quiet quiet
  | cons effect _ _ ih => exact ih (effect.tracked tracked)

theorem Progress.balanced (tracked : Tracked before) (balanced : Balanced before) : Balanced after := by
  induction progress with
  | quiet quiet => exact quiet.balanced balanced
  | cons effect _ _ ih => exact ih (effect.tracked tracked) (effect.balanced tracked balanced)

theorem Progress.slice {other : JobId}
    (different : other ∉ effects.map Prod.fst) : after.slice other = before.slice other := by
  induction progress with
  | quiet quiet => exact quiet.slice other
  | cons effect _ _ ih =>
    simp only [map_cons, mem_cons, not_or] at different
    rw [ih different.2, effect.slice different.1]

theorem Progress.moves {jobId : JobId} {v : Lifecycle}
    (represents : Represents (before.slice jobId) v) (fits : Fits v) :
    (jobId ∉ effects.map Prod.fst ∧ after.slice jobId = before.slice jobId) ∨
      ∃ cause next, (jobId, cause) ∈ effects ∧ Move v cause next ∧
        Represents (after.slice jobId) next := by
  induction progress with
  | quiet quiet => exact .inl ⟨by simp, quiet.slice jobId⟩
  | @cons item rest before between after effect different progress ih =>
    by_cases same : jobId = item.1
    · subst same
      have kept := progress.slice different
      cases effect with
      | moves moves =>
        obtain ⟨next, move, represented, _⟩ := moves.move v represents fits
        exact .inr ⟨_, next, mem_cons_self, move, kept ▸ represented⟩
      | creates creates =>
        obtain ⟨job, only, _⟩ := represents.job
        rw [creates.absent] at only
        simp at only
    · have kept := effect.slice same
      rcases ih (kept.symm ▸ represents) with ⟨outside, slice⟩ | ⟨cause, next, member, move, represented⟩
      · exact .inl ⟨by simp [same, outside], slice.trans kept⟩
      · exact .inr ⟨cause, next, mem_cons_of_mem _ member, move, represented⟩

end

end

structure Sound (db : Db) : Prop where
  tracked : Tracked db.rows
  balanced : Balanced db.rows

theorem Installed.sound {db : Db} (installed : Installed db) : Sound db := by
  have jobs : db.rows .jobs = [] := installed.2 _ (by decide) (by decide)
  have allocations : db.rows .allocations = [] := installed.2 _ (by decide) (by decide)
  have counters : db.rows .admissionCounters = [] := installed.2 _ (by decide) (by decide)
  refine ⟨fun job member => ?_, fun scope => ?_⟩
  · rw [jobs] at member
    simp at member
  · simp [outstandingOf, activeOf, countersAt, unfinishedIn, heldIn, jobs, allocations, counters]

section

variable {settings : Settings} {db after : Db} {action : Action}

theorem step_spec (sound : Sound db) (step : (controlPlane settings).step db action after) :
    Frame action.writes db.rows after.rows ∧
      ∃ effects, Transacts action.isCleanup effects db.rows after.rows := by
  change after = committed db (action.execute settings db) at step
  cases done : action.execute settings db with
  | ok committed =>
    rw [done] at step
    exact step ▸ Action.execute_spec sound.tracked done
  | error failure =>
    rw [done] at step
    exact step ▸ ⟨.refl _ _, (Progresses.proceeds (.quiet (.refl _))).transacts _⟩

theorem Sound.step (sound : Sound db) (step : (controlPlane settings).step db action after) : Sound after := by
  obtain ⟨_, effects, transacts⟩ := step_spec sound step
  exact ⟨transacts.progress.tracked sound.tracked, transacts.progress.balanced sound.tracked sound.balanced⟩

theorem reachable_sound (reachable : (controlPlane settings).Reachable db) : Sound db :=
  reachable.invariant (fun _ => Installed.sound) fun _ _ _ sound step => sound.step step

end

end Nexa
