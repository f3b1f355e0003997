import Nexa.Lifecycle.Machine

namespace Nexa

def published : JobState -> List JobState
  | .queued => [.dispatching, .cancelled]
  | .dispatching => [.running, .pausing, .recovering, .cancelling]
  | .running => [.succeeded, .pausing, .recovering, .cancelling]
  | .pausing => [.paused, .running, .recovering, .cancelling]
  | .paused => [.queued, .cancelled]
  | .recovering => [.retryWait, .paused, .failed, .cancelling]
  | .retryWait => [.queued, .cancelled]
  | .cancelling => [.cancelled]
  | .succeeded | .failed | .cancelled => []

variable {cause : Cause} {v next : Lifecycle}

theorem Move.published (move : Move v cause next) (changed : next.state ≠ v.state) :
    next.state ∈ published v.state := by
  cases move with
  | note | progress | leftover | releaseSucceeded => exact absurd rfl changed
  | start dispatching held desired =>
    rename_i intent resources
    cases intent <;> simp [dispatching, Nexa.published]
  | fence failure active held =>
    obtain state | state | state := active_cases active <;> simp [state, Nexa.published]
  | cancelWaiting waiting =>
    obtain state | state | state := immediateCancel_cases waiting <;> simp [state, Nexa.published]
  | cancelActive active held =>
    obtain state | state | state := active_cases active <;> simp [state, Nexa.published]
  | _ => simp_all [Nexa.published]

theorem Move.terminal (move : Move v cause next) (ended : v.state.terminal = true) : next.state = v.state := by
  by_contra changed
  have reached := move.published changed
  cases state : v.state <;> simp_all [JobState.terminal, Nexa.published]

theorem Move.version_lt (move : Move v cause next) (changed : next.state ≠ v.state) : v.version < next.version := by
  cases move with
  | note | progress | leftover => exact absurd rfl changed
  | _ => exact Nat.lt_succ_self v.version

theorem Move.fence_le (move : Move v cause next) : v.fence ≤ next.fence := by
  cases move <;> simp

theorem Move.desired_cancelled (fits : Fits v) (move : Move v cause next) (asked : v.desired = .cancelled) :
    next.desired = .cancelled := by
  have state := fits.cancelled.1 asked
  cases move with
  | pause running desired => simp_all
  | abortPause pausing plain held => simp_all
  | resume ticket paused => simp_all
  | _ => simp_all

theorem Move.retryCount (move : Move v cause next) (changed : next.retryCount ≠ v.retryCount) :
    cause = .cleanup ∧ next.retryCount = v.retryCount + 1 ∧ next.state = .retryWait ∧
      ∃ resources, v.custody = .fenced (some .infrastructure) resources := by
  cases move with
  | releaseRetry recovering held budget => exact ⟨rfl, rfl, rfl, _, held⟩
  | _ => exact absurd rfl changed

theorem Move.enqueue {ticket : Nat} (move : Move v (.enqueue ticket) next) :
    next.ticket = ticket ∧ next.state = .queued ∧ v.state ≠ .queued := by
  cases move with
  | resume ticket paused => exact ⟨rfl, rfl, by simp [paused]⟩
  | promote ticket waiting => exact ⟨rfl, rfl, by simp [waiting]⟩

theorem Move.ticket_eq (move : Move v cause next) (kept : ∀ ticket, cause ≠ .enqueue ticket) :
    next.ticket = v.ticket ∧ (next.state = .queued -> v.state = .queued) := by
  cases move with
  | note => exact ⟨rfl, id⟩
  | progress => exact ⟨rfl, id⟩
  | leftover => exact ⟨rfl, id⟩
  | releaseSucceeded => exact ⟨rfl, id⟩
  | resume ticket paused => exact absurd rfl (kept ticket)
  | promote ticket waiting => exact absurd rfl (kept ticket)
  | start dispatching held desired =>
    rename_i intent resources
    refine ⟨rfl, fun queued => ?_⟩
    cases intent <;> simp at queued
  | _ => exact ⟨rfl, fun queued => by simp at queued⟩

theorem Move.scopes (move : Move v cause next) : next.scopes = v.scopes := by
  cases move <;> rfl

end Nexa
