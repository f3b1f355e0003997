import Nexa.Shared.Outcome

/-! An action whose key is recorded changes nothing, so delivering actions any number of times commits each key once. -/

namespace Delivery

open Outcome List

variable {State Action Key ε : Type}

structure Protocol (State Action Key ε : Type) where
  execute : State -> Action -> Except ε State
  key : Action -> Option Key
  recorded : State -> Key -> Bool

structure Try (Action : Type) where
  action : Action
  aborted : Bool

namespace Protocol

variable (protocol : Protocol State Action Key ε)

def commit (state : State) (attempt : Try Action) : State := if attempt.aborted then state
  else
    match protocol.execute state attempt.action with
    | .ok next => next
    | .error _ => state

def run (state : State) (tries : List (Try Action)) : State := tries.foldl protocol.commit state

def repeats (state : State) (action : Action) : Bool := (protocol.key action).any (protocol.recorded state)

def firsts : State -> List (Try Action) -> List Action
  | _, [] => []
  | state, attempt :: rest =>
    if attempt.aborted then firsts state rest
    else
      match protocol.execute state attempt.action with
      | .error _ => firsts state rest
      | .ok next =>
        if protocol.repeats state attempt.action then firsts state rest
        else attempt.action :: firsts next rest

structure Lawful (holds : State -> Prop) : Prop where
  keeps : ∀ {state next action}, holds state -> protocol.execute state action = .ok next -> holds next
  replay : ∀ {state next action}, holds state -> protocol.execute state action = .ok next ->
    protocol.repeats state action = true -> next = state
  records : ∀ {state next action key}, holds state -> protocol.execute state action = .ok next ->
    (protocol.recorded next key = true <-> protocol.recorded state key = true ∨ protocol.key action = some key)

section

variable {protocol} {holds : State -> Prop} {state : State} {tries : List (Try Action)}

section

variable (lawful : protocol.Lawful holds)

include lawful

theorem Lawful.commit (initial : holds state) (attempt : Try Action) : holds (protocol.commit state attempt) := by
  unfold Protocol.commit
  split_ifs
  · exact initial
  · split
    next executed => exact lawful.keeps initial executed
    next => exact initial

theorem Lawful.run (initial : holds state) : holds (protocol.run state tries) := by
  induction tries generalizing state with
  | nil => exact initial
  | cons attempt rest ih => exact ih (lawful.commit initial attempt)

theorem Lawful.try_cases (initial : holds state) (attempt : Try Action) (rest : List (Try Action)) :
    (protocol.commit state attempt = state ∧ protocol.firsts state (attempt :: rest) = protocol.firsts state rest) ∨
      ∃ next, protocol.execute state attempt.action = .ok next ∧ protocol.commit state attempt = next ∧
        protocol.repeats state attempt.action = false ∧
        protocol.firsts state (attempt :: rest) = attempt.action :: protocol.firsts next rest := by
  by_cases aborted : attempt.aborted
  · exact .inl ⟨by simp [Protocol.commit, aborted], by simp [Protocol.firsts, aborted]⟩
  · cases executed : protocol.execute state attempt.action with
    | error failure =>
      exact .inl ⟨by simp [Protocol.commit, executed], by simp [Protocol.firsts, executed]⟩
    | ok next =>
      by_cases repeated : protocol.repeats state attempt.action
      · refine .inl ⟨?_, by simp [Protocol.firsts, executed, repeated]⟩
        simp [Protocol.commit, executed, lawful.replay initial executed repeated]
      · refine .inr ⟨next, rfl, ?_, by simpa using repeated, ?_⟩
        · simp [Protocol.commit, aborted, executed]
        · simp [Protocol.firsts, aborted, executed, repeated]

theorem Lawful.run_eq (initial : holds state) :
    (protocol.firsts state tries).foldlM protocol.execute state = .ok (protocol.run state tries) := by
  induction tries generalizing state with
  | nil => rfl
  | cons attempt rest ih =>
    change _ = Except.ok (protocol.run (protocol.commit state attempt) rest)
    rcases lawful.try_cases initial attempt rest with ⟨same, firsts⟩ | ⟨next, executed, done, _, firsts⟩
    · rw [same, firsts]
      exact ih initial
    · rw [done, firsts, foldlM_cons, executed]
      exact ih (lawful.keeps initial executed)

theorem Lawful.recorded_run (initial : holds state) (key : Key) :
    protocol.recorded (protocol.run state tries) key = true <->
      protocol.recorded state key = true ∨ key ∈ (protocol.firsts state tries).filterMap protocol.key := by
  induction tries generalizing state with
  | nil => simp [Protocol.run, Protocol.firsts]
  | cons attempt rest ih =>
    change protocol.recorded (protocol.run (protocol.commit state attempt) rest) key = true <-> _
    rcases lawful.try_cases initial attempt rest with ⟨same, firsts⟩ | ⟨next, executed, done, _, firsts⟩
    · rw [same, firsts]
      exact ih initial
    · rw [done, firsts, ih (lawful.keeps initial executed), lawful.records initial executed, filterMap_cons]
      cases protocol.key attempt.action with
      | none => simp
      | some own =>
        rw [Option.some_inj, mem_cons, or_assoc, @eq_comm _ own key]

theorem Lawful.firsts_nodup (initial : holds state) :
    ((protocol.firsts state tries).filterMap protocol.key).Nodup ∧
      ∀ key ∈ (protocol.firsts state tries).filterMap protocol.key, protocol.recorded state key = false := by
  induction tries generalizing state with
  | nil => simp [Protocol.firsts]
  | cons attempt rest ih =>
    rcases lawful.try_cases initial attempt rest with ⟨_, firsts⟩ | ⟨next, executed, _, fresh, firsts⟩
    · rw [firsts]
      exact ih initial
    · obtain ⟨nodup, absent⟩ := ih (lawful.keeps initial executed)
      have unrecorded : ∀ key ∈ (protocol.firsts next rest).filterMap protocol.key,
          protocol.recorded state key = false ∧ protocol.key attempt.action ≠ some key := by
        intro key member
        have grows : protocol.recorded next key = true <-> _ := lawful.records initial executed
        rw [absent key member, Bool.false_eq_true, false_iff, not_or, Bool.not_eq_true] at grows
        exact grows
      rw [firsts, filterMap_cons]
      cases own : protocol.key attempt.action with
      | none => exact ⟨nodup, fun key member => (unrecorded key member).1⟩
      | some key =>
        refine ⟨nodup_cons.2 ⟨fun member => ?_, nodup⟩, forall_mem_cons.2 ⟨?_, ?_⟩⟩
        · exact (unrecorded key member).2 own
        · simpa [Protocol.repeats, own] using fresh
        · exact fun other member => (unrecorded other member).1

end

end

end Protocol

end Delivery
