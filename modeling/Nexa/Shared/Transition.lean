import Mathlib.Logic.Relation

namespace Transition

variable {State Action : Type}

structure System (State Action : Type) where
  initial : State -> Prop
  step : State -> Action -> State -> Prop

variable {first last : State} {actions : List Action}

namespace System

variable {system : System State Action}

inductive Run (system : System State Action) : State -> List Action -> State -> Prop where
  | nil (state : State) : Run system state [] state
  | cons {first next last : State} {action : Action} {rest : List Action}
      (step : system.step first action next) (run : Run system next rest last) :
      Run system first (action :: rest) last

inductive RunWhile (system : System State Action) (holds : State -> Prop) :
    State -> List Action -> State -> Prop where
  | nil (state : State) : RunWhile system holds state [] state
  | cons {first next last : State} {action : Action} {rest : List Action} (held : holds first)
      (step : system.step first action next) (run : RunWhile system holds next rest last) :
      RunWhile system holds first (action :: rest) last

def Reachable (system : System State Action) (state : State) : Prop :=
  ∃ first actions, system.initial first ∧ Run system first actions state

theorem Run.append {middle : State} {more : List Action}
    (run : Run system first actions middle) (rest : Run system middle more last) :
    Run system first (actions ++ more) last := by
  induction run with
  | nil => exact rest
  | cons step _ ih => exact .cons step (ih rest)

theorem Reachable.run (reachable : Reachable system first) (run : Run system first actions last) :
    Reachable system last := by
  obtain ⟨start, before, initial, prior⟩ := reachable
  exact ⟨start, before ++ actions, initial, prior.append run⟩

theorem Reachable.step {action : Action} (reachable : Reachable system first) (step : system.step first action last) :
    Reachable system last :=
  reachable.run (.cons step (.nil last))

theorem Run.invariant {holds : State -> Prop}
    (keeps : ∀ state action next, holds state -> system.step state action next -> holds next) (initial : holds first)
    (run : Run system first actions last) : holds last := by
  induction run with
  | nil => exact initial
  | cons step _ ih => exact ih (keeps _ _ _ initial step)

theorem Reachable.invariant {holds : State -> Prop} (initial : ∀ state, system.initial state -> holds state)
    (keeps : ∀ state action next, holds state -> system.step state action next -> holds next)
    {state : State} (reachable : Reachable system state) : holds state := by
  obtain ⟨first, actions, start, run⟩ := reachable
  exact run.invariant keeps (initial first start)

theorem Reachable.induct {holds : State -> Prop} (initial : ∀ state, system.initial state -> holds state)
    (keeps : ∀ state action next, Reachable system state -> holds state -> system.step state action next ->
      holds next)
    {state : State} (reachable : Reachable system state) : holds state := by
  obtain ⟨first, actions, start, run⟩ := reachable
  have inside : ∀ {first last : State} {actions : List Action}, Run system first actions last ->
      Reachable system first -> holds first -> holds last := by
    intro first last actions run
    induction run with
    | nil => exact fun _ => id
    | cons step _ ih => exact fun reachable held => ih (reachable.step step) (keeps _ _ _ reachable held step)
  exact inside run ⟨first, [], start, .nil first⟩ (initial first start)

theorem Run.relation {related : State -> State -> Prop} (refl : ∀ state, related state state)
    (trans : ∀ first next last, related first next -> related next last -> related first last)
    (steps : ∀ state action next, Reachable system state -> system.step state action next ->
      related state next) (reachable : Reachable system first)
    (run : Run system first actions last) : related first last := by
  induction run with
  | nil => exact refl _
  | cons step _ ih =>
    exact trans _ _ _ (steps _ _ _ reachable step) (ih (reachable.step step))

end System

end Transition
