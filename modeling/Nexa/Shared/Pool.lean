import Nexa.Shared.Program

namespace Interaction

open Function

/-- What a command does to the shared state, and what the end of a process leaves of it. -/
structure Shared (interface : Interface) (Process State : Type) where
  executes : Process -> State -> (command : interface.Command) -> interface.Answer command -> State -> Prop
  leaves : Process -> State -> State

structure Pool (interface : Interface) (Process State ε α : Type) where
  state : State
  running : Process -> Option (Program interface ε α)

inductive PoolEvent (Process Call : Type) where
  | start (process : Process) (call : Call)
  | execute (process : Process)
  | finish (process : Process)
  | fail (process : Process)
  | crash (process : Process)

variable {interface : Interface} {Process State Knowledge Call ε α : Type} [DecidableEq Process]

inductive Pool.Step (shared : Shared interface Process State) (program : Call -> Program interface ε α) :
    Pool interface Process State ε α -> PoolEvent Process Call -> Pool interface Process State ε α -> Prop where
  | start {state : State} {running : Process -> Option (Program interface ε α)} (process : Process)
      (call : Call) (idle : running process = none) :
      Step shared program ⟨state, running⟩ (.start process call)
        ⟨state, update running process (some (program call))⟩
  | execute {state next : State} {running : Process -> Option (Program interface ε α)} (process : Process)
      {command : interface.Command} {rest : interface.Answer command -> Program interface ε α}
      {answer : interface.Answer command} (current : running process = some (.call command rest))
      (executes : shared.executes process state command answer next) :
      Step shared program ⟨state, running⟩ (.execute process)
        ⟨next, update running process (some (rest answer))⟩
  | finish {state : State} {running : Process -> Option (Program interface ε α)} (process : Process)
      {value : α} (current : running process = some (.done value)) :
      Step shared program ⟨state, running⟩ (.finish process)
        ⟨shared.leaves process state, update running process none⟩
  | fail {state : State} {running : Process -> Option (Program interface ε α)} (process : Process)
      {error : ε} (current : running process = some (.raise error)) :
      Step shared program ⟨state, running⟩ (.fail process)
        ⟨shared.leaves process state, update running process none⟩
  | crash {state : State} {running : Process -> Option (Program interface ε α)} (process : Process)
      {program : Program interface ε α} (current : running process = some program) :
      Step shared _ ⟨state, running⟩ (.crash process)
        ⟨shared.leaves process state, update running process none⟩

def pools (shared : Shared interface Process State) (program : Call -> Program interface ε α)
    (initial : State -> Prop) :
    Transition.System (Pool interface Process State ε α) (PoolEvent Process Call) where
  initial := fun pool => initial pool.state ∧ ∀ process, pool.running process = none
  step := Pool.Step shared program

/-- An allowed command keeps the invariant, teaches its process, and leaves true what others know; so does an end. -/
structure Contract.Secure (contract : Contract interface Knowledge)
    (shared : Shared interface Process State) (holds : State -> Prop)
    (knows : Process -> State -> Knowledge -> Prop) (idle : Knowledge -> Prop) : Prop where
  executes {process : Process} {state next : State} {knowledge : Knowledge} {command : interface.Command}
    {answer : interface.Answer command} (held : holds state) (known : knows process state knowledge)
    (allowed : contract.allows knowledge command)
    (executes : shared.executes process state command answer next) :
    holds next ∧ (∃ learned, contract.learns knowledge command answer learned ∧ knows process next learned) ∧
      ∀ other knowledge, other ≠ process -> knows other state knowledge -> knows other next knowledge
  leaves (process : Process) {state : State} (held : holds state) :
    holds (shared.leaves process state) ∧
      (∃ knowledge, idle knowledge ∧ knows process (shared.leaves process state) knowledge) ∧
      ∀ other knowledge, other ≠ process -> knows other state knowledge ->
        knows other (shared.leaves process state) knowledge

section

variable {contract : Contract interface Knowledge} {shared : Shared interface Process State}
  {holds : State -> Prop} {knows : Process -> State -> Knowledge -> Prop} {idle : Knowledge -> Prop}
  {program : Call -> Program interface ε α} {ends : Knowledge -> α -> Prop} {fails : Knowledge -> ε -> Prop}

/-- The invariant holds, and every running program keeps to the contract with what it knows. -/
structure Pool.Lawful (contract : Contract interface Knowledge) (holds : State -> Prop)
    (knows : Process -> State -> Knowledge -> Prop) (idle : Knowledge -> Prop)
    (ends : Knowledge -> α -> Prop) (fails : Knowledge -> ε -> Prop)
    (pool : Pool interface Process State ε α) : Prop where
  held : holds pool.state
  waits : ∀ process, pool.running process = none -> ∃ knowledge, idle knowledge ∧ knows process pool.state knowledge
  keeps : ∀ process running, pool.running process = some running ->
    ∃ knowledge, knows process pool.state knowledge ∧ contract.wp ends fails running knowledge

theorem lawful_leaves (secure : contract.Secure shared holds knows idle) {process : Process} {state : State}
    {running : Process -> Option (Program interface ε α)}
    (lawful : Pool.Lawful contract holds knows idle ends fails ⟨state, running⟩) :
    Pool.Lawful contract holds knows idle ends fails
      ⟨shared.leaves process state, update running process none⟩ := by
  obtain ⟨kept, rests, stays⟩ := secure.leaves process lawful.held
  constructor
  case held => exact kept
  case waits =>
    intro other current
    by_cases same : other = process
    · exact same ▸ rests
    · simp only [update_of_ne same] at current
      obtain ⟨knowledge, idles, known⟩ := lawful.waits other current
      exact ⟨knowledge, idles, stays other knowledge same known⟩
  case keeps =>
    intro other later current
    by_cases same : other = process
    · subst same
      simp at current
    · simp only [update_of_ne same] at current
      obtain ⟨knowledge, known, wp⟩ := lawful.keeps other later current
      exact ⟨knowledge, stays other knowledge same known, wp⟩

theorem lawful_goes {process : Process} {state next : State} {later : Program interface ε α}
    {running : Process -> Option (Program interface ε α)} {knowledge : Knowledge}
    (lawful : Pool.Lawful contract holds knows idle ends fails ⟨state, running⟩) (kept : holds next)
    (known : knows process next knowledge) (wp : contract.wp ends fails later knowledge)
    (stays : ∀ other knowledge, other ≠ process -> knows other state knowledge -> knows other next knowledge) :
    Pool.Lawful contract holds knows idle ends fails
      ⟨next, update running process (some later)⟩ := by
  constructor
  case held => exact kept
  case waits =>
    intro other current
    have different : other ≠ process := by
      rintro rfl
      simp at current
    simp only [update_of_ne different] at current
    obtain ⟨waiting, idles, waited⟩ := lawful.waits other current
    exact ⟨waiting, idles, stays other waiting different waited⟩
  case keeps =>
    intro other program current
    by_cases same : other = process
    · subst same
      simp only [update_self, Option.some.injEq] at current
      exact current ▸ ⟨knowledge, known, wp⟩
    · simp only [update_of_ne same] at current
      obtain ⟨others, knew, kept⟩ := lawful.keeps other program current
      exact ⟨others, stays other others same knew, kept⟩

theorem lawful_pool_step (secure : contract.Secure shared holds knows idle)
    (starts : ∀ call knowledge, idle knowledge -> contract.wp ends fails (program call) knowledge)
    {pool next : Pool interface Process State ε α} {event : PoolEvent Process Call}
    (lawful : pool.Lawful contract holds knows idle ends fails)
    (step : Pool.Step shared program pool event next) :
    next.Lawful contract holds knows idle ends fails := by
  cases step with
  | start process call waits =>
    obtain ⟨knowledge, idles, known⟩ := lawful.waits process waits
    exact lawful_goes lawful lawful.held known (starts call knowledge idles) fun _ _ _ knew => knew
  | execute process current executes =>
    obtain ⟨knowledge, known, allowed, later⟩ := lawful.keeps _ _ current
    obtain ⟨kept, ⟨learned, learns, knownAfter⟩, stays⟩ := secure.executes lawful.held known allowed executes
    exact lawful_goes lawful kept knownAfter (later _ _ learns) stays
  | finish process current => exact lawful_leaves secure lawful
  | fail process current => exact lawful_leaves secure lawful
  | crash process current => exact lawful_leaves secure lawful

theorem lawful_of_pools {initial : State -> Prop} (secure : contract.Secure shared holds knows idle)
    (start : ∀ state, initial state ->
      holds state ∧ ∀ process, ∃ knowledge, idle knowledge ∧ knows process state knowledge)
    (starts : ∀ call knowledge, idle knowledge -> contract.wp ends fails (program call) knowledge)
    {pool : Pool interface Process State ε α} (reachable : (pools shared program initial).Reachable pool) :
    pool.Lawful contract holds knows idle ends fails := by
  refine reachable.invariant (fun first begins => ?_) (fun _ _ _ => lawful_pool_step secure starts)
  obtain ⟨held, waits⟩ := start _ begins.1
  refine ⟨held, fun process _ => waits process, fun process running current => ?_⟩
  rw [begins.2 process] at current
  cases current

end

end Interaction
