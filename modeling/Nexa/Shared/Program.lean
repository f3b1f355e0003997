import Mathlib.Tactic.Common
import Nexa.Shared.Transition

/-! A program returns, raises, or gives a command and goes on with the answer. A contract says which commands
knowledge allows and what an answer teaches. -/

namespace Interaction

structure Interface where
  Command : Type
  Answer : Command -> Type

inductive Program (interface : Interface) (ε α : Type) where
  | done (value : α)
  | raise (error : ε)
  | call (command : interface.Command) (next : interface.Answer command -> Program interface ε α)

namespace Program

variable {interface : Interface} {ε α β : Type}

def bind : Program interface ε α -> (α -> Program interface ε β) -> Program interface ε β
  | done value, next => next value
  | raise error, _ => raise error
  | call command rest, next => call command fun answer => (rest answer).bind next

instance : Monad (Program interface ε) where
  pure := done
  bind := bind

def perform (command : interface.Command) : Program interface ε (interface.Answer command) := call command done

def handle : Program interface ε α -> (ε -> Program interface ε α) -> Program interface ε α
  | done value, _ => done value
  | raise error, handler => handler error
  | call command rest, handler => call command fun answer => (rest answer).handle handler

def demand (condition : Prop) [Decidable condition] (error : ε) : Program interface ε Unit :=
  if condition then done () else raise error

end Program

section

variable {interface : Interface} {ε α β : Type} {allowed : interface.Command -> Prop} {raises : ε -> Prop}

def Program.Confined (allowed : interface.Command -> Prop) (raises : ε -> Prop) :
    Program interface ε α -> Prop
  | .done _ => True
  | .raise error => raises error
  | .call command next => allowed command ∧ ∀ answer, (next answer).Confined allowed raises

theorem confined_pure (value : α) : (pure value : Program interface ε α).Confined allowed raises := trivial

theorem confined_perform {command : interface.Command} (allows : allowed command) :
    (Program.perform command : Program interface ε _).Confined allowed raises :=
  ⟨allows, fun _ => trivial⟩

theorem confined_bind {program : Program interface ε α} {next : α -> Program interface ε β}
    (first : program.Confined allowed raises) (second : ∀ value, (next value).Confined allowed raises) :
    (program >>= next).Confined allowed raises := by
  induction program with
  | done value => exact second value
  | raise error => exact first
  | call command rest ih => exact ⟨first.1, fun answer => ih answer (first.2 answer)⟩

theorem confined_demand {condition : Prop} [Decidable condition] {error : ε} (raising : raises error) :
    (Program.demand condition error : Program interface ε Unit).Confined allowed raises := by
  unfold Program.demand
  split_ifs
  · trivial
  · exact raising

theorem confined_handle {program : Program interface ε α} {handler : ε -> Program interface ε α}
    (first : program.Confined allowed raises)
    (second : ∀ error, raises error -> (handler error).Confined allowed raises) :
    (program.handle handler).Confined allowed raises := by
  induction program with
  | done value => trivial
  | raise error => exact second error first
  | call command rest ih => exact ⟨first.1, fun answer => ih answer (first.2 answer)⟩

end

structure Contract (interface : Interface) (Knowledge : Type) where
  allows : Knowledge -> interface.Command -> Prop
  learns : Knowledge -> (command : interface.Command) -> interface.Answer command -> Knowledge -> Prop

section

variable {interface : Interface} {Knowledge ε α β : Type}

def Contract.wp (contract : Contract interface Knowledge) (ends : Knowledge -> α -> Prop)
    (fails : Knowledge -> ε -> Prop) : Program interface ε α -> Knowledge -> Prop
  | .done value, knowledge => ends knowledge value
  | .raise error, knowledge => fails knowledge error
  | .call command next, knowledge =>
    contract.allows knowledge command ∧
      ∀ answer learned, contract.learns knowledge command answer learned ->
        contract.wp ends fails (next answer) learned

variable {contract : Contract interface Knowledge} {knowledge : Knowledge}
  {ends : Knowledge -> β -> Prop} {fails : Knowledge -> ε -> Prop}

@[simp]
theorem wp_done (value : β) :
    contract.wp ends fails (.done value) knowledge <-> ends knowledge value := Iff.rfl

@[simp]
theorem wp_raise (error : ε) :
    contract.wp ends fails (.raise error) knowledge <-> fails knowledge error := Iff.rfl

@[simp]
theorem wp_demand {condition : Prop} [Decidable condition] {error : ε} {ends : Knowledge -> Unit -> Prop} :
    contract.wp ends fails (.demand condition error) knowledge <->
      (condition -> ends knowledge ()) ∧ (¬ condition -> fails knowledge error) := by
  unfold Program.demand
  split_ifs with holds <;> simp [holds]

@[simp]
theorem wp_bind (program : Program interface ε α) (next : α -> Program interface ε β) :
    contract.wp ends fails (program >>= next) knowledge <->
      contract.wp (fun learned value => contract.wp ends fails (next value) learned) fails program
        knowledge := by
  induction program generalizing knowledge with
  | done value => exact Iff.rfl
  | raise error => exact Iff.rfl
  | call command rest ih =>
    exact and_congr_right fun _ => forall_congr' fun answer => forall_congr' fun learned =>
      imp_congr_right fun _ => ih answer

@[simp]
theorem wp_handle (program : Program interface ε β) (handler : ε -> Program interface ε β) :
    contract.wp ends fails (program.handle handler) knowledge <->
      contract.wp ends (fun learned error => contract.wp ends fails (handler error) learned) program
        knowledge := by
  induction program generalizing knowledge with
  | done value => exact Iff.rfl
  | raise error => exact Iff.rfl
  | call command rest ih =>
    exact and_congr_right fun _ => forall_congr' fun answer => forall_congr' fun learned =>
      imp_congr_right fun _ => ih answer

theorem wp_mono {more : Knowledge -> β -> Prop} {worse : Knowledge -> ε -> Prop}
    {program : Program interface ε β} (kept : contract.wp ends fails program knowledge)
    (ending : ∀ learned value, ends learned value -> more learned value)
    (failing : ∀ learned error, fails learned error -> worse learned error) :
    contract.wp more worse program knowledge := by
  induction program generalizing knowledge with
  | done value => exact ending _ _ kept
  | raise error => exact failing _ _ kept
  | call command rest ih =>
    exact ⟨kept.1, fun answer learned learns => ih answer (kept.2 answer learned learns)⟩

end

structure Environment (interface : Interface) (State : Type) where
  executes : State -> (command : interface.Command) -> interface.Answer command -> State -> Prop
  happens : State -> State -> Prop

structure Session (interface : Interface) (State ε α : Type) where
  state : State
  running : Option (Program interface ε α)
  returned : List α

inductive Event (Call : Type) where
  | call (call : Call)
  | execute
  | finish
  | fail
  | crash
  | happen

variable {interface : Interface} {State Knowledge Call ε α : Type}

inductive Session.Step (environment : Environment interface State) (program : Call -> Program interface ε α) :
    Session interface State ε α -> Event Call -> Session interface State ε α -> Prop where
  | call {state : State} {returned : List α} (call : Call) :
      Step environment program ⟨state, none, returned⟩ (.call call) ⟨state, some (program call), returned⟩
  | execute {state next : State} {returned : List α} {command : interface.Command}
      {rest : interface.Answer command -> Program interface ε α} {answer : interface.Answer command}
      (executes : environment.executes state command answer next) :
      Step environment program ⟨state, some (.call command rest), returned⟩ .execute
        ⟨next, some (rest answer), returned⟩
  | finish {state : State} {returned : List α} (value : α) :
      Step environment program ⟨state, some (.done value), returned⟩ .finish
        ⟨state, none, value :: returned⟩
  | fail {state : State} {returned : List α} (error : ε) :
      Step environment program ⟨state, some (.raise error), returned⟩ .fail ⟨state, none, returned⟩
  | crash {state : State} {returned : List α} (running : Program interface ε α) :
      Step environment program ⟨state, some running, returned⟩ .crash ⟨state, none, returned⟩
  | happen {state next : State} {running : Option (Program interface ε α)} {returned : List α}
      (happens : environment.happens state next) :
      Step environment program ⟨state, running, returned⟩ .happen ⟨next, running, returned⟩

def sessions (environment : Environment interface State) (program : Call -> Program interface ε α)
    (initial : State -> Prop) : Transition.System (Session interface State ε α) (Event Call) where
  initial := fun session => initial session.state ∧ session.running = none ∧ session.returned = []
  step := Session.Step environment program

/-- Allowed commands and what else happens keep the invariant, and what a program knows stays true. -/
structure Contract.Sound (contract : Contract interface Knowledge)
    (environment : Environment interface State) (holds : State -> Prop) (knows : State -> Knowledge -> Prop)
    (relates : State -> State -> Prop) : Prop where
  executes {state next : State} {knowledge : Knowledge} {command : interface.Command}
    {answer : interface.Answer command} (held : holds state) (known : knows state knowledge)
    (allowed : contract.allows knowledge command)
    (executes : environment.executes state command answer next) :
    holds next ∧ relates state next ∧ ∃ learned, contract.learns knowledge command answer learned ∧ knows next learned
  happens {state next : State} (held : holds state) (happens : environment.happens state next) :
    holds next ∧ relates state next ∧ ∀ knowledge, knows state knowledge -> knows next knowledge
  refl (state : State) : relates state state

variable {session next : Session interface State ε α}

section

variable {contract : Contract interface Knowledge} {environment : Environment interface State}
  {holds : State -> Prop} {knows : State -> Knowledge -> Prop} {relates : State -> State -> Prop}
  {program : Call -> Program interface ε α} {ends : Knowledge -> α -> Prop}

def Session.Lawful (contract : Contract interface Knowledge) (holds : State -> Prop)
    (knows : State -> Knowledge -> Prop) (ends : Knowledge -> α -> Prop)
    (session : Session interface State ε α) : Prop :=
  holds session.state ∧
    ∀ running, session.running = some running ->
      ∃ knowledge, knows session.state knowledge ∧ contract.wp ends (fun _ _ => True) running knowledge

section

variable (sound : contract.Sound environment holds knows relates)

include sound

theorem lawful_step
    (starts : ∀ call state, holds state ->
      ∃ knowledge, knows state knowledge ∧ contract.wp ends (fun _ _ => True) (program call) knowledge)
    {event : Event Call}
    (lawful : session.Lawful contract holds knows ends)
    (step : Session.Step environment program session event next) :
    next.Lawful contract holds knows ends := by
  obtain ⟨held, keeps⟩ := lawful
  cases step with
  | call call =>
    refine ⟨held, fun running current => ?_⟩
    cases current
    exact starts call _ held
  | execute executes =>
    obtain ⟨knowledge, known, allowed, later⟩ := keeps _ rfl
    obtain ⟨kept, -, learned, learns, knownAfter⟩ := sound.executes held known allowed executes
    refine ⟨kept, fun running current => ?_⟩
    cases current
    exact ⟨learned, knownAfter, later _ _ learns⟩
  | finish value => exact ⟨held, fun running current => nomatch current⟩
  | fail error => exact ⟨held, fun running current => nomatch current⟩
  | crash running => exact ⟨held, fun running current => nomatch current⟩
  | happen happens =>
    obtain ⟨kept, -, stays⟩ := sound.happens held happens
    refine ⟨kept, fun running current => ?_⟩
    obtain ⟨knowledge, known, wp⟩ := keeps running current
    exact ⟨knowledge, stays _ known, wp⟩

theorem lawful_of_reachable {initial : State -> Prop} (start : ∀ state, initial state -> holds state)
    (starts : ∀ call state, holds state ->
      ∃ knowledge, knows state knowledge ∧ contract.wp ends (fun _ _ => True) (program call) knowledge)
    (reachable : (sessions environment program initial).Reachable session) :
    session.Lawful contract holds knows ends := by
  refine reachable.invariant (fun first begins => ?_) (fun _ _ _ => lawful_step sound starts)
  refine ⟨start _ begins.1, fun running current => ?_⟩
  rw [begins.2.1] at current
  cases current

theorem relates_step {event : Event Call} (lawful : session.Lawful contract holds knows ends)
    (step : Session.Step environment program session event next) :
    relates session.state next.state := by
  obtain ⟨held, keeps⟩ := lawful
  cases step with
  | execute executes =>
    obtain ⟨knowledge, known, allowed, -⟩ := keeps _ rfl
    exact (sound.executes held known allowed executes).2.1
  | happen happens => exact (sound.happens held happens).2.1
  | call | finish | fail | crash => exact sound.refl _

theorem promised_step {promise : State -> α -> Prop}
    (promises : ∀ state knowledge value, holds state -> knows state knowledge -> ends knowledge value ->
      promise state value)
    (stays : ∀ state next value, relates state next -> promise state value -> promise next value) {event : Event Call}
    (lawful : session.Lawful contract holds knows ends)
    (promised : ∀ value ∈ session.returned, promise session.state value)
    (step : Session.Step environment program session event next) :
    ∀ value ∈ next.returned, promise next.state value := by
  have related := relates_step sound lawful step
  cases step with
  | finish value =>
    obtain ⟨knowledge, known, ended⟩ := lawful.2 _ rfl
    intro returned member
    obtain rfl | before := List.mem_cons.1 member
    · exact promises _ _ _ lawful.1 known ended
    · exact promised _ before
  | call | execute | fail | crash | happen =>
    exact fun value member => stays _ _ value related (promised value member)

end

end

end Interaction
