import Nexa.Shared.Locking

namespace Locking

open Interaction List Function

variable {outer : Interface} {Process Key Row Label ε α Call : Type} [Keyed Row Key] [DecidableEq Key]
  [DecidableEq Process]

def anything : Shared outer Process Unit where
  executes := fun _ _ _ _ _ => True
  leaves := fun _ state => state

def frees (processes : List Process) (opened : Process -> Option (Transaction Key Row Label))
    (process : Process) (key : Key) (strength : Strength) : Bool :=
  processes.all fun other =>
    other = process ∨ (opened other).all fun transaction =>
      transaction.held.all fun taken => taken.1 ≠ key ∨ strength.conflicts taken.2 = false

omit [Keyed Row Key] in
theorem free_of_frees {processes : List Process} {opened : Process -> Option (Transaction Key Row Label)}
    {process : Process} {key : Key} {strength : Strength}
    (others : ∀ other, other ∉ processes -> opened other = none)
    (clear : frees processes opened process key strength = true) : Free opened process key strength := by
  intro other transaction different current taken held
  have member : other ∈ processes := by
    by_contra absent
    rw [others other absent] at current
    cases current
  have checked := all_eq_true.1 clear other member
  simp only [different, current, Option.all_some, false_or, decide_eq_true_eq, all_eq_true] at checked
  have apart := checked (key, taken) held
  simpa using apart

def answer (free : Key -> Strength -> Bool) (chronicle : Chronicle Key Row Label)
    (transaction : Transaction Key Row Label) :
    (command : Command outer Key Row Label ε) -> Option (command.Answer × Transaction Key Row Label)
  | .select wanted =>
    let rows := (transaction.view chronicle).filter wanted
    some (rows, transaction.noting chronicle rows)
  | .acquire key strength =>
    match lookup (transaction.view chronicle) key with
    | none => some (none, transaction)
    | some row =>
      if free key strength then
        some (some row, (transaction.noting chronicle [row]).holding [key] strength)
      else none
  | .claim key strength => if free key strength then some ((), transaction.holding [key] strength) else none
  | .insert row =>
    if (transaction.view chronicle).any (clashes row) then some (false, transaction)
    else if (Keyed.key row :: Keyed.uniques row).all fun key => free key .update then
      some (true, (transaction.writing (.put row)).holding (Keyed.key row :: Keyed.uniques row) .update)
    else none
  | .put row =>
    if free (Keyed.key row) .noKeyUpdate then
      some ((), (transaction.writing (.put row)).holding [Keyed.key row] .noKeyUpdate)
    else none
  | .erase key =>
    if free key .update then some ((), (transaction.writing (.erase key)).holding [key] .update) else none
  | _ => none

theorem statement_of_answer {free : Key -> Strength -> Bool} {holds : Key -> Strength -> Prop}
    (sound : ∀ key strength, free key strength = true -> holds key strength)
    {chronicle : Chronicle Key Row Label} {transaction next : Transaction Key Row Label}
    {command : Command outer Key Row Label ε} {value : command.Answer}
    (answered : answer free chronicle transaction command = some (value, next)) :
    Statement chronicle holds transaction command value next := by
  cases command with
  | select wanted =>
    cases answered
    exact .select wanted
  | acquire key strength =>
    simp only [answer] at answered
    cases found : lookup (transaction.view chronicle) key with
    | none =>
      rw [found] at answered
      cases answered
      exact .missing found
    | some row =>
      rw [found] at answered
      simp only at answered
      split_ifs at answered with clear
      cases answered
      exact .acquire found (sound key strength clear)
  | claim key strength =>
    simp only [answer] at answered
    split_ifs at answered with clear
    cases answered
    exact .claim (sound key strength clear)
  | insert row =>
    simp only [answer] at answered
    split_ifs at answered with collides clear
    · cases answered
      exact .refuse collides
    · cases answered
      refine .insert (by simpa using collides) fun key member => sound key _ ?_
      exact all_eq_true.1 clear key member
  | put row =>
    simp only [answer] at answered
    split_ifs at answered with clear
    cases answered
    exact .put (sound _ _ clear)
  | erase key =>
    simp only [answer] at answered
    split_ifs at answered with clear
    cases answered
    exact .erase (sound _ _ clear)
  | begin | commit | rollback | outer => simp [answer] at answered

def respond (processes : List Process) (supplied : (command : outer.Command) -> outer.Answer command)
    (process : Process) (world : World Process Key Row Label ε Unit) :
    (command : Command outer Key Row Label ε) -> Option (command.Answer × World Process Key Row Label ε Unit)
  | .begin label =>
    if (world.opened process).isNone then
      some ((), { world with opened := update world.opened process (some (.start label)) })
    else none
  | .commit =>
    (world.opened process).map fun transaction =>
      ((), { world with
        chronicle := world.chronicle.extend transaction.entry
        opened := update world.opened process none })
  | .rollback error =>
    (world.opened process).map fun _ =>
      ((), { world with
        opened := update world.opened process none
        failures := error :: world.failures })
  | .outer command => some (supplied command, world)
  | command =>
    (world.opened process).bind fun transaction =>
      (answer (frees processes world.opened process) world.chronicle transaction command).map fun answered =>
        (answered.1, { world with opened := update world.opened process (some answered.2) })

def Closed (processes : List Process) (opened : Process -> Option (Transaction Key Row Label)) : Prop :=
  ∀ process, process ∉ processes -> opened process = none

omit [Keyed Row Key] [DecidableEq Key] in
theorem Closed.update {processes : List Process} {opened : Process -> Option (Transaction Key Row Label)}
    (closed : Closed processes opened) {process : Process} (member : process ∈ processes)
    (current : Option (Transaction Key Row Label)) :
    Closed processes (update opened process current) := by
  intro other absent
  have different : other ≠ process := fun same => absent (same ▸ member)
  rw [update_of_ne different]
  exact closed other absent

theorem executes_of_respond {processes : List Process}
    {supplied : (command : outer.Command) -> outer.Answer command} {process : Process}
    {world next : World Process Key Row Label ε Unit} {command : Command outer Key Row Label ε}
    {value : command.Answer} (closed : Closed processes world.opened) (member : process ∈ processes)
    (responded : respond processes supplied process world command = some (value, next)) :
    Executes anything process world command value next ∧ Closed processes next.opened := by
  have stated : ∀ {transaction : Transaction Key Row Label} {later : Transaction Key Row Label},
      world.opened process = some transaction ->
      answer (frees processes world.opened process) world.chronicle transaction command = some (value, later) ->
      next = { world with opened := update world.opened process (some later) } ->
      Executes anything process world command value next ∧ Closed processes next.opened := by
    rintro transaction later current answered rfl
    refine ⟨.statement current ?_, closed.update member _⟩
    exact statement_of_answer (fun key strength clear => free_of_frees closed clear) answered
  cases command with
  | begin label =>
    simp only [respond] at responded
    split_ifs at responded with idle
    cases responded
    exact ⟨.begin (Option.isNone_iff_eq_none.1 idle), closed.update member _⟩
  | commit =>
    obtain ⟨transaction, current, same⟩ := Option.map_eq_some_iff.1 responded
    cases same
    exact ⟨.commit current, closed.update member _⟩
  | rollback error =>
    obtain ⟨transaction, current, same⟩ := Option.map_eq_some_iff.1 responded
    cases same
    exact ⟨.rollback current, closed.update member _⟩
  | outer command =>
    cases responded
    exact ⟨.outer trivial, closed⟩
  | select | acquire | claim | insert | put | erase =>
    obtain ⟨transaction, current, responded⟩ := Option.bind_eq_some_iff.1 responded
    obtain ⟨⟨given, later⟩, answered, same⟩ := Option.map_eq_some_iff.1 responded
    cases same
    exact stated current answered rfl

/-- A process starts with a call, or runs one command and is given an answer for what is outside. -/
inductive Move (outer : Interface) (Process Call : Type) where
  | start (process : Process) (call : Call)
  | run (process : Process) (supplied : (command : outer.Command) -> outer.Answer command)

abbrev Programs (outer : Interface) (Process Key Row Label ε α : Type) :=
  Pool (interface outer Key Row Label ε) Process (World Process Key Row Label ε Unit) ε α

variable (program : Call -> Program (interface outer Key Row Label ε) ε α) (processes : List Process)

def advance (pool : Programs outer Process Key Row Label ε α) :
    Move outer Process Call -> Option (Programs outer Process Key Row Label ε α)
  | .start process call =>
    if (pool.running process).isNone then
      some ⟨pool.state, update pool.running process (some (program call))⟩
    else none
  | .run process supplied =>
    if process ∈ processes then
      match pool.running process with
      | some (.call command rest) =>
        (respond processes supplied process pool.state command).map fun answered =>
          ⟨answered.2, update pool.running process (some (rest answered.1))⟩
      | _ => none
    else none

def simulate (moves : List (Move outer Process Call)) (pool : Programs outer Process Key Row Label ε α) :
    Option (Programs outer Process Key Row Label ε α) :=
  moves.foldlM (advance program processes) pool

variable {program} {processes}

theorem step_of_advance {pool next : Programs outer Process Key Row Label ε α}
    {move : Move outer Process Call} (closed : Closed processes pool.state.opened)
    (advanced : advance program processes pool move = some next) :
    (∃ event, Pool.Step (database anything) program pool event next) ∧ Closed processes next.state.opened := by
  cases move with
  | start process call =>
    simp only [advance] at advanced
    split_ifs at advanced with idle
    cases advanced
    exact ⟨⟨_, .start process call (Option.isNone_iff_eq_none.1 idle)⟩, closed⟩
  | run process supplied =>
    simp only [advance] at advanced
    split_ifs at advanced with member
    split at advanced
    · rename_i command rest current
      obtain ⟨⟨value, later⟩, responded, same⟩ := Option.map_eq_some_iff.1 advanced
      cases same
      obtain ⟨executes, stays⟩ := executes_of_respond closed member responded
      exact ⟨⟨_, .execute process current executes⟩, stays⟩
    · cases advanced

theorem reachable_of_simulate {initial : World Process Key Row Label ε Unit -> Prop}
    {moves : List (Move outer Process Call)} {pool last : Programs outer Process Key Row Label ε α}
    (reachable : (pools (database anything) program initial).Reachable pool)
    (closed : Closed processes pool.state.opened)
    (simulated : simulate program processes moves pool = some last) :
    (pools (database anything) program initial).Reachable last := by
  induction moves generalizing pool with
  | nil =>
    cases simulated
    exact reachable
  | cons move rest ih =>
    simp only [simulate, foldlM_cons] at simulated
    obtain ⟨next, advanced, simulated⟩ := Option.bind_eq_some_iff.1 simulated
    obtain ⟨⟨event, step⟩, stays⟩ := step_of_advance closed advanced
    exact ih (reachable.step step) stays simulated

end Locking
