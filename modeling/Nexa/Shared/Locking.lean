import Nexa.Shared.Keyed
import Nexa.Shared.Pool

/-! Transactions under READ COMMITTED. A statement sees the rows committed when it runs under the writes of its own
transaction, and locks are held to the end. -/

namespace Locking

open Interaction Function

/-- Advisory locks use the two of them that are called share and update. -/
inductive Strength where
  | keyShare
  | share
  | noKeyUpdate
  | update
deriving DecidableEq, Repr

def Strength.conflicts : Strength -> Strength -> Bool
  | .update, _ => true
  | _, .update => true
  | .noKeyUpdate, .keyShare => false
  | .keyShare, .noKeyUpdate => false
  | .noKeyUpdate, _ => true
  | _, .noKeyUpdate => true
  | _, _ => false

theorem conflicts_comm (one other : Strength) : one.conflicts other = other.conflicts one := by
  cases one <;> cases other <;> rfl

def Strength.Exclusive (strength : Strength) : Prop := strength = .noKeyUpdate ∨ strength = .update

def Strength.Freezing (strength : Strength) : Prop := strength.conflicts .noKeyUpdate = true

theorem Strength.Exclusive.freezing {strength : Strength} (exclusive : strength.Exclusive) : strength.Freezing := by
  obtain rfl | rfl := exclusive <;> rfl

theorem Strength.Freezing.conflicts {frozen exclusive : Strength} (freezes : frozen.Freezing)
    (writes : exclusive.Exclusive) : frozen.conflicts exclusive = true := by
  obtain rfl | rfl := writes
  · exact freezes
  · cases frozen <;> rfl

structure Transaction (Key Row Label : Type) where
  label : Label
  written : List (Change Key Row)
  held : List (Key × Strength)
  reads : List (Nat × Row)

structure Entry (Key Row Label : Type) where
  label : Label
  written : List (Change Key Row)
  reads : List (Nat × Row)

structure Chronicle (Key Row Label : Type) where
  rows : List Row
  entries : List (Entry Key Row Label)

section

variable {Key Row Label ε : Type} [Keyed Row Key] [DecidableEq Key]

def Chronicle.extend (chronicle : Chronicle Key Row Label) (entry : Entry Key Row Label) :
    Chronicle Key Row Label where
  rows := applyAll chronicle.rows entry.written
  entries := chronicle.entries ++ [entry]

namespace Transaction

def start (label : Label) : Transaction Key Row Label := ⟨label, [], [], []⟩

def entry (transaction : Transaction Key Row Label) : Entry Key Row Label :=
  ⟨transaction.label, transaction.written, transaction.reads⟩

def view (transaction : Transaction Key Row Label) (chronicle : Chronicle Key Row Label) : List Row :=
  applyAll chronicle.rows transaction.written

def noting (transaction : Transaction Key Row Label) (chronicle : Chronicle Key Row Label)
    (rows : List Row) : Transaction Key Row Label :=
  { transaction with reads := rows.map (fun row => (chronicle.entries.length, row)) ++ transaction.reads }

def holding (transaction : Transaction Key Row Label) (keys : List Key) (strength : Strength) :
    Transaction Key Row Label :=
  { transaction with held := keys.map (fun key => (key, strength)) ++ transaction.held }

def writing (transaction : Transaction Key Row Label) (change : Change Key Row) : Transaction Key Row Label :=
  { transaction with written := transaction.written ++ [change] }

def Owns (transaction : Transaction Key Row Label) (key : Key) : Prop :=
  ∃ strength, (key, strength) ∈ transaction.held ∧ strength.Exclusive

def Freezes (transaction : Transaction Key Row Label) (key : Key) : Prop :=
  ∃ strength, (key, strength) ∈ transaction.held ∧ strength.Freezing

end Transaction

end

/-- Statements, the ends of a transaction, and what is outside of the database. -/
inductive Command (outer : Interface) (Key Row Label ε : Type) where
  | begin (label : Label)
  | commit
  | rollback (error : ε)
  | select (wanted : Row -> Bool)
  | acquire (key : Key) (strength : Strength)
  | claim (key : Key) (strength : Strength)
  | insert (row : Row)
  | put (row : Row)
  | erase (key : Key)
  | outer (command : outer.Command)

abbrev Command.Answer {outer : Interface} {Key Row Label ε : Type} :
    Command outer Key Row Label ε -> Type
  | .begin _ => Unit
  | .commit => Unit
  | .rollback _ => Unit
  | .select _ => List Row
  | .acquire _ _ => Option Row
  | .claim _ _ => Unit
  | .insert _ => Bool
  | .put _ => Unit
  | .erase _ => Unit
  | .outer command => outer.Answer command

abbrev interface (outer : Interface) (Key Row Label ε : Type) : Interface where
  Command := Command outer Key Row Label ε
  Answer := Command.Answer

section

variable {outer : Interface} {Process Key Row Label ε Outside : Type} [Keyed Row Key] [DecidableEq Key]
  [DecidableEq Process]

/-- What a statement answers and leaves. An insert that collides with a row it can see does nothing. -/
inductive Statement (chronicle : Chronicle Key Row Label) (free : Key -> Strength -> Prop)
    (transaction : Transaction Key Row Label) :
    (command : Command outer Key Row Label ε) -> command.Answer -> Transaction Key Row Label -> Prop where
  | select (wanted : Row -> Bool) :
      Statement chronicle free transaction (.select wanted) ((transaction.view chronicle).filter wanted)
        (transaction.noting chronicle ((transaction.view chronicle).filter wanted))
  | missing {key : Key} {strength : Strength} (absent : lookup (transaction.view chronicle) key = none) :
      Statement chronicle free transaction (.acquire key strength) none transaction
  | acquire {key : Key} {strength : Strength} {row : Row}
      (found : lookup (transaction.view chronicle) key = some row) (frees : free key strength) :
      Statement chronicle free transaction (.acquire key strength) (some row)
        ((transaction.noting chronicle [row]).holding [key] strength)
  | claim {key : Key} {strength : Strength} (frees : free key strength) :
      Statement chronicle free transaction (.claim key strength) () (transaction.holding [key] strength)
  | refuse {row : Row} (collides : (transaction.view chronicle).any (clashes row) = true) :
      Statement chronicle free transaction (.insert row) false transaction
  | insert {row : Row} (clear : (transaction.view chronicle).any (clashes row) = false)
      (frees : ∀ key ∈ Keyed.key row :: Keyed.uniques row, free key .update) :
      Statement chronicle free transaction (.insert row) true
        ((transaction.writing (.put row)).holding (Keyed.key row :: Keyed.uniques row) .update)
  | put {row : Row} (frees : free (Keyed.key row) .noKeyUpdate) :
      Statement chronicle free transaction (.put row) ()
        ((transaction.writing (.put row)).holding [Keyed.key row] .noKeyUpdate)
  | erase {key : Key} (frees : free key .update) :
      Statement chronicle free transaction (.erase key) ()
        ((transaction.writing (.erase key)).holding [key] .update)

structure World (Process Key Row Label ε Outside : Type) where
  chronicle : Chronicle Key Row Label
  opened : Process -> Option (Transaction Key Row Label)
  failures : List ε
  outside : Outside

def Free (opened : Process -> Option (Transaction Key Row Label)) (process : Process) (key : Key)
    (strength : Strength) : Prop :=
  ∀ other transaction, other ≠ process -> opened other = some transaction ->
    ∀ taken, (key, taken) ∈ transaction.held -> strength.conflicts taken = false

inductive Executes (outside : Shared outer Process Outside) (process : Process) :
    World Process Key Row Label ε Outside -> (command : Command outer Key Row Label ε) -> command.Answer ->
      World Process Key Row Label ε Outside -> Prop where
  | begin {world : World Process Key Row Label ε Outside} {label : Label}
      (closed : world.opened process = none) :
      Executes outside process world (.begin label) ()
        { world with opened := update world.opened process (some (.start label)) }
  | commit {world : World Process Key Row Label ε Outside} {transaction : Transaction Key Row Label}
      (current : world.opened process = some transaction) :
      Executes outside process world .commit ()
        { world with
          chronicle := world.chronicle.extend transaction.entry
          opened := update world.opened process none }
  | rollback {world : World Process Key Row Label ε Outside} {transaction : Transaction Key Row Label}
      {error : ε} (current : world.opened process = some transaction) :
      Executes outside process world (.rollback error) ()
        { world with
          opened := update world.opened process none
          failures := error :: world.failures }
  | statement {world : World Process Key Row Label ε Outside} {transaction next : Transaction Key Row Label}
      {command : Command outer Key Row Label ε} {answer : command.Answer}
      (current : world.opened process = some transaction)
      (answers : Statement world.chronicle (Free world.opened process) transaction command answer next) :
      Executes outside process world command answer
        { world with opened := update world.opened process (some next) }
  | outer {world : World Process Key Row Label ε Outside} {command : outer.Command}
      {answer : outer.Answer command} {next : Outside}
      (executes : outside.executes process world.outside command answer next) :
      Executes outside process world (.outer command) answer { world with outside := next }

def database (outside : Shared outer Process Outside) :
    Shared (interface outer Key Row Label ε) Process (World Process Key Row Label ε Outside) where
  executes := Executes outside
  leaves := fun process world =>
    { world with
      opened := update world.opened process none
      outside := outside.leaves process world.outside }

end

end Locking
