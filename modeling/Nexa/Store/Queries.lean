import Nexa.Shared.Outcome
import Nexa.Store.Schema

namespace Nexa

open Relational Outcome

structure ApplicationError where
  code : ErrorCode
  status : Nat
  message : String
  retryAfter : Option Nat := none
deriving DecidableEq

inductive Failure where
  | application (error : ApplicationError)
  | runtime (message : String)
  | integrity (table : Table)
  /-- Raised by a check outside the modelled tables. -/
  | external (error : ApplicationError)
deriving DecidableEq

abbrev Outcome (α : Type) := Except Failure α

def stateConflict (message : String) : Failure := .application { code := .stateConflict, status := 409, message }

def staleAuthority (message : String) : Failure := .application { code := .staleAuthority, status := 409, message }

def infeasible (message : String) : Failure := .application { code := .infeasibleRequest, status := 422, message }

def dependencyUnavailable (message : String) : Failure :=
  .application { code := .dependencyUnavailable, status := 503, message, retryAfter := some 1 }

def refuse : Option ApplicationError -> Outcome Unit
  | some error => .error (.external error)
  | none => .ok ()

theorem refuse_eq_ok {refusal : Option ApplicationError} {value : Unit} :
    refuse refusal = .ok value <-> refusal = none := by
  cases refusal <;> simp [refuse]

section

variable {α : Type}

def oneOrNone : List α -> Outcome (Option α)
  | [] => .ok none
  | [row] => .ok (some row)
  | _ => .error (.runtime "Multiple rows were found when one or none was required")

def one : List α -> Outcome α
  | [row] => .ok row
  | [] => .error (.runtime "No row was found when one was required")
  | _ => .error (.runtime "Multiple rows were found when exactly one was required")

theorem oneOrNone_eq_some {rows : List α} {row : α} : oneOrNone rows = .ok (some row) <-> rows = [row] := by
  match rows with
  | [] => simp [oneOrNone]
  | [_] => simp [oneOrNone]
  | _ :: _ :: _ => simp [oneOrNone]

theorem oneOrNone_eq_none {rows : List α} : oneOrNone rows = .ok none <-> rows = [] := by
  match rows with
  | [] => simp [oneOrNone]
  | [_] => simp [oneOrNone]
  | _ :: _ :: _ => simp [oneOrNone]

theorem one_eq_ok {rows : List α} {row : α} : one rows = .ok row <-> rows = [row] := by
  match rows with
  | [] => simp [one]
  | [_] => simp [one]
  | _ :: _ :: _ => simp [one]

theorem mem_of_oneOrNone {db : Db} {table : Table} {condition : Row table -> Bool} {row : Row table}
    (found : oneOrNone (db.select table condition) = .ok (some row)) :
    row ∈ db.rows table ∧ condition row = true :=
  Database.mem_of_select (oneOrNone_eq_some.1 found)

end

def insertInto (db : Db) (table : Table) (row : Row table) : Outcome Db :=
  orFail (.integrity table) (db.insert table row)

theorem insertInto_eq_ok {db after : Db} {table : Table} {row : Row table} :
    insertInto db table row = .ok after <->
      db.Insertable table row ∧ after.rows = db.rows.append table row := by
  unfold insertInto
  rw [orFail_eq_ok, Database.insert_eq_some]

theorem insertRow_of_insertInto {db after : Db} {table : Table} {row : Row table}
    (inserted : insertInto db table row = .ok after) :
    ∃ accepted : db.Insertable table row, db.insertRow table row accepted = after :=
  Database.insertRow_of_insert (orFail_eq_ok.1 inserted)

def operationalMode (db : Db) : Outcome OperationalMode := do
  let policy ← one (db.select .policyVersions fun row => row.isCurrent)
  return policy.operationalMode

def Job.scopes (job : Job) : List Scope := Scope.ofJob job.tenantId job.submitterUserId

end Nexa
