import Nexa.Store.Queries

namespace Nexa

open Relational Outcome

def counterLock (db : Db) (scope : Scope) (now : Time) : Outcome (Db × AdmissionCounter) := do
  let inserted : Db :=
    (db.insert .admissionCounters
      { scope, outstanding := 0, activeAttempts := 0, version := 1, updatedAt := now }).getD db
  let row ← one (inserted.select .admissionCounters fun row => row.scope = scope)
  return (inserted, row)

def lockCounters (db : Db) (scopes : List Scope) : Outcome (List AdmissionCounter) :=
  scopes.mapM fun scope => do
    match ← oneOrNone (db.select .admissionCounters fun row => row.scope = scope) with
    | some row => return row
    | none => .error (dependencyUnavailable "Admission accounting is unavailable")

def counterPatch (now : Time) (row : AdmissionCounter) (outstanding active : Nat) :
    Patch nexaSchema .admissionCounters where
  apply counter :=
    { counter with
      outstanding := row.outstanding - outstanding
      activeAttempts := row.activeAttempts - active
      version := row.version + 1
      updatedAt := now }

def adjustCounters (db : Db) (counters : List AdmissionCounter) (now : Time) (outstanding active : Nat) :
    Outcome Db :=
  counters.foldlM
    (fun db row => do
      require (outstanding ≤ row.outstanding ∧ active ≤ row.activeAttempts)
        (dependencyUnavailable "Admission accounting is inconsistent")
      return db.update .admissionCounters (fun counter => counter.scope = row.scope)
        (counterPatch now row outstanding active))
    db

def activePatch (now : Time) : Patch nexaSchema .admissionCounters where
  apply counter :=
    { counter with
      activeAttempts := counter.activeAttempts + 1, version := counter.version + 1, updatedAt := now }

def takeActive (db : Db) (scopes : List Scope) (now : Time) : Outcome Db :=
  scopes.foldlM
    (fun db scope => do
      require ((db.select .admissionCounters fun row => row.scope = scope).length = 1)
        (.runtime "missing admitted job counter")
      return db.update .admissionCounters (fun counter => counter.scope = scope) (activePatch now))
    db

def admitPatch (now : Time) : Patch nexaSchema .admissionCounters where
  apply counter :=
    { counter with
      outstanding := counter.outstanding + 1, version := counter.version + 1, updatedAt := now }

def takeOutstanding (db : Db) (scopes : List Scope) (now : Time) : Db :=
  db.update .admissionCounters (fun counter => counter.scope ∈ scopes) (admitPatch now)

def rateLock (db : Db) (scope : Scope) (capacity refillRate : ℚ) (now : Time) : Outcome Db := do
  let inserted : Db :=
    (db.insert .rateBuckets
      { scope, tokens := capacity, capacity, refillRate, lastRefillAt := now, version := 1 }).getD db
  let row ← one (inserted.select .rateBuckets fun row => row.scope = scope)
  let elapsed : ℚ := ((now - row.lastRefillAt : Nat) : ℚ) / 1000000
  let tokens := max 0 (min capacity (row.tokens + elapsed * refillRate))
  require (1 ≤ tokens)
    (.application
      { code := .rateLimited, status := 429, message := "Submit rate limit exceeded"
        retryAfter := some (max 1 ((1 - tokens) / refillRate).ceil.toNat) })
  return inserted.update .rateBuckets (fun bucket => bucket.scope = scope)
    { apply := fun bucket =>
        { bucket with
          tokens := tokens - 1, capacity, refillRate, lastRefillAt := now
          version := bucket.version + 1 } }

end Nexa
