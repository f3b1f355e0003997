import Nexa.Store.Queries

namespace Nexa

open Relational Outcome

abbrev JobChanges := Patch nexaSchema .jobs

def noChanges : JobChanges where
  apply row := row

/-- The caller's changes, then sequence and version of the row read. -/
def eventPatch (job : Job) (now : Time) (keepVersion : Bool) (changes : JobChanges) : JobChanges where
  apply row :=
    { changes.apply row with
      eventSequence := job.eventSequence + 1
      version := if keepVersion then job.version else job.version + 1
      updatedAt := now }
  keys_apply row := changes.keys_apply row
  indexes_apply row := changes.indexes_apply row
  refs_apply row := changes.refs_apply row
  owner_apply row := changes.owner_apply row

def eventRow (job : Job) (actor : Actor) (now : Time) (eventType : EventType)
    (reason : Option EventReason) : Event where
  tenantId := job.tenantId
  jobId := job.jobId
  sequence := job.eventSequence + 1
  eventType := eventType
  reason := reason
  actor := actor
  createdAt := now

def writeEvent (db : Db) (job : Job) (actor : Actor) (now : Time) (eventType : EventType)
    (reason : Option EventReason) (keepVersion : Bool) (changes : JobChanges) : Outcome Db :=
  insertInto
    (db.update .jobs (fun row => row.jobId = job.jobId) (eventPatch job now keepVersion changes))
    .events (eventRow job actor now eventType reason)

theorem writeEvent_rows {db after : Db} {job : Job} {actor : Actor} {now : Time} {eventType : EventType}
    {reason : Option EventReason} {keepVersion : Bool} {changes : JobChanges}
    (written : writeEvent db job actor now eventType reason keepVersion changes = .ok after) :
    after.rows =
      (db.rows.update .jobs (fun row => row.jobId = job.jobId)
        (eventPatch job now keepVersion changes).apply).append
        .events (eventRow job actor now eventType reason) := by
  unfold writeEvent at written
  exact (insertInto_eq_ok.1 written).2

def Cleanup.event (db : Db) (job : Job) (workerId : WorkerId) (now : Time) (eventType : EventType)
    (reason : EventReason) (keepVersion : Bool) (changes : JobChanges) : Outcome (Db × Nat) := do
  let db ← writeEvent db job (.worker workerId) now eventType (some reason) keepVersion changes
  return (db, if keepVersion then job.version else job.version + 1)

def Execution.transition (db : Db) (job : Job) (workerId : WorkerId) (now : Time)
    (eventType : EventType) (reason : EventReason) (changes : JobChanges) : Outcome (Db × Job) := do
  let db ← writeEvent db job (.worker workerId) now eventType (some reason) false changes
  return (db, (eventPatch job now false changes).apply job)

def Dispatch.event (db : Db) (job : Option Job) (holder : Nat) (now : Time) (eventType : EventType)
    (reason : Option EventReason) (keepVersion : Bool) (changes : JobChanges) : Outcome Db :=
  match job with
  | none => .ok db
  | some job => writeEvent db job (.coordinator holder) now eventType reason keepVersion changes

def Control.controlEvent (db : Db) (job : Job) (user : UserId) (now : Time) (eventType : EventType)
    (reason : EventReason) (changes : JobChanges) : Outcome Db :=
  writeEvent db job (.user user) now eventType (some reason) false changes

end Nexa
