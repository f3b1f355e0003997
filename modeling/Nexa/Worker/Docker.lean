import Mathlib.Logic.Function.Basic
import Nexa.Worker.Executor

namespace Nexa.Host

open Interaction List

inductive ContainerStatus where
  | created
  | running
  | exited
deriving DecidableEq

structure Container where
  id : ContainerId
  status : ContainerStatus

structure World where
  journal : AttemptId -> Option JournalRecord
  containers : List Container
  creates : Nat
  createPending : Bool
  startsPending : List ContainerId

namespace World

def record (world : World) (journalRecord : JournalRecord) : World :=
  { world with journal := Function.update world.journal journalRecord.attemptId (some journalRecord) }

def create (world : World) (id : ContainerId) : World :=
  { world with containers := ⟨id, .created⟩ :: world.containers }

def start (world : World) (id : ContainerId) : World :=
  { world with
    containers := world.containers.map fun container =>
      if container.id = id then { container with status := .running } else container }

def halt (world : World) (id : ContainerId) : World :=
  { world with
    containers := world.containers.map fun container =>
      if container.id = id ∧ container.status = .running then { container with status := .exited }
      else container }

def remove (world : World) (id : ContainerId) : World :=
  { world with containers := world.containers.filter fun container => container.id ≠ id }

end World

/-- A command without a clear answer leaves its effect open. Docker is right about containers it does not find. -/
def executes (world : World) : (command : Command) -> command.Answer -> World -> Prop
  | .load attemptId, found, next => found = world.journal attemptId ∧ next = world
  | .write record, true, next => next = world.record record
  | .write record, false, next => next = world ∨ next = world.record record
  | .create _, .ok id, next => next = { world.create id with creates := world.creates + 1 }
  | .create _, _, next => next = { world with creates := world.creates + 1, createPending := true }
  | .start id, .ok _, next => next = world.start id
  | .start id, _, next => next = { world with startsPending := id :: world.startsPending }
  | .stop id, .ok _, next => next = world.halt id
  | .remove id, .ok _, next => next = world.remove id
  | .inspect id, .ok none, next => next = world ∧ ∀ container ∈ world.containers, container.id ≠ id
  | _, _, next => next = world

inductive Happens : World -> World -> Prop where
  | createLands (world : World) (id : ContainerId) (pending : world.createPending = true) :
      Happens world { world.create id with createPending := false }
  | startLands (world : World) (id : ContainerId) (pending : id ∈ world.startsPending) :
      Happens world { world.start id with startsPending := world.startsPending.erase id }
  | exits (world : World) (id : ContainerId) : Happens world (world.halt id)
  | vanishes (world : World) (id : ContainerId) : Happens world (world.remove id)

def environment : Environment interface World where
  executes := executes
  happens := Happens

variable {record : JournalRecord}

namespace World

structure Untouched (world : World) : Prop where
  creates : world.creates = 0
  containers : world.containers = []
  createPending : world.createPending = false
  startsPending : world.startsPending = []

structure Unstarted (world : World) : Prop where
  creates : world.creates ≤ 1
  containers : ∀ container ∈ world.containers, container.status = .created
  startsPending : world.startsPending = []

structure Only (world : World) (id : ContainerId) : Prop where
  creates : world.creates ≤ 1
  containers : ∀ container ∈ world.containers, container.id = id
  createPending : world.createPending = false
  startsPending : ∀ pending ∈ world.startsPending, pending = id

structure Removed (world : World) : Prop where
  creates : world.creates ≤ 1
  containers : world.containers = []
  createPending : world.createPending = false

def Fits (world : World) (record : JournalRecord) : Prop := match record.state with
  | .prepared => world.Untouched
  | .createInFlight => world.Unstarted ∧ (world.creates = 0 -> world.Untouched)
  | .created | .startInFlight | .started | .cleanupInFlight =>
    ∀ identity, record.container = some identity -> world.Only identity.containerId
  | .tombstoned =>
    (record.container = none -> world.Unstarted) ∧ (record.container ≠ none -> world.Removed)

structure Safe (world : World) (attemptId : AttemptId) : Prop where
  untouched : world.journal attemptId = none -> world.Untouched
  coherent : ∀ record, world.journal attemptId = some record -> record.Coherent attemptId
  fits : ∀ record, world.journal attemptId = some record -> world.Fits record

structure Shrinks (world next : World) : Prop where
  journal : next.journal = world.journal
  creates : next.creates = world.creates
  createPending : next.createPending = world.createPending
  startsPending : next.startsPending = world.startsPending
  containers : ∀ container ∈ next.containers,
    ∃ before ∈ world.containers, before.id = container.id ∧ (before.status = .created -> container.status = .created)

theorem halt_shrinks (world : World) (id : ContainerId) : world.Shrinks (world.halt id) where
  journal := rfl
  creates := rfl
  createPending := rfl
  startsPending := rfl
  containers := by
    intro container member
    obtain ⟨before, present, rfl⟩ := mem_map.1 member
    refine ⟨before, present, ?_⟩
    split_ifs with running
    · exact ⟨rfl, fun created => absurd (created.symm.trans running.2) (by decide)⟩
    · exact ⟨rfl, fun created => created⟩

theorem remove_shrinks (world : World) (id : ContainerId) : world.Shrinks (world.remove id) where
  journal := rfl
  creates := rfl
  createPending := rfl
  startsPending := rfl
  containers := fun container member => ⟨container, (mem_filter.1 member).1, rfl, fun created => created⟩

variable {world next : World} {id : ContainerId}

theorem Untouched.unstarted (untouched : world.Untouched) : world.Unstarted where
  creates := by rw [untouched.creates]; decide
  containers := by simp [untouched.containers]
  startsPending := untouched.startsPending

section

variable (shrinks : world.Shrinks next)

include shrinks

theorem Shrinks.none (empty : world.containers = []) : next.containers = [] := by
  refine eq_nil_iff_forall_not_mem.2 fun container member => ?_
  obtain ⟨before, present, -⟩ := shrinks.containers container member
  simp [empty] at present

theorem Shrinks.untouched (untouched : world.Untouched) : next.Untouched where
  creates := shrinks.creates.trans untouched.creates
  containers := shrinks.none untouched.containers
  createPending := shrinks.createPending.trans untouched.createPending
  startsPending := shrinks.startsPending.trans untouched.startsPending

theorem Shrinks.unstarted (unstarted : world.Unstarted) : next.Unstarted where
  creates := shrinks.creates.trans_le unstarted.creates
  containers := by
    intro container member
    obtain ⟨before, present, -, created⟩ := shrinks.containers container member
    exact created (unstarted.containers before present)
  startsPending := shrinks.startsPending.trans unstarted.startsPending

theorem Shrinks.only (only : world.Only id) : next.Only id where
  creates := shrinks.creates.trans_le only.creates
  containers := by
    intro container member
    obtain ⟨before, present, same, -⟩ := shrinks.containers container member
    exact same.symm.trans (only.containers before present)
  createPending := shrinks.createPending.trans only.createPending
  startsPending := shrinks.startsPending ▸ only.startsPending

theorem Shrinks.removed (removed : world.Removed) : next.Removed where
  creates := shrinks.creates.trans_le removed.creates
  containers := shrinks.none removed.containers
  createPending := shrinks.createPending.trans removed.createPending

end

theorem Removed.start (removed : world.Removed) (id : ContainerId) : (world.start id).Removed where
  creates := removed.creates
  containers := by simp [World.start, removed.containers]
  createPending := removed.createPending

theorem Only.start (only : world.Only id) (other : ContainerId) : (world.start other).Only id where
  creates := only.creates
  containers := by
    intro container member
    obtain ⟨before, present, rfl⟩ := mem_map.1 member
    split_ifs
    · exact only.containers before present
    · exact only.containers before present
  createPending := only.createPending
  startsPending := only.startsPending

theorem Only.removed (only : world.Only id) (absent : ∀ container ∈ world.containers, container.id ≠ id) :
    world.Removed where
  creates := only.creates
  containers := eq_nil_iff_forall_not_mem.2 fun container member =>
    absent container member (only.containers container member)
  createPending := only.createPending

structure Retains (world next : World) : Prop where
  creates : next.creates = world.creates
  untouched : world.Untouched -> next.Untouched
  unstarted : world.Unstarted -> next.Unstarted
  only : ∀ id, world.Only id -> next.Only id
  removed : world.Removed -> next.Removed

structure Keeps (world next : World) : Prop extends Retains world next where
  journal : next.journal = world.journal

theorem Keeps.refl (world : World) : world.Keeps world :=
  ⟨⟨rfl, fun held => held, fun held => held, fun _ held => held, fun held => held⟩, rfl⟩

theorem record_retains (world : World) (record : JournalRecord) : world.Retains (world.record record) where
  creates := rfl
  untouched := fun held => ⟨held.creates, held.containers, held.createPending, held.startsPending⟩
  unstarted := fun held => ⟨held.creates, held.containers, held.startsPending⟩
  only := fun _ held => ⟨held.creates, held.containers, held.createPending, held.startsPending⟩
  removed := fun held => ⟨held.creates, held.containers, held.createPending⟩

theorem Shrinks.keeps (shrinks : world.Shrinks next) : world.Keeps next where
  journal := shrinks.journal
  creates := shrinks.creates
  untouched := shrinks.untouched
  unstarted := shrinks.unstarted
  only := fun _ => shrinks.only
  removed := shrinks.removed

theorem Retains.fits (keeps : world.Retains next) (fits : world.Fits record) : next.Fits record := by
  unfold Fits at fits ⊢
  split at fits
  · exact keeps.untouched fits
  · exact ⟨keeps.unstarted fits.1, fun none => keeps.untouched (fits.2 (keeps.creates ▸ none))⟩
  · exact fun identity bound => keeps.only _ (fits identity bound)
  · exact fun identity bound => keeps.only _ (fits identity bound)
  · exact fun identity bound => keeps.only _ (fits identity bound)
  · exact fun identity bound => keeps.only _ (fits identity bound)
  · exact ⟨fun free => keeps.unstarted (fits.1 free), fun bound => keeps.removed (fits.2 bound)⟩

theorem Keeps.safe (keeps : world.Keeps next) {attemptId : AttemptId} (safe : world.Safe attemptId) :
    next.Safe attemptId where
  untouched := fun absent => keeps.untouched (safe.untouched (keeps.journal ▸ absent))
  coherent := fun record found => safe.coherent record (keeps.journal ▸ found)
  fits := fun record found => keeps.fits (safe.fits record (keeps.journal ▸ found))

theorem keeps_of_happens (happens : Happens world next) : world.Keeps next := by
  cases happens with
  | createLands id pending =>
    -- Only an attempt that nothing started may still get a container.
    refine ⟨⟨rfl, fun untouched => ?_, fun unstarted => ?_, fun other only => ?_, fun removed => ?_⟩, rfl⟩
    · exact absurd (pending.symm.trans untouched.createPending) (by decide)
    · refine ⟨unstarted.creates, fun container member => ?_, unstarted.startsPending⟩
      obtain rfl | before := mem_cons.1 member
      · rfl
      · exact unstarted.containers container before
    · exact absurd (pending.symm.trans only.createPending) (by decide)
    · exact absurd (pending.symm.trans removed.createPending) (by decide)
  | startLands id pending =>
    refine ⟨⟨rfl, fun untouched => ?_, fun unstarted => ?_, fun other only => ?_, fun removed => ?_⟩, rfl⟩
    · simp [untouched.startsPending] at pending
    · simp [unstarted.startsPending] at pending
    · have started := only.start id
      exact ⟨started.creates, started.containers, started.createPending,
        fun start member => only.startsPending start (mem_of_mem_erase member)⟩
    · have started := removed.start id
      exact ⟨started.creates, started.containers, started.createPending⟩
  | exits id => exact (halt_shrinks world id).keeps
  | vanishes id => exact (remove_shrinks world id).keeps

end World

structure Knowledge (attemptId : AttemptId) where
  record : Option JournalRecord
  coherent : ∀ found, record = some found -> found.Coherent attemptId
  /-- No write of the journal failed. -/
  sure : Bool
  /-- The create was recorded and not given yet. -/
  fresh : Bool
  /-- The container that the create returned. -/
  made : Option ContainerId
  /-- The container that cleanup has to remove is not there. -/
  gone : Bool

namespace Knowledge

variable {attemptId : AttemptId}

def cleans (knowledge : Knowledge attemptId) (id : ContainerId) : Bool :=
  knowledge.record.any fun record =>
    record.state = .cleanupInFlight && record.container.any fun identity => identity.containerId = id

inductive MayWrite (knowledge : Knowledge attemptId) (after : JournalRecord) : Prop where
  | first (absent : knowledge.record = none) (sequence : after.operationSequence = 1)
      (state : after.state = .prepared ∨ after.state = .tombstoned) (container : after.container = none)
  | move {before : JournalRecord} (reads : knowledge.record = some before)
      (advances : before.Advances after) (container : after.container = before.container)
      (gone : before.state = .cleanupInFlight -> knowledge.gone = true)
  | bind {before : JournalRecord} {identity : ContainerIdentity} (reads : knowledge.record = some before)
      (advances : before.Advances after) (state : after.state = .created)
      (container : after.container = some identity) (made : knowledge.made = some identity.containerId)

def allows (knowledge : Knowledge attemptId) : Command -> Prop
  | .load owner => knowledge.sure = true ∧ owner = attemptId
  | .write record =>
    knowledge.sure = true ∧ record.Coherent attemptId ∧ knowledge.MayWrite record
  | .create _ =>
    knowledge.sure = true ∧ knowledge.fresh = true ∧
      ∃ record, knowledge.record = some record ∧ record.state = .createInFlight
  | .start id =>
    knowledge.sure = true ∧
      ∃ record identity, knowledge.record = some record ∧ record.state = .startInFlight ∧
        record.container = some identity ∧ identity.containerId = id
  | _ => knowledge.sure = true

structure Wrote (knowledge : Knowledge attemptId) (after : JournalRecord) (learned : Knowledge attemptId) : Prop where
  record : learned.record = some after
  sure : learned.sure = true
  fresh : learned.fresh = decide (after.state = .createInFlight)
  made : learned.made = none
  gone : learned.gone = knowledge.gone

def learns (knowledge : Knowledge attemptId) :
    (command : Command) -> command.Answer -> Knowledge attemptId -> Prop
  | .load _, found, learned => found = knowledge.record ∧ learned = knowledge
  | .write record, true, learned => knowledge.Wrote record learned
  | .write _, false, learned => learned.sure = false
  | .create _, .ok id, learned =>
    learned = { knowledge with fresh := false, made := some id, gone := false }
  | .create _, _, learned => learned = { knowledge with fresh := false, made := none, gone := false }
  | .start _, _, learned => learned = { knowledge with fresh := false, made := none }
  | .remove id, .ok _, learned | .inspect id, .ok none, learned =>
    learned = { knowledge with gone := knowledge.gone || knowledge.cleans id }
  | _, _, learned => learned = knowledge

end Knowledge

def contract (attemptId : AttemptId) : Contract interface (Knowledge attemptId) where
  allows := Knowledge.allows
  learns := Knowledge.learns

structure World.Bears {attemptId : AttemptId} (world : World) (knowledge : Knowledge attemptId) : Prop where
  record : world.journal attemptId = knowledge.record
  fresh : knowledge.fresh = true -> world.Untouched
  made : ∀ id, knowledge.made = some id -> world.Only id
  gone : knowledge.gone = true -> world.Removed

def World.Knows {attemptId : AttemptId} (world : World) (knowledge : Knowledge attemptId) : Prop :=
  knowledge.sure = true -> world.Bears knowledge

/-- The record of the attempt stays, is written first, or is replaced by one that follows it. -/
inductive JournalFollows (before after : Option JournalRecord) : Prop where
  | same (same : after = before)
  | first {record : JournalRecord} (absent : before = none) (written : after = some record)
  | replaced {old new : JournalRecord} (found : before = some old) (written : after = some new)
      (advances : old.Advances new)

def World.Follows (attemptId : AttemptId) (world next : World) : Prop :=
  JournalFollows (world.journal attemptId) (next.journal attemptId)

variable {after : JournalRecord}

section

variable {attemptId : AttemptId} {world next : World} {knowledge : Knowledge attemptId}

theorem World.Keeps.bears (keeps : world.Keeps next) (bears : world.Bears knowledge) : next.Bears knowledge where
  record := keeps.journal ▸ bears.record
  fresh := fun fresh => keeps.untouched (bears.fresh fresh)
  made := fun id made => keeps.only id (bears.made id made)
  gone := fun gone => keeps.removed (bears.gone gone)

theorem World.Keeps.follows (keeps : world.Keeps next) : world.Follows attemptId next :=
  .same (congrFun keeps.journal attemptId)

theorem fits_of_mayWrite (safe : world.Safe attemptId) (bears : world.Bears knowledge)
    (may : knowledge.MayWrite after) : world.Fits after := by
  cases may with
  | first absent sequence state container =>
    have untouched := safe.untouched (bears.record.trans absent)
    obtain prepared | tombstoned := state
    · simpa only [World.Fits, prepared] using untouched
    · simpa [World.Fits, tombstoned, container] using untouched.unstarted
  | @move before reads advances container gone =>
    have fits := safe.fits before (bears.record.trans reads)
    have coherent := knowledge.coherent before reads
    have leads := advances.leads
    generalize source : before.state = first at leads
    generalize target : after.state = last at leads
    simp only [World.Fits, source, target, container] at fits ⊢
    cases leads with
    | create => exact ⟨fits.unstarted, fun _ => fits⟩
    | bind =>
      intro identity bound
      rw [coherent.unbound (.inr source)] at bound
      cases bound
    | start | mark | reset | cleanCreated | cleanStarting | cleanStarted => exact fits
    | finish =>
      exact ⟨fun free => absurd free (coherent.bound (by rw [source]; rfl)), fun _ => bears.gone (gone source)⟩
    | abandonPrepared =>
      exact ⟨fun _ => fits.unstarted, fun bound => absurd (coherent.unbound (.inl source)) bound⟩
    | abandonCreate =>
      exact ⟨fun _ => fits.1, fun bound => absurd (coherent.unbound (.inr source)) bound⟩
  | @bind before identity reads advances state container made =>
    simp only [World.Fits, state, container, Option.some.injEq]
    rintro _ rfl
    exact bears.made _ made

theorem follows_of_mayWrite (bears : world.Bears knowledge) (may : knowledge.MayWrite after) :
    JournalFollows (world.journal attemptId) (some after) := by
  rw [bears.record]
  cases may with
  | first absent => exact .first absent rfl
  | move reads advances => exact .replaced reads rfl advances
  | bind reads advances => exact .replaced reads rfl advances

theorem World.record_journal (coherent : after.Coherent attemptId) :
    (world.record after).journal attemptId = some after := by
  simp [World.record, coherent.attempt]

theorem safe_record (coherent : after.Coherent attemptId)
    (fits : world.Fits after) : (world.record after).Safe attemptId where
  untouched := fun absent => by
    rw [World.record_journal coherent] at absent
    cases absent
  coherent := fun record found => by
    rw [World.record_journal coherent] at found
    cases found
    exact coherent
  fits := fun record found => by
    rw [World.record_journal coherent] at found
    cases found
    exact (world.record_retains after).fits fits

section

variable (safe : world.Safe attemptId)

include safe

theorem bears_record (bears : world.Bears knowledge)
    (coherent : after.Coherent attemptId) (may : knowledge.MayWrite after) :
    ∃ learned, knowledge.Wrote after learned ∧ (world.record after).Bears learned := by
  refine ⟨⟨some after, fun found same => Option.some.inj same ▸ coherent, true,
    decide (after.state = .createInFlight), none, knowledge.gone⟩, ⟨rfl, rfl, rfl, rfl, rfl⟩, ?_⟩
  have fits := fits_of_mayWrite safe bears may
  refine ⟨World.record_journal coherent, fun fresh => ?_, nofun, fun gone => ?_⟩
  · -- A create is only recorded over a record that no create was given for.
    have state : after.state = .createInFlight := of_decide_eq_true fresh
    apply (world.record_retains after).untouched
    cases may with
    | first absent sequence either => exact safe.untouched (bears.record.trans absent)
    | @move before reads advances =>
      have leads := advances.leads
      rw [state] at leads
      generalize source : before.state = first at leads
      cases leads
      simpa only [World.Fits, source] using safe.fits before (bears.record.trans reads)
    | bind reads advances created => exact absurd (state.symm.trans created) (by decide)
  · exact (world.record_retains after).removed (bears.gone gone)

theorem only_of_cleans (bears : world.Bears knowledge) {id : ContainerId}
    (cleans : knowledge.cleans id = true) : world.Only id := by
  obtain ⟨record, reads, checks⟩ := (Option.any_eq_true _ _).1 cleans
  obtain ⟨state, bound⟩ := Bool.and_eq_true_iff.1 checks
  obtain ⟨identity, container, same⟩ := (Option.any_eq_true _ _).1 bound
  have fits := safe.fits record (bears.record.trans reads)
  simp only [World.Fits, of_decide_eq_true state] at fits
  exact of_decide_eq_true same ▸ fits identity container

theorem bears_gone (bears : world.Bears knowledge) {id : ContainerId}
    (absent : ∀ container ∈ world.containers, container.id ≠ id) :
    world.Bears { knowledge with gone := knowledge.gone || knowledge.cleans id } where
  record := bears.record
  fresh := bears.fresh
  made := bears.made
  gone := fun gone => by
    obtain before | cleans := Bool.or_eq_true_iff.1 gone
    · exact bears.gone before
    · exact (only_of_cleans safe bears cleans).removed absent

theorem safe_create (bears : world.Bears knowledge)
    (fresh : knowledge.fresh = true) (reads : knowledge.record = some record)
    (state : record.state = .createInFlight) (containers : List Container) (pending : Bool)
    (created : ∀ container ∈ containers, container.status = .created) :
    ({ world with containers, creates := world.creates + 1, createPending := pending } : World).Safe
      attemptId where
  untouched := fun absent => by
    rw [bears.record, reads] at absent
    cases absent
  coherent := safe.coherent
  fits := fun found current => by
    obtain rfl : record = found := Option.some.inj ((reads.symm.trans bears.record.symm).trans current)
    have untouched := bears.fresh fresh
    simp only [World.Fits, state]
    refine ⟨⟨?_, created, untouched.startsPending⟩, fun none => absurd none (Nat.succ_ne_zero _)⟩
    rw [untouched.creates]

theorem safe_start (bears : world.Bears knowledge)
    {identity : ContainerIdentity} (reads : knowledge.record = some record)
    (state : record.state = .startInFlight) (bound : record.container = some identity)
    (journal : next.journal = world.journal)
    (only : world.Only identity.containerId -> next.Only identity.containerId) :
    next.Safe attemptId where
  untouched := fun absent => by
    rw [journal, bears.record, reads] at absent
    cases absent
  coherent := journal ▸ safe.coherent
  fits := fun found current => by
    obtain rfl : record = found := Option.some.inj ((reads.symm.trans bears.record.symm).trans (journal ▸ current))
    have fits := safe.fits record (bears.record.trans reads)
    simp only [World.Fits, state] at fits ⊢
    intro other same
    obtain rfl : identity = other := Option.some.inj (bound.symm.trans same)
    exact only (fits identity bound)

end

theorem World.Keeps.knows (keeps : world.Keeps next) (knows : world.Knows knowledge) :
    next.Knows knowledge := fun sure => keeps.bears (knows sure)

theorem sound_write (safe : world.Safe attemptId) (knows : world.Knows knowledge)
    {answer : Bool} (allowed : knowledge.allows (.write after))
    (executed : executes world (.write after) answer next) :
    next.Safe attemptId ∧ world.Follows attemptId next ∧
      ∃ learned, knowledge.learns (.write after) answer learned ∧ next.Knows learned := by
  obtain ⟨sure, coherent, may⟩ := allowed
  have bears := knows sure
  have replaced : (world.record after).Safe attemptId := safe_record coherent (fits_of_mayWrite safe bears may)
  have follows : world.Follows attemptId (world.record after) := by
    unfold World.Follows
    rw [World.record_journal coherent]
    exact follows_of_mayWrite bears may
  cases answer with
  | true =>
    subst executed
    obtain ⟨learned, wrote, known⟩ := bears_record safe bears coherent may
    exact ⟨replaced, follows, learned, wrote, fun _ => known⟩
  | false =>
    -- Whether the record was replaced is not known, so nothing more may be done.
    refine ⟨?_, ?_, { knowledge with sure := false }, rfl, nofun⟩
    · obtain rfl | rfl := executed
      · exact safe
      · exact replaced
    · obtain rfl | rfl := executed
      · exact .same rfl
      · exact follows

theorem sound_create (safe : world.Safe attemptId) (knows : world.Knows knowledge) {labels : Labels}
    {answer : DockerReply ContainerId} (allowed : knowledge.allows (.create labels))
    (executed : executes world (.create labels) answer next) :
    next.Safe attemptId ∧ world.Follows attemptId next ∧
      ∃ learned, knowledge.learns (.create labels) answer learned ∧ next.Knows learned := by
  obtain ⟨sure, fresh, record, reads, state⟩ := allowed
  have bears := knows sure
  have untouched := bears.fresh fresh
  cases answer with
  | ok id =>
    subst executed
    refine ⟨?_, .same rfl, _, rfl, fun _ => ⟨bears.record, nofun, fun made same => ?_, nofun⟩⟩
    · refine safe_create safe bears fresh reads state _ _ fun container member => ?_
      simp only [World.create, untouched.containers, mem_singleton] at member
      rw [member]
    · cases same
      refine ⟨?_, fun container member => ?_, untouched.createPending, fun pending started => ?_⟩
      · exact Nat.le_of_eq (congrArg (· + 1) untouched.creates)
      · simp only [World.create, untouched.containers, mem_singleton] at member
        rw [member]
      · simp [World.create, untouched.startsPending] at started
  | failed | timedOut =>
    subst executed
    refine ⟨?_, .same rfl, _, rfl, fun _ => ⟨bears.record, nofun, nofun, nofun⟩⟩
    refine safe_create safe bears fresh reads state _ _ fun container member => ?_
    rw [untouched.containers] at member
    cases member

theorem sound_start (safe : world.Safe attemptId) (knows : world.Knows knowledge) {id : ContainerId}
    {answer : DockerReply Unit} (allowed : knowledge.allows (.start id))
    (executed : executes world (.start id) answer next) :
    next.Safe attemptId ∧ world.Follows attemptId next ∧
      ∃ learned, knowledge.learns (.start id) answer learned ∧ next.Knows learned := by
  obtain ⟨sure, record, identity, reads, state, bound, rfl⟩ := allowed
  have bears := knows sure
  cases answer with
  | ok started =>
    subst executed
    refine ⟨safe_start safe bears reads state bound rfl fun only => only.start _, .same rfl, _, rfl, ?_⟩
    exact fun _ => ⟨bears.record, nofun, nofun, fun gone => (bears.gone gone).start _⟩
  | failed | timedOut =>
    subst executed
    refine ⟨safe_start safe bears reads state bound rfl fun only => ?_, .same rfl, _, rfl, ?_⟩
    · refine ⟨only.creates, only.containers, only.createPending, fun pending member => ?_⟩
      obtain rfl | before := mem_cons.1 member
      · rfl
      · exact only.startsPending pending before
    · intro _
      refine ⟨bears.record, nofun, nofun, fun gone => ?_⟩
      have removed := bears.gone gone
      exact ⟨removed.creates, removed.containers, removed.createPending⟩

theorem contract_sound (attemptId : AttemptId) :
    (contract attemptId).Sound environment (fun world => world.Safe attemptId) World.Knows
      (World.Follows attemptId) where
  refl := fun world => .same rfl
  happens := fun safe happens => by
    have keeps := World.keeps_of_happens happens
    exact ⟨keeps.safe safe, keeps.follows, fun knowledge => keeps.knows⟩
  executes := fun {world next knowledge command answer} safe knows allowed executed => by
    have kept (keeps : world.Keeps next) : next.Safe attemptId ∧ world.Follows attemptId next ∧
        next.Knows knowledge :=
      ⟨keeps.safe safe, keeps.follows, keeps.knows knows⟩
    have unchanged (same : next = world) : next.Safe attemptId ∧ world.Follows attemptId next ∧
        next.Knows knowledge :=
      kept (same ▸ .refl world)
    cases command with
    | write after => exact sound_write safe knows allowed executed
    | create labels => exact sound_create safe knows allowed executed
    | start id => exact sound_start safe knows allowed executed
    | load owner =>
      obtain ⟨found, same⟩ := executed
      obtain ⟨safe, follows, known⟩ := unchanged same
      exact ⟨safe, follows, knowledge, ⟨found.trans (allowed.2 ▸ (knows allowed.1).record), rfl⟩, known⟩
    | stop id =>
      cases answer with
      | ok stopped =>
        obtain ⟨safe, follows, known⟩ := kept (executed ▸ (World.halt_shrinks world id).keeps)
        exact ⟨safe, follows, knowledge, rfl, known⟩
      | failed | timedOut =>
        obtain ⟨safe, follows, known⟩ := unchanged executed
        exact ⟨safe, follows, knowledge, rfl, known⟩
    | remove id =>
      cases answer with
      | ok gone =>
        obtain ⟨safeAfter, follows, known⟩ := kept (executed ▸ (World.remove_shrinks world id).keeps)
        refine ⟨safeAfter, follows, _, rfl, fun sure => bears_gone safeAfter (known sure) ?_⟩
        subst executed
        exact fun container member => of_decide_eq_true (mem_filter.1 member).2
      | failed | timedOut =>
        obtain ⟨safe, follows, known⟩ := unchanged executed
        exact ⟨safe, follows, knowledge, rfl, known⟩
    | inspect id =>
      cases answer with
      | ok found =>
        cases found with
        | none =>
          obtain ⟨same, absent⟩ := executed
          obtain ⟨safeAfter, follows, known⟩ := unchanged same
          exact ⟨safeAfter, follows, _, rfl, fun sure => bears_gone safeAfter (known sure) (same ▸ absent)⟩
        | some inspection =>
          obtain ⟨safe, follows, known⟩ := unchanged executed
          exact ⟨safe, follows, knowledge, rfl, known⟩
      | failed | timedOut =>
        obtain ⟨safe, follows, known⟩ := unchanged executed
        exact ⟨safe, follows, knowledge, rfl, known⟩
    | execDetached id | findByLabels labels | monotonic | now | materialize | verifyMaterialized =>
      obtain ⟨safe, follows, known⟩ := unchanged executed
      exact ⟨safe, follows, knowledge, rfl, known⟩

end

end Nexa.Host
