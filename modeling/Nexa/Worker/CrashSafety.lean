import Nexa.Worker.Docker

namespace Nexa.Host

open Interaction Journal DockerExecutor

variable {attemptId : AttemptId} {knowledge : Knowledge attemptId} {α : Type}

abbrev Ends (ends : Knowledge attemptId -> α -> Prop) (program : Exec α) (knowledge : Knowledge attemptId) : Prop :=
  (contract attemptId).wp ends (fun _ _ => True) program knowledge

variable {record : JournalRecord} {labels : Labels} {identity : ContainerIdentity} {id : ContainerId}

section

variable {program : Exec α} {ends : Knowledge attemptId -> α -> Prop}
  {fails : Knowledge attemptId -> WorkerFailure -> Prop} {owner : AttemptId}

theorem wp_command {command : Command} {ends : Knowledge attemptId -> command.Answer -> Prop} :
    (contract attemptId).wp ends fails (perform command) knowledge <->
      knowledge.allows command ∧
        ∀ answer learned, knowledge.learns command answer learned -> ends learned answer := Iff.rfl

theorem wp_ofExcept {result : Except WorkerFailure α} :
    (contract attemptId).wp ends fails (ofExcept result) knowledge <->
      (∀ value, result = .ok value -> ends knowledge value) ∧
        ∀ error, result = .error error -> fails knowledge error := by
  cases result <;> simp [ofExcept]

theorem wp_replied {reply : DockerReply α} (returns : ∀ value, reply = .ok value -> ends knowledge value)
    (breaks : ∀ error, error = .docker ∨ error = .timeout -> fails knowledge error) :
    (contract attemptId).wp ends fails (replied reply) knowledge := by
  cases reply with
  | ok value => exact returns value rfl
  | failed => exact breaks _ (.inl rfl)
  | timedOut => exact breaks _ (.inr rfl)

theorem ends_handle {handler : WorkerFailure -> Exec α}
    (raises : ∀ error, ∃ other, handler error = .raise other) (kept : Ends ends program knowledge) :
    Ends ends (program.handle handler) knowledge := by
  rw [Ends, wp_handle]
  refine wp_mono kept (fun _ _ ended => ended) fun learned error _ => ?_
  obtain ⟨other, same⟩ := raises error
  rw [same]
  trivial

theorem ends_mono {more : Knowledge attemptId -> α -> Prop} (kept : Ends ends program knowledge)
    (ending : ∀ learned value, ends learned value -> more learned value) : Ends more program knowledge :=
  wp_mono kept ending fun _ _ _ => trivial

theorem ends_orRuntime {error : WorkerFailure} (kept : Ends ends program knowledge) :
    Ends ends (orRuntime program error) knowledge :=
  ends_handle (fun _ => ⟨_, rfl⟩) kept

theorem ends_orJournal {code : ExecutorErrorCode} (kept : Ends ends program knowledge) :
    Ends ends (orJournal program code) knowledge := by
  refine ends_handle (fun error => ?_) kept
  cases error <;> exact ⟨_, rfl⟩

theorem ends_demand {condition : Prop} [Decidable condition] {error : WorkerFailure}
    {ends : Knowledge attemptId -> Unit -> Prop} (returns : condition -> ends knowledge ()) :
    Ends ends (.demand condition error) knowledge := by
  rw [Ends, wp_demand]
  exact ⟨returns, fun _ => trivial⟩

theorem ends_fileCheck {command : Exec (Option String)} {failure : String -> WorkerFailure}
    {ends : Knowledge attemptId -> Unit -> Prop}
    (kept : Ends (fun learned _ => ends learned ()) command knowledge) :
    Ends ends (fileCheck command failure) knowledge := by
  rw [fileCheck, Ends, wp_bind]
  refine wp_mono kept (fun learned message ended => ?_) fun _ _ failed => failed
  cases message with
  | none => exact ended
  | some text => trivial

variable (sure : knowledge.sure = true)
include sure

theorem ends_now {ends : Knowledge attemptId -> Time -> Prop}
    (returns : ∀ time, ends knowledge time) : Ends ends now knowledge :=
  ⟨sure, fun time _ same => same ▸ returns time⟩

theorem wp_monotonic {ends : Knowledge attemptId -> Nat -> Prop} (returns : ∀ reading, ends knowledge reading) :
    (contract attemptId).wp ends fails monotonic knowledge :=
  ⟨sure, fun reading _ same => same ▸ returns reading⟩

theorem ends_loaded {ends : Knowledge attemptId -> Option JournalRecord -> Prop}
    (owned : owner = attemptId) (returns : ends knowledge knowledge.record) :
    Ends ends (loaded owner) knowledge := by
  refine ⟨⟨sure, owned⟩, ?_⟩
  rintro _ _ ⟨rfl, rfl⟩
  exact returns

theorem wp_remaining {executor : DockerExecutor} {request : StartExecution}
    {ends : Knowledge attemptId -> Unit -> Prop} (returns : ends knowledge ())
    (breaks : ∀ error, fails knowledge error) :
    (contract attemptId).wp ends fails (executor.remaining record request) knowledge := by
  unfold remaining
  split
  · exact returns
  · split_ifs
    · exact returns
    · rw [wp_bind]
      refine wp_monotonic sure fun reading => ?_
      rw [wp_demand]
      exact ⟨fun _ => returns, fun _ => breaks _⟩

theorem ends_remaining {executor : DockerExecutor} {request : StartExecution}
    {ends : Knowledge attemptId -> Unit -> Prop} (returns : ends knowledge ()) :
    Ends ends (executor.remaining record request) knowledge :=
  wp_remaining sure returns fun _ => trivial

theorem ends_dockerCreate {ends : Knowledge attemptId -> ContainerId -> Prop}
    (fresh : knowledge.fresh = true) (reads : knowledge.record = some record)
    (state : record.state = .createInFlight)
    (returns : ∀ id, ends { knowledge with fresh := false, made := some id, gone := false } id) :
    Ends ends (dockerCreate labels) knowledge := by
  rw [dockerCreate, Ends, wp_bind, wp_command]
  refine ⟨⟨sure, fresh, record, reads, state⟩, fun answer learned learns => ?_⟩
  refine wp_replied (fun id ok => ?_) fun _ _ => trivial
  subst ok
  exact learns ▸ returns id

theorem wp_dockerStart {ends : Knowledge attemptId -> Unit -> Prop} (reads : knowledge.record = some record)
    (state : record.state = .startInFlight) (bound : record.container = some identity)
    (returns : ∀ learned : Knowledge attemptId, learned.sure = true -> learned.record = knowledge.record ->
      ends learned ())
    (breaks : ∀ (learned : Knowledge attemptId) error, learned.sure = true ->
      learned.record = knowledge.record -> fails learned error) :
    (contract attemptId).wp ends fails (dockerStart identity.containerId) knowledge := by
  rw [dockerStart, wp_bind, wp_command]
  refine ⟨⟨sure, record, identity, reads, state, bound, rfl⟩, fun answer learned learns => ?_⟩
  obtain rfl : learned = { knowledge with fresh := false, made := none } := by
    cases answer <;> exact learns
  exact wp_replied (fun _ _ => returns _ sure rfl) fun error _ => breaks _ error sure rfl

theorem ends_dockerExecDetached {ends : Knowledge attemptId -> Unit -> Prop}
    (returns : ends knowledge ()) : Ends ends (dockerExecDetached id) knowledge := by
  rw [dockerExecDetached, Ends, wp_bind, wp_command]
  refine ⟨sure, fun answer learned learns => ?_⟩
  obtain rfl : learned = knowledge := learns
  exact wp_replied (fun _ _ => returns) fun _ _ => trivial

theorem ends_dockerStop {ends : Knowledge attemptId -> Unit -> Prop}
    (returns : ends knowledge ()) : Ends ends (dockerStop id) knowledge := by
  rw [dockerStop, Ends, wp_bind, wp_command]
  refine ⟨sure, fun answer learned learns => ?_⟩
  obtain rfl : learned = knowledge := learns
  exact wp_replied (fun _ _ => returns) fun _ _ => trivial

theorem ends_dockerRemove {ends : Knowledge attemptId -> Unit -> Prop}
    (returns : ends { knowledge with gone := knowledge.gone || knowledge.cleans id } ()) :
    Ends ends (dockerRemove id) knowledge := by
  rw [dockerRemove, Ends, wp_bind, wp_command]
  refine ⟨sure, fun answer learned learns => ?_⟩
  refine wp_replied (fun _ ok => ?_) fun _ _ => trivial
  subst ok
  exact learns ▸ returns

theorem ends_findStartupIdentity {ends : Knowledge attemptId -> List ContainerId -> Prop}
    (returns : ∀ found, ends knowledge found) : Ends ends (findStartupIdentity labels) knowledge := by
  apply ends_orRuntime
  rw [dockerFindByLabels, Ends, wp_bind, wp_command]
  refine ⟨sure, fun answer learned learns => ?_⟩
  obtain rfl : learned = knowledge := learns
  exact wp_replied (fun found _ => returns found) fun _ _ => trivial

theorem wp_inspectRaw {ends : Knowledge attemptId -> Inspection -> Prop}
    (returns : ∀ payload, ends knowledge payload)
    (absent : fails { knowledge with gone := knowledge.gone || knowledge.cleans id } .containerNotFound)
    (breaks : ∀ error, error ≠ .containerNotFound -> fails knowledge error) :
    (contract attemptId).wp ends fails (inspectRaw id) knowledge := by
  rw [inspectRaw, wp_handle, dockerInspect, wp_bind, wp_bind, wp_command]
  refine ⟨sure, fun answer learned learns => ?_⟩
  cases answer with
  | ok found =>
    cases found with
    | none => exact learns ▸ absent
    | some payload =>
      obtain rfl : learned = knowledge := learns
      exact returns payload
  | failed | timedOut =>
    obtain rfl : learned = knowledge := learns
    exact breaks _ (by simp [WorkerFailure.isRuntimeError, executorError])

theorem wp_inspectIdentity {ends : Knowledge attemptId -> Inspection -> Prop}
    (returns : ∀ payload, ends knowledge payload)
    (absent : fails
      { knowledge with gone := knowledge.gone || knowledge.cleans identity.containerId }
      .containerNotFound)
    (breaks : ∀ error, error ≠ .containerNotFound -> fails knowledge error) :
    (contract attemptId).wp ends fails (inspectIdentity identity) knowledge := by
  rw [inspectIdentity, wp_bind]
  refine wp_inspectRaw sure (fun payload => ?_) absent breaks
  rw [wp_bind, wp_demand]
  exact ⟨fun _ => returns payload, fun _ => breaks _ (by simp [executorError])⟩

theorem ends_inspect {ends : Knowledge attemptId -> ContainerObservation -> Prop}
    (returns : ∀ observation, ends knowledge observation) : Ends ends (inspect identity) knowledge := by
  rw [inspect, Ends, wp_bind]
  refine wp_inspectIdentity sure (fun payload => ?_) trivial fun _ _ => trivial
  cases payload.state with
  | none => trivial
  | some state => exact returns _

theorem ends_load {ends : Knowledge attemptId -> JournalRecord -> Prop}
    (owned : owner = attemptId) (returns : ∀ found, knowledge.record = some found -> ends knowledge found) :
    Ends ends (load owner) knowledge := by
  rw [load, journal, Ends, wp_bind]
  refine ends_loaded sure owned ?_
  rw [wp_bind, wp_ofExcept]
  refine ⟨fun decision decided => ?_, fun _ _ => trivial⟩
  obtain ⟨record, checked, rfl⟩ := Outcome.map_eq_ok.1 decided
  cases found : knowledge.record with
  | none =>
    rw [found] at checked
    cases checked
  | some current =>
    rw [found, load_eq_ok] at checked
    exact returns record (checked.1 ▸ found)

theorem ends_journal {method : JournalMethod}
    {ends : Knowledge attemptId -> JournalRecord -> Prop} (owned : owner = attemptId)
    (keep : ∀ record, method knowledge.record = .ok (.keep record) -> ends knowledge record)
    (write : ∀ record, method knowledge.record = .ok (.write record) ->
      record.Coherent attemptId ∧ knowledge.MayWrite record ∧
        ∀ learned, knowledge.Wrote record learned -> ends learned record) :
    Ends ends (journal owner method) knowledge := by
  rw [journal, Ends, wp_bind]
  refine ends_loaded sure owned ?_
  rw [wp_bind, wp_ofExcept]
  refine ⟨fun decision decided => ?_, fun _ _ => trivial⟩
  cases decision with
  | keep record => exact keep record decided
  | write record =>
    obtain ⟨coherent, may, returns⟩ := write record decided
    refine ⟨⟨sure, coherent, may⟩, fun answer learned learns => ?_⟩
    cases answer with
    | true => exact returns learned learns
    | false => trivial

theorem ends_moves {method : JournalMethod} {found : JournalRecord}
    {source kept : Prop} {target : JournalState} {ends : Knowledge attemptId -> JournalRecord -> Prop}
    (owned : owner = attemptId) (reads : knowledge.record = some found)
    (decides : ∀ decision, method (some found) = .ok decision -> Decides found source target kept decision)
    (leads : source -> found.state.Leads target)
    (binds : source -> found.state = .createInFlight -> target = .tombstoned)
    (gone : source -> found.state = .cleanupInFlight -> knowledge.gone = true)
    (keep : kept -> ends knowledge found)
    (write : source -> ∀ after learned, found.Moved after target -> knowledge.Wrote after learned ->
      ends learned after) :
    Ends ends (journal owner method) knowledge := by
  refine ends_journal sure owned (fun record decided => ?_) fun record decided => ?_
  · rw [reads] at decided
    cases decides _ decided with
    | keep already => exact keep already
  · rw [reads] at decided
    cases decides _ decided with
    | write ready moved =>
      have steps := leads ready
      exact ⟨moved.coherent (knowledge.coherent found reads) steps (binds ready),
        .move reads (moved.advances steps) moved.container (gone ready),
        fun learned wrote => write ready record learned moved wrote⟩

theorem ends_moves_from {method : JournalMethod} {found : JournalRecord} {kept : Prop}
    {source target : JournalState} {ends : Knowledge attemptId -> JournalRecord -> Prop}
    (owned : owner = attemptId) (reads : knowledge.record = some found)
    (decides : ∀ decision, method (some found) = .ok decision ->
      Decides found (found.state = source) target kept decision)
    (leads : source.Leads target) (binds : source = .createInFlight -> target = .tombstoned)
    (gone : source = .cleanupInFlight -> knowledge.gone = true) (keep : kept -> ends knowledge found)
    (write : ∀ after learned, found.Moved after target -> knowledge.Wrote after learned -> ends learned after) :
    Ends ends (journal owner method) knowledge := by
  refine ends_moves sure owned reads decides (fun is => ?_) (fun is flight => ?_) (fun is cleaning => ?_) keep
    fun _ => write
  · rw [is]
    exact leads
  · exact binds (is.symm.trans flight)
  · exact gone (is.symm.trans cleaning)

end

def Knowledge.Reads (knowledge : Knowledge attemptId) (record : JournalRecord) : Prop :=
  knowledge.sure = true ∧ knowledge.record = some record

theorem Knowledge.Wrote.reads {learned : Knowledge attemptId} {after : JournalRecord}
    (wrote : knowledge.Wrote after learned) : learned.Reads after :=
  ⟨wrote.sure, wrote.record⟩

variable {ends : Knowledge attemptId -> Unit -> Prop} {expected : Nat} {checksum : Checksum}
    {reason : String}

section

variable {record : JournalRecord} {identity : ContainerIdentity} {request : StartExecution}
  {executor : DockerExecutor}

theorem ends_startSupervisor (sure : knowledge.sure = true)
    (returns : ends knowledge ()) : Ends ends (startSupervisor identity request) knowledge := by
  unfold startSupervisor
  split_ifs
  · exact ends_handle (fun _ => ⟨_, rfl⟩) (ends_dockerExecDetached sure returns)
  · exact returns

section

variable (reads : knowledge.Reads record) (bound : record.container = some identity)

include reads bound

theorem Knowledge.Reads.owner :
    identity.attemptId = attemptId :=
  (knowledge.coherent record reads.2).owner identity bound

theorem ends_beginStart :
    Ends (fun learned begun => learned.Reads begun ∧ begun.state = .startInFlight ∧ begun.container = some identity)
      (journal identity.attemptId (beginStart identity.attemptId expected)) knowledge := by
  refine ends_moves_from reads.1 (reads.owner bound) reads.2 (fun _ => beginStart_decides) .start nofun
    nofun (fun already => ?_) fun after learned moved wrote => ?_
  · exact ⟨reads, already, bound⟩
  · exact ⟨wrote.reads, moved.state, moved.container.trans bound⟩

theorem ends_markStarted :
    Ends (fun _ _ => True)
      (journal identity.attemptId (markStarted identity.attemptId expected)) knowledge :=
  ends_moves_from reads.1 (reads.owner bound) reads.2 (fun _ => markStarted_decides) .mark nofun nofun
    (fun _ => trivial) fun _ _ _ _ => trivial

theorem ends_resetStartAfterFailure :
    Ends (fun _ _ => True)
      (journal identity.attemptId (resetStartAfterFailure identity.attemptId expected))
      knowledge :=
  ends_moves_from reads.1 (reads.owner bound) reads.2 (fun _ => resetStartAfterFailure_decides) .reset nofun
    nofun (fun _ => trivial) fun _ _ _ _ => trivial

theorem ends_adoptRunning :
    Ends (fun _ _ => True) (executor.adoptRunning record identity request) knowledge := by
  unfold adoptRunning
  split
  · simp only [Ends, wp_bind]
    refine ends_demand fun _ => ?_
    exact ends_markStarted reads bound
  · simp only [Ends, wp_bind]
    refine ends_mono (ends_beginStart reads bound) fun learned begun known => ?_
    obtain ⟨readsBegun, -, boundBegun⟩ := known
    refine ends_remaining readsBegun.1 ?_
    refine ends_startSupervisor readsBegun.1 ?_
    exact ends_markStarted readsBegun boundBegun
  · trivial

theorem ends_startRaised {raised : WorkerFailure} :
    Ends ends (startRaised record identity raised) knowledge := by
  unfold startRaised
  split_ifs
  · trivial
  · rw [Ends, wp_bind, wp_handle, wp_bind]
    refine wp_mono (ends_resetStartAfterFailure reads bound) (fun _ _ _ => trivial) fun _ error _ => ?_
    cases error <;> trivial
  · trivial

theorem ends_giveStart (state : record.state = .startInFlight) :
    Ends (fun learned _ => learned.Reads record) (executor.giveStart record identity request)
      knowledge := by
  rw [giveStart, Ends, wp_handle, wp_bind]
  refine wp_remaining reads.1 ?_ fun _ => ends_startRaised reads bound
  refine wp_dockerStart reads.1 reads.2 state bound (fun learned sure same => ?_)
    fun learned error sure same => ?_
  · exact ⟨sure, same.trans reads.2⟩
  · exact ends_startRaised ⟨sure, same.trans reads.2⟩ bound

theorem ends_startBegun :
    Ends (fun learned begun => learned.Reads begun ∧ begun.state = .startInFlight ∧ begun.container = some identity)
      (startBegun record identity) knowledge := by
  unfold startBegun
  split_ifs
  · exact ends_beginStart reads bound
  · rw [Ends, wp_bind]
    exact ends_demand fun flight => ⟨reads, flight, bound⟩

theorem ends_startCreated :
    Ends (fun _ _ => True) (executor.startCreated record identity request) knowledge := by
  simp only [startCreated, Ends, wp_bind]
  refine ends_mono (ends_startBegun reads bound) fun learned begun known => ?_
  obtain ⟨readsBegun, flight, boundBegun⟩ := known
  refine ends_mono (ends_giveStart readsBegun boundBegun flight) fun learned _ known => ?_
  refine ends_remaining known.1 ?_
  refine ends_startSupervisor known.1 ?_
  exact ends_orJournal (ends_markStarted known boundBegun)

theorem ends_reconcileAndStart :
    Ends (fun _ _ => True) (executor.reconcileAndStart record identity request) knowledge := by
  rw [reconcileAndStart, Ends, wp_bind]
  refine ends_demand fun _ => ?_
  rw [wp_bind]
  refine ends_remaining reads.1 ?_
  rw [wp_bind]
  refine wp_inspectIdentity reads.1 (fun payload => ?_) trivial fun _ _ => trivial
  cases payload.state with
  | none => trivial
  | some state =>
    simp only
    split_ifs
    · exact ends_adoptRunning reads bound
    · rw [wp_bind]
      refine ends_demand fun _ => ?_
      rw [wp_bind]
      exact ends_demand fun _ => ends_startCreated reads bound

end

section

variable (reads : knowledge.Reads record)

include reads

theorem ends_beginCreate (state : record.state = .prepared) {startedNs clockDomain : Nat} :
    Ends (fun learned begun => learned.Reads begun ∧ begun.state = .createInFlight ∧ learned.fresh = true)
      (journal attemptId (beginCreate attemptId expected startedNs clockDomain)) knowledge := by
  refine ends_moves_from reads.1 rfl reads.2 (fun _ => beginCreate_decides) .create nofun nofun
    (fun other => ?_) fun after learned moved wrote => ?_
  · exact absurd state other
  · exact ⟨wrote.reads, moved.state, by rw [wrote.fresh, moved.state]; rfl⟩

theorem ends_bindCreated
    (made : knowledge.made = some identity.containerId) :
    Ends (fun learned after => learned.Reads after)
      (journal attemptId (bindCreated attemptId identity)) knowledge := by
  refine ends_journal reads.1 rfl (fun after decided => ?_) fun after decided => ?_
  · rw [reads.2] at decided
    obtain ⟨kept, -⟩ | ⟨_, written, -⟩ := bindCreated_decides decided
    · cases kept
      exact reads
    · cases written
  · rw [reads.2] at decided
    obtain ⟨kept, -⟩ | ⟨_, written, bound⟩ := bindCreated_decides decided
    · cases kept
    · cases written
      have coherent := knowledge.coherent record reads.2
      refine ⟨bound.coherent coherent, .bind reads.2 ?_ bound.state bound.container made,
        fun learned wrote => wrote.reads⟩
      refine ⟨?_, bound.sequence, bound.attempt, fun other before => ?_⟩
      · rw [bound.source, bound.state]
        exact .bind
      · rw [coherent.unbound (.inr bound.source)] at before
        cases before

end

theorem ends_create (owned : request.attemptId = attemptId) (reads : knowledge.Reads record)
    (state : record.state = .prepared) :
    Ends (fun learned after => learned.Reads after) (executor.create request record) knowledge := by
  subst owned
  rw [create, Ends, wp_bind]
  refine wp_monotonic reads.1 fun startedNs => ?_
  rw [wp_bind]
  -- Where the try returns, the create was given once and its container is known.
  have gives : Ends
      (fun learned (made : JournalRecord × ContainerId) =>
        learned.Reads made.1 ∧ learned.made = some made.2)
      (do
        let begun <- journal request.attemptId
          (beginCreate request.attemptId record.operationSequence startedNs executor.clockDomain)
        executor.remaining begun request
        let containerId <- dockerCreate
          (executor.labels request.attemptId request.identity.allocationId request.identity.startupNonce)
        pure (begun, containerId)) knowledge := by
    rw [Ends, wp_bind]
    refine ends_mono (ends_beginCreate reads state) fun learned begun known => ?_
    obtain ⟨readsBegun, flight, fresh⟩ := known
    rw [wp_bind]
    refine ends_remaining readsBegun.1 ?_
    rw [wp_bind]
    exact ends_dockerCreate readsBegun.1 fresh readsBegun.2 flight fun id => ⟨readsBegun, rfl⟩
  refine ends_mono (ends_handle (fun error => ?_) gives) fun learned made known => ?_
  · cases error <;> exact ⟨_, rfl⟩
  obtain ⟨begun, containerId⟩ := made
  obtain ⟨readsBegun, made⟩ := known
  simp only
  rw [wp_bind]
  refine ends_remaining readsBegun.1 ?_
  rw [wp_bind]
  refine wp_inspectRaw readsBegun.1 (fun payload => ?_) trivial fun _ _ => trivial
  cases payload.labels with
  | none => trivial
  | some actual =>
    simp only
    rw [wp_bind]
    exact ends_demand fun _ => ends_orJournal (ends_bindCreated readsBegun made)

theorem ends_created (owned : request.attemptId = attemptId) (reads : knowledge.Reads record) :
    Ends (fun learned after => learned.Reads after) (executor.created request record) knowledge := by
  unfold created
  split_ifs with prepared
  · exact ends_create owned reads prepared
  · exact reads

theorem ends_start (owned : request.attemptId = attemptId) (sure : knowledge.sure = true) :
    Ends (fun _ _ => True) (executor.start request) knowledge := by
  rw [start, Ends, wp_bind]
  refine ends_fileCheck ⟨sure, fun answer learned same => ?_⟩
  obtain rfl : learned = knowledge := same
  rw [wp_done, wp_bind]
  refine ends_load sure owned fun found current => ?_
  rw [wp_bind]
  refine ends_demand fun _ => ?_
  rw [wp_bind]
  refine ends_demand fun _ => ?_
  rw [wp_bind]
  refine ends_demand fun _ => ?_
  rw [wp_bind]
  refine ends_mono (ends_created owned ⟨sure, current⟩) fun learned record reads => ?_
  cases bound : record.container with
  | none => trivial
  | some identity =>
    simp only
    split_ifs
    · rw [wp_bind]
      refine ends_remaining reads.1 ?_
      rw [wp_bind]
      exact wp_inspectIdentity reads.1 (fun _ => trivial) trivial fun _ _ => trivial
    · exact ends_reconcileAndStart reads bound

def Buries (bound : Option ContainerIdentity) (learned : Knowledge attemptId) : Prop :=
  ∃ after, learned.Reads after ∧ after.state = .tombstoned ∧ after.container = bound

section

variable (reads : knowledge.Reads record) (bound : record.container = some identity)

include reads bound

theorem ends_stop {ends : Knowledge attemptId -> ContainerObservation -> Prop}
    (returns : ∀ observation, ends knowledge observation) : Ends ends (stop identity) knowledge := by
  simp only [stop, Ends, wp_bind]
  refine ends_load reads.1 (reads.owner bound) fun _ _ => ?_
  refine ends_demand fun _ => ?_
  refine ends_inspect reads.1 fun observation => ?_
  split_ifs
  · rw [wp_bind]
    exact ends_orRuntime (ends_dockerStop reads.1 (ends_inspect reads.1 returns))
  · exact returns observation

theorem cleans_of_reads (state : record.state = .cleanupInFlight) :
    knowledge.cleans identity.containerId = true := by
  simp [Knowledge.cleans, reads.2, state, bound]

theorem ends_removeStopped (state : record.state = .cleanupInFlight) :
    Ends (fun learned _ => learned.Reads record ∧ learned.gone = true) (removeStopped identity)
      knowledge := by
  have cleans := cleans_of_reads reads bound state
  rw [removeStopped, Ends, wp_bind, present, wp_handle, wp_bind]
  refine wp_inspectIdentity reads.1 (fun payload => ?_) ?_ fun error other => ?_
  · refine ends_orRuntime (ends_dockerRemove reads.1 ⟨reads, ?_⟩)
    simp [cleans]
  · exact ⟨reads, by simp [cleans]⟩
  · cases error with
    | containerNotFound => exact absurd rfl other
    | _ => trivial

theorem ends_stoppedProof (state : record.state = .tombstoned) :
    Ends (fun learned proof => Buries (some identity) learned ∧ proof.container = some identity)
      (stoppedProof record identity) knowledge := by
  unfold stoppedProof
  split
  · exact ⟨⟨record, reads, state, bound⟩, rfl⟩
  · trivial

theorem ends_resumeCleanup (state : record.state = .cleanupInFlight) :
    Ends (fun learned proof => Buries (some identity) learned ∧ proof.container = some identity)
      (resumeCleanup record identity) knowledge := by
  simp only [resumeCleanup, Ends, wp_bind]
  refine ends_mono (ends_removeStopped reads bound state) fun learned _ known => ?_
  obtain ⟨reads, gone⟩ := known
  refine ends_orJournal (ends_moves_from reads.1 (reads.owner bound) reads.2
    (fun _ => finishCleanup_decides) .finish (fun _ => rfl) (fun _ => gone) (fun already => ?_)
    fun after learned moved wrote => ?_)
  · exact absurd (state.symm.trans already) (by decide)
  · exact ends_stoppedProof wrote.reads (moved.container.trans bound) moved.state

theorem ends_beginCleanup {stoppedAt : Time} {exitCode : Int} :
    Ends (fun learned begun => learned.Reads begun ∧ begun.state = .cleanupInFlight ∧ begun.container = some identity)
      (journal identity.attemptId
        (beginCleanup identity.attemptId expected checksum stoppedAt exitCode)) knowledge := by
  refine ends_moves reads.1 (reads.owner bound) reads.2 (fun _ => beginCleanup_decides)
    (fun source => ?_) (fun source flight => ?_) (fun source cleaning => ?_) (fun already => ?_)
    fun _ after learned moved wrote => ?_
  · obtain created | starting | started := source
    · exact created ▸ .cleanCreated
    · exact starting ▸ .cleanStarting
    · exact started ▸ .cleanStarted
  · simp [flight] at source
  · simp [cleaning] at source
  · exact ⟨reads, already, bound⟩
  · exact ⟨wrote.reads, moved.state, moved.container.trans bound⟩

end

theorem ends_cleanup (owned : identity.attemptId = attemptId) (sure : knowledge.sure = true) :
    Ends (fun learned proof => Buries (some identity) learned ∧ proof.container = some identity)
      (cleanup (some identity)) knowledge := by
  rw [cleanup, Ends, wp_bind]
  refine ends_load sure owned fun record current => ?_
  have reads : knowledge.Reads record := ⟨sure, current⟩
  rw [wp_bind]
  refine ends_demand fun bound => ?_
  split
  · next state => exact ends_stoppedProof reads bound state
  · trivial
  · next state => exact ends_resumeCleanup reads bound state
  · trivial
  all_goals
    rw [wp_bind]
    refine ends_stop reads bound fun observation => ?_
    rw [wp_bind]
    refine ends_now reads.1 fun stoppedAt => ?_
    rw [wp_bind]
    refine ends_orJournal (ends_mono (ends_beginCleanup reads bound) fun learned begun known => ?_)
    obtain ⟨readsBegun, state, boundBegun⟩ := known
    exact ends_resumeCleanup readsBegun boundBegun state

theorem mayWrite_first {state : JournalState} (absent : knowledge.record = none)
    (first : First record attemptId state) (either : state = .prepared ∨ state = .tombstoned) :
    record.Coherent attemptId ∧ knowledge.MayWrite record := by
  refine ⟨first.coherent ?_, .first absent first.sequence ?_ first.container⟩
  · obtain rfl | rfl := either <;> rfl
  · rw [first.state]
    exact either

theorem ends_prepareJournal (sure : knowledge.sure = true) {identity : ExecutionIdentity}
    {inputs : ExecutionInputs} (owned : identity.attemptId = attemptId) :
    Ends (fun learned _ => learned.sure = true) (journal identity.attemptId (prepare identity inputs))
      knowledge := by
  refine ends_journal sure owned (fun _ _ => sure) fun record decided => ?_
  cases current : knowledge.record with
  | some found =>
    rw [current] at decided
    cases prepare_keeps decided
  | none =>
    rw [current] at decided
    obtain ⟨_, written, first⟩ := prepare_first decided
    cases written
    obtain ⟨coherent, may⟩ := mayWrite_first current (owned ▸ first) (.inl rfl)
    exact ⟨coherent, may, fun learned wrote => wrote.sure⟩

theorem ends_prepare (owned : request.attemptId = attemptId) (sure : knowledge.sure = true) :
    Ends (fun _ _ => True) (executor.prepare request) knowledge := by
  refine ends_handle (fun error => ?_) ?_
  · cases error <;> exact ⟨_, rfl⟩
  rw [Ends, wp_bind, wp_ofExcept]
  refine ⟨fun _ _ => ?_, fun _ _ => trivial⟩
  rw [wp_bind, wp_ofExcept]
  refine ⟨fun _ _ => ?_, fun _ _ => trivial⟩
  rw [wp_bind]
  refine ends_mono (ends_prepareJournal sure owned) fun learned _ known => ?_
  exact ends_fileCheck ⟨known, fun _ _ _ => trivial⟩

theorem ends_noContainerProof (reads : knowledge.Reads record) (state : record.state = .tombstoned)
    {startupNonce : StartupNonce} :
    Ends (fun learned proof => (∃ after, learned.Reads after ∧ after.state = .tombstoned) ∧
        proof.proofType = .noContainer)
      (noContainerProof record startupNonce checksum) knowledge := by
  simp only [noContainerProof, Ends, wp_bind]
  refine ends_now reads.1 fun observedAt => ?_
  refine ends_demand fun _ => ?_
  exact ends_demand fun _ => ⟨⟨record, reads, state⟩, rfl⟩

theorem ends_unclaimedCheck {found : Option JournalRecord}
    (returns : ends knowledge ()) : Ends ends (unclaimedCheck request found) knowledge := by
  cases found with
  | none => exact returns
  | some found =>
    rw [unclaimedCheck, Ends, wp_bind, wp_ofExcept]
    refine ⟨fun existing _ => ?_, fun _ _ => trivial⟩
    rw [wp_bind]
    refine ends_demand fun _ => ?_
    rw [wp_bind]
    exact ends_demand fun _ => ends_demand fun _ => returns

theorem ends_createUnclaimedTombstone (sure : knowledge.sure = true) {identity : ExecutionIdentity}
    {inputs : ExecutionInputs}
    (owned : identity.attemptId = attemptId) :
    Ends (fun learned after => learned.Reads after ∧ after.state = .tombstoned)
      (journal identity.attemptId (createUnclaimedTombstone identity inputs reason checksum))
      knowledge := by
  cases current : knowledge.record with
  | some found =>
    have coherent := knowledge.coherent found current
    refine ends_moves_from sure owned current
      (fun _ => createUnclaimedTombstone_decides (owned.symm ▸ coherent)) .abandonPrepared (fun _ => rfl)
      nofun (fun already => ?_) fun after learned moved wrote => ?_
    · exact ⟨⟨sure, current⟩, already⟩
    · exact ⟨wrote.reads, moved.state⟩
  | none =>
    refine ends_journal sure owned (fun record decided => ?_) fun record decided => ?_
    · rw [current] at decided
      obtain ⟨_, written, -⟩ := createUnclaimedTombstone_first decided
      cases written
    · rw [current] at decided
      obtain ⟨_, written, first⟩ := createUnclaimedTombstone_first decided
      cases written
      obtain ⟨coherent, may⟩ := mayWrite_first current (owned ▸ first) (.inr rfl)
      exact ⟨coherent, may, fun learned wrote => ⟨wrote.reads, first.state⟩⟩

theorem ends_tombstoneUnclaimed (owned : request.attemptId = attemptId) (sure : knowledge.sure = true) :
    Ends (fun learned proof => (∃ after, learned.Reads after ∧ after.state = .tombstoned) ∧
        proof.proofType = .noContainer)
      (executor.tombstoneUnclaimed request reason) knowledge := by
  simp only [tombstoneUnclaimed, Ends, wp_bind]
  refine ends_loaded sure owned ?_
  refine ends_unclaimedCheck ?_
  refine ends_findStartupIdentity sure fun containers => ?_
  refine ends_demand fun _ => ?_
  refine ends_orJournal (ends_mono (ends_createUnclaimedTombstone sure owned)
    fun learned after known => ?_)
  exact ends_noContainerProof known.1 known.2

section

variable (sure : knowledge.sure = true)

include sure

theorem ends_inspectPresent {ends : Knowledge attemptId -> Option Inspection -> Prop}
    (returns : ∀ payload, ends knowledge (some payload))
    (absent : ends { knowledge with gone := knowledge.gone || knowledge.cleans id } none) :
    Ends ends (inspectPresent id) knowledge := by
  rw [inspectPresent, Ends, wp_handle, wp_bind]
  refine wp_inspectRaw sure returns absent fun error other => ?_
  cases error with
  | containerNotFound => exact absurd rfl other
  | _ => trivial

theorem ends_removeUnstarted :
    Ends (fun learned _ => learned.sure = true ∧ learned.record = knowledge.record)
      (removeUnstarted id labels) knowledge := by
  rw [removeUnstarted, Ends, wp_bind]
  refine ends_inspectPresent sure (fun payload => ?_) ⟨sure, rfl⟩
  simp only
  rw [wp_bind]
  refine ends_demand fun _ => ?_
  rw [wp_bind]
  refine ends_demand fun _ => ?_
  rw [wp_bind]
  refine ends_orRuntime (ends_dockerRemove sure ?_)
  rw [wp_bind]
  refine ends_inspectPresent ?_ (fun _ => ?_) ?_
  · exact sure
  · exact ends_demand fun _ => ⟨sure, rfl⟩
  · exact ends_demand fun _ => ⟨sure, rfl⟩

theorem ends_resolveOne :
    Ends (fun learned _ => learned.sure = true) (resolveOne labels knowledge.record id) knowledge := by
  unfold resolveOne
  split
  · trivial
  · next current reads =>
      rw [Ends, wp_bind]
      refine ends_demand fun _ => ?_
      cases bound : current.container with
      | none =>
        exact ends_mono (ends_removeUnstarted sure) fun _ _ known => known.1
      | some identity =>
        simp only
        rw [wp_bind]
        refine ends_demand fun _ => ?_
        rw [wp_bind]
        have owned := (knowledge.coherent current reads).owner identity bound
        refine ends_mono (ends_cleanup owned sure) fun learned _ known => ?_
        obtain ⟨⟨after, readsAfter, -⟩, -⟩ := known
        exact readsAfter.1

theorem ends_resolveFound (found : List ContainerId) :
    Ends (fun learned after => learned.sure = true ∧ learned.record = after)
      (resolveFound attemptId labels knowledge.record found) knowledge := by
  induction found generalizing knowledge with
  | nil => exact ⟨sure, rfl⟩
  | cons id rest ih =>
    simp only [resolveFound, Ends, wp_bind]
    refine ends_mono (ends_resolveOne sure) fun learned _ known => ?_
    refine ends_load known rfl fun next current => ?_
    rw [← current]
    exact ih known

theorem ends_finishInterrupted :
    Ends (fun learned after => learned.sure = true ∧ learned.record = after)
      (finishInterrupted attemptId knowledge.record) knowledge := by
  unfold finishInterrupted
  split
  · next record current =>
      split
      · next identity state bound =>
          have owned := (knowledge.coherent record current).owner identity bound
          simp only [Ends, wp_bind]
          refine ends_mono (ends_cleanup owned sure) fun learned _ known => ?_
          obtain ⟨⟨after, readsAfter, -⟩, -⟩ := known
          exact ends_load readsAfter.1 rfl fun next current => ⟨readsAfter.1, current⟩
      · exact ⟨sure, current⟩
  · next absent => exact ⟨sure, absent⟩

theorem ends_buryFenced {identity : ExecutionIdentity} (owned : identity.attemptId = attemptId) :
    Ends (fun learned after => learned.Reads after)
      (buryFenced identity reason checksum knowledge.record) knowledge := by
  unfold buryFenced
  split
  · next absent =>
      refine ends_journal sure owned (fun record decided => ?_) fun record decided => ?_
      · rw [absent] at decided
        obtain ⟨_, written, -⟩ := createReconciliationTombstone_first decided
        cases written
      · rw [absent] at decided
        obtain ⟨_, written, first⟩ := createReconciliationTombstone_first decided
        cases written
        obtain ⟨coherent, may⟩ := mayWrite_first absent (owned ▸ first) (.inr rfl)
        exact ⟨coherent, may, fun learned wrote => wrote.reads⟩
  · next record current =>
      have coherent := knowledge.coherent record current
      split
      · exact ends_moves_from sure owned current (fun _ => tombstone_decides (owned.symm ▸ coherent))
          .abandonPrepared (fun _ => rfl) nofun (fun _ => ⟨sure, current⟩) fun _ _ _ wrote => wrote.reads
      · exact ends_moves_from sure owned current (fun _ => tombstoneAbandonedCreate_decides)
          .abandonCreate (fun _ => rfl) nofun (fun _ => ⟨sure, current⟩) fun _ _ _ wrote => wrote.reads
      · exact ⟨sure, current⟩

end

theorem ends_fencedRecord {identity : ExecutionIdentity} {found : Option JournalRecord}
    {ends : Knowledge attemptId -> Option JournalRecord -> Prop} (returns : ends knowledge found) :
    Ends ends (fencedRecord identity found) knowledge := by
  cases found with
  | none => exact returns
  | some found =>
    rw [fencedRecord, Ends, wp_bind, wp_ofExcept]
    refine ⟨fun record checked => ?_, fun _ _ => trivial⟩
    rw [load_eq_ok] at checked
    rw [wp_bind]
    exact ends_demand fun _ => checked.1 ▸ returns

theorem ends_resolveFencedClaim {identity : ExecutionIdentity} (owned : identity.attemptId = attemptId)
    (sure : knowledge.sure = true) :
    Ends (fun learned proof => (∃ after, learned.Reads after ∧ after.state = .tombstoned) ∧
        proof.proofType = .noContainer)
      (executor.resolveFencedClaim identity reason) knowledge := by
  subst owned
  simp only [resolveFencedClaim, Ends, wp_bind]
  refine ends_loaded sure rfl ?_
  refine ends_fencedRecord ?_
  refine ends_findStartupIdentity sure fun containers => ?_
  refine ends_mono (ends_resolveFound sure containers) ?_
  rintro resolved _ ⟨sureResolved, rfl⟩
  refine ends_mono (ends_finishInterrupted sureResolved) ?_
  rintro finished _ ⟨sureFinished, rfl⟩
  refine ends_orJournal (ends_mono (ends_buryFenced sureFinished rfl) fun learned buried reads => ?_)
  refine ends_demand fun tombstoned => ?_
  refine ends_findStartupIdentity reads.1 fun remaining => ?_
  exact ends_demand fun _ => ends_noContainerProof reads tombstoned.1

theorem ends_removeUnstartedOrphan (owned : identity.attemptId = attemptId) (sure : knowledge.sure = true) :
    Ends (fun _ _ => True) (executor.removeUnstartedOrphan identity) knowledge := by
  simp only [removeUnstartedOrphan, Ends, wp_bind]
  refine ends_loaded sure owned ?_
  split
  · trivial
  · rw [wp_bind, wp_ofExcept]
    refine ⟨fun record _ => ?_, fun _ _ => trivial⟩
    split_ifs
    · trivial
    · rw [wp_bind]
      exact ends_mono (ends_removeUnstarted sure) fun _ _ _ => trivial

end

inductive Call where
  | prepare (request : StartExecution)
  | start (request : StartExecution)
  | cleanup (identity : Option ContainerIdentity)
  | tombstoneUnclaimed (request : StartExecution) (reason : String)
  | resolveFencedClaim (identity : ExecutionIdentity) (reason : String)
  | removeUnstartedOrphan (identity : ContainerIdentity)

inductive Reply where
  | prepared
  | started (identity : ContainerIdentity)
  | proof (proof : CleanupProof)
  | removed (removed : Bool)

def Call.On (attemptId : AttemptId) : Call -> Prop
  | .prepare request | .start request | .tombstoneUnclaimed request _ => request.attemptId = attemptId
  | .cleanup none => True
  | .cleanup (some identity) => identity.attemptId = attemptId
  | .resolveFencedClaim identity _ => identity.attemptId = attemptId
  | .removeUnstartedOrphan identity => identity.attemptId = attemptId

def Call.program (executor : DockerExecutor) : Call -> Exec Reply
  | .prepare request => do
    executor.prepare request
    pure .prepared
  | .start request => do
    let identity <- executor.start request
    pure (.started identity)
  | .cleanup identity => do
    let proof <- Host.cleanup identity
    pure (.proof proof)
  | .tombstoneUnclaimed request reason => do
    let proof <- executor.tombstoneUnclaimed request reason
    pure (.proof proof)
  | .resolveFencedClaim identity reason => do
    let proof <- executor.resolveFencedClaim identity reason
    pure (.proof proof)
  | .removeUnstartedOrphan identity => do
    let removed <- executor.removeUnstartedOrphan identity
    pure (.removed removed)

def World.Begins (attemptId : AttemptId) (world : World) : Prop := world.journal attemptId = none ∧ world.Untouched

def attemptSystem (executor : DockerExecutor) (attemptId : AttemptId) :
    Transition.System (Session interface World WorkerFailure Reply)
      (Interaction.Event { call : Call // call.On attemptId }) :=
  sessions environment (fun call => call.1.program executor) (World.Begins attemptId)

def Backed (journal : Option JournalRecord) : Reply -> Prop
  | .proof proof =>
    ∃ after, journal = some after ∧ after.state = .tombstoned ∧
      (proof.proofType = .containerStopped ->
        ∃ identity, proof.container = some identity ∧ after.container = some identity)
  | _ => True

def Returns (knowledge : Knowledge attemptId) (reply : Reply) : Prop :=
  (∃ proof, reply = .proof proof) -> knowledge.sure = true ∧ Backed knowledge.record reply

theorem returns_noContainer {learned : Knowledge attemptId} {proof : CleanupProof}
    (known : (∃ after, learned.Reads after ∧ after.state = .tombstoned) ∧ proof.proofType = .noContainer) :
    Returns learned (.proof proof) := by
  obtain ⟨⟨after, reads, state⟩, kind⟩ := known
  refine fun _ => ⟨reads.1, after, reads.2, state, fun stopped => ?_⟩
  exact absurd (kind.symm.trans stopped) (by decide)

theorem ends_program (executor : DockerExecutor) (call : Call) (on : call.On attemptId)
    (sure : knowledge.sure = true) : Ends Returns (call.program executor) knowledge := by
  cases call with
  | prepare request =>
    rw [Call.program, Ends, wp_bind]
    exact ends_mono (ends_prepare on sure) fun _ _ _ => nofun
  | start request =>
    rw [Call.program, Ends, wp_bind]
    exact ends_mono (ends_start on sure) fun _ _ _ => nofun
  | cleanup identity =>
    rw [Call.program, Ends, wp_bind]
    cases identity with
    | none => trivial
    | some identity =>
      refine ends_mono (ends_cleanup on sure) fun learned proof known => ?_
      obtain ⟨⟨after, reads, state, bound⟩, same⟩ := known
      exact fun _ => ⟨reads.1, after, reads.2, state, fun _ => ⟨identity, same, bound⟩⟩
  | tombstoneUnclaimed request reason =>
    rw [Call.program, Ends, wp_bind]
    exact ends_mono (ends_tombstoneUnclaimed on sure) fun _ _ => returns_noContainer
  | resolveFencedClaim identity reason =>
    rw [Call.program, Ends, wp_bind]
    exact ends_mono (ends_resolveFencedClaim on sure) fun _ _ => returns_noContainer
  | removeUnstartedOrphan identity =>
    rw [Call.program, Ends, wp_bind]
    exact ends_mono (ends_removeUnstartedOrphan on sure) fun _ _ _ => nofun

def Continues (before after : Option JournalRecord) : Prop :=
  ∀ old, before = some old ->
    ∃ new, after = some new ∧ (new = old ∨ old.operationSequence < new.operationSequence ∧ old.state ≠ .tombstoned) ∧
      ∀ identity, old.container = some identity -> new.container = some identity

variable {before after : Option JournalRecord}

theorem Continues.trans {middle : Option JournalRecord} (first : Continues before middle)
    (second : Continues middle after) : Continues before after := by
  intro old found
  obtain ⟨between, reads, changed, bound⟩ := first old found
  obtain ⟨new, readsNew, changedNew, boundNew⟩ := second between reads
  refine ⟨new, readsNew, ?_, fun identity same => boundNew identity (bound identity same)⟩
  obtain rfl | ⟨less, open_⟩ := changed
  · exact changedNew
  · obtain rfl | ⟨lessNew, -⟩ := changedNew
    · exact .inr ⟨less, open_⟩
    · exact .inr ⟨less.trans lessNew, open_⟩

theorem JournalRecord.Advances.open_ {before after : JournalRecord} (advances : before.Advances after) :
    before.state ≠ .tombstoned := by
  intro tombstoned
  have leads := advances.leads
  rw [tombstoned] at leads
  cases leads

theorem JournalFollows.continues (follows : JournalFollows before after) : Continues before after := by
  intro old found
  cases follows with
  | same same => exact ⟨old, same.trans found, .inl rfl, fun _ bound => bound⟩
  | first absent => exact nomatch absent.symm.trans found
  | replaced reads written advances =>
    obtain rfl := Option.some.inj (reads.symm.trans found)
    refine ⟨_, written, .inr ⟨?_, advances.open_⟩, advances.bound⟩
    rw [advances.sequence]
    exact Nat.lt_succ_self _

theorem Continues.backed (continues : Continues before after)
    {reply : Reply} (backed : Backed before reply) : Backed after reply := by
  cases reply with
  | proof proof =>
    obtain ⟨old, found, state, stopped⟩ := backed
    obtain ⟨new, reads, changed, -⟩ := continues old found
    obtain rfl : new = old := changed.resolve_right fun moved => moved.2 state
    exact ⟨new, reads, state, stopped⟩
  | prepared | started | removed => trivial

section

variable {executor : DockerExecutor} {first session : Session interface World WorkerFailure Reply}

theorem starts_known (executor : DockerExecutor) (call : { call : Call // call.On attemptId })
    (world : World) (safe : world.Safe attemptId) :
    ∃ knowledge : Knowledge attemptId, world.Knows knowledge ∧
      Ends Returns (call.1.program executor) knowledge :=
  ⟨⟨world.journal attemptId, safe.coherent, true, false, none, false⟩,
    fun _ => ⟨rfl, nofun, nofun, nofun⟩, ends_program executor call.1 call.2 rfl⟩

theorem safe_of_begins {world : World} (begins : world.Begins attemptId) : world.Safe attemptId where
  untouched := fun _ => begins.2
  coherent := fun _ found => nomatch begins.1.symm.trans found
  fits := fun _ found => nomatch begins.1.symm.trans found

theorem attempt_lawful (reachable : (attemptSystem executor attemptId).Reachable session) :
    session.Lawful (contract attemptId) (fun world => world.Safe attemptId) World.Knows Returns :=
  lawful_of_reachable (contract_sound attemptId) (fun _ => safe_of_begins) (starts_known executor) reachable

def SessionContinues (attemptId : AttemptId) (before after : Session interface World WorkerFailure Reply) : Prop :=
  Continues (before.state.journal attemptId) (after.state.journal attemptId)

theorem attempt_continues (reachable : (attemptSystem executor attemptId).Reachable first)
    {events : List (Interaction.Event { call : Call // call.On attemptId })}
    (run : (attemptSystem executor attemptId).Run first events session) :
    SessionContinues attemptId first session := by
  refine run.relation ?_ ?_ ?_ reachable
  · exact fun _ old found => ⟨old, found, .inl rfl, fun _ bound => bound⟩
  · exact fun _ _ _ => Continues.trans
  · exact fun before event after reachable step =>
      (relates_step (contract_sound attemptId) (attempt_lawful reachable) step).continues

def World.Backs (attemptId : AttemptId) (world : World) (reply : Reply) : Prop :=
  Backed (world.journal attemptId) reply

def AllBacked (attemptId : AttemptId) (session : Session interface World WorkerFailure Reply) : Prop :=
  ∀ reply ∈ session.returned, session.state.Backs attemptId reply

theorem attempt_backed (reachable : (attemptSystem executor attemptId).Reachable session) :
    AllBacked attemptId session := by
  refine reachable.induct (fun first begins => ?_) fun before event after reachable backed step => ?_
  · rw [AllBacked, begins.2.2]
    exact nofun
  · have promises (world : World) (knowledge : Knowledge attemptId) (reply : Reply)
        (_ : world.Safe attemptId) (known : world.Knows knowledge) (returns : Returns knowledge reply) :
        world.Backs attemptId reply := by
      cases reply with
      | proof proof =>
        obtain ⟨sure, backed⟩ := returns ⟨proof, rfl⟩
        rw [World.Backs, (known sure).record]
        exact backed
      | prepared | started | removed => trivial
    exact promised_step (contract_sound attemptId) promises
      (fun _ _ reply follows backed => follows.continues.backed backed) (attempt_lawful reachable) backed
      step

theorem World.Safe.creates {world : World} (safe : world.Safe attemptId) : world.creates ≤ 1 := by
  cases found : world.journal attemptId with
  | none => exact (safe.untouched found).unstarted.creates
  | some record =>
    have fits := safe.fits record found
    have coherent := safe.coherent record found
    unfold World.Fits at fits
    split at fits
    · exact fits.unstarted.creates
    · exact fits.1.creates
    iterate 4
      · next state =>
          obtain ⟨identity, bound⟩ := Option.ne_none_iff_exists'.1 (coherent.bound (by rw [state]; rfl))
          exact (fits identity bound).creates
    · by_cases free : record.container = none
      · exact (fits.1 free).creates
      · exact (fits.2 free).creates

theorem World.Safe.tombstoned {world : World} (safe : world.Safe attemptId)
    (found : world.journal attemptId = some record) (state : record.state = .tombstoned) :
    (∀ container ∈ world.containers, container.status ≠ .running) ∧
      (record.container ≠ none -> world.containers = []) := by
  have fits := safe.fits record found
  simp only [World.Fits, state] at fits
  refine ⟨fun container member running => ?_, fun bound => (fits.2 bound).containers⟩
  by_cases free : record.container = none
  · exact absurd (((fits.1 free).containers container member).symm.trans running) (by decide)
  · simp [(fits.2 free).containers] at member

theorem executor_crash_safety (executor : DockerExecutor) (attemptId : AttemptId)
    {first last : Session interface World WorkerFailure Reply}
    {events : List (Interaction.Event { call : Call // call.On attemptId })}
    (reachable : (attemptSystem executor attemptId).Reachable first)
    (run : (attemptSystem executor attemptId).Run first events last) :
    last.state.creates ≤ 1 ∧
      (∀ old, first.state.journal attemptId = some old ->
        ∃ new, last.state.journal attemptId = some new ∧
          (∀ identity, old.container = some identity -> new.container = some identity) ∧
          (new = old ∨ old.operationSequence < new.operationSequence) ∧
          (old.state = .tombstoned -> new.state = .tombstoned)) ∧
      (∀ proof, .proof proof ∈ last.returned -> proof.proofType = .noContainer ->
        ∀ container ∈ last.state.containers, container.status ≠ .running) ∧
      (∀ proof, .proof proof ∈ last.returned -> proof.proofType = .containerStopped ->
        ∃ record identity, last.state.journal attemptId = some record ∧
          record.container = some identity ∧ proof.container = some identity ∧
          ∀ container ∈ last.state.containers,
            container.id ≠ identity.containerId ∧ container.status ≠ .running) := by
  have reached := reachable.run run
  have safe := (attempt_lawful reached).1
  have backed := attempt_backed reached
  refine ⟨safe.creates, fun old found => ?_, fun proof returned _ => ?_, fun proof returned kind => ?_⟩
  · obtain ⟨new, reads, changed, bound⟩ := attempt_continues reachable run old found
    refine ⟨new, reads, bound, changed.imp_right And.left, fun tombstoned => ?_⟩
    obtain rfl : new = old := changed.resolve_right fun moved => moved.2 tombstoned
    exact tombstoned
  · obtain ⟨record, found, state, -⟩ := backed _ returned
    exact (safe.tombstoned found state).1
  · obtain ⟨record, found, state, stopped⟩ := backed _ returned
    obtain ⟨identity, same, bound⟩ := stopped kind
    have empty := (safe.tombstoned found state).2 (by simp [bound])
    refine ⟨record, identity, found, bound, same, fun container member => ?_⟩
    simp [empty] at member

end

def sampleExecutor : DockerExecutor where
  imageRef := ⟨"nexa", []⟩
  imageRefs := []
  clockDomain := 1
  installationId := none
  observationChecksum := fun _ => 0

def sampleRequest : StartExecution where
  identity := ⟨1, 2, 3, ⟨4, 5, 1, 2, 6, 7⟩, ⟨1000, 1, 0⟩⟩
  imageDigest := 8
  inputChecksum := 9
  binding := 10
  architecture := "linux/amd64"
  startupLimitSeconds := 30
  inputMounts := []
  cpuWorkload := false
  adapterLaunch := none

def sampleWorld : World := ⟨fun _ => none, [], 0, false, []⟩

def sampleCall : { call : Call // call.On 1 } := ⟨.tombstoneUnclaimed sampleRequest "REVOKED", rfl⟩

def sampleTombstone : JournalRecord where
  attemptId := 1
  allocationId := 2
  startupNonce := 3
  authority := ⟨4, 5, 1, 2, 6, 7⟩
  resources := ⟨1000, 1, 0⟩
  imageDigest := some 8
  inputChecksum := some 9
  executionBinding := .request 10
  state := .tombstoned
  operationSequence := 1
  tombstoneSequence := some 1
  reason := some "REVOKED"
  inspectionChecksum := some 0

def sampleProof : CleanupProof where
  proofType := .noContainer
  startupNonce := 3
  executorOperationSequence := 1
  inspectionChecksum := 0
  observedAt := 5
  tombstoneSequence := some 1

theorem sample_run :
    (attemptSystem sampleExecutor 1).Run ⟨sampleWorld, none, []⟩
      [.call sampleCall, .execute, .crash, .call sampleCall, .execute, .execute, .execute, .execute, .execute,
        .finish]
      ⟨sampleWorld.record sampleTombstone, none, [.proof sampleProof]⟩ := by
  have scan : environment.executes sampleWorld (Command.findByLabels (sampleExecutor.labels 1 2 3))
    (DockerReply.ok []) sampleWorld := rfl
  have bury : environment.executes sampleWorld (Command.write sampleTombstone) true
    (sampleWorld.record sampleTombstone) := rfl
  have look : environment.executes sampleWorld (Command.load 1) none sampleWorld := ⟨rfl, rfl⟩
  have clock : environment.executes (sampleWorld.record sampleTombstone) Command.now (5 : Nat)
    (sampleWorld.record sampleTombstone) := rfl
  refine .cons (.call sampleCall) ?_
  refine .cons (.execute look) ?_
  refine .cons (.crash _) ?_
  refine .cons (.call sampleCall) ?_
  refine .cons (.execute look) ?_
  refine .cons (.execute scan) ?_
  refine .cons (.execute look) ?_
  refine .cons (.execute bury) ?_
  refine .cons (.execute clock) ?_
  refine .cons (.finish _) ?_
  exact .nil _

theorem executor_crash_safety_unclaimed :
    (attemptSystem sampleExecutor 1).Reachable ⟨sampleWorld, none, []⟩ ∧ sampleProof.proofType = .noContainer ∧
      ∀ container ∈ (sampleWorld.record sampleTombstone).containers, container.status ≠ .running := by
  have reachable : (attemptSystem sampleExecutor 1).Reachable ⟨sampleWorld, none, []⟩ :=
    ⟨_, [], ⟨⟨rfl, rfl, rfl, rfl, rfl⟩, rfl, rfl⟩, .nil _⟩
  obtain ⟨-, -, unclaimed, -⟩ := executor_crash_safety sampleExecutor 1 reachable sample_run
  exact ⟨reachable, rfl, unclaimed sampleProof (List.mem_singleton.2 rfl) rfl⟩

end Nexa.Host
