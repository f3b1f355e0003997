import Nexa.Application.Submit
import Nexa.Refinement.Control

namespace Nexa

open Relational Outcome Tables Lifecycle RequestOperation

variable {db after : Db} {call : Call} {settings : Settings}

theorem rateLock_frame {scope : Scope} {capacity refillRate : ℚ} {now : Time}
    (locked : rateLock db scope capacity refillRate now = .ok after) :
    Frame [.rateBuckets] db.rows after.rows := by
  simp only [rateLock, bind_eq_ok, require_eq_ok, pure_eq_ok, exists_const] at locked
  obtain ⟨_, _, _, rfl⟩ := locked
  exact (insert_frame db .rateBuckets _).trans (.update _ _ _ (by decide))

theorem admitJob_spec {user : UserId} {tenantId : TenantId} {storage : Option ApplicationError}
    {admission : Admission} (admitted : admitJob db call user tenantId storage = .ok (after, admission)) :
    Frame [.admissionCounters, .rateBuckets] db.rows after.rows ∧
      (∃ tenant member, CountersOf after.rows (Scope.ofJob tenantId user)
        [admission.globalCounter, tenant, member]) ∧
      Charged db.rows after.rows (Scope.ofJob tenantId user) (0, 0) (0, 0) := by
  simp only [admitJob, bind_eq_ok, require_eq_ok, orFail_eq_ok, one_eq_ok, pure_eq_ok, Prod.mk.injEq,
    exists_const] at admitted
  obtain ⟨_, _, _, _, _, _, _, policy, rfl, ⟨first, globalCounter⟩, lockedGlobal, ⟨second, tenantCounter⟩,
    lockedTenant, ⟨third, userCounter⟩, lockedUser, _, _, _, rated, ratedTenant, last, ratedUser, rfl,
    rfl⟩ := admitted
  obtain ⟨atGlobal, frameGlobal, _, chargedGlobal⟩ := counterLock_spec lockedGlobal
  obtain ⟨atTenant, frameTenant, keptTenant, chargedTenant⟩ := counterLock_spec lockedTenant
  obtain ⟨atUser, frameUser, keptUser, chargedUser⟩ := counterLock_spec lockedUser
  have rates : Frame [.rateBuckets] third.rows last.rows :=
    (rateLock_frame ratedTenant).trans (rateLock_frame ratedUser)
  have steady : last.rows .admissionCounters = third.rows .admissionCounters := rates _ (by decide)
  refine ⟨?_, ⟨tenantCounter, userCounter, ?_⟩, ?_⟩
  · exact ((frameGlobal.trans frameTenant).trans frameUser).mono (by decide) |>.trans
      (rates.mono (by decide))
  · refine CountersOf.congr ?_ steady
    refine .cons ?_ (.cons ?_ (.cons atUser .nil))
    · rw [keptUser _ (by simp), keptTenant _ (by simp)]
      exact atGlobal
    · rw [keptUser _ (by simp)]
      exact atTenant
  · exact ((chargedGlobal.trans chargedTenant).trans chargedUser).around rfl steady

theorem Local.create (before : Tables nexaSchema) (job : Job) (spec : JobSpec) (event : Event)
    (owned : event.jobId = job.jobId) :
    Local job.jobId [.jobSpecs] (fun s => (s.append .jobs job).append .events event) before
      (((before.append .jobs job).append .jobSpecs spec).append .events event) :=
  (Local.append .jobs job rfl (by decide)).trans
    ((Local.appendUnowned .jobSpecs (by decide)).trans
      (.append .events event (congrArg some owned) (by decide)))

theorem accepted_represents {s : Tables nexaSchema} (empty : ∀ table, s table = []) (job : Job)
    (event : Event) {tenantId : TenantId} {user : UserId} {maxRetries ticket : Nat}
    (control : job.control = (accepted tenantId user maxRetries ticket).toControl)
    (first : event.sequence = 1) :
    Represents ((s.append .jobs job).append .events event) (.accepted tenantId user maxRetries ticket) := by
  have vacant : Custody.vacant.Holds ((s.append .jobs job).append .events event) := by
    refine ⟨?_, ?_, ?_⟩
    · simp [unreleased, empty]
    · simp [openLeases, empty]
    · simp [openGrants, empty]
  refine ⟨⟨job, by simp [empty], control⟩, vacant, ?_, ?_, ?_, ?_⟩
  · simp [openSchedules, empty, accepted]
  · simp [empty, accepted]
  · simp [fencesOf, empty, accepted]
  · simp [empty, first, accepted]

theorem createJob_proceeds {now : Time} {user : UserId} {tenantId : TenantId} {jobId : JobId} {spec : Spec}
    {admission : Admission} {retryOf : Option JobId} {reason : EventReason} {opened : Db}
    {counters : List AdmissionCounter}
    (matched : CountersOf db.rows (Scope.ofJob tenantId user) (admission.globalCounter :: counters))
    (frame : Frame [.admissionCounters, .rateBuckets] opened.rows db.rows)
    (locked : Charged opened.rows db.rows (Scope.ofJob tenantId user) (0, 0) (0, 0))
    (created : createJob db now user tenantId jobId spec admission retryOf reason = .ok after) :
    Frame submitJob.writes opened.rows after.rows ∧
      Proceeds opened.rows after.rows := by
  simp only [createJob, bind_eq_ok, require_eq_ok, pure_eq_ok, exists_const] at created
  obtain ⟨_, _, _, waiting, _, first, insertedJob, second, insertedSpec, third, insertedEvent, rfl⟩ := created
  obtain ⟨acceptedJob, rfl⟩ := insertRow_of_insertInto insertedJob
  obtain ⟨acceptedSpec, rfl⟩ := insertRow_of_insertInto insertedSpec
  obtain ⟨acceptedEvent, rfl⟩ := insertRow_of_insertInto insertedEvent
  have absent : ∀ job ∈ opened.rows .jobs, job.jobId ≠ jobId := by
    intro job inside same
    rw [← frame .jobs (by decide)] at inside
    exact acceptedJob.1 job inside ⟨"pk_jobs", [job.jobId]⟩ (by simp [keysOf])
      (by simp [keysOf, newJob, same])
  let job := newJob jobId tenantId user spec waiting admission.globalCounter.version now retryOf
  let event : Event :=
    { tenantId, jobId, sequence := 1, eventType := .jobAccepted, reason := some reason, actor := .user user
      createdAt := now }
  have issued : countersAt (takeOutstanding db (Scope.ofJob tenantId user) now).rows .global =
      [(admitPatch now).apply admission.globalCounter] := by
    cases matched with
    | cons only _ => exact countersAt_takeOutstanding now only (by simp [Scope.ofJob])
  have read : versionOf db.rows .global = admission.globalCounter.version := by
    cases matched with
    | cons only _ => exact versionOf_eq only
  refine ⟨?_, Effect.enqueue (.creates (Creates.of_local ((Local.unowned frame (by decide)).trans
    ((Local.create db.rows job _ event rfl).trans (Local.updateUnowned .admissionCounters (by decide))))
    (slice_absent opened absent .jobs) (accepted_represents (slice_absent opened absent) job event rfl rfl)
    ?_)) ((locked .global).2.2.trans_eq read) ?_⟩
  · exact (frame.mono (by decide)).trans
      ((((Frame.append _ _ (by decide)).trans (.append _ _ (by decide))).trans
        (.append _ _ (by decide))).trans (.update _ _ _ (by decide)))
  · exact locked.trans ((takeOutstanding_charged matched).around rfl rfl)
  · exact Nat.lt_of_lt_of_eq (Nat.lt_succ_self _) (versionOf_eq issued).symm

def SubmitRequest.requestKey (request : SubmitRequest) : RequestKey where
  context := .tenant request.tenantId
  principalId := request.principal.userId
  operation := .submitJob
  key := request.key

def RetryRequest.requestKey (request : RetryRequest) : RequestKey where
  context := .tenant request.tenantId
  principalId := request.principal.userId
  operation := .retryJob
  key := request.key

theorem submitUseCase_requested {request : SubmitRequest} {storage : Option ApplicationError}
    {response : StoredResponse}
    (done : submitUseCase settings db call request storage = .ok (after, response)) :
    Requested db call request.requestKey request.requestHash after response := by
  simp only [submitUseCase, bind_eq_ok] at done
  obtain ⟨_, _, ⟨opened, replay⟩, begun, done⟩ := done
  obtain ⟨same, stored⟩ | ⟨fresh, record, done⟩ := beginIdempotency_requested request.requestKey begun done
  · exact .replayed same stored
  · simp only [bind_eq_ok] at done
    obtain ⟨⟨admitted, admission⟩, admitting, created, creating, completing⟩ := done
    obtain ⟨frame, ⟨tenant, member, matched⟩, charged⟩ := admitJob_spec admitting
    obtain ⟨creates, proceeds⟩ := createJob_proceeds matched frame charged creating
    obtain rfl := (completeIdempotency_frame completing).2
    exact .performed fresh record creates proceeds completing (.inl rfl)

theorem retryFailedJob_requested {request : RetryRequest} {response : StoredResponse}
    (done : retryFailedJob settings db call request = .ok (after, response)) :
    Requested db call request.requestKey request.requestHash after response := by
  simp only [retryFailedJob, bind_eq_ok] at done
  obtain ⟨_, _, _, _, ⟨opened, replay⟩, begun, done⟩ := done
  obtain ⟨same, stored⟩ | ⟨fresh, record, done⟩ := beginIdempotency_requested request.requestKey begun done
  · exact .replayed same stored
  · simp only [bind_eq_ok, require_eq_ok, exists_const] at done
    obtain ⟨_, _, ⟨admitted, admission⟩, admitting, _, _, _, _, _, _, _, _, written, creating, done⟩ := done
    obtain ⟨frame, ⟨tenant, member, matched⟩, charged⟩ := admitJob_spec admitting
    obtain ⟨created, proceeds⟩ := createJob_proceeds matched frame charged creating
    have creates := created.mono (show _ ⊆ retryJob.writes by decide)
    split at done
    next =>
      simp only [bind_eq_ok, ok_eq_ok] at done
      obtain ⟨_, rfl, completing⟩ := done
      obtain rfl := (completeIdempotency_frame completing).2
      exact .performed fresh record creates proceeds completing (.inl rfl)
    next =>
      simp only [bind_eq_ok] at done
      obtain ⟨referenced, referencing, completing⟩ := done
      obtain rfl := (completeIdempotency_frame completing).2
      have added : Frame [.checkpointReferences] written.rows referenced.rows :=
        (insertInto_eq_ok.1 referencing).2 ▸ .append _ _ (List.mem_singleton_self _)
      exact .performed fresh record (creates.trans (added.mono (by simp [writes])))
        (proceeds.of_quiet (.refl _) (.of_frame added (by decide))) completing (.inl rfl)

end Nexa
