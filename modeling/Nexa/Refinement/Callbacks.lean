import Nexa.Application.Callbacks
import Nexa.Application.Uploads
import Nexa.Refinement.Authority

namespace Nexa

open Relational Outcome

variable {db after : Db} {call : Call} {workerId : WorkerId} {attemptId : AttemptId}
  {callback : Callback} {answer : Acknowledgment}

variable {rows : AuthorityRows}

theorem Advances.of_same {write : Tables nexaSchema -> Tables nexaSchema}
    (keeps : ∀ s v, Holding s rows v -> Represents (write s) (rows.onto v)) : Advances rows write :=
  fun s v holding _ => ⟨_, Move.note 0 0, keeps s v holding, rfl⟩

variable {authority : Authority}

theorem renew_advances (expiry : Time) (leaseId : rows.lease.leaseId = authority.leaseId) :
    Advances rows fun s =>
      s.update .attemptLeases (fun row => row.leaseId = authority.leaseId) (expiryPatch expiry).apply :=
  .of_same fun _ _ holding =>
    (holding.updateLease (expiryPatch expiry) (fun _ => rfl) leaseId).represents

theorem renewProgress_advances (now : Time) (sequence : Nat) (progress : Option Nat) (expiry : Time)
    (attemptId : rows.attempt.attemptId = authority.attemptId)
    (leaseId : rows.lease.leaseId = authority.leaseId) :
    Advances rows fun s =>
      (s.update .attempts (fun row => row.attemptId = authority.attemptId)
        (progressPatch now sequence progress).apply).update .attemptLeases
        (fun row => row.leaseId = authority.leaseId) (expiryPatch expiry).apply :=
  .of_same fun _ _ holding =>
    ((holding.updateAttempt (progressPatch now sequence progress) attemptId).updateLease
      (expiryPatch expiry) (fun _ => rfl) leaseId).represents

theorem renewAttempt_called {request : RenewRequest}
    (renewed : renewAttempt db call workerId attemptId callback request = .ok (after, answer)) :
    Called db call workerId .renewAttempt callback request.authority after answer := by
  simp only [renewAttempt, bind_eq_ok, require_eq_ok, exists_const] at renewed
  obtain ⟨⟨opened, replay⟩, begun, mode, _, worker, _, ⟨rfl, _⟩, _, _, renewed⟩ := renewed
  obtain ⟨same, answered⟩ | ⟨fresh, receipt, renewed⟩ := beginCallback_called begun renewed
  · exact .replayed same answered
  · simp only [bind_eq_ok, require_eq_ok, exists_const] at renewed
    obtain ⟨_, rows, found, _, alive, _, _, completed⟩ := renewed
    obtain ⟨_, _, unrevoked⟩ := liveAuthority_ok alive
    have named := authorityRows_bound found
    have leased (before : Tables nexaSchema)
        (same : before .attemptLeases = opened.rows .attemptLeases) :=
      Local.updateLease named.lease same named.leaseId named.leaseOwner
        (expiryPatch (call.now + leaseDuration))
    split at completed
    · obtain ⟨frame, moves⟩ := named.advance .renewAttempt unrevoked
        ((Local.updateAttempt named.attempt (by rfl) named.attemptId named.jobId.symm
          (progressPatch call.now request.progressSequence request.progress)).trans
            (leased (opened.rows.update _ _ _) rfl))
        (by decide) (by decide) (renewProgress_advances _ _ _ _ named.attemptId named.leaseId)
      exact .performed ⟨fresh, receipt, named⟩ unrevoked frame moves.progress completed
    · obtain ⟨frame, moves⟩ := named.advance .renewAttempt unrevoked (leased opened.rows rfl) (by decide) (by decide)
        (renew_advances _ named.leaseId)
      exact .performed ⟨fresh, receipt, named⟩ unrevoked frame moves.progress completed

theorem adopt_advances (now : Time)
    (grant : AuthorityGrant) (incarnationId : IncarnationId) (expiry : Time) (opens : grant.endedAt = none)
    (attempt : grant.attemptId = authority.attemptId) (fence : grant.jobFence = rows.job.jobFence)
    (attemptId : rows.attempt.attemptId = authority.attemptId)
    (leaseId : rows.lease.leaseId = authority.leaseId) :
    Advances rows fun s =>
      ((regrantWrite s rows.grant.grantId now grant).update .attempts
        (fun row => row.attemptId = authority.attemptId)
        (adoptAttemptPatch incarnationId now).apply).update .attemptLeases
        (fun row => row.leaseId = authority.leaseId) (adoptLeasePatch incarnationId expiry).apply :=
  .of_same fun _ _ holding =>
    (((holding.regrant now grant opens (attempt.trans attemptId.symm) fence).updateAttempt
      (adoptAttemptPatch incarnationId now) attemptId).updateLease
        (adoptLeasePatch incarnationId expiry) (fun _ => rfl) leaseId).represents

theorem transferAuthority_moves {request : AdoptRequest}
    {checkpoint : Option CheckpointReservation} {result : Option ResultReservation}
    (named : Bound db request.priorAuthority rows) (unrevoked : rows.lease.revokedAt = none)
    (transferred : transferAuthority db call callback request rows checkpoint result = .ok after) :
    Tables.Frame CallbackOperation.adoptAttempt.writes db.rows after.rows ∧
      Moves .operation rows.job.jobId db.rows after.rows := by
  simp only [transferAuthority, bind_eq_ok, pure_eq_ok] at transferred
  obtain ⟨_, inserted, rfl⟩ := transferred
  obtain ⟨accepted, rfl⟩ := insertRow_of_insertInto inserted
  exact named.advance .adoptAttempt unrevoked
    ((((((Local.updateGrant named.grant (by rfl) rfl named.grantOwner (endGrantPatch call.now)).trans
      (.append .authorityGrants (successorGrant call callback request rows) rfl (by decide))).trans
      (.updateAttempt named.attempt (by rfl) named.attemptId named.jobId.symm
        (adoptAttemptPatch request.currentWorkerIncarnationId call.now))).trans
      (.updateLease named.lease (by rfl) named.leaseId named.leaseOwner
        (adoptLeasePatch request.currentWorkerIncarnationId (call.now + leaseDuration)))).trans
      (.updateUnowned .checkpointReservations (by decide))).trans
      (.updateUnowned .resultReservations (by decide)))
    (by decide) (by decide)
    (adopt_advances call.now (successorGrant call callback request rows) _ _ rfl rfl named.fence.symm
      named.attemptId named.leaseId)

theorem adoptAttempt_called {request : AdoptRequest}
    (adopted : adoptAttempt db call workerId attemptId callback request = .ok (after, answer)) :
    Called db call workerId .adoptAttempt callback request.priorAuthority after answer := by
  simp only [adoptAttempt, bind_eq_ok, require_eq_ok, orFail_eq_ok, exists_const] at adopted
  obtain ⟨⟨opened, replay⟩, begun, mode, _, worker, _, incarnation, _, ⟨rfl, rfl⟩, _, _, _, _, _, adopted⟩ := adopted
  obtain ⟨same, answered⟩ | ⟨fresh, receipt, adopted⟩ := beginCallback_called begun adopted
  · exact .replayed same answered
  · simp only [bind_eq_ok, require_eq_ok, orFail_eq_ok, exists_const] at adopted
    obtain ⟨_, rows, found, _, _, _, _, _, checkpoint, _, result, _, _, _, _, _, _, alive, _, done,
      transferred, completed⟩ := adopted
    obtain ⟨_, _, unrevoked⟩ := liveAuthority_ok alive
    have named := authorityRows_bound found
    obtain ⟨frame, moves⟩ := transferAuthority_moves named unrevoked transferred
    exact .performed ⟨fresh, receipt, named⟩ unrevoked frame moves.progress completed

theorem bindUpload_bound {request : UploadRequest} (uploaded : bindUpload db call request = .ok after) :
    ∃ rows, Bound db request.authority rows ∧ rows.lease.revokedAt = none ∧
      Tables.Frame [.uploadSessions] db.rows after.rows := by
  simp only [bindUpload, bind_eq_ok, require_eq_ok, refuse_eq_ok, exists_const] at uploaded
  obtain ⟨_, _, _, _, _, _, rows, found, _, alive, _, _, _, _, inserted⟩ := uploaded
  exact ⟨rows, authorityRows_bound found, (liveAuthority_ok alive).2.2,
    (insertInto_eq_ok.1 inserted).2 ▸ .append _ _ (List.mem_singleton_self _)⟩

end Nexa
