import Nexa.Scheduler.Accounting

namespace Nexa

open Outcome

def maxNormalCandidates : Nat := 16

def effectivePriority (candidate : Candidate) : Nat :=
  min 2 (candidate.basePriority + candidate.eligibleWaitSeconds / 60)

def invalidCandidate (candidate : Candidate) (what : String) : PolicyError :=
  .invalidSnapshot ("candidate " ++ toString candidate.jobId ++ " has " ++ what)

/-- `_validate_candidate`. The checks on signs and on the request hold by the candidate's type. -/
def validateCandidate (candidate : Candidate) (tenant : TenantId) : Except PolicyError Unit := do
  require (candidate.tenantId = tenant) (invalidCandidate candidate "mismatched tenant_id")
  require (0 < candidate.jobVersion) (invalidCandidate candidate "invalid job_version")
  require (candidate.basePriority ≤ 2) (invalidCandidate candidate "invalid base_priority")
  require (0 < candidate.templateVersion) (invalidCandidate candidate "invalid template_version")

def sameCandidate (seen : List Candidate) (candidate : Candidate) : Bool :=
  seen.all fun other => other.jobId ≠ candidate.jobId ∨ other = candidate

def validateNormal (tenant : TenantId) :
    List JobId -> List Candidate -> List Candidate -> Except PolicyError (List Candidate)
  | _, seen, [] => .ok seen
  | ids, seen, candidate :: rest => do
    validateCandidate candidate tenant
    require (candidate.jobId ∉ ids)
      (.invalidSnapshot ("candidate window " ++ toString tenant ++ " contains duplicate job IDs"))
    require (sameCandidate seen candidate = true)
      (.invalidSnapshot "candidate job ID is not globally unique")
    validateNormal tenant (candidate.jobId :: ids) (candidate :: seen) rest

def validateWindows :
    List TenantId -> List Candidate -> List (TenantId × CandidateWindow) -> Except PolicyError Unit
  | _, _, [] => .ok ()
  | tenants, seen, (tenant, window) :: rest => do
    require (tenant ∉ tenants)
      (.invalidSnapshot "candidate windows contain duplicate tenant IDs")
    require (window.normal.length ≤ maxNormalCandidates)
      (.candidateBoundExceeded tenant window.normal.length)
    let seen ← validateNormal tenant [] seen window.normal
    match window.oldestEligible with
    | none => validateWindows (tenant :: tenants) seen rest
    | some oldest => do
      validateCandidate oldest tenant
      require (sameCandidate seen oldest = true)
        (.invalidSnapshot
          ("oldest candidate " ++ toString oldest.jobId ++ " disagrees with normal window"))
      validateWindows (tenant :: tenants) (oldest :: seen) rest

def continuationCursors (windows : List (TenantId × CandidateWindow)) : List (TenantId × String) :=
  (windows.insertionSort fun left right => left.1 ≤ right.1).filterMap fun entry =>
    entry.2.continuationCursor.map fun cursor => (entry.1, cursor)

def reservationReason : IneligibilityReason -> ReservationReason
  | .cancelled => .cancelled
  | .capabilityIncompatible => .capabilityIncompatible
  | .templateIncompatible => .templateIncompatible
  | .policyIncompatible => .policyIncompatible
  | _ => .noLongerEligible

def SchedulingSnapshot.fitsFree (snapshot : SchedulingSnapshot) (candidate : Candidate) : Bool :=
  (snapshot.totalHeld.add candidate.resources.amounts).Fits snapshot.allocatableCapacity

def decideReservation (snapshot : SchedulingSnapshot) (nowMs : Nat)
    (reservation : ReservationSnapshot) : SchedulingDecision :=
  let invalidate := SchedulingDecision.invalidateReservation reservation.reservationId
  match reservation.invalidReason with
  | some reason => invalidate reason
  | none =>
    if reservation.policyVersion ≠ snapshot.policyVersion then invalidate .policyIncompatible
    else
      let found := (snapshot.candidatesByTenant.flatMap fun entry => entry.2.candidates).find?
        fun candidate => candidate.jobId = reservation.jobId
      match found, snapshot.limit? reservation.tenantId with
      | some candidate, some limits =>
        if candidate.tenantId ≠ reservation.tenantId then invalidate .noLongerEligible
        else
          match candidateIneligibilityReason candidate nowMs snapshot.allocatableCapacity
              (snapshot.held reservation.tenantId) limits with
          | some reason => invalidate (reservationReason reason)
          | none =>
            if snapshot.fitsFree candidate then
              .dispatch candidate.jobId candidate.jobVersion snapshot.policyVersion
                (some reservation.reservationId)
            else .drainForReservation reservation.reservationId candidate.jobId
      | _, _ => invalidate .noLongerEligible

structure TenantEntry where
  score : ℚ
  weightedShare : ℚ
  readySequence : Nat
  tenantId : TenantId
  limits : TenantPolicySnapshot
  window : CandidateWindow

def TenantEntry.before (left right : TenantEntry) : Bool :=
  left.score < right.score ∨ left.score = right.score ∧
    (left.weightedShare < right.weightedShare ∨ left.weightedShare = right.weightedShare ∧
      (left.readySequence < right.readySequence ∨ left.readySequence = right.readySequence ∧
        left.tenantId ≤ right.tenantId))

def tenantHeap (round : ℚ -> ℚ) (snapshot : SchedulingSnapshot) (state : AccountingState)
    (nowMs : Nat) : List TenantEntry :=
  let entries := snapshot.candidatesByTenant.filterMap fun (tenant, window) => do
    let limits ← snapshot.limit? tenant
    let ledger ← state.tenantLedgers.find? fun ledger => ledger.tenantId = tenant
    let ready ← ((window.candidates.filter (snapshot.eligible nowMs limits)).map
      (·.readySequence)).min?
    return { score := ledger.virtualScore
             weightedShare := round (state.dominantShares tenant / limits.weight)
             readySequence := ready, tenantId := tenant, limits, window }
  entries.insertionSort fun left right => left.before right

def candidateBefore (left right : Candidate) : Bool :=
  effectivePriority right < effectivePriority left ∨
    effectivePriority left = effectivePriority right ∧
      (left.readySequence < right.readySequence ∨ left.readySequence = right.readySequence ∧ left.jobId ≤ right.jobId)

def decideHeap (snapshot : SchedulingSnapshot) (nowMs : Nat) :
    List TenantEntry -> Option SchedulingDecision
  | [] => none
  | entry :: rest =>
    let eligible := snapshot.eligible nowMs entry.limits
    let waiting := entry.window.oldestEligible.filter fun oldest =>
      120 ≤ oldest.eligibleWaitSeconds ∧
        (entry.window.candidates.filter eligible).any fun candidate =>
          candidate.jobId = oldest.jobId
    match waiting with
    | some oldest =>
      some (.createReservation oldest.jobId entry.tenantId .eligibleWaitThreshold)
    | none =>
      let fitting := entry.window.normal.filter fun candidate =>
        eligible candidate && snapshot.fitsFree candidate
      match fitting.insertionSort fun left right => candidateBefore left right with
      | candidate :: _ =>
        some (.dispatch candidate.jobId candidate.jobVersion snapshot.policyVersion none)
      | [] => decideHeap snapshot nowMs rest

def decidePolicy (round : ℚ -> ℚ) (snapshot : SchedulingSnapshot) (nowMs : Nat) :
    Except PolicyError SchedulingDecision := do
  validateWindows [] [] snapshot.candidatesByTenant
  let state ← advanceAccounting round snapshot nowMs
  match snapshot.activeReservation with
  | some reservation => return decideReservation snapshot nowMs reservation
  | none =>
    let heap := tenantHeap round snapshot state nowMs
    match decideHeap snapshot nowMs heap with
    | some decision => return decision
    | none =>
      let reason := if heap.isEmpty then "no_eligible_candidate" else "no_candidate_fits_free_resources"
      return .noDecision reason (continuationCursors snapshot.candidatesByTenant)

end Nexa
