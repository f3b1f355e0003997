import Nexa.Application.Administration

namespace Nexa

open Relational Outcome

structure TenantChanges where
  weight : Option { value : ℚ // 0 < value }
  resourceLimit : Option ResourceCapacity
  outstandingLimit : Option Nat
  userOutstandingLimit : Option Nat
  tenantActiveLimit : Option { limit : Nat // 0 < limit }
  userActiveLimit : Option { limit : Nat // 0 < limit }
  tenantRatePerSecond : Option ℚ
  tenantRateBurst : Option ℚ
  userRatePerSecond : Option ℚ
  userRateBurst : Option ℚ

def TenantChanges.final (changes : TenantChanges) (current : TenantPolicy) : TenantPolicy :=
  let weight := changes.weight.getD ⟨current.weight, current.weight_pos⟩
  let tenantActive := changes.tenantActiveLimit.getD ⟨current.tenantActiveLimit, current.tenantActive_pos⟩
  let userActive := changes.userActiveLimit.getD ⟨current.userActiveLimit, current.userActive_pos⟩
  let limit := changes.resourceLimit.getD
    ⟨current.cpuLimitMillis, current.memoryLimitBytes, current.gpuLimit⟩
  { tenantId := current.tenantId, version := current.version + 1, weight := weight.1
    cpuLimitMillis := limit.cpuMillis, memoryLimitBytes := limit.memoryBytes
    gpuLimit := limit.gpuCount
    outstandingLimit := changes.outstandingLimit.getD current.outstandingLimit
    userOutstandingLimit := changes.userOutstandingLimit.getD current.userOutstandingLimit
    tenantActiveLimit := tenantActive.1, userActiveLimit := userActive.1
    tenantRatePerSecond := changes.tenantRatePerSecond.getD current.tenantRatePerSecond
    tenantRateBurst := changes.tenantRateBurst.getD current.tenantRateBurst
    userRatePerSecond := changes.userRatePerSecond.getD current.userRatePerSecond
    userRateBurst := changes.userRateBurst.getD current.userRateBurst, isCurrent := true
    weight_pos := weight.2, tenantActive_pos := tenantActive.2, userActive_pos := userActive.2 }

def TenantPolicy.quota (policy : TenantPolicy) : ResourceCapacity :=
  ⟨policy.cpuLimitMillis, policy.memoryLimitBytes, policy.gpuLimit⟩

def tenantHeld (db : Db) (tenantId : TenantId) : ResourceCapacity :=
  .total ((db.select .allocations fun row =>
    row.tenantId = tenantId ∧ row.state ≠ .released).map (·.resources))

def Scope.userOf (tenantId : TenantId) : Scope -> Bool
  | .user owner _ => owner = tenantId
  | _ => false

structure TenantPolicyRequest extends Request where
  tenantId : TenantId
  ifMatch : Option Nat
  changes : TenantChanges

def requireCovered (db : Db) (final : TenantPolicy) : Outcome Unit := do
  let tenantCounter ← oneOrNone (db.select .admissionCounters fun row =>
    row.scope = .tenant final.tenantId)
  require
    (tenantCounter.all (fun row =>
      row.outstanding ≤ final.outstandingLimit ∧ row.activeAttempts ≤ final.tenantActiveLimit) = true)
    (stateConflict "Tenant policy is below a committed admission counter")
  require
    (((db.select .admissionCounters fun row => row.scope.userOf final.tenantId).all fun row =>
      row.outstanding ≤ final.userOutstandingLimit ∧ row.activeAttempts ≤ final.userActiveLimit) = true)
    (stateConflict "Tenant policy is below a committed user counter")
  require ((tenantHeld db final.tenantId).Fits final.quota)
    (stateConflict "Tenant resource policy is below unreleased allocations")

def retireTenantPolicyPatch : Patch nexaSchema .tenantPolicies where
  apply row := { row with isCurrent := false }

def updateTenantPolicy (settings : Settings) (db : Db) (call : Call) (request : TenantPolicyRequest) :
    Outcome (Db × StoredResponse) := do
  authorize request.principal
  let (db, replay) ← beginIdempotency db call .global request.principal.userId .updateTenantPolicy
    request.key request.requestHash (call.now + adminRetention)
  match replay with
  | some response => return (db, response)
  | none => do
    let expected ← resolveExpectedVersion request.ifMatch
    let mode ← operationalMode db
    require (mode ≠ .writeFrozen)
      (stateConflict "Tenant policy mutation is disabled while writes are frozen")
    let found ← oneOrNone (db.select .tenantPolicies fun row =>
      row.tenantId = request.tenantId ∧ row.isCurrent)
    let current ← orFail
      (.application
        { code := .resourceNotFound, status := 404, message := "Tenant policy was not found" })
      found
    require (current.version = expected)
      (versionConflict "Tenant policy version does not match If-Match")
    let final := request.changes.final current
    requireCovered db final
    let db ← accountLocked settings.round db call.now call.observed
    let db := db.update .tenantPolicies
      (fun row => row.tenantId = request.tenantId ∧ row.version = current.version)
      retireTenantPolicyPatch
    let db ← insertInto db .tenantPolicies final
    let db ← rebaseLocked settings.round db call.now call.segmentId
    completeIdempotency db call
      { status := 200, resourceId := none, jobState := none, jobVersion := none }

structure ModeProofs where
  freezeReady : Bool
  restoreVerified : Bool
  readinessVerified : Bool

def validateModeTransition (current target : OperationalMode) (proofs : ModeProofs) : Outcome Unit :=
  match current, target with
  | .normal, .normal | .admissionOff, .admissionOff | .writeFrozen, .writeFrozen =>
    .error (stateConflict "Operational mode transition must change state")
  | .normal, .admissionOff => .ok ()
  | .admissionOff, .writeFrozen =>
    require (proofs.freezeReady = true)
      (stateConflict "Freeze requires stopped containers and reconciled unreleased allocations")
  | .writeFrozen, .admissionOff =>
    require (proofs.restoreVerified = true)
      (stateConflict "Restore verification is required before leaving frozen mode")
  | .admissionOff, .normal =>
    require (proofs.readinessVerified = true)
      (stateConflict "Readiness and worker reconciliation are required")
  | _, _ =>
    .error (stateConflict "Operational mode transitions cannot skip an intermediate state")

structure GlobalPolicyRequest extends Request where
  ifMatch : Option Nat
  globalOutstandingLimit : Option Nat
  operationalMode : Option OperationalMode
  proofs : ModeProofs

def retirePolicyPatch : Patch nexaSchema .policyVersions where
  apply row := { row with isCurrent := false }

/-- A freeze charges, so that it is ordered against the coordinator's heartbeat. -/
def changeMode (settings : Settings) (db : Db) (call : Call) (current target : OperationalMode)
    (proofs : ModeProofs) : Outcome Db :=
  if target = current then .ok db
  else do
    let unreleased := db.select .allocations fun row => row.state ≠ .released
    validateModeTransition current target
      { proofs with freezeReady := unreleased.isEmpty && proofs.freezeReady }
    if target = .writeFrozen then accountLocked settings.round db call.now call.observed
    else return db

def updateGlobalPolicy (settings : Settings) (db : Db) (call : Call) (request : GlobalPolicyRequest) :
    Outcome (Db × StoredResponse) := do
  authorize request.principal
  let (db, replay) ← beginIdempotency db call .global request.principal.userId .updateGlobalPolicy
    request.key request.requestHash (call.now + adminRetention)
  match replay with
  | some response => return (db, response)
  | none => do
    let expected ← resolveExpectedVersion request.ifMatch
    let current ← one (db.select .policyVersions fun row => row.isCurrent)
    require (current.policyVersion = expected)
      (versionConflict "Global policy version does not match If-Match")
    require (current.operationalMode ≠ .writeFrozen ∨ request.operationalMode = some .admissionOff)
      (stateConflict "Only a verified restore transition may mutate frozen policy")
    require (current.operationalMode ≠ .writeFrozen ∨ request.globalOutstandingLimit = none)
      (stateConflict "Frozen recovery transition cannot change admission limits")
    let limit := request.globalOutstandingLimit.getD current.globalOutstandingLimit
    let counter ← oneOrNone (db.select .admissionCounters fun row => row.scope = .global)
    require (counter.all (fun row => row.outstanding ≤ limit) = true)
      (stateConflict "Global outstanding limit is below the committed counter")
    let mode := request.operationalMode.getD current.operationalMode
    let db ← changeMode settings db call current.operationalMode mode request.proofs
    let db := db.update .policyVersions (fun row => row.policyVersion = current.policyVersion)
      retirePolicyPatch
    let db ← insertInto db .policyVersions
      { policyVersion := current.policyVersion + 1, globalOutstandingLimit := limit
        operationalMode := mode, isCurrent := true }
    completeIdempotency db call
      { status := 200, resourceId := none, jobState := none, jobVersion := none }

end Nexa
