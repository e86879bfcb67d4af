import Rotas.Core.Text
import Rotas.Data

/-!
# Rotas.Operations.Waivers

Operational waivers: the operations module grants one at once, the billing module asks for one
for a negative margin and approves or rejects it later.
-/

namespace Rotas

open Work

def waiverTypes : List String :=
  ["overweight_assignment", "missing_document", "expired_warning", "no_pod", "cost_overrun",
    "manual_dispatch", "negative_margin_approved"]

def riskLevels : List String := ["low", "medium", "high", "critical"]

/-- `sorted(allowed)`, as the details of an error list it. -/
def sorted (ss : List String) : List String := ss.mergeSort (· ≤ ·)

def negativeMarginApprovalWaiver : String := "negative_margin_approved"

structure OperationalWaiverCreate where
  entityType : String
  entityId : UUID
  waiverType : String
  reason : String
  riskLevel : String := "medium"
  expiresAt : Option Instant := none

def createWaiver (now : Instant) (tenantId : UUID) (payload : OperationalWaiverCreate)
    (actorId : Option UUID) (db : Db) : Except Exc (UUID × Db) := do
  raiseIf (payload.waiverType ∉ waiverTypes)
    (unprocessable "invalid_waiver_type" "Invalid operational waiver type."
      [("allowed", .texts (sorted waiverTypes)), ("value", .text payload.waiverType)])
  raiseIf (payload.riskLevel ∉ riskLevels)
    (unprocessable "invalid_risk_level" "Invalid waiver risk level."
      [("allowed", .texts (sorted riskLevels)), ("value", .text payload.riskLevel)])
  let waiver (id : UUID) : OperationalWaiver :=
    { id, tenantId, entityType := payload.entityType, entityId := payload.entityId
      waiverType := payload.waiverType, reason := payload.reason, riskLevel := payload.riskLevel
      approvedBy := actorId, approvedAt := now, expiresAt := payload.expiresAt }
  return (db.operationalWaivers.freshKey,
    { db with operationalWaivers := db.operationalWaivers.insert waiver })

def revokeWaiver (tenantId waiverId : UUID) (db : Db) : Except Exc (UUID × Db) := do
  let missing := notFound "waiver_not_found" "Operational waiver not found."
  let waiver ← require (db.operationalWaivers.get waiverId) missing
  raiseIf (waiver.tenantId ≠ tenantId) missing
  if waiver.status = .revoked then return (waiverId, db)
  return (waiverId, { db with
    operationalWaivers := db.operationalWaivers.modify waiverId ({ · with status := .revoked }) })

def hasActiveWaiver (now : Instant) (tenantId : UUID) (entityType : String) (entityId : UUID)
    (waiverType : String) (db : Db) : Bool :=
  db.operationalWaivers.rows.any fun w =>
    w.tenantId = tenantId && w.entityType = entityType && w.entityId = entityId &&
      w.waiverType = waiverType && w.status = .active && w.expiresAt.all (now < ·)

/-- Ask for the approval of a negative margin. -/
def createBillingWaiver (now : Instant) (tenantId tripId : UUID) (reason : String) (db : Db) :
    Except Exc (UUID × Db) := do
  let missing := notFound "trip_not_found" "Trip not found"
  let trip ← require (db.trips.get tripId) missing
  raiseIf (trip.tenantId ≠ tenantId) missing
  raiseIf (db.operationalWaivers.rows.any fun w =>
      w.tenantId = tenantId && w.entityId = tripId &&
        w.waiverType = negativeMarginApprovalWaiver && w.status = .pendingApproval)
    (conflict "waiver_already_pending" "A waiver is already pending approval for this trip.")
  let waiver (id : UUID) : OperationalWaiver :=
    { id, tenantId, entityType := "trip", entityId := tripId
      waiverType := negativeMarginApprovalWaiver, reason, approvedAt := now
      status := .pendingApproval }
  return (db.operationalWaivers.freshKey,
    { db with operationalWaivers := db.operationalWaivers.insert waiver })

def WaiverStatus.text : WaiverStatus → String
  | .pendingApproval => "pending_approval"
  | .active => "active"
  | .rejected => "rejected"
  | .revoked => "revoked"

/-- The waiver of a margin that still waits for its answer. -/
def pendingBillingWaiver (tenantId waiverId : UUID) (verb : String) (db : Db) :
    Except Exc OperationalWaiver := do
  let missing := notFound "waiver_not_found" "Waiver not found"
  let waiver ← require (db.operationalWaivers.get waiverId) missing
  raiseIf (waiver.tenantId ≠ tenantId || waiver.waiverType ≠ negativeMarginApprovalWaiver) missing
  raiseIf (waiver.status ≠ .pendingApproval)
    (conflict "waiver_not_pending"
      ("Waiver is in status '" ++ waiver.status.text ++ "' — can only " ++ verb ++ " pending waivers."))
  return waiver

theorem pendingBillingWaiver_eq_ok {tenantId waiverId : UUID} {verb : String}
    {w : OperationalWaiver} {db : Db}
    (h : pendingBillingWaiver tenantId waiverId verb db = .ok w) :
    db.operationalWaivers.get waiverId = some w ∧ w.tenantId = tenantId := by
  simp only [pendingBillingWaiver, bind_eq_ok, require_eq_ok, raiseIf_eq_ok, Bool.or_eq_false_iff,
    decide_eq_false_iff_not, Decidable.not_not, pure, Except.pure, Except.ok.injEq] at h
  obtain ⟨_, hget, _, ⟨hten, _⟩, _, _, rfl⟩ := h
  exact ⟨hget, hten⟩

def approveBillingWaiver (now : Instant) (tenantId waiverId approverId : UUID) (db : Db) :
    Except Exc (UUID × Db) := do
  let _ ← pendingBillingWaiver tenantId waiverId "approve" db
  return (waiverId, { db with
    operationalWaivers := db.operationalWaivers.modify waiverId
      ({ · with status := .active, approvedBy := some approverId, approvedAt := now }) })

def rejectBillingWaiver (tenantId waiverId rejectorId : UUID) (db : Db) :
    Except Exc (UUID × Db) := do
  let _ ← pendingBillingWaiver tenantId waiverId "reject" db
  return (waiverId, { db with
    operationalWaivers := db.operationalWaivers.modify waiverId
      ({ · with status := .rejected, approvedBy := some rejectorId }) })

end Rotas
