import Rotas.Data
import Rotas.Lib.Decimal

/-!
# Rotas.Cargo.Delivery

Delivery proofs. A proof is recorded, then validated, accepted or disputed; a validated or
accepted proof makes its trip billable.

* `billableProofStatuses` — the proofs billing looks at.
* `createDeliveryProof`, `validateDeliveryProof`, `acceptDeliveryProof`,
  `disputeDeliveryProof`, `resolveDeliveryProofDispute` — each rewrites the billing status of the
  trip; only the dispute looks at it first.
* `rejectDeliveryProof`, `patchDeliveryProof` — these leave the trip as it is.
-/

namespace Rotas

def billableProofStatuses : List ProofStatus := [.validated, .verified, .accepted]

def tripNotFound : Exc := notFound "trip_not_found" "Trip not found."

/-- The trip of the tenant. -/
def requireTrip (tenantId tripId : UUID) (db : Db) : Except Exc Trip := do
  let trip ← require (db.trips.get tripId) tripNotFound
  raiseIf (trip.tenantId ≠ tenantId) tripNotFound
  return trip

theorem requireTrip_eq_ok {tenantId tripId : UUID} {db : Db} {trip : Trip} :
    requireTrip tenantId tripId db = .ok trip ↔
      db.trips.get tripId = some trip ∧ trip.tenantId = tenantId := by
  simp only [requireTrip, bind_eq_ok, require_eq_ok, raiseIf_eq_ok, decide_eq_false_iff_not,
    Decidable.not_not]
  constructor
  · rintro ⟨t, ht, _, hten, hr⟩
    cases hr
    exact ⟨ht, hten⟩
  · rintro ⟨ht, hten⟩
    exact ⟨trip, ht, (), hten, rfl⟩

def proofNotFound : Exc := notFound "delivery_proof_not_found" "Delivery proof not found."

/-- The proof of the tenant's trip. -/
def requireProof (tenantId tripId proofId : UUID) (db : Db) : Except Exc DeliveryProof := do
  let proof ← require (db.deliveryProofs.get proofId) proofNotFound
  raiseIf (proof.tenantId ≠ tenantId || proof.tripId ≠ tripId) proofNotFound
  return proof

theorem requireProof_eq_ok {tenantId tripId proofId : UUID} {db : Db} {proof : DeliveryProof} :
    requireProof tenantId tripId proofId db = .ok proof ↔
      db.deliveryProofs.get proofId = some proof ∧ proof.tenantId = tenantId ∧
        proof.tripId = tripId := by
  simp only [requireProof, bind_eq_ok, require_eq_ok, raiseIf_eq_ok, pure, Except.pure,
    Except.ok.injEq, Bool.or_eq_false_iff, decide_eq_false_iff_not, Decidable.not_not]
  constructor
  · rintro ⟨_, hget, _, hkeys, rfl⟩
    exact ⟨hget, hkeys⟩
  · rintro ⟨hget, hkeys⟩
    exact ⟨proof, hget, (), hkeys, rfl⟩

structure DeliveryProofCreate where
  contractId : Option UUID := none
  deliveredAt : Instant
  cargoCondition : String := "intact"
  quantityDelivered : Option ℚ := none
  validationMethod : Option String := none
  notes : Option String := none
  fileId : Option UUID := none

def createDeliveryProof (tenantId tripId : UUID) (payload : DeliveryProofCreate) (db : Db) :
    Except Exc (UUID × Db) := do
  let _ ← requireTrip tenantId tripId db
  let proof (id : UUID) : DeliveryProof :=
    { id, tenantId, tripId, contractId := payload.contractId, deliveredAt := payload.deliveredAt
      cargoCondition := payload.cargoCondition
      quantityDelivered := payload.quantityDelivered.map (Decimal.numeric 2)
      validationMethod := payload.validationMethod, notes := payload.notes
      fileId := payload.fileId }
  return (db.deliveryProofs.freshKey, { db with
    deliveryProofs := db.deliveryProofs.insert proof
    trips := db.trips.modify tripId fun trip => { trip with
      status := .delivered
      actualArrival := some payload.deliveredAt
      deliveryFileId := payload.fileId
      cargoStatus := some payload.cargoCondition
      billingStatus := .pendingDeliveryValidation } })

def ProofStatus.text : ProofStatus → String
  | .pending => "pending"
  | .validated => "validated"
  | .verified => "verified"
  | .accepted => "accepted"
  | .rejected => "rejected"
  | .disputed => "disputed"
  | .resolved => "resolved"

/-- `_DELIVERY_PROOF_VALID_TRANSITIONS`; the statuses of a validation allow nothing. -/
def deliveryProofValidTransitions : ProofStatus → List ProofStatus
  | .pending => [.accepted, .rejected]
  | .rejected => [.disputed]
  | .disputed => [.resolved]
  | _ => []

def acceptDeliveryProof (now : Instant) (tenantId proofId userId : UUID) (db : Db) :
    Except Exc (UUID × Db) := do
  let missing := notFound "not_found" "DeliveryProof not found"
  let proof ← require (db.deliveryProofs.get proofId) missing
  raiseIf (proof.tenantId ≠ tenantId) missing
  raiseIf (.accepted ∉ deliveryProofValidTransitions proof.status)
    (conflict "invalid_state_transition"
      ("DeliveryProof cannot be accepted from status '" ++ proof.status.text ++ "'"))
  return (proofId, { db with
    deliveryProofs := db.deliveryProofs.modify proofId
      ({ · with status := .accepted, acceptedAt := some now, acceptedBy := some userId })
    trips := db.trips.modify proof.tripId ({ · with billingStatus := .billable }) })

def rejectDeliveryProof (now : Instant) (tenantId proofId userId : UUID) (rejectionReason : String)
    (db : Db) : Except Exc (UUID × Db) := do
  let missing := notFound "not_found" "DeliveryProof not found"
  let proof ← require (db.deliveryProofs.get proofId) missing
  raiseIf (proof.tenantId ≠ tenantId) missing
  raiseIf (.rejected ∉ deliveryProofValidTransitions proof.status)
    (conflict "invalid_state_transition"
      ("DeliveryProof cannot be rejected from status '" ++ proof.status.text ++ "'"))
  return (proofId, { db with
    deliveryProofs := db.deliveryProofs.modify proofId ({ · with
      status := .rejected
      rejectedAt := some now
      rejectedBy := some userId
      rejectionReason := some rejectionReason }) })

/-- A trip whose delivery is validated: billable under a contract, else waiting for one. -/
def Trip.readyForBilling (now : Instant) (trip : Trip) : Trip :=
  { trip with
    billingStatus := if trip.contractId.isSome then .billable else .uncontracted
    billableAt := if trip.contractId.isSome then some now else none }

structure ValidateDeliveryProofRequest where
  validationMethod : String := "manual_review"
  notes : Option String := none

def validateDeliveryProof (now : Instant) (tenantId tripId proofId : UUID) (userId : Option UUID)
    (payload : ValidateDeliveryProofRequest) (db : Db) : Except Exc (UUID × Db) := do
  let _ ← requireTrip tenantId tripId db
  let proof ← requireProof tenantId tripId proofId db
  if proof.status = .validated ∨ proof.status = .verified then return (proofId, db)
  raiseIf (proof.status = .disputed)
    (conflict "delivery_proof_disputed"
      "Disputed delivery proof cannot be validated until the dispute is resolved."
      [("proof_id", .uuid proofId)])
  return (proofId, { db with
    deliveryProofs := db.deliveryProofs.modify proofId fun p => { p with
      status := .validated
      verifiedByUserId := userId
      verifiedAt := some now
      validationMethod := some payload.validationMethod
      notes := if payload.notes.getD "" = "" then p.notes else payload.notes }
    trips := db.trips.modify tripId (Trip.readyForBilling now) })

def BillingStatus.text : BillingStatus → String
  | .notBillable => "not_billable"
  | .pendingDeliveryProof => "pending_delivery_proof"
  | .pendingDeliveryValidation => "pending_delivery_validation"
  | .uncontracted => "uncontracted"
  | .billable => "billable"
  | .deliveryDisputed => "delivery_disputed"
  | .billingDraft => "billing_draft"
  | .billed => "billed"

structure DisputeDeliveryProofRequest where
  reason : String
  disputeType : String
  notes : Option String := none

def disputeDeliveryProof (tenantId tripId proofId : UUID) (payload : DisputeDeliveryProofRequest)
    (db : Db) : Except Exc (UUID × Db) := do
  let trip ← requireTrip tenantId tripId db
  let proof ← requireProof tenantId tripId proofId db
  raiseIf (trip.billingStatus = .billingDraft || trip.billingStatus = .billed)
    (conflict "billing_already_started"
      "Delivery proof cannot be disputed after billing has started."
      [("billing_status", .text trip.billingStatus.text)])
  if proof.status = .disputed then return (proofId, db)
  return (proofId, { db with
    deliveryProofs := db.deliveryProofs.modify proofId ({ · with
      status := .disputed
      validationMethod := some payload.disputeType
      notes := some (if payload.notes.getD "" = "" then payload.reason else payload.notes.getD "") })
    trips := db.trips.modify tripId
      ({ · with billingStatus := .deliveryDisputed, billableAt := none }) })

structure ResolveDeliveryProofDisputeRequest where
  outcome : String
  resolutionNotes : String
  validationMethod : String := "dispute_resolution"

def resolveDeliveryProofDispute (now : Instant) (tenantId tripId proofId : UUID)
    (userId : Option UUID) (payload : ResolveDeliveryProofDisputeRequest) (db : Db) :
    Except Exc (UUID × Db) := do
  raiseIf (payload.outcome ∉ ["validated", "rejected"])
    (unprocessable "invalid_dispute_outcome" "Dispute outcome must be validated or rejected."
      [("allowed", .texts ["validated", "rejected"]), ("value", .text payload.outcome)])
  let _ ← requireTrip tenantId tripId db
  let proof ← requireProof tenantId tripId proofId db
  raiseIf (proof.status ≠ .disputed)
    (conflict "delivery_proof_not_disputed"
      "Only disputed delivery proofs can be resolved through this endpoint."
      [("status", .text proof.status.text)])
  if payload.outcome = "validated" then
    return (proofId, { db with
      deliveryProofs := db.deliveryProofs.modify proofId ({ · with
        status := .validated
        validationMethod := some payload.validationMethod
        verifiedByUserId := userId
        verifiedAt := some now
        notes := some payload.resolutionNotes })
      trips := db.trips.modify tripId (Trip.readyForBilling now) })
  return (proofId, { db with
    deliveryProofs := db.deliveryProofs.modify proofId ({ · with
      status := .rejected
      validationMethod := some payload.validationMethod
      verifiedByUserId := none
      verifiedAt := none
      notes := some payload.resolutionNotes })
    trips := db.trips.modify tripId
      ({ · with billingStatus := .pendingDeliveryProof, billableAt := none }) })

/-- The fields of a proof that a device may rewrite; a null leaves its field as it is. -/
structure DeliveryProofPatch where
  notes : Option String := none
  receiverName : Option String := none
  receiverContact : Option String := none

/-- The proof of any trip of the tenant, whatever tenant the proof names. -/
def patchDeliveryProof (tenantId proofId : UUID) (updateData : DeliveryProofPatch) (db : Db) :
    Except Exc (UUID × Db) := do
  let proof ← require (db.deliveryProofs.get proofId) proofNotFound
  let _ ← requireTrip tenantId proof.tripId db
  return (proofId, { db with
    deliveryProofs := db.deliveryProofs.modify proofId fun p => { p with
      notes := updateData.notes.or p.notes
      receiverName := updateData.receiverName.or p.receiverName
      receiverContact := updateData.receiverContact.or p.receiverContact } })

end Rotas
