import Rotas.Cargo.Delivery
import Rotas.Operations.Waivers
import Rotas.Trips.Revenue

/-!
# Rotas.Trips.Close

`operational_close_trip`: the end of a trip. It asks for a validated proof or a waiver and for the
stops the tenant's policy requires, reconciles the costs and marks the trip billable, whatever its
billing status was.
-/

namespace Rotas

section

variable [Locale]

/-- `_normalize_required_document` over the entries that are not blank. -/
def normalizeStops (stops : List String) : List String :=
  (stops.filter (strip · ≠ "")).map fun s => Locale.casefold (strip s)

def policyDefaultAliases : List String := ["*", "default", "__default__"]

/-- The stops the policy requires of every trip, and those of the trip's cargo type. -/
def requiredTripStops (policy : CompliancePolicy) (trip : Trip) : List String :=
  let cargoType := Locale.casefold (strip (trip.cargoType.getD ""))
  let byType := policy.tripRequiredStopsByCargoType.filter fun entry =>
    let key := Locale.casefold (strip entry.1)
    key = cargoType || policyDefaultAliases.contains key
  normalizeStops policy.tripRequiredStops ++ byType.flatMap fun entry => normalizeStops entry.2

def missingRequiredTripStops (tenantId : UUID) (trip : Trip) (db : Db) : List String :=
  let policy := ((db.tenants.get tenantId).map Tenant.compliancePolicy).getD {}
  let existing := (db.tripStops.rows.filter fun s =>
    s.tenantId = tenantId && s.tripId = trip.id).map fun s => Locale.sqlLower s.stopType
  sorted ((requiredTripStops policy trip).filter (· ∉ existing)).dedup

/-- An incident that blocks the closing of its trip. -/
def TripIncident.blocks (i : TripIncident) (tenantId tripId : UUID) : Bool :=
  i.tenantId = tenantId && i.tripId = tripId &&
    (i.status = .open || i.status = .investigating) &&
    (i.severity = .high || i.severity = .critical)

def TripStatus.text : TripStatus → String
  | .draft => "draft"
  | .planned => "planned"
  | .dispatchPending => "dispatch_pending"
  | .dispatched => "dispatched"
  | .inProgress => "in_progress"
  | .delayed => "delayed"
  | .incident => "incident"
  | .arrived => "arrived"
  | .delivered => "delivered"
  | .closed => "closed"
  | .cancelled => "cancelled"
  | .completed => "completed"

structure OperationalCloseTripRequest where
  closedAt : Option Instant := none
  notes : Option String := none

/-- What has to hold before a trip that is not closed yet is closed. -/
def closeChecks (now : Instant) (tenantId : UUID) (trip : Trip) (db : Db) : Except Exc Unit := do
  raiseIf (trip.status ∉ [.arrived, .delivered, .incident])
    (conflict "invalid_trip_status"
      "Only arrived, delivered or incident trips can be operationally closed."
      [("status", .text trip.status.text)])
  match db.tripIncidents.rows.find? (·.blocks tenantId trip.id) with
  | some incident => throw (conflict "open_blocking_incident"
      "Trip cannot be closed while high or critical incidents are open."
      [("incident_id", .uuid incident.id)])
  | none => pure ()
  let validatedProof := db.deliveryProofs.rows.any fun p =>
    p.tenantId = tenantId && p.tripId = trip.id && p.status = .validated
  raiseIf (!validatedProof && !hasActiveWaiver now tenantId "trip" trip.id "no_pod" db)
    (conflict "validated_pod_required"
      "Trip cannot be closed without validated POD or active no_pod waiver.")
  let missing := missingRequiredTripStops tenantId trip db
  raiseIf (!missing.isEmpty)
    (conflict "required_trip_stops_missing"
      "Trip cannot be closed while mandatory stops are missing."
      [("missing_stops", .texts missing)])

theorem closeChecks_eq_ok {now : Instant} {tenantId : UUID} {trip : Trip} {db : Db} :
    closeChecks now tenantId trip db = .ok () ↔
      trip.status ∈ [TripStatus.arrived, .delivered, .incident] ∧
        (∀ i ∈ db.tripIncidents, i.blocks tenantId trip.id = false) ∧
        ((∃ p ∈ db.deliveryProofs, p.tenantId = tenantId ∧ p.tripId = trip.id ∧
            p.status = .validated) ∨
          hasActiveWaiver now tenantId "trip" trip.id "no_pod" db = true) ∧
        missingRequiredTripStops tenantId trip db = [] := by
  have hincidents : (∀ i ∈ db.tripIncidents, i.blocks tenantId trip.id = false) ↔
      db.tripIncidents.rows.find? (·.blocks tenantId trip.id) = none := by
    simp only [List.find?_eq_none, Bool.not_eq_true, Table.mem_def]
  rw [hincidents]
  simp only [closeChecks, bind_eq_ok, raiseIf_eq_ok, decide_eq_false_iff_not, Decidable.not_not]
  cases db.tripIncidents.rows.find? (·.blocks tenantId trip.id) with
  | some incident => simp [throw, throwThe, MonadExceptOf.throw, bind_eq_ok]
  | none => simp [bind_eq_ok, Table.mem_def, or_iff_not_imp_left, and_assoc]

def closeTrip (now : Instant) (tenantId : UUID) (payload : OperationalCloseTripRequest)
    (actorId : Option UUID) (db : Db) (trip : Trip) : Trip :=
  { reconcileTripCosts now tenantId trip db with
    status := .closed
    billingStatus := .billable
    closedAt := some (payload.closedAt.getD now)
    closedBy := actorId
    operationalCloseNotes := payload.notes }

/-- The order of the trip, closed with it when it is the tenant's. -/
def closeOrder (tenantId : UUID) (trip : Trip) (orders : Table TripOrder) : Table TripOrder :=
  orders.modifyAll (fun o => some o.id = trip.tripOrderId && o.tenantId = tenantId)
    ({ · with status := "closed" })

def operationalCloseTrip (now : Instant) (tenantId tripId : UUID)
    (payload : OperationalCloseTripRequest) (actorId : Option UUID) (db : Db) :
    Except Exc (UUID × Db) := do
  let trip ← requireTrip tenantId tripId db
  if trip.status = .closed then return (tripId, db)
  closeChecks now tenantId trip db
  return (tripId, { db with
    trips := db.trips.modify tripId (closeTrip now tenantId payload actorId db)
    tripOrders := closeOrder tenantId trip db.tripOrders })

theorem operationalCloseTrip_eq_ok {now : Instant} {tenantId tripId a : UUID}
    {payload : OperationalCloseTripRequest} {actorId : Option UUID} {db q : Db} :
    operationalCloseTrip now tenantId tripId payload actorId db = .ok (a, q) ↔
      a = tripId ∧ ∃ trip, db.trips.get tripId = some trip ∧ trip.tenantId = tenantId ∧
        (trip.status = .closed ∧ q = db ∨
          trip.status ≠ .closed ∧ closeChecks now tenantId trip db = .ok () ∧
            q = { db with
              trips := db.trips.modify tripId (closeTrip now tenantId payload actorId db)
              tripOrders := closeOrder tenantId trip db.tripOrders }) := by
  simp only [operationalCloseTrip, bind_eq_ok, requireTrip_eq_ok]
  constructor
  · rintro ⟨trip, ⟨htrip, hten⟩, h⟩
    split at h
    · next hclosed => cases h; exact ⟨rfl, trip, htrip, hten, .inl ⟨hclosed, rfl⟩⟩
    · next hopen =>
      simp only [bind_eq_ok, pure, Except.pure, Except.ok.injEq] at h
      obtain ⟨_, hchecks, h⟩ := h
      cases h
      exact ⟨rfl, trip, htrip, hten, .inr ⟨hopen, hchecks, rfl⟩⟩
  · rintro ⟨rfl, trip, htrip, hten, ⟨hclosed, rfl⟩ | ⟨hopen, hchecks, rfl⟩⟩
    · exact ⟨trip, ⟨htrip, hten⟩, by rw [if_pos hclosed]; rfl⟩
    · refine ⟨trip, ⟨htrip, hten⟩, ?_⟩
      rw [if_neg hopen]
      exact bind_eq_ok.mpr ⟨(), hchecks, rfl⟩

end
end Rotas
