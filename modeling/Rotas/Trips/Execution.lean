import Rotas.Trips.Dispatch

/-!
# Rotas.Trips.Execution

Trips on the road and after it.

* `evaluateDeliverySla` — late trips are marked delayed, whatever they were doing.
* `createIncident`, `resolveIncident` — a grave incident stops its trip; its resolution does not
  start it again.
* `completeTrip` — the final kilometres and the arrival, of trips in progress only.
* `associateContract`, `createStop`, `recordTripCost` — what is added to a trip at any time.

The id of an incident is drawn by the service, and is an argument here.
-/

namespace Rotas

/-! ## Lateness -/

/-- `SLA_MONITORED_STATUSES`. -/
def slaMonitoredStatuses : List TripStatus := [.dispatched, .inProgress, .delayed]

/-- The trip should have arrived before now. -/
def Trip.breachesSla (now : Instant) (tenantId : UUID) (trip : Trip) : Bool :=
  trip.tenantId = tenantId && trip.status ∈ slaMonitoredStatuses && trip.actualArrival.isNone &&
    trip.plannedArrival.any (· < now)

/-- Answers with the trips that are late. -/
def evaluateDeliverySla (now : Instant) (tenantId : UUID) (db : Db) :
    Except Exc (List UUID × Db) :=
  .ok ((db.trips.rows.filter (·.breachesSla now tenantId)).map Trip.id, { db with
    trips := db.trips.modifyAll (·.breachesSla now tenantId) ({ · with status := .delayed }) })

/-! ## Incidents -/

def incidentTypes : List String :=
  ["accident", "breakdown", "police_stop", "border_delay", "client_delay", "loading_delay",
    "unloading_delay", "theft", "cargo_damage", "route_blocked", "fuel_issue", "document_issue",
    "other"]

def incidentSeverities : List (String × Severity) :=
  [("low", .low), ("medium", .medium), ("high", .high), ("critical", .critical)]

/-- The severity of that name. -/
def Severity.ofText (s : String) : Option Severity :=
  (incidentSeverities.find? (·.1 = s)).map (·.2)

structure TripIncidentCreate where
  incidentType : String
  severity : String := "medium"
  occurredAt : Option Instant := none
  description : String

/-- A high or critical incident of a trip that is on the road. -/
def Trip.stoppedBy (severity : Severity) (trip : Trip) : Bool :=
  (severity = .high || severity = .critical) &&
    trip.status ∈ [TripStatus.dispatched, .inProgress, .delayed]

def reportedTrip (severity : Severity) (trip : Trip) : Trip :=
  { trip with status := if trip.stoppedBy severity then .incident else trip.status }

def newIncident (now : Instant) (tenantId incidentId : UUID) (payload : TripIncidentCreate)
    (actorId : Option UUID) (severity : Severity) (trip : Trip) : TripIncident where
  id := incidentId
  tenantId
  tripId := trip.id
  vehicleId := some trip.vehicleId
  driverId := some trip.driverId
  incidentType := payload.incidentType
  severity
  status := .open
  occurredAt := payload.occurredAt.getD now
  description := payload.description
  reportedBy := actorId

def createIncident (now : Instant) (tenantId tripId incidentId : UUID)
    (payload : TripIncidentCreate) (actorId : Option UUID) (db : Db) : Except Exc (UUID × Db) := do
  let trip ← requireTrip tenantId tripId db
  raiseIf (payload.incidentType ∉ incidentTypes)
    (unprocessable "invalid_incident_type" "Invalid incident type."
      [("allowed", .texts (sorted incidentTypes)), ("value", .text payload.incidentType)])
  let severity ← require (Severity.ofText payload.severity)
    (unprocessable "invalid_incident_severity" "Invalid incident severity."
      [("allowed", .texts (sorted (incidentSeverities.map (·.1)))),
        ("value", .text payload.severity)])
  let tripIncidents ← require
    (db.tripIncidents.add? (newIncident now tenantId incidentId payload actorId severity trip))
    .integrityError
  return (incidentId, { db with
    tripIncidents, trips := db.trips.modify tripId (reportedTrip severity) })

structure TripIncidentResolveRequest where
  resolutionNotes : String
  resolvedAt : Option Instant := none

def incidentNotFound : Exc := notFound "incident_not_found" "Incident not found."

/-- The trip keeps the status the incident gave it. -/
def resolveIncident (now : Instant) (tenantId tripId incidentId : UUID)
    (payload : TripIncidentResolveRequest) (actorId : Option UUID) (db : Db) :
    Except Exc (UUID × Db) := do
  let _ ← requireTrip tenantId tripId db
  let incident ← require (db.tripIncidents.get incidentId) incidentNotFound
  raiseIf (incident.tenantId ≠ tenantId || incident.tripId ≠ tripId) incidentNotFound
  if incident.status = .resolved then return (incidentId, db)
  return (incidentId, { db with
    tripIncidents := db.tripIncidents.modify incidentId ({ · with
      status := .resolved
      resolutionNotes := some payload.resolutionNotes
      resolvedBy := actorId
      resolvedAt := some (payload.resolvedAt.getD now) }) })

section

variable {now : Instant} {tenantId tripId incidentId a : UUID} {actorId : Option UUID} {db q : Db}

theorem createIncident_eq_ok {payload : TripIncidentCreate} :
    createIncident now tenantId tripId incidentId payload actorId db = .ok (a, q) ↔
      a = incidentId ∧ ∃ trip severity incidents, db.trips.get tripId = some trip ∧
        trip.tenantId = tenantId ∧ payload.incidentType ∈ incidentTypes ∧
        Severity.ofText payload.severity = some severity ∧
        db.tripIncidents.add? (newIncident now tenantId incidentId payload actorId severity trip) =
          some incidents ∧
        q = { db with
          tripIncidents := incidents, trips := db.trips.modify tripId (reportedTrip severity) } := by
  simp only [createIncident, bind_eq_ok, requireTrip_eq_ok, raiseIf_eq_ok, require_eq_ok, pure,
    Except.pure, Except.ok.injEq, Prod.mk.injEq, decide_eq_false_iff_not, Decidable.not_not]
  constructor
  · rintro ⟨trip, ⟨htrip, hten⟩, _, htype, severity, hseverity, incidents, hadd, rfl, rfl⟩
    exact ⟨rfl, trip, severity, incidents, htrip, hten, htype, hseverity, hadd, rfl⟩
  · rintro ⟨rfl, trip, severity, incidents, htrip, hten, htype, hseverity, hadd, rfl⟩
    exact ⟨trip, ⟨htrip, hten⟩, (), htype, severity, hseverity, incidents, hadd, rfl, rfl⟩

/-- The incident as its resolution leaves it. -/
def resolvedIncident (now : Instant) (payload : TripIncidentResolveRequest) (actorId : Option UUID)
    (i : TripIncident) : TripIncident :=
  { i with
    status := .resolved
    resolutionNotes := some payload.resolutionNotes
    resolvedBy := actorId
    resolvedAt := some (payload.resolvedAt.getD now) }

theorem resolveIncident_eq_ok {payload : TripIncidentResolveRequest} :
    resolveIncident now tenantId tripId incidentId payload actorId db = .ok (a, q) ↔
      a = incidentId ∧ ∃ trip incident, db.trips.get tripId = some trip ∧ trip.tenantId = tenantId ∧
        db.tripIncidents.get incidentId = some incident ∧ incident.tenantId = tenantId ∧
        incident.tripId = tripId ∧
        (incident.status = .resolved ∧ q = db ∨ incident.status ≠ .resolved ∧
          q = { db with
            tripIncidents := db.tripIncidents.modify incidentId
              (resolvedIncident now payload actorId) }) := by
  simp only [resolveIncident, bind_eq_ok, requireTrip_eq_ok, raiseIf_eq_ok, require_eq_ok,
    Bool.or_eq_false_iff, decide_eq_false_iff_not, Decidable.not_not]
  constructor
  · rintro ⟨trip, ⟨htrip, hten⟩, incident, hget, _, ⟨hiten, hitrip⟩, h⟩
    split at h
    · next hdone =>
      cases h
      exact ⟨rfl, trip, incident, htrip, hten, hget, hiten, hitrip, .inl ⟨hdone, rfl⟩⟩
    · next hopen =>
      cases h
      exact ⟨rfl, trip, incident, htrip, hten, hget, hiten, hitrip, .inr ⟨hopen, rfl⟩⟩
  · rintro ⟨rfl, trip, incident, htrip, hten, hget, hiten, hitrip, h⟩
    refine ⟨trip, ⟨htrip, hten⟩, incident, hget, (), ⟨hiten, hitrip⟩, ?_⟩
    rcases h with ⟨hdone, rfl⟩ | ⟨hopen, rfl⟩
    · rw [if_pos hdone]; rfl
    · rw [if_neg hopen]; rfl

end

/-! ## Completion -/

structure CompleteTripRequest where
  kmEnd : Int
  kmEndFileId : Option UUID := none
  actualArrival : Option Instant := none
  recipientName : Option String := none

def completedTrip (now : Instant) (payload : CompleteTripRequest) (trip : Trip) : Trip :=
  { trip with
    kmEnd := some payload.kmEnd
    kmEndFileId := payload.kmEndFileId
    actualArrival := some (payload.actualArrival.getD now)
    recipientName := payload.recipientName
    status := .arrived }

def completeTrip (now : Instant) (tenantId tripId : UUID) (payload : CompleteTripRequest)
    (db : Db) : Except Exc (UUID × Db) := do
  let trip ← requireTrip tenantId tripId db
  raiseIf (trip.status ≠ .inProgress)
    (conflict "invalid_trip_status" "Only in-progress trips can be completed.")
  return (tripId, { db with trips := db.trips.modify tripId (completedTrip now payload) })

/-! ## Contract, stops and costs -/

/-- A trip that was only waiting for its contract becomes billable. -/
def contractedTrip (now : Instant) (contract : Contract) (trip : Trip) : Trip :=
  { trip with
    contractId := some contract.id
    contractReference := some contract.contractReference
    billingStatus :=
      if trip.billingStatus = .uncontracted then .billable else trip.billingStatus
    billableAt := if trip.billingStatus = .uncontracted then some now else trip.billableAt }

def associateContract (now : Instant) (tenantId tripId contractId : UUID) (db : Db) :
    Except Exc (UUID × Db) := do
  let _ ← requireTrip tenantId tripId db
  let contract ← requireContract tenantId contractId db
  return (tripId, { db with trips := db.trips.modify tripId (contractedTrip now contract) })

def createStop (tenantId tripId : UUID) (stopType : String) (db : Db) :
    Except Exc (UUID × Db) := do
  let _ ← requireTrip tenantId tripId db
  let stop (id : UUID) : TripStop := { id, tenantId, tripId, stopType }
  return (db.tripStops.freshKey, { db with tripStops := db.tripStops.insert stop })

/-- The source is the caller's, not the request's: an allowance and a supplier's invoice record
costs of their own. -/
structure TripCostCreate where
  costType : String
  description : Option String := none
  amount : ℚ
  currency : String := "MZN"
  paidBy : String := "company"
  paymentMethod : Option String := none
  receiptFileId : Option UUID := none
  requestReference : String
  incurredAt : Instant
  sourceType : String := "manual"
  sourceId : Option UUID := none

def newTripCost (tenantId tripId : UUID) (payload : TripCostCreate) (actorId : Option UUID)
    (id : UUID) : TripCost :=
  { id, tenantId, tripId, amount := Decimal.quantize 2 payload.amount
    costType := payload.costType, description := payload.description
    currency := payload.currency, paidBy := payload.paidBy
    paymentMethod := payload.paymentMethod, receiptFileId := payload.receiptFileId
    requestReference := payload.requestReference, sourceType := payload.sourceType
    sourceId := payload.sourceId, createdBy := actorId, incurredAt := payload.incurredAt }

/-- The request repeats the recorded cost. -/
def TripCost.repeats (c : TripCost) (tripId : UUID) (payload : TripCostCreate) : Bool :=
  c.tripId = tripId && c.costType = payload.costType &&
    c.amount = Decimal.quantize 2 payload.amount && c.sourceType = payload.sourceType &&
    c.sourceId = payload.sourceId

/-- A new cost reconciles its trip; a reference used again with the same payload does nothing. -/
def recordTripCost [Locale] (now : Instant) (tenantId tripId : UUID) (payload : TripCostCreate)
    (actorId : Option UUID) (db : Db) : Except Exc (UUID × Db) := do
  raiseIf (Decimal.quantize 2 payload.amount < 0)
    (unprocessable "invalid_trip_cost" "Trip cost cannot be negative.")
  let _ ← requireTrip tenantId tripId db
  match db.tripCosts.rows.find? fun c =>
      c.tenantId = tenantId && c.requestReference = payload.requestReference with
  | some existing =>
    raiseIf (!existing.repeats tripId payload)
      (conflict "trip_cost_request_reference_reused"
        "Trip cost request reference was reused with a different payload.")
    return (existing.id, db)
  | none =>
    let withCost := { db with
      tripCosts := db.tripCosts.insert (newTripCost tenantId tripId payload actorId) }
    return (db.tripCosts.freshKey, { withCost with
      trips := db.trips.modify tripId (reconcileTripCosts now tenantId · withCost) })

end Rotas
