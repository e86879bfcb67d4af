import Rotas.Cargo.Documents
import Rotas.Contracts.Service

/-!
# Rotas.Trips.Dispatch

Trips up to the moment they leave. A trip is created under the eyes of the availability service,
then cleared and dispatched, or started at once.

* `createTrip`, `patchTrip`          — a trip and its cargo, with the guard of the payload.
* `startTrip` — from draft and planned as from dispatched.
* `requestDispatchClearance`, `approveDispatchClearance`, `dispatchTrip` — the clearance, its checks
  and the departure it allows.
-/

namespace Rotas

/-! ## The guards -/

def payloadExceeded (message : String) (weight max : ℚ) : Exc :=
  conflict "payload_exceeded" (message ++ fixed2 (Decimal.quantize 2 (weight - max)) ++ " kg.")
    [("cargo_weight_kg", .number weight), ("max_payload_kg", .number max),
      ("excess_kg", .number (weight - max))]

/-- A cargo heavier than the vehicle takes needs a reason. -/
def checkPayload (message : String) (weight : Option ℚ) (vehicle : Option Vehicle)
    (overrideReason : Option String) : Except Exc Unit :=
  match weight, vehicle.bind Vehicle.maxPayloadKg with
  | some weight, some max =>
    raiseIf (max / 100 < weight && (truthy overrideReason).isNone)
      (payloadExceeded message weight (max / 100))
  | _, _ => .ok ()

/-- A stored weight, in kilograms. -/
def kilograms (c : Option Int) : Option ℚ := c.map fun c => (c : ℚ) / 100

def invalidTripStatus (message : String) (trip : Trip) : Exc :=
  conflict "invalid_trip_status" message [("status", .text trip.status.text)]

def weightExceedsVehicle : String := "Cargo weight exceeds vehicle max payload capacity by "

def assignmentConflict : Exc :=
  conflict "assignment_conflict" "Vehicle or driver already has an active trip."

/-- A row that a flush sends to the database, which may refuse it. -/
def flush (f : Fleet) : Except Exc Unit := raiseIf (!f.ok) assignmentConflict

/-! ## Creation -/

structure TripCreate where
  contractId : Option UUID := none
  vehicleId : UUID
  driverId : UUID
  origin : String
  destination : String
  cargoType : Option String := none
  cargoClass : Option String := none
  cargoWeight : Option ℚ := none
  loadState : Option String := none
  requiresLoadPermit : Bool := false
  requiresCargoManifest : Bool := false
  plannedDeparture : Option Instant := none
  plannedArrival : Option Instant := none
  contractReference : Option String := none
  payloadOverrideReason : Option String := none
  isHazmat : Bool := false
  isInternational : Bool := false
  hazmatClass : Option String := none
  unNumber : Option String := none
  hazmatLabel : Option String := none
  hosOverrideReason : Option String := none

/-- A driver over the limits needs a reason to be assigned. -/
def checkHours (now : Instant) (tenantId : UUID) (payload : TripCreate) (db : Db) :
    Except Exc Unit :=
  let hos := calculateDrivingHours now payload.driverId tenantId none db
  raiseIf ((truthy payload.hosOverrideReason).isNone && hos.status = .violation)
    (conflict "hos_violation_active"
      "Driver has exceeded Hours of Service limits and cannot be assigned."
      [("override_required", .bool true), ("hours_today", .number (hos.hoursToday / 100)),
        ("hours_this_week", .number (hos.hoursThisWeek / 100)),
        ("violation_reason", .text (hos.violationReason.getD ""))])

/-- The reference on the trip: its contract's, or the one given. -/
def tripContractReference (tenantId : UUID) (payload : TripCreate) (db : Db) :
    Except Exc (Option String) :=
  match payload.contractId with
  | some contractId => do
    let contract ← requireContract tenantId contractId db
    return some contract.contractReference
  | none => return payload.contractReference

def newTrip (tenantId : UUID) (payload : TripCreate) (contractReference : Option String)
    (id : UUID) : Trip :=
  { id, tenantId, contractId := payload.contractId, vehicleId := payload.vehicleId
    driverId := payload.driverId, origin := payload.origin, destination := payload.destination
    cargoType := payload.cargoType, cargoClass := payload.cargoClass
    cargoWeight := payload.cargoWeight.map (Decimal.numeric 2), loadState := payload.loadState
    requiresLoadPermit := payload.requiresLoadPermit
    requiresCargoManifest := payload.requiresCargoManifest
    plannedDeparture := payload.plannedDeparture, plannedArrival := payload.plannedArrival
    contractReference, payloadOverrideReason := payload.payloadOverrideReason
    isHazmat := payload.isHazmat, isInternational := payload.isInternational
    hazmatClass := payload.hazmatClass, unNumber := payload.unNumber
    hazmatLabel := payload.hazmatLabel, status := .draft
    billingStatus := .pendingDeliveryProof }

def createTrip [Interpreter] (now : Instant) (tenantId : UUID) (payload : TripCreate) (f : Fleet) :
    Except Exc (UUID × Fleet) := do
  let _ ← requireVehicleAndDriverAvailable now tenantId payload.vehicleId payload.driverId none f
  checkHours now tenantId payload f.toDb
  let contractReference ← tripContractReference tenantId payload f.toDb
  let vehicle := f.vehicles.get payload.vehicleId
  raiseIf (vehicle.any (·.ownershipType ≠ "fleet"))
    (conflict "invalid_vehicle_ownership" "Customer vehicles cannot be assigned to cargo trips.")
  checkPayload weightExceedsVehicle payload.cargoWeight vehicle payload.payloadOverrideReason
  let p : Fleet := { f with trips := f.trips.insert (newTrip tenantId payload contractReference) }
  flush p
  return (f.trips.freshKey, p)

structure StartTripRequest where
  kmStart : Int
  kmStartFileId : Option UUID := none
  actualDeparture : Option Instant := none

def startedTrip (now : Instant) (payload : StartTripRequest) (trip : Trip) : Trip :=
  { trip with
    kmStart := some payload.kmStart
    kmStartFileId := payload.kmStartFileId
    actualDeparture := some (payload.actualDeparture.getD now)
    status := .inProgress }

/-- It asks for no clearance and for no document. -/
def startTrip (now : Instant) (tenantId tripId : UUID) (payload : StartTripRequest) (db : Db) :
    Except Exc (UUID × Db) := do
  let trip ← requireTrip tenantId tripId db
  raiseIf (trip.status ∉ [.draft, .planned, .dispatched])
    (invalidTripStatus "Only draft, planned or dispatched trips can be started." trip)
  checkPayload "Cannot start trip — cargo weight exceeds vehicle capacity by "
    (kilograms trip.cargoWeight) (db.vehicles.get trip.vehicleId) trip.payloadOverrideReason
  return (tripId, { db with trips := db.trips.modify tripId (startedTrip now payload) })

/-! ## Clearance -/

/-- The order of the trip follows it when it is the tenant's. -/
def followOrder (tenantId : UUID) (trip : Trip) (status : String) (orders : Table TripOrder) :
    Table TripOrder :=
  orders.modifyAll (fun o => some o.id = trip.tripOrderId && o.tenantId = tenantId)
    ({ · with status })

/-- A trip that has a clearance already is answered with it, and is left as it is. -/
def requestDispatchClearance (tenantId tripId : UUID) (f : Fleet) : Except Exc (UUID × Fleet) := do
  let trip ← requireTrip tenantId tripId f.toDb
  raiseIf (trip.status ∉ [.draft, .planned])
    (invalidTripStatus "Only draft or planned trips can request dispatch clearance." trip)
  match f.dispatchClearances.rows.find? fun c => c.tenantId = tenantId && c.tripId = tripId with
  | some existing => return (existing.id, f)
  | none =>
    let clearance (id : UUID) : DispatchClearance :=
      { id, tenantId, tripOrderId := trip.tripOrderId, tripId }
    return (f.dispatchClearances.freshKey, { f with
      dispatchClearances := f.dispatchClearances.insert clearance
      trips := f.trips.modify tripId ({ · with status := .dispatchPending })
      tripOrders := followOrder tenantId trip "dispatch_pending" f.tripOrders })

structure DispatchClearanceApproveRequest where
  vehicleChecked : Bool := true
  driverChecked : Bool := true
  documentsChecked : Bool := true
  loadPermitChecked : Bool := false
  cargoChecked : Bool := true
  fuelAdvanceChecked : Bool := true
  routeRiskChecked : Bool := true
  blockedReason : Option String := none

/-- The checks of a clearance, each with the name of its column. -/
def DispatchClearance.checks (c : DispatchClearance) : List (String × Bool) :=
  [("vehicle_checked", c.vehicleChecked), ("driver_checked", c.driverChecked),
    ("documents_checked", c.documentsChecked), ("load_permit_checked", c.loadPermitChecked),
    ("cargo_checked", c.cargoChecked), ("fuel_advance_checked", c.fuelAdvanceChecked),
    ("route_risk_checked", c.routeRiskChecked)]

/-- The checks as they were made, those of the cargo only with all its documents there. -/
def checkedClearance (payload : DispatchClearanceApproveRequest) (trip : Trip)
    (missing : List String) (c : DispatchClearance) : DispatchClearance :=
  { c with
    vehicleChecked := payload.vehicleChecked
    driverChecked := payload.driverChecked
    documentsChecked := payload.documentsChecked && missing.isEmpty
    loadPermitChecked :=
      (payload.loadPermitChecked || !trip.requiresLoadPermit) && "load_permit" ∉ missing
    cargoChecked := payload.cargoChecked && missing.isEmpty
    fuelAdvanceChecked := payload.fuelAdvanceChecked
    routeRiskChecked := payload.routeRiskChecked }

/-- The checks that were not made, and the documents that are not there. -/
def missingChecks (c : DispatchClearance) (missing : List String) : List String :=
  ((c.checks.filter (!·.2)).map (·.1)) ++ missing.map ("missing_document:" ++ ·)

def approvedClearance (now : Instant) (actorId : Option UUID) (c : DispatchClearance) :
    DispatchClearance :=
  { c with
    clearanceStatus := .approved
    blockedReason := none
    approvedBy := actorId
    approvedAt := some now }

def blockedClearance (payload : DispatchClearanceApproveRequest) (missing : List String)
    (c : DispatchClearance) : DispatchClearance :=
  { c with
    clearanceStatus := .blocked
    blockedReason :=
      (truthy payload.blockedReason).or (some ("Missing checks: " ++ ", ".intercalate missing)) }

section

variable [Interpreter] [Locale]

/-- A check that fails blocks the clearance; it can be asked for again until it is approved. -/
def approveDispatchClearance (now : Instant) (tenantId tripId : UUID)
    (payload : DispatchClearanceApproveRequest) (actorId : Option UUID) (f : Fleet) :
    Except Exc (UUID × Fleet) := do
  let trip ← requireTrip tenantId tripId f.toDb
  let clearance ← require
    (f.dispatchClearances.rows.find? fun c => c.tenantId = tenantId && c.tripId = tripId)
    (notFound "dispatch_clearance_not_found" "Dispatch clearance has not been requested.")
  if clearance.clearanceStatus = .approved then return (clearance.id, f)
  let documents := missingRequiredCargoDocuments tenantId trip f.toDb
  let missing := missingChecks (checkedClearance payload trip documents clearance) documents
  if missing ≠ [] then
    return (clearance.id, { f with
      dispatchClearances := f.dispatchClearances.modify clearance.id fun c =>
        blockedClearance payload missing (checkedClearance payload trip documents c) })
  let _ ← requireVehicleAndDriverAvailable now tenantId trip.vehicleId trip.driverId
    (some trip.id) f
  return (clearance.id, { f with
    dispatchClearances := f.dispatchClearances.modify clearance.id fun c =>
      approvedClearance now actorId (checkedClearance payload trip documents c) })

structure TripDispatchRequest where
  dispatchedAt : Option Instant := none

def dispatchedTrip (now : Instant) (payload : TripDispatchRequest) (trip : Trip) : Trip :=
  { trip with
    status := .dispatched
    actualDeparture := some (payload.dispatchedAt.getD now) }

end

/-- The clearance is looked for, and its checks are not made again. -/
def dispatchTrip [Interpreter] (now : Instant) (tenantId tripId : UUID) (payload : TripDispatchRequest)
    (f : Fleet) : Except Exc (UUID × Fleet) := do
  let trip ← requireTrip tenantId tripId f.toDb
  let _ ← require
    (f.dispatchClearances.rows.find? fun c =>
      c.tenantId = tenantId && c.tripId = tripId && c.clearanceStatus = .approved)
    (conflict "dispatch_clearance_required" "Trip cannot be dispatched without approved clearance.")
  raiseIf (trip.status ∉ [.planned, .dispatchPending])
    (invalidTripStatus "Only planned or dispatch-pending trips can be dispatched." trip)
  let _ ← requireVehicleAndDriverAvailable now tenantId trip.vehicleId trip.driverId
    (some trip.id) f
  return (tripId, { f with
    trips := f.trips.modify tripId (dispatchedTrip now payload)
    tripOrders := followOrder tenantId trip "dispatched" f.tripOrders })

/-! ## Patches -/

structure TripPatch where
  cargoType : Option String := none
  loadState : Option String := none
  origin : Option String := none
  destination : Option String := none
  cargoWeight : Option ℚ := none
  payloadOverrideReason : Option String := none

/-- A null leaves its field as it is. -/
def patchedTrip (patch : TripPatch) (trip : Trip) : Trip :=
  { trip with
    cargoType := patch.cargoType.or trip.cargoType
    loadState := patch.loadState.or trip.loadState
    origin := patch.origin.getD trip.origin
    destination := patch.destination.getD trip.destination
    cargoWeight := (patch.cargoWeight.map (Decimal.numeric 2)).or trip.cargoWeight
    payloadOverrideReason := patch.payloadOverrideReason.or trip.payloadOverrideReason }

def patchTrip (tenantId tripId : UUID) (patch : TripPatch) (db : Db) : Except Exc (UUID × Db) := do
  let trip ← requireTrip tenantId tripId db
  checkPayload weightExceedsVehicle patch.cargoWeight (db.vehicles.get trip.vehicleId)
    ((truthy patch.payloadOverrideReason).or trip.payloadOverrideReason)
  return (tripId, { db with trips := db.trips.modify tripId (patchedTrip patch) })

end Rotas
