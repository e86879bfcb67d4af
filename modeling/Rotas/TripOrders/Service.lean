import Rotas.Trips.Dispatch

/-!
# Rotas.TripOrders.Service

Trip orders: drafted, confirmed, and assigned to a vehicle and a driver, which plans their trip. A
rejected clearance changes the order and leaves its trip where it is.
-/

namespace Rotas

def tripOrderNotFound : Exc := notFound "trip_order_not_found" "Trip order not found."

/-- The order of the tenant. -/
def requireOrder (tenantId orderId : UUID) (db : Db) : Except Exc TripOrder := do
  let order ← require (db.tripOrders.get orderId) tripOrderNotFound
  raiseIf (order.tenantId ≠ tenantId) tripOrderNotFound
  return order

def invalidTripOrderStatus (message : String) (order : TripOrder) : Exc :=
  conflict "invalid_trip_order_status" message [("status", .text order.status)]

/-- `ALLOWED_CREATE_VALUES`. -/
def allowedCreateValues : List (String × List String) :=
  [("priority", ["low", "normal", "high", "urgent"]),
    ("source", ["manual", "contract_schedule", "client_request"]),
    ("cargo_risk_level", ["low", "normal", "high", "critical"])]

def validateEnum (field value : String) : Except Exc Unit :=
  let allowed := (allowedCreateValues.lookup field).getD []
  raiseIf (value ∉ allowed)
    (unprocessable "invalid_trip_order_value" ("Invalid value for " ++ field ++ ".")
      [("field", .text field), ("allowed", .texts (sorted allowed)), ("value", .text value)])

structure TripOrderCreate where
  contractId : Option UUID := none
  origin : String
  destination : String
  cargoType : Option String := none
  estimatedWeight : Option ℚ := none
  estimatedVolume : Option ℚ := none
  cargoRiskLevel : String := "normal"
  slaPickupDeadline : Option Instant := none
  slaDeliveryDeadline : Option Instant := none
  priority : String := "normal"
  source : String := "manual"
  requiresLoadPermit : Bool := false

def createTripOrder (tenantId : UUID) (payload : TripOrderCreate) (db : Db) :
    Except Exc (UUID × Db) := do
  validateEnum "priority" payload.priority
  validateEnum "source" payload.source
  validateEnum "cargo_risk_level" payload.cargoRiskLevel
  if let some contractId := payload.contractId then
    let _ ← requireContract tenantId contractId db
  let order (id : UUID) : TripOrder :=
    { id, tenantId, status := "draft", contractId := payload.contractId, origin := payload.origin
      destination := payload.destination, cargoType := payload.cargoType
      estimatedWeight := payload.estimatedWeight.map (Decimal.numeric 2)
      estimatedVolume := payload.estimatedVolume.map (Decimal.numeric 2)
      requiresLoadPermit := payload.requiresLoadPermit
      slaPickupDeadline := payload.slaPickupDeadline
      slaDeliveryDeadline := payload.slaDeliveryDeadline }
  return (db.tripOrders.freshKey, { db with tripOrders := db.tripOrders.insert order })

def confirmTripOrder (tenantId orderId : UUID) (db : Db) : Except Exc (UUID × Db) := do
  let order ← requireOrder tenantId orderId db
  if order.status = "confirmed" then return (orderId, db)
  raiseIf (order.status ≠ "draft")
    (invalidTripOrderStatus "Only draft trip orders can be confirmed." order)
  return (orderId, { db with
    tripOrders := db.tripOrders.modify orderId ({ · with status := "confirmed" }) })

structure TripOrderAssignRequest where
  vehicleId : UUID
  driverId : UUID
  payloadOverrideReason : Option String := none

def assignedOrder (now : Instant) (payload : TripOrderAssignRequest) (actorId : Option UUID)
    (order : TripOrder) : TripOrder :=
  { order with
    status := "assigned"
    assignedVehicleId := some payload.vehicleId
    assignedDriverId := some payload.driverId
    assignedBy := actorId
    assignedAt := some now }

/-- The planned trip of an order; its contract may be gone, or another tenant's. -/
def tripOfOrder (tenantId : UUID) (order : TripOrder) (payload : TripOrderAssignRequest) (db : Db)
    (id : UUID) : Trip :=
  { id, tenantId, tripOrderId := some order.id, contractId := order.contractId
    vehicleId := payload.vehicleId, driverId := payload.driverId, origin := order.origin
    destination := order.destination, cargoType := order.cargoType
    cargoWeight := order.estimatedWeight, cargoVolume := order.estimatedVolume
    requiresLoadPermit := order.requiresLoadPermit
    plannedDeparture := order.slaPickupDeadline, plannedArrival := order.slaDeliveryDeadline
    status := .planned, billingStatus := .pendingDeliveryProof
    payloadOverrideReason := payload.payloadOverrideReason
    contractReference := (order.contractId.bind db.contracts.get).map Contract.contractReference }

def assignTripOrder [Interpreter] (now : Instant) (tenantId orderId : UUID)
    (payload : TripOrderAssignRequest) (actorId : Option UUID) (f : Fleet) :
    Except Exc (UUID × Fleet) := do
  let order ← requireOrder tenantId orderId f.toDb
  raiseIf (order.status ∉ ["confirmed", "planning"])
    (invalidTripOrderStatus "Only confirmed or planning trip orders can be assigned." order)
  let _ ← requireVehicleAndDriverAvailable now tenantId payload.vehicleId payload.driverId none f
  checkPayload weightExceedsVehicle (kilograms order.estimatedWeight)
    (f.vehicles.get payload.vehicleId) payload.payloadOverrideReason
  let p : Fleet := { f with
    tripOrders := f.tripOrders.modify orderId (assignedOrder now payload actorId)
    trips := f.trips.insert (tripOfOrder tenantId order payload f.toDb) }
  flush p
  return (f.trips.freshKey, p)

def cancelTripOrder (tenantId orderId : UUID) (db : Db) : Except Exc (UUID × Db) := do
  let order ← requireOrder tenantId orderId db
  if order.status = "cancelled" then return (orderId, db)
  raiseIf (order.status ∈ ["assigned", "dispatched", "in_execution", "delivered", "closed"])
    (invalidTripOrderStatus "Assigned or active trip orders cannot be cancelled here." order)
  return (orderId, { db with
    tripOrders := db.tripOrders.modify orderId ({ · with status := "cancelled" }) })

/-- `reject_dispatch_clearance`, which rejects the order whatever its status is. -/
def rejectDispatchClearance (tenantId orderId : UUID) (db : Db) : Except Exc (UUID × Db) := do
  let _ ← requireOrder tenantId orderId db
  return (orderId, { db with
    tripOrders := db.tripOrders.modify orderId ({ · with status := "rejected" }) })

end Rotas
