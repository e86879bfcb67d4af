import Rotas.Fleet.Data

/-!
# Rotas.Fuel.Operations

Fuel: the tanks and their movements, the refuels of vehicles and the logs of bought fuel. Liters
and prices count hundredths.

* `Depot` — the fleet's database with the tables of fuel.
* `recordFuelMovement` — `FuelMovementService.record`, the only writer of a tank's stock.
* `createVehicleRefuel` — fuel out of a tank; its cost is added to that of the trip it is for.
* `createFuelLog` — fuel bought on the road; it names no trip.
-/

namespace Rotas

open Work Decimal

structure FuelTank where
  id : UUID
  tenantId : UUID
  code : String := ""
  name : String := ""
  fuelType : String := "gasoleo"
  capacityLiters : Int
  minimumStockLiters : Int := 0
  currentStockLiters : Int := 0
  averageUnitCost : Int := 0
  location : Option String := none
  status : String := "active"

structure FuelMovement where
  id : UUID
  tenantId : UUID
  tankId : UUID
  movementType : String
  direction : String
  liters : Int
  balanceAfterLiters : Int
  unitCost : Option Int := none
  totalCost : Option Int := none
  sourceType : String
  sourceId : UUID
  occurredAt : Instant
  recordedBy : Option UUID := none
  notes : Option String := none

structure VehicleRefuel where
  id : UUID
  tenantId : UUID
  tankId : UUID
  vehicleId : UUID
  driverId : UUID
  tripId : Option UUID := none
  liters : Int
  odometerReading : Int
  refueledAt : Instant
  unitCost : Option Int := none
  totalCost : Option Int := none
  movementId : Option UUID := none
  notes : Option String := none

structure FuelLog where
  id : UUID
  tenantId : UUID
  vehicleId : UUID
  driverId : UUID
  fuelDate : Instant
  stationName : Option String := none
  fuelType : String := "gasoleo"
  liters : Int
  pricePerLiter : Option Int := none
  totalCost : Int
  kmAtRefuel : Int
  kmSinceLast : Option Int := none
  consumption : Option Int := none
  receiptFileId : Option UUID := none
  odometerFileId : Option UUID := none
  paymentMethod : Option String := none
  paymentReference : Option String := none
  flagged : Bool := false
  clientCapturedAt : Option Instant := none
  createdAt : Instant

instance : Keyed FuelTank := ⟨FuelTank.id⟩
instance : Keyed FuelMovement := ⟨FuelMovement.id⟩
instance : Keyed VehicleRefuel := ⟨VehicleRefuel.id⟩
instance : Keyed FuelLog := ⟨FuelLog.id⟩

structure Depot extends Fleet where
  fuelTanks : Table FuelTank := ∅
  fuelMovements : Table FuelMovement := ∅
  vehicleRefuels : Table VehicleRefuel := ∅
  fuelLogs : Table FuelLog := ∅

/-! ## What the database checks -/

/-- `NUMERIC(16, 2)`. -/
def fitsCost (c : Int) : Bool := -10 ^ 16 < c && c < 10 ^ 16

/-- `NUMERIC(14, 2)`, as the liters of a tank. -/
def fitsLiters (c : Int) : Bool := fitsPayment c

def FuelTank.ok (t : FuelTank) : Bool :=
  fitsLiters t.capacityLiters && fitsLiters t.currentStockLiters && fitsLiters t.averageUnitCost

def FuelMovement.ok (m : FuelMovement) : Bool :=
  fitsLiters m.liters && fitsLiters m.balanceAfterLiters && m.unitCost.all fitsLiters &&
    m.totalCost.all fitsCost

def VehicleRefuel.ok (r : VehicleRefuel) : Bool :=
  fitsLiters r.liters && r.unitCost.all fitsLiters && r.totalCost.all fitsCost

/-- The columns hold the texts of a log. -/
def fuelTextsFit (stationName : Option String) (fuelType : String)
    (paymentMethod paymentReference : Option String) : Bool :=
  stationName.all (fun t => decide (t.length ≤ 160)) && decide (fuelType.length ≤ 30) &&
    paymentMethod.all (fun t => decide (t.length ≤ 60)) &&
    paymentReference.all fun t => decide (t.length ≤ 120)

def FuelLog.ok (l : FuelLog) : Bool :=
  0 < l.liters && fitsPayload l.liters && l.pricePerLiter.all (fun p => decide (|p| < 10 ^ 10)) &&
    fitsMoney l.totalCost && 0 ≤ l.kmAtRefuel && l.kmSinceLast.all (0 ≤ ·) &&
    l.consumption.all fitsPayload && l.kmAtRefuel < 2 ^ 31 &&
    fuelTextsFit l.stationName l.fuelType l.paymentMethod l.paymentReference

def Depot.ok (s : Depot) : Bool :=
  s.toFleet.ok && s.fuelTanks.rows.all FuelTank.ok && s.fuelMovements.rows.all FuelMovement.ok &&
    s.vehicleRefuels.rows.all VehicleRefuel.ok && s.fuelLogs.rows.all FuelLog.ok

instance : Store Depot Exc := ⟨Depot.ok, .integrityError⟩

/-! ## Movements -/

/-- What a movement is asked for. -/
structure FuelMovementRequest where
  tankId : UUID
  movementType : String
  direction : String
  liters : ℚ
  sourceType : String
  sourceId : UUID
  occurredAt : Instant
  unitCost : Option ℚ := none
  notes : Option String := none

def fuelTankNotFound : Exc := notFound "fuel_tank_not_found" "Active fuel tank not found."

/-- The tenant's tank, if it is active. -/
def requireTank (tenantId tankId : UUID) (s : Depot) : Except Exc FuelTank := do
  let tank ← require (s.fuelTanks.get tankId) fuelTankNotFound
  raiseIf (tank.tenantId ≠ tenantId || tank.status ≠ "active") fuelTankNotFound
  return tank

/-- The price of a movement: the one given, or what the tank's fuel cost when fuel leaves it. -/
def fuelUnitCost (tank : FuelTank) (r : FuelMovementRequest) : Option Int :=
  match r.unitCost with
  | some cost => some (quantize 2 cost)
  | none => if r.direction = "out" then some tank.averageUnitCost else none

/-- A price times a quantity, in units and unrounded. -/
def fuelCost (unitCost liters : Int) : ℚ := (unitCost : ℚ) / 100 * ((liters : ℚ) / 100)

/-- The stock after a movement, and the average cost of it after fuel of a known price came in. -/
def FuelTank.move (tank : FuelTank) (direction : String) (liters newBalance : Int)
    (unitCost : Option Int) : FuelTank :=
  { tank with
    currentStockLiters := newBalance
    averageUnitCost :=
      match unitCost with
      | some cost =>
        if direction = "in" ∧ 0 < newBalance then
          numeric 2 ((fuelCost tank.averageUnitCost tank.currentStockLiters + fuelCost cost liters) /
            ((newBalance : ℚ) / 100))
        else tank.averageUnitCost
      | none => tank.averageUnitCost }

/-- The movement, whose cost is still unrounded, is answered with its price. -/
structure Moved where
  movementId : UUID
  unitCost : Option Int
  totalCost : Option ℚ

def recordFuelMovement (tenantId : UUID) (r : FuelMovementRequest) (actorId : Option UUID) (s : Depot) :
    Except Exc (Moved × Depot) := do
  let quantity := quantize 2 r.liters
  raiseIf (quantity ≤ 0)
    (unprocessable "invalid_fuel_quantity" "Fuel movement liters must be greater than zero.")
  raiseIf (r.direction ∉ ["in", "out"])
    (unprocessable "invalid_fuel_direction" "Fuel movement direction must be in or out.")
  let tank ← requireTank tenantId r.tankId s
  let newBalance :=
    if r.direction = "in" then tank.currentStockLiters + quantity
    else tank.currentStockLiters - quantity
  raiseIf (newBalance < 0)
    (conflict "insufficient_fuel_stock" "Fuel tank does not have enough stock."
      [("tank_id", .uuid tank.id),
        ("available_liters", .number ((tank.currentStockLiters : ℚ) / 100)),
        ("requested_liters", .number ((quantity : ℚ) / 100))])
  raiseIf (tank.capacityLiters < newBalance)
    (conflict "fuel_tank_capacity_exceeded" "Fuel receipt would exceed tank capacity.")
  let unitCost := fuelUnitCost tank r
  let totalCost := unitCost.map (fuelCost · quantity)
  let movement (id : UUID) : FuelMovement :=
    { id, tenantId, tankId := tank.id, movementType := r.movementType, direction := r.direction
      liters := quantity, balanceAfterLiters := newBalance, unitCost
      totalCost := totalCost.map (numeric 2), sourceType := r.sourceType, sourceId := r.sourceId
      occurredAt := r.occurredAt, recordedBy := actorId, notes := r.notes }
  return ({ movementId := s.fuelMovements.freshKey, unitCost, totalCost },
    { s with
      fuelMovements := s.fuelMovements.insert movement
      fuelTanks := s.fuelTanks.modify tank.id (·.move r.direction quantity newBalance unitCost) })

theorem recordFuelMovement_eq_ok {tenantId : UUID} {r : FuelMovementRequest} {actorId : Option UUID}
    {s p : Depot} {moved : Moved} (h : recordFuelMovement tenantId r actorId s = .ok (moved, p)) :
    ∃ fuelMovements fuelTanks, p = { s with fuelMovements, fuelTanks } := by
  simp only [recordFuelMovement, bind_eq_ok, pure, Except.pure, Except.ok.injEq, Prod.mk.injEq] at h
  obtain ⟨_, _, _, _, _, _, _, _, _, _, _, rfl⟩ := h
  exact ⟨_, _, rfl⟩

/-! ## Refuels -/

structure VehicleRefuelCreate where
  tankId : UUID
  vehicleId : UUID
  driverId : UUID
  tripId : Option UUID := none
  liters : ℚ
  odometerReading : Int
  refueledAt : Instant
  notes : Option String := none

/-- The vehicle of the tenant that takes fuel. -/
def requireRefuelVehicle (tenantId vehicleId : UUID) (s : Depot) : Except Exc Vehicle := do
  let missing := notFound "vehicle_not_found" "Vehicle not found or inactive."
  let vehicle ← require (s.vehicles.get vehicleId) missing
  raiseIf (vehicle.tenantId ≠ tenantId || vehicle.status ∉ ["active", "maintenance"]) missing
  return vehicle

def requireRefuelDriver (tenantId driverId : UUID) (s : Depot) : Except Exc Driver := do
  let missing := notFound "driver_not_found" "Driver not found or inactive."
  let driver ← require (s.drivers.get driverId) missing
  raiseIf (driver.tenantId ≠ tenantId || driver.status ≠ "active") missing
  return driver

/-- The trip of the refuel, if it names one. -/
def requireRefuelTrip (tenantId : UUID) (tripId : Option UUID) (s : Depot) : Except Exc Unit :=
  match tripId with
  | some tripId => do
    let _ ← requireTrip tenantId tripId s.toDb
    return ()
  | none => return ()

def newRefuel (tenantId : UUID) (payload : VehicleRefuelCreate) (moved : Moved) (id : UUID) :
    VehicleRefuel :=
  { id, tenantId, tankId := payload.tankId, vehicleId := payload.vehicleId
    driverId := payload.driverId, tripId := payload.tripId, liters := numeric 2 payload.liters
    odometerReading := payload.odometerReading, refueledAt := payload.refueledAt
    unitCost := moved.unitCost, totalCost := moved.totalCost.map (numeric 2)
    movementId := some moved.movementId, notes := payload.notes }

/-- `trip.total_fuel_cost` is added to; nothing reconciles the trip. -/
def refuelledTrip (cost : ℚ) (trip : Trip) : Trip :=
  { trip with totalFuelCost := trip.totalFuelCost + quantize 2 cost }

/-- The trip the refuel is for pays for the fuel. -/
def refuelTrips (tripId : Option UUID) (cost : Option ℚ) (trips : Table Trip) : Table Trip :=
  match tripId, cost with
  | some tripId, some cost => trips.modify tripId (refuelledTrip cost)
  | _, _ => trips

/-- The odometer of the vehicle only goes forward. -/
def advanceOdometer (vehicleId : UUID) (reading : Int) (vehicles : Table Vehicle) : Table Vehicle :=
  vehicles.modify vehicleId fun v => { v with currentKm := max v.currentKm reading }

def createVehicleRefuel (tenantId : UUID) (payload : VehicleRefuelCreate) (actorId : Option UUID)
    (s : Depot) : Except Exc (UUID × Depot) := do
  let tank ← requireTank tenantId payload.tankId s
  let vehicle ← requireRefuelVehicle tenantId payload.vehicleId s
  let _ ← requireRefuelDriver tenantId payload.driverId s
  requireRefuelTrip tenantId payload.tripId s
  raiseIf (payload.odometerReading < vehicle.currentKm)
    (conflict "odometer_regression" "Refuel odometer cannot regress.")
  let refuelId := s.vehicleRefuels.freshKey
  let (moved, s) ← recordFuelMovement tenantId
    { tankId := tank.id, movementType := "vehicle_refuel", direction := "out"
      liters := payload.liters, sourceType := "vehicle_refuel", sourceId := refuelId
      occurredAt := payload.refueledAt, notes := payload.notes } actorId s
  return (refuelId, { s with
    vehicleRefuels := s.vehicleRefuels.insert (newRefuel tenantId payload moved)
    trips := refuelTrips payload.tripId moved.totalCost s.trips
    vehicles := advanceOdometer payload.vehicleId payload.odometerReading s.vehicles })

/-- A refuel writes its row, the movement and its tank, the odometer, and the fuel of its trip. -/
theorem createVehicleRefuel_eq_ok {tenantId a : UUID} {payload : VehicleRefuelCreate}
    {actorId : Option UUID} {s p : Depot}
    (h : createVehicleRefuel tenantId payload actorId s = .ok (a, p)) :
    ∃ cost vehicleRefuels vehicles fuelMovements fuelTanks,
      p = { s with
        vehicleRefuels, vehicles, fuelMovements, fuelTanks
        trips := refuelTrips payload.tripId cost s.trips } := by
  simp only [createVehicleRefuel, bind_eq_ok, Prod.exists, pure, Except.pure, Except.ok.injEq,
    Prod.mk.injEq] at h
  obtain ⟨_, _, _, _, _, _, _, _, _, _, moved, _, hmove, _, rfl⟩ := h
  obtain ⟨_, _, rfl⟩ := recordFuelMovement_eq_ok hmove
  exact ⟨moved.totalCost, _, _, _, _, rfl⟩

/-! ## Logs -/

structure FuelLogCreate where
  vehicleId : UUID
  driverId : UUID
  fuelDate : Instant
  stationName : Option String := none
  fuelType : String := "gasoleo"
  liters : ℚ
  pricePerLiter : Option ℚ := none
  totalCost : ℚ
  kmAtRefuel : Int
  receiptFileId : Option UUID := none
  odometerFileId : Option UUID := none
  paymentMethod : Option String := none
  paymentReference : Option String := none
  clientCapturedAt : Option Instant := none

/-- `ANOMALY_FACTOR`. -/
def anomalyFactor : ℚ := 12 / 10

/-- `_previous_fuel_log`: the last by date, and the one logged last among several of a date. -/
def previousFuelLog (tenantId vehicleId : UUID) (fuelDate : Instant) (kmAtRefuel : Int)
    (s : Depot) : Option FuelLog :=
  let earlier := s.fuelLogs.rows.filter fun l => l.tenantId = tenantId && l.vehicleId = vehicleId &&
    l.fuelDate < fuelDate && l.kmAtRefuel < kmAtRefuel
  (latestBy FuelLog.fuelDate earlier).bind fun last =>
    latestBy FuelLog.createdAt (earlier.filter (·.fuelDate = last.fuelDate))

/-- `_historical_consumption_average`. -/
def historicalConsumptionAverage (tenantId vehicleId : UUID) (s : Depot) : Option ℚ :=
  let consumptions := (s.fuelLogs.rows.filter fun l =>
    l.tenantId = tenantId && l.vehicleId = vehicleId).filterMap FuelLog.consumption
  if consumptions = [] then none
  else some ((consumptions.sum : ℚ) / 100 / consumptions.length)

/-- `round((liters / km) * 100, 2)`. -/
def calculateConsumption (liters : ℚ) (kmSinceLast : Option Int) : Option Int :=
  kmSinceLast.bind fun km => if km ≤ 0 then none else some (quantize 2 (liters / km * 100))

def isAnomaly (consumption : Option Int) (historicalAverage vehicleTarget : Option ℚ) : Bool :=
  match consumption with
  | none => false
  | some c =>
    let exceeds (limit : ℚ) : Bool := limit ≠ 0 && decide (limit * anomalyFactor < (c : ℚ) / 100)
    historicalAverage.any exceeds || vehicleTarget.any exceeds

def createFuelLog (now : Instant) (tenantId : UUID) (payload : FuelLogCreate) (s : Depot) :
    Except Exc (UUID × Depot) := do
  let vehicle ← requireRefuelVehicle tenantId payload.vehicleId s
  raiseIf (vehicle.ownershipType ≠ "fleet")
    (conflict "invalid_vehicle_ownership" "Fuel logs can only be recorded for fleet vehicles.")
  let _ ← requireRefuelDriver tenantId payload.driverId s
  raiseIf (payload.liters ≤ 0)
    (unprocessable "invalid_fuel_liters" "Fuel liters must be greater than zero.")
  raiseIf (payload.totalCost < 0)
    (unprocessable "invalid_fuel_cost" "Fuel total cost cannot be negative.")
  raiseIf (payload.kmAtRefuel < vehicle.currentKm)
    (conflict "odometer_regression" "Fuel odometer cannot be lower than current vehicle km."
      [("current_km", .number vehicle.currentKm), ("km_at_refuel", .number payload.kmAtRefuel)])
  let previous := previousFuelLog tenantId payload.vehicleId payload.fuelDate payload.kmAtRefuel s
  let kmSinceLast := previous.bind fun l =>
    if l.kmAtRefuel < payload.kmAtRefuel then some (payload.kmAtRefuel - l.kmAtRefuel) else none
  let consumption := calculateConsumption payload.liters kmSinceLast
  let flagged := isAnomaly consumption (historicalConsumptionAverage tenantId payload.vehicleId s)
    (vehicle.avgConsumptionTarget.map fun target => (target : ℚ) / 100)
  let log (id : UUID) : FuelLog :=
    { id, tenantId, vehicleId := payload.vehicleId, driverId := payload.driverId
      fuelDate := payload.fuelDate, stationName := payload.stationName
      fuelType := payload.fuelType, liters := numeric 2 payload.liters
      pricePerLiter := payload.pricePerLiter.map (numeric 2)
      totalCost := numeric 2 payload.totalCost, kmAtRefuel := payload.kmAtRefuel
      kmSinceLast, consumption, receiptFileId := payload.receiptFileId
      odometerFileId := payload.odometerFileId, paymentMethod := payload.paymentMethod
      paymentReference := payload.paymentReference, flagged
      clientCapturedAt := payload.clientCapturedAt, createdAt := now }
  return (s.fuelLogs.freshKey, { s with
    fuelLogs := s.fuelLogs.insert log
    vehicles := advanceOdometer payload.vehicleId payload.kmAtRefuel s.vehicles })

end Rotas
