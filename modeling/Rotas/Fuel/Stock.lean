import Rotas.Fuel.Operations

/-!
# Rotas.Fuel.Stock

The stock of tanks: purchases, their receipts, and counts of what is in a tank. Liters and prices
count hundredths.

* `PyFloat`  — a float of a payload, which `_decimal` and the columns read in different ways.
* `FuelYard` — the depot with its purchases, receipts and counts.
* `createVerifiedReceipt` — fuel of a purchase into a tank.
* `createStockCount`, `approveStockAdjustment` — a measurement, and the movement that books it.
* `FuelCall` — a call of a run.
-/

namespace Rotas

open Work Decimal

/-- A float as it is written by `str`, which is what `_decimal` reads, and as it is sent to a
column. -/
structure PyFloat where
  shown : ℚ
  sent : ℚ
  /-- `str` writes the shortest number that reads back as the float, so that no short number, such
  as half a hundredth, lies between the two. -/
  shortest : 1 / 200 < shown → 1 / 200 ≤ sent

/-- A float that is the number it is written as. -/
def PyFloat.exact (q : ℚ) : PyFloat := ⟨q, q, le_of_lt⟩

/-- `_decimal`. -/
def PyFloat.rounded (x : PyFloat) : Int := quantize 2 x.shown

/-- What a `NUMERIC(_, 2)` column stores. -/
def PyFloat.stored (x : PyFloat) : Int := numeric 2 x.sent

/-! ## Rows -/

structure FuelPurchase where
  id : UUID
  tenantId : UUID
  supplierName : String
  purchaseReference : String
  fuelType : String := "gasoleo"
  orderedLiters : Int
  unitPrice : Int
  totalCost : Int
  status : String := "pending"
  orderedAt : Instant
  approvedBy : Option UUID := none
  approvedAt : Option Instant := none
  notes : Option String := none

structure FuelReceipt where
  id : UUID
  tenantId : UUID
  purchaseId : UUID
  tankId : UUID
  receivedLiters : Int
  receivedAt : Instant
  deliveryNoteNumber : Option String := none
  status : String := "verified"
  verifiedBy : Option UUID := none
  movementId : Option UUID := none
  notes : Option String := none

structure FuelStockCount where
  id : UUID
  tenantId : UUID
  tankId : UUID
  theoreticalLiters : Int
  measuredLiters : Int
  varianceLiters : Int
  countedAt : Instant
  countedBy : Option UUID := none
  adjustmentStatus : String := "pending"
  adjustmentMovementId : Option UUID := none
  adjustmentApprovedBy : Option UUID := none
  adjustmentApprovedAt : Option Instant := none
  notes : Option String := none

instance : Keyed FuelPurchase := ⟨FuelPurchase.id⟩
instance : Keyed FuelReceipt := ⟨FuelReceipt.id⟩
instance : Keyed FuelStockCount := ⟨FuelStockCount.id⟩

structure FuelYard extends Depot where
  fuelPurchases : Table FuelPurchase := ∅
  fuelReceipts : Table FuelReceipt := ∅
  fuelStockCounts : Table FuelStockCount := ∅

/-! ## What the database checks -/

/-- The levels of a tank, as they are checked. -/
def FuelTank.levels (t : FuelTank) : Bool :=
  decide (0 < t.capacityLiters) &&
    decide (0 ≤ t.minimumStockLiters ∧ t.minimumStockLiters ≤ t.capacityLiters) &&
    decide (0 ≤ t.currentStockLiters ∧ t.currentStockLiters ≤ t.capacityLiters)

def FuelPurchase.ok (p : FuelPurchase) : Bool :=
  fitsLiters p.orderedLiters && fitsLiters p.unitPrice && fitsCost p.totalCost &&
    decide (0 < p.orderedLiters ∧ 0 ≤ p.unitPrice)

def FuelStockCount.ok (c : FuelStockCount) : Bool :=
  fitsLiters c.theoreticalLiters && fitsLiters c.measuredLiters && fitsLiters c.varianceLiters &&
    decide (0 ≤ c.measuredLiters)

def FuelYard.ok (s : FuelYard) : Bool :=
  s.toDepot.ok && s.fuelTanks.rows.all FuelTank.levels && s.fuelPurchases.rows.all FuelPurchase.ok &&
    (s.fuelMovements.rows.all fun m => decide (0 < m.liters ∧ 0 ≤ m.balanceAfterLiters)) &&
    (s.fuelReceipts.rows.all fun r => fitsLiters r.receivedLiters && decide (0 < r.receivedLiters)) &&
    (s.vehicleRefuels.rows.all fun r => decide (0 < r.liters)) &&
    s.fuelStockCounts.rows.all FuelStockCount.ok

instance : Store FuelYard Exc := ⟨FuelYard.ok, .integrityError⟩

/-! ## Tanks -/

structure FuelTankCreate where
  code : String
  name : String
  fuelType : String := "gasoleo"
  capacityLiters : PyFloat
  minimumStockLiters : PyFloat := .exact 0
  location : Option String := none

def newTank (tenantId : UUID) (payload : FuelTankCreate) (id : UUID) : FuelTank :=
  { id, tenantId, code := payload.code, name := payload.name, fuelType := payload.fuelType
    capacityLiters := payload.capacityLiters.stored
    minimumStockLiters := payload.minimumStockLiters.stored, location := payload.location }

def createTank (tenantId : UUID) (payload : FuelTankCreate) (s : FuelYard) :
    Except Exc (UUID × FuelYard) := do
  let capacity := payload.capacityLiters.rounded
  let minimum := payload.minimumStockLiters.rounded
  raiseIf (capacity ≤ 0 || minimum < 0 || capacity < minimum)
    (unprocessable "invalid_fuel_tank_capacity" "Tank capacity and minimum stock are invalid.")
  raiseIf (s.fuelTanks.rows.any fun t => t.tenantId = tenantId && t.code = payload.code)
    (conflict "fuel_tank_code_exists" "Fuel tank code already exists.")
  return (s.fuelTanks.freshKey,
    { s with fuelTanks := s.fuelTanks.insert (newTank tenantId payload) })

/-! ## Purchases -/

structure FuelPurchaseCreate where
  supplierName : String
  purchaseReference : String
  fuelType : String := "gasoleo"
  orderedLiters : PyFloat
  unitPrice : PyFloat
  orderedAt : Instant
  notes : Option String := none

def newPurchase (tenantId : UUID) (payload : FuelPurchaseCreate) (id : UUID) : FuelPurchase :=
  { id, tenantId, supplierName := payload.supplierName
    purchaseReference := payload.purchaseReference, fuelType := payload.fuelType
    orderedLiters := payload.orderedLiters.stored, unitPrice := payload.unitPrice.stored
    totalCost := numeric 2 (fuelCost payload.unitPrice.rounded payload.orderedLiters.rounded)
    orderedAt := payload.orderedAt, notes := payload.notes }

def createPurchase (tenantId : UUID) (payload : FuelPurchaseCreate) (s : FuelYard) :
    Except Exc (UUID × FuelYard) := do
  raiseIf (payload.orderedLiters.rounded ≤ 0 || payload.unitPrice.rounded < 0)
    (unprocessable "invalid_fuel_purchase"
      "Purchase liters must be positive and unit price cannot be negative.")
  raiseIf (s.fuelPurchases.rows.any fun p =>
      p.tenantId = tenantId && p.purchaseReference = payload.purchaseReference)
    (conflict "fuel_purchase_reference_exists" "Fuel purchase reference already exists.")
  return (s.fuelPurchases.freshKey,
    { s with fuelPurchases := s.fuelPurchases.insert (newPurchase tenantId payload) })

/-- The tenant's purchase. -/
def requirePurchase (tenantId purchaseId : UUID) (s : FuelYard) : Except Exc FuelPurchase :=
  require ((s.fuelPurchases.get purchaseId).filter (·.tenantId = tenantId))
    (notFound "fuel_purchase_not_found" "Fuel purchase not found.")

def approvePurchase (now : Instant) (tenantId purchaseId : UUID) (actorId : Option UUID)
    (s : FuelYard) : Except Exc (UUID × FuelYard) := do
  let purchase ← requirePurchase tenantId purchaseId s
  if purchase.status = "approved" then return (purchase.id, s)
  else do
    raiseIf (purchase.status ≠ "pending")
      (conflict "invalid_fuel_purchase_status" "Purchase cannot be approved.")
    return (purchase.id, { s with
      fuelPurchases := s.fuelPurchases.modify purchase.id fun p => { p with
        status := "approved", approvedBy := actorId, approvedAt := some now } })

/-! ## Receipts -/

structure FuelReceiptCreate where
  purchaseId : UUID
  tankId : UUID
  receivedLiters : PyFloat
  receivedAt : Instant
  deliveryNoteNumber : Option String := none
  notes : Option String := none

/-- What the verified receipts of a purchase add up to. -/
def FuelYard.receivedBefore (tenantId purchaseId : UUID) (s : FuelYard) : Int :=
  s.fuelReceipts.sumWhere (fun r => r.tenantId = tenantId && r.purchaseId = purchaseId &&
    r.status = "verified") FuelReceipt.receivedLiters

def newReceipt (tenantId : UUID) (payload : FuelReceiptCreate) (actorId : Option UUID)
    (movementId id : UUID) : FuelReceipt :=
  { id, tenantId, purchaseId := payload.purchaseId, tankId := payload.tankId
    receivedLiters := payload.receivedLiters.stored, receivedAt := payload.receivedAt
    deliveryNoteNumber := payload.deliveryNoteNumber, verifiedBy := actorId
    movementId := some movementId, notes := payload.notes }

/-- A purchase whose liters are all there is received. -/
def receivePurchase (purchase : FuelPurchase) (receivedAfter : Int) (purchases : Table FuelPurchase) :
    Table FuelPurchase :=
  if receivedAfter = purchase.orderedLiters then
    purchases.modify purchase.id fun p => { p with status := "received" }
  else purchases

def createVerifiedReceipt (tenantId : UUID) (payload : FuelReceiptCreate) (actorId : Option UUID)
    (s : FuelYard) : Except Exc (UUID × FuelYard) := do
  let purchase ← requirePurchase tenantId payload.purchaseId s
  raiseIf ((truthy payload.deliveryNoteNumber).any fun number => s.fuelReceipts.rows.any fun r =>
      r.tenantId = tenantId && r.purchaseId = purchase.id && r.deliveryNoteNumber = some number)
    (conflict "fuel_receipt_delivery_note_exists"
      "Fuel receipt delivery note already exists for this purchase.")
  raiseIf (purchase.status ≠ "approved")
    (conflict "fuel_purchase_not_approved" "Fuel purchase must be approved before receipt.")
  let tank ← requireTank tenantId payload.tankId s.toDepot
  raiseIf (tank.fuelType ≠ purchase.fuelType)
    (conflict "fuel_type_mismatch" "Tank and purchase fuel types differ.")
  let receivedAfter := s.receivedBefore tenantId purchase.id + payload.receivedLiters.rounded
  raiseIf (purchase.orderedLiters < receivedAfter)
    (conflict "fuel_receipt_exceeds_purchase"
      "Verified fuel receipts cannot exceed purchased liters.")
  let receiptId := s.fuelReceipts.freshKey
  let (moved, depot) ← recordFuelMovement tenantId
    { tankId := tank.id, movementType := "purchase_receipt", direction := "in"
      liters := payload.receivedLiters.shown, sourceType := "fuel_receipt", sourceId := receiptId
      occurredAt := payload.receivedAt, unitCost := some ((purchase.unitPrice : ℚ) / 100)
      notes := payload.notes } actorId s.toDepot
  return (receiptId, { s with
    toDepot := depot
    fuelReceipts := s.fuelReceipts.insert (newReceipt tenantId payload actorId moved.movementId)
    fuelPurchases := receivePurchase purchase receivedAfter s.fuelPurchases })

/-! ## Counts -/

structure FuelStockCountCreate where
  tankId : UUID
  measuredLiters : PyFloat
  countedAt : Instant
  notes : Option String := none

def newStockCount (tenantId : UUID) (payload : FuelStockCountCreate) (actorId : Option UUID)
    (theoretical : Int) (id : UUID) : FuelStockCount :=
  { id, tenantId, tankId := payload.tankId, theoreticalLiters := theoretical
    measuredLiters := payload.measuredLiters.stored
    varianceLiters := payload.measuredLiters.rounded - theoretical
    countedAt := payload.countedAt, countedBy := actorId
    adjustmentStatus :=
      if payload.measuredLiters.rounded = theoretical then "not_required" else "pending"
    notes := payload.notes }

def createStockCount (tenantId : UUID) (payload : FuelStockCountCreate) (actorId : Option UUID)
    (s : FuelYard) : Except Exc (UUID × FuelYard) := do
  let tank ← requireTank tenantId payload.tankId s.toDepot
  let measured := payload.measuredLiters.rounded
  raiseIf (measured < 0 || tank.capacityLiters < measured)
    (unprocessable "invalid_stock_count" "Measured stock is outside tank capacity.")
  return (s.fuelStockCounts.freshKey, { s with
    fuelStockCounts :=
      s.fuelStockCounts.insert (newStockCount tenantId payload actorId tank.currentStockLiters) })

def approveStockAdjustment (now : Instant) (tenantId stockCountId : UUID) (actorId : Option UUID)
    (notes : Option String) (s : FuelYard) : Except Exc (UUID × FuelYard) := do
  let count ← require ((s.fuelStockCounts.get stockCountId).filter (·.tenantId = tenantId))
    (notFound "fuel_stock_count_not_found" "Fuel stock count not found.")
  if count.adjustmentStatus = "approved" then return (count.id, s)
  else do
    raiseIf (count.adjustmentStatus ≠ "pending")
      (conflict "fuel_stock_adjustment_not_required"
        "Fuel stock count does not require an adjustment.")
    raiseIf (actorId.isSome && actorId = count.countedBy)
      (conflict "fuel_stock_adjustment_role_conflict"
        "Stock adjustment must be approved by a different user.")
    let (moved, depot) ← recordFuelMovement tenantId
      { tankId := count.tankId, movementType := "stock_adjustment"
        direction := if 0 < count.varianceLiters then "in" else "out"
        liters := (|count.varianceLiters| : ℚ) / 100, sourceType := "fuel_stock_count"
        sourceId := count.id, occurredAt := now
        notes := (truthy notes).or count.notes } actorId s.toDepot
    return (count.id, { s with
      toDepot := depot
      fuelStockCounts := s.fuelStockCounts.modify count.id fun c => { c with
        adjustmentStatus := "approved", adjustmentMovementId := some moved.movementId
        adjustmentApprovedBy := actorId, adjustmentApprovedAt := some now } })

/-! ## Calls -/

inductive FuelCall where
  | createTank (tenantId : UUID) (payload : FuelTankCreate)
  | createPurchase (tenantId : UUID) (payload : FuelPurchaseCreate)
  | approvePurchase (now : Instant) (tenantId purchaseId : UUID) (actorId : Option UUID)
  | createVerifiedReceipt (tenantId : UUID) (payload : FuelReceiptCreate) (actorId : Option UUID)
  | createVehicleRefuel (tenantId : UUID) (payload : VehicleRefuelCreate) (actorId : Option UUID)
  | createStockCount (tenantId : UUID) (payload : FuelStockCountCreate) (actorId : Option UUID)
  | approveStockAdjustment (now : Instant) (tenantId stockCountId : UUID) (actorId : Option UUID)
      (notes : Option String)

def FuelCall.run : FuelCall → FuelYard → Except Exc (UUID × FuelYard)
  | .createTank tenantId payload => Rotas.createTank tenantId payload
  | .createPurchase tenantId payload => Rotas.createPurchase tenantId payload
  | .approvePurchase now tenantId purchaseId actorId =>
    Rotas.approvePurchase now tenantId purchaseId actorId
  | .createVerifiedReceipt tenantId payload actorId =>
    Rotas.createVerifiedReceipt tenantId payload actorId
  | .createVehicleRefuel tenantId payload actorId => fun s =>
    (Rotas.createVehicleRefuel tenantId payload actorId s.toDepot).map fun (id, depot) =>
      (id, { s with toDepot := depot })
  | .createStockCount tenantId payload actorId => Rotas.createStockCount tenantId payload actorId
  | .approveStockAdjustment now tenantId stockCountId actorId notes =>
    Rotas.approveStockAdjustment now tenantId stockCountId actorId notes

/-- A call that is refused, by its checks or by the database, changes nothing. -/
def FuelYard.serve (s : FuelYard) (c : FuelCall) : FuelYard := perform c.run s

end Rotas
