import Rotas.Workshop.Data

/-!
# Rotas.Workshop.Movements

The movements of `workshop/service.py`.

* `record` — the writer of movements that are asked for by reference.
* `receiveSparePart`, `issueSparePartToWorkOrder` — the requests that go through it.
* `recordSparePartReceipt`, `installSerialItem`   — the requests that write by themselves.

`record` rounds quantities to hundredths, the others keep the thousandths of the stock.
-/

namespace Rotas

open Decimal

structure MovementRequest where
  inventoryId : UUID
  movementType : MovementType
  direction : Direction
  quantity : ℚ
  requestReference : String
  sourceType : String
  sourceId : Option UUID := none
  occurredAt : Instant
  actorId : Option UUID := none
  unitCost : Option ℚ := none
  notes : Option String := none

/-- `_decimal` of a quantity that has thousandths: hundredths, ties to even. -/
def decimalStock (thousandths : Int) : Int := quantize 2 ((thousandths : ℚ) / 1000)

theorem decimalStock_of_dvd {n : Int} (h : n % 10 = 0) : 10 * decimalStock n = n := by
  obtain ⟨k, rfl⟩ := Int.dvd_of_emod_eq_zero h
  have hq : ((10 * k : ℤ) : ℚ) / 1000 * 10 ^ 2 = k := by
    push_cast
    ring
  rw [decimalStock, quantize, hq, roundHalfEven_intCast]

def findSparePartMovement (tenantId : UUID) (requestReference : String) (db : Warehouse) :
    Option SparePartMovement :=
  db.movements.rows.find? fun m => m.tenantId = tenantId && m.requestReference = requestReference

/-- A reference that was used before must be for the same movement; `amount` is in hundredths. -/
def validateSparePartReplay (existing : SparePartMovement) (r : MovementRequest) (amount : Int) :
    Except Exc Unit :=
  raiseIf (existing.inventoryId ≠ r.inventoryId || existing.movementType ≠ r.movementType ||
      existing.direction ≠ r.direction || decimalStock existing.quantity ≠ amount ||
      r.unitCost.any fun c => quantize 2 c ≠ existing.unitCost.getD 0)
    (conflict "spare_part_request_reference_reused"
      "Request reference was reused with a different payload.")

/-- The part to move, if it is active. -/
def requireActivePart (tenantId inventoryId : UUID) (db : Warehouse) : Except Exc SparePart :=
  require ((db.part tenantId inventoryId).filter (·.status = .active))
    (notFound "spare_part_not_found" "Active spare part not found.")

theorem requireActivePart_eq_ok {tenantId inventoryId : UUID} {db : Warehouse} {part : SparePart}
    (h : requireActivePart tenantId inventoryId db = .ok part) :
    db.spareParts.get inventoryId = some part ∧ part.id = inventoryId := by
  simp only [requireActivePart, require_eq_ok, Option.filter_eq_some_iff] at h
  exact part_eq_some h.1

/-- The balance after a movement, in hundredths. -/
def newBalance (direction : Direction) (previousBalance amount : Int) : Int :=
  match direction with
  | .inward => previousBalance + amount
  | .outward => previousBalance - amount

/-- The unit cost of a movement: the one given, or the average of what goes out. -/
def movementUnitCost (r : MovementRequest) (part : SparePart) : Option Int :=
  match r.unitCost, r.direction with
  | some c, _ => some (quantize 2 c)
  | none, .outward => some part.averageUnitCost
  | none, .inward => none

/-- A receipt of known cost changes the average; other movements leave it. -/
def averageAfter (r : MovementRequest) (part : SparePart) (previousBalance amount : Int) : Int :=
  match r.direction, movementUnitCost r part with
  | .inward, some c =>
    if 0 < previousBalance + amount then
      numeric 2 (wacc (10 * previousBalance) part.averageUnitCost (10 * amount) c)
    else part.averageUnitCost
  | _, _ => part.averageUnitCost

def movementOf (tenantId : UUID) (r : MovementRequest) (part : SparePart) (amount balance : Int) :
    SparePartMovement where
  tenantId
  inventoryId := part.id
  movementType := r.movementType
  direction := r.direction
  quantity := 10 * amount
  balanceAfterQuantity := 10 * balance
  unitCost := movementUnitCost r part
  totalCost := (movementUnitCost r part).map fun c => numeric 2 (costOf (10 * amount) c)
  requestReference := r.requestReference
  sourceType := r.sourceType
  sourceId := r.sourceId
  occurredAt := r.occurredAt
  recordedBy := r.actorId
  notes := r.notes

/-- `SparePartMovementService.record`: a movement that is there is answered again, a new one takes
the stock rounded to hundredths for the previous balance. -/
def record (tenantId : UUID) (r : MovementRequest) (db : Warehouse) :
    Except Exc (SparePartMovement × Warehouse) := do
  let amount := quantize 2 r.quantity
  raiseIf (amount ≤ 0)
    (unprocessable "invalid_spare_part_quantity" "Quantity must be positive.")
  match findSparePartMovement tenantId r.requestReference db with
  | some existing =>
    validateSparePartReplay existing r amount
    return (existing, db)
  | none =>
    let part ← requireActivePart tenantId r.inventoryId db
    let previousBalance := decimalStock part.currentQuantity
    let balance := newBalance r.direction previousBalance amount
    raiseIf (balance < 0)
      (conflict "insufficient_spare_part_stock" "Spare part stock is insufficient."
        [("inventory_id", .uuid part.id), ("available_quantity", .number (previousBalance / 100)),
          ("requested_quantity", .number (amount / 100))])
    let movement := movementOf tenantId r part amount balance
    return ({ movement with id := db.movements.freshKey },
      db.post movement (averageAfter r part previousBalance amount))

/-- A recorded movement was recorded before, or is posted to its part. -/
theorem record_cases {tenantId : UUID} {r : MovementRequest} {m : SparePartMovement}
    {db p : Warehouse} (h : record tenantId r db = .ok (m, p)) :
    p = db ∨ ∃ part, findSparePartMovement tenantId r.requestReference db = none ∧
      requireActivePart tenantId r.inventoryId db = .ok part ∧
      p = db.post (movementOf tenantId r part (quantize 2 r.quantity)
          (newBalance r.direction (decimalStock part.currentQuantity) (quantize 2 r.quantity)))
        (averageAfter r part (decimalStock part.currentQuantity) (quantize 2 r.quantity)) := by
  simp only [record, bind_eq_ok] at h
  obtain ⟨_, _, h⟩ := h
  cases hfind : findSparePartMovement tenantId r.requestReference db with
  | some existing =>
    simp only [hfind, bind_eq_ok, pure, Except.pure, Except.ok.injEq, Prod.mk.injEq] at h
    obtain ⟨_, _, _, rfl⟩ := h
    exact .inl rfl
  | none =>
    simp only [hfind, bind_eq_ok, pure, Except.pure, Except.ok.injEq, Prod.mk.injEq] at h
    obtain ⟨part, hpart, _, _, _, rfl⟩ := h
    exact .inr ⟨part, rfl, hpart, rfl⟩

/-! ## Requests -/

structure SparePartReceiptCreate where
  inventoryId : UUID
  requestReference : String
  quantity : ℚ
  unitCost : ℚ
  occurredAt : Instant
  notes : Option String := none
  positive : 0 < quantity
  nonneg : 0 ≤ unitCost

structure MaintenancePartIssueCreate where
  inventoryId : UUID
  requestReference : String
  quantity : ℚ
  occurredAt : Instant
  notes : Option String := none
  positive : 0 < quantity

def receiveSparePart (tenantId : UUID) (payload : SparePartReceiptCreate) (actorId : Option UUID)
    (db : Warehouse) : Except Exc (UUID × Warehouse) := do
  let (movement, db) ← record tenantId
    { inventoryId := payload.inventoryId
      movementType := .receipt
      direction := .inward
      quantity := payload.quantity
      requestReference := payload.requestReference
      sourceType := "spare_part_receipt"
      occurredAt := payload.occurredAt
      actorId
      unitCost := some payload.unitCost
      notes := payload.notes } db
  return (movement.id, db)

def findPartUsed (tenantId : UUID) (requestReference : String) (db : Warehouse) :
    Option MaintenancePartUsed :=
  db.partsUsed.rows.find? fun u => u.tenantId = tenantId && u.requestReference = requestReference

def validateMaintenancePartReplay (existing : MaintenancePartUsed) (workOrderId : UUID)
    (payload : MaintenancePartIssueCreate) : Except Exc Unit :=
  raiseIf (existing.workOrderId ≠ workOrderId || existing.inventoryId ≠ payload.inventoryId ||
      decimalStock existing.quantity ≠ quantize 2 payload.quantity)
    (conflict "maintenance_part_request_reference_reused"
      "Request reference was reused with a different payload.")

def requireWorkOrder (tenantId workOrderId : UUID) (db : Warehouse) : Except Exc WorkOrder :=
  require ((db.workOrders.get workOrderId).filter (·.tenantId = tenantId))
    (notFound "work_order_not_found" "Work order not found.")

/-- `issuedAt` is the default of the column, the time of the transaction. -/
def usageOf (now : Instant) (tenantId workOrderId : UUID) (payload : MaintenancePartIssueCreate)
    (actorId : Option UUID) (id : UUID) : MaintenancePartUsed where
  id
  tenantId
  workOrderId
  inventoryId := payload.inventoryId
  requestReference := payload.requestReference
  quantity := 10 * quantize 2 payload.quantity
  issuedAt := some now
  issuedBy := actorId
  notes := payload.notes

def issueRequest (payload : MaintenancePartIssueCreate) (actorId : Option UUID) (usageId : UUID) :
    MovementRequest where
  inventoryId := payload.inventoryId
  movementType := .workOrderIssue
  direction := .outward
  quantity := payload.quantity
  requestReference := payload.requestReference
  sourceType := "maintenance_part_used"
  sourceId := some usageId
  occurredAt := payload.occurredAt
  actorId
  notes := payload.notes

/-- A part goes out to a work order in progress, whatever is reserved of it. -/
def issueSparePartToWorkOrder (now : Instant) (tenantId workOrderId : UUID)
    (payload : MaintenancePartIssueCreate) (actorId : Option UUID) (db : Warehouse) : Except Exc (UUID × Warehouse) := do
  match findPartUsed tenantId payload.requestReference db with
  | some existing =>
    validateMaintenancePartReplay existing workOrderId payload
    return (existing.id, db)
  | none =>
    let workOrder ← requireWorkOrder tenantId workOrderId db
    raiseIf (workOrder.status ≠ .inProgress)
      (conflict "invalid_work_order_status"
        "Spare parts can only be issued while work is in progress.")
    let usageId := db.partsUsed.freshKey
    let db := { db with
      partsUsed := db.partsUsed.insert (usageOf now tenantId workOrderId payload actorId) }
    let (movement, db) ← record tenantId (issueRequest payload actorId usageId) db
    return (usageId, { db with
      partsUsed := db.partsUsed.modify usageId fun u => { u with
        movementId := some movement.id
        unitCost := movement.unitCost
        totalCost := movement.totalCost } })

/-- An issue that was made before changes nothing; a new one goes through `record`. -/
theorem issueSparePart_cases {now : Instant} {tenantId workOrderId a : UUID}
    {payload : MaintenancePartIssueCreate}
    {actorId : Option UUID} {db p : Warehouse}
    (h : issueSparePartToWorkOrder now tenantId workOrderId payload actorId db = .ok (a, p)) :
    p = db ∨ findPartUsed tenantId payload.requestReference db = none ∧ ∃ m q used,
      record tenantId (issueRequest payload actorId db.partsUsed.freshKey)
        { db with
          partsUsed := db.partsUsed.insert (usageOf now tenantId workOrderId payload actorId) } =
            .ok (m, q) ∧
      p = { q with partsUsed := used } := by
  unfold issueSparePartToWorkOrder at h
  cases hfind : findPartUsed tenantId payload.requestReference db with
  | some existing =>
    simp only [hfind, bind_eq_ok, pure, Except.pure, Except.ok.injEq, Prod.mk.injEq] at h
    obtain ⟨_, _, _, rfl⟩ := h
    exact .inl rfl
  | none =>
    simp only [hfind, bind_eq_ok, pure, Except.pure, Except.ok.injEq, Prod.mk.injEq] at h
    obtain ⟨_, _, _, _, ⟨m, q⟩, hrec, _, rfl⟩ := h
    exact .inr ⟨rfl, m, q, _, hrec, rfl⟩

/-- A receipt that is booked at once; its quantity and cost are rounded, the stock is not. -/
def recordSparePartReceipt (tenantId : UUID) (payload : SparePartReceiptCreate)
    (actorId : Option UUID) (db : Warehouse) : Except Exc (UUID × Warehouse) := do
  -- the status stands in the place of the message here
  let part ← require (db.part tenantId payload.inventoryId)
    (.api { code := "PART_NOT_FOUND", message := "404" })
  let quantity := 10 * quantize 2 payload.quantity
  let unitCost := quantize 2 payload.unitCost
  let newQty := part.currentQuantity + quantity
  let average := if 0 < newQty then
    numeric 2 (wacc part.currentQuantity part.averageUnitCost quantity unitCost)
    else part.averageUnitCost
  return (db.movements.freshKey, db.post
    { tenantId
      inventoryId := part.id
      movementType := .receipt
      direction := .inward
      quantity
      balanceAfterQuantity := newQty
      unitCost := some unitCost
      totalCost := some (numeric 2 (costOf quantity unitCost))
      requestReference := payload.requestReference
      sourceType := "manual_receipt"
      occurredAt := payload.occurredAt
      recordedBy := actorId
      notes := payload.notes } average)

/-- A serial item goes from the stock to a vehicle, with one unit of its part. -/
def installSerialItem [Rendering] (now : Instant) (tenantId serialId vehicleId : UUID)
    (db : Warehouse) : Except Exc (UUID × Warehouse) := do
  let item ← require ((db.serialItems.get serialId).filter (·.tenantId = tenantId))
    (notFound "serial_item_not_found" "Serial item not found")
  raiseIf (item.status ≠ .inStock)
    (conflict "serial_item_not_in_stock" "Serial item is not available for installation")
  -- the foreign key of `part_id` keeps its part from missing
  let part ← require (db.spareParts.get item.partId) .typeError
  let db := { db with
    serialItems := db.serialItems.modify serialId fun i => { i with
      status := .installed
      vehicleId := some vehicleId
      installedAt := some now } }
  return (serialId, db.post
    { tenantId
      inventoryId := item.partId
      movementType := .serialInstall
      direction := .outward
      quantity := 1000
      balanceAfterQuantity := part.currentQuantity - 1000
      unitCost := some part.averageUnitCost
      totalCost := some part.averageUnitCost
      requestReference := "serial-install-" ++ Rendering.str serialId
      sourceType := "spare_part_serial_item"
      sourceId := some serialId
      occurredAt := now } part.averageUnitCost)

end Rotas
