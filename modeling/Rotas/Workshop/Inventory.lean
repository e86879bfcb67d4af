import Rotas.Workshop.Data
import Rotas.Core.Text

/-!
# Rotas.Workshop.Inventory

The reservations and movements of `workshop/inventory_service.py`.

* `createPartReservations`, `releaseReservations` — what is promised to a quote or a work order.
* `issuePartsForWorkOrder` — an issue up to what is reserved; it uses the reservations up.
* `returnPartFromWorkOrder`, `recordInventoryAdjustment`, `receivePurchaseOrder` — movements that
  take no reservation into account.
* `cancelWorkOrder`        — releases what the order had reserved.

The numbers that the messages print are left out of them.
-/

namespace Rotas

open Decimal

/-- `Decimal(str(q)).quantize(Decimal("0.001"))`. -/
def thousandths (q : ℚ) : Int := quantize 3 q

/-- A unit cost times a quantity, quantized. -/
def totalCostOf (quantity unitCost : Int) : Int := quantize 2 (costOf quantity unitCost)

def requirePart (tenantId inventoryId : UUID) (db : Warehouse) : Except Exc SparePart :=
  require (db.part tenantId inventoryId)
    (notFound "part_not_found" "Spare part inventory item not found.")

theorem requirePart_eq_ok {tenantId inventoryId : UUID} {db : Warehouse} {part : SparePart}
    (h : requirePart tenantId inventoryId db = .ok part) :
    db.spareParts.get inventoryId = some part ∧ part.id = inventoryId := by
  simp only [requirePart, require_eq_ok] at h
  exact part_eq_some h

/-! ## Reservations -/

/-- The active reservations of a part, backorders apart. -/
def Warehouse.reserved (db : Warehouse) (tenantId inventoryId : UUID) : Int :=
  db.reservations.sumWhere (fun r => r.tenantId = tenantId && r.inventoryId = inventoryId &&
    r.status = .active) PartReservation.quantityReserved

/-- The reservation of one item of a quote, if its part is there; its quantity has thousandths. -/
def reserveItem (tenantId quoteId : UUID) (workOrderId : Option UUID) (qi : WorkshopQuoteItem)
    (db : Warehouse) : Warehouse :=
  match qi.partId with
  | none => db
  | some partId =>
    if qi.quantity ≤ 0 then db
    else
      match db.part tenantId partId with
      | none => db
      | some inv =>
        let avail := inv.currentQuantity - db.reserved tenantId partId
        { db with
          reservations := db.reservations.insert fun id =>
            { id, tenantId, inventoryId := partId, quoteId := some quoteId, workOrderId
              quantityReserved := 10 * qi.quantity
              status := if avail ≥ 10 * qi.quantity then .active else .activeBackorder } }

/-- The session flushes each reservation before the next item is checked. -/
def createPartReservations (tenantId quoteId : UUID) (workOrderId : Option UUID) (db : Warehouse) :
    Warehouse :=
  (db.quoteItems.rows.filter fun qi => qi.quoteId = quoteId && qi.tenantId = tenantId &&
    qi.itemType = .part && qi.partId.isSome).foldl
      (fun db qi => reserveItem tenantId quoteId workOrderId qi db) db

/-- A reservation that still holds stock, or waits for it. -/
def PartReservation.isOpen (r : PartReservation) : Bool :=
  r.status = .active || r.status = .activeBackorder

/-- Only the conditions that are given count. -/
def releaseReservations (tenantId : UUID) (quoteId workOrderId : Option UUID) (db : Warehouse) :
    Warehouse :=
  { db with
    reservations := db.reservations.modifyAll (fun r => r.tenantId = tenantId && r.isOpen &&
        quoteId.all (fun q => r.quoteId = some q) &&
        workOrderId.all (fun w => r.workOrderId = some w))
      fun r => { r with status := .released } }

/-! ## Issue -/

/-- The open reservations of a work order for a part, the oldest first. -/
def Warehouse.reservationsOf (db : Warehouse) (tenantId workOrderId inventoryId : UUID) :
    List PartReservation :=
  db.reservations.rows.filter fun r => r.tenantId = tenantId && r.workOrderId = some workOrderId &&
    r.inventoryId = inventoryId && r.isOpen

def Warehouse.setReservation (db : Warehouse) (id : UUID) (quantityReserved : Int)
    (status : ReservationStatus) : Warehouse :=
  { db with
    reservations := db.reservations.modify id fun r => { r with quantityReserved, status } }

/-- Uses up the reservations one after the other, and releases what is left of them. -/
def consume (tenantId workOrderId inventoryId : UUID) :
    List PartReservation → Int → Warehouse → Warehouse
  | [], _, db => db
  | res :: rest, remaining, db =>
    if remaining ≤ 0 then
      consume tenantId workOrderId inventoryId rest remaining
        (db.setReservation res.id res.quantityReserved .released)
    else if res.quantityReserved ≤ remaining then
      consume tenantId workOrderId inventoryId rest (remaining - res.quantityReserved)
        (db.setReservation res.id res.quantityReserved .consumed)
    else
      let db := db.setReservation res.id remaining .consumed
      consume tenantId workOrderId inventoryId rest 0 { db with
        reservations := db.reservations.insert fun id =>
          { id, tenantId, inventoryId, quoteId := res.quoteId, workOrderId := some workOrderId
            quantityReserved := res.quantityReserved - remaining
            status := .released } }

theorem consume_stock (tenantId workOrderId inventoryId : UUID) (rs : List PartReservation)
    (n : Int) (db : Warehouse) :
    (consume tenantId workOrderId inventoryId rs n db).spareParts = db.spareParts ∧
      (consume tenantId workOrderId inventoryId rs n db).movements = db.movements := by
  induction rs generalizing n db with
  | nil => exact ⟨rfl, rfl⟩
  | cons res rest ih =>
    unfold consume
    split
    · exact ih _ _
    · split
      · exact ih _ _
      · exact ih _ _

/-- A work order of the tenant that is neither closed nor cancelled. -/
def requireOpenOrder (tenantId workOrderId : UUID) (closed : WorkOrderStatus → Exc) (db : Warehouse) :
    Except Exc WorkOrder := do
  let wo ← require ((db.workOrders.get workOrderId).filter (·.tenantId = tenantId))
    (notFound "work_order_not_found" "Work order not found.")
  raiseIf (wo.status = .closed || wo.status = .cancelled) (closed wo.status)
  return wo

def orderNotActive (status : WorkOrderStatus) : Exc :=
  conflict "work_order_not_active" ("Work order is in status '" ++ status.text ++ "'.")

def insufficientStock : Exc := conflict "insufficient_stock" "Physical stock insufficient."

/-- What is asked for is there, and not more than is reserved. -/
def issuePartChecks (tenantId workOrderId inventoryId : UUID) (quantity : Int) (db : Warehouse) :
    Except Exc (WorkOrder × SparePart) := do
  raiseIf (quantity ≤ 0)
    (.api { code := "invalid_quantity", message := "Requested quantity must be positive." })
  let wo ← requireOpenOrder tenantId workOrderId orderNotActive db
  let inv ← requirePart tenantId inventoryId db
  raiseIf (inv.currentQuantity < quantity) insufficientStock
  let ceiling := ((db.reservationsOf tenantId workOrderId inventoryId).map
    PartReservation.quantityReserved).sum
  raiseIf (ceiling < quantity)
    (conflict "quantity_exceeds_approved_reservation"
      "Quantidade solicitada excede o tecto aprovado pelo cliente. Requer Orçamento Suplementar aprovado."
      [("approved_ceiling", .number (ceiling / 1000)), ("requested_quantity", .number (quantity / 1000))])
  return (wo, inv)

def issueMovement [Rendering] (now : Instant) (tenantId : UUID) (wo : WorkOrder) (inv : SparePart)
    (quantity : Int) (actorId : Option UUID) (notes : Option String) : SparePartMovement where
  tenantId
  inventoryId := inv.id
  movementType := .consumption
  direction := .outward
  quantity
  balanceAfterQuantity := inv.currentQuantity - quantity
  unitCost := some inv.averageUnitCost
  totalCost := some (totalCostOf quantity inv.averageUnitCost)
  requestReference := "ISSUE-WO-" ++ Rendering.hex8 wo.id ++ "-" ++ Rendering.hhmmss now
  sourceType := "work_order"
  sourceId := some wo.id
  occurredAt := now
  recordedBy := actorId
  notes := (truthy notes).or (some ("Entrega para OS " ++ wo.workOrderNumber))

def issuePartsForWorkOrder [Rendering] (now : Instant) (tenantId workOrderId inventoryId : UUID)
    (quantityRequested : ℚ) (actorId : Option UUID) (notes : Option String) (db : Warehouse) :
    Except Exc (UUID × Warehouse) := do
  let quantity := thousandths quantityRequested
  let (wo, inv) ← issuePartChecks tenantId workOrderId inventoryId quantity db
  let db := consume tenantId workOrderId inventoryId
    (db.reservationsOf tenantId workOrderId inventoryId) quantity db
  let movement := issueMovement now tenantId wo inv quantity actorId notes
  let movementId := db.movements.freshKey
  let db := db.post movement inv.averageUnitCost
  return (movementId, { db with
    partsUsed := db.partsUsed.insert fun id =>
      { id, tenantId, workOrderId, inventoryId
        movementId := some movementId
        requestReference := movement.requestReference
        quantity
        unitCost := movement.unitCost
        totalCost := movement.totalCost
        issuedAt := some now
        issuedBy := actorId
        notes } })

/-! ## Returns, adjustments and receipts -/

def alreadyBilled (message : String) : Exc := conflict "work_order_already_billed" message

/-- An invoice of the order is issued or paid. -/
def Warehouse.isBilled (db : Warehouse) (tenantId : UUID) (wo : WorkOrder) : Bool :=
  db.billingDocuments.rows.any fun d => d.tenantId = tenantId && d.documentSource = .workshop &&
    (d.status = .issued || d.status = .paid) && d.contractReference = some wo.workOrderNumber

def returnPartFromWorkOrder [Rendering] (now : Instant) (tenantId workOrderId inventoryId : UUID)
    (quantityToReturn : ℚ) (reason : String) (actorId : Option UUID) (db : Warehouse) :
    Except Exc (UUID × Warehouse) := do
  let quantity := thousandths quantityToReturn
  raiseIf (quantity ≤ 0)
    (.api { code := "invalid_quantity", message := "Return quantity must be positive." })
  let wo ← requireOpenOrder tenantId workOrderId (fun status => alreadyBilled
    ("Cannot return parts for a work order in status '" ++ status.text ++
      "'. Retifications must be handled via fiscal credit notes.")) db
  raiseIf (db.isBilled tenantId wo) (alreadyBilled
    "Cannot return parts for an issued/paid invoice. Retifications must be handled via fiscal credit notes.")
  let inv ← requirePart tenantId inventoryId db
  return (db.movements.freshKey, db.post
    { tenantId
      inventoryId := inv.id
      movementType := .partReturn
      direction := .inward
      quantity
      balanceAfterQuantity := inv.currentQuantity + quantity
      unitCost := some inv.averageUnitCost
      totalCost := some (totalCostOf quantity inv.averageUnitCost)
      requestReference := "RETURN-WO-" ++ Rendering.hex8 wo.id ++ "-" ++ Rendering.hhmmss now
      sourceType := "work_order"
      sourceId := some workOrderId
      occurredAt := now
      recordedBy := actorId
      notes := some ("Devolução da OS " ++ wo.workOrderNumber ++ ": " ++ reason) }
    inv.averageUnitCost)

/-- What an adjustment leaves. -/
def adjusted (direction : Direction) (currentQuantity quantity : Int) : Int :=
  match direction with
  | .inward => currentQuantity + quantity
  | .outward => currentQuantity - quantity

def recordInventoryAdjustment [Rendering] (now : Instant) (tenantId inventoryId : UUID)
    (quantityAdjusted : ℚ) (direction : Direction) (reason : String) (actorId : Option UUID)
    (db : Warehouse) : Except Exc (UUID × Warehouse) := do
  raiseIf (strip reason = "") (unprocessable "reason_required" "Adjustment reason is mandatory.")
  let quantity := thousandths quantityAdjusted
  raiseIf (quantity ≤ 0)
    (.api { code := "invalid_quantity", message := "Quantity must be positive." })
  let inv ← requirePart tenantId inventoryId db
  raiseIf (direction = .outward && inv.currentQuantity < quantity)
    (conflict "insufficient_stock" "Stock level too low for adjustment.")
  return (db.movements.freshKey, db.post
    { tenantId
      inventoryId := inv.id
      movementType := .adjustment
      direction
      quantity
      balanceAfterQuantity := adjusted direction inv.currentQuantity quantity
      unitCost := some inv.averageUnitCost
      totalCost := some (totalCostOf quantity inv.averageUnitCost)
      requestReference := "ADJ-" ++ Rendering.hex8 inv.id ++ "-" ++ Rendering.hhmmss now
      sourceType := "inventory_adjustment"
      occurredAt := now
      recordedBy := actorId
      notes := some (match direction with
        | .inward => "Ajuste de Stock (IN): " ++ reason
        | .outward => "Ajuste de Stock (OUT): " ++ reason) }
    inv.averageUnitCost)

/-- One item of an order: what is still open of it comes in, if its part is there. -/
def receiveItem (now : Instant) (tenantId : UUID) (po : WorkshopPurchaseOrder)
    (actorId : Option UUID) (item : WorkshopPurchaseOrderItem) (db : Warehouse) : Warehouse :=
  let quantity := item.quantityOrdered - item.quantityReceived
  if quantity ≤ 0 then db
  else
    match db.part tenantId item.inventoryId with
    | none => db
    | some inv =>
      let average := if 0 < inv.currentQuantity + quantity then
        quantize 2 (wacc inv.currentQuantity inv.averageUnitCost quantity item.unitPrice)
        else inv.averageUnitCost
      let db := { db with
        purchaseOrderItems := db.purchaseOrderItems.modify item.id fun i => { i with
          quantityReceived := i.quantityOrdered } }
      db.post
        { tenantId
          inventoryId := inv.id
          movementType := .receipt
          direction := .inward
          quantity
          balanceAfterQuantity := inv.currentQuantity + quantity
          unitCost := some item.unitPrice
          totalCost := some (totalCostOf quantity item.unitPrice)
          requestReference := "PO-REC-" ++ po.poNumber
          sourceType := "purchase_order"
          sourceId := some po.id
          occurredAt := now
          recordedBy := actorId
          notes := some ("Recepção da PO " ++ po.poNumber) } average

def receivePurchaseOrder (now : Instant) (tenantId purchaseOrderId : UUID)
    (supplierInvoiceNumber : Option String) (actorId : Option UUID) (db : Warehouse) :
    Except Exc (UUID × Warehouse) := do
  let po ← require ((db.purchaseOrders.get purchaseOrderId).filter (·.tenantId = tenantId))
    (notFound "po_not_found" "Purchase order not found.")
  raiseIf (po.status = .received || po.status = .cancelled)
    (conflict "invalid_po_status" ("Purchase order is already '" ++ po.status.text ++ "'."))
  let items := db.purchaseOrderItems.rows.filter fun i =>
    i.purchaseOrderId = po.id && i.tenantId = tenantId
  let db := items.foldl (fun db item => receiveItem now tenantId po actorId item db) db
  return (po.id, { db with
    purchaseOrders := db.purchaseOrders.modify po.id fun po => { po with
      status := .received
      supplierInvoiceNumber := (truthy supplierInvoiceNumber).or po.supplierInvoiceNumber } })

theorem receivePurchaseOrder_ind {P : Warehouse → Prop} {now : Instant}
    {tenantId purchaseOrderId a : UUID} {supplierInvoiceNumber : Option String}
    {actorId : Option UUID} {db p : Warehouse} (hdb : P db)
    (hitem : ∀ po item db, P db → P (receiveItem now tenantId po actorId item db))
    (h : receivePurchaseOrder now tenantId purchaseOrderId supplierInvoiceNumber actorId db =
      .ok (a, p)) : ∃ q orders, P q ∧ p = { q with purchaseOrders := orders } := by
  simp only [receivePurchaseOrder, bind_eq_ok, pure, Except.pure, Except.ok.injEq,
    Prod.mk.injEq] at h
  obtain ⟨po, _, _, _, _, rfl⟩ := h
  have hloop : ∀ (items : List WorkshopPurchaseOrderItem) (db : Warehouse), P db →
      P (items.foldl (fun db item => receiveItem now tenantId po actorId item db) db) := by
    intro items
    induction items with
    | nil => exact fun _ h => h
    | cons item items ih => exact fun db h => ih _ (hitem po item db h)
  exact ⟨_, _, hloop _ db hdb, rfl⟩

/-! ## Cancellation -/

/-- The reservations of a cancelled order are released, and its drafts are cancelled with it. -/
def cancelWorkOrder (tenantId workOrderId : UUID) (reason : String) (db : Warehouse) :
    Except Exc (UUID × Warehouse) := do
  let wo ← requireOpenOrder tenantId workOrderId (fun status => conflict "invalid_work_order_status"
    ("Work order is already '" ++ status.text ++ "'.")) db
  let db := { db with
    workOrders := db.workOrders.modify wo.id fun w => { w with
      status := .cancelled
      closeNotes := some ("Cancelada: " ++ reason) } }
  let db := releaseReservations tenantId none (some workOrderId) db
  return (wo.id, { db with
    billingDocuments := db.billingDocuments.modifyAll (fun d => d.tenantId = tenantId &&
        d.documentSource = .workshop && d.status = .draft &&
        d.contractReference = some wo.workOrderNumber)
      fun d => { d with
        status := .cancelled
        cancellationReason := some ("OS " ++ wo.workOrderNumber ++ " cancelada: " ++ reason) } })

end Rotas
