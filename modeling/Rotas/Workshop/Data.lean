import Rotas.Data
import Rotas.Lib.Decimal

/-!
# Rotas.Workshop.Data

The rows of the workshop's warehouse, and its database.

* `SparePart`, `SparePartMovement` — the stock of a part, and what changed it.
* `PartReservation` — stock promised to a work order.
* `WorkOrderTask`, `WorkshopStaffRate`, `WorkshopQuote` — what an invoice is made of.
* `TenantSequence`  — the counters behind the numbers of quotes and work orders.
* `TaskLaborLog`, `ToolCheckout` — what else hangs off a work order.
* `MaintenancePlan`, `MaintenanceSchedule` — preventive maintenance.
* `Warehouse`       — the tables, with the checks of the database.
* `Warehouse.post`  — one movement: its row, and the quantity it leaves.

Quantities are thousandths, costs hundredths.
-/

namespace Rotas

open Decimal

inductive PartStatus where
  | active | inactive
  deriving DecidableEq

inductive MovementType where
  | receipt | workOrderIssue | consumption | partReturn | adjustment | serialInstall
  deriving DecidableEq

inductive Direction where
  | inward | outward
  deriving DecidableEq

inductive ReservationStatus where
  | active | consumed | released | activeBackorder
  deriving DecidableEq

inductive WorkOrderStatus where
  | draft | approved | inProgress | qualityCheck | closed | cancelled
  deriving DecidableEq

inductive PurchaseOrderStatus where
  | draft | ordered | partiallyReceived | received | cancelled
  deriving DecidableEq

def WorkOrderStatus.text : WorkOrderStatus → String
  | .draft => "draft"
  | .approved => "approved"
  | .inProgress => "in_progress"
  | .qualityCheck => "quality_check"
  | .closed => "closed"
  | .cancelled => "cancelled"

def PurchaseOrderStatus.text : PurchaseOrderStatus → String
  | .draft => "draft"
  | .ordered => "ordered"
  | .partiallyReceived => "partially_received"
  | .received => "received"
  | .cancelled => "cancelled"

inductive SerialStatus where
  | inStock | installed | scrapped
  deriving DecidableEq

inductive TaskStatus where
  | pending | inProgress | completed
  deriving DecidableEq

inductive QuoteStatus where
  | draft | sent | approved | rejected | expired | converted
  deriving DecidableEq

/-- The statuses that the database lets a tool have. -/
inductive ToolStatus where
  | available | checkedOut | damaged | lost | retired
  deriving DecidableEq

inductive CheckoutStatus where
  | checkedOut | returned
  deriving DecidableEq

inductive ScheduleStatus where
  | pending | due | overdue | convertedToWo | convertedToQuote | completed | cancelled
  deriving DecidableEq

inductive OwnershipScope where
  | fleet | customer | all
  deriving DecidableEq

inductive QuoteItemType where
  | labor | part
  deriving DecidableEq

/-- Where a work order comes from. -/
inductive OriginType where
  | direct | reception | quote | warranty
  deriving DecidableEq

def QuoteStatus.text : QuoteStatus → String
  | .draft => "draft"
  | .sent => "sent"
  | .approved => "approved"
  | .rejected => "rejected"
  | .expired => "expired"
  | .converted => "converted"

structure SparePart where
  id : UUID
  tenantId : UUID
  name : String := ""
  unit : String := "unit"
  currentQuantity : Int := 0
  averageUnitCost : Int := 0
  status : PartStatus := .active

structure SparePartMovement where
  id : UUID := 0
  tenantId : UUID
  inventoryId : UUID
  movementType : MovementType
  direction : Direction
  quantity : Int
  balanceAfterQuantity : Int
  unitCost : Option Int := none
  totalCost : Option Int := none
  requestReference : String
  sourceType : String
  sourceId : Option UUID := none
  occurredAt : Instant
  recordedBy : Option UUID := none
  notes : Option String := none

structure MaintenancePartUsed where
  id : UUID
  tenantId : UUID
  workOrderId : UUID
  inventoryId : UUID
  movementId : Option UUID := none
  requestReference : String
  quantity : Int
  unitCost : Option Int := none
  totalCost : Option Int := none
  issuedAt : Option Instant := none
  issuedBy : Option UUID := none
  notes : Option String := none

/-- Rows are appended in the order of `created_at`. -/
structure PartReservation where
  id : UUID
  tenantId : UUID
  inventoryId : UUID
  quoteId : Option UUID := none
  workOrderId : Option UUID := none
  quantityReserved : Int
  status : ReservationStatus := .active

structure WorkOrder where
  id : UUID
  tenantId : UUID
  workOrderNumber : String
  status : WorkOrderStatus := .draft
  closeNotes : Option String := none
  vehicleId : Option UUID := none
  receptionId : Option UUID := none
  createdAt : Instant := 0
  plannedWork : String := ""
  estimatedCost : Option Int := none
  laborCost : Int := 0
  originType : OriginType := .direct
  maintenanceRequestId : Option UUID := none
  governanceCaseId : Option UUID := none
  planId : Option UUID := none
  diagnosis : Option String := none
  actualCost : Option Int := none
  approvedBy : Option UUID := none
  approvedAt : Option Instant := none
  closedBy : Option UUID := none
  closedAt : Option Instant := none

structure WorkOrderTask where
  id : UUID
  tenantId : UUID
  workOrderId : UUID
  description : String
  status : TaskStatus := .pending
  completedBy : Option UUID := none
  completedAt : Option Instant := none
  estimatedMinutes : Option Int := none
  actualMinutes : Option Int := none
  completionNotes : Option String := none

structure MaintenanceRequest where
  id : UUID
  tenantId : UUID
  vehicleId : UUID
  tripId : Option UUID := none
  status : String := "open"

/-- A session of work on a task. -/
structure TaskLaborLog where
  id : UUID
  tenantId : UUID
  workOrderTaskId : UUID
  userId : UUID
  startedAt : Option Instant := none
  completedAt : Instant
  minutesWorked : Int
  hourlyRateApplied : Int
  totalLaborCost : Int
  voidedAt : Option Instant := none
  voidReason : Option String := none

structure WorkshopTool where
  id : UUID
  tenantId : UUID
  code : String := ""
  isCritical : Bool := false
  calibrationDueAt : Option Instant := none
  status : ToolStatus := .available
  name : String := ""
  category : Option String := none
  location : Option String := none
  calibrationIntervalDays : Option Int := none

structure ToolCheckout where
  id : UUID
  tenantId : UUID
  toolId : UUID
  workOrderId : UUID
  checkoutReference : String
  checkedOutBy : Option UUID := none
  checkedOutAt : Instant
  dueAt : Option Instant := none
  status : CheckoutStatus := .checkedOut
  returnReference : Option String := none
  returnedBy : Option UUID := none
  returnedAt : Option Instant := none
  returnCondition : Option ToolStatus := none
  notes : Option String := none

structure ServiceCatalogItem where
  id : UUID
  tenantId : UUID
  basePrice : Int := 0

structure MaintenancePlan where
  id : UUID
  tenantId : UUID
  vehicleId : Option UUID := none
  serviceCatalogItemId : Option UUID := none
  requestReference : String := ""
  name : String := ""
  intervalKm : Option Int := none
  intervalDays : Option Int := none
  nextDueKm : Option Int := none
  nextDueAt : Option Instant := none
  ownershipScope : OwnershipScope := .fleet
  status : String := "active"

structure MaintenanceSchedule where
  id : UUID
  tenantId : UUID
  planId : UUID
  vehicleId : UUID
  quoteId : Option UUID := none
  workOrderId : Option UUID := none
  dueKm : Option Int := none
  dueAt : Option Instant := none
  notifiedDueAt : Option Instant := none
  notifiedOverdueAt : Option Instant := none
  status : ScheduleStatus := .pending

/-- `effectiveFrom` counts days. -/
structure WorkshopStaffRate where
  id : UUID
  tenantId : UUID
  userId : UUID
  hourlyRate : Int
  effectiveFrom : Int

/-- Rows are appended in the order of `created_at`. -/
structure WorkshopQuote where
  id : UUID
  tenantId : UUID
  clientId : Option UUID := none
  receptionId : Option UUID := none
  relatedWorkOrderId : Option UUID := none
  status : QuoteStatus := .draft
  vehicleId : UUID := 0
  quoteNumber : String := ""
  isSupplemental : Bool := false
  validUntil : Option Instant := none
  laborTotal : Int := 0
  partsTotal : Int := 0
  taxTotal : Int := 0
  totalAmount : Int := 0
  notes : Option String := none
  acceptanceChannel : Option String := none
  acceptedByPersonName : Option String := none

/-- The quantity of an item is in hundredths. -/
structure WorkshopQuoteItem where
  id : UUID
  tenantId : UUID
  quoteId : UUID
  itemType : QuoteItemType := .labor
  description : String := ""
  partId : Option UUID := none
  quantity : Int := 100
  unitPrice : Int := 0
  totalPrice : Int := 0

/-- A counter of a tenant, by the kind of row and the year. -/
structure TenantSequence where
  id : UUID
  tenantId : UUID
  entityType : String
  currentValue : Nat := 0

structure WorkshopPurchaseOrder where
  id : UUID
  tenantId : UUID
  poNumber : String
  status : PurchaseOrderStatus := .draft
  supplierInvoiceNumber : Option String := none

structure WorkshopPurchaseOrderItem where
  id : UUID
  tenantId : UUID
  purchaseOrderId : UUID
  inventoryId : UUID
  quantityOrdered : Int
  quantityReceived : Int := 0
  unitPrice : Int := 0

structure SparePartSerialItem where
  id : UUID
  tenantId : UUID
  partId : UUID
  status : SerialStatus := .inStock
  vehicleId : Option UUID := none
  installedAt : Option Instant := none

instance : Keyed SparePart := ⟨SparePart.id⟩
instance : Keyed SparePartMovement := ⟨SparePartMovement.id⟩
instance : Keyed MaintenancePartUsed := ⟨MaintenancePartUsed.id⟩
instance : Keyed PartReservation := ⟨PartReservation.id⟩
instance : Keyed WorkOrder := ⟨WorkOrder.id⟩
instance : Keyed WorkshopQuoteItem := ⟨WorkshopQuoteItem.id⟩
instance : Keyed WorkOrderTask := ⟨WorkOrderTask.id⟩
instance : Keyed WorkshopStaffRate := ⟨WorkshopStaffRate.id⟩
instance : Keyed WorkshopQuote := ⟨WorkshopQuote.id⟩
instance : Keyed MaintenanceRequest := ⟨MaintenanceRequest.id⟩
instance : Keyed TaskLaborLog := ⟨TaskLaborLog.id⟩
instance : Keyed WorkshopTool := ⟨WorkshopTool.id⟩
instance : Keyed ToolCheckout := ⟨ToolCheckout.id⟩
instance : Keyed ServiceCatalogItem := ⟨ServiceCatalogItem.id⟩
instance : Keyed MaintenancePlan := ⟨MaintenancePlan.id⟩
instance : Keyed MaintenanceSchedule := ⟨MaintenanceSchedule.id⟩
instance : Keyed TenantSequence := ⟨TenantSequence.id⟩
instance : Keyed WorkshopPurchaseOrder := ⟨WorkshopPurchaseOrder.id⟩
instance : Keyed WorkshopPurchaseOrderItem := ⟨WorkshopPurchaseOrderItem.id⟩
instance : Keyed SparePartSerialItem := ⟨SparePartSerialItem.id⟩

structure Warehouse where
  spareParts : Table SparePart := ∅
  movements : Table SparePartMovement := ∅
  partsUsed : Table MaintenancePartUsed := ∅
  reservations : Table PartReservation := ∅
  workOrders : Table WorkOrder := ∅
  quoteItems : Table WorkshopQuoteItem := ∅
  purchaseOrders : Table WorkshopPurchaseOrder := ∅
  purchaseOrderItems : Table WorkshopPurchaseOrderItem := ∅
  serialItems : Table SparePartSerialItem := ∅
  billingDocuments : Table BillingDocument := ∅
  tasks : Table WorkOrderTask := ∅
  staffRates : Table WorkshopStaffRate := ∅
  quotes : Table WorkshopQuote := ∅
  tenantSequences : Table TenantSequence := ∅
  vehicles : Table Vehicle := ∅
  maintenanceRequests : Table MaintenanceRequest := ∅
  laborLogs : Table TaskLaborLog := ∅
  tools : Table WorkshopTool := ∅
  toolCheckouts : Table ToolCheckout := ∅
  catalogItems : Table ServiceCatalogItem := ∅
  maintenancePlans : Table MaintenancePlan := ∅
  maintenanceSchedules : Table MaintenanceSchedule := ∅

/-! ## The checks of the database -/

/-- A column of fourteen digits holds the number. -/
def fitsDigits (n : Int) : Bool := decide (-10 ^ 14 < n ∧ n < 10 ^ 14)

def SparePart.ok (p : SparePart) : Bool :=
  decide (0 ≤ p.currentQuantity) && fitsDigits p.currentQuantity && fitsDigits p.averageUnitCost

def SparePartMovement.ok (m : SparePartMovement) : Bool :=
  decide (0 < m.quantity) && decide (0 ≤ m.balanceAfterQuantity) && fitsDigits m.quantity &&
    fitsDigits m.balanceAfterQuantity && m.unitCost.all fitsDigits &&
    m.totalCost.all fun c => decide (-10 ^ 16 < c ∧ c < 10 ^ 16)

def PartReservation.ok (r : PartReservation) : Bool := fitsDigits r.quantityReserved

/-- Parts are not below zero, movements are positive, and a tenant uses a reference once. -/
def Warehouse.ok (db : Warehouse) : Bool :=
  db.spareParts.rows.all SparePart.ok && db.movements.rows.all SparePartMovement.ok &&
    db.reservations.rows.all PartReservation.ok &&
    decide ((db.movements.rows.map fun m => (m.tenantId, m.requestReference)).Nodup) &&
    decide ((db.partsUsed.rows.map fun u => (u.tenantId, u.requestReference)).Nodup)

instance : Store Warehouse Exc := ⟨Warehouse.ok, .integrityError⟩

theorem quantity_nonneg {db : Warehouse} (hok : db.ok = true) {part : SparePart}
    (h : part ∈ db.spareParts) : 0 ≤ part.currentQuantity := by
  simp only [Warehouse.ok, Bool.and_eq_true, List.all_eq_true] at hok
  have hpart := hok.1.1.1.1 part h
  simp only [SparePart.ok, Bool.and_eq_true, decide_eq_true_eq] at hpart
  exact hpart.1.1

/-! ## Movements -/

/-- A movement is recorded, and its part has the balance it leaves. -/
def Warehouse.post (m : SparePartMovement) (averageUnitCost : Int) (db : Warehouse) : Warehouse :=
  { db with
    spareParts := db.spareParts.modify m.inventoryId fun p =>
      { p with currentQuantity := m.balanceAfterQuantity, averageUnitCost }
    movements := db.movements.insert fun id => { m with id } }

/-- The part of a tenant. -/
def Warehouse.part (db : Warehouse) (tenantId inventoryId : UUID) : Option SparePart :=
  (db.spareParts.get inventoryId).filter (·.tenantId = tenantId)

theorem part_eq_some {db : Warehouse} {tenantId inventoryId : UUID} {p : SparePart}
    (h : db.part tenantId inventoryId = some p) :
    db.spareParts.get inventoryId = some p ∧ p.id = inventoryId := by
  obtain ⟨hget, _⟩ := Option.filter_eq_some_iff.mp h
  exact ⟨hget, Table.key_of_get hget⟩

/-- The weighted average of what is there and what comes in, in hundredths, before it is rounded. -/
def wacc (oldStock : Int) (oldCost : Int) (quantity : Int) (cost : Int) : ℚ :=
  context (context (context ((oldStock : ℚ) / 1000 * (oldCost / 100)) +
    context ((quantity : ℚ) / 1000 * (cost / 100))) / ((oldStock + quantity : ℤ) / 1000))

/-- What a quantity costs, before it is rounded to hundredths. -/
def costOf (quantity : Int) (unitCost : Int) : ℚ :=
  context ((quantity : ℚ) / 1000 * (unitCost / 100))

/-- Ids and times as the services print them: eight hex digits, the whole id, and `%H%M%S`. -/
class Rendering where
  hex8 : UUID → String
  str : UUID → String
  hhmmss : Instant → String

/-- Ids and times in decimal. -/
@[reducible] def Rendering.decimal : Rendering where
  hex8 id := toString id
  str id := toString id
  hhmmss t := toString t

end Rotas
