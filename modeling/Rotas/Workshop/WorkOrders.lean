import Rotas.Trips.Execution
import Rotas.Workshop.Invoice
import Rotas.Workshop.Movements
import Rotas.Workshop.Preventive

/-!
# Rotas.Workshop.WorkOrders

The work orders of `workshop/service.py`, their labour of `workshop/labor_service.py`, and the
workshop beside the rest of the company.

* `createWorkOrder`, `approveWorkOrder`, `transitionWorkOrder` — an order and its statuses.
* `createWorkOrderTask`, `completeWorkOrderTask`, `checkoutTool`, `returnTool` — what hangs off it.
* `addTaskLaborSession`, `voidTaskLaborSession` — labour, until the order is billed.
* `Garage` — the workshop's tables, and those it shares with billing and the trips.
* `closeWorkOrder` — the cost of the trip, the draft invoice and the next maintenance with it.
-/

namespace Rotas

open Decimal

/-! ## Creation and statuses -/

structure WorkOrderCreate where
  maintenanceRequestId : Option UUID := none
  governanceCaseId : Option UUID := none
  vehicleId : Option UUID := none
  diagnosis : Option String := none
  plannedWork : String
  estimatedCost : Option ℚ := none

def requireVehicle (tenantId : UUID) (vehicleId : Option UUID) (db : Warehouse) :
    Except Exc Vehicle :=
  require ((vehicleId.bind db.vehicles.get).filter (·.tenantId = tenantId))
    (notFound "vehicle_not_found" "Vehicle not found.")

def requireMaintenanceRequest (tenantId requestId : UUID) (db : Warehouse) :
    Except Exc MaintenanceRequest :=
  require ((db.maintenanceRequests.get requestId).filter (·.tenantId = tenantId))
    (notFound "maintenance_request_not_found" "Maintenance request not found.")

/-- The request of an order is for its vehicle, and was not converted before. -/
def checkRequest (tenantId : UUID) (payload : WorkOrderCreate) (db : Warehouse) :
    Except Exc Unit :=
  match payload.maintenanceRequestId with
  | none => return ()
  | some requestId => do
    let request ← requireMaintenanceRequest tenantId requestId db
    raiseIf (some request.vehicleId ≠ payload.vehicleId)
      (conflict "maintenance_request_vehicle_mismatch"
        "Maintenance request and work order vehicles differ.")
    raiseIf (request.status ≠ "open" && request.status ≠ "triaged")
      (conflict "invalid_maintenance_request_status"
        "Maintenance request cannot create another work order.")

def WorkOrderCreate.row (payload : WorkOrderCreate) (tenantId : UUID) (workOrderNumber : String)
    (id : UUID) : WorkOrder where
  id
  tenantId
  workOrderNumber
  maintenanceRequestId := payload.maintenanceRequestId
  governanceCaseId := payload.governanceCaseId
  vehicleId := payload.vehicleId
  diagnosis := payload.diagnosis
  plannedWork := payload.plannedWork
  estimatedCost := payload.estimatedCost.map (numeric 2)

/-- `hex12` is the random part of the number. -/
def createWorkOrder (tenantId : UUID) (payload : WorkOrderCreate) (hex12 : String)
    (db : Warehouse) : Except Exc (UUID × Warehouse) := do
  let _ ← requireVehicle tenantId payload.vehicleId db
  checkRequest tenantId payload db
  return (db.workOrders.freshKey, { db with
    workOrders := db.workOrders.insert (payload.row tenantId ("WO-" ++ hex12))
    maintenanceRequests := db.maintenanceRequests.modifyAll
      (fun r => payload.maintenanceRequestId = some r.id) fun r => { r with
        status := "converted" } })

def Warehouse.setOrder (db : Warehouse) (id : UUID) (f : WorkOrder → WorkOrder)
    (hf : ∀ wo, (f wo).id = wo.id) : Warehouse :=
  { db with workOrders := db.workOrders.modify id f hf }

def invalidWorkOrderStatus (message : String) : Exc := conflict "invalid_work_order_status" message

def WorkOrder.approved (now : Instant) (actorId : Option UUID) (wo : WorkOrder) : WorkOrder :=
  { wo with status := .approved, approvedBy := actorId, approvedAt := some now }

def approveWorkOrder (now : Instant) (tenantId workOrderId : UUID) (actorId : Option UUID)
    (db : Warehouse) : Except Exc (UUID × Warehouse) := do
  let item ← requireWorkOrder tenantId workOrderId db
  if item.status = .approved then return (item.id, db)
  else
    raiseIf (item.status ≠ .draft) (invalidWorkOrderStatus "Work order cannot be approved.")
    return (item.id, db.setOrder item.id (.approved now actorId) (fun _ => rfl))

def WorkOrder.setStatus (status : WorkOrderStatus) (wo : WorkOrder) : WorkOrder :=
  { wo with status }

def transitionWorkOrder (tenantId workOrderId : UUID) (expectedStatus nextStatus : WorkOrderStatus)
    (db : Warehouse) : Except Exc (UUID × Warehouse) := do
  let item ← requireWorkOrder tenantId workOrderId db
  if item.status = nextStatus then return (item.id, db)
  else
    raiseIf (item.status ≠ expectedStatus)
      (invalidWorkOrderStatus "Invalid work order transition.")
    return (item.id, db.setOrder item.id (.setStatus nextStatus) (fun _ => rfl))

def startWorkOrder (tenantId workOrderId : UUID) (db : Warehouse) : Except Exc (UUID × Warehouse) :=
  transitionWorkOrder tenantId workOrderId .approved .inProgress db

def sendWorkOrderToQualityCheck (tenantId workOrderId : UUID) (db : Warehouse) :
    Except Exc (UUID × Warehouse) := do
  match db.tasks.rows.find? fun t => t.tenantId = tenantId && t.workOrderId = workOrderId &&
      t.status = .pending with
  | some t => .error (conflict "work_order_tasks_pending" "Work order still has pending tasks."
      [("task_id", .uuid t.id)])
  | none =>
    match db.toolCheckouts.rows.find? fun c => c.tenantId = tenantId &&
        c.workOrderId = workOrderId && c.status = .checkedOut with
    | some c => .error (conflict "work_order_tools_checked_out"
        "Work order still has tools checked out." [("checkout_id", .uuid c.id)])
    | none => transitionWorkOrder tenantId workOrderId .inProgress .qualityCheck db

/-! ## Tasks -/

def createWorkOrderTask (tenantId workOrderId : UUID) (description : String) (db : Warehouse) :
    Except Exc (UUID × Warehouse) := do
  let workOrder ← requireWorkOrder tenantId workOrderId db
  raiseIf (workOrder.status ≠ .draft && workOrder.status ≠ .approved &&
      workOrder.status ≠ .inProgress)
    (invalidWorkOrderStatus "Work order cannot receive tasks.")
  return (db.tasks.freshKey, { db with
    tasks := db.tasks.insert fun id => { id, tenantId, workOrderId, description } })

/-- The rate of a member of staff on a day, if one has taken effect by then. -/
def Warehouse.rateOn (db : Warehouse) (tenantId userId : UUID) (day : Int) : Option Int :=
  (latestBy WorkshopStaffRate.effectiveFrom (db.staffRates.rows.filter fun r =>
    r.tenantId = tenantId && r.userId = userId && r.effectiveFrom ≤ day)).map
      WorkshopStaffRate.hourlyRate

/-- What so many minutes cost, before they are rounded. -/
def laborCostOf (minutes rate : Int) : ℚ :=
  context (context ((minutes : ℚ) / 60) * ((rate : ℚ) / 100))

/-- What a completed task adds to the labour cost of its order. -/
def taskLaborCost (now : Instant) (tenantId : UUID) (actorId : Option UUID)
    (actualMinutes : Option Int) (db : Warehouse) : Int :=
  match truthyInt actualMinutes, actorId with
  | some minutes, some userId =>
    ((db.rateOn tenantId userId (utcDate now)).map fun rate =>
      quantize 2 (laborCostOf minutes rate)).getD 0
  | _, _ => 0

def completeWorkOrderTask (now : Instant) (tenantId workOrderId taskId : UUID)
    (actualMinutes : Option Int) (notes : Option String) (actorId : Option UUID)
    (db : Warehouse) : Except Exc (UUID × Warehouse) := do
  let workOrder ← requireWorkOrder tenantId workOrderId db
  raiseIf (workOrder.status ≠ .inProgress)
    (invalidWorkOrderStatus "Work order is not in progress.")
  let item ← require ((db.tasks.get taskId).filter fun t =>
    t.tenantId = tenantId && t.workOrderId = workOrderId)
    (notFound "work_order_task_not_found" "Work order task not found.")
  if item.status = .completed then return (item.id, db)
  else
    let cost := taskLaborCost now tenantId actorId actualMinutes db
    return (item.id, { db with
      tasks := db.tasks.modify item.id fun t => { t with
        status := .completed
        completedBy := actorId
        completedAt := some now
        completionNotes := notes
        actualMinutes := if actorId.isSome then (truthyInt actualMinutes).or t.actualMinutes
          else t.actualMinutes }
      workOrders := db.workOrders.modify workOrderId fun wo => { wo with
        laborCost := wo.laborCost + cost } })

/-! ## Tools -/

structure ToolCheckoutCreate where
  toolId : UUID
  checkoutReference : String
  checkedOutAt : Instant
  dueAt : Option Instant := none
  notes : Option String := none

structure ToolReturnCreate where
  returnReference : String
  returnedAt : Instant
  returnCondition : String := "available"
  notes : Option String := none

def findCheckout (tenantId : UUID) (checkoutReference : String) (db : Warehouse) :
    Option ToolCheckout :=
  db.toolCheckouts.rows.find? fun c =>
    c.tenantId = tenantId && c.checkoutReference = checkoutReference

def validateToolCheckoutReplay (item : ToolCheckout) (workOrderId : UUID)
    (payload : ToolCheckoutCreate) : Except Exc Unit :=
  raiseIf (item.workOrderId ≠ workOrderId || item.toolId ≠ payload.toolId ||
      item.checkedOutAt ≠ payload.checkedOutAt || item.dueAt ≠ payload.dueAt)
    (conflict "tool_checkout_reference_reused"
      "Checkout reference was reused with a different payload.")

def ToolStatus.text : ToolStatus → String
  | .available => "available"
  | .checkedOut => "checked_out"
  | .damaged => "damaged"
  | .lost => "lost"
  | .retired => "retired"

def toolNotFound : Exc := notFound "workshop_tool_not_found" "Workshop tool not found."

def checkTool (now : Instant) (tool : WorkshopTool) : Except Exc Unit := do
  raiseIf (tool.status ≠ .available)
    (conflict "workshop_tool_unavailable" "Workshop tool is not available for checkout."
      [("tool_status", .text tool.status.text)])
  raiseIf (tool.isCritical && tool.calibrationDueAt.any (· ≤ now))
    (conflict "workshop_tool_calibration_expired" "Critical workshop tool calibration is expired.")

def checkoutTool (now : Instant) (tenantId workOrderId : UUID) (payload : ToolCheckoutCreate)
    (actorId : Option UUID) (db : Warehouse) : Except Exc (UUID × Warehouse) := do
  match findCheckout tenantId payload.checkoutReference db with
  | some existing =>
    validateToolCheckoutReplay existing workOrderId payload
    return (existing.id, db)
  | none =>
    let workOrder ← requireWorkOrder tenantId workOrderId db
    raiseIf (workOrder.status ≠ .inProgress)
      (invalidWorkOrderStatus "Tools can only be checked out while work is in progress.")
    let tool ← require ((db.tools.get payload.toolId).filter (·.tenantId = tenantId)) toolNotFound
    checkTool now tool
    return (db.toolCheckouts.freshKey, { db with
      tools := db.tools.modify tool.id fun t => { t with status := .checkedOut }
      toolCheckouts := db.toolCheckouts.insert fun id =>
        { id, tenantId, workOrderId, toolId := payload.toolId
          checkoutReference := payload.checkoutReference, checkedOutBy := actorId
          checkedOutAt := payload.checkedOutAt, dueAt := payload.dueAt, notes := payload.notes } })

/-- The conditions in which a tool comes back. -/
def returnCondition : String → Option ToolStatus
  | "available" => some .available
  | "damaged" => some .damaged
  | "lost" => some .lost
  | "retired" => some .retired
  | _ => none

def returnTool (tenantId checkoutId : UUID) (payload : ToolReturnCreate) (actorId : Option UUID)
    (db : Warehouse) : Except Exc (UUID × Warehouse) := do
  let condition ← require (returnCondition payload.returnCondition)
    (unprocessable "invalid_tool_return_condition" "Invalid tool return condition.")
  let item ← require ((db.toolCheckouts.get checkoutId).filter (·.tenantId = tenantId))
    (notFound "tool_checkout_not_found" "Tool checkout not found.")
  if item.status = .returned then
    raiseIf (item.returnReference ≠ some payload.returnReference ||
        item.returnedAt ≠ some payload.returnedAt || item.returnCondition ≠ some condition)
      (conflict "tool_return_reference_reused"
        "Tool checkout was already returned with another reference.")
    return (item.id, db)
  else
    let tool ← require ((db.tools.get item.toolId).filter (·.tenantId = tenantId)) toolNotFound
    return (item.id, { db with
      toolCheckouts := db.toolCheckouts.modify item.id fun c => { c with
        status := .returned
        returnReference := some payload.returnReference
        returnedBy := actorId
        returnedAt := some payload.returnedAt
        returnCondition := some condition
        notes := (truthy payload.notes).or c.notes }
      tools := db.tools.modify tool.id fun t => { t with status := condition } })

/-! ## The workshop and the rest -/

/-- The workshop's own tables, and the database it shares with billing and the trips. -/
structure Garage where
  shop : Warehouse := {}
  db : Db := {}

/-- The workshop's tables, with the vehicles and the billing documents of the database. -/
def Garage.warehouse (g : Garage) : Warehouse :=
  { g.shop with vehicles := g.db.vehicles, billingDocuments := g.db.billingDocuments }

def Garage.put (g : Garage) (w : Warehouse) : Garage :=
  { shop := w, db := { g.db with billingDocuments := w.billingDocuments } }

/-- A service that needs the workshop's tables only. -/
def Garage.onWarehouse {α : Type} (f : Warehouse → Except Exc (α × Warehouse)) (g : Garage) :
    Except Exc (α × Garage) := do
  let (a, w) ← f g.warehouse
  return (a, g.put w)

/-- A number stands once among the orders of a tenant, a reference once among its checkouts, and a
tool is out once. -/
def Warehouse.ordersOk (w : Warehouse) : Bool :=
  decide ((w.workOrders.rows.map fun wo => (wo.tenantId, wo.workOrderNumber)).Nodup) &&
    decide ((w.toolCheckouts.rows.map fun c => (c.tenantId, c.checkoutReference)).Nodup) &&
    decide (((w.toolCheckouts.rows.filter (·.status = .checkedOut)).map fun c =>
      (c.tenantId, c.toolId)).Nodup)

instance : Store Garage Exc := ⟨fun g => g.shop.ok && g.shop.ordersOk && g.db.ok, .integrityError⟩

/-! ## Labour -/

/-- The rate on the day of an instant; 500 where none is known. -/
def getStaffHourlyRate (tenantId userId : UUID) (atDate : Instant) (db : Warehouse) : Int :=
  (db.rateOn tenantId userId (utcDate atDate)).getD 50000

/-- The order is not finished, and nothing of it stands on an invoice that is issued or paid. -/
def assertWorkOrderMutable (tenantId workOrderId : UUID) (g : Garage) : Except Exc WorkOrder := do
  let wo ← requireWorkOrder tenantId workOrderId g.shop
  raiseIf wo.status.isDone (conflict "work_order_already_billed"
    "Work order is closed/billed and cannot accept labor edits.")
  raiseIf (g.db.billingItems.rows.any fun i => i.tenantId = tenantId &&
      i.workOrderId = some workOrderId && (g.db.billingDocuments.get i.billingDocumentId).any
        fun d => d.status = .issued || d.status = .paid)
    (conflict "work_order_already_billed" "Work order has an issued/paid billing document.")
  return wo

def addTaskLaborSession (now : Instant) (tenantId taskId userId : UUID) (minutesWorked : Int)
    (startedAt completedAt : Option Instant) (g : Garage) : Except Exc (UUID × Garage) := do
  raiseIf (minutesWorked ≤ 0)
    (.api { code := "invalid_minutes", message := "Minutes worked must be greater than zero." })
  let task ← require ((g.shop.tasks.get taskId).filter (·.tenantId = tenantId))
    (notFound "task_not_found" "Work order task not found.")
  let _ ← assertWorkOrderMutable tenantId task.workOrderId g
  let completed := completedAt.getD now
  let rate := getStaffHourlyRate tenantId userId completed g.shop
  return (g.shop.laborLogs.freshKey, { g with
    shop := { g.shop with
      laborLogs := g.shop.laborLogs.insert fun id =>
        { id, tenantId, workOrderTaskId := task.id, userId, startedAt, completedAt := completed
          minutesWorked, hourlyRateApplied := rate
          -- `ROUND_HALF_UP` takes ties away from zero, as the column does
          totalLaborCost := numeric 2 (laborCostOf minutesWorked rate) } } })

def voidTaskLaborSession (now : Instant) (tenantId laborLogId : UUID) (voidReason : String)
    (g : Garage) : Except Exc (UUID × Garage) := do
  raiseIf (strip voidReason = "")
    (.api { code := "invalid_void_reason", message := "Void reason is required." })
  let log ← require ((g.shop.laborLogs.get laborLogId).filter (·.tenantId = tenantId))
    (notFound "labor_log_not_found" "Task labor log not found.")
  if log.voidedAt.isSome then return (log.id, g)
  else
    let task ← require (g.shop.tasks.get log.workOrderTaskId)
      (notFound "task_not_found" "Associated task not found.")
    let _ ← assertWorkOrderMutable tenantId task.workOrderId g
    return (log.id, { g with
      shop := { g.shop with
        laborLogs := g.shop.laborLogs.modify log.id fun l => { l with
          voidedAt := some now, voidReason := some (strip voidReason) } } })

/-! ## Closing -/

def WorkOrder.close (now : Instant) (actualCost : Option ℚ) (notes : String)
    (actorId : Option UUID) (wo : WorkOrder) : WorkOrder :=
  { wo with
    status := .closed
    actualCost := actualCost.map (numeric 2)
    closeNotes := some notes
    closedBy := actorId
    closedAt := some now }

section Close

variable [Locale] [Rendering]

/-- The cost of an order that a trip asked for is the trip's. -/
def recordOrderCost (now : Instant) (tenantId : UUID) (wo : WorkOrder) (actualCost : Option ℚ)
    (notes : String) (actorId : Option UUID) (g : Garage) : Except Exc Garage :=
  match wo.maintenanceRequestId, actualCost with
  | some requestId, some amount => do
    let request ← requireMaintenanceRequest tenantId requestId g.shop
    match request.tripId with
    | none => return g
    | some tripId => do
      let (_, db) ← recordTripCost now tenantId tripId
        { costType := "workshop_maintenance", amount
          requestReference := "work-order:" ++ Rendering.str wo.id, incurredAt := now
          description := some notes, sourceType := "work_order", sourceId := some wo.id }
        actorId g.db
      return { g with db }
  | _, _ => return g

/-- The draft of an order that the workshop took in; what keeps it from being made is ignored. -/
def draftInvoice (now : Instant) (tenantId : UUID) (wo : WorkOrder) (g : Garage) : Garage :=
  if wo.originType = .direct then g
  else
    match createWorkshopInvoice now tenantId wo.id g.warehouse g.db with
    | .error _ => g
    | .ok (_, db) => { g with db }

def closeWorkOrder (now : Instant) (tenantId workOrderId : UUID) (actualCost : Option ℚ)
    (notes : String) (actorId : Option UUID) (g : Garage) : Except Exc (UUID × Garage) := do
  let item ← requireWorkOrder tenantId workOrderId g.shop
  if item.status = .closed then return (item.id, g)
  else
    raiseIf (item.status ≠ .qualityCheck)
      (invalidWorkOrderStatus "Work order cannot be closed.")
    let g := { g with
      shop := g.shop.setOrder item.id (.close now actualCost notes actorId) (fun _ => rfl) }
    let g ← recordOrderCost now tenantId item actualCost notes actorId g
    let g := draftInvoice now tenantId item g
    return (item.id, g.put (handleWorkOrderCompletion now tenantId workOrderId g.warehouse))

end Close

end Rotas
