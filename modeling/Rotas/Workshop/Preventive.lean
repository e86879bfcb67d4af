import Rotas.Workshop.Quotes

/-!
# Rotas.Workshop.Preventive

Preventive maintenance: `workshop/preventive_service.py`, and the evaluation of the plans in
`workshop/service.py`.

* `createMaintenancePlan`, `schedulePreventiveMaintenance` — a plan, and its next date for a vehicle.
* `evaluatePreventiveSchedules`  — schedules become due and overdue.
* `convertScheduleToAction`      — a schedule becomes a work order or a quote.
* `handleWorkOrderCompletion`    — the schedules of a vehicle are completed, and the next ones made.
* `evaluateMaintenanceSchedule`  — the other engine: it goes by the due dates of the plans.
-/

namespace Rotas

open Decimal

/-- The time of a number made from the clock: `%m%d%H%M%S`. -/
class ClockText where
  mmddhhmmss : Instant → String

/-- The clock in decimal. -/
@[reducible] def ClockText.decimal : ClockText := ⟨fun t => toString t⟩

def days (n : Int) : Int := n * 86400

/-! ## Plans -/

/-- The reference has the time and four random digits. -/
def createMaintenancePlan (tenantId : UUID) (name : String) (serviceCatalogItemId vehicleId :
    Option UUID) (intervalKm intervalDays : Option Int) (ownershipScope : OwnershipScope)
    (requestReference : String) (db : Warehouse) : Except Exc (UUID × Warehouse) := do
  raiseIf (strip name = "")
    (.api { code := "invalid_name", message := "Maintenance plan name is required." })
  return (db.maintenancePlans.freshKey, { db with
    maintenancePlans := db.maintenancePlans.insert fun id =>
      { id, tenantId, vehicleId, serviceCatalogItemId, requestReference, name := strip name
        intervalKm, intervalDays, ownershipScope } })

/-- The older request for a plan asks its payload for a reference, which it does not have. -/
def requestMaintenancePlan (tenantId : UUID) (vehicleId : Option UUID)
    (intervalKm intervalDays : Option Int) (db : Warehouse) : Except Exc (UUID × Warehouse) := do
  raiseIf (intervalKm.isNone && intervalDays.isNone)
    (unprocessable "maintenance_plan_interval_required"
      "Maintenance plan requires a kilometer or day interval.")
  let _ ← require ((vehicleId.bind db.vehicles.get).filter (·.tenantId = tenantId))
    (notFound "vehicle_not_found" "Vehicle not found.")
  .error (.attributeError "request_reference")

/-! ## Schedules -/

def ScheduleStatus.isOpen (status : ScheduleStatus) : Bool :=
  status = .pending || status = .due || status = .overdue

def Warehouse.openSchedule (db : Warehouse) (tenantId vehicleId planId : UUID) :
    Option MaintenanceSchedule :=
  db.maintenanceSchedules.rows.find? fun s => s.tenantId = tenantId && s.vehicleId = vehicleId &&
    s.planId = planId && s.status.isOpen

/-- A number that counts as true: there, and not zero. -/
def truthyInt (n : Option Int) : Option Int := n.filter (· ≠ 0)

/-- The next schedule of a plan for a vehicle, unless there is an open one. -/
def schedulePreventiveMaintenance (now : Instant) (tenantId vehicleId planId : UUID)
    (baseOdometerKm : Option Int) (baseDate : Option Instant) (db : Warehouse) :
    Except Exc (UUID × Warehouse) := do
  let plan ← require ((db.maintenancePlans.get planId).filter fun plan =>
    plan.tenantId = tenantId && plan.status = "active")
    (notFound "plan_not_found" "Active maintenance plan not found.")
  let vehicle ← require ((db.vehicles.get vehicleId).filter (·.tenantId = tenantId))
    (notFound "vehicle_not_found" "Vehicle not found.")
  match db.openSchedule tenantId vehicleId planId with
  | some existing => return (existing.id, db)
  | none =>
    let date := baseDate.getD now
    let currentKm := baseOdometerKm.getD vehicle.currentKm
    return (db.maintenanceSchedules.freshKey, { db with
      maintenanceSchedules := db.maintenanceSchedules.insert fun id =>
        { id, tenantId, planId, vehicleId
          dueKm := (truthyInt plan.intervalKm).map (currentKm + ·)
          dueAt := (truthyInt plan.intervalDays).map fun n => date + days n } })

/-- What an evaluation makes of a schedule: due from 10% of the distance or fourteen days before. -/
def MaintenanceSchedule.evaluated (now : Instant) (plan : MaintenancePlan) (vehicle : Vehicle)
    (s : MaintenanceSchedule) : MaintenanceSchedule :=
  let margin := (truthyInt plan.intervalKm).map (·.tdiv 10)
  let kmDue := margin.any fun margin => s.dueKm.any (· - margin ≤ vehicle.currentKm)
  let kmOverdue := margin.isSome && s.dueKm.any (· ≤ vehicle.currentKm)
  let dateDue := s.dueAt.any (· - days 14 ≤ now)
  let dateOverdue := s.dueAt.any (· ≤ now)
  if kmOverdue || dateOverdue then
    { s with status := .overdue, notifiedOverdueAt := s.notifiedOverdueAt.or (some now) }
  else if kmDue || dateDue then
    { s with status := .due, notifiedDueAt := s.notifiedDueAt.or (some now) }
  else s

def MaintenanceSchedule.reevaluated (now : Instant) (db : Warehouse) (s : MaintenanceSchedule) :
    MaintenanceSchedule :=
  match db.maintenancePlans.get s.planId, db.vehicles.get s.vehicleId with
  | some plan, some vehicle => s.evaluated now plan vehicle
  | _, _ => s

theorem reevaluated_id (now : Instant) (db : Warehouse) (s : MaintenanceSchedule) :
    (s.reevaluated now db).id = s.id := by
  unfold MaintenanceSchedule.reevaluated MaintenanceSchedule.evaluated
  split
  · dsimp only
    split_ifs <;> rfl
  · rfl

def evaluatePreventiveSchedules (now : Instant) (tenantId : UUID) (db : Warehouse) : Warehouse :=
  { db with
    maintenanceSchedules := db.maintenanceSchedules.modifyAll
      (fun s => s.tenantId = tenantId && (s.status = .pending || s.status = .due))
      (MaintenanceSchedule.reevaluated now db) (reevaluated_id now db) }

/-! ## Conversion -/

/-- `all` stands for what the vehicle is. -/
def effectiveScope (plan : MaintenancePlan) (vehicle : Vehicle) : OwnershipScope :=
  if plan.ownershipScope = .all then
    if vehicle.customerClientId.isSome || vehicle.ownershipType = "customer" then .customer
    else .fleet
  else plan.ownershipScope

/-- The price of the service in the catalogue. -/
def estimatedCost (plan : MaintenancePlan) (db : Warehouse) : Int :=
  ((plan.serviceCatalogItemId.bind db.catalogItems.get).map ServiceCatalogItem.basePrice).getD 0

def preventiveOrder [ClockText] (now : Instant) (tenantId : UUID) (plan : MaintenancePlan)
    (vehicle : Vehicle) (db : Warehouse) (id : UUID) : WorkOrder where
  id
  tenantId
  workOrderNumber := "OS-2026-" ++ ClockText.mmddhhmmss now
  vehicleId := some vehicle.id
  plannedWork := "Manutenção Preventiva Frota: " ++ plan.name
  status := .approved
  estimatedCost := some (estimatedCost plan db)

def preventiveQuote (plan : MaintenancePlan) (vehicle : Vehicle) (clientId : UUID)
    (db : Warehouse) : QuoteCreate where
  clientId := some clientId
  vehicleId := vehicle.id
  items := [{ description := "Revisão Preventiva Recomendada: " ++ plan.name
              unitPrice := if 0 < estimatedCost plan db then estimatedCost plan db / 100 else 1000 }]
  notes := some ("Orçamento rascunho de preventiva gerado automaticamente para o plano " ++
    plan.name ++ ".")

/-- The schedule is converted, with a reference to what it became. -/
def MaintenanceSchedule.converted (status : ScheduleStatus) (workOrderId quoteId : Option UUID)
    (s : MaintenanceSchedule) : MaintenanceSchedule :=
  { s with status, workOrderId := workOrderId.or s.workOrderId, quoteId := quoteId.or s.quoteId }

/-- The work order of a schedule, with its one task. -/
def orderPreventive [ClockText] (now : Instant) (tenantId : UUID) (s : MaintenanceSchedule)
    (plan : MaintenancePlan) (vehicle : Vehicle) (db : Warehouse) : Warehouse :=
  let workOrderId := db.workOrders.freshKey
  { db with
    workOrders := db.workOrders.insert (preventiveOrder now tenantId plan vehicle db)
    tasks := db.tasks.insert fun id =>
      { id, tenantId, workOrderId, description := "Revisão Preventiva: " ++ plan.name }
    maintenanceSchedules := db.maintenanceSchedules.modify s.id
      (.converted .convertedToWo (some workOrderId) none) (fun _ => rfl) }

/-- A converted schedule is answered again; any other becomes a work order of the fleet, or a quote
for the customer. -/
def convertScheduleToAction [ClockText] (now : Instant) (tenantId scheduleId : UUID)
    (db : Warehouse) : Except Exc (UUID × Warehouse) := do
  let s ← require ((db.maintenanceSchedules.get scheduleId).filter (·.tenantId = tenantId))
    (notFound "schedule_not_found" "Maintenance schedule not found.")
  if s.status = .convertedToWo || s.status = .convertedToQuote then return (s.id, db)
  else
    let invalid := unprocessable "invalid_schedule_references" "Plan or vehicle reference missing."
    let plan ← require (db.maintenancePlans.get s.planId) invalid
    let vehicle ← require (db.vehicles.get s.vehicleId) invalid
    if effectiveScope plan vehicle = .fleet then
      return (s.id, orderPreventive now tenantId s plan vehicle db)
    else
      let clientId ← require vehicle.customerClientId (conflict "client_required"
        "Customer client reference missing for external vehicle.")
      let (quoteId, db) ← createQuote now tenantId (preventiveQuote plan vehicle clientId db) db
      return (s.id, { db with
        maintenanceSchedules := db.maintenanceSchedules.modify s.id
          (.converted .convertedToQuote none (some quoteId)) (fun _ => rfl) })

/-! ## Completion -/

/-- The schedules that a finished work order of the vehicle completes. -/
def ScheduleStatus.isActive (status : ScheduleStatus) : Bool :=
  status.isOpen || status = .convertedToWo || status = .convertedToQuote

/-- Each schedule is completed and the next one of its plan is made; an exception ends the loop, and
`close_work_order` goes on with what was done until then. -/
def completeSchedules (now : Instant) (tenantId : UUID) (vehicle : Vehicle) :
    List MaintenanceSchedule → Warehouse → Warehouse
  | [], db => db
  | s :: rest, db =>
    let db := { db with
      maintenanceSchedules := db.maintenanceSchedules.modify s.id fun s => { s with
        status := .completed } }
    match schedulePreventiveMaintenance now tenantId vehicle.id s.planId (some vehicle.currentKm)
      (some now) db with
    | .error _ => db
    | .ok (_, db) => completeSchedules now tenantId vehicle rest db

/-- `handle_work_order_completion_preventive_matching`. -/
def handleWorkOrderCompletion (now : Instant) (tenantId workOrderId : UUID) (db : Warehouse) :
    Warehouse :=
  match (db.workOrders.get workOrderId).filter (·.tenantId = tenantId) with
  | none => db
  | some wo =>
    match wo.vehicleId.bind db.vehicles.get with
    | none => db
    | some vehicle =>
      completeSchedules now tenantId vehicle (db.maintenanceSchedules.rows.filter fun s =>
        s.tenantId = tenantId && s.vehicleId = vehicle.id && s.status.isActive) db

/-! ## The evaluation of the plans -/

def MaintenancePlan.overdue (now : Instant) (plan : MaintenancePlan) (vehicle : Vehicle) : Bool :=
  plan.nextDueKm.any (· ≤ vehicle.currentKm) || plan.nextDueAt.any (· ≤ now)

def Warehouse.scheduleIn (db : Warehouse) (tenantId planId : UUID) (status : ScheduleStatus) :
    Option MaintenanceSchedule :=
  db.maintenanceSchedules.rows.find? fun s =>
    s.tenantId = tenantId && s.planId = planId && s.status = status

/-- A schedule in a status, unless the plan has one. -/
def ensureSchedule (tenantId vehicleId : UUID) (plan : MaintenancePlan) (status : ScheduleStatus)
    (dueKm : Option Int) (dueAt : Option Instant) (db : Warehouse) : Warehouse :=
  match db.scheduleIn tenantId plan.id status with
  | some _ => db
  | none => { db with
      maintenanceSchedules := db.maintenanceSchedules.insert fun id =>
        { id, tenantId, planId := plan.id, vehicleId, dueKm, dueAt, status } }

def WorkOrderStatus.isDone (status : WorkOrderStatus) : Bool :=
  status = .closed || status = .cancelled

/-- `_trigger_maintenance_work_order`: a draft, unless an order of the plan is open. -/
def triggerMaintenanceWorkOrder [Rendering] (now : Instant) (tenantId : UUID)
    (plan : MaintenancePlan) (vehicle : Vehicle) (db : Warehouse) : Warehouse :=
  if db.workOrders.rows.any fun wo => wo.tenantId = tenantId && wo.vehicleId = some vehicle.id &&
      wo.planId = some plan.id && !wo.status.isDone then db
  else { db with
    workOrders := db.workOrders.insert fun id =>
      { id, tenantId, vehicleId := some vehicle.id, planId := some plan.id
        workOrderNumber := "MAINT-" ++ (Rendering.hex8 plan.id).toUpper ++ "-" ++ toString now
        plannedWork := "Manutencao preventiva: " ++ plan.name } }

def evaluatePlan [Rendering] (now : Instant) (tenantId : UUID) (plan : MaintenancePlan)
    (vehicle : Vehicle) (db : Warehouse) : Warehouse :=
  if plan.overdue now vehicle then
    let db := ensureSchedule tenantId vehicle.id plan .overdue plan.nextDueKm plan.nextDueAt db
    let db := triggerMaintenanceWorkOrder now tenantId plan vehicle db
    ensureSchedule tenantId vehicle.id plan .pending (plan.intervalKm.map (vehicle.currentKm + ·))
      (plan.intervalDays.map fun n => now + days n) db
  else db

/-- The active plans of a tenant, with their vehicles. -/
def Warehouse.plannedVehicles (db : Warehouse) (tenantId : UUID) :
    List (MaintenancePlan × Vehicle) :=
  (db.maintenancePlans.rows.filter fun plan =>
    plan.tenantId = tenantId && plan.status = "active").filterMap fun plan =>
      (plan.vehicleId.bind db.vehicles.get).map (plan, ·)

def evaluateMaintenanceSchedule [Rendering] (now : Instant) (tenantId : UUID) (db : Warehouse) :
    Warehouse :=
  (db.plannedVehicles tenantId).foldl (fun db p => evaluatePlan now tenantId p.1 p.2 db) db

end Rotas
