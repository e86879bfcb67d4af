import Rotas.Availability.Service
import Rotas.Checklists.Service
import Rotas.Lib.Grouping
import Rotas.Lib.Queries
import Rotas.OperationalExceptions.Service
import Rotas.Trips.Allowance

/-!
# Rotas.ControlTower.Summary

What the control tower reads, and the counters at its head: the tables of every department, and the
columns that only the tower looks at.

* `Stamps`, `Tower` — when the rows of a table were made and last changed, and the tables.
* `Paged`, `Paged.of` — a page of the rows of a query.
* `vehicleDocumentExpiryQueue`, `driverDocumentExpiryQueue` — the documents that expire soon, the
  first ten of them.
* `miscRow`, `fleetRow` — two queries that join tables that have nothing to do with each other.
* `summary`, `rowCounts` — the counters of `get_control_tower`, and each from its own table.
* `summary_eq_rowCounts_iff` — when the two agree.
-/

namespace Rotas.ControlTower

structure Stamps where
  createdAt : UUID → Instant := fun _ => 0
  updatedAt : UUID → Instant := fun _ => 0

structure Tower extends AllowanceDb where
  drivers : Table Driver := ∅
  dispatchClearances : Table DispatchClearance := ∅
  operationalExceptions : Table OperationalException := ∅
  alerts : Table Alert := ∅
  checklists : Table Checklist := ∅
  workOrders : Table WorkOrder := ∅
  spareParts : Table SparePart := ∅
  toolCheckouts : Table ToolCheckout := ∅
  maintenanceSchedules : Table MaintenanceSchedule := ∅
  tripStamps : Stamps := {}
  clearanceStamps : Stamps := {}
  proofStamps : Stamps := {}
  alertStamps : Stamps := {}
  checklistStamps : Stamps := {}
  workOrderStamps : Stamps := {}
  minimumQuantity : UUID → Int := fun _ => 0
  documentNumber : UUID → Option String := fun _ => none

/-- `page` and `page_size` of a request; the router lets none below 1 through. -/
structure Paged where
  page : Nat := 1
  pageSize : Nat := 50
  page_pos : 0 < page := by decide
  pageSize_pos : 0 < pageSize := by decide
  deriving DecidableEq

namespace Paged

variable {α : Type}

def offset (p : Paged) : Nat := (p.page - 1) * p.pageSize

/-- `LIMIT page_size OFFSET offset`. -/
def of (p : Paged) (rows : List α) : List α := Rotas.page p.pageSize p.offset rows

theorem mem_of_mem {p : Paged} {rows : List α} {a : α} (h : a ∈ p.of rows) : a ∈ rows :=
  List.mem_of_mem_drop (List.mem_of_mem_take h)

end Paged

/-- The vehicle and the driver of a trip; the joins are outer ones. -/
structure Crew where
  vehicle : Option Vehicle
  driver : Option Driver

def Tower.crew (t : Tower) (vehicleId driverId : UUID) : Crew where
  vehicle := t.vehicles.get vehicleId
  driver := t.drivers.get driverId

/-- The rows with the trip they belong to; the join is an inner one. -/
def Tower.withTrip {ρ : Type} (t : Tower) (tripId : ρ → UUID) (rows : List ρ) : List (ρ × Trip) :=
  rows.filterMap fun row => (t.trips.get (tripId row)).map (row, ·)

/-- `day_bounds`. -/
def dayBounds (now : Instant) (targetDate : Option Int) : Except Exc (Instant × Instant) := do
  let selected := targetDate.getD (utcDate now)
  let next ← addDays selected 1
  return (selected * 86400, next * 86400)

def Tower.activeVehicles (tenantId : UUID) (t : Tower) : List Vehicle :=
  t.vehicles.rows.filter fun v => v.tenantId = tenantId && v.status = "active"

def Tower.activeDrivers (tenantId : UUID) (t : Tower) : List Driver :=
  t.drivers.rows.filter fun d => d.tenantId = tenantId && d.status = "active"

/-- The rows with their warnings. -/
def withWarnings {ρ : Type} (warn : ρ → Except Exc (List ComplianceWarning)) (rows : List ρ) :
    Except Exc (List (ρ × ComplianceWarning)) :=
  (rows.mapM fun row => (warn row).map (·.map (row, ·))).map List.flatten

/-- The rows with those of their documents that expire soon. -/
def withExpiring {ρ : Type} (today : Int) (policy : CompliancePolicy)
    (candidates : ρ → List (String × Option Int)) (rows : List ρ) : List (ρ × ComplianceWarning) :=
  rows.flatMap fun row => ((candidates row).filterMap (expiring today policy)).map (row, ·)

theorem withWarnings_eq_ok {ρ : Type} {today : Int} {policy : CompliancePolicy}
    {candidates : ρ → List (String × Option Int)} {rows : List ρ}
    {ws : List (ρ × ComplianceWarning)} :
    withWarnings (fun row => warnDocuments today policy (candidates row)) rows = .ok ws ↔
      ws = withExpiring today policy candidates rows ∧
        ∀ row ∈ rows, ∀ d ∈ candidates row, Weighed today policy d := by
  have hrow (row : ρ) (ws : List (ρ × ComplianceWarning)) :
      (warnDocuments today policy (candidates row)).map (·.map (row, ·)) = .ok ws ↔
        ws = ((candidates row).filterMap (expiring today policy)).map (row, ·) ∧
          ∀ d ∈ candidates row, Weighed today policy d := by
    rw [map_eq_ok]
    simp only [warnDocuments_eq_ok]
    constructor
    · rintro ⟨_, ⟨rfl, hall⟩, rfl⟩
      exact ⟨rfl, hall⟩
    · rintro ⟨rfl, hall⟩
      exact ⟨_, ⟨rfl, hall⟩, rfl⟩
  rw [withWarnings, map_eq_ok]
  simp only [mapM_eq_ok hrow]
  constructor
  · rintro ⟨_, ⟨rfl, hall⟩, rfl⟩
    exact ⟨rfl, hall⟩
  · rintro ⟨rfl, hall⟩
    exact ⟨_, ⟨rfl, hall⟩, rfl⟩

section

variable [Interpreter]

/-- The warnings about the active vehicles. -/
def vehicleWarnings (now : Instant) (tenantId : UUID) (t : Tower) :
    Except Exc (List (Vehicle × ComplianceWarning)) :=
  withWarnings (vehicleComplianceWarnings now · (tenantPolicy tenantId t.toDb))
    (t.activeVehicles tenantId)

def driverWarnings (now : Instant) (tenantId : UUID) (t : Tower) :
    Except Exc (List (Driver × ComplianceWarning)) :=
  withWarnings (driverComplianceWarnings now · (tenantPolicy tenantId t.toDb))
    (t.activeDrivers tenantId)

/-- The ten that expire first. -/
def soonest {ρ : Type} (warnings : List (ρ × ComplianceWarning)) : List (ρ × ComplianceWarning) :=
  (orderDesc [fun w => -w.2.daysUntilExpiry] warnings).take 10

def vehicleDocumentExpiryQueue (now : Instant) (tenantId : UUID) (t : Tower) :
    Except Exc (List (Vehicle × ComplianceWarning)) := (vehicleWarnings now tenantId t).map soonest

def driverDocumentExpiryQueue (now : Instant) (tenantId : UUID) (t : Tower) :
    Except Exc (List (Driver × ComplianceWarning)) := (driverWarnings now tenantId t).map soonest

end

/-! ## Counts from joined tables -/

def waiverActive (w : OperationalWaiver) : Bool := w.status = .active

def exceptionOpen (e : OperationalException) : Bool :=
  e.status = .opened || e.status = .acknowledged

def alertActive (a : Alert) : Bool := ["pending", "sent", "read"].contains a.status

structure MiscRow where
  activeWaivers : Nat
  operationalExceptionsOpen : Nat
  alertsActive : Nat

/-- The waivers with the exceptions and the alerts of the tenant, each with each. The empty
`group_by()` groups by nothing, so that the aggregate is one row whatever the tables hold. -/
def miscRow (tenantId : UUID) (t : Tower) : Option MiscRow :=
  let waivers := t.operationalWaivers.rows.filter fun w => w.tenantId = tenantId
  let joined := leftJoin (fun _ a => a.tenantId = tenantId)
    (leftJoin (fun _ e => e.tenantId = tenantId) waivers t.operationalExceptions.rows) t.alerts.rows
  some {
    activeWaivers := joined.countP fun row => waiverActive row.1.1
    operationalExceptionsOpen := joined.countP fun row => row.1.2.any exceptionOpen
    alertsActive := joined.countP fun row => row.2.any alertActive }

structure FleetRow where
  vehiclesActive : Nat
  driversActive : Nat

/-- The vehicles with the drivers of the tenant, each with each. -/
def fleetRow (tenantId : UUID) (t : Tower) : Option FleetRow :=
  let joined := leftJoin (fun _ d => d.tenantId = tenantId)
    (t.vehicles.rows.filter fun v => v.tenantId = tenantId) t.drivers.rows
  some {
    vehiclesActive := joined.countP fun row => row.1.status = "active"
    driversActive := joined.countP fun row => row.2.any fun d => d.status = "active" }

/-! ## Counts of one table -/

def activeWaivers (tenantId : UUID) (t : Tower) : Nat :=
  t.operationalWaivers.rows.countP fun w => w.tenantId = tenantId && waiverActive w

def operationalExceptionsOpen (tenantId : UUID) (t : Tower) : Nat :=
  t.operationalExceptions.rows.countP fun e => e.tenantId = tenantId && exceptionOpen e

def alertsActive (tenantId : UUID) (t : Tower) : Nat :=
  t.alerts.rows.countP fun a => a.tenantId = tenantId && alertActive a

def vehiclesActive (tenantId : UUID) (t : Tower) : Nat :=
  t.vehicles.rows.countP fun v => v.tenantId = tenantId && v.status = "active"

def driversActive (tenantId : UUID) (t : Tower) : Nat :=
  t.drivers.rows.countP fun d => d.tenantId = tenantId && d.status = "active"

/-- `_financial_summary`. -/
structure Financial where
  costsReconciledTrips : Nat
  transportCostTotal : Int
  contractRevenueTotal : Int
  marginTotal : Int
  negativeMarginTrips : Nat
  closedTripsUnreconciled : Nat

def financialSummary (tenantId : UUID) (t : Tower) : Financial :=
  let own := t.trips.rows.filter fun trip => trip.tenantId = tenantId
  let reconciled := own.filter fun trip => trip.costsReconciledAt.isSome
  { costsReconciledTrips := reconciled.length
    transportCostTotal := (reconciled.map Trip.totalTransportCost).sum
    contractRevenueTotal := (reconciled.map Trip.actualRevenue).sum
    marginTotal := (reconciled.map Trip.actualMargin).sum
    negativeMarginTrips := reconciled.countP fun trip => trip.actualMargin < 0
    closedTripsUnreconciled := own.countP fun trip =>
      trip.status = .closed && trip.costsReconciledAt.isNone }

structure Summary extends Financial where
  tripOrdersOpen : Nat
  dispatchPending : Nat
  dispatchBlocked : Nat
  tripsInExecution : Nat
  incidentsOpen : Nat
  deliveryProofsPendingValidation : Nat
  billingReady : Nat
  activeWaivers : Nat
  operationalExceptionsOpen : Nat
  alertsActive : Nat
  workOrdersActive : Nat
  sparePartsLowStock : Nat
  toolCheckoutsOverdue : Nat
  maintenanceOverdue : Nat
  vehiclesActive : Nat
  driversActive : Nat
  tripsCreatedToday : Nat
  vehicleDocumentsExpiring : Nat
  driverDocumentsExpiring : Nat

/-- The counters, with those that the joined tables give. -/
def summaryOf (now : Instant) (tenantId : UUID) (bounds : Instant × Instant) (misc : MiscRow)
    (fleet : FleetRow) (vehicleDocuments driverDocuments : Nat) (t : Tower) : Summary :=
  let trips := t.trips.rows.filter fun trip => trip.tenantId = tenantId
  let clearances := t.dispatchClearances.rows.filter fun c => c.tenantId = tenantId
  { financialSummary tenantId t with
    tripOrdersOpen := t.tripOrders.rows.countP fun o => o.tenantId = tenantId &&
      ["draft", "confirmed", "planning", "assigned"].contains o.status
    dispatchPending := clearances.countP fun c => c.clearanceStatus = .pending
    dispatchBlocked := clearances.countP fun c => c.clearanceStatus = .blocked
    tripsInExecution := trips.countP fun trip =>
      trip.status ∈ [TripStatus.dispatched, .inProgress, .delayed, .incident]
    incidentsOpen := t.tripIncidents.rows.countP fun i =>
      i.tenantId = tenantId && (i.status = .open || i.status = .investigating)
    deliveryProofsPendingValidation := t.deliveryProofs.rows.countP fun p =>
      p.tenantId = tenantId && p.status = .pending
    billingReady := trips.countP fun trip => trip.billingStatus = .billable
    activeWaivers := misc.activeWaivers
    operationalExceptionsOpen := misc.operationalExceptionsOpen
    alertsActive := misc.alertsActive
    workOrdersActive := t.workOrders.rows.countP fun w =>
      w.tenantId = tenantId && w.status ∈ activeWorkOrderStatuses
    sparePartsLowStock := t.spareParts.rows.countP fun p =>
      p.tenantId = tenantId && p.status = .active && p.currentQuantity ≤ t.minimumQuantity p.id
    toolCheckoutsOverdue := t.toolCheckouts.rows.countP fun c =>
      c.tenantId = tenantId && c.status = .checkedOut && c.dueAt.any (· < now)
    maintenanceOverdue := t.maintenanceSchedules.rows.countP fun s =>
      s.tenantId = tenantId && s.status = .overdue
    vehiclesActive := fleet.vehiclesActive
    driversActive := fleet.driversActive
    tripsCreatedToday := trips.countP fun trip =>
      bounds.1 ≤ t.tripStamps.createdAt trip.id && t.tripStamps.createdAt trip.id < bounds.2
    vehicleDocumentsExpiring := vehicleDocuments
    driverDocumentsExpiring := driverDocuments }

section

variable [Interpreter]

/-- The counters of `get_control_tower`. -/
def summary (now : Instant) (tenantId : UUID) (targetDate : Option Int) (t : Tower) :
    Except Exc Summary := do
  let bounds ← dayBounds now targetDate
  let vehicleDocuments ← vehicleDocumentExpiryQueue now tenantId t
  let driverDocuments ← driverDocumentExpiryQueue now tenantId t
  let misc := match miscRow tenantId t with
    | none =>
      ⟨activeWaivers tenantId t, operationalExceptionsOpen tenantId t, alertsActive tenantId t⟩
    | some row => row
  let fleet := match fleetRow tenantId t with
    | none => ⟨vehiclesActive tenantId t, driversActive tenantId t⟩
    | some row => row
  return summaryOf now tenantId bounds misc fleet vehicleDocuments.length driverDocuments.length t

/-- The documents of the active vehicles that expire soon. -/
def vehiclesExpiring (now : Instant) (tenantId : UUID) (t : Tower) :
    List (Vehicle × ComplianceWarning) :=
  let policy := tenantPolicy tenantId t.toDb
  withExpiring (utcDate now) policy (Vehicle.candidates · policy) (t.activeVehicles tenantId)

def driversExpiring (now : Instant) (tenantId : UUID) (t : Tower) :
    List (Driver × ComplianceWarning) :=
  let policy := tenantPolicy tenantId t.toDb
  withExpiring (utcDate now) policy (Driver.warned · policy) (t.activeDrivers tenantId)

/-- Each counter from the rows of its own table. -/
def rowCounts (now : Instant) (tenantId : UUID) (targetDate : Option Int) (t : Tower) : Summary :=
  let day := targetDate.getD (utcDate now)
  summaryOf now tenantId (day * 86400, (day + 1) * 86400)
    ⟨activeWaivers tenantId t, operationalExceptionsOpen tenantId t, alertsActive tenantId t⟩
    ⟨vehiclesActive tenantId t, driversActive tenantId t⟩ (vehiclesExpiring now tenantId t).length
    (driversExpiring now tenantId t).length t

/-! ## When the counters are right -/

/-- The rows of the tenant in a table. -/
def ownWaivers (tenantId : UUID) (t : Tower) : Nat :=
  t.operationalWaivers.rows.countP fun w => w.tenantId = tenantId

def ownExceptions (tenantId : UUID) (t : Tower) : Nat :=
  t.operationalExceptions.rows.countP fun e => e.tenantId = tenantId

def ownAlerts (tenantId : UUID) (t : Tower) : Nat :=
  t.alerts.rows.countP fun a => a.tenantId = tenantId

def ownVehicles (tenantId : UUID) (t : Tower) : Nat :=
  t.vehicles.rows.countP fun v => v.tenantId = tenantId

def ownDrivers (tenantId : UUID) (t : Tower) : Nat :=
  t.drivers.rows.countP fun d => d.tenantId = tenantId

/-- No table multiplies or hides what is counted in another one it is joined with, no more documents
expire than a queue holds, and the days that are compared with are dates. -/
structure CountedOnce (now : Instant) (tenantId : UUID) (targetDate : Option Int) (t : Tower) :
    Prop where
  waivers : activeWaivers tenantId t = 0 ∨
    ownExceptions tenantId t ≤ 1 ∧ ownAlerts tenantId t ≤ 1
  exceptions : operationalExceptionsOpen tenantId t = 0 ∨
    ownWaivers tenantId t = 1 ∧ ownAlerts tenantId t ≤ 1
  alerts : alertsActive tenantId t = 0 ∨
    ownWaivers tenantId t = 1 ∧ ownExceptions tenantId t ≤ 1
  vehicles : vehiclesActive tenantId t = 0 ∨ ownDrivers tenantId t ≤ 1
  drivers : driversActive tenantId t = 0 ∨ ownVehicles tenantId t = 1
  vehicleDocuments : (vehiclesExpiring now tenantId t).length ≤ 10
  driverDocuments : (driversExpiring now tenantId t).length ≤ 10
  day : targetDate.getD (utcDate now) + 1 ≤ 2932896
  vehicleDates : ∀ v ∈ t.activeVehicles tenantId, ∀ d ∈ v.candidates (tenantPolicy tenantId t.toDb),
    Weighed (utcDate now) (tenantPolicy tenantId t.toDb) d
  driverDates : ∀ v ∈ t.activeDrivers tenantId, ∀ d ∈ v.warned (tenantPolicy tenantId t.toDb),
    Weighed (utcDate now) (tenantPolicy tenantId t.toDb) d

end

section

variable {tenantId : UUID} {t : Tower}

theorem length_soonest {ρ : Type} (warnings : List (ρ × ComplianceWarning)) :
    (soonest warnings).length = min 10 warnings.length := by
  rw [soonest, List.length_take, (orderDesc_perm _ _).length_eq]

theorem miscRow_eq (tenantId : UUID) (t : Tower) :
    miscRow tenantId t = some {
      activeWaivers := activeWaivers tenantId t *
        (max (ownExceptions tenantId t) 1 * max (ownAlerts tenantId t) 1)
      operationalExceptionsOpen := ownWaivers tenantId t * max (ownAlerts tenantId t) 1 *
        operationalExceptionsOpen tenantId t
      alertsActive := ownWaivers tenantId t * max (ownExceptions tenantId t) 1 *
        alertsActive tenantId t } := by
  have hfilter : (t.operationalWaivers.rows.filter fun w => w.tenantId = tenantId).countP
      waiverActive = activeWaivers tenantId t := by
    rw [List.countP_filter]
    exact List.countP_congr fun w _ => by rw [Bool.and_comm]
  have hlength : (t.operationalWaivers.rows.filter fun w => w.tenantId = tenantId).length =
      ownWaivers tenantId t := List.countP_eq_length_filter.symm
  rw [miscRow, Option.some.injEq, MiscRow.mk.injEq]
  refine ⟨?_, ?_, ?_⟩
  · rw [countP_leftJoin_left fun row : OperationalWaiver × Option OperationalException =>
      waiverActive row.1, countP_leftJoin_left waiverActive, hfilter, Nat.mul_assoc]
    rfl
  · rw [countP_leftJoin_left fun row : OperationalWaiver × Option OperationalException =>
      row.2.any exceptionOpen, countP_leftJoin_right exceptionOpen, hlength, Nat.mul_right_comm]
    rfl
  · rw [countP_leftJoin_right alertActive, length_leftJoin, hlength]
    rfl

theorem fleetRow_eq (tenantId : UUID) (t : Tower) :
    fleetRow tenantId t = some {
      vehiclesActive := vehiclesActive tenantId t * max (ownDrivers tenantId t) 1
      driversActive := ownVehicles tenantId t * driversActive tenantId t } := by
  have hfilter : ((t.vehicles.rows.filter fun v => v.tenantId = tenantId).countP
      fun v => v.status = "active") = vehiclesActive tenantId t := by
    rw [List.countP_filter]
    exact List.countP_congr fun v _ => by rw [Bool.and_comm]
  have hlength : (t.vehicles.rows.filter fun v => v.tenantId = tenantId).length =
      ownVehicles tenantId t := List.countP_eq_length_filter.symm
  rw [fleetRow, Option.some.injEq, FleetRow.mk.injEq]
  constructor
  · rw [countP_leftJoin_left fun v : Vehicle => decide (v.status = "active"), hfilter]
    rfl
  · rw [countP_leftJoin_right fun d : Driver => decide (d.status = "active"), hlength]
    rfl

theorem summaryOf_inj {now : Instant} {bounds : Instant × Instant} {m m' : MiscRow} {f f' : FleetRow}
    {a b a' b' : Nat} :
    summaryOf now tenantId bounds m f a b t = summaryOf now tenantId bounds m' f' a' b' t ↔
      m = m' ∧ f = f' ∧ a = a' ∧ b = b' := by
  constructor
  · intro h
    simp only [summaryOf, Summary.mk.injEq] at h
    obtain ⟨-, -, -, -, -, -, -, -, h₁, h₂, h₃, -, -, -, -, h₄, h₅, -, h₆, h₇⟩ := h
    cases m; cases m'; cases f; cases f'
    exact ⟨MiscRow.mk.injEq .. ▸ ⟨h₁, h₂, h₃⟩, FleetRow.mk.injEq .. ▸ ⟨h₄, h₅⟩, h₆, h₇⟩
  · rintro ⟨rfl, rfl, rfl, rfl⟩
    rfl

theorem max_one_eq_one_iff {n : Nat} : max n 1 = 1 ↔ n ≤ 1 := max_eq_right_iff

/-- The counters of the joined tables and of the queues against those of the rows. -/
theorem counters_eq_iff {now : Instant} {bounds : Instant × Instant}
    {vehicles : List (Vehicle × ComplianceWarning)} {drivers : List (Driver × ComplianceWarning)} :
    summaryOf now tenantId bounds
        { activeWaivers := activeWaivers tenantId t *
            (max (ownExceptions tenantId t) 1 * max (ownAlerts tenantId t) 1)
          operationalExceptionsOpen := ownWaivers tenantId t * max (ownAlerts tenantId t) 1 *
            operationalExceptionsOpen tenantId t
          alertsActive := ownWaivers tenantId t * max (ownExceptions tenantId t) 1 *
            alertsActive tenantId t }
        { vehiclesActive := vehiclesActive tenantId t * max (ownDrivers tenantId t) 1
          driversActive := ownVehicles tenantId t * driversActive tenantId t }
        (soonest vehicles).length (soonest drivers).length t =
      summaryOf now tenantId bounds
        ⟨activeWaivers tenantId t, operationalExceptionsOpen tenantId t, alertsActive tenantId t⟩
        ⟨vehiclesActive tenantId t, driversActive tenantId t⟩ vehicles.length drivers.length t ↔
      ((activeWaivers tenantId t = 0 ∨ ownExceptions tenantId t ≤ 1 ∧ ownAlerts tenantId t ≤ 1) ∧
        (operationalExceptionsOpen tenantId t = 0 ∨
          ownWaivers tenantId t = 1 ∧ ownAlerts tenantId t ≤ 1) ∧
        (alertsActive tenantId t = 0 ∨
          ownWaivers tenantId t = 1 ∧ ownExceptions tenantId t ≤ 1)) ∧
      ((vehiclesActive tenantId t = 0 ∨ ownDrivers tenantId t ≤ 1) ∧
        (driversActive tenantId t = 0 ∨ ownVehicles tenantId t = 1)) ∧
      vehicles.length ≤ 10 ∧ drivers.length ≤ 10 := by
  rw [summaryOf_inj, length_soonest, length_soonest, MiscRow.mk.injEq, FleetRow.mk.injEq]
  simp only [mul_right_eq_self₀, mul_left_eq_self₀, mul_eq_one, max_one_eq_one_iff,
    min_eq_right_iff, or_comm]

theorem dayBounds_eq_ok {now : Instant} {targetDate : Option Int} {bounds : Instant × Instant} :
    dayBounds now targetDate = .ok bounds ↔
      bounds = (targetDate.getD (utcDate now) * 86400, (targetDate.getD (utcDate now) + 1) * 86400) ∧
        targetDate.getD (utcDate now) + 1 ≤ 2932896 := by
  simp only [dayBounds, bind_eq_ok, addDays_eq_ok, pure, Except.pure, Except.ok.injEq]
  constructor
  · rintro ⟨_, ⟨rfl, -, hday⟩, rfl⟩
    exact ⟨rfl, hday⟩
  · rintro ⟨rfl, hday⟩
    exact ⟨_, ⟨rfl, by decide, hday⟩, rfl⟩

/-- The counters are given, and right, exactly when no joined table gets in the way of another. -/
theorem summary_eq_rowCounts_iff [Interpreter] (now : Instant) (tenantId : UUID)
    (targetDate : Option Int) (t : Tower) :
    summary now tenantId targetDate t = .ok (rowCounts now tenantId targetDate t) ↔
      CountedOnce now tenantId targetDate t := by
  simp only [summary, bind_eq_ok, dayBounds_eq_ok, vehicleDocumentExpiryQueue,
    driverDocumentExpiryQueue, map_eq_ok, vehicleWarnings, driverWarnings, vehicleComplianceWarnings,
    driverComplianceWarnings, withWarnings_eq_ok, miscRow_eq, fleetRow_eq, pure, Except.pure,
    Except.ok.injEq, rowCounts]
  constructor
  · rintro ⟨_, ⟨rfl, hday⟩, _, ⟨_, ⟨rfl, hvehicles⟩, rfl⟩, _, ⟨_, ⟨rfl, hdrivers⟩, rfl⟩, hsame⟩
    obtain ⟨⟨h₁, h₂, h₃⟩, ⟨h₄, h₅⟩, h₆, h₇⟩ := counters_eq_iff.mp hsame
    exact ⟨h₁, h₂, h₃, h₄, h₅, h₆, h₇, hday, hvehicles, hdrivers⟩
  · rintro ⟨h₁, h₂, h₃, h₄, h₅, h₆, h₇, hday, hvehicles, hdrivers⟩
    exact ⟨_, ⟨rfl, hday⟩, _, ⟨_, ⟨rfl, hvehicles⟩, rfl⟩, _, ⟨_, ⟨rfl, hdrivers⟩, rfl⟩,
      counters_eq_iff.mpr ⟨⟨h₁, h₂, h₃⟩, ⟨h₄, h₅⟩, h₆, h₇⟩⟩

end

/-- One active waiver and two open exceptions, of which none has to do with another. -/
def twoExceptions : Tower where
  operationalWaivers := .single
    { id := 1, tenantId := 1, entityType := "trip", entityId := 1, waiverType := "no_pod"
      reason := "Sem POD", approvedAt := 0 }
  operationalExceptions :=
    let opened (id : UUID) : OperationalException :=
      { id, tenantId := 1, entityType := "trip", entityId := id, exceptionType := "delay"
        severity := .low, title := "Atraso", message := "Atraso", createdAt := 0 }
    ⟨[opened 1, opened 2], by decide⟩

/-- The tower shows two active waivers. -/
theorem waiver_counted_twice :
    let := Interpreter.undated
    (summary 0 1 none twoExceptions).map Summary.activeWaivers = .ok 2 ∧
      (rowCounts 0 1 none twoExceptions).activeWaivers = 1 ∧
      summary 0 1 none twoExceptions ≠ .ok (rowCounts 0 1 none twoExceptions) := by
  have hshown : (@summary Interpreter.undated 0 1 none twoExceptions).map Summary.activeWaivers =
      .ok 2 := by
    rfl
  have hcounted : (@rowCounts Interpreter.undated 0 1 none twoExceptions).activeWaivers = 1 := by
    decide
  refine ⟨hshown, hcounted, fun h => ?_⟩
  rw [h] at hshown
  cases hcounted.symm.trans (Except.ok.inj hshown)

end Rotas.ControlTower
