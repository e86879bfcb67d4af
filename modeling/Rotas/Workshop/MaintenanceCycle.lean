import Rotas.Fuel.Operations
import Rotas.Workshop.MaintenanceSteps

/-!
# Rotas.Workshop.MaintenanceCycle

Preventive maintenance over runs of both of its engines, the odometers and the work orders.

* `MaintenanceCall` — the operations.
* `keepsOne`  — nothing is generated twice, and no order is closed while its plan stays due.
* `Rests`     — evaluations on one day generate nothing.
* `maintenance_does_not_multiply` — every run of such operations.
-/

namespace Rotas

open Table Work

/-! ## Operations -/

theorem key_currentKm (currentKm : Int) (v : Vehicle) :
    Keyed.key { v with currentKm } = Keyed.key v := rfl

/-- What `patch_vehicle` does with an odometer. -/
def patchOdometer (tenantId vehicleId : UUID) (currentKm : Int) (g : Garage) :
    Except Exc (UUID × Garage) := do
  let vehicle ← requireVehicle tenantId (some vehicleId) g.warehouse
  return (vehicle.id, { g with
    db := { g.db with
      vehicles := g.db.vehicles.modify vehicle.id (fun v => { v with currentKm })
        (key_currentKm currentKm) } })

/-- What a refuel does with it. -/
def refuelOdometer (vehicleId : UUID) (reading : Int) (g : Garage) : Except Exc (Unit × Garage) :=
  .ok ((), { g with db := { g.db with vehicles := advanceOdometer vehicleId reading g.db.vehicles } })

inductive MaintenanceCall where
  | createPlan (tenantId : UUID) (name : String) (serviceCatalogItemId vehicleId : Option UUID)
      (intervalKm intervalDays : Option Int) (ownershipScope : OwnershipScope)
      (requestReference : String)
  | requestPlan (tenantId : UUID) (vehicleId : Option UUID) (intervalKm intervalDays : Option Int)
  | schedule (now : Instant) (tenantId vehicleId planId : UUID) (baseOdometerKm : Option Int)
      (baseDate : Option Instant)
  | evaluateSchedules (now : Instant) (tenantId : UUID)
  | evaluatePlans (now : Instant) (tenantId : UUID)
  | convert (now : Instant) (tenantId scheduleId : UUID)
  | patchOdometer (tenantId vehicleId : UUID) (currentKm : Int)
  | refuel (vehicleId : UUID) (reading : Int)
  | createOrder (tenantId : UUID) (payload : WorkOrderCreate) (hex12 : String)
  | approve (now : Instant) (tenantId workOrderId : UUID) (actorId : Option UUID)
  | start (tenantId workOrderId : UUID)
  | completeTask (now : Instant) (tenantId workOrderId taskId : UUID) (actualMinutes : Option Int)
      (notes : Option String) (actorId : Option UUID)
  | qualityCheck (tenantId workOrderId : UUID)
  | close (now : Instant) (tenantId workOrderId : UUID) (actualCost : Option ℚ) (notes : String)
      (actorId : Option UUID)

section Call

variable [Locale] [Rendering] [ClockText]

/-- A call that is refused, by its checks or by the database, changes nothing. -/
def Garage.maintain (g : Garage) : MaintenanceCall → Garage
  | .createPlan tenantId name serviceCatalogItemId vehicleId intervalKm intervalDays ownershipScope
      requestReference =>
    perform (Garage.onWarehouse (createMaintenancePlan tenantId name serviceCatalogItemId vehicleId
      intervalKm intervalDays ownershipScope requestReference)) g
  | .requestPlan tenantId vehicleId intervalKm intervalDays =>
    perform (Garage.onWarehouse (requestMaintenancePlan tenantId vehicleId intervalKm intervalDays)) g
  | .schedule now tenantId vehicleId planId baseOdometerKm baseDate =>
    perform (Garage.onWarehouse (schedulePreventiveMaintenance now tenantId vehicleId planId
      baseOdometerKm baseDate)) g
  | .evaluateSchedules now tenantId =>
    perform (Garage.onWarehouse fun w => .ok ((), evaluatePreventiveSchedules now tenantId w)) g
  | .evaluatePlans now tenantId =>
    perform (Garage.onWarehouse fun w => .ok ((), evaluateMaintenanceSchedule now tenantId w)) g
  | .convert now tenantId scheduleId =>
    perform (Garage.onWarehouse (convertScheduleToAction now tenantId scheduleId)) g
  | .patchOdometer tenantId vehicleId currentKm =>
    perform (Rotas.patchOdometer tenantId vehicleId currentKm) g
  | .refuel vehicleId reading => perform (refuelOdometer vehicleId reading) g
  | .createOrder tenantId payload hex12 =>
    perform (Garage.onWarehouse (createWorkOrder tenantId payload hex12)) g
  | .approve now tenantId workOrderId actorId =>
    perform (Garage.onWarehouse (approveWorkOrder now tenantId workOrderId actorId)) g
  | .start tenantId workOrderId => perform (Garage.onWarehouse (startWorkOrder tenantId workOrderId)) g
  | .completeTask now tenantId workOrderId taskId actualMinutes notes actorId =>
    perform (Garage.onWarehouse (completeWorkOrderTask now tenantId workOrderId taskId actualMinutes
      notes actorId)) g
  | .qualityCheck tenantId workOrderId =>
    perform (Garage.onWarehouse (sendWorkOrderToQualityCheck tenantId workOrderId)) g
  | .close now tenantId workOrderId actualCost notes actorId =>
    perform (closeWorkOrder now tenantId workOrderId actualCost notes actorId) g

end Call

/-! ## Due plans -/

/-- The plan is due at some time of the day. -/
def MaintenancePlan.dueOn (day : Int) (plan : MaintenancePlan) (vehicle : Vehicle) : Bool :=
  plan.nextDueKm.any (· ≤ vehicle.currentKm) || plan.nextDueAt.any (utcDate · ≤ day)

theorem utcDate_le_iff {t : Instant} {day : Int} : utcDate t ≤ day ↔ t ≤ 86400 * day + 86399 := by
  have hdiv : ∀ x d : Int, x / 86400 ≤ d ↔ x ≤ 86400 * d + 86399 := by omega
  exact hdiv t day

theorem dueOn_iff {day : Int} {plan : MaintenancePlan} {vehicle : Vehicle} :
    plan.dueOn day vehicle = true ↔ ∃ t, utcDate t = day ∧ plan.overdue t vehicle = true := by
  simp only [MaintenancePlan.dueOn, MaintenancePlan.overdue, Bool.or_eq_true, Option.any_eq_true,
    decide_eq_true_eq]
  constructor
  · intro h
    -- the last second of the day
    have hlast : utcDate (86400 * day + 86399) = day := by unfold utcDate; omega
    refine ⟨86400 * day + 86399, hlast, h.imp id ?_⟩
    rintro ⟨due, hdue, hle⟩
    exact ⟨due, hdue, utcDate_le_iff.mp hle⟩
  · rintro ⟨t, hday, h⟩
    refine h.imp id ?_
    rintro ⟨due, hdue, hle⟩
    exact ⟨due, hdue, utcDate_le_iff.mpr (hle.trans (utcDate_le_iff.mp (Int.le_of_eq hday)))⟩

/-- No active plan that an order was generated from is due on the day. -/
def Garage.settledOn (g : Garage) (day : Int) (wo : WorkOrder) : Bool :=
  g.shop.maintenancePlans.rows.all fun plan => plan.status ≠ "active" ||
    (plan.vehicleId.bind g.db.vehicles.get).all fun vehicle =>
      !g.shop.generated plan.id vehicle.id wo || !plan.dueOn day vehicle

/-- A schedule is converted to an order when none generated from it is open, an evaluation opens one
schedule and one order at most, and an order is closed when its plan is no longer due. -/
def keepsOne (g : Garage) : MaintenanceCall → Bool
  | .convert _ tenantId scheduleId => (g.warehouse.converts tenantId scheduleId).all fun s =>
    g.warehouse.openOrders s.planId s.vehicleId = 0
  | .evaluatePlans now tenantId => (g.warehouse.plannedVehicles tenantId).all fun x =>
    g.warehouse.takesPlan now tenantId x.1 x.2
  | .close now tenantId workOrderId _ _ _ => (g.shop.workOrders.get workOrderId).all fun wo =>
    !(wo.tenantId = tenantId && wo.status = .qualityCheck) || g.settledOn (utcDate now) wo
  | _ => true

/-- Both engines, on a day. -/
def MaintenanceCall.reevaluates (day : Int) : MaintenanceCall → Bool
  | .evaluateSchedules now _ => utcDate now = day
  | .evaluatePlans now _ => utcDate now = day
  | _ => false

def MaintenanceCall.movesOdometer : MaintenanceCall → Bool
  | .patchOdometer .. => true
  | .refuel .. => true
  | _ => false

section Run

variable {g g' g₀ : Garage} {cs : List MaintenanceCall} {planId vehicleId : UUID}

theorem MaintenanceSound.warehouse (h : MaintenanceSound g.shop) : MaintenanceSound g.warehouse := by
  refine Settles.sound ?_ h
  exact .of_eq rfl rfl rfl

theorem onWarehouse_ind {α : Type} {P : Garage → Prop} {f : Warehouse → Except Exc (α × Warehouse)}
    (hg : P g) (hstep : ∀ a w, f g.warehouse = .ok (a, w) → P (g.put w)) :
    P (perform (Garage.onWarehouse f) g) := by
  refine perform_ind hg fun a g' h => ?_
  simp only [Garage.onWarehouse, bind_eq_ok, pure, Except.pure, Except.ok.injEq, Prod.mk.injEq] at h
  obtain ⟨⟨r, w⟩, hf, rfl, rfl⟩ := h
  exact hstep r w hf

theorem sound_onWarehouse {α : Type} {f : Warehouse → Except Exc (α × Warehouse)}
    (hg : MaintenanceSound g.shop)
    (hstep : ∀ a w, f g.warehouse = .ok (a, w) → MaintenanceSound w) :
    MaintenanceSound (perform (Garage.onWarehouse f) g).shop :=
  onWarehouse_ind (P := fun g => MaintenanceSound g.shop) hg hstep

/-- Vehicles stay, and plans that are new have no due date. -/
structure SameDates (g g' : Garage) : Prop where
  vehicles : g'.db.vehicles = g.db.vehicles
  plans : ∀ plan ∈ g'.shop.maintenancePlans,
    plan ∈ g.shop.maintenancePlans ∨ plan.undated = true

theorem sameDates_onWarehouse {α : Type} {f : Warehouse → Except Exc (α × Warehouse)}
    (hstep : ∀ a w, f g.warehouse = .ok (a, w) → w.maintenancePlans = g.warehouse.maintenancePlans) :
    SameDates g (perform (Garage.onWarehouse f) g) :=
  onWarehouse_ind (P := SameDates g) ⟨rfl, fun _ h => .inl h⟩ fun a w h =>
    ⟨rfl, fun _ hplan => .inl (hstep a w h ▸ hplan)⟩

/-- Plans, vehicles and the orders of a pair are as they were. -/
structure Unmoved (planId vehicleId : UUID) (g g' : Garage) : Prop where
  linked : Linked g'.shop
  plans : g'.shop.maintenancePlans = g.shop.maintenancePlans
  vehicles : g'.db.vehicles = g.db.vehicles
  orders : g'.shop.generatedOrders planId vehicleId = g.shop.generatedOrders planId vehicleId

/-- No active plan of the pair is due on the day. -/
def NotDue (planId vehicleId : UUID) (day : Int) (g : Garage) : Prop :=
  ∀ plan ∈ g.shop.maintenancePlans, plan.id = planId → plan.status = "active" →
    ∀ vehicle, plan.vehicleId.bind g.db.vehicles.get = some vehicle → vehicle.id = vehicleId →
      plan.dueOn day vehicle = false

theorem NotDue.of_sameDates {day : Int} (h : NotDue planId vehicleId day g) (hsame : SameDates g g') :
    NotDue planId vehicleId day g' := by
  intro plan hplan hid hactive vehicle hvehicle hvid
  rcases hsame.plans plan hplan with hold | hundated
  · exact h plan hold hid hactive vehicle (hsame.vehicles ▸ hvehicle) hvid
  · simp only [MaintenancePlan.undated, Bool.and_eq_true, Option.isNone_iff_eq_none] at hundated
    rw [MaintenancePlan.dueOn, hundated.1, hundated.2]
    rfl

variable [Locale] [Rendering] [ClockText]

/-- However often both engines run on the day, no order of the plan and the vehicle is generated. -/
def Rests (g : Garage) (day : Int) (planId vehicleId : UUID) : Prop :=
  ∀ es : List MaintenanceCall, (∀ e ∈ es, e.reevaluates day = true) →
    (Run.exec Garage.maintain g es).shop.generatedOrders planId vehicleId =
      g.shop.generatedOrders planId vehicleId

/-- The call is the one that closes the order. -/
def Garage.finishes (g : Garage) (c : MaintenanceCall) (id : UUID) : Bool :=
  !g.shop.order id (·.status = .closed) && (g.maintain c).shop.order id (·.status = .closed)

omit [ClockText] in
/-- An order is closed from the quality check; its schedules are completed, its plans and the
vehicles stay. -/
theorem closeWorkOrder_cases {now : Instant} {tenantId workOrderId a : UUID} {actualCost : Option ℚ}
    {notes : String} {actorId : Option UUID}
    (h : closeWorkOrder now tenantId workOrderId actualCost notes actorId g = .ok (a, g')) :
    g' = g ∨ ∃ item, g.shop.workOrders.get workOrderId = some item ∧ item.tenantId = tenantId ∧
      item.status = .qualityCheck ∧ g'.db.vehicles = g.db.vehicles ∧
      g'.shop.maintenancePlans = g.shop.maintenancePlans ∧
      (MaintenanceSound g.shop → MaintenanceSound g'.shop) := by
  simp only [closeWorkOrder, bind_eq_ok] at h
  obtain ⟨item, hitem, h⟩ := h
  split at h
  · cases h; exact .inl rfl
  · simp only [bind_eq_ok, raiseIf_eq_ok, decide_eq_false_iff_not, not_not, pure, Except.pure,
      Except.ok.injEq, Prod.mk.injEq] at h
    obtain ⟨_, hstatus, g₁, hcost, _, rfl⟩ := h
    obtain ⟨hget, rfl, htenant⟩ := requireWorkOrder_eq_ok hitem
    have hshop : (draftInvoice now tenantId item g₁).shop = g.shop.setOrder item.id
        (.close now actualCost notes actorId) (fun _ => rfl) :=
      draftInvoice_shop.trans (recordOrderCost_shop hcost)
    have hvehicles : (draftInvoice now tenantId item g₁).db.vehicles = g.db.vehicles := by
      rw [draftInvoice_vehicles, recordOrderCost_vehicles hcost]
    refine .inr ⟨item, hget, htenant, hstatus, hvehicles, ?_, fun hg => ?_⟩
    · show (handleWorkOrderCompletion now tenantId item.id
        (draftInvoice now tenantId item g₁).warehouse).maintenancePlans = _
      have hplans : (draftInvoice now tenantId item g₁).shop.maintenancePlans =
          g.shop.maintenancePlans := by rw [hshop]; rfl
      rw [handleWorkOrderCompletion_plans]
      exact hplans
    · refine handleWorkOrderCompletion_sound (MaintenanceSound.warehouse ?_)
      rw [hshop]
      refine (setOrder_settles hget rfl ?_).sound hg
      intro h
      cases h

theorem Garage.maintain_sound {c : MaintenanceCall} (hg : MaintenanceSound g.shop)
    (hone : keepsOne g c = true) : MaintenanceSound (g.maintain c).shop := by
  cases c with
  | createPlan tenantId name serviceCatalogItemId vehicleId intervalKm intervalDays ownershipScope
      requestReference =>
    refine sound_onWarehouse hg fun a w h => ?_
    obtain ⟨_, rfl, hkept, _⟩ := createMaintenancePlan_eq_ok h
    exact morePlans_sound hg.warehouse hkept
  | requestPlan tenantId vehicleId intervalKm intervalDays =>
    exact sound_onWarehouse hg fun a w h => absurd h requestMaintenancePlan_ne_ok
  | schedule now tenantId vehicleId planId baseOdometerKm baseDate =>
    exact sound_onWarehouse hg fun a w h => schedulePreventiveMaintenance_sound hg.warehouse h
  | evaluateSchedules now tenantId =>
    refine sound_onWarehouse hg fun a w h => ?_
    cases h
    exact evaluatePreventiveSchedules_settles.sound hg.warehouse
  | evaluatePlans now tenantId =>
    refine sound_onWarehouse hg fun a w h => ?_
    cases h
    refine evaluatePlans_sound _ _ hg.warehouse plannedVehicles_nodup (fun x hx => ?_)
      (List.all_eq_true.mp hone)
    obtain ⟨hmem, htenant, _⟩ := plannedVehicles_spec hx
    exact ⟨hmem, htenant⟩
  | convert now tenantId scheduleId =>
    exact sound_onWarehouse hg fun a w h => convertScheduleToAction_sound hg.warehouse hone h
  | patchOdometer tenantId vehicleId currentKm =>
    refine perform_ind (P := fun g' : Garage => MaintenanceSound g'.shop) hg fun a g' h => ?_
    simp only [Rotas.patchOdometer, bind_eq_ok] at h
    obtain ⟨_, _, h⟩ := h
    cases h
    exact hg
  | refuel vehicleId reading =>
    refine perform_ind (P := fun g' : Garage => MaintenanceSound g'.shop) hg fun a g' h => ?_
    cases h
    exact hg
  | createOrder tenantId payload hex12 =>
    exact sound_onWarehouse hg fun a w h => createWorkOrder_sound hg.warehouse h
  | approve now tenantId workOrderId actorId =>
    exact sound_onWarehouse hg fun a w h => (approveWorkOrder_settles h).sound hg.warehouse
  | start tenantId workOrderId =>
    exact sound_onWarehouse hg fun a w h => (transitionWorkOrder_settles rfl h).sound hg.warehouse
  | completeTask now tenantId workOrderId taskId actualMinutes notes actorId =>
    exact sound_onWarehouse hg fun a w h => (completeWorkOrderTask_settles h).sound hg.warehouse
  | qualityCheck tenantId workOrderId =>
    exact sound_onWarehouse hg fun a w h => (qualityCheck_settles h).sound hg.warehouse
  | close now tenantId workOrderId actualCost notes actorId =>
    refine perform_ind (P := fun g' : Garage => MaintenanceSound g'.shop) hg fun a g' h => ?_
    rcases closeWorkOrder_cases h with rfl | ⟨_, _, _, _, _, _, hsound⟩
    · exact hg
    · exact hsound hg

theorem Garage.maintain_sameDates {c : MaintenanceCall} (hodometer : c.movesOdometer = false) :
    SameDates g (g.maintain c) := by
  cases c with
  | createPlan tenantId name serviceCatalogItemId vehicleId intervalKm intervalDays ownershipScope
      requestReference =>
    refine onWarehouse_ind (P := SameDates g) ⟨rfl, fun _ h => .inl h⟩ fun a w h => ?_
    obtain ⟨_, rfl, _, hnew⟩ := createMaintenancePlan_eq_ok h
    exact ⟨rfl, hnew⟩
  | requestPlan tenantId vehicleId intervalKm intervalDays =>
    exact sameDates_onWarehouse fun a w h => absurd h requestMaintenancePlan_ne_ok
  | schedule now tenantId vehicleId planId baseOdometerKm baseDate =>
    exact sameDates_onWarehouse fun a w h => schedulePreventiveMaintenance_plans h
  | evaluateSchedules now tenantId =>
    refine sameDates_onWarehouse fun a w h => ?_
    cases h
    rfl
  | evaluatePlans now tenantId =>
    refine sameDates_onWarehouse fun a w h => ?_
    cases h
    exact foldl_evaluatePlan_plans _ _
  | convert now tenantId scheduleId =>
    exact sameDates_onWarehouse fun a w h => convertScheduleToAction_plans h
  | patchOdometer tenantId vehicleId currentKm => cases hodometer
  | refuel vehicleId reading => cases hodometer
  | createOrder tenantId payload hex12 =>
    exact sameDates_onWarehouse fun a w h => createWorkOrder_plans h
  | approve now tenantId workOrderId actorId =>
    exact sameDates_onWarehouse fun a w h => (approveWorkOrder_settles h).plans
  | start tenantId workOrderId =>
    exact sameDates_onWarehouse fun a w h => (transitionWorkOrder_settles rfl h).plans
  | completeTask now tenantId workOrderId taskId actualMinutes notes actorId =>
    exact sameDates_onWarehouse fun a w h => (completeWorkOrderTask_settles h).plans
  | qualityCheck tenantId workOrderId =>
    exact sameDates_onWarehouse fun a w h => (qualityCheck_settles h).plans
  | close now tenantId workOrderId actualCost notes actorId =>
    refine perform_ind (P := SameDates g) ⟨rfl, fun _ h => .inl h⟩ fun a g' h => ?_
    rcases closeWorkOrder_cases h with rfl | ⟨_, _, _, _, hvehicles, hplans, _⟩
    · exact ⟨rfl, fun _ h => .inl h⟩
    · exact ⟨hvehicles, fun plan hplan => .inl (hplans ▸ hplan)⟩

theorem maintenanceSound_exec (hstart : MaintenanceSound g₀.shop)
    (hone : Run.Along Garage.maintain (fun g c => keepsOne g c = true) g₀ cs) :
    MaintenanceSound (Run.exec Garage.maintain g₀ cs).shop :=
  Run.exec_inv (I := fun g => MaintenanceSound g.shop) (fun _ _ hg hc => Garage.maintain_sound hg hc)
    hstart hone

theorem Unmoved.reevaluate {day : Int} {c : MaintenanceCall} (hnot : NotDue planId vehicleId day g)
    (h : Unmoved planId vehicleId g g') (hday : c.reevaluates day = true) :
    Unmoved planId vehicleId g (g'.maintain c) := by
  obtain ⟨hlinked, hplans, hvehicles, horders⟩ := h
  have hwarehouse : Linked g'.warehouse := by
    refine Settles.linked ?_ hlinked
    exact .of_eq rfl rfl rfl
  unfold MaintenanceCall.reevaluates at hday
  split at hday
  · next now tenantId =>
    refine onWarehouse_ind ⟨hlinked, hplans, hvehicles, horders⟩ fun a w h => ?_
    cases h
    exact ⟨evaluatePreventiveSchedules_settles.linked hwarehouse, hplans, hvehicles,
      evaluatePreventiveSchedules_generated.trans horders⟩
  · next now tenantId =>
    refine onWarehouse_ind ⟨hlinked, hplans, hvehicles, horders⟩ fun a w h => ?_
    cases h
    have hplanned : ∀ x ∈ g'.warehouse.plannedVehicles tenantId,
        x.1 ∈ g'.warehouse.maintenancePlans ∧ x.1.tenantId = tenantId := fun x hx =>
      ⟨(plannedVehicles_spec hx).1, (plannedVehicles_spec hx).2.1⟩
    have hquiet : ∀ x ∈ g'.warehouse.plannedVehicles tenantId, x.1.id = planId →
        x.2.id = vehicleId → x.1.overdue now x.2 = false := by
      intro x hx hid hvehicle
      obtain ⟨hmem, _, hactive, hof⟩ := plannedVehicles_spec hx
      have hfalse := hnot x.1 (hplans ▸ hmem) hid hactive x.2 (hvehicles ▸ hof) hvehicle
      refine Bool.eq_false_iff.mpr fun hoverdue => ?_
      rw [dueOn_iff.mpr ⟨now, of_decide_eq_true hday, hoverdue⟩] at hfalse
      cases hfalse
    obtain ⟨hkept, hgenerated⟩ := evaluatePlans_generated _ _ hwarehouse hplanned hquiet
    exact ⟨hkept, (foldl_evaluatePlan_plans _ _).trans hplans, hvehicles, hgenerated.trans horders⟩
  · cases hday

/-- Where no plan of the pair is due on the day, both engines leave its orders. -/
theorem NotDue.rests {day : Int} (hnot : NotDue planId vehicleId day g) (hg : Linked g.shop) :
    Rests g day planId vehicleId := by
  intro es hday
  exact (Run.exec_inv (I := Unmoved planId vehicleId g) (fun _ _ h hc => h.reevaluate hnot hc)
    ⟨hg, rfl, rfl, rfl⟩ (Run.along_of_forall (fun e he _ => hday e he) g)).orders

/-- The order that is closed leaves no plan that it was generated from due on the day. -/
theorem NotDue.of_finishes {now : Instant} {tenantId id : UUID} {actualCost : Option ℚ}
    {notes : String} {actorId : Option UUID}
    (hone : keepsOne g (.close now tenantId id actualCost notes actorId) = true)
    (hfinishes : g.finishes (.close now tenantId id actualCost notes actorId) id = true)
    (hgenerated : g.shop.order id (g.shop.generated planId vehicleId) = true) :
    NotDue planId vehicleId (utcDate now)
      (g.maintain (.close now tenantId id actualCost notes actorId)) := by
  obtain ⟨hbefore, hafter⟩ := Bool.and_eq_true_iff.mp hfinishes
  have hmoved : g.maintain (.close now tenantId id actualCost notes actorId) ≠ g := by
    intro hsame
    rw [hsame] at hafter
    rw [hafter] at hbefore
    cases hbefore
  rcases perform_cases (closeWorkOrder now tenantId id actualCost notes actorId) g with
    hsame | ⟨a, hclosed, _⟩
  · exact absurd hsame hmoved
  · rcases closeWorkOrder_cases hclosed with hsame |
      ⟨item, hget, htenant, hstatus, hvehicles, hplans, _⟩
    · exact absurd hsame hmoved
    · intro plan hplan hid hactive vehicle hvehicle hvid
      rw [Garage.maintain, hplans] at hplan
      rw [Garage.maintain, hvehicles] at hvehicle
      rw [keepsOne, hget, Option.all_some, htenant, hstatus] at hone
      rw [Warehouse.order, hget, Option.any_some, ← hid, ← hvid] at hgenerated
      have hsettled : g.settledOn (utcDate now) item = true := by simpa using hone
      have hof := List.all_eq_true.mp hsettled plan hplan
      rw [hactive, hvehicle, Option.all_some, hgenerated] at hof
      simpa using hof

/-- From any sound workshop, after every run in which nothing is generated twice and no order is
closed while its plan stays due, a plan and a vehicle have one open schedule and one open order at
most; and from the closing of an order generated from them on, both engines may run as often as they
like on that day, and generate no other until an odometer moves. -/
theorem maintenance_does_not_multiply (hstart : MaintenanceSound g₀.shop)
    (hone : Run.Along Garage.maintain (fun g c => keepsOne g c = true) g₀ cs) :
    OneOpen (Run.exec Garage.maintain g₀ cs).shop ∧
    ∀ before now tenantId id actualCost notes actorId since after,
      cs = before ++ .close now tenantId id actualCost notes actorId :: since ++ after →
      (Run.exec Garage.maintain g₀ before).finishes
        (.close now tenantId id actualCost notes actorId) id = true →
      (∀ c ∈ since, c.movesOdometer = false) →
      ∀ planId vehicleId, (Run.exec Garage.maintain g₀ before).shop.order id
        ((Run.exec Garage.maintain g₀ before).shop.generated planId vehicleId) = true →
      Rests (Run.exec Garage.maintain g₀
        (before ++ .close now tenantId id actualCost notes actorId :: since)) (utcDate now)
          planId vehicleId := by
  refine ⟨(maintenanceSound_exec hstart hone).toOneOpen, ?_⟩
  rintro before now tenantId id actualCost notes actorId since after rfl hfinishes hsince planId
    vehicleId hgenerated
  have hrun := (Run.along_append.mp hone).1
  have hclose := (Run.along_append.mp hrun).2.1
  have hsound := maintenanceSound_exec hstart hrun
  rw [Run.exec_append, Run.exec_cons] at hsound ⊢
  refine NotDue.rests ?_ hsound.toLinked
  exact Run.exec_inv (I := NotDue planId vehicleId (utcDate now))
    (fun _ _ h hc => NotDue.of_sameDates h (Garage.maintain_sameDates hc))
    (NotDue.of_finishes hclose hfinishes hgenerated) (Run.along_of_forall (fun c hc _ => hsince c hc) _)

end Run

/-! ## Plans that multiply, and one that does not -/

/-- One vehicle. -/
def truckGarage : Garage where
  db := { vehicles := .single { id := 1, tenantId := 1, plate := "LD-00", currentKm := 9500 } }

/-- And a plan of it that was due before. -/
def dueGarage : Garage where
  shop := {
    maintenancePlans := .single { id := 1, tenantId := 1, vehicleId := some 1, name := "Revisão"
                                  intervalKm := some 10000, nextDueKm := some 9000 } }
  db := { vehicles := .single { id := 1, tenantId := 1, plate := "LD-00", currentKm := 9500 } }

def maintained (g : Garage) (cs : List MaintenanceCall) : Garage :=
  Run.exec (@Garage.maintain .ascii .decimal .decimal) g cs

def newPlan : MaintenanceCall :=
  .createPlan 1 "Revisão" none none (some 10000) none .fleet "PLAN-1"

def nextService (now : Instant) : MaintenanceCall := .schedule now 1 1 1 none none

/-- Approved, started and checked. -/
def dueOrder : List MaintenanceCall :=
  [.evaluatePlans 10 1, .approve 20 1 1 none, .start 1 1, .qualityCheck 1 1]

def closeDue : MaintenanceCall := .close 50 1 1 none "Feito" none

theorem maintenance_multiplies :
    MaintenanceSound truckGarage.shop ∧ MaintenanceSound dueGarage.shop ∧
      -- a schedule that is made after a conversion is converted to a second order
      ¬ OneOpen (maintained truckGarage
        [newPlan, nextService 10, .convert 20 1 1, nextService 30, .convert 40 1 2]).shop ∧
      -- a plan that is due leaves an overdue schedule and a pending one
      ¬ OneOpen (maintained dueGarage [.evaluatePlans 10 1]).shop ∧
      -- its due date does not move, so the closed order is followed by another at once
      @Garage.finishes .ascii .decimal .decimal (maintained dueGarage dueOrder) closeDue 1 = true ∧
      (maintained dueGarage dueOrder).shop.order 1
        ((maintained dueGarage dueOrder).shop.generated 1 1) = true ∧
      ¬ @Rests .ascii .decimal .decimal (maintained dueGarage (dueOrder ++ [closeDue])) (utcDate 50)
        1 1 := by
  refine ⟨.initial rfl rfl, .initial rfl rfl, fun h => ?_, fun h => ?_, by decide +kernel,
    by decide +kernel, fun h => ?_⟩
  · have horders := h.orders 1 1
    revert horders
    decide +kernel
  · have hschedules := h.schedules 1 1
    revert hschedules
    decide +kernel
  · have hsame := congrArg List.length (h [.evaluatePlans 60 1] (by decide))
    revert hsame
    decide +kernel

/-- The vehicle comes to its service, which is done; the next one is planned, and converted. -/
def service : List MaintenanceCall :=
  [newPlan, nextService 10, .refuel 1 19600, .evaluateSchedules 15 1, .convert 20 1 1, .start 1 1,
    .completeTask 45 1 1 1 none none none, .qualityCheck 1 1]

def afterService : List MaintenanceCall := [.evaluatePlans 60 1, nextService 65, .convert 70 1 2]

theorem maintenance_does_not_multiply_service :
    (maintained truckGarage (service ++ closeDue :: afterService)).shop.openOrders 1 1 = 1 ∧
      OneOpen (maintained truckGarage (service ++ closeDue :: afterService)).shop ∧
      @Rests .ascii .decimal .decimal
        (maintained truckGarage (service ++ closeDue :: afterService)) (utcDate 50) 1 1 := by
  have hrun := @maintenance_does_not_multiply truckGarage (service ++ closeDue :: afterService ++ [])
    .ascii .decimal .decimal (.initial rfl rfl) (by decide +kernel)
  exact ⟨by decide +kernel, hrun.1, hrun.2 service 50 1 1 none "Feito" none afterService [] rfl
    (by decide +kernel) (by decide) 1 1 (by decide +kernel)⟩

end Rotas
