import Rotas.Workshop.OrderSteps

/-!
# Rotas.Workshop.MaintenanceSteps

The open schedules of a plan and a vehicle, the open work orders generated from them, and what each
operation does to them.

* `OneOpen` — one of each at most, for every plan and vehicle.
* `MaintenanceSound` — and schedules refer to plans of their tenants and to orders.
* `Settles` — a step that opens no schedule and generates no order.
* `evaluatePlan_sound` and after — the operations keep `MaintenanceSound`, an evaluation of a plan
  and a conversion when nothing is open yet.
-/

namespace Rotas

open Table

/-! ## What is open -/

/-- The order is of the plan and the vehicle, or one of their schedules was converted to it. -/
def Warehouse.generated (w : Warehouse) (planId vehicleId : UUID) (wo : WorkOrder) : Bool :=
  (wo.planId = some planId && wo.vehicleId = some vehicleId) ||
    w.maintenanceSchedules.rows.any fun s =>
      s.planId = planId && s.vehicleId = vehicleId && s.workOrderId = some wo.id

def Warehouse.generatedOrders (w : Warehouse) (planId vehicleId : UUID) : List WorkOrder :=
  w.workOrders.rows.filter (w.generated planId vehicleId)

def WorkOrder.isLive (wo : WorkOrder) : Bool := !wo.status.isDone

def MaintenanceSchedule.isOpen (s : MaintenanceSchedule) : Bool := s.status.isOpen

def Warehouse.openSchedules (w : Warehouse) (planId vehicleId : UUID) : Nat :=
  w.maintenanceSchedules.rows.countP fun s =>
    s.isOpen && (s.planId = planId && s.vehicleId = vehicleId)

def Warehouse.openOrders (w : Warehouse) (planId vehicleId : UUID) : Nat :=
  (w.generatedOrders planId vehicleId).countP WorkOrder.isLive

/-- At most one schedule of a plan and a vehicle is open, and at most one order generated from it. -/
structure OneOpen (w : Warehouse) : Prop where
  schedules : ∀ planId vehicleId, w.openSchedules planId vehicleId ≤ 1
  orders : ∀ planId vehicleId, w.openOrders planId vehicleId ≤ 1

/-- A schedule is of a plan of its tenant, and refers to an order that is there. -/
structure Linked (w : Warehouse) : Prop where
  planned : ∀ s ∈ w.maintenanceSchedules,
    ∃ plan ∈ w.maintenancePlans, plan.id = s.planId ∧ plan.tenantId = s.tenantId
  referred : ∀ s ∈ w.maintenanceSchedules, ∀ id, s.workOrderId = some id →
    ∃ wo ∈ w.workOrders, wo.id = id

structure MaintenanceSound (w : Warehouse) : Prop extends Linked w, OneOpen w

theorem MaintenanceSound.initial {w : Warehouse} (hschedules : w.maintenanceSchedules = ∅)
    (horders : w.workOrders = ∅) : MaintenanceSound w where
  planned _ hs := absurd (hschedules ▸ hs) List.not_mem_nil
  referred _ hs := absurd (hschedules ▸ hs) List.not_mem_nil
  schedules p v := by
    rw [Warehouse.openSchedules, hschedules]
    exact Nat.zero_le 1
  orders p v := by
    rw [Warehouse.openOrders, Warehouse.generatedOrders, horders]
    exact Nat.zero_le 1

/-! ## Kinds of steps -/

/-- What an open schedule is looked up by, and what it refers to. -/
def MaintenanceSchedule.link (s : MaintenanceSchedule) : UUID × UUID × UUID × Option UUID :=
  (s.tenantId, s.planId, s.vehicleId, s.workOrderId)

def WorkOrder.link (wo : WorkOrder) : UUID × Option UUID × Option UUID :=
  (wo.id, wo.planId, wo.vehicleId)

/-- Plans stay; no schedule and no order is made, linked anew or opened again. -/
structure Settles (w w' : Warehouse) : Prop where
  plans : w'.maintenancePlans = w.maintenancePlans
  schedules : Grows MaintenanceSchedule.link MaintenanceSchedule.isOpen (fun _ => False)
    w.maintenanceSchedules w'.maintenanceSchedules
  orders : Grows WorkOrder.link WorkOrder.isLive (fun _ => False) w.workOrders w'.workOrders

section Kinds

variable {w w' : Warehouse} {planId vehicleId : UUID}

theorem Settles.refl : Settles w w := ⟨rfl, .refl _, .refl _⟩

theorem Settles.of_eq (hplans : w'.maintenancePlans = w.maintenancePlans)
    (hschedules : w'.maintenanceSchedules = w.maintenanceSchedules)
    (horders : w'.workOrders = w.workOrders) : Settles w w' := by
  refine ⟨hplans, ?_, ?_⟩
  · rw [hschedules]; exact .refl _
  · rw [horders]; exact .refl _

theorem closeSchedule_settles {id : UUID} {f : MaintenanceSchedule → MaintenanceSchedule}
    {hf : ∀ s, (f s).id = s.id}
    (h : ∀ s, (f s).link = s.link ∧ ((f s).isOpen = true → s.isOpen = true)) :
    Settles w { w with maintenanceSchedules := w.maintenanceSchedules.modify id f hf } :=
  ⟨rfl, grows_update rfl hf fun s _ _ => h s, .refl _⟩

theorem setOrder_settles {item : WorkOrder} {f : WorkOrder → WorkOrder}
    {hf : ∀ wo, (f wo).id = wo.id} (hget : w.workOrders.get item.id = some item)
    (hlink : (f item).link = item.link) (hlive : (f item).isLive = true → item.isLive = true) :
    Settles w (w.setOrder item.id f hf) := by
  refine ⟨rfl, .refl _, grows_update rfl hf fun wo hwo hid => ?_⟩
  obtain rfl : wo = item := eq_of_key hwo (mem_of_get hget) (eq_of_beq hid)
  exact ⟨hlink, hlive⟩

/-- Which orders are generated depends on what the schedules refer to only. -/
theorem generated_eq (planId vehicleId : UUID)
    (h : Grows MaintenanceSchedule.link MaintenanceSchedule.isOpen (fun l => l.2.2.2 = none)
      w.maintenanceSchedules w'.maintenanceSchedules) (wo : WorkOrder) :
    w'.generated planId vehicleId wo = w.generated planId vehicleId wo := by
  have hrefs := h.any_eq (q := fun l =>
    l.2.1 = planId && l.2.2.1 = vehicleId && l.2.2.2 = some wo.id) fun l hl => by
      rw [hl]; simp
  exact congrArg (_ || ·) hrefs

theorem openOrders_eq : w.openOrders planId vehicleId =
    w.workOrders.rows.countP fun wo => wo.isLive && w.generated planId vehicleId wo :=
  List.countP_filter

theorem Settles.linked (h : Settles w w') (hw : Linked w) : Linked w' where
  planned s' hs' := by
    obtain ⟨s, hs, _, hlink, _⟩ := (h.schedules.mem hs').resolve_right not_false
    obtain ⟨htenant, hlink⟩ := Prod.mk.inj hlink
    obtain ⟨hplan, _⟩ := Prod.mk.inj hlink
    obtain ⟨plan, hmem, hid, hof⟩ := hw.planned s hs
    exact ⟨plan, h.plans ▸ hmem, hid.trans hplan.symm, hof.trans htenant.symm⟩
  referred s' hs' id hid := by
    obtain ⟨s, hs, _, hlink, _⟩ := (h.schedules.mem hs').resolve_right not_false
    have hsame : s'.workOrderId = s.workOrderId := congrArg (·.2.2.2) hlink
    obtain ⟨wo, hwo, rfl⟩ := hw.referred s hs id (hsame.symm.trans hid)
    obtain ⟨wo', hwo', hkey, _⟩ := h.orders.exists_of_mem hwo
    exact ⟨wo', hwo', hkey⟩

theorem Settles.openSchedules_le (h : Settles w w') :
    w'.openSchedules planId vehicleId ≤ w.openSchedules planId vehicleId :=
  h.schedules.countP_le (q := fun l => l.2.1 = planId && l.2.2.1 = vehicleId) fun _ h => h.elim

theorem Settles.openOrders_le (h : Settles w w') :
    w'.openOrders planId vehicleId ≤ w.openOrders planId vehicleId := by
  have hgen := generated_eq planId vehicleId (h.schedules.mono fun _ h => h.elim)
  rw [openOrders_eq, openOrders_eq, List.countP_congr fun wo _ => by rw [hgen wo]]
  exact h.orders.countP_le (q := fun l => (l.2.1 = some planId && l.2.2 = some vehicleId) ||
    w.maintenanceSchedules.rows.any fun s =>
      s.planId = planId && s.vehicleId = vehicleId && s.workOrderId = some l.1) fun _ h => h.elim

theorem Settles.sound (h : Settles w w') (hw : MaintenanceSound w) : MaintenanceSound w' where
  toLinked := h.linked hw.toLinked
  toOneOpen := ⟨fun p v => h.openSchedules_le.trans (hw.schedules p v),
    fun p v => h.openOrders_le.trans (hw.orders p v)⟩

theorem insertSchedule_linked {s : UUID → MaintenanceSchedule} {hs : ∀ id, (s id).id = id}
    (hw : Linked w) (hplan : ∃ plan ∈ w.maintenancePlans,
      plan.id = (s w.maintenanceSchedules.freshKey).planId ∧
        plan.tenantId = (s w.maintenanceSchedules.freshKey).tenantId)
    (hnew : (s w.maintenanceSchedules.freshKey).workOrderId = none) :
    Linked { w with maintenanceSchedules := w.maintenanceSchedules.insert s hs } where
  planned := (forall_mem_insert _ s hs).mpr ⟨hw.planned, hplan⟩
  referred := (forall_mem_insert _ s hs).mpr ⟨hw.referred, fun id hid => by rw [hnew] at hid; cases hid⟩

theorem insertSchedule_generated {s : UUID → MaintenanceSchedule} {hs : ∀ id, (s id).id = id}
    (hnew : (s w.maintenanceSchedules.freshKey).workOrderId = none) :
    Warehouse.generatedOrders { w with maintenanceSchedules := w.maintenanceSchedules.insert s hs }
      planId vehicleId = w.generatedOrders planId vehicleId := by
  have hgrows : Grows MaintenanceSchedule.link MaintenanceSchedule.isOpen (fun l => l.2.2.2 = none)
      w.maintenanceSchedules (w.maintenanceSchedules.insert s hs) :=
    grows_append (rows_insert _ s hs) hnew
  exact List.filter_congr fun wo _ => generated_eq planId vehicleId hgrows wo

theorem insertSchedule_openSchedules {s : UUID → MaintenanceSchedule} {hs : ∀ id, (s id).id = id} :
    Warehouse.openSchedules { w with maintenanceSchedules := w.maintenanceSchedules.insert s hs }
      planId vehicleId = w.openSchedules planId vehicleId +
        [s w.maintenanceSchedules.freshKey].countP fun s =>
          s.isOpen && (s.planId = planId && s.vehicleId = vehicleId) :=
  List.countP_append

theorem insertSchedule_sound {s : UUID → MaintenanceSchedule} {hs : ∀ id, (s id).id = id}
    (hw : MaintenanceSound w) (hplan : ∃ plan ∈ w.maintenancePlans,
      plan.id = (s w.maintenanceSchedules.freshKey).planId ∧
        plan.tenantId = (s w.maintenanceSchedules.freshKey).tenantId)
    (hnew : (s w.maintenanceSchedules.freshKey).workOrderId = none)
    (hnone : w.openSchedules (s w.maintenanceSchedules.freshKey).planId
      (s w.maintenanceSchedules.freshKey).vehicleId = 0) :
    MaintenanceSound { w with maintenanceSchedules := w.maintenanceSchedules.insert s hs } where
  toLinked := insertSchedule_linked hw.toLinked hplan hnew
  schedules p v := by
    rw [insertSchedule_openSchedules, List.countP_singleton]
    split
    · next hof =>
      simp only [Bool.and_eq_true, decide_eq_true_eq] at hof
      rw [← hof.2.1, ← hof.2.2, hnone]
    · exact hw.schedules p v
  orders p v := by
    rw [Warehouse.openOrders, insertSchedule_generated hnew]
    exact hw.orders p v

theorem insertOrder_generated {wo : UUID → WorkOrder} {hwo : ∀ id, (wo id).id = id} (hw : Linked w) :
    Warehouse.generatedOrders { w with workOrders := w.workOrders.insert wo hwo } planId vehicleId =
      w.generatedOrders planId vehicleId ++ [wo w.workOrders.freshKey].filter fun wo =>
        wo.planId = some planId && wo.vehicleId = some vehicleId := by
  rw [Warehouse.generatedOrders, rows_insert, List.filter_append]
  refine congrArg (w.generatedOrders planId vehicleId ++ ·) (List.filter_congr fun r hr => ?_)
  obtain rfl := List.mem_singleton.mp hr
  have hnone : (w.maintenanceSchedules.rows.any fun s => s.planId = planId &&
      s.vehicleId = vehicleId && s.workOrderId = some (wo w.workOrders.freshKey).id) = false := by
    refine List.any_eq_false.mpr fun s hs href => ?_
    simp only [Bool.and_eq_true, decide_eq_true_eq] at href
    obtain ⟨wo', hmem, hid⟩ := hw.referred s hs _ href.2
    exact absurd (hid.trans (hwo _)) (Nat.ne_of_lt (key_lt_freshKey hmem))
  unfold Warehouse.generated
  rw [hnone, Bool.or_false]

theorem insertOrder_linked {wo : UUID → WorkOrder} {hwo : ∀ id, (wo id).id = id} (hw : Linked w) :
    Linked { w with workOrders := w.workOrders.insert wo hwo } where
  planned := hw.planned
  referred s hs id hid := by
    obtain ⟨r, hr, hkey⟩ := hw.referred s hs id hid
    exact ⟨r, (mem_insert _ wo hwo).mpr (.inl hr), hkey⟩

theorem insertOrder_sound {wo : UUID → WorkOrder} {hwo : ∀ id, (wo id).id = id}
    (hw : MaintenanceSound w)
    (hnone : ∀ planId vehicleId, (wo w.workOrders.freshKey).planId = some planId →
      (wo w.workOrders.freshKey).vehicleId = some vehicleId → w.openOrders planId vehicleId = 0) :
    MaintenanceSound { w with workOrders := w.workOrders.insert wo hwo } where
  toLinked := insertOrder_linked hw.toLinked
  schedules := hw.schedules
  orders p v := by
    rw [Warehouse.openOrders, insertOrder_generated hw.toLinked, List.countP_append]
    by_cases hof : (wo w.workOrders.freshKey).planId = some p ∧
        (wo w.workOrders.freshKey).vehicleId = some v
    · have hzero := hnone p v hof.1 hof.2
      rw [Warehouse.openOrders] at hzero
      rw [hzero, Nat.zero_add]
      exact List.countP_le_length.trans (List.length_filter_le _ _)
    · rw [List.filter_cons_of_neg (by simpa using hof)]
      exact hw.orders p v

/-- A schedule of a plan and a vehicle that have no open order refers to one from now on. -/
theorem refer_sound {s : MaintenanceSchedule} {wo : WorkOrder} (hw : MaintenanceSound w)
    (hs : s ∈ w.maintenanceSchedules) (hwo : wo ∈ w.workOrders)
    (hnone : w.openOrders s.planId s.vehicleId = 0) :
    MaintenanceSound { w with
      maintenanceSchedules := w.maintenanceSchedules.modify s.id
        (.converted .convertedToWo (some wo.id) none) (fun _ => rfl) } := by
  have hmem : ∀ s' ∈ w.maintenanceSchedules.modify s.id
      (.converted .convertedToWo (some wo.id) none) (fun _ => rfl),
      (∃ s₀ ∈ w.maintenanceSchedules, s₀.id = s.id ∧
        s' = s₀.converted .convertedToWo (some wo.id) none) ∨
        (s' ∈ w.maintenanceSchedules ∧ s'.id ≠ s.id) := fun _ hs' => mem_modify_cases hs'
  refine ⟨⟨fun s' hs' => ?_, fun s' hs' id hid => ?_⟩, ⟨fun p v => ?_, fun p v => ?_⟩⟩
  · rcases hmem s' hs' with ⟨s₀, hs₀, _, rfl⟩ | ⟨hs₀, _⟩
    · exact hw.planned s₀ hs₀
    · exact hw.planned s' hs₀
  · rcases hmem s' hs' with ⟨s₀, hs₀, _, rfl⟩ | ⟨hs₀, _⟩
    · exact ⟨wo, hwo, Option.some.inj hid⟩
    · exact hw.referred s' hs₀ id hid
  · have hgrows : Grows (fun s : MaintenanceSchedule => (s.planId, s.vehicleId))
        MaintenanceSchedule.isOpen (fun _ => False) w.maintenanceSchedules
        (w.maintenanceSchedules.modify s.id (.converted .convertedToWo (some wo.id) none)
          (fun _ => rfl)) :=
      grows_update rfl (fun _ => rfl) fun _ _ _ => ⟨rfl, nofun⟩
    exact (hgrows.countP_le (q := fun l => l.1 = p && l.2 = v) fun _ h => h.elim).trans
      (hw.schedules p v)
  · -- what is generated now was before, or it is the order of this schedule
    rw [openOrders_eq]
    have hgen : ∀ x, Warehouse.generated { w with
        maintenanceSchedules := w.maintenanceSchedules.modify s.id
          (.converted .convertedToWo (some wo.id) none) (fun _ => rfl) } p v x = true →
        w.generated p v x = true ∨ s.planId = p ∧ s.vehicleId = v ∧ x.id = wo.id := by
      intro x hx
      rcases Bool.or_eq_true_iff.mp hx with hplan | hany
      · exact .inl (Bool.or_eq_true_iff.mpr (.inl hplan))
      · obtain ⟨s', hs', href⟩ := List.any_eq_true.mp hany
        rcases hmem s' hs' with ⟨s₀, hs₀, hkey, rfl⟩ | ⟨hs₀, _⟩
        · obtain rfl : s₀ = s := eq_of_key hs₀ hs hkey
          simp only [Bool.and_eq_true, decide_eq_true_eq] at href
          exact .inr ⟨href.1.1, href.1.2, (Option.some.inj href.2).symm⟩
        · exact .inl (Bool.or_eq_true_iff.mpr (.inr (List.any_eq_true.mpr ⟨s', hs₀, href⟩)))
    by_cases hpv : s.planId = p ∧ s.vehicleId = v
    · obtain ⟨rfl, rfl⟩ := hpv
      rw [openOrders_eq, List.countP_eq_zero] at hnone
      refine (List.countP_mono_left fun x hx hlive => ?_).trans (countP_key_le w.workOrders wo.id)
      obtain ⟨hlive, hx'⟩ := Bool.and_eq_true_iff.mp hlive
      rcases hgen x hx' with hbefore | ⟨_, _, hid⟩
      · exact absurd (Bool.and_eq_true_iff.mpr ⟨hlive, hbefore⟩) (hnone x hx)
      · exact decide_eq_true hid
    · refine (List.countP_mono_left fun x hx hlive => ?_).trans (openOrders_eq ▸ hw.orders p v)
      obtain ⟨hlive, hx'⟩ := Bool.and_eq_true_iff.mp hlive
      have hbefore := (hgen x hx').resolve_right fun h => hpv ⟨h.1, h.2.1⟩
      exact Bool.and_eq_true_iff.mpr ⟨hlive, hbefore⟩

end Kinds

/-! ## Plans and schedules -/

section Schedules

variable {w w' : Warehouse} {tenantId planId vehicleId a : UUID} {now : Instant}

def MaintenancePlan.undated (plan : MaintenancePlan) : Bool :=
  plan.nextDueKm.isNone && plan.nextDueAt.isNone

theorem createMaintenancePlan_eq_ok {name : String} {serviceCatalogItemId planVehicle : Option UUID}
    {intervalKm intervalDays : Option Int} {ownershipScope : OwnershipScope}
    {requestReference : String} (h : createMaintenancePlan tenantId name serviceCatalogItemId
      planVehicle intervalKm intervalDays ownershipScope requestReference w = .ok (a, w')) :
    ∃ maintenancePlans, w' = { w with maintenancePlans } ∧
      (∀ plan ∈ w.maintenancePlans, plan ∈ maintenancePlans) ∧
      ∀ plan ∈ maintenancePlans, plan ∈ w.maintenancePlans ∨ plan.undated = true := by
  simp only [createMaintenancePlan, bind_eq_ok, pure, Except.pure, Except.ok.injEq,
    Prod.mk.injEq] at h
  obtain ⟨_, _, _, rfl⟩ := h
  refine ⟨_, rfl, fun plan hplan => (mem_insert _ _ fun _ => rfl).mpr (.inl hplan),
    fun plan hplan => ((mem_insert _ _ fun _ => rfl).mp hplan).imp id ?_⟩
  rintro rfl
  rfl

theorem morePlans_sound {maintenancePlans : Table MaintenancePlan} (hw : MaintenanceSound w)
    (hkept : ∀ plan ∈ w.maintenancePlans, plan ∈ maintenancePlans) :
    MaintenanceSound { w with maintenancePlans } where
  planned s hs := by
    obtain ⟨plan, hplan, hof⟩ := hw.planned s hs
    exact ⟨plan, hkept plan hplan, hof⟩
  referred := hw.referred
  schedules := hw.schedules
  orders := hw.orders

theorem requestMaintenancePlan_ne_ok {planVehicle : Option UUID} {intervalKm intervalDays : Option Int} :
    requestMaintenancePlan tenantId planVehicle intervalKm intervalDays w ≠ .ok (a, w') := by
  simp [requestMaintenancePlan, bind_eq_ok]

/-- The open schedule is answered, or there is none of the plan and the vehicle and one is made. -/
theorem schedulePreventiveMaintenance_cases {baseOdometerKm : Option Int} {baseDate : Option Instant}
    (h : schedulePreventiveMaintenance now tenantId vehicleId planId baseOdometerKm baseDate w =
      .ok (a, w')) :
    w' = w ∨ ∃ plan ∈ w.maintenancePlans, plan.id = planId ∧ plan.tenantId = tenantId ∧
      w.openSchedule tenantId vehicleId planId = none ∧ ∃ dueKm dueAt, w' = { w with
        maintenanceSchedules := w.maintenanceSchedules.insert fun id =>
          { id, tenantId, planId, vehicleId, dueKm, dueAt } } := by
  simp only [schedulePreventiveMaintenance, bind_eq_ok, require_eq_ok, Option.filter_eq_some_iff,
    Bool.and_eq_true, decide_eq_true_eq] at h
  obtain ⟨plan, ⟨hplan, htenant, _⟩, vehicle, _, h⟩ := h
  split at h
  · cases h; exact .inl rfl
  · next hnone =>
    cases h
    exact .inr ⟨plan, mem_of_get hplan, key_of_get hplan, htenant, hnone, _, _, rfl⟩

theorem schedulePreventiveMaintenance_plans {baseOdometerKm : Option Int} {baseDate : Option Instant}
    (h : schedulePreventiveMaintenance now tenantId vehicleId planId baseOdometerKm baseDate w =
      .ok (a, w')) : w'.maintenancePlans = w.maintenancePlans := by
  rcases schedulePreventiveMaintenance_cases h with rfl | ⟨_, _, _, _, _, _, _, rfl⟩ <;> rfl

/-- A schedule is of the tenant of its plan, so the search for an open one of the tenant finds it. -/
theorem openSchedules_eq_zero (hw : Linked w) {plan : MaintenancePlan}
    (hplan : plan ∈ w.maintenancePlans) (hnone : w.openSchedule plan.tenantId vehicleId plan.id = none) :
    w.openSchedules plan.id vehicleId = 0 := by
  refine List.countP_eq_zero.mpr fun s hs hof => ?_
  simp only [Bool.and_eq_true, decide_eq_true_eq] at hof
  obtain ⟨hopen, hid, hvehicle⟩ := hof
  obtain ⟨plan', hplan', hid', htenant⟩ := hw.planned s hs
  obtain rfl : plan' = plan := eq_of_key hplan' hplan (hid'.trans hid)
  refine absurd ?_ (List.find?_eq_none.mp hnone s hs)
  simp only [Bool.and_eq_true, decide_eq_true_eq]
  exact ⟨⟨⟨htenant.symm, hvehicle⟩, hid⟩, hopen⟩

theorem schedulePreventiveMaintenance_sound {baseOdometerKm : Option Int} {baseDate : Option Instant}
    (hw : MaintenanceSound w)
    (h : schedulePreventiveMaintenance now tenantId vehicleId planId baseOdometerKm baseDate w =
      .ok (a, w')) : MaintenanceSound w' := by
  rcases schedulePreventiveMaintenance_cases h with
    rfl | ⟨plan, hplan, rfl, rfl, hnone, _, _, rfl⟩
  · exact hw
  · exact insertSchedule_sound hw ⟨plan, hplan, rfl, rfl⟩ rfl
      (openSchedules_eq_zero hw.toLinked hplan hnone)

theorem reevaluated_link {db : Warehouse} {s : MaintenanceSchedule} :
    (s.reevaluated now db).link = s.link := by
  unfold MaintenanceSchedule.reevaluated MaintenanceSchedule.evaluated
  split
  · dsimp only
    split_ifs <;> rfl
  · rfl

theorem evaluatePreventiveSchedules_settles :
    Settles w (evaluatePreventiveSchedules now tenantId w) := by
  refine ⟨rfl, ?_, .refl _⟩
  refine grows_update rfl (reevaluated_id now w) fun s _ hs => ⟨reevaluated_link, fun _ => ?_⟩
  simp only [Bool.and_eq_true, Bool.or_eq_true, decide_eq_true_eq] at hs
  rcases hs.2 with hpending | hdue
  · rw [MaintenanceSchedule.isOpen, hpending]; rfl
  · rw [MaintenanceSchedule.isOpen, hdue]; rfl

theorem evaluatePreventiveSchedules_generated :
    (evaluatePreventiveSchedules now tenantId w).generatedOrders planId vehicleId =
      w.generatedOrders planId vehicleId :=
  List.filter_congr fun wo _ =>
    generated_eq planId vehicleId (evaluatePreventiveSchedules_settles.schedules.mono fun _ h => h.elim) wo

/-! ## Completion -/

/-- Schedules are completed; the next one is made when none is open. -/
theorem completeSchedules_sound {vehicle : Vehicle} : ∀ (ss : List MaintenanceSchedule)
    (w : Warehouse), MaintenanceSound w →
      MaintenanceSound (completeSchedules now tenantId vehicle ss w) := by
  intro ss
  induction ss with
  | nil => exact fun _ hw => hw
  | cons s ss ih =>
    intro w hw
    have hcompleted : Settles w { w with
        maintenanceSchedules := w.maintenanceSchedules.modify s.id fun s => { s with
          status := .completed } } := closeSchedule_settles fun _ => ⟨rfl, nofun⟩
    unfold completeSchedules
    dsimp only
    split
    · exact hcompleted.sound hw
    · next hschedule => exact ih _ (schedulePreventiveMaintenance_sound (hcompleted.sound hw) hschedule)

theorem completeSchedules_plans {vehicle : Vehicle} : ∀ (ss : List MaintenanceSchedule)
    (w : Warehouse), (completeSchedules now tenantId vehicle ss w).maintenancePlans =
      w.maintenancePlans := by
  intro ss
  induction ss with
  | nil => exact fun _ => rfl
  | cons s ss ih =>
    intro w
    unfold completeSchedules
    dsimp only
    split
    · rfl
    · next hschedule => rw [ih, schedulePreventiveMaintenance_plans hschedule]

theorem handleWorkOrderCompletion_sound {workOrderId : UUID} (hw : MaintenanceSound w) :
    MaintenanceSound (handleWorkOrderCompletion now tenantId workOrderId w) := by
  unfold handleWorkOrderCompletion
  split
  · exact hw
  · split
    · exact hw
    · exact completeSchedules_sound _ _ hw

theorem handleWorkOrderCompletion_plans {workOrderId : UUID} :
    (handleWorkOrderCompletion now tenantId workOrderId w).maintenancePlans = w.maintenancePlans := by
  unfold handleWorkOrderCompletion
  split
  · rfl
  · split
    · rfl
    · exact completeSchedules_plans _ _

/-! ## Conversion -/

/-- What an order of the fleet is made from: a schedule that is not converted yet. -/
def Warehouse.converts (w : Warehouse) (tenantId scheduleId : UUID) : Option MaintenanceSchedule :=
  ((w.maintenanceSchedules.get scheduleId).filter fun s => s.tenantId = tenantId &&
    !(s.status = .convertedToWo || s.status = .convertedToQuote)).filter fun s =>
      (w.maintenancePlans.get s.planId).any fun plan =>
        (w.vehicles.get s.vehicleId).any fun vehicle => effectiveScope plan vehicle = .fleet

theorem orderPreventive_sound [ClockText] {s : MaintenanceSchedule} {plan : MaintenancePlan}
    {vehicle : Vehicle} (hw : MaintenanceSound w) (hs : s ∈ w.maintenanceSchedules)
    (hnone : w.openOrders s.planId s.vehicleId = 0) :
    MaintenanceSound (orderPreventive now tenantId s plan vehicle w) := by
  have hordered : MaintenanceSound { w with
      workOrders := w.workOrders.insert (preventiveOrder now tenantId plan vehicle w)
        fun _ => rfl } := insertOrder_sound hw nofun
  have htask : Settles { w with
      workOrders := w.workOrders.insert (preventiveOrder now tenantId plan vehicle w)
        fun _ => rfl } { w with
      workOrders := w.workOrders.insert (preventiveOrder now tenantId plan vehicle w) fun _ => rfl
      tasks := w.tasks.insert fun id => { id, tenantId, workOrderId := w.workOrders.freshKey
                                          description := "Revisão Preventiva: " ++ plan.name } } :=
    .of_eq rfl rfl rfl
  have hmem : preventiveOrder now tenantId plan vehicle w w.workOrders.freshKey ∈
      w.workOrders.insert (preventiveOrder now tenantId plan vehicle w) fun _ => rfl :=
    (mem_insert _ _ fun _ => rfl).mpr (.inr rfl)
  refine refer_sound (htask.sound hordered) hs hmem ?_
  have hsame : Warehouse.generatedOrders { w with
      workOrders := w.workOrders.insert (preventiveOrder now tenantId plan vehicle w) fun _ => rfl }
      s.planId s.vehicleId = w.generatedOrders s.planId s.vehicleId ++ [] :=
    insertOrder_generated hw.toLinked
  rw [List.append_nil] at hsame
  exact (congrArg (List.countP WorkOrder.isLive) hsame).trans hnone

theorem convertScheduleToAction_sound [ClockText] {scheduleId : UUID} (hw : MaintenanceSound w)
    (hnone : (w.converts tenantId scheduleId).all (fun s =>
      w.openOrders s.planId s.vehicleId = 0) = true)
    (h : convertScheduleToAction now tenantId scheduleId w = .ok (a, w')) : MaintenanceSound w' := by
  simp only [convertScheduleToAction, bind_eq_ok, require_eq_ok] at h
  obtain ⟨s, hs, h⟩ := h
  split at h
  · cases h; exact hw
  · next hconverted =>
    simp only [bind_eq_ok, require_eq_ok] at h
    obtain ⟨plan, hplan, vehicle, hvehicle, h⟩ := h
    have hmem := mem_of_get (Option.filter_eq_some_iff.mp hs).1
    split at h
    · next hfleet =>
      cases h
      have hconverts : w.converts tenantId scheduleId = some s := by
        obtain ⟨hget, htenant⟩ := Option.filter_eq_some_iff.mp hs
        refine Option.filter_eq_some_iff.mpr ⟨Option.filter_eq_some_iff.mpr ⟨hget, ?_⟩, ?_⟩
        · rw [htenant, Bool.true_and, Bool.eq_false_iff.mpr hconverted]; rfl
        · rw [hplan, Option.any_some, hvehicle, Option.any_some]; exact decide_eq_true hfleet
      rw [hconverts] at hnone
      exact orderPreventive_sound hw hmem (of_decide_eq_true hnone)
    · simp only [bind_eq_ok, require_eq_ok, Prod.exists] at h
      obtain ⟨clientId, _, quoteId, w₁, hquote, h⟩ := h
      cases h
      have hquoted : Settles w w₁ := by
        obtain ⟨_, _, _, rfl⟩ := createQuote_eq_ok hquote
        exact .of_eq rfl rfl rfl
      refine (closeSchedule_settles ?_).sound (hquoted.sound hw)
      exact fun _ => ⟨rfl, nofun⟩

theorem convertScheduleToAction_plans [ClockText] {scheduleId : UUID}
    (h : convertScheduleToAction now tenantId scheduleId w = .ok (a, w')) :
    w'.maintenancePlans = w.maintenancePlans := by
  simp only [convertScheduleToAction, bind_eq_ok] at h
  obtain ⟨s, _, h⟩ := h
  split at h
  · cases h; rfl
  · simp only [bind_eq_ok] at h
    obtain ⟨_, _, _, _, h⟩ := h
    split at h
    · cases h; rfl
    · simp only [bind_eq_ok, Prod.exists] at h
      obtain ⟨_, _, quoteId, w₁, hquote, h⟩ := h
      obtain ⟨_, _, _, rfl⟩ := createQuote_eq_ok hquote
      cases h
      rfl

/-! ## Orders -/

section Orders

variable {workOrderId : UUID} {actorId : Option UUID}

theorem createWorkOrder_sound {payload : WorkOrderCreate} {hex12 : String} (hw : MaintenanceSound w)
    (h : createWorkOrder tenantId payload hex12 w = .ok (a, w')) : MaintenanceSound w' := by
  simp only [createWorkOrder, bind_eq_ok, pure, Except.pure, Except.ok.injEq, Prod.mk.injEq] at h
  obtain ⟨_, _, _, _, _, rfl⟩ := h
  have hordered : MaintenanceSound { w with
      workOrders := w.workOrders.insert (payload.row tenantId ("WO-" ++ hex12)) fun _ => rfl } :=
    insertOrder_sound hw fun _ _ hplan => by cases hplan
  refine Settles.sound ?_ hordered
  exact .of_eq rfl rfl rfl

theorem createWorkOrder_plans {payload : WorkOrderCreate} {hex12 : String}
    (h : createWorkOrder tenantId payload hex12 w = .ok (a, w')) :
    w'.maintenancePlans = w.maintenancePlans := by
  simp only [createWorkOrder, bind_eq_ok, pure, Except.pure, Except.ok.injEq, Prod.mk.injEq] at h
  obtain ⟨_, _, _, _, _, rfl⟩ := h
  rfl

theorem approveWorkOrder_settles (h : approveWorkOrder now tenantId workOrderId actorId w = .ok (a, w')) :
    Settles w w' := by
  simp only [approveWorkOrder, bind_eq_ok] at h
  obtain ⟨item, hitem, h⟩ := h
  split at h
  · cases h; exact .refl
  · simp only [bind_eq_ok, raiseIf_eq_ok, decide_eq_false_iff_not, not_not, pure, Except.pure,
      Except.ok.injEq, Prod.mk.injEq] at h
    obtain ⟨_, hdraft, _, rfl⟩ := h
    refine setOrder_settles (requireWorkOrder_eq_ok hitem).1 rfl fun _ => ?_
    rw [WorkOrder.isLive, hdraft]
    rfl

theorem transitionWorkOrder_settles {expected next : WorkOrderStatus} (hexpected : expected.isDone = false)
    (h : transitionWorkOrder tenantId workOrderId expected next w = .ok (a, w')) : Settles w w' := by
  rcases transition_cases h with rfl | ⟨item, hget, _, _, rfl, rfl⟩
  · exact .refl
  · refine setOrder_settles hget rfl fun _ => ?_
    rw [WorkOrder.isLive, hexpected]
    rfl

theorem qualityCheck_settles (h : sendWorkOrderToQualityCheck tenantId workOrderId w = .ok (a, w')) :
    Settles w w' := by
  unfold sendWorkOrderToQualityCheck at h
  split at h
  · cases h
  · split at h
    · cases h
    · exact transitionWorkOrder_settles rfl h

theorem completeWorkOrderTask_settles {taskId : UUID} {actualMinutes : Option Int}
    {notes : Option String} (h : completeWorkOrderTask now tenantId workOrderId taskId actualMinutes
      notes actorId w = .ok (a, w')) : Settles w w' := by
  simp only [completeWorkOrderTask, bind_eq_ok] at h
  obtain ⟨wo, hwo, _, _, item, _, h⟩ := h
  split at h
  · cases h; exact .refl
  · cases h
    exact ⟨rfl, .refl _, grows_update rfl (fun _ => rfl) fun _ _ _ => ⟨rfl, id⟩⟩

end Orders

end Schedules

/-! ## The evaluation of the plans -/

/-- The order that keeps another one of the plan from being made. -/
def Warehouse.hasPlanned (w : Warehouse) (tenantId planId vehicleId : UUID) : Bool :=
  w.workOrders.rows.any fun wo => wo.tenantId = tenantId && wo.vehicleId = some vehicleId &&
    wo.planId = some planId && !wo.status.isDone

/-- Of an overdue plan one schedule is missing at most, and it and the order are made only when none
is open. -/
def Warehouse.takesPlan (w : Warehouse) (now : Instant) (tenantId : UUID) (plan : MaintenancePlan)
    (vehicle : Vehicle) : Bool :=
  let overdue := (w.scheduleIn tenantId plan.id .overdue).isSome
  let pending := (w.scheduleIn tenantId plan.id .pending).isSome
  !plan.overdue now vehicle ||
    (overdue && pending || (overdue || pending) && w.openSchedules plan.id vehicle.id = 0) &&
      (w.hasPlanned tenantId plan.id vehicle.id || w.openOrders plan.id vehicle.id = 0)

/-- What an evaluation asks about a plan is as it was. -/
structure SamePlan (planId : UUID) (w w' : Warehouse) : Prop where
  scheduleIn : ∀ tenantId status, w'.scheduleIn tenantId planId status =
    w.scheduleIn tenantId planId status
  openSchedules : ∀ vehicleId, w'.openSchedules planId vehicleId = w.openSchedules planId vehicleId
  hasPlanned : ∀ tenantId vehicleId, w'.hasPlanned tenantId planId vehicleId =
    w.hasPlanned tenantId planId vehicleId
  generatedOrders : ∀ vehicleId, w'.generatedOrders planId vehicleId =
    w.generatedOrders planId vehicleId

section Plans

variable {w w' : Warehouse} {now : Instant} {tenantId planId vehicleId : UUID}
  {plan : MaintenancePlan} {vehicle : Vehicle}

theorem SamePlan.refl : SamePlan planId w w :=
  ⟨fun _ _ => rfl, fun _ => rfl, fun _ _ => rfl, fun _ => rfl⟩

theorem SamePlan.trans {w'' : Warehouse} (h : SamePlan planId w w') (h' : SamePlan planId w' w'') :
    SamePlan planId w w'' :=
  ⟨fun t s => (h'.scheduleIn t s).trans (h.scheduleIn t s),
    fun v => (h'.openSchedules v).trans (h.openSchedules v),
    fun t v => (h'.hasPlanned t v).trans (h.hasPlanned t v),
    fun v => (h'.generatedOrders v).trans (h.generatedOrders v)⟩

theorem SamePlan.takesPlan (h : SamePlan plan.id w w') :
    w'.takesPlan now tenantId plan vehicle = w.takesPlan now tenantId plan vehicle := by
  have horders : w'.openOrders plan.id vehicle.id = w.openOrders plan.id vehicle.id :=
    congrArg (List.countP WorkOrder.isLive) (h.generatedOrders vehicle.id)
  unfold Warehouse.takesPlan
  rw [h.scheduleIn, h.scheduleIn, h.openSchedules, h.hasPlanned, horders]

theorem plannedVehicles_spec {x : MaintenancePlan × Vehicle} (hx : x ∈ w.plannedVehicles tenantId) :
    x.1 ∈ w.maintenancePlans ∧ x.1.tenantId = tenantId ∧ x.1.status = "active" ∧
      x.1.vehicleId.bind w.vehicles.get = some x.2 := by
  obtain ⟨plan, hplan, hvehicle⟩ := List.mem_filterMap.mp hx
  obtain ⟨hmem, hof⟩ := List.mem_filter.mp hplan
  obtain ⟨vehicle, hof_vehicle, rfl⟩ := Option.map_eq_some_iff.mp hvehicle
  simp only [Bool.and_eq_true, decide_eq_true_eq] at hof
  exact ⟨hmem, hof.1, hof.2, hof_vehicle⟩

theorem plannedVehicles_nodup : ((w.plannedVehicles tenantId).map (·.1.id)).Nodup := by
  have hsub : ∀ plans : List MaintenancePlan, List.Sublist
      ((plans.filterMap fun plan => (plan.vehicleId.bind w.vehicles.get).map (plan, ·)).map (·.1.id))
      (plans.map MaintenancePlan.id) := by
    intro plans
    induction plans with
    | nil => exact .refl _
    | cons plan plans ih =>
      cases hvehicle : (plan.vehicleId.bind w.vehicles.get).map (plan, ·) with
      | none =>
        simp only [List.filterMap_cons, hvehicle]
        exact ih.cons _
      | some x =>
        obtain ⟨vehicle, _, rfl⟩ := Option.map_eq_some_iff.mp hvehicle
        simp only [List.filterMap_cons, hvehicle]
        exact ih.cons_cons _
  have hfilter := List.filter_sublist (p := fun plan : MaintenancePlan =>
    plan.tenantId = tenantId && plan.status = "active") (l := w.maintenancePlans.rows)
  exact w.maintenancePlans.nodup.sublist ((hsub _).trans (hfilter.map MaintenancePlan.id))

section Ensure

variable {status : ScheduleStatus} {dueKm : Option Int} {dueAt : Option Instant}

theorem ensureSchedule_cases :
    ((w.scheduleIn tenantId plan.id status).isSome = true ∧
      ensureSchedule tenantId vehicleId plan status dueKm dueAt w = w) ∨
    (w.scheduleIn tenantId plan.id status = none ∧
      ensureSchedule tenantId vehicleId plan status dueKm dueAt w = { w with
        maintenanceSchedules := w.maintenanceSchedules.insert fun id =>
          { id, tenantId, planId := plan.id, vehicleId, dueKm, dueAt, status } }) := by
  unfold ensureSchedule
  split
  · next hsome => exact .inl ⟨by rw [hsome]; rfl, rfl⟩
  · next hnone => exact .inr ⟨hnone, rfl⟩

theorem ensureSchedule_workOrders :
    (ensureSchedule tenantId vehicleId plan status dueKm dueAt w).workOrders = w.workOrders ∧
      (ensureSchedule tenantId vehicleId plan status dueKm dueAt w).maintenancePlans =
        w.maintenancePlans := by
  rcases ensureSchedule_cases (w := w) with ⟨_, hsame⟩ | ⟨_, hmade⟩
  · rw [hsame]; exact ⟨rfl, rfl⟩
  · rw [hmade]; exact ⟨rfl, rfl⟩

theorem ensureSchedule_generated {p v : UUID} :
    (ensureSchedule tenantId vehicleId plan status dueKm dueAt w).generatedOrders p v =
      w.generatedOrders p v := by
  rcases ensureSchedule_cases (w := w) with ⟨_, hsame⟩ | ⟨_, hmade⟩
  · rw [hsame]
  · rw [hmade]; exact insertSchedule_generated rfl

theorem ensureSchedule_linked (hw : Linked w) (hplan : plan ∈ w.maintenancePlans)
    (htenant : plan.tenantId = tenantId) :
    Linked (ensureSchedule tenantId vehicleId plan status dueKm dueAt w) := by
  rcases ensureSchedule_cases (w := w) with ⟨_, hsame⟩ | ⟨_, hmade⟩
  · rw [hsame]; exact hw
  · rw [hmade]; exact insertSchedule_linked hw ⟨plan, hplan, rfl, htenant⟩ rfl

theorem ensureSchedule_sound (hw : MaintenanceSound w) (hplan : plan ∈ w.maintenancePlans)
    (htenant : plan.tenantId = tenantId)
    (hnone : w.scheduleIn tenantId plan.id status = none → w.openSchedules plan.id vehicleId = 0) :
    MaintenanceSound (ensureSchedule tenantId vehicleId plan status dueKm dueAt w) := by
  rcases ensureSchedule_cases (w := w) with ⟨_, hsame⟩ | ⟨hmissing, hmade⟩
  · rw [hsame]; exact hw
  · rw [hmade]
    exact insertSchedule_sound hw ⟨plan, hplan, rfl, htenant⟩ rfl (hnone hmissing)

theorem ensureSchedule_samePlan (hne : plan.id ≠ planId) :
    SamePlan planId w (ensureSchedule tenantId vehicleId plan status dueKm dueAt w) := by
  refine ⟨fun t st => ?_, fun v => ?_, fun t v => ?_, fun v => ensureSchedule_generated⟩
  · rcases ensureSchedule_cases (w := w) with ⟨_, hsame⟩ | ⟨_, hmade⟩
    · rw [hsame]
    · rw [hmade, Warehouse.scheduleIn, rows_insert, List.find?_append,
        List.find?_cons_of_neg (by simp [hne]), List.find?_nil, Option.or_none]
      rfl
  · rcases ensureSchedule_cases (w := w) with ⟨_, hsame⟩ | ⟨_, hmade⟩
    · rw [hsame]
    · rw [hmade, insertSchedule_openSchedules, List.countP_singleton, if_neg (by simp [hne]),
        Nat.add_zero]
  · rw [Warehouse.hasPlanned, ensureSchedule_workOrders.1]
    rfl

end Ensure

variable [Rendering]

theorem triggerMaintenanceWorkOrder_cases :
    (w.hasPlanned tenantId plan.id vehicle.id = true ∧
      triggerMaintenanceWorkOrder now tenantId plan vehicle w = w) ∨
    (w.hasPlanned tenantId plan.id vehicle.id = false ∧
      triggerMaintenanceWorkOrder now tenantId plan vehicle w = { w with
        workOrders := w.workOrders.insert fun id =>
          { id, tenantId, vehicleId := some vehicle.id, planId := some plan.id
            workOrderNumber := "MAINT-" ++ (Rendering.hex8 plan.id).toUpper ++ "-" ++ toString now
            plannedWork := "Manutencao preventiva: " ++ plan.name } }) := by
  unfold triggerMaintenanceWorkOrder
  split
  · next hopen => exact .inl ⟨hopen, rfl⟩
  · next hnone => exact .inr ⟨Bool.eq_false_iff.mpr hnone, rfl⟩

theorem triggerMaintenanceWorkOrder_same :
    (triggerMaintenanceWorkOrder now tenantId plan vehicle w).maintenanceSchedules =
        w.maintenanceSchedules ∧
      (triggerMaintenanceWorkOrder now tenantId plan vehicle w).maintenancePlans =
        w.maintenancePlans := by
  rcases triggerMaintenanceWorkOrder_cases (w := w) with ⟨_, hsame⟩ | ⟨_, hmade⟩
  · rw [hsame]; exact ⟨rfl, rfl⟩
  · rw [hmade]; exact ⟨rfl, rfl⟩

theorem triggerMaintenanceWorkOrder_generated (hw : Linked w)
    (hne : plan.id = planId → vehicle.id ≠ vehicleId) :
    (triggerMaintenanceWorkOrder now tenantId plan vehicle w).generatedOrders planId vehicleId =
      w.generatedOrders planId vehicleId := by
  rcases triggerMaintenanceWorkOrder_cases (w := w) with ⟨_, hsame⟩ | ⟨_, hmade⟩
  · rw [hsame]
  · rw [hmade, insertOrder_generated hw, List.filter_cons_of_neg ?_, List.filter_nil, List.append_nil]
    simpa using hne

theorem triggerMaintenanceWorkOrder_linked (hw : Linked w) :
    Linked (triggerMaintenanceWorkOrder now tenantId plan vehicle w) := by
  rcases triggerMaintenanceWorkOrder_cases (w := w) with ⟨_, hsame⟩ | ⟨_, hmade⟩
  · rw [hsame]; exact hw
  · rw [hmade]; exact insertOrder_linked hw

theorem triggerMaintenanceWorkOrder_sound (hw : MaintenanceSound w)
    (hnone : w.hasPlanned tenantId plan.id vehicle.id = false →
      w.openOrders plan.id vehicle.id = 0) :
    MaintenanceSound (triggerMaintenanceWorkOrder now tenantId plan vehicle w) := by
  rcases triggerMaintenanceWorkOrder_cases (w := w) with ⟨_, hsame⟩ | ⟨hmissing, hmade⟩
  · rw [hsame]; exact hw
  · rw [hmade]
    refine insertOrder_sound hw fun p v hp hv => ?_
    obtain rfl := Option.some.inj hp
    obtain rfl := Option.some.inj hv
    exact hnone hmissing

theorem triggerMaintenanceWorkOrder_samePlan (hw : Linked w) (hne : plan.id ≠ planId) :
    SamePlan planId w (triggerMaintenanceWorkOrder now tenantId plan vehicle w) := by
  refine ⟨fun t st => ?_, fun v => ?_, fun t v => ?_,
    fun v => triggerMaintenanceWorkOrder_generated hw fun h => absurd h hne⟩
  · rw [Warehouse.scheduleIn, triggerMaintenanceWorkOrder_same.1]; rfl
  · rw [Warehouse.openSchedules, triggerMaintenanceWorkOrder_same.1]; rfl
  · rcases triggerMaintenanceWorkOrder_cases (w := w) with ⟨_, hsame⟩ | ⟨_, hmade⟩
    · rw [hsame]
    · rw [hmade, Warehouse.hasPlanned, rows_insert, List.any_append]
      simp [hne, Warehouse.hasPlanned]

/-- An evaluation makes the overdue schedule, the order and the next schedule, in this order. -/
theorem evaluatePlan_cases : evaluatePlan now tenantId plan vehicle w = w ∨
    plan.overdue now vehicle = true ∧ evaluatePlan now tenantId plan vehicle w =
      ensureSchedule tenantId vehicle.id plan .pending (plan.intervalKm.map (vehicle.currentKm + ·))
        (plan.intervalDays.map fun n => now + days n)
        (triggerMaintenanceWorkOrder now tenantId plan vehicle
          (ensureSchedule tenantId vehicle.id plan .overdue plan.nextDueKm plan.nextDueAt w)) := by
  unfold evaluatePlan
  split
  · next hoverdue => exact .inr ⟨hoverdue, rfl⟩
  · exact .inl rfl

theorem evaluatePlan_plans :
    (evaluatePlan now tenantId plan vehicle w).maintenancePlans = w.maintenancePlans := by
  rcases evaluatePlan_cases (w := w) with hsame | ⟨_, hmade⟩
  · rw [hsame]
  · rw [hmade, ensureSchedule_workOrders.2, triggerMaintenanceWorkOrder_same.2,
      ensureSchedule_workOrders.2]

theorem evaluatePlan_linked (hw : Linked w) (hplan : plan ∈ w.maintenancePlans)
    (htenant : plan.tenantId = tenantId) : Linked (evaluatePlan now tenantId plan vehicle w) := by
  rcases evaluatePlan_cases (w := w) with hsame | ⟨_, hmade⟩
  · rw [hsame]; exact hw
  · rw [hmade]
    refine ensureSchedule_linked (triggerMaintenanceWorkOrder_linked
      (ensureSchedule_linked hw hplan htenant)) ?_ htenant
    rw [triggerMaintenanceWorkOrder_same.2, ensureSchedule_workOrders.2]
    exact hplan

theorem evaluatePlan_samePlan (hw : Linked w) (hplan : plan ∈ w.maintenancePlans)
    (htenant : plan.tenantId = tenantId) (hne : plan.id ≠ planId) :
    SamePlan planId w (evaluatePlan now tenantId plan vehicle w) := by
  rcases evaluatePlan_cases (w := w) with hsame | ⟨_, hmade⟩
  · rw [hsame]; exact .refl
  · rw [hmade]
    exact ((ensureSchedule_samePlan hne).trans (triggerMaintenanceWorkOrder_samePlan
      (ensureSchedule_linked hw hplan htenant) hne)).trans (ensureSchedule_samePlan hne)

/-- No order is generated for a plan and a vehicle unless the plan is theirs, and overdue. -/
theorem evaluatePlan_generated (hw : Linked w) (hplan : plan ∈ w.maintenancePlans)
    (htenant : plan.tenantId = tenantId)
    (hnot : plan.id = planId → vehicle.id = vehicleId → plan.overdue now vehicle = false) :
    (evaluatePlan now tenantId plan vehicle w).generatedOrders planId vehicleId =
      w.generatedOrders planId vehicleId := by
  rcases evaluatePlan_cases (w := w) with hsame | ⟨hoverdue, hmade⟩
  · rw [hsame]
  · rw [hmade, ensureSchedule_generated, triggerMaintenanceWorkOrder_generated
      (ensureSchedule_linked hw hplan htenant), ensureSchedule_generated]
    intro hid hvehicle
    rw [hnot hid hvehicle] at hoverdue
    cases hoverdue

theorem evaluatePlan_sound (hw : MaintenanceSound w) (hplan : plan ∈ w.maintenancePlans)
    (htenant : plan.tenantId = tenantId) (htakes : w.takesPlan now tenantId plan vehicle = true) :
    MaintenanceSound (evaluatePlan now tenantId plan vehicle w) := by
  rcases evaluatePlan_cases (w := w) with hsame | ⟨hoverdue, hmade⟩
  · rw [hsame]; exact hw
  rw [hmade]
  simp only [Warehouse.takesPlan, hoverdue, Bool.not_true, Bool.false_or, Bool.and_eq_true] at htakes
  obtain ⟨hschedules, horders⟩ := htakes
  have h₁ : MaintenanceSound
      (ensureSchedule tenantId vehicle.id plan .overdue plan.nextDueKm plan.nextDueAt w) := by
    refine ensureSchedule_sound hw hplan htenant fun hnone => ?_
    simp only [hnone, Option.isSome_none, Bool.false_and, Bool.false_or, Bool.and_eq_true,
      decide_eq_true_eq] at hschedules
    exact hschedules.2
  have h₂ : MaintenanceSound (triggerMaintenanceWorkOrder now tenantId plan vehicle
      (ensureSchedule tenantId vehicle.id plan .overdue plan.nextDueKm plan.nextDueAt w)) := by
    refine triggerMaintenanceWorkOrder_sound h₁ fun hnone => ?_
    rw [Warehouse.hasPlanned, ensureSchedule_workOrders.1] at hnone
    rw [Warehouse.openOrders, ensureSchedule_generated]
    rw [show w.hasPlanned tenantId plan.id vehicle.id = false from hnone, Bool.false_or] at horders
    exact of_decide_eq_true horders
  refine ensureSchedule_sound h₂ ?_ htenant fun hnone => ?_
  · rw [triggerMaintenanceWorkOrder_same.2, ensureSchedule_workOrders.2]
    exact hplan
  -- the next schedule is missing, so the overdue one was there
  rw [Warehouse.scheduleIn, triggerMaintenanceWorkOrder_same.1] at hnone
  rw [Warehouse.openSchedules, triggerMaintenanceWorkOrder_same.1]
  rcases @ensureSchedule_cases w tenantId vehicle.id plan .overdue plan.nextDueKm plan.nextDueAt with
    ⟨_, hsame⟩ | ⟨hmissing, hmade₁⟩
  · rw [hsame] at hnone ⊢
    rw [show w.scheduleIn tenantId plan.id .pending = none from hnone, Option.isSome_none,
      Bool.and_false, Bool.false_or, Bool.and_eq_true] at hschedules
    exact of_decide_eq_true hschedules.2
  · rw [hmade₁, rows_insert, List.find?_append, Option.or_eq_none_iff] at hnone
    simp [hmissing, show w.scheduleIn tenantId plan.id .pending = none from hnone.1] at hschedules

/-! ### All plans of a tenant -/

theorem foldl_evaluatePlan_plans : ∀ (xs : List (MaintenancePlan × Vehicle)) (w : Warehouse),
    (xs.foldl (fun db p => evaluatePlan now tenantId p.1 p.2 db) w).maintenancePlans =
      w.maintenancePlans := by
  intro xs
  induction xs with
  | nil => exact fun _ => rfl
  | cons x xs ih => exact fun w => (ih _).trans evaluatePlan_plans

theorem evaluatePlans_sound : ∀ (xs : List (MaintenancePlan × Vehicle)) (w : Warehouse),
    MaintenanceSound w → (xs.map (·.1.id)).Nodup →
    (∀ x ∈ xs, x.1 ∈ w.maintenancePlans ∧ x.1.tenantId = tenantId) →
    (∀ x ∈ xs, w.takesPlan now tenantId x.1 x.2 = true) →
    MaintenanceSound (xs.foldl (fun db p => evaluatePlan now tenantId p.1 p.2 db) w) := by
  intro xs
  induction xs with
  | nil => exact fun _ hw _ _ _ => hw
  | cons x xs ih =>
    intro w hw hnodup hplans htakes
    obtain ⟨hmem, htenant⟩ := hplans x List.mem_cons_self
    obtain ⟨hnot, hnodup⟩ := List.nodup_cons.mp hnodup
    refine ih _ (evaluatePlan_sound hw hmem htenant (htakes x List.mem_cons_self)) hnodup
      (fun y hy => ?_) fun y hy => ?_
    · rw [evaluatePlan_plans]
      exact hplans y (List.mem_cons_of_mem _ hy)
    · have hne : x.1.id ≠ y.1.id := fun h => hnot (List.mem_map.mpr ⟨y, hy, h.symm⟩)
      rw [(evaluatePlan_samePlan hw.toLinked hmem htenant hne).takesPlan]
      exact htakes y (List.mem_cons_of_mem _ hy)

theorem evaluatePlans_generated : ∀ (xs : List (MaintenancePlan × Vehicle)) (w : Warehouse),
    Linked w → (∀ x ∈ xs, x.1 ∈ w.maintenancePlans ∧ x.1.tenantId = tenantId) →
    (∀ x ∈ xs, x.1.id = planId → x.2.id = vehicleId → x.1.overdue now x.2 = false) →
    Linked (xs.foldl (fun db p => evaluatePlan now tenantId p.1 p.2 db) w) ∧
      (xs.foldl (fun db p => evaluatePlan now tenantId p.1 p.2 db) w).generatedOrders planId vehicleId =
        w.generatedOrders planId vehicleId := by
  intro xs
  induction xs with
  | nil => exact fun _ hw _ _ => ⟨hw, rfl⟩
  | cons x xs ih =>
    intro w hw hplans hnot
    obtain ⟨hmem, htenant⟩ := hplans x List.mem_cons_self
    have hrest : ∀ y ∈ xs, y.1 ∈ (evaluatePlan now tenantId x.1 x.2 w).maintenancePlans ∧
        y.1.tenantId = tenantId := by
      rw [evaluatePlan_plans]
      exact fun y hy => hplans y (List.mem_cons_of_mem _ hy)
    obtain ⟨hlinked, hgenerated⟩ := ih (evaluatePlan now tenantId x.1 x.2 w)
      (evaluatePlan_linked hw hmem htenant) hrest fun y hy => hnot y (List.mem_cons_of_mem _ hy)
    exact ⟨hlinked,
      hgenerated.trans (evaluatePlan_generated hw hmem htenant (hnot x List.mem_cons_self))⟩

end Plans

end Rotas
