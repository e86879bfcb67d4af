import Rotas.Lib.Attached
import Rotas.Workshop.StockLedger
import Rotas.Workshop.WorkOrders

/-!
# Rotas.Workshop.OrderSteps

What hangs off a work order, and what each of the workshop's operations does to it.

* `OrdersSound` — finished orders have nothing unfinished, and orders from the quality check on have
  no tool out.
* `OrderStep`   — what an operation may do to the orders and to what hangs off them; it keeps
  `OrdersSound`, and leaves what hangs off a finished order.
* `createWorkOrder_step` and after — every operation is such a step, a closing and a cancellation
  when nothing of the order is open, and the acceptance of a supplement when its order is.
-/

namespace Rotas

open Table

/-! ## What hangs off an order -/

/-- From the quality check on. -/
def WorkOrderStatus.rests (status : WorkOrderStatus) : Bool :=
  status = .qualityCheck || status.isDone

def WorkOrderTask.unfinished (t : WorkOrderTask) : Bool := t.status ≠ .completed

def ToolCheckout.isOut (c : ToolCheckout) : Bool := c.status = .checkedOut

def Warehouse.order (w : Warehouse) (id : UUID) (p : WorkOrder → Bool) : Bool :=
  (w.workOrders.get id).any p

/-- The order is there and not finished. -/
def Warehouse.isOpen (w : Warehouse) (id : UUID) : Bool := w.order id fun wo => !wo.status.isDone

/-- What a reservation or a checkout hangs off: its tenant's order. -/
def PartReservation.owner (r : PartReservation) : UUID × Option UUID := (r.tenantId, r.workOrderId)

def ToolCheckout.owner (c : ToolCheckout) : UUID × UUID := (c.tenantId, c.workOrderId)

/-- The rows that hang off an order, by their keys; a session of work hangs off its task. -/
structure Attached where
  tasks : List UUID
  reservations : List UUID
  partsUsed : List UUID
  checkouts : List UUID
  sessions : List UUID
  deriving DecidableEq

def Warehouse.attached (w : Warehouse) (id : UUID) : Attached where
  tasks := w.tasks.keysWhere WorkOrderTask.workOrderId (· = id)
  reservations := w.reservations.keysWhere PartReservation.owner (·.2 = some id)
  partsUsed := w.partsUsed.keysWhere MaintenancePartUsed.workOrderId (· = id)
  checkouts := w.toolCheckouts.keysWhere ToolCheckout.owner (·.2 = id)
  sessions := w.laborLogs.keysWhere TaskLaborLog.workOrderTaskId fun taskId =>
    (w.tasks.get taskId).any (·.workOrderId = id)

/-- Finished orders have no unfinished task, no open reservation and no tool out. -/
structure OrdersSettled (w : Warehouse) : Prop where
  tasks : ∀ wo ∈ w.workOrders, wo.status.isDone = true →
    ∀ t ∈ w.tasks, t.workOrderId = wo.id → t.unfinished = false
  reservations : ∀ wo ∈ w.workOrders, wo.status.isDone = true →
    ∀ r ∈ w.reservations, r.workOrderId = some wo.id → r.isOpen = false
  checkouts : ∀ wo ∈ w.workOrders, wo.status.isDone = true →
    ∀ c ∈ w.toolCheckouts, c.workOrderId = wo.id → c.isOut = false

/-- And reservations and checkouts are of orders of their tenants, and no tool is out for an order
from the quality check on. -/
structure OrdersSound (w : Warehouse) : Prop where
  reserved : ∀ r ∈ w.reservations, ∀ id, r.workOrderId = some id →
    w.order id (·.tenantId = r.tenantId) = true
  checkedOut : ∀ c ∈ w.toolCheckouts, w.order c.workOrderId (·.tenantId = c.tenantId) = true
  tasks : ∀ wo ∈ w.workOrders, wo.status.isDone = true →
    ∀ t ∈ w.tasks, t.workOrderId = wo.id → t.unfinished = false
  reservations : ∀ wo ∈ w.workOrders, wo.status.isDone = true →
    ∀ r ∈ w.reservations, r.workOrderId = some wo.id → r.isOpen = false
  checkouts : ∀ wo ∈ w.workOrders, wo.status.rests = true →
    ∀ c ∈ w.toolCheckouts, c.workOrderId = wo.id → c.isOut = false

theorem OrdersSound.settled {w : Warehouse} (h : OrdersSound w) : OrdersSettled w where
  tasks := h.tasks
  reservations := h.reservations
  checkouts wo hwo hdone :=
    h.checkouts wo hwo (by rw [WorkOrderStatus.rests, hdone, Bool.or_true])

theorem OrdersSound.initial {w : Warehouse} (horders : w.workOrders = ∅)
    (hreservations : w.reservations = ∅) (hcheckouts : w.toolCheckouts = ∅) : OrdersSound w where
  reserved _ hr := absurd (hreservations ▸ hr) List.not_mem_nil
  checkedOut _ hc := absurd (hcheckouts ▸ hc) List.not_mem_nil
  tasks _ hwo := absurd (horders ▸ hwo) List.not_mem_nil
  reservations _ hwo := absurd (horders ▸ hwo) List.not_mem_nil
  checkouts _ hwo := absurd (horders ▸ hwo) List.not_mem_nil

/-! ## What an operation may do -/

/-- What a new row of each kind hangs off. -/
def Warehouse.takesReservation (w : Warehouse) (owner : UUID × Option UUID) : Prop :=
  ∀ id, owner.2 = some id →
    w.order id (fun wo => wo.tenantId = owner.1 && !wo.status.isDone) = true

def Warehouse.takesCheckout (w : Warehouse) (owner : UUID × UUID) : Prop :=
  w.order owner.2 (fun wo => wo.tenantId = owner.1 && wo.status = .inProgress) = true

def Warehouse.takesSession (w : Warehouse) (taskId : UUID) : Prop :=
  (w.tasks.get taskId).any (fun t => w.isOpen t.workOrderId) = true

/-- An order keeps its tenant, does not come back from the quality check or from the end, and is
finished only when nothing of it is open. -/
structure OrderStep (w w' : Warehouse) : Prop where
  kept : ∀ wo ∈ w.workOrders, ∃ wo' ∈ w'.workOrders, wo'.id = wo.id ∧ wo'.tenantId = wo.tenantId ∧
    (wo.status.isDone = true → wo'.status.isDone = true) ∧
    (wo.status.rests = true → wo'.status.rests = true)
  finished : ∀ wo' ∈ w'.workOrders, wo'.status.isDone = true →
    w.order wo'.id (·.status.isDone) = true ∨
      (∀ t ∈ w'.tasks, t.workOrderId = wo'.id → t.unfinished = false) ∧
      ∀ r ∈ w'.reservations, r.workOrderId = some wo'.id → r.isOpen = false
  rested : ∀ wo' ∈ w'.workOrders, wo'.status.rests = true →
    w.order wo'.id (·.status.rests) = true ∨
      ∀ c ∈ w'.toolCheckouts, c.workOrderId = wo'.id → c.isOut = false
  tasks : Grows WorkOrderTask.workOrderId WorkOrderTask.unfinished (w'.isOpen · = true)
    w.tasks w'.tasks
  reservations : Grows PartReservation.owner PartReservation.isOpen w'.takesReservation
    w.reservations w'.reservations
  partsUsed : Grows MaintenancePartUsed.workOrderId (fun _ => false) (w'.isOpen · = true)
    w.partsUsed w'.partsUsed
  checkouts : Grows ToolCheckout.owner ToolCheckout.isOut w'.takesCheckout
    w.toolCheckouts w'.toolCheckouts
  sessions : Grows TaskLaborLog.workOrderTaskId (fun _ => false) w'.takesSession
    w.laborLogs w'.laborLogs

section Step

variable {w w' : Warehouse}

theorem order_of_mem {wo : WorkOrder} (hwo : wo ∈ w.workOrders) (p : WorkOrder → Bool) :
    w.order wo.id p = p wo := by
  rw [Warehouse.order, show w.workOrders.get wo.id = some wo from Table.get_of_mem hwo,
    Option.any_some]

theorem order_eq_true {id : UUID} {p : WorkOrder → Bool} (h : w.order id p = true) :
    ∃ wo ∈ w.workOrders, wo.id = id ∧ p wo = true := by
  obtain ⟨wo, hget, hp⟩ := (Option.any_eq_true _ _).mp h
  exact ⟨wo, Table.mem_of_get hget, Table.key_of_get hget, hp⟩

theorem OrderStep.order_tenant (h : OrderStep w w') {id tenantId : UUID}
    (ho : w.order id (·.tenantId = tenantId) = true) :
    w'.order id (·.tenantId = tenantId) = true := by
  obtain ⟨wo, hwo, rfl, htenant⟩ := order_eq_true ho
  obtain ⟨wo', hwo', hid, htenant', _⟩ := h.kept wo hwo
  rw [← hid, order_of_mem hwo', htenant']
  exact htenant

theorem not_open_of_done {wo : WorkOrder} (hwo : wo ∈ w.workOrders)
    (hdone : wo.status.isDone = true) : w.isOpen wo.id = false := by
  rw [Warehouse.isOpen, order_of_mem hwo, hdone]
  rfl

theorem not_takesReservation {wo : WorkOrder} (hwo : wo ∈ w.workOrders)
    (hdone : wo.status.isDone = true) {owner : UUID × Option UUID} (howner : owner.2 = some wo.id) :
    ¬ w.takesReservation owner := by
  intro h
  have htakes := h wo.id howner
  rw [order_of_mem hwo, hdone, Bool.not_true, Bool.and_false] at htakes
  cases htakes

theorem not_takesCheckout {wo : WorkOrder} (hwo : wo ∈ w.workOrders)
    (hrests : wo.status.rests = true) {owner : UUID × UUID} (howner : owner.2 = wo.id) :
    ¬ w.takesCheckout owner := by
  intro h
  rw [Warehouse.takesCheckout, howner, order_of_mem hwo, Bool.and_eq_true,
    decide_eq_true_eq, decide_eq_true_eq] at h
  rw [h.2] at hrests
  cases hrests

theorem OrderStep.sound (h : OrderStep w w') (hw : OrdersSound w) : OrdersSound w' where
  reserved r' hr' id hid := by
    rcases h.reservations.mem hr' with ⟨r, hr, _, howner, _⟩ | htakes
    · obtain ⟨htenant, horder⟩ := Prod.mk.inj howner
      rw [htenant]
      exact h.order_tenant (hw.reserved r hr id (horder.symm.trans hid))
    · obtain ⟨wo, hwo, rfl, hp⟩ := order_eq_true (htakes id hid)
      rw [order_of_mem hwo]
      exact (Bool.and_eq_true_iff.mp hp).1
  checkedOut c' hc' := by
    rcases h.checkouts.mem hc' with ⟨c, hc, _, howner, _⟩ | htakes
    · obtain ⟨htenant, horder⟩ := Prod.mk.inj howner
      rw [htenant, horder]
      exact h.order_tenant (hw.checkedOut c hc)
    · obtain ⟨wo, hwo, hid, hp⟩ := order_eq_true htakes
      rw [← show wo.id = c'.workOrderId from hid, order_of_mem hwo]
      exact (Bool.and_eq_true_iff.mp hp).1
  tasks wo' hwo' hdone t' ht' hid := by
    rcases h.finished wo' hwo' hdone with hbefore | hclear
    · rcases h.tasks.mem ht' with ⟨t, ht, _, hlabel, hlive⟩ | hopen
      · obtain ⟨wo, hwo, hsame, hdone₀⟩ := order_eq_true hbefore
        have hquiet := hw.tasks wo hwo hdone₀ t ht (by rw [hsame, ← hid]; exact hlabel.symm)
        exact Bool.eq_false_iff.mpr fun hl => by rw [hlive hl] at hquiet; cases hquiet
      · rw [hid, not_open_of_done hwo' hdone] at hopen
        cases hopen
    · exact hclear.1 t' ht' hid
  reservations wo' hwo' hdone r' hr' hid := by
    rcases h.finished wo' hwo' hdone with hbefore | hclear
    · rcases h.reservations.mem hr' with ⟨r, hr, _, howner, hlive⟩ | htakes
      · obtain ⟨wo, hwo, hsame, hdone₀⟩ := order_eq_true hbefore
        have hquiet := hw.reservations wo hwo hdone₀ r hr
          (by rw [hsame, ← hid]; exact (Prod.mk.inj howner).2.symm)
        exact Bool.eq_false_iff.mpr fun hl => by rw [hlive hl] at hquiet; cases hquiet
      · exact absurd htakes (not_takesReservation hwo' hdone hid)
    · exact hclear.2 r' hr' hid
  checkouts wo' hwo' hrests c' hc' hid := by
    rcases h.rested wo' hwo' hrests with hbefore | hclear
    · rcases h.checkouts.mem hc' with ⟨c, hc, _, howner, hlive⟩ | htakes
      · obtain ⟨wo, hwo, hsame, hrests₀⟩ := order_eq_true hbefore
        have hquiet := hw.checkouts wo hwo hrests₀ c hc
          (by rw [hsame, ← hid]; exact (Prod.mk.inj howner).2.symm)
        exact Bool.eq_false_iff.mpr fun hl => by rw [hlive hl] at hquiet; cases hquiet
      · exact absurd htakes (not_takesCheckout hwo' hrests hid)
    · exact hclear c' hc' hid

theorem OrderStep.attached_eq (h : OrderStep w w') {wo : WorkOrder} (hwo : wo ∈ w.workOrders)
    (hdone : wo.status.isDone = true) : w'.attached wo.id = w.attached wo.id := by
  obtain ⟨wo', hwo', hid, _, hdone', _⟩ := h.kept wo hwo
  have hclosed : w'.isOpen wo.id = false := by
    rw [← hid]
    exact not_open_of_done hwo' (hdone' hdone)
  have hopen : ∀ id, w'.isOpen id = true → decide (id = wo.id) = false := by
    intro id hopen
    refine decide_eq_false fun heq => ?_
    rw [heq, hclosed] at hopen
    cases hopen
  have hrests : wo'.status.rests = true := by
    rw [WorkOrderStatus.rests, hdone' hdone, Bool.or_true]
  have htasks : ∀ taskId, ((w'.tasks.get taskId).any fun t => decide (t.workOrderId = wo.id)) =
      (w.tasks.get taskId).any fun t => decide (t.workOrderId = wo.id) := by
    intro taskId
    rw [Bool.eq_iff_iff, Option.any_eq_true, Option.any_eq_true]
    constructor
    · rintro ⟨t', hget, ht'⟩
      rcases h.tasks.mem (Table.mem_of_get hget) with ⟨t, ht, hkey, hlabel, _⟩ | hnew
      · refine ⟨t, Table.get_eq_some_iff.mpr ⟨ht, ?_⟩, by rw [← hlabel]; exact ht'⟩
        exact hkey.symm.trans (Table.key_of_get hget)
      · rw [hopen _ hnew] at ht'
        cases ht'
    · rintro ⟨t, hget, ht⟩
      obtain ⟨t', ht', hkey, hlabel⟩ := h.tasks.exists_of_mem (Table.mem_of_get hget)
      refine ⟨t', Table.get_eq_some_iff.mpr ⟨ht', ?_⟩, by rw [hlabel]; exact ht⟩
      exact hkey.trans (Table.key_of_get hget)
  unfold Warehouse.attached
  rw [h.tasks.keysWhere_eq hopen, h.partsUsed.keysWhere_eq hopen,
    h.reservations.keysWhere_eq fun owner htakes => decide_eq_false fun howner =>
      not_takesReservation hwo' (hdone' hdone) (by rw [hid]; exact howner) htakes,
    h.checkouts.keysWhere_eq fun owner htakes => decide_eq_false fun howner =>
      not_takesCheckout hwo' hrests (by rw [hid]; exact howner) htakes]
  simp only [htasks]
  rw [h.sessions.keysWhere_eq fun taskId htakes => ?_]
  rw [← htasks taskId]
  obtain ⟨t, hget, ht⟩ := (Option.any_eq_true _ _).mp htakes
  rw [hget, Option.any_some]
  exact hopen _ ht

theorem orderStep_of_orders (horders : w'.workOrders = w.workOrders)
    (htasks : Grows WorkOrderTask.workOrderId WorkOrderTask.unfinished (w'.isOpen · = true)
      w.tasks w'.tasks)
    (hreservations : Grows PartReservation.owner PartReservation.isOpen w'.takesReservation
      w.reservations w'.reservations)
    (hused : Grows MaintenancePartUsed.workOrderId (fun _ => false) (w'.isOpen · = true)
      w.partsUsed w'.partsUsed)
    (hcheckouts : Grows ToolCheckout.owner ToolCheckout.isOut w'.takesCheckout
      w.toolCheckouts w'.toolCheckouts)
    (hsessions : Grows TaskLaborLog.workOrderTaskId (fun _ => false) w'.takesSession
      w.laborLogs w'.laborLogs) : OrderStep w w' where
  kept wo hwo := ⟨wo, by rw [horders]; exact hwo, rfl, rfl, id, id⟩
  finished wo hwo hdone := .inl (by rw [horders] at hwo; rw [order_of_mem hwo]; exact hdone)
  rested wo hwo hrests := .inl (by rw [horders] at hwo; rw [order_of_mem hwo]; exact hrests)
  tasks := htasks
  reservations := hreservations
  partsUsed := hused
  checkouts := hcheckouts
  sessions := hsessions

theorem OrderStep.refl : OrderStep w w := orderStep_of_orders rfl (.refl _) (.refl _) (.refl _)
  (.refl _) (.refl _)

theorem orderStep_of_insert {new : WorkOrder} (hrows : w'.workOrders.rows = w.workOrders.rows ++ [new])
    (hnew : new.status.rests = false)
    (htasks : Grows WorkOrderTask.workOrderId WorkOrderTask.unfinished (w'.isOpen · = true)
      w.tasks w'.tasks)
    (hreservations : Grows PartReservation.owner PartReservation.isOpen w'.takesReservation
      w.reservations w'.reservations)
    (hused : w'.partsUsed = w.partsUsed) (hcheckouts : w'.toolCheckouts = w.toolCheckouts)
    (hsessions : w'.laborLogs = w.laborLogs) : OrderStep w w' := by
  have hmem : ∀ wo ∈ w'.workOrders, wo ∈ w.workOrders ∨ wo = new := by
    intro wo hwo
    rw [Table.mem_def, hrows] at hwo
    exact (List.mem_append.mp hwo).imp_right List.mem_singleton.mp
  refine ⟨fun wo hwo => ⟨wo, ?_, rfl, rfl, id, id⟩, fun wo hwo hdone => .inl ?_,
    fun wo hwo hrests => .inl ?_, htasks, hreservations, ?_, ?_, ?_⟩
  · rw [Table.mem_def, hrows]
    exact List.mem_append_left _ hwo
  · rcases hmem wo hwo with hwo | rfl
    · rw [order_of_mem hwo]; exact hdone
    · rw [WorkOrderStatus.rests, hdone, Bool.or_true] at hnew
      cases hnew
  · rcases hmem wo hwo with hwo | rfl
    · rw [order_of_mem hwo]; exact hrests
    · rw [hrests] at hnew
      cases hnew
  · rw [hused]; exact .refl _
  · rw [hcheckouts]; exact .refl _
  · rw [hsessions]; exact .refl _

theorem orderStep_of_modify {item : WorkOrder} {f : WorkOrder → WorkOrder}
    (hget : w.workOrders.get item.id = some item)
    (hrows : w'.workOrders.rows =
      w.workOrders.rows.map fun wo => if wo.id == item.id then f wo else wo)
    (hid : (f item).id = item.id) (htenant : (f item).tenantId = item.tenantId)
    (hdone : item.status.isDone = true → (f item).status.isDone = true)
    (hrests : item.status.rests = true → (f item).status.rests = true)
    (hfinished : (f item).status.isDone = true → item.status.isDone = true ∨
      (∀ t ∈ w'.tasks, t.workOrderId = item.id → t.unfinished = false) ∧
      ∀ r ∈ w'.reservations, r.workOrderId = some item.id → r.isOpen = false)
    (hrested : (f item).status.rests = true → item.status.rests = true ∨
      ∀ c ∈ w'.toolCheckouts, c.workOrderId = item.id → c.isOut = false)
    (htasks : Grows WorkOrderTask.workOrderId WorkOrderTask.unfinished (w'.isOpen · = true)
      w.tasks w'.tasks)
    (hreservations : Grows PartReservation.owner PartReservation.isOpen w'.takesReservation
      w.reservations w'.reservations)
    (hused : w'.partsUsed = w.partsUsed) (hcheckouts : w'.toolCheckouts = w.toolCheckouts)
    (hsessions : w'.laborLogs = w.laborLogs) : OrderStep w w' := by
  have hitem : item ∈ w.workOrders := Table.mem_of_get hget
  have hsame : ∀ wo ∈ w.workOrders, wo.id = item.id → wo = item :=
    fun wo hwo hid => Table.eq_of_key hwo hitem hid
  have hcases : ∀ wo ∈ w'.workOrders, wo = f item ∨ wo ∈ w.workOrders ∧ wo.id ≠ item.id := by
    intro wo hwo
    rw [Table.mem_def, hrows] at hwo
    obtain ⟨wo₀, hwo₀, rfl⟩ := List.mem_map.mp hwo
    split
    · next heq => exact .inl (by rw [hsame wo₀ hwo₀ (beq_iff_eq.mp heq)])
    · next hne => exact .inr ⟨hwo₀, fun heq => hne (beq_iff_eq.mpr heq)⟩
  refine ⟨fun wo hwo => ?_, fun wo hwo h => ?_, fun wo hwo h => ?_, htasks, hreservations,
    ?_, ?_, ?_⟩
  · simp only [Table.mem_def, hrows]
    by_cases heq : wo.id = item.id
    · rw [hsame wo hwo heq]
      exact ⟨f item, List.mem_map.mpr ⟨item, hitem, if_pos (beq_self_eq_true _)⟩, hid, htenant, hdone,
        hrests⟩
    · exact ⟨wo, List.mem_map.mpr ⟨wo, hwo, if_neg fun h => heq (beq_iff_eq.mp h)⟩, rfl, rfl, id, id⟩
  · rcases hcases wo hwo with rfl | ⟨hwo, _⟩
    · rw [hid, order_of_mem hitem]
      exact hfinished h
    · rw [order_of_mem hwo]
      exact .inl h
  · rcases hcases wo hwo with rfl | ⟨hwo, _⟩
    · rw [hid, order_of_mem hitem]
      exact hrested h
    · rw [order_of_mem hwo]
      exact .inl h
  · rw [hused]; exact .refl _
  · rw [hcheckouts]; exact .refl _
  · rw [hsessions]; exact .refl _

/-- The orders and what hangs off them are left alone. -/
structure SameOrders (w w' : Warehouse) : Prop where
  workOrders : w'.workOrders = w.workOrders
  tasks : w'.tasks = w.tasks
  reservations : w'.reservations = w.reservations
  partsUsed : w'.partsUsed = w.partsUsed
  toolCheckouts : w'.toolCheckouts = w.toolCheckouts
  laborLogs : w'.laborLogs = w.laborLogs

theorem SameOrders.refl : SameOrders w w := ⟨rfl, rfl, rfl, rfl, rfl, rfl⟩

theorem SameOrders.trans {w'' : Warehouse} (h : SameOrders w w') (h' : SameOrders w' w'') :
    SameOrders w w'' :=
  ⟨h'.1.trans h.1, h'.2.trans h.2, h'.3.trans h.3, h'.4.trans h.4, h'.5.trans h.5, h'.6.trans h.6⟩

theorem SameOrders.step (h : SameOrders w w') : OrderStep w w' := by
  refine orderStep_of_orders h.workOrders ?_ ?_ ?_ ?_ ?_
  · rw [h.tasks]; exact .refl _
  · rw [h.reservations]; exact .refl _
  · rw [h.partsUsed]; exact .refl _
  · rw [h.toolCheckouts]; exact .refl _
  · rw [h.laborLogs]; exact .refl _

theorem OrderStep.andThen {w'' : Warehouse} (h : OrderStep w w') (h' : SameOrders w' w'') :
    OrderStep w w'' := by
  have hop : w''.isOpen = w'.isOpen := by
    funext id
    rw [Warehouse.isOpen, Warehouse.order, h'.workOrders]
    rfl
  refine ⟨?_, ?_, ?_, ?_, ?_, ?_, ?_, ?_⟩
  · rw [h'.workOrders]; exact h.kept
  · rw [h'.workOrders, h'.tasks, h'.reservations]; exact h.finished
  · rw [h'.workOrders, h'.toolCheckouts]; exact h.rested
  · rw [h'.tasks, hop]; exact h.tasks
  · rw [h'.reservations]
    exact h.reservations.mono fun owner h id hid => by
      rw [Warehouse.order, h'.workOrders]
      exact h id hid
  · rw [h'.partsUsed, hop]; exact h.partsUsed
  · rw [h'.toolCheckouts]
    exact h.checkouts.mono fun owner h => by
      rw [Warehouse.takesCheckout, Warehouse.order, h'.workOrders]
      exact h
  · rw [h'.laborLogs]
    exact h.sessions.mono fun taskId h => by
      rw [Warehouse.takesSession, h'.tasks, hop]
      exact h

end Step

/-! ## Each operation -/

section Operations

variable {w w' : Warehouse} {tenantId workOrderId a : UUID} {now : Instant} {actorId : Option UUID}

theorem requireWorkOrder_eq_ok {wo : WorkOrder} (h : requireWorkOrder tenantId workOrderId w = .ok wo) :
    w.workOrders.get wo.id = some wo ∧ wo.id = workOrderId ∧ wo.tenantId = tenantId := by
  simp only [requireWorkOrder, require_eq_ok, Option.filter_eq_some_iff, decide_eq_true_eq] at h
  have hid : wo.id = workOrderId := Table.key_of_get h.1
  exact ⟨by rw [hid]; exact h.1, hid, h.2⟩

theorem createWorkOrder_step {payload : WorkOrderCreate} {hex12 : String}
    (h : createWorkOrder tenantId payload hex12 w = .ok (a, w')) : OrderStep w w' := by
  simp only [createWorkOrder, bind_eq_ok, pure, Except.pure, Except.ok.injEq, Prod.mk.injEq] at h
  obtain ⟨_, _, _, _, _, rfl⟩ := h
  exact orderStep_of_insert rfl rfl (.refl _) (.refl _) rfl rfl rfl

theorem approveWorkOrder_step (h : approveWorkOrder now tenantId workOrderId actorId w = .ok (a, w')) :
    OrderStep w w' := by
  simp only [approveWorkOrder, bind_eq_ok] at h
  obtain ⟨item, hitem, h⟩ := h
  split at h
  · cases h; exact .refl
  · simp only [bind_eq_ok, raiseIf_eq_ok, decide_eq_false_iff_not, not_not, pure, Except.pure,
      Except.ok.injEq, Prod.mk.injEq] at h
    obtain ⟨_, hdraft, _, rfl⟩ := h
    refine orderStep_of_modify (requireWorkOrder_eq_ok hitem).1 rfl rfl rfl ?_ ?_
      (fun h => by cases h) (fun h => by cases h) (.refl _) (.refl _) rfl rfl rfl
    · rw [hdraft]; intro h; cases h
    · rw [hdraft]; intro h; cases h

theorem transition_cases {expected next : WorkOrderStatus}
    (h : transitionWorkOrder tenantId workOrderId expected next w = .ok (a, w')) :
    w' = w ∨ ∃ item, w.workOrders.get item.id = some item ∧ item.id = workOrderId ∧
      item.tenantId = tenantId ∧ item.status = expected ∧
      w' = w.setOrder item.id (.setStatus next) (fun _ => rfl) := by
  simp only [transitionWorkOrder, bind_eq_ok] at h
  obtain ⟨item, hitem, h⟩ := h
  split at h
  · cases h; exact .inl rfl
  · simp only [bind_eq_ok, raiseIf_eq_ok, decide_eq_false_iff_not, not_not, pure, Except.pure,
      Except.ok.injEq, Prod.mk.injEq] at h
    obtain ⟨_, hexpected, _, rfl⟩ := h
    obtain ⟨hget, hid, htenant⟩ := requireWorkOrder_eq_ok hitem
    exact .inr ⟨item, hget, hid, htenant, hexpected, rfl⟩

theorem startWorkOrder_step (h : startWorkOrder tenantId workOrderId w = .ok (a, w')) :
    OrderStep w w' := by
  rcases transition_cases h with rfl | ⟨item, hget, _, _, hstatus, rfl⟩
  · exact .refl
  · refine orderStep_of_modify hget rfl rfl rfl ?_ ?_ nofun nofun (.refl _) (.refl _) rfl rfl rfl
    · rw [hstatus]; nofun
    · rw [hstatus]; nofun

theorem qualityCheck_step (hw : OrdersSound w)
    (h : sendWorkOrderToQualityCheck tenantId workOrderId w = .ok (a, w')) : OrderStep w w' := by
  unfold sendWorkOrderToQualityCheck at h
  split at h
  · cases h
  · split at h
    · cases h
    · next hnone =>
      rcases transition_cases h with rfl | ⟨item, hget, hid, htenant, hstatus, rfl⟩
      · exact .refl
      · have hback : ∀ c ∈ w.toolCheckouts, c.workOrderId = item.id → c.isOut = false := by
          intro c hc horder
          have hsame := hw.checkedOut c hc
          rw [horder, order_of_mem (Table.mem_of_get hget), decide_eq_true_eq] at hsame
          have hout := List.find?_eq_none.mp hnone c hc
          simpa [ToolCheckout.isOut, ← hsame, htenant, horder, hid] using hout
        refine orderStep_of_modify hget rfl rfl rfl ?_ ?_ nofun (fun _ => .inr hback) (.refl _) (.refl _)
          rfl rfl rfl
        · rw [hstatus]; nofun
        · rw [hstatus]; nofun

theorem createWorkOrderTask_step {description : String}
    (h : createWorkOrderTask tenantId workOrderId description w = .ok (a, w')) : OrderStep w w' := by
  simp only [createWorkOrderTask, bind_eq_ok, raiseIf_eq_ok, pure, Except.pure, Except.ok.injEq,
    Prod.mk.injEq] at h
  obtain ⟨wo, hwo, _, hstatus, _, rfl⟩ := h
  obtain ⟨hget, hid, _⟩ := requireWorkOrder_eq_ok hwo
  refine orderStep_of_orders rfl (grows_append rfl ?_) (.refl _) (.refl _) (.refl _) (.refl _)
  show w.isOpen workOrderId = true
  rw [← hid, Warehouse.isOpen, order_of_mem (Table.mem_of_get hget)]
  cases hs : wo.status <;> simp [hs, WorkOrderStatus.isDone] at hstatus ⊢

theorem completeWorkOrderTask_step {taskId : UUID} {actualMinutes : Option Int}
    {notes : Option String}
    (h : completeWorkOrderTask now tenantId workOrderId taskId actualMinutes notes actorId w =
      .ok (a, w')) : OrderStep w w' := by
  simp only [completeWorkOrderTask, bind_eq_ok, raiseIf_eq_ok] at h
  obtain ⟨wo, hwo, _, _, item, _, h⟩ := h
  obtain ⟨hget, rfl, _⟩ := requireWorkOrder_eq_ok hwo
  split at h
  · cases h; exact .refl
  · cases h
    exact orderStep_of_modify hget rfl rfl rfl id id .inl .inl (grows_update rfl (fun _ => rfl) fun _ _ _ => ⟨rfl, nofun⟩)
      (.refl _) rfl rfl rfl

theorem checkoutTool_step {payload : ToolCheckoutCreate}
    (h : checkoutTool now tenantId workOrderId payload actorId w = .ok (a, w')) :
    OrderStep w w' := by
  unfold checkoutTool at h
  split at h
  · simp only [bind_eq_ok, pure, Except.pure, Except.ok.injEq, Prod.mk.injEq] at h
    obtain ⟨_, _, _, rfl⟩ := h
    exact .refl
  · simp only [bind_eq_ok, raiseIf_eq_ok, decide_eq_false_iff_not, not_not, pure, Except.pure,
      Except.ok.injEq, Prod.mk.injEq] at h
    obtain ⟨wo, hwo, _, hstatus, _, _, _, _, _, rfl⟩ := h
    obtain ⟨hget, hid, htenant⟩ := requireWorkOrder_eq_ok hwo
    refine orderStep_of_orders rfl (.refl _) (.refl _) (.refl _) (grows_append rfl ?_) (.refl _)
    show w.order workOrderId _ = true
    rw [← hid, order_of_mem (Table.mem_of_get hget)]
    simp [htenant, hstatus, ToolCheckout.owner]

theorem returnTool_step {checkoutId : UUID} {payload : ToolReturnCreate}
    (h : returnTool tenantId checkoutId payload actorId w = .ok (a, w')) : OrderStep w w' := by
  simp only [returnTool, bind_eq_ok] at h
  obtain ⟨_, _, item, _, h⟩ := h
  split at h
  · simp only [bind_eq_ok, pure, Except.pure, Except.ok.injEq, Prod.mk.injEq] at h
    obtain ⟨_, _, _, rfl⟩ := h
    exact .refl
  · simp only [bind_eq_ok, pure, Except.pure, Except.ok.injEq, Prod.mk.injEq] at h
    obtain ⟨_, _, _, rfl⟩ := h
    exact orderStep_of_orders rfl (.refl _) (.refl _) (.refl _)
      (grows_update rfl (fun _ => rfl) fun _ _ _ => ⟨rfl, fun h => by cases h⟩) (.refl _)

/-! ### Labour -/

section Labour

variable {g g' : Garage} {taskId : UUID}

theorem assertWorkOrderMutable_eq_ok {wo : WorkOrder}
    (h : assertWorkOrderMutable tenantId workOrderId g = .ok wo) :
    g.shop.isOpen workOrderId = true := by
  simp only [assertWorkOrderMutable, bind_eq_ok, raiseIf_eq_ok, pure, Except.pure,
    Except.ok.injEq] at h
  obtain ⟨_, hwo, _, hdone, _, _, rfl⟩ := h
  obtain ⟨hget, rfl, _⟩ := requireWorkOrder_eq_ok hwo
  rw [Warehouse.isOpen, order_of_mem (Table.mem_of_get hget), hdone]
  rfl

theorem addTaskLaborSession_step {userId : UUID} {minutesWorked : Int}
    {startedAt completedAt : Option Instant}
    (h : addTaskLaborSession now tenantId taskId userId minutesWorked startedAt completedAt g =
      .ok (a, g')) : OrderStep g.shop g'.shop := by
  simp only [addTaskLaborSession, bind_eq_ok, raiseIf_eq_ok, require_eq_ok, pure, Except.pure,
    Except.ok.injEq, Prod.mk.injEq, Option.filter_eq_some_iff] at h
  obtain ⟨_, _, task, ⟨hget, _⟩, _, hmutable, _, rfl⟩ := h
  refine orderStep_of_orders rfl (.refl _) (.refl _) (.refl _) (.refl _) (grows_append rfl ?_)
  have hid : task.id = taskId := Table.key_of_get hget
  show (g.shop.tasks.get task.id).any _ = true
  rw [hid, hget, Option.any_some]
  exact assertWorkOrderMutable_eq_ok hmutable

theorem voidTaskLaborSession_step {laborLogId : UUID} {voidReason : String}
    (h : voidTaskLaborSession now tenantId laborLogId voidReason g = .ok (a, g')) :
    OrderStep g.shop g'.shop := by
  simp only [voidTaskLaborSession, bind_eq_ok] at h
  obtain ⟨_, _, log, _, h⟩ := h
  split at h
  · cases h; exact .refl
  · simp only [bind_eq_ok, pure, Except.pure, Except.ok.injEq, Prod.mk.injEq] at h
    obtain ⟨_, _, _, _, _, rfl⟩ := h
    exact orderStep_of_orders rfl (.refl _) (.refl _) (.refl _) (.refl _)
      (grows_update rfl (fun _ => rfl) fun _ _ _ => ⟨rfl, fun h => by cases h⟩)

end Labour

/-! ### Quotes -/

section Quotes

variable {quoteId : UUID}

theorem createQuote_same {payload : QuoteCreate} (h : createQuote now tenantId payload w = .ok (a, w')) :
    SameOrders w w' := by
  obtain ⟨_, _, _, rfl⟩ := createQuote_eq_ok h
  exact ⟨rfl, rfl, rfl, rfl, rfl, rfl⟩

theorem foldl_addTask_grows {P : UUID → Prop} (quote : WorkshopQuote) (hP : P workOrderId) :
    ∀ (items : List WorkshopQuoteItem) (w : Warehouse), ∃ tasks,
      items.foldl (addTask quote workOrderId) w = { w with tasks } ∧
        Grows WorkOrderTask.workOrderId WorkOrderTask.unfinished P w.tasks tasks := by
  intro items
  induction items with
  | nil => exact fun w => ⟨w.tasks, rfl, .refl _⟩
  | cons item items ih =>
    intro w
    obtain ⟨tasks, heq, hgrows⟩ := ih (addTask quote workOrderId w item)
    exact ⟨tasks, heq, .trans (grows_append rfl hP) hgrows⟩

theorem reserveItem_grows (qi : WorkshopQuoteItem) (w : Warehouse) : ∃ reservations,
    reserveItem tenantId quoteId (some workOrderId) qi w = { w with reservations } ∧
      Grows PartReservation.owner PartReservation.isOpen (· = (tenantId, some workOrderId))
        w.reservations reservations := by
  unfold reserveItem
  split
  · exact ⟨_, rfl, .refl _⟩
  · split
    · exact ⟨_, rfl, .refl _⟩
    · split
      · exact ⟨_, rfl, .refl _⟩
      · exact ⟨_, rfl, grows_append rfl rfl⟩

theorem createPartReservations_grows (w : Warehouse) : ∃ reservations,
    createPartReservations tenantId quoteId (some workOrderId) w = { w with reservations } ∧
      Grows PartReservation.owner PartReservation.isOpen (· = (tenantId, some workOrderId))
        w.reservations reservations := by
  have hloop : ∀ (items : List WorkshopQuoteItem) (w : Warehouse), ∃ reservations,
      items.foldl (fun db qi => reserveItem tenantId quoteId (some workOrderId) qi db) w =
        { w with reservations } ∧ Grows PartReservation.owner PartReservation.isOpen
          (· = (tenantId, some workOrderId)) w.reservations reservations := by
    intro items
    induction items with
    | nil => exact fun w => ⟨_, rfl, .refl _⟩
    | cons qi items ih =>
      intro w
      obtain ⟨rs, heq, hgrows⟩ := @reserveItem_grows tenantId workOrderId quoteId qi w
      obtain ⟨rs', heq', hgrows'⟩ := ih (reserveItem tenantId quoteId (some workOrderId) qi w)
      refine ⟨rs', ?_, ?_⟩
      · rw [List.foldl_cons, heq', heq]
      · rw [heq] at hgrows'
        exact hgrows.trans hgrows'
  exact hloop _ w

theorem createPartReservations_nil {orderId : Option UUID} (h : w.itemsOf tenantId quoteId = []) :
    createPartReservations tenantId quoteId orderId w = w := by
  have hnil : (w.quoteItems.rows.filter fun qi => qi.quoteId = quoteId && qi.tenantId = tenantId &&
      qi.itemType = .part && qi.partId.isSome) = [] := by
    rw [Warehouse.itemsOf, List.filter_eq_nil_iff] at h
    rw [List.filter_eq_nil_iff]
    intro qi hqi hpart
    refine h qi hqi ?_
    rw [Bool.and_eq_true, Bool.and_eq_true] at hpart
    exact hpart.1.1
  rw [createPartReservations, hnil, List.foldl_nil]

theorem acceptQuote_eq_ok {channel person : Option String}
    (h : acceptQuote now tenantId quoteId channel person w = .ok (a, w')) :
    ∃ quote target placed, w.quotes.get quoteId = some quote ∧ quote.tenantId = tenantId ∧
      quote.status = .sent ∧ acceptTarget now tenantId quote w = .ok target ∧
      target.place quote w = .ok placed ∧
      w' = createPartReservations tenantId quoteId (some (target.orderId w))
        (convertQuote quoteId (target.orderId w) channel person
          ((w.itemsOf tenantId quoteId).foldl (addTask quote (target.orderId w)) placed)) := by
  simp only [acceptQuote, bind_eq_ok, pure, Except.pure, Except.ok.injEq, Prod.mk.injEq] at h
  obtain ⟨quote, hquote, _, hsent, target, htarget, placed, hplace, _, rfl⟩ := h
  obtain ⟨hget, htenant⟩ := requireQuote_eq_ok hquote
  exact ⟨quote, target, placed, hget, htenant, checkAcceptable_eq_ok hsent, htarget, hplace, rfl⟩

/-- A new order takes the tasks and the reservations of its quote. -/
theorem placed_step {quote : WorkshopQuote} {key number : String} {seq : Nat}
    {channel person : Option String} (htenant : quote.tenantId = tenantId) :
    OrderStep w (createPartReservations tenantId quoteId (some w.workOrders.freshKey)
      (convertQuote quoteId w.workOrders.freshKey channel person
        ((w.itemsOf tenantId quoteId).foldl (addTask quote w.workOrders.freshKey)
          { w.setSequence quote.tenantId key seq with
            workOrders := w.workOrders.insert (quote.order number) }))) := by
  have hnew : (w.workOrders.insert (quote.order number)).get w.workOrders.freshKey =
      some (quote.order number w.workOrders.freshKey) := by rw [Table.get_insert, if_pos rfl]
  obtain ⟨tasks, htasks, htasksGrow⟩ := foldl_addTask_grows (P := (· = w.workOrders.freshKey)) quote
    rfl (w.itemsOf tenantId quoteId)
    { w.setSequence quote.tenantId key seq with
      workOrders := w.workOrders.insert (quote.order number) }
  rw [htasks]
  obtain ⟨reservations, heq, hgrows⟩ := @createPartReservations_grows tenantId w.workOrders.freshKey
    quoteId (convertQuote quoteId w.workOrders.freshKey channel person
      { w.setSequence quote.tenantId key seq with
        workOrders := w.workOrders.insert (quote.order number), tasks })
  rw [heq]
  refine orderStep_of_insert rfl rfl (htasksGrow.mono ?_) (hgrows.mono ?_) rfl rfl rfl
  · rintro _ rfl
    show ((w.workOrders.insert (quote.order number)).get w.workOrders.freshKey).any _ = true
    rw [hnew]
    rfl
  · rintro _ rfl id hid
    cases hid
    show ((w.workOrders.insert (quote.order number)).get w.workOrders.freshKey).any _ = true
    rw [hnew, Option.any_some, show (quote.order number w.workOrders.freshKey).tenantId = tenantId
      from htenant]
    simp [WorkshopQuote.order, WorkOrderStatus.isDone]

/-- An order of its own is new; a supplement has no items, or goes to an order that is open. -/
theorem acceptQuote_step {channel person : Option String}
    (hopen : ∀ quote, w.quotes.get quoteId = some quote → quote.tenantId = tenantId →
      quote.status = .sent → w.itemsOf tenantId quoteId = [] ∨
        ∀ id, quote.supplemented = some id → w.order id (·.status.isDone) = false)
    (h : acceptQuote now tenantId quoteId channel person w = .ok (a, w')) : OrderStep w w' := by
  obtain ⟨quote, target, placed, hget, htenant, hsent, htarget, hplace, rfl⟩ := acceptQuote_eq_ok h
  rw [acceptTarget] at htarget
  split at htarget
  · next id hsupp =>
    simp only [requireTarget, bind_eq_ok, require_eq_ok, Option.filter_eq_some_iff,
      decide_eq_true_eq, pure, Except.pure, Except.ok.injEq] at htarget
    obtain ⟨wo, ⟨hwo, howner⟩, rfl⟩ := htarget
    have hid : wo.id = id := Table.key_of_get hwo
    cases hplace
    rcases hopen quote hget htenant hsent with hnone | hsome
    · rw [hnone, List.foldl_nil, createPartReservations_nil (by exact hnone)]
      exact SameOrders.step ⟨rfl, rfl, rfl, rfl, rfl, rfl⟩
    · have hlive : wo.status.isDone = false := by
        have hdone := hsome id hsupp
        rwa [← hid, order_of_mem (Table.mem_of_get hwo)] at hdone
      obtain ⟨tasks, htasks, htasksGrow⟩ := foldl_addTask_grows (P := (w.isOpen · = true)) quote
        (show w.isOpen wo.id = true by
          rw [Warehouse.isOpen, order_of_mem (Table.mem_of_get hwo), hlive]; rfl)
        (w.itemsOf tenantId quoteId) w
      rw [AcceptTarget.orderId, htasks]
      obtain ⟨reservations, heq, hgrows⟩ := @createPartReservations_grows tenantId wo.id quoteId
        (convertQuote quoteId wo.id channel person { w with tasks })
      rw [heq]
      refine orderStep_of_orders rfl htasksGrow (hgrows.mono ?_) (.refl _) (.refl _) (.refl _)
      rintro _ rfl id' hid'
      cases hid'
      show w.order wo.id _ = true
      rw [order_of_mem (Table.mem_of_get hwo), howner, hlive]
      simp
  · cases htarget
    simp only [newTarget, AcceptTarget.place, bind_eq_ok, raiseIf_eq_ok, pure, Except.pure,
      Except.ok.injEq] at hplace
    obtain ⟨_, _, rfl⟩ := hplace
    exact placed_step htenant

theorem rejectQuote_same {reason : Option String}
    (h : rejectQuote tenantId quoteId reason w = .ok (a, w')) : SameOrders w w' := by
  simp only [rejectQuote, bind_eq_ok, pure, Except.pure, Except.ok.injEq, Prod.mk.injEq] at h
  obtain ⟨_, _, _, rfl⟩ := h
  exact ⟨rfl, rfl, rfl, rfl, rfl, rfl⟩

theorem expireOutdatedQuotes_same : SameOrders w (expireOutdatedQuotes now w).2 :=
  ⟨rfl, rfl, rfl, rfl, rfl, rfl⟩

end Quotes

/-! ### Stock -/

section Stock

variable {inventoryId : UUID}

theorem post_same {m : SparePartMovement} {average : Int} : SameOrders w (w.post m average) :=
  ⟨rfl, rfl, rfl, rfl, rfl, rfl⟩

theorem record_same {r : MovementRequest} {m : SparePartMovement}
    (h : record tenantId r w = .ok (m, w')) : SameOrders w w' := by
  rcases record_cases h with rfl | ⟨_, _, _, rfl⟩
  · exact .refl
  · exact post_same

theorem issueSparePart_step {payload : MaintenancePartIssueCreate}
    (h : issueSparePartToWorkOrder now tenantId workOrderId payload actorId w = .ok (a, w')) :
    OrderStep w w' := by
  unfold issueSparePartToWorkOrder at h
  split at h
  · simp only [bind_eq_ok, pure, Except.pure, Except.ok.injEq, Prod.mk.injEq] at h
    obtain ⟨_, _, _, rfl⟩ := h
    exact .refl
  · simp only [bind_eq_ok, raiseIf_eq_ok, decide_eq_false_iff_not, not_not, pure, Except.pure,
      Except.ok.injEq, Prod.mk.injEq] at h
    obtain ⟨wo, hwo, _, hstatus, ⟨m, q⟩, hrec, _, rfl⟩ := h
    obtain ⟨hget, hid, _⟩ := requireWorkOrder_eq_ok hwo
    have hsame := record_same hrec
    have hopen : q.isOpen workOrderId = true := by
      rw [Warehouse.isOpen, Warehouse.order, hsame.workOrders, ← hid, hget, Option.any_some, hstatus]
      rfl
    have hused : Grows MaintenancePartUsed.workOrderId (fun _ => false) (q.isOpen · = true)
        w.partsUsed q.partsUsed := by
      rw [hsame.partsUsed]
      exact grows_append rfl hopen
    refine orderStep_of_orders hsame.workOrders ?_ ?_ ?_ ?_ ?_
    · rw [hsame.tasks]; exact .refl _
    · rw [hsame.reservations]; exact .refl _
    · -- the costs come after the movement
      exact hused.trans (grows_update rfl (fun _ => rfl) fun _ _ _ => ⟨rfl, fun h => by cases h⟩)
    · rw [hsame.toolCheckouts]; exact .refl _
    · rw [hsame.laborLogs]; exact .refl _

theorem consume_grows : ∀ (rs : List PartReservation) (n : Int) (w : Warehouse), ∃ reservations,
    consume tenantId workOrderId inventoryId rs n w = { w with reservations } ∧
      Grows PartReservation.owner PartReservation.isOpen (· = (tenantId, some workOrderId))
        w.reservations reservations := by
  have hset : ∀ (w : Warehouse) (id : UUID) (n : Int) (status : ReservationStatus),
      (status = .consumed ∨ status = .released) →
      Grows PartReservation.owner PartReservation.isOpen (· = (tenantId, some workOrderId))
        w.reservations (w.setReservation id n status).reservations := by
    rintro w id n status (rfl | rfl)
    · exact grows_update rfl (fun _ => rfl) fun _ _ _ => ⟨rfl, nofun⟩
    · exact grows_update rfl (fun _ => rfl) fun _ _ _ => ⟨rfl, nofun⟩
  intro rs
  induction rs with
  | nil => exact fun _ w => ⟨_, rfl, .refl _⟩
  | cons res rest ih =>
    intro n w
    unfold consume
    split
    · obtain ⟨reservations, heq, hgrows⟩ := ih n (w.setReservation res.id res.quantityReserved .released)
      exact ⟨reservations, heq, .trans (hset _ _ _ _ (.inr rfl)) hgrows⟩
    · split
      · obtain ⟨reservations, heq, hgrows⟩ := ih (n - res.quantityReserved)
          (w.setReservation res.id res.quantityReserved .consumed)
        exact ⟨reservations, heq, .trans (hset _ _ _ _ (.inl rfl)) hgrows⟩
      · obtain ⟨reservations, heq, hgrows⟩ := ih 0 _
        refine ⟨reservations, heq, .trans (hset w res.id n .consumed (.inl rfl)) (.trans ?_ hgrows)⟩
        exact grows_append rfl rfl

theorem requireOpenOrder_eq_ok {closed : WorkOrderStatus → Exc} {wo : WorkOrder}
    (h : requireOpenOrder tenantId workOrderId closed w = .ok wo) :
    w.workOrders.get wo.id = some wo ∧ wo.id = workOrderId ∧ wo.tenantId = tenantId ∧
      wo.status.isDone = false := by
  simp only [requireOpenOrder, bind_eq_ok, raiseIf_eq_ok, pure, Except.pure, Except.ok.injEq] at h
  obtain ⟨_, hwo, _, hdone, rfl⟩ := h
  obtain ⟨hget, hid, htenant⟩ := requireWorkOrder_eq_ok hwo
  exact ⟨hget, hid, htenant, hdone⟩

theorem issueParts_step [Rendering] {q : ℚ} {notes : Option String}
    (h : issuePartsForWorkOrder now tenantId workOrderId inventoryId q actorId notes w = .ok (a, w')) :
    OrderStep w w' := by
  simp only [issuePartsForWorkOrder, bind_eq_ok, pure, Except.pure, Except.ok.injEq,
    Prod.mk.injEq] at h
  obtain ⟨⟨wo, inv⟩, hchecks, _, rfl⟩ := h
  simp only [issuePartChecks, bind_eq_ok, pure, Except.pure, Except.ok.injEq, Prod.mk.injEq] at hchecks
  obtain ⟨_, _, wo, hwo, _, _, _, _, _, _, rfl, rfl⟩ := hchecks
  obtain ⟨hget, hid, htenant, hdone⟩ := requireOpenOrder_eq_ok hwo
  obtain ⟨reservations, heq, hgrows⟩ := @consume_grows tenantId workOrderId inventoryId
    (w.reservationsOf tenantId workOrderId inventoryId) (thousandths q) w
  rw [heq]
  refine orderStep_of_orders rfl (.refl _) (hgrows.mono ?_) (grows_append rfl ?_) (.refl _) (.refl _)
  · rintro _ rfl id hid'
    cases hid'
    show w.order workOrderId _ = true
    rw [← hid, order_of_mem (Table.mem_of_get hget), htenant, hdone]
    simp
  · show w.order workOrderId _ = true
    rw [← hid, order_of_mem (Table.mem_of_get hget), hdone]
    rfl

theorem receiveItem_same {po : WorkshopPurchaseOrder} {item : WorkshopPurchaseOrderItem} :
    SameOrders w (receiveItem now tenantId po actorId item w) := by
  unfold receiveItem
  dsimp only
  split
  · exact .refl
  · split
    · exact .refl
    · exact ⟨rfl, rfl, rfl, rfl, rfl, rfl⟩

theorem StockCall.step [Rendering] {c : StockCall} (h : c.run w = .ok (a, w')) : OrderStep w w' := by
  cases c with
  | record tenantId r =>
    simp only [StockCall.run, bind_eq_ok, pure, Except.pure, Except.ok.injEq, Prod.mk.injEq] at h
    obtain ⟨⟨m, q⟩, hrec, _, rfl⟩ := h
    exact (record_same hrec).step
  | receive tenantId payload actorId =>
    simp only [StockCall.run, receiveSparePart, bind_eq_ok, pure, Except.pure, Except.ok.injEq,
      Prod.mk.injEq] at h
    obtain ⟨⟨m, q⟩, hrec, _, rfl⟩ := h
    exact (record_same hrec).step
  | issueToWorkOrder now tenantId workOrderId payload actorId => exact issueSparePart_step h
  | receipt tenantId payload actorId =>
    simp only [StockCall.run, recordSparePartReceipt, bind_eq_ok, pure, Except.pure, Except.ok.injEq,
      Prod.mk.injEq] at h
    obtain ⟨_, _, _, rfl⟩ := h
    exact post_same.step
  | installSerial now tenantId serialId vehicleId =>
    simp only [StockCall.run, installSerialItem, bind_eq_ok, pure, Except.pure, Except.ok.injEq,
      Prod.mk.injEq] at h
    obtain ⟨_, _, _, _, _, _, _, rfl⟩ := h
    exact SameOrders.step ⟨rfl, rfl, rfl, rfl, rfl, rfl⟩
  | issueParts now tenantId workOrderId inventoryId quantity actorId notes => exact issueParts_step h
  | returnPart now tenantId workOrderId inventoryId quantity reason actorId =>
    simp only [StockCall.run, returnPartFromWorkOrder, bind_eq_ok, pure, Except.pure, Except.ok.injEq,
      Prod.mk.injEq] at h
    obtain ⟨_, _, _, _, _, _, _, _, _, rfl⟩ := h
    exact post_same.step
  | adjustment now tenantId inventoryId quantity direction reason actorId =>
    simp only [StockCall.run, recordInventoryAdjustment, bind_eq_ok, pure, Except.pure,
      Except.ok.injEq, Prod.mk.injEq] at h
    obtain ⟨_, _, _, _, _, _, _, _, _, rfl⟩ := h
    exact post_same.step
  | receiveOrder now tenantId purchaseOrderId supplierInvoiceNumber actorId =>
    obtain ⟨q, orders, hq, rfl⟩ := receivePurchaseOrder_ind (P := SameOrders w) .refl
      (fun _ _ _ h => h.trans receiveItem_same) h
    exact SameOrders.step ⟨hq.1, hq.2, hq.3, hq.4, hq.5, hq.6⟩

end Stock

/-! ### The end of an order -/

/-- The order has an unfinished task, an open reservation, a tool out. -/
def Warehouse.hasUnfinished (w : Warehouse) (id : UUID) : Bool :=
  w.tasks.rows.any fun t => t.workOrderId = id && t.unfinished

def Warehouse.hasReserved (w : Warehouse) (id : UUID) : Bool :=
  w.reservations.rows.any fun r => r.workOrderId = some id && r.isOpen

def Warehouse.hasOut (w : Warehouse) (id : UUID) : Bool :=
  w.toolCheckouts.rows.any fun c => c.workOrderId = id && c.isOut

theorem forall_not_of_any_eq_false {ρ : Type} [Keyed ρ] {t : Table ρ} {p q : ρ → Bool}
    (h : (t.rows.any fun r => p r && q r) = false) : ∀ r ∈ t, p r = true → q r = false := by
  intro r hr hp
  have hnot := List.any_eq_false.mp h r hr
  rw [hp, Bool.true_and] at hnot
  exact Bool.eq_false_iff.mpr hnot

/-- A cancellation releases what is reserved; it asks neither for the tasks nor for the tools. -/
theorem cancelWorkOrder_step {reason : String} (hw : OrdersSound w)
    (hclear : w.order workOrderId (fun wo => wo.tenantId = tenantId && !wo.status.isDone) = true →
      w.hasUnfinished workOrderId = false ∧ w.hasOut workOrderId = false)
    (h : cancelWorkOrder tenantId workOrderId reason w = .ok (a, w')) : OrderStep w w' := by
  simp only [cancelWorkOrder, bind_eq_ok, pure, Except.pure, Except.ok.injEq, Prod.mk.injEq] at h
  obtain ⟨wo, hwo, _, rfl⟩ := h
  obtain ⟨hget, rfl, htenant, hdone⟩ := requireOpenOrder_eq_ok hwo
  obtain ⟨htasks, hout⟩ := hclear (by
    rw [order_of_mem (Table.mem_of_get hget), htenant, hdone]
    simp)
  refine orderStep_of_modify hget rfl rfl rfl (fun _ => rfl) (fun _ => rfl)
    (fun _ => .inr ⟨fun t ht hid => ?_, fun r hr hid => ?_⟩) (fun _ => .inr fun c hc hid => ?_)
    (.refl _) (grows_update rfl (fun _ => rfl) fun _ _ _ => ⟨rfl, fun h => by cases h⟩) rfl rfl rfl
  · exact forall_not_of_any_eq_false htasks t ht (decide_eq_true hid)
  · obtain ⟨r₀, hr₀, rfl⟩ := List.mem_map.mp hr
    split
    · rfl
    · next hkept =>
      rw [if_neg hkept] at hid
      have hsame := hw.reserved r₀ hr₀ _ hid
      rw [order_of_mem (Table.mem_of_get hget), decide_eq_true_eq] at hsame
      refine Bool.eq_false_iff.mpr fun hopen => hkept ?_
      simp [← hsame, htenant, hopen, hid]
  · exact forall_not_of_any_eq_false hout c hc (decide_eq_true hid)

theorem schedulePreventiveMaintenance_eq_ok {vehicleId planId : UUID} {baseOdometerKm : Option Int}
    {baseDate : Option Instant} (h : schedulePreventiveMaintenance now tenantId vehicleId planId
      baseOdometerKm baseDate w = .ok (a, w')) :
    ∃ maintenanceSchedules, w' = { w with maintenanceSchedules } := by
  simp only [schedulePreventiveMaintenance, bind_eq_ok] at h
  obtain ⟨_, _, _, _, h⟩ := h
  split at h
  · cases h; exact ⟨_, rfl⟩
  · cases h; exact ⟨_, rfl⟩

theorem completeSchedules_eq {vehicle : Vehicle} : ∀ (ss : List MaintenanceSchedule)
    (w : Warehouse), ∃ maintenanceSchedules,
      completeSchedules now tenantId vehicle ss w = { w with maintenanceSchedules } := by
  intro ss
  induction ss with
  | nil => exact fun _ => ⟨_, rfl⟩
  | cons s ss ih =>
    intro w
    unfold completeSchedules
    dsimp only
    split
    · exact ⟨_, rfl⟩
    · next q hschedule =>
      obtain ⟨_, rfl⟩ := schedulePreventiveMaintenance_eq_ok hschedule
      exact ih _

theorem handleWorkOrderCompletion_eq (now : Instant) (tenantId workOrderId : UUID) (w : Warehouse) :
    ∃ maintenanceSchedules,
      handleWorkOrderCompletion now tenantId workOrderId w = { w with maintenanceSchedules } := by
  unfold handleWorkOrderCompletion
  split
  · exact ⟨_, rfl⟩
  · split
    · exact ⟨_, rfl⟩
    · exact completeSchedules_eq _ _

theorem handleWorkOrderCompletion_same :
    SameOrders w (handleWorkOrderCompletion now tenantId workOrderId w) := by
  obtain ⟨_, h⟩ := handleWorkOrderCompletion_eq now tenantId workOrderId w
  rw [h]
  exact ⟨rfl, rfl, rfl, rfl, rfl, rfl⟩

section Close

variable [Locale] {g g' : Garage}

theorem recordOrderCost_eq_ok [Rendering] {wo : WorkOrder} {actualCost : Option ℚ} {notes : String}
    (h : recordOrderCost now tenantId wo actualCost notes actorId g = .ok g') :
    ∃ trips tripCosts, g' = { g with db := { g.db with trips, tripCosts } } := by
  unfold recordOrderCost at h
  split at h
  · simp only [bind_eq_ok] at h
    obtain ⟨request, _, h⟩ := h
    split at h
    · cases h; exact ⟨_, _, rfl⟩
    · simp only [bind_eq_ok, Prod.exists, pure, Except.pure, Except.ok.injEq] at h
      obtain ⟨_, db, hcost, rfl⟩ := h
      simp only [recordTripCost, bind_eq_ok] at hcost
      obtain ⟨_, _, _, _, hcost⟩ := hcost
      split at hcost
      · simp only [bind_eq_ok] at hcost
        obtain ⟨_, _, hcost⟩ := hcost
        cases hcost
        exact ⟨_, _, rfl⟩
      · cases hcost; exact ⟨_, _, rfl⟩
  · cases h; exact ⟨_, _, rfl⟩

theorem recordOrderCost_shop [Rendering] {wo : WorkOrder} {actualCost : Option ℚ} {notes : String}
    (h : recordOrderCost now tenantId wo actualCost notes actorId g = .ok g') : g'.shop = g.shop := by
  obtain ⟨_, _, rfl⟩ := recordOrderCost_eq_ok h
  rfl

theorem draftInvoice_shop {wo : WorkOrder} : (draftInvoice now tenantId wo g).shop = g.shop := by
  unfold draftInvoice
  split
  · rfl
  · split <;> rfl

theorem recordOrderCost_vehicles [Rendering] {wo : WorkOrder} {actualCost : Option ℚ} {notes : String}
    (h : recordOrderCost now tenantId wo actualCost notes actorId g = .ok g') :
    g'.db.vehicles = g.db.vehicles := by
  obtain ⟨_, _, rfl⟩ := recordOrderCost_eq_ok h
  rfl

theorem draftInvoice_vehicles {wo : WorkOrder} :
    (draftInvoice now tenantId wo g).db.vehicles = g.db.vehicles := by
  unfold draftInvoice
  split
  · rfl
  · split
    · rfl
    · next hmade =>
      obtain ⟨_, _, rfl⟩ := createWorkshopInvoice_eq_ok hmade
      rfl

/-- A closing asks neither for the tasks nor for the reservations. -/
theorem closeWorkOrder_step [Rendering] {actualCost : Option ℚ} {notes : String}
    (hclear : g.shop.order workOrderId (fun wo => wo.tenantId = tenantId && wo.status = .qualityCheck) =
      true → g.shop.hasUnfinished workOrderId = false ∧ g.shop.hasReserved workOrderId = false)
    (h : closeWorkOrder now tenantId workOrderId actualCost notes actorId g = .ok (a, g')) :
    OrderStep g.shop g'.shop := by
  simp only [closeWorkOrder, bind_eq_ok] at h
  obtain ⟨item, hitem, h⟩ := h
  split at h
  · cases h; exact .refl
  · simp only [bind_eq_ok, raiseIf_eq_ok, decide_eq_false_iff_not, not_not, pure, Except.pure,
      Except.ok.injEq, Prod.mk.injEq] at h
    obtain ⟨_, hstatus, g₁, hcost, _, rfl⟩ := h
    obtain ⟨hget, rfl, htenant⟩ := requireWorkOrder_eq_ok hitem
    obtain ⟨htasks, hreserved⟩ := hclear (by
      rw [order_of_mem (Table.mem_of_get hget), htenant, hstatus]
      simp)
    have hclosed : OrderStep g.shop (g.shop.setOrder item.id (.close now actualCost notes actorId)
        (fun _ => rfl)) := by
      refine orderStep_of_modify hget rfl rfl rfl ?_ (fun _ => rfl)
        (fun _ => .inr ⟨fun t ht hid => ?_, fun r hr hid => ?_⟩) (fun _ => .inl ?_)
        (.refl _) (.refl _) rfl rfl rfl
      · rw [hstatus]; intro h; cases h
      · exact forall_not_of_any_eq_false htasks t ht (decide_eq_true hid)
      · exact forall_not_of_any_eq_false hreserved r hr (decide_eq_true hid)
      · rw [hstatus]; rfl
    refine hclosed.andThen (.trans ?_ handleWorkOrderCompletion_same)
    have hshop : (draftInvoice now tenantId item g₁).shop = g.shop.setOrder item.id
        (.close now actualCost notes actorId) (fun _ => rfl) :=
      draftInvoice_shop.trans (recordOrderCost_shop hcost)
    rw [← hshop]
    exact ⟨rfl, rfl, rfl, rfl, rfl, rfl⟩

end Close

end Operations

end Rotas
