import Rotas.Workshop.OrderSteps

/-!
# Rotas.Workshop.FinishedOrders

What hangs off a work order once it is closed or cancelled, over runs of the workshop's operations.

* `GarageCall`    — the operations.
* `leavesNothing` — no order is finished with something open, and none is supplemented afterwards.
* `finished_orders_stay` — every run of such operations.
-/

namespace Rotas

open Table Work

/-! ## Operations -/

inductive GarageCall where
  | createOrder (tenantId : UUID) (payload : WorkOrderCreate) (hex12 : String)
  | approve (now : Instant) (tenantId workOrderId : UUID) (actorId : Option UUID)
  | start (tenantId workOrderId : UUID)
  | qualityCheck (tenantId workOrderId : UUID)
  | close (now : Instant) (tenantId workOrderId : UUID) (actualCost : Option ℚ) (notes : String)
      (actorId : Option UUID)
  | cancel (tenantId workOrderId : UUID) (reason : String)
  | createTask (tenantId workOrderId : UUID) (description : String)
  | completeTask (now : Instant) (tenantId workOrderId taskId : UUID) (actualMinutes : Option Int)
      (notes : Option String) (actorId : Option UUID)
  | addLabor (now : Instant) (tenantId taskId userId : UUID) (minutesWorked : Int)
      (startedAt completedAt : Option Instant)
  | voidLabor (now : Instant) (tenantId laborLogId : UUID) (voidReason : String)
  | createQuote (now : Instant) (tenantId : UUID) (payload : QuoteCreate)
  | acceptQuote (now : Instant) (tenantId quoteId : UUID)
      (acceptanceChannel acceptedByPersonName : Option String)
  | rejectQuote (tenantId quoteId : UUID) (reason : Option String)
  | expireQuotes (now : Instant)
  | stock (c : StockCall)
  | checkoutTool (now : Instant) (tenantId workOrderId : UUID) (payload : ToolCheckoutCreate)
      (actorId : Option UUID)
  | returnTool (tenantId checkoutId : UUID) (payload : ToolReturnCreate) (actorId : Option UUID)

section Call

variable [Locale] [Rendering]

def GarageCall.run : GarageCall → Garage → Except Exc (UUID × Garage)
  | .createOrder tenantId payload hex12 =>
    Garage.onWarehouse (createWorkOrder tenantId payload hex12)
  | .approve now tenantId workOrderId actorId =>
    Garage.onWarehouse (approveWorkOrder now tenantId workOrderId actorId)
  | .start tenantId workOrderId => Garage.onWarehouse (startWorkOrder tenantId workOrderId)
  | .qualityCheck tenantId workOrderId =>
    Garage.onWarehouse (sendWorkOrderToQualityCheck tenantId workOrderId)
  | .close now tenantId workOrderId actualCost notes actorId =>
    closeWorkOrder now tenantId workOrderId actualCost notes actorId
  | .cancel tenantId workOrderId reason =>
    Garage.onWarehouse (cancelWorkOrder tenantId workOrderId reason)
  | .createTask tenantId workOrderId description =>
    Garage.onWarehouse (createWorkOrderTask tenantId workOrderId description)
  | .completeTask now tenantId workOrderId taskId actualMinutes notes actorId =>
    Garage.onWarehouse
      (completeWorkOrderTask now tenantId workOrderId taskId actualMinutes notes actorId)
  | .addLabor now tenantId taskId userId minutesWorked startedAt completedAt =>
    addTaskLaborSession now tenantId taskId userId minutesWorked startedAt completedAt
  | .voidLabor now tenantId laborLogId voidReason =>
    voidTaskLaborSession now tenantId laborLogId voidReason
  | .createQuote now tenantId payload =>
    Garage.onWarehouse (Rotas.createQuote now tenantId payload)
  | .acceptQuote now tenantId quoteId acceptanceChannel acceptedByPersonName =>
    Garage.onWarehouse
      (Rotas.acceptQuote now tenantId quoteId acceptanceChannel acceptedByPersonName)
  | .rejectQuote tenantId quoteId reason =>
    Garage.onWarehouse (Rotas.rejectQuote tenantId quoteId reason)
  | .expireQuotes now => Garage.onWarehouse fun db => .ok (expireOutdatedQuotes now db)
  | .stock c => Garage.onWarehouse c.run
  | .checkoutTool now tenantId workOrderId payload actorId =>
    Garage.onWarehouse (Rotas.checkoutTool now tenantId workOrderId payload actorId)
  | .returnTool tenantId checkoutId payload actorId =>
    Garage.onWarehouse (Rotas.returnTool tenantId checkoutId payload actorId)

/-- A call that is refused, by its checks or by the database, changes nothing. -/
def Garage.serve (g : Garage) (c : GarageCall) : Garage := perform c.run g

end Call

/-! ## Runs -/

/-- Nothing of an order is open when it is finished, and none is supplemented afterwards. -/
def leavesNothing (g : Garage) : GarageCall → Bool
  | .close _ tenantId id _ _ _ =>
    !g.shop.order id (fun wo => wo.tenantId = tenantId && wo.status = .qualityCheck) ||
      (!g.shop.hasUnfinished id && !g.shop.hasReserved id)
  | .cancel tenantId id _ =>
    !g.shop.order id (fun wo => wo.tenantId = tenantId && !wo.status.isDone) ||
      (!g.shop.hasUnfinished id && !g.shop.hasOut id)
  | .acceptQuote _ tenantId quoteId _ _ => (g.shop.quotes.get quoteId).all fun quote =>
    !(quote.tenantId = tenantId && quote.status = .sent) ||
      (g.shop.itemsOf tenantId quoteId).isEmpty ||
      quote.supplemented.all fun id => !g.shop.order id (·.status.isDone)
  | _ => true

/-- Finished orders stay finished, with what hung off them. -/
def FinishedStay (w w' : Warehouse) : Prop :=
  ∀ wo ∈ w.workOrders, wo.status.isDone = true → ∃ wo' ∈ w'.workOrders, wo'.id = wo.id ∧
    wo'.status.isDone = true ∧ w'.attached wo.id = w.attached wo.id

theorem OrderStep.finishedStay {w w' : Warehouse} (h : OrderStep w w') : FinishedStay w w' := by
  intro wo hwo hdone
  obtain ⟨wo', hwo', hid, _, hkept, _⟩ := h.kept wo hwo
  exact ⟨wo', hwo', hid, hkept hdone, h.attached_eq hwo hdone⟩

theorem FinishedStay.trans {w w' w'' : Warehouse} (h : FinishedStay w w') (h' : FinishedStay w' w'') :
    FinishedStay w w'' := by
  intro wo hwo hdone
  obtain ⟨wo', hwo', hid, hdone', heq⟩ := h wo hwo hdone
  obtain ⟨wo'', hwo'', hid', hdone'', heq'⟩ := h' wo' hwo' hdone'
  exact ⟨wo'', hwo'', hid'.trans hid, hdone'', by rw [← heq, ← hid, heq']⟩

section Run

variable {g g' g₀ : Garage} {c : GarageCall} {a : UUID} {cs : List GarageCall}

/-- The workshop's tables are the same with the vehicles and documents of the database. -/
theorem orderStep_onWarehouse {α : Type} {f : Warehouse → Except Exc (α × Warehouse)} {r : α}
    (hstep : ∀ w, f g.warehouse = .ok (r, w) → OrderStep g.warehouse w)
    (h : g.onWarehouse f = .ok (r, g')) : OrderStep g.shop g'.shop := by
  simp only [Garage.onWarehouse, bind_eq_ok, pure, Except.pure, Except.ok.injEq, Prod.mk.injEq] at h
  obtain ⟨⟨r, w⟩, hf, rfl, rfl⟩ := h
  obtain ⟨hkept, hfinished, hrested, htasks, hreservations, hused, hcheckouts, hsessions⟩ :=
    hstep w hf
  exact ⟨hkept, hfinished, hrested, htasks, hreservations, hused, hcheckouts, hsessions⟩

theorem OrdersSound.warehouse (h : OrdersSound g.shop) : OrdersSound g.warehouse :=
  ⟨h.reserved, h.checkedOut, h.tasks, h.reservations, h.checkouts⟩

variable [Locale] [Rendering]

theorem GarageCall.step (hg : OrdersSound g.shop) (hclear : leavesNothing g c = true)
    (h : c.run g = .ok (a, g')) : OrderStep g.shop g'.shop := by
  cases c with
  | createOrder tenantId payload hex12 =>
    exact orderStep_onWarehouse (fun w hw => createWorkOrder_step hw) h
  | approve now tenantId workOrderId actorId =>
    exact orderStep_onWarehouse (fun w hw => approveWorkOrder_step hw) h
  | start tenantId workOrderId =>
    exact orderStep_onWarehouse (fun w hw => startWorkOrder_step hw) h
  | qualityCheck tenantId workOrderId =>
    exact orderStep_onWarehouse (fun w hw => qualityCheck_step hg.warehouse hw) h
  | close now tenantId workOrderId actualCost notes actorId =>
    refine closeWorkOrder_step (fun horder => ?_) h
    rw [leavesNothing, horder] at hclear
    simpa using hclear
  | cancel tenantId workOrderId reason =>
    refine orderStep_onWarehouse (fun w hw => ?_) h
    refine cancelWorkOrder_step hg.warehouse (fun horder => ?_) hw
    rw [leavesNothing, show g.shop.order workOrderId _ = true from horder] at hclear
    show g.shop.hasUnfinished workOrderId = false ∧ g.shop.hasOut workOrderId = false
    simpa using hclear
  | createTask tenantId workOrderId description =>
    exact orderStep_onWarehouse (fun w hw => createWorkOrderTask_step hw) h
  | completeTask now tenantId workOrderId taskId actualMinutes notes actorId =>
    exact orderStep_onWarehouse (fun w hw => completeWorkOrderTask_step hw) h
  | addLabor now tenantId taskId userId minutesWorked startedAt completedAt =>
    exact addTaskLaborSession_step h
  | voidLabor now tenantId laborLogId voidReason => exact voidTaskLaborSession_step h
  | createQuote now tenantId payload =>
    exact orderStep_onWarehouse (fun w hw => (createQuote_same hw).step) h
  | acceptQuote now tenantId quoteId acceptanceChannel acceptedByPersonName =>
    refine orderStep_onWarehouse (fun w hw => acceptQuote_step (fun quote hget htenant hsent => ?_) hw) h
    rw [leavesNothing, show g.shop.quotes.get quoteId = some quote from hget, Option.all_some,
      htenant, hsent] at hclear
    show g.shop.itemsOf tenantId quoteId = [] ∨
      ∀ id, quote.supplemented = some id → g.shop.order id (·.status.isDone) = false
    simpa [Option.all_eq_true] using hclear
  | rejectQuote tenantId quoteId reason =>
    exact orderStep_onWarehouse (fun w hw => (rejectQuote_same hw).step) h
  | expireQuotes now =>
    refine orderStep_onWarehouse (f := fun w => .ok (expireOutdatedQuotes now w)) (fun w hw => ?_) h
    cases hw
    exact expireOutdatedQuotes_same.step
  | stock c => exact orderStep_onWarehouse (fun w hw => c.step hw) h
  | checkoutTool now tenantId workOrderId payload actorId =>
    exact orderStep_onWarehouse (fun w hw => checkoutTool_step hw) h
  | returnTool tenantId checkoutId payload actorId =>
    exact orderStep_onWarehouse (fun w hw => returnTool_step hw) h

theorem Garage.serve_step (hg : OrdersSound g.shop) (hclear : leavesNothing g c = true) :
    OrderStep g.shop (g.serve c).shop := by
  rcases perform_cases c.run g with hsame | ⟨a, hrun, _⟩
  · rw [Garage.serve, hsame]; exact .refl
  · exact GarageCall.step hg hclear hrun

theorem ordersSound_exec (hstart : OrdersSound g₀.shop)
    (hclear : Run.Along Garage.serve (fun g c => leavesNothing g c = true) g₀ cs) :
    OrdersSound (Run.exec Garage.serve g₀ cs).shop :=
  Run.exec_inv (I := fun g => OrdersSound g.shop)
    (fun _ _ hg hc => (Garage.serve_step hg hc).sound hg) hstart hclear

theorem finishedStay_exec (hstart : OrdersSound g₀.shop)
    (hclear : Run.Along Garage.serve (fun g c => leavesNothing g c = true) g₀ cs) :
    FinishedStay g₀.shop (Run.exec Garage.serve g₀ cs).shop := by
  refine (Run.exec_inv (I := fun g => OrdersSound g.shop ∧ FinishedStay g₀.shop g.shop)
    (fun g c hg hc => ?_) ⟨hstart, fun wo hwo hdone => ⟨wo, hwo, rfl, hdone, rfl⟩⟩ hclear).2
  have hstep := Garage.serve_step hg.1 hc
  exact ⟨hstep.sound hg.1, hg.2.trans hstep.finishedStay⟩

/-- From any sound workshop, after every run in which nothing of an order is open when it is
finished and none is supplemented afterwards, finished orders have nothing open, and what hung off
an order that was finished on the way is what hangs off it. -/
theorem finished_orders_stay (hstart : OrdersSound g₀.shop)
    (hclear : Run.Along Garage.serve (fun g c => leavesNothing g c = true) g₀ cs) :
    OrdersSettled (Run.exec Garage.serve g₀ cs).shop ∧ ∀ before after, cs = before ++ after →
      FinishedStay (Run.exec Garage.serve g₀ before).shop (Run.exec Garage.serve g₀ cs).shop := by
  refine ⟨(ordersSound_exec hstart hclear).settled, ?_⟩
  rintro before after rfl
  obtain ⟨hbefore, hafter⟩ := Run.along_append.mp hclear
  rw [Run.exec_append]
  exact finishedStay_exec (ordersSound_exec hstart hbefore) hafter

end Run

/-! ## Orders with something left -/

/-- One vehicle, one part in stock and one tool. -/
def quietGarage : Garage where
  shop := {
    spareParts := .single { id := 1, tenantId := 1, currentQuantity := 5000 }
    tools := .single { id := 1, tenantId := 1, code := "T-1" } }
  db := { vehicles := .single { id := 1, tenantId := 1, plate := "LD-00" } }

def openOrder : GarageCall :=
  .createOrder 1 { vehicleId := some 1, plannedWork := "Travões" } "0000000000A1"

/-- The order is approved and started. -/
def startOrder : List GarageCall := [openOrder, .approve 10 1 1 none, .start 1 1]

def brakeTask : GarageCall := .createTask 1 1 "Pastilhas"

def takeTool : GarageCall :=
  .checkoutTool 20 1 1 { toolId := 1, checkoutReference := "C-1", checkedOutAt := 20 } none

/-- A supplement for the order: one part. -/
def quoteDisc : GarageCall := .createQuote 30 1
  { vehicleId := 1, isSupplemental := true, relatedWorkOrderId := some 1
    items := [{ itemType := .part, description := "Disco", partId := some 1 }] }

def acceptDisc : GarageCall := .acceptQuote 40 1 1 none none

def endOrder : GarageCall := .close 50 1 1 none "Feito" none

/-- What becomes of the workshop. -/
def quietAfter (cs : List GarageCall) : Warehouse :=
  (Run.exec (@Garage.serve .ascii .decimal) quietGarage cs).shop

theorem orders_left_open :
    OrdersSound quietGarage.shop ∧
      -- a task that nobody finished, of a cancelled order
      ¬ OrdersSettled (quietAfter [openOrder, brakeTask, .cancel 1 1 "Vendido"]) ∧
      -- a tool that nobody brought back
      ¬ OrdersSettled (quietAfter (startOrder ++ [takeTool, .cancel 1 1 "Vendido"])) ∧
      -- a supplement that was accepted during the quality check
      ¬ OrdersSettled (quietAfter
        (startOrder ++ [quoteDisc, .qualityCheck 1 1, acceptDisc, endOrder])) ∧
      -- and one that was accepted after the end
      ¬ FinishedStay (quietAfter (startOrder ++ [quoteDisc, .qualityCheck 1 1, endOrder]))
        (quietAfter (startOrder ++ [quoteDisc, .qualityCheck 1 1, endOrder, acceptDisc])) := by
  refine ⟨.initial rfl rfl rfl, fun h => ?_, fun h => ?_, fun h => ?_, fun h => ?_⟩
  · have htasks := h.tasks
    revert htasks
    decide +kernel
  · have hcheckouts := h.checkouts
    revert hcheckouts
    decide +kernel
  · have hreservations := h.reservations
    revert hreservations
    decide +kernel
  · -- the closed order had no task, and has one
    have hsame : ∀ wo ∈
        (quietAfter (startOrder ++ [quoteDisc, .qualityCheck 1 1, endOrder])).workOrders,
        wo.status.isDone = true →
          (quietAfter (startOrder ++ [quoteDisc, .qualityCheck 1 1, endOrder, acceptDisc])).attached
              wo.id =
            (quietAfter (startOrder ++ [quoteDisc, .qualityCheck 1 1, endOrder])).attached wo.id := by
      intro wo hwo hdone
      obtain ⟨_, _, _, _, heq⟩ := h wo hwo hdone
      exact heq
    revert hsame
    decide +kernel

/-- The supplement is accepted in time, its part is issued and its task is done; a later task is
refused. -/
def wholeOrder : List GarageCall :=
  startOrder ++ [quoteDisc, acceptDisc, .completeTask 45 1 1 1 none none none,
    .stock (.issueParts 46 1 1 1 1 none none), .qualityCheck 1 1, endOrder, brakeTask]

theorem finished_orders_stay_supplemented :
    OrdersSettled (quietAfter wholeOrder) ∧ ∀ before after, wholeOrder = before ++ after →
      FinishedStay (quietAfter before) (quietAfter wholeOrder) :=
  @finished_orders_stay quietGarage wholeOrder .ascii .decimal (.initial rfl rfl rfl)
    (by decide +kernel)

end Rotas
