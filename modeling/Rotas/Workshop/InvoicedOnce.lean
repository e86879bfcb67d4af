import Rotas.Billing.Immutable
import Rotas.Workshop.FinishedOrders
import Rotas.Workshop.QuotedWork
import Rotas.Workshop.UsedParts

/-!
# Rotas.Workshop.InvoicedOnce

The invoices of work orders over runs of the workshop's requests, its invoices and their
cancellations.

* `BillCall`  — the requests.
* `Uninvoiced`   — what a call may do that makes no invoice.
* `Drafted`      — what `create_workshop_invoice` makes.
* `billsAsUsed`  — a new invoice finds no live one without lines, nothing returned and nothing that
  was not quoted.
* `invoiced_once` — every run of such calls.
-/

namespace Rotas

open Table Decimal Work

/-! ## Requests -/

/-- `record` by itself is no request. -/
def GarageCall.isRequest : GarageCall → Bool
  | .stock c => c.isRequest
  | _ => true

inductive BillCall where
  | workshop (c : GarageCall) (request : c.isRequest = true)
  | create (now : Instant) (tenantId workOrderId : UUID)
  | confirm (now : Instant) (tenantId documentId : UUID)
  | cancel (now : Instant) (tenantId documentId : UUID) (reason : String)

/-- A service of billing. -/
def Garage.onDb {α : Type} (f : Db → Except Exc (α × Db)) (g : Garage) : Except Exc (α × Garage) := do
  let (a, db) ← f g.db
  return (a, { g with db })

section Call

variable [Locale] [Rendering]

def BillCall.run : BillCall → Garage → Except Exc (UUID × Garage)
  | .workshop c _ => c.run
  | .create now tenantId workOrderId => fun g =>
    g.onDb (createWorkshopInvoice now tenantId workOrderId g.warehouse)
  | .confirm now tenantId documentId => Garage.onDb (confirmWorkshopInvoice now tenantId documentId)
  | .cancel now tenantId documentId reason =>
    Garage.onDb (cancelBillingDocument now tenantId documentId reason)

/-- A call that is refused, by its checks or by the database, changes nothing. -/
def Garage.answer (g : Garage) (c : BillCall) : Garage := perform c.run g

end Call

/-! ## Invoices of an order -/

/-- What an invoice is of: an order is known by its tenant and its number. -/
def BillingDocument.subject (d : BillingDocument) : UUID × DocSource × Option String :=
  (d.tenantId, d.documentSource, d.contractReference)

def WorkOrder.subject (wo : WorkOrder) : UUID × DocSource × Option String :=
  (wo.tenantId, .workshop, some wo.workOrderNumber)

def BillingDocument.isLive (d : BillingDocument) : Bool := d.status ≠ .cancelled

/-- The invoices of an order that are not cancelled. -/
def Db.liveInvoices (db : Db) (subject : UUID × DocSource × Option String) : Nat :=
  db.billingDocuments.rows.countP fun d => d.isLive && d.subject = subject

def WorkOrder.name (wo : WorkOrder) : UUID × String := (wo.tenantId, wo.workOrderNumber)

/-- What holds of the workshop's invoices: each item of one names its order, and of no order is there
more than one that is not cancelled. -/
structure InvoicesSound (g : Garage) : Prop where
  filed : g.db.Filed
  named : ∀ d ∈ g.db.billingDocuments, d.documentSource = .workshop →
    ∀ i ∈ g.db.linesOf d.id, ∃ wo ∈ g.shop.workOrders, d.subject = wo.subject ∧
      i.tenantId = wo.tenantId ∧ i.workOrderId = some wo.id
  once : ∀ tenantId number, g.db.liveInvoices (tenantId, .workshop, number) ≤ 1
  booked : UsageBooked g.shop
  numbers : (g.shop.workOrders.rows.map WorkOrder.name).Nodup

theorem InvoicesSound.initial {g : Garage} (hdocuments : g.db.billingDocuments = ∅)
    (hitems : g.db.billingItems = ∅) (horders : g.shop.workOrders = ∅)
    (hmovements : g.shop.movements = ∅) (hused : g.shop.partsUsed = ∅) : InvoicesSound g where
  filed _ hi := absurd (hitems ▸ hi) List.not_mem_nil
  named _ hd := absurd (hdocuments ▸ hd) List.not_mem_nil
  once tenantId number := by
    rw [Db.liveInvoices, hdocuments]
    exact Nat.zero_le _
  booked := .initial hmovements hused
  numbers := by
    rw [horders]
    exact List.nodup_nil

/-! ## Calls that make no invoice -/

/-- Orders keep their names, invoices what they are of, and none comes to life. -/
structure Uninvoiced (w w' : Warehouse) : Prop where
  orders : Grows WorkOrder.name (fun _ => false) (fun _ => True) w.workOrders w'.workOrders
  documents : Grows BillingDocument.subject BillingDocument.isLive (fun _ => False)
    w.billingDocuments w'.billingDocuments
  booked : UsageBooked w → UsageBooked w'

section Uninvoiced

variable {w w' : Warehouse} {tenantId workOrderId a : UUID} {now : Instant} {actorId : Option UUID}

theorem Uninvoiced.of_eq (horders : Grows WorkOrder.name (fun _ => false) (fun _ => True)
    w.workOrders w'.workOrders) (hdocuments : w'.billingDocuments = w.billingDocuments)
    (hmovements : w'.movements = w.movements) (hused : w'.partsUsed = w.partsUsed) :
    Uninvoiced w w' where
  orders := horders
  documents := by rw [hdocuments]; exact .refl _
  booked h := h.congr hmovements hused

theorem Uninvoiced.refl : Uninvoiced w w := .of_eq (.refl _) rfl rfl rfl

theorem Uninvoiced.setOrder {id : UUID} {f : WorkOrder → WorkOrder} {hf : ∀ wo, (f wo).id = wo.id}
    (hname : ∀ wo, (f wo).name = wo.name) : Uninvoiced w (w.setOrder id f hf) :=
  .of_eq (grows_update rfl hf fun wo _ _ => ⟨hname wo, nofun⟩) rfl rfl rfl

theorem transition_uninvoiced {expected next : WorkOrderStatus}
    (h : transitionWorkOrder tenantId workOrderId expected next w = .ok (a, w')) :
    Uninvoiced w w' := by
  rcases transition_cases h with rfl | ⟨_, _, _, _, _, rfl⟩
  · exact .refl
  · exact .setOrder fun _ => rfl

theorem qualityCheck_uninvoiced
    (h : sendWorkOrderToQualityCheck tenantId workOrderId w = .ok (a, w')) : Uninvoiced w w' := by
  unfold sendWorkOrderToQualityCheck at h
  split at h
  · cases h
  · split at h
    · cases h
    · exact transition_uninvoiced h

theorem createWorkOrder_uninvoiced {payload : WorkOrderCreate} {hex12 : String}
    (h : createWorkOrder tenantId payload hex12 w = .ok (a, w')) : Uninvoiced w w' := by
  simp only [createWorkOrder, bind_eq_ok, pure, Except.pure, Except.ok.injEq, Prod.mk.injEq] at h
  obtain ⟨_, _, _, _, _, rfl⟩ := h
  exact .of_eq (grows_append rfl trivial) rfl rfl rfl

theorem approveWorkOrder_uninvoiced
    (h : approveWorkOrder now tenantId workOrderId actorId w = .ok (a, w')) : Uninvoiced w w' := by
  simp only [approveWorkOrder, bind_eq_ok] at h
  obtain ⟨item, _, h⟩ := h
  split at h
  · cases h; exact .refl
  · simp only [bind_eq_ok, pure, Except.pure, Except.ok.injEq, Prod.mk.injEq] at h
    obtain ⟨_, _, _, rfl⟩ := h
    exact .setOrder fun _ => rfl

theorem cancelWorkOrder_uninvoiced {reason : String}
    (h : cancelWorkOrder tenantId workOrderId reason w = .ok (a, w')) : Uninvoiced w w' := by
  simp only [cancelWorkOrder, bind_eq_ok, pure, Except.pure, Except.ok.injEq, Prod.mk.injEq] at h
  obtain ⟨wo, _, _, rfl⟩ := h
  exact ⟨grows_update rfl (fun _ => rfl) fun _ _ _ => ⟨rfl, fun h => by cases h⟩,
    grows_update rfl (fun _ => rfl) fun _ _ _ => ⟨rfl, fun h => by cases h⟩, fun h => h.congr rfl rfl⟩

theorem createWorkOrderTask_uninvoiced {description : String}
    (h : createWorkOrderTask tenantId workOrderId description w = .ok (a, w')) :
    Uninvoiced w w' := by
  simp only [createWorkOrderTask, bind_eq_ok, pure, Except.pure, Except.ok.injEq,
    Prod.mk.injEq] at h
  obtain ⟨_, _, _, _, _, rfl⟩ := h
  exact .of_eq (.refl _) rfl rfl rfl

theorem completeWorkOrderTask_uninvoiced {taskId : UUID} {actualMinutes : Option Int}
    {notes : Option String}
    (h : completeWorkOrderTask now tenantId workOrderId taskId actualMinutes notes actorId w =
      .ok (a, w')) : Uninvoiced w w' := by
  simp only [completeWorkOrderTask, bind_eq_ok] at h
  obtain ⟨_, _, _, _, _, _, h⟩ := h
  split at h
  · cases h; exact .refl
  · cases h
    exact .of_eq (grows_update rfl (fun _ => rfl) fun _ _ _ => ⟨rfl, fun h => by cases h⟩) rfl rfl rfl

theorem checkoutTool_uninvoiced {payload : ToolCheckoutCreate}
    (h : checkoutTool now tenantId workOrderId payload actorId w = .ok (a, w')) :
    Uninvoiced w w' := by
  unfold checkoutTool at h
  split at h
  · simp only [bind_eq_ok, pure, Except.pure, Except.ok.injEq, Prod.mk.injEq] at h
    obtain ⟨_, _, _, rfl⟩ := h
    exact .refl
  · simp only [bind_eq_ok, pure, Except.pure, Except.ok.injEq, Prod.mk.injEq] at h
    obtain ⟨_, _, _, _, _, _, _, _, _, rfl⟩ := h
    exact .of_eq (.refl _) rfl rfl rfl

theorem returnTool_uninvoiced {checkoutId : UUID} {payload : ToolReturnCreate}
    (h : returnTool tenantId checkoutId payload actorId w = .ok (a, w')) : Uninvoiced w w' := by
  simp only [returnTool, bind_eq_ok] at h
  obtain ⟨_, _, item, _, h⟩ := h
  split at h <;>
    simp only [bind_eq_ok, pure, Except.pure, Except.ok.injEq, Prod.mk.injEq] at h
  · obtain ⟨_, _, _, rfl⟩ := h
    exact .refl
  · obtain ⟨_, _, _, rfl⟩ := h
    exact .of_eq (.refl _) rfl rfl rfl

theorem createQuote_uninvoiced {payload : QuoteCreate}
    (h : createQuote now tenantId payload w = .ok (a, w')) : Uninvoiced w w' := by
  obtain ⟨_, _, _, rfl⟩ := createQuote_eq_ok h
  exact .of_eq (.refl _) rfl rfl rfl

theorem rejectQuote_uninvoiced {quoteId : UUID} {reason : Option String}
    (h : rejectQuote tenantId quoteId reason w = .ok (a, w')) : Uninvoiced w w' := by
  simp only [rejectQuote, bind_eq_ok, pure, Except.pure, Except.ok.injEq, Prod.mk.injEq] at h
  obtain ⟨_, _, _, rfl⟩ := h
  exact .of_eq (.refl _) rfl rfl rfl

theorem acceptQuote_uninvoiced {quoteId : UUID} {channel person : Option String}
    (h : acceptQuote now tenantId quoteId channel person w = .ok (a, w')) : Uninvoiced w w' := by
  obtain ⟨quote, target, placed, _, _, _, _, hplace, rfl⟩ := acceptQuote_eq_ok h
  obtain ⟨tasks, htasks, _⟩ := foldl_addTask_grows (P := fun _ => True) quote
    (trivial : (fun _ => True) (target.orderId w)) (w.itemsOf tenantId quoteId) placed
  rw [htasks]
  obtain ⟨reservations, heq, _⟩ := @createPartReservations_grows tenantId (target.orderId w) quoteId
    (convertQuote quoteId (target.orderId w) channel person { placed with tasks })
  rw [heq]
  cases target with
  | existing workOrderId =>
    cases hplace
    exact .of_eq (.refl _) rfl rfl rfl
  | new key seq number =>
    simp only [AcceptTarget.place, bind_eq_ok, pure, Except.pure, Except.ok.injEq] at hplace
    obtain ⟨_, _, rfl⟩ := hplace
    exact .of_eq (grows_append rfl trivial) rfl rfl rfl

/-- The orders and the documents. -/
def Warehouse.papers (w : Warehouse) : Table WorkOrder × Table BillingDocument :=
  (w.workOrders, w.billingDocuments)

theorem record_papers {r : MovementRequest} {m : SparePartMovement}
    (h : record tenantId r w = .ok (m, w')) : w'.papers = w.papers := by
  rcases record_cases h with rfl | ⟨_, _, _, rfl⟩ <;> rfl

theorem receiveItem_papers (po : WorkshopPurchaseOrder) (item : WorkshopPurchaseOrderItem)
    (w : Warehouse) : (receiveItem now tenantId po actorId item w).papers = w.papers := by
  unfold receiveItem
  dsimp only
  split
  · rfl
  · split <;> rfl

theorem StockCall.papers [Rendering] {c : StockCall} (h : c.run w = .ok (a, w')) :
    w'.papers = w.papers := by
  cases c with
  | record tenantId r =>
    simp only [StockCall.run, bind_eq_ok, pure, Except.pure, Except.ok.injEq, Prod.mk.injEq] at h
    obtain ⟨_, hrec, _, rfl⟩ := h
    exact record_papers hrec
  | receive tenantId payload actorId =>
    simp only [StockCall.run, receiveSparePart, bind_eq_ok, pure, Except.pure, Except.ok.injEq,
      Prod.mk.injEq] at h
    obtain ⟨_, hrec, _, rfl⟩ := h
    exact record_papers hrec
  | issueToWorkOrder now tenantId workOrderId payload actorId =>
    rcases issueSparePart_cases h with rfl | ⟨_, m, q, used, hrec, rfl⟩
    · rfl
    · have hpapers := record_papers hrec
      exact hpapers
  | receipt tenantId payload actorId =>
    simp only [StockCall.run, recordSparePartReceipt, bind_eq_ok, pure, Except.pure, Except.ok.injEq,
      Prod.mk.injEq] at h
    obtain ⟨_, _, _, rfl⟩ := h
    rfl
  | installSerial now tenantId serialId vehicleId =>
    simp only [StockCall.run, installSerialItem, bind_eq_ok, pure, Except.pure, Except.ok.injEq,
      Prod.mk.injEq] at h
    obtain ⟨_, _, _, _, _, _, _, rfl⟩ := h
    rfl
  | issueParts now tenantId workOrderId inventoryId quantity actorId notes =>
    simp only [StockCall.run, issuePartsForWorkOrder, bind_eq_ok, pure, Except.pure, Except.ok.injEq,
      Prod.mk.injEq] at h
    obtain ⟨_, _, _, rfl⟩ := h
    obtain ⟨reservations, heq, _⟩ := @consume_grows tenantId workOrderId inventoryId
      (w.reservationsOf tenantId workOrderId inventoryId) (thousandths quantity) w
    rw [heq]
    rfl
  | returnPart now tenantId workOrderId inventoryId quantity reason actorId =>
    simp only [StockCall.run, returnPartFromWorkOrder, bind_eq_ok, pure, Except.pure, Except.ok.injEq,
      Prod.mk.injEq] at h
    obtain ⟨_, _, _, _, _, _, _, _, _, rfl⟩ := h
    rfl
  | adjustment now tenantId inventoryId quantity direction reason actorId =>
    simp only [StockCall.run, recordInventoryAdjustment, bind_eq_ok, pure, Except.pure,
      Except.ok.injEq, Prod.mk.injEq] at h
    obtain ⟨_, _, _, _, _, _, _, _, _, rfl⟩ := h
    rfl
  | receiveOrder now tenantId purchaseOrderId supplierInvoiceNumber actorId =>
    obtain ⟨q, orders, hq, rfl⟩ := receivePurchaseOrder_ind
      (P := fun q : Warehouse => q.papers = w.papers) rfl
      (fun po item q hq => (receiveItem_papers po item q).trans hq) h
    exact hq

theorem StockCall.uninvoiced [Rendering] {c : StockCall} (hrequest : c.isRequest = true)
    (h : c.run w = .ok (a, w')) : Uninvoiced w w' := by
  obtain ⟨horders, hdocuments⟩ := Prod.mk.inj (StockCall.papers h)
  refine ⟨?_, ?_, fun hbooked => StockCall.booked hrequest hbooked h⟩
  · rw [horders]; exact .refl _
  · rw [hdocuments]; exact .refl _

end Uninvoiced

/-! ## Calls of the workshop -/

/-- What an order, its invoices and their items go through when no invoice is made. -/
structure UninvoicedGarage (g g' : Garage) : Prop where
  items : g'.db.billingItems = g.db.billingItems
  orders : Grows WorkOrder.name (fun _ => false) (fun _ => True) g.shop.workOrders g'.shop.workOrders
  documents : Grows BillingDocument.subject BillingDocument.isLive (fun _ => False)
    g.db.billingDocuments g'.db.billingDocuments
  booked : UsageBooked g.shop → UsageBooked g'.shop

section Garages

variable {g g' : Garage} {a : UUID}

theorem UninvoicedGarage.refl : UninvoicedGarage g g := ⟨rfl, .refl _, .refl _, id⟩

theorem uninvoiced_onWarehouse {α : Type} {f : Warehouse → Except Exc (α × Warehouse)} {r : α}
    (hstep : ∀ w, f g.warehouse = .ok (r, w) → Uninvoiced g.warehouse w)
    (h : g.onWarehouse f = .ok (r, g')) : UninvoicedGarage g g' := by
  simp only [Garage.onWarehouse, bind_eq_ok, pure, Except.pure, Except.ok.injEq, Prod.mk.injEq] at h
  obtain ⟨⟨r, w⟩, hf, rfl, rfl⟩ := h
  obtain ⟨horders, hdocuments, hbooked⟩ := hstep w hf
  exact ⟨rfl, horders, hdocuments, fun h => hbooked (h.congr rfl rfl)⟩

/-- A service of billing that changes documents under what they are of. -/
theorem uninvoiced_onDb {f : Db → Except Exc (UUID × Db)}
    (hstep : ∀ p, f g.db = .ok (a, p) → p.billingItems = g.db.billingItems ∧
      Grows BillingDocument.subject BillingDocument.isLive (fun _ => False) g.db.billingDocuments
        p.billingDocuments)
    (h : g.onDb f = .ok (a, g')) : UninvoicedGarage g g' := by
  simp only [Garage.onDb, bind_eq_ok, pure, Except.pure, Except.ok.injEq, Prod.mk.injEq] at h
  obtain ⟨⟨a, p⟩, hf, rfl, rfl⟩ := h
  obtain ⟨hitems, hdocuments⟩ := hstep p hf
  exact ⟨hitems, .refl _, hdocuments, id⟩

theorem confirm_uninvoiced {now : Instant} {tenantId documentId : UUID} {db p : Db}
    (h : confirmWorkshopInvoice now tenantId documentId db = .ok (a, p)) :
    p.billingItems = db.billingItems ∧ Grows BillingDocument.subject BillingDocument.isLive
      (fun _ => False) db.billingDocuments p.billingDocuments := by
  rcases confirmWorkshopInvoice_cases h with rfl | ⟨document, hdoc, _, hdraft, rfl⟩
  · exact ⟨rfl, .refl _⟩
  · rw [assignInvoiceNumber_snd]
    refine ⟨rfl, grows_update (p := fun d => d.id == documentId) rfl (fun _ => rfl)
      fun d hd hid => ⟨rfl, fun _ => ?_⟩⟩
    -- it was a draft
    have hsame : d = document :=
      eq_of_key hd (mem_of_get hdoc) ((beq_iff_eq.mp hid).trans (key_of_get hdoc).symm)
    rw [hsame, BillingDocument.isLive, hdraft]
    rfl

theorem cancel_uninvoiced {now : Instant} {tenantId documentId : UUID} {reason : String} {db p : Db}
    (h : cancelBillingDocument now tenantId documentId reason db = .ok (a, p)) :
    p.billingItems = db.billingItems ∧ Grows BillingDocument.subject BillingDocument.isLive
      (fun _ => False) db.billingDocuments p.billingDocuments := by
  obtain ⟨_, _, _, _, rfl⟩ := transitionById_cases h
  exact ⟨rfl, grows_update rfl (fun _ => rfl) fun _ _ _ => ⟨rfl, nofun⟩⟩

/-- Without a new invoice, items keep naming their orders, and no more invoices are live. -/
theorem UninvoicedGarage.sound (h : UninvoicedGarage g g') (hg : InvoicesSound g)
    (hnumbers : (g'.shop.workOrders.rows.map WorkOrder.name).Nodup) : InvoicesSound g' := by
  refine ⟨fun i hi => ?_, fun d hd hsource i hi => ?_, fun tenantId number => ?_,
    h.booked hg.booked, hnumbers⟩
  · rw [h.items] at hi
    obtain ⟨d, hd⟩ := Option.isSome_iff_exists.mp (hg.filed i hi)
    obtain ⟨d', hd', hkey, _⟩ := h.documents.exists_of_mem (mem_of_get hd)
    have hget : g'.db.billingDocuments.get i.billingDocumentId = some d' :=
      get_eq_some_iff.mpr ⟨hd', hkey.trans (key_of_get hd)⟩
    rw [hget]
    rfl
  · rcases h.documents.mem hd with ⟨d₀, hd₀, hkey, hsubject, _⟩ | hnever
    · have hid : d.id = d₀.id := hkey
      have hsource₀ : d₀.documentSource = .workshop :=
        (congrArg (fun s => s.2.1) hsubject.symm).trans hsource
      rw [Db.linesOf, h.items, hid] at hi
      obtain ⟨wo, hwo, hsame, htenant, horder⟩ := hg.named d₀ hd₀ hsource₀ i hi
      obtain ⟨wo', hwo', hkey', hname⟩ := h.orders.exists_of_mem hwo
      obtain ⟨htenant', hnumber'⟩ := Prod.mk.inj hname
      refine ⟨wo', hwo', ?_, htenant.trans htenant'.symm, horder.trans (congrArg some hkey'.symm)⟩
      rw [hsubject, hsame, WorkOrder.subject, WorkOrder.subject, htenant', hnumber']
    · exact hnever.elim
  · have hle := h.documents.countP_le (q := fun s => s = (tenantId, .workshop, number)) fun _ hnever =>
      hnever.elim
    exact hle.trans (hg.once tenantId number)

theorem numbers_of_ok {g : Garage} (h : Store.ok g = true) :
    (g.shop.workOrders.rows.map WorkOrder.name).Nodup := by
  have hok : (g.shop.ok && g.shop.ordersOk && g.db.ok) = true := h
  simp only [Warehouse.ordersOk, Bool.and_eq_true, decide_eq_true_eq] at hok
  exact hok.1.2.1.1

end Garages

/-! ## An invoice -/

/-- What rounding to hundredths leaves out of the used quantities of a part. -/
def Warehouse.roundedAway (w : Warehouse) (tenantId workOrderId inventoryId : UUID) : Int :=
  w.partsUsed.sumWhere (MaintenancePartUsed.isOf tenantId workOrderId inventoryId)
    fun u => u.quantity - 10 * numeric 2 ((u.quantity : ℚ) / 1000)

/-- What was returned of each part is what rounding leaves out. -/
def Warehouse.returnsRounded (w : Warehouse) (wo : WorkOrder) : Bool :=
  (w.movements.rows.map SparePartMovement.inventoryId ++
    w.partsUsed.rows.map MaintenancePartUsed.inventoryId).all fun inventoryId =>
      w.returned wo.tenantId wo.id inventoryId = w.roundedAway wo.tenantId wo.id inventoryId

/-- Of the order there is an invoice without lines that is not cancelled. -/
def Db.hasBare (db : Db) (wo : WorkOrder) : Bool :=
  db.billingDocuments.rows.any fun d =>
    d.isLive && d.subject = wo.subject && (db.linesOf d.id).isEmpty

/-- The quantity that an invoice bills of a part: its last items are those of the used parts. -/
def Garage.billed (g : Garage) (wo : WorkOrder) (d : BillingDocument) (inventoryId : UUID) : Int :=
  let used := usedParts wo.tenantId wo g.shop
  let items := itemsOf d.tenantId d.id g.db
  (((used.zip (items.drop (items.length - used.length))).filter
    (·.1.inventoryId = inventoryId)).map fun e => 10 * e.2.quantity.getD 0).sum

/-- An invoice bills what was issued and not returned, and no more than was accepted. -/
structure BilledAsUsed (g : Garage) (wo : WorkOrder) (d : BillingDocument) : Prop where
  quantities : ∀ inventoryId, g.billed wo d inventoryId =
    g.shop.issued wo.tenantId wo.id inventoryId - g.shop.returned wo.tenantId wo.id inventoryId
  subtotal : convertedQuotes wo.tenantId wo g.shop ≠ [] →
    d.subtotal ≤ ((convertedQuotes wo.tenantId wo g.shop).map WorkshopQuote.totalAmount).sum

section Rows

variable {tenantId : UUID} {wo : WorkOrder}

theorem rows_lines (documentId : UUID) : ∀ (lines : List InvoiceLine) (db : Db), ∃ items,
    (lines.foldl (addLine tenantId documentId wo) db).billingItems.rows =
      db.billingItems.rows ++ items ∧
    ∀ i ∈ items, i.billingDocumentId = documentId ∧ i.tenantId = tenantId ∧
      i.workOrderId = some wo.id := by
  intro lines
  induction lines with
  | nil => exact fun db => ⟨[], by simp, by simp⟩
  | cons line lines ih =>
    intro db
    obtain ⟨items, hrows, hitems⟩ := ih (addLine tenantId documentId wo db line)
    refine ⟨line.item tenantId documentId wo db.billingItems.freshKey :: items, ?_, ?_⟩
    · rw [List.foldl_cons, hrows, addLine, rows_insert, List.append_assoc, List.singleton_append]
    · rintro i (_ | ⟨_, hi⟩)
      · exact ⟨rfl, rfl, rfl⟩
      · exact hitems i hi

theorem snapshotProfile_subject (profile : Option TenantDocumentProfile) (d : BillingDocument) :
    (snapshotProfile profile d).subject = d.subject := by
  cases profile <;> rfl

end Rows

theorem eq_of_name {g : Garage} (hnumbers : (g.shop.workOrders.rows.map WorkOrder.name).Nodup) {wo wo' : WorkOrder}
    (hwo : wo ∈ g.shop.workOrders) (hwo' : wo' ∈ g.shop.workOrders) (h : wo.name = wo'.name) :
    wo = wo' :=
  List.inj_on_of_nodup_map hnumbers hwo hwo' h

/-- What is returned and what is rounded away are of parts that the order has. -/
theorem returned_eq {w : Warehouse} {wo : WorkOrder} (h : w.returnsRounded wo = true)
    (inventoryId : UUID) :
    w.returned wo.tenantId wo.id inventoryId = w.roundedAway wo.tenantId wo.id inventoryId := by
  by_cases hpart : inventoryId ∈ w.movements.rows.map SparePartMovement.inventoryId ++
      w.partsUsed.rows.map MaintenancePartUsed.inventoryId
  · exact of_decide_eq_true (List.all_eq_true.mp h inventoryId hpart)
  · have hmoved : w.returned wo.tenantId wo.id inventoryId = 0 := by
      refine sumWhere_eq_zero fun m hm => Bool.eq_false_iff.mpr fun hmove => hpart ?_
      simp only [Warehouse.isMove, Bool.and_eq_true, decide_eq_true_eq] at hmove
      exact List.mem_append_left _ (List.mem_map.mpr ⟨m, hm, hmove.1.2⟩)
    have hused : w.roundedAway wo.tenantId wo.id inventoryId = 0 := by
      refine sumWhere_eq_zero fun u hu => Bool.eq_false_iff.mpr fun huse => hpart ?_
      simp only [MaintenancePartUsed.isOf, Bool.and_eq_true, decide_eq_true_eq] at huse
      exact List.mem_append_right _ (List.mem_map.mpr ⟨u, hu, huse.2⟩)
    rw [hmoved, hused]

/-- Items that stand in the order of the used parts, part by part. -/
theorem sum_zip_items (inventoryId : UUID) (f : MaintenancePartUsed → Int) :
    ∀ (used : List MaintenancePartUsed) (items : List BillingItem),
      items.map BillingItem.quantity = used.map (fun u => some (f u)) →
      (((used.zip items).filter (·.1.inventoryId = inventoryId)).map fun e =>
        10 * e.2.quantity.getD 0).sum =
          ((used.filter (·.inventoryId = inventoryId)).map fun u => 10 * f u).sum := by
  intro used
  induction used with
  | nil => intro items _; rfl
  | cons u used ih =>
    intro items h
    cases items with
    | nil => cases h
    | cons i items =>
      simp only [List.map_cons, List.cons.injEq] at h
      obtain ⟨hquantity, h⟩ := h
      by_cases hpart : u.inventoryId = inventoryId
      · simp [hpart, hquantity, ih items h]
      · simp [hpart, ih items h]

section Invoice

variable [Locale] {now : Instant} {tenantId workOrderId a : UUID} {wo : WorkOrder} {w : Warehouse}
  {db p : Db} {g g' : Garage}

/-- An invoice with its lines, for an order that has none by its items. -/
structure Drafted (now : Instant) (wo : WorkOrder) (w : Warehouse) (db p : Db) : Prop where
  free : invoiceOf wo.tenantId wo.id db = none
  document : ∃ d, p.billingDocuments.rows = db.billingDocuments.rows ++ [d] ∧
    d.id = db.billingDocuments.freshKey ∧ d.subject = wo.subject ∧
    d.subtotal = ((invoiceLines now wo.tenantId wo w).map InvoiceLine.amount).sum
  items : ∃ items, p.billingItems.rows = db.billingItems.rows ++ items ∧
    ∀ i ∈ items, i.billingDocumentId = db.billingDocuments.freshKey ∧ i.tenantId = wo.tenantId ∧
      i.workOrderId = some wo.id
  quantities : db.Filed → (itemsOf wo.tenantId db.billingDocuments.freshKey p).map
    BillingItem.quantity = (invoiceLines now wo.tenantId wo w).map fun line => some line.quantity

theorem createWorkshopInvoice_cases
    (h : createWorkshopInvoice now tenantId workOrderId w db = .ok (a, p)) :
    p = db ∨ ∃ wo, w.workOrders.get workOrderId = some wo ∧ wo.tenantId = tenantId ∧
      (wo.status = .qualityCheck ∨ wo.status = .closed) ∧ Drafted now wo w db p := by
  unfold createWorkshopInvoice at h
  split at h
  · cases h
    exact .inl rfl
  · next hfree =>
    simp only [bind_eq_ok, require_eq_ok, raiseIf_eq_ok, decide_eq_false_iff_not, not_not, pure,
      Except.pure, Except.ok.injEq, Prod.mk.injEq] at h
    obtain ⟨wo, hget, _, rfl, _, hstatus, _, rfl⟩ := h
    have hid : wo.id = workOrderId := key_of_get hget
    refine .inr ⟨wo, hget, rfl, ?_, by rw [hid]; exact hfree, ?_, ?_, fun hfiled => ?_⟩
    · by_cases hquality : wo.status = .qualityCheck
      · exact .inl hquality
      · by_cases hclosed : wo.status = .closed
        · exact .inr hclosed
        · simp [hquality, hclosed] at hstatus
    · let draft := workshopDraft now wo.tenantId wo (invoiceLines now wo.tenantId wo w) w db
        db.billingDocuments.freshKey
      refine ⟨snapshotProfile (documentProfile wo.tenantId db) draft, ?_, snapshotProfile_id _ _,
        snapshotProfile_subject _ _, (snapshotProfile_client _ draft).2.1⟩
      simp only [workshopDrafted, Db.modifyDocument, documents_lines]
      exact rows_insert_modify _ (fun _ => rfl) (snapshotProfile_id _)
    · exact rows_lines _ _ _
    · exact items_workshopDrafted _ _ hfiled fun _ _ => rfl

/-- The order has no live invoice without lines, what was returned of its parts is what rounding
leaves out, and what is charged was quoted, if anything was. -/
def billable (w : Warehouse) (db : Db) (wo : WorkOrder) : Bool :=
  !db.hasBare wo && w.returnsRounded wo &&
    ((convertedQuotes wo.tenantId wo w).isEmpty || withinQuotes wo.tenantId wo w)

/-- A call makes an invoice of an order that it may be made of. -/
structure Invoiced (wo : WorkOrder) (g g' : Garage) : Prop where
  order : wo ∈ g'.shop.workOrders
  orders : Grows WorkOrder.name (fun _ => false) (fun _ => True) g.shop.workOrders g'.shop.workOrders
  booked : UsageBooked g.shop → UsageBooked g'.shop
  drafted : ∃ now, Drafted now wo g'.shop g.db g'.db
  clean : billable g'.shop g.db wo = true

/-- An order without an invoice by its items has no live one at all. -/
theorem Invoiced.none_live (h : Invoiced wo g g') (hg : InvoicesSound g)
    (hnumbers : (g'.shop.workOrders.rows.map WorkOrder.name).Nodup) :
    g.db.liveInvoices wo.subject = 0 := by
  refine List.countP_eq_zero.mpr fun d hd hlive => ?_
  obtain ⟨hlive, hsubject⟩ := Bool.and_eq_true_iff.mp hlive
  have hsubject : d.subject = wo.subject := of_decide_eq_true hsubject
  obtain ⟨now, hdraft⟩ := h.drafted
  have hclean := h.clean
  simp only [billable, Bool.and_eq_true, Bool.not_eq_true'] at hclean
  have hlines : (g.db.linesOf d.id).isEmpty = false := by
    have hbare := List.any_eq_false.mp hclean.1.1 d hd
    simpa [hlive, hsubject] using hbare
  obtain ⟨i, hi⟩ := List.exists_mem_of_ne_nil _ (by simpa using hlines)
  have hsource : d.documentSource = .workshop := (Prod.mk.inj (Prod.mk.inj hsubject).2).1
  obtain ⟨wo₀, hwo₀, hsame, htenant, horder⟩ := hg.named d hd hsource i hi
  -- the item bears the order itself, so it would have been found
  obtain ⟨wo₁, hwo₁, hkey, hname⟩ := h.orders.exists_of_mem hwo₀
  have hname₀ : wo₀.name = wo.name := by
    have hboth := hsame.symm.trans hsubject
    simp only [WorkOrder.subject, Prod.mk.injEq, Option.some.injEq, true_and] at hboth
    rw [WorkOrder.name, WorkOrder.name, hboth.1, hboth.2]
  have heq := eq_of_name hnumbers hwo₁ h.order (hname.trans hname₀)
  have hid : wo₀.id = wo.id := by rw [← heq]; exact hkey.symm
  have htenant₀ : wo₀.tenantId = wo.tenantId := (Prod.mk.inj hname₀).1
  have hitem : i ∈ g.db.billingItems := (List.mem_filter.mp hi).1
  have hfind : (g.db.billingItems.rows.find? fun i => i.tenantId = wo.tenantId &&
      i.workOrderId = some wo.id).isSome := by
    rw [List.find?_isSome]
    exact ⟨i, hitem, by simp [htenant, horder, htenant₀, hid]⟩
  obtain ⟨i', hi'⟩ := Option.isSome_iff_exists.mp hfind
  have hfree := hdraft.free
  rw [invoiceOf, hi', Option.bind_some] at hfree
  have hfiled := hg.filed i' (List.mem_of_find?_eq_some hi')
  rw [hfree] at hfiled
  cases hfiled

/-- A new invoice keeps what holds of the workshop's invoices. -/
theorem Invoiced.sound (h : Invoiced wo g g') (hg : InvoicesSound g)
    (hnumbers : (g'.shop.workOrders.rows.map WorkOrder.name).Nodup) : InvoicesSound g' := by
  obtain ⟨now, hdraft⟩ := h.drafted
  obtain ⟨d, hdocs, hid, hsubject, _⟩ := hdraft.document
  obtain ⟨new, hrows, hnew⟩ := hdraft.items
  have hkept : ∀ {id d₀}, g.db.billingDocuments.get id = some d₀ →
      g'.db.billingDocuments.get id = some d₀ := by
    intro id d₀ hd₀
    rw [get_eq_some_iff] at hd₀ ⊢
    exact ⟨by rw [mem_def, hdocs]; exact List.mem_append_left _ hd₀.1, hd₀.2⟩
  have hmem : d ∈ g'.db.billingDocuments := by
    rw [mem_def, hdocs]
    exact List.mem_append_right _ List.mem_cons_self
  refine ⟨fun i hi => ?_, fun d₀ hd₀ hsource i hi => ?_, fun tenantId number => ?_,
    h.booked hg.booked, hnumbers⟩
  · rw [mem_def, hrows] at hi
    rcases List.mem_append.mp hi with hi | hi
    · obtain ⟨d₀, hd₀⟩ := Option.isSome_iff_exists.mp (hg.filed i hi)
      rw [hkept hd₀]
      rfl
    · rw [(hnew i hi).1, ← hid, show g'.db.billingDocuments.get d.id = some d from get_of_mem hmem]
      rfl
  · obtain ⟨hi, hof⟩ := List.mem_filter.mp hi
    have hof : i.billingDocumentId = d₀.id := of_decide_eq_true hof
    rw [hrows] at hi
    rw [mem_def, hdocs, List.mem_append, List.mem_singleton] at hd₀
    rcases hd₀ with hd₀ | rfl
    · rcases List.mem_append.mp hi with hi | hi
      · obtain ⟨wo₀, hwo₀, hsame, htenant, horder⟩ :=
          hg.named d₀ hd₀ hsource i (List.mem_filter.mpr ⟨hi, decide_eq_true hof⟩)
        obtain ⟨wo₁, hwo₁, hkey, hname⟩ := h.orders.exists_of_mem hwo₀
        obtain ⟨htenant₁, hnumber₁⟩ := Prod.mk.inj hname
        refine ⟨wo₁, hwo₁, ?_, htenant.trans htenant₁.symm, horder.trans (congrArg some hkey.symm)⟩
        rw [hsame, WorkOrder.subject, WorkOrder.subject, htenant₁, hnumber₁]
      · have hlt := key_lt_freshKey (t := g.db.billingDocuments) hd₀
        exact absurd ((hnew i hi).1.symm.trans hof) hlt.ne'
    · rcases List.mem_append.mp hi with hi | hi
      · have hfiled := hg.filed i hi
        rw [hof, hid, get_freshKey] at hfiled
        cases hfiled
      · exact ⟨wo, h.order, hsubject, (hnew i hi).2⟩
  · have hone := hg.once tenantId number
    rw [Db.liveInvoices, hdocs, List.countP_append, List.countP_singleton]
    by_cases hsame : wo.subject = (tenantId, .workshop, number)
    · have hzero := h.none_live hg hnumbers
      rw [hsame, Db.liveInvoices] at hzero
      rw [hzero]
      split <;> omega
    · rw [if_neg]
      · exact hone
      · rw [hsubject, decide_eq_false hsame, Bool.and_false]
        exact Bool.false_ne_true

/-- The quantities that an invoice bills are what is recorded as used, rounded. -/
theorem Invoiced.billed_eq (h : Invoiced wo g g') (hg : InvoicesSound g) {d : BillingDocument}
    (hid : d.id = g.db.billingDocuments.freshKey) (htenant : d.tenantId = wo.tenantId)
    (inventoryId : UUID) : g'.billed wo d inventoryId =
      g'.shop.used wo.tenantId wo.id inventoryId -
        g'.shop.roundedAway wo.tenantId wo.id inventoryId := by
  obtain ⟨now, hdraft⟩ := h.drafted
  have hitems := hdraft.quantities hg.filed
  rw [invoiceLines_eq, List.map_append, ← hid] at hitems
  let labor := (completedTasks wo.tenantId wo g'.shop).filterMap
    (laborLine now wo.tenantId (convertedQuotes wo.tenantId wo g'.shop) g'.shop)
  have hlength : (itemsOf wo.tenantId d.id g'.db).length =
      labor.length + (usedParts wo.tenantId wo g'.shop).length := by
    have hlen := congrArg List.length hitems
    simpa using hlen
  have hdrop : ((itemsOf wo.tenantId d.id g'.db).drop labor.length).map BillingItem.quantity =
      (usedParts wo.tenantId wo g'.shop).map fun u =>
        some (numeric 2 ((u.quantity : ℚ) / 1000)) := by
    rw [List.map_drop, hitems, List.drop_left' (by simp [labor]), List.map_map]
    rfl
  have hsum := sum_zip_items inventoryId _ _ _ hdrop
  have hparts : (usedParts wo.tenantId wo g'.shop).filter (·.inventoryId = inventoryId) =
      g'.shop.partsUsed.rows.filter (MaintenancePartUsed.isOf wo.tenantId wo.id inventoryId) := by
    rw [usedParts, List.filter_filter]
    exact List.filter_congr fun u _ => Bool.and_comm _ _
  have hused : g'.shop.used wo.tenantId wo.id inventoryId -
      g'.shop.roundedAway wo.tenantId wo.id inventoryId =
        g'.shop.partsUsed.sumWhere (MaintenancePartUsed.isOf wo.tenantId wo.id inventoryId)
          fun u => 10 * numeric 2 ((u.quantity : ℚ) / 1000) := by
    rw [Warehouse.used, Warehouse.roundedAway, ← sumWhere_sub]
    exact sumWhere_congr_fun fun u _ _ => by omega
  rw [hused, Garage.billed, htenant, hlength, Nat.add_sub_cancel, hsum, hparts]
  rfl

theorem Invoiced.billed (h : Invoiced wo g g') (hg : InvoicesSound g) {d : BillingDocument}
    (hd : d ∈ g'.db.billingDocuments) (hnew : g.db.billingDocuments.get d.id = none) :
    d.subject = wo.subject ∧ BilledAsUsed g' wo d := by
  obtain ⟨now, hdraft⟩ := h.drafted
  obtain ⟨d₀, hdocs, hid, hsubject, hsubtotal⟩ := hdraft.document
  have hsame : d = d₀ := by
    rw [mem_def, hdocs, List.mem_append, List.mem_singleton] at hd
    refine hd.resolve_left fun hold => ?_
    rw [show g.db.billingDocuments.get d.id = some d from get_of_mem hold] at hnew
    cases hnew
  subst hsame
  have hclean := h.clean
  simp only [billable, Bool.and_eq_true, Bool.or_eq_true] at hclean
  obtain ⟨⟨_, hreturns⟩, hquotes⟩ := hclean
  refine ⟨hsubject, fun inventoryId => ?_, fun hsome => ?_⟩
  · rw [h.billed_eq hg hid (Prod.mk.inj hsubject).1, returned_eq hreturns,
      (h.booked hg.booked).used]
  · rw [hsubtotal]
    exact subtotal_le (hquotes.resolve_left fun hnone => hsome (List.isEmpty_iff.mp hnone))

end Invoice

/-! ## Runs -/

/-- An order that no item names. -/
def Garage.unbilled (g : Garage) (tenantId workOrderId : UUID) : Option WorkOrder :=
  if (invoiceOf tenantId workOrderId g.db).isSome then none
  else (g.shop.workOrders.get workOrderId).filter (·.tenantId = tenantId)

/-- The order that a call makes an invoice of. -/
def BillCall.invoiced (g : Garage) : BillCall → Option WorkOrder
  | .create _ tenantId workOrderId =>
    (g.unbilled tenantId workOrderId).filter fun wo => wo.status = .qualityCheck || wo.status = .closed
  | .workshop (.close _ tenantId workOrderId _ _ _) _ =>
    (g.unbilled tenantId workOrderId).filter fun wo =>
      wo.status = .qualityCheck && wo.originType ≠ .direct
  | _ => none

def billsAsUsed [Locale] (g : Garage) (c : BillCall) : Bool :=
  (c.invoiced g).all (billable g.shop g.db)

theorem unbilled_eq_some {g : Garage} {tenantId workOrderId : UUID} {wo : WorkOrder}
    (hfree : invoiceOf tenantId workOrderId g.db = none)
    (hget : g.shop.workOrders.get workOrderId = some wo) (htenant : wo.tenantId = tenantId) :
    g.unbilled tenantId workOrderId = some wo := by
  simp [Garage.unbilled, hfree, hget, htenant]

section Made

variable [Locale] {g g' : Garage} {a : UUID} {now : Instant} {tenantId workOrderId : UUID}

theorem draftInvoice_cases {wo : WorkOrder} : draftInvoice now tenantId wo g = g ∨
    wo.originType ≠ .direct ∧ ∃ a db,
      createWorkshopInvoice now tenantId wo.id g.warehouse g.db = .ok (a, db) ∧
        draftInvoice now tenantId wo g = { g with db } := by
  unfold draftInvoice
  split
  · exact .inl rfl
  · next horigin =>
    split
    · exact .inl rfl
    · next hmade => exact .inr ⟨horigin, _, _, hmade, rfl⟩

theorem create_invoices (hclean : billsAsUsed g (.create now tenantId workOrderId) = true)
    (h : g.onDb (createWorkshopInvoice now tenantId workOrderId g.warehouse) = .ok (a, g')) :
    UninvoicedGarage g g' ∨ ∃ wo, Invoiced wo g g' := by
  simp only [Garage.onDb, bind_eq_ok, pure, Except.pure, Except.ok.injEq, Prod.mk.injEq] at h
  obtain ⟨⟨_, db⟩, hmade, _, rfl⟩ := h
  rcases createWorkshopInvoice_cases hmade with rfl | ⟨wo, hget, rfl, hstatus, hdraft⟩
  · exact .inl .refl
  · have hid : wo.id = workOrderId := key_of_get hget
    have hbillable : billable g.shop g.db wo = true := by
      rw [billsAsUsed, BillCall.invoiced,
        unbilled_eq_some (by rw [← hid]; exact hdraft.free) hget rfl] at hclean
      rcases hstatus with hstatus | hstatus
      · simpa [hstatus] using hclean
      · simpa [hstatus] using hclean
    exact .inr ⟨wo, mem_of_get hget, .refl _, id,
      ⟨now, hdraft.free, hdraft.document, hdraft.items, hdraft.quantities⟩, hbillable⟩

end Made

section Run

variable [Locale] [Rendering] {g g' g₀ : Garage} {c : BillCall} {a : UUID} {now : Instant}
  {tenantId workOrderId : UUID} {actorId : Option UUID} {cs : List BillCall}

/-- A closing makes the invoice of an order that the workshop took in. -/
theorem closeWorkOrder_invoices {actualCost : Option ℚ} {notes : String} {request}
    (hclean : billsAsUsed g (.workshop (.close now tenantId workOrderId actualCost notes actorId)
      request) = true)
    (h : closeWorkOrder now tenantId workOrderId actualCost notes actorId g = .ok (a, g')) :
    UninvoicedGarage g g' ∨ ∃ wo, Invoiced wo g g' := by
  simp only [closeWorkOrder, bind_eq_ok] at h
  obtain ⟨item, hitem, h⟩ := h
  split at h
  · cases h
    exact .inl .refl
  · simp only [bind_eq_ok, raiseIf_eq_ok, decide_eq_false_iff_not, not_not, pure, Except.pure,
      Except.ok.injEq, Prod.mk.injEq] at h
    obtain ⟨_, hstatus, g₁, hcost, _, rfl⟩ := h
    obtain ⟨hget, rfl, htenant⟩ := requireWorkOrder_eq_ok hitem
    obtain ⟨trips, tripCosts, rfl⟩ := recordOrderCost_eq_ok hcost
    have horders : Grows WorkOrder.name (fun _ => false) (fun _ => True) g.shop.workOrders
        (g.shop.setOrder item.id (.close now actualCost notes actorId) fun _ => rfl).workOrders :=
      grows_update rfl (fun _ => rfl) fun _ _ _ => ⟨rfl, fun h => by cases h⟩
    rcases @draftInvoice_cases _ { g with
        shop := g.shop.setOrder item.id (.close now actualCost notes actorId) (fun _ => rfl)
        db := { g.db with trips, tripCosts } } now tenantId item with
      hsame | ⟨horigin, _, db, hmade, hdrafted⟩
    · rw [hsame]
      obtain ⟨schedules, hcompleted⟩ := handleWorkOrderCompletion_eq now tenantId item.id _
      rw [hcompleted]
      exact .inl ⟨rfl, horders, .refl _, fun h => h.congr rfl rfl⟩
    · rw [hdrafted]
      obtain ⟨schedules, hcompleted⟩ := handleWorkOrderCompletion_eq now tenantId item.id _
      rw [hcompleted]
      rcases createWorkshopInvoice_cases hmade with rfl | ⟨wo, hwo, htenant', _, hdraft⟩
      · exact .inl ⟨rfl, horders, .refl _, fun h => h.congr rfl rfl⟩
      · have hclosed : wo = item.close now actualCost notes actorId := by
          have hget' : (g.shop.workOrders.modify item.id (.close now actualCost notes actorId)
              fun _ => rfl).get item.id = some (item.close now actualCost notes actorId) :=
            get_modify_self hget
          exact Option.some.inj (hwo.symm.trans hget')
        have hfree : invoiceOf tenantId item.id g.db = none := by
          have hfree : invoiceOf wo.tenantId wo.id g.db = none := hdraft.free
          rw [hclosed] at hfree
          rw [← htenant]
          exact hfree
        have hbillable : billable g.shop g.db item = true := by
          rw [billsAsUsed, BillCall.invoiced, unbilled_eq_some hfree hget htenant] at hclean
          simpa [hstatus, horigin] using hclean
        refine .inr ⟨wo, mem_of_get hwo, horders, fun h => h.congr rfl rfl,
          ⟨now, hdraft.free, hdraft.document, hdraft.items, hdraft.quantities⟩, ?_⟩
        rw [hclosed]
        exact hbillable

theorem BillCall.step (hclean : billsAsUsed g c = true) (h : c.run g = .ok (a, g')) :
    UninvoicedGarage g g' ∨ ∃ wo, Invoiced wo g g' := by
  cases c with
  | create now tenantId workOrderId => exact create_invoices hclean h
  | confirm now tenantId documentId =>
    exact .inl (uninvoiced_onDb (fun p hp => confirm_uninvoiced hp) h)
  | cancel now tenantId documentId reason =>
    exact .inl (uninvoiced_onDb (fun p hp => cancel_uninvoiced hp) h)
  | workshop c request =>
    cases c with
    | close now tenantId workOrderId actualCost notes actorId =>
      exact closeWorkOrder_invoices hclean h
    | createOrder tenantId payload hex12 =>
      exact .inl (uninvoiced_onWarehouse (fun w hw => createWorkOrder_uninvoiced hw) h)
    | approve now tenantId workOrderId actorId =>
      exact .inl (uninvoiced_onWarehouse (fun w hw => approveWorkOrder_uninvoiced hw) h)
    | start tenantId workOrderId =>
      exact .inl (uninvoiced_onWarehouse (fun w hw => transition_uninvoiced hw) h)
    | qualityCheck tenantId workOrderId =>
      exact .inl (uninvoiced_onWarehouse (fun w hw => qualityCheck_uninvoiced hw) h)
    | cancel tenantId workOrderId reason =>
      exact .inl (uninvoiced_onWarehouse (fun w hw => cancelWorkOrder_uninvoiced hw) h)
    | createTask tenantId workOrderId description =>
      exact .inl (uninvoiced_onWarehouse (fun w hw => createWorkOrderTask_uninvoiced hw) h)
    | completeTask now tenantId workOrderId taskId actualMinutes notes actorId =>
      exact .inl (uninvoiced_onWarehouse (fun w hw => completeWorkOrderTask_uninvoiced hw) h)
    | addLabor now tenantId taskId userId minutesWorked startedAt completedAt =>
      simp only [run, GarageCall.run, addTaskLaborSession, bind_eq_ok, pure, Except.pure,
        Except.ok.injEq, Prod.mk.injEq] at h
      obtain ⟨_, _, _, _, _, _, _, rfl⟩ := h
      exact .inl ⟨rfl, .refl _, .refl _, fun h => h.congr rfl rfl⟩
    | voidLabor now tenantId laborLogId voidReason =>
      simp only [run, GarageCall.run, voidTaskLaborSession, bind_eq_ok] at h
      obtain ⟨_, _, log, _, h⟩ := h
      split at h
      · cases h
        exact .inl .refl
      · simp only [bind_eq_ok, pure, Except.pure, Except.ok.injEq, Prod.mk.injEq] at h
        obtain ⟨_, _, _, _, _, rfl⟩ := h
        exact .inl ⟨rfl, .refl _, .refl _, fun h => h.congr rfl rfl⟩
    | createQuote now tenantId payload =>
      exact .inl (uninvoiced_onWarehouse (fun w hw => createQuote_uninvoiced hw) h)
    | acceptQuote now tenantId quoteId acceptanceChannel acceptedByPersonName =>
      exact .inl (uninvoiced_onWarehouse (fun w hw => acceptQuote_uninvoiced hw) h)
    | rejectQuote tenantId quoteId reason =>
      exact .inl (uninvoiced_onWarehouse (fun w hw => rejectQuote_uninvoiced hw) h)
    | expireQuotes now =>
      refine .inl (uninvoiced_onWarehouse (f := fun w => .ok (expireOutdatedQuotes now w))
        (fun w hw => ?_) h)
      cases hw
      exact .of_eq (.refl _) rfl rfl rfl
    | stock c => exact .inl (uninvoiced_onWarehouse (fun w hw => StockCall.uninvoiced request hw) h)
    | checkoutTool now tenantId workOrderId payload actorId =>
      exact .inl (uninvoiced_onWarehouse (fun w hw => checkoutTool_uninvoiced hw) h)
    | returnTool tenantId checkoutId payload actorId =>
      exact .inl (uninvoiced_onWarehouse (fun w hw => returnTool_uninvoiced hw) h)

theorem Garage.answer_sound (hg : InvoicesSound g) (hclean : billsAsUsed g c = true) :
    InvoicesSound (g.answer c) := by
  rcases perform_cases c.run g with hsame | ⟨a, hrun, hok⟩
  · rw [Garage.answer, hsame]
    exact hg
  · rcases BillCall.step hclean hrun with hnone | ⟨wo, hmade⟩
    · exact hnone.sound hg (numbers_of_ok hok)
    · exact hmade.sound hg (numbers_of_ok hok)

theorem Garage.answer_billed (hg : InvoicesSound g) (hclean : billsAsUsed g c = true) :
    ∀ d ∈ (g.answer c).db.billingDocuments, g.db.billingDocuments.get d.id = none →
      ∃ wo ∈ (g.answer c).shop.workOrders, d.subject = wo.subject ∧
        BilledAsUsed (g.answer c) wo d := by
  intro d hd hnew
  have hold : d ∉ g.db.billingDocuments := by
    intro hold
    rw [show g.db.billingDocuments.get d.id = some d from get_of_mem hold] at hnew
    cases hnew
  rcases perform_cases c.run g with hsame | ⟨a, hrun, _⟩
  · rw [Garage.answer, hsame] at hd
    exact absurd hd hold
  · rcases BillCall.step hclean hrun with hnone | ⟨wo, hmade⟩
    · rcases hnone.documents.mem hd with ⟨d₀, hd₀, hkey, _⟩ | hnever
      · have hget : g.db.billingDocuments.get d.id = some d₀ :=
          get_eq_some_iff.mpr ⟨hd₀, hkey.symm⟩
        rw [hget] at hnew
        cases hnew
      · exact hnever.elim
    · exact ⟨wo, hmade.order, hmade.billed hg hd hnew⟩

/-- From any sound workshop, after every run whose new invoices find no live one without lines,
nothing returned and nothing charged that was not quoted, of no work order is there more than one
invoice that is not cancelled; and each call of the run that makes an invoice bills what was issued
and not returned until then, within the totals of the accepted quotes. -/
theorem invoiced_once (hstart : InvoicesSound g₀)
    (hclean : Run.Along Garage.answer (fun g c => billsAsUsed g c = true) g₀ cs) :
    (∀ wo ∈ (Run.exec Garage.answer g₀ cs).shop.workOrders,
      (Run.exec Garage.answer g₀ cs).db.liveInvoices wo.subject ≤ 1) ∧
    ∀ before c after, cs = before ++ c :: after →
      ∀ d ∈ ((Run.exec Garage.answer g₀ before).answer c).db.billingDocuments,
        (Run.exec Garage.answer g₀ before).db.billingDocuments.get d.id = none →
          ∃ wo ∈ ((Run.exec Garage.answer g₀ before).answer c).shop.workOrders,
            d.subject = wo.subject ∧
              BilledAsUsed ((Run.exec Garage.answer g₀ before).answer c) wo d := by
  have hsound : ∀ {as : List BillCall},
      Run.Along Garage.answer (fun g c => billsAsUsed g c = true) g₀ as →
        InvoicesSound (Run.exec Garage.answer g₀ as) :=
    fun has => Run.exec_inv (fun _ _ hg hc => Garage.answer_sound hg hc) hstart has
  refine ⟨fun wo _ => (hsound hclean).once _ _, ?_⟩
  rintro before c after rfl
  obtain ⟨hbefore, hc, _⟩ := Run.along_append.mp hclean
  exact Garage.answer_billed (hsound hbefore) hc

end Run

/-! ## Invoices that the claim does not allow -/

/-- One vehicle, one part in stock, and one member of staff at 500 an hour. -/
def billGarage : Garage where
  shop := {
    spareParts := .single { id := 1, tenantId := 1, name := "Disco", currentQuantity := 5000
                            averageUnitCost := 10000 }
    staffRates := .single { id := 1, tenantId := 1, userId := 7, hourlyRate := 50000
                            effectiveFrom := 0 } }
  db := { vehicles := .single { id := 1, tenantId := 1, plate := "LD-00" } }

def billAfter (cs : List BillCall) : Garage :=
  Run.exec (@Garage.answer .ascii .decimal) billGarage cs

def toQuality : BillCall := .workshop (.qualityCheck 1 1) rfl

/-- Nothing was done and nothing was used. -/
def bareOrder : List BillCall :=
  [.workshop openOrder rfl, .workshop (.approve 10 1 1 none) rfl, .workshop (.start 1 1) rfl]

/-- Two discs go out and one comes back. -/
def returnedDisc : List BillCall :=
  [.workshop (.stock (.issueToWorkOrder 20 1 1
      { inventoryId := 1, requestReference := "I-1", quantity := 2, occurredAt := 20,
        positive := by norm_num } none)) rfl,
    .workshop (.stock (.returnPart 30 1 1 1 1 "a mais" none)) rfl]

/-- A quote of 100 is accepted, and another hour is worked. -/
def extraHour : List BillCall :=
  [.workshop (.createQuote 5 1
      { vehicleId := 1, items := [{ description := "Revisão", unitPrice := 100 }] }) rfl,
    .workshop (.acceptQuote 10 1 1 none none) rfl, .workshop (.createTask 1 1 "Extra") rfl,
    .workshop (.start 1 1) rfl, .workshop (.completeTask 20 1 1 1 none none none) rfl,
    .workshop (.completeTask 30 1 1 2 (some 60) none (some 7)) rfl]

theorem invoiced_otherwise :
    InvoicesSound billGarage ∧
      -- an invoice without lines, made twice
      ¬ (∀ wo ∈ (billAfter (bareOrder ++ [toQuality, .create 50 1 1, .create 60 1 1])).shop.workOrders,
        (billAfter (bareOrder ++ [toQuality, .create 50 1 1, .create 60 1 1])).db.liveInvoices
          wo.subject ≤ 1) ∧
      -- a part that was returned, and is billed
      ¬ (∀ d ∈ (billAfter (bareOrder ++ returnedDisc ++
          [toQuality, .create 50 1 1])).db.billingDocuments,
        ∃ wo ∈ (billAfter (bareOrder ++ returnedDisc ++ [toQuality, .create 50 1 1])).shop.workOrders,
          d.subject = wo.subject ∧
            BilledAsUsed (billAfter (bareOrder ++ returnedDisc ++ [toQuality, .create 50 1 1])) wo d) ∧
      -- an hour that nobody accepted
      ¬ (∀ d ∈ (billAfter (extraHour ++ [toQuality, .create 50 1 1])).db.billingDocuments,
        ∃ wo ∈ (billAfter (extraHour ++ [toQuality, .create 50 1 1])).shop.workOrders,
          d.subject = wo.subject ∧
            BilledAsUsed (billAfter (extraHour ++ [toQuality, .create 50 1 1])) wo d) := by
  refine ⟨.initial rfl rfl rfl rfl rfl, by decide +kernel, fun h => ?_, fun h => ?_⟩
  · have hbilled : ∀ d ∈ (billAfter (bareOrder ++ returnedDisc ++
        [toQuality, .create 50 1 1])).db.billingDocuments,
        ∃ wo ∈ (billAfter (bareOrder ++ returnedDisc ++ [toQuality, .create 50 1 1])).shop.workOrders,
          (billAfter (bareOrder ++ returnedDisc ++ [toQuality, .create 50 1 1])).billed wo d 1 =
            (billAfter (bareOrder ++ returnedDisc ++ [toQuality, .create 50 1 1])).shop.issued
              wo.tenantId wo.id 1 -
            (billAfter (bareOrder ++ returnedDisc ++ [toQuality, .create 50 1 1])).shop.returned
              wo.tenantId wo.id 1 := by
      intro d hd
      obtain ⟨wo, hwo, _, hb⟩ := h d hd
      exact ⟨wo, hwo, hb.quantities 1⟩
    revert hbilled
    decide +kernel
  · have hbilled : ∀ d ∈ (billAfter (extraHour ++ [toQuality, .create 50 1 1])).db.billingDocuments,
        ∃ wo ∈ (billAfter (extraHour ++ [toQuality, .create 50 1 1])).shop.workOrders,
          (convertedQuotes wo.tenantId wo
              (billAfter (extraHour ++ [toQuality, .create 50 1 1])).shop).isEmpty = true ∨
            d.subtotal ≤ ((convertedQuotes wo.tenantId wo
              (billAfter (extraHour ++ [toQuality, .create 50 1 1])).shop).map
                WorkshopQuote.totalAmount).sum := by
      intro d hd
      obtain ⟨wo, hwo, _, hb⟩ := h d hd
      refine ⟨wo, hwo, Decidable.or_iff_not_imp_left.mpr fun hsome => hb.subtotal fun hnil => ?_⟩
      rw [hnil] at hsome
      exact hsome rfl
    revert hbilled
    decide +kernel

/-- A quote is accepted, its task is done and its disc is issued; the invoice is asked for twice. -/
def quotedOrder : List BillCall :=
  [.workshop (.createQuote 5 1 { vehicleId := 1, items := [
      { description := "Revisão", unitPrice := 100 },
      { itemType := .part, description := "Disco", partId := some 1, unitPrice := 120 }] }) rfl,
    .workshop (.acceptQuote 10 1 1 none none) rfl, .workshop (.start 1 1) rfl,
    .workshop (.stock (.issueParts 20 1 1 1 1 none none)) rfl,
    .workshop (.completeTask 30 1 1 1 (some 60) none (some 7)) rfl,
    .workshop (.completeTask 30 1 1 2 none none none) rfl, toQuality,
    .create 50 1 1, .confirm 60 1 1, .create 70 1 1]

theorem invoiced_once_quoted :
    (∀ wo ∈ (billAfter quotedOrder).shop.workOrders,
      (billAfter quotedOrder).db.liveInvoices wo.subject ≤ 1) ∧
    ∀ before c after, quotedOrder = before ++ c :: after →
      ∀ d ∈ (@Garage.answer .ascii .decimal (billAfter before) c).db.billingDocuments,
        (billAfter before).db.billingDocuments.get d.id = none →
          ∃ wo ∈ (@Garage.answer .ascii .decimal (billAfter before) c).shop.workOrders,
            d.subject = wo.subject ∧
              BilledAsUsed (@Garage.answer .ascii .decimal (billAfter before) c) wo d :=
  @invoiced_once .ascii .decimal billGarage quotedOrder (.initial rfl rfl rfl rfl rfl)
    (by decide +kernel)

end Rotas
