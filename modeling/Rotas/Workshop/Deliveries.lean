import Rotas.Lib.Interleave
import Rotas.Workshop.AverageCost

/-!
# Rotas.Workshop.Deliveries

The deliveries of a purchase order, by calls that run at the same time.

* `Delivery`         — what a call has read when it comes to the items; nothing of it is held.
* `deliveryTurn`     — a call reads the order, reads its items, and then receives them and commits:
  from the part of its one item on, or from the unique index on, others wait for it.
* `Delivered`        — every item has come in.
* `ReceivesOnce`     — the first call that comes to its commit delivers the order, and every later
  one is refused.
* `FinishFits`       — when it is so: all movements of an order have one reference, and a call may
  read the order before another's commit and the items after it.
* `received_once_iff` — the two, along every run.
-/

namespace Rotas

open Interleave Work Decimal

/-! ## The parts of a call -/

def Warehouse.orderItems (db : Warehouse) (tenantId purchaseOrderId : UUID) :
    List WorkshopPurchaseOrderItem :=
  db.purchaseOrderItems.rows.filter fun i =>
    i.purchaseOrderId = purchaseOrderId && i.tenantId = tenantId

structure Delivery where
  po : WorkshopPurchaseOrder
  items : List WorkshopPurchaseOrderItem
  supplierInvoiceNumber : Option String := none
  actorId : Option UUID := none

def readPurchaseOrder (tenantId purchaseOrderId : UUID) (db : Warehouse) :
    Except Exc WorkshopPurchaseOrder := do
  let po ← require ((db.purchaseOrders.get purchaseOrderId).filter (·.tenantId = tenantId))
    (notFound "po_not_found" "Purchase order not found.")
  raiseIf (po.status = .received || po.status = .cancelled)
    (conflict "invalid_po_status" ("Purchase order is already '" ++ po.status.text ++ "'."))
  return po

def Delivery.loop (d : Delivery) (now : Instant) (tenantId : UUID) (db : Warehouse) : Warehouse :=
  d.items.foldl (fun db item => receiveItem now tenantId d.po d.actorId item db) db

/-- The session writes a number that is given, and is not the one that it has read. -/
def Delivery.newNumber (d : Delivery) : Option String :=
  (truthy d.supplierInvoiceNumber).filter fun n => some n ≠ d.po.supplierInvoiceNumber

def Delivery.numberFits (d : Delivery) : Bool := d.newNumber.all fun n => decide (n.length ≤ 120)

/-- What a call writes. -/
def Delivery.write (d : Delivery) (now : Instant) (tenantId : UUID) (db : Warehouse) : Warehouse :=
  { d.loop now tenantId db with
    purchaseOrders := (d.loop now tenantId db).purchaseOrders.modify d.po.id fun po => { po with
      status := .received
      supplierInvoiceNumber := d.newNumber.or po.supplierInvoiceNumber } }

/-- The database takes what the call writes. -/
def Delivery.accepted (d : Delivery) (now : Instant) (tenantId : UUID) (db : Warehouse) : Bool :=
  (d.write now tenantId db).ok && d.numberFits

/-! ## Turns -/

inductive DeliveryPhase where
  | idle
  /-- The order is read. -/
  | ordered (po : WorkshopPurchaseOrder) (supplierInvoiceNumber : Option String)
      (actorId : Option UUID)
  /-- Its items are read as well. -/
  | reading (d : Delivery)
  | received
  | refused

inductive DeliveryAction where
  | readOrder (supplierInvoiceNumber : Option String) (actorId : Option UUID)
  | readItems
  | finish (now : Instant)

def deliveryTurn (tenantId purchaseOrderId : UUID) (_ : Nat) :
    DeliveryAction → Warehouse → DeliveryPhase → Option (Warehouse × DeliveryPhase)
  | .readOrder supplierInvoiceNumber actorId, db, .idle =>
    match readPurchaseOrder tenantId purchaseOrderId db with
    | .ok po => some (db, .ordered po supplierInvoiceNumber actorId)
    | .error _ => some (db, .refused)
  | .readItems, db, .ordered po supplierInvoiceNumber actorId =>
    some (db, .reading ⟨po, db.orderItems tenantId po.id, supplierInvoiceNumber, actorId⟩)
  | .finish now, db, .reading d =>
    some (if d.accepted now tenantId db then (d.write now tenantId db, .received)
      else (db, .refused))
  | _, _, _ => none

/-! ## What the calls should do -/

/-- What is ordered of a part. -/
def Warehouse.ordered (db : Warehouse) (tenantId purchaseOrderId inventoryId : UUID) : Int :=
  (((db.orderItems tenantId purchaseOrderId).filter (·.inventoryId = inventoryId)).map
    WorkshopPurchaseOrderItem.quantityOrdered).sum

def WorkshopPurchaseOrderItem.ReceivedBy (item : WorkshopPurchaseOrderItem)
    (m : SparePartMovement) : Prop :=
  m.inventoryId = item.inventoryId ∧ m.direction = .inward ∧ m.quantity = item.quantityOrdered

/-- All that was ordered has come in, by one movement for each item. -/
structure Delivered (tenantId purchaseOrderId : UUID) (db p : Warehouse) : Prop where
  stock : ∀ id, (p.spareParts.get id).map SparePart.currentQuantity =
    (db.spareParts.get id).map fun part =>
      part.currentQuantity + db.ordered tenantId purchaseOrderId id
  movements : ∃ ms, p.movements.rows = db.movements.rows ++ ms ∧
    List.Forall₂ WorkshopPurchaseOrderItem.ReceivedBy (db.orderItems tenantId purchaseOrderId) ms
  received : ∃ po, p.purchaseOrders.get purchaseOrderId = some po ∧ po.status = .received

def Warehouse.hasReceived (db : Warehouse) (purchaseOrderId : UUID) : Bool :=
  (db.purchaseOrders.get purchaseOrderId).any (·.status = .received)

/-- A call that comes to its commit delivers the order, all of it, while it is open; one that comes
after that is refused and changes nothing. Nor does any other turn. -/
def ReceivesOnce (tenantId purchaseOrderId : UUID) (c : Config Warehouse DeliveryPhase)
    (m : Nat × DeliveryAction) : Prop :=
  let next := move (deliveryTurn tenantId purchaseOrderId) c m
  match m.2, c.parties m.1 with
  | .finish _, .reading _ =>
    if c.store.hasReceived purchaseOrderId then
      next.store = c.store ∧ next.parties m.1 = .refused
    else Delivered tenantId purchaseOrderId c.store next.store ∧ next.parties m.1 = .received
  | _, _ => next.store = c.store

/-- The order is there, and may be received. -/
structure OpenOrder (tenantId : UUID) (po : WorkshopPurchaseOrder) (db : Warehouse) : Prop where
  found : db.purchaseOrders.get po.id = some po
  tenant : po.tenantId = tenantId
  notReceived : po.status ≠ .received
  notCancelled : po.status ≠ .cancelled

/-- The order has one item, of which nothing has come in. Its part is there, nobody has used the
reference of the order, and its numbers fit their columns. -/
structure OneOpenItem (tenantId : UUID) (po : WorkshopPurchaseOrder) (db : Warehouse)
    (item : WorkshopPurchaseOrderItem) (part : SparePart) : Prop where
  only : db.orderItems tenantId po.id = [item]
  unreceived : item.quantityReceived = 0
  positive : 0 < item.quantityOrdered
  found : db.part tenantId item.inventoryId = some part
  unused : ∀ m ∈ db.movements, m.tenantId = tenantId → m.requestReference ≠ "PO-REC-" ++ po.poNumber
  stockFits : fitsDigits (part.currentQuantity + item.quantityOrdered) = true
  priceFits : fitsDigits item.unitPrice = true
  totalFits : |totalCostOf item.quantityOrdered item.unitPrice| < 10 ^ 16

/-- A call that comes to its commit while the order is open has a number that fits, and the order
has no items or one open item; a call that comes later has read the item before it came in, or has
a number that does not fit. -/
def FinishFits (tenantId : UUID) (c : Config Warehouse DeliveryPhase) (m : Nat × DeliveryAction) :
    Prop :=
  match m.2, c.parties m.1 with
  | .finish _, .reading d =>
    if c.store.hasReceived d.po.id then
      (∃ item ∈ d.items, item.quantityReceived < item.quantityOrdered) ∨ d.numberFits = false
    else d.numberFits = true ∧ (c.store.orderItems tenantId d.po.id = [] ∨
      ∃ item part, OneOpenItem tenantId d.po c.store item part)
  | _, _ => True

/-! ## The items -/

section

variable {now : Instant} {tenantId purchaseOrderId : UUID} {po : WorkshopPurchaseOrder}
  {actorId : Option UUID} {item : WorkshopPurchaseOrderItem} {part : SparePart} {db p : Warehouse}
  {d : Delivery}

theorem parts_post {m : SparePartMovement} (average : Int)
    (hm : m.inventoryId = part.id) (hfound : db.spareParts.get part.id = some part) (id : UUID) :
    (db.post m average).spareParts.get id = if id = part.id then
      some { part with currentQuantity := m.balanceAfterQuantity, averageUnitCost := average }
      else db.spareParts.get id := by
  rw [Warehouse.post, Table.get_modify, hm, hfound]
  rfl

/-- The movement of an item. -/
def receiptOf (now : Instant) (tenantId : UUID) (po : WorkshopPurchaseOrder) (actorId : Option UUID)
    (item : WorkshopPurchaseOrderItem) (inv : SparePart) (quantity : Int) : SparePartMovement where
  tenantId
  inventoryId := inv.id
  movementType := .receipt
  direction := .inward
  quantity
  balanceAfterQuantity := inv.currentQuantity + quantity
  unitCost := some item.unitPrice
  totalCost := some (totalCostOf quantity item.unitPrice)
  requestReference := "PO-REC-" ++ po.poNumber
  sourceType := "purchase_order"
  sourceId := some po.id
  occurredAt := now
  recordedBy := actorId
  notes := some ("Recepção da PO " ++ po.poNumber)

/-- The item with all of it received. -/
def WorkshopPurchaseOrderItem.received (i : WorkshopPurchaseOrderItem) :
    WorkshopPurchaseOrderItem := { i with quantityReceived := i.quantityOrdered }

def Warehouse.markReceived (db : Warehouse) (item : WorkshopPurchaseOrderItem) : Warehouse :=
  { db with
    purchaseOrderItems :=
      db.purchaseOrderItems.modify item.id WorkshopPurchaseOrderItem.received }

/-- What is open of an item comes in as one movement of its part. -/
theorem receiveItem_eq (now : Instant) (po : WorkshopPurchaseOrder) (actorId : Option UUID)
    (hpart : db.part tenantId item.inventoryId = some part)
    (hopen : 0 < item.quantityOrdered - item.quantityReceived) :
    ∃ average, (average = part.averageUnitCost ∨
      Averaged (receiptOf now tenantId po actorId item part
        (item.quantityOrdered - item.quantityReceived)) average part part.currentQuantity) ∧
      receiveItem now tenantId po actorId item db =
        (db.markReceived item).post (receiptOf now tenantId po actorId item part
          (item.quantityOrdered - item.quantityReceived)) average := by
  unfold receiveItem
  dsimp only
  rw [if_neg (not_le.mpr hopen), hpart]
  refine ⟨_, ?_, rfl⟩
  split
  · exact .inr ⟨rfl, _, _, rfl, rounds_quantize 2, rfl⟩
  · exact .inl rfl

theorem receiveItem_cases (now : Instant) (tenantId : UUID) (po : WorkshopPurchaseOrder)
    (actorId : Option UUID) (item : WorkshopPurchaseOrderItem) (db : Warehouse) :
    receiveItem now tenantId po actorId item db = db ∨
      ∃ part average, db.part tenantId item.inventoryId = some part ∧
        0 < item.quantityOrdered - item.quantityReceived ∧
        receiveItem now tenantId po actorId item db =
          (db.markReceived item).post (receiptOf now tenantId po actorId item part
            (item.quantityOrdered - item.quantityReceived)) average := by
  by_cases hopen : 0 < item.quantityOrdered - item.quantityReceived
  · cases hpart : db.part tenantId item.inventoryId with
    | none => exact .inl (by simp [receiveItem, hpart])
    | some part =>
      obtain ⟨average, -, heq⟩ := receiveItem_eq now po actorId hpart hopen
      exact .inr ⟨part, average, rfl, hopen, heq⟩
  · exact .inl (by simp [receiveItem, not_lt.mp hopen])

/-- All movements of a delivery have the reference of the order. -/
theorem movements_loop (d : Delivery) (now : Instant) (tenantId : UUID) (db : Warehouse) :
    ∃ ms, (d.loop now tenantId db).movements.rows = db.movements.rows ++ ms ∧
      ∀ m ∈ ms, m.tenantId = tenantId ∧ m.requestReference = "PO-REC-" ++ d.po.poNumber := by
  unfold Delivery.loop
  induction d.items generalizing db with
  | nil => exact ⟨[], (List.append_nil _).symm, by simp⟩
  | cons item items ih =>
    obtain ⟨ms, hrows, hms⟩ := ih (receiveItem now tenantId d.po d.actorId item db)
    rw [List.foldl_cons, hrows]
    rcases receiveItem_cases now tenantId d.po d.actorId item db with hsame |
      ⟨part, average, -, -, hpost⟩
    · exact ⟨ms, by rw [hsame], hms⟩
    · rw [hpost]
      refine ⟨_ :: ms, by rw [Warehouse.post, Table.rows_insert, List.append_assoc]; rfl, ?_⟩
      exact List.forall_mem_cons.mpr ⟨⟨rfl, rfl⟩, hms⟩

theorem orders_loop (d : Delivery) (now : Instant) (db : Warehouse) :
    (d.loop now tenantId db).purchaseOrders = db.purchaseOrders := by
  unfold Delivery.loop
  induction d.items generalizing db with
  | nil => rfl
  | cons item items ih =>
    rw [List.foldl_cons, ih]
    rcases receiveItem_cases now tenantId d.po d.actorId item db with hsame |
      ⟨part, average, -, -, hpost⟩
    · rw [hsame]
    · rw [hpost]
      rfl

theorem loop_received (h : ∀ item ∈ d.items, item.quantityOrdered ≤ item.quantityReceived)
    (now : Instant) (db : Warehouse) : d.loop now tenantId db = db := by
  unfold Delivery.loop
  generalize d.items = items at h ⊢
  induction items with
  | nil => rfl
  | cons item items ih =>
    obtain ⟨hitem, hitems⟩ := List.forall_mem_cons.mp h
    have hsame : receiveItem now tenantId d.po d.actorId item db = db := by
      simp [receiveItem, hitem]
    rw [List.foldl_cons, hsame]
    exact ih hitems

theorem order_write : (d.write now tenantId db).purchaseOrders.get d.po.id =
    (db.purchaseOrders.get d.po.id).map fun po => { po with
      status := .received
      supplierInvoiceNumber := d.newNumber.or po.supplierInvoiceNumber } := by
  rw [Delivery.write, Table.get_modify, if_pos rfl, orders_loop]

/-- Whether the database accepts what is written does not depend on the order. -/
theorem ok_write : (d.write now tenantId db).ok = (d.loop now tenantId db).ok := rfl

theorem orderItems_markReceived (db : Warehouse) (item : WorkshopPurchaseOrderItem) :
    (db.markReceived item).orderItems tenantId purchaseOrderId =
      (db.orderItems tenantId purchaseOrderId).map fun i =>
        if i.id = item.id then i.received else i := by
  have hrows : (db.markReceived item).purchaseOrderItems.rows =
      db.purchaseOrderItems.rows.map fun i => if i.id = item.id then i.received else i :=
    @Table.rows_modify _ _ _ WorkshopPurchaseOrderItem.received (fun _ => rfl) item.id
  rw [Warehouse.orderItems, hrows, List.filter_map]
  refine congrArg (List.map _) (List.filter_congr fun i _ => ?_)
  rw [Function.comp_apply]
  split <;> rfl

theorem length_le_one_of_ok {ms : List SparePartMovement} {reference : String} (hok : p.ok = true)
    (hrows : p.movements.rows = db.movements.rows ++ ms)
    (hms : ∀ m ∈ ms, m.tenantId = tenantId ∧ m.requestReference = reference) : ms.length ≤ 1 := by
  have hnodup := references_nodup hok
  rw [hrows, List.map_append] at hnodup
  have hone := (List.nodup_append.mp hnodup).2.1
  match ms, hms, hone with
  | [], _, _ => exact Nat.zero_le 1
  | [_], _, _ => exact le_rfl
  | m :: m' :: ms, hms, hone =>
    have hm := hms m (by simp)
    have hm' := hms m' (by simp)
    simp [hm.1, hm.2, hm'.1, hm'.2] at hone

/-! ## The call that delivers the order -/

theorem OneOpenItem.open_pos (h : OneOpenItem tenantId po db item part) :
    item.quantityOrdered - item.quantityReceived = item.quantityOrdered := by
  rw [h.unreceived, sub_zero]

theorem OneOpenItem.receipt_ok (h : OneOpenItem tenantId po db item part)
    (hstock : 0 ≤ part.currentQuantity) (now : Instant) (actorId : Option UUID) :
    (receiptOf now tenantId po actorId item part item.quantityOrdered).ok = true := by
  have hpos := h.positive
  have hfits := abs_lt_of_fitsDigits h.stockFits
  have htotal := abs_lt.mp h.totalFits
  have hquantity : fitsDigits item.quantityOrdered = true := by
    rw [abs_lt] at hfits
    exact decide_eq_true ⟨by omega, by omega⟩
  have hbalance : 0 ≤ part.currentQuantity + item.quantityOrdered := by omega
  simp only [SparePartMovement.ok, receiptOf, Bool.and_eq_true, Option.all_some]
  exact ⟨⟨⟨⟨⟨decide_eq_true hpos, decide_eq_true hbalance⟩, hquantity⟩, h.stockFits⟩, h.priceFits⟩,
    decide_eq_true htotal⟩

theorem OneOpenItem.ok_post (h : OneOpenItem tenantId po db item part) (hok : db.ok = true)
    {average : Int} (haverage : average = part.averageUnitCost ∨
      Averaged (receiptOf now tenantId po actorId item part item.quantityOrdered) average part
        part.currentQuantity) :
    ((db.markReceived item).post
      (receiptOf now tenantId po actorId item part item.quantityOrdered) average).ok = true := by
  have hmem := Table.mem_of_get (part_eq_some h.found).1
  have hstock := quantity_nonneg hok hmem
  have hreceipt := h.receipt_ok hstock now actorId
  have hdb : (db.markReceived item).ok = true := hok
  refine Rotas.ok_post hdb hreceipt ?_ h.unused
  have hpartFits := abs_lt_of_fitsDigits (average_fits hok hmem)
  rcases haverage with rfl | haveraged
  · exact average_fits hok hmem
  · obtain ⟨_, -, hfits, -⟩ := haveraged.between hreceipt rfl hstock hpartFits
    exact decide_eq_true (abs_lt.mp hfits)

theorem oneOpenItem_of_ok {average : Int}
    (honly : db.orderItems tenantId po.id = [item])
    (hfound : db.part tenantId item.inventoryId = some part)
    (hpos : 0 < item.quantityOrdered - item.quantityReceived)
    (hquantity : item.quantityOrdered - item.quantityReceived = item.quantityOrdered)
    (hok : ((db.markReceived item).post (receiptOf now tenantId po actorId item
      part (item.quantityOrdered - item.quantityReceived)) average).ok = true) :
    OneOpenItem tenantId po db item part := by
  rw [hquantity] at hpos hok
  obtain ⟨hrow, hunused⟩ := ok_of_post hok
  simp only [SparePartMovement.ok, receiptOf, Bool.and_eq_true, Option.all_some] at hrow
  obtain ⟨⟨⟨-, hstock⟩, hprice⟩, htotal⟩ := hrow
  exact ⟨honly, by omega, hpos, hfound, hunused, hstock, hprice,
    abs_lt.mpr (of_decide_eq_true htotal)⟩

theorem loop_singleton (hpo : d.po = po) (hitems : d.items = [item]) (now : Instant)
    (tenantId : UUID) (db : Warehouse) :
    d.loop now tenantId db = receiveItem now tenantId po d.actorId item db := by
  rw [Delivery.loop, hpo, hitems, List.foldl_cons, List.foldl_nil]

/-- What the delivery of the items leaves: an order that is received, with the reference of the
order used for each item. -/
structure AfterDelivery (tenantId : UUID) (po : WorkshopPurchaseOrder)
    (items : List WorkshopPurchaseOrderItem) (q : Warehouse) : Prop where
  ok : q.ok = true
  received : ∃ po', q.purchaseOrders.get po.id = some po' ∧ po'.status = .received
  read : q.orderItems tenantId po.id = items.map WorkshopPurchaseOrderItem.received
  used : ∀ item ∈ items, (∃ m ∈ q.movements, m.tenantId = tenantId ∧
    m.requestReference = "PO-REC-" ++ po.poNumber) ∧
      ∃ part, q.part tenantId item.inventoryId = some part

theorem OneOpenItem.delivers (h : OneOpenItem tenantId po db item part)
    (hget : db.purchaseOrders.get po.id = some po) (hok : db.ok = true) (hpo : d.po = po)
    (hitems : d.items = [item]) (now : Instant) :
    Delivered tenantId po.id db (d.write now tenantId db) ∧
      AfterDelivery tenantId po [item] (d.write now tenantId db) := by
  have hopen : 0 < item.quantityOrdered - item.quantityReceived := by
    rw [h.open_pos]
    exact h.positive
  obtain ⟨average, haverage, hitem⟩ := receiveItem_eq now po d.actorId h.found hopen
  rw [h.open_pos] at haverage hitem
  rw [← loop_singleton hpo hitems] at hitem
  obtain ⟨hpart, hid⟩ := part_eq_some h.found
  have hparts : ∀ id, (d.write now tenantId db).spareParts.get id =
      if id = part.id then some { part with
        currentQuantity := part.currentQuantity + item.quantityOrdered
        averageUnitCost := average } else db.spareParts.get id := by
    rw [Delivery.write, hitem]
    exact parts_post average rfl (by rw [hid]; exact hpart)
  have hmovements : (d.write now tenantId db).movements.rows = db.movements.rows ++
      [{ receiptOf now tenantId po d.actorId item part item.quantityOrdered with
        id := db.movements.freshKey }] := by
    rw [Delivery.write, hitem]
    rfl
  have hreceived : (d.write now tenantId db).ok = true := by
    rw [ok_write, hitem]
    exact h.ok_post hok haverage
  have horder : ∃ po', (d.write now tenantId db).purchaseOrders.get po.id = some po' ∧
      po'.status = .received := by
    subst hpo
    exact ⟨_, order_write.trans (congrArg _ hget), rfl⟩
  refine ⟨⟨fun id => ?_, ⟨[_], hmovements, ?_⟩, horder⟩, hreceived, horder, ?_, ?_⟩
  · rw [hparts, Warehouse.ordered, h.only]
    by_cases hpid : id = part.id
    · rw [if_pos hpid, hpid, hid, hpart]
      simp
    · have hne : item.inventoryId ≠ id := fun he => hpid (he.symm.trans hid.symm)
      rw [if_neg hpid]
      simp [hne]
  · rw [h.only]
    exact .cons ⟨hid, rfl, rfl⟩ .nil
  · have hrows : (d.write now tenantId db).orderItems tenantId po.id =
        (db.markReceived item).orderItems tenantId po.id := by
      rw [Delivery.write, hitem]
      rfl
    rw [hrows, orderItems_markReceived, h.only]
    simp
  · intro i hi
    obtain rfl := List.mem_singleton.mp hi
    have hget := (hparts i.inventoryId).trans (if_pos hid.symm)
    refine ⟨⟨_, Table.mem_def.mpr (hmovements ▸ List.mem_append_right _ List.mem_cons_self), rfl,
      rfl⟩, _, Option.filter_eq_some_iff.mpr ⟨hget, (Option.filter_eq_some_iff.mp h.found).2⟩⟩

theorem delivers_nil (hnil : db.orderItems tenantId po.id = [])
    (hget : db.purchaseOrders.get po.id = some po) (hok : db.ok = true) (hpo : d.po = po)
    (hitems : d.items = []) (now : Instant) :
    Delivered tenantId po.id db (d.write now tenantId db) ∧
      AfterDelivery tenantId po [] (d.write now tenantId db) := by
  have hloop : d.loop now tenantId db = db := loop_received (by simp [hitems]) now db
  have horder : ∃ po', (d.write now tenantId db).purchaseOrders.get po.id = some po' ∧
      po'.status = .received := by
    subst hpo
    exact ⟨_, order_write.trans (congrArg _ hget), rfl⟩
  have hrest : d.write now tenantId db =
      { db with purchaseOrders := (d.write now tenantId db).purchaseOrders } := by
    rw [Delivery.write, hloop]
  refine ⟨⟨fun id => ?_, ⟨[], ?_, ?_⟩, horder⟩, ?_, horder, ?_, by simp⟩
  · rw [hrest, Warehouse.ordered, hnil]
    simp
  · rw [hrest, List.append_nil]
  · rw [hnil]
    exact .nil
  · rw [ok_write, hloop, hok]
  · rw [hrest]
    exact hnil

/-- A call delivers an open order exactly if its number fits and there is no item, or one that is
open. -/
theorem delivers_iff (hopen : OpenOrder tenantId po db) (hok : db.ok = true) (hpo : d.po = po)
    (hitems : d.items = db.orderItems tenantId po.id) (now : Instant) :
    (d.accepted now tenantId db = true ∧ Delivered tenantId po.id db (d.write now tenantId db)) ↔
      d.numberFits = true ∧ (db.orderItems tenantId po.id = [] ∨
        ∃ item part, OneOpenItem tenantId po db item part) := by
  rw [Delivery.accepted, Bool.and_eq_true]
  constructor
  · rintro ⟨⟨hwriteOk, hnumber⟩, hdelivered⟩
    refine ⟨hnumber, ?_⟩
    -- the database has accepted one movement at most, and each item needs one
    obtain ⟨ms, hrows, hms⟩ := movements_loop d now tenantId db
    have hone := length_le_one_of_ok hwriteOk hrows hms
    obtain ⟨ms', hrows', hreceived⟩ := hdelivered.movements
    obtain rfl : ms' = ms := List.append_cancel_left (hrows'.symm.trans hrows)
    have hlength := hreceived.length_eq
    rcases Nat.eq_zero_or_pos (db.orderItems tenantId po.id).length with hzero | hpos
    · exact .inl (List.eq_nil_of_length_eq_zero hzero)
    obtain ⟨item, hsingle⟩ : ∃ item, db.orderItems tenantId po.id = [item] := by
      rw [← List.length_eq_one_iff]
      omega
    have hloop := loop_singleton hpo (hitems.trans hsingle) now tenantId db
    rw [hsingle] at hreceived
    rw [ok_write, hloop] at hwriteOk
    rw [Delivery.write, hloop] at hrows'
    rcases receiveItem_cases now tenantId po d.actorId item db with hsame |
      ⟨part, average, hfound, hpos, hpost⟩
    · rw [hsame] at hrows'
      obtain rfl : ms' = [] := List.self_eq_append_right.mp hrows'
      cases hreceived
    · rw [hpost] at hrows' hwriteOk
      obtain rfl : [_] = ms' := List.append_cancel_left hrows'
      obtain ⟨-, -, hquantity⟩ := (List.forall₂_cons.mp hreceived).1
      exact .inr ⟨item, part, oneOpenItem_of_ok hsingle hfound hpos hquantity hwriteOk⟩
  · rintro ⟨hnumber, hnil | ⟨item, part, h⟩⟩
    · obtain ⟨hdelivered, hafter⟩ := delivers_nil hnil hopen.found hok hpo (hitems.trans hnil) now
      exact ⟨⟨hafter.ok, hnumber⟩, hdelivered⟩
    · obtain ⟨hdelivered, hafter⟩ := h.delivers hopen.found hok hpo (hitems.trans h.only) now
      exact ⟨⟨hafter.ok, hnumber⟩, hdelivered⟩

/-! ## The calls that come later -/

/-- At most one item, all of which is open. -/
def OpenItems (items : List WorkshopPurchaseOrderItem) : Prop :=
  items.length ≤ 1 ∧ ∀ item ∈ items, item.quantityReceived < item.quantityOrdered

/-- The unique index refuses an item that comes in again; a call that finds it received is let
through. -/
theorem AfterDelivery.accepted_iff {items : List WorkshopPurchaseOrderItem} {q : Warehouse}
    (h : AfterDelivery tenantId po items q) (hitems : OpenItems items) (hpo : d.po = po)
    (hread : d.items ∈ [items, items.map WorkshopPurchaseOrderItem.received]) (now : Instant) :
    d.accepted now tenantId q = false ↔
      (∃ item ∈ d.items, item.quantityReceived < item.quantityOrdered) ∨ d.numberFits = false := by
  by_cases hclosed : ∀ item ∈ d.items, item.quantityOrdered ≤ item.quantityReceived
  · have hnone : ¬ ∃ item ∈ d.items, item.quantityReceived < item.quantityOrdered := by
      rintro ⟨item, hitem, hlt⟩
      exact absurd (hclosed item hitem) (not_le.mpr hlt)
    rw [Delivery.accepted, ok_write, loop_received hclosed, h.ok, Bool.true_and]
    exact (or_iff_right hnone).symm
  · simp only [not_forall, not_le, exists_prop] at hclosed
    refine iff_of_true ?_ (.inl hclosed)
    obtain ⟨item, hitem, hlt⟩ := hclosed
    have hsame : d.items = items := by
      simp only [List.mem_cons, List.not_mem_nil, or_false] at hread
      refine hread.resolve_right fun hreceived => ?_
      rw [hreceived] at hitem
      obtain ⟨i, -, rfl⟩ := List.mem_map.mp hitem
      exact absurd hlt (lt_irrefl _)
    rw [hsame] at hitem
    have hone : d.items = [item] := by
      rw [hsame]
      have hpos := List.length_pos_of_mem hitem
      obtain ⟨i, hi⟩ := List.length_eq_one_iff.mp (Nat.le_antisymm hitems.1 hpos)
      rw [hi] at hitem ⊢
      rw [List.mem_singleton.mp hitem]
    obtain ⟨⟨m, hm, htenant, hreference⟩, part, hpart⟩ := h.used item hitem
    obtain ⟨average, -, hpost⟩ := receiveItem_eq now po d.actorId hpart (sub_pos.mpr hlt)
    rw [Delivery.accepted, ok_write, loop_singleton hpo hone, hpost, Bool.and_eq_false_iff]
    refine .inl (Bool.eq_false_iff.mpr fun hok => ?_)
    exact (ok_of_post hok).2 m hm htenant hreference

/-! ## Runs -/

theorem OpenOrder.read (h : OpenOrder tenantId po db) :
    readPurchaseOrder tenantId po.id db = .ok po := by
  have hget : (db.purchaseOrders.get po.id).filter (·.tenantId = tenantId) = some po :=
    Option.filter_eq_some_iff.mpr ⟨h.found, decide_eq_true h.tenant⟩
  simp only [readPurchaseOrder, bind_eq_ok, require_eq_ok, raiseIf_eq_ok]
  exact ⟨po, hget, (), by simp [h.notReceived, h.notCancelled], rfl⟩

theorem read_received {q : Warehouse}
    (hreceived : ∃ po', q.purchaseOrders.get purchaseOrderId = some po' ∧ po'.status = .received) :
    readPurchaseOrder tenantId purchaseOrderId q ≠ .ok po := by
  obtain ⟨po', hget, hstatus⟩ := hreceived
  intro h
  simp only [readPurchaseOrder, bind_eq_ok, require_eq_ok, raiseIf_eq_ok] at h
  obtain ⟨po₀, hpo, _, hopen, _⟩ := h
  obtain ⟨hpo, -⟩ := Option.filter_eq_some_iff.mp hpo
  obtain rfl : po' = po₀ := Option.some.inj (hget.symm.trans hpo)
  simp [hstatus] at hopen

/-- The order, and one of these lists of items, is what the call has read. -/
def DeliveryPhase.Reads (po : WorkshopPurchaseOrder)
    (readings : List (List WorkshopPurchaseOrderItem)) : DeliveryPhase → Prop
  | .ordered po' _ _ => po' = po
  | .reading d => d.po = po ∧ d.items ∈ readings
  | _ => True

/-- Nothing has been written yet, or the order is delivered; and what a call may have read. -/
inductive DeliveryStage (tenantId : UUID) (db : Warehouse) (po : WorkshopPurchaseOrder) :
    Warehouse → List (List WorkshopPurchaseOrderItem) → Prop
  | waiting : DeliveryStage tenantId db po db [db.orderItems tenantId po.id]
  | done {items : List WorkshopPurchaseOrderItem} {q : Warehouse}
      (hsame : db.orderItems tenantId po.id = items) (hitems : OpenItems items)
      (hq : AfterDelivery tenantId po items q) :
      DeliveryStage tenantId db po q [items, items.map WorkshopPurchaseOrderItem.received]

def DeliveryKept (tenantId : UUID) (db : Warehouse) (po : WorkshopPurchaseOrder)
    (c : Config Warehouse DeliveryPhase) : Prop :=
  ∃ readings, DeliveryStage tenantId db po c.store readings ∧
    ∀ i, (c.parties i).Reads po readings

section Keep

variable {c : Config Warehouse DeliveryPhase} {i : Nat} {m : Nat × DeliveryAction}
  {readings : List (List WorkshopPurchaseOrderItem)}

theorem move_finish (hphase : c.parties i = .reading d) :
    move (deliveryTurn tenantId purchaseOrderId) c (i, .finish now) =
      if d.accepted now tenantId c.store then
        ⟨d.write now tenantId c.store, Function.update c.parties i .received⟩
      else ⟨c.store, Function.update c.parties i .refused⟩ := by
  simp only [move, hphase, deliveryTurn]
  split <;> rfl

/-- A call reads the order or is refused, reads the items, or comes to its commit. -/
theorem deliveryTurn_cases {act : DeliveryAction} {s s' : Warehouse} {l l' : DeliveryPhase}
    (h : deliveryTurn tenantId purchaseOrderId i act s l = some (s', l')) :
    (s' = s ∧ ((∃ po number actorId, readPurchaseOrder tenantId purchaseOrderId s = .ok po ∧
        l' = .ordered po number actorId) ∨ l' = .refused ∨
      ∃ po number actorId, l = .ordered po number actorId ∧
        l' = .reading ⟨po, s.orderItems tenantId po.id, number, actorId⟩)) ∨
      ∃ now d, act = .finish now ∧ l = .reading d := by
  cases act with
  | readOrder number actorId =>
    cases l with
    | idle =>
      simp only [deliveryTurn] at h
      cases hread : readPurchaseOrder tenantId purchaseOrderId s with
      | ok po =>
        rw [hread] at h
        cases h
        exact .inl ⟨rfl, .inl ⟨po, number, actorId, rfl, rfl⟩⟩
      | error e =>
        rw [hread] at h
        cases h
        exact .inl ⟨rfl, .inr (.inl rfl)⟩
    | _ => cases h
  | readItems =>
    cases l with
    | ordered po number actorId =>
      cases h
      exact .inl ⟨rfl, .inr (.inr ⟨po, number, actorId, rfl, rfl⟩)⟩
    | _ => cases h
  | finish now =>
    cases l with
    | reading d => exact .inr ⟨now, d, rfl, rfl⟩
    | _ => cases h

theorem store_move (h : ∀ now d, m.2 = .finish now → c.parties m.1 ≠ .reading d) :
    (move (deliveryTurn tenantId purchaseOrderId) c m).store = c.store := by
  rcases move_cases (deliveryTurn tenantId purchaseOrderId) c m with hsame | ⟨s, l, hturn, hmove⟩
  · rw [hsame]
  · rw [hmove]
    rcases deliveryTurn_cases hturn with ⟨hs, -⟩ | ⟨now, d, hact, hphase⟩
    · exact hs
    · exact absurd hphase (h now d hact)

theorem hasReceived_of_open (hopen : OpenOrder tenantId po db) : db.hasReceived po.id = false := by
  rw [Warehouse.hasReceived, hopen.found, Option.any_some]
  exact decide_eq_false hopen.notReceived

theorem AfterDelivery.hasReceived {items : List WorkshopPurchaseOrderItem} {q : Warehouse}
    (h : AfterDelivery tenantId po items q) : q.hasReceived po.id = true := by
  obtain ⟨po', hget, hstatus⟩ := h.received
  rw [Warehouse.hasReceived, hget, Option.any_some]
  exact decide_eq_true hstatus

theorem DeliveryKept.reading (hreads : ∀ j, (c.parties j).Reads po readings)
    (hphase : c.parties i = .reading d) : d.po = po ∧ d.items ∈ readings := by
  have h := hreads i
  rw [hphase] at h
  exact h

theorem DeliveryKept.receivesOnce_iff (hopen : OpenOrder tenantId po db) (hok : db.ok = true)
    (h : DeliveryKept tenantId db po c) :
    ReceivesOnce tenantId po.id c m ↔ FinishFits tenantId c m := by
  obtain ⟨readings, hstage, hreads⟩ := h
  obtain ⟨i, act⟩ := m
  unfold ReceivesOnce FinishFits
  dsimp only
  split
  · next now d hphase =>
    obtain ⟨hpo, hitems⟩ := DeliveryKept.reading hreads hphase
    rw [move_finish hphase, hpo]
    generalize c.store = s at hstage ⊢
    cases hstage with
    | waiting =>
      rw [hasReceived_of_open hopen, if_neg Bool.false_ne_true, if_neg Bool.false_ne_true,
        ← delivers_iff hopen hok hpo (List.mem_singleton.mp hitems) now]
      cases d.accepted now tenantId db <;> simp
    | done hsame hopenItems hafter =>
      rw [hafter.hasReceived, if_pos rfl, if_pos rfl,
        ← hafter.accepted_iff hopenItems hpo hitems now]
      cases d.accepted now tenantId s <;> simp
  · next hno =>
    exact iff_of_true (store_move fun now d hact hphase => hno now d hact hphase) trivial

theorem finishFits_late (hphase : c.parties i = .reading d)
    (hreceived : c.store.hasReceived d.po.id = true) (hitem : item ∈ d.items)
    (hopen : item.quantityReceived < item.quantityOrdered) :
    FinishFits tenantId c (i, .finish now) := by
  simp only [FinishFits, hphase, if_pos hreceived]
  exact .inl ⟨item, hitem, hopen⟩

theorem DeliveryStage.update {s : Warehouse} {l : DeliveryPhase}
    (hstage : DeliveryStage tenantId db po s readings)
    (hreads : ∀ j, (c.parties j).Reads po readings) (hl : l.Reads po readings) :
    DeliveryKept tenantId db po ⟨s, Function.update c.parties i l⟩ := by
  refine ⟨readings, hstage, fun j => ?_⟩
  by_cases hj : j = i
  · rw [hj]
    dsimp only
    rw [Function.update_self]
    exact hl
  · dsimp only
    rw [Function.update_of_ne hj]
    exact hreads j

theorem DeliveryPhase.Reads.more {l : DeliveryPhase} {items : List WorkshopPurchaseOrderItem}
    (h : l.Reads po [items]) (received : List WorkshopPurchaseOrderItem) :
    l.Reads po [items, received] := by
  cases l with
  | ordered => exact h
  | reading d => exact ⟨h.1, List.mem_cons.mpr (.inl (List.mem_singleton.mp h.2))⟩
  | _ => trivial

/-- The first commit that fits leads from one stage to the other. -/
theorem DeliveryStage.deliver (hopen : OpenOrder tenantId po db) (hok : db.ok = true)
    (hpo : d.po = po) (hitems : d.items = db.orderItems tenantId po.id)
    (hfits : db.orderItems tenantId po.id = [] ∨ ∃ item part, OneOpenItem tenantId po db item part)
    (now : Instant) :
    DeliveryStage tenantId db po (d.write now tenantId db) [db.orderItems tenantId po.id,
      (db.orderItems tenantId po.id).map WorkshopPurchaseOrderItem.received] := by
  rcases hfits with hnil | ⟨item, part, hone⟩
  · obtain ⟨-, hafter⟩ := delivers_nil hnil hopen.found hok hpo (hitems.trans hnil) now
    rw [hnil]
    exact .done hnil ⟨Nat.zero_le 1, by simp⟩ hafter
  · obtain ⟨-, hafter⟩ := hone.delivers hopen.found hok hpo (hitems.trans hone.only) now
    rw [hone.only]
    refine .done hone.only ⟨le_rfl, fun i hi => ?_⟩ hafter
    rw [List.mem_singleton.mp hi, hone.unreceived]
    exact hone.positive

theorem DeliveryKept.finish (hopen : OpenOrder tenantId po db) (hok : db.ok = true)
    (h : DeliveryKept tenantId db po c) (hphase : c.parties i = .reading d)
    (hfits : FinishFits tenantId c (i, .finish now)) :
    DeliveryKept tenantId db po (move (deliveryTurn tenantId po.id) c (i, .finish now)) := by
  obtain ⟨readings, hstage, hreads⟩ := h
  obtain ⟨hpo, hitems⟩ := DeliveryKept.reading hreads hphase
  simp only [FinishFits, hphase, hpo] at hfits
  rw [move_finish hphase]
  generalize c.store = s at hstage hfits ⊢
  cases hstage with
  | waiting =>
    rw [hasReceived_of_open hopen, if_neg Bool.false_ne_true] at hfits
    have hsame := List.mem_singleton.mp hitems
    obtain ⟨haccepted, -⟩ := (delivers_iff hopen hok hpo hsame now).mpr hfits
    rw [if_pos haccepted]
    exact (DeliveryStage.deliver hopen hok hpo hsame hfits.2 now).update
      (fun j => (hreads j).more _) trivial
  | done hsame hopenItems hafter =>
    rw [hafter.hasReceived, if_pos rfl, ← hafter.accepted_iff hopenItems hpo hitems now] at hfits
    rw [hfits, if_neg Bool.false_ne_true]
    exact (DeliveryStage.done hsame hopenItems hafter).update hreads trivial

/-- What a call reads is the order while it is open, and the items of either stage. -/
theorem DeliveryKept.move (hopen : OpenOrder tenantId po db) (hok : db.ok = true)
    (h : DeliveryKept tenantId db po c) (hfits : FinishFits tenantId c m) :
    DeliveryKept tenantId db po (Interleave.move (deliveryTurn tenantId po.id) c m) := by
  rcases move_cases (deliveryTurn tenantId po.id) c m with hsame | ⟨s, l, hturn, hmove⟩
  · rw [hsame]
    exact h
  rcases deliveryTurn_cases hturn with ⟨rfl, hread⟩ | ⟨now, d, hact, hphase⟩
  · rw [hmove]
    obtain ⟨readings, hstage, hreads⟩ := h
    refine hstage.update hreads ?_
    rcases hread with ⟨po', number, actorId, hread, rfl⟩ | rfl | ⟨po', number, actorId, hphase, rfl⟩
    · generalize c.store = s at hstage hread
      cases hstage with
      | waiting => exact Except.ok.inj (hread.symm.trans hopen.read)
      | done _ _ hafter => exact absurd hread (read_received hafter.received)
    · trivial
    · have hpo := hreads m.1
      rw [hphase] at hpo
      obtain rfl : po' = po := hpo
      refine ⟨rfl, ?_⟩
      generalize c.store = s at hstage
      cases hstage with
      | waiting => exact List.mem_singleton_self _
      | done _ _ hafter =>
        rw [hafter.read]
        exact List.mem_cons_of_mem _ (List.mem_singleton_self _)
  · obtain ⟨i, act⟩ := m
    obtain rfl : act = .finish now := hact
    exact h.finish hopen hok hphase hfits

end Keep

/-- In every run of calls of an open order, the first one that comes to its commit delivers the
order and no other succeeds, exactly if every commit fits. -/
theorem received_once_iff (hopen : OpenOrder tenantId po db) (hok : db.ok = true)
    (ms : List (Nat × DeliveryAction)) :
    Run.Along (move (deliveryTurn tenantId po.id)) (ReceivesOnce tenantId po.id)
        ⟨db, fun _ => .idle⟩ ms ↔
      Run.Along (move (deliveryTurn tenantId po.id)) (FinishFits tenantId)
        ⟨db, fun _ => .idle⟩ ms := by
  have hstart : DeliveryKept tenantId db po ⟨db, fun _ => .idle⟩ := ⟨_, .waiting, fun _ => trivial⟩
  constructor
  · refine Run.along_inv (I := DeliveryKept tenantId db po) (fun c m hc hright => ?_)
      (fun c m hc hright => (hc.receivesOnce_iff hopen hok).mp hright) hstart
    exact hc.move hopen hok ((hc.receivesOnce_iff hopen hok).mp hright)
  · exact Run.along_inv (I := DeliveryKept tenantId db po)
      (fun c m hc hfits => hc.move hopen hok hfits)
      (fun c m hc hfits => (hc.receivesOnce_iff hopen hok).mpr hfits) hstart

end

/-! ## Spark plugs and filters -/

def sparkPlugs : SparePart :=
  { id := 1, tenantId := 1, currentQuantity := 10000, averageUnitCost := 10000 }

def plugsOrder : WorkshopPurchaseOrder :=
  { id := 1, tenantId := 1, poNumber := "PO-2026-0102030405", status := .ordered }

def plugsItem : WorkshopPurchaseOrderItem :=
  { id := 1, tenantId := 1, purchaseOrderId := 1, inventoryId := 1, quantityOrdered := 10000
    unitPrice := 20000 }

def plugsStore : Warehouse where
  spareParts := .single sparkPlugs
  purchaseOrders := .single plugsOrder
  purchaseOrderItems := .single plugsItem

/-- Two calls read the order and its items before either of them commits. -/
def twoCalls : List (Nat × DeliveryAction) :=
  [(0, .readOrder none none), (1, .readOrder (some "F-1") none), (0, .readItems), (1, .readItems),
    (0, .finish 0), (1, .finish 0)]

/-- Ten spark plugs at 200 are received once. -/
theorem received_once_iff_plugs :
    Run.Along (move (deliveryTurn 1 1)) (ReceivesOnce 1 1) ⟨plugsStore, fun _ => .idle⟩
      twoCalls := by
  have hopen : OpenOrder 1 plugsOrder plugsStore := ⟨rfl, rfl, by decide, by decide⟩
  have hitem : OneOpenItem 1 plugsOrder plugsStore plugsItem sparkPlugs :=
    ⟨rfl, rfl, by decide, rfl, fun _ h => absurd h (Table.not_mem_empty _), by decide, by decide,
      by decide +kernel⟩
  refine (received_once_iff hopen (by decide +kernel) twoCalls).mpr
    ⟨trivial, trivial, trivial, trivial, ?_, ?_, trivial⟩
  · exact ⟨rfl, .inr ⟨plugsItem, sparkPlugs, hitem⟩⟩
  · have hread : plugsItem ∈ [plugsItem] := List.mem_singleton_self _
    refine @finishFits_late 0 1 plugsItem ⟨plugsOrder, [plugsItem], some "F-1", none⟩ _ 1 ?_
      (by decide +kernel) hread (by decide)
    exact move_party_of_ne _ _ Nat.one_ne_zero

/-- The same ten spark plugs, ordered as two items of one order. -/
def twoItemsStore : Warehouse :=
  { plugsStore with
    purchaseOrderItems := ⟨[{ plugsItem with quantityOrdered := 5000 },
      { plugsItem with id := 2, quantityOrdered := 5000 }], by decide⟩ }

/-- Both items have the reference of the order, so the order is never received. -/
theorem two_items_refused : OpenOrder 1 plugsOrder twoItemsStore ∧ twoItemsStore.ok = true ∧
    ¬ Run.Along (move (deliveryTurn 1 1)) (ReceivesOnce 1 1) ⟨twoItemsStore, fun _ => .idle⟩
      [(0, .readOrder none none), (0, .readItems), (0, .finish 100)] := by
  refine ⟨⟨rfl, rfl, by decide, by decide⟩, by decide +kernel, ?_⟩
  rintro ⟨-, -, ⟨hdelivered, -⟩, -⟩
  obtain ⟨po, hget, hreceived⟩ := Delivered.received hdelivered
  have hstatus : ((Run.exec (move (deliveryTurn 1 1)) (Config.mk twoItemsStore fun _ => .idle)
      [(0, DeliveryAction.readOrder none none), (0, .readItems), (0, .finish 100)]).store
      |>.purchaseOrders.get 1).map WorkshopPurchaseOrder.status = some .ordered := by
    decide +kernel
  rw [Run.exec_cons, Run.exec_cons, Run.exec_cons, Run.exec_nil, hget, Option.map_some,
    hreceived] at hstatus
  cases hstatus

end Rotas
