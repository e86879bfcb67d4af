import Rotas.Workshop.InvoicedOnce

/-!
# Rotas.Workshop.Returns

What comes back of the parts that went out to a work order, over runs of issues, returns and
invoices.

* `PartsCall`   — the calls; whatever else happens writes no movement and no usage.
* `PartsBalanced`, `returnsUnbilled` — the law, in every state and at every return.
* `Returnable`  — what a return is asked for: nothing of what was issued, and no usage.
* `returns_lawful_iff` — the law holds of the runs in which nothing is returned.
-/

namespace Rotas

open Table Decimal Work

/-! ## Calls -/

inductive PartsCall where
  | stock (c : StockCall) (request : c.isRequest = true)
  | invoice (now : Instant) (tenantId workOrderId : UUID)
  | other (f : Garage → Garage)
      (hmovements : ∀ g, (f g).shop.movements = g.shop.movements)
      (hused : ∀ g, (f g).shop.partsUsed = g.shop.partsUsed)

section Call

variable [Locale] [Rendering]

def PartsCall.run : PartsCall → Garage → Except Exc (UUID × Garage)
  | .stock c _ => Garage.onWarehouse c.run
  | .invoice now tenantId workOrderId => fun g =>
    g.onDb (createWorkshopInvoice now tenantId workOrderId g.warehouse)
  | .other f _ _ => fun g => .ok (0, f g)

/-- A call that is refused, by its checks or by the database, changes nothing. -/
def Garage.handle (g : Garage) (c : PartsCall) : Garage := perform c.run g

def PartsCall.Accepted (g : Garage) (c : PartsCall) : Prop :=
  ∃ a p, c.run g = .ok (a, p) ∧ Store.ok p = true

/-! ## The law -/

/-- What came back went out, and the rest is what is recorded as used. -/
structure PartsBalanced (w : Warehouse) : Prop where
  within : ∀ tenantId workOrderId inventoryId,
    w.returned tenantId workOrderId inventoryId ≤ w.issued tenantId workOrderId inventoryId
  used : ∀ tenantId workOrderId inventoryId, w.used tenantId workOrderId inventoryId =
    w.issued tenantId workOrderId inventoryId - w.returned tenantId workOrderId inventoryId

/-- No live invoice of the order bills a part of which a return is accepted. -/
def returnsUnbilled (g : Garage) : PartsCall → Prop
  | .stock (.returnPart now tenantId workOrderId inventoryId quantity reason actorId) request =>
    PartsCall.Accepted g
      (.stock (.returnPart now tenantId workOrderId inventoryId quantity reason actorId) request) →
      ∀ wo ∈ g.shop.workOrders, wo.id = workOrderId → ∀ d ∈ g.db.billingDocuments,
        d.isLive = true → d.subject = wo.subject → g.billed wo d inventoryId = 0
  | _ => True

structure ReturnsLawful (g₀ : Garage) (cs : List PartsCall) : Prop where
  balanced : ∀ before after, cs = before ++ after →
    PartsBalanced (Run.exec Garage.handle g₀ before).shop
  unbilled : Run.Along Garage.handle returnsUnbilled g₀ cs

/-- All that a return is asked for. -/
structure Returnable (now : Instant) (tenantId workOrderId inventoryId : UUID) (quantity : ℚ)
    (w : Warehouse) (wo : WorkOrder) (inv : SparePart) : Prop where
  positive : 0 < thousandths quantity
  order : w.workOrders.get workOrderId = some wo
  tenant : wo.tenantId = tenantId
  notClosed : wo.status ≠ .closed
  notCancelled : wo.status ≠ .cancelled
  unbilled : w.isBilled tenantId wo = false
  found : w.part tenantId inventoryId = some inv
  unused : ∀ m ∈ w.movements, m.tenantId = tenantId → m.requestReference ≠
    "RETURN-WO-" ++ Rendering.hex8 wo.id ++ "-" ++ Rendering.hhmmss now
  stockFits : fitsDigits (inv.currentQuantity + thousandths quantity) = true
  totalFits : |totalCostOf (thousandths quantity) inv.averageUnitCost| < 10 ^ 16

/-- The call is no return that is taken. -/
def returnsNothing (g : Garage) : PartsCall → Prop
  | .stock (.returnPart now tenantId workOrderId inventoryId quantity _ _) _ => ∀ wo inv,
    ¬ Returnable now tenantId workOrderId inventoryId quantity g.warehouse wo inv
  | _ => True

end Call

/-- Nothing has come back from an order. -/
def Unreturned (w : Warehouse) : Prop :=
  ∀ m ∈ w.movements, m.direction = .inward →
    m.sourceType ≠ "work_order" ∧ m.sourceType ≠ "maintenance_part_used"

/-! ## Calls that return nothing -/

section Unreturned

variable {w w' : Warehouse} {m : SparePartMovement} {tenantId workOrderId inventoryId a : UUID}

theorem Unreturned.returned (h : Unreturned w) (tenantId workOrderId inventoryId : UUID) :
    w.returned tenantId workOrderId inventoryId = 0 := by
  refine sumWhere_eq_zero fun m hm => ?_
  cases hdirection : m.direction with
  | inward =>
    obtain ⟨horder, hused⟩ := h m hm hdirection
    simp [Warehouse.isMove, Warehouse.orderOf, horder, hused]
  | outward => simp [Warehouse.isMove, hdirection]

theorem Unreturned.congr (h : Unreturned w) (hmovements : w'.movements = w.movements) :
    Unreturned w' := by
  unfold Unreturned
  rw [hmovements]
  exact h

theorem Unreturned.post {average : Int} (h : Unreturned w)
    (hm : m.direction = .inward → m.sourceType ≠ "work_order" ∧
      m.sourceType ≠ "maintenance_part_used") : Unreturned (w.post m average) := by
  intro m' hm' hdirection
  rcases (mem_insert _ _ _).mp hm' with hold | rfl
  · exact h m' hold hdirection
  · exact hm hdirection

theorem Unreturned.record {r : MovementRequest} (h : Unreturned w)
    (hr : r.direction = .inward → r.sourceType ≠ "work_order" ∧
      r.sourceType ≠ "maintenance_part_used")
    (hrecord : Rotas.record tenantId r w = .ok (m, w')) : Unreturned w' := by
  rcases record_cases hrecord with rfl | ⟨part, _, _, rfl⟩
  · exact h
  · exact h.post hr

theorem Unreturned.receiveItem {now : Instant} {po : WorkshopPurchaseOrder} {actorId : Option UUID}
    {item : WorkshopPurchaseOrderItem} (h : Unreturned w) :
    Unreturned (Rotas.receiveItem now tenantId po actorId item w) := by
  unfold Rotas.receiveItem
  dsimp only
  split
  · exact h
  · split
    · exact h
    · have hordered : Unreturned { w with
          purchaseOrderItems := w.purchaseOrderItems.modify item.id fun i => { i with
            quantityReceived := i.quantityOrdered } } := h
      exact hordered.post fun _ => by simp

/-- Every other request that moves stock brings nothing back from an order. -/
theorem StockCall.unreturned [Rendering] {c : StockCall} (hrequest : c.isRequest = true)
    (hnot : ∀ now tenantId workOrderId inventoryId quantity reason actorId,
      c ≠ .returnPart now tenantId workOrderId inventoryId quantity reason actorId)
    (h : Unreturned w) (hrun : c.run w = .ok (a, w')) : Unreturned w' := by
  cases c with
  | record tenantId r => cases hrequest
  | receive tenantId payload actorId =>
    simp only [StockCall.run, receiveSparePart, bind_eq_ok, pure, Except.pure, Except.ok.injEq,
      Prod.mk.injEq] at hrun
    obtain ⟨⟨m, q⟩, hrecord, _, rfl⟩ := hrun
    exact h.record (fun _ => by simp) hrecord
  | issueToWorkOrder now tenantId workOrderId payload actorId =>
    rcases issueSparePart_cases hrun with rfl | ⟨_, m, q, used, hrecord, rfl⟩
    · exact h
    · have hissue : (issueRequest payload actorId w.partsUsed.freshKey).direction ≠ .inward := by
        simp [issueRequest]
      have hmore : Unreturned { w with
          partsUsed := w.partsUsed.insert (usageOf now tenantId workOrderId payload actorId)
            fun _ => rfl } := h
      exact (hmore.record (fun hinward => absurd hinward hissue) hrecord).congr rfl
  | receipt tenantId payload actorId =>
    simp only [StockCall.run, recordSparePartReceipt, bind_eq_ok, pure, Except.pure,
      Except.ok.injEq, Prod.mk.injEq] at hrun
    obtain ⟨_, _, _, rfl⟩ := hrun
    exact h.post fun _ => by simp
  | installSerial now tenantId serialId vehicleId =>
    simp only [StockCall.run, installSerialItem, bind_eq_ok, pure, Except.pure, Except.ok.injEq,
      Prod.mk.injEq] at hrun
    obtain ⟨_, _, _, _, part, _, _, rfl⟩ := hrun
    have hinstalled : Unreturned { w with
        serialItems := w.serialItems.modify serialId fun i => { i with
          status := .installed, vehicleId := some vehicleId, installedAt := some now } } := h
    exact hinstalled.post (fun h => by cases h)
  | issueParts now tenantId workOrderId inventoryId quantity actorId notes =>
    simp only [StockCall.run, issuePartsForWorkOrder, bind_eq_ok, pure, Except.pure,
      Except.ok.injEq, Prod.mk.injEq] at hrun
    obtain ⟨⟨wo, inv⟩, _, _, rfl⟩ := hrun
    have hconsumed : Unreturned (consume tenantId workOrderId inventoryId
        (w.reservationsOf tenantId workOrderId inventoryId) (thousandths quantity) w) :=
      h.congr (consume_stock ..).2
    have hposted : Unreturned (Warehouse.post
        (issueMovement now tenantId wo inv (thousandths quantity) actorId notes)
        inv.averageUnitCost (consume tenantId workOrderId inventoryId
          (w.reservationsOf tenantId workOrderId inventoryId) (thousandths quantity) w)) :=
      hconsumed.post fun hinward => by simp [issueMovement] at hinward
    exact hposted.congr rfl
  | returnPart now tenantId workOrderId inventoryId quantity reason actorId =>
    exact absurd rfl (hnot now tenantId workOrderId inventoryId quantity reason actorId)
  | adjustment now tenantId inventoryId quantity direction reason actorId =>
    simp only [StockCall.run, recordInventoryAdjustment, bind_eq_ok, pure, Except.pure,
      Except.ok.injEq, Prod.mk.injEq] at hrun
    obtain ⟨_, _, _, _, _, _, _, _, _, rfl⟩ := hrun
    exact h.post fun _ => by simp
  | receiveOrder now tenantId purchaseOrderId supplierInvoiceNumber actorId =>
    obtain ⟨q, orders, hq, rfl⟩ :=
      receivePurchaseOrder_ind h (fun _ _ _ hq => hq.receiveItem) hrun
    exact hq.congr rfl

end Unreturned

/-! ## Returns -/

theorem onWarehouse_eq_ok {g g' : Garage} {a : UUID}
    {f : Warehouse → Except Exc (UUID × Warehouse)} :
    g.onWarehouse f = .ok (a, g') ↔ ∃ w, f g.warehouse = .ok (a, w) ∧ g' = g.put w := by
  simp only [Garage.onWarehouse, bind_eq_ok, pure, Except.pure, Except.ok.injEq, Prod.mk.injEq]
  constructor
  · rintro ⟨⟨b, w⟩, hf, rfl, rfl⟩
    exact ⟨w, hf, rfl⟩
  · rintro ⟨w, hf, rfl⟩
    exact ⟨(a, w), hf, rfl, rfl⟩

section Return

variable [Rendering] {now : Instant} {tenantId workOrderId inventoryId : UUID} {quantity : ℚ}
  {reason : String} {actorId : Option UUID} {w : Warehouse} {wo : WorkOrder} {inv : SparePart}
  {g : Garage}

/-- The movement of a return. -/
def returnOf (now : Instant) (tenantId workOrderId : UUID) (wo : WorkOrder) (inv : SparePart)
    (quantity : Int) (reason : String) (actorId : Option UUID) : SparePartMovement where
  tenantId
  inventoryId := inv.id
  movementType := .partReturn
  direction := .inward
  quantity
  balanceAfterQuantity := inv.currentQuantity + quantity
  unitCost := some inv.averageUnitCost
  totalCost := some (totalCostOf quantity inv.averageUnitCost)
  requestReference := "RETURN-WO-" ++ Rendering.hex8 wo.id ++ "-" ++ Rendering.hhmmss now
  sourceType := "work_order"
  sourceId := some workOrderId
  occurredAt := now
  recordedBy := actorId
  notes := some ("Devolução da OS " ++ wo.workOrderNumber ++ ": " ++ reason)

theorem returnPart_eq_ok {a : UUID} {w' : Warehouse} :
    returnPartFromWorkOrder now tenantId workOrderId inventoryId quantity reason actorId w =
        .ok (a, w') ↔
      0 < thousandths quantity ∧ ∃ wo, w.workOrders.get workOrderId = some wo ∧
        wo.tenantId = tenantId ∧ wo.status ≠ .closed ∧ wo.status ≠ .cancelled ∧
        w.isBilled tenantId wo = false ∧ ∃ inv, w.part tenantId inventoryId = some inv ∧
          a = w.movements.freshKey ∧ w' = w.post (returnOf now tenantId workOrderId wo inv
            (thousandths quantity) reason actorId) inv.averageUnitCost := by
  simp only [returnPartFromWorkOrder, requireOpenOrder, requirePart, bind_eq_ok, require_eq_ok,
    raiseIf_eq_ok, pure, Except.pure, Except.ok.injEq, Prod.mk.injEq, decide_eq_false_iff_not,
    not_le, Option.filter_eq_some_iff]
  constructor
  · rintro ⟨_, hpos, wo, ⟨_, ⟨hget, htenant⟩, _, hstatus, rfl⟩, _, hbilled, inv, hinv, rfl, rfl⟩
    simp at hstatus htenant
    exact ⟨hpos, _, hget, htenant, hstatus.1, hstatus.2, hbilled, inv, hinv, rfl, rfl⟩
  · rintro ⟨hpos, wo, hget, htenant, hclosed, hcancelled, hbilled, inv, hinv, rfl, rfl⟩
    exact ⟨(), hpos, wo, ⟨wo, ⟨hget, by simpa using htenant⟩, (), by simp [hclosed, hcancelled],
      rfl⟩, (), hbilled, inv, hinv, rfl, rfl⟩

/-- The movement fits its columns if the stock and the cost do. -/
theorem returnOf_ok {n : Int} (hpos : 0 < n) (hstock : 0 ≤ inv.currentQuantity)
    (haverage : fitsDigits inv.averageUnitCost = true) :
    (returnOf now tenantId workOrderId wo inv n reason actorId).ok = true ↔
      fitsDigits (inv.currentQuantity + n) = true ∧
        |totalCostOf n inv.averageUnitCost| < 10 ^ 16 := by
  simp only [SparePartMovement.ok, returnOf, Option.all_some, Bool.and_eq_true, decide_eq_true_eq,
    haverage, and_true, abs_lt]
  constructor
  · rintro ⟨⟨_, hfits⟩, htotal⟩
    exact ⟨hfits, htotal⟩
  · rintro ⟨hfits, htotal⟩
    refine ⟨⟨⟨⟨decide_eq_true hpos, decide_eq_true (by omega)⟩, ?_⟩, hfits⟩, htotal⟩
    simp only [fitsDigits, decide_eq_true_eq] at hfits ⊢
    omega

/-- A return is taken if it passes its checks and the database takes its movement. -/
theorem returnable_iff [Locale] {request} (hok : Store.ok g = true) :
    PartsCall.Accepted g
      (.stock (.returnPart now tenantId workOrderId inventoryId quantity reason actorId) request) ↔
      ∃ wo inv, Returnable now tenantId workOrderId inventoryId quantity g.warehouse wo inv := by
  have hshop : g.warehouse.ok = true := by
    simp only [Store.ok, Bool.and_eq_true] at hok
    exact hok.1.1
  constructor
  · rintro ⟨a, p, hrun, hp⟩
    obtain ⟨w, hreturn, rfl⟩ := onWarehouse_eq_ok.mp hrun
    obtain ⟨hpos, wo, hget, htenant, hclosed, hcancelled, hbilled, inv, hinv, -, rfl⟩ :=
      returnPart_eq_ok.mp hreturn
    have hposted := hp
    simp only [Store.ok, Bool.and_eq_true] at hposted
    obtain ⟨hm, hunused⟩ := ok_of_post hposted.1.1
    have hmem := mem_of_get (part_eq_some hinv).1
    obtain ⟨hstock, htotal⟩ :=
      (returnOf_ok hpos (quantity_nonneg hshop hmem) (average_fits hshop hmem)).mp hm
    exact ⟨wo, inv, hpos, hget, htenant, hclosed, hcancelled, hbilled, hinv, hunused, hstock,
      htotal⟩
  · rintro ⟨wo, inv, h⟩
    have hmem := mem_of_get (part_eq_some h.found).1
    have hm : (returnOf now tenantId workOrderId wo inv (thousandths quantity) reason actorId).ok =
        true := (returnOf_ok h.positive (quantity_nonneg hshop hmem)
      (average_fits hshop hmem)).mpr ⟨h.stockFits, h.totalFits⟩
    refine ⟨_, _, onWarehouse_eq_ok.mpr ⟨_, returnPart_eq_ok.mpr ⟨h.positive, wo, h.order, h.tenant,
      h.notClosed, h.notCancelled, h.unbilled, inv, h.found, rfl, rfl⟩, rfl⟩, ?_⟩
    have hposted := ok_post hshop hm (average_fits hshop hmem) h.unused
    simp only [Store.ok, Bool.and_eq_true] at hok ⊢
    exact ⟨⟨hposted, hok.1.2⟩, hok.2⟩

/-- What comes back is one more movement in, and no less is recorded as used. -/
theorem returned_post (h : w.part tenantId inventoryId = some inv) :
    (w.post (returnOf now tenantId workOrderId wo inv (thousandths quantity) reason actorId)
      inv.averageUnitCost).returned tenantId workOrderId inventoryId =
      w.returned tenantId workOrderId inventoryId + thousandths quantity := by
  have hid : inv.id = inventoryId := (part_eq_some h).2
  show Table.sumWhere (w.movements.insert _) (w.isMove .inward tenantId workOrderId inventoryId)
    SparePartMovement.quantity = _
  rw [sumWhere_insert, if_pos]
  · rfl
  · simp [Warehouse.isMove, Warehouse.orderOf, returnOf, hid]

end Return

/-! ## Runs -/

/-- What every call keeps. -/
structure PartsSound (g : Garage) : Prop where
  ok : Store.ok g = true
  booked : UsageBooked g.shop

theorem PartsSound.moved_nonneg {g : Garage} (h : PartsSound g) (direction : Direction)
    (tenantId workOrderId inventoryId : UUID) :
    0 ≤ g.shop.movedFor direction tenantId workOrderId inventoryId := by
  have hok := h.ok
  simp only [Store.ok, Bool.and_eq_true] at hok
  refine sumWhere_nonneg fun m hm => ?_
  have hm := movement_ok hok.1.1 m hm
  simp only [SparePartMovement.ok, Bool.and_eq_true, decide_eq_true_eq] at hm
  omega

theorem PartsSound.balanced {g : Garage} (hs : PartsSound g) (h : Unreturned g.shop) :
    PartsBalanced g.shop where
  within tenantId workOrderId inventoryId := by
    rw [h.returned]
    exact hs.moved_nonneg .outward tenantId workOrderId inventoryId
  used tenantId workOrderId inventoryId := by
    rw [h.returned, hs.booked.used, sub_zero]

section Run

variable [Locale] [Rendering] {g g' g₀ : Garage} {c : PartsCall} {a : UUID} {cs : List PartsCall}

theorem PartsCall.booked (h : UsageBooked g.shop) (hrun : c.run g = .ok (a, g')) :
    UsageBooked g'.shop := by
  cases c with
  | stock c request =>
    obtain ⟨w, hw, rfl⟩ := onWarehouse_eq_ok.mp hrun
    have hbooked : UsageBooked g.warehouse := h.congr rfl rfl
    exact StockCall.booked request hbooked hw
  | invoice now tenantId workOrderId =>
    simp only [PartsCall.run, Garage.onDb, bind_eq_ok, pure, Except.pure, Except.ok.injEq,
      Prod.mk.injEq] at hrun
    obtain ⟨_, _, _, rfl⟩ := hrun
    exact h
  | other f hmovements hused =>
    cases hrun
    exact h.congr (hmovements g) (hused g)

theorem PartsCall.unreturned (hok : Store.ok g = true) (hnothing : returnsNothing g c)
    (h : Unreturned g.shop) (hrun : c.run g = .ok (a, g')) (hok' : Store.ok g' = true) :
    Unreturned g'.shop := by
  cases c with
  | stock c request =>
    obtain ⟨w, hw, rfl⟩ := onWarehouse_eq_ok.mp hrun
    have hunreturned : Unreturned g.warehouse := h.congr rfl
    refine StockCall.unreturned request (fun now tenantId workOrderId inventoryId quantity reason
      actorId hreturn => ?_) hunreturned hw
    subst hreturn
    obtain ⟨wo, inv, hreturnable⟩ := (returnable_iff hok).mp ⟨a, _, hrun, hok'⟩
    exact hnothing wo inv hreturnable
  | invoice now tenantId workOrderId =>
    simp only [PartsCall.run, Garage.onDb, bind_eq_ok, pure, Except.pure, Except.ok.injEq,
      Prod.mk.injEq] at hrun
    obtain ⟨_, _, _, rfl⟩ := hrun
    exact h
  | other f hmovements hused =>
    cases hrun
    exact h.congr (hmovements g)

theorem Garage.handle_sound (h : PartsSound g) (c : PartsCall) : PartsSound (g.handle c) := by
  rcases perform_cases c.run g with hsame | ⟨a, hrun, hok⟩
  · rw [Garage.handle, hsame]
    exact h
  · exact ⟨hok, c.booked h.booked hrun⟩

theorem Garage.handle_unreturned (hs : PartsSound g) (hnothing : returnsNothing g c)
    (h : Unreturned g.shop) : Unreturned (g.handle c).shop := by
  rcases perform_cases c.run g with hsame | ⟨a, hrun, hok⟩
  · rw [Garage.handle, hsame]
    exact h
  · exact c.unreturned hs.ok hnothing h hrun hok

/-- A return that is taken is not in what is recorded as used. -/
theorem unbalanced_of_returned {now : Instant} {tenantId workOrderId inventoryId : UUID}
    {quantity : ℚ} {reason : String} {actorId : Option UUID} {request} {wo : WorkOrder}
    {inv : SparePart} (hs : PartsSound g)
    (h : Returnable now tenantId workOrderId inventoryId quantity g.warehouse wo inv) :
    ¬ PartsBalanced (g.handle (.stock (.returnPart now tenantId workOrderId inventoryId quantity
      reason actorId) request)).shop := by
  intro hbalanced
  have haccepted : PartsCall.Accepted g (.stock (.returnPart now tenantId workOrderId inventoryId
      quantity reason actorId) request) := (returnable_iff hs.ok).mpr ⟨wo, inv, h⟩
  obtain ⟨a, p, hrun, hok⟩ := haccepted
  have hbooked : UsageBooked p.shop := PartsCall.booked hs.booked hrun
  rw [Garage.handle, perform_of_ok hrun hok] at hbalanced
  obtain ⟨w, hreturn, rfl⟩ := onWarehouse_eq_ok.mp hrun
  obtain ⟨-, wo', -, -, -, -, -, inv', hinv', -, rfl⟩ := returnPart_eq_ok.mp hreturn
  have hsame : inv' = inv := Option.some.inj (hinv'.symm.trans h.found)
  have hreturned : (g.warehouse.post (returnOf now tenantId workOrderId wo' inv'
      (thousandths quantity) reason actorId) inv'.averageUnitCost).returned tenantId workOrderId
      inventoryId = g.warehouse.returned tenantId workOrderId inventoryId + thousandths quantity :=
    returned_post hinv'
  have hused := hbalanced.used tenantId workOrderId inventoryId
  have hbook := hbooked.used tenantId workOrderId inventoryId
  have hbefore : 0 ≤ g.warehouse.returned tenantId workOrderId inventoryId :=
    hs.moved_nonneg .inward tenantId workOrderId inventoryId
  have hpos := h.positive
  simp only [Garage.put] at hused hbook
  omega

/-- From any workshop whose usage is booked and to which nothing came back, the law holds of exactly
the runs in which no return is taken. -/
theorem returns_lawful_iff (hok : Store.ok g₀ = true) (hbooked : UsageBooked g₀.shop)
    (hunreturned : Unreturned g₀.shop) :
    ReturnsLawful g₀ cs ↔ Run.Along Garage.handle returnsNothing g₀ cs := by
  have hsound : ∀ as, PartsSound (Run.exec Garage.handle g₀ as) := fun as =>
    Run.exec_inv_all (I := PartsSound) (fun _ c hg => Garage.handle_sound hg c) ⟨hok, hbooked⟩
  constructor
  · intro h
    refine Run.along_iff_splits.mpr fun before c after hsplit => ?_
    cases c with
    | stock c request =>
      cases c with
      | returnPart now tenantId workOrderId inventoryId quantity reason actorId =>
        intro wo inv hreturnable
        have hbalanced := h.balanced (before ++ [.stock (.returnPart now tenantId workOrderId
          inventoryId quantity reason actorId) request]) after (by simp [hsplit])
        rw [Run.exec_append] at hbalanced
        exact unbalanced_of_returned (hsound before) hreturnable hbalanced
      | _ => trivial
    | _ => trivial
  · intro h
    have hnone : ∀ before after, cs = before ++ after →
        Unreturned (Run.exec Garage.handle g₀ before).shop := by
      rintro before after rfl
      have hkept : PartsSound (Run.exec Garage.handle g₀ before) ∧
          Unreturned (Run.exec Garage.handle g₀ before).shop :=
        Run.exec_inv (I := fun g : Garage => PartsSound g ∧ Unreturned g.shop)
          (fun _ c hg hc => ⟨Garage.handle_sound hg.1 c, Garage.handle_unreturned hg.1 hc hg.2⟩)
          ⟨⟨hok, hbooked⟩, hunreturned⟩ (Run.along_append.mp h).1
      exact hkept.2
    refine ⟨fun before after hsplit => (hsound before).balanced (hnone before after hsplit),
      Run.along_iff_splits.mpr fun before c after hsplit => ?_⟩
    have hc := Run.along_iff_splits.mp h before c after hsplit
    cases c with
    | stock c request =>
      cases c with
      | returnPart now tenantId workOrderId inventoryId quantity reason actorId =>
        intro haccepted
        obtain ⟨wo, inv, hreturnable⟩ := (returnable_iff (hsound before).ok).mp haccepted
        exact absurd hreturnable (hc wo inv)
      | _ => trivial
    | _ => trivial

end Run

/-! ## Parts that come back -/

/-- Five discs in stock, two of them reserved for an order whose work is checked. -/
def checkedGarage : Garage where
  shop := {
    spareParts := .single { id := 1, tenantId := 1, name := "Disco", currentQuantity := 5000
                            averageUnitCost := 10000 }
    workOrders := .single { id := 1, tenantId := 1, vehicleId := some 1, workOrderNumber := "OS-1"
                            status := .qualityCheck }
    reservations := .single { id := 1, tenantId := 1, inventoryId := 1, workOrderId := some 1
                              quantityReserved := 2000 } }
  db := { vehicles := .single { id := 1, tenantId := 1, plate := "LD-00" } }

def discsOut : PartsCall := .stock (.issueParts 20 1 1 1 2 none none) rfl

def discBack : PartsCall := .stock (.returnPart 30 1 1 1 1 "a mais" none) rfl

def checkedAfter (cs : List PartsCall) : Garage :=
  Run.exec (@Garage.handle .ascii .decimal) checkedGarage cs

theorem returns_unlawful :
    -- what came back is still recorded as used
    ¬ @ReturnsLawful .ascii .decimal checkedGarage [discsOut, discBack] ∧
      -- a disc comes back that never went out
      ¬ (∀ tenantId workOrderId inventoryId,
        (checkedAfter [discBack]).shop.returned tenantId workOrderId inventoryId ≤
          (checkedAfter [discBack]).shop.issued tenantId workOrderId inventoryId) ∧
      -- a disc comes back that a draft bills
      ¬ Run.Along (@Garage.handle .ascii .decimal) (@returnsUnbilled .ascii .decimal) checkedGarage
        [discsOut, .invoice 25 1 1, discBack] := by
  refine ⟨fun h => ?_, fun h => ?_, fun h => ?_⟩
  · have hbalanced : PartsBalanced (checkedAfter [discsOut, discBack]).shop :=
      @ReturnsLawful.balanced .ascii .decimal _ _ h [discsOut, discBack] [] rfl
    have hused := hbalanced.used 1 1 1
    revert hused
    decide +kernel
  · have hwithin := h 1 1 1
    revert hwithin
    decide +kernel
  · have hunbilled := Run.along_iff_splits.mp h [discsOut, .invoice 25 1 1] discBack [] rfl
    have haccepted : @PartsCall.Accepted .ascii .decimal
        (checkedAfter [discsOut, .invoice 25 1 1]) discBack := by
      rcases perform_cases (@PartsCall.run .ascii .decimal discBack)
        (checkedAfter [discsOut, .invoice 25 1 1]) with hsame | ⟨a, hrun, hok⟩
      · have hmoves := congrArg (fun g : Garage => g.shop.movements.rows.length) hsame
        exact absurd hmoves (by decide +kernel)
      · exact ⟨a, _, hrun, hok⟩
    have hbilled := hunbilled haccepted
    revert hbilled
    decide +kernel

theorem returns_lawful_out :
    @ReturnsLawful .ascii .decimal checkedGarage [discsOut, .invoice 25 1 1] ↔
      Run.Along (@Garage.handle .ascii .decimal) (@returnsNothing .decimal) checkedGarage
        [discsOut, .invoice 25 1 1] :=
  @returns_lawful_iff .ascii .decimal checkedGarage [discsOut, .invoice 25 1 1] (by decide +kernel)
    (.initial rfl rfl) fun _ hm => absurd hm List.not_mem_nil

end Rotas
