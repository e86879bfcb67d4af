import Rotas.Workshop.OrderSteps

/-!
# Rotas.Workshop.UsedParts

What went out to a work order and what came back, by the movements, beside what is recorded as used.

* `Warehouse.issued`, `Warehouse.returned` — the movements of an order, out and in.
* `Warehouse.used` — the quantity that its invoice will read.
* `UsageBooked`    — what is recorded as used is what was issued; returns are not in it.
* `StockCall.booked` — every request that moves stock keeps it, save for `record` by itself.
-/

namespace Rotas

open Table Decimal

/-! ## Movements of an order -/

/-- The order that a movement is of; an issue of `service.py` names its usage. -/
def Warehouse.orderOf (w : Warehouse) (m : SparePartMovement) : Option UUID :=
  if m.sourceType = "work_order" then m.sourceId
  else if m.sourceType = "maintenance_part_used" then
    (m.sourceId.bind w.partsUsed.get).map MaintenancePartUsed.workOrderId
  else none

def Warehouse.isMove (w : Warehouse) (direction : Direction)
    (tenantId workOrderId inventoryId : UUID) (m : SparePartMovement) : Bool :=
  m.direction = direction && m.tenantId = tenantId && m.inventoryId = inventoryId &&
    w.orderOf m = some workOrderId

/-- What was moved of a part for an order, in one direction. -/
def Warehouse.movedFor (w : Warehouse) (direction : Direction)
    (tenantId workOrderId inventoryId : UUID) : Int :=
  w.movements.sumWhere (w.isMove direction tenantId workOrderId inventoryId)
    SparePartMovement.quantity

def Warehouse.issued (w : Warehouse) : UUID → UUID → UUID → Int := w.movedFor .outward

def Warehouse.returned (w : Warehouse) : UUID → UUID → UUID → Int := w.movedFor .inward

def MaintenancePartUsed.isOf (tenantId workOrderId inventoryId : UUID) (u : MaintenancePartUsed) :
    Bool :=
  u.tenantId = tenantId && u.workOrderId = workOrderId && u.inventoryId = inventoryId

/-- What is recorded as used of a part. -/
def Warehouse.used (w : Warehouse) (tenantId workOrderId inventoryId : UUID) : Int :=
  w.partsUsed.sumWhere (MaintenancePartUsed.isOf tenantId workOrderId inventoryId)
    MaintenancePartUsed.quantity

structure UsageBooked (w : Warehouse) : Prop where
  used : ∀ tenantId workOrderId inventoryId,
    w.used tenantId workOrderId inventoryId = w.issued tenantId workOrderId inventoryId
  sources : ∀ m ∈ w.movements, m.sourceType = "maintenance_part_used" →
    ∀ id, m.sourceId = some id → (w.partsUsed.get id).isSome
  references : ∀ m ∈ w.movements, m.movementType = .workOrderIssue →
    ∃ u ∈ w.partsUsed, u.tenantId = m.tenantId ∧ u.requestReference = m.requestReference

section Booked

variable {w w' : Warehouse} {m : SparePartMovement} {u : MaintenancePartUsed}

theorem UsageBooked.initial (hmovements : w.movements = ∅) (hused : w.partsUsed = ∅) :
    UsageBooked w where
  used tenantId workOrderId inventoryId := by
    rw [Warehouse.used, Warehouse.issued, Warehouse.movedFor, hmovements, hused]
    rfl
  sources _ hm := absurd (hmovements ▸ hm) List.not_mem_nil
  references _ hm := absurd (hmovements ▸ hm) List.not_mem_nil

theorem UsageBooked.congr (h : UsageBooked w) (hmovements : w'.movements = w.movements)
    (hused : w'.partsUsed = w.partsUsed) : UsageBooked w' := by
  have horder : w'.orderOf = w.orderOf := by
    funext m
    rw [Warehouse.orderOf, Warehouse.orderOf, hused]
  refine ⟨fun tenantId workOrderId inventoryId => ?_, ?_, ?_⟩
  · have hmove : w'.isMove = w.isMove := by
      funext direction tenantId workOrderId inventoryId m
      rw [Warehouse.isMove, horder]
      rfl
    rw [Warehouse.used, Warehouse.issued, Warehouse.movedFor, hmovements, hused, hmove]
    exact h.used tenantId workOrderId inventoryId
  · rw [hmovements, hused]
    exact h.sources
  · rw [hmovements, hused]
    exact h.references

theorem UsageBooked.post {average : Int} (h : UsageBooked w)
    (hissue : m.direction = .inward ∨ m.sourceType ≠ "work_order")
    (hsource : m.sourceType ≠ "maintenance_part_used") (htype : m.movementType ≠ .workOrderIssue) :
    UsageBooked (w.post m average) := by
  refine ⟨fun tenantId workOrderId inventoryId => ?_, fun m' hm' => ?_, fun m' hm' => ?_⟩
  · have hnew : w.isMove .outward tenantId workOrderId inventoryId
        { m with id := w.movements.freshKey } = false := by
      rcases hissue with hinward | hother
      · simp [Warehouse.isMove, hinward]
      · simp [Warehouse.isMove, Warehouse.orderOf, hother, hsource]
    show w.used tenantId workOrderId inventoryId = Table.sumWhere (w.movements.insert _)
      (w.isMove .outward tenantId workOrderId inventoryId) SparePartMovement.quantity
    rw [sumWhere_insert, hnew, if_neg Bool.false_ne_true, Int.add_zero]
    exact h.used tenantId workOrderId inventoryId
  · rcases (mem_insert _ _ _).mp hm' with hm' | rfl
    · exact h.sources m' hm'
    · exact fun hused => absurd hused hsource
  · rcases (mem_insert _ _ _).mp hm' with hm' | rfl
    · exact h.references m' hm'
    · exact fun hissue => absurd hissue htype

theorem orderOf_append (h : UsageBooked w) (hused : w'.partsUsed.rows = w.partsUsed.rows ++ [u])
    {m : SparePartMovement} (hm : m ∈ w.movements) : w'.orderOf m = w.orderOf m := by
  unfold Warehouse.orderOf
  split
  · rfl
  · split
    · next hsource =>
      cases hid : m.sourceId with
      | none => rfl
      | some id =>
        obtain ⟨u₀, hu₀⟩ := Option.isSome_iff_exists.mp (h.sources m hm hsource id hid)
        have hu₀' : w'.partsUsed.get id = some u₀ := by
          rw [get_eq_some_iff] at hu₀ ⊢
          exact ⟨by rw [mem_def, hused]; exact List.mem_append_left _ hu₀.1, hu₀.2⟩
        rw [Option.bind_some, Option.bind_some, hu₀, hu₀']
    · rfl

theorem UsageBooked.issue (h : UsageBooked w)
    (hmovements : w'.movements.rows = w.movements.rows ++ [m])
    (hused : w'.partsUsed.rows = w.partsUsed.rows ++ [u]) (hout : m.direction = .outward)
    (htenant : m.tenantId = u.tenantId) (hpart : m.inventoryId = u.inventoryId)
    (hquantity : m.quantity = u.quantity) (horder : w'.orderOf m = some u.workOrderId)
    (hsource : m.sourceType = "maintenance_part_used" → m.sourceId = some u.id)
    (href : m.requestReference = u.requestReference) : UsageBooked w' := by
  have hu : u ∈ w'.partsUsed := by
    rw [mem_def, hused]
    exact List.mem_append_right _ List.mem_cons_self
  have hkept : ∀ u₀ ∈ w.partsUsed, u₀ ∈ w'.partsUsed := by
    intro u₀ hu₀
    rw [mem_def, hused]
    exact List.mem_append_left _ hu₀
  refine ⟨fun tenantId workOrderId inventoryId => ?_, fun m' hm' => ?_, fun m' hm' => ?_⟩
  · have hbooks := h.used tenantId workOrderId inventoryId
    have hold : w.movements.sumWhere (w'.isMove .outward tenantId workOrderId inventoryId)
        SparePartMovement.quantity = w.issued tenantId workOrderId inventoryId :=
      sumWhere_congr fun m hm => by rw [Warehouse.isMove, orderOf_append h hused hm]; rfl
    have hsame : w'.isMove .outward tenantId workOrderId inventoryId m =
        u.isOf tenantId workOrderId inventoryId := by
      rw [Warehouse.isMove, htenant, hpart, hout, horder, MaintenancePartUsed.isOf]
      simp only [decide_true, Bool.true_and, Option.some.injEq]
      exact Bool.and_right_comm _ _ _
    rw [Warehouse.used, Warehouse.issued, Warehouse.movedFor, sumWhere_append hmovements, hold,
      sumWhere_append hused, hsame, hquantity]
    exact congrArg (· + _) hbooks
  · rw [mem_def, hmovements, List.mem_append, List.mem_singleton] at hm'
    rcases hm' with hm' | rfl
    · intro hsource' id hid
      obtain ⟨u₀, hu₀⟩ := Option.isSome_iff_exists.mp (h.sources m' hm' hsource' id hid)
      have hget : w'.partsUsed.get id = some u₀ :=
        get_eq_some_iff.mpr ⟨hkept u₀ (mem_of_get hu₀), key_of_get hu₀⟩
      rw [hget]
      rfl
    · intro hsource' id hid
      rw [hsource hsource', Option.some.injEq] at hid
      rw [← hid, show w'.partsUsed.get u.id = some u from get_of_mem hu]
      rfl
  · rw [mem_def, hmovements, List.mem_append, List.mem_singleton] at hm'
    rcases hm' with hm' | rfl
    · intro hissue
      obtain ⟨u₀, hu₀, hsame⟩ := h.references m' hm' hissue
      exact ⟨u₀, hkept u₀ hu₀, hsame⟩
    · exact fun _ => ⟨u, hu, htenant.symm, href.symm⟩

end Booked

/-! ## Requests -/

/-- `record` by itself is no request. -/
def StockCall.isRequest : StockCall → Bool
  | .record .. => false
  | _ => true

section Requests

variable {w w' : Warehouse} {tenantId workOrderId inventoryId a : UUID} {now : Instant}
  {actorId : Option UUID}

theorem UsageBooked.record {r : MovementRequest} {m : SparePartMovement} (h : UsageBooked w)
    (hissue : r.direction = .inward ∨ r.sourceType ≠ "work_order")
    (hsource : r.sourceType ≠ "maintenance_part_used") (htype : r.movementType ≠ .workOrderIssue)
    (hrec : Rotas.record tenantId r w = .ok (m, w')) : UsageBooked w' := by
  rcases record_cases hrec with rfl | ⟨part, _, _, rfl⟩
  · exact h
  · exact h.post hissue hsource htype

/-- No movement answers to the reference of an issue that is not recorded as used. -/
theorem record_issue {payload : MaintenancePartIssueCreate} {id : UUID} {m : SparePartMovement}
    (h : UsageBooked w) (hfree : findPartUsed tenantId payload.requestReference w = none)
    {used : Table MaintenancePartUsed}
    (hrec : Rotas.record tenantId (issueRequest payload actorId id) { w with partsUsed := used } =
      .ok (m, w')) :
    ∃ part, part.id = payload.inventoryId ∧ w' = { w with partsUsed := used }.post
      (movementOf tenantId (issueRequest payload actorId id) part (quantize 2 payload.quantity)
        (newBalance .outward (decimalStock part.currentQuantity) (quantize 2 payload.quantity)))
      (averageAfter (issueRequest payload actorId id) part (decimalStock part.currentQuantity)
        (quantize 2 payload.quantity)) := by
  simp only [Rotas.record, bind_eq_ok] at hrec
  obtain ⟨_, _, hrec⟩ := hrec
  split at hrec
  · next existing hfind =>
    simp only [bind_eq_ok, validateSparePartReplay, raiseIf_eq_ok] at hrec
    obtain ⟨_, hsame, _⟩ := hrec
    simp only [Bool.or_eq_false_iff, decide_eq_false_iff_not, not_not] at hsame
    have hkey := List.find?_some hfind
    simp only [Bool.and_eq_true, decide_eq_true_eq] at hkey
    obtain ⟨u, hu, htenant, href⟩ :=
      h.references existing (List.mem_of_find?_eq_some hfind) hsame.1.1.1.2
    have hnone := List.find?_eq_none.mp hfree u hu
    rw [htenant, href, hkey.1, hkey.2] at hnone
    simp [issueRequest] at hnone
  · simp only [bind_eq_ok, pure, Except.pure, Except.ok.injEq, Prod.mk.injEq] at hrec
    obtain ⟨part, hpart, _, _, _, rfl⟩ := hrec
    exact ⟨part, (requireActivePart_eq_ok hpart).2, rfl⟩

theorem UsageBooked.issueSparePart {payload : MaintenancePartIssueCreate} (h : UsageBooked w)
    (hissue : issueSparePartToWorkOrder now tenantId workOrderId payload actorId w = .ok (a, w')) :
    UsageBooked w' := by
  unfold issueSparePartToWorkOrder at hissue
  split at hissue
  · simp only [bind_eq_ok, pure, Except.pure, Except.ok.injEq, Prod.mk.injEq] at hissue
    obtain ⟨_, _, _, rfl⟩ := hissue
    exact h
  · next hfree =>
    simp only [bind_eq_ok, pure, Except.pure, Except.ok.injEq, Prod.mk.injEq] at hissue
    obtain ⟨_, _, _, _, ⟨m, q⟩, hrec, _, rfl⟩ := hissue
    obtain ⟨part, hpart, rfl⟩ := record_issue h hfree hrec
    have hrows := rows_insert_modify (t := w.partsUsed) (usageOf now tenantId workOrderId payload actorId)
      (fun _ => rfl) (g := fun u => { u with
        movementId := some m.id, unitCost := m.unitCost, totalCost := m.totalCost }) fun _ => rfl
    refine h.issue rfl hrows rfl rfl hpart rfl ?_ (fun _ => rfl) rfl
    have hget := get_of_mem (t := (w.partsUsed.insert (usageOf now tenantId workOrderId payload actorId)
        fun _ => rfl).modify w.partsUsed.freshKey (fun u => { u with
          movementId := some m.id, unitCost := m.unitCost, totalCost := m.totalCost }) fun _ => rfl)
      (by rw [mem_def, hrows]; exact List.mem_append_right _ List.mem_cons_self)
    rw [Warehouse.orderOf, if_neg (by simp [movementOf, issueRequest]), if_pos (by rfl)]
    exact congrArg (Option.map MaintenancePartUsed.workOrderId) hget

theorem UsageBooked.issueParts [Rendering] {q : ℚ} {notes : Option String} (h : UsageBooked w)
    (hissue : issuePartsForWorkOrder now tenantId workOrderId inventoryId q actorId notes w =
      .ok (a, w')) : UsageBooked w' := by
  simp only [issuePartsForWorkOrder, bind_eq_ok, pure, Except.pure, Except.ok.injEq,
    Prod.mk.injEq] at hissue
  obtain ⟨⟨wo, inv⟩, hchecks, _, rfl⟩ := hissue
  simp only [issuePartChecks, bind_eq_ok, pure, Except.pure, Except.ok.injEq,
    Prod.mk.injEq] at hchecks
  obtain ⟨_, _, wo, hwo, inv, hinv, _, _, _, _, rfl, rfl⟩ := hchecks
  obtain ⟨_, hid, _, _⟩ := requireOpenOrder_eq_ok hwo
  obtain ⟨_, hpart⟩ := requirePart_eq_ok hinv
  obtain ⟨reservations, heq, _⟩ := @consume_grows tenantId workOrderId inventoryId
    (w.reservationsOf tenantId workOrderId inventoryId) (thousandths q) w
  rw [heq]
  refine h.issue rfl rfl rfl rfl hpart rfl ?_ (fun hsource => ?_) rfl
  · rw [Warehouse.orderOf, if_pos (by rfl)]
    exact congrArg some hid
  · simp [issueMovement] at hsource

theorem UsageBooked.returnPart [Rendering] {q : ℚ} {reason : String} (h : UsageBooked w)
    (hreturn : returnPartFromWorkOrder now tenantId workOrderId inventoryId q reason actorId w =
      .ok (a, w')) : UsageBooked w' := by
  simp only [returnPartFromWorkOrder, bind_eq_ok, pure, Except.pure, Except.ok.injEq,
    Prod.mk.injEq] at hreturn
  obtain ⟨_, _, _, _, _, _, _, _, _, rfl⟩ := hreturn
  exact h.post (.inl rfl) (by simp) (by simp)

theorem UsageBooked.receiveItem {po : WorkshopPurchaseOrder} {item : WorkshopPurchaseOrderItem}
    (h : UsageBooked w) : UsageBooked (Rotas.receiveItem now tenantId po actorId item w) := by
  unfold Rotas.receiveItem
  dsimp only
  split
  · exact h
  · split
    · exact h
    · have hordered : UsageBooked { w with
          purchaseOrderItems := w.purchaseOrderItems.modify item.id fun i => { i with
            quantityReceived := i.quantityOrdered } } := h.congr rfl rfl
      exact hordered.post (.inl rfl) (by simp) (by simp)

theorem StockCall.booked [Rendering] {c : StockCall} (hrequest : c.isRequest = true)
    (h : UsageBooked w) (hrun : c.run w = .ok (a, w')) : UsageBooked w' := by
  cases c with
  | record tenantId r => cases hrequest
  | receive tenantId payload actorId =>
    simp only [StockCall.run, receiveSparePart, bind_eq_ok, pure, Except.pure, Except.ok.injEq,
      Prod.mk.injEq] at hrun
    obtain ⟨⟨m, q⟩, hrec, _, rfl⟩ := hrun
    exact h.record (.inl rfl) (by simp) (by simp) hrec
  | issueToWorkOrder now tenantId workOrderId payload actorId => exact h.issueSparePart hrun
  | receipt tenantId payload actorId =>
    simp only [StockCall.run, recordSparePartReceipt, bind_eq_ok, pure, Except.pure, Except.ok.injEq,
      Prod.mk.injEq] at hrun
    obtain ⟨_, _, _, rfl⟩ := hrun
    exact h.post (.inl rfl) (by simp) (by simp)
  | installSerial now tenantId serialId vehicleId =>
    simp only [StockCall.run, installSerialItem, bind_eq_ok, pure, Except.pure, Except.ok.injEq,
      Prod.mk.injEq] at hrun
    obtain ⟨_, _, _, _, part, _, _, rfl⟩ := hrun
    have hinstalled : UsageBooked { w with
        serialItems := w.serialItems.modify serialId fun i => { i with
          status := .installed, vehicleId := some vehicleId, installedAt := some now } } :=
      h.congr rfl rfl
    exact hinstalled.post (.inr (by simp)) (by simp) (by simp)
  | issueParts now tenantId workOrderId inventoryId quantity actorId notes => exact h.issueParts hrun
  | returnPart now tenantId workOrderId inventoryId quantity reason actorId => exact h.returnPart hrun
  | adjustment now tenantId inventoryId quantity direction reason actorId =>
    simp only [StockCall.run, recordInventoryAdjustment, bind_eq_ok, pure, Except.pure,
      Except.ok.injEq, Prod.mk.injEq] at hrun
    obtain ⟨_, _, _, _, _, _, _, _, _, rfl⟩ := hrun
    exact h.post (.inr (by simp)) (by simp) (by simp)
  | receiveOrder now tenantId purchaseOrderId supplierInvoiceNumber actorId =>
    obtain ⟨q, orders, hq, rfl⟩ :=
      receivePurchaseOrder_ind h (fun _ _ _ hq => hq.receiveItem) hrun
    exact hq.congr rfl rfl

end Requests

end Rotas
