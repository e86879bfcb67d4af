import Rotas.Workshop.Movements
import Rotas.Workshop.Inventory

/-!
# Rotas.Workshop.Postings

What the requests that write stock do to it, in terms of the movements they post.

* `StockPosting`   — one movement: the stock it goes from, and the average it leaves.
* `StockPosted`    — postings of one direction, one after the other.
* `StockCall` — the requests, and `unrounded`, that none goes through `record` while its part has
  thousandths in stock.
* `StockCall.posted` — every request that succeeds posts movements of one direction.
-/

namespace Rotas

open Work Decimal

def SparePartMovement.signed (m : SparePartMovement) : Int :=
  match m.direction with
  | .inward => m.quantity
  | .outward => -m.quantity

/-- A movement of known cost comes in, and is weighed with the stock. -/
structure Averaged (m : SparePartMovement) (average : Int) (part : SparePart) (stock : Int) :
    Prop where
  inward : m.direction = .inward
  weighed : ∃ cost round, m.unitCost = some cost ∧ Rounds 2 round ∧
    average = round (wacc stock part.averageUnitCost m.quantity cost)

/-- The movement is of a part that is there. It starts from the stock of the part, which may have
been rounded unless `E` rules it out. -/
structure StockPosting (E : Prop) (m : SparePartMovement) (average : Int) (db : Warehouse)
    (part : SparePart) (stock : Int) : Prop where
  found : db.spareParts.get m.inventoryId = some part
  balance : m.balanceAfterQuantity = stock + m.signed
  exact : E → stock = part.currentQuantity
  nonneg : 0 ≤ part.currentQuantity → 0 ≤ stock
  average : average = part.averageUnitCost ∨ Averaged m average part stock

/-- Parts and movements change by postings of one direction only. -/
inductive StockPosted (d : Direction) (E : Prop) (db : Warehouse) : Warehouse → Prop
  | same {p : Warehouse} (hparts : p.spareParts = db.spareParts)
      (hmovements : p.movements = db.movements) : StockPosted d E db p
  | post {q p : Warehouse} {m : SparePartMovement} {average stock : Int} {part : SparePart}
      (h : StockPosted d E db q) (hdirection : m.direction = d)
      (hposting : StockPosting E m average q part stock)
      (hparts : p.spareParts = (q.post m average).spareParts)
      (hmovements : p.movements = (q.post m average).movements) : StockPosted d E db p

/-! ## What the database accepts -/

section

variable {db : Warehouse} {m : SparePartMovement} {average : Int}

theorem mem_parts_post {part : SparePart} (h : part ∈ (db.post m average).spareParts) :
    (∃ old ∈ db.spareParts, old.id = m.inventoryId ∧ part =
        { old with currentQuantity := m.balanceAfterQuantity, averageUnitCost := average }) ∨
      part ∈ db.spareParts ∧ part.id ≠ m.inventoryId := by
  simp only [Warehouse.post] at h
  rcases Table.mem_modify_cases h with ⟨old, hold, hid, rfl⟩ | ⟨hpart, hne⟩
  · exact .inl ⟨old, hold, hid, rfl⟩
  · exact .inr ⟨hpart, hne⟩

theorem average_fits (hok : db.ok = true) {part : SparePart} (h : part ∈ db.spareParts) :
    fitsDigits part.averageUnitCost = true := by
  simp only [Warehouse.ok, Bool.and_eq_true, List.all_eq_true] at hok
  have hpart := hok.1.1.1.1 part h
  simp only [SparePart.ok, Bool.and_eq_true] at hpart
  exact hpart.2

theorem movement_ok (hok : db.ok = true) : ∀ m ∈ db.movements, m.ok = true := by
  simp only [Warehouse.ok, Bool.and_eq_true, List.all_eq_true] at hok
  exact hok.1.1.1.2

theorem references_nodup (hok : db.ok = true) :
    (db.movements.rows.map fun m : SparePartMovement =>
      (m.tenantId, m.requestReference)).Nodup := by
  simp only [Warehouse.ok, Bool.and_eq_true, decide_eq_true_eq] at hok
  exact hok.1.2

/-- A movement under a new reference, that fits its columns as the average does. -/
theorem ok_post (hok : db.ok = true) (hm : m.ok = true) (haverage : fitsDigits average = true)
    (hunused : ∀ m' ∈ db.movements, m'.tenantId = m.tenantId →
      m'.requestReference ≠ m.requestReference) : (db.post m average).ok = true := by
  have hrefs := references_nodup hok
  have hmovements := movement_ok hok
  simp only [Warehouse.ok, Bool.and_eq_true, decide_eq_true_eq, List.all_eq_true] at hok ⊢
  obtain ⟨⟨⟨⟨hparts, -⟩, hreservations⟩, -⟩, hused⟩ := hok
  refine ⟨⟨⟨⟨fun part hpart => ?_, fun m' hm' => ?_⟩, hreservations⟩, ?_⟩, hused⟩
  · rcases mem_parts_post hpart with ⟨old, -, -, rfl⟩ | ⟨hpart, -⟩
    · simp only [SparePartMovement.ok, Bool.and_eq_true] at hm
      simp only [SparePart.ok, Bool.and_eq_true]
      exact ⟨⟨hm.1.1.1.1.2, hm.1.1.2⟩, haverage⟩
    · exact hparts part hpart
  · rcases (Table.mem_insert _ _ _).mp hm' with hold | rfl
    · exact hmovements m' hold
    · exact hm
  · rw [Warehouse.post, Table.rows_insert, List.map_append, List.nodup_append]
    refine ⟨hrefs, List.nodup_singleton _, fun a ha b hb hab => ?_⟩
    obtain ⟨m', hm', rfl⟩ := List.mem_map.mp ha
    rw [List.map_singleton, List.mem_singleton] at hb
    obtain ⟨htenant, hreference⟩ := Prod.mk.inj (hab.trans hb)
    exact hunused m' hm' htenant hreference

theorem ok_of_post (hok : (db.post m average).ok = true) : m.ok = true ∧
    ∀ m' ∈ db.movements, m'.tenantId = m.tenantId → m'.requestReference ≠ m.requestReference := by
  have hposted : { m with id := db.movements.freshKey } ∈ (db.post m average).movements :=
    (Table.mem_insert _ _ _).mpr (.inr rfl)
  refine ⟨(movement_ok hok _ hposted :), ?_⟩
  intro m' hm' htenant hreference
  have hrefs := references_nodup hok
  rw [Warehouse.post, Table.rows_insert, List.map_append, List.nodup_append] at hrefs
  refine hrefs.2.2 _ (List.mem_map_of_mem hm') _ (List.mem_singleton_self _) ?_
  rw [htenant, hreference]

end

section

variable {d : Direction} {E : Prop} {db q p : Warehouse}

theorem StockPosted.refl : StockPosted d E db db := .same rfl rfl

theorem StockPosted.congr (h : StockPosted d E db q) (hparts : p.spareParts = q.spareParts)
    (hmovements : p.movements = q.movements) : StockPosted d E db p := by
  cases h with
  | same hparts' hmovements' => exact .same (hparts.trans hparts') (hmovements.trans hmovements')
  | post h hdirection hposting hparts' hmovements' =>
    exact .post h hdirection hposting (hparts.trans hparts') (hmovements.trans hmovements')

theorem StockPosted.ofStart {db' : Warehouse} (h : StockPosted d E db' p)
    (hparts : db'.spareParts = db.spareParts) (hmovements : db'.movements = db.movements) :
    StockPosted d E db p := by
  induction h with
  | same hparts' hmovements' => exact .same (hparts'.trans hparts) (hmovements'.trans hmovements)
  | post _ hdirection hposting hparts' hmovements' ih =>
    exact .post ih hdirection hposting hparts' hmovements'

theorem StockPosting.ofStock {m : SparePartMovement} {average : Int} {part : SparePart}
    (hpart : db.spareParts.get m.inventoryId = some part)
    (hbalance : m.balanceAfterQuantity = part.currentQuantity + m.signed)
    (haverage : average = part.averageUnitCost ∨ Averaged m average part part.currentQuantity) :
    StockPosting E m average db part part.currentQuantity :=
  ⟨hpart, hbalance, fun _ => rfl, fun h => h, haverage⟩

theorem StockPosted.ofStock {m : SparePartMovement} {average : Int} {part : SparePart}
    (hparts : q.spareParts = db.spareParts) (hmovements : q.movements = db.movements)
    (hpart : q.spareParts.get m.inventoryId = some part) (hdirection : m.direction = d)
    (hbalance : m.balanceAfterQuantity = part.currentQuantity + m.signed)
    (haverage : average = part.averageUnitCost ∨ Averaged m average part part.currentQuantity) :
    StockPosted d E db (q.post m average) :=
  .post (.same hparts hmovements) hdirection (.ofStock hpart hbalance haverage) rfl rfl

/-! ## What the requests post -/

variable {tenantId inventoryId a : UUID} {part : SparePart}

/-- What `record` would move under a reference, if anything, has no thousandths in stock. -/
def wholeStock (tenantId inventoryId : UUID) (requestReference : String) (db : Warehouse) : Bool :=
  (findSparePartMovement tenantId requestReference db).isSome ||
    ((db.part tenantId inventoryId).filter (·.status = .active)).all (·.currentQuantity % 10 = 0)

theorem dvd_of_wholeStock {requestReference : String}
    (hwhole : wholeStock tenantId inventoryId requestReference db = true)
    (hfind : findSparePartMovement tenantId requestReference db = none)
    (hpart : requireActivePart tenantId inventoryId db = .ok part) :
    part.currentQuantity % 10 = 0 := by
  simp only [requireActivePart, require_eq_ok] at hpart
  simpa [wholeStock, hfind, hpart] using hwhole

theorem decimalStock_nonneg {n : Int} (h : 0 ≤ n) : 0 ≤ decimalStock n :=
  (rounds_quantize 2).le_of_le (by rw [Int.cast_zero, zero_div]; positivity)

theorem posting_record {r : MovementRequest} {amount : Int}
    (hpart : requireActivePart tenantId r.inventoryId db = .ok part)
    (hE : E → part.currentQuantity % 10 = 0) :
    StockPosting E (movementOf tenantId r part amount
        (newBalance r.direction (decimalStock part.currentQuantity) amount))
      (averageAfter r part (decimalStock part.currentQuantity) amount) db part
      (10 * decimalStock part.currentQuantity) where
  found := by
    obtain ⟨hget, hid⟩ := requireActivePart_eq_ok hpart
    rw [← hget, ← hid]
    rfl
  balance := by
    cases hdirection : r.direction <;>
      simp only [movementOf, newBalance, SparePartMovement.signed, hdirection] <;> omega
  exact h := decimalStock_of_dvd (hE h)
  nonneg h := by
    have := decimalStock_nonneg h
    omega
  average := by
    unfold averageAfter
    split
    · next cost hdirection hcost =>
      split
      · exact .inr ⟨hdirection, cost, _, hcost, rounds_numeric 2, rfl⟩
      · exact .inl rfl
    · exact .inl rfl

theorem posted_record {r : MovementRequest} {m : SparePartMovement}
    (hE : E → wholeStock tenantId r.inventoryId r.requestReference db = true)
    (h : record tenantId r db = .ok (m, p)) : StockPosted r.direction E db p := by
  rcases record_cases h with rfl | ⟨part, hfind, hpart, rfl⟩
  · exact .refl
  · exact .post .refl rfl
      (posting_record hpart fun h => dvd_of_wholeStock (hE h) hfind hpart) rfl rfl

theorem posted_receiveSparePart {payload : SparePartReceiptCreate} {actorId : Option UUID}
    (hE : E → wholeStock tenantId payload.inventoryId payload.requestReference db = true)
    (h : receiveSparePart tenantId payload actorId db = .ok (a, p)) : StockPosted .inward E db p := by
  simp only [receiveSparePart, bind_eq_ok, pure, Except.pure, Except.ok.injEq, Prod.mk.injEq] at h
  obtain ⟨⟨m, p'⟩, hrecord, _, rfl⟩ := h
  exact posted_record hE hrecord

theorem posted_issueSparePart {now : Instant} {workOrderId : UUID}
    {payload : MaintenancePartIssueCreate} {actorId : Option UUID}
    (hE : E → wholeStock tenantId payload.inventoryId payload.requestReference db = true)
    (h : issueSparePartToWorkOrder now tenantId workOrderId payload actorId db = .ok (a, p)) :
    StockPosted .outward E db p := by
  rcases issueSparePart_cases h with rfl | ⟨_, m, q, used, hrecord, rfl⟩
  · exact .refl
  · have hposted : StockPosted .outward E db q := (posted_record hE hrecord).ofStart rfl rfl
    exact hposted.congr rfl rfl

theorem posted_recordReceipt {payload : SparePartReceiptCreate} {actorId : Option UUID}
    (h : recordSparePartReceipt tenantId payload actorId db = .ok (a, p)) :
    StockPosted .inward E db p := by
  simp only [recordSparePartReceipt, bind_eq_ok, require_eq_ok, pure, Except.pure, Except.ok.injEq,
    Prod.mk.injEq] at h
  obtain ⟨part, hpart, _, rfl⟩ := h
  obtain ⟨hget, hid⟩ := part_eq_some hpart
  refine .ofStock rfl rfl (by rw [hid]; exact hget) rfl rfl ?_
  split
  · exact .inr ⟨rfl, _, _, rfl, rounds_numeric 2, rfl⟩
  · exact .inl rfl

theorem posted_installSerial [Rendering] {now : Instant} {serialId vehicleId : UUID}
    (h : installSerialItem now tenantId serialId vehicleId db = .ok (a, p)) :
    StockPosted .outward E db p := by
  simp only [installSerialItem, bind_eq_ok, require_eq_ok, pure, Except.pure, Except.ok.injEq,
    Prod.mk.injEq] at h
  obtain ⟨item, _, _, _, part, hpart, _, rfl⟩ := h
  exact .ofStock rfl rfl hpart rfl rfl (.inl rfl)

theorem posted_issueParts [Rendering] {now : Instant} {workOrderId : UUID} {n : ℚ}
    {actorId : Option UUID} {notes : Option String}
    (h : issuePartsForWorkOrder now tenantId workOrderId inventoryId n actorId notes db =
      .ok (a, p)) : StockPosted .outward E db p := by
  simp only [issuePartsForWorkOrder, bind_eq_ok, pure, Except.pure, Except.ok.injEq,
    Prod.mk.injEq] at h
  obtain ⟨⟨wo, inv⟩, hchecks, _, rfl⟩ := h
  simp only [issuePartChecks, bind_eq_ok, pure, Except.pure, Except.ok.injEq, Prod.mk.injEq] at hchecks
  obtain ⟨_, _, wo', _, inv', hpart, _, _, _, _, rfl, rfl⟩ := hchecks
  obtain ⟨hget, hid⟩ := requirePart_eq_ok hpart
  obtain ⟨hparts, hmovements⟩ := consume_stock tenantId workOrderId inventoryId
    (db.reservationsOf tenantId workOrderId inventoryId) (thousandths n) db
  refine .congr (.ofStock hparts hmovements ?_ rfl ?_ (.inl rfl)) rfl rfl
  · rw [hparts, ← hget, ← hid]
    rfl
  · exact sub_eq_add_neg _ _

theorem posted_returnPart [Rendering] {now : Instant} {workOrderId : UUID} {n : ℚ}
    {reason : String} {actorId : Option UUID}
    (h : returnPartFromWorkOrder now tenantId workOrderId inventoryId n reason actorId db =
      .ok (a, p)) : StockPosted .inward E db p := by
  simp only [returnPartFromWorkOrder, bind_eq_ok, pure, Except.pure, Except.ok.injEq,
    Prod.mk.injEq] at h
  obtain ⟨_, _, wo, _, _, _, inv, hpart, _, rfl⟩ := h
  obtain ⟨hget, hid⟩ := requirePart_eq_ok hpart
  exact .ofStock rfl rfl (by rw [hid]; exact hget) rfl rfl (.inl rfl)

theorem posted_adjustment [Rendering] {now : Instant} {n : ℚ} {direction : Direction}
    {reason : String} {actorId : Option UUID}
    (h : recordInventoryAdjustment now tenantId inventoryId n direction reason actorId db =
      .ok (a, p)) : StockPosted direction E db p := by
  simp only [recordInventoryAdjustment, bind_eq_ok, pure, Except.pure, Except.ok.injEq,
    Prod.mk.injEq] at h
  obtain ⟨_, _, _, _, inv, hpart, _, _, _, rfl⟩ := h
  obtain ⟨hget, hid⟩ := requirePart_eq_ok hpart
  refine .ofStock rfl rfl (by rw [hid]; exact hget) rfl ?_ (.inl rfl)
  cases direction <;> rfl

theorem StockPosted.receiveItem {now : Instant} {po : WorkshopPurchaseOrder} {actorId : Option UUID}
    {item : WorkshopPurchaseOrderItem} (h : StockPosted .inward E db q) :
    StockPosted .inward E db (Rotas.receiveItem now tenantId po actorId item q) := by
  unfold Rotas.receiveItem
  dsimp only
  split
  · exact h
  · cases hpart : q.part tenantId item.inventoryId with
    | none => exact h
    | some inv =>
      obtain ⟨hget, hid⟩ := part_eq_some hpart
      refine .post (h.congr rfl rfl) rfl (.ofStock (by rw [hid]; exact hget) rfl ?_) rfl rfl
      split
      · exact .inr ⟨rfl, _, _, rfl, rounds_quantize 2, rfl⟩
      · exact .inl rfl

theorem posted_receiveOrder {now : Instant} {purchaseOrderId : UUID}
    {supplierInvoiceNumber : Option String} {actorId : Option UUID}
    (h : receivePurchaseOrder now tenantId purchaseOrderId supplierInvoiceNumber actorId db =
      .ok (a, p)) : StockPosted .inward E db p := by
  obtain ⟨q, orders, hq, rfl⟩ := receivePurchaseOrder_ind (P := StockPosted .inward E db) .refl
    (fun _ _ _ hdb => hdb.receiveItem) h
  exact hq.congr rfl rfl

end

/-! ## Requests -/

/-- A request that writes stock. -/
inductive StockCall where
  | record (tenantId : UUID) (r : MovementRequest)
  | receive (tenantId : UUID) (payload : SparePartReceiptCreate) (actorId : Option UUID)
  | issueToWorkOrder (now : Instant) (tenantId workOrderId : UUID)
      (payload : MaintenancePartIssueCreate) (actorId : Option UUID)
  | receipt (tenantId : UUID) (payload : SparePartReceiptCreate) (actorId : Option UUID)
  | installSerial (now : Instant) (tenantId serialId vehicleId : UUID)
  | issueParts (now : Instant) (tenantId workOrderId inventoryId : UUID) (quantity : ℚ)
      (actorId : Option UUID) (notes : Option String)
  | returnPart (now : Instant) (tenantId workOrderId inventoryId : UUID) (quantity : ℚ)
      (reason : String) (actorId : Option UUID)
  | adjustment (now : Instant) (tenantId inventoryId : UUID) (quantity : ℚ) (direction : Direction)
      (reason : String) (actorId : Option UUID)
  | receiveOrder (now : Instant) (tenantId purchaseOrderId : UUID)
      (supplierInvoiceNumber : Option String) (actorId : Option UUID)

def StockCall.run [Rendering] : StockCall → Warehouse → Except Exc (UUID × Warehouse)
  | .record tenantId r => fun db => do
    let (m, db) ← Rotas.record tenantId r db
    return (m.id, db)
  | .receive tenantId payload actorId => receiveSparePart tenantId payload actorId
  | .issueToWorkOrder now tenantId workOrderId payload actorId =>
    issueSparePartToWorkOrder now tenantId workOrderId payload actorId
  | .receipt tenantId payload actorId => recordSparePartReceipt tenantId payload actorId
  | .installSerial now tenantId serialId vehicleId =>
    installSerialItem now tenantId serialId vehicleId
  | .issueParts now tenantId workOrderId inventoryId quantity actorId notes =>
    issuePartsForWorkOrder now tenantId workOrderId inventoryId quantity actorId notes
  | .returnPart now tenantId workOrderId inventoryId quantity reason actorId =>
    returnPartFromWorkOrder now tenantId workOrderId inventoryId quantity reason actorId
  | .adjustment now tenantId inventoryId quantity direction reason actorId =>
    recordInventoryAdjustment now tenantId inventoryId quantity direction reason actorId
  | .receiveOrder now tenantId purchaseOrderId supplierInvoiceNumber actorId =>
    receivePurchaseOrder now tenantId purchaseOrderId supplierInvoiceNumber actorId

/-- A call that is refused, by its checks or by the database, changes nothing. -/
def Warehouse.serve [Rendering] (db : Warehouse) (c : StockCall) : Warehouse := perform c.run db

/-- No request goes through `record` while its part has thousandths in stock. -/
def unrounded (db : Warehouse) : StockCall → Bool
  | .record tenantId r => wholeStock tenantId r.inventoryId r.requestReference db
  | .receive tenantId payload _ => wholeStock tenantId payload.inventoryId payload.requestReference db
  | .issueToWorkOrder _ tenantId _ payload _ =>
    wholeStock tenantId payload.inventoryId payload.requestReference db
  | _ => true

theorem StockCall.posted [Rendering] {c : StockCall} {db p : Warehouse} {a : UUID}
    (h : c.run db = .ok (a, p)) : ∃ d, StockPosted d (unrounded db c = true) db p := by
  cases c with
  | record tenantId r =>
    simp only [StockCall.run, bind_eq_ok, pure, Except.pure, Except.ok.injEq, Prod.mk.injEq] at h
    obtain ⟨⟨m, p'⟩, hrecord, _, rfl⟩ := h
    exact ⟨_, posted_record id hrecord⟩
  | receive tenantId payload actorId => exact ⟨_, posted_receiveSparePart id h⟩
  | issueToWorkOrder now tenantId workOrderId payload actorId =>
    exact ⟨_, posted_issueSparePart id h⟩
  | receipt tenantId payload actorId => exact ⟨_, posted_recordReceipt h⟩
  | installSerial now tenantId serialId vehicleId => exact ⟨_, posted_installSerial h⟩
  | issueParts now tenantId workOrderId inventoryId quantity actorId notes =>
    exact ⟨_, posted_issueParts h⟩
  | returnPart now tenantId workOrderId inventoryId quantity reason actorId =>
    exact ⟨_, posted_returnPart h⟩
  | adjustment now tenantId inventoryId quantity direction reason actorId =>
    exact ⟨_, posted_adjustment h⟩
  | receiveOrder now tenantId purchaseOrderId supplierInvoiceNumber actorId =>
    exact ⟨_, posted_receiveOrder h⟩

end Rotas
