import Rotas.Workshop.Movements
import Rotas.Workshop.Inventory
import Rotas.Lib.Run

/-!
# Rotas.Workshop.Reservations

Reserved stock over runs of the operations that reserve, release and move it.

* `Warehouse.promised` — the active reservations of a part, backorders apart.
* `ReservedInStock` — they are in stock, so an order can be issued what it has reserved.
* `spares` — the calls that leave in stock what is promised to others.
* `reserved_in_stock` — every run of such calls keeps reserved stock there.
* `reserved_stock_adjusted` — an adjustment takes stock that is reserved.
-/

namespace Rotas

open Work Decimal

/-- The active reservations of a part, backorders apart. -/
def Warehouse.promised (db : Warehouse) (inventoryId : UUID) : Int :=
  db.reservations.sumWhere (fun r => r.inventoryId = inventoryId && r.status = .active)
    PartReservation.quantityReserved

/-- The reservation is of the work order. -/
def PartReservation.isOf (r : PartReservation) (tenantId workOrderId : UUID) : Bool :=
  r.tenantId = tenantId && r.workOrderId = some workOrderId

/-- What a work order has reserved of a part. -/
def Warehouse.promisedTo (db : Warehouse) (tenantId workOrderId inventoryId : UUID) : Int :=
  db.reservations.sumWhere (fun r => (r.inventoryId = inventoryId && r.status = .active) &&
    r.isOf tenantId workOrderId) PartReservation.quantityReserved

/-- What everybody else has. -/
def Warehouse.promisedToOthers (db : Warehouse) (tenantId workOrderId inventoryId : UUID) : Int :=
  db.reservations.sumWhere (fun r => (r.inventoryId = inventoryId && r.status = .active) &&
    !r.isOf tenantId workOrderId) PartReservation.quantityReserved

/-- Reserved stock is there, and a work order's own reservation is not refused for lack of it. -/
structure ReservedInStock [Rendering] (db : Warehouse) : Prop where
  covered : ∀ part ∈ db.spareParts, db.promised part.id ≤ part.currentQuantity
  issued : ∀ now tenantId workOrderId inventoryId q actorId notes,
    thousandths q = db.promisedTo tenantId workOrderId inventoryId →
    issuePartsForWorkOrder now tenantId workOrderId inventoryId q actorId notes db ≠
      .error insufficientStock

/-- Reserved stock is there; reservations are the tenant's whose part they are of, and not
negative. -/
structure Backed (db : Warehouse) : Prop where
  covered : ∀ part ∈ db.spareParts, db.promised part.id ≤ part.currentQuantity
  tenants : ∀ r ∈ db.reservations, ∀ part ∈ db.spareParts, part.id = r.inventoryId →
    part.tenantId = r.tenantId
  nonneg : ∀ r ∈ db.reservations, 0 ≤ r.quantityReserved

section Backed

variable {db p : Warehouse} {tenantId inventoryId workOrderId : UUID} {part : SparePart}

theorem Backed.congr (h : Backed db) (hparts : p.spareParts = db.spareParts)
    (hreservations : p.reservations = db.reservations) : Backed p where
  covered part hpart := by
    rw [hparts] at hpart
    simpa only [Warehouse.promised, hreservations] using h.covered part hpart
  tenants r hr part hpart := by
    rw [hreservations] at hr
    rw [hparts] at hpart
    exact h.tenants r hr part hpart
  nonneg r hr := by
    rw [hreservations] at hr
    exact h.nonneg r hr

/-- A movement keeps reserved stock there if what it leaves covers it. -/
theorem Backed.post {m : SparePartMovement} {average : Int} (h : Backed db)
    (hleft : db.promised m.inventoryId ≤ m.balanceAfterQuantity) : Backed (db.post m average) where
  covered part hpart := by
    simp only [Warehouse.post] at hpart
    rcases Table.mem_modify_cases hpart with ⟨old, _, hid, rfl⟩ | ⟨hpart, _⟩
    · change db.promised old.id ≤ _
      rw [show old.id = m.inventoryId from hid]
      exact hleft
    · exact h.covered part hpart
  tenants r hr part hpart hid := by
    simp only [Warehouse.post] at hpart
    rcases Table.mem_modify_cases hpart with ⟨old, hold, _, rfl⟩ | ⟨hpart, _⟩
    · exact h.tenants r hr old hold hid
    · exact h.tenants r hr part hpart hid
  nonneg := h.nonneg

theorem Backed.promised_le (h : Backed db) (hget : db.spareParts.get inventoryId = some part) :
    db.promised inventoryId ≤ part.currentQuantity := by
  have hcov := h.covered part (Table.mem_of_get hget)
  rwa [show part.id = inventoryId from Table.key_of_get hget] at hcov

/-- The active reservations of a tenant's part are all the tenant's. -/
theorem Backed.reserved_eq (h : Backed db) (hpart : db.part tenantId inventoryId = some part) :
    db.reserved tenantId inventoryId = db.promised inventoryId := by
  obtain ⟨hget, hten⟩ := Option.filter_eq_some_iff.mp hpart
  refine Table.sumWhere_congr fun r hr => ?_
  by_cases hinv : r.inventoryId = inventoryId
  · have hid : part.id = r.inventoryId := (Table.key_of_get hget).trans hinv.symm
    have hr' := h.tenants r hr part (Table.mem_of_get hget) hid
    simp [hinv, ← hr', of_decide_eq_true hten]
  · simp [hinv]

theorem promised_split : db.promisedTo tenantId workOrderId inventoryId +
    db.promisedToOthers tenantId workOrderId inventoryId = db.promised inventoryId := by
  have hadd := Table.sumWhere_add (t := db.reservations) (f := PartReservation.quantityReserved)
    (p := fun r => (r.inventoryId = inventoryId && r.status = .active) && r.isOf tenantId workOrderId)
    (q := fun r => r.inventoryId = inventoryId && r.status = .active) fun r _ hr => by
      simp only [Bool.and_eq_true] at hr ⊢
      exact hr.1
  rw [Warehouse.promised, ← hadd]
  refine congrArg _ (Table.sumWhere_congr fun r _ => ?_)
  cases decide (r.inventoryId = inventoryId) <;> cases decide (r.status = .active) <;>
    cases r.isOf tenantId workOrderId <;> rfl

theorem promisedTo_le (h : Backed db) :
    db.promisedTo tenantId workOrderId inventoryId ≤ db.promised inventoryId := by
  have hothers : 0 ≤ db.promisedToOthers tenantId workOrderId inventoryId :=
    Table.sumWhere_nonneg fun r hr => h.nonneg r hr
  have hsplit : db.promisedTo tenantId workOrderId inventoryId +
    db.promisedToOthers tenantId workOrderId inventoryId = db.promised inventoryId := promised_split
  omega

/-- An order that asks for what it has reserved is not told that stock is short. -/
theorem Backed.not_insufficient [Rendering] {now : Instant} {q : ℚ} {actorId : Option UUID}
    {notes : Option String} (h : Backed db)
    (hq : thousandths q = db.promisedTo tenantId workOrderId inventoryId) :
    issuePartsForWorkOrder now tenantId workOrderId inventoryId q actorId notes db ≠
      .error insufficientStock := by
  intro hrun
  simp only [issuePartsForWorkOrder, bind_eq_error, pure, Except.pure, reduceCtorEq, and_false,
    exists_false, or_false] at hrun
  simp only [issuePartChecks, requireOpenOrder, requirePart, bind_eq_error, raiseIf_eq_error,
    require_eq_error, pure, Except.pure, reduceCtorEq, and_false, exists_false, or_false] at hrun
  rcases hrun with ⟨_, he⟩ | ⟨_, _, (⟨_, he⟩ | ⟨wo, _, _, he⟩) | ⟨wo, _, ⟨_, he⟩ |
    ⟨inv, hinv, ⟨hshort, _⟩ | ⟨_, _, _, he⟩⟩⟩⟩
  · simp [insufficientStock, conflict] at he
  · simp [insufficientStock, conflict, notFound] at he
  · simp [insufficientStock, conflict, orderNotActive] at he
  · simp [insufficientStock, conflict, notFound] at he
  · -- what the order has reserved is part of what is promised, and that is there
    obtain ⟨hget, _⟩ := part_eq_some (require_eq_ok.mp hinv)
    have hto := h.promised_le hget
    have hown : db.promisedTo tenantId workOrderId inventoryId ≤ db.promised inventoryId :=
      promisedTo_le h
    rw [decide_eq_true_eq] at hshort
    omega
  · simp [insufficientStock, conflict] at he

end Backed

/-! ## Reserving and releasing -/

section Reserving

variable {db : Warehouse} {tenantId quoteId : UUID} {workOrderId : Option UUID}

theorem Backed.reserveItem {qi : WorkshopQuoteItem} (h : Backed db) :
    Backed (Rotas.reserveItem tenantId quoteId workOrderId qi db) := by
  unfold Rotas.reserveItem
  split
  · exact h
  next partId _ =>
  split
  · exact h
  next hqty =>
  cases hpart : db.part tenantId partId with
  | none => exact h
  | some inv =>
    obtain ⟨hget, hten⟩ := Option.filter_eq_some_iff.mp hpart
    have hsame : ∀ part ∈ db.spareParts, part.id = partId → part = inv := fun part hpart hid =>
      Table.eq_of_key hpart (Table.mem_of_get hget) (hid.trans (Table.key_of_get hget).symm)
    refine ⟨fun part hpart' => ?_, fun r hr part hpart' hid => ?_, fun r hr => ?_⟩
    · have hcov := h.covered part hpart'
      simp only [Warehouse.promised, Table.sumWhere_insert, Bool.and_eq_true,
        decide_eq_true_eq] at hcov ⊢
      by_cases hid : partId = part.id
      · have hres := h.reserved_eq hpart
        obtain rfl := hsame part hpart' hid.symm
        rw [hres]
        simp only [Warehouse.promised, hid, true_and] at hcov ⊢
        split
        · next havail => simp only [if_true]; omega
        · simp only [reduceCtorEq, if_false]; omega
      · simp only [hid, false_and, if_false]
        omega
    · rcases (Table.mem_insert _ _ _).mp hr with hr | rfl
      · exact h.tenants r hr part hpart' hid
      · rw [hsame part hpart' hid]
        exact of_decide_eq_true hten
    · rcases (Table.mem_insert _ _ _).mp hr with hr | rfl
      · exact h.nonneg r hr
      · change 0 ≤ 10 * qi.quantity
        omega

theorem Backed.createPartReservations (h : Backed db) :
    Backed (Rotas.createPartReservations tenantId quoteId workOrderId db) := by
  have hloop : ∀ (items : List WorkshopQuoteItem) (db : Warehouse), Backed db → Backed
      (items.foldl (fun db qi => Rotas.reserveItem tenantId quoteId workOrderId qi db) db) := by
    intro items
    induction items with
    | nil => exact fun _ h => h
    | cons qi items ih => exact fun db h => ih _ h.reserveItem
  exact hloop _ db h

theorem Backed.releaseReservations {quoteId : Option UUID} (h : Backed db) :
    Backed (Rotas.releaseReservations tenantId quoteId workOrderId db) where
  covered part hpart := by
    refine le_trans ?_ (h.covered part hpart)
    simp only [Warehouse.promised, Rotas.releaseReservations]
    rw [Table.sumWhere_modifyAll_drop fun r _ _ => by simp]
    refine Table.sumWhere_le (fun r _ hr => ?_) h.nonneg
    exact (Bool.and_eq_true _ _ ▸ hr).1
  tenants r hr part hpart hid := by
    simp only [Rotas.releaseReservations, Table.mem_modifyAll] at hr
    obtain ⟨r₀, hr₀, rfl⟩ := hr
    have hten := h.tenants r₀ hr₀ part hpart
    split at hid <;> split <;> exact hten hid
  nonneg r hr := by
    simp only [Rotas.releaseReservations, Table.mem_modifyAll] at hr
    obtain ⟨r₀, hr₀, rfl⟩ := hr
    split <;> exact h.nonneg r₀ hr₀

end Reserving

/-! ## Using reservations up -/

section Consuming

variable {db : Warehouse} {tenantId workOrderId inventoryId : UUID}

/-- An active reservation of a part, apart from the listed ones. -/
def heldExcept (ids : List UUID) (inventoryId : UUID) (r : PartReservation) : Bool :=
  (r.inventoryId = inventoryId && r.status = .active) && !decide (r.id ∈ ids)

theorem sumWhere_setReservation {ids : List UUID} {id inventoryId : UUID} {n : Int}
    {status : ReservationStatus} (hstatus : status ≠ .active) :
    (db.setReservation id n status).reservations.sumWhere (heldExcept ids inventoryId)
        PartReservation.quantityReserved =
      db.reservations.sumWhere (heldExcept (id :: ids) inventoryId)
        PartReservation.quantityReserved := by
  unfold Warehouse.setReservation Table.modify
  rw [Table.sumWhere_modifyAll_drop fun r _ _ => by simp [heldExcept, hstatus]]
  refine Table.sumWhere_congr fun r _ => ?_
  simp only [heldExcept, Keyed.key, List.mem_cons, Bool.decide_or, Bool.not_or]
  cases decide (r.inventoryId = inventoryId) <;> cases decide (r.status = .active) <;>
    cases decide (r.id ∈ ids) <;> cases h : decide (r.id = id) <;> simp_all

/-- After the listed reservations are used up, the others hold what they held. -/
theorem consume_promised {rs : List PartReservation} {n : Int} {id : UUID} :
    (consume tenantId workOrderId inventoryId rs n db).promised id =
      db.reservations.sumWhere (heldExcept (rs.map PartReservation.id) id)
        PartReservation.quantityReserved := by
  induction rs generalizing n db with
  | nil =>
    refine Table.sumWhere_congr fun r _ => ?_
    simp [heldExcept]
  | cons res rest ih =>
    unfold consume
    split
    · rw [ih, sumWhere_setReservation (by decide)]; rfl
    · split
      · rw [ih, sumWhere_setReservation (by decide)]; rfl
      · rw [ih]
        simp only [Table.sumWhere_insert]
        rw [sumWhere_setReservation (by decide)]
        simp [heldExcept]

/-- Using reservations up leaves each of a tenant's part, and none below zero. -/
theorem consume_rows {rs : List PartReservation} {n : Int}
    (hrs : ∀ r ∈ rs, 0 ≤ r.quantityReserved) {P : PartReservation → Prop}
    (hset : ∀ r q s, P r → 0 ≤ q → P { r with quantityReserved := q, status := s })
    (hnew : ∀ id quoteId q, 0 ≤ q → P { id, tenantId, inventoryId, quoteId
                                        workOrderId := some workOrderId
                                        quantityReserved := q, status := .released })
    (hP : ∀ r ∈ db.reservations, P r) :
    ∀ r ∈ (consume tenantId workOrderId inventoryId rs n db).reservations, P r := by
  have hsetRow : ∀ (db : Warehouse) id q s, (∀ r ∈ db.reservations, P r) → 0 ≤ q →
      ∀ r ∈ (db.setReservation id q s).reservations, P r := by
    intro db id q s hP hq r hr
    simp only [Warehouse.setReservation, Table.mem_modify] at hr
    obtain ⟨r₀, hr₀, rfl⟩ := hr
    split
    · exact hset r₀ q s (hP r₀ hr₀) hq
    · exact hP r₀ hr₀
  induction rs generalizing n db with
  | nil => exact hP
  | cons res rest ih =>
    have hres := hrs res List.mem_cons_self
    have hrest : ∀ r ∈ rest, 0 ≤ r.quantityReserved := fun r hr => hrs r (List.mem_cons_of_mem _ hr)
    unfold consume
    split
    · exact ih hrest (hsetRow db _ _ _ hP hres)
    · next hpos =>
      split
      · exact ih hrest (hsetRow db _ _ _ hP hres)
      · next hmore =>
        refine ih hrest fun r hr => ?_
        rcases (Table.mem_insert _ _ _).mp hr with hr | rfl
        · exact hsetRow db _ _ _ hP (by omega) r hr
        · exact hnew _ _ _ (by omega)

end Consuming

/-! ## Movements -/

section Movements

variable {db p : Warehouse} {tenantId inventoryId workOrderId id : UUID} {part : SparePart}
  {actorId : Option UUID}

/-- After an issue the part holds for others what it held for them before. -/
theorem promised_consume (n : Int) :
    (consume tenantId workOrderId inventoryId (db.reservationsOf tenantId workOrderId inventoryId)
      n db).promised inventoryId = db.promisedToOthers tenantId workOrderId inventoryId := by
  rw [consume_promised]
  refine Table.sumWhere_congr fun r hr => ?_
  simp only [heldExcept]
  by_cases hactive : r.inventoryId = inventoryId ∧ r.status = .active
  · have hmem : r.id ∈ (db.reservationsOf tenantId workOrderId inventoryId).map
        PartReservation.id ↔ r.isOf tenantId workOrderId = true := by
      simp only [Warehouse.reservationsOf, List.mem_map, List.mem_filter]
      constructor
      · rintro ⟨r', ⟨hr', hown⟩, hid⟩
        obtain rfl : r' = r := Table.eq_of_key hr' hr hid
        simp only [Bool.and_eq_true] at hown
        rw [PartReservation.isOf, hown.1.1.1, hown.1.1.2]
        rfl
      · intro hown
        simp only [PartReservation.isOf, Bool.and_eq_true] at hown
        exact ⟨r, ⟨hr, by simp [hown.1, hown.2, hactive, PartReservation.isOpen]⟩, rfl⟩
    cases hown : r.isOf tenantId workOrderId <;> simp [hactive, hmem, hown]
  · simp only [not_and] at hactive
    by_cases hinv : r.inventoryId = inventoryId
    · simp [hactive hinv]
    · simp [hinv]

theorem issuePartChecks_part {n : Int} {wo : WorkOrder}
    (h : issuePartChecks tenantId workOrderId inventoryId n db = .ok (wo, part)) :
    db.part tenantId inventoryId = some part ∧ 0 < n := by
  simp only [issuePartChecks, requirePart, bind_eq_ok, require_eq_ok, raiseIf_eq_ok,
    decide_eq_false_iff_not, pure, Except.pure, Except.ok.injEq, Prod.mk.injEq] at h
  obtain ⟨_, hpos, _, _, part', hpart, _, _, _, _, _, rfl⟩ := h
  exact ⟨hpart, by omega⟩

/-- An issue keeps reserved stock there if it leaves what is promised to others. -/
theorem Backed.issueParts [Rendering] {now : Instant} {q : ℚ} {notes : Option String}
    (h : Backed db)
    (hspares : ∀ part, db.part tenantId inventoryId = some part →
      db.promisedToOthers tenantId workOrderId inventoryId + thousandths q ≤ part.currentQuantity)
    (hrun : issuePartsForWorkOrder now tenantId workOrderId inventoryId q actorId notes db =
      .ok (id, p)) : Backed p := by
  simp only [issuePartsForWorkOrder, bind_eq_ok, pure, Except.pure, Except.ok.injEq,
    Prod.mk.injEq] at hrun
  obtain ⟨⟨wo, inv⟩, hchecks, _, rfl⟩ := hrun
  obtain ⟨hpart, _⟩ := issuePartChecks_part hchecks
  obtain ⟨hget, hten⟩ := Option.filter_eq_some_iff.mp hpart
  have hid : inv.id = inventoryId := Table.key_of_get hget
  have hrs : ∀ r ∈ db.reservationsOf tenantId workOrderId inventoryId, 0 ≤ r.quantityReserved :=
    fun r hr => h.nonneg r (List.mem_filter.mp hr).1
  have hothers : ∀ pt ∈ db.spareParts, pt.id ≠ inventoryId →
      (consume tenantId workOrderId inventoryId
        (db.reservationsOf tenantId workOrderId inventoryId) (thousandths q) db).promised pt.id ≤
          pt.currentQuantity := by
    intro pt hpt _
    rw [consume_promised]
    refine le_trans (Table.sumWhere_le (fun r _ hr => ?_) h.nonneg) (h.covered pt hpt)
    exact (Bool.and_eq_true _ _ ▸ hr).1
  -- the reservations of the order are used up, so only those of others count
  have hconsumed : Backed (consume tenantId workOrderId inventoryId
      (db.reservationsOf tenantId workOrderId inventoryId) (thousandths q) db) := by
    refine ⟨fun pt hpt => ?_, fun r hr pt hpt => ?_, ?_⟩
    · rw [(consume_stock ..).1] at hpt
      by_cases hpid : pt.id = inventoryId
      · obtain rfl : pt = inv := Table.eq_of_key hpt (Table.mem_of_get hget) (hpid.trans hid.symm)
        have hleft := hspares pt hpart
        have hpos := (issuePartChecks_part hchecks).2
        rw [hpid, promised_consume]
        omega
      · exact hothers pt hpt hpid
    · rw [(consume_stock ..).1] at hpt
      exact consume_rows hrs (P := fun r => pt.id = r.inventoryId → pt.tenantId = r.tenantId)
        (fun _ _ _ hr _ => hr) (fun _ _ _ _ hpid => by
          obtain rfl : pt = inv :=
            Table.eq_of_key hpt (Table.mem_of_get hget) (Eq.trans hpid hid.symm)
          exact of_decide_eq_true hten) (fun r hr => h.tenants r hr pt hpt) r hr
    · exact consume_rows hrs (P := fun r => 0 ≤ r.quantityReserved) (fun _ _ _ _ hq => hq)
        (fun _ _ _ hq => hq) h.nonneg
  refine Backed.congr (hconsumed.post ?_) rfl rfl
  change (consume tenantId workOrderId inventoryId
    (db.reservationsOf tenantId workOrderId inventoryId) (thousandths q) db).promised inv.id ≤
      inv.currentQuantity - thousandths q
  have hleft := hspares inv hpart
  rw [hid, promised_consume]
  omega

/-- A direct issue keeps reserved stock there if it leaves all that is promised. -/
theorem Backed.issueSparePart {now : Instant} {payload : MaintenancePartIssueCreate} (h : Backed db)
    (hspares : findPartUsed tenantId payload.requestReference db = none →
      findSparePartMovement tenantId payload.requestReference db = none →
      ∀ part, requireActivePart tenantId payload.inventoryId db = .ok part →
        db.promised payload.inventoryId + 10 * quantize 2 payload.quantity ≤
          10 * decimalStock part.currentQuantity)
    (hrun : issueSparePartToWorkOrder now tenantId workOrderId payload actorId db = .ok (id, p)) :
    Backed p := by
  rcases issueSparePart_cases hrun with rfl | ⟨hfind, m, q, used, hrec, rfl⟩
  · exact h
  · have hused : Backed { db with
        partsUsed := db.partsUsed.insert (usageOf now tenantId workOrderId payload actorId) } :=
      h.congr rfl rfl
    have hrecorded : Backed q := by
      rcases record_cases hrec with rfl | ⟨part, hfree, hpart, rfl⟩
      · exact hused
      refine hused.post ?_
      have hleft := hspares hfind hfree part hpart
      obtain ⟨_, hid⟩ := requireActivePart_eq_ok hpart
      change db.promised part.id ≤
        10 * (decimalStock part.currentQuantity - quantize 2 payload.quantity)
      rw [hid]
      change db.promised payload.inventoryId ≤ _
      omega
    exact hrecorded.congr rfl rfl

theorem Backed.returnPart [Rendering] {now : Instant} {q : ℚ} {reason : String} (h : Backed db)
    (hrun : returnPartFromWorkOrder now tenantId workOrderId inventoryId q reason actorId db =
      .ok (id, p)) : Backed p := by
  simp only [returnPartFromWorkOrder, bind_eq_ok, raiseIf_eq_ok, decide_eq_false_iff_not, pure,
    Except.pure, Except.ok.injEq, Prod.mk.injEq] at hrun
  obtain ⟨_, hpos, wo, _, _, _, inv, hpart, _, rfl⟩ := hrun
  obtain ⟨hget, hid⟩ := requirePart_eq_ok hpart
  refine h.post ?_
  have hle := h.promised_le hget
  simp only [hid]
  omega

/-- An adjustment keeps reserved stock there if it leaves all that is promised. -/
theorem Backed.adjustment [Rendering] {now : Instant} {q : ℚ} {direction : Direction}
    {reason : String} (h : Backed db)
    (hspares : direction = .outward → ∀ part, db.part tenantId inventoryId = some part →
      db.promised inventoryId + thousandths q ≤ part.currentQuantity)
    (hrun : recordInventoryAdjustment now tenantId inventoryId q direction reason actorId db =
      .ok (id, p)) : Backed p := by
  simp only [recordInventoryAdjustment, bind_eq_ok, raiseIf_eq_ok, decide_eq_false_iff_not,
    requirePart, require_eq_ok, pure, Except.pure, Except.ok.injEq, Prod.mk.injEq] at hrun
  obtain ⟨_, _, _, hpos, inv, hpart, _, _, _, rfl⟩ := hrun
  obtain ⟨hget, hid⟩ := part_eq_some hpart
  refine h.post ?_
  have hle := h.promised_le hget
  cases direction with
  | inward => simp only [hid, adjusted]; omega
  | outward =>
    have hleft := hspares rfl inv hpart
    simp only [hid, adjusted]
    omega

theorem Backed.receiveItem {now : Instant} {po : WorkshopPurchaseOrder}
    {item : WorkshopPurchaseOrderItem} (h : Backed db) :
    Backed (Rotas.receiveItem now tenantId po actorId item db) := by
  unfold Rotas.receiveItem
  dsimp only
  split
  · exact h
  · next hpos =>
    cases hpart : db.part tenantId item.inventoryId with
    | none => exact h
    | some inv =>
      obtain ⟨hget, hid⟩ := part_eq_some hpart
      have hitems : Backed { db with
          purchaseOrderItems := db.purchaseOrderItems.modify item.id fun i => { i with
            quantityReceived := i.quantityOrdered } } := h.congr rfl rfl
      refine hitems.post ?_
      have hle := h.promised_le hget
      change db.promised inv.id ≤
        inv.currentQuantity + (item.quantityOrdered - item.quantityReceived)
      rw [hid]
      omega

theorem Backed.receiveOrder {now : Instant} {purchaseOrderId : UUID}
    {supplierInvoiceNumber : Option String} (h : Backed db)
    (hrun : receivePurchaseOrder now tenantId purchaseOrderId supplierInvoiceNumber actorId db =
      .ok (id, p)) : Backed p := by
  obtain ⟨q, orders, hq, rfl⟩ := receivePurchaseOrder_ind (P := Backed) h
    (fun _ _ _ hdb => hdb.receiveItem) hrun
  exact hq.congr rfl rfl

theorem Backed.cancelOrder {reason : String} (h : Backed db)
    (hrun : cancelWorkOrder tenantId workOrderId reason db = .ok (id, p)) : Backed p := by
  simp only [cancelWorkOrder, bind_eq_ok, pure, Except.pure, Except.ok.injEq, Prod.mk.injEq] at hrun
  obtain ⟨wo, _, _, rfl⟩ := hrun
  have horder : Backed { db with
      workOrders := db.workOrders.modify wo.id fun w => { w with
        status := .cancelled, closeNotes := some ("Cancelada: " ++ reason) } } := h.congr rfl rfl
  exact Backed.congr horder.releaseReservations rfl rfl

end Movements

/-! ## Runs -/

/-- A request that reserves, releases or moves stock. -/
inductive ReservationCall where
  | createReservations (tenantId quoteId : UUID) (workOrderId : Option UUID)
  | release (tenantId : UUID) (quoteId workOrderId : Option UUID)
  | issueParts (now : Instant) (tenantId workOrderId inventoryId : UUID) (quantity : ℚ)
      (actorId : Option UUID) (notes : Option String)
  | issueToWorkOrder (now : Instant) (tenantId workOrderId : UUID)
      (payload : MaintenancePartIssueCreate) (actorId : Option UUID)
  | returnPart (now : Instant) (tenantId workOrderId inventoryId : UUID) (quantity : ℚ)
      (reason : String) (actorId : Option UUID)
  | adjustment (now : Instant) (tenantId inventoryId : UUID) (quantity : ℚ) (direction : Direction)
      (reason : String) (actorId : Option UUID)
  | receiveOrder (now : Instant) (tenantId purchaseOrderId : UUID)
      (supplierInvoiceNumber : Option String) (actorId : Option UUID)
  | cancelOrder (tenantId workOrderId : UUID) (reason : String)

def ReservationCall.run [Rendering] : ReservationCall → Warehouse → Except Exc (UUID × Warehouse)
  | .createReservations tenantId quoteId workOrderId => fun db =>
    .ok (quoteId, createPartReservations tenantId quoteId workOrderId db)
  | .release tenantId quoteId workOrderId => fun db =>
    .ok (tenantId, releaseReservations tenantId quoteId workOrderId db)
  | .issueParts now tenantId workOrderId inventoryId quantity actorId notes =>
    issuePartsForWorkOrder now tenantId workOrderId inventoryId quantity actorId notes
  | .issueToWorkOrder now tenantId workOrderId payload actorId =>
    issueSparePartToWorkOrder now tenantId workOrderId payload actorId
  | .returnPart now tenantId workOrderId inventoryId quantity reason actorId =>
    returnPartFromWorkOrder now tenantId workOrderId inventoryId quantity reason actorId
  | .adjustment now tenantId inventoryId quantity direction reason actorId =>
    recordInventoryAdjustment now tenantId inventoryId quantity direction reason actorId
  | .receiveOrder now tenantId purchaseOrderId supplierInvoiceNumber actorId =>
    receivePurchaseOrder now tenantId purchaseOrderId supplierInvoiceNumber actorId
  | .cancelOrder tenantId workOrderId reason => cancelWorkOrder tenantId workOrderId reason

/-- A call that is refused, by its checks or by the database, changes nothing. -/
def Warehouse.reserve [Rendering] (db : Warehouse) (c : ReservationCall) : Warehouse :=
  perform c.run db

/-- The call leaves in stock what is promised: to other orders by an issue from reservations, to any
by a direct issue or an outward adjustment. -/
def spares (db : Warehouse) : ReservationCall → Bool
  | .issueParts _ tenantId workOrderId inventoryId q _ _ =>
    (db.part tenantId inventoryId).all fun part =>
      db.promisedToOthers tenantId workOrderId inventoryId + thousandths q ≤ part.currentQuantity
  | .issueToWorkOrder _ tenantId _ payload _ =>
    (findPartUsed tenantId payload.requestReference db).isSome ||
      (findSparePartMovement tenantId payload.requestReference db).isSome ||
      ((db.part tenantId payload.inventoryId).filter (·.status = .active)).all fun part =>
        db.promised payload.inventoryId + 10 * quantize 2 payload.quantity ≤
          10 * decimalStock part.currentQuantity
  | .adjustment _ tenantId inventoryId q .outward _ _ =>
    (db.part tenantId inventoryId).all fun part =>
      db.promised inventoryId + thousandths q ≤ part.currentQuantity
  | _ => true

theorem Backed.initial {db : Warehouse} (hreservations : db.reservations = ∅) (hok : db.ok = true) :
    Backed db where
  covered part hpart := by
    rw [Warehouse.promised, hreservations]
    exact quantity_nonneg hok hpart
  tenants r hr := absurd (hreservations ▸ hr) List.not_mem_nil
  nonneg r hr := absurd (hreservations ▸ hr) List.not_mem_nil

section Run

variable [Rendering] {db p : Warehouse} {cs : List ReservationCall} {c : ReservationCall} {id : UUID}

theorem Backed.step (h : Backed db) (hspares : spares db c = true) (hrun : c.run db = .ok (id, p)) :
    Backed p := by
  cases c with
  | createReservations tenantId quoteId workOrderId =>
    cases hrun
    exact h.createPartReservations
  | release tenantId quoteId workOrderId =>
    cases hrun
    exact h.releaseReservations
  | issueParts now tenantId workOrderId inventoryId q actorId notes =>
    refine h.issueParts (fun part hpart => ?_) hrun
    simpa [spares, hpart] using hspares
  | issueToWorkOrder now tenantId workOrderId payload actorId =>
    refine h.issueSparePart (fun hused hmoved part hpart => ?_) hrun
    simp only [requireActivePart, require_eq_ok] at hpart
    simpa [spares, hused, hmoved, hpart] using hspares
  | returnPart now tenantId workOrderId inventoryId q reason actorId => exact h.returnPart hrun
  | adjustment now tenantId inventoryId q direction reason actorId =>
    refine h.adjustment (fun hdir part hpart => ?_) hrun
    subst hdir
    simpa [spares, hpart] using hspares
  | receiveOrder now tenantId purchaseOrderId supplierInvoiceNumber actorId =>
    exact h.receiveOrder hrun
  | cancelOrder tenantId workOrderId reason => exact h.cancelOrder hrun

/-- From any stock without reservations, after every run of calls that leave in stock what is
promised, the active reservations of each part are in stock, and no order that asks for what it has
reserved is told that stock is short. -/
theorem reserved_in_stock (hreservations : db.reservations = ∅) (hok : db.ok = true)
    (hspares : Run.Along Warehouse.reserve (fun db c => spares db c = true) db cs) :
    ReservedInStock (Run.exec Warehouse.reserve db cs) := by
  have hstep : ∀ db c, Backed db → spares db c = true → Backed (db.reserve c) := by
    intro db c h hspares
    rcases perform_cases c.run db with hsame | ⟨id, hrun, _⟩
    · rw [Warehouse.reserve, hsame]; exact h
    · exact h.step hspares hrun
  have hbacked : Backed (Run.exec Warehouse.reserve db cs) :=
    Run.exec_inv hstep (.initial hreservations hok) hspares
  exact ⟨hbacked.covered, fun _ _ _ _ _ _ _ hq => hbacked.not_insufficient hq⟩

end Run

/-! ## Reserved stock that is adjusted away -/

/-- Ten units of a part, eight of which a quote asks for. -/
def reservedStock : Warehouse where
  spareParts := .single { id := 1, tenantId := 1, currentQuantity := 10000 }
  quoteItems := .single
    { id := 1, tenantId := 1, quoteId := 1, itemType := .part, partId := some 1, quantity := 800 }
  workOrders := .single { id := 1, tenantId := 1, workOrderNumber := "OS-1", status := .approved }

def reserveEight : ReservationCall := .createReservations 1 1 (some 1)

def adjustOut (q : ℚ) : ReservationCall := .adjustment 100 1 1 q .outward "Perda" none

theorem reserved_in_stock_once :
    @ReservedInStock .decimal (Run.exec (@Warehouse.reserve .decimal) reservedStock
      [reserveEight, adjustOut 2]) :=
  @reserved_in_stock .decimal reservedStock _ rfl (by decide +kernel) (by decide +kernel)

/-- Five of the ten units are adjusted away after eight were reserved. -/
theorem reserved_stock_adjusted :
    reservedStock.reservations = ∅ ∧ reservedStock.ok = true ∧
      ¬ @ReservedInStock .decimal (Run.exec (@Warehouse.reserve .decimal) reservedStock
        [reserveEight, adjustOut 5]) := by
  refine ⟨rfl, by decide +kernel, fun h => ?_⟩
  have hcovered := @ReservedInStock.covered .decimal _ h
  revert hcovered
  decide +kernel

end Rotas
