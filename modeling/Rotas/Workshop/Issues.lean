import Rotas.Lib.Evolution
import Rotas.Lib.Fifo
import Rotas.Workshop.Postings

/-!
# Rotas.Workshop.Issues

What an issue to a work order makes of the reservations it draws on.

* `PartReservation.after` — a reservation after something, or nothing, was taken of it.
* `consume_get`    — using up is first in, first out.
* `reservedAs_consume` — what is taken is consumed, and the rest is released.
* `IssuedInOrder`  — an accepted issue: the order of the reservations, and the balance.
* `issue_conserves` — every issue is one, or changes nothing.
-/

namespace Rotas

open Work

/-! ## One reservation -/

/-- Nothing was taken, or some of it; what is left over goes back to the stock. -/
def PartReservation.after (r : PartReservation) : Option Int → PartReservation
  | none => { r with status := .released }
  | some t => { r with quantityReserved := t, status := .consumed }

def PartReservation.isFor (r : PartReservation) (tenantId workOrderId inventoryId : UUID) : Bool :=
  r.tenantId = tenantId && r.workOrderId = some workOrderId && r.inventoryId = inventoryId

/-- What the reservations of an order for a part come to that have a status. -/
def Warehouse.reservedAs (db : Warehouse) (tenantId workOrderId inventoryId : UUID)
    (status : ReservationStatus) : Int :=
  db.reservations.sumWhere
    (fun r => r.isFor tenantId workOrderId inventoryId && r.status = status)
    PartReservation.quantityReserved

section

variable {db : Warehouse} {tenantId workOrderId inventoryId : UUID} {r : PartReservation}
  {rs : List PartReservation} {n : Int}

theorem mem_reservationsOf : r ∈ db.reservationsOf tenantId workOrderId inventoryId ↔
    r ∈ db.reservations ∧ r.isFor tenantId workOrderId inventoryId = true ∧ r.isOpen = true := by
  simp only [Warehouse.reservationsOf, PartReservation.isFor, List.mem_filter, Bool.and_eq_true,
    and_assoc]
  rfl

theorem setReservation_get_self (hget : db.reservations.get r.id = some r) (q : Int)
    (status : ReservationStatus) : (db.setReservation r.id q status).reservations.get r.id =
      some { r with quantityReserved := q, status } := by
  rw [Warehouse.setReservation, Table.get_modify, if_pos rfl, hget]
  rfl

theorem setReservation_get_ne {id id' : UUID} (hne : id ≠ id')
    (hget : db.reservations.get id = some r) (q : Int) (status : ReservationStatus) :
    (db.setReservation id' q status).reservations.get id = some r := by
  rw [Warehouse.setReservation, Table.get_modify_ne hne, hget]

/-- A reservation that was open now counts under its new status. -/
theorem reservedAs_setReservation (hget : db.reservations.get r.id = some r)
    (hfor : r.isFor tenantId workOrderId inventoryId = true) (hopen : r.isOpen = true) (q : Int)
    {status s : ReservationStatus} (hs : s = .consumed ∨ s = .released) :
    (db.setReservation r.id q status).reservedAs tenantId workOrderId inventoryId s =
      db.reservedAs tenantId workOrderId inventoryId s + if status = s then q else 0 := by
  have hnot : r.status ≠ s := by
    rintro rfl
    rcases hs with hs | hs <;> simp [PartReservation.isOpen, hs] at hopen
  have hfor' : ({ r with quantityReserved := q, status } : PartReservation).isFor tenantId
      workOrderId inventoryId = true := hfor
  rw [Warehouse.reservedAs, Warehouse.setReservation, Table.sumWhere_modify _ _ hget]
  simp only [Table.weight, hfor, hfor', hnot, Bool.true_and, decide_false, decide_eq_true_eq,
    Bool.false_eq_true, if_false, sub_zero]
  rfl

/-! ## Using reservations up -/

theorem consume_partsUsed (tenantId workOrderId inventoryId : UUID) (rs : List PartReservation)
    (n : Int) (db : Warehouse) :
    (consume tenantId workOrderId inventoryId rs n db).partsUsed = db.partsUsed := by
  induction rs generalizing n db with
  | nil => rfl
  | cons res rest ih =>
    unfold consume
    split
    · exact ih _ _
    · split
      · exact ih _ _
      · exact ih _ _

theorem consume_get_other {id : UUID} (hid : ∀ r ∈ rs, id ≠ r.id)
    (hget : db.reservations.get id = some r) :
    (consume tenantId workOrderId inventoryId rs n db).reservations.get id = some r := by
  induction rs generalizing n db with
  | nil => exact hget
  | cons res rest ih =>
    obtain ⟨hne, hrest⟩ := List.forall_mem_cons.mp hid
    have hset := setReservation_get_ne hne hget
    unfold consume
    split
    · exact ih hrest (hset _ _)
    · split
      · exact ih hrest (hset _ _)
      · exact ih hrest (Table.get_insert_of_get _ _ _ (hset _ _))

theorem consume_get (hnodup : (rs.map PartReservation.id).Nodup)
    (hget : ∀ r ∈ rs, db.reservations.get r.id = some r) :
    ∀ e ∈ rs.zip (Fifo.take (rs.map PartReservation.quantityReserved) n),
      (consume tenantId workOrderId inventoryId rs n db).reservations.get e.1.id =
        some (e.1.after e.2) := by
  induction rs generalizing n db with
  | nil => simp
  | cons res rest ih =>
    rw [List.map_cons, List.nodup_cons] at hnodup
    obtain ⟨hres, hrest⟩ := List.forall_mem_cons.mp hget
    have hne : ∀ r ∈ rest, res.id ≠ r.id := fun r hr he =>
      hnodup.1 (he ▸ List.mem_map_of_mem hr)
    have hset : ∀ q status, ∀ r ∈ rest,
        (db.setReservation res.id q status).reservations.get r.id = some r := fun q status r hr =>
      setReservation_get_ne (hne r hr).symm (hrest r hr) q status
    have hself := setReservation_get_self hres
    rw [List.map_cons, Fifo.take, consume]
    split
    · rw [List.zip_cons_cons, List.forall_mem_cons]
      exact ⟨consume_get_other hne (hself _ _), ih hnodup.2 (hset _ _)⟩
    · rw [List.zip_cons_cons, List.forall_mem_cons]
      split
      · next hq =>
        rw [min_eq_left hq]
        exact ⟨consume_get_other hne (hself _ _), ih hnodup.2 (hset _ _)⟩
      · next hq =>
        rw [min_eq_right (by omega), sub_self]
        refine ⟨consume_get_other hne (Table.get_insert_of_get _ _ _ (hself _ _)), ?_⟩
        exact ih hnodup.2 fun r hr => Table.get_insert_of_get _ _ _ (hset _ _ r hr)

theorem open_of_mem_set {id : UUID} {q : Int} {status : ReservationStatus} (hopen : r.isOpen = true)
    (hstatus : status = .released ∨ status = .consumed)
    (hr : r ∈ (db.setReservation id q status).reservations) : r ∈ db.reservations ∧ r.id ≠ id := by
  simp only [Warehouse.setReservation, Table.mem_modify] at hr
  obtain ⟨r₀, hr₀, rfl⟩ := hr
  split at hopen
  · rcases hstatus with rfl | rfl <;> cases hopen
  · next hne =>
    rw [if_neg hne]
    exact ⟨hr₀, hne⟩

theorem open_of_mem_consume
    (hr : r ∈ (consume tenantId workOrderId inventoryId rs n db).reservations)
    (hopen : r.isOpen = true) : r ∈ db.reservations ∧ ∀ r' ∈ rs, r.id ≠ r'.id := by
  induction rs generalizing n db with
  | nil => exact ⟨hr, by simp⟩
  | cons res rest ih =>
    unfold consume at hr
    split at hr
    · obtain ⟨hr, hrest⟩ := ih hr
      obtain ⟨hr, hne⟩ := open_of_mem_set hopen (.inl rfl) hr
      exact ⟨hr, List.forall_mem_cons.mpr ⟨hne, hrest⟩⟩
    · split at hr
      · obtain ⟨hr, hrest⟩ := ih hr
        obtain ⟨hr, hne⟩ := open_of_mem_set hopen (.inr rfl) hr
        exact ⟨hr, List.forall_mem_cons.mpr ⟨hne, hrest⟩⟩
      · obtain ⟨hr, hrest⟩ := ih hr
        rcases (Table.mem_insert _ _ _).mp hr with hr | rfl
        · obtain ⟨hr, hne⟩ := open_of_mem_set hopen (.inr rfl) hr
          exact ⟨hr, List.forall_mem_cons.mpr ⟨hne, hrest⟩⟩
        · cases hopen

/-- What is left over of a reservation, as a row of its own. -/
def Warehouse.addSurplus (db : Warehouse) (tenantId workOrderId inventoryId : UUID)
    (res : PartReservation) (quantityReserved : Int) : Warehouse :=
  { db with
    reservations := db.reservations.insert fun id =>
      { id, tenantId, inventoryId, quoteId := res.quoteId, workOrderId := some workOrderId
        quantityReserved
        status := .released } }

theorem reservedAs_addSurplus {res : PartReservation} {q : Int} {s : ReservationStatus} :
    (db.addSurplus tenantId workOrderId inventoryId res q).reservedAs tenantId workOrderId
        inventoryId s = db.reservedAs tenantId workOrderId inventoryId s +
          if ReservationStatus.released = s then q else 0 := by
  rw [Warehouse.reservedAs, Warehouse.addSurplus, Table.sumWhere_insert]
  simp [PartReservation.isFor, Warehouse.reservedAs]

theorem reservedAs_consume (hnodup : (rs.map PartReservation.id).Nodup)
    (hrs : ∀ r ∈ rs, db.reservations.get r.id = some r ∧
      r.isFor tenantId workOrderId inventoryId = true ∧ r.isOpen = true) :
    let taken := ((Fifo.take (rs.map PartReservation.quantityReserved) n).map Fifo.amount).sum
    let p := consume tenantId workOrderId inventoryId rs n db
    p.reservedAs tenantId workOrderId inventoryId .consumed =
        db.reservedAs tenantId workOrderId inventoryId .consumed + taken ∧
      p.reservedAs tenantId workOrderId inventoryId .released =
        db.reservedAs tenantId workOrderId inventoryId .released +
          ((rs.map PartReservation.quantityReserved).sum - taken) := by
  dsimp only
  induction rs generalizing n db with
  | nil => simp [consume]
  | cons res rest ih =>
    rw [List.map_cons, List.nodup_cons] at hnodup
    obtain ⟨⟨hres, hfor, hopen⟩, hrest⟩ := List.forall_mem_cons.mp hrs
    have hne : ∀ r ∈ rest, res.id ≠ r.id := fun r hr he =>
      hnodup.1 (he ▸ List.mem_map_of_mem hr)
    have hset : ∀ q status, ∀ r ∈ rest,
        (db.setReservation res.id q status).reservations.get r.id = some r := fun q status r hr =>
      setReservation_get_ne (hne r hr).symm (hrest r hr).1 q status
    rw [List.map_cons, List.sum_cons, Fifo.take, consume]
    split
    · obtain ⟨hconsumed, hreleased⟩ :=
        ih (n := n) hnodup.2 fun r hr => ⟨hset _ _ r hr, (hrest r hr).2⟩
      rw [hconsumed, hreleased, reservedAs_setReservation hres hfor hopen _ (.inl rfl),
        reservedAs_setReservation hres hfor hopen _ (.inr rfl)]
      simp [Fifo.amount]
      omega
    · split
      · next hq =>
        obtain ⟨hconsumed, hreleased⟩ :=
          ih (n := n - res.quantityReserved) hnodup.2 fun r hr => ⟨hset _ _ r hr, (hrest r hr).2⟩
        rw [hconsumed, hreleased, reservedAs_setReservation hres hfor hopen _ (.inl rfl),
          reservedAs_setReservation hres hfor hopen _ (.inr rfl), min_eq_left hq]
        simp [Fifo.amount]
        omega
      · next hq =>
        -- the last one that is reached: what is left over of it is a reservation of its own
        have hrest' : ∀ r ∈ rest, ((db.setReservation res.id n .consumed).addSurplus tenantId
            workOrderId inventoryId res (res.quantityReserved - n)).reservations.get r.id = some r ∧
            r.isFor tenantId workOrderId inventoryId = true ∧ r.isOpen = true := fun r hr =>
          ⟨Table.get_insert_of_get _ _ _ (hset _ _ r hr), (hrest r hr).2⟩
        obtain ⟨hconsumed, hreleased⟩ := ih (n := 0) hnodup.2 hrest'
        rw [min_eq_right (by omega), sub_self]
        refine ⟨hconsumed.trans ?_, hreleased.trans ?_⟩
        · rw [reservedAs_addSurplus, reservedAs_setReservation hres hfor hopen _ (.inl rfl)]
          simp [Fifo.amount]
          omega
        · rw [reservedAs_addSurplus, reservedAs_setReservation hres hfor hopen _ (.inr rfl)]
          simp [Fifo.amount]
          omega

end

/-! ## Issues -/

/-- What was taken of each of the reservations: `n` in all, and of none before those ahead of it are
used up. -/
structure TakenInOrder (rs : List PartReservation) (ts : List (Option Int)) (n : Int)
    (p : Warehouse) : Prop where
  length : ts.length = rs.length
  total : (ts.map Fifo.amount).sum = n
  rows : ∀ e ∈ rs.zip ts, p.reservations.get e.1.id = some (e.1.after e.2)
  within : ∀ e ∈ rs.zip ts, ∀ t, e.2 = some t → t ≤ e.1.quantityReserved
  order : (rs.zip ts).Pairwise fun e e' => e'.2.isSome = true → e.2 = some e.1.quantityReserved

/-- `n` goes out of stock by one movement and is used on the order. It is taken of the open
reservations, which are used up or released, and what is left over of them is released. -/
structure IssuedInOrder (tenantId workOrderId inventoryId : UUID) (n : Int) (db p : Warehouse) :
    Prop where
  taken : ∃ ts, TakenInOrder (db.reservationsOf tenantId workOrderId inventoryId) ts n p
  closed : p.reservationsOf tenantId workOrderId inventoryId = []
  consumed : p.reservedAs tenantId workOrderId inventoryId .consumed =
    db.reservedAs tenantId workOrderId inventoryId .consumed + n
  released : p.reservedAs tenantId workOrderId inventoryId .released =
    db.reservedAs tenantId workOrderId inventoryId .released +
      (((db.reservationsOf tenantId workOrderId inventoryId).map
        PartReservation.quantityReserved).sum - n)
  others : ∀ r ∈ db.reservations, r ∉ db.reservationsOf tenantId workOrderId inventoryId →
    r ∈ p.reservations
  movement : ∃ m, p.movements.rows = db.movements.rows ++ [m] ∧ m.inventoryId = inventoryId ∧
    m.direction = .outward ∧ m.quantity = n ∧ m.sourceId = some workOrderId
  stock : ∀ id, p.spareParts.get id = (db.spareParts.get id).map fun part =>
    if id = inventoryId then { part with currentQuantity := part.currentQuantity - n } else part
  used : ∃ u, p.partsUsed.rows = db.partsUsed.rows ++ [u] ∧ u.workOrderId = workOrderId ∧
    u.inventoryId = inventoryId ∧ u.quantity = n

section

variable {db p : Warehouse} {tenantId workOrderId inventoryId : UUID} {n : Int}

theorem issuePartChecks_eq_ok {wo : WorkOrder} {inv : SparePart}
    (h : issuePartChecks tenantId workOrderId inventoryId n db = .ok (wo, inv)) :
    0 < n ∧ wo.id = workOrderId ∧ db.spareParts.get inventoryId = some inv ∧ inv.id = inventoryId ∧
      n ≤ ((db.reservationsOf tenantId workOrderId inventoryId).map
        PartReservation.quantityReserved).sum := by
  simp only [issuePartChecks, requireOpenOrder, bind_eq_ok, require_eq_ok, raiseIf_eq_ok, pure,
    Except.pure, Except.ok.injEq, Prod.mk.injEq, decide_eq_false_iff_not, not_le, not_lt] at h
  obtain ⟨_, hpos, wo', ⟨_, hwo, _, _, rfl⟩, inv', hpart, _, _, _, hceiling, rfl, rfl⟩ := h
  obtain ⟨hget, -⟩ := Option.filter_eq_some_iff.mp hwo
  exact ⟨hpos, Table.key_of_get hget, (requirePart_eq_ok hpart).1, (requirePart_eq_ok hpart).2,
    hceiling⟩

theorem reservationsOf_nodup :
    ((db.reservationsOf tenantId workOrderId inventoryId).map PartReservation.id).Nodup :=
  db.reservations.nodup.sublist (List.filter_sublist.map _)

theorem taken_consume (hn : 0 ≤ n)
    (hle : n ≤ ((db.reservationsOf tenantId workOrderId inventoryId).map
      PartReservation.quantityReserved).sum) :
    let rs := db.reservationsOf tenantId workOrderId inventoryId
    TakenInOrder rs (Fifo.take (rs.map PartReservation.quantityReserved) n) n
      (consume tenantId workOrderId inventoryId rs n db) where
  length := by simp
  total := Fifo.sum_take hn hle
  rows := consume_get reservationsOf_nodup fun r hr =>
    Table.get_of_mem (mem_reservationsOf.mp hr).1
  within e he t ht := by
    have hmem := List.mem_map_of_mem (f := Prod.map PartReservation.quantityReserved id) he
    rw [← List.zip_map_left] at hmem
    exact Fifo.le_of_mem_take hmem ht
  order := by
    have horder := Fifo.wholly_before ((db.reservationsOf tenantId workOrderId inventoryId).map
      PartReservation.quantityReserved) n
    rw [List.zip_map_left, List.pairwise_map] at horder
    exact horder

theorem closed_consume (n : Int) :
    (consume tenantId workOrderId inventoryId (db.reservationsOf tenantId workOrderId inventoryId)
      n db).reservationsOf tenantId workOrderId inventoryId = [] := by
  refine List.eq_nil_iff_forall_not_mem.mpr fun r hr => ?_
  obtain ⟨hmem, hfor, hopen⟩ := mem_reservationsOf.mp hr
  obtain ⟨hdb, hne⟩ := open_of_mem_consume hmem hopen
  exact hne r (mem_reservationsOf.mpr ⟨hdb, hfor, hopen⟩) rfl

theorem others_consume {r : PartReservation} (hr : r ∈ db.reservations)
    (hnot : r ∉ db.reservationsOf tenantId workOrderId inventoryId) :
    r ∈ (consume tenantId workOrderId inventoryId
      (db.reservationsOf tenantId workOrderId inventoryId) n db).reservations := by
  refine Table.mem_of_get (consume_get_other (fun r' hr' he => hnot ?_) (Table.get_of_mem hr))
  rwa [Table.eq_of_key hr (mem_reservationsOf.mp hr').1 he]

end

/-- An issue that is accepted takes the requested quantity of the open reservations in their order,
leaves nothing open, and posts it once. One that is refused changes nothing. -/
theorem issue_conserves [Rendering] (now : Instant) (tenantId workOrderId inventoryId : UUID)
    (quantityRequested : ℚ) (actorId : Option UUID) (notes : Option String) (db : Warehouse) :
    match serve (atomic (ofExcept (issuePartsForWorkOrder now tenantId workOrderId inventoryId
      quantityRequested actorId notes))) db with
    | (.ok _, p) =>
      IssuedInOrder tenantId workOrderId inventoryId (thousandths quantityRequested) db p
    | (.error _, p) => p = db := by
  rcases serve_atomic_cases (ofExcept (issuePartsForWorkOrder now tenantId workOrderId inventoryId
    quantityRequested actorId notes)) db with ⟨a, p, hissue, -, hserve⟩ | ⟨e, hserve⟩
  · rw [hserve]
    rw [ofExcept_ok] at hissue
    simp only [issuePartsForWorkOrder, bind_eq_ok, pure, Except.pure, Except.ok.injEq,
      Prod.mk.injEq] at hissue
    obtain ⟨⟨wo, inv⟩, hchecks, -, rfl⟩ := hissue
    obtain ⟨hpos, hwo, hget, hid, hle⟩ := issuePartChecks_eq_ok hchecks
    obtain ⟨hparts, hmovements⟩ := consume_stock tenantId workOrderId inventoryId
      (db.reservationsOf tenantId workOrderId inventoryId) (thousandths quantityRequested) db
    have hused := consume_partsUsed tenantId workOrderId inventoryId
      (db.reservationsOf tenantId workOrderId inventoryId) (thousandths quantityRequested) db
    have htaken := taken_consume (n := thousandths quantityRequested) (by omega) hle
    obtain ⟨hconsumed, hreleased⟩ := reservedAs_consume (n := thousandths quantityRequested)
      reservationsOf_nodup fun r (hr : r ∈ db.reservationsOf tenantId workOrderId inventoryId) =>
        ⟨Table.get_of_mem (mem_reservationsOf.mp hr).1, (mem_reservationsOf.mp hr).2⟩
    rw [htaken.total] at hconsumed hreleased
    constructor
    · exact ⟨_, htaken.length, htaken.total, htaken.rows, htaken.within, htaken.order⟩
    · exact closed_consume _
    · exact hconsumed
    · exact hreleased
    · exact fun r hr hnot => others_consume hr hnot
    · exact ⟨_, congrArg (· ++ [_]) (congrArg Table.rows hmovements), hid, rfl, rfl,
        congrArg some hwo⟩
    · intro id
      rw [Warehouse.post, Table.get_modify, hparts]
      by_cases hpart : id = inventoryId
      · simp [hpart, issueMovement, hid, hget]
      · have hne : id ≠ inv.id := hid ▸ hpart
        simp [hpart, issueMovement, hne]
    · exact ⟨_, congrArg (· ++ [_]) (congrArg Table.rows hused), rfl, rfl, rfl⟩
  · rw [hserve]

/-- Eight litres of oil are reserved for an order, of ten that are there. -/
def oilReserved : Warehouse where
  spareParts := .single { id := 1, tenantId := 1, currentQuantity := 10000 }
  workOrders := .single { id := 1, tenantId := 1, workOrderNumber := "OS-1", status := .approved }
  reservations :=
    .single { id := 1, tenantId := 1, inventoryId := 1, workOrderId := some 1
              quantityReserved := 8000 }

/-- Seven and a half litres go out, and the rest is released: it is not reserved any more. -/
theorem surplus_not_reserved :
    let db := oilReserved
    let p := perform (@issuePartsForWorkOrder .decimal 100 1 1 1 (15 / 2) none none) db
    p.partsUsed.rows.map MaintenancePartUsed.quantity = [7500] ∧
      ((p.reservationsOf 1 1 1).map PartReservation.quantityReserved).sum +
        p.reservedAs 1 1 1 .consumed ≠
        ((db.reservationsOf 1 1 1).map PartReservation.quantityReserved).sum := by
  decide +kernel

end Rotas
