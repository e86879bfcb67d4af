import Rotas.Inventory.StockTurns
import Rotas.Lib.Rounding

/-!
# Rotas.Inventory.Conservation

The stock of an item against its movements, in every interleaving of the transactions that register
them.

* `Lawful`   — the stock is what came in less what went out, and no warehouse has given out more than
  came in to it.
* `Valued`   — a movement changes the value of the stock by its own, up to rounding.
* `Orderly`  — what a commit has to find.
* `stock_conserved` — every interleaving whose commits are orderly is lawful, and values each movement.
* `stock_not_conserved` — a warehouse that gives out what it never had, and two movements that take
  the same stock.
-/

namespace Rotas
namespace Inventory

open Interleave Decimal

/-! ## What is conserved -/

def Stock.total (db : Stock) (kind : MovementType) (itemId : UUID) : Int :=
  db.movements.sumWhere (fun m => m.movementType = kind && m.itemId = itemId) StockMovement.quantity

def Stock.totalAt (db : Stock) (kind : MovementType) (itemId warehouseId : UUID) : Int :=
  db.movements.sumWhere
    (fun m => m.movementType = kind && m.itemId = itemId && m.warehouseId = warehouseId)
    StockMovement.quantity

structure Lawful (db : Stock) : Prop where
  conserved : ∀ item ∈ db.items,
    item.currentStock = db.total .stockIn item.id - db.total .stockOut item.id
  nonneg : ∀ item ∈ db.items, 0 ≤ item.currentStock
  perWarehouse : ∀ item ∈ db.items, ∀ warehouseId,
    db.totalAt .stockOut item.id warehouseId ≤ db.totalAt .stockIn item.id warehouseId

/-- A stored number, to the hundredth. -/
def Near (x : ℚ) (stored : Int) : Prop := |x - (stored : ℚ) / 100| < 1 / 100

def Item.value (item : Item) : ℚ := item.stock * item.cost

def StockMovement.change (m : StockMovement) (value : ℚ) : ℚ :=
  match m.movementType with
  | .stockIn => value
  | .stockOut => -value

/-- The value of the stock changed by exactly that of each new movement, where the stock, the average
cost and the value of the movement are known to the hundredth. -/
def Valued (db p : Stock) : Prop :=
  ∀ m ∈ p.movements, m ∉ db.movements →
    ∀ old, db.items.get m.itemId = some old → ∀ new, p.items.get m.itemId = some new →
      ∃ stock average value : ℚ, Near stock new.currentStock ∧ Near average new.averageUnitCost ∧
        Near value m.totalValue ∧ stock * average = old.value + m.change value

/-! ## What a commit has to find -/

/-- What the stock changes by. -/
def Payload.change : Payload → ℚ
  | .stockIn payload => payload.quantity
  | .stockOut payload => -payload.quantity

structure Request.Fits (r : Request) (seen : Item) (warehouse : Warehouse) (db : Stock) : Prop where
  /-- The item is as it was read. -/
  unmoved : ∀ row, db.items.get seen.id = some row →
    row.currentStock = seen.currentStock ∧ row.averageUnitCost = seen.averageUnitCost
  /-- The new stock rounds to hundredths as the quantity does. -/
  rounds : numeric 2 (newTotalQty seen r.payload.change) =
    seen.currentStock + numeric 2 r.payload.change
  /-- The warehouse has what goes out of it. -/
  stocked : r.payload.kind = .stockOut →
    db.totalAt .stockOut seen.id warehouse.id + numeric 2 r.payload.quantity ≤
      db.totalAt .stockIn seen.id warehouse.id

instance (r : Request) (seen : Item) (warehouse : Warehouse) (db : Stock) :
    Decidable (r.Fits seen warehouse db) :=
  decidable_of_iff
    ((∀ row ∈ db.items.get seen.id, row.currentStock = seen.currentStock ∧
      row.averageUnitCost = seen.averageUnitCost) ∧ _ ∧ _)
    ⟨fun h => ⟨h.1, h.2.1, h.2.2⟩, fun h => ⟨h.unmoved, h.rounds, h.stocked⟩⟩

/-- A movement that the database takes. -/
def Orderly (c : Config StockStore Phase) (m : Nat × Action) : Prop :=
  match m.2, c.parties m.1 with
  | .commit, .placed r item warehouse => c.store.idDefault = true →
    (r.write item warehouse c.store.db).ok = true → r.Fits item warehouse c.store.db
  | _, _ => True

instance (c : Config StockStore Phase) (m : Nat × Action) : Decidable (Orderly c m) := by
  unfold Orderly
  split <;> infer_instance

/-! ## Numbers -/

section Numbers

variable {k : ℕ} {x y : ℚ} {n : Int} {seen row : Item}

theorem numeric_hundredths (n : Int) : numeric 2 ((n : ℚ) / 100) = n := by
  have h := (rounds_numeric 2).exact n
  norm_num at h
  exact h

/-- A number that is some roundoffs off is near what its column holds of it. -/
theorem near_of_within (h : Within k x y) (hk : k ≤ 10) (hfits : fitsNumeric (numeric 2 y) = true) :
    Near x (numeric 2 y) := by
  rw [fitsNumeric, Bool.and_eq_true, decide_eq_true_eq, decide_eq_true_eq] at hfits
  have hlt : (numeric 2 y : ℚ) < 10 ^ 15 := by exact_mod_cast hfits.2
  have hcolumn := abs_sub_numeric 2 y
  have hsmall : (k : ℚ) * roundoff ≤ 10 * roundoff := by
    have hk' : (k : ℚ) ≤ 10 := by exact_mod_cast hk
    exact mul_le_mul_of_nonneg_right hk' (by norm_num [roundoff])
  have hroundoff : 10 * roundoff = 1 / 10 ^ 26 := by norm_num [roundoff]
  have hoff := h.abs_sub_le (hsmall.trans (by norm_num [roundoff]))
  obtain ⟨hlow, hhigh⟩ := abs_le.mp hcolumn
  have hy : y ≤ 10 ^ 13 + 1 := by
    norm_num at hlow hhigh ⊢
    linarith
  have hbound : 2 * y * (k * roundoff) ≤ 2 * (10 ^ 13 + 1) * (1 / 10 ^ 26) := by
    rw [← hroundoff]
    have hy0 := h.nonneg_right
    have hk0 : 0 ≤ (k : ℚ) * roundoff := mul_nonneg (Nat.cast_nonneg k) (by norm_num [roundoff])
    exact mul_le_mul (by linarith) hsmall hk0 (by norm_num)
  obtain ⟨hlow', hhigh'⟩ := abs_le.mp (hoff.trans hbound)
  rw [Near, abs_lt]
  norm_num at hlow hhigh hlow' hhigh' ⊢
  constructor <;> linarith

theorem assign_self (value : ℚ) (seen : Int) : assign value seen seen = numeric 2 value := by
  unfold assign
  split
  · next heq => rw [heq, numeric_hundredths]
  · rfl

theorem numeric_nonneg (h : 0 ≤ x) : 0 ≤ numeric 2 x :=
  (rounds_numeric 2).le_of_le (by simpa using h)

end Numbers

/-! ## One movement -/

section Write

variable {r : Request} {seen item : Item} {warehouse : Warehouse} {db : Stock} {kind : MovementType}
  {itemId warehouseId id : UUID}

@[simp] theorem movement_itemId : (r.movement seen warehouse id).itemId = seen.id := by
  unfold Request.movement
  split <;> rfl

@[simp] theorem movement_warehouseId :
    (r.movement seen warehouse id).warehouseId = warehouse.id := by
  unfold Request.movement
  split <;> rfl

@[simp] theorem movement_type : (r.movement seen warehouse id).movementType = r.payload.kind := by
  unfold Request.movement
  split <;> next h => rw [h]; rfl

@[simp] theorem movement_quantity :
    (r.movement seen warehouse id).quantity = numeric 2 r.payload.quantity := by
  unfold Request.movement
  split <;> next h => rw [h]; rfl

theorem total_write : (r.write seen warehouse db).total kind itemId = db.total kind itemId +
    if r.payload.kind = kind ∧ seen.id = itemId then numeric 2 r.payload.quantity else 0 := by
  rw [Stock.total, Request.write, Table.sumWhere_insert, movement_type, movement_itemId,
    movement_quantity]
  simp only [Bool.and_eq_true, decide_eq_true_eq]
  rfl

theorem totalAt_write :
    (r.write seen warehouse db).totalAt kind itemId warehouseId =
      db.totalAt kind itemId warehouseId +
        if (r.payload.kind = kind ∧ seen.id = itemId) ∧ warehouse.id = warehouseId then
          numeric 2 r.payload.quantity
        else 0 := by
  rw [Stock.totalAt, Request.write, Table.sumWhere_insert, movement_type, movement_itemId,
    movement_warehouseId, movement_quantity]
  simp only [Bool.and_eq_true, decide_eq_true_eq]
  rfl

theorem id_update (p : Payload) (seen row : Item) : (p.update seen row).id = row.id := by
  cases p <;> rfl

theorem stock_update {p : Payload} {row : Item} (h : row.currentStock = seen.currentStock) :
    (p.update seen row).currentStock = numeric 2 (newTotalQty seen p.change) := by
  cases p with
  | stockIn payload => exact (congrArg _ h).trans (assign_self _ _)
  | stockOut payload => exact (congrArg _ h).trans (assign_self _ _)

theorem mem_write_items {new : Item} (h : new ∈ (r.write seen warehouse db).items) :
    ∃ old ∈ db.items, new.id = old.id ∧
      (old.id = seen.id ∧ new = r.payload.update seen old ∨ old.id ≠ seen.id ∧ new = old) := by
  rw [Request.write, Table.mem_modify] at h
  obtain ⟨old, hold, rfl⟩ := h
  refine ⟨old, hold, ?_⟩
  by_cases hid : Keyed.key old = seen.id
  · rw [if_pos hid]
    exact ⟨id_update _ _ _, .inl ⟨hid, rfl⟩⟩
  · rw [if_neg hid]
    exact ⟨rfl, .inr ⟨hid, rfl⟩⟩

/-! ## What one movement keeps -/

/-- Costs are not negative either. -/
structure StockSound (db : Stock) : Prop extends Lawful db where
  costs : ∀ item ∈ db.items, 0 ≤ item.averageUnitCost

theorem stock_change_nonneg {p : Payload} (hstock : 0 ≤ seen.currentStock)
    (hcheck : checkStock seen p = .ok ()) : 0 ≤ seen.stock + p.change := by
  have hseen : 0 ≤ seen.stock := div_nonneg (by exact_mod_cast hstock) (by norm_num)
  cases p with
  | stockIn payload => exact add_nonneg hseen payload.quantity_pos.le
  | stockOut payload =>
    rw [checkStock] at hcheck
    split at hcheck
    · cases hcheck
    · next henough =>
      have hle : payload.quantity ≤ seen.stock := not_lt.mp henough
      rw [Payload.change]
      linarith

theorem newAvgCost_nonneg {quantity unitCost : ℚ} (hstock : 0 ≤ seen.stock) (hcost : 0 ≤ seen.cost)
    (hquantity : 0 < quantity) (hunit : 0 ≤ unitCost) : 0 ≤ newAvgCost seen quantity unitCost := by
  unfold newAvgCost
  dsimp only
  split
  · next hpos =>
    have hheld : 0 ≤ context (seen.stock * seen.cost) := context_nonneg (mul_nonneg hstock hcost)
    have hcame : 0 ≤ context (quantity * unitCost) :=
      context_nonneg (mul_nonneg hquantity.le hunit)
    exact context_nonneg (div_nonneg (context_nonneg (add_nonneg hheld hcame)) hpos.le)
  · exact le_rfl

theorem seen_row {old : Item} (hfits : r.Fits seen warehouse db) (hold : old ∈ db.items)
    (hid : old.id = seen.id) :
    old.currentStock = seen.currentStock ∧ old.averageUnitCost = seen.averageUnitCost :=
  hfits.unmoved old (hid ▸ Table.get_of_mem hold)

theorem conserved_write {old : Item} (hfits : r.Fits seen warehouse db) (hold : old ∈ db.items)
    (hid : old.id = seen.id)
    (h : old.currentStock = db.total .stockIn old.id - db.total .stockOut old.id) :
    (r.payload.update seen old).currentStock =
      (r.write seen warehouse db).total .stockIn old.id -
        (r.write seen warehouse db).total .stockOut old.id := by
  have hstock := (seen_row hfits hold hid).1
  rw [stock_update hstock, hfits.rounds, total_write, total_write, ← hstock, h, hid]
  cases r.payload with
  | stockIn payload =>
    simp only [Payload.kind, Payload.quantity, Payload.change, reduceCtorEq, false_and, true_and,
      if_true, if_false]
    omega
  | stockOut payload =>
    simp only [Payload.kind, Payload.quantity, Payload.change, reduceCtorEq, false_and, true_and,
      if_true, if_false, numeric_neg]
    omega

theorem perWarehouse_write (hfits : r.Fits seen warehouse db)
    (h : db.totalAt .stockOut itemId warehouseId ≤ db.totalAt .stockIn itemId warehouseId) :
    (r.write seen warehouse db).totalAt .stockOut itemId warehouseId ≤
      (r.write seen warehouse db).totalAt .stockIn itemId warehouseId := by
  have hquantity : 0 ≤ numeric 2 r.payload.quantity := numeric_nonneg r.payload.quantity_pos.le
  rw [totalAt_write, totalAt_write]
  cases hpayload : r.payload with
  | stockIn payload =>
    rw [hpayload] at hquantity
    simp only [Payload.kind, reduceCtorEq, false_and, if_false, true_and]
    split <;> omega
  | stockOut payload =>
    have hstocked := hfits.stocked
    rw [hpayload] at hstocked
    replace hstocked := hstocked rfl
    dsimp only [Payload.quantity] at hstocked
    simp only [Payload.kind, reduceCtorEq, false_and, if_false, true_and, Payload.quantity]
    split
    · next hsame =>
      obtain ⟨hitem, hwarehouse⟩ := hsame
      rw [← hitem, ← hwarehouse]
      omega
    · omega

theorem cost_update {payload : StockMovementIn} {old : Item}
    (h : old.averageUnitCost = seen.averageUnitCost) :
    (Payload.update seen (.stockIn payload) old).averageUnitCost =
      numeric 2 (newAvgCost seen payload.quantity payload.unitCost) :=
  (congrArg _ h).trans (assign_self _ _)

theorem hundredths_nonneg {n : Int} (h : 0 ≤ n) : (0 : ℚ) ≤ (n : ℚ) / 100 :=
  div_nonneg (by exact_mod_cast h) (by norm_num)

theorem StockSound.write (h : StockSound db) (hfits : r.Fits seen warehouse db)
    (hcheck : checkStock seen r.payload = .ok ()) : StockSound (r.write seen warehouse db) := by
  refine ⟨⟨fun new hnew => ?_, fun new hnew => ?_, fun new hnew warehouseId => ?_⟩,
    fun new hnew => ?_⟩
  all_goals obtain ⟨old, hold, hid, ⟨hseen, rfl⟩ | ⟨hother, rfl⟩⟩ := mem_write_items hnew
  · rw [hid]
    exact conserved_write hfits hold hseen (h.conserved old hold)
  · rw [total_write, total_write, h.conserved new hold]
    simp [Ne.symm hother]
  · obtain ⟨hstock, -⟩ := seen_row hfits hold hseen
    rw [stock_update hstock]
    refine numeric_nonneg (context_nonneg (stock_change_nonneg ?_ hcheck))
    exact hstock ▸ h.nonneg old hold
  · exact h.nonneg new hold
  · exact perWarehouse_write hfits (hid ▸ h.perWarehouse old hold warehouseId)
  · exact perWarehouse_write hfits (h.perWarehouse new hold warehouseId)
  · obtain ⟨hstock, hcost⟩ := seen_row hfits hold hseen
    cases r.payload with
    | stockIn payload =>
      rw [cost_update hcost]
      exact numeric_nonneg (newAvgCost_nonneg (hundredths_nonneg (hstock ▸ h.nonneg old hold))
        (hundredths_nonneg (hcost ▸ h.costs old hold)) payload.quantity_pos payload.unitCost_nonneg)
    | stockOut payload => exact h.costs old hold
  · exact h.costs new hold

/-- The average cost is four results of the context away from the exact one. -/
theorem newAvgCost_within {quantity unitCost : ℚ} (hstock : 0 ≤ seen.stock) (hcost : 0 ≤ seen.cost)
    (hquantity : 0 < quantity) (hunit : 0 ≤ unitCost) :
    Within 4 ((seen.value + quantity * unitCost) / (seen.stock + quantity))
      (newAvgCost seen quantity unitCost) := by
  have hqty : 0 < seen.stock + quantity := by linarith
  have hnew : 0 < newTotalQty seen quantity :=
    (zpow_pos (by norm_num) _).trans_le (pow_log_le_context hqty)
  have htotal : Within 2 (seen.value + quantity * unitCost)
      (context (context (seen.stock * seen.cost) + context (quantity * unitCost))) :=
    ((context_within (mul_nonneg hstock hcost)).add
      (context_within (mul_nonneg hquantity.le hunit))).context
  rw [newAvgCost, if_pos hnew]
  exact (htotal.div (context_within hqty.le) hqty hnew).context

theorem near_self (n : Int) : Near ((n : ℚ) / 100) n := by
  rw [Near, sub_self, abs_zero]
  norm_num

theorem valued_write (h : StockSound db) (hfits : r.Fits seen warehouse db)
    (hcheck : checkStock seen r.payload = .ok ()) (hok : (r.write seen warehouse db).ok = true) :
    Valued db (r.write seen warehouse db) := by
  intro m hm hfresh old hold new hnew
  obtain rfl : m = r.movement seen warehouse db.movements.freshKey :=
    ((Table.mem_insert _ _ (key_movement r seen warehouse)).mp hm).resolve_left hfresh
  rw [movement_itemId] at hold hnew
  rw [Stock.ok, Bool.and_eq_true, List.all_eq_true, List.all_eq_true] at hok
  have hitem := hok.1 new (Table.mem_of_get hnew)
  have hmovement := hok.2 _ hm
  rw [Item.ok, Bool.and_eq_true] at hitem
  simp only [StockMovement.ok, Bool.and_eq_true] at hmovement
  rw [Request.write, Table.get_modify_self hold] at hnew
  obtain rfl := Option.some.inj hnew
  obtain ⟨hstock, hcost⟩ := hfits.unmoved old hold
  have hstock0 : 0 ≤ seen.currentStock := hstock ▸ h.nonneg old (Table.mem_of_get hold)
  have hcost0 : 0 ≤ seen.cost := hundredths_nonneg (hcost ▸ h.costs old (Table.mem_of_get hold))
  have hvalue : old.value = seen.value := by
    rw [Item.value, Item.stock, Item.cost, hstock, hcost]
    rfl
  have hleft : 0 ≤ seen.stock + r.payload.change := stock_change_nonneg hstock0 hcheck
  have hnear : Near (seen.stock + r.payload.change)
      (r.payload.update seen old).currentStock := by
    rw [stock_update hstock] at hitem ⊢
    exact near_of_within (context_within hleft) (by norm_num) hitem.1
  obtain ⟨tenantId, payload, actorId⟩ := r
  cases payload with
  | stockIn payload =>
    have hqty : 0 < seen.stock + payload.quantity := by
      have := hundredths_nonneg hstock0
      have := payload.quantity_pos
      rw [Item.stock]
      linarith
    rw [cost_update hcost] at hitem
    refine ⟨_, (seen.value + payload.quantity * payload.unitCost) /
      (seen.stock + payload.quantity), payload.quantity * payload.unitCost, hnear, ?_, ?_, ?_⟩
    · rw [cost_update hcost]
      exact near_of_within (newAvgCost_within (hundredths_nonneg hstock0) hcost0
        payload.quantity_pos payload.unitCost_nonneg) (by norm_num) hitem.2
    · exact near_of_within (context_within
        (mul_nonneg payload.quantity_pos.le payload.unitCost_nonneg)) (by norm_num) hmovement.1.2
    · rw [hvalue]
      exact mul_div_cancel₀ _ hqty.ne'
  | stockOut payload =>
    refine ⟨_, seen.cost, payload.quantity * seen.cost, hnear, ?_, ?_, ?_⟩
    · rw [Item.cost, ← hcost]
      exact near_self _
    · exact near_of_within (context_within (mul_nonneg payload.quantity_pos.le hcost0))
        (by norm_num) hmovement.1.2
    · rw [hvalue, Payload.change, Item.value]
      change (seen.stock + -payload.quantity) * seen.cost =
        seen.stock * seen.cost + -(payload.quantity * seen.cost)
      ring

end Write

/-! ## Interleavings -/

/-- What a transaction takes was there when it read. -/
def Phase.Checked : Phase → Prop
  | .idle => True
  | .read r item => checkStock item r.payload = .ok ()
  | .placed r item _ => checkStock item r.payload = .ok ()

section Runs

variable {i : Nat} {act : Action} {s s' : StockStore} {p q : Phase}
  {c : Config StockStore Phase} {m : Nat × Action} {ms : List (Nat × Action)}

theorem checkStock_of_read {r : Request} {db : Stock} {item : Item} (h : r.read db = .ok item) :
    checkStock item r.payload = .ok () := by
  unfold Request.read at h
  cases hitem : requireItem r.tenantId r.payload.itemId db with
  | error e =>
    rw [hitem] at h
    cases h
  | ok found =>
    rw [hitem] at h
    cases hcheck : checkStock found r.payload with
    | error e =>
      have h' : (checkStock found r.payload >>= fun _ => pure found) = .ok item := h
      rw [hcheck] at h'
      cases h'
    | ok u =>
      have h' : (checkStock found r.payload >>= fun _ => pure found) = .ok item := h
      rw [hcheck] at h'
      cases h'
      exact hcheck

/-- A turn reads or gives up, or commits a movement that the database takes. -/
theorem stockTurn_cases (hp : p.Checked) (h : stockTurn i act s p = some (s', q)) :
    q.Checked ∧ (s' = s ∨ ∃ r item warehouse, act = .commit ∧ p = .placed r item warehouse ∧
      s.idDefault = true ∧ (r.write item warehouse s.db).ok = true ∧
      s'.db = r.write item warehouse s.db) := by
  unfold stockTurn at h
  split at h
  · next r =>
    split at h <;> cases h
    · exact ⟨trivial, .inl rfl⟩
    · next hread => exact ⟨checkStock_of_read hread, .inl rfl⟩
  · split at h <;> cases h
    · exact ⟨trivial, .inl rfl⟩
    · exact ⟨hp, .inl rfl⟩
  · next r item warehouse =>
    split at h <;> cases h
    · next htaken =>
      obtain ⟨hid, hok⟩ := Bool.and_eq_true_iff.mp htaken
      exact ⟨trivial, .inr ⟨r, item, warehouse, rfl, rfl, hid, hok, rfl⟩⟩
    · exact ⟨trivial, .inl rfl⟩
  · cases h
    exact ⟨trivial, .inl rfl⟩
  · cases h

theorem valued_refl (db : Stock) : Valued db db := fun _ hm hnew => absurd hm hnew

/-- An orderly turn keeps the stock sound, and values its movement. -/
theorem orderly_turn (hp : (c.parties i).Checked) (hsound : StockSound c.store.db)
    (horderly : Orderly c (i, act)) (h : stockTurn i act c.store (c.parties i) = some (s', q)) :
    StockSound s'.db ∧ Valued c.store.db s'.db := by
  rcases (stockTurn_cases hp h).2 with rfl | ⟨r, item, warehouse, rfl, hplaced, hid, hok, hdb⟩
  · exact ⟨hsound, valued_refl _⟩
  · rw [Orderly, hplaced] at horderly
    rw [hplaced] at hp
    have hfits := horderly hid hok
    rw [hdb]
    exact ⟨hsound.write hfits hp, valued_write hsound hfits hp hok⟩

def StockInv (c : Config StockStore Phase) : Prop :=
  Holds (fun s => StockSound s.db) (fun _ _ p => p.Checked) c

theorem stockInv_move (h : StockInv c) (horderly : Orderly c m) :
    StockInv (move stockTurn c m) := by
  refine holds_move (C := Orderly) ?_ ?_ h horderly
  · intro c i act s' q hI hC hturn
    exact ⟨(orderly_turn (hI.party i) hI.store hC hturn).1, (stockTurn_cases (hI.party i) hturn).1⟩
  · intro c i act s' q hI _ _ j _
    exact hI.party j

theorem valued_move (h : StockInv c) (horderly : Orderly c m) :
    Valued c.store.db (move stockTurn c m).store.db := by
  rcases move_cases stockTurn c m with hsame | ⟨s', q, hturn, hmove⟩
  · rw [hsame]
    exact valued_refl _
  · rw [hmove]
    exact (orderly_turn (h.party m.1) h.store horderly hturn).2

/-- However the movements interleave, if every commit that the database takes is orderly: after each
turn the stock of every item is what came in less what went out and not negative, no warehouse has
given out more than it had, and the value of the stock has changed by that of the movement. -/
theorem stock_conserved (hidle : ∀ i, c.parties i = .idle) (hsound : StockSound c.store.db)
    (horderly : Run.Along (move stockTurn) Orderly c ms) :
    Run.Along (move stockTurn) (fun c m => Lawful (move stockTurn c m).store.db ∧
      Valued c.store.db (move stockTurn c m).store.db) c ms := by
  have hparty : ∀ i, (c.parties i).Checked := by
    intro i
    rw [hidle i]
    trivial
  refine Run.along_inv (I := StockInv) (C := Orderly) ?_ ?_ ⟨hsound, hparty⟩ horderly
  · exact fun _ _ hI hC => stockInv_move hI hC
  · exact fun _ _ hI hC => ⟨(stockInv_move hI hC).store.toLawful, valued_move hI hC⟩

end Runs

/-! ## Two warehouses -/

/-- An item without stock; its movements are given ids. -/
def twoWarehouses : Config StockStore Phase where
  store :=
    { db :=
        { warehouses := (Table.single { id := 1, tenantId := 1 }).insert fun id =>
            { id, tenantId := 1 }
          items := .single { id := 1, tenantId := 1 } }
      idDefault := true }
  parties _ := .idle

def tenIn : Request where
  tenantId := 1
  payload := .stockIn { itemId := 1, warehouseId := 1, quantity := 10, unitCost := 5 }

def fourOut (warehouseId : UUID) : Request where
  tenantId := 1
  payload := .stockOut { itemId := 1, warehouseId, quantity := 4 }

def eightOut : Request where
  tenantId := 1
  payload := .stockOut { itemId := 1, warehouseId := 1, quantity := 8 }

def served (r : Request) : List (Nat × Action) :=
  [(0, .register r), (0, .findWarehouse), (0, .commit)]

theorem twoWarehouses_sound : StockSound twoWarehouses.store.db := by
  have hitem : ∀ item ∈ twoWarehouses.store.db.items, item = { id := 1, tenantId := 1 } :=
    fun item hitem => List.mem_singleton.mp hitem
  refine ⟨⟨fun item h => ?_, fun item h => ?_, fun item h warehouseId => le_rfl⟩, fun item h => ?_⟩
  · rw [hitem item h]
    rfl
  · rw [hitem item h]
  · rw [hitem item h]

theorem ten_in_four_out :
    Run.Along (move stockTurn) (fun c m => Lawful (move stockTurn c m).store.db ∧
      Valued c.store.db (move stockTurn c m).store.db) twoWarehouses
      (served tenIn ++ served (fourOut 1)) := by
  have horderly : Run.Along (move stockTurn) Orderly twoWarehouses
      (served tenIn ++ served (fourOut 1)) := by decide +kernel
  exact stock_conserved (fun _ => rfl) twoWarehouses_sound horderly

/-- Four of the ten in one warehouse are given out by the other; and two transactions take eight of
the same ten. -/
theorem stock_not_conserved :
    (∀ i, twoWarehouses.parties i = .idle) ∧ StockSound twoWarehouses.store.db ∧
      ¬ Lawful (Run.exec (move stockTurn) twoWarehouses
        (served tenIn ++ served (fourOut 2))).store.db ∧
      ¬ Lawful (Run.exec (move stockTurn) twoWarehouses
        (served tenIn ++ [(0, .register eightOut), (1, .register eightOut), (0, .findWarehouse),
          (1, .findWarehouse), (0, .commit), (1, .commit)])).store.db := by
  refine ⟨fun _ => rfl, twoWarehouses_sound, fun h => ?_, fun h => ?_⟩
  · have hle := h.perWarehouse { id := 1, tenantId := 1, currentStock := 600, averageUnitCost := 500 }
      (by rw [Table.mem_def]; decide +kernel) 2
    exact absurd hle (by decide +kernel)
  · have heq := h.conserved { id := 1, tenantId := 1, currentStock := 200, averageUnitCost := 500 }
      (by rw [Table.mem_def]; decide +kernel)
    exact absurd heq (by decide +kernel)

end Inventory
end Rotas
