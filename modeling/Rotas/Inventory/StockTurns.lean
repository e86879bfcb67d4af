import Rotas.Data
import Rotas.Lib.Decimal
import Rotas.Lib.Interleave
import Rotas.Lib.Table

/-!
# Rotas.Inventory.StockTurns

The stock of items in warehouses, and its movements as transactions that run at the same time. A
movement reads its item, then its warehouse, and writes at its commit what it computed from them; no
row is locked before.

* `Item`, `StockMovement` — stock, costs and values in hundredths.
* `Phase`, `Action`, `stockTurn` — the steps of a transaction.

A movement has no id until the database gives it one. The model of the rows has no default for it,
nor has the migration that creates the table; `StockStore.idDefault` says whether the database has.
-/

namespace Rotas
namespace Inventory

open Interleave Decimal

structure Warehouse where
  id : UUID
  tenantId : UUID

structure Item where
  id : UUID
  tenantId : UUID
  currentStock : Int := 0
  averageUnitCost : Int := 0
  deriving DecidableEq

inductive MovementType where
  | stockIn | stockOut
  deriving DecidableEq

structure StockMovement where
  id : UUID
  tenantId : UUID
  itemId : UUID
  warehouseId : UUID
  movementType : MovementType
  quantity : Int
  unitCost : Int
  totalValue : Int
  referenceDoc : Option String := none
  notes : Option String := none
  createdBy : Option UUID := none

instance : Keyed Warehouse := ⟨Warehouse.id⟩
instance : Keyed Item := ⟨Item.id⟩
instance : Keyed StockMovement := ⟨StockMovement.id⟩

structure Stock where
  warehouses : Table Warehouse := ∅
  items : Table Item := ∅
  movements : Table StockMovement := ∅

/-! ## Requests -/

structure StockMovementIn where
  itemId : UUID
  warehouseId : UUID
  quantity : ℚ
  unitCost : ℚ
  referenceDoc : Option String := none
  notes : Option String := none
  quantity_pos : 0 < quantity := by norm_num
  unitCost_nonneg : 0 ≤ unitCost := by norm_num

structure StockMovementOut where
  itemId : UUID
  warehouseId : UUID
  quantity : ℚ
  referenceDoc : Option String := none
  notes : Option String := none
  quantity_pos : 0 < quantity := by norm_num

inductive Payload where
  | stockIn (payload : StockMovementIn)
  | stockOut (payload : StockMovementOut)

structure Request where
  tenantId : UUID
  payload : Payload
  actorId : Option UUID := none

structure HTTPException where
  statusCode : Nat
  detail : String
  deriving DecidableEq

def Payload.itemId : Payload → UUID
  | .stockIn payload => payload.itemId
  | .stockOut payload => payload.itemId

def Payload.warehouseId : Payload → UUID
  | .stockIn payload => payload.warehouseId
  | .stockOut payload => payload.warehouseId

def Payload.kind : Payload → MovementType
  | .stockIn _ => .stockIn
  | .stockOut _ => .stockOut

def Payload.quantity : Payload → ℚ
  | .stockIn payload => payload.quantity
  | .stockOut payload => payload.quantity

theorem Payload.quantity_pos (p : Payload) : 0 < p.quantity := by
  cases p with
  | stockIn payload => exact payload.quantity_pos
  | stockOut payload => exact payload.quantity_pos

/-! ## Reads -/

def itemNotFound : HTTPException := ⟨404, "Item not found"⟩

def requireItem (tenantId itemId : UUID) (db : Stock) : Except HTTPException Item :=
  match (db.items.get itemId).filter (·.tenantId = tenantId) with
  | some item => .ok item
  | none => .error itemNotFound

def requireWarehouse (tenantId warehouseId : UUID) (db : Stock) : Except HTTPException Warehouse :=
  match (db.warehouses.get warehouseId).filter (·.tenantId = tenantId) with
  | some warehouse => .ok warehouse
  | none => .error ⟨404, "Warehouse not found"⟩

/-- What goes out is compared with the whole stock of the item. -/
def checkStock (item : Item) : Payload → Except HTTPException Unit
  | .stockIn _ => .ok ()
  | .stockOut payload =>
    if (item.currentStock : ℚ) / 100 < payload.quantity then .error ⟨400, "Insufficient stock"⟩
    else .ok ()

/-- The item that a request reads, if it is there and has enough. -/
def Request.read (r : Request) (db : Stock) : Except HTTPException Item := do
  let item ← requireItem r.tenantId r.payload.itemId db
  checkStock item r.payload
  return item

/-! ## Writes -/

def Item.stock (item : Item) : ℚ := (item.currentStock : ℚ) / 100

def Item.cost (item : Item) : ℚ := (item.averageUnitCost : ℚ) / 100

def newTotalQty (item : Item) (quantity : ℚ) : ℚ := context (item.stock + quantity)

/-- The weighted average cost. -/
def newAvgCost (item : Item) (quantity unitCost : ℚ) : ℚ :=
  let newTotalValue := context (context (item.stock * item.cost) + context (quantity * unitCost))
  if 0 < newTotalQty item quantity then context (newTotalValue / newTotalQty item quantity) else 0

/-- A column is written if the value is not the one that was read. -/
def assign (value : ℚ) (seen row : Int) : Int :=
  if value = (seen : ℚ) / 100 then row else numeric 2 value

/-- The row of the item as it is at the commit, from the one that was read. -/
def Payload.update (seen : Item) : Payload → Item → Item
  | .stockIn payload, row =>
    { row with
      currentStock := assign (newTotalQty seen payload.quantity) seen.currentStock row.currentStock
      averageUnitCost := assign (newAvgCost seen payload.quantity payload.unitCost)
        seen.averageUnitCost row.averageUnitCost }
  | .stockOut payload, row =>
    { row with
      currentStock := assign (newTotalQty seen (-payload.quantity)) seen.currentStock
        row.currentStock }

def Request.movement (r : Request) (seen : Item) (warehouse : Warehouse) (id : UUID) :
    StockMovement :=
  match r.payload with
  | .stockIn payload =>
    { id, tenantId := r.tenantId, itemId := seen.id, warehouseId := warehouse.id
      movementType := .stockIn, quantity := numeric 2 payload.quantity
      unitCost := numeric 2 payload.unitCost
      totalValue := numeric 2 (context (payload.quantity * payload.unitCost))
      referenceDoc := payload.referenceDoc, notes := payload.notes, createdBy := r.actorId }
  | .stockOut payload =>
    { id, tenantId := r.tenantId, itemId := seen.id, warehouseId := warehouse.id
      movementType := .stockOut, quantity := numeric 2 payload.quantity
      unitCost := seen.averageUnitCost
      totalValue := numeric 2 (context (payload.quantity * seen.cost))
      referenceDoc := payload.referenceDoc, notes := payload.notes, createdBy := r.actorId }

theorem key_update (seen : Item) (p : Payload) (row : Item) :
    Keyed.key (p.update seen row) = Keyed.key row := by
  cases p <;> rfl

theorem key_movement (r : Request) (seen : Item) (warehouse : Warehouse) (id : UUID) :
    Keyed.key (r.movement seen warehouse id) = id := by
  unfold Request.movement
  split <;> rfl

def Request.write (r : Request) (seen : Item) (warehouse : Warehouse) (db : Stock) : Stock :=
  { db with
    movements := db.movements.insert (r.movement seen warehouse) (key_movement r seen warehouse)
    items := db.items.modify seen.id (r.payload.update seen) (key_update seen r.payload) }

/-- `NUMERIC(15, 2)`. -/
def fitsNumeric (n : Int) : Bool := -10 ^ 15 < n && n < 10 ^ 15

def Item.ok (item : Item) : Bool := fitsNumeric item.currentStock && fitsNumeric item.averageUnitCost

def StockMovement.ok (m : StockMovement) : Bool :=
  fitsNumeric m.quantity && fitsNumeric m.unitCost && fitsNumeric m.totalValue &&
    m.referenceDoc.all fun s => decide (s.length ≤ 100)

def Stock.ok (db : Stock) : Bool := db.items.rows.all Item.ok && db.movements.rows.all StockMovement.ok

/-! ## Turns -/

inductive Phase where
  | idle
  | read (r : Request) (item : Item)
  | placed (r : Request) (item : Item) (warehouse : Warehouse)

inductive Action where
  | register (r : Request)
  | findWarehouse
  | commit
  | rollback

structure StockStore where
  db : Stock
  idDefault : Bool

def stockTurn (_ : Nat) (act : Action) (s : StockStore) (p : Phase) : Option (StockStore × Phase) :=
  match act, p with
  | .register r, .idle =>
    match r.read s.db with
    | .error _ => some (s, .idle)
    | .ok item => some (s, .read r item)
  | .findWarehouse, .read r item =>
    match requireWarehouse r.tenantId r.payload.warehouseId s.db with
    | .error _ => some (s, .idle)
    | .ok warehouse => some (s, .placed r item warehouse)
  | .commit, .placed r item warehouse =>
    -- a movement without an id is refused, and so is a row that its columns do not hold
    if s.idDefault && (r.write item warehouse s.db).ok then
      some ({ s with db := r.write item warehouse s.db }, .idle)
    else some (s, .idle)
  | .rollback, _ => some (s, .idle)
  | _, _ => none

end Inventory
end Rotas
