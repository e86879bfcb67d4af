import Rotas.Workshop.Postings
import Rotas.Lib.Run
import Mathlib.Algebra.Order.Ring.Star
import Mathlib.Data.Rat.Star

/-!
# Rotas.Workshop.StockLedger

The ledger of spare parts over runs of the operations that write stock.

* `Booked`        — a movement that leaves what was there, plus or minus its quantity.
* `StockLedger`   — quantities are the sum of their movements, and the last balance.
* `stock_ledger`  — every run of such requests keeps the ledger.
* `thousandths_lost` — a receipt that rounds the stock of a part.
-/

namespace Rotas

open Work Decimal

/-! ## The ledger -/

/-- What came in, minus what went out. -/
def Warehouse.moved (db : Warehouse) (inventoryId : UUID) : Int :=
  db.movements.sumWhere (fun m => m.inventoryId = inventoryId) SparePartMovement.signed

def Warehouse.latestMovement (db : Warehouse) (inventoryId : UUID) : Option SparePartMovement :=
  (db.movements.rows.filter fun m => m.inventoryId = inventoryId).getLast?

/-- The ledger of the parts that were there at the start. -/
structure StockLedger (start db : Warehouse) : Prop where
  quantity : ∀ part ∈ db.spareParts, ∃ initial ∈ start.spareParts, initial.id = part.id ∧
    part.currentQuantity = initial.currentQuantity + db.moved part.id
  latest : ∀ part ∈ db.spareParts, ∀ m, db.latestMovement part.id = some m →
    m.balanceAfterQuantity = part.currentQuantity
  nonneg : ∀ part ∈ db.spareParts, 0 ≤ part.currentQuantity

/-- The movement is of a part that is there, and leaves its stock plus or minus its quantity. -/
def Booked (m : SparePartMovement) (db : Warehouse) : Prop :=
  ∃ part, db.spareParts.get m.inventoryId = some part ∧
    m.balanceAfterQuantity = part.currentQuantity + m.signed

/-- The part of the ledger that a step keeps before the database checks it. -/
structure LedgerKept (start db : Warehouse) : Prop where
  quantity : ∀ part ∈ db.spareParts, ∃ initial ∈ start.spareParts, initial.id = part.id ∧
    part.currentQuantity = initial.currentQuantity + db.moved part.id
  latest : ∀ part ∈ db.spareParts, ∀ m, db.latestMovement part.id = some m →
    m.balanceAfterQuantity = part.currentQuantity

section Post

variable {start db p : Warehouse} {m : SparePartMovement} {average : Int} {id : UUID}

theorem LedgerKept.congr (h : LedgerKept start db) (hparts : p.spareParts = db.spareParts)
    (hmovements : p.movements = db.movements) : LedgerKept start p where
  quantity part hpart := by
    rw [hparts] at hpart
    simpa only [Warehouse.moved, hmovements] using h.quantity part hpart
  latest part hpart m hm := by
    rw [hparts] at hpart
    exact h.latest part hpart m (by simpa only [Warehouse.latestMovement, hmovements] using hm)

theorem moved_post : (db.post m average).moved id =
    db.moved id + if m.inventoryId = id then m.signed else 0 := by
  unfold Warehouse.moved Warehouse.post
  rw [Table.sumWhere_insert]
  simp only [decide_eq_true_eq]
  rfl

theorem latestMovement_post : (db.post m average).latestMovement id =
    if m.inventoryId = id then some { m with id := db.movements.freshKey }
    else db.latestMovement id := by
  unfold Warehouse.latestMovement Warehouse.post
  simp only [Table.rows_insert, List.filter_append]
  by_cases h : m.inventoryId = id <;> simp [h]

theorem LedgerKept.post (h : LedgerKept start db) (hbooked : Booked m db) :
    LedgerKept start (db.post m average) := by
  obtain ⟨old, hget, hbalance⟩ := hbooked
  have hold : old ∈ db.spareParts := Table.mem_of_get hget
  have hid : old.id = m.inventoryId := Table.key_of_get hget
  constructor
  · intro part hpart
    rw [moved_post]
    rcases mem_parts_post hpart with ⟨old', hold', hpid, rfl⟩ | ⟨hpart, hne⟩
    · obtain ⟨initial, hinit, hinit', hqty⟩ := h.quantity old hold
      refine ⟨initial, hinit, by rw [hinit', hid, hpid], ?_⟩
      rw [if_pos hpid.symm, hbalance, hqty, hid, hpid]
      exact Int.add_assoc _ _ _
    · obtain ⟨initial, hinit, hinit', hqty⟩ := h.quantity part hpart
      refine ⟨initial, hinit, hinit', ?_⟩
      rw [if_neg fun he => hne he.symm, hqty]
      omega
  · intro part hpart m' hm'
    rw [latestMovement_post] at hm'
    rcases mem_parts_post hpart with ⟨_, _, hpid, rfl⟩ | ⟨hpart, hne⟩
    · rw [if_pos hpid.symm] at hm'
      cases hm'
      rfl
    · rw [if_neg fun he => hne he.symm] at hm'
      exact h.latest part hpart m' hm'

theorem LedgerKept.posted {d : Direction} {E : Prop} (h : LedgerKept start db) (hexact : E)
    (hposted : StockPosted d E db p) : LedgerKept start p := by
  induction hposted with
  | same hparts hmovements => exact h.congr hparts hmovements
  | post _ _ hposting hparts hmovements ih =>
    have hbooked : Booked _ _ :=
      ⟨_, hposting.found, hposting.balance.trans (by rw [hposting.exact hexact])⟩
    exact (ih.post hbooked).congr hparts hmovements

end Post

/-! ## Runs -/

theorem LedgerKept.initial {db₀ : Warehouse} (hmovements : db₀.movements = ∅) : LedgerKept db₀ db₀ where
  quantity part hpart := by
    refine ⟨part, hpart, rfl, ?_⟩
    rw [Warehouse.moved, hmovements]
    exact (Int.add_zero _).symm
  latest part _ m hm := by
    rw [Warehouse.latestMovement, hmovements] at hm
    cases hm

section Run

variable [Rendering] {db₀ db p : Warehouse} {cs : List StockCall} {c : StockCall} {id : UUID}

theorem LedgerKept.step (h : LedgerKept db₀ db) (hwhole : unrounded db c = true)
    (hrun : c.run db = .ok (id, p)) : LedgerKept db₀ p := by
  obtain ⟨d, hposted⟩ := StockCall.posted hrun
  exact h.posted hwhole hposted

/-- From any stock without movements, after every run in which no request goes through `record`
while its part has thousandths, each part has its initial quantity plus its signed movements, which
is the balance of the latest, and is not negative. -/
theorem stock_ledger (hmovements : db₀.movements = ∅) (hok : db₀.ok = true)
    (hwhole : Run.Along Warehouse.serve (fun db c => unrounded db c = true) db₀ cs) :
    StockLedger db₀ (Run.exec Warehouse.serve db₀ cs) := by
  have hstep : ∀ db c, LedgerKept db₀ db ∧ db.ok = true → unrounded db c = true →
      LedgerKept db₀ (db.serve c) ∧ (db.serve c).ok = true := by
    rintro db c ⟨h, hdb⟩ hwhole
    rcases perform_cases c.run db with hsame | ⟨id, hrun, hok⟩
    · rw [Warehouse.serve, hsame]; exact ⟨h, hdb⟩
    · exact ⟨h.step hwhole hrun, hok⟩
  obtain ⟨hkept, hok⟩ := Run.exec_inv (I := fun db => LedgerKept db₀ db ∧ db.ok = true) hstep
    ⟨.initial hmovements, hok⟩ hwhole
  exact ⟨hkept.quantity, hkept.latest, fun part hpart => quantity_nonneg hok hpart⟩

end Run

/-! ## A stock with thousandths -/

/-- One part, of which 7.5 are there. -/
def oilStock : Warehouse where
  spareParts := .single { id := 1, tenantId := 1, currentQuantity := 7500 }

def adjustOil (q : ℚ) : StockCall := .adjustment 100 1 1 q .outward "Perda" none

def receiveOil (q : ℚ) (h : 0 < q) : StockCall :=
  .receive 1
    { inventoryId := 1, requestReference := "R-1", quantity := q, unitCost := 100, occurredAt := 200
      positive := h, nonneg := by norm_num } none

theorem stock_ledger_once :
    StockLedger oilStock (Run.exec (@Warehouse.serve .decimal) oilStock
      [adjustOil (1 / 2), receiveOil 2 (by norm_num)]) :=
  @stock_ledger .decimal oilStock _ rfl (by decide +kernel) (by decide +kernel)

/-- Five thousandths go out, and two litres come in through `record`: a fraction is lost. -/
theorem thousandths_lost :
    oilStock.movements = ∅ ∧ oilStock.ok = true ∧
      ¬ StockLedger oilStock (Run.exec (@Warehouse.serve .decimal) oilStock
        [adjustOil (1 / 200), receiveOil 2 (by norm_num)]) := by
  refine ⟨rfl, by decide +kernel, fun h => ?_⟩
  have hsum : ∀ part ∈ (Run.exec (@Warehouse.serve .decimal) oilStock
      [adjustOil (1 / 200), receiveOil 2 (by norm_num)]).spareParts,
      part.currentQuantity = 7500 + (Run.exec (@Warehouse.serve .decimal) oilStock
        [adjustOil (1 / 200), receiveOil 2 (by norm_num)]).moved part.id := by
    intro part hpart
    obtain ⟨initial, hinit, _, hq⟩ := h.quantity part hpart
    cases List.mem_singleton.mp hinit
    exact hq
  revert hsum
  decide +kernel

end Rotas
