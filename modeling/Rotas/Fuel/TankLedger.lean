import Rotas.Fuel.Stock
import Rotas.Lib.Run

/-!
# Rotas.Fuel.TankLedger

The ledger of the tanks over runs of purchases, receipts, refuels and counts.

* `TankMove`    — what one recorded movement does to its tank and to the movements.
* `StockKept`   — the part of the ledger that every call keeps.
* `TankLedger`  — the whole of it: stock, movements, receipts and purchases.
* `InStep`      — a receipt whose float the column and the movement round alike.
* `tank_ledger` — every run whose receipts are in step keeps the ledger.
* `eighth_of_a_liter` — a receipt that stores more than its movement brings in.
-/

namespace Rotas

open Work Decimal

/-! ## The ledger -/

def FuelMovement.net (m : FuelMovement) : Int := if m.direction = "in" then m.liters else -m.liters

def Depot.inbound (s : Depot) (tankId : UUID) : Int :=
  s.fuelMovements.sumWhere (fun m => m.tankId = tankId && m.direction = "in") FuelMovement.liters

def Depot.outbound (s : Depot) (tankId : UUID) : Int :=
  s.fuelMovements.sumWhere (fun m => m.tankId = tankId && m.direction = "out") FuelMovement.liters

def Depot.lastMovement (s : Depot) (tankId : UUID) : Option FuelMovement :=
  (s.fuelMovements.rows.filter fun m => m.tankId = tankId).getLast?

/-- What the stored verified receipts of a purchase add up to. -/
def FuelYard.received (s : FuelYard) (purchaseId : UUID) : Int :=
  s.fuelReceipts.sumWhere (fun r => r.purchaseId = purchaseId && r.status = "verified")
    FuelReceipt.receivedLiters

structure TankLedger (s : FuelYard) : Prop where
  bounds : ∀ t ∈ s.fuelTanks, 0 ≤ t.currentStockLiters ∧ t.currentStockLiters ≤ t.capacityLiters
  balance : ∀ t ∈ s.fuelTanks, t.currentStockLiters = s.inbound t.id - s.outbound t.id
  last : ∀ t ∈ s.fuelTanks, ∀ m, s.lastMovement t.id = some m →
    t.currentStockLiters = m.balanceAfterLiters
  receipts : ∀ r ∈ s.fuelReceipts, ∃ m, r.movementId.bind s.fuelMovements.get = some m ∧
    r.receivedLiters = m.liters
  purchases : ∀ p ∈ s.fuelPurchases, s.received p.id ≤ p.orderedLiters ∧
    (p.status = "received" ↔ s.received p.id = p.orderedLiters)

/-- The column and the movement of a receipt round its liters alike. -/
def FuelCall.InStep : FuelCall → Prop
  | .createVerifiedReceipt _ payload _ => payload.receivedLiters.stored = payload.receivedLiters.rounded
  | _ => True

instance : ∀ c : FuelCall, Decidable c.InStep
  | .createVerifiedReceipt _ payload _ =>
    inferInstanceAs (Decidable (payload.receivedLiters.stored = payload.receivedLiters.rounded))
  | .createTank .. | .createPurchase .. | .approvePurchase .. | .createVehicleRefuel ..
  | .createStockCount .. | .approveStockAdjustment .. => inferInstanceAs (Decidable True)

/-! ## Movements -/

/-- A recorded movement of a tank: its row comes last, and its balance is that of the tank. -/
structure TankMove (tank : FuelTank) (m : FuelMovement) (s p : Depot) : Prop where
  found : s.fuelTanks.get tank.id = some tank
  tankId : m.tankId = tank.id
  positive : 0 < m.liters
  direction : m.direction = "in" ∨ m.direction = "out"
  balance : m.balanceAfterLiters = tank.currentStockLiters + m.net
  bounds : 0 ≤ m.balanceAfterLiters ∧ m.balanceAfterLiters ≤ tank.capacityLiters
  movements : p.fuelMovements.rows = s.fuelMovements.rows ++ [m]
  tanks : ∀ t ∈ p.fuelTanks, (t.id = tank.id ∧ t.currentStockLiters = m.balanceAfterLiters ∧
      t.capacityLiters = tank.capacityLiters) ∨ t ∈ s.fuelTanks ∧ t.id ≠ tank.id
  kept : ∀ t ∈ s.fuelTanks, ∃ t' ∈ p.fuelTanks, t'.id = t.id

section Record

variable {s p : Depot} {tenantId : UUID} {r : FuelMovementRequest} {actorId : Option UUID}
  {moved : Moved}

theorem requireTank_eq_ok {tankId : UUID} {tank : FuelTank}
    (h : requireTank tenantId tankId s = .ok tank) : s.fuelTanks.get tankId = some tank := by
  simp only [requireTank, bind_eq_ok, require_eq_ok, pure, Except.pure, Except.ok.injEq] at h
  obtain ⟨_, hget, _, _, rfl⟩ := h
  exact hget

theorem record_move (h : recordFuelMovement tenantId r actorId s = .ok (moved, p)) :
    ∃ tank m, TankMove tank m s p ∧ tank.id = r.tankId ∧ m.id = moved.movementId ∧
      m.movementType = r.movementType ∧ m.direction = r.direction ∧
      m.liters = quantize 2 r.liters := by
  simp only [recordFuelMovement, bind_eq_ok, raiseIf_eq_ok, pure, Except.pure, Except.ok.injEq,
    Prod.mk.injEq, decide_eq_false_iff_not] at h
  obtain ⟨_, hpos, _, hdir, tank, htank, _, hlow, _, hhigh, rfl, rfl⟩ := h
  have hget := requireTank_eq_ok htank
  have hid : tank.id = r.tankId := Table.key_of_get hget
  have hdir' : r.direction = "in" ∨ r.direction = "out" := by
    rw [Classical.not_not] at hdir
    simpa using hdir
  refine ⟨tank, _, ⟨hid ▸ hget, rfl, ?_, hdir', ?_, ?_, rfl, ?_, ?_⟩, hid, rfl, rfl, rfl, rfl⟩
  · show 0 < quantize 2 r.liters
    omega
  · unfold FuelMovement.net
    dsimp only
    split <;> omega
  · dsimp only
    exact ⟨by omega, by omega⟩
  · intro t ht
    dsimp only at ht
    rcases Table.mem_modify_cases ht with ⟨t₀, ht₀, hkey, rfl⟩ | ⟨ht, hne⟩
    · have heq : t₀ = tank := Table.eq_of_key ht₀ (Table.mem_of_get hget) hkey
      exact .inl ⟨hkey, rfl, by rw [heq]; rfl⟩
    · exact .inr ⟨ht, hne⟩
  · intro t ht
    refine Table.exists_mem_modify ?_ ht
    exact fun _ => rfl

end Record

/-! ## Stock -/

/-- The stock of the tanks is what their movements say. -/
structure StockKept (s : Depot) : Prop where
  bounds : ∀ t ∈ s.fuelTanks, 0 ≤ t.currentStockLiters ∧ t.currentStockLiters ≤ t.capacityLiters
  net : ∀ t ∈ s.fuelTanks, t.currentStockLiters =
    s.fuelMovements.sumWhere (fun m => m.tankId = t.id) FuelMovement.net
  last : ∀ t ∈ s.fuelTanks, ∀ m, s.lastMovement t.id = some m →
    t.currentStockLiters = m.balanceAfterLiters
  linked : ∀ m ∈ s.fuelMovements, ∃ t ∈ s.fuelTanks, t.id = m.tankId
  directed : ∀ m ∈ s.fuelMovements, m.direction = "in" ∨ m.direction = "out"

section Kept

variable {s p : Depot} {tank : FuelTank} {m : FuelMovement}

theorem TankMove.mem (h : TankMove tank m s p) {m' : FuelMovement} :
    m' ∈ p.fuelMovements ↔ m' ∈ s.fuelMovements ∨ m' = m := by
  rw [Table.mem_def, h.movements, List.mem_append, List.mem_singleton]
  rfl

theorem TankMove.sumWhere (h : TankMove tank m s p) (q : FuelMovement → Bool)
    (f : FuelMovement → Int) : p.fuelMovements.sumWhere q f =
      s.fuelMovements.sumWhere q f + if q m then f m else 0 := by
  unfold Table.sumWhere
  rw [h.movements, List.filter_append, List.map_append, List.sum_append]
  cases hq : q m <;> simp [hq]

theorem TankMove.lastMovement (h : TankMove tank m s p) (tankId : UUID) :
    p.lastMovement tankId = if m.tankId = tankId then some m else s.lastMovement tankId := by
  unfold Depot.lastMovement
  rw [h.movements, List.filter_append]
  by_cases hid : m.tankId = tankId <;> simp [hid]

theorem StockKept.congr (h : StockKept s) (htanks : p.fuelTanks = s.fuelTanks)
    (hmovements : p.fuelMovements = s.fuelMovements) : StockKept p where
  bounds := htanks ▸ h.bounds
  net := by rw [htanks, hmovements]; exact h.net
  last t ht m hm := by
    rw [htanks] at ht
    exact h.last t ht m (by simpa only [Depot.lastMovement, hmovements] using hm)
  linked := by rw [htanks, hmovements]; exact h.linked
  directed := hmovements ▸ h.directed

theorem StockKept.move (h : StockKept s) (hmove : TankMove tank m s p) : StockKept p where
  bounds t ht := by
    rcases hmove.tanks t ht with ⟨_, hstock, hcap⟩ | ⟨ht, _⟩
    · rw [hstock, hcap]
      exact hmove.bounds
    · exact h.bounds t ht
  net t ht := by
    rw [hmove.sumWhere, hmove.tankId]
    rcases hmove.tanks t ht with ⟨hid, hstock, _⟩ | ⟨ht, hne⟩
    · have hold := h.net tank (Table.mem_of_get hmove.found)
      rw [hstock, hmove.balance, hold, hid]
      simp
    · rw [h.net t ht, if_neg (by simpa using Ne.symm hne), Int.add_zero]
  last t ht m' hm' := by
    rw [hmove.lastMovement, hmove.tankId] at hm'
    rcases hmove.tanks t ht with ⟨hid, hstock, _⟩ | ⟨ht, hne⟩
    · rw [if_pos hid.symm] at hm'
      cases hm'
      exact hstock
    · rw [if_neg (Ne.symm hne)] at hm'
      exact h.last t ht m' hm'
  linked m' hm' := by
    have hlink : ∃ t ∈ s.fuelTanks, t.id = m'.tankId := by
      rcases hmove.mem.mp hm' with hm' | rfl
      · exact h.linked m' hm'
      · exact ⟨tank, Table.mem_of_get hmove.found, hmove.tankId.symm⟩
    obtain ⟨t, ht, hid⟩ := hlink
    obtain ⟨t', ht', hid'⟩ := hmove.kept t ht
    exact ⟨t', ht', hid'.trans hid⟩
  directed m' hm' := by
    rcases hmove.mem.mp hm' with hm' | rfl
    · exact h.directed m' hm'
    · exact hmove.direction

theorem StockKept.newTank (h : StockKept s) {tenantId : UUID} {payload : FuelTankCreate}
    (hcap : 0 ≤ payload.capacityLiters.stored) :
    StockKept { s with fuelTanks := s.fuelTanks.insert (Rotas.newTank tenantId payload) } := by
  have hnone : ∀ m ∈ s.fuelMovements, m.tankId ≠ s.fuelTanks.freshKey := by
    intro m hm
    obtain ⟨t, ht, hid⟩ := h.linked m hm
    have hlt : t.id < s.fuelTanks.freshKey := Table.key_lt_freshKey ht
    exact hid ▸ Nat.ne_of_lt hlt
  refine ⟨fun t ht => ?_, fun t ht => ?_, fun t ht m hm => ?_, fun m hm => ?_, h.directed⟩
  · rcases (Table.mem_insert _ _ fun _ => rfl).mp ht with ht | rfl
    · exact h.bounds t ht
    · exact ⟨Int.le_refl 0, hcap⟩
  · rcases (Table.mem_insert _ _ fun _ => rfl).mp ht with ht | rfl
    · exact h.net t ht
    · exact (Table.sumWhere_eq_zero fun m hm => decide_eq_false (hnone m hm)).symm
  · rcases (Table.mem_insert _ _ fun _ => rfl).mp ht with ht | rfl
    · exact h.last t ht m hm
    · have hmem := List.mem_filter.mp (List.mem_of_getLast? hm)
      exact absurd (of_decide_eq_true hmem.2) (hnone m hmem.1)
  · obtain ⟨t, ht, hid⟩ := h.linked m hm
    exact ⟨t, List.mem_append_left _ ht, hid⟩

/-- What came in less what went out is the net of the movements. -/
theorem StockKept.balance (h : StockKept s) {t : FuelTank} (ht : t ∈ s.fuelTanks) :
    t.currentStockLiters = s.inbound t.id - s.outbound t.id := by
  unfold Depot.inbound Depot.outbound
  rw [h.net t ht, Table.sumWhere_and, Table.sumWhere_and, ← Table.sumWhere_sub]
  refine Table.sumWhere_congr_fun fun m hm _ => ?_
  unfold FuelMovement.net
  rcases h.directed m hm with hdir | hdir <;> simp [hdir]

end Kept

/-! ## Floats -/

/-- What `_decimal` finds positive, a column stores as positive. -/
theorem PyFloat.stored_pos {x : PyFloat} (h : 0 < x.rounded) : 0 < x.stored := by
  have hhalf : ((1 : ℤ) : ℚ) - 1 / 2 ≤ x.shown * 10 ^ 2 :=
    sub_half_le_of_le_roundHalfEven (show (1 : ℤ) ≤ roundHalfEven (x.shown * 10 ^ 2) from h)
  have hne : x.shown ≠ 1 / 200 := by
    intro heq
    rw [PyFloat.rounded, quantize, heq] at h
    revert h
    decide +kernel
  have hlt : 1 / 200 < x.shown := by
    refine lt_of_le_of_ne ?_ (Ne.symm hne)
    push_cast at hhalf
    linarith
  have hsent := x.shortest hlt
  have hone : (1 : ℤ) ≤ numeric 2 x.sent := by
    unfold numeric
    rw [le_roundHalfAway_iff (by linarith)]
    push_cast
    linarith
  exact hone

/-! ## What the calls do -/

/-- Receipts bring fuel in, refuels take it out, adjustments do either. -/
def FuelMovement.Typed (m : FuelMovement) : Prop :=
  m.movementType = "purchase_receipt" ∧ m.direction = "in" ∨
    m.movementType = "vehicle_refuel" ∧ m.direction = "out" ∨ m.movementType = "stock_adjustment"

/-- A call leaves tanks and movements alone, opens a tank, or records one movement. -/
inductive FuelStep (s p : FuelYard) : Prop where
  | kept (tanks : p.fuelTanks = s.fuelTanks) (movements : p.fuelMovements = s.fuelMovements)
  | opened (tenantId : UUID) (payload : FuelTankCreate) (capacity : 0 < payload.capacityLiters.rounded)
      (depot : p.toDepot =
        { s.toDepot with fuelTanks := s.fuelTanks.insert (newTank tenantId payload) })
  | moved (tank : FuelTank) (m : FuelMovement) (typed : m.Typed)
      (move : TankMove tank m s.toDepot p.toDepot)

theorem TankMove.congr {s p q : Depot} {tank : FuelTank} {m : FuelMovement}
    (h : TankMove tank m s p) (htanks : q.fuelTanks = p.fuelTanks)
    (hmovements : q.fuelMovements = p.fuelMovements) : TankMove tank m s q :=
  { h with
    movements := hmovements ▸ h.movements
    tanks := htanks ▸ h.tanks
    kept := htanks ▸ h.kept }

section Calls

variable {s p : FuelYard} {tenantId id : UUID} {actorId : Option UUID}

theorem createTank_eq_ok {payload : FuelTankCreate} (h : createTank tenantId payload s = .ok (id, p)) :
    0 < payload.capacityLiters.rounded ∧
      p = { s with fuelTanks := s.fuelTanks.insert (newTank tenantId payload) } := by
  simp only [createTank, bind_eq_ok, raiseIf_eq_ok, pure, Except.pure, Except.ok.injEq,
    Prod.mk.injEq, Bool.or_eq_false_iff, decide_eq_false_iff_not] at h
  obtain ⟨_, ⟨⟨hcap, _⟩, _⟩, _, _, _, rfl⟩ := h
  exact ⟨by omega, rfl⟩

theorem createPurchase_eq_ok {payload : FuelPurchaseCreate}
    (h : createPurchase tenantId payload s = .ok (id, p)) : 0 < payload.orderedLiters.rounded ∧
      p = { s with fuelPurchases := s.fuelPurchases.insert (newPurchase tenantId payload) } := by
  simp only [createPurchase, bind_eq_ok, raiseIf_eq_ok, pure, Except.pure, Except.ok.injEq,
    Prod.mk.injEq, Bool.or_eq_false_iff, decide_eq_false_iff_not] at h
  obtain ⟨_, ⟨hliters, _⟩, _, _, _, rfl⟩ := h
  exact ⟨by omega, rfl⟩

theorem requirePurchase_eq_ok {purchaseId : UUID} {purchase : FuelPurchase}
    (h : requirePurchase tenantId purchaseId s = .ok purchase) :
    s.fuelPurchases.get purchaseId = some purchase ∧ purchase.tenantId = tenantId := by
  simp only [requirePurchase, require_eq_ok, Option.filter_eq_some_iff, decide_eq_true_eq] at h
  exact h

theorem approvePurchase_cases {now : Instant} {purchaseId : UUID}
    (h : approvePurchase now tenantId purchaseId actorId s = .ok (id, p)) :
    p = s ∨ ∃ purchase ∈ s.fuelPurchases, purchase.status = "pending" ∧
      p = { s with fuelPurchases := s.fuelPurchases.modify purchase.id fun q => { q with
        status := "approved", approvedBy := actorId, approvedAt := some now } } := by
  simp only [approvePurchase, bind_eq_ok] at h
  obtain ⟨purchase, hpurchase, h⟩ := h
  have hmem := Table.mem_of_get (requirePurchase_eq_ok hpurchase).1
  split at h
  · cases h
    exact .inl rfl
  · simp only [bind_eq_ok, raiseIf_eq_ok, pure, Except.pure, Except.ok.injEq, Prod.mk.injEq,
      decide_eq_false_iff_not, ne_eq, Classical.not_not] at h
    obtain ⟨_, hpending, _, rfl⟩ := h
    exact .inr ⟨purchase, hmem, hpending, rfl⟩

/-- A receipt is of an approved purchase, and records a movement of the liters it was checked
with. -/
theorem createVerifiedReceipt_eq_ok {payload : FuelReceiptCreate}
    (h : createVerifiedReceipt tenantId payload actorId s = .ok (id, p)) :
    ∃ purchase tank m depot, s.fuelPurchases.get payload.purchaseId = some purchase ∧
      purchase.tenantId = tenantId ∧ purchase.status = "approved" ∧
      s.receivedBefore tenantId purchase.id + payload.receivedLiters.rounded ≤
        purchase.orderedLiters ∧
      TankMove tank m s.toDepot depot ∧ m.movementType = "purchase_receipt" ∧
      m.direction = "in" ∧ m.liters = payload.receivedLiters.rounded ∧
      p = { s with
        toDepot := depot
        fuelReceipts := s.fuelReceipts.insert (newReceipt tenantId payload actorId m.id)
        fuelPurchases := receivePurchase purchase
          (s.receivedBefore tenantId purchase.id + payload.receivedLiters.rounded)
          s.fuelPurchases } := by
  simp only [createVerifiedReceipt, bind_eq_ok, raiseIf_eq_ok, pure, Except.pure, Except.ok.injEq,
    Prod.mk.injEq, Prod.exists, decide_eq_false_iff_not, ne_eq, Classical.not_not] at h
  obtain ⟨purchase, hpurchase, _, _, _, hstatus, tank, htank, _, _, _, hroom, moved, depot, hrec,
    _, rfl⟩ := h
  obtain ⟨hget, hten⟩ := requirePurchase_eq_ok hpurchase
  obtain ⟨tank', m, hmove, _, hid, htype, hdir, hliters⟩ := record_move hrec
  exact ⟨purchase, tank', m, depot, hget, hten, hstatus, by omega, hmove, htype, hdir, hliters,
    by rw [hid]⟩

theorem createStockCount_eq_ok {payload : FuelStockCountCreate}
    (h : createStockCount tenantId payload actorId s = .ok (id, p)) :
    ∃ tank, s.fuelTanks.get payload.tankId = some tank ∧ id = s.fuelStockCounts.freshKey ∧
      p = { s with
        fuelStockCounts := s.fuelStockCounts.insert
          (newStockCount tenantId payload actorId tank.currentStockLiters) } := by
  simp only [createStockCount, bind_eq_ok, pure, Except.pure, Except.ok.injEq, Prod.mk.injEq] at h
  obtain ⟨tank, htank, _, _, rfl, rfl⟩ := h
  exact ⟨tank, requireTank_eq_ok htank, rfl, rfl⟩

/-- An approved count records its variance, in the direction it goes. -/
theorem approveStockAdjustment_cases {now : Instant} {stockCountId : UUID} {notes : Option String}
    (h : approveStockAdjustment now tenantId stockCountId actorId notes s = .ok (id, p)) :
    (∃ count, s.fuelStockCounts.get stockCountId = some count ∧
      count.adjustmentStatus = "approved" ∧ p = s) ∨
    ∃ count tank m depot, s.fuelStockCounts.get stockCountId = some count ∧
      count.adjustmentStatus = "pending" ∧ tank.id = count.tankId ∧
      TankMove tank m s.toDepot depot ∧ m.movementType = "stock_adjustment" ∧
      m.net = count.varianceLiters ∧
      p = { s with
        toDepot := depot
        fuelStockCounts := s.fuelStockCounts.modify count.id fun c => { c with
          adjustmentStatus := "approved", adjustmentMovementId := some m.id
          adjustmentApprovedBy := actorId, adjustmentApprovedAt := some now } } := by
  simp only [approveStockAdjustment, bind_eq_ok, require_eq_ok, Option.filter_eq_some_iff] at h
  obtain ⟨count, ⟨hget, _⟩, h⟩ := h
  split at h
  · next happroved =>
    cases h
    exact .inl ⟨count, hget, happroved, rfl⟩
  · simp only [bind_eq_ok, raiseIf_eq_ok, pure, Except.pure, Except.ok.injEq, Prod.mk.injEq,
      Prod.exists, decide_eq_false_iff_not, ne_eq, Classical.not_not] at h
    obtain ⟨_, hpending, _, _, moved, depot, hrec, _, rfl⟩ := h
    obtain ⟨tank, m, hmove, htank, hid, htype, hdir, hliters⟩ := record_move hrec
    refine .inr ⟨count, tank, m, depot, hget, hpending, htank, hmove, htype, ?_, by rw [hid]⟩
    have habs : quantize 2 ((|count.varianceLiters| : ℚ) / 100) = |count.varianceLiters| := by
      rw [quantize, show ((|count.varianceLiters| : ℚ) / 100) * 10 ^ 2 =
        ((|count.varianceLiters| : ℤ) : ℚ) by push_cast; ring]
      exact roundHalfEven_intCast _
    dsimp only at hdir hliters
    unfold FuelMovement.net
    rw [hdir, hliters, habs]
    by_cases hsign : 0 < count.varianceLiters
    · simp [hsign, abs_of_pos hsign]
    · simp [hsign, abs_of_nonpos (not_lt.mp hsign)]

theorem createVehicleRefuel_move {payload : VehicleRefuelCreate} {s p : Depot}
    (h : createVehicleRefuel tenantId payload actorId s = .ok (id, p)) :
    ∃ tank m, TankMove tank m s p ∧ m.movementType = "vehicle_refuel" ∧ m.direction = "out" := by
  simp only [createVehicleRefuel, bind_eq_ok, Prod.exists, pure, Except.pure, Except.ok.injEq,
    Prod.mk.injEq] at h
  obtain ⟨_, _, _, _, _, _, _, _, _, _, moved, q, hrec, _, rfl⟩ := h
  obtain ⟨tank, m, hmove, _, _, htype, hdir, _⟩ := record_move hrec
  exact ⟨tank, m, hmove.congr rfl rfl, htype, hdir⟩

theorem fuelStep {c : FuelCall} (h : c.run s = .ok (id, p)) : FuelStep s p := by
  cases c with
  | createTank tenantId payload =>
    obtain ⟨hcap, rfl⟩ := createTank_eq_ok h
    exact .opened tenantId payload hcap rfl
  | createPurchase tenantId payload =>
    obtain ⟨_, rfl⟩ := createPurchase_eq_ok h
    exact .kept rfl rfl
  | approvePurchase now tenantId purchaseId actorId =>
    rcases approvePurchase_cases h with rfl | ⟨_, _, _, rfl⟩
    · exact .kept rfl rfl
    · exact .kept rfl rfl
  | createVerifiedReceipt tenantId payload actorId =>
    obtain ⟨_, tank, m, depot, _, _, _, _, hmove, htype, hdir, _, rfl⟩ :=
      createVerifiedReceipt_eq_ok h
    exact .moved tank m (.inl ⟨htype, hdir⟩) hmove
  | createVehicleRefuel tenantId payload actorId =>
    simp only [FuelCall.run] at h
    cases hrefuel : Rotas.createVehicleRefuel tenantId payload actorId s.toDepot with
    | error e => rw [hrefuel] at h; cases h
    | ok r =>
      rw [hrefuel] at h
      cases h
      obtain ⟨tank, m, hmove, htype, hdir⟩ := createVehicleRefuel_move hrefuel
      exact .moved tank m (.inr (.inl ⟨htype, hdir⟩)) hmove
  | createStockCount tenantId payload actorId =>
    obtain ⟨_, _, _, rfl⟩ := createStockCount_eq_ok h
    exact .kept rfl rfl
  | approveStockAdjustment now tenantId stockCountId actorId notes =>
    rcases approveStockAdjustment_cases h with ⟨_, _, _, rfl⟩ |
      ⟨_, tank, m, depot, _, _, _, hmove, htype, _, rfl⟩
    · exact .kept rfl rfl
    · exact .moved tank m (.inr (.inr htype)) hmove

theorem StockKept.step (h : StockKept s.toDepot) (hstep : FuelStep s p) : StockKept p.toDepot := by
  cases hstep with
  | kept tanks movements => exact h.congr tanks movements
  | opened tenantId payload capacity depot =>
    rw [depot]
    exact h.newTank (Int.le_of_lt (PyFloat.stored_pos capacity))
  | moved tank m typed move => exact h.move move

end Calls

/-! ## Receipts -/

/-- Receipts agree with their movements and stay within their purchases. -/
structure ReceiptsKept (s : FuelYard) : Prop where
  receipts : ∀ r ∈ s.fuelReceipts, ∃ m, r.movementId.bind s.fuelMovements.get = some m ∧
    r.receivedLiters = m.liters
  purchases : ∀ p ∈ s.fuelPurchases, s.received p.id ≤ p.orderedLiters ∧
    (p.status = "received" ↔ s.received p.id = p.orderedLiters)
  linked : ∀ r ∈ s.fuelReceipts, ∃ p ∈ s.fuelPurchases, p.id = r.purchaseId ∧ p.tenantId = r.tenantId

section Receipts

variable {s p : FuelYard} {tenantId id : UUID} {actorId : Option UUID}

theorem FuelStep.get (h : FuelStep s p) {k : UUID} {m : FuelMovement}
    (hm : s.fuelMovements.get k = some m) : p.fuelMovements.get k = some m := by
  cases h with
  | kept tanks movements => rw [movements]; exact hm
  | opened tenantId payload capacity depot => rw [depot]; exact hm
  | moved tank m' typed move =>
    rw [Table.get_eq_some_iff] at hm ⊢
    exact ⟨move.mem.mpr (.inl hm.1), hm.2⟩

theorem ReceiptsKept.congr (h : ReceiptsKept s) (hstep : FuelStep s p)
    (hreceipts : p.fuelReceipts = s.fuelReceipts) (hpurchases : p.fuelPurchases = s.fuelPurchases) :
    ReceiptsKept p where
  receipts r hr := by
    obtain ⟨m, hm, hliters⟩ := h.receipts r (hreceipts ▸ hr)
    obtain ⟨k, hk, hget⟩ := Option.bind_eq_some_iff.mp hm
    exact ⟨m, Option.bind_eq_some_iff.mpr ⟨k, hk, hstep.get hget⟩, hliters⟩
  purchases := by
    unfold FuelYard.received
    rw [hreceipts, hpurchases]
    exact h.purchases
  linked := by rw [hreceipts, hpurchases]; exact h.linked

/-- What the tenant's receipts of a purchase add up to, all its receipts do. -/
theorem ReceiptsKept.receivedBefore (h : ReceiptsKept s) {q : FuelPurchase}
    (hq : q ∈ s.fuelPurchases) : s.receivedBefore q.tenantId q.id = s.received q.id := by
  refine Table.sumWhere_congr fun r hr => ?_
  by_cases hof : r.purchaseId = q.id
  · obtain ⟨q', hq', hid, hten⟩ := h.linked r hr
    have heq : q' = q := Table.eq_of_key hq' hq (hid.trans hof)
    rw [heq] at hten
    simp [hten]
  · simp [hof]

theorem ReceiptsKept.newPurchase (h : ReceiptsKept s) {payload : FuelPurchaseCreate}
    (hliters : 0 < payload.orderedLiters.rounded) :
    ReceiptsKept { s with
      fuelPurchases := s.fuelPurchases.insert (Rotas.newPurchase tenantId payload) } where
  receipts := h.receipts
  purchases q hq := by
    rcases (Table.mem_insert _ _ fun _ => rfl).mp hq with hq | rfl
    · exact h.purchases q hq
    · have hnone : s.received s.fuelPurchases.freshKey = 0 := by
        refine Table.sumWhere_eq_zero fun r hr => ?_
        obtain ⟨q, hq, hid, _⟩ := h.linked r hr
        have hlt : q.id < s.fuelPurchases.freshKey := Table.key_lt_freshKey hq
        simp [hid ▸ Nat.ne_of_lt hlt]
      have hpos := PyFloat.stored_pos hliters
      have hzero : s.received s.fuelPurchases.freshKey < payload.orderedLiters.stored := by omega
      exact ⟨Int.le_of_lt hzero, iff_of_false (show "pending" ≠ "received" by decide)
        (Int.ne_of_lt hzero)⟩
  linked r hr := by
    obtain ⟨q, hq, hid⟩ := h.linked r hr
    exact ⟨q, List.mem_append_left _ hq, hid⟩

theorem exists_modified {t : Table FuelPurchase} {f : FuelPurchase → FuelPurchase}
    (hf : ∀ q, Keyed.key (f q) = Keyed.key q) {k : UUID} {q : FuelPurchase}
    (hkeep : ∀ q, (f q).id = q.id ∧ (f q).tenantId = q.tenantId) (hq : q ∈ t) :
    ∃ q' ∈ t.modify k f hf, q'.id = q.id ∧ q'.tenantId = q.tenantId := by
  refine ⟨_, Table.mem_modify.mpr ⟨q, hq, rfl⟩, ?_⟩
  split
  · exact hkeep q
  · exact ⟨rfl, rfl⟩

/-- A pending purchase that is approved has not received its liters. -/
theorem ReceiptsKept.approve (h : ReceiptsKept s) {now : Instant} {purchase : FuelPurchase}
    (hmem : purchase ∈ s.fuelPurchases) (hpending : purchase.status = "pending") :
    ReceiptsKept { s with
      fuelPurchases := s.fuelPurchases.modify purchase.id fun q => { q with
        status := "approved", approvedBy := actorId, approvedAt := some now } } where
  receipts := h.receipts
  purchases q hq := by
    dsimp only at hq
    rcases Table.mem_modify_cases hq with ⟨q₀, hq₀, hkey, rfl⟩ | ⟨hq, _⟩
    · have heq : q₀ = purchase := Table.eq_of_key hq₀ hmem hkey
      have hlaw := h.purchases purchase hmem
      have hopen : s.received purchase.id ≠ purchase.orderedLiters := by
        intro hall
        have := hlaw.2.mpr hall
        rw [hpending] at this
        revert this
        decide
      subst heq
      exact ⟨hlaw.1, iff_of_false (show "approved" ≠ "received" by decide) hopen⟩
    · exact h.purchases q hq
  linked r hr := by
    obtain ⟨q, hq, hid, hten⟩ := h.linked r hr
    obtain ⟨q', hq', hid', hten'⟩ := exists_modified
      (f := fun q => { q with status := "approved", approvedBy := actorId, approvedAt := some now })
      (k := purchase.id) (fun _ => rfl) (fun _ => ⟨rfl, rfl⟩) hq
    exact ⟨q', hq', hid'.trans hid, hten'.trans hten⟩

theorem mem_receivePurchase {purchase q : FuelPurchase} {after : Int}
    (hmem : purchase ∈ s.fuelPurchases)
    (hq : q ∈ receivePurchase purchase after s.fuelPurchases) :
    (q.id = purchase.id ∧ q.orderedLiters = purchase.orderedLiters ∧
      (q.status = "received" ∧ after = purchase.orderedLiters ∨
        q.status = purchase.status ∧ after ≠ purchase.orderedLiters)) ∨
    q ∈ s.fuelPurchases ∧ q.id ≠ purchase.id := by
  unfold receivePurchase at hq
  split at hq
  · next hall =>
    rcases Table.mem_modify_cases hq with ⟨q₀, hq₀, hkey, rfl⟩ | ⟨hq, hne⟩
    · have heq : q₀ = purchase := Table.eq_of_key hq₀ hmem hkey
      exact .inl ⟨hkey, heq ▸ rfl, .inl ⟨rfl, hall⟩⟩
    · exact .inr ⟨hq, hne⟩
  · next hsome =>
    by_cases hid : q.id = purchase.id
    · have heq : q = purchase := Table.eq_of_key hq hmem hid
      exact .inl ⟨hid, heq ▸ rfl, .inr ⟨heq ▸ rfl, hsome⟩⟩
    · exact .inr ⟨hq, hid⟩

theorem exists_receivePurchase {purchase q : FuelPurchase} {after : Int} (hq : q ∈ s.fuelPurchases) :
    ∃ q' ∈ receivePurchase purchase after s.fuelPurchases, q'.id = q.id ∧ q'.tenantId = q.tenantId := by
  unfold receivePurchase
  split
  · exact exists_modified _ (fun _ => ⟨rfl, rfl⟩) hq
  · exact ⟨q, hq, rfl, rfl⟩

theorem ReceiptsKept.receive (h : ReceiptsKept s) {payload : FuelReceiptCreate}
    (hstep : payload.receivedLiters.stored = payload.receivedLiters.rounded)
    (hrun : createVerifiedReceipt tenantId payload actorId s = .ok (id, p)) : ReceiptsKept p := by
  obtain ⟨purchase, tank, m, depot, hget, hten, hstatus, hroom, hmove, _, _, hliters, rfl⟩ :=
    createVerifiedReceipt_eq_ok hrun
  have hmem := Table.mem_of_get hget
  have hid : purchase.id = payload.purchaseId := Table.key_of_get hget
  have hbefore : s.receivedBefore tenantId purchase.id = s.received purchase.id := by
    rw [← hten]
    exact h.receivedBefore hmem
  rw [hbefore] at hroom ⊢
  have hsum : ∀ k, FuelYard.received { s with
      toDepot := depot
      fuelReceipts := s.fuelReceipts.insert (newReceipt tenantId payload actorId m.id)
      fuelPurchases := receivePurchase purchase
        (s.received purchase.id + payload.receivedLiters.rounded) s.fuelPurchases } k =
      s.received k + if purchase.id = k then payload.receivedLiters.rounded else 0 := by
    intro k
    unfold FuelYard.received
    rw [Table.sumWhere_insert, hid, ← hstep]
    by_cases hk : payload.purchaseId = k <;> simp [newReceipt, hk]
  refine ⟨fun r hr => ?_, fun q hq => ?_, fun r hr => ?_⟩
  · rcases (Table.mem_insert _ _ fun _ => rfl).mp hr with hr | rfl
    · obtain ⟨m', hm', hliters'⟩ := h.receipts r hr
      obtain ⟨k, hk, hgetm⟩ := Option.bind_eq_some_iff.mp hm'
      refine ⟨m', Option.bind_eq_some_iff.mpr ⟨k, hk, ?_⟩, hliters'⟩
      rw [Table.get_eq_some_iff] at hgetm ⊢
      exact ⟨hmove.mem.mpr (.inl hgetm.1), hgetm.2⟩
    · exact ⟨m, Table.get_of_mem (hmove.mem.mpr (.inr rfl)), hstep.trans hliters.symm⟩
  · rw [hsum]
    rcases mem_receivePurchase hmem hq with ⟨hqid, hordered, hcase⟩ | ⟨hq, hne⟩
    · rw [if_pos hqid.symm, hqid, hordered]
      refine ⟨hroom, ?_⟩
      rcases hcase with ⟨hreceived, hall⟩ | ⟨hkept, hsome⟩
      · exact iff_of_true hreceived hall
      · rw [hkept, hstatus]
        exact iff_of_false (by decide) hsome
    · rw [if_neg (Ne.symm hne), Int.add_zero]
      exact h.purchases q hq
  · rcases (Table.mem_insert _ _ fun _ => rfl).mp hr with hr | rfl
    · obtain ⟨q, hq, hqid, hqten⟩ := h.linked r hr
      obtain ⟨q', hq', hid', hten'⟩ := exists_receivePurchase hq
      exact ⟨q', hq', hid'.trans hqid, hten'.trans hqten⟩
    · obtain ⟨q', hq', hid', hten'⟩ := exists_receivePurchase hmem
      exact ⟨q', hq', hid'.trans hid, hten'.trans hten⟩

/-- Every call whose receipt, if it is one, is in step keeps the receipts. -/
theorem ReceiptsKept.step (h : ReceiptsKept s) {c : FuelCall} (hin : c.InStep)
    (hrun : c.run s = .ok (id, p)) : ReceiptsKept p := by
  have hstep := fuelStep hrun
  cases c with
  | createTank tenantId payload =>
    obtain ⟨_, rfl⟩ := createTank_eq_ok hrun
    exact h.congr hstep rfl rfl
  | createPurchase tenantId payload =>
    obtain ⟨hliters, rfl⟩ := createPurchase_eq_ok hrun
    exact h.newPurchase hliters
  | approvePurchase now tenantId purchaseId actorId =>
    rcases approvePurchase_cases hrun with rfl | ⟨purchase, hmem, hpending, rfl⟩
    · exact h
    · exact h.approve hmem hpending
  | createVerifiedReceipt tenantId payload actorId => exact h.receive hin hrun
  | createVehicleRefuel tenantId payload actorId =>
    simp only [FuelCall.run] at hrun
    cases hrefuel : Rotas.createVehicleRefuel tenantId payload actorId s.toDepot with
    | error e => rw [hrefuel] at hrun; cases hrun
    | ok r =>
      rw [hrefuel] at hrun
      cases hrun
      exact h.congr hstep rfl rfl
  | createStockCount tenantId payload actorId =>
    obtain ⟨_, _, _, rfl⟩ := createStockCount_eq_ok hrun
    exact h.congr hstep rfl rfl
  | approveStockAdjustment now tenantId stockCountId actorId notes =>
    rcases approveStockAdjustment_cases hrun with ⟨_, _, _, rfl⟩ | ⟨_, _, _, _, _, _, _, _, _, _, rfl⟩
    · exact h
    · exact h.congr hstep rfl rfl

end Receipts

/-! ## Runs -/

/-- A depot before its first tank and its first purchase. -/
structure FuelYard.Unused (s : FuelYard) : Prop where
  fuelTanks : s.fuelTanks = ∅
  fuelMovements : s.fuelMovements = ∅
  fuelReceipts : s.fuelReceipts = ∅
  fuelPurchases : s.fuelPurchases = ∅

section Run

variable {s : FuelYard} {calls : List FuelCall}

theorem FuelYard.Unused.stockKept (h : s.Unused) : StockKept s.toDepot where
  bounds t ht := absurd (h.fuelTanks ▸ ht) (Table.not_mem_empty t)
  net t ht := absurd (h.fuelTanks ▸ ht) (Table.not_mem_empty t)
  last t ht := absurd (h.fuelTanks ▸ ht) (Table.not_mem_empty t)
  linked m hm := absurd (h.fuelMovements ▸ hm) (Table.not_mem_empty m)
  directed m hm := absurd (h.fuelMovements ▸ hm) (Table.not_mem_empty m)

theorem FuelYard.Unused.receiptsKept (h : s.Unused) : ReceiptsKept s where
  receipts r hr := absurd (h.fuelReceipts ▸ hr) (Table.not_mem_empty r)
  purchases p hp := absurd (h.fuelPurchases ▸ hp) (Table.not_mem_empty p)
  linked r hr := absurd (h.fuelReceipts ▸ hr) (Table.not_mem_empty r)

theorem StockKept.serve (h : StockKept s.toDepot) (c : FuelCall) : StockKept (s.serve c).toDepot := by
  rcases perform_cases c.run s with hsame | ⟨id, hrun, _⟩
  · rw [FuelYard.serve, hsame]
    exact h
  · exact h.step (fuelStep hrun)

theorem ReceiptsKept.serve (h : ReceiptsKept s) {c : FuelCall} (hin : c.InStep) :
    ReceiptsKept (s.serve c) := by
  rcases perform_cases c.run s with hsame | ⟨id, hrun, _⟩
  · rw [FuelYard.serve, hsame]
    exact h
  · exact h.step hin hrun

theorem StockKept.ledger (h : StockKept s.toDepot) (hreceipts : ReceiptsKept s) : TankLedger s where
  bounds := h.bounds
  balance _ ht := h.balance ht
  last := h.last
  receipts := hreceipts.receipts
  purchases := hreceipts.purchases

/-- After every run whose receipts are in step the tanks hold what their movements say, the receipts
what theirs brought in, and no purchase has received more than was ordered. -/
theorem tank_ledger (h : s.Unused) (hin : Run.Along FuelYard.serve (fun _ c => c.InStep) s calls) :
    TankLedger (Run.exec FuelYard.serve s calls) := by
  have hkept := Run.exec_inv
    (I := fun s : FuelYard => StockKept s.toDepot ∧ ReceiptsKept s) (C := fun _ c => c.InStep)
    (fun s c hs hc => ⟨hs.1.serve c, hs.2.serve hc⟩) ⟨h.stockKept, h.receiptsKept⟩ hin
  exact hkept.1.ledger hkept.2

end Run

/-! ## An eighth of a liter -/

private def depotTank : FuelCall :=
  .createTank 1 { code := "T1", name := "Depósito", capacityLiters := .exact 1000 }

private def dieselOrder : FuelCall :=
  .createPurchase 1 { supplierName := "Fornecedor", purchaseReference := "REQ-1"
                      orderedLiters := .exact 100, unitPrice := .exact 80, orderedAt := 0 }

private def orderApproval : FuelCall := .approvePurchase 10 1 1 (some 9)

private def delivery (liters : ℚ) : FuelCall :=
  .createVerifiedReceipt 1
    { purchaseId := 1, tankId := 1, receivedLiters := .exact liters, receivedAt := 20 } (some 9)

/-- A hundred liters are all of the order. -/
theorem tank_ledger_delivered :
    TankLedger (Run.exec FuelYard.serve {} [depotTank, dieselOrder, orderApproval, delivery 100]) :=
  tank_ledger ⟨rfl, rfl, rfl, rfl⟩ (by decide +kernel)

/-- An eighth of a liter is stored as 0,13 and moved as 0,12. -/
theorem eighth_of_a_liter :
    ¬ TankLedger (Run.exec FuelYard.serve {} [depotTank, dieselOrder, orderApproval, delivery (1 / 8)]) := by
  intro h
  have hmoved : ∃ r ∈ (Run.exec FuelYard.serve {}
      [depotTank, dieselOrder, orderApproval, delivery (1 / 8)]).fuelReceipts,
      (r.movementId.bind (Run.exec FuelYard.serve {}
        [depotTank, dieselOrder, orderApproval, delivery (1 / 8)]).fuelMovements.get).map
          FuelMovement.liters = some 12 ∧ r.receivedLiters = 13 := by decide +kernel
  obtain ⟨r, hr, hm, hliters⟩ := hmoved
  obtain ⟨m, hget, heq⟩ := h.receipts r hr
  rw [hget, Option.map_some, Option.some.injEq] at hm
  omega

end Rotas
