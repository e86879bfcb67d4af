import Rotas.Fuel.TankLedger

/-!
# Rotas.Fuel.Counts

Counts of a tank, from when they are taken to when they are approved.

* `since`      — the movements of a run, after the state it starts from.
* `physical`, `fuelAdjusted` — what receipts and refuels, and what adjustments, moved in a tank.
* `stock_since` — the stock after a run is that before it and what the run moved.
* `count_kept`  — a count keeps what it says until it is approved.
* `corrects_once` — an approved count leaves what was measured and what moved since, exactly when
  no other adjustment came between.
* `adjusted_twice` — two counts of one discrepancy.
-/

namespace Rotas

open Work Decimal

/-! ## What moved since a count -/

/-- The movements recorded from one state to a later one. -/
def FuelYard.since (taken s : FuelYard) : List FuelMovement :=
  s.fuelMovements.rows.drop taken.fuelMovements.rows.length

/-- The sum of `f` over the movements of a tank of one type. -/
def movedBy (ms : List FuelMovement) (tankId : UUID) (movementType : String)
    (f : FuelMovement → Int) : Int :=
  ((ms.filter fun m => m.tankId = tankId && m.movementType = movementType).map f).sum

/-- Receipts less refuels. -/
def physical (ms : List FuelMovement) (tankId : UUID) : Int :=
  movedBy ms tankId "purchase_receipt" FuelMovement.liters -
    movedBy ms tankId "vehicle_refuel" FuelMovement.liters

/-- The net of the adjustments. -/
def fuelAdjusted (ms : List FuelMovement) (tankId : UUID) : Int :=
  movedBy ms tankId "stock_adjustment" FuelMovement.net

/-- A run appends typed movements. -/
structure Appends (s p : FuelYard) : Prop where
  rows : ∃ ms, p.fuelMovements.rows = s.fuelMovements.rows ++ ms ∧ ∀ m ∈ ms, m.Typed

section Since

variable {s p q : FuelYard} {calls : List FuelCall}

theorem FuelStep.appends (h : FuelStep s p) : Appends s p := by
  cases h with
  | kept tanks movements => exact ⟨[], by rw [movements, List.append_nil], fun _ hm => absurd hm List.not_mem_nil⟩
  | opened tenantId payload capacity depot =>
    exact ⟨[], by rw [depot, List.append_nil], fun _ hm => absurd hm List.not_mem_nil⟩
  | moved tank m typed move =>
    exact ⟨[m], move.movements, fun m' hm' => List.mem_singleton.mp hm' ▸ typed⟩

theorem Appends.trans (h : Appends s p) (h' : Appends p q) : Appends s q := by
  obtain ⟨ms, hms, htyped⟩ := h.rows
  obtain ⟨ms', hms', htyped'⟩ := h'.rows
  refine ⟨ms ++ ms', by rw [hms', hms, List.append_assoc], fun m hm => ?_⟩
  rcases List.mem_append.mp hm with hm | hm
  · exact htyped m hm
  · exact htyped' m hm

theorem appends_serve (s : FuelYard) (c : FuelCall) : Appends s (s.serve c) := by
  rcases perform_cases c.run s with hsame | ⟨id, hrun, _⟩
  · rw [FuelYard.serve, hsame]
    exact ⟨[], (List.append_nil _).symm, fun _ hm => absurd hm List.not_mem_nil⟩
  · exact (fuelStep hrun).appends

theorem appends_run : Appends s (Run.exec FuelYard.serve s calls) :=
  Run.exec_inv_all (I := Appends s) (fun p c hp => hp.trans (appends_serve p c))
    ⟨[], (List.append_nil _).symm, fun _ hm => absurd hm List.not_mem_nil⟩

theorem Appends.since (h : Appends s p) :
    p.fuelMovements.rows = s.fuelMovements.rows ++ s.since p ∧ ∀ m ∈ s.since p, m.Typed := by
  obtain ⟨ms, hms, htyped⟩ := h.rows
  have hsince : s.since p = ms := by
    unfold FuelYard.since
    rw [hms, List.drop_left]
  rw [hsince]
  exact ⟨hms, htyped⟩

/-- What typed movements move in a tank is physical or an adjustment. -/
theorem net_typed {ms : List FuelMovement} (h : ∀ m ∈ ms, m.Typed) (tankId : UUID) :
    ((ms.filter fun m => m.tankId = tankId).map FuelMovement.net).sum =
      physical ms tankId + fuelAdjusted ms tankId := by
  induction ms with
  | nil => rfl
  | cons m ms ih =>
    have ih' := ih fun m' hm' => h m' (List.mem_cons_of_mem _ hm')
    simp only [physical, fuelAdjusted, movedBy] at ih' ⊢
    by_cases hid : m.tankId = tankId
    · rcases h m List.mem_cons_self with ⟨htype, hdir⟩ | ⟨htype, hdir⟩ | htype
      · simp [hid, htype, FuelMovement.net, hdir] at ih' ⊢
        omega
      · simp [hid, htype, FuelMovement.net, hdir] at ih' ⊢
        omega
      · simp [hid, htype] at ih' ⊢
        omega
    · simpa [hid] using ih'

theorem stock_since (hs : StockKept s.toDepot) (hp : StockKept p.toDepot) (happ : Appends s p)
    {t t' : FuelTank} (ht : t ∈ s.fuelTanks) (ht' : t' ∈ p.fuelTanks) (hid : t'.id = t.id) :
    t'.currentStockLiters =
      t.currentStockLiters + physical (s.since p) t.id + fuelAdjusted (s.since p) t.id := by
  obtain ⟨hrows, htyped⟩ := happ.since
  rw [hs.net t ht, hp.net t' ht', hid]
  unfold Table.sumWhere
  rw [hrows, List.filter_append, List.map_append, List.sum_append, net_typed htyped]
  omega

end Since

/-! ## Counts -/

/-- The two rows are of one count, whatever became of it. -/
structure SameCount (c c' : FuelStockCount) : Prop where
  tankId : c'.tankId = c.tankId
  measured : c'.measuredLiters = c.measuredLiters
  variance : c'.varianceLiters = c.varianceLiters

/-- Every count of the one state is one of the other. -/
def CountsKept (s p : FuelYard) : Prop :=
  ∀ k c, s.fuelStockCounts.get k = some c → ∃ c', p.fuelStockCounts.get k = some c' ∧ SameCount c c'

section Counts

variable {s p q : FuelYard} {id : UUID}

theorem SameCount.refl (c : FuelStockCount) : SameCount c c := ⟨rfl, rfl, rfl⟩

theorem CountsKept.refl (s : FuelYard) : CountsKept s s := fun _ c hc => ⟨c, hc, .refl c⟩

theorem CountsKept.trans (h : CountsKept s p) (h' : CountsKept p q) : CountsKept s q := by
  intro k c hc
  obtain ⟨c', hc', hsame⟩ := h k c hc
  obtain ⟨c'', hc'', hsame'⟩ := h' k c' hc'
  exact ⟨c'', hc'', hsame'.tankId.trans hsame.tankId, hsame'.measured.trans hsame.measured,
    hsame'.variance.trans hsame.variance⟩

theorem CountsKept.of_eq (h : p.fuelStockCounts = s.fuelStockCounts) : CountsKept s p :=
  fun _ c hc => ⟨c, h ▸ hc, .refl c⟩

theorem countsKept_run {c : FuelCall} (h : c.run s = .ok (id, p)) : CountsKept s p := by
  cases c with
  | createTank tenantId payload =>
    obtain ⟨_, rfl⟩ := createTank_eq_ok h
    exact .of_eq rfl
  | createPurchase tenantId payload =>
    obtain ⟨_, rfl⟩ := createPurchase_eq_ok h
    exact .of_eq rfl
  | approvePurchase now tenantId purchaseId actorId =>
    rcases approvePurchase_cases h with rfl | ⟨_, _, _, rfl⟩
    · exact .refl _
    · exact .of_eq rfl
  | createVerifiedReceipt tenantId payload actorId =>
    obtain ⟨_, _, _, _, _, _, _, _, _, _, _, _, rfl⟩ := createVerifiedReceipt_eq_ok h
    exact .of_eq rfl
  | createVehicleRefuel tenantId payload actorId =>
    simp only [FuelCall.run] at h
    cases hrefuel : Rotas.createVehicleRefuel tenantId payload actorId s.toDepot with
    | error e => rw [hrefuel] at h; cases h
    | ok r =>
      rw [hrefuel] at h
      cases h
      exact .of_eq rfl
  | createStockCount tenantId payload actorId =>
    obtain ⟨tank, _, _, rfl⟩ := createStockCount_eq_ok h
    intro k c hc
    refine ⟨c, ?_, .refl c⟩
    rw [Table.get_eq_some_iff] at hc ⊢
    exact ⟨List.mem_append_left _ hc.1, hc.2⟩
  | approveStockAdjustment now tenantId stockCountId actorId notes =>
    rcases approveStockAdjustment_cases h with ⟨_, _, _, rfl⟩ | ⟨_, _, _, _, _, _, _, _, _, _, rfl⟩
    · exact .refl _
    · intro k c hc
      dsimp only
      rw [Table.get_modify]
      split
      · next hk =>
        rw [← hk, hc]
        exact ⟨_, rfl, rfl, rfl, rfl⟩
      · exact ⟨c, hc, .refl c⟩

theorem count_kept {calls : List FuelCall} : CountsKept s (Run.exec FuelYard.serve s calls) := by
  refine Run.exec_inv_all (I := CountsKept s) (fun p c hp => hp.trans ?_) (.refl s)
  rcases perform_cases c.run p with hsame | ⟨id, hrun, _⟩
  · rw [FuelYard.serve, hsame]
    exact .refl p
  · exact countsKept_run hrun

end Counts

/-! ## Approval -/

section Approval

variable {s taken approved : FuelYard} {before between : List FuelCall} {tenantId countId id : UUID}
  {payload : FuelStockCountCreate} {actorId approverId : Option UUID} {now : Instant}
  {notes : Option String} {count : FuelStockCount}

theorem stockKept_run {calls : List FuelCall} (h : StockKept s.toDepot) :
    StockKept (Run.exec FuelYard.serve s calls).toDepot :=
  Run.exec_inv_all (I := fun s : FuelYard => StockKept s.toDepot) (fun _ c hs => hs.serve c) h

/-- A count that is taken says how far its measure is from the stock, which it leaves alone. -/
theorem taken_count (htaken : createStockCount tenantId payload actorId s = .ok (countId, taken)) :
    ∃ tank ∈ s.fuelTanks, tank.id = payload.tankId ∧ taken.toDepot = s.toDepot ∧
      taken.fuelStockCounts.get countId =
        some (newStockCount tenantId payload actorId tank.currentStockLiters countId) := by
  obtain ⟨tank, hget, rfl, rfl⟩ := createStockCount_eq_ok htaken
  refine ⟨tank, Table.mem_of_get hget, Table.key_of_get hget, rfl, ?_⟩
  rw [Table.get_eq_some_iff]
  exact ⟨List.mem_append_right _ List.mem_cons_self, rfl⟩

/-- The count is approved when it is still pending, and moves its variance. -/
theorem approved_count (hcount : s.fuelStockCounts.get countId = some count)
    (hpending : count.adjustmentStatus = "pending")
    (happroved : approveStockAdjustment now tenantId countId approverId notes s =
      .ok (id, approved)) {tank : FuelTank} (htank : tank ∈ approved.fuelTanks)
    (hid : tank.id = count.tankId) :
    ∃ old ∈ s.fuelTanks, old.id = tank.id ∧
      tank.currentStockLiters = old.currentStockLiters + count.varianceLiters := by
  rcases approveStockAdjustment_cases happroved with ⟨count', hget, hdone, _⟩ |
    ⟨count', old, m, depot, hget, _, hold, hmove, _, hnet, rfl⟩
  · obtain rfl := Option.some.inj (hcount.symm.trans hget)
    rw [hpending] at hdone
    exact absurd hdone (by decide)
  · obtain rfl := Option.some.inj (hcount.symm.trans hget)
    rcases hmove.tanks tank htank with ⟨hsame, hstock, _⟩ | ⟨_, hne⟩
    · exact ⟨old, Table.mem_of_get hmove.found, hsame.symm, by rw [hstock, hmove.balance, hnet]⟩
    · exact absurd (hid.trans hold.symm) hne

/-- When a count is approved, its tank holds what was measured and what receipts and refuels moved
since, exactly if the adjustments since then cancel (up to what the column rounds of the measure). -/
theorem corrects_once (h : s.Unused)
    (htaken : createStockCount tenantId payload actorId (Run.exec FuelYard.serve s before) =
      .ok (countId, taken))
    (hcount : (Run.exec FuelYard.serve taken between).fuelStockCounts.get countId = some count)
    (hpending : count.adjustmentStatus = "pending")
    (happroved : approveStockAdjustment now tenantId countId approverId notes
      (Run.exec FuelYard.serve taken between) = .ok (id, approved)) :
    ∀ tank ∈ approved.fuelTanks, tank.id = payload.tankId →
      (tank.currentStockLiters = count.measuredLiters +
          physical (taken.since (Run.exec FuelYard.serve taken between)) tank.id ↔
        fuelAdjusted (taken.since (Run.exec FuelYard.serve taken between)) tank.id =
          payload.measuredLiters.stored - payload.measuredLiters.rounded) := by
  intro tank htank hid
  obtain ⟨first, hfirst, hfirstId, hdepot, hnew⟩ := taken_count htaken
  have hkept : StockKept taken.toDepot := by
    rw [hdepot]
    exact stockKept_run h.stockKept
  obtain ⟨count', hcount', hsame⟩ := @count_kept taken between _ _ hnew
  obtain rfl := Option.some.inj (hcount.symm.trans hcount')
  obtain ⟨old, hold, holdId, hstock⟩ :=
    approved_count hcount hpending happroved htank (by rw [hsame.tankId, hid]; rfl)
  have hsince := stock_since hkept (stockKept_run hkept) appends_run
    (show first ∈ taken.fuelTanks by rw [hdepot]; exact hfirst) hold
    (holdId.trans (hid.trans hfirstId.symm))
  have hvariance : count.varianceLiters =
      payload.measuredLiters.rounded - first.currentStockLiters := hsame.variance
  have hmeasured : count.measuredLiters = payload.measuredLiters.stored := hsame.measured
  rw [hstock, hsince, hvariance, hmeasured, hid, hfirstId]
  constructor <;> intro heq <;> omega

end Approval

/-! ## Two counts of a hundred liters -/

private def stocking : List FuelCall :=
  [.createTank 1 { code := "T1", name := "Depósito", capacityLiters := .exact 1000 },
    .createPurchase 1 { supplierName := "Fornecedor", purchaseReference := "REQ-1"
                        orderedLiters := .exact 100, unitPrice := .exact 80, orderedAt := 0 },
    .approvePurchase 10 1 1 (some 9),
    .createVerifiedReceipt 1
      { purchaseId := 1, tankId := 1, receivedLiters := .exact 100, receivedAt := 20 } (some 9)]

/-- Ten liters are missing. -/
private def measure : FuelStockCountCreate :=
  { tankId := 1, measuredLiters := .exact 90, countedAt := 30 }

private def result (r : Except Exc (UUID × FuelYard)) : FuelYard :=
  match r with
  | .ok (_, s) => s
  | .error _ => {}

private theorem eq_result {r : Except Exc (UUID × FuelYard)} {id : UUID}
    (h : r.toOption.map Prod.fst = some id) : r = .ok (id, result r) := by
  cases r with
  | error e => cases h
  | ok x => cases h; rfl

private def firstTaken : FuelYard :=
  result (createStockCount 1 measure (some 9) (Run.exec FuelYard.serve {} stocking))

private def firstApproved : FuelYard :=
  result (approveStockAdjustment 50 1 1 (some 8) none firstTaken)

/-- The only count of a tank is approved. -/
theorem corrects_once_single : ∃ count, firstTaken.fuelStockCounts.get 1 = some count ∧
    ∀ tank ∈ firstApproved.fuelTanks, tank.id = 1 →
      (tank.currentStockLiters = count.measuredLiters + physical (firstTaken.since firstTaken) tank.id ↔
        fuelAdjusted (firstTaken.since firstTaken) tank.id =
          measure.measuredLiters.stored - measure.measuredLiters.rounded) := by
  have hpending : (firstTaken.fuelStockCounts.get 1).any (·.adjustmentStatus = "pending") = true := by
    decide +kernel
  obtain ⟨count, hcount, hstatus⟩ := (Option.any_eq_true _ _).mp hpending
  exact ⟨count, hcount, @corrects_once {} firstTaken firstApproved stocking [] 1 1 1 measure (some 9)
    (some 8) 50 none count ⟨rfl, rfl, rfl, rfl⟩ (eq_result (by decide +kernel)) hcount
    (of_decide_eq_true hstatus) (eq_result (by decide +kernel))⟩

private def secondTaken : FuelYard := firstTaken.serve (.createStockCount 1 measure (some 9))

private def firstAgain : FuelYard :=
  secondTaken.serve (.approveStockAdjustment 50 1 1 (some 8) none)

private def secondApproved : FuelYard :=
  firstAgain.serve (.approveStockAdjustment 60 1 2 (some 8) none)

/-- Two counts measure ninety liters; once both are approved eighty are left, and nothing moved. -/
theorem adjusted_twice :
    (secondApproved.fuelStockCounts.get 2).map (fun c => (c.adjustmentStatus, c.measuredLiters)) =
      some ("approved", 9000) ∧
    physical (secondTaken.since secondApproved) 1 = 0 ∧
    (secondApproved.fuelTanks.get 1).map FuelTank.currentStockLiters = some 8000 := by
  decide +kernel

end Rotas
