import Rotas.Workshop.StockLedger

/-!
# Rotas.Workshop.AverageCost

The average cost of a part over runs of the requests that write stock.

* `le_wacc`, `wacc_le` — the weighted average lies between the two costs, rounded as it is.
* `Paid` — the initial cost of a part, and what came in of it cost.
* `Averages` — every average lies between two costs that were paid.
* `Steady` — a step that takes something out changes no average.
* `average_cost` — every run of the requests averages, and its steps are steady.
-/

namespace Rotas

open Work Decimal

/-! ## The weighted average -/

section Wacc

variable {stock quantity oldCost cost m : Int}

theorem fits_value (hstock : |stock| < 10 ^ 14) (hcost : |cost| < 10 ^ 14) :
    Fits ((stock : ℚ) / 1000 * (cost / 100)) := by
  refine ⟨stock * cost, -5, ?_, ?_⟩
  · rw [abs_mul]
    calc |stock| * |cost| < 10 ^ 14 * 10 ^ 14 :=
          mul_lt_mul'' hstock hcost (abs_nonneg _) (abs_nonneg _)
      _ = 10 ^ 28 := by norm_num
  · push_cast
    rw [zpow_neg]
    norm_num
    ring

theorem le_value (hstock : 0 ≤ stock) (hbound : stock < 10 ^ 14) (hm : |m| < 10 ^ 14)
    (hcost : m ≤ cost) :
    (stock : ℚ) / 1000 * (m / 100) ≤ context ((stock : ℚ) / 1000 * (cost / 100)) := by
  have habs : |stock| < 10 ^ 14 := by rwa [abs_of_nonneg hstock]
  have hstock' : (0 : ℚ) ≤ stock / 1000 := by
    have : (0 : ℚ) ≤ stock := by exact_mod_cast hstock
    positivity
  have hcost' : (m : ℚ) / 100 ≤ cost / 100 := by
    have : (m : ℚ) ≤ cost := by exact_mod_cast hcost
    linarith
  exact le_context_of_fits (fits_value habs hm) (mul_le_mul_of_nonneg_left hcost' hstock')

theorem le_wacc (hstock : 0 ≤ stock) (hquantity : 0 < quantity) (hsum : stock + quantity < 10 ^ 14)
    (hm : |m| < 10 ^ 14) (hold : m ≤ oldCost) (hnew : m ≤ cost) :
    (m : ℚ) / 10 ^ 2 ≤ wacc stock oldCost quantity cost := by
  have hsumAbs : |stock + quantity| < 10 ^ 14 := by
    rw [abs_of_nonneg (by omega)]
    exact hsum
  have hpos : (0 : ℚ) < ((stock + quantity : ℤ) : ℚ) / 1000 := by
    have : (0 : ℚ) < ((stock + quantity : ℤ) : ℚ) := by exact_mod_cast (by omega)
    positivity
  have hparts : ((stock + quantity : ℤ) : ℚ) / 1000 * (m / 100) ≤
      context ((stock : ℚ) / 1000 * (oldCost / 100)) +
        context ((quantity : ℚ) / 1000 * (cost / 100)) := by
    have h₁ := le_value hstock (by omega) hm hold
    have h₂ := le_value hquantity.le (by omega) hm hnew
    push_cast
    linarith
  have htotal := le_context_of_fits (fits_value hsumAbs hm) hparts
  have hfits : Fits ((m : ℚ) / 10 ^ 2) := by
    refine ⟨m, -2, by omega, ?_⟩
    rw [zpow_neg]
    norm_num
    ring
  refine le_context_of_fits hfits ?_
  rw [le_div_iff₀ hpos]
  refine le_trans (le_of_eq ?_) htotal
  norm_num
  ring

theorem wacc_neg : wacc stock (-oldCost) quantity (-cost) = -wacc stock oldCost quantity cost := by
  unfold wacc
  rw [← context_neg, ← neg_div, ← context_neg, neg_add, ← context_neg, ← context_neg]
  push_cast
  simp only [neg_div, mul_neg]

theorem wacc_le (hstock : 0 ≤ stock) (hquantity : 0 < quantity) (hsum : stock + quantity < 10 ^ 14)
    (hm : |m| < 10 ^ 14) (hold : oldCost ≤ m) (hnew : cost ≤ m) :
    wacc stock oldCost quantity cost ≤ (m : ℚ) / 10 ^ 2 := by
  have hneg := le_wacc hstock hquantity hsum (by rwa [abs_neg]) (neg_le_neg hold) (neg_le_neg hnew)
  rw [wacc_neg] at hneg
  push_cast at hneg
  rw [neg_div] at hneg
  exact neg_le_neg_iff.mp hneg

end Wacc

/-! ## What was paid -/

/-- What the part cost at the start, or what came in of it since has cost. -/
def Paid (start db : Warehouse) (initial : SparePart) (cost : Int) : Prop :=
  cost = initial.averageUnitCost ∨ ∃ m ∈ db.movements, m ∉ start.movements ∧
    m.inventoryId = initial.id ∧ m.direction = .inward ∧ m.unitCost = some cost

/-- The value lies between two costs that were paid. -/
structure Between (start db : Warehouse) (initial : SparePart) (average : Int) : Prop where
  above : ∃ low, Paid start db initial low ∧ low ≤ average
  below : ∃ high, Paid start db initial high ∧ average ≤ high

/-- The average of every part lies between the least and the greatest cost that was paid for it. -/
def Averages (start db : Warehouse) : Prop :=
  ∀ part ∈ db.spareParts, ∃ initial ∈ start.spareParts, initial.id = part.id ∧
    Between start db initial part.averageUnitCost

/-- A step that takes something out leaves every average. -/
def Steady (db p : Warehouse) : Prop :=
  (∃ m ∈ p.movements, m ∉ db.movements ∧ m.direction = .outward) →
    ∀ part ∈ p.spareParts, ∃ old ∈ db.spareParts, old.id = part.id ∧
      part.averageUnitCost = old.averageUnitCost

section

variable {start db q p : Warehouse} {m : SparePartMovement} {average stock : Int}
  {part initial : SparePart} {E : Prop} {d : Direction}

theorem Paid.mono {cost : Int} (h : Paid start db initial cost)
    (hgrown : ∀ m ∈ db.movements, m ∈ p.movements) : Paid start p initial cost := by
  rcases h with hinitial | ⟨m, hm, hpaid⟩
  · exact .inl hinitial
  · exact .inr ⟨m, hgrown m hm, hpaid⟩

theorem Between.mono (h : Between start db initial average)
    (hgrown : ∀ m ∈ db.movements, m ∈ p.movements) : Between start p initial average := by
  obtain ⟨⟨low, hlow, hle⟩, high, hhigh, hge⟩ := h
  exact ⟨⟨low, hlow.mono hgrown, hle⟩, high, hhigh.mono hgrown, hge⟩

/-- A value between one that is between paid costs and a paid cost. -/
theorem Between.weigh {old cost : Int} (h : Between start db initial old)
    (hcost : Paid start db initial cost) (hlow : min old cost ≤ average)
    (hhigh : average ≤ max old cost) : Between start db initial average := by
  obtain ⟨⟨low, hpaidLow, hle⟩, high, hpaidHigh, hge⟩ := h
  constructor
  · rcases min_le_iff.mp hlow with hold | hnew
    · exact ⟨low, hpaidLow, hle.trans hold⟩
    · exact ⟨cost, hcost, hnew⟩
  · rcases le_max_iff.mp hhigh with hold | hnew
    · exact ⟨high, hpaidHigh, hold.trans hge⟩
    · exact ⟨cost, hcost, hnew⟩

theorem abs_lt_of_fitsDigits {n : Int} (h : fitsDigits n = true) : |n| < 10 ^ 14 :=
  abs_lt.mpr (of_decide_eq_true h)

/-- The average after a movement that the database accepts lies between the two that it weighs. -/
theorem Averaged.between (h : Averaged m average part stock) (hok : m.ok = true)
    (hbalance : m.balanceAfterQuantity = stock + m.signed) (hstock : 0 ≤ stock)
    (hpart : |part.averageUnitCost| < 10 ^ 14) :
    ∃ cost, m.unitCost = some cost ∧ |average| < 10 ^ 14 ∧
      min part.averageUnitCost cost ≤ average ∧ average ≤ max part.averageUnitCost cost := by
  obtain ⟨hinward, cost, round, hcost, hround, rfl⟩ := h
  simp only [SparePartMovement.ok, Bool.and_eq_true, decide_eq_true_eq, hcost, Option.all_some] at hok
  obtain ⟨⟨⟨⟨⟨hquantity, -⟩, -⟩, hfits⟩, hcostFits⟩, -⟩ := hok
  have hsigned : m.signed = m.quantity := by rw [SparePartMovement.signed, hinward]
  have hsum : stock + m.quantity < 10 ^ 14 := by
    rw [← hsigned, ← hbalance]
    exact (of_decide_eq_true hfits).2
  have habs := abs_lt_of_fitsDigits hcostFits
  have hmin : |min part.averageUnitCost cost| < 10 ^ 14 :=
    abs_min_le_max_abs_abs.trans_lt (max_lt hpart habs)
  have hmax : |max part.averageUnitCost cost| < 10 ^ 14 :=
    abs_max_le_max_abs_abs.trans_lt (max_lt hpart habs)
  have hlow := hround.le_of_le
    (le_wacc hstock hquantity hsum hmin (min_le_left _ _) (min_le_right _ _))
  have hhigh := hround.le_of_ge
    (wacc_le hstock hquantity hsum hmax (le_max_left _ _) (le_max_right _ _))
  refine ⟨cost, hcost, abs_lt.mpr ⟨?_, ?_⟩, hlow, hhigh⟩
  · exact (abs_lt.mp hmin).1.trans_le hlow
  · exact hhigh.trans_lt (abs_lt.mp hmax).2

/-! ## What postings keep -/

/-- A part that the database accepts, with an average between what was paid. -/
structure PartKept (start db : Warehouse) (part : SparePart) : Prop where
  nonneg : 0 ≤ part.currentQuantity
  fits : |part.averageUnitCost| < 10 ^ 14
  between : ∃ initial ∈ start.spareParts, initial.id = part.id ∧
    Between start db initial part.averageUnitCost

/-- No movement is lost, and if the database accepts all of them, the parts are kept. -/
structure AveragesKept (start db : Warehouse) : Prop where
  grown : ∀ m ∈ start.movements, m ∈ db.movements
  parts : (∀ m ∈ db.movements, m.ok = true) → ∀ part ∈ db.spareParts, PartKept start db part

theorem AveragesKept.congr (h : AveragesKept start db) (hparts : p.spareParts = db.spareParts)
    (hmovements : p.movements = db.movements) : AveragesKept start p where
  grown m hm := hmovements ▸ h.grown m hm
  parts hok part hpart := by
    rw [hparts] at hpart
    obtain ⟨hnonneg, hfits, initial, hinitial, hid, hbetween⟩ :=
      h.parts (fun m hm => hok m (hmovements ▸ hm)) part hpart
    exact ⟨hnonneg, hfits, initial, hinitial, hid,
      hbetween.mono fun m hm => hmovements ▸ hm⟩

theorem StockPosting.eq_part {old : SparePart} (h : StockPosting E m average q part stock)
    (hold : old ∈ q.spareParts) (hid : old.id = m.inventoryId) : old = part := by
  have hfound := Table.get_of_mem hold
  have hkey : Keyed.key old = m.inventoryId := hid
  rw [hkey, h.found] at hfound
  exact (Option.some.inj hfound).symm

theorem AveragesKept.post (h : AveragesKept start q) (hposting : StockPosting E m average q part stock) :
    AveragesKept start (q.post m average) := by
  have hgrown : ∀ m' ∈ q.movements, m' ∈ (q.post m average).movements :=
    fun m' hm' => (Table.mem_insert _ _ _).mpr (.inl hm')
  refine ⟨fun m' hm' => hgrown m' (h.grown m' hm'), fun hok pt hpt => ?_⟩
  have hkept := h.parts fun m' hm' => hok m' (hgrown m' hm')
  have hposted : { m with id := q.movements.freshKey } ∈ (q.post m average).movements :=
    (Table.mem_insert _ _ _).mpr (.inr rfl)
  have hmok : m.ok = true := (hok _ hposted :)
  rcases mem_parts_post hpt with ⟨old, hold, hid, rfl⟩ | ⟨hpt, -⟩
  · obtain rfl := hposting.eq_part hold hid
    obtain ⟨hnonneg, hfits, initial, hinitial, hinitialId, hbetween⟩ := hkept old hold
    have hbalance : 0 ≤ m.balanceAfterQuantity := by
      simp only [SparePartMovement.ok, Bool.and_eq_true, decide_eq_true_eq] at hmok
      exact hmok.1.1.1.1.2
    have hbetween' := hbetween.mono hgrown
    rcases hposting.average with rfl | haveraged
    · exact ⟨hbalance, hfits, initial, hinitial, hinitialId, hbetween'⟩
    · obtain ⟨cost, hcost, hfits', hlow, hhigh⟩ :=
        haveraged.between hmok hposting.balance (hposting.nonneg hnonneg) hfits
      have hpaid : Paid start (q.post m average) initial cost := by
        refine .inr ⟨_, hposted, fun hstart => ?_, ?_, haveraged.inward, hcost⟩
        · exact absurd (Table.key_lt_freshKey (h.grown _ hstart)) (lt_irrefl _)
        · exact hid.symm.trans hinitialId.symm
      exact ⟨hbalance, hfits', initial, hinitial, hinitialId, hbetween'.weigh hpaid hlow hhigh⟩
  · obtain ⟨hnonneg, hfits, initial, hinitial, hinitialId, hbetween⟩ := hkept pt hpt
    exact ⟨hnonneg, hfits, initial, hinitial, hinitialId, hbetween.mono hgrown⟩

theorem AveragesKept.posted (h : AveragesKept start db) (hposted : StockPosted d E db p) :
    AveragesKept start p := by
  induction hposted with
  | same hparts hmovements => exact h.congr hparts hmovements
  | post _ _ hposting hparts hmovements ih => exact (ih.post hposting).congr hparts hmovements

theorem StockPosted.direction_eq (h : StockPosted d E db p) (hm : m ∈ p.movements)
    (hnew : m ∉ db.movements) : m.direction = d := by
  induction h with
  | same _ hmovements => exact absurd (hmovements ▸ hm) hnew
  | post _ hdirection _ _ hmovements ih =>
    rw [hmovements] at hm
    rcases (Table.mem_insert _ _ _).mp hm with hold | rfl
    · exact ih hold
    · exact hdirection

theorem StockPosted.average_eq (h : StockPosted .outward E db p) :
    ∀ part ∈ p.spareParts, ∃ old ∈ db.spareParts, old.id = part.id ∧
      part.averageUnitCost = old.averageUnitCost := by
  induction h with
  | same hparts _ => exact fun part hpart => ⟨part, hparts ▸ hpart, rfl, rfl⟩
  | post _ hdirection hposting hparts _ ih =>
    intro part hpart
    rw [hparts] at hpart
    rcases mem_parts_post hpart with ⟨before, hbefore, hid, rfl⟩ | ⟨hpart, -⟩
    · obtain ⟨old, hold, holdId, haverage⟩ := ih before hbefore
      refine ⟨old, hold, holdId, Eq.trans ?_ haverage⟩
      obtain rfl := hposting.eq_part hbefore hid
      refine hposting.average.resolve_right fun haveraged => ?_
      cases hdirection.symm.trans haveraged.inward
    · exact ih part hpart

theorem StockPosted.steady (h : StockPosted d E db p) : Steady db p := by
  rintro ⟨m, hm, hnew, houtward⟩
  obtain rfl : d = .outward := (h.direction_eq hm hnew).symm.trans houtward
  exact h.average_eq

theorem AveragesKept.refl (hok : start.ok = true) : AveragesKept start start where
  grown _ hm := hm
  parts _ part hpart := by
    refine ⟨quantity_nonneg hok hpart, abs_lt_of_fitsDigits (average_fits hok hpart), part, hpart,
      rfl, ?_, ?_⟩
    · exact ⟨_, .inl rfl, le_rfl⟩
    · exact ⟨_, .inl rfl, le_rfl⟩

end

/-! ## Runs -/

section Run

variable [Rendering] {db₀ : Warehouse}

theorem serve_steady (db : Warehouse) (c : StockCall) : Steady db (db.serve c) := by
  rcases perform_cases c.run db with hsame | ⟨id, hrun, -⟩
  · rw [Warehouse.serve, hsame]
    rintro ⟨m, hm, hnew, -⟩
    exact absurd hm hnew
  · obtain ⟨d, hposted⟩ := StockCall.posted hrun
    exact hposted.steady

/-- From any stock that the database accepts, after every run of requests the average cost of each
part lies between what was paid for it at least and at most, and what goes out next leaves it. -/
theorem average_cost (hok : db₀.ok = true) (cs : List StockCall) :
    Averages db₀ (Run.exec Warehouse.serve db₀ cs) ∧
      ∀ c, Steady (Run.exec Warehouse.serve db₀ cs)
        ((Run.exec Warehouse.serve db₀ cs).serve c) := by
  have hstep : ∀ db c, AveragesKept db₀ db ∧ db.ok = true →
      AveragesKept db₀ (db.serve c) ∧ (db.serve c).ok = true := by
    rintro db c ⟨h, hdb⟩
    rcases perform_cases c.run db with hsame | ⟨id, hrun, hok⟩
    · rw [Warehouse.serve, hsame]
      exact ⟨h, hdb⟩
    · obtain ⟨d, hposted⟩ := StockCall.posted hrun
      exact ⟨h.posted hposted, hok⟩
  have hrun : AveragesKept db₀ (Run.exec Warehouse.serve db₀ cs) ∧
      (Run.exec Warehouse.serve db₀ cs).ok = true :=
    Run.exec_inv_all (I := fun db => AveragesKept db₀ db ∧ db.ok = true) hstep ⟨.refl hok, hok⟩
  obtain ⟨hkept, hend⟩ := hrun
  exact ⟨fun part hpart => (hkept.parts (movement_ok hend) part hpart).between,
    fun c => serve_steady _ c⟩

end Run

/-- Two litres of oil at 100 come in to 7.5 at nothing, and half a litre goes out. -/
theorem average_cost_oil :
    let db := Run.exec (@Warehouse.serve .decimal) oilStock [receiveOil 2 (by norm_num)]
    Averages oilStock db ∧ ∀ c, Steady db (@Warehouse.serve .decimal db c) :=
  @average_cost .decimal oilStock (by decide +kernel) [receiveOil 2 (by norm_num)]

end Rotas
