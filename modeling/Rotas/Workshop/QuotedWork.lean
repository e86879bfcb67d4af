import Mathlib.Algebra.BigOperators.Ring.List
import Rotas.Lib.Grouping
import Rotas.Workshop.Invoice

/-!
# Rotas.Workshop.QuotedWork

What an invoice charges, beside what the accepted quotes allow. The invoice takes the prices of the
quotes and nothing else of them.

* `charges`      — what is charged: tasks, one of each, and the parts that were used.
* `withinQuotes` — it was quoted, at one price, and no more of it is charged.
* `subtotal_le`  — then the subtotal stays within the totals of the quotes.
-/

namespace Rotas

open Decimal

variable [Locale]

/-! ## Charges -/

def completedTasks (tenantId : UUID) (wo : WorkOrder) (w : Warehouse) : List WorkOrderTask :=
  w.tasks.rows.filter fun t => t.tenantId = tenantId && t.workOrderId = wo.id &&
    t.status = .completed

def usedParts (tenantId : UUID) (wo : WorkOrder) (w : Warehouse) : List MaintenancePartUsed :=
  w.partsUsed.rows.filter fun u => u.tenantId = tenantId && u.workOrderId = wo.id

/-- A task has a line if it took time and has a price. -/
def WorkOrderTask.isCharged (tenantId : UUID) (quotes : List WorkshopQuote) (w : Warehouse)
    (task : WorkOrderTask) : Bool :=
  0 < task.minutes && ((quotedPrice quotes task.description w).isSome ||
    0 < hourlyRate tenantId task.completedBy w)

def chargedTasks (tenantId : UUID) (wo : WorkOrder) (w : Warehouse) : List WorkOrderTask :=
  (completedTasks tenantId wo w).filter
    (WorkOrderTask.isCharged tenantId (convertedQuotes tenantId wo w) w)

def MaintenancePartUsed.partName (w : Warehouse) (used : MaintenancePartUsed) : String :=
  ((w.spareParts.get used.inventoryId).map SparePart.name).getD "Peça"

/-- What is charged under a description, in thousandths. -/
structure Charge where
  description : String
  units : Int

/-- A task is charged at its price, whatever its time. -/
def charges (tenantId : UUID) (wo : WorkOrder) (w : Warehouse) : List Charge :=
  (chargedTasks tenantId wo w).map (fun t => { description := t.description, units := 1000 }) ++
    (usedParts tenantId wo w).map fun u => { description := u.partName w, units := u.quantity }

/-! ## Quotes -/

def quotedItems (quotes : List WorkshopQuote) (w : Warehouse) : List WorkshopQuoteItem :=
  quotes.flatMap fun q => w.quoteItems.rows.filter (·.quoteId = q.id)

def Charge.key (c : Charge) : String := quoteKey c.description

def WorkshopQuoteItem.key (i : WorkshopQuoteItem) : String := quoteKey i.description

/-- Every item of the description has the price that is charged. -/
def Charge.onePrice (quotes : List WorkshopQuote) (w : Warehouse) (c : Charge) : Bool :=
  (quotedPrice quotes c.description w).any fun price =>
    ((quotedItems quotes w).filter (·.key = c.key)).all (·.unitPrice = price)

/-- No more is charged under the description than was quoted. -/
def Charge.covered (quotes : List WorkshopQuote) (w : Warehouse) (cs : List Charge) (c : Charge) :
    Bool :=
  decide (((cs.filter (·.key = c.key)).map Charge.units).sum ≤
    (((quotedItems quotes w).filter (·.key = c.key)).map fun i => 10 * i.quantity).sum)

/-- The cost of a quantity is not rounded up. -/
def costsNoMore (quantity price : Int) : Bool :=
  decide (1000 * quantize 2 (context ((quantity : ℚ) / 1000 * ((price : ℚ) / 100))) ≤
    quantity * price)

/-- The items of the quotes come to no more than their totals. -/
def totalsCover (quotes : List WorkshopQuote) (w : Warehouse) : Bool :=
  (quotedItems quotes w).all (fun i => decide (0 ≤ i.quantity ∧ 0 ≤ i.unitPrice)) &&
    decide (((quotedItems quotes w).map fun i => i.quantity * i.unitPrice).sum ≤
      100 * (quotes.map WorkshopQuote.totalAmount).sum)

/-- What is charged was quoted, at one price, and no more of it is charged. -/
def withinQuotes (tenantId : UUID) (wo : WorkOrder) (w : Warehouse) : Bool :=
  let quotes := convertedQuotes tenantId wo w
  let cs := charges tenantId wo w
  cs.all (fun c => c.onePrice quotes w && c.covered quotes w cs) &&
    (usedParts tenantId wo w).all (fun u =>
      costsNoMore u.quantity ((quotedPrice quotes (u.partName w) w).getD 0)) &&
    totalsCover quotes w

/-! ## The subtotal -/

section Subtotal

variable {now : Instant} {tenantId : UUID} {wo : WorkOrder} {w : Warehouse}
  {quotes : List WorkshopQuote}

theorem quotePrices_eq (description : String) : quotePrices quotes description w =
    ((quotedItems quotes w).filter fun i => i.key = quoteKey description).map
      WorkshopQuoteItem.unitPrice := by
  rw [quotePrices, quotedItems, List.filter_flatMap, List.map_flatMap]
  simp only [List.filter_filter]
  refine List.flatMap_congr fun q _ => ?_
  refine congrArg (List.map _) (List.filter_congr fun i _ => ?_)
  exact Bool.and_comm _ _

/-- The price of a description, none counting as zero. -/
def priceOf (quotes : List WorkshopQuote) (w : Warehouse) (description : String) : Int :=
  (quotedPrice quotes description w).getD 0

theorem priceOf_congr {description description' : String}
    (h : quoteKey description = quoteKey description') :
    priceOf quotes w description = priceOf quotes w description' := by
  rw [priceOf, priceOf, quotedPrice, quotedPrice, quotePrices_eq, quotePrices_eq, h]

theorem laborLine_eq (task : WorkOrderTask)
    (h : task.isCharged tenantId quotes w = true → (quotedPrice quotes task.description w).isSome) :
    (laborLine now tenantId quotes w task).map InvoiceLine.amount =
      if task.isCharged tenantId quotes w then some (priceOf quotes w task.description)
      else none := by
  unfold laborLine priceOf
  unfold WorkOrderTask.isCharged at h ⊢
  split
  · next hmin =>
    have hnot : decide (0 < task.minutes) = false := decide_eq_false (by omega)
    rw [hnot]
    rfl
  · next hmin =>
    have hpos : decide (0 < task.minutes) = true := decide_eq_true (by omega)
    rw [hpos, Bool.true_and] at h ⊢
    cases hprice : quotedPrice quotes task.description w with
    | some price => rfl
    | none =>
      rw [hprice] at h
      cases hrate : decide (0 < hourlyRate tenantId task.completedBy w) with
      | true => exact absurd (h (by rw [hrate, Bool.or_true])) Bool.false_ne_true
      | false =>
        dsimp only
        rw [if_neg (of_decide_eq_false hrate)]
        rfl

/-- The labour of an order costs what its tasks were quoted at. -/
theorem labor_amounts (tasks : List WorkOrderTask)
    (h : ∀ t ∈ tasks, t.isCharged tenantId quotes w = true →
      (quotedPrice quotes t.description w).isSome) :
    (tasks.filterMap (laborLine now tenantId quotes w)).map InvoiceLine.amount =
      (tasks.filter (WorkOrderTask.isCharged tenantId quotes w)).map fun t =>
        priceOf quotes w t.description := by
  rw [List.map_filterMap, ← filterMap_guard]
  exact List.filterMap_congr fun t ht => laborLine_eq t (h t ht)

theorem partLine_amount (u : MaintenancePartUsed)
    (h : (quotedPrice quotes (u.partName w) w).isSome) :
    (partLine now quotes w u).amount = quantize 2 (context ((u.quantity : ℚ) / 1000 *
      ((priceOf quotes w (u.partName w) : ℚ) / 100))) := by
  unfold MaintenancePartUsed.partName at h ⊢
  obtain ⟨price, hprice⟩ := Option.isSome_iff_exists.mp h
  simp only [partLine, priceOf, hprice, Option.getD_some]

theorem parts_amounts (us : List MaintenancePartUsed)
    (h : ∀ u ∈ us, (quotedPrice quotes (u.partName w) w).isSome)
    (hround : ∀ u ∈ us, costsNoMore u.quantity (priceOf quotes w (u.partName w)) = true) :
    1000 * ((us.map (partLine now quotes w)).map InvoiceLine.amount).sum ≤
      (us.map fun u => u.quantity * priceOf quotes w (u.partName w)).sum := by
  rw [List.map_map, ← List.sum_map_mul_left]
  refine List.sum_le_sum fun u hu => ?_
  rw [Function.comp, partLine_amount u (h u hu)]
  exact of_decide_eq_true (hround u hu)

/-- The charges come to no more than the items that they were quoted by. -/
theorem charges_le {cs : List Charge}
    (hcs : ∀ c ∈ cs, c.onePrice quotes w = true ∧ c.covered quotes w cs = true)
    (hitems : ∀ i ∈ quotedItems quotes w, 0 ≤ i.quantity ∧ 0 ≤ i.unitPrice) :
    (cs.map fun c => c.units * priceOf quotes w c.description).sum ≤
      ((quotedItems quotes w).map fun i => 10 * (i.quantity * i.unitPrice)).sum := by
  refine sum_le_of_groups Charge.key WorkshopQuoteItem.key fun key => ?_
  by_cases hkey : ∃ c ∈ cs, c.key = key
  · obtain ⟨c, hc, rfl⟩ := hkey
    obtain ⟨hone, hcovered⟩ := hcs c hc
    obtain ⟨price, hprice, hall⟩ := (Option.any_eq_true _ _).mp hone
    have hcovered := of_decide_eq_true hcovered
    have hsame : ∀ i ∈ (quotedItems quotes w).filter (·.key = c.key), i.unitPrice = price :=
      fun i hi => of_decide_eq_true (List.all_eq_true.mp hall i hi)
    -- the price is that of an item
    have hnonneg : 0 ≤ price := by
      have hlast := (Option.filter_eq_some_iff.mp hprice).1
      rw [quotePrices_eq] at hlast
      obtain ⟨i, hi, rfl⟩ := List.mem_map.mp (List.mem_of_getLast? hlast)
      exact (hitems i (List.mem_filter.mp hi).1).2
    have hprice' : priceOf quotes w c.description = price := by rw [priceOf, hprice]; rfl
    calc ((cs.filter (·.key = c.key)).map fun c => c.units * priceOf quotes w c.description).sum
        = ((cs.filter (·.key = c.key)).map fun c => price * c.units).sum := by
          refine congrArg List.sum (List.map_congr_left fun c' hc' => ?_)
          have hk : c'.key = c.key := of_decide_eq_true (List.mem_filter.mp hc').2
          rw [priceOf_congr hk, hprice', mul_comm]
      _ = price * ((cs.filter (·.key = c.key)).map Charge.units).sum := List.sum_map_mul_left ..
      _ ≤ price * (((quotedItems quotes w).filter (·.key = c.key)).map fun i => 10 * i.quantity).sum :=
          mul_le_mul_of_nonneg_left hcovered hnonneg
      _ = (((quotedItems quotes w).filter (·.key = c.key)).map fun i =>
            10 * (i.quantity * i.unitPrice)).sum := by
          rw [← List.sum_map_mul_left]
          refine congrArg List.sum (List.map_congr_left fun i hi => ?_)
          rw [hsame i hi]
          ring
  · have hnone : cs.filter (·.key = key) = [] := by
      rw [List.filter_eq_nil_iff]
      intro c hc hk
      exact hkey ⟨c, hc, of_decide_eq_true hk⟩
    rw [hnone]
    refine List.sum_nonneg fun x hx => ?_
    obtain ⟨i, hi, rfl⟩ := List.mem_map.mp hx
    obtain ⟨hquantity, hprice⟩ := hitems i (List.mem_filter.mp hi).1
    positivity

theorem invoiceLines_eq : invoiceLines now tenantId wo w =
    (completedTasks tenantId wo w).filterMap (laborLine now tenantId (convertedQuotes tenantId wo w) w)
      ++ (usedParts tenantId wo w).map (partLine now (convertedQuotes tenantId wo w) w) := rfl

theorem subtotal_le (h : withinQuotes tenantId wo w = true) :
    ((invoiceLines now tenantId wo w).map InvoiceLine.amount).sum ≤
      ((convertedQuotes tenantId wo w).map WorkshopQuote.totalAmount).sum := by
  simp only [withinQuotes, Bool.and_eq_true, List.all_eq_true] at h
  obtain ⟨⟨hcs, hround⟩, hcover⟩ := h
  simp only [totalsCover, Bool.and_eq_true, List.all_eq_true, decide_eq_true_eq] at hcover
  obtain ⟨hitems, htotal⟩ := hcover
  have hquoted : ∀ c ∈ charges tenantId wo w,
      (quotedPrice (convertedQuotes tenantId wo w) c.description w).isSome := by
    intro c hc
    obtain ⟨price, hprice, _⟩ := (Option.any_eq_true _ _).mp (hcs c hc).1
    rw [hprice]
    rfl
  have htasks : ∀ t ∈ completedTasks tenantId wo w,
      t.isCharged tenantId (convertedQuotes tenantId wo w) w = true →
        (quotedPrice (convertedQuotes tenantId wo w) t.description w).isSome := by
    intro t ht hcharged
    exact hquoted { description := t.description, units := 1000 }
      (List.mem_append_left _ (List.mem_map_of_mem (List.mem_filter.mpr ⟨ht, hcharged⟩)))
  have hused : ∀ u ∈ usedParts tenantId wo w,
      (quotedPrice (convertedQuotes tenantId wo w) (u.partName w) w).isSome := by
    intro u hu
    exact hquoted { description := u.partName w, units := u.quantity }
      (List.mem_append_right _ (List.mem_map_of_mem hu))
  have hparts := @parts_amounts _ now w _ _ hused hround
  have hsplit : ((charges tenantId wo w).map fun c =>
      c.units * priceOf (convertedQuotes tenantId wo w) w c.description).sum =
        ((chargedTasks tenantId wo w).map fun t =>
          1000 * priceOf (convertedQuotes tenantId wo w) w t.description).sum +
        ((usedParts tenantId wo w).map fun u =>
          u.quantity * priceOf (convertedQuotes tenantId wo w) w (u.partName w)).sum := by
    rw [charges, List.map_append, List.sum_append, List.map_map, List.map_map]
    rfl
  have hcharges : 1000 * ((invoiceLines now tenantId wo w).map InvoiceLine.amount).sum ≤
      ((charges tenantId wo w).map fun c =>
        c.units * priceOf (convertedQuotes tenantId wo w) w c.description).sum := by
    rw [invoiceLines_eq, List.map_append, List.sum_append, labor_amounts _ htasks, mul_add,
      ← List.sum_map_mul_left, hsplit]
    exact Int.add_le_add_left hparts _
  have hle := charges_le hcs hitems
  rw [List.sum_map_mul_left] at hle
  omega

end Subtotal

end Rotas
