import Rotas.Billing.Immutable

/-!
# Rotas.Billing.Totals

The totals of issued documents and the sums of their items.

* `TotalsInv`      — every workshop document is taxed on its sum, or totalled; every numbered
  invoice of trips is totalled.
* `totalled_iff`   — a document that is taxed on its sum is totalled exactly when the residues of
  its lines stay within half a cent.
* `issued_totals`  — the invoices of a run, from both paths.
-/

namespace Rotas

open Work Decimal

/-- The amounts of the stored items of a document. -/
def Db.amountsOf (db : Db) (d : BillingDocument) : List Int :=
  (itemsOf d.tenantId d.id db).map BillingItem.amount

structure TotalsInv (selectBound : Bool) (db : Db) : Prop where
  filed : db.Filed
  workshop : ∀ d ∈ db.billingDocuments, d.documentSource = .workshop →
    TaxedOnSum db d ∨ selectBound = true ∧ Totalled db d
  transport : ∀ d ∈ db.billingDocuments, d.documentSource = .transport →
    d.documentType = .invoice → d.invoiceNumber.isSome → Totalled db d

section Totals

variable {selectBound : Bool} {X : BillingDocument → Prop} {db p : Db} {d d' : BillingDocument}

theorem itemsOf_unchanged (h : Unchanged db p d d') (htenant : d'.tenantId = d.tenantId)
    (hid : d'.id = d.id) : itemsOf d'.tenantId d'.id p = itemsOf d.tenantId d.id db := by
  rw [htenant, hid, itemsOf_eq, itemsOf_eq, h.lines]

theorem Totalled.unchanged (ht : Totalled db d) (h : Unchanged db p d d')
    (htenant : d'.tenantId = d.tenantId) (hid : d'.id = d.id) : Totalled p d' where
  subtotal := by rw [h.subtotal, itemsOf_unchanged h htenant hid, ht.subtotal]
  tax := by rw [h.tax, itemsOf_unchanged h htenant hid, ht.tax]
  total := by rw [h.total, h.subtotal, h.tax, ht.total]

theorem TaxedOnSum.unchanged (ht : TaxedOnSum db d) (h : Unchanged db p d d')
    (htenant : d'.tenantId = d.tenantId) (hid : d'.id = d.id) : TaxedOnSum p d' where
  subtotal := by rw [h.subtotal, itemsOf_unchanged h htenant hid, ht.subtotal]
  tax := by rw [h.tax, h.subtotal, ht.tax]
  total := by rw [h.total, h.subtotal, h.tax, ht.total]
  items := by rw [itemsOf_unchanged h htenant hid, ht.items]

theorem totalled_iff (ht : TaxedOnSum db d) : Totalled db d ↔ RoundsEvenly (db.amountsOf d) := by
  have hivas : ((itemsOf d.tenantId d.id db).map fun i => i.ivaAmount.getD 0) =
      (db.amountsOf d).map vat := by
    have hget := congrArg (List.map fun o : Option Int => o.getD 0) ht.items
    simp only [List.map_map] at hget
    rw [Db.amountsOf, List.map_map]
    exact hget
  have hsum : d.subtotal = (db.amountsOf d).sum := ht.subtotal
  rw [← vat_sum_iff, ← hsum, ← ht.tax, ← hivas]
  constructor
  · intro h
    exact h.tax.symm
  · intro h
    exact ⟨ht.subtotal, h.symm, ht.total⟩

theorem TotalsInv.step (hI : TotalsInv selectBound db) (h : BillingStep selectBound X db p) :
    TotalsInv selectBound p where
  filed := h.filed hI.filed
  workshop d' hd' hsource := by
    have hget' : p.billingDocuments.get d'.id = some d' := Table.get_of_mem hd'
    cases hget : db.billingDocuments.get d'.id with
    | none =>
      cases h.added hI.filed hget hget' with
      | child _ htransport => rw [hsource] at htransport; cases htransport
      | draft _ htransport => rw [hsource] at htransport; cases htransport
      | workshop _ htaxed => exact .inl htaxed
    | some d =>
      have hstep := h.carried hget hget'
      have hid : d'.id = d.id := (Table.key_of_get hget).symm
      rcases hstep.amounts with hsame | hissued
      · rcases hI.workshop d (Table.mem_of_get hget) (hstep.source.symm.trans hsource) with ht | ht
        · exact .inl (ht.unchanged hsame hstep.tenant hid)
        · exact .inr ⟨ht.1, ht.2.unchanged hsame hstep.tenant hid⟩
      · exact .inr hissued
  transport d' hd' hsource hkind hnumber := by
    have hget' : p.billingDocuments.get d'.id = some d' := Table.get_of_mem hd'
    cases hget : db.billingDocuments.get d'.id with
    | none =>
      cases h.added hI.filed hget hget' with
      | child hchild _ => exact absurd hkind hchild
      | draft hnone _ => rw [hnone] at hnumber; cases hnumber
      | workshop hworkshop _ => rw [hsource] at hworkshop; cases hworkshop
    | some d =>
      have hstep := h.carried hget hget'
      have hid : d'.id = d.id := (Table.key_of_get hget).symm
      have hkind' : d.documentType = .invoice := hstep.kind.symm.trans hkind
      have hsource' : d.documentSource = .transport := hstep.source.symm.trans hsource
      rcases hstep.numbered hkind' hsource' hnumber with hnumbered | htotalled
      · rcases hstep.amounts with hsame | hissued
        · have ht := hI.transport d (Table.mem_of_get hget) hsource' hkind' hnumbered
          exact ht.unchanged hsame hstep.tenant hid
        · exact hissued.2
      · exact htotalled

/-- Nothing has been billed yet. -/
structure Db.NothingBilled (db : Db) : Prop where
  documents : db.billingDocuments = ∅
  items : db.billingItems = ∅

theorem TotalsInv.start (h : db.NothingBilled) : TotalsInv selectBound db where
  filed i hi := by
    rw [h.items] at hi
    exact absurd hi (Table.not_mem_empty _)
  workshop d hd := by
    rw [h.documents] at hd
    exact absurd hd (Table.not_mem_empty _)
  transport d hd := by
    rw [h.documents] at hd
    exact absurd hd (Table.not_mem_empty _)

/-- The rounding of an invoice of the workshop comes out even. -/
def Db.RoundsEvenly (db : Db) (d : BillingDocument) : Prop :=
  d.documentSource = .workshop → Rotas.RoundsEvenly (db.amountsOf d)

/-- The issued invoices of a run, from the trips and from the workshop, are totalled if the
rounding of their lines comes out even, and as the code stands exactly then. -/
theorem issued_totals [Locale] (selectBound : Bool) (db : Db) (calls : List InvoiceCall)
    (hstart : db.NothingBilled) :
    let p := Run.exec (InvoiceCall.step selectBound) db calls
    ∀ d ∈ p.billingDocuments, d.documentType = .invoice → d.invoiceNumber.isSome →
      (p.RoundsEvenly d → Totalled p d) ∧
        (selectBound = false → Totalled p d → p.RoundsEvenly d) := by
  intro p d hd hkind hnumber
  have hI : TotalsInv selectBound p :=
    Run.exec_inv_all (fun _ c hI => hI.step (billingStep_call _ c)) (.start hstart)
  cases hsource : d.documentSource with
  | transport =>
    refine ⟨fun _ => hI.transport d hd hsource hkind hnumber, fun _ _ hworkshop => ?_⟩
    rw [hsource] at hworkshop
    cases hworkshop
  | workshop =>
    rcases hI.workshop d hd hsource with ht | ⟨hbound, ht⟩
    · refine ⟨fun heven => (totalled_iff ht).mpr (heven hsource), fun _ htotalled _ => ?_⟩
      exact (totalled_iff ht).mp htotalled
    · refine ⟨fun _ => ht, fun hunbound => ?_⟩
      rw [hbound] at hunbound
      cases hunbound

end Totals

/-! ## Two small parts -/

instance (db : Db) (d : BillingDocument) : Decidable (Totalled db d) :=
  decidable_of_iff (d.subtotal = ((itemsOf d.tenantId d.id db).map BillingItem.amount).sum ∧
      d.taxAmount = ((itemsOf d.tenantId d.id db).map fun i => i.ivaAmount.getD 0).sum ∧
      d.totalAmount = d.subtotal + d.taxAmount)
    ⟨fun h => ⟨h.1, h.2.1, h.2.2⟩, fun h => ⟨h.subtotal, h.tax, h.total⟩⟩

/-- A closed work order that used parts of the given unit costs. -/
def closedWorkOrder (unitCost unitCost' : Int) : Warehouse where
  workOrders := .single { id := 1, tenantId := 1, workOrderNumber := "OS-1", status := .closed }
  partsUsed := ((∅ : Table MaintenancePartUsed).insert fun id =>
    { id, tenantId := 1, workOrderId := 1, inventoryId := 1, requestReference := "R-1"
      quantity := 1000, unitCost := some unitCost }).insert fun id =>
    { id, tenantId := 1, workOrderId := 1, inventoryId := 1, requestReference := "R-2"
      quantity := 1000, unitCost := some unitCost' }

/-- The invoice of the work order is drafted and confirmed. -/
def invoiceWorkOrder (w : Warehouse) : List InvoiceCall :=
  [.createWorkshopInvoice 100 1 1 w, .document (.other (.confirmWorkshopInvoice 200 1 1))]

theorem issued_totals_even :
    let p := Run.exec (@InvoiceCall.step .ascii false) {} (invoiceWorkOrder (closedWorkOrder 100 3))
    ∀ d ∈ p.billingDocuments, d.documentType = .invoice → d.invoiceNumber.isSome →
      (p.RoundsEvenly d → Totalled p d) ∧ (false = false → Totalled p d → p.RoundsEvenly d) :=
  @issued_totals .ascii false {} (invoiceWorkOrder (closedWorkOrder 100 3)) ⟨rfl, rfl⟩

/-- Two parts of 0.03: no line bears tax, and the invoice bears 0.01. -/
theorem two_parts_untotalled :
    ¬ ∀ d ∈ (Run.exec (@InvoiceCall.step .ascii false) {}
        (invoiceWorkOrder (closedWorkOrder 3 3))).billingDocuments, d.status = .issued →
      Totalled (Run.exec (@InvoiceCall.step .ascii false) {}
        (invoiceWorkOrder (closedWorkOrder 3 3))) d := by
  decide +kernel

end Rotas
