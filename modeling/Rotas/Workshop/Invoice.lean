import Rotas.Workshop.Data
import Rotas.Billing.Lifecycle

/-!
# Rotas.Workshop.Invoice

The invoice of a finished work order.

* `InvoiceLine` — one line: a completed task, or a part that was used.
* `invoiceLines` — the lines of a work order, from what was really consumed.
* `createWorkshopInvoice` — the draft and its items.
* `RoundsEvenly` — the tax of the lines adds up to the tax of their sum.
* `vat_sum_iff` — exactly when the rounding residues stay within half a cent.
-/

namespace Rotas

open Decimal

section Lines

variable [Locale]

/-- The quotes of the work order that were turned into work, oldest first. -/
def convertedQuotes (tenantId : UUID) (wo : WorkOrder) (w : Warehouse) : List WorkshopQuote :=
  w.quotes.rows.filter fun q => q.tenantId = tenantId && q.status = .converted &&
    (q.relatedWorkOrderId = some wo.id || wo.receptionId.any fun r => q.receptionId = some r)

def quoteKey (description : String) : String := Locale.lower (strip description)

/-- The approved prices of a description, by quote and then by item; the last one counts. -/
def quotePrices (quotes : List WorkshopQuote) (description : String) (w : Warehouse) : List Int :=
  quotes.flatMap fun q => (w.quoteItems.rows.filter fun i =>
    i.quoteId = q.id && quoteKey i.description = quoteKey description).map
      WorkshopQuoteItem.unitPrice

/-- A price of zero counts as none. -/
def quotedPrice (quotes : List WorkshopQuote) (description : String) (w : Warehouse) :
    Option Int :=
  (quotePrices quotes description w).getLast?.filter (· ≠ 0)

/-- The rate of the member of staff that was last to take effect. -/
def hourlyRate (tenantId : UUID) (completedBy : Option UUID) (w : Warehouse) : Int :=
  (completedBy.bind fun userId => latestBy WorkshopStaffRate.effectiveFrom
    (w.staffRates.rows.filter fun r => r.tenantId = tenantId && r.userId = userId)).elim 0
      WorkshopStaffRate.hourlyRate

/-- The columns of an item that its line decides. -/
structure InvoiceLine where
  cargoDescription : String
  deliveredAt : Instant
  quantity : Int
  unitPrice : Int
  amount : Int

/-- `actual_minutes or estimated_minutes or 0`. -/
def WorkOrderTask.minutes (task : WorkOrderTask) : Int :=
  ((task.actualMinutes.filter (· ≠ 0)).or (task.estimatedMinutes.filter (· ≠ 0))).getD 0

def laborLine (now : Instant) (tenantId : UUID) (quotes : List WorkshopQuote) (w : Warehouse)
    (task : WorkOrderTask) : Option InvoiceLine :=
  if task.minutes ≤ 0 then none
  else
    let hours := context ((task.minutes : ℚ) / 60)
    let rate := hourlyRate tenantId task.completedBy w
    let line (unitPrice amount : Int) : InvoiceLine :=
      { cargoDescription := task.description, deliveredAt := task.completedAt.getD now
        quantity := numeric 2 hours, unitPrice, amount }
    match quotedPrice quotes task.description w with
    | some price => some (line price price)
    | none =>
      if 0 < rate then some (line rate (quantize 2 (context (hours * ((rate : ℚ) / 100)))))
      else none

/-- `quantity` of a used part is in thousandths. -/
def partLine (now : Instant) (quotes : List WorkshopQuote) (w : Warehouse)
    (used : MaintenancePartUsed) : InvoiceLine :=
  let part := w.spareParts.get used.inventoryId
  let partName := (part.map SparePart.name).getD "Peça"
  let unitCost := (quotedPrice quotes partName w).getD
    ((used.unitCost.filter (· ≠ 0)).getD ((part.map SparePart.averageUnitCost).getD 0))
  { cargoDescription := "Peça: " ++ partName
    deliveredAt := used.issuedAt.getD now
    quantity := numeric 2 ((used.quantity : ℚ) / 1000)
    unitPrice := unitCost
    amount := quantize 2 (context ((used.quantity : ℚ) / 1000 * ((unitCost : ℚ) / 100))) }

/-- The completed tasks, and then the parts that were used. -/
def invoiceLines (now : Instant) (tenantId : UUID) (wo : WorkOrder) (w : Warehouse) :
    List InvoiceLine :=
  let quotes := convertedQuotes tenantId wo w
  (w.tasks.rows.filter fun t => t.tenantId = tenantId && t.workOrderId = wo.id &&
    t.status = .completed).filterMap (laborLine now tenantId quotes w) ++
  (w.partsUsed.rows.filter fun u => u.tenantId = tenantId && u.workOrderId = wo.id).map
    (partLine now quotes w)

end Lines

/-! ## The draft -/

/-- 16% of an amount, to the cent. -/
def vat (amount : Int) : Int := quantize 2 ((amount : ℚ) / 100 * defaultIvaRate)

def InvoiceLine.item (line : InvoiceLine) (tenantId documentId : UUID) (wo : WorkOrder)
    (id : UUID) : BillingItem where
  id := id
  tenantId := tenantId
  billingDocumentId := documentId
  clientReference := some wo.workOrderNumber
  cargoDescription := some line.cargoDescription
  deliveredAt := line.deliveredAt
  quantity := some line.quantity
  unitPrice := some line.unitPrice
  amount := line.amount
  ivaRate := some defaultIvaRate
  ivaBasis := some "standard_16"
  ivaAmount := some (vat line.amount)
  workOrderId := some wo.id

def addLine (tenantId documentId : UUID) (wo : WorkOrder) (db : Db) (line : InvoiceLine) : Db :=
  { db with billingItems := db.billingItems.insert (line.item tenantId documentId wo) }

theorem foldl_addLine (tenantId documentId : UUID) (wo : WorkOrder) : ∀ (lines : List InvoiceLine)
    (db : Db), ∃ billingItems, lines.foldl (addLine tenantId documentId wo) db =
      { db with billingItems } := by
  intro lines
  induction lines with
  | nil => exact fun db => ⟨db.billingItems, rfl⟩
  | cons line lines ih =>
    intro db
    obtain ⟨billingItems, h⟩ := ih (addLine tenantId documentId wo db line)
    exact ⟨billingItems, h⟩

theorem documents_lines (tenantId documentId : UUID) (wo : WorkOrder) (lines : List InvoiceLine)
    (db : Db) : (lines.foldl (addLine tenantId documentId wo) db).billingDocuments =
      db.billingDocuments := by
  obtain ⟨_, h⟩ := foldl_addLine tenantId documentId wo lines db
  rw [h]

/-- The client of the vehicle, else of the first quote. -/
def workshopClient (tenantId : UUID) (wo : WorkOrder) (w : Warehouse) (db : Db) : Option UUID :=
  ((wo.vehicleId.bind db.vehicles.get).bind Vehicle.customerClientId).or
    ((convertedQuotes tenantId wo w).head?.bind WorkshopQuote.clientId)

/-- The draft, with the totals of its lines. -/
def workshopDraft (now : Instant) (tenantId : UUID) (wo : WorkOrder) (lines : List InvoiceLine)
    (w : Warehouse) (db : Db) (id : UUID) : BillingDocument :=
  let client := (workshopClient tenantId wo w db).bind db.clients.get
  let tenant := db.tenants.get tenantId
  let subtotal := (lines.map InvoiceLine.amount).sum
  { id
    tenantId
    clientId := workshopClient tenantId wo w db
    clientName := (client.map Client.tradingName).getD "Cliente Particular"
    clientNuit := client.bind Client.nuit
    contractReference := some wo.workOrderNumber
    billingPeriodStart := wo.createdAt
    billingPeriodEnd := now
    subtotal
    taxAmount := vat subtotal
    totalAmount := subtotal + vat subtotal
    ivaRate := some defaultIvaRate
    ivaBasis := some "standard_16"
    issuerName := tenant.map Tenant.name
    issuerNuit := tenant.bind Tenant.nuit
    documentSource := .workshop }

/-- The document of an item that bears the work order. -/
def invoiceOf (tenantId workOrderId : UUID) (db : Db) : Option BillingDocument :=
  (db.billingItems.rows.find? fun i => i.tenantId = tenantId && i.workOrderId = some workOrderId).bind
    fun i => db.billingDocuments.get i.billingDocumentId

theorem snapshotTenant_id (tenantId : UUID) (db : Db) (d : BillingDocument) :
    (snapshotProfile (documentProfile tenantId db) d).id = d.id := snapshotProfile_id _ d

def workshopDrafted (now : Instant) (tenantId : UUID) (wo : WorkOrder) (lines : List InvoiceLine)
    (w : Warehouse) (db : Db) : Db :=
  let documentId := db.billingDocuments.freshKey
  let db₁ := { db with
    billingDocuments := db.billingDocuments.insert (workshopDraft now tenantId wo lines w db) }
  (lines.foldl (addLine tenantId documentId wo) db₁).modifyDocument documentId
    (snapshotProfile (documentProfile tenantId db)) (snapshotTenant_id tenantId db)

def createWorkshopInvoice [Locale] (now : Instant) (tenantId workOrderId : UUID) (w : Warehouse)
    (db : Db) : Except Exc (UUID × Db) :=
  match invoiceOf tenantId workOrderId db with
  | some existing => .ok (existing.id, db)
  | none => do
    let missing := notFound "work_order_not_found" "Work order not found."
    let wo ← require (w.workOrders.get workOrderId) missing
    raiseIf (wo.tenantId ≠ tenantId) missing
    raiseIf (wo.status ≠ .qualityCheck && wo.status ≠ .closed)
      (conflict "work_order_not_closable" ("Work order is in status '" ++ wo.status.text ++
        "', must be 'quality_check' or 'closed'."))
    return (db.billingDocuments.freshKey,
      workshopDrafted now tenantId wo (invoiceLines now tenantId wo w) w db)

theorem createWorkshopInvoice_eq_ok [Locale] {now : Instant} {tenantId workOrderId a : UUID}
    {w : Warehouse} {db p : Db} (h : createWorkshopInvoice now tenantId workOrderId w db = .ok (a, p)) :
    ∃ billingDocuments billingItems, p = { db with billingDocuments, billingItems } := by
  unfold createWorkshopInvoice at h
  split at h
  · cases h
    exact ⟨_, _, rfl⟩
  · simp only [bind_eq_ok, pure, Except.pure, Except.ok.injEq, Prod.mk.injEq] at h
    obtain ⟨wo, _, _, _, _, _, _, rfl⟩ := h
    obtain ⟨_, hlines⟩ := foldl_addLine tenantId db.billingDocuments.freshKey wo
      (invoiceLines now tenantId wo w) { db with
        billingDocuments := db.billingDocuments.insert (workshopDraft now tenantId wo
          (invoiceLines now tenantId wo w) w db) }
    rw [workshopDrafted, hlines]
    exact ⟨_, _, rfl⟩

/-- The drafts of a work order are cancelled with it. -/
def cancelWorkshopDrafts (tenantId : UUID) (wo : WorkOrder) (reason : String) (db : Db) : Db :=
  { db with
    billingDocuments := db.billingDocuments.modifyAll
      (fun d => d.tenantId = tenantId && d.documentSource = .workshop && d.status = .draft &&
        d.contractReference = some wo.workOrderNumber)
      ({ · with
        status := .cancelled
        cancellationReason :=
          some ("OS " ++ wo.workOrderNumber ++ " cancelada: " ++ reason) }) }

/-! ## The residues of the tax -/

/-- What the tax of an amount leaves over, in parts of 25 to the cent. -/
def vatResidue (amount : Int) : Int := (4 * amount).bmod 25

theorem vatResidue_le (amount : Int) : -12 ≤ vatResidue amount ∧ vatResidue amount ≤ 12 := by
  rw [vatResidue, Int.bmod_def]
  split_ifs <;> omega

theorem vat_spec (amount : Int) : 25 * vat amount = 4 * amount - vatResidue amount := by
  have hdvd : (25 : Int) ∣ 4 * amount - vatResidue amount := by
    rw [vatResidue, Int.bmod_def]
    split_ifs <;> omega
  obtain ⟨n, hn⟩ := hdvd
  have hle := vatResidue_le amount
  have hvat : vat amount = n := by
    rw [vat, quantize, roundHalfEven_eq_iff]
    left
    have hq : (amount : ℚ) / 100 * defaultIvaRate * 10 ^ 2 - n = (vatResidue amount : ℚ) / 25 := by
      have hcast : (4 * amount - vatResidue amount : ℚ) = 25 * n := by exact_mod_cast hn
      have hrate : defaultIvaRate = 16 / 100 := by norm_num [defaultIvaRate]
      rw [hrate]
      linarith
    have hlow : (-12 : ℚ) ≤ vatResidue amount := by exact_mod_cast hle.1
    have hup : (vatResidue amount : ℚ) ≤ 12 := by exact_mod_cast hle.2
    rw [hq, abs_lt]
    constructor <;> linarith
  rw [hvat, hn]

theorem vat_sum (amounts : List Int) :
    25 * (amounts.map vat).sum = 4 * amounts.sum - (amounts.map vatResidue).sum := by
  induction amounts with
  | nil => rfl
  | cons a amounts ih =>
    have ha := vat_spec a
    simp only [List.map_cons, List.sum_cons]
    omega

/-- The residues of the lines add up to less than half a cent. -/
def RoundsEvenly (amounts : List Int) : Prop :=
  -12 ≤ (amounts.map vatResidue).sum ∧ (amounts.map vatResidue).sum ≤ 12

instance (amounts : List Int) : Decidable (RoundsEvenly amounts) :=
  inferInstanceAs (Decidable (_ ∧ _))

theorem vat_sum_iff (amounts : List Int) :
    (amounts.map vat).sum = vat amounts.sum ↔ RoundsEvenly amounts := by
  have hlines := vat_sum amounts
  have htotal := vat_spec amounts.sum
  have hle := vatResidue_le amounts.sum
  unfold RoundsEvenly
  constructor
  · intro h
    rw [h] at hlines
    omega
  · rintro ⟨hlow, hup⟩
    omega

end Rotas
