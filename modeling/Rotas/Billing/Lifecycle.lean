import Rotas.Billing.Issue

/-!
# Rotas.Billing.Lifecycle

What happens to a billing document after it was created: the state machine of its status, the
nightly overdue job, the child documents of an invoice and the confirmation of a workshop invoice.
None of them looks at the trips of the document.
-/

namespace Rotas

open Decimal

/-! ## The state machine -/

/-- `_BILLING_VALID_TRANSITIONS`. -/
def billingValidTransitions : DocStatus → List DocStatus
  | .draft => [.issued, .cancelled]
  | .issued => [.paid, .overdue]
  | .overdue => [.paid, .cancelled]
  | .paid => []
  | .cancelled => []

structure Transition where
  newStatus : DocStatus
  paidAt : Option Instant := none
  cancellationReason : Option String := none

/-- The columns a transition writes. -/
def Transition.apply (t : Transition) (now : Instant) (d : BillingDocument) : BillingDocument :=
  { d with
    status := t.newStatus
    paidAt := if t.newStatus = .paid then some (t.paidAt.getD now) else d.paidAt
    overdueSinceAt := if t.newStatus = .overdue then some now else d.overdueSinceAt
    cancellationReason :=
      if t.newStatus = .cancelled then t.cancellationReason else d.cancellationReason }

def transitionBillingDocument (now : Instant) (document : BillingDocument) (t : Transition)
    (db : Db) : Except Exc Db := do
  raiseIf (t.newStatus ∉ billingValidTransitions document.status)
    (conflict "invalid_state_transition" ("BillingDocument cannot transition from '" ++
      document.status.text ++ "' to '" ++ t.newStatus.text ++ "'"))
  raiseIf (t.newStatus = .cancelled && (truthy t.cancellationReason).isNone)
    (unprocessable "cancellation_reason_required"
      "cancellation_reason is required when cancelling a billing document")
  return db.modifyDocument document.id (t.apply now)

/-- A document of the tenant taken through one transition. -/
def transitionById (now : Instant) (tenantId documentId : UUID) (t : Transition) (db : Db) :
    Except Exc (UUID × Db) := do
  let document ← requireDocument tenantId documentId db
    (notFound "not_found" "BillingDocument not found")
  let db' ← transitionBillingDocument now document t db
  return (documentId, db')

theorem transitionById_cases {now : Instant} {tenantId documentId : UUID} {t : Transition}
    {db p : Db} {a : UUID} (h : transitionById now tenantId documentId t db = .ok (a, p)) :
    ∃ d, db.billingDocuments.get documentId = some d ∧ d.tenantId = tenantId ∧
      t.newStatus ∈ billingValidTransitions d.status ∧
      p = db.modifyDocument documentId (t.apply now) := by
  simp only [transitionById, transitionBillingDocument, bind_eq_ok, requireDocument_eq_ok,
    raiseIf_eq_ok, decide_eq_false_iff_not, Decidable.not_not, pure, Except.pure,
    Except.ok.injEq] at h
  obtain ⟨d, ⟨hd, hten⟩, _, ⟨_, ht, _, _, rfl⟩, h⟩ := h
  cases h
  have hid : d.id = documentId := Table.key_of_get hd
  exact ⟨d, hd, hten, ht, by rw [hid]⟩

theorem transitionById_reason {now : Instant} {tenantId documentId : UUID} {t : Transition}
    {db p : Db} {a : UUID} (h : transitionById now tenantId documentId t db = .ok (a, p))
    (hcancel : t.newStatus = .cancelled) : (truthy t.cancellationReason).isSome = true := by
  simp only [transitionById, transitionBillingDocument, bind_eq_ok, raiseIf_eq_ok] at h
  obtain ⟨_, -, _, ⟨_, -, _, hreason, -⟩, -⟩ := h
  rw [hcancel, decide_eq_true rfl, Bool.true_and] at hreason
  exact Option.isSome_iff_ne_none.mpr fun hnone => by simp [hnone] at hreason

def markBillingDocumentPaid (now : Instant) (tenantId documentId : UUID)
    (paidAt : Option Instant) (db : Db) : Except Exc (UUID × Db) :=
  transitionById now tenantId documentId { newStatus := .paid, paidAt } db

def cancelBillingDocument (now : Instant) (tenantId documentId : UUID) (reason : String)
    (db : Db) : Except Exc (UUID × Db) :=
  transitionById now tenantId documentId
    { newStatus := .cancelled, cancellationReason := some reason } db

/-- `task_mark_overdue_billing_documents`: it goes by the end of the billing period. -/
def markOverdueBillingDocuments (now : Instant) (db : Db) : Db :=
  { db with
    billingDocuments := db.billingDocuments.modifyAll
      (fun d => d.status = .issued && decide (d.billingPeriodEnd < now))
      ({ · with status := .overdue, overdueSinceAt := some now }) }

/-! ## Child documents -/

/-- What one kind of child document writes of its own. -/
structure ChildDocument where
  documentType : DocType
  subtotal : Int
  taxAmount : Int
  totalAmount : Int
  ivaRate : Option ℚ := none
  ivaBasis : Option String := none

/-- The columns a child takes over from its parent, beside its own. -/
def ChildDocument.row (c : ChildDocument) (now : Instant) (parent : BillingDocument) (id : UUID) :
    BillingDocument where
  id := id
  tenantId := parent.tenantId
  contractId := parent.contractId
  clientId := parent.clientId
  clientName := parent.clientName
  clientNuit := parent.clientNuit
  contractReference := parent.contractReference
  billingPeriodStart := parent.billingPeriodStart
  billingPeriodEnd := parent.billingPeriodEnd
  currency := parent.currency
  subtotal := c.subtotal
  taxAmount := c.taxAmount
  totalAmount := c.totalAmount
  ivaRate := c.ivaRate
  ivaBasis := c.ivaBasis
  documentType := c.documentType
  parentDocumentId := some parent.id
  parentInvoiceNumber := parent.invoiceNumber
  issuerName := parent.issuerName
  issuerNuit := parent.issuerNuit
  status := .issued
  issuedAt := some now

/-- The parent of a child document, in one of the statuses that allow the child. -/
def requireParent (tenantId parentId : UUID) (allowed : List DocStatus) (code message : String)
    (db : Db) : Except Exc BillingDocument := do
  let parent ← requireDocument tenantId parentId db
    (notFound "parent_not_found" "Parent billing document not found")
  raiseIf (parent.status ∉ allowed)
    (conflict code (message ++ " (parent status: " ++ parent.status.text ++ ")"))
  return parent

/-- The numbered row of a child document: its snapshot of the issuer and its number. -/
def numberedChild (tenantId : UUID) (number : String) (db : Db) (d : BillingDocument) :
    BillingDocument :=
  { snapshotProfile (documentProfile tenantId db) d with invoiceNumber := some number }

theorem numberedChild_id (tenantId : UUID) (number : String) (db : Db) (d : BillingDocument) :
    (numberedChild tenantId number db d).id = d.id := snapshotProfile_id _ d

/-- Insert the child, then give it its snapshot and its number. -/
def addChild (now : Instant) (tenantId : UUID) (parent : BillingDocument) (c : ChildDocument)
    (db : Db) : UUID × Db :=
  let id := db.billingDocuments.freshKey
  let db₁ := { db with billingDocuments := db.billingDocuments.insert (c.row now parent) }
  let (number, db₂) := assignInvoiceNumber tenantId (c.row now parent id) db₁
  (id, db₂.modifyDocument id (numberedChild tenantId number db) (numberedChild_id _ _ _))

/-- The amounts of a debit or credit note, as the columns store them. -/
def noteAmounts (documentType : DocType) (amount : ℚ) (ivaRate : Option ℚ) : ChildDocument :=
  let rate := ivaRate.getD defaultIvaRate
  let ivaAmount := quantize 2 (context (amount * rate))
  { documentType
    subtotal := numeric 2 amount
    taxAmount := ivaAmount
    totalAmount := numeric 2 (context (amount + ivaAmount / 100))
    ivaRate := some (numeric 4 rate / 10 ^ 4)
    ivaBasis := some (if ivaRate.isSome then "contract_override" else "standard_16") }

/-- A note of one type against an issued or paid parent. -/
def createNote (documentType : DocType) (message : String) (now : Instant)
    (tenantId parentId : UUID) (amount : ℚ) (ivaRate : Option ℚ) (db : Db) :
    Except Exc (UUID × Db) := do
  let parent ← requireParent tenantId parentId [.issued, .paid] "parent_not_issued" message db
  return addChild now tenantId parent (noteAmounts documentType amount ivaRate) db

def createDebitNote (now : Instant) (tenantId parentId : UUID) (amount : ℚ)
    (ivaRate : Option ℚ) (db : Db) : Except Exc (UUID × Db) :=
  createNote .debitNote "Debit notes can only be created against issued or paid documents"
    now tenantId parentId amount ivaRate db

def createCreditNote (now : Instant) (tenantId parentId : UUID) (amount : ℚ)
    (ivaRate : Option ℚ) (db : Db) : Except Exc (UUID × Db) :=
  createNote .creditNote "Credit notes can only be created against issued or paid documents"
    now tenantId parentId amount ivaRate db

def createInvoiceReceipt (now : Instant) (tenantId parentId : UUID) (db : Db) :
    Except Exc (UUID × Db) := do
  let parent ← requireParent tenantId parentId [.issued, .overdue] "parent_not_issued"
    "Invoice-receipt can only be created against issued documents" db
  let (id, db') := addChild now tenantId parent
    { documentType := .invoiceReceipt, subtotal := parent.subtotal, taxAmount := parent.taxAmount
      totalAmount := parent.totalAmount, ivaRate := parent.ivaRate } db
  return (id, db'.modifyDocument parentId ({ · with status := .paid, paidAt := some now }))

def createReceipt (now : Instant) (tenantId parentId : UUID) (amountPaid : ℚ) (db : Db) :
    Except Exc (UUID × Db) := do
  let parent ← requireParent tenantId parentId [.issued, .overdue, .paid] "parent_invalid_status"
    "Receipt can only be created against issued or paid documents" db
  return addChild now tenantId parent
    { documentType := .receipt, subtotal := numeric 2 amountPaid, taxAmount := 0
      totalAmount := numeric 2 amountPaid } db

/-! ## Workshop invoices -/

def confirmWorkshopInvoice (now : Instant) (tenantId documentId : UUID) (db : Db) :
    Except Exc (UUID × Db) := do
  let document ← requireDocument tenantId documentId db
    (notFound "document_not_found" "Billing document not found.")
  raiseIf (document.documentSource ≠ .workshop)
    (conflict "not_workshop_document" "Document is not a workshop invoice.")
  if document.status = .issued then return (documentId, db)
  raiseIf (document.status ≠ .draft)
    (conflict "invalid_document_status" ("Document is in status '" ++ document.status.text ++
      "', must be 'draft' to confirm."))
  raiseIf (document.totalAmount ≤ 0)
    (unprocessable "empty_invoice" "Cannot issue an invoice with zero or negative total.")
  let (number, db') := assignInvoiceNumber tenantId document db
  return (documentId, db'.modifyDocument documentId
    ({ · with invoiceNumber := some number, status := .issued, issuedAt := some now }))

/-- Confirming leaves an issued invoice alone, and numbers and issues a draft of the workshop. -/
theorem confirmWorkshopInvoice_cases {now : Instant} {tenantId documentId a : UUID} {db p : Db}
    (h : confirmWorkshopInvoice now tenantId documentId db = .ok (a, p)) :
    p = db ∨ ∃ document, db.billingDocuments.get documentId = some document ∧
      document.documentSource = .workshop ∧ document.status = .draft ∧
        p = (assignInvoiceNumber tenantId document db).2.modifyDocument documentId ({ · with
          invoiceNumber := some (assignInvoiceNumber tenantId document db).1
          status := .issued, issuedAt := some now }) := by
  simp only [confirmWorkshopInvoice, bind_eq_ok, requireDocument_eq_ok, raiseIf_eq_ok,
    decide_eq_false_iff_not, Decidable.not_not] at h
  obtain ⟨document, ⟨hdoc, _⟩, _, hsource, h⟩ := h
  split at h
  · cases h
    exact .inl rfl
  · simp only [bind_eq_ok, raiseIf_eq_ok, decide_eq_false_iff_not, Decidable.not_not, pure,
      Except.pure, Except.ok.injEq] at h
    obtain ⟨_, hdraft, _, _, h⟩ := h
    cases h
    exact .inr ⟨document, hdoc, hsource, hdraft, rfl⟩

end Rotas
