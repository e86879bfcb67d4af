import Rotas.Billing.Lifecycle

/-!
# Rotas.Billing.Payments

Client payments and their allocation to invoices. Amounts arrive as decimals of any length; the
columns round them to the cent, ties away from zero, while the checks compare them as they came.

* `sumConfirmedAllocations` — what the confirmed payments of a document cover.
* `registerPayment` — a payment, with or without an invoice.
* `applyAdvanceToInvoice` — part of a payment that came without one.
* `voidPayment` — takes a payment back and reopens the invoices it no longer covers.
-/

namespace Rotas

open Decimal

/-- Hundredths as a decimal. -/
def money (c : Int) : ℚ := (c : ℚ) / 100

/-- The payment of the allocation is confirmed, and the tenant's. -/
def PaymentAllocation.counts (a : PaymentAllocation) (tenantId : UUID) (db : Db) : Bool :=
  (db.clientPayments.get a.paymentId).any fun p => p.tenantId = tenantId && p.status = .confirmed

def sumConfirmedAllocations (tenantId documentId : UUID) (db : Db) : Int :=
  db.paymentAllocations.sumWhere
    (fun a => a.billingDocumentId = documentId && a.counts tenantId db)
    PaymentAllocation.amountApplied

/-- Everything applied of a payment. -/
def sumApplied (paymentId : UUID) (db : Db) : Int :=
  db.paymentAllocations.sumWhere (·.paymentId = paymentId) PaymentAllocation.amountApplied

/-- The invoice of the tenant, if the client can pay it now. -/
def payableDocument (tenantId clientId documentId : UUID) (db : Db) :
    Except Exc BillingDocument := do
  let document ← requireDocument tenantId documentId db
    (notFound "billing_document_not_found" "Invoice not found")
  raiseIf (document.clientId ≠ some clientId)
    (conflict "payment_client_mismatch" "Payment client does not match invoice client")
  raiseIf (document.status ∉ [.issued, .overdue])
    (conflict "invoice_not_payable"
      ("Invoice status '" ++ document.status.text ++ "' does not accept payments"))
  return document

/-- What is already allocated to the document; `amount` must fit in the rest. -/
def checkBalance (message : String) (tenantId : UUID) (document : BillingDocument) (amount : ℚ)
    (db : Db) : Except Exc Int := do
  let existing := sumConfirmedAllocations tenantId document.id db
  raiseIf (money (document.totalAmount - existing) < amount)
    (conflict "payment_exceeds_invoice_balance" message
      [("remaining", .number (money (document.totalAmount - existing))),
        ("requested", .number amount)])
  return existing

def allocate (tenantId paymentId documentId : UUID) (amount : ℚ) (db : Db) : Db :=
  { db with
    paymentAllocations := db.paymentAllocations.insert fun id =>
      { id, tenantId, paymentId, billingDocumentId := documentId
        amountApplied := numeric 2 amount } }

/-- What was allocated before and the amount cover the total. -/
def Covers (totalAmount existing : Int) (amount : ℚ) : Prop :=
  totalAmount ≤ quantize 2 (context (money existing + amount))

instance (totalAmount existing : Int) (amount : ℚ) : Decidable (Covers totalAmount existing amount) :=
  inferInstanceAs (Decidable (_ ≤ _))

/-- The document becomes paid when it is covered. -/
def settle (now : Instant) (document : BillingDocument) (existing : Int) (amount : ℚ)
    (paidAt : Instant) (db : Db) : Except Exc Db :=
  if Covers document.totalAmount existing amount then
    transitionBillingDocument now document { newStatus := .paid, paidAt := some paidAt } db
  else .ok db

structure ClientPaymentCreate where
  clientId : UUID
  billingDocumentId : Option UUID := none
  amount : ℚ
  currency : String := "MZN"
  valueDate : Instant
  paymentMethod : String := "bank_transfer"
  reference : Option String := none
  notes : Option String := none
  positive : 0 < amount

def newPayment (tenantId userId : UUID) (payload : ClientPaymentCreate) (id : UUID) :
    ClientPayment where
  id := id
  tenantId := tenantId
  clientId := payload.clientId
  billingDocumentId := payload.billingDocumentId
  amount := numeric 2 payload.amount
  currency := if payload.currency = "" then "MZN" else payload.currency
  valueDate := payload.valueDate
  paymentMethod := payload.paymentMethod
  reference := payload.reference
  notes := payload.notes
  createdBy := some userId

def addPayment (tenantId userId : UUID) (payload : ClientPaymentCreate) (db : Db) : Db :=
  { db with clientPayments := db.clientPayments.insert (newPayment tenantId userId payload) }

def requireClient (tenantId clientId : UUID) (db : Db) : Except Exc Client := do
  let missing := notFound "client_not_found" "Client not found"
  let client ← require (db.clients.get clientId) missing
  raiseIf (client.tenantId ≠ tenantId) missing
  return client

/-- The invoice a payment goes to, and what is already allocated to it. -/
def registerChecks (tenantId : UUID) (payload : ClientPaymentCreate) (db : Db) :
    Except Exc (Option (BillingDocument × Int)) := do
  let _ ← requireClient tenantId payload.clientId db
  match payload.billingDocumentId with
  | none => return none
  | some documentId =>
    let document ← payableDocument tenantId payload.clientId documentId db
    let existing ← checkBalance "Payment amount exceeds remaining invoice balance" tenantId
      document payload.amount db
    return some (document, existing)

/-- The writes of a payment: its row and, with an invoice, its allocation. -/
def recordPayment (now : Instant) (tenantId userId : UUID) (payload : ClientPaymentCreate)
    (target : Option (BillingDocument × Int)) (db : Db) : Except Exc Db :=
  match target with
  | none => .ok (addPayment tenantId userId payload db)
  | some (document, existing) =>
    settle now document existing payload.amount payload.valueDate
      (allocate tenantId db.clientPayments.freshKey document.id payload.amount
        (addPayment tenantId userId payload db))

def registerPayment (now : Instant) (tenantId userId : UUID) (payload : ClientPaymentCreate)
    (db : Db) : Except Exc (UUID × Db) := do
  let target ← registerChecks tenantId payload db
  let db' ← recordPayment now tenantId userId payload target db
  return (db.clientPayments.freshKey, db')

/-- The payment of the tenant, if it is confirmed and came without an invoice. -/
def requireAdvance (tenantId paymentId : UUID) (db : Db) : Except Exc ClientPayment := do
  let missing := notFound "payment_not_found" "Payment not found"
  let payment ← require (db.clientPayments.get paymentId) missing
  raiseIf (payment.tenantId ≠ tenantId) missing
  raiseIf (payment.status ≠ .confirmed)
    (conflict "payment_not_confirmed" "Only confirmed payments can be applied")
  raiseIf payment.billingDocumentId.isSome
    (conflict "payment_not_an_advance"
      "Only advance payments (no initial billing_document_id) can be applied this way")
  return payment

/-- What is already applied of the payment; `amount` must fit in the rest. -/
def checkAdvance (payment : ClientPayment) (amount : ℚ) (db : Db) : Except Exc Int := do
  let applied := sumApplied payment.id db
  raiseIf (money payment.amount < context (money applied + amount))
    (conflict "advance_over_applied" "Total applied would exceed original payment amount"
      [("payment_amount", .number (money payment.amount)),
        ("already_applied", .number (money applied)), ("requested", .number amount)])
  return applied

/-- The payment, the invoice and what is already allocated to it, when `amount` of the advance
can be applied. -/
def applyChecks (tenantId paymentId documentId : UUID) (amount : ℚ) (db : Db) :
    Except Exc (ClientPayment × BillingDocument × Int) := do
  let payment ← requireAdvance tenantId paymentId db
  let document ← payableDocument tenantId payment.clientId documentId db
  let _ ← checkAdvance payment amount db
  let existing ← checkBalance "Amount applied exceeds remaining invoice balance" tenantId
    document amount db
  return (payment, document, existing)

/-- An amount of the request schema. -/
structure ApplyAdvanceRequest where
  billingDocumentId : UUID
  amountApplied : ℚ
  positive : 0 < amountApplied

/-- The writes of an advance that is applied. -/
def applyAmount (now : Instant) (tenantId : UUID) (payload : ApplyAdvanceRequest)
    (payment : ClientPayment) (document : BillingDocument) (existing : Int) (db : Db) :
    Except Exc Db :=
  settle now document existing payload.amountApplied payment.valueDate
    (allocate tenantId payment.id document.id payload.amountApplied db)

def applyAdvanceToInvoice (now : Instant) (tenantId paymentId : UUID)
    (payload : ApplyAdvanceRequest) (db : Db) : Except Exc (UUID × Db) := do
  let (payment, document, existing) ← applyChecks tenantId paymentId payload.billingDocumentId
    payload.amountApplied db
  let db' ← applyAmount now tenantId payload payment document existing db
  return (payment.id, db')

/-- A document that was paid waits for payment again. -/
def reopen (now : Instant) (d : BillingDocument) (db : Db) : Db :=
  db.modifyDocument d.id ({ · with
    status := if d.dueDate.any (· < now) then .overdue else .issued
    paidAt := none })

/-- The document is no longer paid when what is left does not cover it. -/
def reopenIfUncovered (now : Instant) (tenantId : UUID) (db : Db) (documentId : UUID) : Db :=
  match db.billingDocuments.get documentId with
  | none => db
  | some d =>
    if d.status = .paid ∧ sumConfirmedAllocations tenantId documentId db < d.totalAmount then
      reopen now d db
    else db

def withVoided (now : Instant) (paymentId userId : UUID) (voidReason : String) (db : Db) : Db :=
  { db with
    clientPayments := db.clientPayments.modify paymentId ({ · with
      status := .voided, voidedAt := some now, voidedBy := some userId
      voidReason := some voidReason }) }

/-- The allocations of the payment. -/
def allocationsOf (paymentId : UUID) (db : Db) : List PaymentAllocation :=
  db.paymentAllocations.rows.filter (·.paymentId = paymentId)

/-- The invoices that something of the payment was applied to. -/
def affectedDocuments (paymentId : UUID) (db : Db) : List UUID :=
  (allocationsOf paymentId db).map PaymentAllocation.billingDocumentId

/-- The payment of the tenant, if it was not voided yet. -/
def requireVoidable (tenantId paymentId : UUID) (db : Db) : Except Exc ClientPayment := do
  let missing := notFound "payment_not_found" "Payment not found"
  let payment ← require (db.clientPayments.get paymentId) missing
  raiseIf (payment.tenantId ≠ tenantId) missing
  raiseIf (payment.status ≠ .confirmed)
    (conflict "payment_already_voided" "Payment has already been voided")
  return payment

def voidPayment (now : Instant) (tenantId paymentId userId : UUID) (voidReason : String)
    (db : Db) : Except Exc (UUID × Db) := do
  let payment ← requireVoidable tenantId paymentId db
  return (payment.id, (affectedDocuments payment.id db).foldl (reopenIfUncovered now tenantId)
    (withVoided now payment.id userId voidReason db))

end Rotas
