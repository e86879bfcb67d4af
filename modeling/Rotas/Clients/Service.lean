import Rotas.Billing.Booked

/-!
# Rotas.Clients.Service

What a client owes, as the clients module tells it.

* `getOutstandingBalance` — the balance in the detail of a client.
* `getClientStatement`    — documents, payments and totals, over a period.
* `detail_eq`, `statement_eq` — the two as sums over the client's documents.
-/

namespace Rotas
namespace Clients

/-- Issued or overdue. -/
def isOpen (d : BillingDocument) : Bool := decide (d.status ∈ [.issued, .overdue])

def getOutstandingBalance (clientId tenantId : UUID) (db : Db) : Int :=
  let gross := db.billingDocuments.sumWhere (fun d => d.ofClient tenantId clientId && isOpen d)
    BillingDocument.totalAmount
  let paid := db.paymentAllocations.sumWhere
    (fun a =>
      (db.clientPayments.get a.paymentId).any (ClientPayment.confirmedOf tenantId clientId) &&
      (db.billingDocuments.get a.billingDocumentId).any isOpen)
    PaymentAllocation.amountApplied
  gross - paid

structure ClientDocument where
  id : UUID
  invoiceNumber : Option String
  billingPeriodStart : Instant
  billingPeriodEnd : Instant
  totalAmount : Int
  amountPaid : Int
  outstandingBalance : Int
  dueDate : Option Instant
  status : DocStatus
  issuedAt : Option Instant

structure PaymentLine where
  id : UUID
  amount : Int
  valueDate : Instant
  paymentMethod : String
  reference : Option String
  status : PaymentStatus
  allocated : Int
  unallocated : Int

structure StatementSummary where
  totalInvoiced : Int
  totalPaid : Int
  totalOutstanding : Int
  advanceBalance : Int

structure ClientStatement where
  client : Client
  documents : List ClientDocument
  payments : List PaymentLine
  summary : StatementSummary

def clientDocument (db : Db) (doc : BillingDocument) : ClientDocument where
  id := doc.id
  invoiceNumber := doc.invoiceNumber
  billingPeriodStart := doc.billingPeriodStart
  billingPeriodEnd := doc.billingPeriodEnd
  totalAmount := doc.totalAmount
  amountPaid := db.allocated doc.id
  outstandingBalance := db.outstanding doc
  dueDate := doc.dueDate
  status := doc.status
  issuedAt := doc.issuedAt

def paymentLine (db : Db) (p : ClientPayment) : PaymentLine where
  id := p.id
  amount := p.amount
  valueDate := p.valueDate
  paymentMethod := p.paymentMethod
  reference := p.reference
  status := p.status
  allocated := sumApplied p.id db
  unallocated := p.amount - sumApplied p.id db

/-- The client's documents of the period, the latest first. -/
def documentsOf (clientId tenantId : UUID) (periodStart periodEnd : Option Instant) (db : Db) :
    List BillingDocument :=
  (db.billingDocuments.rows.filter fun d => d.ofClient tenantId clientId &&
    periodStart.all (· ≤ d.billingPeriodStart) && periodEnd.all (d.billingPeriodEnd ≤ ·)).reverse

def getClientStatement (clientId tenantId : UUID) (periodStart periodEnd : Option Instant)
    (db : Db) :
    Except Exc ClientStatement := do
  let client ← requireClient tenantId clientId db
  let docs := documentsOf clientId tenantId periodStart periodEnd db
  let totalInvoiced := docs.foldl (fun sum doc => sum + doc.totalAmount) 0
  let totalPaid := docs.foldl (fun sum doc => sum + db.allocated doc.id) 0
  let payments := (db.clientPayments.rows.filter fun p =>
    p.clientId = clientId && p.tenantId = tenantId).mergeSort fun p p' => p'.valueDate ≤ p.valueDate
  let advances := payments.filter fun p => p.status = .confirmed && p.billingDocumentId.isNone
  return {
    client
    documents := docs.map (clientDocument db)
    payments := payments.map (paymentLine db)
    summary := {
      totalInvoiced
      totalPaid
      totalOutstanding := totalInvoiced - totalPaid
      advanceBalance := advances.foldl (fun sum p => sum + (p.amount - sumApplied p.id db)) 0 } }

section Sums

variable {db : Db} {clientId tenantId : UUID}

theorem detail_eq (h : PaymentsBooked db) : getOutstandingBalance clientId tenantId db =
    db.billingDocuments.sumWhere (BillingDocument.ofClient tenantId clientId)
      fun d => if isOpen d then db.outstanding d else 0 := by
  have hpaid : db.paymentAllocations.sumWhere
      (fun a => (db.clientPayments.get a.paymentId).any
          (ClientPayment.confirmedOf tenantId clientId) &&
        (db.billingDocuments.get a.billingDocumentId).any isOpen)
      PaymentAllocation.amountApplied =
        db.billingDocuments.sumWhere (fun d => d.ofClient tenantId clientId && isOpen d)
          fun d => db.allocated d.id := by
    rw [← sum_allocated]
    refine Table.sumWhere_congr fun a ha => ?_
    obtain ⟨p, d, hp, hd, htenant, _⟩ := h.refs a ha
    have hclient := h.client a ha p d hp hd
    simp only [Db.live, hp, hd, Option.any_some, ClientPayment.confirmedOf,
      BillingDocument.ofClient, htenant, hclient, Option.some.injEq]
    ac_rfl
  rw [getOutstandingBalance, hpaid, ← Table.sumWhere_sub, Table.sumWhere_and]
  rfl

theorem foldl_add {α : Type} (f : α → Int) : ∀ (l : List α) (n : Int),
    l.foldl (fun sum a => sum + f a) n = n + (l.map f).sum := by
  intro l
  induction l with
  | nil => intro n; simp
  | cons a l ih =>
    intro n
    rw [List.foldl_cons, ih, List.map_cons, List.sum_cons, add_assoc]

theorem sum_documentsOf (f : BillingDocument → Int) :
    ((documentsOf clientId tenantId none none db).map f).sum =
      db.billingDocuments.sumWhere (BillingDocument.ofClient tenantId clientId) f := by
  simp only [documentsOf, Option.all_none, Bool.and_true]
  exact ((List.reverse_perm _).map f).sum_eq

theorem statement_eq {s : ClientStatement}
    (h : getClientStatement clientId tenantId none none db = .ok s) : s.summary.totalOutstanding =
      db.billingDocuments.sumWhere (BillingDocument.ofClient tenantId clientId) db.outstanding := by
  simp only [getClientStatement, bind_eq_ok, pure, Except.pure, Except.ok.injEq] at h
  obtain ⟨_, _, rfl⟩ := h
  simp only [foldl_add, sum_documentsOf, zero_add]
  rw [← Table.sumWhere_sub]
  rfl

end Sums

end Clients
end Rotas
