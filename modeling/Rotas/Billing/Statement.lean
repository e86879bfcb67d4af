import Rotas.Billing.Receivables

/-!
# Rotas.Billing.Statement

The statement of a client in the billing module, and when its balance is what the client owes.

* `getClientStatement` — invoiced, paid and balance, and the latest documents.
* `PaymentsBooked` — what the payment operations keep of allocations.
* `CashOnce` — the cash of payments, receipts and invoice-receipts, each amount once.
* `statement_right_iff` — the balance is invoices and debit notes without credit notes and cash, and
  the sum of what is outstanding on each document, exactly if only invoices bear totals and all
  payments are allocated to issued documents.
-/

namespace Rotas

/-! ## The statement -/

def BillingDocument.ofClient (tenantId clientId : UUID) (d : BillingDocument) : Bool :=
  d.tenantId = tenantId && d.clientId = some clientId

def BillingDocument.issuedBy (asOfDt : Instant) (d : BillingDocument) : Bool :=
  d.issuedAt.any (· ≤ asOfDt)

/-- What counts as invoiced. -/
def BillingDocument.invoiced (asOfDt : Instant) (d : BillingDocument) : Bool :=
  d.documentType = .invoice && decide (d.status ∈ [.issued, .paid, .overdue]) && d.issuedBy asOfDt

structure StatementDocument where
  id : UUID
  invoiceNumber : Option String
  documentType : DocType
  status : DocStatus
  totalAmount : Int
  currency : String
  issuedAt : Option Instant
  dueDate : Option Instant
  amountPaid : Int
  outstanding : Int

structure ClientStatement where
  clientId : UUID
  clientName : String
  totalInvoiced : Int
  totalPaid : Int
  balance : Int
  documents : List StatementDocument
  asOf : Option Int

def statementDocument (db : Db) (d : BillingDocument) : StatementDocument where
  id := d.id
  invoiceNumber := d.invoiceNumber
  documentType := d.documentType
  status := d.status
  totalAmount := d.totalAmount
  currency := d.currency
  issuedAt := d.issuedAt
  dueDate := d.dueDate
  amountPaid := db.allocated d.id
  outstanding := db.outstanding d

def totalInvoiced (tenantId clientId : UUID) (asOfDt : Instant) (db : Db) : Int :=
  db.billingDocuments.sumWhere (fun d => d.ofClient tenantId clientId && d.invoiced asOfDt)
    BillingDocument.totalAmount

def totalPaid (tenantId clientId : UUID) (asOfDt : Instant) (db : Db) : Int :=
  db.paymentAllocations.sumWhere
    (fun a => db.live a && (db.billingDocuments.get a.billingDocumentId).any fun d =>
      d.ofClient tenantId clientId && d.issuedBy asOfDt)
    PaymentAllocation.amountApplied

/-- The latest documents come first; a table holds its rows from the oldest on. -/
def getClientStatement (now : Instant) (tenantId clientId : UUID) (asOf : Option Int) (db : Db) :
    Except Exc ClientStatement := do
  let client ← requireClient tenantId clientId db
  let asOfDt := asOfInstant now asOf
  let docs := (db.billingDocuments.rows.reverse.filter fun d =>
    d.ofClient tenantId clientId && d.issuedBy asOfDt).take 50
  return {
    clientId
    clientName := client.tradingName
    totalInvoiced := totalInvoiced tenantId clientId asOfDt db
    totalPaid := totalPaid tenantId clientId asOfDt db
    balance := totalInvoiced tenantId clientId asOfDt db - totalPaid tenantId clientId asOfDt db
    documents := docs.map (statementDocument db)
    asOf }

/-! ## What the payment operations keep -/

/-- Allocations are of at least zero, go to documents of the payment's tenant and client, and exceed
neither the document nor the payment. -/
structure PaymentsBooked (db : Db) : Prop extends Sound 0 (fun _ => False) db where
  client : ∀ a ∈ db.paymentAllocations, ∀ p d, db.clientPayments.get a.paymentId = some p →
    db.billingDocuments.get a.billingDocumentId = some d → d.clientId = some p.clientId

section PaymentsBooked

variable {db : Db} {tenantId clientId : UUID} {asOfDt : Instant}

theorem PaymentsBooked.allocated_nonneg (h : PaymentsBooked db) (documentId : UUID) :
    0 ≤ db.allocated documentId :=
  Table.sumWhere_nonneg fun _ ha => h.least _ ha

theorem PaymentsBooked.outstanding_nonneg (h : PaymentsBooked db) {d : BillingDocument}
    (hd : d ∈ db.billingDocuments) : 0 ≤ db.outstanding d :=
  sub_nonneg.mpr (h.documents (Table.get_of_mem hd))

theorem sum_allocated (q : BillingDocument → Bool) :
    db.paymentAllocations.sumWhere
      (fun a => db.live a && (db.billingDocuments.get a.billingDocumentId).any q)
      PaymentAllocation.amountApplied =
        db.billingDocuments.sumWhere q fun d => db.allocated d.id := by
  rw [Table.sumWhere_join]
  refine Table.sumWhere_congr_fun fun d _ _ => Table.sumWhere_congr fun a _ => ?_
  exact Bool.and_comm _ _

/-- The confirmed payments of a client. -/
def ClientPayment.confirmedOf (tenantId clientId : UUID) (p : ClientPayment) : Bool :=
  p.tenantId = tenantId && p.clientId = clientId && p.status = .confirmed

/-- The payments of a client are allocated to documents of the client, and no others are. -/
theorem PaymentsBooked.sum_applied (h : PaymentsBooked db) :
    db.clientPayments.sumWhere (ClientPayment.confirmedOf tenantId clientId)
        (fun p => sumApplied p.id db) =
      db.billingDocuments.sumWhere (BillingDocument.ofClient tenantId clientId)
        fun d => db.allocated d.id := by
  rw [← sum_allocated]
  have hjoin := Table.sumWhere_join (t := db.paymentAllocations) (p := fun _ => true)
    (f := PaymentAllocation.amountApplied) db.clientPayments PaymentAllocation.paymentId
    (ClientPayment.confirmedOf tenantId clientId)
  simp only [Bool.true_and] at hjoin
  refine hjoin.symm.trans (Table.sumWhere_congr fun a ha => ?_)
  obtain ⟨p, d, hp, hd, htenant, _⟩ := h.refs a ha
  have hclient := h.client a ha p d hp hd
  simp only [Db.live, hp, hd, Option.any_some, ClientPayment.confirmedOf, BillingDocument.ofClient,
    htenant, hclient, Option.some.injEq]
  ac_rfl

end PaymentsBooked

/-! ## What the client owes -/

section Owed

variable (tenantId clientId : UUID) (asOfDt : Instant) (db : Db)

/-- The totals of the client's issued documents of the given types. -/
def issuedTotal (types : List DocType) : Int :=
  db.billingDocuments.sumWhere
    (fun d => d.ofClient tenantId clientId && (d.issuedBy asOfDt &&
      decide (d.status ∈ [.issued, .paid, .overdue]) && decide (d.documentType ∈ types)))
    BillingDocument.totalAmount

/-- The client's confirmed payments. -/
def confirmedPayments : Int :=
  db.clientPayments.sumWhere (ClientPayment.confirmedOf tenantId clientId) ClientPayment.amount

/-- The cash of the client. A receipt or an invoice-receipt may be of cash that is a payment as
well, or of cash that nothing else records, so the cash is at least each of the three and at most
their sum. -/
structure CashOnce (cash : Int) : Prop where
  payments : confirmedPayments tenantId clientId db ≤ cash
  receipts : issuedTotal tenantId clientId asOfDt db [.receipt] ≤ cash
  invoiceReceipts : issuedTotal tenantId clientId asOfDt db [.invoiceReceipt] ≤ cash
  once : cash ≤ confirmedPayments tenantId clientId db +
    issuedTotal tenantId clientId asOfDt db [.receipt] +
      issuedTotal tenantId clientId asOfDt db [.invoiceReceipt]

/-- What is outstanding on the client's documents, document by document. -/
def outstandingByDocument : Int :=
  db.billingDocuments.sumWhere (fun d => d.ofClient tenantId clientId && d.issuedBy asOfDt)
    db.outstanding

/-- The balance is what the client owes. -/
structure StatementRight (cash balance : Int) : Prop where
  owed : balance = issuedTotal tenantId clientId asOfDt db [.invoice, .debitNote] -
    (issuedTotal tenantId clientId asOfDt db [.creditNote] + cash)
  outstanding : balance = outstandingByDocument tenantId clientId asOfDt db

/-- Of the client's issued documents only invoices bear a total. -/
def InvoicesOnly : Prop :=
  ∀ d ∈ db.billingDocuments, d.ofClient tenantId clientId = true →
    d.issuedBy asOfDt = true → d.invoiced asOfDt = true ∨ d.totalAmount = 0

/-- Of the client's issued documents only invoices bear a total, and the client's confirmed payments
are allocated in full, to issued documents. -/
structure PlainAccount : Prop where
  invoices : ∀ d ∈ db.billingDocuments, d.ofClient tenantId clientId = true →
    d.issuedBy asOfDt = true → d.invoiced asOfDt = true ∨ d.totalAmount = 0
  payments : ∀ p ∈ db.clientPayments, p.confirmedOf tenantId clientId = true →
    sumApplied p.id db = p.amount
  unissued : ∀ d ∈ db.billingDocuments, d.ofClient tenantId clientId = true →
    d.issuedBy asOfDt = false → db.allocated d.id = 0

end Owed

section Statement

variable {tenantId clientId : UUID} {asOfDt : Instant} {db : Db}

theorem invoiced_issuedBy {d : BillingDocument} (h : d.invoiced asOfDt = true) :
    d.issuedBy asOfDt = true := by
  simp only [BillingDocument.invoiced, Bool.and_eq_true] at h
  exact h.2

theorem totalPaid_eq : totalPaid tenantId clientId asOfDt db =
    db.billingDocuments.sumWhere (fun d => d.ofClient tenantId clientId && d.issuedBy asOfDt)
      fun d => db.allocated d.id := sum_allocated _

/-- The balance counts the total of invoices only, and what is allocated to any document. -/
theorem balance_eq :
    totalInvoiced tenantId clientId asOfDt db - totalPaid tenantId clientId asOfDt db =
      db.billingDocuments.sumWhere (fun d => d.ofClient tenantId clientId && d.issuedBy asOfDt)
        fun d => (if d.invoiced asOfDt then d.totalAmount else 0) - db.allocated d.id := by
  rw [Table.sumWhere_sub, totalPaid_eq, totalInvoiced, ← Table.sumWhere_and]
  congr 1
  refine Table.sumWhere_congr fun d _ => ?_
  cases hinv : d.invoiced asOfDt with
  | false => simp
  | true => simp [invoiced_issuedBy hinv]

theorem total_nonneg_of_mem (hok : db.ok = true) {d : BillingDocument}
    (hd : d ∈ db.billingDocuments) : 0 ≤ d.totalAmount :=
  total_nonneg hok (Table.get_of_mem hd)

/-- The balance is outstanding document by document exactly if only invoices bear totals. -/
theorem balance_eq_outstanding_iff (hok : db.ok = true) :
    totalInvoiced tenantId clientId asOfDt db - totalPaid tenantId clientId asOfDt db =
        outstandingByDocument tenantId clientId asOfDt db ↔
      InvoicesOnly tenantId clientId asOfDt db := by
  have hle : ∀ d ∈ db.billingDocuments,
      (d.ofClient tenantId clientId && d.issuedBy asOfDt) = true →
        (if d.invoiced asOfDt then d.totalAmount else 0) - db.allocated d.id ≤
          db.outstanding d := by
    intro d hd _
    have hnonneg := total_nonneg_of_mem hok hd
    rw [Db.outstanding]
    split <;> omega
  rw [balance_eq, outstandingByDocument, Table.sumWhere_eq_iff_of_le hle]
  unfold InvoicesOnly
  refine forall₂_congr fun d _ => ?_
  simp only [Bool.and_eq_true, and_imp]
  refine forall₂_congr fun _ _ => ?_
  rw [Db.outstanding]
  by_cases hinv : d.invoiced asOfDt = true
  · simp [hinv]
  · simp only [hinv, Bool.false_eq_true, if_false, false_or]
    omega

/-- Where only invoices bear totals, documents of other types sum up to nothing. -/
theorem issuedTotal_eq_zero {types : List DocType} (htypes : DocType.invoice ∉ types)
    (h : InvoicesOnly tenantId clientId asOfDt db) :
    issuedTotal tenantId clientId asOfDt db types = 0 := by
  refine Table.sumWhere_zero fun d hd hsel => ?_
  simp only [Bool.and_eq_true, decide_eq_true_eq] at hsel
  obtain ⟨hclient, ⟨hissued, _⟩, htype⟩ := hsel
  rcases h d hd hclient hissued with hinv | hzero
  · simp only [BillingDocument.invoiced, Bool.and_eq_true, decide_eq_true_eq] at hinv
    exact absurd (hinv.1.1 ▸ htype) htypes
  · exact hzero

theorem issuedTotal_invoices (hok : db.ok = true)
    (h : InvoicesOnly tenantId clientId asOfDt db) :
    issuedTotal tenantId clientId asOfDt db [.invoice, .debitNote] =
      totalInvoiced tenantId clientId asOfDt db := by
  refine ((Table.sumWhere_eq_iff (fun d _ hsel => ?_) fun d hd => total_nonneg_of_mem hok hd).mpr
    fun d hd hsel hnot => ?_).symm
  · simp only [BillingDocument.invoiced, Bool.and_eq_true, decide_eq_true_eq] at hsel ⊢
    obtain ⟨hclient, ⟨hkind, hstatus⟩, hissued⟩ := hsel
    exact ⟨hclient, ⟨hissued, hstatus⟩, by rw [hkind]; decide⟩
  · simp only [Bool.and_eq_true] at hsel
    obtain ⟨hclient, ⟨hissued, _⟩, _⟩ := hsel
    rcases h d hd hclient hissued with hinv | hzero
    · rw [hclient, hinv] at hnot
      cases hnot
    · exact hzero

/-- The confirmed payments are what is allocated to issued documents exactly if they are allocated
in full, and only to those. -/
theorem confirmed_eq_paid_iff (h : PaymentsBooked db) :
    confirmedPayments tenantId clientId db = totalPaid tenantId clientId asOfDt db ↔
      (∀ p ∈ db.clientPayments, p.confirmedOf tenantId clientId = true →
        sumApplied p.id db = p.amount) ∧
      ∀ d ∈ db.billingDocuments, d.ofClient tenantId clientId = true →
        d.issuedBy asOfDt = false → db.allocated d.id = 0 := by
  have happlied : ∀ p ∈ db.clientPayments, p.confirmedOf tenantId clientId = true →
      sumApplied p.id db ≤ p.amount := fun p hp _ => h.payments (Table.get_of_mem hp)
  have hfull := Table.sumWhere_eq_iff_of_le happlied
  have hle := Table.sumWhere_mono happlied
  have hfew : ∀ d ∈ db.billingDocuments,
      (d.ofClient tenantId clientId && d.issuedBy asOfDt) = true →
        d.ofClient tenantId clientId = true := by
    intro d _ hsel
    simp only [Bool.and_eq_true] at hsel
    exact hsel.1
  have hnonneg : ∀ d ∈ db.billingDocuments, 0 ≤ db.allocated d.id :=
    fun d _ => h.allocated_nonneg d.id
  have hissued : totalPaid tenantId clientId asOfDt db =
      db.billingDocuments.sumWhere (BillingDocument.ofClient tenantId clientId)
        (fun d => db.allocated d.id) ↔
      ∀ d ∈ db.billingDocuments, d.ofClient tenantId clientId = true →
        d.issuedBy asOfDt = false → db.allocated d.id = 0 := by
    rw [totalPaid_eq, Table.sumWhere_eq_iff hfew hnonneg]
    refine forall₂_congr fun d _ => forall_congr' fun hclient => ?_
    rw [hclient, Bool.true_and]
  have hle' : totalPaid tenantId clientId asOfDt db ≤
      db.billingDocuments.sumWhere (BillingDocument.ofClient tenantId clientId)
        fun d => db.allocated d.id := by
    rw [totalPaid_eq]
    exact Table.sumWhere_le hfew hnonneg
  rw [h.sum_applied] at hfull hle
  rw [← hfull, ← hissued, confirmedPayments]
  constructor <;> intro heq <;> omega

theorem statement_balance {now : Instant} {asOf : Option Int} {s : ClientStatement}
    (h : getClientStatement now tenantId clientId asOf db = .ok s) :
    s.balance = totalInvoiced tenantId clientId (asOfInstant now asOf) db -
      totalPaid tenantId clientId (asOfInstant now asOf) db := by
  simp only [getClientStatement, bind_eq_ok, pure, Except.pure, Except.ok.injEq] at h
  obtain ⟨_, _, rfl⟩ := h
  rfl

theorem statement_right_iff (now : Instant) (tenantId clientId : UUID) (asOf : Option Int) (db : Db)
    (s : ClientStatement) (cash : Int) (hbooked : PaymentsBooked db) (hok : db.ok = true)
    (hs : getClientStatement now tenantId clientId asOf db = .ok s)
    (hcash : CashOnce tenantId clientId (asOfInstant now asOf) db cash) :
    StatementRight tenantId clientId (asOfInstant now asOf) db cash s.balance ↔
      PlainAccount tenantId clientId (asOfInstant now asOf) db := by
  have hbalance : s.balance = totalInvoiced tenantId clientId (asOfInstant now asOf) db -
      totalPaid tenantId clientId (asOfInstant now asOf) db := statement_balance hs
  have hdocuments : s.balance = outstandingByDocument tenantId clientId (asOfInstant now asOf) db ↔
      InvoicesOnly tenantId clientId (asOfInstant now asOf) db :=
    hbalance ▸ balance_eq_outstanding_iff hok
  -- with only invoices bearing totals, the cash is that of the payments
  have howed : InvoicesOnly tenantId clientId (asOfInstant now asOf) db →
      (s.balance = issuedTotal tenantId clientId (asOfInstant now asOf) db [.invoice, .debitNote] -
        (issuedTotal tenantId clientId (asOfInstant now asOf) db [.creditNote] + cash) ↔
      confirmedPayments tenantId clientId db =
        totalPaid tenantId clientId (asOfInstant now asOf) db) := by
    intro hplain
    have hreceipts : issuedTotal tenantId clientId (asOfInstant now asOf) db [.receipt] = 0 :=
      issuedTotal_eq_zero (by decide) hplain
    have hboth : issuedTotal tenantId clientId (asOfInstant now asOf) db [.invoiceReceipt] = 0 :=
      issuedTotal_eq_zero (by decide) hplain
    have hcredits : issuedTotal tenantId clientId (asOfInstant now asOf) db [.creditNote] = 0 :=
      issuedTotal_eq_zero (by decide) hplain
    have hinvoices := issuedTotal_invoices hok hplain
    have hlow := hcash.payments
    have hhigh := hcash.once
    rw [hbalance, hcredits, hinvoices]
    rw [hreceipts, hboth] at hhigh
    omega
  constructor
  · rintro ⟨hout, hsum⟩
    have hplain := hdocuments.mp hsum
    obtain ⟨hpayments, hunissued⟩ := (confirmed_eq_paid_iff hbooked).mp ((howed hplain).mp hout)
    exact ⟨hplain, hpayments, hunissued⟩
  · rintro ⟨hplain, hpayments, hunissued⟩
    have hpaid := (confirmed_eq_paid_iff hbooked).mpr ⟨hpayments, hunissued⟩
    exact ⟨(howed hplain).mpr hpaid, hdocuments.mpr hplain⟩

end Statement

end Rotas
