import Rotas.Accounting.Posting
import Rotas.Lib.Run

/-!
# Rotas.Payables.Paid

Invoices of suppliers, their payments, and what the payments make of the status of an invoice over
runs of them.

* `JournalItemArgs`, `JournalEntryArgs` — the arguments of a posting, checked field by field.
* `paySupplierInvoice` — a payment of an invoice, and its posting.
* `PaidBySum` — an invoice is paid exactly when its payments reach its amount.
* `pay_refused` — no posting of a payment passes its schema, so no payment is ever recorded.
* `paid_by_sum` — the runs in which an invoice is paid by the sum of its payments: those that ask for
  no payment that is due.
* `full_payment_refused` — an invoice whose payment in full is refused.
-/

namespace Rotas

open Work Decimal

/-! ## Rows -/

structure SupplierPayment where
  id : UUID
  tenantId : UUID
  thirdPartyId : UUID
  invoiceId : Option UUID := none
  amount : Int
  currency : String := "MZN"
  valueDate : Instant
  paymentMethod : String
  reference : Option String := none
  notes : Option String := none
  status : String := "confirmed"
  createdBy : UUID

instance : Keyed SupplierPayment := ⟨SupplierPayment.id⟩

structure Payables where
  books : Books := {}
  supplierPayments : Table SupplierPayment := ∅

/-- The twelve digits before the decimal point of an amount. -/
def amountFits (amount : Int) : Bool := decide (-10 ^ 14 < amount ∧ amount < 10 ^ 14)

def Payables.ok (db : Payables) : Bool :=
  db.books.ok && db.books.supplierInvoices.rows.all (amountFits ·.amount) &&
    db.supplierPayments.rows.all (amountFits ·.amount)

instance : Store Payables PostingError := ⟨Payables.ok, .integrityError⟩

/-! ## Payloads -/

structure InvoicePaymentRequest where
  amount : ℚ
  paymentMethod : String
  valueDate : Instant
  reference : Option String := none
  notes : Option String := none

/-- The keyword arguments of a line; the number of an account and a type are extra ones. -/
structure JournalItemArgs where
  accountId : Option UUID := none
  accountNumber : Option String := none
  debit : ℚ := 0
  credit : ℚ := 0
  type : Option String := none

/-- The fields are checked before the validator of the line runs. -/
def JournalItemCreate.ofArgs (args : JournalItemArgs) : Except PostingError JournalItemCreate :=
  match args.accountId with
  | none => .error (.validationError ["account_id"])
  | some accountId => JournalItemCreate.ofLine { accountId, debit := args.debit, credit := args.credit }

structure JournalEntryArgs where
  journalType : Option String := none
  date : Instant
  reference : Option String := none
  description : Option String := none
  items : List JournalItemCreate := []

def JournalEntryCreate.ofArgs (args : JournalEntryArgs) : Except PostingError JournalEntryCreate :=
  match args.journalType with
  | none => .error (.validationError ["journal_type"])
  | some journalType =>
    if h : args.items = [] then
      .error (.valueError "JournalEntryCreate requires 'lines' (or legacy 'items').")
    else .ok
      { journalType
        date := args.date
        reference := args.reference
        description := args.description
        items := args.items
        present := .inr h }

/-! ## Invoices and payments -/

/-- The row of a payment and the new status of its invoice, as they are pending before the posting. -/
def markPaid (tenantId userId : UUID) (invoice : SupplierInvoice) (payload : InvoicePaymentRequest)
    (db : Payables) : Payables :=
  { db with
    supplierPayments := db.supplierPayments.insert fun id =>
      { id, tenantId
        thirdPartyId := invoice.thirdPartyId
        invoiceId := some invoice.id
        amount := numeric 2 payload.amount
        currency := invoice.currency
        valueDate := payload.valueDate
        paymentMethod := payload.paymentMethod
        reference := payload.reference
        notes := payload.notes
        status := "confirmed"
        createdBy := userId }
    books.supplierInvoices := db.books.supplierInvoices.modify invoice.id fun i =>
      { i with status :=
          if (invoice.amount : ℚ) / 100 ≤ payload.amount then "paid" else "partially_paid" } }

/-- The entry of a payment, as its schemas check it. -/
def paymentEntry (invoice : SupplierInvoice) (payload : InvoicePaymentRequest) :
    Except PostingError JournalEntryCreate := do
  let debit ← JournalItemCreate.ofArgs
    { accountNumber := some "42", debit := payload.amount, credit := 0, type := some "debit" }
  let credit ← JournalItemCreate.ofArgs
    { accountNumber := some "12", debit := 0, credit := payload.amount, type := some "credit" }
  JournalEntryCreate.ofArgs
    { date := payload.valueDate
      description := some
        s!"Liquidação de Fatura {(truthy invoice.invoiceNumber).getD (toString invoice.id)}"
      reference := payload.reference
      items := [debit, credit] }

/-- The payment is added and the invoice marked before the entry is checked and posted. -/
def paySupplierInvoice (tenantId userId invoiceId : UUID) (payload : InvoicePaymentRequest)
    (db : Payables) : Except PostingError UUID × Payables :=
  match db.books.supplierInvoices.get invoiceId with
  | none => (.error (.httpException 404 "Fatura de Fornecedor não encontrada"), db)
  | some invoice =>
    if invoice.tenantId ≠ tenantId then
      (.error (.httpException 404 "Fatura de Fornecedor não encontrada"), db)
    else if invoice.status = "paid" then
      (.error (.httpException 400 "Esta fatura já foi paga"), db)
    else
      match paymentEntry invoice payload with
      | .error e => (.error e, markPaid tenantId userId invoice payload db)
      | .ok entry =>
        -- the id of the payment is still unset when it is passed on as the source
        match createJournalEntry tenantId entry (some "supplier_payment") none
            (markPaid tenantId userId invoice payload db).books with
        | .error e => (.error e, markPaid tenantId userId invoice payload db)
        | .ok (_, books) => (.ok db.supplierPayments.freshKey,
            { markPaid tenantId userId invoice payload db with books })

/-! ## What the payments of an invoice promise -/

/-- What was paid for an invoice. -/
def Payables.paidFor (db : Payables) (invoiceId : UUID) : Int :=
  db.supplierPayments.sumWhere (·.invoiceId = some invoiceId) SupplierPayment.amount

/-- What was paid for all invoices. -/
def Payables.recorded (db : Payables) : Int :=
  db.supplierPayments.sumWhere (·.invoiceId.isSome) SupplierPayment.amount

/-- What the entries of payments have on their debit side. -/
def Payables.posted (db : Payables) : Int :=
  db.books.journalItems.sumWhere (fun i => (db.books.journalEntries.get i.journalEntryId).any
    (·.sourceDocumentType = "supplier_payment")) JournalItem.debit

structure PaidBySum (invoiceId : UUID) (db : Payables) : Prop where
  paid_iff : ∀ i, db.books.supplierInvoices.get invoiceId = some i →
    (i.status = "paid" ↔ i.amount ≤ db.paidFor invoiceId)
  bounded : ∀ i, db.books.supplierInvoices.get invoiceId = some i → db.paidFor invoiceId ≤ i.amount
  positive : ∀ p ∈ db.supplierPayments, p.invoiceId = some invoiceId → 0 < p.amount
  posted : db.posted = db.recorded

/-- An invoice before its first payment, in a ledger that agrees with the payments so far. -/
structure Entered (invoice : SupplierInvoice) (db : Payables) : Prop where
  entered : db.books.supplierInvoices.get invoice.id = some invoice
  pending : invoice.status = "pending"
  unpaid : ∀ p ∈ db.supplierPayments, p.invoiceId ≠ some invoice.id
  posted : db.posted = db.recorded

/-! ## Payments -/

structure PayCall where
  tenantId : UUID
  userId : UUID
  invoiceId : UUID
  payload : InvoicePaymentRequest

def PayCall.serve (c : PayCall) (db : Payables) : Except PostingError UUID × Payables :=
  Work.serve (atomic (paySupplierInvoice c.tenantId c.userId c.invoiceId c.payload)) db

def Payables.pay (db : Payables) (c : PayCall) : Payables := (c.serve db).2

def PayCall.Succeeds (c : PayCall) (db : Payables) : Prop := (c.serve db).1.isOk = true

/-- A payment that is due: a positive amount, no more than is left of an unpaid invoice of the
tenant, whose chart has the two accounts it goes to. -/
def PayCall.Due (c : PayCall) (db : Payables) : Prop :=
  ∃ i ∈ db.books.supplierInvoices.get c.invoiceId, i.tenantId = c.tenantId ∧ i.status ≠ "paid" ∧
    0 < numeric 2 c.payload.amount ∧
    db.paidFor c.invoiceId + numeric 2 c.payload.amount ≤ i.amount ∧
    (findAccount c.tenantId "42" db.books).isSome ∧ (findAccount c.tenantId "12" db.books).isSome

section Entries

variable {invoice : SupplierInvoice} {payload : InvoicePaymentRequest}

/-- The lines of a payment name their accounts by number, and a line needs the id of one. -/
theorem paymentEntry_refused :
    paymentEntry invoice payload = .error (.validationError ["account_id"]) := rfl

end Entries

section Run

variable {db : Payables} {c : PayCall} {invoice : SupplierInvoice} {calls : List PayCall}

theorem paySupplierInvoice_refused {tenantId userId invoiceId : UUID}
    {payload : InvoicePaymentRequest} :
    ∃ e p, paySupplierInvoice tenantId userId invoiceId payload db = (.error e, p) := by
  unfold paySupplierInvoice
  cases db.books.supplierInvoices.get invoiceId with
  | none => exact ⟨_, _, rfl⟩
  | some invoice =>
    dsimp only
    split
    · exact ⟨_, _, rfl⟩
    split
    · exact ⟨_, _, rfl⟩
    · rw [paymentEntry_refused]
      exact ⟨_, _, rfl⟩

theorem pay_refused (c : PayCall) (db : Payables) : ∃ e, c.serve db = (.error e, db) := by
  obtain ⟨e, p, h⟩ := @paySupplierInvoice_refused db c.tenantId c.userId c.invoiceId c.payload
  exact ⟨e, serve_atomic_of_error h⟩

theorem not_succeeds : ¬ c.Succeeds db := by
  obtain ⟨e, he⟩ := pay_refused c db
  simp [PayCall.Succeeds, he, Except.isOk, Except.toBool]

theorem pay_same : db.pay c = db := by
  obtain ⟨e, he⟩ := pay_refused c db
  rw [Payables.pay, he]

theorem Entered.paidFor (h : Entered invoice db) : db.paidFor invoice.id = 0 :=
  Table.sumWhere_eq_zero fun p hp => decide_eq_false (h.unpaid p hp)

/-- Before its first payment an invoice agrees with its payments if it has something to pay. -/
theorem Entered.paidBySum_iff (h : Entered invoice db) :
    PaidBySum invoice.id db ↔ 0 < invoice.amount := by
  have hpaid := h.paidFor
  have hpending : invoice.status ≠ "paid" := by rw [h.pending]; decide
  constructor
  · intro hsum
    by_contra hle
    have hreached : invoice.amount ≤ db.paidFor invoice.id := by omega
    exact hpending ((hsum.paid_iff _ h.entered).mpr hreached)
  · intro hpos
    refine ⟨fun i hi => ?_, fun i hi => ?_, fun p hp hof => absurd hof (h.unpaid p hp), h.posted⟩
    · obtain rfl := Option.some.inj (h.entered.symm.trans hi)
      exact iff_of_false hpending (by omega)
    · obtain rfl := Option.some.inj (h.entered.symm.trans hi)
      omega

/-- In a run of payments the due ones are accepted and the invoice is, in every state, paid exactly
when its payments reach its amount, if and only if its amount is positive and no payment is due. -/
theorem paid_by_sum (h : Entered invoice db) :
    (PaidBySum invoice.id db ∧ Run.Along Payables.pay
      (fun db c => (c.Due db → c.Succeeds db) ∧ PaidBySum invoice.id (db.pay c)) db calls) ↔
      0 < invoice.amount ∧ Run.Along Payables.pay (fun db c => ¬ c.Due db) db calls := by
  rw [← h.paidBySum_iff, and_congr_right_iff]
  intro hsum
  induction calls with
  | nil => exact Iff.rfl
  | cons c calls ih =>
    simp only [pay_same] at ih
    simp only [Run.Along, pay_same]
    exact and_congr
      ⟨fun hc hdue => not_succeeds (hc.1 hdue), fun hdue => ⟨fun hd => absurd hd hdue, hsum⟩⟩ ih

end Run

/-! ## An invoice of 500,00 -/

private def supplierCharge : SupplierInvoice :=
  { id := 1, tenantId := 1, thirdPartyId := 4, amount := 50000, issuedAt := 0 }

private def chart : Payables where
  books.accounts := ⟨[⟨1, 1, "42", "Fornecedores"⟩, ⟨2, 1, "12", "Bancos"⟩], by decide⟩
  books.supplierInvoices := .single supplierCharge

private def payment (amount : ℚ) : PayCall :=
  ⟨1, 9, 1, { amount, paymentMethod := "bank_transfer", valueDate := 10 }⟩

private theorem chart_entered : Entered supplierCharge chart where
  entered := rfl
  pending := rfl
  unpaid p hp := absurd hp (Table.not_mem_empty p)
  posted := rfl

private theorem payment_due : (payment 500).Due chart :=
  ⟨supplierCharge, rfl, rfl, by decide, by decide +kernel, by decide +kernel, rfl, rfl⟩

/-- A payment above the amount is refused as it should be, and the invoice agrees with its
payments. -/
theorem paid_by_sum_overpaid :
    (PaidBySum 1 chart ∧ Run.Along Payables.pay
      (fun db c => (c.Due db → c.Succeeds db) ∧ PaidBySum 1 (db.pay c)) chart [payment 600]) :=
  (paid_by_sum chart_entered).mpr ⟨by decide, fun hdue => by
    obtain ⟨i, hi, -, -, -, hle, -⟩ := hdue
    cases hi
    revert hle
    decide +kernel, trivial⟩

/-- The payment of an invoice in full is due, and refused. -/
theorem full_payment_refused :
    Entered supplierCharge chart ∧ (payment 500).Due chart ∧ ¬ (payment 500).Succeeds chart :=
  ⟨chart_entered, payment_due, not_succeeds⟩

end Rotas
