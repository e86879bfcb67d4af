import Rotas.Lib.Table
import Rotas.Lib.Session
import Rotas.Lib.Decimal
import Rotas.Core.Errors
import Rotas.Core.Text

/-!
# Rotas.Accounting.Posting

The general ledger: journal entries, as they are checked, stored and summed up.

* `JournalItemCreate`  — a line that its validator accepts.
* `createJournalEntry` — the checks of an entry, and its rows.
* `createManualEntry`, `postSupplierInvoice` — the two ways an entry is posted.
* `trialBalance`       — the totals of every account of a tenant.

Amounts of a payload are exact decimals; those of a row are hundredths.
-/

namespace Rotas

open Work Decimal

/-- What a posting raises. -/
inductive PostingError where
  | httpException (statusCode : Nat) (detail : String) (totals : List ℚ := [])
  | valueError (message : String) (totals : List ℚ := [])
  | validationError (missing : List String)
  | integrityError

/-! ## Rows -/

structure Account where
  id : UUID
  tenantId : UUID
  code : String
  name : String

structure SupplierInvoice where
  id : UUID
  tenantId : UUID
  thirdPartyId : UUID
  vehicleId : Option UUID := none
  tripId : Option UUID := none
  invoiceNumber : Option String := none
  description : Option String := none
  amount : Int
  currency : String := "MZN"
  issuedAt : Instant
  dueDate : Option Instant := none
  status : String := "pending"

structure JournalEntry where
  id : UUID
  tenantId : UUID
  journalType : String
  date : Instant
  reference : Option String
  description : Option String
  status : String
  sourceDocumentType : String
  sourceDocumentId : Option UUID

structure JournalItem where
  id : UUID
  tenantId : UUID
  journalEntryId : UUID
  accountId : UUID
  debit : Int
  credit : Int
  thirdPartyId : Option UUID
  vehicleId : Option UUID
  tripId : Option UUID
  description : Option String

instance : Keyed Account := ⟨Account.id⟩
instance : Keyed SupplierInvoice := ⟨SupplierInvoice.id⟩
instance : Keyed JournalEntry := ⟨JournalEntry.id⟩
instance : Keyed JournalItem := ⟨JournalItem.id⟩

structure Books where
  accounts : Table Account := ∅
  supplierInvoices : Table SupplierInvoice := ∅
  journalEntries : Table JournalEntry := ∅
  journalItems : Table JournalItem := ∅

/-- The check constraints of a line, and the twelve digits before its decimal point. -/
def JournalItem.ok (i : JournalItem) : Bool :=
  decide (0 ≤ i.debit ∧ 0 ≤ i.credit) && decide (i.debit = 0 ∨ i.credit = 0) &&
    decide (0 < i.debit ∨ 0 < i.credit) && decide (i.debit < 10 ^ 14 ∧ i.credit < 10 ^ 14)

def Books.ok (db : Books) : Bool := db.journalItems.rows.all JournalItem.ok

instance : Store Books PostingError := ⟨Books.ok, .integrityError⟩

/-! ## Payloads -/

structure JournalLine where
  accountId : UUID
  debit : ℚ := 0
  credit : ℚ := 0
  thirdPartyId : Option UUID := none
  vehicleId : Option UUID := none
  tripId : Option UUID := none
  description : Option String := none

def validateDebitCredit (l : JournalLine) : Except PostingError Unit :=
  if l.debit < 0 ∨ l.credit < 0 then
    .error (.valueError "Débito e Crédito não podem ser negativos")
  else if l.debit = 0 ∧ l.credit = 0 then
    .error (.valueError "Uma linha deve ter um débito ou crédito maior que zero")
  else if 0 < l.debit ∧ 0 < l.credit then
    .error (.valueError "Uma linha não pode ter simultaneamente débito e crédito")
  else .ok ()

/-- A line that its validator accepts. -/
def JournalItemCreate := { l : JournalLine // validateDebitCredit l = .ok () }

def JournalItemCreate.ofLine (l : JournalLine) : Except PostingError JournalItemCreate :=
  match h : validateDebitCredit l with
  | .ok () => .ok ⟨l, h⟩
  | .error e => .error e

def JournalItemCreate.debit (l : JournalItemCreate) : ℚ := l.val.debit

def JournalItemCreate.credit (l : JournalItemCreate) : ℚ := l.val.credit

structure JournalEntryCreate where
  journalType : String
  date : Instant
  reference : Option String := none
  description : Option String := none
  lines : List JournalItemCreate := []
  items : List JournalItemCreate := []
  present : lines ≠ [] ∨ items ≠ []

/-- `lines`, or the `items` that stand in for them. -/
def JournalEntryCreate.rawLines (payload : JournalEntryCreate) : List JournalItemCreate :=
  if payload.lines = [] then payload.items else payload.lines

/-! ## Entries -/

/-- The row of a line, whose columns round its amounts. -/
def lineItem (tenantId journalEntryId : UUID) (l : JournalItemCreate) (id : UUID) : JournalItem where
  id
  tenantId
  journalEntryId
  accountId := l.val.accountId
  debit := numeric 2 l.debit
  credit := numeric 2 l.credit
  thirdPartyId := l.val.thirdPartyId
  vehicleId := l.val.vehicleId
  tripId := l.val.tripId
  description := l.val.description

def addLines (tenantId journalEntryId : UUID) : List JournalItemCreate → Books → Books
  | [], db => db
  | l :: ls, db => addLines tenantId journalEntryId ls
      { db with journalItems := db.journalItems.insert (lineItem tenantId journalEntryId l) }

def addEntry (tenantId : UUID) (payload : JournalEntryCreate) (sourceType : Option String)
    (sourceId : Option UUID) (db : Books) : Books :=
  { db with
    journalEntries := db.journalEntries.insert fun id =>
      { id, tenantId
        journalType := payload.journalType
        date := payload.date
        reference := payload.reference
        description := payload.description
        status := "posted"
        sourceDocumentType := (truthy sourceType).getD "InternalHook"
        sourceDocumentId := sourceId } }

/-- An entry needs two lines, equal totals of its unrounded amounts, and a total above zero. -/
def createJournalEntry (tenantId : UUID) (payload : JournalEntryCreate) (sourceType : Option String)
    (sourceId : Option UUID) (db : Books) : Except PostingError (UUID × Books) :=
  let rawLines := payload.rawLines
  let totalDebit := sum (rawLines.map JournalItemCreate.debit)
  let totalCredit := sum (rawLines.map JournalItemCreate.credit)
  if rawLines.length < 2 then
    .error (.valueError "O lançamento deve ter pelo menos duas linhas (Débito e Crédito)")
  else if totalDebit ≠ totalCredit then
    .error (.valueError "Lançamento Desequilibrado: Débitos != Créditos" [totalDebit, totalCredit])
  else if totalDebit ≤ 0 then
    .error (.valueError "Lançamentos de valor zero não são permitidos.")
  else .ok (db.journalEntries.freshKey, addLines tenantId db.journalEntries.freshKey rawLines
    (addEntry tenantId payload sourceType sourceId db))

/-- The accounts of the lines are there, and the tenant's. -/
def checkAccounts (tenantId : UUID) (db : Books) : List JournalItemCreate → Except PostingError Unit
  | [] => .ok ()
  | l :: ls =>
    if (db.accounts.get l.val.accountId).any (·.tenantId = tenantId) then
      checkAccounts tenantId db ls
    else .error (.httpException 400 s!"Conta {l.val.accountId} não encontrada.")

def createManualEntry (tenantId : UUID) (payload : JournalEntryCreate) (db : Books) :
    Except PostingError (UUID × Books) :=
  let lines := payload.rawLines
  let totalDebit := sum (lines.map JournalItemCreate.debit)
  let totalCredit := sum (lines.map JournalItemCreate.credit)
  if totalDebit ≠ totalCredit then
    .error (.httpException 400 "Lançamento Desequilibrado: Débitos != Créditos"
      [totalDebit, totalCredit])
  else
    match checkAccounts tenantId db lines with
    | .error e => .error e
    | .ok () => createJournalEntry tenantId payload (some "ManualEntry") none db

/-- The tenant's account of that code. -/
def findAccount (tenantId : UUID) (code : String) (db : Books) : Option Account :=
  db.accounts.rows.find? fun a => a.tenantId = tenantId && a.code = code

/-- The lines of an approved invoice: the cost on the one side, the debt on the other. -/
def supplierLines (invoice : SupplierInvoice) (expenseAccount payableAccount : Account) :
    Except PostingError (JournalItemCreate × JournalItemCreate) := do
  let debit ← JournalItemCreate.ofLine
    { accountId := expenseAccount.id, debit := (invoice.amount : ℚ) / 100
      thirdPartyId := some invoice.thirdPartyId, vehicleId := invoice.vehicleId
      tripId := invoice.tripId }
  let credit ← JournalItemCreate.ofLine
    { accountId := payableAccount.id, credit := (invoice.amount : ℚ) / 100
      thirdPartyId := some invoice.thirdPartyId }
  return (debit, credit)

def supplierEntry (invoice : SupplierInvoice) (lines : JournalItemCreate × JournalItemCreate) :
    JournalEntryCreate where
  journalType := "COM"
  date := invoice.issuedAt
  reference := some ((truthy invoice.invoiceNumber).getD s!"Fatura de Fornecedor: {invoice.id}")
  description := some ((truthy invoice.description).getD "Reconhecimento de Custo com Fornecedor")
  items := [lines.1, lines.2]
  present := .inr (List.cons_ne_nil _ _)

def postSupplierInvoice (invoiceId : UUID) (db : Books) : Except PostingError (UUID × Books) :=
  match db.supplierInvoices.get invoiceId with
  | none => .error (.httpException 404 "Invoice not found")
  | some invoice =>
    match findAccount invoice.tenantId "62" db, findAccount invoice.tenantId "42" db with
    | some expenseAccount, some payableAccount => do
      let lines ← supplierLines invoice expenseAccount payableAccount
      match createJournalEntry invoice.tenantId (supplierEntry invoice lines) none none db with
      | .error (.valueError message totals) =>
        .error (.httpException 500 s!"Erro Contabilístico: {message}" totals)
      | r => r
    | _, _ => .error (.httpException 500
      "Chart of Accounts is missing required PGC-NIRF accounts (62 or 42).")

/-! ## Trial balance -/

structure TrialBalanceLine where
  accountId : UUID
  code : String
  name : String
  debitTotal : Int
  creditTotal : Int
  balance : Int

/-- The totals of an account; assets and expenses have their balance on the debit side. -/
def trialBalanceLine (db : Books) (a : Account) : TrialBalanceLine :=
  let totalDebit := db.journalItems.sumWhere (·.accountId = a.id) JournalItem.debit
  let totalCredit := db.journalItems.sumWhere (·.accountId = a.id) JournalItem.credit
  { accountId := a.id
    code := a.code
    name := a.name
    debitTotal := totalDebit
    creditTotal := totalCredit
    balance := if ["1", "2", "3", "6"].any (a.code.startsWith ·) then totalDebit - totalCredit
      else totalCredit - totalDebit }

def trialBalance (tenantId : UUID) (db : Books) : List TrialBalanceLine :=
  ((db.accounts.rows.filter (·.tenantId = tenantId)).mergeSort fun a b => decide (a.code ≤ b.code)).map
    (trialBalanceLine db)

end Rotas
