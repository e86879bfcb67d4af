import Rotas.Billing.Create

/-!
# Rotas.Billing.Issue

`issue_document`: numbers a draft, computes its totals and marks its trips billed.

The source imports `select` inside the function, after its first use, so the name is local and
unbound there: as the code stands, issuing a draft raises. `selectBound` says whether the name is
bound at that point; it is `false` for the code, and `true` for the code with the import removed.
-/

namespace Rotas

open Decimal

def documentNotFound : Exc := notFound "billing_document_not_found" "Billing document not found."

def requireDocument (tenantId documentId : UUID) (db : Db) (missing : Exc) :
    Except Exc BillingDocument := do
  let document ← require (db.billingDocuments.get documentId) missing
  raiseIf (document.tenantId ≠ tenantId) missing
  return document

def DocStatus.text : DocStatus → String
  | .draft => "draft"
  | .issued => "issued"
  | .overdue => "overdue"
  | .paid => "paid"
  | .cancelled => "cancelled"

def itemsOf (tenantId documentId : UUID) (db : Db) : List BillingItem :=
  db.billingItems.rows.filter fun i => i.tenantId = tenantId && i.billingDocumentId = documentId

/-- The rate of the items, when they have one and the same. -/
def commonRate (items : List BillingItem) : Option ℚ :=
  match (items.filterMap BillingItem.ivaRate).dedup with
  | [rate] => some rate
  | _ => none

/-- Days the client has to pay; zero counts as not given. -/
def paymentTerms (contract : Option Contract) : Int :=
  match contract with
  | some c => if c.paymentTermsDays = 0 then 30 else c.paymentTermsDays
  | none => 30

/-- The columns `issue_document` writes on the document. -/
def issuedDocument (number : String) (issuedAt : Instant) (terms : Int)
    (items : List BillingItem) (d : BillingDocument) : BillingDocument :=
  let subtotal := (items.map BillingItem.amount).sum
  let taxAmount := (items.map fun i => i.ivaAmount.getD 0).sum
  { d with
    dueDate := some (issuedAt + 86400 * terms)
    invoiceNumber := some number
    subtotal
    taxAmount
    totalAmount := subtotal + taxAmount
    ivaRate := commonRate items
    status := .issued
    issuedAt := some issuedAt }

/-- The checks of `issue_document` on a document that is not issued yet, and its items. -/
def issueChecks (selectBound : Bool) (tenantId : UUID) (document : BillingDocument) (db : Db) :
    Except Exc (List BillingItem) := do
  raiseIf (document.status ≠ .draft)
    (conflict "invalid_billing_document_status" "Only draft billing documents can be issued."
      [("status", .text document.status.text)])
  raiseIf (!selectBound) (.unboundLocalError "select")
  let items := itemsOf tenantId document.id db
  raiseIf items.isEmpty (conflict "empty_billing_document" "Billing document has no items.")
  raiseIf (strip (document.clientNuit.getD "") = "")
    (unprocessable "client_nuit_required"
      ("O NUIT do cliente é obrigatório para emitir um documento fiscal. " ++
        "Actualize o documento com client_nuit antes de emitir."))
  return items

/-- The trip of an item of the issued document. -/
def hasTripIn (items : List BillingItem) (trip : Trip) : Bool :=
  items.any fun i => i.tripId = some trip.id

/-- The rows an issue writes: the document, its items and their trips. -/
def finishIssue (tenantId documentId : UUID) (number : String) (issuedAt : Instant) (terms : Int)
    (items : List BillingItem) (db : Db) : Db :=
  { db with
    billingDocuments := db.billingDocuments.modify documentId
      (issuedDocument number issuedAt terms items)
    billingItems := db.billingItems.modifyAll
      (fun i => i.tenantId = tenantId && i.billingDocumentId = documentId) ({ · with billed := true })
    trips := db.trips.modifyAll (fun t => t.tenantId = tenantId && hasTripIn items t)
      ({ · with
        billingStatus := .billed, billedAt := some issuedAt, billingDocumentId := some documentId }) }

section Finish

variable {tenantId documentId : UUID} {number : String} {issuedAt : Instant} {terms : Int}
  {items : List BillingItem} {db : Db}

theorem mem_finishIssue {i : BillingItem}
    (h : i ∈ (finishIssue tenantId documentId number issuedAt terms items db).billingItems) :
    ∃ j ∈ db.billingItems, i = j ∨ i = { j with billed := true } := by
  simp only [finishIssue, Table.mem_modifyAll] at h
  obtain ⟨j, hj, rfl⟩ := h
  refine ⟨j, hj, ?_⟩
  split
  · exact .inr rfl
  · exact .inl rfl

theorem exists_mem_finishIssue {j : BillingItem} (hj : j ∈ db.billingItems) :
    ∃ i ∈ (finishIssue tenantId documentId number issuedAt terms items db).billingItems,
      i.tripId = j.tripId ∧ i.billingDocumentId = j.billingDocumentId := by
  simp only [finishIssue, Table.mem_modifyAll]
  refine ⟨_, ⟨j, hj, rfl⟩, ?_⟩
  split <;> exact ⟨rfl, rfl⟩

theorem finishIssue_get_document (id : UUID) :
    (finishIssue tenantId documentId number issuedAt terms items db).billingDocuments.get id =
      if id = documentId then
        (db.billingDocuments.get documentId).map (issuedDocument number issuedAt terms items)
      else db.billingDocuments.get id := by
  simp only [finishIssue, Table.get_modify]

theorem finishIssue_get_trip (k : UUID) :
    (finishIssue tenantId documentId number issuedAt terms items db).trips.get k =
      (db.trips.get k).map fun t =>
        if t.tenantId = tenantId ∧ hasTripIn items t then
          { t with
            billingStatus := .billed, billedAt := some issuedAt
            billingDocumentId := some documentId }
        else t := by
  simp only [finishIssue, Table.get_modifyAll, Bool.and_eq_true, decide_eq_true_eq]

end Finish

def issueDocument (selectBound : Bool) (now : Instant) (tenantId documentId : UUID)
    (issuedAt : Option Instant) (db : Db) : Except Exc (UUID × Db) := do
  let document ← requireDocument tenantId documentId db documentNotFound
  if document.status = .issued then return (documentId, db)
  let items ← issueChecks selectBound tenantId document db
  let terms := paymentTerms (document.contractId.bind db.contracts.get)
  let (number, db') := assignInvoiceNumber tenantId document db
  return (documentId,
    finishIssue tenantId documentId number (issuedAt.getD now) terms items db')

/-! ## What an issue does -/

section

variable {selectBound : Bool} {now : Instant} {tenantId documentId : UUID}
  {issuedAt : Option Instant} {db p : Db} {a : UUID} {document : BillingDocument}

theorem requireDocument_eq_ok {missing : Exc} :
    requireDocument tenantId documentId db missing = .ok document ↔
      db.billingDocuments.get documentId = some document ∧ document.tenantId = tenantId := by
  simp only [requireDocument, bind_eq_ok, require_eq_ok, raiseIf_eq_ok, decide_eq_false_iff_not,
    Decidable.not_not]
  constructor
  · rintro ⟨d, hd, _, hten, hr⟩
    cases hr
    exact ⟨hd, hten⟩
  · rintro ⟨hd, hten⟩
    exact ⟨document, hd, (), hten, rfl⟩

theorem issueChecks_eq_ok {items : List BillingItem}
    (h : issueChecks selectBound tenantId document db = .ok items) :
    document.status = .draft ∧ selectBound = true ∧ items = itemsOf tenantId document.id db ∧
      items ≠ [] := by
  simp only [issueChecks, bind_eq_ok, raiseIf_eq_ok, decide_eq_false_iff_not, Decidable.not_not,
    pure, Except.pure, Except.ok.injEq] at h
  obtain ⟨_, hdraft, _, hbound, _, hempty, _, _, rfl⟩ := h
  exact ⟨hdraft, by simpa using hbound, rfl, by simpa using hempty⟩

/-- An issue that completes found the document issued, or issues a draft. -/
theorem issueDocument_cases
    (h : issueDocument selectBound now tenantId documentId issuedAt db = .ok (a, p)) :
    p = db ∨ ∃ document number counters terms,
      db.billingDocuments.get documentId = some document ∧ document.tenantId = tenantId ∧
      document.status = .draft ∧ selectBound = true ∧ itemsOf tenantId documentId db ≠ [] ∧
      assignInvoiceNumber tenantId document db =
        (number, { db with fiscalCounters := counters }) ∧
      p = finishIssue tenantId documentId number (issuedAt.getD now) terms
        (itemsOf tenantId documentId db) { db with fiscalCounters := counters } := by
  simp only [issueDocument, bind_eq_ok, requireDocument_eq_ok] at h
  obtain ⟨document, ⟨hdoc, hten⟩, h⟩ := h
  split at h
  · cases h; exact .inl rfl
  · simp only [bind_eq_ok, pure, Except.pure, Except.ok.injEq] at h
    obtain ⟨items, hchecks, h⟩ := h
    obtain ⟨hdraft, hbound, rfl, hne⟩ := issueChecks_eq_ok hchecks
    have hid : document.id = documentId := Table.key_of_get hdoc
    rw [hid] at hne h
    have hframe := assignInvoiceNumber_snd tenantId document db
    cases h
    rw [hframe]
    exact .inr ⟨document, _, _, _, hdoc, hten, hdraft, hbound, hne, Prod.ext rfl hframe, rfl⟩

end
end Rotas
