import Rotas.Billing.Issue

/-!
# Rotas.Billing.IssueContract

What a caller of `issue_document` is promised, and when the promise is kept.

* `Issuable` — a draft that is ready: items, a NUIT, and trips that pass the billing checks.
* `Issued` — what the issue of a document leaves in the database.
* `IssueContract` — a document that is ready is issued; on every other input the call raises and
  nothing changes.
* `draft_fails` — the code raises on every draft, since `select` is unbound in the function.
* `issue_contract_iff` — so the promise is kept on what is neither ready nor issued already.
-/

namespace Rotas

/-! ## The promise -/

/-- `_normalize_nuit` leaves nine digits. -/
def isNuit (nuit : String) : Bool := nuit.toList.length = 9 && nuit.toList.all Char.isDigit

/-- The billing checks of `checkTrip`, of a trip that is in the draft. -/
structure PassesBilling (now : Instant) (tenantId : UUID) (document : BillingDocument) (db : Db)
    (trip : Trip) (contract : Contract) (proof : DeliveryProof) : Prop where
  tripFound : db.trips.get trip.id = some trip
  tenant : trip.tenantId = tenantId
  contractFound : db.contracts.get contract.id = some contract
  linked : document.contractId = some contract.id ∧ trip.contractId = some contract.id
  drafted : trip.billingStatus = .billingDraft ∧ trip.billingDocumentId = some document.id
  margin : requireMarginGovernance now tenantId trip db = .ok ()
  latest : billableProof tenantId trip.id db = some proof
  period : document.billingPeriodStart ≤ proof.deliveredAt ∧
    proof.deliveredAt < document.billingPeriodEnd
  iva : (resolveIva (some trip) (some contract)).isOk = true

/-- A draft invoice that is ready to be issued. -/
structure Issuable (now : Instant) (tenantId documentId : UUID) (db : Db)
    (document : BillingDocument) : Prop where
  found : db.billingDocuments.get documentId = some document
  tenant : document.tenantId = tenantId
  draft : document.status = .draft
  invoice : document.documentType = .invoice
  items : itemsOf tenantId documentId db ≠ []
  nuit : ∃ nuit, document.clientNuit = some nuit ∧ isNuit nuit = true
  trips : ∀ i ∈ itemsOf tenantId documentId db, ∃ trip contract proof, i.tripId = some trip.id ∧
    PassesBilling now tenantId document db trip contract proof

/-- The document `d` as an issue leaves it: its number is one that no document had, and its totals
are those of its items. -/
structure IssuedDocument (tenantId documentId : UUID) (issuedAt : Instant) (db : Db)
    (document d : BillingDocument) : Prop where
  status : d.status = .issued
  number : ∃ number, d.invoiceNumber = some number ∧
    ∀ other ∈ db.billingDocuments, other.tenantId = tenantId → other.invoiceNumber ≠ some number
  due : d.dueDate =
    some (issuedAt + 86400 * paymentTerms (document.contractId.bind db.contracts.get))
  subtotal : d.subtotal = ((itemsOf tenantId documentId db).map BillingItem.amount).sum
  taxAmount : d.taxAmount =
    ((itemsOf tenantId documentId db).map fun i => i.ivaAmount.getD 0).sum
  totalAmount : d.totalAmount = d.subtotal + d.taxAmount

/-- What an issue leaves in the database: the trips of the items are billed, and no others. -/
structure Issued (tenantId documentId : UUID) (issuedAt : Instant) (db p : Db)
    (document : BillingDocument) : Prop where
  document : ∃ d, p.billingDocuments.get documentId = some d ∧
    IssuedDocument tenantId documentId issuedAt db document d
  trips : ∀ k trip, db.trips.get k = some trip → ∃ trip', p.trips.get k = some trip' ∧
    if trip.tenantId = tenantId ∧ hasTripIn (itemsOf tenantId documentId db) trip then
      trip'.billingStatus = .billed ∧ trip'.billingDocumentId = some documentId
    else trip' = trip

/-- One session for `issue_document`: its answer, and the database after it. -/
def serveIssue (selectBound : Bool) (now : Instant) (tenantId documentId : UUID)
    (issuedAt : Option Instant) (db : Db) : Except Exc UUID × Db :=
  Work.serve (.atomic (Work.ofExcept (issueDocument selectBound now tenantId documentId issuedAt))) db

/-- A document that is ready is issued; anything else raises and leaves the database as it was. -/
structure IssueContract (selectBound : Bool) (now : Instant) (tenantId documentId : UUID)
    (issuedAt : Option Instant) (db : Db) : Prop where
  issues : ∀ document, Issuable now tenantId documentId db document →
    ∃ p, serveIssue selectBound now tenantId documentId issuedAt db = (.ok documentId, p) ∧
      Issued tenantId documentId (issuedAt.getD now) db p document
  raises : (¬ ∃ document, Issuable now tenantId documentId db document) →
    ∃ e, serveIssue selectBound now tenantId documentId issuedAt db = (.error e, db)

/-- The call finds a document of the tenant that is issued already. -/
def IssuedAlready (tenantId documentId : UUID) (db : Db) : Prop :=
  ∃ document, db.billingDocuments.get documentId = some document ∧ document.tenantId = tenantId ∧
    document.status = .issued

/-! ## The code -/

section

variable {selectBound : Bool} {now : Instant} {tenantId documentId : UUID}
  {issuedAt : Option Instant} {db : Db} {document : BillingDocument}

theorem serveIssue_of_error {e : Exc}
    (h : issueDocument selectBound now tenantId documentId issuedAt db = .error e) :
    serveIssue selectBound now tenantId documentId issuedAt db = (.error e, db) := by
  have hwork : Work.ofExcept (issueDocument selectBound now tenantId documentId issuedAt) db =
      (.error e, db) := by simp only [Work.ofExcept, h]
  exact Work.serve_atomic_of_error hwork

theorem issueDocument_of_issued (h : IssuedAlready tenantId documentId db) :
    issueDocument selectBound now tenantId documentId issuedAt db = .ok (documentId, db) := by
  obtain ⟨document, hget, hten, hissued⟩ := h
  simp only [issueDocument, requireDocument_eq_ok.mpr ⟨hget, hten⟩, bind, Except.bind, hissued]
  rfl

theorem serveIssue_of_issued (h : IssuedAlready tenantId documentId db) (hdb : db.ok = true) :
    serveIssue selectBound now tenantId documentId issuedAt db = (.ok documentId, db) :=
  Work.serve_atomic_of_ok (Work.ofExcept_ok.mpr (issueDocument_of_issued h)) hdb

theorem draft_fails (h : ¬ IssuedAlready tenantId documentId db) :
    ∃ e, issueDocument false now tenantId documentId issuedAt db = .error e := by
  cases hrun : issueDocument false now tenantId documentId issuedAt db with
  | error e => exact ⟨e, rfl⟩
  | ok r =>
    simp only [issueDocument, bind_eq_ok, requireDocument_eq_ok] at hrun
    obtain ⟨document, ⟨hget, hten⟩, hrun⟩ := hrun
    split at hrun
    · next hissued => exact absurd ⟨document, hget, hten, hissued⟩ h
    · obtain ⟨items, hchecks, -⟩ := bind_eq_ok.mp hrun
      cases (issueChecks_eq_ok hchecks).2.1

theorem Issuable.not_issued (h : Issuable now tenantId documentId db document) :
    ¬ IssuedAlready tenantId documentId db := by
  rintro ⟨other, hget, -, hissued⟩
  cases Option.some.inj (h.found.symm.trans hget)
  cases h.draft.symm.trans hissued

/-- The code keeps the contract where there is nothing to be issued and nothing issued. -/
theorem issue_contract_iff (hdb : db.ok = true) :
    IssueContract false now tenantId documentId issuedAt db ↔
      (¬ ∃ document, Issuable now tenantId documentId db document) ∧
        ¬ IssuedAlready tenantId documentId db := by
  constructor
  · intro hcontract
    have hready : ¬ ∃ document, Issuable now tenantId documentId db document := by
      rintro ⟨document, hready⟩
      obtain ⟨p, hserved, -⟩ := hcontract.issues document hready
      obtain ⟨e, hfails⟩ : ∃ e, issueDocument false now tenantId documentId issuedAt db = .error e :=
        draft_fails hready.not_issued
      rw [serveIssue_of_error hfails] at hserved
      cases hserved
    refine ⟨hready, fun hissued => ?_⟩
    obtain ⟨e, hserved⟩ := hcontract.raises hready
    rw [serveIssue_of_issued hissued hdb] at hserved
    cases hserved
  · rintro ⟨hready, hissued⟩
    refine ⟨fun document h => absurd ⟨document, h⟩ hready, fun _ => ?_⟩
    obtain ⟨e, hfails⟩ := draft_fails hissued
    exact ⟨e, serveIssue_of_error hfails⟩

end

/-! ## A draft that cannot be issued -/

def draftedContract : Contract where
  id := 1
  tenantId := 1
  clientName := "Cliente"
  contractReference := "CT-1"
  defaultUnitPrice := some 10000

def draftedTrip : Trip where
  id := 1
  tenantId := 1
  contractId := some 1
  vehicleId := 1
  origin := "Maputo"
  destination := "Beira"
  status := .closed
  billingStatus := .billingDraft
  billingDocumentId := some 1

def draftedProof : DeliveryProof where
  id := 1
  tenantId := 1
  tripId := 1
  deliveredAt := 100
  status := .validated

def readyDraft : BillingDocument where
  id := 1
  tenantId := 1
  contractId := some 1
  clientName := "Cliente"
  billingPeriodStart := 0
  billingPeriodEnd := 1000
  subtotal := 10000
  totalAmount := 10000
  clientNuit := some "400000000"

/-- A draft over one delivered trip, with all that is asked of it. -/
def readyDraftDb : Db where
  contracts := .single draftedContract
  trips := .single draftedTrip
  deliveryProofs := .single draftedProof
  billingDocuments := .single readyDraft
  billingItems := .single
    { id := 1, tenantId := 1, contractId := some 1, billingDocumentId := 1, tripId := some 1
      deliveryProofId := some 1, deliveredAt := 100, unitPrice := some 10000, amount := 10000
      ivaRate := some (16 / 100), ivaAmount := some 1600 }

theorem passesBilling_drafted :
    PassesBilling 300 1 readyDraft readyDraftDb draftedTrip draftedContract draftedProof where
  tripFound := rfl
  tenant := rfl
  contractFound := rfl
  linked := ⟨rfl, rfl⟩
  drafted := ⟨rfl, rfl⟩
  margin := rfl
  latest := rfl
  period := by decide
  iva := rfl

theorem issuable_readyDraft : Issuable 300 1 1 readyDraftDb readyDraft where
  found := rfl
  tenant := rfl
  draft := rfl
  invoice := rfl
  items := by decide +kernel
  nuit := ⟨_, rfl, by decide +kernel⟩
  trips i hi := by
    obtain rfl := List.mem_singleton.mp hi
    exact ⟨_, _, _, rfl, passesBilling_drafted⟩

/-- The contract is kept of a document that does not exist. -/
theorem issue_contract_missing : IssueContract false 300 1 2 none readyDraftDb := by
  refine (issue_contract_iff (by decide +kernel)).mpr ⟨?_, ?_⟩
  · rintro ⟨document, h⟩
    cases h.found
  · rintro ⟨document, hget, -⟩
    cases hget

/-- A draft that is ready is not issued: the call raises on the name `select`. -/
theorem ready_draft_fails :
    Issuable 300 1 1 readyDraftDb readyDraft ∧
      serveIssue false 300 1 1 none readyDraftDb =
        (.error (.unboundLocalError "select"), readyDraftDb) ∧
      ¬ IssueContract false 300 1 1 none readyDraftDb := by
  refine ⟨issuable_readyDraft, rfl, fun hcontract => ?_⟩
  exact ((issue_contract_iff (by decide +kernel)).mp hcontract).1 ⟨_, issuable_readyDraft⟩

end Rotas
