import Rotas.Billing.Steps
import Rotas.Lib.Run

/-!
# Rotas.Billing.StatusAgreement

The status of a trip and the status of the document that holds it. They are stored apart: making
and issuing a document carry its trips along, a transition looks at the document alone.

* `StatusAgreement` — each trip has the status that goes with its documents.
* `ReleasesTrips` — a document that becomes cancelled makes its trips billable again.
* `Agree` — what carries both along a run.
* `status_agreement` — they hold in every run in which no document is cancelled, or set to issued
  by a bare transition, while it holds a trip.
* `cancel_keeps_trip` — cancelling the draft of a trip leaves the trip in draft.
-/

namespace Rotas

open Work

/-! ## Agreement -/

/-- The trip has an item in a document of one of these statuses. -/
def Db.heldIn (db : Db) (tripId : UUID) (statuses : List DocStatus) : Prop :=
  ∃ i ∈ db.billingItems.rows, i.tripId = some tripId ∧
    (db.billingDocuments.get i.billingDocumentId).any (·.status ∈ statuses)

instance (db : Db) (tripId : UUID) (statuses : List DocStatus) :
    Decidable (db.heldIn tripId statuses) :=
  inferInstanceAs (Decidable (∃ i ∈ db.billingItems.rows, _))

/-- Each trip has the status that goes with its documents. -/
def StatusAgreement (db : Db) : Prop :=
  ∀ trip ∈ db.trips,
    (trip.billingStatus = .billingDraft ↔ db.heldIn trip.id [.draft]) ∧
    (trip.billingStatus = .billed ↔ db.heldIn trip.id [.issued, .overdue, .paid])

instance (db : Db) : Decidable (StatusAgreement db) :=
  inferInstanceAs (Decidable (∀ trip ∈ db.trips, _))

def Db.isCancelled (db : Db) (documentId : UUID) : Bool :=
  (db.billingDocuments.get documentId).any (·.status = .cancelled)

/-- The document holds a trip. -/
def Db.holdsTrip (db : Db) (documentId : UUID) : Bool :=
  db.billingItems.rows.any fun i => i.billingDocumentId = documentId && i.tripId.isSome

/-- The trips of the documents that the step cancels are billable after it. -/
def ReleasesTrips (db p : Db) : Prop :=
  ∀ i ∈ db.billingItems, ∀ tripId, i.tripId = some tripId →
    ¬ db.isCancelled i.billingDocumentId → p.isCancelled i.billingDocumentId →
    (p.trips.get tripId).any (·.billingStatus = .billable)

/-- What carries the agreement along a run. -/
structure Agree (db : Db) : Prop where
  /-- The trip of an item is there, and so is its document, both of the item's tenant, and the
  status of the one goes with that of the other. -/
  held : ∀ i ∈ db.billingItems, ∀ tripId, i.tripId = some tripId → ∃ trip d,
    db.trips.get tripId = some trip ∧ db.billingDocuments.get i.billingDocumentId = some d ∧
    trip.tenantId = i.tenantId ∧ d.tenantId = i.tenantId ∧ d.documentSource = .transport ∧
    d.status.tripStatus = some trip.billingStatus
  flagged : ∀ {tripId trip}, db.trips.get tripId = some trip →
    trip.billingStatus = .billingDraft ∨ trip.billingStatus = .billed →
    ∃ i ∈ db.billingItems, i.tripId = some tripId
  once : ∀ i ∈ db.billingItems, ∀ j ∈ db.billingItems, i.tripId.isSome → i.tripId = j.tripId →
    i.billingDocumentId = j.billingDocumentId

/-- The agreement after a step, and what the step has to release. -/
structure AgreeStep (db p : Db) : Prop where
  agree : Agree p
  releases : ReleasesTrips db p

theorem tripStatus_eq_draft {s : DocStatus} : s.tripStatus = some .billingDraft ↔ s ∈ [.draft] := by
  cases s <;> simp [DocStatus.tripStatus]

theorem tripStatus_eq_billed {s : DocStatus} :
    s.tripStatus = some .billed ↔ s ∈ [.issued, .overdue, .paid] := by
  cases s <;> simp [DocStatus.tripStatus]

section Agree

variable {db p : Db} {tenantId documentId : UUID}

/-- A trip has a status of held trips exactly when a document of the matching statuses holds it. -/
theorem Agree.status_iff (hI : Agree db) {trip : Trip} (ht : trip ∈ db.trips) {b : BillingStatus}
    {statuses : List DocStatus} (hb : b = .billingDraft ∨ b = .billed)
    (hs : ∀ s : DocStatus, s.tripStatus = some b ↔ s ∈ statuses) :
    trip.billingStatus = b ↔ db.heldIn trip.id statuses := by
  have hget : db.trips.get trip.id = some trip := Table.get_of_mem ht
  constructor
  · intro hstatus
    obtain ⟨i, hi, hik⟩ := hI.flagged hget (by rw [hstatus]; exact hb)
    obtain ⟨trip', d, htrip', hd, _, _, _, hside⟩ := hI.held i hi _ hik
    rw [hget] at htrip'
    cases htrip'
    refine ⟨i, hi, hik, ?_⟩
    rw [hd, Option.any_some, decide_eq_true_eq, ← hs, hside, hstatus]
  · rintro ⟨i, hi, hik, hdoc⟩
    obtain ⟨trip', d, htrip', hd, _, _, _, hside⟩ := hI.held i hi _ hik
    rw [hget] at htrip'
    cases htrip'
    rw [hd, Option.any_some, decide_eq_true_eq, ← hs, hside] at hdoc
    exact Option.some.inj hdoc

theorem Agree.statusAgreement (hI : Agree db) : StatusAgreement db := fun _ ht =>
  ⟨hI.status_iff ht (.inl rfl) fun _ => tripStatus_eq_draft,
    hI.status_iff ht (.inr rfl) fun _ => tripStatus_eq_billed⟩

/-- No document that holds a trip is cancelled, so no trip waits for its release. -/
theorem Agree.not_cancelled (hI : Agree db) {i : BillingItem} (hi : i ∈ db.billingItems)
    {tripId : UUID} (hik : i.tripId = some tripId) : db.isCancelled i.billingDocumentId = false := by
  obtain ⟨trip, d, _, hd, _, _, _, hside⟩ := hI.held i hi _ hik
  rw [Db.isCancelled, hd, Option.any_some, decide_eq_false_iff_not]
  intro hc
  rw [hc] at hside
  cases hside

theorem Agree.releases (hI : Agree p)
    (hitems : ∀ i ∈ db.billingItems, ∃ j ∈ p.billingItems,
      j.tripId = i.tripId ∧ j.billingDocumentId = i.billingDocumentId) : ReleasesTrips db p := by
  intro i hi tripId hik _ hc
  obtain ⟨j, hj, hjk, hjd⟩ := hitems i hi
  rw [← hjd, hI.not_cancelled hj (hjk.trans hik)] at hc
  cases hc

/-! ## Steps of the documents alone -/

theorem holdsTrip_of_mem {i : BillingItem} (hi : i ∈ db.billingItems) {tripId : UUID}
    (hik : i.tripId = some tripId) : db.holdsTrip i.billingDocumentId = true := by
  simp only [Db.holdsTrip, List.any_eq_true, Bool.and_eq_true, decide_eq_true_eq]
  exact ⟨i, hi, rfl, by rw [hik]; rfl⟩

/-- A step of the documents keeps the agreement when every document that holds a trip stays on
its side. -/
theorem Agree.docsOnly {Q : BillingDocument → Prop} (hI : Agree db) (h : DocsOnly Q db p)
    (hQ : ∀ {id d}, db.billingDocuments.get id = some d → db.holdsTrip id →
      d.documentSource = .transport → Q d) : Agree p := by
  constructor
  case held =>
    intro i hi tripId hik
    rw [h.items] at hi
    obtain ⟨trip, d, htrip, hd, hti, hdi, hsource, hside⟩ := hI.held i hi tripId hik
    obtain ⟨d', hd', hdt, _⟩ := h.documents hd
    have hs := h.side hd hd' (hQ hd (holdsTrip_of_mem hi hik) hsource)
    exact ⟨trip, d', by rw [h.trips]; exact htrip, hd', hti, hdt.trans hdi, hs.1.trans hsource,
      hs.2.trans hside⟩
  case flagged =>
    intro tripId trip htrip hb
    rw [h.trips] at htrip
    rw [h.items]
    exact hI.flagged htrip hb
  case once =>
    rw [h.items]
    exact hI.once

theorem Agree.docsOnly_all (hI : Agree db) (h : DocsOnly (fun _ => True) db p) : Agree p :=
  hI.docsOnly h fun _ _ _ => trivial

/-! ## Making a document -/

theorem Agree.drafted {payload : BillingDocumentCreate} {contract : Contract} (hI : Agree db) :
    Agree (drafted tenantId payload contract db) := by
  have hinsert : DocsOnly (fun _ => True) db (addDraft tenantId payload contract db) :=
    docsOnly_insert
  refine hI.docsOnly_all (hinsert.trans (.of_modify ?_ ?_))
  · intro d _
    obtain ⟨_, hstatus, hten, htotal, _⟩ := snapshotProfile_keeps (documentProfile tenantId db) d
    exact ⟨hten, fun hne => ⟨by rw [hstatus]; exact hne, htotal⟩⟩
  · intro d _ _
    obtain ⟨_, hstatus, _, _, hsource⟩ := snapshotProfile_keeps (documentProfile tenantId db) d
    exact ⟨hsource, congrArg DocStatus.tripStatus hstatus⟩

/-- The document is a transport draft of the tenant, as the loop over its trips finds it. -/
def Db.isDraftOf (db : Db) (tenantId documentId : UUID) : Prop :=
  ∃ d, db.billingDocuments.get documentId = some d ∧ d.tenantId = tenantId ∧
    d.documentSource = .transport ∧ d.status = .draft

theorem isDraftOf_drafted (payload : BillingDocumentCreate) (contract : Contract) :
    (drafted tenantId payload contract db).isDraftOf tenantId db.billingDocuments.freshKey := by
  obtain ⟨_, hstatus, hten, _, hsource⟩ := snapshotProfile_keeps (documentProfile tenantId db)
    (draftDocument tenantId payload contract (db.tenants.get tenantId)
      db.billingDocuments.freshKey)
  refine ⟨_, ?_, hten, hsource, hstatus⟩
  simp [Rotas.drafted, Db.modifyDocument, Table.get_modify, addDraft, Table.get_insert]

/-- A billable trip is in no item: the status of a trip in an item is another one. -/
theorem Agree.not_mem_item (hI : Agree db) {tripId : UUID} {trip : Trip}
    (htrip : db.trips.get tripId = some trip) (hb : trip.billingStatus = .billable)
    {i : BillingItem} (hi : i ∈ db.billingItems) : i.tripId ≠ some tripId := by
  intro hik
  obtain ⟨trip', d, htrip', _, _, _, _, hside⟩ := hI.held i hi tripId hik
  rw [htrip] at htrip'
  cases htrip'
  rw [hb] at hside
  cases hd : d.status <;> rw [hd] at hside <;> cases hside

/-- The item of a billable trip joins the draft, and so does the trip. -/
theorem Agree.addItem {now : Instant} {payload : BillingDocumentCreate} {contract : Contract}
    {held : Option UUID} {tripId : UUID} {b : BillableTrip} (hI : Agree db)
    (hdraft : db.isDraftOf tenantId documentId)
    (hb : Accepted now tenantId payload contract held tripId db b) :
    Agree (addItem tenantId contract documentId b db) := by
  have hkey := hb.trip_id
  have hfree : ∀ i ∈ db.billingItems, i.tripId ≠ some tripId := fun i hi =>
    hI.not_mem_item hb.trip hb.billable hi
  have hmem : ∀ i ∈ (Rotas.addItem tenantId contract documentId b db).billingItems,
      i ∈ db.billingItems ∨
        i.tripId = some tripId ∧ i.billingDocumentId = documentId ∧ i.tenantId = tenantId := by
    intro i hi
    rcases mem_addItem.mp hi with hi | rfl
    · exact .inl hi
    · exact .inr ⟨by rw [← hkey]; rfl, rfl, rfl⟩
  constructor
  case held =>
    intro i hi k hik
    rw [addItem_get_trip, hkey]
    rcases hmem i hi with hi | ⟨hik', hid, hten⟩
    · have hne : k ≠ tripId := by
        rintro rfl
        exact hfree i hi hik
      rw [if_neg hne]
      exact hI.held i hi k hik
    · rw [hik'] at hik
      cases hik
      obtain ⟨d, hd, hdt, hsource, hstatus⟩ := hdraft
      rw [if_pos rfl, hb.trip, Option.map_some, hid, hten]
      exact ⟨_, d, rfl, hd, hb.tenant, hdt, hsource, by rw [hstatus]; rfl⟩
  case flagged =>
    intro k trip htrip hflag
    rw [addItem_get_trip, hkey] at htrip
    split at htrip
    · next h =>
      exact ⟨_, mem_addItem.mpr (.inr rfl), by rw [h, ← hkey]; rfl⟩
    · obtain ⟨i, hi, hik⟩ := hI.flagged htrip hflag
      exact ⟨i, mem_addItem.mpr (.inl hi), hik⟩
  case once =>
    intro i hi j hj hsome hij
    rcases hmem i hi with hi | ⟨hik, hid, _⟩ <;> rcases hmem j hj with hj | ⟨hjk, hjd, _⟩
    · exact hI.once i hi j hj hsome hij
    · exact absurd (hij.trans hjk) (hfree i hi)
    · exact absurd (hij.symm.trans hik) (hfree j hj)
    · rw [hid, hjd]

theorem Agree.createDocument {now : Instant} {payload : BillingDocumentCreate}
    {a : UUID × List BillingItem} (hI : Agree db)
    (h : createDocument now tenantId payload db = (.ok a, p)) : Agree p := by
  have hall : Agree p ∧ p.isDraftOf tenantId db.billingDocuments.freshKey := by
    refine createDocument_ind (P := fun p => Agree p ∧
      p.isDraftOf tenantId db.billingDocuments.freshKey) h ?_ ?_ ?_
    · intro contract _
      exact ⟨hI.drafted, isDraftOf_drafted payload contract⟩
    · intro contract held tripId db' b hP hb
      exact ⟨hP.1.addItem hP.2 hb, hP.2⟩
    · intro items db' hP
      obtain ⟨hI', d, hd, hten, hsource, hstatus⟩ := hP
      have htotal : DocsOnly (fun _ => True) db'
          (withTotal db.billingDocuments.freshKey items db') := by
        refine .of_modify (fun d' hd' => ⟨rfl, fun hne => ?_⟩) fun d' _ _ => .refl _
        rw [hd] at hd'
        cases hd'
        exact absurd hstatus hne
      have hget : (withTotal db.billingDocuments.freshKey items db').billingDocuments.get
          db.billingDocuments.freshKey = some { d with
            subtotal := (items.map BillingItem.amount).sum
            totalAmount := (items.map BillingItem.amount).sum } := modifyDocument_get_self hd
      exact ⟨hI'.docsOnly_all htotal, _, hget, hten, hsource, hstatus⟩
  exact hall.1

/-- The items that are there before a document is made are there after it. -/
theorem createDocument_keeps_items {now : Instant} {payload : BillingDocumentCreate}
    {a : UUID × List BillingItem} (h : createDocument now tenantId payload db = (.ok a, p)) :
    ∀ i ∈ db.billingItems, i ∈ p.billingItems :=
  createDocument_ind (P := fun p => ∀ i ∈ db.billingItems, i ∈ p.billingItems) h
    (fun _ _ _ hi => hi) (fun _ _ _ _ _ hP _ i hi => mem_addItem.mpr (.inl (hP i hi)))
    fun _ _ hP => hP

/-! ## Issuing a document -/

theorem hasTripIn_iff {items : List BillingItem} {trip : Trip} :
    hasTripIn items trip = true ↔ ∃ i ∈ items, i.tripId = some trip.id := by
  simp [hasTripIn]

theorem mem_itemsOf {i : BillingItem} : i ∈ itemsOf tenantId documentId db ↔
    i ∈ db.billingItems ∧ i.tenantId = tenantId ∧ i.billingDocumentId = documentId := by
  simp [itemsOf, Table.mem_def]

theorem Agree.finishIssue {document : BillingDocument} {number : String} {issuedAt : Instant}
    {terms : Int} (hI : Agree db) (hdoc : db.billingDocuments.get documentId = some document)
    (hten : document.tenantId = tenantId) :
    Agree (finishIssue tenantId documentId number issuedAt terms
      (itemsOf tenantId documentId db) db) := by
  constructor
  case held =>
    intro i hi k hik
    obtain ⟨j, hj, hij⟩ := mem_finishIssue hi
    have hsame : i.tripId = j.tripId ∧ i.billingDocumentId = j.billingDocumentId ∧
        i.tenantId = j.tenantId := by
      rcases hij with rfl | rfl <;> exact ⟨rfl, rfl, rfl⟩
    rw [hsame.1] at hik
    obtain ⟨trip, d, htrip, hd, hti, hdi, hsource, hside⟩ := hI.held j hj k hik
    have hk : trip.id = k := Table.key_of_get htrip
    rw [finishIssue_get_trip, htrip, Option.map_some, finishIssue_get_document, hsame.2.1, hsame.2.2]
    by_cases hjd : j.billingDocumentId = documentId
    · -- the item is in the issued document, and of its tenant
      rw [hjd, hdoc] at hd
      cases hd
      have hin : trip.tenantId = tenantId ∧ hasTripIn (itemsOf tenantId documentId db) trip := by
        refine ⟨hti.trans (hdi.symm.trans hten), hasTripIn_iff.mpr ⟨j, ?_, by rw [hk, hik]⟩⟩
        exact mem_itemsOf.mpr ⟨hj, hdi.symm.trans hten, hjd⟩
      rw [if_pos hin, if_pos hjd, hdoc]
      exact ⟨_, _, rfl, rfl, hti, hdi, hsource, rfl⟩
    · have hout : ¬ (trip.tenantId = tenantId ∧
          hasTripIn (itemsOf tenantId documentId db) trip) := by
        rintro ⟨_, hin⟩
        obtain ⟨i', hi', hik'⟩ := hasTripIn_iff.mp hin
        obtain ⟨hmem, _, hid⟩ := mem_itemsOf.mp hi'
        rw [hk] at hik'
        exact hjd ((hI.once j hj i' hmem (by rw [hik]; rfl) (hik.trans hik'.symm)).trans hid)
      rw [if_neg hout, if_neg hjd]
      exact ⟨trip, d, rfl, hd, hti, hdi, hsource, hside⟩
  case flagged =>
    intro k trip htrip hb
    rw [finishIssue_get_trip] at htrip
    obtain ⟨old, hold, rfl⟩ := Option.map_eq_some_iff.mp htrip
    have hk : old.id = k := Table.key_of_get hold
    have hj : ∃ j ∈ db.billingItems, j.tripId = some k := by
      split at hb
      · next h =>
        obtain ⟨j, hj, hjk⟩ := hasTripIn_iff.mp h.2
        exact ⟨j, (mem_itemsOf.mp hj).1, by rw [hjk, hk]⟩
      · exact hI.flagged hold hb
    obtain ⟨j, hj, hjk⟩ := hj
    obtain ⟨i, hi, hik, _⟩ := exists_mem_finishIssue hj
    exact ⟨i, hi, hik.trans hjk⟩
  case once =>
    intro i hi j hj hsome hij
    obtain ⟨i', hi', hi''⟩ := mem_finishIssue hi
    obtain ⟨j', hj', hj''⟩ := mem_finishIssue hj
    have key := hI.once i' hi' j' hj'
    rcases hi'' with rfl | rfl <;> rcases hj'' with rfl | rfl <;> exact key hsome hij

theorem Agree.issueDocument {selectBound : Bool} {now : Instant} {issuedAt : Option Instant}
    {a : UUID} (hI : Agree db)
    (h : issueDocument selectBound now tenantId documentId issuedAt db = .ok (a, p)) :
    AgreeStep db p := by
  rcases issueDocument_cases h with
    rfl | ⟨document, number, counters, terms, hdoc, hten, _, _, _, _, rfl⟩
  · exact ⟨hI, hI.releases fun i hi => ⟨i, hi, rfl, rfl⟩⟩
  · have hI' : Agree { db with fiscalCounters := counters } := ⟨hI.held, hI.flagged, hI.once⟩
    have hissue : Agree (Rotas.finishIssue tenantId documentId number (issuedAt.getD now) terms
        (itemsOf tenantId documentId db) { db with fiscalCounters := counters }) :=
      hI'.finishIssue hdoc hten
    exact ⟨hissue, hissue.releases fun i hi => exists_mem_finishIssue hi⟩

end Agree

/-! ## Runs -/

inductive DocumentCall where
  | createDocument (now : Instant) (tenantId : UUID) (payload : BillingDocumentCreate)
  | other (call : LedgerCall)

/-- The database after one call, served by a session of its own. -/
def DocumentCall.step (selectBound : Bool) (db : Db) : DocumentCall → Db
  | .createDocument now tenantId payload =>
    (serve (atomic (Rotas.createDocument now tenantId payload)) db).2
  | .other call => call.serve selectBound db

/-- No transition that is let through takes a document that holds a trip to issued or cancelled. -/
def DocumentCall.KeepsTrips (db : Db) : DocumentCall → Prop
  | .other (.transition now tenantId documentId t) =>
    (transitionById now tenantId documentId t db).isOk → db.holdsTrip documentId →
      t.newStatus ≠ .issued ∧ t.newStatus ≠ .cancelled
  | _ => True

instance (db : Db) (c : DocumentCall) : Decidable (c.KeepsTrips db) := by
  unfold DocumentCall.KeepsTrips
  split <;> infer_instance

section Run

variable {selectBound : Bool} {db p : Db}

theorem AgreeStep.refl (hI : Agree db) : AgreeStep db db :=
  ⟨hI, hI.releases fun i hi => ⟨i, hi, rfl, rfl⟩⟩

theorem AgreeStep.docsOnly {Q : BillingDocument → Prop} (hI : Agree db) (h : DocsOnly Q db p)
    (hQ : ∀ {id d}, db.billingDocuments.get id = some d → db.holdsTrip id →
      d.documentSource = .transport → Q d) : AgreeStep db p :=
  have hp := hI.docsOnly h hQ
  ⟨hp, hp.releases fun i hi => ⟨i, by rw [h.items]; exact hi, rfl, rfl⟩⟩

theorem AgreeStep.paymentStep (hI : Agree db) (h : PaymentStep db p) : AgreeStep db p := by
  obtain ⟨pays, allocs, h⟩ := h
  have hI' : Agree { db with clientPayments := pays, paymentAllocations := allocs } :=
    ⟨hI.held, hI.flagged, hI.once⟩
  have hp := hI'.docsOnly_all h
  exact ⟨hp, hp.releases fun i hi => ⟨i, by rw [h.items]; exact hi, rfl, rfl⟩⟩

theorem AgreeStep.ledgerCall {c : LedgerCall} (hI : Agree db)
    (hc : DocumentCall.KeepsTrips db (.other c)) : AgreeStep db (c.serve selectBound db) := by
  have hsame : AgreeStep db db := .refl hI
  have hall : ∀ {p}, DocsOnly (fun _ => True) db p → AgreeStep db p :=
    fun h => .docsOnly hI h fun _ _ _ => trivial
  cases c with
  | registerPayment =>
    exact perform_ind hsame fun _ _ h => .paymentStep hI (paymentStep_registerPayment h)
  | applyAdvance =>
    exact perform_ind hsame fun _ _ h => .paymentStep hI (paymentStep_applyAdvance h)
  | voidPayment =>
    exact perform_ind hsame fun _ _ h => .paymentStep hI (paymentStep_voidPayment h)
  | transition now tenantId documentId t =>
    refine perform_ind hsame fun _ p h => .docsOnly hI (docsOnly_transitionById h) ?_
    intro id d hd hholds _ hid
    have hid' : id = documentId := (Table.key_of_get hd).symm.trans hid
    exact hc (by rw [h]; rfl) (hid' ▸ hholds)
  | markOverdue =>
    exact perform_ind hsame fun _ _ h => by cases h; exact hall (docsOnly_markOverdue _)
  | issueDocument => exact perform_ind hsame fun _ _ h => hI.issueDocument h
  | confirmWorkshopInvoice =>
    refine perform_ind hsame fun _ _ h => .docsOnly hI (docsOnly_confirmWorkshopInvoice h) ?_
    intro id d _ _ hsource
    simp [hsource]
  | createInvoiceReceipt =>
    exact perform_ind hsame fun _ _ h => hall (docsOnly_createInvoiceReceipt h)
  | createDebitNote => exact perform_ind hsame fun _ _ h => hall (docsOnly_createNote h)
  | createCreditNote => exact perform_ind hsame fun _ _ h => hall (docsOnly_createNote h)
  | createReceipt => exact perform_ind hsame fun _ _ h => hall (docsOnly_createReceipt h)

theorem AgreeStep.step {c : DocumentCall} (hI : Agree db) (hc : c.KeepsTrips db) :
    AgreeStep db (c.step selectBound db) := by
  cases c with
  | createDocument =>
    refine serve_atomic_ind (P := AgreeStep db) (.refl hI) fun _ p h _ => ?_
    have hp := hI.createDocument h
    exact ⟨hp, hp.releases fun i hi => ⟨i, createDocument_keeps_items h i hi, rfl, rfl⟩⟩
  | other call => exact .ledgerCall hI hc

/-- No item is of a trip, and no trip has the status of one that is. -/
def Db.NoTripBilled (db : Db) : Prop :=
  (∀ i ∈ db.billingItems, i.tripId = none) ∧
    ∀ trip ∈ db.trips, trip.billingStatus ≠ .billingDraft ∧ trip.billingStatus ≠ .billed

instance (db : Db) : Decidable db.NoTripBilled := inferInstanceAs (Decidable (_ ∧ _))

theorem Agree.of_noTripBilled (h : db.NoTripBilled) : Agree db where
  held i hi k hik := by
    rw [h.1 i hi] at hik
    cases hik
  flagged htrip hb := by
    obtain ⟨hdraft, hbilled⟩ := h.2 _ (Table.mem_of_get htrip)
    exact (hb.elim hdraft hbilled).elim
  once i hi _ _ hsome := by
    rw [h.1 i hi] at hsome
    cases hsome

/-- From a state in which no trip is billed, trips and documents agree in every state of a run
whose calls keep the trips, and every one of its calls releases the trips it must. -/
theorem status_agreement {calls : List DocumentCall} (hstart : db.NoTripBilled)
    (hcalls : Run.Along (DocumentCall.step selectBound) (fun db c => c.KeepsTrips db) db calls) :
    StatusAgreement (Run.exec (DocumentCall.step selectBound) db calls) ∧
      Run.Along (DocumentCall.step selectBound)
        (fun db c => StatusAgreement db ∧ ReleasesTrips db (c.step selectBound db)) db calls := by
  have hstep : ∀ db (c : DocumentCall), Agree db → c.KeepsTrips db →
      AgreeStep db (c.step selectBound db) := fun _ _ hI hc => .step hI hc
  have hstart' : Agree db := .of_noTripBilled hstart
  constructor
  · have hrun : Agree (Run.exec (DocumentCall.step selectBound) db calls) :=
      Run.exec_inv (fun db c hI hc => (hstep db c hI hc).agree) hstart' hcalls
    exact hrun.statusAgreement
  · exact Run.along_inv (fun db c hI hc => (hstep db c hI hc).agree)
      (fun db c hI hc => ⟨hI.statusAgreement, (hstep db c hI hc).releases⟩) hstart' hcalls

end Run

/-! ## A cancelled draft -/

/-- A contract, and a trip under it that is ready for billing with its proof. -/
def billableTripDb : Db where
  contracts := .single
    { id := 1, tenantId := 1, clientName := "Cliente", contractReference := "CT-1"
      defaultUnitPrice := some 10000 }
  trips := .single
    { id := 1, tenantId := 1, contractId := some 1, vehicleId := 1, origin := "Maputo"
      destination := "Beira", status := .closed, billingStatus := .billable }
  deliveryProofs := .single
    { id := 1, tenantId := 1, tripId := 1, deliveredAt := 100, status := .validated }

def draftTheTrip : DocumentCall :=
  .createDocument 300 1
    { contractId := some 1, billingPeriodStart := 0, billingPeriodEnd := 1000, tripIds := [1]
      periods := zero_lt_thousand }

def cancelTheDraft : DocumentCall :=
  .other (.transition 400 1 1 { newStatus := .cancelled, cancellationReason := some "engano" })

theorem status_agreement_drafted :
    StatusAgreement (Run.exec (DocumentCall.step false) billableTripDb [draftTheTrip]) ∧
      Run.Along (DocumentCall.step false)
        (fun db c => StatusAgreement db ∧ ReleasesTrips db (c.step false db)) billableTripDb
        [draftTheTrip] :=
  status_agreement (by decide +kernel) (by decide +kernel)

/-- Cancelling the draft of a trip leaves the trip in draft, with no draft that holds it. -/
theorem cancel_keeps_trip :
    billableTripDb.NoTripBilled ∧
      ¬ StatusAgreement
        (Run.exec (DocumentCall.step false) billableTripDb [draftTheTrip, cancelTheDraft]) := by
  decide +kernel

end Rotas
