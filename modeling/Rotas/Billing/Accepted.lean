import Rotas.Billing.Create

/-!
# Rotas.Billing.Accepted

The database's verdict on the rows of `create_document`, and a document over one trip.

* `addDraft_valid_iff`, `addItem_valid_iff` — a draft is refused for its currency code only, an
  item for what it is made of.
* `createDocument_one` — the document over one accepted trip.
-/

namespace Rotas

open Decimal Work

section Valid

variable {tenantId documentId : UUID} {payload : BillingDocumentCreate} {contract : Contract}
  {b : BillableTrip} {db : Db} {items : List BillingItem}

theorem draftDocument_ok {tenant : Option Tenant} {id : UUID} :
    (draftDocument tenantId payload contract tenant id).ok = true ↔
      payload.currency.length ≤ 3 := by
  simp only [BillingDocument.ok, draftDocument, ivaRateOk, Option.all_none, Bool.and_true,
    Bool.and_eq_true]
  exact ⟨fun h => of_decide_eq_true h.2, fun h => ⟨⟨⟨rfl, rfl⟩, rfl⟩, decide_eq_true h⟩⟩

/-- A change of the documents alone is as valid as the documents. -/
theorem valid_documents_iff {billingDocuments : Table BillingDocument} (h : db.Valid) :
    Db.Valid { db with billingDocuments } ↔ ∀ d ∈ billingDocuments, d.ok = true :=
  ⟨fun h' => h'.billingDocuments, fun hd => { h with billingDocuments := hd }⟩

theorem addDraft_valid_iff (h : db.Valid) :
    (addDraft tenantId payload contract db).Valid ↔ payload.currency.length ≤ 3 := by
  rw [addDraft, valid_documents_iff h, Table.forall_mem_insert, draftDocument_ok]
  exact ⟨fun h' => h'.2, fun hc => ⟨h.billingDocuments, hc⟩⟩

theorem snapshotProfile_ok (profile : Option TenantDocumentProfile) (d : BillingDocument) :
    (snapshotProfile profile d).ok = d.ok := by
  cases profile <;> rfl

theorem drafted_valid_iff (h : db.Valid) :
    (drafted tenantId payload contract db).Valid ↔ payload.currency.length ≤ 3 := by
  have hsnap : (∀ d ∈ (drafted tenantId payload contract db).billingDocuments, d.ok = true) ↔
      ∀ d ∈ (addDraft tenantId payload contract db).billingDocuments, d.ok = true := by
    rw [drafted, Db.modifyDocument, Table.forall_mem_modify]
    intro d _ _
    rw [snapshotProfile_ok]
  have hadd : (∀ d ∈ (addDraft tenantId payload contract db).billingDocuments, d.ok = true) ↔
      payload.currency.length ≤ 3 := (valid_documents_iff h).symm.trans (addDraft_valid_iff h)
  exact (valid_documents_iff h).trans (hsnap.trans hadd)

/-- No check of the database reads what an item changes in its trip. -/
theorem addItem_trips_ok :
    (∀ t ∈ (addItem tenantId contract documentId b db).trips, t.ok = true) ↔
      ∀ t ∈ db.trips, t.ok = true := by
  rw [addItem, Table.forall_mem_modify]
  intro t _ _
  rfl

theorem addItem_valid_iff (h : db.Valid) :
    (addItem tenantId contract documentId b db).Valid ↔
      (newItem tenantId contract documentId b db db.billingItems.freshKey).ok = true := by
  have hitems : (∀ i ∈ (addItem tenantId contract documentId b db).billingItems, i.ok = true) ↔
      (∀ i ∈ db.billingItems, i.ok = true) ∧
        (newItem tenantId contract documentId b db db.billingItems.freshKey).ok = true := by
    rw [addItem, Table.forall_mem_insert]
  constructor
  · intro h'
    exact (hitems.mp h'.billingItems).2
  · intro hi
    exact { h with
      billingItems := hitems.mpr ⟨h.billingItems, hi⟩
      trips := addItem_trips_ok.mpr h.trips }

theorem withTotal_valid (h : db.Valid) (hfits : fitsMoney (items.map BillingItem.amount).sum) :
    (withTotal documentId items db).Valid := by
  refine (valid_documents_iff h).mpr ?_
  intro d hd
  rcases Table.mem_modify_cases hd with ⟨d₀, hd₀, _, rfl⟩ | ⟨hd, _⟩
  · have hok := h.billingDocuments d₀ hd₀
    simp only [BillingDocument.ok, Bool.and_eq_true] at hok ⊢
    exact ⟨⟨⟨⟨⟨hfits, hok.1.1.1.1.2⟩, hfits⟩, hok.1.1.2⟩, hok.1.2⟩, hok.2⟩
  · exact h.billingDocuments d hd

end Valid

/-! ## A document over one trip -/

section One

variable {now : Instant} {tenantId documentId tripId : UUID} {payload : BillingDocumentCreate}
  {db p : Db} {items : List BillingItem}

theorem createDocument_one (hids : payload.tripIds = [tripId]) :
    createDocument now tenantId payload db = (.ok (documentId, items), p) ↔
      documentId = db.billingDocuments.freshKey ∧
      ∃ contract b, requirePayloadContract tenantId payload db = .ok contract ∧
        (addDraft tenantId payload contract db).ok = true ∧
        Accepted now tenantId payload contract none tripId (drafted tenantId payload contract db) b ∧
        items = [newItem tenantId contract documentId b (drafted tenantId payload contract db)
          db.billingItems.freshKey] ∧
        p = withTotal documentId items
          (addItem tenantId contract documentId b (drafted tenantId payload contract db)) := by
  rw [createDocument_eq_ok, hids]
  refine and_congr_right fun _ => exists_congr fun contract => ?_
  constructor
  · rintro ⟨p', hcon, hok, hloop, rfl⟩
    simp only [billTrips] at hloop
    cases hc : checkTrip now tenantId payload contract none tripId
      (drafted tenantId payload contract db) with
    | error e => rw [hc] at hloop; cases hloop
    | ok b =>
      simp only [hc, Prod.mk.injEq, Except.ok.injEq] at hloop
      obtain ⟨rfl, rfl⟩ := hloop
      exact ⟨b, hcon, hok, checkTrip_eq_ok.mp hc, rfl, rfl⟩
  · rintro ⟨b, hcon, hok, hb, rfl, rfl⟩
    refine ⟨_, hcon, hok, ?_, rfl⟩
    simp only [billTrips, checkTrip_eq_ok.mpr hb]
    rfl

end One

end Rotas
