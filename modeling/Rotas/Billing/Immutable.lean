import Rotas.Billing.Ledger
import Rotas.Billing.StatusAgreement
import Rotas.Workshop.Invoice

/-!
# Rotas.Billing.Immutable

What the calls of both billing paths leave of a document.

* `InvoiceCall`  — the calls on documents, from the trips and from the workshop.
* `RowStep`, `RowsStep` — a document rewritten; all documents, with the items left alone.
* `BillingStep`  — what every call does: a document that left its draft keeps its number, its
  amounts, its client and its items, and a new one is a draft or a child.
* `fiscal_content_fixed` — so it does over every run.
* `never_cancelled`      — and it is never cancelled, if no overdue document is.
-/

namespace Rotas

open Work Decimal

/-! ## Rows -/

/-- A document and what a call makes of it; `X` says where the call may cancel it. -/
structure RowStep (X : BillingDocument → Prop) (d d' : BillingDocument) : Prop where
  tenant : d'.tenantId = d.tenantId
  kind : d'.documentType = d.documentType
  source : d'.documentSource = d.documentSource
  owner : d'.clientId = d.clientId
  client : d'.clientNuit = d.clientNuit
  subtotal : d'.subtotal = d.subtotal
  tax : d'.taxAmount = d.taxAmount
  total : d'.totalAmount = d.totalAmount
  left : d.status ≠ .draft → d'.status ≠ .draft ∧ d'.invoiceNumber = d.invoiceNumber
  numbered : d.documentType = .invoice → d.documentSource = .transport →
    d'.invoiceNumber.isSome → d.invoiceNumber.isSome
  cancelled : d.status ≠ .draft → d'.status = .cancelled → d.status = .cancelled ∨ X d

/-- A step of the rows of documents; the documents it adds are children of others. -/
structure RowsStep (X : BillingDocument → Prop) (db p : Db) : Prop where
  items : p.billingItems = db.billingItems
  kept : ∀ {id d}, db.billingDocuments.get id = some d →
    ∃ d', p.billingDocuments.get id = some d' ∧ RowStep X d d'
  added : ∀ {id d}, db.billingDocuments.get id = none → p.billingDocuments.get id = some d →
    d.documentType ≠ .invoice ∧ d.documentSource = .transport

/-- No document is cancelled. -/
def Nowhere (_ : BillingDocument) : Prop := False

section Rows

variable {X : BillingDocument → Prop} {db p q : Db} {d d' d'' : BillingDocument}
  {tenantId documentId : UUID}

theorem RowStep.refl (d : BillingDocument) : RowStep X d d :=
  ⟨rfl, rfl, rfl, rfl, rfl, rfl, rfl, rfl, fun h => ⟨h, rfl⟩, fun _ _ h => h, fun _ h => .inl h⟩

theorem RowStep.trans (h : RowStep Nowhere d d') (h' : RowStep Nowhere d' d'') :
    RowStep Nowhere d d'' where
  tenant := h'.tenant.trans h.tenant
  kind := h'.kind.trans h.kind
  source := h'.source.trans h.source
  owner := h'.owner.trans h.owner
  client := h'.client.trans h.client
  subtotal := h'.subtotal.trans h.subtotal
  tax := h'.tax.trans h.tax
  total := h'.total.trans h.total
  left hd := by
    obtain ⟨hd', hn⟩ := h.left hd
    obtain ⟨hd'', hn'⟩ := h'.left hd'
    exact ⟨hd'', hn'.trans hn⟩
  numbered hk hs hn := h.numbered hk hs (h'.numbered (h.kind.trans hk) (h.source.trans hs) hn)
  cancelled hd hc := by
    rcases h'.cancelled (h.left hd).1 hc with hc' | hc'
    · exact h.cancelled hd hc'
    · exact hc'.elim

theorem RowsStep.refl (db : Db) : RowsStep X db db where
  items := rfl
  kept hd := ⟨_, hd, .refl _⟩
  added hnone hd := by rw [hnone] at hd; cases hd

theorem RowsStep.trans (h : RowsStep Nowhere db p) (h' : RowsStep Nowhere p q) :
    RowsStep Nowhere db q where
  items := h'.items.trans h.items
  kept hd := by
    obtain ⟨d', hd', hstep⟩ := h.kept hd
    obtain ⟨d'', hd'', hstep'⟩ := h'.kept hd'
    exact ⟨d'', hd'', hstep.trans hstep'⟩
  added {id d} hnone hd := by
    cases hp : p.billingDocuments.get id with
    | none => exact h'.added hp hd
    | some e =>
      obtain ⟨hkind, hsource⟩ := h.added hnone hp
      obtain ⟨d', hd', hstep⟩ := h'.kept hp
      rw [hd] at hd'
      cases hd'
      exact ⟨by rw [hstep.kind]; exact hkind, by rw [hstep.source]; exact hsource⟩

theorem RowsStep.of_modify {f : BillingDocument → BillingDocument} {hf : ∀ d, (f d).id = d.id}
    (hstep : ∀ d, db.billingDocuments.get documentId = some d → RowStep X d (f d)) :
    RowsStep X db (db.modifyDocument documentId f hf) where
  items := rfl
  kept {id d} hd := by
    by_cases hid : id = documentId
    · subst hid
      refine ⟨f d, ?_, hstep d hd⟩
      simp only [Db.modifyDocument, Table.get_modify, if_pos, hd, Option.map_some]
    · refine ⟨d, ?_, .refl d⟩
      simp only [Db.modifyDocument, Table.get_modify, if_neg hid, hd]
  added {id d} hnone hd := by
    simp only [Db.modifyDocument, Table.get_modify] at hd
    split at hd
    · next hid => rw [← hid, hnone] at hd; cases hd
    · rw [hnone] at hd; cases hd

theorem RowsStep.of_modifyAll {c : BillingDocument → Bool} {f : BillingDocument → BillingDocument}
    {hf : ∀ d, (f d).id = d.id} (hstep : ∀ d, c d = true → RowStep X d (f d)) :
    RowsStep X db { db with billingDocuments := db.billingDocuments.modifyAll c f hf } where
  items := rfl
  kept {id d} hd := by
    refine ⟨if c d then f d else d, ?_, ?_⟩
    · simp only [Table.get_modifyAll, hd, Option.map_some]
    · split
      · next hc => exact hstep d hc
      · exact .refl d
  added {id d} hnone hd := by
    simp only [Table.get_modifyAll, hnone, Option.map_none] at hd
    cases hd

theorem rowsStep_assignInvoiceNumber (document : BillingDocument) :
    RowsStep X db (assignInvoiceNumber tenantId document db).2 := by
  rw [assignInvoiceNumber_snd]
  exact { RowsStep.refl db with items := rfl }

/-! ### The calls that leave the items alone -/

theorem rowStep_apply {now : Instant} {t : Transition} (ht : t.newStatus ∈
    billingValidTransitions d.status)
    (hX : t.newStatus = .cancelled → d.status = .overdue → X d) : RowStep X d (t.apply now d) := by
  refine ⟨rfl, rfl, rfl, rfl, rfl, rfl, rfl, rfl, fun _ => ⟨?_, rfl⟩, fun _ _ h => h, fun hd hc => ?_⟩
  · intro hdraft
    change t.newStatus = .draft at hdraft
    rw [hdraft] at ht
    cases hs : d.status <;> rw [hs] at ht <;> simp [billingValidTransitions] at ht
  · change t.newStatus = .cancelled at hc
    refine .inr (hX hc ?_)
    rw [hc] at ht
    cases hs : d.status <;> rw [hs] at ht hd <;> simp [billingValidTransitions] at ht hd ⊢

theorem rowsStep_settle {now paidAt : Instant} {existing : Int} {amount : ℚ}
    (h : settle now d existing amount paidAt db = .ok p) : RowsStep Nowhere db p := by
  rcases settle_cases h with ⟨_, rfl⟩ | ⟨_, rfl⟩
  · exact .refl _
  · refine .of_modify fun d' _ => ⟨rfl, rfl, rfl, rfl, rfl, rfl, rfl, rfl, fun _ => ⟨?_, rfl⟩,
      fun _ _ h => h, fun _ hc => ?_⟩
    · simp [Transition.apply]
    · simp [Transition.apply] at hc

theorem rowsStep_reopenIfUncovered (now : Instant) :
    RowsStep Nowhere db (reopenIfUncovered now tenantId db documentId) := by
  unfold reopenIfUncovered
  split
  · exact .refl _
  · split
    · refine .of_modify fun d' _ => ⟨rfl, rfl, rfl, rfl, rfl, rfl, rfl, rfl, fun _ => ⟨?_, rfl⟩,
        fun _ _ h => h, fun _ hc => ?_⟩
      · dsimp only; split <;> decide
      · dsimp only at hc; split at hc <;> cases hc
    · exact .refl _

theorem rowsStep_reopen_all (now : Instant) (tenantId : UUID) : ∀ (ids : List UUID) (db : Db),
    RowsStep Nowhere db (ids.foldl (reopenIfUncovered now tenantId) db) := by
  intro ids
  induction ids with
  | nil => intro db; exact .refl _
  | cons id ids ih => intro db; exact (rowsStep_reopenIfUncovered now).trans (ih _)

theorem rowsStep_registerPayment {now : Instant} {userId a : UUID} {payload : ClientPaymentCreate}
    (h : registerPayment now tenantId userId payload db = .ok (a, p)) : RowsStep Nowhere db p := by
  rcases registerPayment_cases h with rfl | ⟨d, _, _, hsettle⟩
  · have hrefl : RowsStep Nowhere (addPayment tenantId userId payload db) _ := .refl _
    exact ⟨rfl, hrefl.kept, hrefl.added⟩
  · have hstep := rowsStep_settle hsettle
    exact ⟨hstep.items, hstep.kept, hstep.added⟩

theorem rowsStep_applyAdvance {now : Instant} {paymentId a : UUID} {payload : ApplyAdvanceRequest}
    (h : applyAdvanceToInvoice now tenantId paymentId payload db = .ok (a, p)) :
    RowsStep Nowhere db p := by
  obtain ⟨pay, d, happlied⟩ := applyAdvance_cases h
  have hstep := rowsStep_settle happlied.settled
  exact ⟨hstep.items, hstep.kept, hstep.added⟩

theorem rowsStep_voidPayment {now : Instant} {paymentId userId a : UUID} {reason : String}
    (h : voidPayment now tenantId paymentId userId reason db = .ok (a, p)) :
    RowsStep Nowhere db p := by
  obtain ⟨pay, _, _, rfl⟩ := voidPayment_cases h
  have hstep : RowsStep Nowhere (withVoided now pay.id userId reason db) _ :=
    rowsStep_reopen_all now tenantId (affectedDocuments pay.id db) _
  exact ⟨hstep.items, hstep.kept, hstep.added⟩

/-- Where a transition may cancel. -/
def Transition.cancels (t : Transition) (documentId : UUID) (d : BillingDocument) : Prop :=
  d.id = documentId ∧ d.status = .overdue ∧ t.newStatus = .cancelled

theorem rowsStep_transitionById {now : Instant} {t : Transition} {a : UUID}
    (h : transitionById now tenantId documentId t db = .ok (a, p)) :
    RowsStep (t.cancels documentId) db p := by
  obtain ⟨d, hd, _, ht, rfl⟩ := transitionById_cases h
  refine .of_modify fun d' hd' => ?_
  rw [hd] at hd'
  cases hd'
  exact rowStep_apply ht fun hc ho => ⟨Table.key_of_get hd, ho, hc⟩

theorem rowsStep_markOverdue (now : Instant) :
    RowsStep Nowhere db (markOverdueBillingDocuments now db) :=
  .of_modifyAll fun _ _ => ⟨rfl, rfl, rfl, rfl, rfl, rfl, rfl, rfl, fun _ => ⟨by simp, rfl⟩,
    fun _ _ h => h, fun _ hc => by cases hc⟩

theorem rowsStep_cancelWorkshopDrafts (wo : WorkOrder) (reason : String) :
    RowsStep Nowhere db (cancelWorkshopDrafts tenantId wo reason db) := by
  refine .of_modifyAll fun d hc => ⟨rfl, rfl, rfl, rfl, rfl, rfl, rfl, rfl, fun hd => ?_,
    fun _ _ h => h, fun hd => ?_⟩ <;>
  · simp only [Bool.and_eq_true, decide_eq_true_eq] at hc
    exact absurd hc.1.2 hd

theorem snapshotProfile_client (profile : Option TenantDocumentProfile) (d : BillingDocument) :
    (snapshotProfile profile d).clientNuit = d.clientNuit ∧
      (snapshotProfile profile d).subtotal = d.subtotal ∧
      (snapshotProfile profile d).taxAmount = d.taxAmount ∧
      (snapshotProfile profile d).invoiceNumber = d.invoiceNumber := by
  cases profile <;> exact ⟨rfl, rfl, rfl, rfl⟩

theorem rowsStep_addChild {now : Instant} {parent : BillingDocument} {c : ChildDocument}
    (hkind : c.documentType ≠ .invoice) : RowsStep X db (addChild now tenantId parent c db).2 := by
  have hget : ∀ id, (addChild now tenantId parent c db).2.billingDocuments.get id =
      if id = db.billingDocuments.freshKey then
        some (numberedChild tenantId
          (assignInvoiceNumber tenantId (c.row now parent db.billingDocuments.freshKey)
            { db with billingDocuments := db.billingDocuments.insert (c.row now parent) }).1 db
          (c.row now parent db.billingDocuments.freshKey))
      else db.billingDocuments.get id := by
    intro id
    simp only [addChild, Db.modifyDocument, Table.get_modify]
    rw [assignInvoiceNumber_snd]
    simp only [Table.get_insert, if_pos, Option.map_some]
    split <;> rfl
  refine ⟨?_, fun {id d} hd => ?_, fun {id d} hnone hd => ?_⟩
  · simp only [addChild, Db.modifyDocument]
    rw [assignInvoiceNumber_snd]
  · have hne : id ≠ db.billingDocuments.freshKey := by
      rintro rfl
      rw [Table.get_freshKey] at hd
      cases hd
    exact ⟨d, by rw [hget, if_neg hne, hd], .refl d⟩
  · rw [hget, hnone] at hd
    split at hd
    · cases hd
      obtain ⟨hdoc, _, _, _, hsource⟩ := snapshotProfile_keeps (documentProfile tenantId db)
        (c.row now parent db.billingDocuments.freshKey)
      exact ⟨fun h => hkind (hdoc.symm.trans h), hsource⟩
    · cases hd

theorem rowsStep_createInvoiceReceipt {now : Instant} {a : UUID}
    (h : createInvoiceReceipt now tenantId documentId db = .ok (a, p)) :
    RowsStep Nowhere db p := by
  simp only [createInvoiceReceipt, bind_eq_ok, pure, Except.pure, Except.ok.injEq,
    Prod.mk.injEq] at h
  obtain ⟨parent, _, _, rfl⟩ := h
  refine (rowsStep_addChild (fun h => by cases h)).trans (.of_modify fun d _ => ?_)
  exact ⟨rfl, rfl, rfl, rfl, rfl, rfl, rfl, rfl, fun _ => ⟨by simp, rfl⟩, fun _ _ h => h,
    fun _ hc => by cases hc⟩

theorem rowsStep_createNote {documentType : DocType} {message : String} {now : Instant}
    {amount : ℚ} {ivaRate : Option ℚ} {a : UUID} (hkind : documentType ≠ .invoice)
    (h : createNote documentType message now tenantId documentId amount ivaRate db = .ok (a, p)) :
    RowsStep Nowhere db p := by
  simp only [createNote, bind_eq_ok, pure, Except.pure, Except.ok.injEq] at h
  obtain ⟨parent, _, h⟩ := h
  cases h
  exact rowsStep_addChild hkind

theorem rowsStep_createReceipt {now : Instant} {amount : ℚ} {a : UUID}
    (h : createReceipt now tenantId documentId amount db = .ok (a, p)) :
    RowsStep Nowhere db p := by
  simp only [createReceipt, bind_eq_ok, pure, Except.pure, Except.ok.injEq] at h
  obtain ⟨parent, _, h⟩ := h
  cases h
  exact rowsStep_addChild fun h => by cases h

theorem rowsStep_confirmWorkshopInvoice {now : Instant} {a : UUID}
    (h : confirmWorkshopInvoice now tenantId documentId db = .ok (a, p)) :
    RowsStep Nowhere db p := by
  rcases confirmWorkshopInvoice_cases h with rfl | ⟨document, hdoc, hsource, hdraft, rfl⟩
  · exact .refl _
  · refine (rowsStep_assignInvoiceNumber document).trans (.of_modify fun d hd => ?_)
    rw [assignInvoiceNumber_snd] at hd
    have hd' : db.billingDocuments.get documentId = some d := hd
    rw [hdoc] at hd'
    cases hd'
    refine ⟨rfl, rfl, rfl, rfl, rfl, rfl, rfl, rfl, fun hne => absurd hdraft hne, ?_,
      fun hne => absurd hdraft hne⟩
    intro _ htransport
    rw [hsource] at htransport
    cases htransport

end Rows

/-! ## Documents and their items -/

def Db.linesOf (db : Db) (documentId : UUID) : List BillingItem :=
  db.billingItems.rows.filter (·.billingDocumentId = documentId)

/-- Every item is of a document. -/
def Db.Filed (db : Db) : Prop :=
  ∀ i ∈ db.billingItems, (db.billingDocuments.get i.billingDocumentId).isSome

/-- The totals are the sums of the stored items. -/
structure Totalled (db : Db) (d : BillingDocument) : Prop where
  subtotal : d.subtotal = ((itemsOf d.tenantId d.id db).map BillingItem.amount).sum
  tax : d.taxAmount = ((itemsOf d.tenantId d.id db).map fun i => i.ivaAmount.getD 0).sum
  total : d.totalAmount = d.subtotal + d.taxAmount

/-- The tax is the tax of the subtotal, and each item bears its own. -/
structure TaxedOnSum (db : Db) (d : BillingDocument) : Prop where
  subtotal : d.subtotal = ((itemsOf d.tenantId d.id db).map BillingItem.amount).sum
  tax : d.taxAmount = vat d.subtotal
  total : d.totalAmount = d.subtotal + d.taxAmount
  items : (itemsOf d.tenantId d.id db).map BillingItem.ivaAmount =
    (itemsOf d.tenantId d.id db).map fun i => some (vat i.amount)

structure Unchanged (db p : Db) (d d' : BillingDocument) : Prop where
  subtotal : d'.subtotal = d.subtotal
  tax : d'.taxAmount = d.taxAmount
  total : d'.totalAmount = d.totalAmount
  lines : p.linesOf d.id = db.linesOf d.id

/-- A document, its items, and what a call makes of them. -/
structure CarriedOn (selectBound : Bool) (X : BillingDocument → Prop) (db p : Db)
    (d d' : BillingDocument) : Prop where
  tenant : d'.tenantId = d.tenantId
  kind : d'.documentType = d.documentType
  source : d'.documentSource = d.documentSource
  owner : d'.clientId = d.clientId
  client : d'.clientNuit = d.clientNuit
  left : d.status ≠ .draft → d'.status ≠ .draft ∧ d'.invoiceNumber = d.invoiceNumber ∧
    Unchanged db p d d'
  amounts : Unchanged db p d d' ∨ selectBound = true ∧ Totalled p d'
  numbered : d.documentType = .invoice → d.documentSource = .transport →
    d'.invoiceNumber.isSome → d.invoiceNumber.isSome ∨ Totalled p d'
  cancelled : d.status ≠ .draft → d'.status = .cancelled → d.status = .cancelled ∨ X d

/-- A document that was not there before the call. -/
inductive Added (p : Db) (d : BillingDocument) : Prop where
  | child (hkind : d.documentType ≠ .invoice) (hsource : d.documentSource = .transport)
  | draft (hnumber : d.invoiceNumber = none) (hsource : d.documentSource = .transport)
  | workshop (hsource : d.documentSource = .workshop) (htaxed : TaxedOnSum p d)

structure BillingStep (selectBound : Bool) (X : BillingDocument → Prop) (db p : Db) : Prop where
  kept : ∀ {id d}, db.billingDocuments.get id = some d →
    ∃ d', p.billingDocuments.get id = some d' ∧ CarriedOn selectBound X db p d d'
  added : db.Filed → ∀ {id d}, db.billingDocuments.get id = none →
    p.billingDocuments.get id = some d → Added p d
  filed : db.Filed → p.Filed

section Step

variable {selectBound : Bool} {X : BillingDocument → Prop} {db p : Db} {d d' : BillingDocument}
  {tenantId documentId : UUID}

theorem BillingStep.carried {id : UUID} (h : BillingStep selectBound X db p)
    (hd : db.billingDocuments.get id = some d) (hd' : p.billingDocuments.get id = some d') :
    CarriedOn selectBound X db p d d' := by
  obtain ⟨e, he, hstep⟩ := h.kept hd
  rw [hd'] at he
  cases he
  exact hstep

theorem linesOf_of_items (h : p.billingItems = db.billingItems) (id : UUID) :
    p.linesOf id = db.linesOf id := by
  rw [Db.linesOf, Db.linesOf, h]

theorem itemsOf_eq (tenantId documentId : UUID) (db : Db) :
    itemsOf tenantId documentId db = (db.linesOf documentId).filter (·.tenantId = tenantId) := by
  simp only [itemsOf, Db.linesOf, List.filter_filter]

theorem RowStep.carriedOn (h : RowStep X d d') (hlines : p.linesOf d.id = db.linesOf d.id) :
    CarriedOn selectBound X db p d d' :=
  have hsame : Unchanged db p d d' := ⟨h.subtotal, h.tax, h.total, hlines⟩
  { tenant := h.tenant, kind := h.kind, source := h.source, owner := h.owner, client := h.client
    left := fun hd => ⟨(h.left hd).1, (h.left hd).2, hsame⟩
    amounts := .inl hsame
    numbered := fun hk hs hn => .inl (h.numbered hk hs hn)
    cancelled := h.cancelled }

theorem RowsStep.billingStep (h : RowsStep X db p) : BillingStep selectBound X db p where
  kept hd := by
    obtain ⟨d', hd', hstep⟩ := h.kept hd
    exact ⟨d', hd', hstep.carriedOn (linesOf_of_items h.items _)⟩
  added _ {id d} hnone hd := by
    obtain ⟨hkind, hsource⟩ := h.added hnone hd
    exact .child hkind hsource
  filed hfiled i hi := by
    rw [h.items] at hi
    obtain ⟨d, hd⟩ := Option.isSome_iff_exists.mp (hfiled i hi)
    obtain ⟨d', hd', _⟩ := h.kept hd
    rw [hd']
    rfl

/-- Items are only added to the one new document. -/
structure NewDocument (db p : Db) (documentId : UUID) : Prop where
  isNew : db.billingDocuments.get documentId = none
  others : ∀ id, id ≠ documentId → p.billingDocuments.get id = db.billingDocuments.get id
  itself : (p.billingDocuments.get documentId).isSome
  lines : ∀ id, id ≠ documentId → p.linesOf id = db.linesOf id
  items : ∀ i ∈ p.billingItems, i ∈ db.billingItems ∨ i.billingDocumentId = documentId

theorem NewDocument.billingStep (h : NewDocument db p documentId)
    (hnew : db.Filed → ∀ d, p.billingDocuments.get documentId = some d → Added p d) :
    BillingStep selectBound X db p where
  kept {id d} hd := by
    have hne : id ≠ documentId := by
      rintro rfl
      rw [h.isNew] at hd
      cases hd
    have hid : d.id = id := Table.key_of_get hd
    exact ⟨d, by rw [h.others id hne, hd], (RowStep.refl d).carriedOn (h.lines _ (hid ▸ hne))⟩
  added hfiled {id d} hnone hd := by
    by_cases hid : id = documentId
    · rw [hid] at hd
      exact hnew hfiled d hd
    · rw [h.others id hid, hnone] at hd
      cases hd
  filed hfiled i hi := by
    by_cases hid : i.billingDocumentId = documentId
    · rw [hid]
      exact h.itself
    · rcases h.items i hi with hi | hi
      · rw [h.others _ hid]
        exact hfiled i hi
      · exact absurd hi hid

/-! ### A draft of trips -/

theorem newDocument_insert {mk : Nat → BillingDocument} {hk : ∀ k, Keyed.key (mk k) = k} :
    NewDocument db { db with billingDocuments := db.billingDocuments.insert mk hk }
      db.billingDocuments.freshKey where
  isNew := Table.get_freshKey _
  others id hid := by rw [Table.get_insert, if_neg hid]
  itself := by rw [Table.get_insert, if_pos rfl]; rfl
  lines _ _ := rfl
  items _ hi := .inl hi

theorem NewDocument.modify (h : NewDocument db p documentId)
    {f : BillingDocument → BillingDocument} {hf : ∀ d, (f d).id = d.id} :
    NewDocument db (p.modifyDocument documentId f hf) documentId where
  isNew := h.isNew
  others id hid := by
    rw [Db.modifyDocument, Table.get_modify_ne hid]
    exact h.others id hid
  itself := by
    rw [Db.modifyDocument, Table.get_modify, if_pos rfl, Option.isSome_map]
    exact h.itself
  lines := h.lines
  items := h.items

theorem NewDocument.insertItem {q : Db} (h : NewDocument db p documentId) {item : BillingItem}
    (hdoc : item.billingDocumentId = documentId) (hdocs : q.billingDocuments = p.billingDocuments)
    (hitems : q.billingItems.rows = p.billingItems.rows ++ [item]) :
    NewDocument db q documentId where
  isNew := h.isNew
  others id hid := by rw [hdocs]; exact h.others id hid
  itself := by rw [hdocs]; exact h.itself
  lines id hid := by
    have hother : ¬ item.billingDocumentId = id := fun hsame => hid (hsame.symm.trans hdoc)
    have hsame : q.linesOf id = p.linesOf id := by
      simp [Db.linesOf, hitems, hother]
    exact hsame.trans (h.lines id hid)
  items i hi := by
    rw [Table.mem_def, hitems, List.mem_append, List.mem_singleton] at hi
    rcases hi with hi | rfl
    · exact h.items i hi
    · exact .inr hdoc

theorem newDocument_createDocument {now : Instant} {payload : BillingDocumentCreate}
    {a : UUID × List BillingItem} (h : createDocument now tenantId payload db = (.ok a, p)) :
    NewDocument db p db.billingDocuments.freshKey ∧
      ∀ d, p.billingDocuments.get db.billingDocuments.freshKey = some d →
        d.invoiceNumber = none ∧ d.documentSource = .transport := by
  refine createDocument_ind (P := fun p => NewDocument db p db.billingDocuments.freshKey ∧
      ∀ d, p.billingDocuments.get db.billingDocuments.freshKey = some d →
        d.invoiceNumber = none ∧ d.documentSource = .transport) h ?_ ?_ ?_
  · intro contract _
    refine ⟨newDocument_insert.modify, fun d hd => ?_⟩
    simp only [drafted, addDraft, Db.modifyDocument, Table.get_modify, Table.get_insert, if_pos,
      Option.map_some, Option.some.injEq] at hd
    subst hd
    obtain ⟨_, _, _, hnumber⟩ := snapshotProfile_client (documentProfile tenantId db)
      (draftDocument tenantId payload contract (db.tenants.get tenantId)
        db.billingDocuments.freshKey)
    obtain ⟨_, _, _, _, hsource⟩ := snapshotProfile_keeps (documentProfile tenantId db)
      (draftDocument tenantId payload contract (db.tenants.get tenantId)
        db.billingDocuments.freshKey)
    exact ⟨hnumber, hsource⟩
  · intro contract held tripId db' b hP _
    exact ⟨hP.1.insertItem rfl rfl rfl, hP.2⟩
  · intro items db' hP
    refine ⟨hP.1.modify, fun d hd => ?_⟩
    simp only [withTotal, Db.modifyDocument, Table.get_modify, if_pos] at hd
    obtain ⟨d', hd', rfl⟩ := Option.map_eq_some_iff.mp hd
    exact hP.2 d' hd'

theorem billingStep_createDocument {now : Instant} {payload : BillingDocumentCreate}
    {a : UUID × List BillingItem} (h : createDocument now tenantId payload db = (.ok a, p)) :
    BillingStep selectBound X db p := by
  obtain ⟨hnew, hdraft⟩ := newDocument_createDocument h
  exact hnew.billingStep fun _ d hd => .draft (hdraft d hd).1 (hdraft d hd).2

/-! ### An invoice of the workshop -/

section Lines

variable {wo : WorkOrder} {lines : List InvoiceLine}

theorem newDocument_lines : ∀ {lines : List InvoiceLine} {p : Db}, NewDocument db p documentId →
    NewDocument db (lines.foldl (addLine tenantId documentId wo) p) documentId := by
  intro lines
  induction lines with
  | nil => intro p h; exact h
  | cons line lines ih => intro p h; exact ih (h.insertItem rfl rfl rfl)

theorem itemsOf_lines {α : Type} (f : BillingItem → α) (g : InvoiceLine → α)
    (hfg : ∀ line id, f (line.item tenantId documentId wo id) = g line) :
    ∀ (lines : List InvoiceLine) (p : Db),
      (itemsOf tenantId documentId (lines.foldl (addLine tenantId documentId wo) p)).map f =
        (itemsOf tenantId documentId p).map f ++ lines.map g := by
  intro lines
  induction lines with
  | nil => intro p; simp
  | cons line lines ih =>
    intro p
    have hone : itemsOf tenantId documentId (addLine tenantId documentId wo p line) =
        itemsOf tenantId documentId p ++
          [line.item tenantId documentId wo p.billingItems.freshKey] := by
      simp [itemsOf, addLine, Table.rows_insert, List.filter_append, InvoiceLine.item]
    rw [List.foldl_cons, ih, hone]
    simp [hfg]

end Lines

theorem itemsOf_of_filed (h : db.Filed) (hnone : db.billingDocuments.get documentId = none) :
    itemsOf tenantId documentId db = [] := by
  rw [itemsOf, List.filter_eq_nil_iff]
  intro i hi hmatch
  simp only [Bool.and_eq_true, decide_eq_true_eq] at hmatch
  have hsome := h i hi
  rw [hmatch.2, hnone] at hsome
  cases hsome

/-- The items of a new workshop invoice, by what is read of them. -/
theorem items_workshopDrafted {α : Type} {now : Instant} {wo : WorkOrder} {lines : List InvoiceLine}
    {w : Warehouse} (f : BillingItem → α) (g : InvoiceLine → α) (hfiled : db.Filed)
    (hfg : ∀ line id, f (line.item tenantId db.billingDocuments.freshKey wo id) = g line) :
    (itemsOf tenantId db.billingDocuments.freshKey (workshopDrafted now tenantId wo lines w db)).map f =
      lines.map g := by
  let db₁ := { db with
    billingDocuments := db.billingDocuments.insert (workshopDraft now tenantId wo lines w db) }
  have hnone : itemsOf tenantId db.billingDocuments.freshKey db = [] :=
    itemsOf_of_filed hfiled (Table.get_freshKey _)
  have hnone : itemsOf tenantId db.billingDocuments.freshKey db₁ = [] := hnone
  have hlines := itemsOf_lines f g hfg lines db₁
  rw [hnone] at hlines
  exact hlines

theorem workshopDrafted_taxed {now : Instant} {wo : WorkOrder} {lines : List InvoiceLine}
    {w : Warehouse} (hfiled : db.Filed)
    (hd : (workshopDrafted now tenantId wo lines w db).billingDocuments.get
      db.billingDocuments.freshKey = some d) :
    d.documentSource = .workshop ∧ TaxedOnSum (workshopDrafted now tenantId wo lines w db) d := by
  let draft := workshopDraft now tenantId wo lines w db db.billingDocuments.freshKey
  have hd' : d = snapshotProfile (documentProfile tenantId db) draft := by
    simp only [workshopDrafted, Db.modifyDocument, Table.get_modify, if_pos, documents_lines,
      Table.get_insert, Option.map_some, Option.some.injEq] at hd
    exact hd.symm
  obtain ⟨_, hsubtotal, htax, _⟩ := snapshotProfile_client (documentProfile tenantId db) draft
  obtain ⟨_, _, htenant, htotal, hsource⟩ := snapshotProfile_keeps (documentProfile tenantId db) draft
  have hid := snapshotProfile_id (documentProfile tenantId db) draft
  rw [← hd'] at hsubtotal htax htenant htotal hsource hid
  have hitems : ∀ {α : Type} (f : BillingItem → α) (g : InvoiceLine → α),
      (∀ line id, f (line.item tenantId db.billingDocuments.freshKey wo id) = g line) →
      (itemsOf d.tenantId d.id (workshopDrafted now tenantId wo lines w db)).map f =
        lines.map g := by
    intro α f g hfg
    rw [htenant, hid]
    exact items_workshopDrafted f g hfiled hfg
  refine ⟨hsource, ⟨?_, ?_, ?_, ?_⟩⟩
  · rw [hsubtotal, hitems BillingItem.amount InvoiceLine.amount fun _ _ => rfl]
    rfl
  · rw [htax, hsubtotal]
    rfl
  · rw [htotal, hsubtotal, htax]
    rfl
  · rw [hitems BillingItem.ivaAmount (fun line => some (vat line.amount)) fun _ _ => rfl,
      hitems (fun i => some (vat i.amount)) (fun line => some (vat line.amount)) fun _ _ => rfl]

theorem billingStep_createWorkshopInvoice [Locale] {now : Instant} {workOrderId a : UUID}
    {w : Warehouse} (h : createWorkshopInvoice now tenantId workOrderId w db = .ok (a, p)) :
    BillingStep selectBound X db p := by
  unfold createWorkshopInvoice at h
  split at h
  · cases h
    exact (RowsStep.refl db).billingStep
  · simp only [bind_eq_ok, pure, Except.pure, Except.ok.injEq, Prod.mk.injEq] at h
    obtain ⟨wo, _, _, _, _, _, _, rfl⟩ := h
    have hnew : NewDocument db (workshopDrafted now tenantId wo (invoiceLines now tenantId wo w) w db)
        db.billingDocuments.freshKey :=
      (newDocument_lines newDocument_insert).modify
    refine hnew.billingStep fun hfiled d hd => ?_
    obtain ⟨hsource, htaxed⟩ := workshopDrafted_taxed hfiled hd
    exact .workshop hsource htaxed

/-! ### An issue -/

section Issue

variable {number : String} {issuedAt : Instant} {terms : Int} {items : List BillingItem}

/-- The row of an item once its document is issued. -/
def markBilled (tenantId documentId : UUID) (i : BillingItem) : BillingItem :=
  if i.tenantId = tenantId && i.billingDocumentId = documentId then { i with billed := true } else i

theorem rows_finishIssue :
    (finishIssue tenantId documentId number issuedAt terms items db).billingItems.rows =
      db.billingItems.rows.map (markBilled tenantId documentId) := by
  simp only [finishIssue, Table.rows_modifyAll]
  rfl

theorem markBilled_keeps (i : BillingItem) :
    (markBilled tenantId documentId i).billingDocumentId = i.billingDocumentId ∧
      (markBilled tenantId documentId i).tenantId = i.tenantId ∧
      (markBilled tenantId documentId i).amount = i.amount ∧
      (markBilled tenantId documentId i).ivaAmount = i.ivaAmount := by
  unfold markBilled
  split <;> exact ⟨rfl, rfl, rfl, rfl⟩

theorem linesOf_finishIssue {id : UUID} (hne : id ≠ documentId) :
    (finishIssue tenantId documentId number issuedAt terms items db).linesOf id = db.linesOf id := by
  rw [Db.linesOf, rows_finishIssue, List.filter_map]
  have hsame : ((fun i : BillingItem => decide (i.billingDocumentId = id)) ∘
      markBilled tenantId documentId) = fun i => decide (i.billingDocumentId = id) := by
    funext i
    simp only [Function.comp_apply, (markBilled_keeps i).1]
  rw [hsame]
  refine (List.map_congr_left fun i hi => ?_).trans (List.map_id _)
  have hid : i.billingDocumentId = id := by simpa using (List.mem_filter.mp hi).2
  simp only [markBilled, hid, hne, decide_false, Bool.and_false, Bool.false_eq_true, if_false]
  rfl

theorem itemsOf_finishIssue {α : Type} (f : BillingItem → α)
    (hf : ∀ i, f (markBilled tenantId documentId i) = f i) :
    (itemsOf tenantId documentId
      (finishIssue tenantId documentId number issuedAt terms items db)).map f =
      (itemsOf tenantId documentId db).map f := by
  rw [itemsOf, rows_finishIssue, List.filter_map, List.map_map]
  have hsame : ((fun i : BillingItem => decide (i.tenantId = tenantId) &&
      decide (i.billingDocumentId = documentId)) ∘ markBilled tenantId documentId) =
      fun i => decide (i.tenantId = tenantId) && decide (i.billingDocumentId = documentId) := by
    funext i
    simp only [Function.comp_apply, (markBilled_keeps i).1, (markBilled_keeps i).2.1]
  rw [hsame]
  exact List.map_congr_left fun i _ => hf i

theorem totalled_issued (htenant : d.tenantId = tenantId) (hid : d.id = documentId) :
    Totalled (finishIssue tenantId documentId number issuedAt terms
      (itemsOf tenantId documentId db) db)
      (issuedDocument number issuedAt terms (itemsOf tenantId documentId db) d) := by
  subst htenant hid
  refine ⟨?_, ?_, rfl⟩
  · exact (congrArg List.sum (itemsOf_finishIssue _ fun i => (markBilled_keeps i).2.2.1)).symm
  · refine (congrArg List.sum (itemsOf_finishIssue (fun i => i.ivaAmount.getD 0) fun i => ?_)).symm
    rw [(markBilled_keeps i).2.2.2]

end Issue

theorem billingStep_issueDocument {now : Instant} {issuedAt : Option Instant} {a : UUID}
    (h : issueDocument selectBound now tenantId documentId issuedAt db = .ok (a, p)) :
    BillingStep selectBound X db p := by
  rcases issueDocument_cases h with
    rfl | ⟨document, number, counters, terms, hdoc, hten, hdraft, hbound, _, _, rfl⟩
  · exact (RowsStep.refl _).billingStep
  have hid : document.id = documentId := Table.key_of_get hdoc
  refine ⟨fun {id d} hd => ?_, fun _ {id d} hnone hd => ?_, fun hfiled i hi => ?_⟩
  · rw [finishIssue_get_document]
    by_cases hne : id = documentId
    · subst hne
      rw [if_pos rfl]
      rw [hd] at hdoc
      cases hdoc
      let db' := { db with fiscalCounters := counters }
      have htotalled : Totalled
          (finishIssue tenantId id number (issuedAt.getD now) terms (itemsOf tenantId id db') db')
          (issuedDocument number (issuedAt.getD now) terms (itemsOf tenantId id db') document) :=
        totalled_issued hten hid
      refine ⟨_, congrArg _ hd, rfl, rfl, rfl, rfl, rfl, fun hleft => absurd hdraft hleft,
        .inr ⟨hbound, htotalled⟩, fun _ _ _ => .inr htotalled, fun hleft => absurd hdraft hleft⟩
    · rw [if_neg hne]
      have hkey : d.id = id := Table.key_of_get hd
      exact ⟨d, hd, (RowStep.refl d).carriedOn (linesOf_finishIssue (by rw [hkey]; exact hne))⟩
  · rw [finishIssue_get_document, hnone] at hd
    split at hd
    · next hsame => rw [← hsame, hnone] at hd; cases hd
    · cases hd
  · rw [finishIssue_get_document]
    obtain ⟨j, hj, hij⟩ := mem_finishIssue hi
    have hbill : i.billingDocumentId = j.billingDocumentId := by
      rcases hij with rfl | rfl <;> rfl
    have hsome := hfiled j hj
    rw [hbill]
    split
    · next hsame => rw [Option.isSome_map, ← hsame]; exact hsome
    · exact hsome

end Step

/-! ## Runs -/

inductive InvoiceCall where
  | document (call : DocumentCall)
  | createWorkshopInvoice (now : Instant) (tenantId workOrderId : UUID) (w : Warehouse)
  | cancelWorkOrder (tenantId : UUID) (wo : WorkOrder) (reason : String)

/-- The database after one call, served by a session of its own. -/
def InvoiceCall.step [Locale] (selectBound : Bool) (db : Db) : InvoiceCall → Db
  | .document call => call.step selectBound db
  | .createWorkshopInvoice now tenantId workOrderId w =>
    perform (Rotas.createWorkshopInvoice now tenantId workOrderId w) db
  | .cancelWorkOrder tenantId wo reason =>
    perform (fun db => .ok ((), cancelWorkshopDrafts tenantId wo reason db)) db

/-- Where a call may cancel a document that is no draft. -/
def InvoiceCall.cancels (db : Db) : InvoiceCall → BillingDocument → Prop
  | .document (.other (.transition now tenantId documentId t)) => fun d =>
    t.cancels documentId d ∧ (transitionById now tenantId documentId t db).isOk
  | _ => Nowhere

/-- The call does not cancel an overdue document. -/
def InvoiceCall.SparesOverdue (db : Db) : InvoiceCall → Prop
  | .document (.other (.transition now tenantId documentId t)) =>
    (transitionById now tenantId documentId t db).isOk → t.newStatus = .cancelled →
      (db.billingDocuments.get documentId).all (·.status ≠ .overdue) = true
  | _ => True

instance (db : Db) (c : InvoiceCall) : Decidable (c.SparesOverdue db) := by
  unfold InvoiceCall.SparesOverdue
  split <;> infer_instance

section Run

variable [Locale] {selectBound : Bool} {db : Db}

omit [Locale] in
theorem BillingStep.mono {X Y : BillingDocument → Prop} {p : Db} (hXY : ∀ d, X d → Y d)
    (h : BillingStep selectBound X db p) : BillingStep selectBound Y db p where
  kept hd := by
    obtain ⟨d', hd', hc⟩ := h.kept hd
    exact ⟨d', hd', { hc with
      cancelled := fun hleft hcan => (hc.cancelled hleft hcan).imp_right (hXY _) }⟩
  added := h.added
  filed := h.filed

omit [Locale] in
theorem billingStep_ledgerCall (c : LedgerCall) :
    BillingStep selectBound (InvoiceCall.cancels db (.document (.other c))) db
      (c.serve selectBound db) := by
  have hsame : BillingStep selectBound (InvoiceCall.cancels db (.document (.other c))) db db :=
    (RowsStep.refl db).billingStep
  have hrows : ∀ {p}, RowsStep Nowhere db p →
      BillingStep selectBound (InvoiceCall.cancels db (.document (.other c))) db p :=
    fun h => h.billingStep.mono fun _ hX => hX.elim
  cases c with
  | registerPayment => exact perform_ind hsame fun _ _ h => hrows (rowsStep_registerPayment h)
  | applyAdvance => exact perform_ind hsame fun _ _ h => hrows (rowsStep_applyAdvance h)
  | voidPayment => exact perform_ind hsame fun _ _ h => hrows (rowsStep_voidPayment h)
  | transition =>
    refine perform_ind hsame fun _ _ h => (rowsStep_transitionById h).billingStep.mono ?_
    exact fun d hX => ⟨hX, by rw [h]; rfl⟩
  | markOverdue =>
    exact perform_ind hsame fun _ _ h => by cases h; exact hrows (rowsStep_markOverdue _)
  | issueDocument => exact perform_ind hsame fun _ _ h => billingStep_issueDocument h
  | confirmWorkshopInvoice =>
    exact perform_ind hsame fun _ _ h => hrows (rowsStep_confirmWorkshopInvoice h)
  | createInvoiceReceipt =>
    exact perform_ind hsame fun _ _ h => hrows (rowsStep_createInvoiceReceipt h)
  | createDebitNote =>
    exact perform_ind hsame fun _ _ h => hrows (rowsStep_createNote (by decide) h)
  | createCreditNote =>
    exact perform_ind hsame fun _ _ h => hrows (rowsStep_createNote (by decide) h)
  | createReceipt => exact perform_ind hsame fun _ _ h => hrows (rowsStep_createReceipt h)

theorem billingStep_call (selectBound : Bool) (c : InvoiceCall) :
    BillingStep selectBound (c.cancels db) db (c.step selectBound db) := by
  cases c with
  | document call =>
    cases call with
    | createDocument =>
      exact serve_atomic_ind (P := fun p => BillingStep selectBound _ db p)
        (RowsStep.refl db).billingStep fun _ _ h _ => billingStep_createDocument h
    | other call => exact billingStep_ledgerCall call
  | createWorkshopInvoice =>
    exact perform_ind (RowsStep.refl db).billingStep fun _ _ h =>
      billingStep_createWorkshopInvoice h
  | cancelWorkOrder =>
    refine perform_ind (RowsStep.refl db).billingStep fun _ _ h => ?_
    cases h
    exact (rowsStep_cancelWorkshopDrafts _ _).billingStep

/-- What a document bears once it has left its draft. -/
structure SameContent (db p : Db) (d d' : BillingDocument) : Prop where
  number : d'.invoiceNumber = d.invoiceNumber
  client : d'.clientNuit = d.clientNuit
  amounts : Unchanged db p d d'

/-- A document that has left its draft keeps what it bears over every run, and never returns. -/
theorem content_fixed (selectBound : Bool) {calls : List InvoiceCall} {id : UUID} :
    ∀ {db : Db} {d : BillingDocument}, db.billingDocuments.get id = some d → d.status ≠ .draft →
      ∃ d', (Run.exec (InvoiceCall.step selectBound) db calls).billingDocuments.get id = some d' ∧
        d'.status ≠ .draft ∧
        SameContent db (Run.exec (InvoiceCall.step selectBound) db calls) d d' := by
  induction calls with
  | nil => exact fun hd hleft => ⟨_, hd, hleft, rfl, rfl, rfl, rfl, rfl, rfl⟩
  | cons c calls ih =>
    intro db d hd hleft
    obtain ⟨d', hd', hstep⟩ := (billingStep_call selectBound c).kept hd
    obtain ⟨hleft', hnumber, hsame⟩ := hstep.left hleft
    obtain ⟨d'', hd'', hleft'', hcontent⟩ := ih hd' hleft'
    have hid : d'.id = d.id := (Table.key_of_get hd').trans (Table.key_of_get hd).symm
    have hlines := hcontent.amounts.lines
    rw [hid] at hlines
    exact ⟨d'', hd'', hleft'', hcontent.number.trans hnumber,
      hcontent.client.trans hstep.client, hcontent.amounts.subtotal.trans hsame.subtotal,
      hcontent.amounts.tax.trans hsame.tax, hcontent.amounts.total.trans hsame.total,
      hlines.trans hsame.lines⟩

omit [Locale] in
theorem not_cancels_of_spares {c : InvoiceCall} {id : UUID} {d : BillingDocument}
    (hc : c.SparesOverdue db) (hd : db.billingDocuments.get id = some d) : ¬ c.cancels db d := by
  intro hcan
  unfold InvoiceCall.cancels at hcan
  split at hcan
  · obtain ⟨⟨hid, hoverdue, hnew⟩, hok⟩ := hcan
    have hspared := hc hok hnew
    have hkey : d.id = id := Table.key_of_get hd
    rw [← hid, hkey, hd] at hspared
    simp [hoverdue] at hspared
  · exact hcan

theorem never_cancelled {calls : List InvoiceCall} {id : UUID} :
    ∀ {db : Db} {d : BillingDocument}, db.billingDocuments.get id = some d → d.status ≠ .draft →
      d.status ≠ .cancelled →
      Run.Along (InvoiceCall.step selectBound) (fun db c => c.SparesOverdue db) db calls →
      ∀ {d'}, (Run.exec (InvoiceCall.step selectBound) db calls).billingDocuments.get id = some d' →
        d'.status ≠ .cancelled := by
  induction calls with
  | nil =>
    intro db d hd _ hcan _ d' hd'
    rw [Run.exec_nil, hd] at hd'
    cases hd'
    exact hcan
  | cons c calls ih =>
    intro db d hd hleft hcan hcalls d' hd'
    obtain ⟨hspares, hcalls⟩ := hcalls
    obtain ⟨e, he, hstep⟩ := (billingStep_call selectBound c).kept hd
    refine ih he (hstep.left hleft).1 ?_ hcalls hd'
    intro hcan'
    rcases hstep.cancelled hleft hcan' with h | h
    · exact hcan h
    · exact not_cancels_of_spares hspares hd h

/-- An issued, overdue or paid document keeps its number, its amounts, its client and its items
over every run; and it is never cancelled, if the run cancels no overdue document. -/
theorem fiscal_immutability (selectBound : Bool) (db : Db) (calls : List InvoiceCall) (id : UUID)
    (d : BillingDocument) (hd : db.billingDocuments.get id = some d)
    (hissued : d.status = .issued ∨ d.status = .overdue ∨ d.status = .paid)
    (hcalls : Run.Along (InvoiceCall.step selectBound) (fun db c => c.SparesOverdue db) db calls) :
    ∃ d', (Run.exec (InvoiceCall.step selectBound) db calls).billingDocuments.get id = some d' ∧
      SameContent db (Run.exec (InvoiceCall.step selectBound) db calls) d d' ∧
      d'.status ≠ .cancelled := by
  have hleft : d.status ≠ .draft := by rcases hissued with h | h | h <;> rw [h] <;> decide
  have hcan : d.status ≠ .cancelled := by rcases hissued with h | h | h <;> rw [h] <;> decide
  obtain ⟨d', hd', _, hsame⟩ := content_fixed selectBound hd hleft
  exact ⟨d', hd', hsame, never_cancelled hd hleft hcan hcalls hd'⟩

end Run

/-! ## An overdue invoice -/

/-- The document of `oneInvoiceDb`. -/
def oneInvoice : BillingDocument where
  id := 1
  tenantId := 1
  clientId := some 1
  clientName := "Cliente"
  billingPeriodStart := 0
  billingPeriodEnd := 1000
  totalAmount := 100
  status := .issued

def markOverdueAfter : InvoiceCall := .document (.other (.markOverdue 2000))

def payOne : InvoiceCall := .document (.other (payInvoice 1 metical_pos))

def cancelInvoice : InvoiceCall :=
  .document (.other (.transition 2000 1 1
    { newStatus := .cancelled, cancellationReason := some "engano" }))

/-- The overdue invoice is paid, and the cancellation comes too late. -/
theorem fiscal_immutability_paid :
    ∃ d', (Run.exec (@InvoiceCall.step .ascii false) oneInvoiceDb
        [markOverdueAfter, payOne, cancelInvoice]).billingDocuments.get 1 = some d' ∧
      SameContent oneInvoiceDb (Run.exec (@InvoiceCall.step .ascii false) oneInvoiceDb
        [markOverdueAfter, payOne, cancelInvoice]) oneInvoice d' ∧ d'.status ≠ .cancelled :=
  @fiscal_immutability .ascii false oneInvoiceDb [markOverdueAfter, payOne, cancelInvoice] 1 oneInvoice
    rfl (.inl rfl) (by decide +kernel)

/-- An issued invoice that the nightly job finds overdue can be cancelled the next day. -/
theorem overdue_cancelled :
    (oneInvoiceDb.billingDocuments.get 1).map BillingDocument.status = some .issued ∧
      ((Run.exec (@InvoiceCall.step .ascii false) oneInvoiceDb
        [markOverdueAfter, cancelInvoice]).billingDocuments.get 1).map BillingDocument.status =
        some .cancelled := by
  decide +kernel

end Rotas
