import Rotas.Billing.Booked
import Rotas.Billing.Totals

/-!
# Rotas.Billing.Overdue

When a document is overdue, over runs of the calls of both billing paths.

* `Db.pastDue`   — an invoice or a debit note, not fully paid, whose due date lies in the past.
* `OverdueOk`    — overdue documents are past due; drafts, and what has a due date, are invoices.
* `DueStep`      — what a call on documents may do to their rows.
* `marksPastDue` — the call makes no other document overdue, and leaves none overdue that it covers.
* `overdue_means_overdue` — every run of such calls.
* `overdue_before_due`    — the job goes by the end of the billing period.
-/

namespace Rotas

open Work Decimal

/-! ## Overdue documents -/

/-- An invoice or a debit note that is not fully paid, past its due date. -/
def Db.pastDue (now : Instant) (db : Db) (d : BillingDocument) : Bool :=
  (d.documentType = .invoice || d.documentType = .debitNote) &&
    decide (db.allocated d.id < d.totalAmount) && d.dueDate.any (· < now)

/-- Every overdue document is past due at `T`. -/
def Db.OnlyPastDue (T : Instant) (db : Db) : Prop :=
  ∀ d ∈ db.billingDocuments, d.status = .overdue → db.pastDue T d = true

instance (T : Instant) (db : Db) : Decidable (db.OnlyPastDue T) :=
  inferInstanceAs (Decidable (∀ d ∈ db.billingDocuments, _))

/-- Moreover drafts are invoices, and no other document has a due date. -/
structure OverdueOk (T : Instant) (db : Db) : Prop where
  drafts : ∀ d ∈ db.billingDocuments, d.status = .draft → d.documentType = .invoice
  dated : ∀ d ∈ db.billingDocuments, d.dueDate.isSome = true → d.documentType = .invoice
  overdue : db.OnlyPastDue T

/-- A document and what a call makes of it. -/
structure DueRow (T : Instant) (db : Db) (d d' : BillingDocument) : Prop where
  kind : d'.documentType = d.documentType
  draft : d'.status = .draft → d.status = .draft
  dated : d.status = .draft ∨ d'.dueDate = d.dueDate
  overdue : d'.status = .overdue → d'.totalAmount = d.totalAmount ∧ d'.dueDate = d.dueDate ∧
    (d.status = .overdue ∨ db.pastDue T d = true)

/-- A document that a call adds. -/
structure NewRow (d : BillingDocument) : Prop where
  notOverdue : d.status ≠ .overdue
  undated : d.dueDate = none
  draft : d.status = .draft → d.documentType = .invoice

structure DueStep (T : Instant) (db p : Db) : Prop where
  alone : PaymentsAlone db p
  rows : ∀ d' ∈ p.billingDocuments,
    (∃ d ∈ db.billingDocuments, d'.id = d.id ∧ DueRow T db d d') ∨ NewRow d'

section Due

variable {T now : Instant} {db p : Db} {d d' : BillingDocument} {tenantId documentId paymentId : UUID}

theorem pastDue_iff : db.pastDue now d = true ↔
    (d.documentType = .invoice ∨ d.documentType = .debitNote) ∧
      db.allocated d.id < d.totalAmount ∧ ∃ due, d.dueDate = some due ∧ due < now := by
  simp [Db.pastDue, Option.any_eq_true, and_assoc]

theorem pastDue_mono (hnow : now ≤ T) (h : db.pastDue now d = true) : db.pastDue T d = true := by
  obtain ⟨hkind, hopen, due, hdue, hlt⟩ := pastDue_iff.mp h
  exact pastDue_iff.mpr ⟨hkind, hopen, due, hdue, hlt.trans_le hnow⟩

theorem PaymentsAlone.allocated (h : PaymentsAlone db p) (id : UUID) :
    p.allocated id = db.allocated id := by
  simp only [Db.allocated, Db.live, h.payments, h.allocations]

theorem DueRow.refl (d : BillingDocument) : DueRow T db d d :=
  ⟨rfl, id, .inr rfl, fun h => ⟨rfl, rfl, .inl h⟩⟩

theorem OverdueOk.step (h : OverdueOk T db) (hstep : DueStep T db p) : OverdueOk T p where
  drafts d' hd' hdraft := by
    rcases hstep.rows d' hd' with ⟨d, hd, _, hrow⟩ | hnew
    · rw [hrow.kind]
      exact h.drafts d hd (hrow.draft hdraft)
    · exact hnew.draft hdraft
  dated d' hd' hdated := by
    rcases hstep.rows d' hd' with ⟨d, hd, _, hrow⟩ | hnew
    · rw [hrow.kind]
      rcases hrow.dated with hdraft | hsame
      · exact h.drafts d hd hdraft
      · exact h.dated d hd (hsame ▸ hdated)
    · rw [hnew.undated] at hdated
      cases hdated
  overdue d' hd' hoverdue := by
    rcases hstep.rows d' hd' with ⟨d, hd, hid, hrow⟩ | hnew
    · obtain ⟨htotal, hdue, hwas⟩ := hrow.overdue hoverdue
      have hpast : db.pastDue T d = true := hwas.elim (h.overdue d hd) id
      rw [Db.pastDue, hrow.kind, hid, hstep.alone.allocated, htotal, hdue]
      exact hpast
    · exact absurd hoverdue hnew.notOverdue

theorem dueStep_of_rows {c : BillingDocument → Bool} {f : BillingDocument → BillingDocument}
    (halone : PaymentsAlone db p)
    (hrows : p.billingDocuments.rows = db.billingDocuments.rows.map fun d => if c d then f d else d)
    (hid : ∀ d, (f d).id = d.id)
    (h : ∀ d ∈ db.billingDocuments, c d = true → DueRow T db d (f d)) : DueStep T db p where
  alone := halone
  rows d' hd' := by
    rw [Table.mem_def, hrows] at hd'
    obtain ⟨d, hd, rfl⟩ := List.mem_map.mp hd'
    refine .inl ⟨d, hd, ?_⟩
    split
    · next hc => exact ⟨hid d, h d hd hc⟩
    · exact ⟨rfl, .refl d⟩

theorem dueStep_of_modify {f : BillingDocument → BillingDocument} {hf : ∀ d, (f d).id = d.id}
    (h : ∀ d, db.billingDocuments.get documentId = some d → DueRow T db d (f d)) :
    DueStep T db (db.modifyDocument documentId f hf) := by
  refine dueStep_of_rows ⟨rfl, rfl⟩ rfl hf fun d hd hc => h d ?_
  rw [← beq_iff_eq.mp hc]
  exact Table.get_of_mem hd

theorem dueStep_of_insert {mk : Nat → BillingDocument} {hk : ∀ k, Keyed.key (mk k) = k}
    (h : NewRow (mk db.billingDocuments.freshKey)) :
    DueStep T db { db with billingDocuments := db.billingDocuments.insert mk hk } where
  alone := ⟨rfl, rfl⟩
  rows d' hd' := by
    rcases (Table.mem_insert _ mk hk).mp hd' with hd' | rfl
    · exact .inl ⟨d', hd', rfl, .refl d'⟩
    · exact .inr h

theorem dueStep_of_new (hnew : NewDocument db p documentId) (halone : PaymentsAlone db p)
    (h : ∀ d, p.billingDocuments.get documentId = some d → NewRow d) : DueStep T db p where
  alone := halone
  rows d' hd' := by
    have hget : p.billingDocuments.get d'.id = some d' := Table.get_of_mem hd'
    by_cases hid : d'.id = documentId
    · exact .inr (h d' (hid ▸ hget))
    · rw [hnew.others _ hid] at hget
      exact .inl ⟨d', Table.mem_of_get hget, rfl, .refl d'⟩

/-! ### The calls that leave payments alone -/

theorem dueStep_transitionById {t : Transition} {a : UUID} (hnow : now ≤ T)
    (hdue : t.newStatus = .overdue → ∀ d, db.billingDocuments.get documentId = some d →
      d.tenantId = tenantId → d.status = .issued → db.pastDue now d = true)
    (h : transitionById now tenantId documentId t db = .ok (a, p)) : DueStep T db p := by
  obtain ⟨d, hd, htenant, ht, rfl⟩ := transitionById_cases h
  refine dueStep_of_modify fun d' hd' => ?_
  rw [hd] at hd'
  cases hd'
  refine ⟨rfl, fun hdraft => ?_, .inr rfl, fun hoverdue => ⟨rfl, rfl, .inr ?_⟩⟩
  · change t.newStatus = .draft at hdraft
    rw [hdraft] at ht
    cases hs : d.status <;> rw [hs] at ht <;> simp [billingValidTransitions] at ht
  · change t.newStatus = .overdue at hoverdue
    refine pastDue_mono hnow (hdue hoverdue d hd htenant ?_)
    rw [hoverdue] at ht
    cases hs : d.status <;> rw [hs] at ht <;> simp [billingValidTransitions] at ht ⊢

/-- What the job selects. -/
def BillingDocument.selected (now : Instant) (d : BillingDocument) : Bool :=
  d.status = .issued && decide (d.billingPeriodEnd < now)

theorem dueStep_markOverdue (hnow : now ≤ T)
    (hdue : ∀ d ∈ db.billingDocuments, d.selected now = true → db.pastDue now d = true) :
    DueStep T db (markOverdueBillingDocuments now db) := by
  refine dueStep_of_rows ⟨rfl, rfl⟩ rfl (fun _ => rfl) fun d hd hc => ?_
  exact ⟨rfl, nofun, .inr rfl, fun _ => ⟨rfl, rfl, .inr (pastDue_mono hnow (hdue d hd hc))⟩⟩

theorem dueStep_issueDocument {selectBound : Bool} {issuedAt : Option Instant} {a : UUID}
    (h : issueDocument selectBound now tenantId documentId issuedAt db = .ok (a, p)) :
    DueStep T db p := by
  rcases issueDocument_cases h with
    rfl | ⟨document, number, counters, terms, hdoc, _, hdraft, _, _, _, rfl⟩
  · exact ⟨⟨rfl, rfl⟩, fun d hd => .inl ⟨d, hd, rfl, .refl d⟩⟩
  · refine dueStep_of_rows ⟨rfl, rfl⟩ rfl (fun _ => rfl) fun d hd hc => ?_
    have hsame : d = document :=
      Table.eq_of_key hd (Table.mem_of_get hdoc) ((beq_iff_eq.mp hc).trans (Table.key_of_get hdoc).symm)
    exact ⟨rfl, nofun, .inl (hsame ▸ hdraft), nofun⟩

theorem snapshotProfile_dueDate (profile : Option TenantDocumentProfile) (d : BillingDocument) :
    (snapshotProfile profile d).dueDate = d.dueDate := by
  cases profile <;> rfl

theorem overdueOk_addChild {parent : BillingDocument} {c : ChildDocument} (h : OverdueOk T db) :
    OverdueOk T (addChild now tenantId parent c db).2 := by
  have hinsert : OverdueOk T
      { db with billingDocuments := db.billingDocuments.insert (c.row now parent) } :=
    h.step (dueStep_of_insert ⟨nofun, rfl, nofun⟩)
  simp only [addChild]
  rw [assignInvoiceNumber_snd]
  refine hinsert.step (dueStep_of_rows ⟨rfl, rfl⟩ rfl (numberedChild_id _ _ _) fun d _ _ => ?_)
  obtain ⟨hkind, hstatus, _, htotal, _⟩ := snapshotProfile_keeps (documentProfile tenantId db) d
  have hdue := snapshotProfile_dueDate (documentProfile tenantId db) d
  exact ⟨hkind, fun hdraft => hstatus.symm.trans hdraft, .inr hdue,
    fun hoverdue => ⟨htotal, hdue, .inl (hstatus.symm.trans hoverdue)⟩⟩

theorem overdueOk_createInvoiceReceipt {a : UUID} (h : OverdueOk T db)
    (hcreate : createInvoiceReceipt now tenantId documentId db = .ok (a, p)) : OverdueOk T p := by
  simp only [createInvoiceReceipt, bind_eq_ok, pure, Except.pure, Except.ok.injEq,
    Prod.mk.injEq] at hcreate
  obtain ⟨parent, _, _, rfl⟩ := hcreate
  refine (overdueOk_addChild h).step (dueStep_of_modify fun d _ => ?_)
  exact ⟨rfl, (fun h => by cases h), .inr rfl, fun h => by cases h⟩

theorem overdueOk_createNote {documentType : DocType} {message : String} {amount : ℚ}
    {ivaRate : Option ℚ} {a : UUID} (h : OverdueOk T db)
    (hcreate : createNote documentType message now tenantId documentId amount ivaRate db =
      .ok (a, p)) : OverdueOk T p := by
  simp only [createNote, bind_eq_ok, pure, Except.pure, Except.ok.injEq] at hcreate
  obtain ⟨parent, _, hcreate⟩ := hcreate
  cases hcreate
  exact overdueOk_addChild h

theorem overdueOk_createReceipt {amount : ℚ} {a : UUID} (h : OverdueOk T db)
    (hcreate : createReceipt now tenantId documentId amount db = .ok (a, p)) : OverdueOk T p := by
  simp only [createReceipt, bind_eq_ok, pure, Except.pure, Except.ok.injEq] at hcreate
  obtain ⟨parent, _, hcreate⟩ := hcreate
  cases hcreate
  exact overdueOk_addChild h

theorem newRow_snapshot {draft : BillingDocument} {profile : Option TenantDocumentProfile}
    (hstatus : draft.status = .draft) (hkind : draft.documentType = .invoice)
    (hdue : draft.dueDate = none) : NewRow (snapshotProfile profile draft) := by
  obtain ⟨hkind', hstatus', _⟩ := snapshotProfile_keeps profile draft
  refine ⟨?_, (snapshotProfile_dueDate profile draft).trans hdue, fun _ => hkind'.trans hkind⟩
  rw [hstatus', hstatus]
  nofun

theorem dueStep_createDocument {payload : BillingDocumentCreate} {a : UUID × List BillingItem}
    (h : createDocument now tenantId payload db = (.ok a, p)) : DueStep T db p := by
  refine dueStep_of_new (newDocument_createDocument h).1 (paymentsAlone_createDocument h) ?_
  refine createDocument_ind (P := fun p => ∀ d,
      p.billingDocuments.get db.billingDocuments.freshKey = some d → NewRow d) h ?_ ?_ ?_
  · intro contract _ d hd
    simp only [drafted, addDraft, Db.modifyDocument, Table.get_modify, Table.get_insert, if_pos,
      Option.map_some, Option.some.injEq] at hd
    subst hd
    exact newRow_snapshot rfl rfl rfl
  · exact fun _ _ _ _ _ hP _ => hP
  · intro items db' hP d hd
    simp only [withTotal, Db.modifyDocument, Table.get_modify, if_pos] at hd
    obtain ⟨d', hd', rfl⟩ := Option.map_eq_some_iff.mp hd
    exact ⟨(hP d' hd').notOverdue, (hP d' hd').undated, (hP d' hd').draft⟩

theorem dueStep_createWorkshopInvoice [Locale] {workOrderId a : UUID} {w : Warehouse}
    (h : createWorkshopInvoice now tenantId workOrderId w db = .ok (a, p)) : DueStep T db p := by
  have halone := paymentsAlone_createWorkshopInvoice h
  unfold createWorkshopInvoice at h
  split at h
  · cases h
    exact ⟨⟨rfl, rfl⟩, fun d hd => .inl ⟨d, hd, rfl, .refl d⟩⟩
  · simp only [bind_eq_ok, pure, Except.pure, Except.ok.injEq, Prod.mk.injEq] at h
    obtain ⟨wo, _, _, _, _, _, _, rfl⟩ := h
    refine dueStep_of_new (newDocument_lines newDocument_insert).modify halone fun d hd => ?_
    simp only [workshopDrafted, Db.modifyDocument, Table.get_modify, if_pos, documents_lines,
      Table.get_insert, Option.map_some, Option.some.injEq] at hd
    subst hd
    exact newRow_snapshot rfl rfl rfl

theorem dueStep_confirmWorkshopInvoice {a : UUID}
    (h : confirmWorkshopInvoice now tenantId documentId db = .ok (a, p)) : DueStep T db p := by
  rcases confirmWorkshopInvoice_cases h with rfl | ⟨document, hdoc, _, hdraft, rfl⟩
  · exact ⟨⟨rfl, rfl⟩, fun d hd => .inl ⟨d, hd, rfl, .refl d⟩⟩
  · rw [assignInvoiceNumber_snd]
    exact dueStep_of_rows ⟨rfl, rfl⟩ rfl (fun _ => rfl) fun d _ _ => ⟨rfl, nofun, .inr rfl, nofun⟩

theorem dueStep_cancelWorkshopDrafts (wo : WorkOrder) (reason : String) :
    DueStep T db (cancelWorkshopDrafts tenantId wo reason db) :=
  dueStep_of_rows ⟨rfl, rfl⟩ rfl (fun _ => rfl) fun _ _ _ => ⟨rfl, nofun, .inr rfl, nofun⟩

/-! ### Payments -/

/-- The amount pays the document, or leaves something open once it is rounded. -/
def BillingDocument.settles (d : BillingDocument) (existing : Int) (amount : ℚ) : Bool :=
  decide (Covers d.totalAmount existing amount) ||
    decide (existing + numeric 2 amount < d.totalAmount)

/-- Documents stay, and what is allocated of them changes where they are not overdue. -/
theorem OverdueOk.allocated (h : OverdueOk T db) (hdocs : p.billingDocuments = db.billingDocuments)
    (hle : ∀ d ∈ db.billingDocuments, d.status = .overdue →
      p.allocated d.id ≤ db.allocated d.id ∨ p.allocated d.id < d.totalAmount) : OverdueOk T p where
  drafts := by rw [hdocs]; exact h.drafts
  dated := by rw [hdocs]; exact h.dated
  overdue d hd hoverdue := by
    rw [hdocs] at hd
    obtain ⟨hkind, hopen, hdue⟩ := pastDue_iff.mp (h.overdue d hd hoverdue)
    refine pastDue_iff.mpr ⟨hkind, ?_, hdue⟩
    rcases hle d hd hoverdue with hless | hless <;> omega

theorem OverdueOk.addPayment {userId : UUID} {payload : ClientPaymentCreate} (h : OverdueOk T db)
    (hb : PaymentsBooked db) : OverdueOk T (addPayment tenantId userId payload db) :=
  h.allocated rfl fun d _ _ => .inl (allocated_addPayment _ _ _ hb.toSound d.id).le

theorem OverdueOk.settle {paidAt : Instant} {pay : ClientPayment} {existing : Int} {amount : ℚ}
    (h : OverdueOk T db) (hpay : db.clientPayments.get paymentId = some pay)
    (hd : db.billingDocuments.get d.id = some d) (hexisting : existing = db.allocated d.id)
    (hnonneg : 0 ≤ numeric 2 amount)
    (hsettles : d.status = .overdue → d.settles existing amount = true)
    (hsettle : settle now d existing amount paidAt (allocate tenantId paymentId d.id amount db) =
      .ok p) : OverdueOk T p := by
  have halloc := allocated_allocate tenantId d.id amount hpay
  have hother : ∀ id, id ≠ d.id →
      (allocate tenantId paymentId d.id amount db).allocated id ≤ db.allocated id := by
    intro id hne
    rw [halloc, if_neg fun hsame => hne hsame.1.symm]
    omega
  rcases settle_cases hsettle with ⟨hnot, rfl⟩ | ⟨_, rfl⟩
  · refine h.allocated rfl fun e he hoverdue => ?_
    by_cases hsame : e = d
    · subst hsame
      have hopen := hsettles hoverdue
      rw [BillingDocument.settles, decide_eq_false hnot, Bool.false_or, decide_eq_true_eq] at hopen
      refine .inr ?_
      rw [halloc]
      split <;> omega
    · exact .inl (hother e.id fun hid => hsame (Table.eq_of_key he (Table.mem_of_get hd) hid))
  · -- the document is paid, and the others have what they had
    have hpaid : OverdueOk T (db.modifyDocument d.id
        ({ newStatus := .paid, paidAt := some paidAt : Transition }.apply now)) :=
      h.step (dueStep_of_modify fun _ _ => ⟨rfl, nofun, .inr rfl, nofun⟩)
    refine hpaid.allocated rfl fun e he hoverdue => .inl (hother e.id fun hid => ?_)
    have hget : (db.modifyDocument d.id ({ newStatus := .paid, paidAt := some paidAt :
        Transition }.apply now)).billingDocuments.get e.id = some e := Table.get_of_mem he
    rw [hid, modifyDocument_get_self hd] at hget
    cases hget
    cases hoverdue

theorem OverdueOk.registerPayment {userId a : UUID} {payload : ClientPaymentCreate}
    (h : OverdueOk T db) (hb : PaymentsBooked db)
    (hsettles : ∀ d existing, registerChecks tenantId payload db = .ok (some (d, existing)) →
      d.status = .overdue → d.settles existing payload.amount = true)
    (hrun : Rotas.registerPayment now tenantId userId payload db = .ok (a, p)) : OverdueOk T p := by
  rcases registerPayment_cases hrun with rfl | ⟨d, hd, hchecks, hsettle⟩
  · exact h.addPayment hb
  · refine (h.addPayment hb).settle (addPayment_get_self ..) hd.get ?_
      (numeric_nonneg payload.positive.le) (hsettles d _ hchecks) hsettle
    rw [allocated_addPayment _ _ _ hb.toSound]
    exact hb.sumConfirmed hd.get hd.tenant

theorem OverdueOk.applyAdvance {a : UUID} {payload : ApplyAdvanceRequest} (h : OverdueOk T db)
    (hb : PaymentsBooked db)
    (hsettles : ∀ pay d existing, applyChecks tenantId paymentId payload.billingDocumentId
      payload.amountApplied db = .ok (pay, d, existing) →
      d.status = .overdue → d.settles existing payload.amountApplied = true)
    (hrun : applyAdvanceToInvoice now tenantId paymentId payload db = .ok (a, p)) :
    OverdueOk T p := by
  obtain ⟨pay, d, happlied⟩ := applyAdvance_cases hrun
  have hd := happlied.document
  exact h.settle happlied.payment hd.get (hb.sumConfirmed hd.get hd.tenant)
    (numeric_nonneg payload.positive.le) (hsettles pay d _ happlied.checks) happlied.settled

theorem OverdueOk.reopen (h : OverdueOk T db) (hnow : now ≤ T)
    (hsum : sumConfirmedAllocations tenantId documentId db = db.allocated documentId) :
    OverdueOk T (reopenIfUncovered now tenantId db documentId) := by
  unfold reopenIfUncovered
  split
  · exact h
  · next d hd =>
    split
    · next hopen =>
      have hid : d.id = documentId := Table.key_of_get hd
      refine h.step (dueStep_of_modify fun d' hd' => ?_)
      rw [hid, hd] at hd'
      cases hd'
      refine ⟨rfl, fun hdraft => ?_, .inr rfl, fun hoverdue => ⟨rfl, rfl, .inr ?_⟩⟩
      · dsimp only at hdraft; split at hdraft <;> cases hdraft
      · dsimp only at hoverdue
        split at hoverdue
        · next hpast =>
          obtain ⟨due, hdue, hlt⟩ := (Option.any_eq_true _ _).mp hpast
          have hkind := h.dated d (Table.mem_of_get hd) (by rw [hdue]; rfl)
          refine pastDue_iff.mpr ⟨.inl hkind, ?_, due, hdue, (of_decide_eq_true hlt).trans_le hnow⟩
          rw [hid, ← hsum]
          exact hopen.2
        · cases hoverdue
    · exact h

theorem OverdueOk.reopen_all (hnow : now ≤ T) : ∀ (ids : List UUID) {db : Db}, OverdueOk T db →
    (∀ id ∈ ids, sumConfirmedAllocations tenantId id db = db.allocated id) →
    OverdueOk T (ids.foldl (reopenIfUncovered now tenantId) db) := by
  intro ids
  induction ids with
  | nil => exact fun h _ => h
  | cons id ids ih =>
    intro db h hsum
    have hstep := (reopen_step now tenantId id db).1.toDocsStep
    refine ih (h.reopen hnow (hsum id List.mem_cons_self)) fun id' hid' => ?_
    rw [hstep.sumConfirmed, hstep.allocated]
    exact hsum id' (List.mem_cons_of_mem _ hid')

theorem OverdueOk.voidPayment {userId a : UUID} {reason : String} (h : OverdueOk T db)
    (hb : PaymentsBooked db) (hnow : now ≤ T)
    (hrun : Rotas.voidPayment now tenantId paymentId userId reason db = .ok (a, p)) :
    OverdueOk T p := by
  obtain ⟨pay, hpay, htenant, rfl⟩ := voidPayment_cases hrun
  have hvoided : OverdueOk T (withVoided now pay.id userId reason db) :=
    h.allocated rfl fun d _ _ => .inl (withVoided_allocated_le hb.toSound d.id)
  refine OverdueOk.reopen_all hnow _ hvoided fun id hid => ?_
  obtain ⟨a, ha, rfl⟩ := List.mem_map.mp hid
  obtain ⟨_, d, _, hd, _⟩ := hb.refs a (List.mem_filter.mp ha).1
  refine (sound_withVoided now pay.id userId reason hb.toSound).sumConfirmed hd ?_
  exact (hb.toSound.affected_tenant hpay hid hd).trans htenant

end Due

/-! ## Runs -/

/-- A call that can make a document overdue is made by `T`. -/
def InvoiceCall.madeBy (T : Instant) : InvoiceCall → Bool
  | .document (.other (.markOverdue now)) => decide (now ≤ T)
  | .document (.other (.transition now _ _ _)) => decide (now ≤ T)
  | .document (.other (.voidPayment now _ _ _ _)) => decide (now ≤ T)
  | _ => true

/-- The call makes only documents overdue that are past due, and leaves none overdue that its
payment covers. -/
def InvoiceCall.marksPastDue (db : Db) : InvoiceCall → Bool
  | .document (.other (.markOverdue now)) =>
    db.billingDocuments.rows.all fun d => !d.selected now || db.pastDue now d
  | .document (.other (.transition now tenantId documentId t)) =>
    (db.billingDocuments.get documentId).all fun d =>
      !(t.newStatus = .overdue && d.tenantId = tenantId && d.status = .issued) || db.pastDue now d
  | .document (.other (.registerPayment _ tenantId _ payload)) =>
    match registerChecks tenantId payload db with
    | .ok (some (d, existing)) => d.status ≠ .overdue || d.settles existing payload.amount
    | _ => true
  | .document (.other (.applyAdvance _ tenantId paymentId payload)) =>
    match applyChecks tenantId paymentId payload.billingDocumentId payload.amountApplied db with
    | .ok (_, d, existing) => d.status ≠ .overdue || d.settles existing payload.amountApplied
    | _ => true
  | _ => true

/-- The job leaves every document that is not past due as it is. -/
def InvoiceCall.SparesOthers [Locale] (selectBound : Bool) (db : Db) (c : InvoiceCall) : Prop :=
  ∀ now, c = .document (.other (.markOverdue now)) → ∀ {id d},
    db.billingDocuments.get id = some d → db.pastDue now d = false →
      (c.step selectBound db).billingDocuments.get id = some d

section Run

variable {selectBound : Bool} {T : Instant} {db : Db} {calls : List InvoiceCall}

theorem overdueOk_ledgerCall (h : OverdueOk T db) (hb : PaymentsBooked db) {c : LedgerCall}
    (hmade : InvoiceCall.madeBy T (.document (.other c)) = true)
    (hmarks : InvoiceCall.marksPastDue db (.document (.other c)) = true) :
    OverdueOk T (c.serve selectBound db) := by
  cases c with
  | registerPayment now tenantId userId payload =>
    refine perform_ind h fun _ _ hrun => h.registerPayment hb (fun d existing hchecks hover => ?_) hrun
    simpa [InvoiceCall.marksPastDue, hchecks, hover] using hmarks
  | applyAdvance now tenantId paymentId payload =>
    refine perform_ind h fun _ _ hrun => h.applyAdvance hb (fun pay d existing hchecks hover => ?_) hrun
    simpa [InvoiceCall.marksPastDue, hchecks, hover] using hmarks
  | voidPayment now tenantId paymentId userId reason =>
    exact perform_ind h fun _ _ hrun => h.voidPayment hb (of_decide_eq_true hmade) hrun
  | transition now tenantId documentId t =>
    refine perform_ind h fun _ _ hrun => h.step (dueStep_transitionById (of_decide_eq_true hmade)
      (fun hnew d hd htenant hissued => ?_) hrun)
    simpa [InvoiceCall.marksPastDue, hd, hnew, htenant, hissued] using hmarks
  | markOverdue now =>
    refine perform_ind h fun _ _ hrun => ?_
    cases hrun
    refine h.step (dueStep_markOverdue (of_decide_eq_true hmade) fun d hd hsel => ?_)
    have hall := List.all_eq_true.mp hmarks d hd
    rwa [hsel, Bool.not_true, Bool.false_or] at hall
  | issueDocument => exact perform_ind h fun _ _ hrun => h.step (dueStep_issueDocument hrun)
  | confirmWorkshopInvoice =>
    exact perform_ind h fun _ _ hrun => h.step (dueStep_confirmWorkshopInvoice hrun)
  | createInvoiceReceipt => exact perform_ind h fun _ _ hrun => overdueOk_createInvoiceReceipt h hrun
  | createDebitNote => exact perform_ind h fun _ _ hrun => overdueOk_createNote h hrun
  | createCreditNote => exact perform_ind h fun _ _ hrun => overdueOk_createNote h hrun
  | createReceipt => exact perform_ind h fun _ _ hrun => overdueOk_createReceipt h hrun

/-- What the job does not select stays, whether or not it is past due. -/
theorem markOverdue_get {now : Instant} {id : UUID} {d : BillingDocument}
    (hd : db.billingDocuments.get id = some d) (hnot : d.selected now = false) :
    (markOverdueBillingDocuments now db).billingDocuments.get id = some d := by
  have hnot' : (d.status = .issued && decide (d.billingPeriodEnd < now)) = false := hnot
  simp only [markOverdueBillingDocuments, Table.get_modifyAll, hd, Option.map_some]
  rw [if_neg (by rw [hnot']; exact Bool.false_ne_true)]

variable [Locale]

theorem overdueOk_call (h : OverdueOk T db) (hb : PaymentsBooked db) {c : InvoiceCall}
    (hmade : c.madeBy T = true) (hmarks : c.marksPastDue db = true) :
    OverdueOk T (c.step selectBound db) := by
  cases c with
  | document call =>
    cases call with
    | createDocument now tenantId payload =>
      exact serve_atomic_ind h fun _ _ hrun _ => h.step (dueStep_createDocument hrun)
    | other call => exact overdueOk_ledgerCall h hb hmade hmarks
  | createWorkshopInvoice now tenantId workOrderId w =>
    exact perform_ind h fun _ _ hrun => h.step (dueStep_createWorkshopInvoice hrun)
  | cancelWorkOrder tenantId wo reason =>
    refine perform_ind h fun _ _ hrun => ?_
    cases hrun
    exact h.step (dueStep_cancelWorkshopDrafts wo reason)

theorem sparesOthers {c : InvoiceCall} (hmarks : c.marksPastDue db = true) :
    c.SparesOthers selectBound db := by
  rintro now rfl id d hd hnot
  refine perform_ind (P := fun p : Db => p.billingDocuments.get id = some d) hd fun _ _ hrun => ?_
  cases hrun
  refine markOverdue_get hd (Bool.eq_false_iff.mpr fun hsel => ?_)
  have hall := List.all_eq_true.mp hmarks d (Table.mem_of_get hd)
  rw [hsel, hnot] at hall
  cases hall

/-- From a database without payments whose overdue documents are past due, in every run in which the
job and the transitions mark only documents past due, and a payment on an overdue document pays it
or leaves something open, the overdue documents are past due at the end, and each run of the job
leaves the documents that are not. -/
theorem overdue_means_overdue (hunpaid : db.Unpaid) (hstart : OverdueOk T db)
    (hmade : ∀ c ∈ calls, c.madeBy T = true)
    (hmarks : Run.Along (InvoiceCall.step selectBound) (fun db c => c.marksPastDue db = true) db
      calls) :
    (Run.exec (InvoiceCall.step selectBound) db calls).OnlyPastDue T ∧
      Run.Along (InvoiceCall.step selectBound) (fun db c => c.SparesOthers selectBound db) db
        calls := by
  have halong := Run.along_and hmarks
    (Run.along_of_forall (C := fun _ c => c.madeBy T = true) (fun c hc _ => hmade c hc) db)
  have hrun : OverdueOk T (Run.exec (InvoiceCall.step selectBound) db calls) :=
    (Run.exec_inv (I := fun db => OverdueOk T db ∧ PaymentsBooked db ∧ db.ok = true)
      (fun db c hI hc => ⟨overdueOk_call hI.1 hI.2.1 hc.2 hc.1, booked_call hI.2.1 hI.2.2 c⟩)
      ⟨hstart, .of_unpaid hunpaid, hunpaid.1⟩ halong).1
  exact ⟨hrun.overdue, Run.along_inv (I := fun _ => True) (fun _ _ _ _ => trivial)
    (fun _ _ _ hc => sparesOthers hc) trivial hmarks⟩

end Run

/-! ## Documents before they are due -/

def runJob (now : Instant) : InvoiceCall := .document (.other (.markOverdue now))

/-- An invoice of one metical, due at 1500. -/
def dueInvoiceDb : Db where
  clients := .single { id := 1, tenantId := 1, tradingName := "Cliente" }
  billingDocuments := .single { oneInvoice with dueDate := some 1500 }

/-- The job marks the invoice when it is due; it is paid in two parts, and one of them is void. -/
def dueInvoiceCalls : List InvoiceCall :=
  [runJob 2000, .document (.other (payInvoice (2 / 5) (by norm_num))),
    .document (.other (payInvoice (3 / 5) (by norm_num))),
    .document (.other (.voidPayment 2500 1 1 1 "engano")), runJob 3000]

theorem overdue_means_overdue_paid :
    (Run.exec (@InvoiceCall.step .ascii false) dueInvoiceDb dueInvoiceCalls).OnlyPastDue 3000 ∧
      Run.Along (@InvoiceCall.step .ascii false) (fun db c => @InvoiceCall.SparesOthers .ascii false db c)
        dueInvoiceDb dueInvoiceCalls :=
  @overdue_means_overdue false 3000 dueInvoiceDb dueInvoiceCalls .ascii (by decide +kernel)
    ⟨by decide, by decide, by decide +kernel⟩ (by decide) (by decide +kernel)

/-- A contract with a trip to bill, for a client with a tax number. -/
def draftForClient : InvoiceCall := .document (.createDocument 300 1
  { contractId := some 1, billingPeriodStart := 0, billingPeriodEnd := 1000, tripIds := [1]
    clientNuit := some "400000000", periods := zero_lt_thousand })

def issueForClient : InvoiceCall := .document (.other (.issueDocument 2000 1 1 none))

theorem overdue_before_due :
    -- an invoice of the workshop has no due date, and its receipt is paid: both are overdue the
    -- next day
    (({} : Db).Unpaid ∧ OverdueOk 90000 {} ∧
      ¬ (Run.exec (@InvoiceCall.step .ascii false) {}
        (invoiceWorkOrder (closedWorkOrder 100 3) ++
          [.document (.other (.createReceipt 300 1 1 1)), runJob 90000])).OnlyPastDue 90000) ∧
      -- an invoice that is due in thirty days is overdue the next day
      billableTripDb.Unpaid ∧ OverdueOk 90000 billableTripDb ∧
        ¬ (Run.exec (@InvoiceCall.step .ascii true) billableTripDb
          [draftForClient, issueForClient, runJob 90000]).OnlyPastDue 90000 :=
  ⟨⟨by decide +kernel, ⟨by decide, by decide, by decide +kernel⟩, by decide +kernel⟩,
    by decide +kernel, ⟨by decide, by decide, by decide +kernel⟩, by decide +kernel⟩

end Rotas
