import Rotas.Billing.Immutable
import Rotas.Lib.Evolution

/-!
# Rotas.Billing.CreditNotes

What is credited on an invoice, over runs of the calls of both billing paths.

* `Db.noted`      — the totals of the live notes of one type on a document.
* `CreditWithin`  — no invoice has more credited on it than it and its debit notes come to.
* `NoteRow`       — what a call makes of a document: a note stays the note that it is.
* `NotesSound`    — the invariant: notes hang off documents that left their draft.
* `credit_within_invoice` — every run whose notes are on invoices and whose credits fit them.
* `over_credited` — two credit notes on one invoice, and a note on one of them.
-/

namespace Rotas

open Work Decimal

/-! ## Notes -/

/-- A note of one type on a document, not cancelled. -/
def BillingDocument.isNote (documentType : DocType) (parentId : UUID) (d : BillingDocument) : Bool :=
  d.documentType = documentType && d.parentDocumentId = some parentId && d.status ≠ .cancelled

def Db.noted (documentType : DocType) (parentId : UUID) (db : Db) : Int :=
  db.billingDocuments.sumWhere (·.isNote documentType parentId) BillingDocument.totalAmount

/-- No invoice has more credited on it than its total and its debit notes. -/
def Db.CreditWithin (db : Db) : Prop :=
  ∀ d ∈ db.billingDocuments, d.documentType = .invoice →
    db.noted .creditNote d.id ≤ d.totalAmount + db.noted .debitNote d.id

instance (db : Db) : Decidable db.CreditWithin :=
  inferInstanceAs (Decidable (∀ d ∈ db.billingDocuments, _))

def DocType.isNote : DocType → Bool
  | .creditNote | .debitNote => true
  | _ => false

def Plain (d : BillingDocument) : Prop := d.documentType.isNote = false

/-- A document and what a call makes of it; `X` says where the call may cancel it. -/
structure NoteRow (X : BillingDocument → Prop) (d d' : BillingDocument) : Prop where
  kind : d'.documentType = d.documentType
  parent : d'.parentDocumentId = d.parentDocumentId
  left : d.status ≠ .draft → d'.status ≠ .draft ∧ d'.totalAmount = d.totalAmount
  dead : d.status = .cancelled → d'.status = .cancelled
  killed : d.status ≠ .draft → d'.status = .cancelled → d.status = .cancelled ∨ X d

/-- What the calls keep: a note is no draft, and hangs off a document that is none either. -/
structure NotesSound (db : Db) : Prop where
  ok : db.ok = true
  parents : ∀ n ∈ db.billingDocuments, n.documentType.isNote = true → n.status ≠ .draft ∧
    ∃ k d, n.parentDocumentId = some k ∧ db.billingDocuments.get k = some d ∧ d.status ≠ .draft
  within : db.CreditWithin

section Rows

variable {X : BillingDocument → Prop} {d d' d'' : BillingDocument}

theorem NoteRow.refl (d : BillingDocument) : NoteRow X d d :=
  ⟨rfl, rfl, fun h => ⟨h, rfl⟩, id, fun _ h => .inl h⟩

theorem NoteRow.trans (h : NoteRow Nowhere d d') (h' : NoteRow Nowhere d' d'') :
    NoteRow Nowhere d d'' where
  kind := h'.kind.trans h.kind
  parent := h'.parent.trans h.parent
  left hd := by
    obtain ⟨hd', htotal⟩ := h.left hd
    obtain ⟨hd'', htotal'⟩ := h'.left hd'
    exact ⟨hd'', htotal'.trans htotal⟩
  dead hd := h'.dead (h.dead hd)
  killed hd hc := by
    rcases h'.killed (h.left hd).1 hc with hc' | hc'
    · exact h.killed hd hc'
    · exact hc'.elim

theorem isNote_iff {documentType : DocType} {k : UUID} : d.isNote documentType k = true ↔
    d.documentType = documentType ∧ d.parentDocumentId = some k ∧ d.status ≠ .cancelled := by
  simp only [BillingDocument.isNote, Bool.and_eq_true, decide_eq_true_eq, and_assoc]

theorem NoteRow.isNote (h : NoteRow X d d') {documentType : DocType} {k : UUID}
    (hnote : d'.isNote documentType k = true) : d.isNote documentType k = true := by
  obtain ⟨hkind, hparent, hlive⟩ := isNote_iff.mp hnote
  exact isNote_iff.mpr ⟨h.kind.symm.trans hkind, h.parent.symm.trans hparent,
    fun hdead => hlive (h.dead hdead)⟩

theorem NoteRow.isNote_eq (h : NoteRow Nowhere d d') (hd : d.status ≠ .draft)
    (documentType : DocType) (k : UUID) : d'.isNote documentType k = d.isNote documentType k := by
  refine Bool.eq_iff_iff.mpr ⟨h.isNote, fun hnote => ?_⟩
  obtain ⟨hkind, hparent, hlive⟩ := isNote_iff.mp hnote
  exact isNote_iff.mpr ⟨h.kind.trans hkind, h.parent.trans hparent,
    fun hdead => (h.killed hd hdead).elim hlive id⟩

theorem NoteRow.weight_le (h : NoteRow X d d') (documentType : DocType) (k : UUID)
    (hd : d.status ≠ .draft) (hnonneg : 0 ≤ d.totalAmount) :
    Table.weight (·.isNote documentType k) BillingDocument.totalAmount d' ≤
      Table.weight (·.isNote documentType k) BillingDocument.totalAmount d := by
  unfold Table.weight
  split
  · next hnote =>
    rw [if_pos (h.isNote hnote), (h.left hd).2]
  · split
    · exact hnonneg
    · exact le_rfl

theorem NoteRow.weight_eq (h : NoteRow Nowhere d d') (documentType : DocType) (k : UUID)
    (hd : d.status ≠ .draft) :
    Table.weight (·.isNote documentType k) BillingDocument.totalAmount d' =
      Table.weight (·.isNote documentType k) BillingDocument.totalAmount d := by
  simp only [Table.weight, h.isNote_eq hd, (h.left hd).2]

end Rows

/-! ## The invariant -/

section Sound

variable {X : BillingDocument → Prop} {db p : Db} {d : BillingDocument} {k : UUID}
  {documentType : DocType}

theorem weight_of_plain (h : Plain d) (hnote : documentType.isNote = true) :
    Table.weight (·.isNote documentType k) BillingDocument.totalAmount d = 0 := by
  refine if_neg fun hisNote => ?_
  rw [Plain, (isNote_iff.mp hisNote).1, hnote] at h
  cases h

theorem NotesSound.weight_of_draft {d' : BillingDocument} (h : NotesSound db)
    (hnote : documentType.isNote = true) (hd : d ∈ db.billingDocuments) (hdraft : d.status = .draft)
    (hrow : NoteRow X d d') :
    Table.weight (·.isNote documentType k) BillingDocument.totalAmount d = 0 ∧
      Table.weight (·.isNote documentType k) BillingDocument.totalAmount d' = 0 := by
  have hno : ¬ d.isNote documentType k = true := by
    intro hisNote
    refine (h.parents d hd ?_).1 hdraft
    rw [(isNote_iff.mp hisNote).1]
    exact hnote
  exact ⟨if_neg hno, if_neg fun hisNote => hno (hrow.isNote hisNote)⟩

/-- What is noted on a document only shrinks, where no note is added. -/
theorem NotesSound.noted_le (h : NotesSound db)
    (hev : Table.Evolves (NoteRow X) Plain db.billingDocuments p.billingDocuments)
    (hnote : documentType.isNote = true) : p.noted documentType k ≤ db.noted documentType k := by
  refine hev.sumWhere_le (fun d hd d' hrow => ?_) fun d hplain => (weight_of_plain hplain hnote).le
  by_cases hdraft : d.status = .draft
  · obtain ⟨hzero, hzero'⟩ := h.weight_of_draft hnote hd hdraft hrow
    exact (hzero'.trans hzero.symm).le
  · exact hrow.weight_le documentType k hdraft (total_nonneg h.ok (Table.get_of_mem hd))

theorem NotesSound.le_noted (h : NotesSound db)
    (hev : Table.Evolves (NoteRow Nowhere) Plain db.billingDocuments p.billingDocuments)
    (hnote : documentType.isNote = true) : db.noted documentType k ≤ p.noted documentType k := by
  refine hev.le_sumWhere (fun d hd d' hrow => ?_) fun d hplain => (weight_of_plain hplain hnote).ge
  by_cases hdraft : d.status = .draft
  · obtain ⟨hzero, hzero'⟩ := h.weight_of_draft hnote hd hdraft hrow
    exact (hzero.trans hzero'.symm).le
  · exact (hrow.weight_eq documentType k hdraft).ge

theorem noted_nonneg (hok : db.ok = true) : 0 ≤ db.noted documentType k :=
  Table.sumWhere_nonneg fun _ hd => total_nonneg hok (Table.get_of_mem hd)

/-- Nothing is noted on a draft, nor on a document that does not exist. -/
theorem NotesSound.noted_eq_zero (h : NotesSound db) (hnote : documentType.isNote = true)
    (hk : ∀ d, db.billingDocuments.get k = some d → d.status = .draft) :
    db.noted documentType k = 0 := by
  refine Table.sumWhere_eq_zero fun n hn => ?_
  refine Bool.eq_false_iff.mpr fun hisNote => ?_
  obtain ⟨hkind, hparent, -⟩ := isNote_iff.mp hisNote
  obtain ⟨-, k', d, hparent', hd, hleft⟩ := h.parents n hn (by rw [hkind]; exact hnote)
  rw [hparent] at hparent'
  cases hparent'
  exact hleft (hk d hd)

/-- The invariant after a step that adds no note, if what is credited fits on the documents that
had left their draft. -/
theorem NotesSound.of_evolves (h : NotesSound db) (hok : p.ok = true)
    (hev : Table.Evolves (NoteRow X) Plain db.billingDocuments p.billingDocuments)
    (hwithin : ∀ k d, db.billingDocuments.get k = some d → d.documentType = .invoice →
      d.status ≠ .draft → p.noted .creditNote k ≤ d.totalAmount + p.noted .debitNote k) :
    NotesSound p where
  ok := hok
  parents n hn hnote := by
    rcases hev.mem hn with ⟨m, hm, -, hrow⟩ | ⟨-, hplain⟩
    · rw [hrow.kind] at hnote
      obtain ⟨hleft, k, d, hparent, hd, hd'⟩ := h.parents m hm hnote
      obtain ⟨d', hget, hstep⟩ := hev.kept hd
      exact ⟨(hrow.left hleft).1, k, d', hrow.parent.trans hparent, hget, (hstep.left hd').1⟩
    · exact absurd (hplain.symm.trans hnote) (by decide)
  within d' hd' hinvoice := by
    have hdebits : 0 ≤ p.noted .debitNote d'.id := noted_nonneg hok
    have htotal := total_nonneg hok (Table.get_of_mem hd')
    have hzero : (∀ d, db.billingDocuments.get d'.id = some d → d.status = .draft) →
        p.noted .creditNote d'.id ≤ d'.totalAmount + p.noted .debitNote d'.id := by
      intro hdraft
      have hcredits : p.noted .creditNote d'.id ≤ db.noted .creditNote d'.id := h.noted_le hev rfl
      rw [h.noted_eq_zero rfl hdraft] at hcredits
      omega
    rcases hev.mem hd' with ⟨d, hd, hid, hrow⟩ | ⟨hnone, -⟩
    · have hget : db.billingDocuments.get d'.id = some d := by
        rw [show d'.id = d.id from hid]
        exact Table.get_of_mem hd
      by_cases hdraft : d.status = .draft
      · refine hzero fun d₀ hd₀ => ?_
        rw [hget] at hd₀
        cases hd₀
        exact hdraft
      · rw [(hrow.left hdraft).2]
        exact hwithin _ d hget (hrow.kind.symm.trans hinvoice) hdraft
    · exact hzero fun d hd => nomatch hnone.symm.trans hd

/-- A step that adds no note and cancels nothing keeps the invariant. -/
theorem NotesSound.kept (h : NotesSound db) (hok : p.ok = true)
    (hev : Table.Evolves (NoteRow Nowhere) Plain db.billingDocuments p.billingDocuments) :
    NotesSound p := by
  refine h.of_evolves hok hev fun k d hd hinvoice _ => ?_
  have hcredits : p.noted .creditNote k ≤ db.noted .creditNote k := h.noted_le hev rfl
  have hdebits : db.noted .debitNote k ≤ p.noted .debitNote k := h.le_noted hev rfl
  have hwithin := h.within d (Table.mem_of_get hd) hinvoice
  rw [show d.id = k from Table.key_of_get hd] at hwithin
  omega

end Sound

/-! ## The calls -/

section Calls

variable {X : BillingDocument → Prop} {db p : Db} {d : BillingDocument} {now : Instant}
  {tenantId documentId : UUID}

/-- A call that adds no note, and cancels where `X` says. -/
def NotesKept (X : BillingDocument → Prop) (db p : Db) : Prop :=
  Table.Evolves (NoteRow X) Plain db.billingDocuments p.billingDocuments

theorem NotesKept.refl (h : p.billingDocuments = db.billingDocuments) : NotesKept X db p := by
  rw [NotesKept, h]
  exact .refl NoteRow.refl _

theorem NotesKept.trans {q : Db} (h : NotesKept Nowhere db p) (h' : NotesKept Nowhere p q) :
    NotesKept Nowhere db q := by
  refine Table.Evolves.trans (fun _ _ _ => NoteRow.trans) (fun d d' hplain hrow => ?_) h h'
  rw [Plain, hrow.kind]
  exact hplain

theorem notesKept_modify {f : BillingDocument → BillingDocument} {hf : ∀ d, (f d).id = d.id}
    (h : ∀ d, db.billingDocuments.get documentId = some d → NoteRow X d (f d)) :
    NotesKept X db (db.modifyDocument documentId f hf) := Table.evolves_modify hf NoteRow.refl h

theorem notesKept_modifyAll {c : BillingDocument → Bool} {f : BillingDocument → BillingDocument}
    {hf : ∀ d, (f d).id = d.id} (h : ∀ d, c d = true → NoteRow X d (f d)) :
    NotesKept X db { db with billingDocuments := db.billingDocuments.modifyAll c f hf } :=
  Table.evolves_modifyAll hf NoteRow.refl fun d _ => h d

/-- A draft may become anything, but for the kind of document it is. -/
theorem NoteRow.of_draft {d' : BillingDocument} (hdraft : d.status = .draft)
    (hkind : d'.documentType = d.documentType) (hparent : d'.parentDocumentId = d.parentDocumentId) :
    NoteRow X d d' :=
  ⟨hkind, hparent, fun hleft => absurd hdraft hleft,
    fun hdead => absurd (hdraft.symm.trans hdead) (by decide), fun hleft _ => absurd hdraft hleft⟩

theorem notesKept_settle {paidAt : Instant} {existing : Int} {amount : ℚ}
    (hd : db.billingDocuments.get d.id = some d) (hstatus : d.status = .issued ∨ d.status = .overdue)
    (h : settle now d existing amount paidAt db = .ok p) : NotesKept Nowhere db p := by
  rcases settle_cases h with ⟨-, rfl⟩ | ⟨-, rfl⟩
  · exact .refl rfl
  · refine notesKept_modify fun d' hd' => ?_
    rw [hd] at hd'
    cases hd'
    refine ⟨rfl, rfl, fun _ => ⟨nofun, rfl⟩, fun hdead => ?_, fun _ hdead => nomatch hdead⟩
    rcases hstatus with hs | hs <;> rw [hs] at hdead <;> cases hdead

theorem notesKept_reopen (now : Instant) (tenantId : UUID) : ∀ (ids : List UUID) (db : Db),
    NotesKept Nowhere db (ids.foldl (reopenIfUncovered now tenantId) db) := by
  intro ids
  induction ids with
  | nil => intro db; exact .refl rfl
  | cons id ids ih =>
    intro db
    refine NotesKept.trans ?_ (ih _)
    unfold reopenIfUncovered
    split
    · exact .refl rfl
    · next d hd =>
      split
      · next hopen =>
        refine notesKept_modify fun d' hd' => ?_
        rw [show d.id = id from Table.key_of_get hd, hd] at hd'
        cases hd'
        refine ⟨rfl, rfl, fun _ => ⟨?_, rfl⟩, fun hdead => ?_, fun _ hdead => ?_⟩
        · dsimp only; split <;> decide
        · cases hopen.1.symm.trans hdead
        · dsimp only at hdead; split at hdead <;> cases hdead
      · exact .refl rfl

theorem notesKept_registerPayment {userId a : UUID} {payload : ClientPaymentCreate}
    (h : registerPayment now tenantId userId payload db = .ok (a, p)) : NotesKept Nowhere db p := by
  rcases registerPayment_cases h with rfl | ⟨d, hd, -, hsettle⟩
  · exact .refl rfl
  · have hget : (allocate tenantId db.clientPayments.freshKey d.id payload.amount
        (addPayment tenantId userId payload db)).billingDocuments.get d.id = some d := hd.get
    have hpaid := notesKept_settle hget hd.status hsettle
    exact .trans (.refl rfl) hpaid

theorem notesKept_applyAdvance {paymentId a : UUID} {payload : ApplyAdvanceRequest}
    (h : applyAdvanceToInvoice now tenantId paymentId payload db = .ok (a, p)) :
    NotesKept Nowhere db p := by
  obtain ⟨pay, d, happlied⟩ := applyAdvance_cases h
  have hget : (allocate tenantId pay.id d.id payload.amountApplied db).billingDocuments.get d.id =
      some d := happlied.document.get
  have hpaid := notesKept_settle hget happlied.document.status happlied.settled
  exact .trans (.refl rfl) hpaid

theorem notesKept_voidPayment {paymentId userId a : UUID} {reason : String}
    (h : voidPayment now tenantId paymentId userId reason db = .ok (a, p)) : NotesKept Nowhere db p := by
  obtain ⟨pay, -, -, rfl⟩ := voidPayment_cases h
  exact .trans (.refl rfl) (notesKept_reopen now tenantId _ (withVoided now pay.id userId reason db))

theorem notesKept_transitionById {t : Transition} {a : UUID}
    (h : transitionById now tenantId documentId t db = .ok (a, p)) :
    NotesKept (fun d => t.cancels documentId d) db p := by
  obtain ⟨d, hd, _, ht, rfl⟩ := transitionById_cases h
  refine notesKept_modify fun d' hd' => ?_
  rw [hd] at hd'
  cases hd'
  refine ⟨rfl, rfl, fun _ => ⟨fun hdraft => ?_, rfl⟩, fun hdead => ?_, fun hleft hdead => .inr ?_⟩
  · change t.newStatus = .draft at hdraft
    rw [hdraft] at ht
    cases hs : d.status <;> rw [hs] at ht <;> simp [billingValidTransitions] at ht
  · rw [hdead] at ht
    cases ht
  · change t.newStatus = .cancelled at hdead
    refine ⟨Table.key_of_get hd, ?_, hdead⟩
    rw [hdead] at ht
    cases hs : d.status <;> rw [hs] at ht hleft <;> simp [billingValidTransitions] at ht hleft ⊢

theorem notesKept_markOverdue (now : Instant) :
    NotesKept Nowhere db (markOverdueBillingDocuments now db) := by
  refine notesKept_modifyAll fun d hc => ?_
  simp only [Bool.and_eq_true, decide_eq_true_eq] at hc
  exact ⟨rfl, rfl, fun _ => ⟨nofun, rfl⟩, fun hdead => absurd (hc.1.symm.trans hdead) (by decide),
    fun _ hdead => nomatch hdead⟩

theorem notesKept_issueDocument {selectBound : Bool} {issuedAt : Option Instant} {a : UUID}
    (h : issueDocument selectBound now tenantId documentId issuedAt db = .ok (a, p)) :
    NotesKept Nowhere db p := by
  rcases issueDocument_cases h with
    rfl | ⟨document, number, counters, terms, hdoc, -, hdraft, -, -, -, rfl⟩
  · exact .refl rfl
  · have hissued : NotesKept Nowhere db (db.modifyDocument documentId (issuedDocument number
        (issuedAt.getD now) terms (itemsOf tenantId documentId db))) := by
      refine notesKept_modify fun d hd => ?_
      rw [hdoc] at hd
      cases hd
      exact .of_draft hdraft rfl rfl
    exact hissued

theorem notesKept_confirmWorkshopInvoice {a : UUID}
    (h : confirmWorkshopInvoice now tenantId documentId db = .ok (a, p)) : NotesKept Nowhere db p := by
  rcases confirmWorkshopInvoice_cases h with rfl | ⟨document, hdoc, -, hdraft, rfl⟩
  · exact .refl rfl
  · rw [assignInvoiceNumber_snd]
    have hissued : NotesKept Nowhere db (db.modifyDocument documentId ({ · with
        invoiceNumber := some (assignInvoiceNumber tenantId document db).1
        status := .issued, issuedAt := some now })) := by
      refine notesKept_modify fun d hd => ?_
      rw [hdoc] at hd
      cases hd
      exact .of_draft hdraft rfl rfl
    exact hissued

theorem notesKept_cancelWorkshopDrafts (wo : WorkOrder) (reason : String) :
    NotesKept Nowhere db (cancelWorkshopDrafts tenantId wo reason db) := by
  refine notesKept_modifyAll fun d hc => ?_
  simp only [Bool.and_eq_true, decide_eq_true_eq] at hc
  exact .of_draft hc.1.2 rfl rfl

/-- A call that adds one document, no note, and leaves the others. -/
theorem notesKept_of_new (hnew : NewDocument db p documentId)
    (hplain : ∀ d, p.billingDocuments.get documentId = some d → Plain d) : NotesKept Nowhere db p where
  kept {k d} hd := by
    refine ⟨d, ?_, .refl d⟩
    rw [hnew.others k, hd]
    rintro rfl
    cases hd.symm.trans hnew.isNew
  added {k d'} hnone hd' := by
    by_cases hk : k = documentId
    · rw [hk] at hd'
      exact hplain d' hd'
    · rw [hnew.others k hk, hnone] at hd'
      cases hd'

theorem notesKept_createDocument {payload : BillingDocumentCreate} {a : UUID × List BillingItem}
    (h : createDocument now tenantId payload db = (.ok a, p)) : NotesKept Nowhere db p := by
  refine notesKept_of_new (newDocument_createDocument h).1 ?_
  refine createDocument_ind (P := fun p => ∀ d,
      p.billingDocuments.get db.billingDocuments.freshKey = some d → Plain d) h ?_ ?_ ?_
  · intro contract _ d hd
    simp only [drafted, addDraft, Db.modifyDocument, Table.get_modify, Table.get_insert, if_pos,
      Option.map_some, Option.some.injEq] at hd
    subst hd
    rw [Plain, (snapshotProfile_keeps _ _).1]
    rfl
  · exact fun _ _ _ _ _ hP _ => hP
  · intro items db' hP d hd
    simp only [withTotal, Db.modifyDocument, Table.get_modify, if_pos] at hd
    obtain ⟨d', hd', rfl⟩ := Option.map_eq_some_iff.mp hd
    exact hP d' hd'

theorem notesKept_createWorkshopInvoice [Locale] {workOrderId a : UUID} {w : Warehouse}
    (h : createWorkshopInvoice now tenantId workOrderId w db = .ok (a, p)) : NotesKept Nowhere db p := by
  unfold createWorkshopInvoice at h
  split at h
  · cases h
    exact .refl rfl
  · simp only [bind_eq_ok, pure, Except.pure, Except.ok.injEq, Prod.mk.injEq] at h
    obtain ⟨wo, _, _, _, _, _, _, rfl⟩ := h
    refine notesKept_of_new (newDocument_lines newDocument_insert).modify fun d hd => ?_
    simp only [workshopDrafted, Db.modifyDocument, Table.get_modify, if_pos, documents_lines,
      Table.get_insert, Option.map_some, Option.some.injEq] at hd
    subst hd
    rw [Plain, (snapshotProfile_keeps _ _).1]
    rfl

/-! ### Child documents -/

/-- The one document that a child is. -/
structure ChildRow (parent : BillingDocument) (c : ChildDocument) (n : BillingDocument) : Prop where
  kind : n.documentType = c.documentType
  parent : n.parentDocumentId = some parent.id
  status : n.status = .issued
  total : n.totalAmount = c.totalAmount

theorem rows_addChild (now : Instant) (tenantId : UUID) (parent : BillingDocument)
    (c : ChildDocument) (db : Db) : ∃ n, ChildRow parent c n ∧
      (addChild now tenantId parent c db).2.billingDocuments.rows = db.billingDocuments.rows ++ [n] := by
  refine ⟨numberedChild tenantId
    (assignInvoiceNumber tenantId (c.row now parent db.billingDocuments.freshKey)
      { db with billingDocuments := db.billingDocuments.insert (c.row now parent) }).1 db
    (c.row now parent db.billingDocuments.freshKey), ?_, ?_⟩
  · obtain ⟨hkind, hstatus, -, htotal, -⟩ := snapshotProfile_keeps (documentProfile tenantId db)
      (c.row now parent db.billingDocuments.freshKey)
    refine ⟨hkind, ?_, hstatus, htotal⟩
    unfold numberedChild snapshotProfile
    split <;> rfl
  · simp only [addChild]
    rw [assignInvoiceNumber_snd]
    exact Table.rows_insert_modify (c.row now parent) (fun _ => rfl) (numberedChild_id _ _ _)

theorem notesKept_addChild {parent : BillingDocument} {c : ChildDocument}
    (hkind : c.documentType.isNote = false) : NotesKept X db (addChild now tenantId parent c db).2 := by
  obtain ⟨n, hn, hrows⟩ := rows_addChild now tenantId parent c db
  refine Table.evolves_append NoteRow.refl hrows ?_
  rw [Plain, hn.kind]
  exact hkind

theorem notesKept_createReceipt {amount : ℚ} {a : UUID}
    (h : createReceipt now tenantId documentId amount db = .ok (a, p)) : NotesKept Nowhere db p := by
  simp only [createReceipt, bind_eq_ok, pure, Except.pure, Except.ok.injEq] at h
  obtain ⟨parent, -, h⟩ := h
  cases h
  exact notesKept_addChild rfl

theorem notesKept_createInvoiceReceipt {a : UUID}
    (h : createInvoiceReceipt now tenantId documentId db = .ok (a, p)) : NotesKept Nowhere db p := by
  simp only [createInvoiceReceipt, bind_eq_ok, pure, Except.pure, Except.ok.injEq,
    Prod.mk.injEq] at h
  obtain ⟨parent, hparent, -, rfl⟩ := h
  obtain ⟨hget, -, hstatus⟩ := requireParent_eq_ok hparent
  refine (notesKept_addChild rfl).trans (notesKept_modify fun d hd => ?_)
  -- the parent is as it was before the receipt was added
  have hsame : d = parent := by
    obtain ⟨n, hn, hrows⟩ := rows_addChild now tenantId parent
      { documentType := .invoiceReceipt, subtotal := parent.subtotal, taxAmount := parent.taxAmount
        totalAmount := parent.totalAmount, ivaRate := parent.ivaRate } db
    have hev : Table.Evolves Eq (fun _ => True) _ _ :=
      Table.evolves_append (fun _ => rfl) hrows trivial
    obtain ⟨d', hd', rfl⟩ := hev.kept hget
    exact Option.some.inj (hd.symm.trans hd')
  subst hsame
  refine ⟨rfl, rfl, fun _ => ⟨(fun h => by cases h), rfl⟩, fun hdead => ?_,
    fun _ hdead => by cases hdead⟩
  rw [hdead] at hstatus
  exact absurd hstatus (by decide)

/-- A note is added to a document that left its draft, and fits it. -/
theorem NotesSound.addNote (h : NotesSound db) {parent : BillingDocument} {c : ChildDocument}
    (hnote : c.documentType.isNote = true)
    (hok : (addChild now tenantId parent c db).2.ok = true)
    (hparent : db.billingDocuments.get documentId = some parent) (hleft : parent.status ≠ .draft)
    (hfits : c.documentType = .creditNote → db.noted .creditNote documentId + c.totalAmount ≤
      parent.totalAmount + db.noted .debitNote documentId) :
    NotesSound (addChild now tenantId parent c db).2 := by
  obtain ⟨n, hn, hrows⟩ := rows_addChild now tenantId parent c db
  generalize (addChild now tenantId parent c db).2 = p at hok hrows ⊢
  have hid : parent.id = documentId := Table.key_of_get hparent
  have hev : Table.Evolves Eq (· = n) db.billingDocuments p.billingDocuments :=
    Table.evolves_append (fun _ => rfl) hrows rfl
  have hnoted : ∀ documentType k, p.noted documentType k = db.noted documentType k +
      if n.isNote documentType k then n.totalAmount else 0 :=
    fun documentType k => Table.sumWhere_append hrows
  have hmem : n ∈ p.billingDocuments := by
    rw [Table.mem_def, hrows]
    exact List.mem_append_right _ List.mem_cons_self
  have htotal : 0 ≤ n.totalAmount := total_nonneg hok (Table.get_of_mem hmem)
  refine ⟨hok, fun m hm hnote' => ?_, fun d hd hinvoice => ?_⟩
  · have hparents : ∀ k d, db.billingDocuments.get k = some d → p.billingDocuments.get k = some d := by
      intro k d hd
      obtain ⟨d', hd', rfl⟩ := hev.kept hd
      exact hd'
    rcases hev.mem hm with ⟨m', hm', -, rfl⟩ | ⟨-, rfl⟩
    · obtain ⟨hstatus, k, d, hk, hd, hd'⟩ := h.parents m' hm' hnote'
      exact ⟨hstatus, k, d, hk, hparents k d hd, hd'⟩
    · refine ⟨?_, parent.id, parent, hn.parent, hparents _ _ (hid ▸ hparent), hleft⟩
      rw [hn.status]
      nofun
  · rcases hev.mem hd with ⟨d', hd', -, rfl⟩ | ⟨-, rfl⟩
    · have hwithin := h.within d' hd' hinvoice
      have hdebit : 0 ≤ if n.isNote .debitNote d'.id then n.totalAmount else 0 := by
        split
        · exact htotal
        · exact le_rfl
      rw [hnoted, hnoted]
      split
      · next hcredit =>
        obtain ⟨hkind, hon, -⟩ := isNote_iff.mp hcredit
        have hsame : d' = parent :=
          Table.eq_of_key hd' (Table.mem_of_get hparent) (Option.some.inj (hon.symm.trans hn.parent))
        have hroom := hfits (hn.kind.symm.trans hkind)
        rw [hsame] at hdebit ⊢
        rw [hn.total] at hdebit ⊢
        rw [hid] at hdebit ⊢
        omega
      · omega
    · rw [← hn.kind, hinvoice] at hnote
      cases hnote

theorem createNote_cases {documentType : DocType} {message : String} {amount : ℚ}
    {ivaRate : Option ℚ} {a : UUID}
    (h : createNote documentType message now tenantId documentId amount ivaRate db = .ok (a, p)) :
    ∃ parent, db.billingDocuments.get documentId = some parent ∧ parent.tenantId = tenantId ∧
      parent.status ∈ [DocStatus.issued, .paid] ∧
      p = (addChild now tenantId parent (noteAmounts documentType amount ivaRate) db).2 := by
  simp only [createNote, bind_eq_ok, pure, Except.pure, Except.ok.injEq] at h
  obtain ⟨parent, hparent, h⟩ := h
  obtain ⟨hget, htenant, hstatus⟩ := requireParent_eq_ok hparent
  cases h
  exact ⟨parent, hget, htenant, hstatus, rfl⟩

end Calls

/-! ## Runs -/

/-- The document of a note, where the call finds it in a status that lets it through. -/
def Db.noteParent (tenantId parentId : UUID) (db : Db) : Option BillingDocument :=
  (db.billingDocuments.get parentId).filter fun parent =>
    parent.tenantId = tenantId && parent.status ∈ [DocStatus.issued, .paid]

/-- A credit of `total` leaves no more credited on the document than its total and its debits. -/
def Db.fitsCredit (db : Db) (parent : BillingDocument) (total : Int) : Bool :=
  db.noted .creditNote parent.id + total ≤ parent.totalAmount + db.noted .debitNote parent.id

/-- A requested amount with its tax at the requested rate, or at the standard one, in cents. -/
def withTax (amount : ℚ) (ivaRate : Option ℚ) : Int :=
  let tax := quantize 2 (context (amount * ivaRate.getD defaultIvaRate))
  numeric 2 (context (amount + tax / 100))

/-- The transition is one that the document can take: it cancels it, with a reason. -/
def Transition.voids (t : Transition) (tenantId : UUID) (d : BillingDocument) : Bool :=
  d.tenantId = tenantId && t.newStatus = .cancelled && t.newStatus ∈ billingValidTransitions d.status &&
    (truthy t.cancellationReason).isSome

/-- A note that is let through is on an invoice, and a credit fits it with its tax; a debit note
that is cancelled is not needed for the credits of its invoice. -/
def InvoiceCall.withinInvoice (db : Db) : InvoiceCall → Bool
  | .document (.other (.createCreditNote _ tenantId parentId amount ivaRate)) =>
    (db.noteParent tenantId parentId).all fun parent => parent.documentType = .invoice &&
      db.fitsCredit parent (withTax amount ivaRate)
  | .document (.other (.createDebitNote _ tenantId parentId _ _)) =>
    (db.noteParent tenantId parentId).all fun parent => parent.documentType = .invoice
  | .document (.other (.transition _ tenantId documentId t)) =>
    (db.billingDocuments.get documentId).all fun d =>
      !(t.voids tenantId d && d.documentType = .debitNote) ||
      ((d.parentDocumentId.bind db.billingDocuments.get).all fun parent =>
        db.fitsCredit parent d.totalAmount)
  | _ => true

/-- The note is raised against an invoice that is issued, overdue or paid. -/
def Db.isOpenInvoice (documentId : UUID) (db : Db) : Prop :=
  ∃ d, db.billingDocuments.get documentId = some d ∧ d.documentType = .invoice ∧
    (d.status = .issued ∨ d.status = .overdue ∨ d.status = .paid)

def InvoiceCall.OnInvoice (db : Db) : InvoiceCall → Prop
  | .document (.other (.createCreditNote now tenantId parentId amount ivaRate)) =>
    (createCreditNote now tenantId parentId amount ivaRate db).isOk = true →
      db.isOpenInvoice parentId
  | .document (.other (.createDebitNote now tenantId parentId amount ivaRate)) =>
    (createDebitNote now tenantId parentId amount ivaRate db).isOk = true →
      db.isOpenInvoice parentId
  | _ => True

section Run

variable {selectBound : Bool} {db p : Db} {now : Instant} {tenantId documentId : UUID}

theorem noteParent_of_get {parent : BillingDocument}
    (hget : db.billingDocuments.get documentId = some parent) (htenant : parent.tenantId = tenantId)
    (hstatus : parent.status ∈ [DocStatus.issued, .paid]) :
    db.noteParent tenantId documentId = some parent := by
  rw [Db.noteParent, hget, Option.filter_some, if_pos]
  exact Bool.and_eq_true_iff.mpr ⟨decide_eq_true htenant, decide_eq_true hstatus⟩

theorem NotesSound.createNote {documentType : DocType} {message : String} {amount : ℚ}
    {ivaRate : Option ℚ} {a : UUID} (h : NotesSound db) (hnote : documentType.isNote = true)
    (hfits : documentType = .creditNote → (db.noteParent tenantId documentId).all fun parent =>
      db.fitsCredit parent (withTax amount ivaRate))
    (hrun : Rotas.createNote documentType message now tenantId documentId amount ivaRate db =
      .ok (a, p)) (hok : p.ok = true) : NotesSound p := by
  obtain ⟨parent, hget, htenant, hstatus, rfl⟩ := createNote_cases hrun
  refine h.addNote hnote hok hget ?_ fun hcredit => ?_
  · rintro hdraft
    rw [hdraft] at hstatus
    exact absurd hstatus (by decide)
  · have hroom := hfits hcredit
    rw [noteParent_of_get hget htenant hstatus, Option.all_some, Db.fitsCredit, decide_eq_true_eq,
      show parent.id = documentId from Table.key_of_get hget] at hroom
    exact hroom

theorem NotesSound.createDebitNote {amount : ℚ} {ivaRate : Option ℚ} {a : UUID} (h : NotesSound db)
    (hrun : Rotas.createDebitNote now tenantId documentId amount ivaRate db = .ok (a, p))
    (hok : p.ok = true) : NotesSound p := by
  have hnote : DocType.debitNote.isNote = true := rfl
  exact h.createNote hnote (fun hcredit => absurd hcredit (by decide)) hrun hok

theorem NotesSound.createCreditNote {amount : ℚ} {ivaRate : Option ℚ} {a : UUID} (h : NotesSound db)
    (hwithin : InvoiceCall.withinInvoice db
      (.document (.other (.createCreditNote now tenantId documentId amount ivaRate))) = true)
    (hrun : Rotas.createCreditNote now tenantId documentId amount ivaRate db = .ok (a, p))
    (hok : p.ok = true) : NotesSound p := by
  have hnote : DocType.creditNote.isNote = true := rfl
  refine h.createNote hnote (fun _ => ?_) hrun hok
  rw [InvoiceCall.withinInvoice, Option.all_eq_true] at hwithin
  rw [Option.all_eq_true]
  intro parent hparent
  exact (Bool.and_eq_true_iff.mp (hwithin parent hparent)).2

/-- What a transition makes of the notes: one may be cancelled. -/
theorem noted_transition {t : Transition} {a : UUID} {d : BillingDocument}
    (hrun : transitionById now tenantId documentId t db = .ok (a, p))
    (hd : db.billingDocuments.get documentId = some d) (documentType : DocType) (k : UUID) :
    p.noted documentType k = if d.isNote documentType k = true ∧ t.newStatus = .cancelled then
      db.noted documentType k - d.totalAmount else db.noted documentType k := by
  obtain ⟨d', hd', -, ht, rfl⟩ := transitionById_cases hrun
  rw [hd] at hd'
  cases hd'
  have hsum : Db.noted documentType k (db.modifyDocument documentId (t.apply now)) =
      db.noted documentType k -
        Table.weight (·.isNote documentType k) BillingDocument.totalAmount d +
        Table.weight (·.isNote documentType k) BillingDocument.totalAmount (t.apply now d) :=
    Table.sumWhere_modify (t.apply now) (fun _ => rfl) hd
  have hafter : (t.apply now d).isNote documentType k = true ↔
      d.isNote documentType k = true ∧ t.newStatus ≠ .cancelled := by
    rw [isNote_iff, isNote_iff]
    constructor
    · rintro ⟨hkind, hon, hlive⟩
      refine ⟨⟨hkind, hon, fun hdead => ?_⟩, hlive⟩
      rw [hdead] at ht
      cases ht
    · rintro ⟨⟨hkind, hon, -⟩, hlive⟩
      exact ⟨hkind, hon, hlive⟩
  have htotal : (t.apply now d).totalAmount = d.totalAmount := rfl
  rw [hsum, Table.weight, Table.weight, htotal]
  simp only [hafter]
  by_cases hnote : d.isNote documentType k = true <;>
    by_cases hcancel : t.newStatus = .cancelled <;> simp [hnote, hcancel]

/-- A transition that cancels a debit note leaves the credits of its invoice covered. -/
theorem NotesSound.transition {t : Transition} {a : UUID} (h : NotesSound db)
    (hwithin : InvoiceCall.withinInvoice db
      (.document (.other (.transition now tenantId documentId t))) = true)
    (hrun : transitionById now tenantId documentId t db = .ok (a, p)) (hok : p.ok = true) :
    NotesSound p := by
  have hkept := notesKept_transitionById hrun
  refine h.of_evolves hok hkept fun k parent hparent hinvoice _ => ?_
  have hcredits : p.noted .creditNote k ≤ db.noted .creditNote k := h.noted_le hkept rfl
  have hbefore := h.within parent (Table.mem_of_get hparent) hinvoice
  have hkey : parent.id = k := Table.key_of_get hparent
  rw [hkey] at hbefore
  obtain ⟨d, hd, htenant, hvalid, -⟩ := transitionById_cases hrun
  rw [noted_transition hrun hd .debitNote]
  split
  · next hdebit =>
    obtain ⟨hnote, hcancel⟩ := hdebit
    obtain ⟨hkind, hon, -⟩ := isNote_iff.mp hnote
    have hvoids : t.voids tenantId d = true := by
      simp [Transition.voids, htenant, hcancel, hcancel ▸ hvalid, transitionById_reason hrun hcancel]
    have hroom : db.fitsCredit parent d.totalAmount = true := by
      simpa [InvoiceCall.withinInvoice, hd, hvoids, hkind, hon, hparent] using hwithin
    rw [Db.fitsCredit, decide_eq_true_eq, hkey] at hroom
    omega
  · omega

/-- A refused call changes nothing; one that is let through is checked by the database. -/
theorem NotesSound.served {α : Type} {f : Db → Except Exc (α × Db)} (h : NotesSound db)
    (hf : ∀ a p, f db = .ok (a, p) → p.ok = true → NotesSound p) : NotesSound (perform f db) := by
  rcases perform_cases f db with hsame | ⟨a, hrun, hok⟩
  · rw [hsame]
    exact h
  · exact hf a _ hrun hok

theorem notesSound_ledgerCall (h : NotesSound db) (c : LedgerCall)
    (hwithin : InvoiceCall.withinInvoice db (.document (.other c)) = true) :
    NotesSound (c.serve selectBound db) := by
  cases c with
  | registerPayment => exact h.served fun _ _ hrun hok => h.kept hok (notesKept_registerPayment hrun)
  | applyAdvance => exact h.served fun _ _ hrun hok => h.kept hok (notesKept_applyAdvance hrun)
  | voidPayment => exact h.served fun _ _ hrun hok => h.kept hok (notesKept_voidPayment hrun)
  | transition => exact h.served fun _ _ hrun hok => h.transition hwithin hrun hok
  | markOverdue now =>
    refine h.served fun _ _ hrun hok => ?_
    cases hrun
    exact h.kept hok (notesKept_markOverdue now)
  | issueDocument => exact h.served fun _ _ hrun hok => h.kept hok (notesKept_issueDocument hrun)
  | confirmWorkshopInvoice =>
    exact h.served fun _ _ hrun hok => h.kept hok (notesKept_confirmWorkshopInvoice hrun)
  | createInvoiceReceipt =>
    exact h.served fun _ _ hrun hok => h.kept hok (notesKept_createInvoiceReceipt hrun)
  | createDebitNote => exact h.served fun _ _ hrun hok => h.createDebitNote hrun hok
  | createCreditNote => exact h.served fun _ _ hrun hok => h.createCreditNote hwithin hrun hok
  | createReceipt => exact h.served fun _ _ hrun hok => h.kept hok (notesKept_createReceipt hrun)

variable [Locale]

theorem notesSound_call (h : NotesSound db) (c : InvoiceCall) (hwithin : c.withinInvoice db = true) :
    NotesSound (c.step selectBound db) := by
  cases c with
  | document call =>
    cases call with
    | createDocument now tenantId payload =>
      exact serve_atomic_ind h fun _ _ hrun hok => h.kept hok (notesKept_createDocument hrun)
    | other call => exact notesSound_ledgerCall h call hwithin
  | createWorkshopInvoice =>
    exact h.served fun _ _ hrun hok => h.kept hok (notesKept_createWorkshopInvoice hrun)
  | cancelWorkOrder tenantId wo reason =>
    refine h.served fun _ _ hrun hok => ?_
    cases hrun
    exact h.kept hok (notesKept_cancelWorkshopDrafts wo reason)

omit [Locale] in
theorem isOpenInvoice_of_noteParent {documentType : DocType} {message : String} {amount : ℚ}
    {ivaRate : Option ℚ}
    (hinvoice : ∀ parent, db.noteParent tenantId documentId = some parent →
      parent.documentType = .invoice)
    (hok : (Rotas.createNote documentType message now tenantId documentId amount ivaRate db).isOk =
      true) : db.isOpenInvoice documentId := by
  obtain ⟨⟨a, p⟩, hrun⟩ := eq_ok_of_isOk hok
  obtain ⟨parent, hget, htenant, hstatus, -⟩ := createNote_cases hrun
  refine ⟨parent, hget, hinvoice parent (noteParent_of_get hget htenant hstatus), ?_⟩
  simp only [List.mem_cons, List.not_mem_nil, or_false] at hstatus
  rcases hstatus with hissued | hpaid
  · exact .inl hissued
  · exact .inr (.inr hpaid)

omit [Locale] in
theorem onInvoice_of_within {c : InvoiceCall} (hwithin : c.withinInvoice db = true) :
    c.OnInvoice db := by
  unfold InvoiceCall.withinInvoice at hwithin
  unfold InvoiceCall.OnInvoice
  split
  · next now tenantId parentId amount ivaRate =>
    refine isOpenInvoice_of_noteParent fun parent hparent => ?_
    have hboth := (Option.all_eq_true _ _).mp hwithin parent hparent
    exact of_decide_eq_true (Bool.and_eq_true_iff.mp hboth).1
  · next now tenantId parentId amount ivaRate =>
    refine isOpenInvoice_of_noteParent fun parent hparent => ?_
    exact of_decide_eq_true ((Option.all_eq_true _ _).mp hwithin parent hparent)
  · trivial

/-- There are no notes yet. -/
structure Db.Unnoted (db : Db) : Prop where
  ok : db.ok = true
  plain : ∀ d ∈ db.billingDocuments, Plain d

omit [Locale] in
theorem Db.Unnoted.sound (h : db.Unnoted) : NotesSound db where
  ok := h.ok
  parents n hn hnote := absurd ((h.plain n hn).symm.trans hnote) (by decide)
  within d hd _ := by
    have hzero : ∀ documentType, documentType.isNote = true → db.noted documentType d.id = 0 := by
      intro documentType hnote
      refine Table.sumWhere_eq_zero fun n hn => Bool.eq_false_iff.mpr fun hisNote => ?_
      have hplain := h.plain n hn
      rw [Plain, (isNote_iff.mp hisNote).1, hnote] at hplain
      cases hplain
    rw [hzero _ rfl, hzero _ rfl]
    have htotal := total_nonneg h.ok (Table.get_of_mem hd)
    omega

/-- From a database without notes, in every run whose notes are on invoices and whose credit notes
fit what is left to credit, no invoice has more credited than it and its debit notes come to, and
every note was raised against an issued, overdue or paid invoice. -/
theorem credit_within_invoice {calls : List InvoiceCall} (h : db.Unnoted)
    (hcalls : Run.Along (InvoiceCall.step selectBound) (fun db c => c.withinInvoice db = true) db
      calls) :
    (Run.exec (InvoiceCall.step selectBound) db calls).CreditWithin ∧
      Run.Along (InvoiceCall.step selectBound) (fun db c => c.OnInvoice db) db calls := by
  have hstep : ∀ db c, NotesSound db → InvoiceCall.withinInvoice db c = true →
      NotesSound (c.step selectBound db) := fun _ c hsound hc => notesSound_call hsound c hc
  exact ⟨(Run.exec_inv hstep h.sound hcalls).within,
    Run.along_inv hstep (fun _ _ _ hc => onInvoice_of_within hc) h.sound hcalls⟩

end Run

/-! ## More credit than there is -/

def creditNote (parentId : UUID) (amount : ℚ) : InvoiceCall :=
  .document (.other (.createCreditNote 500 1 parentId amount (some 0)))

def debitNote (parentId : UUID) (amount : ℚ) : InvoiceCall :=
  .document (.other (.createDebitNote 500 1 parentId amount (some 0)))

/-- A credit note, a debit note that makes room for another, and that other. -/
def fittingNotes : List InvoiceCall := [creditNote 1 (3 / 5), debitNote 1 (1 / 5), creditNote 1 (3 / 5)]

theorem unnoted_oneInvoice : oneInvoiceDb.Unnoted where
  ok := by decide +kernel
  plain d hd := by
    rw [List.mem_singleton.mp hd]
    rfl

theorem credit_within_invoice_notes :
    (Run.exec (@InvoiceCall.step .ascii false) oneInvoiceDb fittingNotes).CreditWithin ∧
      Run.Along (@InvoiceCall.step .ascii false) (fun db c => c.OnInvoice db) oneInvoiceDb
        fittingNotes :=
  @credit_within_invoice false oneInvoiceDb .ascii fittingNotes unnoted_oneInvoice (by decide +kernel)

/-- Two credit notes come to more than their invoice, and a third call credits the second note. -/
theorem over_credited :
    ¬ (Run.exec (@InvoiceCall.step .ascii false) oneInvoiceDb
        [creditNote 1 (3 / 5), creditNote 1 (3 / 5)]).CreditWithin ∧
      ¬ Run.Along (@InvoiceCall.step .ascii false) (fun db c => c.OnInvoice db) oneInvoiceDb
        [creditNote 1 (3 / 5), creditNote 2 (1 / 5)] := by
  refine ⟨by decide +kernel, ?_⟩
  rintro ⟨-, honNote, -⟩
  obtain ⟨d, hd, hkind, -⟩ := honNote (by decide +kernel)
  have hnote : ((@InvoiceCall.step .ascii false oneInvoiceDb (creditNote 1 (3 / 5))).billingDocuments.get
      2).map BillingDocument.documentType = some .creditNote := by decide +kernel
  rw [hd, Option.map_some, hkind] at hnote
  cases hnote

end Rotas
