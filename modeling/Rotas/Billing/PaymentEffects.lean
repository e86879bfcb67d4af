import Rotas.Billing.Sound
import Rotas.Lib.Interleave

/-!
# Rotas.Billing.PaymentEffects

Payments, advances and voids as transactions that run at the same time, and what their commits do to
the database and to what the others have read of it. Each read sees what is committed at that
instant; `register_payment` holds the row of its invoice from reading it on, the other two hold
nothing; what a transaction writes takes effect when it commits.

* `Registering`, `Applying`, `Voiding` — the requests.
* `VoidWork` — what a void has read and is about to write.
* `PayPhase`, `PayAction`, `payTurn` — the steps of a transaction.
* `PaymentsSafe` — no document and no payment is exceeded, and a paid document does not rest on a
  voided payment.
* `Progress`, `KeepsCovered`, `Frame` — what a commit leaves to the transactions under way.
* `effect_addPayment`, `effect_settle`, `effect_void` — the commits.
-/

namespace Rotas

open Interleave Decimal

/-! ## Requests -/

structure Registering where
  now : Instant
  tenantId : UUID
  userId : UUID
  payload : ClientPaymentCreate

structure Applying where
  now : Instant
  tenantId : UUID
  paymentId : UUID
  payload : ApplyAdvanceRequest

structure Voiding where
  now : Instant
  tenantId : UUID
  paymentId : UUID
  userId : UUID
  voidReason : String

/-- The database as the void sees it: its own payment is already voided. -/
def Voiding.view (v : Voiding) (db : Db) : Db :=
  withVoided v.now v.paymentId v.userId v.voidReason db

/-- What a void has read, and the invoices it is going to reopen. -/
structure VoidWork where
  allocations : List PaymentAllocation
  /-- The invoices it has not looked at yet. -/
  todo : List UUID
  /-- The rows of its session: a row is read once, and then taken from here. -/
  documents : List BillingDocument := []
  reopened : List BillingDocument := []

def VoidWork.start (allocations : List PaymentAllocation) : VoidWork where
  allocations
  todo := allocations.map PaymentAllocation.billingDocumentId

def VoidWork.cached (w : VoidWork) (id : UUID) : Option BillingDocument :=
  w.documents.find? (·.id = id)

/-- The next invoice is looked at. -/
def VoidWork.read (w : VoidWork) (d : BillingDocument) (rest : List UUID) : VoidWork :=
  { w with
    todo := rest
    documents := if (w.cached d.id).isSome then w.documents else d :: w.documents }

/-- The invoice is reopened, in the session and at the commit. -/
def VoidWork.reopen (w : VoidWork) (now : Instant) (d : BillingDocument) : VoidWork :=
  { w with
    documents := w.documents.map fun e =>
      if e.id = d.id then
        { e with
          status := if d.dueDate.any (· < now) then .overdue else .issued
          paidAt := none }
      else e
    reopened := w.reopened ++ [d] }

/-- The invoices that the void found paid. -/
def VoidWork.foundPaid (w : VoidWork) : List UUID :=
  (w.reopened ++ w.documents.filter (·.status = .paid)).map BillingDocument.id

/-! ## Turns -/

inductive PayPhase where
  | idle
  /-- The client is the tenant's. -/
  | client (r : Registering)
  /-- The invoice is read and its row is held. -/
  | held (r : Registering) (document : BillingDocument)
  | registered (r : Registering) (invoice : Option (BillingDocument × Int))
  | advance (a : Applying) (payment : ClientPayment)
  | target (a : Applying) (payment : ClientPayment) (document : BillingDocument)
  | fitting (a : Applying) (payment : ClientPayment) (document : BillingDocument) (applied : Int)
  | applied (a : Applying) (payment : ClientPayment) (document : BillingDocument)
      (applied existing : Int)
  | voidable (v : Voiding)
  | voiding (v : Voiding) (w : VoidWork)
  /-- The invoice was found paid, and what is left on it comes next. -/
  | covering (v : Voiding) (w : VoidWork) (document : BillingDocument)

inductive PayAction where
  | register (r : Registering)
  | apply (a : Applying)
  | void (v : Voiding)
  | readDocument
  | readApplied
  | readAllocations
  | readPaid
  | commit
  | rollback

/-- What is committed, and who holds which invoice. -/
structure PayStore where
  db : Db
  locks : Locks UUID := fun _ => none

def PayStore.abort (s : PayStore) (i : Nat) : PayStore := { s with locks := s.locks.release i }

/-- The next phase, or the end of the transaction when a check refuses it. -/
def PayStore.proceed {α : Type} (s : PayStore) (i : Nat) (r : Except Exc α)
    (next : α → PayPhase) : PayStore × PayPhase :=
  match r with
  | .error _ => (s.abort i, .idle)
  | .ok a => (s, next a)

/-- The end of the transaction: its writes, if the database takes them. -/
def PayStore.finish (s : PayStore) (i : Nat) (r : Except Exc Db) : PayStore × PayPhase :=
  match r with
  | .error _ => (s.abort i, .idle)
  | .ok db => if db.ok then ({ db, locks := s.locks.release i }, .idle) else (s.abort i, .idle)

/-- What a void writes. -/
def Voiding.write (v : Voiding) (w : VoidWork) (db : Db) : Db :=
  w.reopened.foldl (fun db d => reopen v.now d db) (v.view db)

/-- What the transaction writes when it commits; `none` while it has still something to read. -/
def PayPhase.writes (db : Db) : PayPhase → Option (Except Exc Db)
  | .registered r invoice => some (recordPayment r.now r.tenantId r.userId r.payload invoice db)
  | .applied a payment document _ existing =>
    some (applyAmount a.now a.tenantId a.payload payment document existing db)
  | .voiding v w => if w.todo.isEmpty then some (.ok (v.write w db)) else none
  | _ => none

/-- The turn of transaction `i`; `none` when it waits for a row or the step is not its next. -/
def payTurn (i : Nat) (act : PayAction) (s : PayStore) (p : PayPhase) :
    Option (PayStore × PayPhase) :=
  match act, p with
  | .register r, .idle =>
    some (s.proceed i (requireClient r.tenantId r.payload.clientId s.db) fun _ =>
      if r.payload.billingDocumentId.isSome then .client r else .registered r none)
  | .readDocument, .client r =>
    match r.payload.billingDocumentId with
    | none => none
    | some documentId =>
      if s.locks.available i documentId then
        some ({ s with locks := s.locks.take i documentId }.proceed i
          (payableDocument r.tenantId r.payload.clientId documentId s.db) (.held r))
      else none
  | .readPaid, .held r document =>
    some (s.proceed i (checkBalance "Payment amount exceeds remaining invoice balance" r.tenantId
      document r.payload.amount s.db) fun existing => .registered r (some (document, existing)))
  | .apply a, .idle =>
    some (s.proceed i (requireAdvance a.tenantId a.paymentId s.db) (.advance a))
  | .readDocument, .advance a payment =>
    some (s.proceed i (payableDocument a.tenantId payment.clientId a.payload.billingDocumentId s.db)
      (.target a payment))
  | .readApplied, .target a payment document =>
    some (s.proceed i (checkAdvance payment a.payload.amountApplied s.db)
      (.fitting a payment document))
  | .readPaid, .fitting a payment document applied =>
    some (s.proceed i (checkBalance "Amount applied exceeds remaining invoice balance" a.tenantId
      document a.payload.amountApplied s.db) (.applied a payment document applied))
  | .void v, .idle =>
    some (s.proceed i (requireVoidable v.tenantId v.paymentId s.db) fun _ => .voidable v)
  | .readAllocations, .voidable v =>
    some (s, .voiding v (.start (allocationsOf v.paymentId s.db)))
  | .readDocument, .voiding v w =>
    match w.todo with
    | [] => none
    | documentId :: rest =>
      match (w.cached documentId).or (s.db.billingDocuments.get documentId) with
      | none => some (s, .voiding v { w with todo := rest })
      | some d =>
        if d.status = .paid then some (s, .covering v (w.read d rest) d)
        else some (s, .voiding v (w.read d rest))
  | .readPaid, .covering v w d =>
    if sumConfirmedAllocations v.tenantId d.id (v.view s.db) < d.totalAmount then
      some (s, .voiding v (w.reopen v.now d))
    else some (s, .voiding v w)
  | .commit, p => (p.writes s.db).map (s.finish i)
  | .rollback, _ => some (s.abort i, .idle)
  | _, _ => none

/-! ## Safety -/

/-- The document has an allocation whose payment is not confirmed. -/
def Db.hasVoided (db : Db) (documentId : UUID) : Prop :=
  ∃ a ∈ db.paymentAllocations, a.billingDocumentId = documentId ∧ db.live a = false

def Covered (db : Db) (documentId : UUID) : Prop :=
  ∀ d, db.billingDocuments.get documentId = some d → d.totalAmount ≤ db.allocated documentId

structure PaymentsSafe (db : Db) : Prop where
  documents : ∀ d ∈ db.billingDocuments, db.allocated d.id ≤ d.totalAmount
  payments : ∀ p ∈ db.clientPayments, sumApplied p.id db ≤ p.amount
  /-- A paid document is covered without the allocations of voided payments. -/
  voided : ∀ d ∈ db.billingDocuments, d.status = .paid → db.hasVoided d.id →
    d.totalAmount ≤ db.allocated d.id

/-- A paid document with an allocation whose payment is not confirmed. -/
def Db.suspect (db : Db) (documentId : UUID) : Prop := db.isPaid documentId ∧ db.hasVoided documentId

theorem paymentsSafe_of_sound {db : Db} (h : Sound 0 db.suspect db) : PaymentsSafe db where
  documents _ hd := h.documents (Table.get_of_mem hd)
  payments _ hp := h.payments (Table.get_of_mem hp)
  voided d hd hpaid hvoided :=
    have hget := Table.get_of_mem hd
    h.covered ⟨isPaid_iff.mpr ⟨d, hget, hpaid⟩, hvoided⟩ hget

/-! ## What a commit leaves to the others -/

/-- Payments keep their tenant and amount and are not confirmed again, documents that left their
draft keep their tenant and total, and no allocation goes away. -/
structure Progress (db p : Db) : Prop where
  payments : ∀ {id pay}, db.clientPayments.get id = some pay →
    ∃ pay', p.clientPayments.get id = some pay' ∧ pay'.tenantId = pay.tenantId ∧
      pay'.amount = pay.amount ∧ (pay'.status = .confirmed → pay.status = .confirmed)
  documents : ∀ {id d}, db.billingDocuments.get id = some d →
    ∃ d', p.billingDocuments.get id = some d' ∧ d'.tenantId = d.tenantId ∧
      (d.status ≠ .draft → d'.status ≠ .draft ∧ d'.totalAmount = d.totalAmount)
  allocations : ∀ a ∈ db.paymentAllocations, a ∈ p.paymentAllocations

/-- A document that is paid afterwards is covered, if it was whenever it was paid before. -/
def KeepsCovered (db p : Db) : Prop :=
  ∀ id, p.isPaid id → (db.isPaid id → Covered db id) → Covered p id

/-- The document and what is confirmed on it are left alone. -/
def Frame (documentId : UUID) (db p : Db) : Prop :=
  p.billingDocuments.get documentId = db.billingDocuments.get documentId ∧
    ∀ tenantId, sumConfirmedAllocations tenantId documentId p =
      sumConfirmedAllocations tenantId documentId db

section Effects

variable {m : Int} {S : UUID → Prop} {db p q : Db} {tenantId documentId paymentId : UUID}

theorem Progress.of_docsStep (h : DocsStep db p) : Progress db p where
  payments hpay := ⟨_, by rw [h.payments]; exact hpay, rfl, rfl, fun hc => hc⟩
  documents := h.documents
  allocations a ha := by rw [h.allocations]; exact ha

theorem Progress.trans (h : Progress db p) (h' : Progress p q) : Progress db q where
  payments hpay := by
    obtain ⟨pay', hpay', ht, ham, hc⟩ := h.payments hpay
    obtain ⟨pay'', hpay'', ht', ham', hc'⟩ := h'.payments hpay'
    exact ⟨pay'', hpay'', ht'.trans ht, ham'.trans ham, fun h => hc (hc' h)⟩
  documents hd := by
    obtain ⟨d', hd', ht, hne⟩ := h.documents hd
    obtain ⟨d'', hd'', ht', hne'⟩ := h'.documents hd'
    refine ⟨d'', hd'', ht'.trans ht, fun hdraft => ?_⟩
    obtain ⟨hdraft', htotal⟩ := hne hdraft
    obtain ⟨hdraft'', htotal'⟩ := hne' hdraft'
    exact ⟨hdraft'', htotal'.trans htotal⟩
  allocations a ha := h'.allocations a (h.allocations a ha)

theorem Frame.trans (h : Frame documentId db p) (h' : Frame documentId p q) :
    Frame documentId db q :=
  ⟨h'.1.trans h.1, fun t => (h'.2 t).trans (h.2 t)⟩

theorem KeepsCovered.trans (h : KeepsCovered db p) (h' : KeepsCovered p q) : KeepsCovered db q :=
  fun id hpaid hcov => h' id hpaid fun hpaid' => h id hpaid' hcov

theorem covered_modifyDocument {f : BillingDocument → BillingDocument} {hf : ∀ d, (f d).id = d.id}
    (htotal : ∀ d, (f d).totalAmount = d.totalAmount) (id : UUID) :
    Covered (db.modifyDocument documentId f hf) id ↔ Covered db id := by
  have hsum : (db.modifyDocument documentId f hf).allocated id = db.allocated id := rfl
  have hget : (db.modifyDocument documentId f hf).billingDocuments.get id =
      if id = documentId then (db.billingDocuments.get documentId).map f
      else db.billingDocuments.get id := by
    simp only [Db.modifyDocument, Table.get_modify]
  simp only [Covered, hsum, hget]
  by_cases hid : id = documentId
  · subst hid
    cases db.billingDocuments.get id <;> simp [htotal]
  · simp only [if_neg hid]

theorem frame_modifyDocument {f : BillingDocument → BillingDocument} {hf : ∀ d, (f d).id = d.id}
    {id : UUID} (hne : id ≠ documentId) : Frame id db (db.modifyDocument documentId f hf) :=
  ⟨by simp only [Db.modifyDocument, Table.get_modify, if_neg hne], fun _ => rfl⟩

/-! ### A new payment -/

section AddPayment

variable {userId : UUID} {payload : ClientPaymentCreate}

theorem progress_addPayment : Progress db (addPayment tenantId userId payload db) where
  payments hpay := ⟨_, addPayment_get_of_some hpay, rfl, rfl, fun hc => hc⟩
  documents hd := ⟨_, hd, rfl, fun h => ⟨h, rfl⟩⟩
  allocations _ ha := ha

theorem keepsCovered_addPayment (hs : Sound m S db) :
    KeepsCovered db (addPayment tenantId userId payload db) := by
  intro id hpaid hcov d hd
  rw [allocated_addPayment _ _ _ hs]
  exact hcov hpaid d hd

theorem frame_addPayment (hs : Sound m S db) (id : UUID) :
    Frame id db (addPayment tenantId userId payload db) := by
  refine ⟨rfl, fun t => Table.sumWhere_congr fun a ha => ?_⟩
  obtain ⟨pay, _, hpay, _⟩ := hs.refs a ha
  simp only [PaymentAllocation.counts, addPayment_get_of_some hpay, hpay]

theorem hasVoided_addPayment (hs : Sound m S db) {id : UUID}
    (h : (addPayment tenantId userId payload db).hasVoided id) : db.hasVoided id := by
  obtain ⟨a, ha, hid, hlive⟩ := h
  obtain ⟨pay, _, hpay, _⟩ := hs.refs a ha
  refine ⟨a, ha, hid, ?_⟩
  rwa [Db.live, addPayment_get_of_some hpay, ← hpay] at hlive

end AddPayment

/-! ### A new allocation -/

section Allocate

variable {amount : ℚ}

theorem progress_allocate : Progress db (allocate tenantId paymentId documentId amount db) where
  payments hpay := ⟨_, hpay, rfl, rfl, fun hc => hc⟩
  documents hd := ⟨_, hd, rfl, fun h => ⟨h, rfl⟩⟩
  allocations _ ha := (Table.mem_insert _ _ fun _ => rfl).mpr (.inl ha)

theorem keepsCovered_allocate {pay : ClientPayment}
    (hpay : db.clientPayments.get paymentId = some pay) (hnonneg : 0 ≤ numeric 2 amount) :
    KeepsCovered db (allocate tenantId paymentId documentId amount db) := by
  intro id hpaid hcov d hd
  have hle := hcov hpaid d hd
  rw [allocated_allocate _ _ _ hpay]
  split <;> omega

theorem frame_allocate {id : UUID} (hne : id ≠ documentId) :
    Frame id db (allocate tenantId paymentId documentId amount db) := by
  refine ⟨rfl, fun t => ?_⟩
  simp only [sumConfirmedAllocations, allocate, Table.sumWhere_insert, hne.symm, decide_false,
    Bool.false_and, Bool.false_eq_true, if_false, add_zero]
  rfl

theorem hasVoided_allocate {pay : ClientPayment}
    (hpay : db.clientPayments.get paymentId = some pay) (hconf : pay.status = .confirmed) {id : UUID}
    (h : (allocate tenantId paymentId documentId amount db).hasVoided id) : db.hasVoided id := by
  obtain ⟨a, ha, hid, hlive⟩ := h
  rcases (Table.mem_insert _ _ fun _ => rfl).mp ha with ha | rfl
  · exact ⟨a, ha, hid, hlive⟩
  · have hget : (allocate tenantId paymentId documentId amount db).clientPayments.get paymentId =
        some pay := hpay
    simp [Db.live, hget, hconf] at hlive

end Allocate

/-! ### A voided payment -/

section Void

variable {v : Voiding}

theorem progress_view : Progress db (v.view db) where
  payments {id pay} hpay := by
    rw [Voiding.view, withVoided_get]
    split
    · next hid =>
      subst hid
      rw [hpay]
      exact ⟨_, rfl, rfl, rfl, nofun⟩
    · exact ⟨pay, hpay, rfl, rfl, fun hc => hc⟩
  documents hd := ⟨_, hd, rfl, fun h => ⟨h, rfl⟩⟩
  allocations _ ha := ha

theorem mem_affectedDocuments {a : PaymentAllocation} (ha : a ∈ db.paymentAllocations)
    (hpay : a.paymentId = paymentId) : a.billingDocumentId ∈ affectedDocuments paymentId db :=
  List.mem_map_of_mem (List.mem_filter.mpr ⟨ha, decide_eq_true hpay⟩)

theorem frame_view {id : UUID} (h : id ∉ affectedDocuments v.paymentId db) :
    Frame id db (v.view db) := by
  refine ⟨rfl, fun t => Table.sumWhere_congr fun a ha => ?_⟩
  by_cases hid : a.billingDocumentId = id
  · have hne : a.paymentId ≠ v.paymentId := fun he => h (hid ▸ mem_affectedDocuments ha he)
    simp only [PaymentAllocation.counts, Voiding.view, withVoided_get, if_neg hne]
  · simp [hid]

theorem covered_reopen (now : Instant) (d : BillingDocument) (id : UUID) :
    Covered (reopen now d db) id ↔ Covered db id := by
  rw [reopen]
  exact covered_modifyDocument (by intro d; rfl) id

theorem reopened_cases (now : Instant) : ∀ (ds : List BillingDocument) (db : Db),
    DocsStep db (ds.foldl (fun db d => reopen now d db) db) ∧
      ∀ id, ((ds.foldl (fun db d => reopen now d db) db).isPaid id →
          db.isPaid id ∧ id ∉ ds.map BillingDocument.id) ∧
        (Covered (ds.foldl (fun db d => reopen now d db) db) id ↔ Covered db id) ∧
        (id ∉ ds.map BillingDocument.id → Frame id db (ds.foldl (fun db d => reopen now d db) db)) := by
  intro ds
  induction ds with
  | nil =>
    exact fun db => ⟨.refl db, fun id => ⟨fun h => ⟨h, nofun⟩, .rfl, fun _ => ⟨rfl, fun _ => rfl⟩⟩⟩
  | cons d ds ih =>
    intro db
    obtain ⟨hstep, hrest⟩ := ih (reopen now d db)
    refine ⟨(docsOnly_reopen now d).toDocsStep.trans hstep, fun id => ?_⟩
    obtain ⟨hpaid, hcov, hframe⟩ := hrest id
    refine ⟨fun h => ?_, hcov.trans (covered_reopen now d id), fun h => ?_⟩
    · obtain ⟨hp, hne⟩ := hpaid h
      obtain ⟨hp, hd⟩ := isPaid_reopen now d hp
      exact ⟨hp, by simp [hd, hne]⟩
    · rw [List.map_cons, List.mem_cons, not_or] at h
      exact (frame_modifyDocument h.1).trans (hframe h.2)

/-- Without the payment, a document keeps what is allocated to it exactly if nothing of the payment
counted there. -/
theorem allocated_view_eq_iff (hs : Sound m S db) (id : UUID) :
    (v.view db).allocated id = db.allocated id ↔
      ∀ a ∈ db.paymentAllocations, a.billingDocumentId = id → a.paymentId = v.paymentId →
        db.live a = true → a.amountApplied = 0 := by
  have hmono : ∀ a ∈ db.paymentAllocations,
      (a.billingDocumentId = id && (v.view db).live a) = true →
        (a.billingDocumentId = id && db.live a) = true := by
    intro a _ h
    simp only [Voiding.view, withVoided_live, Bool.and_eq_true] at h
    simp only [Bool.and_eq_true]
    exact ⟨h.1, h.2.1⟩
  refine (Table.sumWhere_eq_iff hmono fun a ha => hs.amount_nonneg ha).trans ?_
  refine forall₂_congr fun a _ => ?_
  simp only [Voiding.view, withVoided_live, Bool.and_eq_true, decide_eq_true_eq]
  constructor
  · intro h hid hpay hlive
    exact h ⟨hid, hlive⟩ (by simp [hpay])
  · intro h hlive hnot
    refine h hlive.1 ?_ hlive.2
    simpa [hlive.1, hlive.2] using hnot

end Void

/-! ### Commits -/

/-- What a commit keeps, apart from the documents it touches. -/
structure Effect (touched : UUID → Prop) (db p : Db) : Prop where
  sound : Sound 0 p.suspect p
  progress : Progress db p
  covered : KeepsCovered db p
  frame : ∀ {id}, ¬ touched id → Frame id db p

theorem Effect.comp {touched : UUID → Prop} (h : Effect (fun _ => False) db p)
    (h' : Effect touched p q) : Effect touched db q where
  sound := h'.sound
  progress := h.progress.trans h'.progress
  covered := h.covered.trans h'.covered
  frame hid := (h.frame id).trans (h'.frame hid)

theorem effect_addPayment {userId : UUID} {payload : ClientPaymentCreate}
    (hs : Sound 0 db.suspect db) :
    Effect (fun _ => False) db (addPayment tenantId userId payload db) where
  sound := (sound_addPayment hs).mono fun _ h => ⟨h.1, hasVoided_addPayment hs h.2⟩
  progress := progress_addPayment
  covered := keepsCovered_addPayment hs
  frame _ := frame_addPayment hs _

theorem isPaid_not_draft {id : UUID} (h : db.suspect id) :
    ∃ d, db.billingDocuments.get id = some d ∧ d.status ≠ .draft :=
  settled_not_draft (fun _ h => h.1) h

theorem effect_settle {now paidAt : Instant} {pay : ClientPayment} {d d' : BillingDocument}
    {existing : Int} {amount : ℚ} (hs : Sound 0 db.suspect db)
    (hpay : db.clientPayments.get paymentId = some pay) (hconf : pay.status = .confirmed)
    (hpt : pay.tenantId = d'.tenantId) (hd : db.billingDocuments.get d.id = some d')
    (htotal : d'.totalAmount = d.totalAmount) (hdraft : d'.status ≠ .draft) (ha : 0 < amount)
    (hcarry : ¬ Carries d.totalAmount existing amount)
    (hrest : amount ≤ money (d.totalAmount - existing)) (hex : db.allocated d.id ≤ existing)
    (hcovers : Covers d.totalAmount existing amount → existing ≤ db.allocated d.id)
    (happly : sumApplied paymentId db + numeric 2 amount ≤ pay.amount) (hok : p.ok = true)
    (h : settle now d existing amount paidAt (allocate tenantId paymentId d.id amount db) = .ok p) :
    Effect (· = d.id) db p := by
  have hnonneg := numeric_nonneg ha.le
  have hsound := sound_settle hs hpay hconf hpt hd htotal hdraft ha hnonneg hcarry hrest hex hcovers
    happly (fun _ => isPaid_not_draft) hok h
  have hpaid : ∀ {id}, p.isPaid id → ¬ db.isPaid id → id = d.id ∧ Covers d.totalAmount existing amount :=
    fun hp hnot => covers_of_settle h hp hnot
  constructor
  case sound =>
    refine hsound.mono fun id hid => ?_
    have hvoided : (allocate tenantId paymentId d.id amount db).hasVoided id := by
      rcases settle_cases h with ⟨_, rfl⟩ | ⟨_, rfl⟩
      · exact hid.2
      · exact hid.2
    by_cases hold : db.isPaid id
    · exact .inl ⟨hold, hasVoided_allocate hpay hconf hvoided⟩
    · exact .inr (hpaid hid.1 hold)
  case progress =>
    have halloc : Progress db (allocate tenantId paymentId d.id amount db) := progress_allocate
    rcases settle_cases h with ⟨_, rfl⟩ | ⟨_, rfl⟩
    · exact halloc
    · exact halloc.trans (.of_docsStep (docsStep_paid ..))
  case covered =>
    intro id hp hcov
    by_cases hsettled : id = d.id ∧ Covers d.totalAmount existing amount
    · exact fun d₁ hd₁ => hsound.covered (.inr hsettled) hd₁
    · have hold : db.isPaid id := by_contra fun hnot => hsettled (hpaid hp hnot)
      have halloc : Covered (allocate tenantId paymentId d.id amount db) id :=
        keepsCovered_allocate hpay hnonneg id hold fun _ => hcov hold
      rcases settle_cases h with ⟨_, rfl⟩ | ⟨_, rfl⟩
      · exact halloc
      · exact (covered_modifyDocument (by intro d; rfl) id).mpr halloc
  case frame =>
    intro id hid
    have halloc : Frame id db (allocate tenantId paymentId d.id amount db) := frame_allocate hid
    rcases settle_cases h with ⟨_, rfl⟩ | ⟨_, rfl⟩
    · exact halloc
    · exact halloc.trans (frame_modifyDocument hid)

/-- A document that the void found paid and covered without the payment: nothing of the payment
counted there, and it has been covered whenever it was paid. -/
structure Spared (db : Db) (v : Voiding) (allocations : List PaymentAllocation)
    (documentId : UUID) : Prop where
  unused : ∀ {pay}, db.clientPayments.get v.paymentId = some pay → pay.status = .confirmed →
    ∀ a ∈ allocations, a.billingDocumentId = documentId → a.amountApplied = 0
  covered : db.isPaid documentId → Covered db documentId

section EffectVoid

variable {v : Voiding} {w : VoidWork}

/-- A document that is still paid after the void is covered without its payment. -/
theorem covered_view (hs : Sound m S db) (hallocs : allocationsOf v.paymentId db = w.allocations)
    (hfound : ∀ a ∈ w.allocations, db.isPaid a.billingDocumentId → a.billingDocumentId ∈ w.foundPaid)
    (hspared : ∀ e ∈ w.documents, e.status = .paid → Spared db v w.allocations e.id) {id : UUID}
    (hpaid : (v.write w db).isPaid id)
    (hcov : id ∉ affectedDocuments v.paymentId db → Covered db id) : Covered (v.view db) id := by
  obtain ⟨hpaid, hreopened⟩ := ((reopened_cases v.now w.reopened (v.view db)).2 id).1 hpaid
  have hpaid' : db.isPaid id := hpaid
  by_cases haff : id ∈ affectedDocuments v.paymentId db
  · rw [affectedDocuments, hallocs] at haff
    obtain ⟨a, ha, rfl⟩ := List.mem_map.mp haff
    obtain ⟨e, he, heid⟩ := List.mem_map.mp (hfound a ha hpaid')
    rcases List.mem_append.mp he with he | he
    · exact absurd (List.mem_map.mpr ⟨e, he, heid⟩) hreopened
    · obtain ⟨he, hstatus⟩ := List.mem_filter.mp he
      have hsp := hspared e he (of_decide_eq_true hstatus)
      rw [heid] at hsp
      have hsum := (allocated_view_eq_iff (v := v) hs a.billingDocumentId).mpr
        fun b hb hid hpid hlive => by
          obtain ⟨pay, hpay, hconf⟩ := (Option.any_eq_true _ _).mp hlive
          rw [hpid] at hpay
          refine hsp.unused hpay (of_decide_eq_true hconf) b ?_ hid
          rw [← hallocs]
          exact List.mem_filter.mpr ⟨hb, decide_eq_true hpid⟩
      intro d hd
      rw [hsum]
      exact hsp.covered hpaid' d hd
  · intro d hd
    rw [Voiding.view, withVoided_allocated_eq haff]
    exact hcov haff d hd

theorem effect_void (hs : Sound 0 db.suspect db)
    (hallocs : allocationsOf v.paymentId db = w.allocations)
    (hfound : ∀ a ∈ w.allocations, db.isPaid a.billingDocumentId → a.billingDocumentId ∈ w.foundPaid)
    (hreopened : ∀ e ∈ w.reopened, e.id ∈ affectedDocuments v.paymentId db)
    (hspared : ∀ e ∈ w.documents, e.status = .paid → Spared db v w.allocations e.id)
    (hok : (v.write w db).ok = true) :
    Effect (· ∈ affectedDocuments v.paymentId db) db (v.write w db) := by
  obtain ⟨hstep, hcases⟩ := reopened_cases v.now w.reopened (v.view db)
  have hview : Sound 0 (v.write w db).suspect (v.view db) :=
    { sound_withVoided v.now v.paymentId v.userId v.voidReason hs with
      covered := fun {id d} hid hd => by
        refine covered_view hs hallocs hfound hspared hid.1 (fun haff d₀ hd₀ => ?_) d hd
        refine hs.covered ⟨((hcases id).1 hid.1).1, ?_⟩ hd₀
        obtain ⟨a, ha, haid, hlive⟩ := hid.2
        rw [Voiding.write, hstep.allocations] at ha
        refine ⟨a, ha, haid, ?_⟩
        have hne : a.paymentId ≠ v.paymentId := fun he => haff (haid ▸ mem_affectedDocuments ha he)
        have hlive' : (v.view db).live a = false := by
          rw [← hlive, Voiding.write, Db.live, Db.live, hstep.payments]
        rw [Voiding.view, withVoided_live] at hlive'
        simpa [hne] using hlive' }
  constructor
  case sound =>
    exact hview.docsStep hstep hok fun id hid =>
      settled_not_draft (fun _ h => ((hcases _).1 h.1).1) hid
  case progress => exact progress_view.trans (.of_docsStep hstep)
  case covered =>
    intro id hpaid hcov
    rw [Voiding.write, (hcases id).2.1]
    exact covered_view hs hallocs hfound hspared hpaid fun _ => hcov ((hcases id).1 hpaid).1
  case frame =>
    intro id haff
    refine (frame_view haff).trans ((hcases id).2.2 fun hmem => haff ?_)
    obtain ⟨e, he, rfl⟩ := List.mem_map.mp hmem
    exact hreopened e he

end EffectVoid

end Effects

end Rotas
