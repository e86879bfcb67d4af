import Rotas.Billing.Sound
import Rotas.Lib.Run

/-!
# Rotas.Billing.Ledger

The receivables ledger over serial runs of payments and document transitions.

* `Ledger` — the database, with the documents that a payment set to paid.
* `Balanced` — what the ledger promises of documents, payments and allocations.
* `sound_registerPayment`, `sound_applyAdvance`, `sound_voidPayment` — what each operation keeps.
* `ledger_balanced` — every run whose amounts the columns can hold stays balanced.
* `cent_fraction_unbalanced` — an amount below half a cent is stored as zero.
-/

namespace Rotas

open Work Decimal

/-! ## What the ledger promises -/

/-- The live allocations of a payment. -/
def Db.applied (db : Db) (paymentId : UUID) : Int :=
  db.paymentAllocations.sumWhere (fun a => a.paymentId = paymentId && db.live a)
    PaymentAllocation.amountApplied

/-- The database, and the documents that a payment set to paid and that are still paid. -/
structure Ledger where
  db : Db
  settled : List UUID := []

structure Balanced (l : Ledger) : Prop where
  documents : ∀ d ∈ l.db.billingDocuments, l.db.allocated d.id ≤ d.totalAmount
  payments : ∀ p ∈ l.db.clientPayments, l.db.applied p.id ≤ p.amount
  positive : ∀ a ∈ l.db.paymentAllocations, 0 < a.amountApplied
  settled : ∀ d ∈ l.db.billingDocuments, d.id ∈ l.settled → l.db.allocated d.id = d.totalAmount

/-- Documents and payments that are not exceeded, allocations of at least a cent, and covered
documents make a balanced ledger. -/
theorem balanced_of_sound {l : Ledger} (h : Sound 1 (· ∈ l.settled) l.db) : Balanced l where
  documents d hd := h.documents (Table.get_of_mem hd)
  payments p hp := by
    refine le_trans ?_ (h.payments (Table.get_of_mem hp))
    refine Table.sumWhere_le (fun a _ ha => ?_) fun a ha => h.amount_nonneg ha
    simp only [Bool.and_eq_true] at ha
    exact ha.1
  positive := h.least
  settled d hd hs :=
    le_antisymm (h.documents (Table.get_of_mem hd)) (h.covered hs (Table.get_of_mem hd))

section Operations

variable {S : UUID → Prop} {db p : Db} {tenantId documentId paymentId : UUID}

theorem sound_registerPayment {now : Instant} {userId a : UUID} {payload : ClientPaymentCreate}
    (hs : Sound 1 S db) (hSpaid : ∀ id, S id → db.isPaid id) (hok : p.ok = true)
    (hfits : ∀ d existing, registerChecks tenantId payload db = .ok (some (d, existing)) →
      AmountFits d.totalAmount existing payload.amount)
    (h : registerPayment now tenantId userId payload db = .ok (a, p)) :
    Sound 1 (fun id => S id ∨ ¬ db.isPaid id ∧ p.isPaid id) p := by
  rcases registerPayment_cases h with rfl | ⟨d, hd, hchecks, hsettle⟩
  · exact (sound_addPayment hs).mono fun id h => h.elim (fun h => h) fun h => (h.1 h.2).elim
  · have hfit := hfits d _ hchecks
    have hrest := hd.rest
    rw [hs.sumConfirmed hd.get hd.tenant, ← allocated_addPayment tenantId userId payload hs]
      at hfit hrest hsettle
    refine (sound_settle (sound_addPayment hs) (addPayment_get_self ..) rfl hd.tenant.symm hd.get
      rfl (not_draft_of_payable hd.status) payload.positive (one_le_numeric hfit.1) hfit.2 hrest le_rfl
      (fun _ => le_rfl) (sumApplied_addPayment hs) (fun id hS => settled_not_draft hSpaid hS) hok
      hsettle).mono ?_
    rintro id (hS | ⟨hold, hnew⟩)
    · exact .inl hS
    · exact .inr (covers_of_settle hsettle hnew hold)

theorem sound_applyAdvance {now : Instant} {a : UUID} {payload : ApplyAdvanceRequest}
    (hs : Sound 1 S db) (hSpaid : ∀ id, S id → db.isPaid id) (hdb : db.ok = true) (hok : p.ok = true)
    (hfits : ∀ pay d existing, applyChecks tenantId paymentId payload.billingDocumentId
      payload.amountApplied db = .ok (pay, d, existing) →
      AmountFits d.totalAmount existing payload.amountApplied)
    (h : applyAdvanceToInvoice now tenantId paymentId payload db = .ok (a, p)) :
    Sound 1 (fun id => S id ∨ ¬ db.isPaid id ∧ p.isPaid id) p := by
  obtain ⟨pay, d, happlied⟩ := applyAdvance_cases h
  have hd := happlied.document
  have hpay := happlied.payment
  have hfit := hfits pay d _ happlied.checks
  have hrest := hd.rest
  have hsettle := happlied.settled
  rw [hs.sumConfirmed hd.get hd.tenant] at hfit hrest hsettle
  have hbound := add_numeric_le (sumApplied_nonneg hs) payload.positive (amount_lt hdb hpay)
    happlied.fits
  refine (sound_settle hs hpay happlied.confirmed (happlied.tenant.trans hd.tenant.symm) hd.get rfl
    (not_draft_of_payable hd.status) payload.positive (one_le_numeric hfit.1) hfit.2 hrest le_rfl (fun _ => le_rfl) hbound
    (fun id hS => settled_not_draft hSpaid hS) hok hsettle).mono ?_
  rintro id (hS | ⟨hold, hnew⟩)
  · exact .inl hS
  · exact .inr (covers_of_settle hsettle hnew hold)

theorem sound_voidPayment {now : Instant} {userId a : UUID} {reason : String} (hs : Sound 1 S db)
    (hSpaid : ∀ id, S id → db.isPaid id) (hok : p.ok = true)
    (h : voidPayment now tenantId paymentId userId reason db = .ok (a, p)) :
    Sound 1 (fun id => S id ∧ p.isPaid id) p := by
  obtain ⟨pay, hpay, hten, rfl⟩ := voidPayment_cases h
  have hv := sound_withVoided now pay.id userId reason hs
  obtain ⟨hstep, hcover⟩ := reopen_all now tenantId (affectedDocuments pay.id db)
    (withVoided now pay.id userId reason db)
  refine (hv.docsStep hstep.toDocsStep hok fun id hid => settled_not_draft hSpaid hid.1).mono ?_
  rintro id ⟨hS, hpaid⟩
  refine ⟨hS, fun d hd => ?_⟩
  by_cases haff : id ∈ affectedDocuments pay.id db
  · rw [← hv.sumConfirmed hd (hs.affected_tenant hpay haff hd |>.trans hten)]
    exact (hcover hd hpaid).2 haff
  · rw [withVoided_allocated_eq haff]
    exact hs.covered hS hd

end Operations

/-! ## Runs -/

/-- One call, and the documents that are settled after it: those that were, and those that this
call paid, as far as they are still paid. -/
def Ledger.step (selectBound : Bool) (l : Ledger) (c : LedgerCall) : Ledger :=
  let db := c.serve selectBound l.db
  let ids := db.billingDocuments.rows.map BillingDocument.id
  let paidNow := if c.pays then ids.filter fun id => !l.db.isPaid id else []
  { db, settled := (l.settled ++ paidNow).filter db.isPaid }

/-- The amount that the call allocates, if its checks pass, can be held by the columns. -/
def LedgerCall.fits (db : Db) : LedgerCall → Bool
  | .registerPayment _ tenantId _ payload =>
    match registerChecks tenantId payload db with
    | .ok (some (d, existing)) => AmountFits d.totalAmount existing payload.amount
    | _ => true
  | .applyAdvance _ tenantId paymentId payload =>
    match applyChecks tenantId paymentId payload.billingDocumentId payload.amountApplied db with
    | .ok (_, d, existing) => AmountFits d.totalAmount existing payload.amountApplied
    | _ => true
  | _ => true

/-- What every state of a run satisfies. -/
structure Ledger.Inv (l : Ledger) : Prop where
  ok : l.db.ok = true
  paid : ∀ id ∈ l.settled, l.db.isPaid id
  sound : Sound 1 (· ∈ l.settled) l.db

section Run

variable {selectBound : Bool} {l : Ledger}

theorem mem_step {c : LedgerCall} {id : UUID} (h : id ∈ (l.step selectBound c).settled) :
    (c.serve selectBound l.db).isPaid id ∧
      (id ∈ l.settled ∨ c.pays = true ∧ ¬ l.db.isPaid id) := by
  simp only [Ledger.step, List.mem_filter, List.mem_append] at h
  obtain ⟨hmem, hpaid⟩ := h
  refine ⟨hpaid, hmem.imp_right fun hnew => ?_⟩
  split at hnew
  · next hpays => exact ⟨hpays, by simpa using (List.mem_filter.mp hnew).2⟩
  · cases hnew

/-- A call that pays keeps the invariant when it is sound with what it settles. -/
theorem inv_step_of_sound {c : LedgerCall} (hok : (c.serve selectBound l.db).ok = true)
    (hs : Sound 1 (fun id => id ∈ l.settled ∧ (c.serve selectBound l.db).isPaid id ∨
      c.pays = true ∧ ¬ l.db.isPaid id ∧ (c.serve selectBound l.db).isPaid id)
      (c.serve selectBound l.db)) : (l.step selectBound c).Inv where
  ok := hok
  paid id hid := (mem_step hid).1
  sound := hs.mono fun id hid => by
    obtain ⟨hpaid, hold | ⟨hpays, hnew⟩⟩ := mem_step hid
    · exact .inl ⟨hold, hpaid⟩
    · exact .inr ⟨hpays, hnew, hpaid⟩

theorem inv_step_of_docsStep (hI : l.Inv) {c : LedgerCall} (hc : c.pays = false)
    (hok : (c.serve selectBound l.db).ok = true)
    (hstep : DocsStep l.db (c.serve selectBound l.db)) : (l.step selectBound c).Inv := by
  refine inv_step_of_sound hok ((hI.sound.docsStep hstep hok fun id hid =>
    settled_not_draft hI.paid hid).mono ?_)
  rintro id (⟨hid, _⟩ | ⟨hpays, _⟩)
  · exact hid
  · rw [hc] at hpays; cases hpays

theorem inv_step_of_eq (hI : l.Inv) {c : LedgerCall} (h : c.serve selectBound l.db = l.db) :
    (l.step selectBound c).Inv := by
  refine inv_step_of_sound (by rw [h]; exact hI.ok) ?_
  rw [h]
  refine hI.sound.mono ?_
  rintro id (⟨hid, _⟩ | ⟨_, hnot, hpaid⟩)
  · exact hid
  · exact absurd hpaid hnot

theorem inv_step {c : LedgerCall} (hI : l.Inv) (hfits : c.fits l.db) :
    (l.step selectBound c).Inv := by
  have hdocs : ∀ {α : Type} {f : Db → Except Exc (α × Db)}, c.pays = false →
      c.serve selectBound l.db = perform f l.db →
      (∀ a p, f l.db = .ok (a, p) → DocsStep l.db p) → (l.step selectBound c).Inv := by
    intro α f hc hserve hf
    rcases perform_cases f l.db with h | ⟨a, ha, hok⟩
    · exact inv_step_of_eq hI (hserve.trans h)
    · exact inv_step_of_docsStep hI hc (by rw [hserve]; exact hok) (by rw [hserve]; exact hf a _ ha)
  cases c with
  | registerPayment now tenantId userId payload =>
    rcases perform_cases (registerPayment now tenantId userId payload) l.db with h | ⟨a, ha, hok⟩
    · exact inv_step_of_eq hI h
    · refine inv_step_of_sound hok ((sound_registerPayment hI.sound hI.paid hok ?_ ha).mono ?_)
      · intro d existing hchecks
        simpa only [LedgerCall.fits, hchecks, decide_eq_true_eq] using hfits
      · rintro id (⟨hid, _⟩ | ⟨_, hnew⟩)
        · exact .inl hid
        · exact .inr hnew
  | applyAdvance now tenantId paymentId payload =>
    rcases perform_cases (applyAdvanceToInvoice now tenantId paymentId payload) l.db with
      h | ⟨a, ha, hok⟩
    · exact inv_step_of_eq hI h
    · refine inv_step_of_sound hok
        ((sound_applyAdvance hI.sound hI.paid hI.ok hok ?_ ha).mono ?_)
      · intro pay d existing hchecks
        simpa only [LedgerCall.fits, hchecks, decide_eq_true_eq] using hfits
      · rintro id (⟨hid, _⟩ | ⟨_, hnew⟩)
        · exact .inl hid
        · exact .inr hnew
  | voidPayment now tenantId paymentId userId voidReason =>
    rcases perform_cases (voidPayment now tenantId paymentId userId voidReason) l.db with
      h | ⟨a, ha, hok⟩
    · exact inv_step_of_eq hI h
    · refine inv_step_of_sound hok ((sound_voidPayment hI.sound hI.paid hok ha).mono ?_)
      rintro id (hid | ⟨hpays, _⟩)
      · exact hid
      · cases hpays
  | transition => exact hdocs rfl rfl fun _ _ h => (docsOnly_transitionById h).toDocsStep
  | markOverdue =>
    exact hdocs rfl rfl fun _ _ h => by cases h; exact (docsOnly_markOverdue _).toDocsStep
  | issueDocument => exact hdocs rfl rfl fun _ _ h => docsStep_issueDocument h
  | confirmWorkshopInvoice =>
    exact hdocs rfl rfl fun _ _ h => (docsOnly_confirmWorkshopInvoice h).toDocsStep
  | createInvoiceReceipt =>
    exact hdocs rfl rfl fun _ _ h => (docsOnly_createInvoiceReceipt h).toDocsStep
  | createDebitNote => exact hdocs rfl rfl fun _ _ h => (docsOnly_createNote h).toDocsStep
  | createCreditNote => exact hdocs rfl rfl fun _ _ h => (docsOnly_createNote h).toDocsStep
  | createReceipt => exact hdocs rfl rfl fun _ _ h => (docsOnly_createReceipt h).toDocsStep

/-- A database without payments. -/
def Db.Unpaid (db : Db) : Prop :=
  db.ok = true ∧ db.clientPayments.rows.isEmpty ∧ db.paymentAllocations.rows.isEmpty

instance (db : Db) : Decidable db.Unpaid := inferInstanceAs (Decidable (_ ∧ _))

theorem inv_of_unpaid {db : Db} (h : db.Unpaid) : Ledger.Inv ⟨db, []⟩ := by
  obtain ⟨hok, hp, ha⟩ := h
  rw [List.isEmpty_iff] at hp ha
  have hnone : ∀ a, a ∉ db.paymentAllocations := fun a hm => by
    rw [Table.mem_def, ha] at hm; cases hm
  refine ⟨hok, (fun _ h => nomatch h), fun a hm => absurd hm (hnone a), ?_, ?_,
    by decide, fun a hm => absurd hm (hnone a), (fun h => nomatch h)⟩
  · intro id d hd
    rw [Db.allocated, Table.sumWhere_eq_zero fun a hm => absurd hm (hnone a)]
    exact total_nonneg hok hd
  · intro id pay hpay
    have := Table.mem_of_get hpay
    rw [Table.mem_def, hp] at this
    cases this

/-- From a ledger without payments, every run whose allocated amounts the columns can hold is
balanced at its end. -/
theorem ledger_balanced {db : Db} {calls : List LedgerCall} (hstart : db.Unpaid)
    (hcalls : Run.Along (Ledger.step selectBound) (fun l c => c.fits l.db) ⟨db, []⟩ calls) :
    Balanced (Run.exec (Ledger.step selectBound) ⟨db, []⟩ calls) := by
  have hrun : (Run.exec (Ledger.step selectBound) ⟨db, []⟩ calls).Inv :=
    Run.exec_inv (fun _ _ hI hc => inv_step hI hc) (inv_of_unpaid hstart) hcalls
  exact balanced_of_sound hrun.sound

end Run
/-! ## Amounts that the columns cannot hold -/

/-- A client and an issued invoice of one metical. -/
def oneInvoiceDb : Db where
  clients := .single { id := 1, tenantId := 1, tradingName := "Cliente" }
  billingDocuments := .single
    { id := 1, tenantId := 1, clientId := some 1, clientName := "Cliente", billingPeriodStart := 0
      billingPeriodEnd := 1000, totalAmount := 100, status := .issued }

theorem metical_pos : (0 : ℚ) < 1 := by norm_num

def payInvoice (amount : ℚ) (positive : 0 < amount) : LedgerCall :=
  .registerPayment 500 1 1
    { clientId := 1, billingDocumentId := some 1, amount, valueDate := 500, positive }

theorem ledger_balanced_once :
    Balanced (Run.exec (Ledger.step false) ⟨oneInvoiceDb, []⟩
      [payInvoice (2 / 5) (by norm_num), payInvoice (599 / 1000) (by norm_num),
        .voidPayment 600 1 1 1 "engano", payInvoice (2 / 5) (by norm_num)]) :=
  ledger_balanced (by decide +kernel) (by decide +kernel)

/-- A payment of 0.004 is accepted, and its allocation is stored as 0.00. -/
theorem cent_fraction_unbalanced :
    oneInvoiceDb.Unpaid ∧
      ¬ Balanced (Run.exec (Ledger.step false) ⟨oneInvoiceDb, []⟩
        [payInvoice (4 / 1000) (by norm_num)]) := by
  refine ⟨by decide +kernel, fun h => ?_⟩
  have hzero : ¬ ∀ a ∈ (Run.exec (Ledger.step false) ⟨oneInvoiceDb, []⟩
      [payInvoice (4 / 1000) (by norm_num)]).db.paymentAllocations, 0 < a.amountApplied := by
    decide +kernel
  exact hzero h.positive

end Rotas