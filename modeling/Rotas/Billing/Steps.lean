import Rotas.Billing.Payments

/-!
# Rotas.Billing.Steps

The calls that move documents and payments, and what they do to the rows of documents.

* `LedgerCall` — the calls, and `LedgerCall.serve`, one session for each.
* `DocsStep`   — a document that left its draft keeps its tenant and its total.
* `DocsOnly`   — moreover no item and no trip is touched, and the documents with `Q` stay with
  the same status of their trips.
* `PaymentStep` — a change of payments and allocations, and then such a step.
* `docsOnly_*`, `paymentStep_*`, `docsStep_issueDocument` — what each operation is.
-/

namespace Rotas

open Work Decimal

/-- The status of the trips a document holds. -/
def DocStatus.tripStatus : DocStatus → Option BillingStatus
  | .draft => some .billingDraft
  | .issued | .overdue | .paid => some .billed
  | .cancelled => none

section Steps

variable {db p : Db} {tenantId documentId paymentId : UUID} {Q : BillingDocument → Prop}

/-- A step of the documents: payments and allocations stay, and a document that left its draft
keeps its tenant and its total. -/
structure DocsStep (db p : Db) : Prop where
  payments : p.clientPayments = db.clientPayments
  allocations : p.paymentAllocations = db.paymentAllocations
  documents : ∀ {id d}, db.billingDocuments.get id = some d →
    ∃ d', p.billingDocuments.get id = some d' ∧ d'.tenantId = d.tenantId ∧
      (d.status ≠ .draft → d'.status ≠ .draft ∧ d'.totalAmount = d.totalAmount)

/-- The two statuses go with one and the same status of trips. -/
def SameSide (d d' : BillingDocument) : Prop :=
  d'.documentSource = d.documentSource ∧ d'.status.tripStatus = d.status.tripStatus

/-- A step of the documents that leaves items and trips alone; a document with `Q` stays on its
side. -/
structure DocsOnly (Q : BillingDocument → Prop) (db p : Db) : Prop extends DocsStep db p where
  items : p.billingItems = db.billingItems
  trips : p.trips = db.trips
  side : ∀ {id d d'}, db.billingDocuments.get id = some d → p.billingDocuments.get id = some d' →
    Q d → SameSide d d'

theorem SameSide.refl (d : BillingDocument) : SameSide d d := ⟨rfl, rfl⟩

theorem SameSide.trans {d d' d'' : BillingDocument} (h : SameSide d d') (h' : SameSide d' d'') :
    SameSide d d'' := ⟨h'.1.trans h.1, h'.2.trans h.2⟩

theorem DocsStep.refl (db : Db) : DocsStep db db :=
  ⟨rfl, rfl, fun hd => ⟨_, hd, rfl, fun h => ⟨h, rfl⟩⟩⟩

theorem DocsStep.trans {q : Db} (h : DocsStep db p) (h' : DocsStep p q) : DocsStep db q where
  payments := h'.payments.trans h.payments
  allocations := h'.allocations.trans h.allocations
  documents hd := by
    obtain ⟨d', hd', ht, hne⟩ := h.documents hd
    obtain ⟨d'', hd'', ht', hne'⟩ := h'.documents hd'
    refine ⟨d'', hd'', ht'.trans ht, fun hdraft => ?_⟩
    obtain ⟨hdraft', htotal⟩ := hne hdraft
    obtain ⟨hdraft'', htotal'⟩ := hne' hdraft'
    exact ⟨hdraft'', htotal'.trans htotal⟩

theorem DocsOnly.refl (db : Db) : DocsOnly Q db db where
  toDocsStep := .refl db
  items := rfl
  trips := rfl
  side hd hd' _ := by
    rw [hd] at hd'
    cases hd'
    exact .refl _

theorem DocsOnly.trans {q : Db} (h : DocsOnly Q db p) (h' : DocsOnly (fun _ => True) p q) :
    DocsOnly Q db q where
  toDocsStep := h.toDocsStep.trans h'.toDocsStep
  items := h'.items.trans h.items
  trips := h'.trips.trans h.trips
  side hd hd'' hQ := by
    obtain ⟨d', hd', _⟩ := h.documents hd
    exact (h.side hd hd' hQ).trans (h'.side hd' hd'' trivial)

/-- One document rewritten: not its tenant, and not its total once it has left the draft. -/
theorem DocsOnly.of_modify {f : BillingDocument → BillingDocument} {hf : ∀ d, (f d).id = d.id}
    (hkeep : ∀ d, db.billingDocuments.get documentId = some d → (f d).tenantId = d.tenantId ∧
      (d.status ≠ .draft → (f d).status ≠ .draft ∧ (f d).totalAmount = d.totalAmount))
    (hside : ∀ d, db.billingDocuments.get documentId = some d → Q d → SameSide d (f d)) :
    DocsOnly Q db (db.modifyDocument documentId f hf) where
  payments := rfl
  allocations := rfl
  documents {id d} hd := by
    by_cases hid : id = documentId
    · subst hid
      refine ⟨f d, ?_, hkeep d hd⟩
      simp only [Db.modifyDocument, Table.get_modify, if_pos, hd, Option.map_some]
    · refine ⟨d, ?_, rfl, fun h => ⟨h, rfl⟩⟩
      simp only [Db.modifyDocument, Table.get_modify, if_neg hid, hd]
  items := rfl
  trips := rfl
  side {id d d'} hd hd' hQ := by
    simp only [Db.modifyDocument, Table.get_modify] at hd'
    split at hd'
    · next hid =>
      subst hid
      rw [hd] at hd'
      cases hd'
      exact hside d hd hQ
    · rw [hd] at hd'
      cases hd'
      exact .refl _

theorem docsOnly_insert {mk : Nat → BillingDocument} {hk : ∀ k, Keyed.key (mk k) = k} :
    DocsOnly (fun _ => True) db { db with billingDocuments := db.billingDocuments.insert mk hk } := by
  have hget : ∀ {id d}, db.billingDocuments.get id = some d →
      (db.billingDocuments.insert mk hk).get id = some d := by
    intro id d hd
    have hne : id ≠ db.billingDocuments.freshKey := by
      rintro rfl
      rw [Table.get_freshKey] at hd
      cases hd
    rw [Table.get_insert, if_neg hne, hd]
  refine ⟨⟨rfl, rfl, fun hd => ⟨_, hget hd, rfl, fun h => ⟨h, rfl⟩⟩⟩, rfl, rfl, ?_⟩
  intro id d d' hd hd' _
  change (db.billingDocuments.insert mk hk).get id = some d' at hd'
  rw [hget hd] at hd'
  cases hd'
  exact .refl _

/-! ## Payments -/

theorem payableDocument_eq_ok {clientId : UUID} {d : BillingDocument}
    (h : payableDocument tenantId clientId documentId db = .ok d) :
    db.billingDocuments.get documentId = some d ∧ d.tenantId = tenantId ∧
      d.clientId = some clientId ∧ (d.status = .issued ∨ d.status = .overdue) := by
  simp only [payableDocument, bind_eq_ok, requireDocument_eq_ok, raiseIf_eq_ok,
    decide_eq_false_iff_not, Decidable.not_not, pure, Except.pure, Except.ok.injEq] at h
  obtain ⟨d', ⟨hd, ht⟩, _, hclient, _, hstatus, rfl⟩ := h
  exact ⟨hd, ht, hclient, by simpa using hstatus⟩

theorem checkBalance_eq_ok {message : String} {d : BillingDocument} {amount : ℚ} {existing : Int}
    (h : checkBalance message tenantId d amount db = .ok existing) :
    existing = sumConfirmedAllocations tenantId d.id db ∧
      amount ≤ money (d.totalAmount - existing) := by
  simp only [checkBalance, bind_eq_ok, raiseIf_eq_ok, decide_eq_false_iff_not, not_lt, pure,
    Except.pure, Except.ok.injEq] at h
  obtain ⟨_, hle, rfl⟩ := h
  exact ⟨rfl, hle⟩

theorem settle_cases {now paidAt : Instant} {d : BillingDocument} {existing : Int} {amount : ℚ}
    (h : settle now d existing amount paidAt db = .ok p) :
    ¬ Covers d.totalAmount existing amount ∧ p = db ∨ Covers d.totalAmount existing amount ∧
      p = db.modifyDocument d.id
        ({ newStatus := .paid, paidAt := some paidAt : Transition }.apply now) := by
  unfold settle at h
  split at h
  · next hcover =>
    simp only [transitionBillingDocument, bind_eq_ok, raiseIf_eq_ok, pure, Except.pure,
      Except.ok.injEq] at h
    obtain ⟨_, _, _, _, rfl⟩ := h
    exact .inr ⟨hcover, rfl⟩
  · next hcover => cases h; exact .inl ⟨hcover, rfl⟩

theorem docsOnly_settle {now paidAt : Instant} {d : BillingDocument} {existing : Int} {amount : ℚ}
    (hd : db.billingDocuments.get d.id = some d) (hstatus : d.status = .issued ∨ d.status = .overdue)
    (h : settle now d existing amount paidAt db = .ok p) : DocsOnly (fun _ => True) db p := by
  rcases settle_cases h with ⟨_, rfl⟩ | ⟨_, rfl⟩
  · exact .refl _
  · refine .of_modify (fun d' _ => ⟨rfl, fun _ => ⟨by simp [Transition.apply], rfl⟩⟩) ?_
    intro d' hd' _
    rw [hd] at hd'
    cases hd'
    rcases hstatus with hs | hs <;>
      exact ⟨rfl, by simp [Transition.apply, DocStatus.tripStatus, hs]⟩

theorem registerChecks_cases {payload : ClientPaymentCreate} {r : Option (BillingDocument × Int)}
    (h : registerChecks tenantId payload db = .ok r) :
    r = none ∨ ∃ d existing documentId, r = some (d, existing) ∧
      payableDocument tenantId payload.clientId documentId db = .ok d ∧
      checkBalance "Payment amount exceeds remaining invoice balance" tenantId d payload.amount db =
        .ok existing := by
  simp only [registerChecks, bind_eq_ok] at h
  obtain ⟨client, _, h⟩ := h
  split at h
  · cases h; exact .inl rfl
  · next documentId _ =>
    simp only [bind_eq_ok, pure, Except.pure, Except.ok.injEq] at h
    obtain ⟨d, hd, existing, hex, rfl⟩ := h
    exact .inr ⟨d, existing, documentId, rfl, hd, hex⟩

theorem requireAdvance_eq_ok {pay : ClientPayment}
    (h : requireAdvance tenantId paymentId db = .ok pay) :
    db.clientPayments.get paymentId = some pay ∧ pay.tenantId = tenantId ∧
      pay.status = .confirmed := by
  simp only [requireAdvance, bind_eq_ok, require_eq_ok, raiseIf_eq_ok, decide_eq_false_iff_not,
    Decidable.not_not, pure, Except.pure, Except.ok.injEq] at h
  obtain ⟨pay', hpay, _, hten, _, hconf, _, _, rfl⟩ := h
  exact ⟨hpay, hten, hconf⟩

theorem checkAdvance_eq_ok {pay : ClientPayment} {amount : ℚ} {applied : Int}
    (h : checkAdvance pay amount db = .ok applied) :
    applied = sumApplied pay.id db ∧ context (money applied + amount) ≤ money pay.amount := by
  simp only [checkAdvance, bind_eq_ok, raiseIf_eq_ok, decide_eq_false_iff_not, not_lt, pure,
    Except.pure, Except.ok.injEq] at h
  obtain ⟨_, hle, rfl⟩ := h
  exact ⟨rfl, hle⟩

theorem applyChecks_eq_ok {amount : ℚ} {pay : ClientPayment} {d : BillingDocument} {existing : Int}
    (h : applyChecks tenantId paymentId documentId amount db = .ok (pay, d, existing)) :
    requireAdvance tenantId paymentId db = .ok pay ∧
      payableDocument tenantId pay.clientId documentId db = .ok d ∧
      (∃ applied, checkAdvance pay amount db = .ok applied) ∧
      checkBalance "Amount applied exceeds remaining invoice balance" tenantId d amount db =
        .ok existing := by
  simp only [applyChecks, bind_eq_ok, pure, Except.pure, Except.ok.injEq] at h
  obtain ⟨pay', hpay, d', hd, applied, happly, existing', hex, h⟩ := h
  cases h
  exact ⟨hpay, hd, ⟨applied, happly⟩, hex⟩

theorem requireVoidable_eq_ok {pay : ClientPayment}
    (h : requireVoidable tenantId paymentId db = .ok pay) :
    db.clientPayments.get paymentId = some pay ∧ pay.tenantId = tenantId := by
  simp only [requireVoidable, bind_eq_ok, require_eq_ok, raiseIf_eq_ok, decide_eq_false_iff_not,
    Decidable.not_not, pure, Except.pure, Except.ok.injEq] at h
  obtain ⟨pay', hpay, _, hten, _, _, rfl⟩ := h
  exact ⟨hpay, hten⟩

/-- An invoice of the tenant that the client can pay `amount` of. -/
structure Payable (tenantId clientId : UUID) (amount : ℚ) (db : Db) (d : BillingDocument) :
    Prop where
  get : db.billingDocuments.get d.id = some d
  tenant : d.tenantId = tenantId
  client : d.clientId = some clientId
  status : d.status = .issued ∨ d.status = .overdue
  rest : amount ≤ money (d.totalAmount - sumConfirmedAllocations tenantId d.id db)

theorem payable_of_checks {clientId : UUID} {message : String} {d : BillingDocument} {amount : ℚ}
    {existing : Int} (hpayable : payableDocument tenantId clientId documentId db = .ok d)
    (hbalance : checkBalance message tenantId d amount db = .ok existing) :
    Payable tenantId clientId amount db d ∧ d.id = documentId ∧
      existing = sumConfirmedAllocations tenantId d.id db := by
  obtain ⟨hd, htenant, hclient, hstatus⟩ := payableDocument_eq_ok hpayable
  obtain ⟨rfl, hrest⟩ := checkBalance_eq_ok hbalance
  have hid : d.id = documentId := Table.key_of_get hd
  exact ⟨⟨hid ▸ hd, htenant, hclient, hstatus, hrest⟩, hid, rfl⟩

/-- A payment is added, and with an invoice that it fits on, allocated to it. -/
theorem registerPayment_cases {now : Instant} {userId a : UUID} {payload : ClientPaymentCreate}
    (h : registerPayment now tenantId userId payload db = .ok (a, p)) :
    p = addPayment tenantId userId payload db ∨ ∃ d,
      Payable tenantId payload.clientId payload.amount db d ∧
      registerChecks tenantId payload db =
        .ok (some (d, sumConfirmedAllocations tenantId d.id db)) ∧
      settle now d (sumConfirmedAllocations tenantId d.id db) payload.amount payload.valueDate
        (allocate tenantId db.clientPayments.freshKey d.id payload.amount
          (addPayment tenantId userId payload db)) = .ok p := by
  simp only [registerPayment, bind_eq_ok, pure, Except.pure, Except.ok.injEq, Prod.mk.injEq] at h
  obtain ⟨r, hr, p', hsettle, _, rfl⟩ := h
  rcases registerChecks_cases hr with rfl | ⟨d, existing, documentId, rfl, hpayable, hbalance⟩
  · cases hsettle
    exact .inl rfl
  · obtain ⟨hd, _, rfl⟩ := payable_of_checks hpayable hbalance
    exact .inr ⟨d, hd, hr, hsettle⟩

/-- What is known of an advance that was applied, and of its invoice: what was checked before, and
what is written. -/
structure AppliedAdvance (now : Instant) (tenantId paymentId : UUID) (payload : ApplyAdvanceRequest)
    (pay : ClientPayment) (d : BillingDocument) (db p : Db) : Prop where
  payment : db.clientPayments.get pay.id = some pay
  tenant : pay.tenantId = tenantId
  confirmed : pay.status = .confirmed
  fits : context (money (sumApplied pay.id db) + payload.amountApplied) ≤ money pay.amount
  document : Payable tenantId pay.clientId payload.amountApplied db d
  checks : applyChecks tenantId paymentId payload.billingDocumentId payload.amountApplied db =
    .ok (pay, d, sumConfirmedAllocations tenantId d.id db)
  settled : settle now d (sumConfirmedAllocations tenantId d.id db) payload.amountApplied
    pay.valueDate (allocate tenantId pay.id d.id payload.amountApplied db) = .ok p

theorem applyAdvance_cases {now : Instant} {a : UUID} {payload : ApplyAdvanceRequest}
    (h : applyAdvanceToInvoice now tenantId paymentId payload db = .ok (a, p)) :
    ∃ pay d, AppliedAdvance now tenantId paymentId payload pay d db p := by
  simp only [applyAdvanceToInvoice, bind_eq_ok, pure, Except.pure, Except.ok.injEq,
    Prod.mk.injEq] at h
  obtain ⟨⟨pay, d, existing⟩, hr, p', hsettle, _, rfl⟩ := h
  obtain ⟨hadvance, hpayable, ⟨applied, happlied⟩, hbalance⟩ := applyChecks_eq_ok hr
  obtain ⟨hpay, htenant, hconfirmed⟩ := requireAdvance_eq_ok hadvance
  obtain ⟨rfl, hfit⟩ := checkAdvance_eq_ok happlied
  obtain ⟨hd, _, rfl⟩ := payable_of_checks hpayable hbalance
  have hid : pay.id = paymentId := Table.key_of_get hpay
  exact ⟨pay, d, hid ▸ hpay, htenant, hconfirmed, hfit, hd, hr, hsettle⟩

theorem voidPayment_cases {now : Instant} {userId a : UUID} {reason : String}
    (h : voidPayment now tenantId paymentId userId reason db = .ok (a, p)) :
    ∃ pay, db.clientPayments.get pay.id = some pay ∧ pay.tenantId = tenantId ∧
      p = (affectedDocuments pay.id db).foldl (reopenIfUncovered now tenantId)
        (withVoided now pay.id userId reason db) := by
  simp only [voidPayment, bind_eq_ok, pure, Except.pure, Except.ok.injEq, Prod.mk.injEq] at h
  obtain ⟨pay, hvoidable, _, rfl⟩ := h
  obtain ⟨hpay, htenant⟩ := requireVoidable_eq_ok hvoidable
  exact ⟨pay, Table.get_of_mem (Table.mem_of_get hpay), htenant, rfl⟩

/-! ## Taking a payment back -/

def Db.isPaid (db : Db) (documentId : UUID) : Bool :=
  (db.billingDocuments.get documentId).any (·.status = .paid)

theorem isPaid_iff {id : UUID} :
    db.isPaid id = true ↔ ∃ d, db.billingDocuments.get id = some d ∧ d.status = .paid := by
  simp [Db.isPaid, Option.any_eq_true]

theorem isPaid_reopen (now : Instant) (d : BillingDocument) {id : UUID}
    (h : (reopen now d db).isPaid id) : db.isPaid id ∧ id ≠ d.id := by
  simp only [Db.isPaid, reopen, Db.modifyDocument, Table.get_modify] at h
  split at h
  · cases hget : db.billingDocuments.get d.id with
    | none => rw [hget] at h; cases h
    | some d' =>
      simp only [hget, Option.map_some, Option.any_some, decide_eq_true_eq] at h
      split at h <;> cases h
  · next hne => exact ⟨h, hne⟩

theorem docsOnly_reopen (now : Instant) (d : BillingDocument) :
    DocsOnly (·.status = .paid) db (reopen now d db) := by
  refine .of_modify (fun d' _ => ⟨rfl, fun _ => ⟨?_, rfl⟩⟩) fun d' _ hpaid => ⟨rfl, ?_⟩
  · dsimp only; split <;> decide
  · rw [hpaid]
    dsimp only
    split <;> rfl

/-- What a reopening leaves paid was paid before and, if it is the document asked for, covered. -/
theorem reopen_step (now : Instant) (tenantId documentId : UUID) (db : Db) :
    DocsOnly (fun _ => True) db (reopenIfUncovered now tenantId db documentId) ∧
      ∀ {id d}, db.billingDocuments.get id = some d →
        (reopenIfUncovered now tenantId db documentId).isPaid id →
        d.status = .paid ∧
          (id = documentId → d.totalAmount ≤ sumConfirmedAllocations tenantId id db) := by
  unfold reopenIfUncovered
  split
  · next hnone =>
    refine ⟨.refl _, fun {id d} hd hpaid => ?_⟩
    have hpaid' : d.status = .paid := by simpa [Db.isPaid, hd] using hpaid
    refine ⟨hpaid', ?_⟩
    rintro rfl
    rw [hnone] at hd
    cases hd
  · next d₀ hd₀ =>
    have hid : d₀.id = documentId := Table.key_of_get hd₀
    split
    · next hlt =>
      refine ⟨{ docsOnly_reopen now d₀ with side := ?_ }, fun {id d} hd hpaid => ?_⟩
      · intro id d d' hd hd' _
        by_cases hne : id = documentId
        · subst hne
          refine (docsOnly_reopen now d₀).side hd hd' ?_
          rw [hd₀] at hd
          cases hd
          exact hlt.1
        · rw [reopen, Db.modifyDocument, Table.get_modify, hid, if_neg hne, hd] at hd'
          cases hd'
          exact .refl _
      · obtain ⟨hpaid, hne⟩ := isPaid_reopen now d₀ hpaid
        rw [Db.isPaid, hd] at hpaid
        exact ⟨by simpa using hpaid, fun h => absurd (h.trans hid.symm) hne⟩
    · next hge =>
      refine ⟨.refl _, fun {id d} hd hpaid => ?_⟩
      have hpaid' : d.status = .paid := by simpa [Db.isPaid, hd] using hpaid
      refine ⟨hpaid', ?_⟩
      rintro rfl
      rw [hd] at hd₀
      cases hd₀
      exact not_lt.mp fun h => hge ⟨hpaid', h⟩

theorem DocsStep.sumConfirmed (h : DocsStep db p) (id : UUID) :
    sumConfirmedAllocations tenantId id p = sumConfirmedAllocations tenantId id db := by
  simp only [sumConfirmedAllocations, PaymentAllocation.counts, h.payments, h.allocations]

/-- After the loop over the affected documents, one that is still paid is still covered. -/
theorem reopen_all (now : Instant) (tenantId : UUID) : ∀ (ids : List UUID) (db : Db),
    DocsOnly (fun _ => True) db (ids.foldl (reopenIfUncovered now tenantId) db) ∧
      ∀ {id d}, db.billingDocuments.get id = some d →
        (ids.foldl (reopenIfUncovered now tenantId) db).isPaid id →
        d.status = .paid ∧
          (id ∈ ids → d.totalAmount ≤ sumConfirmedAllocations tenantId id db) := by
  intro ids
  induction ids with
  | nil =>
    intro db
    refine ⟨.refl _, fun {id d} hd hpaid => ⟨?_, fun h => by cases h⟩⟩
    simpa [Db.isPaid, hd] using hpaid
  | cons documentId ids ih =>
    intro db
    obtain ⟨hstep, hfirst⟩ := reopen_step now tenantId documentId db
    obtain ⟨hrest, hlater⟩ := ih (reopenIfUncovered now tenantId db documentId)
    refine ⟨hstep.trans hrest, fun {id d} hd hpaid => ?_⟩
    obtain ⟨d', hd', _, hkeep⟩ := hstep.documents hd
    obtain ⟨hpaid', hcover⟩ := hlater hd' hpaid
    obtain ⟨hpaid₀, hcover₀⟩ := hfirst hd (isPaid_iff.mpr ⟨d', hd', hpaid'⟩)
    refine ⟨hpaid₀, fun hmem => ?_⟩
    rcases List.mem_cons.mp hmem with h | h
    · exact hcover₀ h
    · rw [← (hkeep (by rw [hpaid₀]; decide)).2, ← hstep.sumConfirmed]
      exact hcover h

/-! ## Payments as steps -/

/-- A change of payments and allocations, and then a step of the documents. -/
def PaymentStep (db p : Db) : Prop :=
  ∃ clientPayments paymentAllocations,
    DocsOnly (fun _ => True) { db with clientPayments, paymentAllocations } p

theorem paymentStep_registerPayment {now : Instant} {userId a : UUID}
    {payload : ClientPaymentCreate}
    (h : registerPayment now tenantId userId payload db = .ok (a, p)) : PaymentStep db p := by
  rcases registerPayment_cases h with rfl | ⟨d, hd, _, hsettle⟩
  · exact ⟨_, db.paymentAllocations, .refl (addPayment tenantId userId payload db)⟩
  · have hstep : DocsOnly (fun _ => True) (allocate tenantId _ _ _
        (addPayment tenantId userId payload db)) p := docsOnly_settle hd.get hd.status hsettle
    exact ⟨_, _, hstep⟩

theorem paymentStep_applyAdvance {now : Instant} {a : UUID} {payload : ApplyAdvanceRequest}
    (h : applyAdvanceToInvoice now tenantId paymentId payload db = .ok (a, p)) :
    PaymentStep db p := by
  obtain ⟨pay, d, happlied⟩ := applyAdvance_cases h
  have hstep : DocsOnly (fun _ => True) (allocate tenantId _ _ _ db) p :=
    docsOnly_settle happlied.document.get happlied.document.status happlied.settled
  exact ⟨db.clientPayments, _, hstep⟩

theorem paymentStep_voidPayment {now : Instant} {userId a : UUID} {reason : String}
    (h : voidPayment now tenantId paymentId userId reason db = .ok (a, p)) : PaymentStep db p := by
  obtain ⟨pay, _, _, rfl⟩ := voidPayment_cases h
  exact ⟨_, db.paymentAllocations, (reopen_all now tenantId _ _).1⟩

/-! ## The other operations -/

theorem docsOnly_assignInvoiceNumber (document : BillingDocument) :
    DocsOnly (fun _ => True) db (assignInvoiceNumber tenantId document db).2 := by
  rw [assignInvoiceNumber_snd]
  have h : DocsOnly (fun _ => True) db db := .refl db
  exact ⟨⟨rfl, rfl, h.documents⟩, rfl, rfl, h.side⟩

/-- Only a transition to issued or cancelled takes a document to another side. -/
theorem docsOnly_transitionById {now : Instant} {t : Transition} {a : UUID}
    (h : transitionById now tenantId documentId t db = .ok (a, p)) :
    DocsOnly (fun d => d.id = documentId → t.newStatus ≠ .issued ∧ t.newStatus ≠ .cancelled)
      db p := by
  obtain ⟨d, hd, _, ht, rfl⟩ := transitionById_cases h
  refine .of_modify (fun d' hd' => ⟨rfl, fun _ => ⟨?_, rfl⟩⟩) fun d' hd' hQ => ⟨rfl, ?_⟩
  · rw [hd] at hd'
    cases hd'
    intro hdraft
    change t.newStatus = .draft at hdraft
    rw [hdraft] at ht
    cases hs : d.status <;> rw [hs] at ht <;> simp [billingValidTransitions] at ht
  · rw [hd] at hd'
    cases hd'
    have hstay := hQ (Table.key_of_get hd)
    change t.newStatus.tripStatus = d.status.tripStatus
    cases hs : d.status <;> rw [hs] at ht <;> cases hn : t.newStatus <;>
      simp_all [billingValidTransitions, DocStatus.tripStatus]

theorem docsOnly_markOverdue (now : Instant) :
    DocsOnly (fun _ => True) db (markOverdueBillingDocuments now db) where
  payments := rfl
  allocations := rfl
  documents {id d} hd := by
    simp only [markOverdueBillingDocuments, Table.get_modifyAll, hd, Option.map_some]
    split
    · exact ⟨_, rfl, rfl, fun _ => ⟨by simp, rfl⟩⟩
    · exact ⟨d, rfl, rfl, fun hne => ⟨hne, rfl⟩⟩
  items := rfl
  trips := rfl
  side {id d d'} hd hd' _ := by
    simp only [markOverdueBillingDocuments, Table.get_modifyAll, hd, Option.map_some,
      Option.some.injEq] at hd'
    subst hd'
    split
    · next h =>
      simp only [Bool.and_eq_true, decide_eq_true_eq] at h
      exact ⟨rfl, by rw [h.1]; rfl⟩
    · exact .refl _

theorem docsStep_issueDocument {selectBound : Bool} {now : Instant} {issuedAt : Option Instant}
    {a : UUID} (h : issueDocument selectBound now tenantId documentId issuedAt db = .ok (a, p)) :
    DocsStep db p := by
  rcases issueDocument_cases h with
    rfl | ⟨document, number, counters, terms, hdoc, _, hdraft, _, _, _, rfl⟩
  · exact .refl _
  refine ⟨rfl, rfl, fun {id d} hd => ?_⟩
  simp only [finishIssue_get_document]
  split
  · next h =>
    subst h
    rw [hd, Option.map_some]
    refine ⟨_, rfl, rfl, fun hne => ?_⟩
    rw [hd] at hdoc
    cases hdoc
    exact absurd hdraft hne
  · exact ⟨d, hd, rfl, fun h => ⟨h, rfl⟩⟩

theorem docsOnly_addChild {now : Instant} {parent : BillingDocument} {c : ChildDocument} :
    DocsOnly (fun _ => True) db (addChild now tenantId parent c db).2 := by
  simp only [addChild]
  refine docsOnly_insert.trans ((docsOnly_assignInvoiceNumber _).trans (.of_modify ?_ ?_))
  · intro d _
    obtain ⟨_, hstatus, hten, htotal, _⟩ := snapshotProfile_keeps (documentProfile tenantId db) d
    exact ⟨hten, fun hne => ⟨by rw [← hstatus] at hne; exact hne, htotal⟩⟩
  · intro d _ _
    obtain ⟨_, hstatus, _, _, hsource⟩ := snapshotProfile_keeps (documentProfile tenantId db) d
    exact ⟨hsource, congrArg DocStatus.tripStatus hstatus⟩

theorem requireParent_eq_ok {allowed : List DocStatus} {code message : String}
    {parent : BillingDocument}
    (h : requireParent tenantId documentId allowed code message db = .ok parent) :
    db.billingDocuments.get documentId = some parent ∧ parent.tenantId = tenantId ∧
      parent.status ∈ allowed := by
  simp only [requireParent, bind_eq_ok, requireDocument_eq_ok, raiseIf_eq_ok,
    decide_eq_false_iff_not, Decidable.not_not, pure, Except.pure, Except.ok.injEq] at h
  obtain ⟨d, ⟨hd, ht⟩, _, hstatus, rfl⟩ := h
  exact ⟨hd, ht, hstatus⟩

theorem docsOnly_createInvoiceReceipt {now : Instant} {a : UUID}
    (h : createInvoiceReceipt now tenantId documentId db = .ok (a, p)) :
    DocsOnly (fun _ => True) db p := by
  simp only [createInvoiceReceipt, bind_eq_ok, pure, Except.pure, Except.ok.injEq,
    Prod.mk.injEq] at h
  obtain ⟨parent, hparent, _, rfl⟩ := h
  obtain ⟨hget, _, hstatus⟩ := requireParent_eq_ok hparent
  refine docsOnly_addChild.trans (.of_modify (fun d _ => ⟨rfl, fun _ => ⟨by simp, rfl⟩⟩) ?_)
  intro d hd _
  -- the parent is still on the side of the issued documents
  have hside : SameSide parent d := docsOnly_addChild.side hget hd trivial
  refine ⟨rfl, ?_⟩
  rw [hside.2]
  simp only [List.mem_cons, List.not_mem_nil, or_false] at hstatus
  rcases hstatus with hs | hs <;> rw [hs] <;> rfl

theorem docsOnly_createNote {documentType : DocType} {message : String} {now : Instant} {amount : ℚ}
    {ivaRate : Option ℚ} {a : UUID}
    (h : createNote documentType message now tenantId documentId amount ivaRate db = .ok (a, p)) :
    DocsOnly (fun _ => True) db p := by
  simp only [createNote, bind_eq_ok, pure, Except.pure, Except.ok.injEq] at h
  obtain ⟨parent, _, h⟩ := h
  cases h
  exact docsOnly_addChild

theorem docsOnly_createReceipt {now : Instant} {amount : ℚ} {a : UUID}
    (h : createReceipt now tenantId documentId amount db = .ok (a, p)) :
    DocsOnly (fun _ => True) db p := by
  simp only [createReceipt, bind_eq_ok, pure, Except.pure, Except.ok.injEq] at h
  obtain ⟨parent, _, h⟩ := h
  cases h
  exact docsOnly_addChild

theorem docsOnly_confirmWorkshopInvoice {now : Instant} {a : UUID}
    (h : confirmWorkshopInvoice now tenantId documentId db = .ok (a, p)) :
    DocsOnly (fun d => d.documentSource ≠ .workshop) db p := by
  rcases confirmWorkshopInvoice_cases h with rfl | ⟨document, hdoc, hsource, _, rfl⟩
  · exact .refl _
  · rw [assignInvoiceNumber_snd]
    have hstep : DocsOnly (fun d => d.documentSource ≠ .workshop) db
        (db.modifyDocument documentId ({ · with
          invoiceNumber := some (assignInvoiceNumber tenantId document db).1
          status := .issued, issuedAt := some now })) := by
      refine .of_modify (fun d _ => ⟨rfl, fun _ => ⟨by simp, rfl⟩⟩) fun d hd hQ => ?_
      rw [hdoc] at hd
      cases hd
      exact absurd hsource hQ
    exact ⟨⟨rfl, rfl, hstep.documents⟩, rfl, rfl, hstep.side⟩

end Steps

/-! ## Runs -/

inductive LedgerCall where
  | registerPayment (now : Instant) (tenantId userId : UUID) (payload : ClientPaymentCreate)
  | applyAdvance (now : Instant) (tenantId paymentId : UUID) (payload : ApplyAdvanceRequest)
  | voidPayment (now : Instant) (tenantId paymentId userId : UUID) (voidReason : String)
  | transition (now : Instant) (tenantId documentId : UUID) (t : Transition)
  | markOverdue (now : Instant)
  | issueDocument (now : Instant) (tenantId documentId : UUID) (issuedAt : Option Instant)
  | confirmWorkshopInvoice (now : Instant) (tenantId documentId : UUID)
  | createInvoiceReceipt (now : Instant) (tenantId parentId : UUID)
  | createDebitNote (now : Instant) (tenantId parentId : UUID) (amount : ℚ) (ivaRate : Option ℚ)
  | createCreditNote (now : Instant) (tenantId parentId : UUID) (amount : ℚ) (ivaRate : Option ℚ)
  | createReceipt (now : Instant) (tenantId parentId : UUID) (amountPaid : ℚ)

/-- The database after one call, served by a session of its own. -/
def LedgerCall.serve (selectBound : Bool) (db : Db) : LedgerCall → Db
  | .registerPayment now tenantId userId payload =>
    perform (Rotas.registerPayment now tenantId userId payload) db
  | .applyAdvance now tenantId paymentId payload =>
    perform (applyAdvanceToInvoice now tenantId paymentId payload) db
  | .voidPayment now tenantId paymentId userId voidReason =>
    perform (Rotas.voidPayment now tenantId paymentId userId voidReason) db
  | .transition now tenantId documentId t => perform (transitionById now tenantId documentId t) db
  | .markOverdue now => perform (fun db => .ok ((), markOverdueBillingDocuments now db)) db
  | .issueDocument now tenantId documentId issuedAt =>
    perform (Rotas.issueDocument selectBound now tenantId documentId issuedAt) db
  | .confirmWorkshopInvoice now tenantId documentId =>
    perform (Rotas.confirmWorkshopInvoice now tenantId documentId) db
  | .createInvoiceReceipt now tenantId parentId =>
    perform (Rotas.createInvoiceReceipt now tenantId parentId) db
  | .createDebitNote now tenantId parentId amount ivaRate =>
    perform (Rotas.createDebitNote now tenantId parentId amount ivaRate) db
  | .createCreditNote now tenantId parentId amount ivaRate =>
    perform (Rotas.createCreditNote now tenantId parentId amount ivaRate) db
  | .createReceipt now tenantId parentId amountPaid =>
    perform (Rotas.createReceipt now tenantId parentId amountPaid) db

/-- The calls that set a document to paid because a payment covers it. -/
def LedgerCall.pays : LedgerCall → Bool
  | .registerPayment .. | .applyAdvance .. => true
  | _ => false

end Rotas
