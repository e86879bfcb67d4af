import Rotas.Billing.Booked

/-!
# Rotas.Billing.VoidNeutral

What registering a payment and voiding it again leaves behind.

* `Db.allocatedWithout` — what the other confirmed payments cover of a document.
* `voidPayment_get` — a void, document by document.
* `PaidSince` — the documents since a payment came, and what was applied of it.
* `register_void_neutral` — the outstanding amounts are restored, and the documents that the payment
  made paid wait for payment again, overdue or not by their due date.
-/

namespace Rotas

open Work Decimal

/-- The status of a document that waits for payment again. -/
def BillingDocument.waiting (now : Instant) (d : BillingDocument) : DocStatus :=
  if d.dueDate.any (· < now) then .overdue else .issued

/-- The document, reopened if it is paid and not covered. -/
def BillingDocument.unlessCovered (now : Instant) (covered : Int) (d : BillingDocument) :
    BillingDocument :=
  if d.status = .paid ∧ covered < d.totalAmount then
    { d with status := d.waiting now, paidAt := none }
  else d

/-- What the confirmed payments cover of a document, apart from one of them. -/
def Db.allocatedWithout (db : Db) (paymentId documentId : UUID) : Int :=
  db.paymentAllocations.sumWhere
    (fun a => a.billingDocumentId = documentId && (db.live a && a.paymentId ≠ paymentId))
    PaymentAllocation.amountApplied

section Void

variable {m : Int} {S : UUID → Prop} {db p : Db} {tenantId paymentId documentId : UUID}

theorem waiting_ne_paid (now : Instant) (d : BillingDocument) : d.waiting now ≠ .paid := by
  unfold BillingDocument.waiting
  split <;> decide

@[simp] theorem unlessCovered_id (now : Instant) (covered : Int) (d : BillingDocument) :
    (d.unlessCovered now covered).id = d.id := by
  unfold BillingDocument.unlessCovered
  split <;> rfl

@[simp] theorem unlessCovered_totalAmount (now : Instant) (covered : Int) (d : BillingDocument) :
    (d.unlessCovered now covered).totalAmount = d.totalAmount := by
  unfold BillingDocument.unlessCovered
  split <;> rfl

theorem unlessCovered_status (now : Instant) (covered : Int) (d : BillingDocument) :
    (d.unlessCovered now covered).status =
      if d.status = .paid ∧ covered < d.totalAmount then d.waiting now else d.status := by
  unfold BillingDocument.unlessCovered
  split <;> rfl

/-- What is reopened stays as it is when it is looked at again. -/
theorem unlessCovered_twice (now : Instant) (covered : Int) (d : BillingDocument) :
    (d.unlessCovered now covered).unlessCovered now covered = d.unlessCovered now covered := by
  have hsettled : ¬ ((d.unlessCovered now covered).status = .paid ∧
      covered < (d.unlessCovered now covered).totalAmount) := by
    rw [unlessCovered_status, unlessCovered_totalAmount]
    intro h
    split at h
    · exact waiting_ne_paid now d h.1
    · next hnot => exact hnot h
  rw [BillingDocument.unlessCovered, if_neg hsettled]

theorem withVoided_allocated {now : Instant} {userId : UUID} {reason : String} (id : UUID) :
    (withVoided now paymentId userId reason db).allocated id =
      db.allocatedWithout paymentId id := by
  refine Table.sumWhere_congr fun a _ => ?_
  rw [withVoided_live]

theorem reopenIfUncovered_get (now : Instant) (tenantId documentId id : UUID) (db : Db) :
    (reopenIfUncovered now tenantId db documentId).billingDocuments.get id =
      (db.billingDocuments.get id).map fun d =>
        if id = documentId then d.unlessCovered now (sumConfirmedAllocations tenantId id db)
        else d := by
  unfold reopenIfUncovered
  by_cases hid : id = documentId
  · subst hid
    cases hd : db.billingDocuments.get id with
    | none => simp [hd]
    | some d =>
      have hkey : d.id = id := Table.key_of_get hd
      simp only [Option.map_some, if_true, BillingDocument.unlessCovered]
      split
      · simp only [reopen, Db.modifyDocument, Table.get_modify, hkey, if_true, hd, Option.map_some]
        rfl
      · exact hd
  · simp only [if_neg hid, Option.map_id']
    split
    · rfl
    · next d hd =>
      have hkey : d.id = documentId := Table.key_of_get hd
      split
      · simp only [reopen, Db.modifyDocument, Table.get_modify, hkey, if_neg hid]
      · rfl

/-- The loop over the affected documents looks at each of them by itself. -/
theorem reopen_all_get (now : Instant) (tenantId id : UUID) : ∀ (ids : List UUID) (db : Db),
    (ids.foldl (reopenIfUncovered now tenantId) db).billingDocuments.get id =
      (db.billingDocuments.get id).map fun d =>
        if id ∈ ids then d.unlessCovered now (sumConfirmedAllocations tenantId id db) else d := by
  intro ids
  induction ids with
  | nil =>
    intro db
    simp
  | cons documentId ids ih =>
    intro db
    have hstep := (reopen_step now tenantId documentId db).1.toDocsStep
    rw [List.foldl_cons, ih, hstep.sumConfirmed, reopenIfUncovered_get, Option.map_map]
    congr 1
    funext d
    simp only [Function.comp_apply, List.mem_cons]
    by_cases hid : id = documentId
    · by_cases hrest : id ∈ ids
      · simp only [if_pos hid, if_pos hrest, unlessCovered_twice, if_pos (Or.inl hid)]
      · simp only [if_pos hid, if_neg hrest, if_pos (Or.inl hid)]
    · simp only [hid, false_or, if_false]

theorem voidPayment_get {now : Instant} {userId a : UUID} {reason : String} (hs : Sound m S db)
    (h : voidPayment now tenantId paymentId userId reason db = .ok (a, p))
    {d : BillingDocument} (hd : db.billingDocuments.get documentId = some d) :
    p.allocated documentId = db.allocatedWithout paymentId documentId ∧
      p.billingDocuments.get documentId =
        some (if documentId ∈ affectedDocuments paymentId db then
          d.unlessCovered now (db.allocatedWithout paymentId documentId) else d) := by
  simp only [voidPayment, bind_eq_ok, pure, Except.pure, Except.ok.injEq, Prod.mk.injEq] at h
  obtain ⟨pay, hvoidable, _, rfl⟩ := h
  obtain ⟨hpay, hten⟩ := requireVoidable_eq_ok hvoidable
  have hkey : pay.id = paymentId := Table.key_of_get hpay
  rw [hkey]
  obtain ⟨hdocs, _⟩ := reopen_all now tenantId (affectedDocuments paymentId db)
    (withVoided now paymentId userId reason db)
  refine ⟨by rw [hdocs.allocated, withVoided_allocated], ?_⟩
  have hget :
      (withVoided now paymentId userId reason db).billingDocuments.get documentId = some d := hd
  rw [reopen_all_get, hget, Option.map_some]
  by_cases haff : documentId ∈ affectedDocuments paymentId db
  · have hv := sound_withVoided now paymentId userId reason hs
    rw [if_pos haff, if_pos haff,
      hv.sumConfirmed hget ((hs.affected_tenant hpay haff hd).trans hten), withVoided_allocated]
  · rw [if_neg haff, if_neg haff]

theorem allocatedWithout_le (hs : Sound m S db) (paymentId id : UUID) :
    db.allocatedWithout paymentId id ≤ db.allocated id := by
  refine Table.sumWhere_le (fun a _ h => ?_) fun a ha => hs.amount_nonneg ha
  simp only [Bool.and_eq_true] at h
  simp only [Bool.and_eq_true]
  exact ⟨h.1, h.2.1⟩

end Void

/-! ## A payment and its applications -/

/-- A document before a payment came, and after something of it may have been applied. -/
inductive PaidSince (paymentId : UUID) (db q : Db) (d d' : BillingDocument) : Prop where
  | kept (same : d' = d) (payable : d.id ∈ affectedDocuments paymentId q → d.status ≠ .paid)
  | settled (paid : d'.status = .paid) (total : d'.totalAmount = d.totalAmount)
      (due : d'.dueDate = d.dueDate) (affected : d.id ∈ affectedDocuments paymentId q)
      (before : d.status ≠ .paid) (uncovered : db.allocated d.id < d.totalAmount)

/-- The payment came after `db`, and nothing else was done but to apply it. -/
structure Since (tenantId paymentId : UUID) (db q : Db) : Prop where
  payment : ∃ pay, q.clientPayments.get paymentId = some pay ∧ pay.tenantId = tenantId ∧
    pay.status = .confirmed
  without : ∀ id, q.allocatedWithout paymentId id = db.allocated id
  documents : ∀ {id d}, db.billingDocuments.get id = some d →
    ∃ d', q.billingDocuments.get id = some d' ∧ PaidSince paymentId db q d d'

section Since

variable {m : Int} {S : UUID → Prop} {db p q : Db} {tenantId paymentId documentId : UUID}

theorem affected_fresh (hs : Sound m S db) (id : UUID) :
    id ∉ affectedDocuments db.clientPayments.freshKey db := by
  intro h
  obtain ⟨a, ha, _⟩ := List.mem_map.mp h
  obtain ⟨hmem, hpid⟩ := List.mem_filter.mp ha
  obtain ⟨pay, _, hpay, _⟩ := hs.refs a hmem
  rw [of_decide_eq_true hpid, Table.get_freshKey] at hpay
  cases hpay

theorem since_addPayment {userId : UUID} {payload : ClientPaymentCreate} (hs : Sound m S db) :
    Since tenantId db.clientPayments.freshKey db (addPayment tenantId userId payload db) where
  payment := ⟨_, addPayment_get_self .., rfl, rfl⟩
  without id := by
    rw [← allocated_addPayment tenantId userId payload hs]
    refine Table.sumWhere_congr fun a ha => ?_
    obtain ⟨pay, _, hpay, _⟩ := hs.refs a ha
    have hne : a.paymentId ≠ db.clientPayments.freshKey := by
      intro h
      rw [h, Table.get_freshKey] at hpay
      cases hpay
    simp [hne]
  documents {id d} hd := by
    have hkey : d.id = id := Table.key_of_get hd
    exact ⟨d, hd, .kept rfl fun haff => absurd haff (affected_fresh hs d.id)⟩

theorem affected_allocate {amount : ℚ} {id : UUID} :
    id ∈ affectedDocuments paymentId (allocate tenantId paymentId documentId amount db) ↔
      id ∈ affectedDocuments paymentId db ∨ id = documentId := by
  simp [affectedDocuments, allocationsOf, allocate, eq_comm]

theorem allocatedWithout_allocate {amount : ℚ} (id : UUID) :
    (allocate tenantId paymentId documentId amount db).allocatedWithout paymentId id =
      db.allocatedWithout paymentId id := by
  simp only [Db.allocatedWithout, allocate, Table.sumWhere_insert]
  simp [Db.live]

theorem PaidSince.elsewhere {d d' : BillingDocument} (h : PaidSince paymentId db q d d')
    (haff : d.id ∈ affectedDocuments paymentId p ↔ d.id ∈ affectedDocuments paymentId q) :
    PaidSince paymentId db p d d' := by
  cases h with
  | kept same payable => exact .kept same fun h => payable (haff.mp h)
  | settled paid total due affected before uncovered =>
    exact .settled paid total due (haff.mpr affected) before uncovered

/-- What of the payment is applied to an invoice that it fits on. -/
theorem Since.settle {now paidAt : Instant} {clientId : UUID} {d : BillingDocument} {amount : ℚ}
    {existing : Int} (h : Since tenantId paymentId db q) (hs : Sound m S q)
    (hd : Payable tenantId clientId amount q d) (hamount : 0 < amount)
    (hsettle : settle now d existing amount paidAt
      (allocate tenantId paymentId d.id amount q) = .ok p) :
    Since tenantId paymentId db p := by
  have hrest := hd.rest
  rw [hs.sumConfirmed hd.get hd.tenant] at hrest
  have huncovered : db.allocated d.id < d.totalAmount := by
    have hle := allocatedWithout_le hs paymentId d.id
    rw [h.without] at hle
    have hpos : 0 < money (d.totalAmount - q.allocated d.id) := hamount.trans_le hrest
    have hlt : 0 < d.totalAmount - q.allocated d.id := by
      unfold money at hpos
      exact_mod_cast (by linarith : (0 : ℚ) < ((d.totalAmount - q.allocated d.id : Int) : ℚ))
    omega
  have hunpaid : d.status ≠ .paid := by
    rcases hd.status with hst | hst <;> rw [hst] <;> decide
  -- The invoice was not paid yet, so it is still as it was.
  have hsame : ∀ {d₀}, db.billingDocuments.get d.id = some d₀ → d = d₀ := by
    intro d₀ hd₀
    obtain ⟨d', hd', hsince⟩ := h.documents hd₀
    rw [hd.get] at hd'
    cases hd'
    cases hsince with
    | kept same => exact same
    | settled paid => exact absurd paid hunpaid
  have helse : ∀ {id d₀}, id ≠ d.id → db.billingDocuments.get id = some d₀ →
      ∃ d', q.billingDocuments.get id = some d' ∧
        PaidSince paymentId db (allocate tenantId paymentId d.id amount q) d₀ d' := by
    intro id d₀ hne hd₀
    have hkey : d₀.id = id := Table.key_of_get hd₀
    obtain ⟨d', hd', hsince⟩ := h.documents hd₀
    refine ⟨d', hd', hsince.elsewhere ?_⟩
    rw [affected_allocate, hkey, or_iff_left hne]
  have haff : d.id ∈ affectedDocuments paymentId (allocate tenantId paymentId d.id amount q) :=
    affected_allocate.mpr (.inr rfl)
  rcases settle_cases hsettle with ⟨_, rfl⟩ | ⟨_, rfl⟩
  · refine ⟨h.payment, fun id => (allocatedWithout_allocate id).trans (h.without id), ?_⟩
    intro id d₀ hd₀
    by_cases hid : id = d.id
    · subst hid
      obtain rfl := hsame hd₀
      exact ⟨d, hd.get, .kept rfl fun _ => hunpaid⟩
    · exact helse hid hd₀
  · refine ⟨h.payment, fun id => (allocatedWithout_allocate id).trans (h.without id), ?_⟩
    intro id d₀ hd₀
    by_cases hid : id = d.id
    · subst hid
      obtain rfl := hsame hd₀
      refine ⟨({ newStatus := .paid, paidAt := some paidAt } : Transition).apply now d, ?_,
        .settled rfl rfl rfl haff hunpaid huncovered⟩
      rw [Db.modifyDocument, Table.get_modify, if_pos rfl]
      exact congrArg (Option.map _) hd.get
    · obtain ⟨d', hd', hsince⟩ := helse hid hd₀
      refine ⟨d', ?_, hsince.elsewhere Iff.rfl⟩
      rw [Db.modifyDocument, Table.get_modify, if_neg hid]
      exact hd'

theorem since_registerPayment {now : Instant} {userId : UUID} {payload : ClientPaymentCreate}
    (hs : Sound m S db)
    (h : registerPayment now tenantId userId payload db = .ok (paymentId, p)) :
    Since tenantId paymentId db p := by
  have hkey : paymentId = db.clientPayments.freshKey := by
    simp only [registerPayment, bind_eq_ok, pure, Except.pure, Except.ok.injEq, Prod.mk.injEq] at h
    obtain ⟨_, _, _, _, hid, _⟩ := h
    exact hid.symm
  rw [hkey]
  have hadded : Since tenantId db.clientPayments.freshKey db
      (addPayment tenantId userId payload db) := since_addPayment hs
  rcases registerPayment_cases h with rfl | ⟨d, hd, _, hsettle⟩
  · exact hadded
  · have hpayable : Payable tenantId payload.clientId payload.amount
        (addPayment tenantId userId payload db) d := by
      have hadd : Sound m S (addPayment tenantId userId payload db) := sound_addPayment hs
      have hsum := hadd.sumConfirmed hd.get hd.tenant
      refine ⟨hd.get, hd.tenant, hd.client, hd.status, ?_⟩
      rw [hsum, allocated_addPayment tenantId userId payload hs, ← hs.sumConfirmed hd.get hd.tenant]
      exact hd.rest
    exact hadded.settle (sound_addPayment hs) hpayable payload.positive hsettle

theorem Since.applyAdvance {now : Instant} {a : UUID} {payload : ApplyAdvanceRequest}
    (h : Since tenantId paymentId db q) (hs : Sound m S q)
    (happly : applyAdvanceToInvoice now tenantId paymentId payload q = .ok (a, p)) :
    Since tenantId paymentId db p := by
  obtain ⟨pay, d, happlied⟩ := applyAdvance_cases happly
  have hkey : pay.id = paymentId :=
    Table.key_of_get (requireAdvance_eq_ok (applyChecks_eq_ok happlied.checks).1).1
  have hsettle := happlied.settled
  rw [hkey] at hsettle
  exact h.settle hs happlied.document payload.positive hsettle

theorem valid_reopenIfUncovered (now : Instant) (tenantId documentId : UUID) (h : db.Valid) :
    (reopenIfUncovered now tenantId db documentId).Valid := by
  unfold reopenIfUncovered
  split
  · exact h
  · split
    · refine { h with billingDocuments := fun e he => ?_ }
      simp only [reopen, Db.modifyDocument, Table.mem_modify] at he
      obtain ⟨e₀, he₀, rfl⟩ := he
      split
      · exact h.billingDocuments e₀ he₀
      · exact h.billingDocuments e₀ he₀
    · exact h

theorem valid_voided {now : Instant} {userId : UUID} {reason : String} (ids : List UUID)
    (h : db.Valid) :
    (ids.foldl (reopenIfUncovered now tenantId)
      (withVoided now paymentId userId reason db)).Valid := by
  have hview : (withVoided now paymentId userId reason db).Valid := by
    refine { h with clientPayments := fun pay hpay => ?_ }
    simp only [withVoided, Table.mem_modify] at hpay
    obtain ⟨pay₀, hpay₀, rfl⟩ := hpay
    split
    · exact h.clientPayments pay₀ hpay₀
    · exact h.clientPayments pay₀ hpay₀
  revert hview
  generalize withVoided now paymentId userId reason db = view
  induction ids generalizing view with
  | nil => exact fun hview => hview
  | cons documentId ids ih =>
    intro hview
    exact ih _ (valid_reopenIfUncovered now tenantId documentId hview)

theorem Since.voided (h : Since tenantId paymentId db q) (hok : q.ok = true) (now : Instant)
    (userId : UUID) (reason : String) :
    ∃ r, voidPayment now tenantId paymentId userId reason q = .ok (paymentId, r) ∧ r.ok = true := by
  obtain ⟨pay, hpay, hten, hconf⟩ := h.payment
  have hkey : pay.id = paymentId := Table.key_of_get hpay
  have hvoid : voidPayment now tenantId paymentId userId reason q = .ok (paymentId,
      (affectedDocuments paymentId q).foldl (reopenIfUncovered now tenantId)
        (withVoided now paymentId userId reason q)) := by
    simp only [voidPayment, requireVoidable, bind_eq_ok, require_eq_ok, raiseIf_eq_ok,
      decide_eq_false_iff_not, Decidable.not_not, pure, Except.pure, Except.ok.injEq]
    exact ⟨pay, ⟨pay, hpay, (), hten, (), hconf, rfl⟩, by rw [hkey]⟩
  exact ⟨_, hvoid, Db.ok_iff.mpr (valid_voided (affectedDocuments paymentId q) (Db.ok_iff.mp hok))⟩

end Since

/-! ## Runs -/

/-- Applications of an advance, each served by a session of its own. -/
def applyAll (tenantId paymentId : UUID) (db : Db)
    (applications : List (Instant × ApplyAdvanceRequest)) : Db :=
  Run.exec (fun db a => perform (applyAdvanceToInvoice a.1 tenantId paymentId a.2) db) db
    applications

/-- `r` is `db` after a void: on each document is left what the other payments leave, and those are
reopened that are paid, had something of the payment, and are not covered by the others. -/
def VoidsOnly (now : Instant) (paymentId : UUID) (db r : Db) : Prop :=
  ∀ id d, db.billingDocuments.get id = some d → ∃ d', r.billingDocuments.get id = some d' ∧
    r.outstanding d' = d.totalAmount - db.allocatedWithout paymentId id ∧
    d'.status = if id ∈ affectedDocuments paymentId db ∧ d.status = .paid ∧
      db.allocatedWithout paymentId id < d.totalAmount then d.waiting now else d.status

/-- `r` is `db` again, after a payment that led to `q` was voided: the documents that it made paid
wait for payment. -/
def Undone (now : Instant) (db q r : Db) : Prop :=
  ∀ id d, db.billingDocuments.get id = some d → ∃ d', r.billingDocuments.get id = some d' ∧
    r.outstanding d' = db.outstanding d ∧
    d'.status = if q.isPaid id ∧ ¬ db.isPaid id then d.waiting now else d.status

section Run

variable {m : Int} {S : UUID → Prop} {db p q r : Db} {tenantId paymentId : UUID}

theorem voidsOnly_voidPayment {now : Instant} {userId a : UUID} {reason : String}
    (hs : Sound m S db) (h : voidPayment now tenantId paymentId userId reason db = .ok (a, r)) :
    VoidsOnly now paymentId db r := by
  intro id d hd
  have hkey : d.id = id := Table.key_of_get hd
  obtain ⟨halloc, hget⟩ := voidPayment_get hs h hd
  by_cases haff : id ∈ affectedDocuments paymentId db
  · rw [if_pos haff] at hget
    refine ⟨_, hget, ?_, ?_⟩
    · rw [Db.outstanding, unlessCovered_totalAmount, unlessCovered_id, hkey, halloc]
    · rw [unlessCovered_status]
      simp only [haff, true_and]
  · rw [if_neg haff] at hget
    refine ⟨d, hget, ?_, ?_⟩
    · rw [Db.outstanding, hkey, halloc]
    · simp only [haff, false_and, if_false]

/-- Voiding the payment, after nothing else was done but to apply it. -/
theorem Since.undone {now : Instant} {userId a : UUID} {reason : String}
    (h : Since tenantId paymentId db q) (hs : Sound m S q)
    (hvoid : voidPayment now tenantId paymentId userId reason q = .ok (a, r)) :
    Undone now db q r := by
  intro id d hd
  have hkey : d.id = id := Table.key_of_get hd
  obtain ⟨d₁, hd₁, hsince⟩ := h.documents hd
  obtain ⟨d', hd', hout, hstatus⟩ := voidsOnly_voidPayment hs hvoid id d₁ hd₁
  rw [h.without] at hout hstatus
  have hpaid : ∀ {db' : Db} {e : BillingDocument}, db'.billingDocuments.get id = some e →
      (db'.isPaid id = true ↔ e.status = .paid) := by
    intro db' e he
    simp [Db.isPaid, he]
  refine ⟨d', hd', ?_, ?_⟩
  · rw [hout, Db.outstanding, hkey]
    cases hsince with
    | kept same => rw [same]
    | settled _ total => rw [total]
  · simp only [hstatus, hpaid hd₁, hpaid hd]
    cases hsince with
    | kept same payable =>
      subst same
      rw [hkey] at payable
      rw [if_neg fun hre => payable hre.1 hre.2.1, if_neg fun hnew => hnew.2 hnew.1]
    | settled paid total due affected before uncovered =>
      rw [hkey] at affected uncovered
      rw [total, if_pos ⟨affected, paid, uncovered⟩, if_pos ⟨paid, before⟩,
        BillingDocument.waiting, BillingDocument.waiting, due]

theorem since_applyAll (h : Since tenantId paymentId db p) (hb : PaymentsBooked p)
    (hok : p.ok = true) (applications : List (Instant × ApplyAdvanceRequest)) :
    Since tenantId paymentId db (applyAll tenantId paymentId p applications) ∧
      PaymentsBooked (applyAll tenantId paymentId p applications) ∧
      (applyAll tenantId paymentId p applications).ok = true := by
  refine Run.exec_inv_all (I := fun q =>
    Since tenantId paymentId db q ∧ PaymentsBooked q ∧ q.ok = true) ?_ ⟨h, hb, hok⟩
  rintro q ⟨now, payload⟩ ⟨hq, hbq, hokq⟩
  rcases perform_cases (applyAdvanceToInvoice now tenantId paymentId payload) q with
    hsame | ⟨a, ha, hok'⟩
  · rw [hsame]
    exact ⟨hq, hbq, hokq⟩
  · exact ⟨hq.applyAdvance hbq.toSound ha, booked_applyAdvance hbq hokq hok' ha, hok'⟩

/-- A void takes the payment off every document, and reopens only what is paid, had something of
it, and is not covered without it. Voiding a payment after nothing else was done but to apply it is
accepted, restores every outstanding amount, and leaves the documents that it had made paid waiting
for payment, overdue if their due date has passed. -/
theorem register_void_neutral [Locale] (selectBound : Bool) {start : Db} (hstart : start.Unpaid)
    (calls : List InvoiceCall) (now : Instant) (tenantId paymentId userId : UUID)
    (voidReason : String) :
    let db := Run.exec (InvoiceCall.step selectBound) start calls
    (∀ a r, voidPayment now tenantId paymentId userId voidReason db = .ok (a, r) →
      VoidsOnly now paymentId db r) ∧
    ∀ registered registrar payload p,
      registerPayment registered tenantId registrar payload db = .ok (paymentId, p) →
      p.ok = true → ∀ applications, ∃ r,
        voidPayment now tenantId paymentId userId voidReason
          (applyAll tenantId paymentId p applications) = .ok (paymentId, r) ∧ r.ok = true ∧
        Undone now db (applyAll tenantId paymentId p applications) r := by
  intro db
  obtain ⟨hb, hok⟩ := booked_run selectBound hstart calls
  refine ⟨fun a r h => voidsOnly_voidPayment hb.toSound h, ?_⟩
  intro registered registrar payload p hreg hp applications
  have hsince := since_registerPayment hb.toSound hreg
  obtain ⟨hq, hbq, hokq⟩ :=
    since_applyAll hsince (booked_registerPayment hb hp hreg) hp applications
  obtain ⟨r, hvoid, hr⟩ := hq.voided hokq now userId voidReason
  exact ⟨r, hvoid, hr, hq.undone hbq.toSound hvoid⟩

end Run

/-! ## An overdue invoice, paid and voided -/

/-- The invoice of `oneInvoiceDb`, which has no due date, once the job has found it overdue. -/
def overdueInvoiceDb : Db :=
  Run.exec (@InvoiceCall.step .ascii false) oneInvoiceDb [markOverdueAfter]

def advanceOfOne : ClientPaymentCreate where
  clientId := 1
  amount := 1
  valueDate := 500
  positive := metical_pos

theorem twoFifths_pos : (0 : ℚ) < 2 / 5 := by norm_num

theorem threeFifths_pos : (0 : ℚ) < 3 / 5 := by norm_num

def twoApplications : List (Instant × ApplyAdvanceRequest) :=
  [(2500, { billingDocumentId := 1, amountApplied := 2 / 5, positive := twoFifths_pos }),
    (2600, { billingDocumentId := 1, amountApplied := 3 / 5, positive := threeFifths_pos })]

theorem register_void_neutral_applied :
    ∃ r, voidPayment 3000 1 1 1 "engano"
        (applyAll 1 1 (addPayment 1 1 advanceOfOne overdueInvoiceDb) twoApplications) = .ok (1, r) ∧
      r.ok = true ∧ Undone 3000 overdueInvoiceDb
        (applyAll 1 1 (addPayment 1 1 advanceOfOne overdueInvoiceDb) twoApplications) r :=
  (@register_void_neutral .ascii false oneInvoiceDb (by decide +kernel) [markOverdueAfter] 3000 1 1
    1 "engano").2 2400 1 advanceOfOne (addPayment 1 1 advanceOfOne overdueInvoiceDb) rfl
      (by decide +kernel) twoApplications

def statusAfter (calls : List InvoiceCall) : Option DocStatus :=
  ((Run.exec (@InvoiceCall.step .ascii false) oneInvoiceDb calls).billingDocuments.get 1).map
    BillingDocument.status

def payTwoFifths : InvoiceCall := .document (.other (payInvoice (2 / 5) twoFifths_pos))

def voidFirst : InvoiceCall := .document (.other (.voidPayment 3000 1 1 1 "engano"))

def markPaidByHand : InvoiceCall := .document (.other (.transition 2000 1 1 { newStatus := .paid }))

def invoiceReceipt : InvoiceCall := .document (.other (.createInvoiceReceipt 2000 1 1))

/-- An overdue invoice without a due date is issued again; and an invoice of which the payment
covered a part is reopened, although it was marked paid, or settled by an invoice-receipt. -/
theorem void_not_neutral :
    (statusAfter [markOverdueAfter] = some .overdue ∧
      statusAfter [markOverdueAfter, payOne, voidFirst] = some .issued) ∧
    (statusAfter [payTwoFifths, markPaidByHand] = some .paid ∧
      statusAfter [payTwoFifths, markPaidByHand, voidFirst] = some .issued) ∧
    statusAfter [payTwoFifths, invoiceReceipt] = some .paid ∧
      statusAfter [payTwoFifths, invoiceReceipt, voidFirst] = some .issued := by
  decide +kernel

end Rotas
