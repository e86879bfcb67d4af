import Rotas.Billing.Payments
import Rotas.Billing.Steps

/-!
# Rotas.Billing.Sound

What carries the balance of documents and payments along a run, whether its operations come one
after another or interleaved, and what rounding does to an amount that passed the checks of a
payment. The checks compare it as it came; the columns hold it in cents, and the covering test rounds
its sum to 28 digits first.

* `Carries`, `AmountFits` — the context lifts a sum over the last half cent below a total; an amount
  is stored as at least a cent, and not lifted so.
* `le_add_numeric` — then an amount that settles a document is stored as all of its rest.
* `Db.allocated` — the live allocations of a document: those of confirmed payments.
* `Sound m S` — documents and payments are not exceeded, no allocation is below `m`, and the
  documents in `S` are covered.
* `sound_addPayment`, `sound_allocate`, `sound_settle`, `sound_withVoided` — what the writes of the
  payment operations keep of it.
-/

namespace Rotas

open Work Decimal

section Amounts

variable {a : ℚ} {c e t : Int}

theorem one_le_numeric (h : 1 / 200 ≤ a) : 1 ≤ numeric 2 a := by
  rw [numeric, le_roundHalfAway_iff (by linarith)]
  push_cast
  linarith

theorem numeric_nonneg (h : 0 ≤ a) : 0 ≤ numeric 2 a := by
  rw [numeric, le_roundHalfAway_iff (by linarith)]
  push_cast
  linarith

/-- An amount that fits in a rest still fits when the column has rounded it. -/
theorem numeric_le_of_le_money (ha : 0 < a) (h : a ≤ money c) : numeric 2 a ≤ c := by
  unfold money at h
  exact roundHalfAway_le (by linarith) (by linarith)

/-- The sum is compared after the context has rounded it; a whole cent above the bound would
still show. -/
theorem add_numeric_le (he : 0 ≤ e) (ha : 0 < a) (hc : c < 10 ^ 14)
    (h : context (money e + a) ≤ money c) : e + numeric 2 a ≤ c := by
  by_contra hlt
  have hle : c + 1 - e ≤ numeric 2 a := by omega
  rw [numeric, le_roundHalfAway_iff (by linarith)] at hle
  have he' : (0 : ℚ) ≤ e := by exact_mod_cast he
  have hbound : ((10 * c + 5 : ℤ) : ℚ) / 10 ^ 3 ≤ money e + a := by
    unfold money
    push_cast at hle ⊢
    linarith
  have hctx := le_context (k := 3) (c := 10 * c + 5)
    (by unfold money; linarith) (by omega) hbound
  unfold money at h hctx
  push_cast at hctx
  linarith

/-- Half a cent below the total: from here on the rounded sum reaches it. -/
def halfCentBelow (t : Int) : ℚ := ((t : ℚ) - 1 / 2) / 100

/-- The rounding of the context lifts the sum over the last half cent below the total. -/
def Carries (t e : Int) (a : ℚ) : Prop :=
  money e + a < halfCentBelow t ∧ halfCentBelow t ≤ context (money e + a)

instance : Decidable (Carries t e a) := inferInstanceAs (Decidable (_ ∧ _))

theorem le_add_numeric (ha : 0 < a) (hcarry : ¬ Carries t e a)
    (h : t ≤ quantize 2 (context (money e + a))) : t ≤ e + numeric 2 a := by
  have hctx : halfCentBelow t ≤ context (money e + a) := by
    have := sub_half_le_of_le_roundHalfEven h
    unfold halfCentBelow
    linarith
  have hsum : halfCentBelow t ≤ money e + a := by
    by_contra hlt
    exact hcarry ⟨not_le.mp hlt, hctx⟩
  have hle : t - e ≤ numeric 2 a := by
    rw [numeric, le_roundHalfAway_iff (by linarith)]
    unfold halfCentBelow money at hsum
    push_cast
    linarith
  omega

/-- The condition on an amount: the columns can hold it, and the context does not lift it. -/
def AmountFits (total existing : Int) (amount : ℚ) : Prop :=
  1 / 200 ≤ amount ∧ ¬ Carries total existing amount

instance (total existing : Int) (amount : ℚ) : Decidable (AmountFits total existing amount) :=
  inferInstanceAs (Decidable (_ ∧ _))

end Amounts

/-- The payment of the allocation is confirmed. -/
def Db.live (db : Db) (a : PaymentAllocation) : Bool :=
  (db.clientPayments.get a.paymentId).any (·.status = .confirmed)

/-- The live allocations of a document. -/
def Db.allocated (db : Db) (documentId : UUID) : Int :=
  db.paymentAllocations.sumWhere (fun a => a.billingDocumentId = documentId && db.live a)
    PaymentAllocation.amountApplied

/-- No document and no payment is exceeded, no allocation is below `m`, and the documents in `S`
are covered by live allocations. -/
structure Sound (m : Int) (S : UUID → Prop) (db : Db) : Prop where
  refs : ∀ a ∈ db.paymentAllocations, ∃ p d,
    db.clientPayments.get a.paymentId = some p ∧
    db.billingDocuments.get a.billingDocumentId = some d ∧
    p.tenantId = d.tenantId ∧ d.status ≠ .draft
  documents : ∀ {id d}, db.billingDocuments.get id = some d → db.allocated id ≤ d.totalAmount
  payments : ∀ {id p}, db.clientPayments.get id = some p → sumApplied id db ≤ p.amount
  nonneg : 0 ≤ m
  least : ∀ a ∈ db.paymentAllocations, m ≤ a.amountApplied
  covered : ∀ {id d}, S id → db.billingDocuments.get id = some d → d.totalAmount ≤ db.allocated id

section Sound

variable {m : Int} {S S' : UUID → Prop} {db p : Db} {tenantId documentId paymentId : UUID}

theorem Sound.mono (h : Sound m S db) (hS : ∀ id, S' id → S id) : Sound m S' db :=
  { h with covered := fun hid hd => h.covered (hS _ hid) hd }

theorem Sound.amount_nonneg (h : Sound m S db) {a : PaymentAllocation}
    (ha : a ∈ db.paymentAllocations) : 0 ≤ a.amountApplied :=
  h.nonneg.trans (h.least a ha)

/-- The sum of the code, over the tenant's payments, is the sum over all of them. -/
theorem Sound.sumConfirmed (h : Sound m S db) {d : BillingDocument}
    (hd : db.billingDocuments.get documentId = some d) (ht : d.tenantId = tenantId) :
    sumConfirmedAllocations tenantId documentId db = db.allocated documentId := by
  refine Table.sumWhere_congr fun a ha => ?_
  obtain ⟨p, d', hp, hd', hpt, _⟩ := h.refs a ha
  by_cases hid : a.billingDocumentId = documentId
  · rw [hid, hd] at hd'
    cases hd'
    simp [PaymentAllocation.counts, Db.live, hp, hpt, ht]
  · simp [hid]

/-- A document no allocation refers to has nothing allocated. -/
theorem Sound.allocated_eq_zero (h : Sound m S db)
    (hd : ∀ d, db.billingDocuments.get documentId = some d → d.status = .draft) :
    db.allocated documentId = 0 := by
  refine Table.sumWhere_eq_zero fun a ha => ?_
  obtain ⟨_, d, _, hget, _, hne⟩ := h.refs a ha
  by_cases hid : a.billingDocumentId = documentId
  · exact absurd (hd d (hid ▸ hget)) hne
  · simp [hid]

theorem DocsStep.allocated (h : DocsStep db p) (id : UUID) : p.allocated id = db.allocated id := by
  simp only [Db.allocated, Db.live, h.payments, h.allocations]

theorem total_nonneg (hok : p.ok = true) {id : UUID} {d : BillingDocument}
    (hd : p.billingDocuments.get id = some d) : 0 ≤ d.totalAmount := by
  have := (Db.ok_iff.mp hok).billingDocuments d (Table.mem_of_get hd)
  simp only [BillingDocument.ok, fitsMoney, Bool.and_eq_true, decide_eq_true_eq] at this
  exact this.1.1.1.2.1

theorem Sound.docsStep (hs : Sound m S db) (h : DocsStep db p) (hok : p.ok = true)
    (hS : ∀ id, S id → ∃ d, db.billingDocuments.get id = some d ∧ d.status ≠ .draft) :
    Sound m S p := by
  constructor
  case refs =>
    intro a ha
    rw [h.allocations] at ha
    obtain ⟨pay, d, hpay, hd, ht, hne⟩ := hs.refs a ha
    obtain ⟨d', hd', ht', hkeep⟩ := h.documents hd
    exact ⟨pay, d', by rw [h.payments]; exact hpay, hd', ht.trans ht'.symm, (hkeep hne).1⟩
  case documents =>
    intro id d' hd'
    rw [h.allocated]
    by_cases hold : ∃ d, db.billingDocuments.get id = some d ∧ d.status ≠ .draft
    · obtain ⟨d, hd, hne⟩ := hold
      obtain ⟨d'', hd'', _, hkeep⟩ := h.documents hd
      rw [hd'] at hd''
      cases hd''
      rw [(hkeep hne).2]
      exact hs.documents hd
    · rw [hs.allocated_eq_zero fun d hd => by_contra fun hne => hold ⟨d, hd, hne⟩]
      exact total_nonneg hok hd'
  case payments =>
    intro id pay hpay
    rw [h.payments] at hpay
    simpa only [sumApplied, h.allocations] using hs.payments hpay
  case nonneg => exact hs.nonneg
  case least => rw [h.allocations]; exact hs.least
  case covered =>
    intro id d' hid hd'
    obtain ⟨d, hd, hne⟩ := hS id hid
    obtain ⟨d'', hd'', _, hkeep⟩ := h.documents hd
    rw [hd'] at hd''
    cases hd''
    rw [h.allocated, (hkeep hne).2]
    exact hs.covered hid hd

/-! ## Payments and allocations -/

theorem sumApplied_fresh (hs : Sound m S db) : sumApplied db.clientPayments.freshKey db = 0 := by
  refine Table.sumWhere_eq_zero fun a ha => ?_
  obtain ⟨pay, _, hpay, _⟩ := hs.refs a ha
  refine decide_eq_false fun h => ?_
  rw [h, Table.get_freshKey] at hpay
  cases hpay

theorem addPayment_get (tenantId userId : UUID) (payload : ClientPaymentCreate) (id : UUID) :
    (addPayment tenantId userId payload db).clientPayments.get id =
      if id = db.clientPayments.freshKey then
        some (newPayment tenantId userId payload db.clientPayments.freshKey)
      else db.clientPayments.get id := by
  simp only [addPayment, Table.get_insert]

theorem addPayment_get_self (tenantId userId : UUID) (payload : ClientPaymentCreate) (db : Db) :
    (addPayment tenantId userId payload db).clientPayments.get db.clientPayments.freshKey =
      some (newPayment tenantId userId payload db.clientPayments.freshKey) := by
  rw [addPayment_get, if_pos rfl]

theorem addPayment_get_of_some {userId : UUID} {payload : ClientPaymentCreate} {id : UUID}
    {pay : ClientPayment} (hpay : db.clientPayments.get id = some pay) :
    (addPayment tenantId userId payload db).clientPayments.get id = some pay := by
  have hne : id ≠ db.clientPayments.freshKey := by
    rintro rfl
    rw [Table.get_freshKey] at hpay
    cases hpay
  rw [addPayment_get, if_neg hne, hpay]

theorem allocated_addPayment (tenantId userId : UUID) (payload : ClientPaymentCreate)
    (hs : Sound m S db) (id : UUID) :
    (addPayment tenantId userId payload db).allocated id = db.allocated id := by
  refine Table.sumWhere_congr fun a ha => ?_
  obtain ⟨pay, _, hpay, _⟩ := hs.refs a ha
  simp only [Db.live, addPayment_get_of_some hpay, hpay]

theorem sound_addPayment {userId : UUID} {payload : ClientPaymentCreate} (hs : Sound m S db) :
    Sound m S (addPayment tenantId userId payload db) := by
  constructor
  case refs =>
    intro a ha
    obtain ⟨pay, d, hpay, rest⟩ := hs.refs a ha
    exact ⟨pay, d, addPayment_get_of_some hpay, rest⟩
  case documents => intro id d hd; rw [allocated_addPayment _ _ _ hs]; exact hs.documents hd
  case payments =>
    intro id pay hpay
    change sumApplied id db ≤ pay.amount
    rw [addPayment_get] at hpay
    split at hpay
    · next hid =>
      cases hpay
      rw [hid, sumApplied_fresh hs]
      exact numeric_nonneg payload.positive.le
    · exact hs.payments hpay
  case nonneg => exact hs.nonneg
  case least => exact hs.least
  case covered => intro id d hid hd; rw [allocated_addPayment _ _ _ hs]; exact hs.covered hid hd

theorem sumApplied_addPayment {userId : UUID} {payload : ClientPaymentCreate} (hs : Sound m S db) :
    sumApplied db.clientPayments.freshKey (addPayment tenantId userId payload db) +
      numeric 2 payload.amount ≤
    (newPayment tenantId userId payload db.clientPayments.freshKey).amount := by
  have hzero : sumApplied db.clientPayments.freshKey (addPayment tenantId userId payload db) = 0 :=
    sumApplied_fresh hs
  rw [hzero, zero_add]
  exact le_rfl

theorem allocated_allocate (tenantId documentId : UUID) (amount : ℚ) {pay : ClientPayment}
    (hpay : db.clientPayments.get paymentId = some pay) (id : UUID) :
    (allocate tenantId paymentId documentId amount db).allocated id = db.allocated id +
      if documentId = id ∧ pay.status = .confirmed then numeric 2 amount else 0 := by
  simp only [Db.allocated, allocate, Table.sumWhere_insert, Db.live, hpay, Option.any_some,
    Bool.and_eq_true, decide_eq_true_eq]

theorem sound_allocate {amount : ℚ} {pay : ClientPayment} {d : BillingDocument} (hs : Sound m S db)
    (hpay : db.clientPayments.get paymentId = some pay)
    (hd : db.billingDocuments.get documentId = some d) (ht : pay.tenantId = d.tenantId)
    (hdraft : d.status ≠ .draft) (hleast : m ≤ numeric 2 amount)
    (hdoc : db.allocated documentId + numeric 2 amount ≤ d.totalAmount)
    (hfit : sumApplied paymentId db + numeric 2 amount ≤ pay.amount) :
    Sound m S (allocate tenantId paymentId documentId amount db) := by
  have halloc := allocated_allocate tenantId documentId amount hpay
  constructor
  case refs =>
    intro a ha
    rcases (Table.mem_insert _ _ (by intro; rfl)).mp ha with ha | rfl
    · exact hs.refs a ha
    · exact ⟨pay, d, hpay, hd, ht, hdraft⟩
  case documents =>
    intro id d' hd'
    rw [halloc]
    split
    · next h =>
      change db.billingDocuments.get id = some d' at hd'
      rw [← h.1, hd] at hd'
      cases hd'
      rw [← h.1]
      exact hdoc
    · rw [add_zero]; exact hs.documents hd'
  case payments =>
    intro id pay' hpay'
    have hsum : sumApplied id (allocate tenantId paymentId documentId amount db) =
        sumApplied id db + if paymentId = id then numeric 2 amount else 0 := by
      simp only [sumApplied, allocate, Table.sumWhere_insert, decide_eq_true_eq]
    rw [hsum]
    split
    · next h =>
      have hpay'' : db.clientPayments.get id = some pay' := hpay'
      rw [← h, hpay] at hpay''
      cases hpay''
      rw [← h]
      exact hfit
    · rw [add_zero]; exact hs.payments hpay'
  case nonneg => exact hs.nonneg
  case least =>
    intro a ha
    rcases (Table.mem_insert _ _ (by intro; rfl)).mp ha with ha | rfl
    · exact hs.least a ha
    · exact hleast
  case covered =>
    intro id d' hid hd'
    have hle := hs.covered hid hd'
    have hnonneg := hs.nonneg.trans hleast
    rw [halloc]
    split <;> omega

theorem Sound.extend (hs : Sound m S db) {d : BillingDocument}
    (hd : db.billingDocuments.get documentId = some d)
    (hcover : d.totalAmount ≤ db.allocated documentId) :
    Sound m (fun id => S id ∨ id = documentId) db :=
  { hs with
    covered := by
      rintro id d' (hid | rfl) hd'
      · exact hs.covered hid hd'
      · rw [hd] at hd'
        cases hd'
        exact hcover }

theorem docsStep_paid (now paidAt : Instant) (documentId : UUID) (db : Db) :
    DocsStep db (db.modifyDocument documentId
      ({ newStatus := .paid, paidAt := some paidAt : Transition }.apply now)) := by
  have hstep : DocsOnly (fun _ => False) db (db.modifyDocument documentId
      ({ newStatus := .paid, paidAt := some paidAt : Transition }.apply now)) :=
    .of_modify (fun _ _ => ⟨rfl, fun _ => ⟨nofun, rfl⟩⟩) fun _ _ h => h.elim
  exact hstep.toDocsStep

/-- Allocating and settling, once the checks have passed. The document as the checks read it, and
what they found allocated to it, may be older than the database: then the amount must still fit,
and a settled document must still be covered. -/
theorem sound_settle {now paidAt : Instant} {pay : ClientPayment} {d d' : BillingDocument}
    {existing : Int} {amount : ℚ} (hs : Sound m S db)
    (hpay : db.clientPayments.get paymentId = some pay) (hconf : pay.status = .confirmed)
    (hpt : pay.tenantId = d'.tenantId) (hd : db.billingDocuments.get d.id = some d')
    (htotal : d'.totalAmount = d.totalAmount) (hdraft : d'.status ≠ .draft)
    (ha : 0 < amount) (hleast : m ≤ numeric 2 amount)
    (hcarry : ¬ Carries d.totalAmount existing amount)
    (hrest : amount ≤ money (d.totalAmount - existing)) (hex : db.allocated d.id ≤ existing)
    (hcovers : Covers d.totalAmount existing amount → existing ≤ db.allocated d.id)
    (happly : sumApplied paymentId db + numeric 2 amount ≤ pay.amount)
    (hSnd : ∀ id, S id → ∃ d, db.billingDocuments.get id = some d ∧ d.status ≠ .draft)
    (hok : p.ok = true)
    (h : settle now d existing amount paidAt (allocate tenantId paymentId d.id amount db) = .ok p) :
    Sound m (fun id => S id ∨ id = d.id ∧ Covers d.totalAmount existing amount) p := by
  have hle := numeric_le_of_le_money ha hrest
  have halloc : Sound m S (allocate tenantId paymentId d.id amount db) :=
    sound_allocate hs hpay hd hpt hdraft hleast (by omega) happly
  have hd₁ : (allocate tenantId paymentId d.id amount db).billingDocuments.get d.id = some d' := hd
  rcases settle_cases h with ⟨hnot, rfl⟩ | ⟨hcover, rfl⟩
  · refine halloc.mono ?_
    rintro id (hid | ⟨_, hc⟩)
    · exact hid
    · exact absurd hc hnot
  · have hstep := docsStep_paid now paidAt d.id (allocate tenantId paymentId d.id amount db)
    obtain ⟨d'', hd'', _, hkeep⟩ := hstep.documents hd₁
    refine ((halloc.docsStep hstep hok hSnd).extend hd'' ?_).mono fun id => Or.imp_right And.left
    have hsum := le_add_numeric ha hcarry hcover
    have hnow := hcovers hcover
    rw [hstep.allocated, (hkeep hdraft).2, allocated_allocate _ _ _ hpay, if_pos ⟨rfl, hconf⟩]
    omega

theorem amount_lt (hok : db.ok = true) {pay : ClientPayment}
    (hpay : db.clientPayments.get paymentId = some pay) : pay.amount < 10 ^ 14 := by
  have := (Db.ok_iff.mp hok).clientPayments pay (Table.mem_of_get hpay)
  simp only [fitsPayment, Bool.and_eq_true, decide_eq_true_eq] at this
  exact this.2

theorem sumApplied_nonneg (hs : Sound m S db) : 0 ≤ sumApplied paymentId db := by
  have h := Table.sumWhere_le (t := db.paymentAllocations) (p := fun _ => false)
    (q := (·.paymentId = paymentId)) (f := PaymentAllocation.amountApplied)
    (fun _ _ h => by cases h) fun a ha => hs.amount_nonneg ha
  rwa [Table.sumWhere_eq_zero fun _ _ => rfl] at h

theorem settled_not_draft (hSpaid : ∀ id, S id → db.isPaid id) {id : UUID} (hS : S id) :
    ∃ d, db.billingDocuments.get id = some d ∧ d.status ≠ .draft := by
  obtain ⟨d, hd, hpaid⟩ := isPaid_iff.mp (hSpaid id hS)
  exact ⟨d, hd, by rw [hpaid]; decide⟩

/-- What a settlement makes paid is its document, which it covers. -/
theorem covers_of_settle {now paidAt : Instant} {d : BillingDocument} {existing : Int} {amount : ℚ}
    (h : settle now d existing amount paidAt db = .ok p) {id : UUID} (hpaid : p.isPaid id)
    (hold : ¬ db.isPaid id) : id = d.id ∧ Covers d.totalAmount existing amount := by
  rcases settle_cases h with ⟨_, rfl⟩ | ⟨hcover, rfl⟩
  · exact absurd hpaid hold
  · refine ⟨by_contra fun hne => hold ?_, hcover⟩
    simpa only [Db.isPaid, Db.modifyDocument, Table.get_modify, if_neg hne] using hpaid

theorem not_draft_of_payable {d : BillingDocument} (h : d.status = .issued ∨ d.status = .overdue) :
    d.status ≠ .draft := by
  rcases h with h | h <;> simp [h]

/-! ## Taking a payment back -/

theorem withVoided_get {now : Instant} {userId : UUID} {reason : String} (id : UUID) :
    (withVoided now paymentId userId reason db).clientPayments.get id =
      if id = paymentId then (db.clientPayments.get paymentId).map
        ({ · with status := .voided, voidedAt := some now, voidedBy := some userId
                  voidReason := some reason })
      else db.clientPayments.get id := by
  simp only [withVoided, Table.get_modify]

theorem withVoided_live {now : Instant} {userId : UUID} {reason : String} (a : PaymentAllocation) :
    (withVoided now paymentId userId reason db).live a = (db.live a && a.paymentId ≠ paymentId) := by
  rw [Db.live, withVoided_get]
  by_cases h : a.paymentId = paymentId
  · rw [if_pos h, ← h]
    cases db.clientPayments.get a.paymentId <;> simp
  · rw [if_neg h]
    simp [Db.live, h]

theorem withVoided_allocated_le {now : Instant} {userId : UUID} {reason : String}
    (hs : Sound m S db) (id : UUID) :
    (withVoided now paymentId userId reason db).allocated id ≤ db.allocated id := by
  refine Table.sumWhere_le (fun a _ h => ?_) fun a ha => hs.amount_nonneg ha
  simp only [withVoided_live, Bool.and_eq_true] at h
  simp only [Bool.and_eq_true]
  exact ⟨h.1, h.2.1⟩

theorem withVoided_allocated_eq {now : Instant} {userId : UUID} {reason : String} {id : UUID}
    (h : id ∉ affectedDocuments paymentId db) :
    (withVoided now paymentId userId reason db).allocated id = db.allocated id := by
  refine Table.sumWhere_congr fun a ha => ?_
  rw [withVoided_live]
  by_cases hid : a.billingDocumentId = id
  · have hne : a.paymentId ≠ paymentId := fun he => h
      (List.mem_map.mpr ⟨a, List.mem_filter.mpr ⟨ha, by simpa using he⟩, hid⟩)
    simp [hne]
  · simp [hid]

/-- The invoices that a payment was applied to are its tenant's. -/
theorem Sound.affected_tenant (hs : Sound m S db) {pay : ClientPayment}
    (hpay : db.clientPayments.get paymentId = some pay)
    (haff : documentId ∈ affectedDocuments paymentId db) {d : BillingDocument}
    (hd : db.billingDocuments.get documentId = some d) : d.tenantId = pay.tenantId := by
  obtain ⟨a, ha, rfl⟩ := List.mem_map.mp haff
  obtain ⟨hmem, hpid⟩ := List.mem_filter.mp ha
  obtain ⟨pay', d', hpay', hd', ht, _⟩ := hs.refs a hmem
  rw [of_decide_eq_true hpid, hpay] at hpay'
  rw [hd] at hd'
  cases hpay'
  cases hd'
  exact ht.symm

theorem sound_withVoided (now : Instant) (paymentId userId : UUID) (reason : String)
    (hs : Sound m S db) :
    Sound m (fun id => S id ∧ ∀ d, db.billingDocuments.get id = some d →
      d.totalAmount ≤ (withVoided now paymentId userId reason db).allocated id)
      (withVoided now paymentId userId reason db) := by
  constructor
  case refs =>
    intro a ha
    obtain ⟨pay, d, hpay, hd, ht, hne⟩ := hs.refs a ha
    by_cases h : a.paymentId = paymentId
    · obtain ⟨pay', hpay', hten⟩ : ∃ pay',
          (withVoided now paymentId userId reason db).clientPayments.get a.paymentId = some pay' ∧
            pay'.tenantId = pay.tenantId := by
        rw [withVoided_get, if_pos h, ← h, hpay]
        exact ⟨_, rfl, rfl⟩
      exact ⟨pay', d, hpay', hd, hten.trans ht, hne⟩
    · exact ⟨pay, d, by rw [withVoided_get, if_neg h, hpay], hd, ht, hne⟩
  case documents =>
    intro id d hd
    exact (withVoided_allocated_le hs id).trans (hs.documents hd)
  case payments =>
    intro id pay hpay
    change sumApplied id db ≤ pay.amount
    rw [withVoided_get] at hpay
    split at hpay
    · next h =>
      obtain ⟨old, hold, rfl⟩ := Option.map_eq_some_iff.mp hpay
      change sumApplied id db ≤ old.amount
      rw [h]
      exact hs.payments hold
    · exact hs.payments hpay
  case nonneg => exact hs.nonneg
  case least => exact hs.least
  case covered => exact fun hid hd => hid.2 _ hd

end Sound

end Rotas
