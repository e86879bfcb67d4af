import Rotas.Billing.PaymentEffects

/-!
# Rotas.Billing.PaymentSafety

Payments, advances and voids in every interleaving of their transactions.

* `Ready` — what a transaction knows in each phase.
* `Fresh` — what an advance or a void has to find unchanged when it commits.
* `payTurn_cases` — a turn reads, or ends without effect, or commits its writes.
* `payments_safe` — every interleaving whose commits are fresh is safe.
* `advance_spent_twice` — two advances at once are not.
-/

namespace Rotas

open Interleave Decimal

/-! ## What a transaction knows -/

/-- The row is still there, with its tenant and its total. -/
def DocKept (db : Db) (d : BillingDocument) : Prop :=
  ∃ d', db.billingDocuments.get d.id = some d' ∧ d'.tenantId = d.tenantId ∧
    d'.totalAmount = d.totalAmount ∧ d'.status ≠ .draft

/-- The row is still there, with its tenant and its amount. -/
def PayKept (db : Db) (pay : ClientPayment) : Prop :=
  ∃ pay', db.clientPayments.get pay.id = some pay' ∧ pay'.tenantId = pay.tenantId ∧
    pay'.amount = pay.amount

/-- A registration holds its invoice, and the invoice is as it was read. -/
structure Holding (i : Nat) (s : PayStore) (r : Registering) (d : BillingDocument) : Prop where
  lock : s.locks d.id = some i
  row : s.db.billingDocuments.get d.id = some d
  tenant : d.tenantId = r.tenantId
  payable : d.status = .issued ∨ d.status = .overdue

structure Advancing (db : Db) (a : Applying) (pay : ClientPayment) : Prop where
  kept : PayKept db pay
  tenant : pay.tenantId = a.tenantId

structure Targeting (db : Db) (a : Applying) (d : BillingDocument) : Prop where
  kept : DocKept db d
  tenant : d.tenantId = a.tenantId

/-- What was found applied of the advance leaves room for the amount. -/
structure Fitting (a : Applying) (pay : ClientPayment) (applied : Int) : Prop where
  nonneg : 0 ≤ applied
  fits : context (money applied + a.payload.amountApplied) ≤ money pay.amount

structure VoidReady (db : Db) (v : Voiding) (w : VoidWork) : Prop where
  payment : ∃ pay, db.clientPayments.get v.paymentId = some pay ∧ pay.tenantId = v.tenantId
  allocations : ∀ a ∈ w.allocations, a ∈ db.paymentAllocations ∧ a.paymentId = v.paymentId
  todo : ∀ id ∈ w.todo, id ∈ w.allocations.map PaymentAllocation.billingDocumentId
  documents : ∀ e ∈ w.documents,
    e.id ∈ w.allocations.map PaymentAllocation.billingDocumentId ∧ DocKept db e
  reopened : ∀ e ∈ w.reopened, e.id ∈ w.allocations.map PaymentAllocation.billingDocumentId

def Ready (i : Nat) (s : PayStore) : PayPhase → Prop
  | .held r d => Holding i s r d
  | .registered r (some (d, existing)) =>
    Holding i s r d ∧ existing = sumConfirmedAllocations r.tenantId d.id s.db ∧
      r.payload.amount ≤ money (d.totalAmount - existing)
  | .advance a pay => Advancing s.db a pay
  | .target a pay d => Advancing s.db a pay ∧ Targeting s.db a d
  | .fitting a pay d applied => Advancing s.db a pay ∧ Targeting s.db a d ∧ Fitting a pay applied
  | .applied a pay d applied existing =>
    Advancing s.db a pay ∧ Targeting s.db a d ∧ Fitting a pay applied ∧
      a.payload.amountApplied ≤ money (d.totalAmount - existing)
  | .voidable v => ∃ pay, s.db.clientPayments.get v.paymentId = some pay ∧ pay.tenantId = v.tenantId
  | .voiding v w => VoidReady s.db v w ∧
    ∀ e ∈ w.documents, e.status = .paid → Spared s.db v w.allocations e.id
  | .covering v w d => VoidReady s.db v w ∧
    (d.id ∈ w.allocations.map PaymentAllocation.billingDocumentId ∧ DocKept s.db d) ∧
    ∀ e ∈ w.documents, e.status = .paid → e.id ≠ d.id → Spared s.db v w.allocations e.id
  | _ => True

/-! ## What has to be unchanged at a commit -/

/-- An advance finds at least the room that it read, and exactly that much where it makes the
invoice paid. -/
def StillFits (i : Nat) (s : PayStore) (a : Applying) (pay : ClientPayment) (d : BillingDocument)
    (applied existing : Int) : Prop :=
  s.locks.available i d.id = true ∧
    (s.db.clientPayments.get pay.id).any (·.status = .confirmed) = true ∧
    sumApplied pay.id s.db ≤ applied ∧
    sumConfirmedAllocations a.tenantId d.id s.db ≤ existing ∧
    (Covers d.totalAmount existing a.payload.amountApplied →
      existing ≤ sumConfirmedAllocations a.tenantId d.id s.db)

/-- A void finds the allocations that it read, and those of their invoices that are paid it found
paid. -/
def StillVoidable (i : Nat) (s : PayStore) (v : Voiding) (w : VoidWork) : Prop :=
  allocationsOf v.paymentId s.db = w.allocations ∧
    ∀ a ∈ w.allocations, s.locks.available i a.billingDocumentId = true ∧
      (s.db.isPaid a.billingDocumentId = true → a.billingDocumentId ∈ w.foundPaid)

def Fresh (i : Nat) (s : PayStore) : PayPhase → Prop
  | .registered r (some (d, existing)) => ¬ Carries d.totalAmount existing r.payload.amount
  | .applied a pay d applied existing =>
    ¬ Carries d.totalAmount existing a.payload.amountApplied ∧
      StillFits i s a pay d applied existing
  | .voiding v w => StillVoidable i s v w
  | _ => True

/-- Who commits is fresh. -/
def Undisturbed (c : Config PayStore PayPhase) (m : Nat × PayAction) : Prop :=
  match m.2 with
  | .commit => Fresh m.1 c.store (c.parties m.1)
  | _ => True

instance (i : Nat) (s : PayStore) (p : PayPhase) : Decidable (Fresh i s p) := by
  unfold Fresh StillFits StillVoidable
  split <;> infer_instance

instance (c : Config PayStore PayPhase) (m : Nat × PayAction) : Decidable (Undisturbed c m) := by
  unfold Undisturbed
  split <;> infer_instance

/-! ## The commits -/

/-- What every state of a run keeps. -/
structure PaySound (s : PayStore) : Prop where
  ok : s.db.ok = true
  sound : Sound 0 s.db.suspect s.db

section Commit

variable {i : Nat} {s : PayStore} {p : PayPhase} {db : Db}

theorem available_of_held {L : Locks UUID} {id : UUID} (h : L id = some i) :
    L.available i id = true := by
  rw [Locks.available, h]
  simp

theorem effect_register {r : Registering} {d : BillingDocument} {existing : Int} (hs : PaySound s)
    (hhold : Holding i s r d) (hex : existing = sumConfirmedAllocations r.tenantId d.id s.db)
    (hrest : r.payload.amount ≤ money (d.totalAmount - existing))
    (hcarry : ¬ Carries d.totalAmount existing r.payload.amount) (hok : db.ok = true)
    (h : recordPayment r.now r.tenantId r.userId r.payload (some (d, existing)) s.db = .ok db) :
    Effect (· = d.id) s.db db := by
  have hadd : Effect (fun _ => False) s.db (addPayment r.tenantId r.userId r.payload s.db) :=
    effect_addPayment hs.sound
  have hsum : existing = (addPayment r.tenantId r.userId r.payload s.db).allocated d.id := by
    rw [hex, hs.sound.sumConfirmed hhold.row hhold.tenant, allocated_addPayment _ _ _ hs.sound]
  exact hadd.comp (effect_settle hadd.sound (addPayment_get_self ..) rfl hhold.tenant.symm hhold.row
    rfl (not_draft_of_payable hhold.payable) r.payload.positive hcarry hrest hsum.ge
    (fun _ => hsum.le) (sumApplied_addPayment hs.sound) hok h)

theorem effect_apply {a : Applying} {pay : ClientPayment} {d : BillingDocument}
    {applied existing : Int} (hs : PaySound s) (hpay : Advancing s.db a pay)
    (hd : Targeting s.db a d) (hfit : Fitting a pay applied)
    (hrest : a.payload.amountApplied ≤ money (d.totalAmount - existing))
    (hcarry : ¬ Carries d.totalAmount existing a.payload.amountApplied)
    (hstill : StillFits i s a pay d applied existing) (hok : db.ok = true)
    (h : applyAmount a.now a.tenantId a.payload pay d existing s.db = .ok db) :
    Effect (· = d.id) s.db db := by
  obtain ⟨_, hconf, happlied, hex, hcovers⟩ := hstill
  obtain ⟨pay', hpay', hpt, hamount⟩ := hpay.kept
  obtain ⟨d', hd', hdt, htotal, hdraft⟩ := hd.kept
  have hdten : d'.tenantId = a.tenantId := hdt.trans hd.tenant
  rw [hs.sound.sumConfirmed hd' hdten] at hex hcovers
  have hconf' : pay'.status = .confirmed := by simpa [hpay'] using hconf
  have hlt : pay.amount < 10 ^ 14 := hamount ▸ amount_lt hs.ok hpay'
  have hbound := add_numeric_le hfit.nonneg a.payload.positive hlt hfit.fits
  exact effect_settle hs.sound hpay' hconf' (hpt.trans (hpay.tenant.trans hdten.symm)) hd' htotal
    hdraft a.payload.positive hcarry hrest hex hcovers (by omega) hok h

/-- A commit of a transaction that is ready and fresh, and touches no row held by another. -/
theorem effect_commit (hs : PaySound s) (hready : Ready i s p) (hfresh : Fresh i s p)
    (hw : p.writes s.db = some (.ok db)) (hok : db.ok = true) :
    ∃ touched : UUID → Prop, Effect touched s.db db ∧
      ∀ id, touched id → s.locks.available i id = true := by
  cases p with
  | registered r invoice =>
    cases invoice with
    | none => cases hw; exact ⟨_, effect_addPayment hs.sound, fun _ h => h.elim⟩
    | some target =>
      obtain ⟨hhold, hex, hrest⟩ := hready
      refine ⟨_, effect_register hs hhold hex hrest hfresh hok (Option.some.inj hw), ?_⟩
      rintro id rfl
      exact available_of_held hhold.lock
  | applied a pay d applied existing =>
    obtain ⟨hpay, hd, hfit, hrest⟩ := hready
    refine ⟨_, effect_apply hs hpay hd hfit hrest hfresh.1 hfresh.2 hok (Option.some.inj hw), ?_⟩
    rintro id rfl
    exact hfresh.2.1
  | voiding v w =>
    simp only [PayPhase.writes] at hw
    split at hw
    · cases hw
      obtain ⟨hvoid, hspared⟩ := hready
      obtain ⟨hallocs, hall⟩ := hfresh
      have haff : affectedDocuments v.paymentId s.db =
          w.allocations.map PaymentAllocation.billingDocumentId := by
        rw [affectedDocuments, hallocs]
      refine ⟨_, effect_void hs.sound hallocs (fun a ha => (hall a ha).2)
        (fun e he => haff ▸ hvoid.reopened e he) hspared hok, fun id hid => ?_⟩
      rw [haff] at hid
      obtain ⟨a, ha, rfl⟩ := List.mem_map.mp hid
      exact (hall a ha).1
    · cases hw
  | _ => cases hw

end Commit

/-! ## What the others still know -/

section Others

variable {i j : Nat} {s : PayStore} {db p : Db} {touched : UUID → Prop}

theorem DocKept.progress {d : BillingDocument} (hd : DocKept db d) (h : Progress db p) :
    DocKept p d := by
  obtain ⟨d', hd', ht, htotal, hdraft⟩ := hd
  obtain ⟨d'', hd'', ht', hkeep⟩ := h.documents hd'
  exact ⟨d'', hd'', ht'.trans ht, (hkeep hdraft).2.trans htotal, (hkeep hdraft).1⟩

theorem PayKept.progress {pay : ClientPayment} (hpay : PayKept db pay) (h : Progress db p) :
    PayKept p pay := by
  obtain ⟨pay', hpay', ht, hamount⟩ := hpay
  obtain ⟨pay'', hpay'', ht', hamount', _⟩ := h.payments hpay'
  exact ⟨pay'', hpay'', ht'.trans ht, hamount'.trans hamount⟩

theorem Advancing.progress {a : Applying} {pay : ClientPayment} (ha : Advancing db a pay)
    (h : Progress db p) : Advancing p a pay := ⟨ha.kept.progress h, ha.tenant⟩

theorem Targeting.progress {a : Applying} {d : BillingDocument} (ha : Targeting db a d)
    (h : Progress db p) : Targeting p a d := ⟨ha.kept.progress h, ha.tenant⟩

theorem VoidReady.progress {v : Voiding} {w : VoidWork} (hv : VoidReady db v w)
    (h : Progress db p) : VoidReady p v w where
  payment := by
    obtain ⟨pay, hpay, ht⟩ := hv.payment
    obtain ⟨pay', hpay', ht', _⟩ := h.payments hpay
    exact ⟨pay', hpay', ht'.trans ht⟩
  allocations a ha := ⟨h.allocations a (hv.allocations a ha).1, (hv.allocations a ha).2⟩
  todo := hv.todo
  documents e he := ⟨(hv.documents e he).1, (hv.documents e he).2.progress h⟩
  reopened := hv.reopened

theorem Spared.progress {v : Voiding} {w : VoidWork} {id : UUID} (hsp : Spared db v w.allocations id)
    (hv : VoidReady db v w) (h : Progress db p) (hc : KeepsCovered db p) :
    Spared p v w.allocations id where
  unused {pay} hpay hconf := by
    obtain ⟨old, hold, _⟩ := hv.payment
    obtain ⟨pay', hpay', _, _, hconf'⟩ := h.payments hold
    rw [hpay] at hpay'
    cases hpay'
    exact hsp.unused hold (hconf' hconf)
  covered hpaid := hc id hpaid hsp.covered

theorem Holding.effect {r : Registering} {d : BillingDocument} (hh : Holding j s r d)
    (hj : j ≠ i) (h : Effect touched s.db db)
    (hfree : ∀ id, touched id → s.locks.available i id = true) :
    Holding j ⟨db, s.locks.release i⟩ r d ∧ Frame d.id s.db db := by
  have hframe : Frame d.id s.db db := h.frame fun ht => by
    have havail := hfree _ ht
    rw [Locks.available, hh.lock, Option.all_some, decide_eq_true_eq] at havail
    exact hj havail
  exact ⟨⟨Locks.release_of_ne hh.lock hj, hframe.1.trans hh.row, hh.tenant, hh.payable⟩, hframe⟩

theorem Ready.effect {q : PayPhase} (hq : Ready j s q) (hj : j ≠ i) (h : Effect touched s.db db)
    (hfree : ∀ id, touched id → s.locks.available i id = true) :
    Ready j ⟨db, s.locks.release i⟩ q := by
  cases q with
  | held r d => exact (Holding.effect hq hj h hfree).1
  | registered r invoice =>
    cases invoice with
    | none => trivial
    | some target =>
      obtain ⟨hhold, hex, hrest⟩ := hq
      obtain ⟨hhold', hframe⟩ := hhold.effect hj h hfree
      exact ⟨hhold', hex.trans (hframe.2 _).symm, hrest⟩
  | advance a pay => exact Advancing.progress hq h.progress
  | target a pay d => exact ⟨hq.1.progress h.progress, hq.2.progress h.progress⟩
  | fitting a pay d applied =>
    exact ⟨hq.1.progress h.progress, hq.2.1.progress h.progress, hq.2.2⟩
  | applied a pay d applied existing =>
    exact ⟨hq.1.progress h.progress, hq.2.1.progress h.progress, hq.2.2⟩
  | voidable v =>
    obtain ⟨pay, hpay, ht⟩ := hq
    obtain ⟨pay', hpay', ht', _⟩ := h.progress.payments hpay
    exact ⟨pay', hpay', ht'.trans ht⟩
  | voiding v w =>
    exact ⟨hq.1.progress h.progress,
      fun e he hpaid => (hq.2 e he hpaid).progress hq.1 h.progress h.covered⟩
  | covering v w d =>
    exact ⟨hq.1.progress h.progress, ⟨hq.2.1.1, hq.2.1.2.progress h.progress⟩,
      fun e he hpaid hne => (hq.2.2 e he hpaid hne).progress hq.1 h.progress h.covered⟩
  | _ => trivial

/-- A change of the locks that keeps those of the transaction. -/
theorem Ready.locks {q : PayPhase} (hq : Ready j s q) {L : Locks UUID}
    (hL : ∀ id, s.locks id = some j → L id = some j) : Ready j { s with locks := L } q := by
  cases q with
  | held r d => exact ⟨hL _ hq.lock, hq.row, hq.tenant, hq.payable⟩
  | registered r invoice =>
    cases invoice with
    | none => trivial
    | some target => exact ⟨⟨hL _ hq.1.lock, hq.1.row, hq.1.tenant, hq.1.payable⟩, hq.2⟩
  | _ => exact hq

end Others

/-! ## The turns -/

/-- A turn that commits nothing. -/
structure Reading (i : Nat) (s : PayStore) (p : PayPhase) (s' : PayStore) (p' : PayPhase) :
    Prop where
  db : s'.db = s.db
  locks : ∀ {id j}, j ≠ i → s.locks id = some j → s'.locks id = some j
  ready : PaySound s → Ready i s p → Ready i s' p'

section Turn

variable {i : Nat} {act : PayAction} {s s' : PayStore} {p p' : PayPhase}

theorem Reading.abort : Reading i s p (s.abort i) .idle :=
  ⟨rfl, fun hj hl => Locks.release_of_ne hl hj, fun _ _ => trivial⟩

theorem Reading.stay (h : PaySound s → Ready i s p → Ready i s p') : Reading i s p s p' :=
  ⟨rfl, fun _ hl => hl, h⟩

theorem Reading.proceed {α : Type} {r : Except Exc α} {next : α → PayPhase}
    (hnext : ∀ a, r = .ok a → PaySound s → Ready i s p → Ready i s (next a))
    (h : s.proceed i r next = (s', p')) : Reading i s p s' p' := by
  unfold PayStore.proceed at h
  split at h
  · cases h; exact .abort
  · next a => cases h; exact .stay (hnext a rfl)

theorem mem_cached {w : VoidWork} {id : UUID} {d : BillingDocument} (h : w.cached id = some d) :
    d ∈ w.documents ∧ d.id = id :=
  ⟨List.mem_of_find?_eq_some h, by simpa using List.find?_some h⟩

theorem mem_read {w : VoidWork} {d e : BillingDocument} {rest : List UUID}
    (h : e ∈ (w.read d rest).documents) : e ∈ w.documents ∨ e = d := by
  simp only [VoidWork.read] at h
  split at h
  · exact .inl h
  · exact (List.mem_cons.mp h).symm

theorem mem_affected {db : Db} {v : Voiding} {w : VoidWork} (hv : VoidReady db v w) {id : UUID}
    (h : id ∈ w.allocations.map PaymentAllocation.billingDocumentId) :
    id ∈ affectedDocuments v.paymentId db := by
  obtain ⟨a, ha, rfl⟩ := List.mem_map.mp h
  exact mem_affectedDocuments (hv.allocations a ha).1 (hv.allocations a ha).2

theorem ready_start {v : Voiding} (hv : Ready i s (.voidable v)) :
    Ready i s (.voiding v (.start (allocationsOf v.paymentId s.db))) := by
  refine ⟨⟨hv, fun a ha => ?_, fun _ hid => hid, fun _ he => absurd he List.not_mem_nil,
    fun _ he => absurd he List.not_mem_nil⟩, fun _ he => absurd he List.not_mem_nil⟩
  obtain ⟨ha, hpay⟩ := List.mem_filter.mp ha
  exact ⟨ha, of_decide_eq_true hpay⟩

/-- The row that a void looks at: one of its session, or the committed one. -/
theorem docKept_of_read {v : Voiding} {w : VoidWork} {id : UUID} {d : BillingDocument}
    (hs : PaySound s) (hv : VoidReady s.db v w)
    (hid : id ∈ w.allocations.map PaymentAllocation.billingDocumentId)
    (hd : (w.cached id).or (s.db.billingDocuments.get id) = some d) :
    d.id = id ∧ DocKept s.db d := by
  cases hc : w.cached id with
  | some e =>
    rw [hc, Option.some_or] at hd
    cases hd
    obtain ⟨hmem, hid⟩ := mem_cached hc
    exact ⟨hid, (hv.documents _ hmem).2⟩
  | none =>
    rw [hc, Option.none_or] at hd
    have hdid : d.id = id := Table.key_of_get hd
    obtain ⟨a, ha, rfl⟩ := List.mem_map.mp hid
    obtain ⟨_, d', _, hd', _, hdraft⟩ := hs.sound.refs a (hv.allocations a ha).1
    rw [hd] at hd'
    cases hd'
    exact ⟨hdid, d, hdid ▸ hd, rfl, rfl, hdraft⟩

theorem voidReady_read {v : Voiding} {w : VoidWork} {id : UUID} {rest : List UUID}
    {d : BillingDocument} (hs : PaySound s) (hv : VoidReady s.db v w) (htodo : w.todo = id :: rest)
    (hd : (w.cached id).or (s.db.billingDocuments.get id) = some d) :
    VoidReady s.db v (w.read d rest) ∧
      d.id ∈ w.allocations.map PaymentAllocation.billingDocumentId ∧ DocKept s.db d := by
  have hid := hv.todo id (htodo ▸ List.mem_cons_self)
  obtain ⟨hdid, hkept⟩ := docKept_of_read hs hv hid hd
  have haff := hdid ▸ hid
  refine ⟨⟨hv.payment, hv.allocations, fun id' hid' => hv.todo id' ?_, fun e he => ?_,
    hv.reopened⟩, haff, hkept⟩
  · rw [htodo]; exact List.mem_cons_of_mem _ hid'
  · rcases mem_read he with he | rfl
    · exact hv.documents e he
    · exact ⟨haff, hkept⟩

theorem spared_of_covered {v : Voiding} {w : VoidWork} {d : BillingDocument} (hs : PaySound s)
    (hv : VoidReady s.db v w)
    (haff : d.id ∈ w.allocations.map PaymentAllocation.billingDocumentId) (hd : DocKept s.db d)
    (hle : d.totalAmount ≤ sumConfirmedAllocations v.tenantId d.id (v.view s.db)) :
    Spared s.db v w.allocations d.id := by
  obtain ⟨d', hd', ht, htotal, _⟩ := hd
  obtain ⟨pay, hpay, hpt⟩ := hv.payment
  have hview := sound_withVoided v.now v.paymentId v.userId v.voidReason hs.sound
  have hten : d'.tenantId = v.tenantId :=
    (hs.sound.affected_tenant hpay (mem_affected hv haff) hd').trans hpt
  rw [Voiding.view, hview.sumConfirmed hd' hten] at hle
  change d.totalAmount ≤ (v.view s.db).allocated d.id at hle
  have hmono : (v.view s.db).allocated d.id ≤ s.db.allocated d.id :=
    withVoided_allocated_le hs.sound d.id
  have hmax := hs.sound.documents hd'
  have heq : (v.view s.db).allocated d.id = s.db.allocated d.id := by omega
  have hzero := (allocated_view_eq_iff hs.sound d.id).mp heq
  constructor
  case unused =>
    intro pay' hpay' hconf a ha hid
    obtain ⟨hmem, hpid⟩ := hv.allocations a ha
    refine hzero a hmem hid hpid ?_
    rw [Db.live, hpid, hpay', Option.any_some, decide_eq_true_eq]
    exact hconf
  case covered =>
    intro _ d₀ hd₀
    rw [hd'] at hd₀
    cases hd₀
    omega

theorem ready_reopen {v : Voiding} {w : VoidWork} {d : BillingDocument}
    (h : Ready i s (.covering v w d)) : Ready i s (.voiding v (w.reopen v.now d)) := by
  obtain ⟨hv, ⟨haff, hkept⟩, hspared⟩ := h
  have hdocs : ∀ e ∈ (w.reopen v.now d).documents, ∃ e₀ ∈ w.documents,
      e.id = e₀.id ∧ e.tenantId = e₀.tenantId ∧ e.totalAmount = e₀.totalAmount ∧
        (e.status = .paid → e.id ≠ d.id ∧ e₀.status = .paid) := by
    intro e he
    obtain ⟨e₀, he₀, rfl⟩ := List.mem_map.mp he
    refine ⟨e₀, he₀, ?_⟩
    split
    · refine ⟨rfl, rfl, rfl, fun hp => ?_⟩
      dsimp only at hp
      split at hp <;> cases hp
    · next hne => exact ⟨rfl, rfl, rfl, fun hp => ⟨hne, hp⟩⟩
  refine ⟨⟨hv.payment, hv.allocations, hv.todo, fun e he => ?_, fun e he => ?_⟩, fun e he hp => ?_⟩
  · obtain ⟨e₀, he₀, hid, ht, htotal, _⟩ := hdocs e he
    obtain ⟨hmem, d', hd', ht', htotal', hdraft⟩ := hv.documents e₀ he₀
    exact ⟨hid ▸ hmem, d', hid ▸ hd', ht'.trans ht.symm, htotal'.trans htotal.symm, hdraft⟩
  · rcases List.mem_append.mp he with he | he
    · exact hv.reopened e he
    · rw [List.mem_singleton.mp he]; exact haff
  · obtain ⟨e₀, he₀, hid, _, _, hpaid⟩ := hdocs e he
    have hsp := hspared e₀ he₀ (hpaid hp).2 (hid ▸ (hpaid hp).1)
    rw [hid]
    exact ⟨hsp.unused, hsp.covered⟩

/-- A registration takes the row of its invoice and reads it. -/
theorem reading_client {r : Registering}
    (h : payTurn i .readDocument s (.client r) = some (s', p')) :
    Reading i s (.client r) s' p' := by
  simp only [payTurn] at h
  split at h
  · cases h
  · next documentId _ =>
    split at h
    · next ha =>
      have hread : Reading i { s with locks := s.locks.take i documentId } (.client r) s' p' := by
        refine .proceed (fun d hd _ _ => ?_) (Option.some.inj h)
        obtain ⟨hget, hten, _, hstatus⟩ := payableDocument_eq_ok hd
        have hid : d.id = documentId := Table.key_of_get hget
        subst hid
        exact ⟨Locks.take_self, hget, hten, hstatus⟩
      exact ⟨hread.db, fun hj hl => hread.locks hj (Locks.take_of_ne hl hj ha),
        fun hs _ => hread.ready ⟨hs.ok, hs.sound⟩ trivial⟩
    · cases h

theorem reading_voiding {v : Voiding} {w : VoidWork}
    (h : payTurn i .readDocument s (.voiding v w) = some (s', p')) :
    Reading i s (.voiding v w) s' p' := by
  simp only [payTurn] at h
  split at h
  · cases h
  · next documentId rest htodo =>
    split at h
    · cases h
      refine .stay fun _ hready => ⟨{ hready.1 with todo := fun id hid => ?_ }, hready.2⟩
      exact hready.1.todo id (htodo ▸ List.mem_cons_of_mem _ hid)
    · next d hd =>
      split at h
      · cases h
        refine .stay fun hs hready => ?_
        obtain ⟨hv, haff, hkept⟩ := voidReady_read hs hready.1 htodo hd
        refine ⟨hv, ⟨haff, hkept⟩, fun e he hp hne => ?_⟩
        rcases mem_read he with he | rfl
        · exact hready.2 e he hp
        · exact absurd rfl hne
      · next hunpaid =>
        cases h
        refine .stay fun hs hready => ?_
        obtain ⟨hv, _⟩ := voidReady_read hs hready.1 htodo hd
        refine ⟨hv, fun e he hp => ?_⟩
        rcases mem_read he with he | rfl
        · exact hready.2 e he hp
        · exact absurd hp hunpaid

theorem reading_covering {v : Voiding} {w : VoidWork} {d : BillingDocument}
    (h : payTurn i .readPaid s (.covering v w d) = some (s', p')) :
    Reading i s (.covering v w d) s' p' := by
  simp only [payTurn] at h
  split at h
  · cases h
    exact .stay fun _ hready => ready_reopen hready
  · next hle =>
    cases h
    refine .stay fun hs hready => ⟨hready.1, fun e he hp => ?_⟩
    by_cases hid : e.id = d.id
    · rw [hid]
      exact spared_of_covered hs hready.1 hready.2.1.1 hready.2.1.2 (not_lt.mp hle)
    · exact hready.2.2 e he hp hid

theorem payTurn_cases (h : payTurn i act s p = some (s', p')) :
    Reading i s p s' p' ∨ ∃ db, act = .commit ∧ p.writes s.db = some (.ok db) ∧ db.ok = true ∧
      s' = ⟨db, s.locks.release i⟩ ∧ p' = .idle := by
  cases act with
  | register r =>
    cases p <;> simp only [payTurn, reduceCtorEq, Option.some.injEq] at h
    refine .inl (.proceed (fun _ _ _ _ => ?_) h)
    split <;> trivial
  | apply a =>
    cases p <;> simp only [payTurn, reduceCtorEq, Option.some.injEq] at h
    refine .inl (.proceed (fun pay hpay _ _ => ?_) h)
    obtain ⟨hget, hten, _⟩ := requireAdvance_eq_ok hpay
    exact ⟨⟨pay, Table.get_of_mem (Table.mem_of_get hget), rfl, rfl⟩, hten⟩
  | void v =>
    cases p <;> simp only [payTurn, reduceCtorEq, Option.some.injEq] at h
    refine .inl (.proceed (fun pay hpay _ _ => ?_) h)
    obtain ⟨hget, hten⟩ := requireVoidable_eq_ok hpay
    exact ⟨pay, hget, hten⟩
  | readDocument =>
    cases p with
    | client r => exact .inl (reading_client h)
    | advance a pay =>
      simp only [payTurn, Option.some.injEq] at h
      refine .inl (.proceed (fun d hd _ hready => ?_) h)
      obtain ⟨hget, hten, _, hstatus⟩ := payableDocument_eq_ok hd
      have hkept : DocKept s.db d :=
        ⟨d, Table.get_of_mem (Table.mem_of_get hget), rfl, rfl, not_draft_of_payable hstatus⟩
      exact ⟨hready, hkept, hten⟩
    | voiding v w => exact .inl (reading_voiding h)
    | _ => cases h
  | readApplied =>
    cases p <;> simp only [payTurn, reduceCtorEq, Option.some.injEq] at h
    next a pay d =>
    refine .inl (.proceed (fun applied happlied hs hready => ?_) h)
    obtain ⟨rfl, hfits⟩ := checkAdvance_eq_ok happlied
    exact ⟨hready.1, hready.2, sumApplied_nonneg hs.sound, hfits⟩
  | readAllocations =>
    cases p <;> simp only [payTurn, reduceCtorEq, Option.some.injEq] at h
    cases h
    exact .inl (.stay fun _ hready => ready_start hready)
  | readPaid =>
    cases p with
    | held r d =>
      simp only [payTurn, Option.some.injEq] at h
      refine .inl (.proceed (fun existing hex _ hready => ?_) h)
      exact ⟨hready, checkBalance_eq_ok hex⟩
    | fitting a pay d applied =>
      simp only [payTurn, Option.some.injEq] at h
      refine .inl (.proceed (fun existing hex _ hready => ?_) h)
      exact ⟨hready.1, hready.2.1, hready.2.2, (checkBalance_eq_ok hex).2⟩
    | covering v w d => exact .inl (reading_covering h)
    | _ => cases h
  | commit =>
    simp only [payTurn, Option.map_eq_some_iff] at h
    obtain ⟨r, hw, hfinish⟩ := h
    unfold PayStore.finish at hfinish
    split at hfinish
    · cases hfinish; exact .inl .abort
    · next db =>
      split at hfinish
      · next hok => cases hfinish; exact .inr ⟨db, rfl, hw, hok, rfl, rfl⟩
      · cases hfinish; exact .inl .abort
  | rollback =>
    simp only [payTurn, Option.some.injEq] at h
    cases h
    exact .inl .abort

end Turn

/-! ## Every interleaving -/

section Run

variable {c : Config PayStore PayPhase} {i : Nat} {a : PayAction} {s : PayStore} {p : PayPhase}

/-- A consistent database, with no transaction under way. -/
structure PaymentsStart (c : Config PayStore PayPhase) : Prop where
  sound : PaySound c.store
  parties : ∀ i, c.parties i = .idle

theorem payments_own (hI : Holds PaySound Ready c) (hC : Undisturbed c (i, a))
    (h : payTurn i a c.store (c.parties i) = some (s, p)) : PaySound s ∧ Ready i s p := by
  rcases payTurn_cases h with hread | ⟨db, rfl, hw, hok, rfl, rfl⟩
  · have hsound : PaySound s := by
      obtain ⟨hok, hs⟩ := hI.store
      rw [← hread.db] at hok hs
      exact ⟨hok, hs⟩
    exact ⟨hsound, hread.ready hI.store (hI.party i)⟩
  · obtain ⟨_, heffect, _⟩ := effect_commit hI.store (hI.party i) hC hw hok
    exact ⟨⟨hok, heffect.sound⟩, trivial⟩

theorem payments_others (hI : Holds PaySound Ready c) (hC : Undisturbed c (i, a))
    (h : payTurn i a c.store (c.parties i) = some (s, p)) (j : Nat) (hj : j ≠ i) :
    Ready j s (c.parties j) := by
  rcases payTurn_cases h with hread | ⟨db, rfl, hw, hok, rfl, rfl⟩
  · cases s with
    | mk db locks =>
      obtain rfl : db = c.store.db := hread.db
      exact (hI.party j).locks fun id hl => hread.locks hj hl
  · obtain ⟨_, heffect, hfree⟩ := effect_commit hI.store (hI.party i) hC hw hok
    exact (hI.party j).effect hj heffect hfree

/-- Every interleaving of payments, advances and voids whose commits are fresh is safe. -/
theorem payments_safe {ms : List (Nat × PayAction)} (h : PaymentsStart c)
    (hC : Run.Along (move payTurn) Undisturbed c ms) :
    PaymentsSafe (Run.exec (move payTurn) c ms).store.db := by
  have hstart : Holds PaySound Ready c :=
    ⟨h.sound, fun i => by rw [h.parties i]; trivial⟩
  have hrun : Holds PaySound Ready (Run.exec (move payTurn) c ms) :=
    holds_run payments_own payments_others hstart hC
  exact paymentsSafe_of_sound hrun.store.sound

end Run

/-! ## Runs -/

theorem paySound_of_unallocated {s : PayStore} (hok : s.db.ok = true)
    (hnone : s.db.paymentAllocations.rows.isEmpty)
    (hamount : ∀ pay ∈ s.db.clientPayments, 0 ≤ pay.amount) : PaySound s := by
  have hno : ∀ a, a ∉ s.db.paymentAllocations := fun a ha => by
    rw [Table.mem_def, List.isEmpty_iff.mp hnone] at ha
    cases ha
  refine ⟨hok, fun a ha => absurd ha (hno a), fun hd => ?_, fun {id pay} hpay => ?_, le_rfl,
    fun a ha => absurd ha (hno a), fun hid _ => ?_⟩
  · rw [Db.allocated, Table.sumWhere_eq_zero fun a ha => absurd ha (hno a)]
    exact total_nonneg hok hd
  · rw [sumApplied, Table.sumWhere_eq_zero fun a ha => absurd ha (hno a)]
    exact hamount pay (Table.mem_of_get hpay)
  · obtain ⟨_, a, ha, _⟩ := hid
    exact absurd ha (hno a)

def unpaidInvoice (id : UUID) : BillingDocument where
  id
  tenantId := 1
  clientId := some 1
  clientName := "Cliente"
  billingPeriodStart := 0
  billingPeriodEnd := 1000
  totalAmount := 100
  status := .issued

/-- A client with an advance of one metical, and two issued invoices of one metical. -/
def advanceStart : Config PayStore PayPhase where
  store.db.clients := .single { id := 1, tenantId := 1, tradingName := "Cliente" }
  store.db.clientPayments := .single
    { id := 1, tenantId := 1, clientId := 1, amount := 100, valueDate := 0, paymentMethod := "cash" }
  store.db.billingDocuments := (Table.single (unpaidInvoice 1)).insert unpaidInvoice
  parties _ := .idle

theorem paymentsStart_advance : PaymentsStart advanceStart :=
  ⟨paySound_of_unallocated (by decide +kernel) rfl (by decide), fun _ => rfl⟩

def registering (amount : ℚ) (positive : 0 < amount) : Registering where
  now := 500
  tenantId := 1
  userId := 1
  payload := { clientId := 1, billingDocumentId := some 1, amount, valueDate := 500, positive }

def applying (billingDocumentId : UUID) : Applying where
  now := 500
  tenantId := 1
  paymentId := 1
  payload := { billingDocumentId, amountApplied := 1, positive := by norm_num }

def voiding (paymentId : UUID) : Voiding := ⟨600, 1, paymentId, 1, "engano"⟩

/-- Two payments of one invoice, the second waiting for the first, and then their voids at once. -/
theorem payments_safe_twice :
    PaymentsSafe (Run.exec (move payTurn) advanceStart
      [(0, .register (registering (2 / 5) (by norm_num))), (0, .readDocument),
        (1, .register (registering (3 / 5) (by norm_num))), (1, .readDocument), (0, .readPaid),
        (0, .commit), (1, .readDocument), (1, .readPaid), (1, .commit),
        (0, .void (voiding 2)), (1, .void (voiding 3)), (0, .readAllocations),
        (1, .readAllocations), (0, .readDocument), (1, .readDocument), (0, .readPaid),
        (1, .readPaid), (0, .commit), (1, .commit)]).store.db :=
  payments_safe paymentsStart_advance (by decide +kernel)

/-- One advance applied to two invoices at once: both transactions find it unspent. -/
theorem advance_spent_twice :
    PaymentsStart advanceStart ∧ ¬ PaymentsSafe (Run.exec (move payTurn) advanceStart
      [(0, .apply (applying 1)), (1, .apply (applying 2)), (0, .readDocument), (1, .readDocument),
        (0, .readApplied), (1, .readApplied), (0, .readPaid), (1, .readPaid), (0, .commit),
        (1, .commit)]).store.db := by
  refine ⟨paymentsStart_advance, fun h => ?_⟩
  have hpayments := h.payments
  revert hpayments
  decide +kernel

end Rotas
