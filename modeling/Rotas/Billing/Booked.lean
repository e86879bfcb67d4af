import Rotas.Billing.Immutable
import Rotas.Billing.Statement

/-!
# Rotas.Billing.Booked

Payments and allocations stay booked over every run, and so the balance of a client's statement is
told by the documents and the payments that the run leaves.

* `booked_allocate`, `booked_addPayment`, `booked_voidPayment` — the writes of the payment operations.
* `PaymentsBooked.billingStep` — a call that leaves payments and allocations alone.
* `booked_run` — from a database without payments, after any calls.
* `client_balance` — the balance is what the client owes exactly for a plain account.
* `invoice_receipt_unpaid` — the cash of an invoice-receipt is not taken off.
-/

namespace Rotas

open Work Decimal

section PaymentsBooked

variable {db p : Db} {tenantId paymentId documentId : UUID}

theorem PaymentsBooked.of_unpaid (h : db.Unpaid) : PaymentsBooked db := by
  have hs := (inv_of_unpaid h).sound
  have hnone : ∀ a, a ∉ db.paymentAllocations := fun a hm => by
    have hempty := List.isEmpty_iff.mp h.2.2
    rw [Table.mem_def, hempty] at hm
    cases hm
  exact {
    refs := hs.refs, documents := hs.documents, payments := hs.payments, nonneg := le_refl 0
    least := fun a hm => absurd hm (hnone a), covered := fun h => h.elim
    client := fun a hm => absurd hm (hnone a) }

theorem PaymentsBooked.billingStep {selectBound : Bool} {X : BillingDocument → Prop}
    (hb : PaymentsBooked db)
    (h : BillingStep selectBound X db p) (hpayments : p.clientPayments = db.clientPayments)
    (hallocs : p.paymentAllocations = db.paymentAllocations) (hok : p.ok = true) :
    PaymentsBooked p := by
  have hdocs : DocsStep db p := by
    refine ⟨hpayments, hallocs, fun hd => ?_⟩
    obtain ⟨d', hd', hstep⟩ := h.kept hd
    exact ⟨d', hd', hstep.tenant, fun hleft => ⟨(hstep.left hleft).1, (hstep.left hleft).2.2.total⟩⟩
  refine { hb.toSound.docsStep hdocs hok fun _ h => h.elim with client := ?_ }
  intro a ha pay d' hpay hd'
  rw [hallocs] at ha
  rw [hpayments] at hpay
  obtain ⟨_, d, _, hd, _, _⟩ := hb.refs a ha
  rw [(h.carried hd hd').owner]
  exact hb.client a ha pay d hpay hd

theorem booked_allocate {amount : ℚ} {pay : ClientPayment} {d : BillingDocument}
    (hb : PaymentsBooked db)
    (hpay : db.clientPayments.get paymentId = some pay)
    (hd : db.billingDocuments.get documentId = some d) (ht : pay.tenantId = d.tenantId)
    (hclient : d.clientId = some pay.clientId) (hdraft : d.status ≠ .draft)
    (hleast : 0 ≤ numeric 2 amount)
    (hdoc : db.allocated documentId + numeric 2 amount ≤ d.totalAmount)
    (hfit : sumApplied paymentId db + numeric 2 amount ≤ pay.amount) :
    PaymentsBooked (allocate tenantId paymentId documentId amount db) := by
  refine { sound_allocate hb.toSound hpay hd ht hdraft hleast hdoc hfit with client := ?_ }
  intro a ha pay' d' hpay' hd'
  rcases (Table.mem_insert _ _ (by intro; rfl)).mp ha with ha | rfl
  · exact hb.client a ha pay' d' hpay' hd'
  · change db.clientPayments.get paymentId = some pay' at hpay'
    change db.billingDocuments.get documentId = some d' at hd'
    rw [hpay] at hpay'
    rw [hd] at hd'
    cases hpay'
    cases hd'
    exact hclient

theorem booked_settle {now paidAt : Instant} {d : BillingDocument} {existing : Int} {amount : ℚ}
    (hb : PaymentsBooked db) (hok : p.ok = true)
    (h : settle now d existing amount paidAt db = .ok p) :
    PaymentsBooked p := by
  have hstep : BillingStep false Nowhere db p := (rowsStep_settle h).billingStep
  rcases settle_cases h with ⟨_, rfl⟩ | ⟨_, rfl⟩
  · exact hb
  · exact hb.billingStep hstep rfl rfl hok

theorem booked_addPayment {userId : UUID} {payload : ClientPaymentCreate} (hb : PaymentsBooked db) :
    PaymentsBooked (addPayment tenantId userId payload db) := by
  refine { sound_addPayment hb.toSound with client := ?_ }
  intro a ha pay d hpay hd
  obtain ⟨pay', _, hpay', _⟩ := hb.refs a ha
  rw [addPayment_get_of_some hpay'] at hpay
  cases hpay
  exact hb.client a ha _ d hpay' hd

theorem booked_registerPayment {now : Instant} {userId a : UUID} {payload : ClientPaymentCreate}
    (hb : PaymentsBooked db) (hok : p.ok = true)
    (h : registerPayment now tenantId userId payload db = .ok (a, p)) : PaymentsBooked p := by
  rcases registerPayment_cases h with rfl | ⟨d, hd, _, hsettle⟩
  · exact booked_addPayment hb
  · have hle := numeric_le_of_le_money payload.positive hd.rest
    rw [hb.sumConfirmed hd.get hd.tenant,
      ← allocated_addPayment tenantId userId payload hb.toSound] at hle
    refine booked_settle (booked_allocate (booked_addPayment hb) (addPayment_get_self ..) hd.get
      hd.tenant.symm hd.client (not_draft_of_payable hd.status)
      (numeric_nonneg payload.positive.le) (by omega) (sumApplied_addPayment hb.toSound)) hok
      hsettle

theorem booked_applyAdvance {now : Instant} {a : UUID} {payload : ApplyAdvanceRequest}
    (hb : PaymentsBooked db) (hdb : db.ok = true) (hok : p.ok = true)
    (h : applyAdvanceToInvoice now tenantId paymentId payload db = .ok (a, p)) :
    PaymentsBooked p := by
  obtain ⟨pay, d, happlied⟩ := applyAdvance_cases h
  have hd := happlied.document
  have hbound := add_numeric_le (sumApplied_nonneg hb.toSound) payload.positive
    (amount_lt hdb happlied.payment) happlied.fits
  have hle := numeric_le_of_le_money payload.positive hd.rest
  rw [hb.sumConfirmed hd.get hd.tenant] at hle
  refine booked_settle (booked_allocate hb happlied.payment hd.get
    (happlied.tenant.trans hd.tenant.symm) hd.client (not_draft_of_payable hd.status)
    (numeric_nonneg payload.positive.le) (by omega) hbound) hok happlied.settled

theorem booked_voidPayment {now : Instant} {userId a : UUID} {reason : String}
    (hb : PaymentsBooked db)
    (hok : p.ok = true) (h : voidPayment now tenantId paymentId userId reason db = .ok (a, p)) :
    PaymentsBooked p := by
  obtain ⟨pay, _, _, rfl⟩ := voidPayment_cases h
  have hv : Sound 0 (fun _ => False) (withVoided now pay.id userId reason db) :=
    (sound_withVoided now pay.id userId reason hb.toSound).mono fun _ h => h.elim
  have hbooked : PaymentsBooked (withVoided now pay.id userId reason db) := by
    refine { hv with client := ?_ }
    intro a ha pay' d hpay' hd
    rw [withVoided_get] at hpay'
    split at hpay'
    · next hsame =>
      obtain ⟨pay₀, hpay₀, rfl⟩ := Option.map_eq_some_iff.mp hpay'
      exact hb.client a ha pay₀ d (hsame ▸ hpay₀) hd
    · exact hb.client a ha pay' d hpay' hd
  obtain ⟨hdocs, _⟩ := reopen_all now tenantId (affectedDocuments pay.id db)
    (withVoided now pay.id userId reason db)
  have hrows : BillingStep false Nowhere (withVoided now pay.id userId reason db) _ :=
    (rowsStep_reopen_all now tenantId (affectedDocuments pay.id db) _).billingStep
  exact hbooked.billingStep hrows hdocs.payments hdocs.allocations hok

/-! ## The calls on documents -/

/-- Payments and allocations are left alone. -/
structure PaymentsAlone (db p : Db) : Prop where
  payments : p.clientPayments = db.clientPayments
  allocations : p.paymentAllocations = db.paymentAllocations

theorem DocsStep.paymentsAlone (h : DocsStep db p) : PaymentsAlone db p :=
  ⟨h.payments, h.allocations⟩

theorem paymentsAlone_createDocument {now : Instant} {payload : BillingDocumentCreate}
    {a : UUID × List BillingItem} (h : createDocument now tenantId payload db = (.ok a, p)) :
    PaymentsAlone db p := by
  refine createDocument_ind h ?_ ?_ ?_
  · intro contract _
    exact ⟨rfl, rfl⟩
  · intro contract held tripId db' b hP _
    exact ⟨hP.payments, hP.allocations⟩
  · intro items db' hP
    exact ⟨hP.payments, hP.allocations⟩

theorem paymentsAlone_createWorkshopInvoice [Locale] {now : Instant} {workOrderId a : UUID}
    {w : Warehouse} (h : createWorkshopInvoice now tenantId workOrderId w db = .ok (a, p)) :
    PaymentsAlone db p := by
  obtain ⟨_, _, rfl⟩ := createWorkshopInvoice_eq_ok h
  exact ⟨rfl, rfl⟩

/-! ## Runs -/

variable {selectBound : Bool}

theorem perform_checked {α : Type} {f : Db → Except Exc (α × Db)} (hb : PaymentsBooked db)
    (hok : db.ok = true) (hf : ∀ a p, f db = .ok (a, p) → p.ok = true → PaymentsBooked p) :
    PaymentsBooked (perform f db) ∧ (perform f db).ok = true := by
  rcases perform_cases f db with h | ⟨a, ha, hok'⟩
  · rw [h]
    exact ⟨hb, hok⟩
  · exact ⟨hf a _ ha hok', hok'⟩

theorem booked_ledgerCall (hb : PaymentsBooked db) (hok : db.ok = true) (c : LedgerCall) :
    PaymentsBooked (c.serve selectBound db) ∧ (c.serve selectBound db).ok = true := by
  have hbilling : BillingStep selectBound (InvoiceCall.cancels db (.document (.other c))) db
      (c.serve selectBound db) := billingStep_ledgerCall c
  have hany : ∀ {α : Type} {f : Db → Except Exc (α × Db)},
      (∀ a p, f db = .ok (a, p) → p.ok = true → PaymentsBooked p) →
        PaymentsBooked (perform f db) ∧ (perform f db).ok = true :=
    fun hf => perform_checked hb hok hf
  have halone : ∀ {α : Type} {f : Db → Except Exc (α × Db)},
      c.serve selectBound db = perform f db →
      (∀ a p, f db = .ok (a, p) → PaymentsAlone db p) →
        PaymentsBooked (c.serve selectBound db) ∧ (c.serve selectBound db).ok = true := by
    intro α f hserve hf
    rw [hserve] at hbilling ⊢
    rcases perform_cases f db with h | ⟨a, ha, hok'⟩
    · rw [h]
      exact ⟨hb, hok⟩
    · obtain ⟨hpayments, hallocs⟩ := hf a _ ha
      exact ⟨hb.billingStep hbilling hpayments hallocs hok', hok'⟩
  cases c with
  | registerPayment => exact hany fun _ _ h hok' => booked_registerPayment hb hok' h
  | applyAdvance => exact hany fun _ _ h hok' => booked_applyAdvance hb hok hok' h
  | voidPayment => exact hany fun _ _ h hok' => booked_voidPayment hb hok' h
  | transition =>
    exact halone rfl fun _ _ h => (docsOnly_transitionById h).toDocsStep.paymentsAlone
  | markOverdue =>
    exact halone rfl fun _ _ h => by
      cases h
      exact (docsOnly_markOverdue _).toDocsStep.paymentsAlone
  | issueDocument => exact halone rfl fun _ _ h => (docsStep_issueDocument h).paymentsAlone
  | confirmWorkshopInvoice =>
    exact halone rfl fun _ _ h => (docsOnly_confirmWorkshopInvoice h).toDocsStep.paymentsAlone
  | createInvoiceReceipt =>
    exact halone rfl fun _ _ h => (docsOnly_createInvoiceReceipt h).toDocsStep.paymentsAlone
  | createDebitNote =>
    exact halone rfl fun _ _ h => (docsOnly_createNote h).toDocsStep.paymentsAlone
  | createCreditNote =>
    exact halone rfl fun _ _ h => (docsOnly_createNote h).toDocsStep.paymentsAlone
  | createReceipt =>
    exact halone rfl fun _ _ h => (docsOnly_createReceipt h).toDocsStep.paymentsAlone

theorem booked_call [Locale] (hb : PaymentsBooked db) (hok : db.ok = true) (c : InvoiceCall) :
    PaymentsBooked (c.step selectBound db) ∧ (c.step selectBound db).ok = true := by
  cases c with
  | document call =>
    cases call with
    | createDocument now tenantId payload =>
      have hwork : ∀ a p, createDocument now tenantId payload db = (.ok a, p) → p.ok = true →
          PaymentsBooked p ∧ p.ok = true := by
        intro a p h hok'
        have hstep : BillingStep false Nowhere db p := billingStep_createDocument h
        obtain ⟨hpayments, hallocs⟩ := paymentsAlone_createDocument h
        exact ⟨hb.billingStep hstep hpayments hallocs hok', hok'⟩
      exact serve_atomic_ind (P := fun p => PaymentsBooked p ∧ p.ok = true) ⟨hb, hok⟩ hwork
    | other call => exact booked_ledgerCall hb hok call
  | createWorkshopInvoice now tenantId workOrderId w =>
    refine perform_checked hb hok fun a p h hok' => ?_
    have hstep : BillingStep false Nowhere db p := billingStep_createWorkshopInvoice h
    obtain ⟨hpayments, hallocs⟩ := paymentsAlone_createWorkshopInvoice h
    exact hb.billingStep hstep hpayments hallocs hok'
  | cancelWorkOrder tenantId wo reason =>
    refine perform_checked hb hok fun a p h hok' => ?_
    cases h
    have hstep : BillingStep false Nowhere db (cancelWorkshopDrafts tenantId wo reason db) :=
      (rowsStep_cancelWorkshopDrafts wo reason).billingStep
    exact hb.billingStep hstep rfl rfl hok'

theorem booked_run [Locale] (selectBound : Bool) (hstart : db.Unpaid) (calls : List InvoiceCall) :
    PaymentsBooked (Run.exec (InvoiceCall.step selectBound) db calls) ∧
      (Run.exec (InvoiceCall.step selectBound) db calls).ok = true :=
  Run.exec_inv_all (I := fun db => PaymentsBooked db ∧ db.ok = true)
    (fun _ c hI => booked_call hI.1 hI.2 c) ⟨.of_unpaid hstart, hstart.1⟩

end PaymentsBooked

/-! ## The statement after a run -/

theorem statement_of_client (now : Instant) {tenantId clientId : UUID} (asOf : Option Int) {db : Db}
    (h : (requireClient tenantId clientId db).isOk = true) :
    ∃ s, getClientStatement now tenantId clientId asOf db = .ok s := by
  obtain ⟨client, hclient⟩ := eq_ok_of_isOk h
  simp only [getClientStatement, hclient]
  exact ⟨_, rfl⟩

/-- After any calls, from a database without payments, the balance of a statement is what the client
owes exactly if only invoices bear totals, and all confirmed payments are allocated to issued
documents. -/
theorem client_balance [Locale] (selectBound : Bool) (db : Db) (calls : List InvoiceCall)
    (now : Instant) (tenantId clientId : UUID) (asOf : Option Int) (s : ClientStatement)
    (cash : Int)
    (hstart : db.Unpaid)
    (hs : getClientStatement now tenantId clientId asOf
      (Run.exec (InvoiceCall.step selectBound) db calls) = .ok s)
    (hcash : CashOnce tenantId clientId (asOfInstant now asOf)
      (Run.exec (InvoiceCall.step selectBound) db calls) cash) :
    StatementRight tenantId clientId (asOfInstant now asOf)
        (Run.exec (InvoiceCall.step selectBound) db calls) cash s.balance ↔
      PlainAccount tenantId clientId (asOfInstant now asOf)
        (Run.exec (InvoiceCall.step selectBound) db calls) := by
  obtain ⟨hbooked, hok⟩ := booked_run selectBound hstart calls
  exact statement_right_iff now tenantId clientId asOf _ s cash hbooked hok hs hcash

/-! ## Two runs from one invoice -/

/-- An invoice of 100.00 that falls due on the eleventh day. -/
def dueInvoice (id : UUID) (clientId : Option UUID) : BillingDocument where
  id := id
  tenantId := 1
  clientId := clientId
  clientName := "Cliente"
  billingPeriodStart := 0
  billingPeriodEnd := 1000
  totalAmount := 10000
  status := .issued
  issuedAt := some 1000
  dueDate := some (86400 * 10)

def oneDueInvoiceDb : Db where
  clients := .single { id := 1, tenantId := 1, tradingName := "Cliente" }
  billingDocuments := .single (dueInvoice 1 (some 1))

/-- The client pays 40.00 of the invoice. -/
def payPart : List InvoiceCall := [.document (.other (payInvoice 40 (by norm_num)))]

/-- The invoice is settled by an invoice-receipt. -/
def receiptInvoice : List InvoiceCall := [.document (.other (.createInvoiceReceipt 2000 1 1))]

def afterCalls (calls : List InvoiceCall) : Db :=
  Run.exec (@InvoiceCall.step .ascii false) oneDueInvoiceDb calls

theorem client_balance_part_paid : ∃ s,
    getClientStatement 5000 1 1 none (afterCalls payPart) = .ok s ∧
      StatementRight 1 1 5000 (afterCalls payPart) 4000 s.balance := by
  have hclient : (requireClient 1 1 (afterCalls payPart)).isOk = true := by decide +kernel
  obtain ⟨s, hs⟩ := statement_of_client 5000 none hclient
  refine ⟨s, hs, (@client_balance .ascii false oneDueInvoiceDb payPart 5000 1 1 none s 4000
    (by decide +kernel) hs ?_).mpr ?_⟩
  · constructor <;> decide +kernel
  · constructor <;> decide +kernel

/-- The statement claims the total from the client who has paid it with the invoice-receipt. -/
theorem invoice_receipt_unpaid : ∃ s,
    getClientStatement 5000 1 1 none (afterCalls receiptInvoice) = .ok s ∧
      ∀ cash, CashOnce 1 1 5000 (afterCalls receiptInvoice) cash →
        ¬ StatementRight 1 1 5000 (afterCalls receiptInvoice) cash s.balance := by
  have hclient : (requireClient 1 1 (afterCalls receiptInvoice)).isOk = true := by decide +kernel
  obtain ⟨s, hs⟩ := statement_of_client 5000 none hclient
  have htotal : totalInvoiced 1 1 5000 (afterCalls receiptInvoice) -
      totalPaid 1 1 5000 (afterCalls receiptInvoice) = 10000 := by decide +kernel
  have hinvoices : issuedTotal 1 1 5000 (afterCalls receiptInvoice) [.invoice, .debitNote] =
      10000 := by decide +kernel
  have hcredits : issuedTotal 1 1 5000 (afterCalls receiptInvoice) [.creditNote] = 0 := by
    decide +kernel
  have hcash : issuedTotal 1 1 5000 (afterCalls receiptInvoice) [.invoiceReceipt] = 10000 := by
    decide +kernel
  refine ⟨s, hs, fun cash honce hright => ?_⟩
  have howed := hright.owed
  have hpaid := honce.invoiceReceipts
  have hbalance := statement_balance hs
  rw [asOfInstant_none] at hbalance
  omega

end Rotas
