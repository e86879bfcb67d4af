import Rotas.Billing.ViewsAgree
import Rotas.Clients.Service

/-!
# Rotas.Clients.OneBalance

The balance of a client in the detail, in the statement of the clients module and in that of the
billing module.

* `OneBalance`       — the three are equal, and each counts the open invoices of the contracts.
* `AgreedDocument`   — what all three make of a document is the same.
* `one_balance`      — after any run, one balance is just that for all documents of the client.
-/

namespace Rotas
namespace Clients

/-- The document is under a contract of the client. -/
def UnderContract (db : Db) (clientId : UUID) (d : BillingDocument) : Prop :=
  ∃ c ∈ db.contracts, d.contractId = some c.id ∧ c.tenantId = d.tenantId ∧
    c.clientId = some clientId

/-- The balances of the detail, of the clients' statement `s` and of the billing statement `t`. -/
structure OneBalance (now : Instant) (tenantId clientId : UUID) (db : Db) (s : ClientStatement)
    (t : Rotas.ClientStatement) : Prop where
  detail : getOutstandingBalance clientId tenantId db = s.summary.totalOutstanding
  billing : s.summary.totalOutstanding = t.balance
  counted : ∀ d ∈ db.billingDocuments, OpenInvoice tenantId d → UnderContract db clientId d →
    (d.ofClient tenantId clientId && isOpen d) = true ∧
      d ∈ documentsOf clientId tenantId none none db ∧
      (d.ofClient tenantId clientId && d.invoiced now) = true

/-- The document is open, or nothing is outstanding on it, and it is invoiced, or adds nothing. -/
structure AgreedDocument (now : Instant) (db : Db) (d : BillingDocument) : Prop where
  settled : isOpen d = true ∨ db.outstanding d = 0
  issued : d.issuedBy now = true → d.invoiced now = true ∨ d.totalAmount = 0
  unissued : d.issuedBy now = false → db.outstanding d = 0

structure AgreedAccount (now : Instant) (tenantId clientId : UUID) (db : Db) : Prop where
  documents : ∀ d ∈ db.billingDocuments, d.ofClient tenantId clientId = true →
    AgreedDocument now db d
  contracts : ∀ d ∈ db.billingDocuments, OpenInvoice tenantId d → UnderContract db clientId d →
    d.clientId = some clientId ∧ d.issuedBy now = true

section Balance

variable {now : Instant} {tenantId clientId : UUID} {db : Db} {s : ClientStatement}
  {t : Rotas.ClientStatement}

theorem detail_eq_iff (h : PaymentsBooked db)
    (hs : getClientStatement clientId tenantId none none db = .ok s) :
    getOutstandingBalance clientId tenantId db = s.summary.totalOutstanding ↔
      ∀ d ∈ db.billingDocuments, d.ofClient tenantId clientId = true →
        isOpen d = true ∨ db.outstanding d = 0 := by
  rw [detail_eq h, statement_eq hs, Table.sumWhere_eq_iff_of_le]
  · refine forall₂_congr fun d _ => forall_congr' fun _ => ?_
    by_cases hopen : isOpen d = true
    · simp [hopen]
    · simp only [hopen, Bool.false_eq_true, if_false, false_or]
      exact eq_comm
  · intro d hd _
    have hnonneg := h.outstanding_nonneg hd
    split <;> omega

theorem billing_eq_iff (h : PaymentsBooked db) (hok : db.ok = true)
    (hs : getClientStatement clientId tenantId none none db = .ok s)
    (ht : t.balance = totalInvoiced tenantId clientId now db - totalPaid tenantId clientId now db) :
    s.summary.totalOutstanding = t.balance ↔
      ∀ d ∈ db.billingDocuments, d.ofClient tenantId clientId = true →
        (d.issuedBy now = true → d.invoiced now = true ∨ d.totalAmount = 0) ∧
          (d.issuedBy now = false → db.outstanding d = 0) := by
  rw [eq_comm, ht, balance_eq, Table.sumWhere_and, statement_eq hs, Table.sumWhere_eq_iff_of_le]
  · refine forall₂_congr fun d _ => forall_congr' fun _ => ?_
    cases hissued : d.issuedBy now with
    | false =>
      simp only [Bool.false_eq_true, if_false, IsEmpty.forall_iff, true_and, forall_const]
      exact eq_comm
    | true =>
      cases hinv : d.invoiced now with
      | true => simp [Db.outstanding]
      | false =>
        simp only [if_true, Bool.false_eq_true, if_false, Db.outstanding, false_or, forall_const,
          Bool.true_eq_false, IsEmpty.forall_iff, and_true]
        omega
  · intro d hd _
    have hnonneg := h.outstanding_nonneg hd
    have htotal := total_nonneg_of_mem hok hd
    rw [Db.outstanding] at hnonneg ⊢
    split
    · split <;> omega
    · exact hnonneg

theorem counted_iff {d : BillingDocument} (hd : d ∈ db.billingDocuments)
    (hopen : OpenInvoice tenantId d) :
    (d.ofClient tenantId clientId && isOpen d) = true ∧
        d ∈ documentsOf clientId tenantId none none db ∧
        (d.ofClient tenantId clientId && d.invoiced now) = true ↔
      d.clientId = some clientId ∧ d.issuedBy now = true := by
  obtain ⟨htenant, hkind, hstatus⟩ := hopen
  have hin : d.ofClient tenantId clientId = true ↔ d.clientId = some clientId := by
    simp [BillingDocument.ofClient, htenant]
  have hdocs : d ∈ documentsOf clientId tenantId none none db ↔ d.ofClient tenantId clientId := by
    simp only [documentsOf, Option.all_none, Bool.and_true, List.mem_reverse, List.mem_filter]
    exact ⟨fun h => h.2, fun h => ⟨hd, h⟩⟩
  have hstatus' : d.status ∈ [DocStatus.issued, .paid, .overdue] := by
    simp only [List.mem_cons, List.not_mem_nil, or_false] at hstatus ⊢
    rcases hstatus with h | h
    · exact .inl h
    · exact .inr (.inr h)
  have hinvoiced : d.invoiced now = d.issuedBy now := by
    rw [BillingDocument.invoiced, decide_eq_true hkind, decide_eq_true hstatus', Bool.true_and,
      Bool.true_and]
  rw [hdocs, hinvoiced, Bool.and_eq_true, Bool.and_eq_true, hin]
  constructor
  · rintro ⟨_, _, hclient, hissued⟩
    exact ⟨hclient, hissued⟩
  · rintro ⟨hclient, hissued⟩
    exact ⟨⟨hclient, decide_eq_true hstatus⟩, hclient, hclient, hissued⟩

theorem one_balance_iff (h : PaymentsBooked db) (hok : db.ok = true)
    (hs : getClientStatement clientId tenantId none none db = .ok s)
    (ht : t.balance = totalInvoiced tenantId clientId now db - totalPaid tenantId clientId now db) :
    OneBalance now tenantId clientId db s t ↔ AgreedAccount now tenantId clientId db := by
  constructor
  · rintro ⟨hdetail, hbilling, hcounted⟩
    have hopen := (detail_eq_iff h hs).mp hdetail
    have hissued := (billing_eq_iff h hok hs ht).mp hbilling
    refine ⟨fun d hd hclient => ?_, fun d hd hinv hunder => ?_⟩
    · obtain ⟨hone, hnone⟩ := hissued d hd hclient
      exact ⟨hopen d hd hclient, hone, hnone⟩
    · exact (counted_iff hd hinv).mp (hcounted d hd hinv hunder)
  · rintro ⟨hdocuments, hcontracts⟩
    constructor
    · exact (detail_eq_iff h hs).mpr fun d hd hclient => (hdocuments d hd hclient).settled
    · refine (billing_eq_iff h hok hs ht).mpr fun d hd hclient => ?_
      exact ⟨(hdocuments d hd hclient).issued, (hdocuments d hd hclient).unissued⟩
    · intro d hd hinv hunder
      exact (counted_iff hd hinv).mpr (hcontracts d hd hinv hunder)

end Balance

/-- After any calls, from a database without payments, the client has one balance exactly if all
views make the same of its documents, and the open invoices of its contracts name it. -/
theorem one_balance [Locale] (selectBound : Bool) (db : Db) (calls : List InvoiceCall)
    (now : Instant) (tenantId clientId : UUID) (s : ClientStatement) (t : Rotas.ClientStatement)
    (hstart : db.Unpaid)
    (hs : getClientStatement clientId tenantId none none
      (Run.exec (InvoiceCall.step selectBound) db calls) = .ok s)
    (ht : Rotas.getClientStatement now tenantId clientId none
      (Run.exec (InvoiceCall.step selectBound) db calls) = .ok t) :
    OneBalance now tenantId clientId (Run.exec (InvoiceCall.step selectBound) db calls) s t ↔
      AgreedAccount now tenantId clientId (Run.exec (InvoiceCall.step selectBound) db calls) := by
  obtain ⟨hbooked, hok⟩ := booked_run selectBound hstart calls
  have hbalance := statement_balance ht
  rw [asOfInstant_none] at hbalance
  exact one_balance_iff hbooked hok hs hbalance

/-! ## Two runs from one invoice -/

theorem clientStatement_of_client {clientId tenantId : UUID} {db : Db}
    (h : (requireClient tenantId clientId db).isOk = true) :
    ∃ s, getClientStatement clientId tenantId none none db = .ok s := by
  obtain ⟨client, hclient⟩ := eq_ok_of_isOk h
  simp only [getClientStatement, hclient]
  exact ⟨_, rfl⟩

theorem one_balance_part_paid : ∃ s t,
    getClientStatement 1 1 none none (afterCalls payPart) = .ok s ∧
      Rotas.getClientStatement 5000 1 1 none (afterCalls payPart) = .ok t ∧
        OneBalance 5000 1 1 (afterCalls payPart) s t := by
  have hclient : (requireClient 1 1 (afterCalls payPart)).isOk = true := by decide +kernel
  obtain ⟨s, hs⟩ := clientStatement_of_client hclient
  obtain ⟨t, ht⟩ := statement_of_client 5000 none hclient
  have hopen : ∀ d ∈ (afterCalls payPart).billingDocuments, isOpen d = true := by decide +kernel
  have hinvoiced : ∀ d ∈ (afterCalls payPart).billingDocuments,
      d.invoiced 5000 = true ∧ d.issuedBy 5000 = true ∧ d.clientId = some 1 := by decide +kernel
  refine ⟨s, t, hs, ht, (@one_balance .ascii false oneDueInvoiceDb payPart 5000 1 1 s t
    (by decide +kernel) hs ht).mpr ⟨fun d hd _ => ?_, fun d hd _ _ => ?_⟩⟩
  · obtain ⟨hinv, hissued, _⟩ := hinvoiced d hd
    exact ⟨.inl (hopen d hd), fun _ => .inl hinv, fun hnot => by rw [hissued] at hnot; cases hnot⟩
  · exact ⟨(hinvoiced d hd).2.2, (hinvoiced d hd).2.1⟩

/-- After an invoice-receipt of the invoice, the detail counts the one and the statement both. -/
theorem invoice_receipt_drifts : ∃ s t,
    getClientStatement 1 1 none none (afterCalls receiptInvoice) = .ok s ∧
      Rotas.getClientStatement 5000 1 1 none (afterCalls receiptInvoice) = .ok t ∧
        ¬ OneBalance 5000 1 1 (afterCalls receiptInvoice) s t := by
  have hclient : (requireClient 1 1 (afterCalls receiptInvoice)).isOk = true := by decide +kernel
  obtain ⟨s, hs⟩ := clientStatement_of_client hclient
  obtain ⟨t, ht⟩ := statement_of_client 5000 none hclient
  refine ⟨s, t, hs, ht, fun h => ?_⟩
  have hdetail := h.detail
  rw [statement_eq hs] at hdetail
  revert hdetail
  decide +kernel

end Clients
end Rotas
