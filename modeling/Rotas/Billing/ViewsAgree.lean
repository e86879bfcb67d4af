import Rotas.Billing.Booked
import Rotas.Billing.Receivables

/-!
# Rotas.Billing.ViewsAgree

When the three views of the receivables agree.

* `ViewsAgree` — one total, the same documents in each bucket, and every unpaid invoice once in
  each view, for its total minus its confirmed payments.
* `Db.EvenlyViewed` — no invoice is one that some view leaves out or counts differently.
* `views_agree_iff` — the views agree exactly then.
-/

namespace Rotas

/-- An invoice of the tenant that is issued or overdue. -/
structure OpenInvoice (tenantId : UUID) (d : BillingDocument) : Prop where
  tenant : d.tenantId = tenantId
  kind : d.documentType = .invoice
  status : d.status ∈ [DocStatus.issued, .overdue]

/-- The views of a tenant, on the date of `now`, agree. -/
structure ViewsAgree (now : Instant) (tenantId : UUID) (asOf : Option Int) (limit pageSize n : Nat)
    (db : Db) : Prop where
  debtors : (getArSummary now tenantId asOf db).totalAr =
    ((getTopDebtors now tenantId asOf limit db).map Debtor.outstanding).sum
  pages : (getArSummary now tenantId asOf db).totalAr =
    ((arPages now tenantId none pageSize n db).map ArDocument.totalAmount).sum
  buckets : ∀ b id,
    let summary := db.entries (summaryView tenantId (endOfDay (asOf.getD (utcDate now))))
    let debtors := db.entries (debtorView tenantId (asOfInstant now asOf) db)
    (id ∈ idsIn b summary ↔ id ∈ idsIn b debtors) ∧
      (id ∈ idsIn b summary ↔ id ∈ (arPages now tenantId (some b) pageSize n db).map ArDocument.id)
  counted : ∀ d ∈ db.billingDocuments, OpenInvoice tenantId d → 0 < db.outstanding d →
    let summary := db.entries (summaryView tenantId (endOfDay (asOf.getD (utcDate now))))
    let debtors := db.entries (debtorView tenantId (asOfInstant now asOf) db)
    let pages := (arPages now tenantId none pageSize n db).map ArDocument.entry
    countedFor d.id summary = [db.outstanding d] ∧ countedFor d.id debtors = [db.outstanding d] ∧
      countedFor d.id pages = [db.outstanding d]

/-- What every view counts, and for the same amount. -/
structure Countable (tenantId : UUID) (asOfDt : Instant) (db : Db) (d : BillingDocument) :
    Prop where
  due : d.dueDate.isSome
  client : d.clientId.any fun cid => (db.clientOf tenantId cid).isSome
  issued : d.issuedAt.any (· ≤ asOfDt)
  uncovered : db.allocated d.id = 0
  positive : 0 < d.totalAmount

/-- Every invoice is counted by all views alike, or by none, and then nothing is left to pay. -/
def Db.EvenlyViewed (db : Db) (tenantId : UUID) (asOfDt : Instant) : Prop :=
  ∀ d ∈ db.billingDocuments, OpenInvoice tenantId d →
    d.dueDate = none ∧ db.outstanding d ≤ 0 ∨ Countable tenantId asOfDt db d

section ViewsAgree

variable {now asOfDt today : Instant} {tenantId : UUID} {asOf : Option Int} {limit pageSize n : Nat}
  {db : Db} {d : BillingDocument}

theorem inAr_iff : d.inAr tenantId = true ↔ OpenInvoice tenantId d ∧ d.dueDate.isSome := by
  simp only [BillingDocument.inAr, Bool.and_eq_true, decide_eq_true_eq]
  constructor
  · rintro ⟨⟨⟨htenant, hstatus⟩, hdue⟩, hkind⟩
    exact ⟨⟨htenant, hkind, hstatus⟩, hdue⟩
  · rintro ⟨⟨htenant, hkind, hstatus⟩, hdue⟩
    exact ⟨⟨⟨htenant, hstatus⟩, hdue⟩, hkind⟩

theorem Countable.outstanding (h : Countable tenantId asOfDt db d) :
    db.outstanding d = d.totalAmount := by
  rw [Db.outstanding, h.uncovered, sub_zero]

/-- In an evenly viewed database the views count a document alike. -/
theorem views_eq (h : db.EvenlyViewed tenantId asOfDt) (hd : d ∈ db.billingDocuments)
    (hday : utcDate asOfDt = utcDate now) (hday' : utcDate today = utcDate now)
    (hle : asOfDt ≤ today) :
    summaryView tenantId today d = listView tenantId now d ∧
      debtorView tenantId asOfDt db d = listView tenantId now d := by
  by_cases har : d.inAr tenantId
  · obtain ⟨hopen, hdue⟩ := inAr_iff.mp har
    rcases h d hd hopen with ⟨hnone, _⟩ | hc
    · rw [hnone] at hdue
      cases hdue
    · have hissued : d.issuedAt.any (· ≤ today) = true := by
        have hi := hc.issued
        simp only [Option.any_eq_true, decide_eq_true_eq] at hi ⊢
        obtain ⟨t, ht, hle'⟩ := hi
        exact ⟨t, ht, hle'.trans hle⟩
      constructor
      · simp [summaryView, listView, har, hissued, computeAging_congr d hday']
      · have hguard := hc.client
        simp [debtorView, listView, har, hguard, hc.issued, computeAging_congr d hday,
          hc.outstanding, hc.positive]
  · simp [summaryView, debtorView, listView, har]

theorem entries_congr {view view' : BillingDocument → Option ArEntry}
    (h : ∀ d ∈ db.billingDocuments, view d = view' d) : db.entries view = db.entries view' :=
  List.filterMap_congr h

theorem pages_total (hpages : db.billingDocuments.rows.length ≤ n * pageSize) :
    ((arPages now tenantId none pageSize n db).map ArDocument.totalAmount).sum =
      amountOf (db.entries (listView tenantId now)) := by
  rw [amountOf, ← ((pages_perm hpages).map _).sum_eq, List.map_map]
  rfl

/-- A document is counted on the pages as in the list's view. -/
theorem countedFor_pages (hpages : db.billingDocuments.rows.length ≤ n * pageSize)
    (hd : d ∈ db.billingDocuments) :
    countedFor d.id ((arPages now tenantId none pageSize n db).map ArDocument.entry) =
      ((listView tenantId now d).map ArEntry.amount).toList := by
  have hentries : ((arPages now tenantId none pageSize n db).map ArDocument.entry).Perm
      (db.entries (listView tenantId now)) := pages_perm hpages
  have hperm := (hentries.filter fun e => e.documentId = d.id).map ArEntry.amount
  have hone := countedFor_entries (keeps_listView tenantId now) hd
  rw [countedFor] at hone
  rw [hone] at hperm
  cases h : listView tenantId now d with
  | none =>
    rw [h] at hperm
    exact hperm.eq_nil
  | some e =>
    rw [h] at hperm
    exact List.perm_singleton.mp hperm

/-- Without a date, or asked for today, the views look at one day. -/
theorem asOf_today (hday : ∀ date ∈ asOf, date = utcDate now) :
    asOf.getD (utcDate now) = utcDate now ∧ utcDate (asOfInstant now asOf) = utcDate now ∧
      asOfInstant now asOf ≤ endOfDay (utcDate now) := by
  cases asOf with
  | none => exact ⟨rfl, rfl, le_endOfDay now⟩
  | some date =>
    have hdate : date = utcDate now := hday date rfl
    subst hdate
    exact ⟨rfl, utcDate_endOfDay _, le_refl _⟩

theorem agree_of_evenly (hday : ∀ date ∈ asOf, date = utcDate now)
    (hlimit : (debtorTotals now tenantId asOf db).clientOutstanding.length ≤ limit)
    (hpages : db.billingDocuments.rows.length ≤ n * pageSize)
    (h : db.EvenlyViewed tenantId (asOfInstant now asOf)) :
    ViewsAgree now tenantId asOf limit pageSize n db := by
  obtain ⟨hasOf, hdate, hle⟩ := asOf_today hday
  have hviews := fun d hd => views_eq (d := d) h hd hdate (utcDate_endOfDay (utcDate now)) hle
  have hsummary : db.entries (summaryView tenantId (endOfDay (asOf.getD (utcDate now)))) =
      db.entries (listView tenantId now) := by
    rw [hasOf]
    exact entries_congr fun d hd => (hviews d hd).1
  have hdebtors : db.entries (debtorView tenantId (asOfInstant now asOf) db) =
      db.entries (listView tenantId now) := entries_congr fun d hd => (hviews d hd).2
  constructor
  case debtors => rw [summary_total, debtors_total hlimit, hsummary, hdebtors]
  case pages => rw [summary_total, pages_total hpages, hsummary]
  case buckets =>
    intro b id
    rw [hsummary, hdebtors]
    exact ⟨Iff.rfl, (mem_pages_bucket hpages id).symm⟩
  case counted =>
    intro d hd hopen hunpaid
    rw [hsummary, hdebtors]
    have hcounted : countedFor d.id (db.entries (listView tenantId now)) = [db.outstanding d] := by
      rw [countedFor_entries (keeps_listView tenantId now) hd]
      rcases h d hd hopen with ⟨_, hpaid⟩ | hc
      · exact absurd hunpaid (not_lt.mpr hpaid)
      · have har : d.inAr tenantId = true := inAr_iff.mpr ⟨hopen, hc.due⟩
        simp [listView, har, hc.outstanding]
    refine ⟨hcounted, hcounted, ?_⟩
    rw [countedFor_pages hpages hd, ← hcounted, countedFor_entries (keeps_listView tenantId now) hd]

theorem evenly_of_agree (hpages : db.billingDocuments.rows.length ≤ n * pageSize)
    (h : ViewsAgree now tenantId asOf limit pageSize n db) :
    db.EvenlyViewed tenantId (asOfInstant now asOf) := by
  intro d hd hopen
  cases hdue : d.dueDate with
  | none =>
    refine .inl ⟨rfl, not_lt.mp fun hunpaid => ?_⟩
    have hlist := (h.counted d hd hopen hunpaid).2.2
    rw [countedFor_pages hpages hd] at hlist
    simp [listView, BillingDocument.inAr, hdue] at hlist
  | some due =>
    have har : d.inAr tenantId = true := inAr_iff.mpr ⟨hopen, by rw [hdue]; rfl⟩
    -- the document is on a page of its bucket, so the two other views have it there
    have hlist : d.id ∈ idsIn (computeAging d now).agingBucket
        (db.entries (listView tenantId now)) :=
      (mem_idsIn (keeps_listView tenantId now) hd).mpr ⟨_, by rw [listView, if_pos har], rfl⟩
    obtain ⟨hdebtors, hpage⟩ := h.buckets (computeAging d now).agingBucket d.id
    have hsummary := hpage.mpr ((mem_pages_bucket hpages d.id).mpr hlist)
    obtain ⟨e, he, _⟩ := (mem_idsIn (keeps_debtorView tenantId _ db) hd).mp (hdebtors.mp hsummary)
    obtain ⟨e', he', _⟩ := (mem_idsIn (keeps_summaryView tenantId _) hd).mp hsummary
    simp only [debtorView] at he
    split at he
    case isFalse => cases he
    case isTrue hguard =>
      simp only [Bool.and_eq_true, decide_eq_true_eq] at hguard
      obtain ⟨⟨⟨_, hclient⟩, hissued⟩, hunpaid⟩ := hguard
      -- the summary counts it for its total, so nothing of it is covered
      have hamount := (h.counted d hd hopen hunpaid).1
      rw [countedFor_entries (keeps_summaryView tenantId _) hd, he'] at hamount
      have htotal : e'.amount = d.totalAmount := by
        simp only [summaryView] at he'
        split at he'
        · cases he'; rfl
        · cases he'
      have hsame : d.totalAmount = db.outstanding d := htotal ▸ List.singleton_inj.mp hamount
      have hzero : db.allocated d.id = 0 := by
        rw [Db.outstanding] at hsame
        omega
      exact .inr ⟨by rw [hdue]; rfl, hclient, hissued, hzero, hsame ▸ hunpaid⟩

end ViewsAgree

/-! ## Two ledgers -/

/-- An invoice of trips, which names no client, and one of which the client has paid 40.00. -/
def partlyPaidDb : Db where
  clients := .single { id := 1, tenantId := 1, tradingName := "Cliente" }
  billingDocuments := (Table.insert ∅ fun id => dueInvoice id none).insert fun id =>
    dueInvoice id (some 1)
  clientPayments := .single
    { id := 1, tenantId := 1, clientId := 1, billingDocumentId := some 2, amount := 4000
      valueDate := 2000, paymentMethod := "cash" }
  paymentAllocations := .single
    { id := 1, tenantId := 1, paymentId := 1, billingDocumentId := 2, amountApplied := 4000 }

example : (getArSummary 5000 1 none partlyPaidDb).totalAr = 20000 := by decide +kernel

example : (getTopDebtors 5000 1 none 5 partlyPaidDb).map Debtor.outstanding = [6000] := by
  decide +kernel

end Rotas
