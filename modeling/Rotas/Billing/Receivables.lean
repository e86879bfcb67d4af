import Mathlib.Data.List.Sort
import Mathlib.Logic.Function.Basic
import Rotas.Billing.Sound
import Rotas.Lib.Grouping

/-!
# Rotas.Billing.Receivables

The three views of what the clients of a tenant owe.

* `computeAging`    — how late a document is.
* `listArDocuments` — the invoices with a due date, by page.
* `getArSummary`    — their totals by aging bucket.
* `getTopDebtors`   — the clients by what they owe.
* `summaryView`, `debtorView`, `listView` — what each view counts for one document;
  `summary_total`, `debtors_total` and `pages_perm` say that it counts just that.

Rows that tie in an order come in the order of the table.
-/

namespace Rotas

/-! ## Aging -/

inductive AgingBucket where
  | current | from1To30 | from31To60 | from61To90 | over90
  deriving DecidableEq

def AgingBucket.order : AgingBucket → Nat
  | .current => 0
  | .from1To30 => 1
  | .from31To60 => 2
  | .from61To90 => 3
  | .over90 => 4

/-- 23:59:59 of a date. -/
def endOfDay (date : Int) : Instant := 86400 * date + 86399

structure Aging where
  daysOverdue : Int
  agingBucket : AgingBucket
  deriving DecidableEq

def computeAging (document : BillingDocument) (today : Instant) : Aging :=
  match document.dueDate with
  | none => ⟨0, .current⟩
  | some due =>
    if document.status ∉ [.issued, .overdue] then ⟨0, .current⟩
    else
      let daysOverdue := max 0 (utcDate today - utcDate due)
      ⟨daysOverdue,
        if daysOverdue = 0 then .current
        else if daysOverdue ≤ 30 then .from1To30
        else if daysOverdue ≤ 60 then .from31To60
        else if daysOverdue ≤ 90 then .from61To90
        else .over90⟩

theorem utcDate_endOfDay (date : Int) : utcDate (endOfDay date) = date := by
  simp only [utcDate, endOfDay]
  omega

theorem le_endOfDay (t : Instant) : t ≤ endOfDay (utcDate t) := by
  have h : ∀ n : Int, n ≤ 86400 * (n / 86400) + 86399 := fun n => by omega
  exact h t

theorem computeAging_congr (d : BillingDocument) {t t' : Instant} (h : utcDate t = utcDate t') :
    computeAging d t = computeAging d t' := by
  simp only [computeAging, h]

/-! ## The views -/

/-- The filter that the three queries share. -/
def BillingDocument.inAr (tenantId : UUID) (d : BillingDocument) : Bool :=
  d.tenantId = tenantId && decide (d.status ∈ [.issued, .overdue]) && d.dueDate.isSome &&
    d.documentType = .invoice

structure ArDocument where
  id : UUID
  invoiceNumber : Option String
  clientName : String
  contractId : Option UUID
  totalAmount : Int
  currency : String
  status : DocStatus
  issuedAt : Option Instant
  dueDate : Option Instant
  daysOverdue : Int
  agingBucket : AgingBucket

def arDocument (now : Instant) (doc : BillingDocument) : ArDocument where
  id := doc.id
  invoiceNumber := doc.invoiceNumber
  clientName := doc.clientName
  contractId := doc.contractId
  totalAmount := doc.totalAmount
  currency := doc.currency
  status := doc.status
  issuedAt := doc.issuedAt
  dueDate := doc.dueDate
  daysOverdue := (computeAging doc now).daysOverdue
  agingBucket := (computeAging doc now).agingBucket

/-- The documents of the list, by due date. -/
def arByDueDate (tenantId : UUID) (contractId : Option UUID) (db : Db) : List BillingDocument :=
  (db.billingDocuments.rows.filter fun d =>
    d.inAr tenantId && contractId.all fun c => d.contractId = some c).mergeSort
      fun d d' => d.dueDate.getD 0 ≤ d'.dueDate.getD 0

def listArDocuments (now : Instant) (tenantId : UUID) (agingBucket : Option AgingBucket)
    (contractId : Option UUID) (limit offset : Nat) (db : Db) : List ArDocument :=
  ((page limit offset (arByDueDate tenantId contractId db)).filter fun doc =>
    agingBucket.all fun b => (computeAging doc now).agingBucket = b).map (arDocument now)

structure ArSummary where
  buckets : AgingBucket → Int
  totalAr : Int
  asOf : Int

/-- One round of the loop over the invoices: the total goes to the bucket. -/
def addToBucket (today : Instant) (buckets : AgingBucket → Int) (doc : BillingDocument) :
    AgingBucket → Int :=
  let bucket := (computeAging doc today).agingBucket
  Function.update buckets bucket (buckets bucket + doc.totalAmount)

/-- `sum(buckets.values())`. -/
def sumOfBuckets (buckets : AgingBucket → Int) : Int :=
  buckets .current + buckets .from1To30 + buckets .from31To60 + buckets .from61To90 + buckets .over90

def getArSummary (now : Instant) (tenantId : UUID) (asOf : Option Int) (db : Db) : ArSummary :=
  let asOf := asOf.getD (utcDate now)
  let today := endOfDay asOf
  let docs := db.billingDocuments.rows.filter fun d =>
    d.inAr tenantId && d.issuedAt.any (· ≤ today)
  let buckets := docs.foldl (addToBucket today) fun _ => 0
  { buckets, totalAr := sumOfBuckets buckets, asOf }

structure Debtor where
  clientId : UUID
  clientName : String
  outstanding : Int
  worstBucket : AgingBucket

/-- What the loop over the invoices collects for each client. -/
structure DebtorTotals where
  clientOutstanding : List (UUID × Int) := []
  clientWorstBucket : UUID → Option AgingBucket := fun _ => none

/-- The total of the document without what its confirmed payments cover. -/
def Db.outstanding (db : Db) (doc : BillingDocument) : Int := doc.totalAmount - db.allocated doc.id

/-- One round of the loop over the invoices of clients. -/
def addDebt (today : Instant) (db : Db) (totals : DebtorTotals) (doc : BillingDocument) :
    DebtorTotals :=
  match doc.clientId with
  | none => totals
  | some cid =>
    if db.outstanding doc ≤ 0 then totals
    else
      let bucket := (computeAging doc today).agingBucket
      let existing := (totals.clientWorstBucket cid).getD .current
      { clientOutstanding := addTo cid (db.outstanding doc) totals.clientOutstanding
        clientWorstBucket :=
          if existing.order < bucket.order then
            Function.update totals.clientWorstBucket cid (some bucket)
          else totals.clientWorstBucket }

/-- The instant up to which a view of debts counts documents. -/
def asOfInstant (now : Instant) (asOf : Option Int) : Instant := asOf.elim now endOfDay

@[simp] theorem asOfInstant_none (now : Instant) : asOfInstant now none = now := rfl

def debtorTotals (now : Instant) (tenantId : UUID) (asOf : Option Int) (db : Db) : DebtorTotals :=
  let asOfDt := asOfInstant now asOf
  let docs := db.billingDocuments.rows.filter fun d =>
    d.inAr tenantId && d.clientId.isSome && d.issuedAt.any (· ≤ asOfDt)
  docs.foldl (addDebt asOfDt db) {}

/-- The client of the tenant. -/
def Db.clientOf (db : Db) (tenantId cid : UUID) : Option Client :=
  (db.clients.get cid).filter fun c => c.tenantId = tenantId

def getTopDebtors (now : Instant) (tenantId : UUID) (asOf : Option Int) (limit : Nat) (db : Db) :
    List Debtor :=
  let totals := debtorTotals now tenantId asOf db
  let ranked := (totals.clientOutstanding.mergeSort fun e e' => e'.2 ≤ e.2).take limit
  ranked.filterMap fun e => (db.clientOf tenantId e.1).map fun c =>
    { clientId := e.1, clientName := c.tradingName, outstanding := e.2
      worstBucket := (totals.clientWorstBucket e.1).getD .current }

/-! ## What a view counts for a document -/

structure ArEntry where
  documentId : UUID
  bucket : AgingBucket
  amount : Int
  deriving DecidableEq

def summaryView (tenantId : UUID) (today : Instant) (d : BillingDocument) : Option ArEntry :=
  if d.inAr tenantId && d.issuedAt.any (· ≤ today) then
    some ⟨d.id, (computeAging d today).agingBucket, d.totalAmount⟩
  else none

def debtorView (tenantId : UUID) (asOfDt : Instant) (db : Db) (d : BillingDocument) :
    Option ArEntry :=
  if d.inAr tenantId && d.clientId.any (fun cid => (db.clientOf tenantId cid).isSome) &&
      d.issuedAt.any (· ≤ asOfDt) && 0 < db.outstanding d then
    some ⟨d.id, (computeAging d asOfDt).agingBucket, db.outstanding d⟩
  else none

def listView (tenantId : UUID) (now : Instant) (d : BillingDocument) : Option ArEntry :=
  if d.inAr tenantId then some ⟨d.id, (computeAging d now).agingBucket, d.totalAmount⟩ else none

/-- The entries of a view. -/
def Db.entries (db : Db) (view : BillingDocument → Option ArEntry) : List ArEntry :=
  db.billingDocuments.rows.filterMap view

def amountOf (entries : List ArEntry) : Int := (entries.map ArEntry.amount).sum

/-- The documents of a bucket. -/
def idsIn (bucket : AgingBucket) (entries : List ArEntry) : List UUID :=
  (entries.filter fun e => e.bucket = bucket).map ArEntry.documentId

/-- The amounts for which a document is counted. -/
def countedFor (documentId : UUID) (entries : List ArEntry) : List Int :=
  (entries.filter fun e => e.documentId = documentId).map ArEntry.amount

section Entries

variable {db : Db} {view : BillingDocument → Option ArEntry} {d : BillingDocument}

/-- An entry is under the key of its document. -/
def Keeps (view : BillingDocument → Option ArEntry) : Prop :=
  ∀ d e, view d = some e → e.documentId = d.id

theorem keeps_guard {c : BillingDocument → Bool} {entry : BillingDocument → ArEntry}
    (hentry : ∀ d, (entry d).documentId = d.id) :
    Keeps fun d => if c d then some (entry d) else none := by
  intro d e h
  dsimp only at h
  split at h
  · cases h; exact hentry d
  · cases h

theorem keeps_summaryView (tenantId : UUID) (today : Instant) :
    Keeps (summaryView tenantId today) :=
  keeps_guard fun _ => rfl

theorem keeps_debtorView (tenantId : UUID) (asOfDt : Instant) (db : Db) :
    Keeps (debtorView tenantId asOfDt db) :=
  keeps_guard fun _ => rfl

theorem keeps_listView (tenantId : UUID) (now : Instant) : Keeps (listView tenantId now) :=
  keeps_guard fun _ => rfl

theorem countedFor_entries (hkeeps : Keeps view) (hd : d ∈ db.billingDocuments) :
    countedFor d.id (db.entries view) = ((view d).map ArEntry.amount).toList := by
  have hids : countedFor d.id (db.entries view) =
      ((db.billingDocuments.rows.filter fun d' => d'.id = d.id).filterMap view).map
        ArEntry.amount := by
    rw [countedFor, Db.entries, List.filter_filterMap, List.filterMap_filter]
    congr 2
    funext d'
    cases h : view d' with
    | none => simp
    | some e => simp [hkeeps d' e h, Option.filter]
  have hone : (db.billingDocuments.rows.filter fun d' => d'.id = d.id) = [d] := Table.filter_key hd
  rw [hids, hone]
  cases h : view d with
  | none => simp [h]
  | some e => simp [h]

theorem mem_idsIn {b : AgingBucket} (hkeeps : Keeps view) (hd : d ∈ db.billingDocuments) :
    d.id ∈ idsIn b (db.entries view) ↔ ∃ e, view d = some e ∧ e.bucket = b := by
  simp only [idsIn, Db.entries, List.mem_map, List.mem_filter, List.mem_filterMap,
    decide_eq_true_eq]
  constructor
  · rintro ⟨e, ⟨⟨d', hd', he⟩, hb⟩, hid⟩
    have hsame : d' = d := Table.eq_of_key hd' hd ((hkeeps d' e he).symm.trans hid)
    subst hsame
    exact ⟨e, he, hb⟩
  · rintro ⟨e, he, hb⟩
    exact ⟨e, ⟨⟨d, hd, he⟩, hb⟩, hkeeps d e he⟩

end Entries

/-! ## The views count their entries -/

section Views

variable {now : Instant} {tenantId : UUID} {asOf : Option Int} {db : Db}

theorem addToBucket_bucket (today : Instant) (buckets : AgingBucket → Int) (doc : BillingDocument)
    (b : AgingBucket) : addToBucket today buckets doc b =
      buckets b + if (computeAging doc today).agingBucket = b then doc.totalAmount else 0 := by
  by_cases h : (computeAging doc today).agingBucket = b
  · subst h
    simp [addToBucket]
  · rw [addToBucket, Function.update_of_ne (Ne.symm h), if_neg h, add_zero]

theorem sumOfBuckets_addToBucket (today : Instant) (buckets : AgingBucket → Int)
    (doc : BillingDocument) :
    sumOfBuckets (addToBucket today buckets doc) = sumOfBuckets buckets + doc.totalAmount := by
  simp only [sumOfBuckets, addToBucket_bucket]
  cases (computeAging doc today).agingBucket <;> simp <;> omega

theorem sumOfBuckets_foldl (today : Instant) : ∀ (docs : List BillingDocument)
    (buckets : AgingBucket → Int), sumOfBuckets (docs.foldl (addToBucket today) buckets) =
      sumOfBuckets buckets + (docs.map BillingDocument.totalAmount).sum := by
  intro docs
  induction docs with
  | nil => intro buckets; simp
  | cons doc docs ih =>
    intro buckets
    rw [List.foldl_cons, ih, sumOfBuckets_addToBucket, List.map_cons, List.sum_cons, add_assoc]

theorem entries_summaryView (today : Instant) : db.entries (summaryView tenantId today) =
    (db.billingDocuments.rows.filter fun d =>
      d.inAr tenantId && d.issuedAt.any (· ≤ today)).map fun d =>
        ⟨d.id, (computeAging d today).agingBucket, d.totalAmount⟩ :=
  filterMap_guard _ _ _

theorem entries_debtorView (asOfDt : Instant) : db.entries (debtorView tenantId asOfDt db) =
    (db.billingDocuments.rows.filter fun d =>
      d.inAr tenantId && d.clientId.any (fun cid => (db.clientOf tenantId cid).isSome) &&
        d.issuedAt.any (· ≤ asOfDt) && 0 < db.outstanding d).map fun d =>
          ⟨d.id, (computeAging d asOfDt).agingBucket, db.outstanding d⟩ :=
  filterMap_guard _ _ _

theorem entries_listView : db.entries (listView tenantId now) =
    (db.billingDocuments.rows.filter fun d => d.inAr tenantId).map fun d =>
      ⟨d.id, (computeAging d now).agingBucket, d.totalAmount⟩ :=
  filterMap_guard _ _ _

theorem summary_total : (getArSummary now tenantId asOf db).totalAr =
    amountOf (db.entries (summaryView tenantId (endOfDay (asOf.getD (utcDate now))))) := by
  rw [getArSummary]
  simp only [sumOfBuckets_foldl]
  rw [entries_summaryView, amountOf, List.map_map]
  exact zero_add _

theorem sumOver_addDebt (p : UUID → Bool) (today : Instant) : ∀ (docs : List BillingDocument)
    (totals : DebtorTotals), sumOver p (docs.foldl (addDebt today db) totals).clientOutstanding =
      sumOver p totals.clientOutstanding +
        ((docs.filter fun d => d.clientId.any p && 0 < db.outstanding d).map db.outstanding).sum := by
  intro docs
  induction docs with
  | nil => intro totals; simp
  | cons d docs ih =>
    intro totals
    rw [List.foldl_cons, ih]
    cases hclient : d.clientId with
    | none => simp [addDebt, hclient]
    | some cid =>
      by_cases hpos : db.outstanding d ≤ 0
      · have hnot : ¬ 0 < db.outstanding d := not_lt.mpr hpos
        simp [addDebt, hclient, hpos, hnot]
      · have hpos' : 0 < db.outstanding d := not_le.mp hpos
        simp only [addDebt, hclient, if_neg hpos, sumOver_addTo]
        by_cases hp : p cid
        · simp [hclient, hp, hpos', add_assoc]
        · simp [hclient, hp]

theorem debtors_total {limit : Nat}
    (hlimit : (debtorTotals now tenantId asOf db).clientOutstanding.length ≤ limit) :
    ((getTopDebtors now tenantId asOf limit db).map Debtor.outstanding).sum =
      amountOf (db.entries (debtorView tenantId (asOfInstant now asOf) db)) := by
  have hout : ∀ l : List (UUID × Int), ((l.filterMap fun e => (db.clientOf tenantId e.1).map
      fun c => ({ clientId := e.1, clientName := c.tradingName, outstanding := e.2
                  worstBucket := ((debtorTotals now tenantId asOf db).clientWorstBucket e.1).getD
                    .current } : Debtor)).map Debtor.outstanding).sum =
        sumOver (fun cid => (db.clientOf tenantId cid).isSome) l := by
    intro l
    induction l with
    | nil => rfl
    | cons e l ih =>
      rw [sumOver_cons, ← ih]
      cases h : db.clientOf tenantId e.1 with
      | none => simp [h]
      | some c => simp [h]
  have hranked := List.take_of_length_le (i := limit)
    (l := (debtorTotals now tenantId asOf db).clientOutstanding.mergeSort fun e e' => e'.2 ≤ e.2)
    (by rw [List.length_mergeSort]; exact hlimit)
  rw [getTopDebtors]
  simp only [hranked]
  rw [hout, sumOver_perm (List.mergeSort_perm _ _), debtorTotals]
  simp only [sumOver_addDebt]
  rw [entries_debtorView, amountOf, List.map_map, List.filter_filter]
  refine (zero_add _).trans ?_
  congr 2
  refine List.filter_congr fun d _ => ?_
  cases d.clientId with
  | none => simp
  | some cid =>
    simp only [Option.any_some, Option.isSome_some, Bool.and_true]
    ac_rfl

/-! ### Pages -/

/-- The first `n` pages of the list. -/
def arPages (now : Instant) (tenantId : UUID) (agingBucket : Option AgingBucket) (limit n : Nat)
    (db : Db) : List ArDocument :=
  (List.range n).flatMap fun i => listArDocuments now tenantId agingBucket none limit (i * limit) db

def ArDocument.entry (r : ArDocument) : ArEntry := ⟨r.id, r.agingBucket, r.totalAmount⟩

variable {agingBucket : Option AgingBucket} {limit n : Nat}

theorem arByDueDate_perm : (arByDueDate tenantId none db).Perm
    (db.billingDocuments.rows.filter fun d => d.inAr tenantId) := by
  simp only [arByDueDate, Option.all_none, Bool.and_true]
  exact List.mergeSort_perm _ _

theorem arPages_eq (hpages : db.billingDocuments.rows.length ≤ n * limit) :
    arPages now tenantId agingBucket limit n db = ((arByDueDate tenantId none db).filter fun doc =>
      agingBucket.all fun b => (computeAging doc now).agingBucket = b).map (arDocument now) := by
  have hlength : (arByDueDate tenantId none db).length ≤ n * limit :=
    arByDueDate_perm.length_eq ▸ (List.length_filter_le _ _).trans hpages
  rw [← flatMap_page_all hlength, List.filter_flatMap, List.map_flatMap]
  rfl

theorem pages_perm (hpages : db.billingDocuments.rows.length ≤ n * limit) :
    ((arPages now tenantId none limit n db).map ArDocument.entry).Perm
      (db.entries (listView tenantId now)) := by
  rw [arPages_eq hpages, entries_listView, List.map_map]
  simp only [Option.all_none, List.filter_true]
  exact arByDueDate_perm.map _

theorem mem_pages_bucket {b : AgingBucket} (hpages : db.billingDocuments.rows.length ≤ n * limit)
    (id : UUID) : id ∈ (arPages now tenantId (some b) limit n db).map ArDocument.id ↔
      id ∈ idsIn b (db.entries (listView tenantId now)) := by
  rw [arPages_eq hpages, entries_listView, idsIn]
  simp only [Option.all_some, List.mem_map, List.mem_filter, arByDueDate_perm.mem_iff]
  constructor
  · rintro ⟨r, ⟨d, ⟨hd, hb⟩, rfl⟩, rfl⟩
    exact ⟨_, ⟨⟨d, hd, rfl⟩, hb⟩, rfl⟩
  · rintro ⟨e, ⟨⟨d, hd, rfl⟩, hb⟩, rfl⟩
    exact ⟨_, ⟨d, ⟨hd, hb⟩, rfl⟩, rfl⟩

end Views

end Rotas
