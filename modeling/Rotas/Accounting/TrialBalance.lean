import Rotas.Accounting.Posting
import Rotas.Lib.Run
import Mathlib.Algebra.Order.Ring.Star
import Mathlib.Data.Rat.Star

/-!
# Rotas.Accounting.TrialBalance

The general ledger over runs of posted entries.

* `Balances`        — equal debits and credits in every entry and in every trial balance.
* `ResiduesCancel`  — rounding its lines does not move one side of an entry more than the other.
* `entries_balance` — every run whose manual entries have residues that cancel stays balanced.
* `half_cents_unbalanced` — two lines of half a cent against one of a whole cent.
-/

namespace Rotas

open Work Decimal

/-! ## What the ledger promises -/

def JournalItem.OneSided (i : JournalItem) : Prop :=
  0 < i.debit ∧ i.credit = 0 ∨ i.debit = 0 ∧ 0 < i.credit

/-- A sum over the stored lines of an entry. -/
def Books.total (db : Books) (f : JournalItem → Int) (entryId : UUID) : Int :=
  db.journalItems.sumWhere (·.journalEntryId = entryId) f

structure Balances (db : Books) : Prop where
  entries : ∀ e ∈ db.journalEntries,
    db.total JournalItem.debit e.id = db.total JournalItem.credit e.id
  lines : ∀ i ∈ db.journalItems, i.OneSided
  trialBalance : ∀ tenantId,
    ((trialBalance tenantId db).map TrialBalanceLine.debitTotal).sum =
      ((trialBalance tenantId db).map TrialBalanceLine.creditTotal).sum

/-- What storing an amount adds to it. -/
def residue (q : ℚ) : ℚ := (numeric 2 q : ℚ) / 100 - q

/-- The residues of the lines make up for what their unrounded totals differ by, which is nothing
where the totals are exact. -/
def ResiduesCancel (ls : List JournalItemCreate) : Prop :=
  (ls.map fun l => residue l.debit - residue l.credit).sum =
    (ls.map fun l => l.credit - l.debit).sum

instance (ls : List JournalItemCreate) : Decidable (ResiduesCancel ls) :=
  inferInstanceAs (Decidable (_ = _))

theorem residuesCancel_iff {ls : List JournalItemCreate} :
    ResiduesCancel ls ↔
      (ls.map fun l => numeric 2 l.debit).sum = (ls.map fun l => numeric 2 l.credit).sum := by
  have hsum : (ls.map fun l => residue l.debit - residue l.credit).sum -
      (ls.map fun l => l.credit - l.debit).sum =
        (((ls.map fun l => numeric 2 l.debit).sum : ℤ) -
          ((ls.map fun l => numeric 2 l.credit).sum : ℤ) : ℚ) / 100 := by
    induction ls with
    | nil => simp
    | cons l ls ih =>
      simp only [List.map_cons, List.sum_cons, residue, Int.cast_add] at ih ⊢
      linarith
  rw [ResiduesCancel, ← sub_eq_zero, hsum, div_eq_zero_iff, sub_eq_zero, Int.cast_inj]
  exact or_iff_left (by norm_num)

/-! ## Adding an entry -/

section Lines

variable {tenantId entryId : UUID} {ls : List JournalItemCreate} {db : Books}

theorem addLines_accounts : (addLines tenantId entryId ls db).accounts = db.accounts := by
  induction ls generalizing db with
  | nil => rfl
  | cons l ls ih => exact ih

theorem addLines_journalEntries :
    (addLines tenantId entryId ls db).journalEntries = db.journalEntries := by
  induction ls generalizing db with
  | nil => rfl
  | cons l ls ih => exact ih

theorem mem_addLines {i : JournalItem} (h : i ∈ (addLines tenantId entryId ls db).journalItems) :
    i ∈ db.journalItems ∨ ∃ l ∈ ls, ∃ id, i = lineItem tenantId entryId l id := by
  induction ls generalizing db with
  | nil => exact .inl h
  | cons l ls ih =>
    rcases ih h with h | ⟨l', hl', id, rfl⟩
    · simp only [Table.mem_insert] at h
      rcases h with h | rfl
      · exact .inl h
      · exact .inr ⟨l, List.mem_cons_self, _, rfl⟩
    · exact .inr ⟨l', List.mem_cons_of_mem _ hl', id, rfl⟩

theorem lineItem_debit (l : JournalItemCreate) (id : UUID) :
    (lineItem tenantId entryId l id).debit = (fun l => numeric 2 l.debit) l := rfl

theorem lineItem_credit (l : JournalItemCreate) (id : UUID) :
    (lineItem tenantId entryId l id).credit = (fun l => numeric 2 l.credit) l := rfl

/-- A sum over stored lines grows by that over the new ones, if they are among those summed. -/
theorem sumWhere_addLines {p : JournalItem → Bool} {f : JournalItem → Int}
    {g : JournalItemCreate → Int} {b : Bool} (hp : ∀ l id, p (lineItem tenantId entryId l id) = b)
    (hf : ∀ l id, f (lineItem tenantId entryId l id) = g l) :
    (addLines tenantId entryId ls db).journalItems.sumWhere p f =
      db.journalItems.sumWhere p f + if b then (ls.map g).sum else 0 := by
  induction ls generalizing db with
  | nil => simp [addLines]
  | cons l ls ih =>
    rw [addLines, ih, Table.sumWhere_insert, hp, hf, List.map_cons, List.sum_cons]
    cases b
    · simp
    · simp only [if_true]
      ring

end Lines

/-! ## The invariant -/

/-- Entries and tenants are balanced, and each line has its entry and an account of its tenant. -/
structure Posted (db : Books) : Prop where
  entries : ∀ e ∈ db.journalEntries,
    db.total JournalItem.debit e.id = db.total JournalItem.credit e.id
  tenants : ∀ tenantId : UUID,
    db.journalItems.sumWhere (·.tenantId = tenantId) JournalItem.debit =
      db.journalItems.sumWhere (·.tenantId = tenantId) JournalItem.credit
  linked : ∀ i ∈ db.journalItems, ∃ e ∈ db.journalEntries, e.id = i.journalEntryId
  accounts : ∀ i ∈ db.journalItems, ∃ a ∈ db.accounts, a.id = i.accountId ∧ a.tenantId = i.tenantId

theorem oneSided_of_ok {i : JournalItem} (h : i.ok = true) : i.OneSided := by
  simp only [JournalItem.ok, Bool.and_eq_true, decide_eq_true_eq] at h
  unfold JournalItem.OneSided
  omega

section Invariant

variable {db p : Books} {tenantId : UUID}

/-- The trial balance of a tenant adds up to all lines of the tenant. -/
theorem sum_trialBalance (h : Posted db) (f : JournalItem → Int) (g : TrialBalanceLine → Int)
    (hg : ∀ a, g (trialBalanceLine db a) = db.journalItems.sumWhere (·.accountId = a.id) f) :
    ((trialBalance tenantId db).map g).sum =
      db.journalItems.sumWhere (·.tenantId = tenantId) f := by
  have hperm := List.mergeSort_perm (db.accounts.rows.filter (·.tenantId = tenantId))
    fun a b => decide (a.code ≤ b.code)
  have hnodup : ((db.accounts.rows.filter (·.tenantId = tenantId)).map Account.id).Nodup :=
    db.accounts.nodup.sublist (List.filter_sublist.map _)
  have hmem : ∀ i ∈ db.journalItems,
      decide (i.accountId ∈ (db.accounts.rows.filter (·.tenantId = tenantId)).map Account.id) =
        decide (i.tenantId = tenantId) := by
    intro i hi
    obtain ⟨a, ha, hid, hten⟩ := h.accounts i hi
    rw [decide_eq_decide, List.mem_map]
    constructor
    · rintro ⟨a', ha', hid'⟩
      obtain ⟨ha', hten'⟩ := List.mem_filter.mp ha'
      have haa : a' = a := Table.eq_of_key ha' ha (hid'.trans hid.symm)
      rw [← hten, ← haa]
      exact of_decide_eq_true hten'
    · intro hi'
      exact ⟨a, List.mem_filter.mpr ⟨ha, decide_eq_true (hten.trans hi')⟩, hid⟩
  calc ((trialBalance tenantId db).map g).sum
      = ((db.accounts.rows.filter (·.tenantId = tenantId)).map
          fun a => db.journalItems.sumWhere (·.accountId = a.id) f).sum := by
        rw [trialBalance, List.map_map]
        exact ((hperm.map _).sum_eq).trans (by
          refine congrArg List.sum (List.map_congr_left fun a _ => ?_)
          exact hg a)
    _ = (((db.accounts.rows.filter (·.tenantId = tenantId)).map Account.id).map
          fun k => db.journalItems.sumWhere (fun i => true && i.accountId = k) f).sum := by
        rw [List.map_map]
        rfl
    _ = db.journalItems.sumWhere (·.tenantId = tenantId) f := by
        rw [Table.sum_groups JournalItem.accountId hnodup]
        exact Table.sumWhere_congr fun i hi => by rw [Bool.true_and]; exact hmem i hi

theorem Posted.balances (h : Posted db) (hok : db.ok = true) : Balances db where
  entries := h.entries
  lines i hi := oneSided_of_ok (List.all_eq_true.mp hok i hi)
  trialBalance tenantId := by
    rw [sum_trialBalance h JournalItem.debit _ fun _ => rfl,
      sum_trialBalance h JournalItem.credit _ fun _ => rfl]
    exact h.tenants tenantId

/-- An entry whose accounts are the tenant's and whose residues cancel keeps the ledger posted. -/
theorem posted_addLines {payload : JournalEntryCreate} {sourceType : Option String}
    {sourceId : Option UUID} {ls : List JournalItemCreate} (h : Posted db)
    (hcancel : ResiduesCancel ls)
    (haccounts : ∀ l ∈ ls, ∃ a ∈ db.accounts, a.id = l.val.accountId ∧ a.tenantId = tenantId) :
    Posted (addLines tenantId db.journalEntries.freshKey ls
      (addEntry tenantId payload sourceType sourceId db)) := by
  have hsides := residuesCancel_iff.mp hcancel
  have hboth : ∀ (q : JournalItem → Bool) (b : Bool),
      (∀ l id, q (lineItem tenantId db.journalEntries.freshKey l id) = b) →
      db.journalItems.sumWhere q JournalItem.debit =
        db.journalItems.sumWhere q JournalItem.credit →
      (addLines tenantId db.journalEntries.freshKey ls
          (addEntry tenantId payload sourceType sourceId db)).journalItems.sumWhere q
          JournalItem.debit =
        (addLines tenantId db.journalEntries.freshKey ls
          (addEntry tenantId payload sourceType sourceId db)).journalItems.sumWhere q
          JournalItem.credit := by
    intro q b hq hold
    rw [sumWhere_addLines hq lineItem_debit, sumWhere_addLines hq lineItem_credit, hsides]
    exact congrArg (· + _) hold
  refine ⟨fun e he => ?_, fun t => ?_, fun i hi => ?_, fun i hi => ?_⟩
  · rw [addLines_journalEntries] at he
    refine hboth _ (decide (db.journalEntries.freshKey = e.id)) (fun l id => rfl) ?_
    rcases (Table.mem_insert _ _ _).mp he with he | rfl
    · exact h.entries e he
    · -- no stored line has the key of the new entry
      have hnone : ∀ i ∈ db.journalItems,
          decide (i.journalEntryId = db.journalEntries.freshKey) = false := by
        intro i hi
        obtain ⟨e, he, hid⟩ := h.linked i hi
        have hlt := Table.key_lt_freshKey he
        rw [← hid]
        exact decide_eq_false (Nat.ne_of_lt hlt)
      exact (Table.sumWhere_eq_zero hnone).trans (Table.sumWhere_eq_zero hnone).symm
  · exact hboth _ (decide (tenantId = t)) (fun l id => rfl) (h.tenants t)
  · rw [addLines_journalEntries]
    rcases mem_addLines hi with hi | ⟨l, _, id, rfl⟩
    · obtain ⟨e, he, hid⟩ := h.linked i hi
      exact ⟨e, (Table.mem_insert _ _ _).mpr (.inl he), hid⟩
    · exact ⟨_, (Table.mem_insert _ _ _).mpr (.inr rfl), rfl⟩
  · rw [addLines_accounts]
    rcases mem_addLines hi with hi | ⟨l, hl, id, rfl⟩
    · exact h.accounts i hi
    · exact haccounts l hl

/-! ## The two ways to post -/

theorem createJournalEntry_eq_ok {payload : JournalEntryCreate} {sourceType : Option String}
    {sourceId : Option UUID} {id : UUID}
    (h : createJournalEntry tenantId payload sourceType sourceId db = .ok (id, p)) :
    p = addLines tenantId db.journalEntries.freshKey payload.rawLines
      (addEntry tenantId payload sourceType sourceId db) := by
  simp only [createJournalEntry] at h
  split at h
  · cases h
  split at h
  · cases h
  split at h
  · cases h
  · cases h; rfl

theorem checkAccounts_eq_ok {ls : List JournalItemCreate} (h : checkAccounts tenantId db ls = .ok ()) :
    ∀ l ∈ ls, ∃ a ∈ db.accounts, a.id = l.val.accountId ∧ a.tenantId = tenantId := by
  induction ls with
  | nil => exact fun _ hl => absurd hl List.not_mem_nil
  | cons l ls ih =>
    rw [checkAccounts] at h
    split at h
    · next hany =>
      intro l' hl'
      rcases List.mem_cons.mp hl' with rfl | hl'
      · obtain ⟨a, ha, hten⟩ := (Option.any_eq_true _ _).mp hany
        exact ⟨a, Table.mem_of_get ha, Table.key_of_get ha, of_decide_eq_true hten⟩
      · exact ih h l' hl'
    · cases h

theorem posted_createManualEntry {payload : JournalEntryCreate} {id : UUID} (hposted : Posted db)
    (hcancel : ResiduesCancel payload.rawLines)
    (h : createManualEntry tenantId payload db = .ok (id, p)) : Posted p := by
  simp only [createManualEntry] at h
  split at h
  · cases h
  cases hcheck : checkAccounts tenantId db payload.rawLines with
  | error e => rw [hcheck] at h; cases h
  | ok u =>
    rw [hcheck] at h
    rw [createJournalEntry_eq_ok h]
    exact posted_addLines hposted hcancel (checkAccounts_eq_ok hcheck)

theorem ofLine_eq_ok {l : JournalLine} {item : JournalItemCreate}
    (h : JournalItemCreate.ofLine l = .ok item) : item.val = l := by
  unfold JournalItemCreate.ofLine at h
  split at h
  · cases h; rfl
  · cases h

theorem findAccount_eq_some {code : String} {a : Account} (h : findAccount tenantId code db = some a) :
    a ∈ db.accounts ∧ a.tenantId = tenantId := by
  have hfound := List.find?_some h
  simp only [Bool.and_eq_true, decide_eq_true_eq] at hfound
  exact ⟨List.mem_of_find?_eq_some h, hfound.1⟩

/-- The two lines of an invoice carry the same amount, so their residues cancel. -/
theorem residuesCancel_supplierLines {invoice : SupplierInvoice} {expense payable : Account}
    {lines : JournalItemCreate × JournalItemCreate}
    (h : supplierLines invoice expense payable = .ok lines) :
    ResiduesCancel [lines.1, lines.2] ∧ lines.1.val.accountId = expense.id ∧
      lines.2.val.accountId = payable.id := by
  unfold supplierLines at h
  cases hd : JournalItemCreate.ofLine
      { accountId := expense.id, debit := (invoice.amount : ℚ) / 100
        thirdPartyId := some invoice.thirdPartyId, vehicleId := invoice.vehicleId
        tripId := invoice.tripId } with
  | error e => rw [hd] at h; cases h
  | ok debit =>
    cases hc : JournalItemCreate.ofLine
        { accountId := payable.id, credit := (invoice.amount : ℚ) / 100
          thirdPartyId := some invoice.thirdPartyId } with
    | error e => rw [hd, hc] at h; cases h
    | ok credit =>
      rw [hd, hc] at h
      cases h
      refine ⟨residuesCancel_iff.mpr ?_, ?_, ?_⟩
      · simp [JournalItemCreate.debit, JournalItemCreate.credit, ofLine_eq_ok hd, ofLine_eq_ok hc,
          add_comm]
      · simp only [ofLine_eq_ok hd]
      · simp only [ofLine_eq_ok hc]

theorem posted_postSupplierInvoice {invoiceId id : UUID} (hposted : Posted db)
    (h : postSupplierInvoice invoiceId db = .ok (id, p)) : Posted p := by
  unfold postSupplierInvoice at h
  cases hinvoice : db.supplierInvoices.get invoiceId with
  | none => rw [hinvoice] at h; cases h
  | some invoice =>
    rw [hinvoice] at h
    cases hexpense : findAccount invoice.tenantId "62" db with
    | none => simp only [hexpense] at h; cases h
    | some expense =>
      cases hpayable : findAccount invoice.tenantId "42" db with
      | none => simp only [hexpense, hpayable] at h; cases h
      | some payable =>
        simp only [hexpense, hpayable] at h
        cases hlines : supplierLines invoice expense payable with
        | error e => rw [hlines] at h; cases h
        | ok lines =>
          rw [hlines] at h
          obtain ⟨hcancel, hfirst, hsecond⟩ := residuesCancel_supplierLines hlines
          cases hcreate : createJournalEntry invoice.tenantId (supplierEntry invoice lines) none none
              db with
          | error e => cases e <;> simp [bind, Except.bind, hcreate] at h
          | ok r =>
            simp only [bind, Except.bind, hcreate, Except.ok.injEq] at h
            subst h
            rw [createJournalEntry_eq_ok hcreate]
            refine posted_addLines hposted hcancel fun l hl => ?_
            obtain ⟨hexp, hexpten⟩ := findAccount_eq_some hexpense
            obtain ⟨hpay, hpayten⟩ := findAccount_eq_some hpayable
            have hl' : l ∈ [lines.1, lines.2] := hl
            simp only [List.mem_cons, List.not_mem_nil, or_false] at hl'
            rcases hl' with rfl | rfl
            · exact ⟨expense, hexp, hfirst.symm, hexpten⟩
            · exact ⟨payable, hpay, hsecond.symm, hpayten⟩

end Invariant

/-! ## Runs -/

inductive Posting where
  | manualEntry (tenantId : UUID) (payload : JournalEntryCreate)
  | supplierInvoice (invoiceId : UUID)

def Posting.run : Posting → Books → Except PostingError (UUID × Books)
  | .manualEntry tenantId payload => createManualEntry tenantId payload
  | .supplierInvoice invoiceId => postSupplierInvoice invoiceId

/-- A posting that is refused, by its checks or by the database, changes nothing. -/
def Books.post (db : Books) (a : Posting) : Books := perform a.run db

/-- The residues of a manual entry cancel. -/
def Posting.Exact : Posting → Prop
  | .manualEntry _ payload => ResiduesCancel payload.rawLines
  | .supplierInvoice _ => True

instance : ∀ a : Posting, Decidable a.Exact
  | .manualEntry _ payload => inferInstanceAs (Decidable (ResiduesCancel payload.rawLines))
  | .supplierInvoice _ => inferInstanceAs (Decidable True)

structure Unposted (db : Books) : Prop where
  journalEntries : db.journalEntries = ∅
  journalItems : db.journalItems = ∅

section Run

variable {db : Books} {as : List Posting}

theorem Unposted.posted (h : Unposted db) : Posted db where
  entries e he := absurd (h.journalEntries ▸ he) List.not_mem_nil
  tenants t := by rw [h.journalItems]; rfl
  linked i hi := absurd (h.journalItems ▸ hi) List.not_mem_nil
  accounts i hi := absurd (h.journalItems ▸ hi) List.not_mem_nil

theorem Unposted.ok (h : Unposted db) : db.ok = true := by
  rw [Books.ok, h.journalItems]; rfl

theorem posted_post {a : Posting} (h : Posted db ∧ db.ok = true) (hexact : a.Exact) :
    Posted (db.post a) ∧ (db.post a).ok = true := by
  rcases perform_cases a.run db with hsame | ⟨id, hrun, hok⟩
  · rw [Books.post, hsame]; exact h
  · refine ⟨?_, hok⟩
    cases a with
    | manualEntry tenantId payload => exact posted_createManualEntry h.1 hexact hrun
    | supplierInvoice invoiceId => exact posted_postSupplierInvoice h.1 hrun

/-- After every run of postings whose manual entries have residues that cancel, each entry and each
trial balance has equal debits and credits, and each line is one-sided. -/
theorem entries_balance (h : Unposted db)
    (hexact : Run.Along Books.post (fun _ a => a.Exact) db as) :
    Balances (Run.exec Books.post db as) := by
  have hrun : Posted (Run.exec Books.post db as) ∧ (Run.exec Books.post db as).ok = true :=
    Run.exec_inv (I := fun db => Posted db ∧ db.ok = true) (fun _ _ h hexact => posted_post h hexact)
      ⟨h.posted, h.ok⟩ hexact
  exact hrun.1.balances hrun.2

end Run

/-! ## Amounts below a cent -/

def oneAccount : Books where
  accounts := .single { id := 1, tenantId := 1, code := "12", name := "Depósitos à Ordem" }

/-- Two debits of half of an amount against one credit of all of it. -/
def splitEntry (q : ℚ) (h : 0 < q) : Posting :=
  have hdebit : validateDebitCredit { accountId := 1, debit := q / 2 } = .ok () := by
    have h₁ : ¬ q < 0 := by linarith
    have h₂ : ¬ q = 0 := by linarith
    simp [validateDebitCredit, div_neg_iff, h₁, h₂]
  have hcredit : validateDebitCredit { accountId := 1, credit := q } = .ok () := by
    have h₁ : ¬ q < 0 := by linarith
    have h₂ : ¬ q = 0 := by linarith
    simp [validateDebitCredit, h₁, h₂]
  .manualEntry 1
    { journalType := "OD", date := 0
      lines := [⟨_, hdebit⟩, ⟨_, hdebit⟩, ⟨_, hcredit⟩]
      present := .inl (List.cons_ne_nil _ _) }

theorem oneAccount_unposted : Unposted oneAccount := ⟨rfl, rfl⟩

theorem entries_balance_once :
    Balances (Run.exec Books.post oneAccount [splitEntry 2 (by norm_num)]) :=
  entries_balance oneAccount_unposted (by decide +kernel)

/-- Two lines of half a cent are stored as a cent each, against one of a cent. -/
theorem half_cents_unbalanced :
    Unposted oneAccount ∧
      ¬ Balances (Run.exec Books.post oneAccount [splitEntry (1 / 100) (by norm_num)]) := by
  refine ⟨oneAccount_unposted, fun h => ?_⟩
  have htotal := h.trialBalance 1
  revert htotal
  decide +kernel

end Rotas
