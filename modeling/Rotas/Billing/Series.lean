import Rotas.Billing.Issue
import Rotas.Lib.Interleave

/-!
# Rotas.Billing.Series

Numbering transactions that run at the same time. Each one loads or makes its document, reads the
profile, makes sure that the counter's row is there, locks it, and commits or rolls back. Reads see
what is committed at that instant; the row of a counter belongs to one transaction from its
insertion or its `FOR UPDATE` on.

* `Phase`, `Action`, `turn` — the steps of a transaction.
* `Assigned`, `SeriesStore` — the database, its locks, and what was numbered so far.
* `turn_cases`     — a turn either leaves counters and numbers alone or commits one number.
* `Sequenced`      — what every interleaving keeps: each series was given out from one on.
-/

namespace Rotas

open Interleave

/-! ## Transactions -/

/-- The document that a transaction numbers: one it loaded, or one it inserts. -/
structure Numbered where
  tenantId : UUID
  document : BillingDocument
  isNew : Bool

def Numbered.year (t : Numbered) : Nat := yearOf t.document.billingPeriodStart

def Numbered.key (t : Numbered) (n : Numbering) : CounterKey :=
  n.counterKey t.tenantId t.year t.document.documentType

inductive Phase where
  | idle
  | loaded (t : Numbered)
  | profiled (t : Numbered) (n : Numbering)
  /-- The counter's row is committed, or inserted by this transaction. -/
  | ensured (t : Numbered) (n : Numbering)
  /-- The row is locked, and `seq` is the next number. -/
  | numbered (t : Numbered) (n : Numbering) (seq : Nat)

/-- The document that a transaction under way will number. -/
def Phase.transaction : Phase → Option Numbered
  | .idle => none
  | .loaded t | .profiled t _ | .ensured t _ | .numbered t _ _ => some t

inductive Action where
  | changeProfiles (documentProfiles : Table TenantDocumentProfile)
  | addDocument (row : BillingDocument)
  | load (tenantId documentId : UUID)
  | create (tenantId : UUID) (row : BillingDocument)
  | readProfile
  | ensureCounter
  | lockCounter
  | commit
  | rollback

/-- One committed numbering. -/
structure Assigned where
  documentId : UUID
  numbering : Numbering
  key : CounterKey
  seq : Nat

def Assigned.number (e : Assigned) : String := e.numbering.render e.key.fiscalYear e.seq

/-- What is committed, who holds which counter, and the numberings in the order of their commits. -/
structure SeriesStore where
  db : Db
  locks : Locks CounterKey := fun _ => none
  assigned : List Assigned := []

/-- A row without a number. -/
def BillingDocument.unnumbered (row : BillingDocument) (id : UUID) : BillingDocument :=
  { row with id, invoiceNumber := none }

def BillingDocument.withNumber (row : BillingDocument) (number : String) (id : UUID) :
    BillingDocument :=
  { row with id, invoiceNumber := some number }

def Numbered.documentId (t : Numbered) (db : Db) : UUID :=
  if t.isNew then db.billingDocuments.freshKey else t.document.id

def Numbered.writeNumber (t : Numbered) (number : String) (documents : Table BillingDocument) :
    Table BillingDocument :=
  if t.isNew then documents.insert (t.document.withNumber number)
  else documents.modify t.document.id ({ · with invoiceNumber := some number })

/-- What a transaction writes when it commits: its counter and its document. -/
def Numbered.publish (t : Numbered) (n : Numbering) (seq : Nat) (db : Db) : Db :=
  { setCounter (t.key n) seq (Rotas.ensureCounter (t.key n) db) with
    billingDocuments := t.writeNumber (n.render t.year seq) db.billingDocuments }

/-- The store after a transaction ended without effect. -/
def SeriesStore.abort (s : SeriesStore) (i : Nat) : SeriesStore :=
  { s with locks := s.locks.release i }

def SeriesStore.publish (s : SeriesStore) (i : Nat) (t : Numbered) (n : Numbering) (seq : Nat) :
    SeriesStore where
  db := t.publish n seq s.db
  locks := s.locks.release i
  assigned := s.assigned ++ [⟨t.documentId s.db, n, t.key n, seq⟩]

/-- The turn of transaction `i`; `none` when it waits for a lock or the step is not its next. -/
def turn (i : Nat) (a : Action) (s : SeriesStore) (p : Phase) : Option (SeriesStore × Phase) :=
  match a, p with
  | .changeProfiles documentProfiles, .idle =>
    some ({ s with db := { s.db with documentProfiles } }, .idle)
  | .addDocument row, .idle =>
    some ({ s with db := { s.db with
      billingDocuments := s.db.billingDocuments.insert row.unnumbered } }, .idle)
  | .load tenantId documentId, .idle =>
    match requireDocument tenantId documentId s.db documentNotFound with
    | .error _ => none
    | .ok document =>
      -- a document that has a number keeps it, and there is nothing to number
      if (truthy document.invoiceNumber).isSome then none
      else some (s, .loaded ⟨tenantId, document, false⟩)
  | .create tenantId row, .idle =>
    some (s, .loaded ⟨tenantId, { row with tenantId, invoiceNumber := none }, true⟩)
  | .readProfile, .loaded t =>
    some (s, .profiled t (Numbering.ofProfile (documentProfile t.tenantId s.db)))
  | .ensureCounter, .profiled t n =>
    -- `ON CONFLICT DO NOTHING` waits for a row that another transaction is inserting
    if (s.db.counter (t.key n)).isSome then some (s, .ensured t n)
    else if s.locks.available i (t.key n) then
      some ({ s with locks := s.locks.take i (t.key n) }, .ensured t n)
    else none
  | .lockCounter, .ensured t n =>
    if s.locks.available i (t.key n) then
      some ({ s with locks := s.locks.take i (t.key n) },
        .numbered t n (s.db.lastNumber (t.key n) + 1))
    else none
  | .commit, .numbered t n seq =>
    if (t.publish n seq s.db).ok then some (s.publish i t n seq, .idle)
    else some (s.abort i, .idle)
  | .rollback, _ => some (s.abort i, .idle)
  | _, _ => none

/-! ## What a turn can do -/

/-- A turn that commits no number. -/
structure QuietTurn (i : Nat) (s : SeriesStore) (p : Phase) (s' : SeriesStore) (p' : Phase) :
    Prop where
  assigned : s'.assigned = s.assigned
  counters : s'.db.fiscalCounters = s.db.fiscalCounters
  documents : s'.db.billingDocuments = s.db.billingDocuments ∨
    ∃ mk hk, s'.db.billingDocuments = s.db.billingDocuments.insert mk hk ∧
      ∀ id, (mk id).invoiceNumber = none
  locks : ∀ {key j}, j ≠ i → s.locks key = some j → s'.locks key = some j
  phase : ∀ {t n seq}, p' = .numbered t n seq →
    s'.locks (t.key n) = some i ∧ seq = s.db.lastNumber (t.key n) + 1
  loaded : ∀ {t}, p'.transaction = some t → p.transaction = some t ∨ t.isNew = true ∨
    (s.db.billingDocuments.get t.document.id).isSome

section Turn

variable {i : Nat} {a : Action} {s s' : SeriesStore} {p p' : Phase}

theorem QuietTurn.of_eq (h : ∀ t n seq, p' ≠ .numbered t n seq)
    (hload : ∀ {t}, p'.transaction = some t → p.transaction = some t ∨ t.isNew = true ∨
      (s.db.billingDocuments.get t.document.id).isSome) : QuietTurn i s p s p' where
  assigned := rfl
  counters := rfl
  documents := .inl rfl
  locks _ hl := hl
  phase hp := (h _ _ _ hp).elim
  loaded := hload

theorem QuietTurn.abort : QuietTurn i s p (s.abort i) .idle where
  assigned := rfl
  counters := rfl
  documents := .inl rfl
  locks hj hl := Locks.release_of_ne hl hj
  phase hp := nomatch hp
  loaded hp := nomatch hp

theorem QuietTurn.take {key : CounterKey} (ha : s.locks.available i key = true)
    (hphase : ∀ {t n seq}, p' = .numbered t n seq →
      t.key n = key ∧ seq = s.db.lastNumber (t.key n) + 1)
    (hload : p'.transaction = p.transaction) :
    QuietTurn i s p { s with locks := s.locks.take i key } p' where
  assigned := rfl
  counters := rfl
  documents := .inl rfl
  locks hj hl := Locks.take_of_ne hl hj ha
  phase hp := by
    obtain ⟨hkey, hseq⟩ := hphase hp
    exact ⟨by rw [hkey]; exact Locks.take_self, hseq⟩
  loaded hp := .inl (hload ▸ hp)

theorem turn_cases (h : turn i a s p = some (s', p')) :
    QuietTurn i s p s' p' ∨ ∃ t n seq, a = .commit ∧ p = .numbered t n seq ∧ p' = .idle ∧
      (t.publish n seq s.db).ok = true ∧ s' = s.publish i t n seq := by
  cases a with
  | changeProfiles documentProfiles =>
    cases p <;> cases h
    exact .inl ⟨rfl, rfl, .inl rfl, fun _ hl => hl, (fun hp => nomatch hp), fun hp => nomatch hp⟩
  | addDocument row =>
    cases p <;> cases h
    exact .inl ⟨rfl, rfl, .inr ⟨row.unnumbered, fun _ => rfl, rfl, fun _ => rfl⟩,
      fun _ hl => hl, (fun hp => nomatch hp), fun hp => nomatch hp⟩
  | load tenantId documentId =>
    cases p with
    | idle =>
      simp only [turn] at h
      split at h
      · cases h
      · next document hdoc =>
        split at h
        · cases h
        · cases h
          refine .inl (.of_eq (fun _ _ _ hp => nomatch hp) fun hp => ?_)
          cases hp
          have hget := (requireDocument_eq_ok.mp hdoc).1
          have hid : document.id = documentId := Table.key_of_get hget
          exact .inr (.inr (by rw [hid, hget]; rfl))
    | _ => cases h
  | create tenantId row =>
    cases p <;> cases h
    refine .inl (.of_eq (fun _ _ _ hp => nomatch hp) fun hp => ?_)
    cases hp
    exact .inr (.inl rfl)
  | readProfile =>
    cases p <;> cases h
    exact .inl (.of_eq (fun _ _ _ hp => nomatch hp) .inl)
  | ensureCounter =>
    cases p with
    | profiled t n =>
      simp only [turn] at h
      split at h
      · cases h; exact .inl (.of_eq (fun _ _ _ hp => nomatch hp) .inl)
      · split at h
        · next ha => cases h; exact .inl (.take ha (fun hp => nomatch hp) rfl)
        · cases h
    | _ => cases h
  | lockCounter =>
    cases p with
    | ensured t n =>
      simp only [turn] at h
      split at h
      · next ha =>
        cases h
        refine .inl (.take ha (fun hp => ?_) rfl)
        cases hp
        exact ⟨rfl, rfl⟩
      · cases h
    | _ => cases h
  | commit =>
    cases p with
    | numbered t n seq =>
      simp only [turn] at h
      split at h
      · next hok =>
        cases h
        exact .inr ⟨t, n, seq, rfl, rfl, rfl, hok, rfl⟩
      · cases h; exact .inl .abort
    | _ => cases h
  | rollback =>
    cases h
    exact .inl .abort

end Turn

/-! ## What a commit writes -/

section Publish

variable {t : Numbered} {n : Numbering} {seq : Nat} {db : Db}

theorem publish_lastNumber (key : CounterKey) :
    (t.publish n seq db).lastNumber key = if key = t.key n then seq else db.lastNumber key :=
  lastNumber_setCounter

/-- The document of the transaction has the number, the others are the ones before. -/
theorem mem_writeNumber {number : String} {d : BillingDocument}
    (h : d ∈ t.writeNumber number db.billingDocuments) :
    d ∈ db.billingDocuments ∧ d.id ≠ t.documentId db ∨
      d.id = t.documentId db ∧ d.invoiceNumber = some number := by
  unfold Numbered.writeNumber at h
  unfold Numbered.documentId
  split at h
  · next hnew =>
    rw [if_pos hnew]
    rcases (Table.mem_insert _ _ fun _ => rfl).mp h with hd | rfl
    · exact .inl ⟨hd, Nat.ne_of_lt (Table.key_lt_freshKey hd)⟩
    · exact .inr ⟨rfl, rfl⟩
  · next hnew =>
    rw [if_neg hnew]
    rcases Table.mem_modify_cases h with ⟨d₀, _, hid, rfl⟩ | ⟨hd, hid⟩
    · exact .inr ⟨hid, rfl⟩
    · exact .inl ⟨hd, hid⟩

end Publish

/-! ## Every interleaving -/

/-- Each series was given out from one on, one by one, and every number on a document is one of
those that were. -/
structure Sequenced (s : SeriesStore) : Prop where
  series : ∀ key, (s.assigned.filter (·.key = key)).map (·.seq) =
    List.range' 1 (s.db.lastNumber key)
  recorded : ∀ d ∈ s.db.billingDocuments, ∀ number, truthy d.invoiceNumber = some number →
    ∃ e ∈ s.assigned, e.documentId = d.id ∧ e.number = number

/-- Who is about to commit a number holds its counter, and the number is the next one. -/
def Prepared (i : Nat) (s : SeriesStore) (p : Phase) : Prop :=
  ∀ t n seq, p = .numbered t n seq →
    s.locks (t.key n) = some i ∧ seq = s.db.lastNumber (t.key n) + 1

section Invariant

variable {i : Nat} {a : Action} {s s' : SeriesStore} {p p' : Phase}

theorem QuietTurn.lastNumber (h : QuietTurn i s p s' p') (key : CounterKey) :
    s'.db.lastNumber key = s.db.lastNumber key := by
  simp only [Db.lastNumber, Db.counter, h.counters]

theorem QuietTurn.sequenced (h : QuietTurn i s p s' p') (hs : Sequenced s) : Sequenced s' where
  series key := by rw [h.assigned, h.lastNumber, hs.series]
  recorded d hd number hnumber := by
    rw [h.assigned]
    rcases h.documents with hdocs | ⟨mk, hk, hdocs, hmk⟩
    · exact hs.recorded d (hdocs ▸ hd) number hnumber
    · rw [hdocs] at hd
      rcases (Table.mem_insert _ _ hk).mp hd with hd | rfl
      · exact hs.recorded d hd number hnumber
      · rw [hmk] at hnumber
        cases hnumber

theorem publish_sequenced {t : Numbered} {n : Numbering} {seq : Nat} (hs : Sequenced s)
    (hseq : seq = s.db.lastNumber (t.key n) + 1) : Sequenced (s.publish i t n seq) where
  series key := by
    simp only [SeriesStore.publish, publish_lastNumber, List.filter_append, List.map_append,
      hs.series]
    by_cases hkey : t.key n = key
    · subst hkey
      simp only [decide_true, List.filter_cons_of_pos, List.filter_nil, List.map_cons, List.map_nil,
        if_true, hseq, List.range'_1_concat, Nat.add_comm 1]
    · simp [hkey, Ne.symm hkey]
  recorded d hd number hnumber := by
    simp only [SeriesStore.publish, List.mem_append, List.mem_singleton]
    rcases mem_writeNumber hd with ⟨hd, _⟩ | ⟨hid, hnum⟩
    · obtain ⟨e, he, hed⟩ := hs.recorded d hd number hnumber
      exact ⟨e, .inl he, hed⟩
    · rw [hnum, truthy, Option.filter_eq_some_iff] at hnumber
      exact ⟨_, .inr rfl, hid.symm, Option.some.inj hnumber.1⟩

theorem turn_own (hs : Sequenced s) (hp : Prepared i s p) (h : turn i a s p = some (s', p')) :
    Sequenced s' ∧ Prepared i s' p' := by
  rcases turn_cases h with hq | ⟨t, n, seq, rfl, rfl, rfl, _, rfl⟩
  · refine ⟨hq.sequenced hs, fun t n seq heq => ?_⟩
    rw [hq.lastNumber]
    exact hq.phase heq
  · exact ⟨publish_sequenced hs (hp t n seq rfl).2, fun _ _ _ heq => nomatch heq⟩

/-- Nobody takes the counter, or moves the series, of another transaction that holds it. -/
theorem turn_others (hp : Prepared i s p) (h : turn i a s p = some (s', p')) {j : Nat}
    (hj : j ≠ i) {q : Phase} (hq : Prepared j s q) : Prepared j s' q := by
  intro t n seq heq
  obtain ⟨hlock, hseq⟩ := hq t n seq heq
  rcases turn_cases h with hquiet | ⟨t', n', seq', rfl, rfl, rfl, _, rfl⟩
  · exact ⟨hquiet.locks hj hlock, by rw [hquiet.lastNumber, hseq]⟩
  · obtain ⟨hlock', _⟩ := hp t' n' seq' rfl
    have hne : t.key n ≠ t'.key n' := by
      intro hkey
      rw [hkey, hlock'] at hlock
      exact hj (Option.some.inj hlock).symm
    refine ⟨Locks.release_of_ne hlock hj, ?_⟩
    simp only [SeriesStore.publish, publish_lastNumber, if_neg hne, hseq]

/-- No document has a number, no series was begun, and no transaction is under way. -/
structure Unnumbered (c : Config SeriesStore Phase) : Prop where
  assigned : c.store.assigned = []
  counters : ∀ r ∈ c.store.db.fiscalCounters, r.lastNumber = 0
  documents : ∀ d ∈ c.store.db.billingDocuments, truthy d.invoiceNumber = none
  parties : ∀ i, c.parties i = .idle

theorem Unnumbered.holds {c : Config SeriesStore Phase} (h : Unnumbered c) :
    Holds Sequenced Prepared c where
  store := by
    constructor
    · intro key
      have hzero : c.store.db.lastNumber key = 0 := by
        unfold Db.lastNumber Db.counter
        cases hc : c.store.db.fiscalCounters.rows.find? fun r => decide (r.counterKey = key) with
        | none => rfl
        | some r => exact h.counters r (List.mem_of_find?_eq_some hc)
      rw [h.assigned, hzero]
      rfl
    · intro d hd number hnumber
      rw [h.documents d hd] at hnumber
      cases hnumber
  party i := by
    intro t n seq heq
    rw [h.parties i] at heq
    cases heq

/-- Every interleaving of any number of transactions keeps the series in sequence. -/
theorem sequenced_run {c : Config SeriesStore Phase} {ms : List (Nat × Action)}
    (h : Unnumbered c) : Sequenced (Run.exec (move turn) c ms).store := by
  have hrun : Holds Sequenced Prepared (Run.exec (move turn) c ms) :=
    holds_run_all (G := Sequenced) (P := Prepared)
      (fun hI ht => turn_own hI.store (hI.party _) ht)
      (fun hI ht j hj => turn_others (hI.party _) ht hj (hI.party j)) h.holds
  exact hrun.store

end Invariant

end Rotas
