import Rotas.Billing.Series

/-!
# Rotas.Billing.Fiscal

What the fiscal numbers promise in every interleaving of numbering transactions.

* `SharedAcrossSeries` — documents share a number only when two series of one year and prefix gave
  it out; `shared_across_series` holds of every run.
* `GapFree`   — the numbers that documents hold of a series are one to its last number.
* `gap_free`  — so it is in every run in which no transaction commits a number onto a document
  that got one since it was loaded.
* `types_share_number`, `renumbering_leaves_gap` — the two ways to lose them.
-/

namespace Rotas

open Interleave

/-! ## Equal numbers -/

/-- Every number of a document was given out by a series, and two documents of one tenant have
equal numbers only when different series gave them out, for one year, under one prefix and at one
place. -/
structure SharedAcrossSeries (s : SeriesStore) : Prop where
  recorded : ∀ d ∈ s.db.billingDocuments, ∀ number, truthy d.invoiceNumber = some number →
    ∃ e ∈ s.assigned, e.documentId = d.id ∧ e.number = number
  across : ∀ e ∈ s.assigned, ∀ e' ∈ s.assigned, e.documentId ≠ e'.documentId →
    e.key.tenantId = e'.key.tenantId → e.number = e'.number →
    e.key.docType ≠ e'.key.docType ∧ e.key.fiscalYear = e'.key.fiscalYear ∧
      e.numbering.invoicePrefix = e'.numbering.invoicePrefix ∧ e.seq = e'.seq

theorem CounterKey.ext_iff' {k k' : CounterKey} :
    k = k' ↔ k.tenantId = k'.tenantId ∧ k.fiscalYear = k'.fiscalYear ∧ k.docType = k'.docType := by
  cases k; cases k'; simp

section Shared

variable {s : SeriesStore}

theorem Sequenced.inj (hs : Sequenced s) {e e' : Assigned} (he : e ∈ s.assigned)
    (he' : e' ∈ s.assigned) (hkey : e.key = e'.key) (hseq : e.seq = e'.seq) : e = e' := by
  have hnodup : ((s.assigned.filter (·.key = e.key)).map (·.seq)).Nodup := by
    rw [hs.series]
    exact List.nodup_range'
  refine List.inj_on_of_nodup_map hnodup ?_ ?_ hseq
  · exact List.mem_filter.mpr ⟨he, by simp⟩
  · exact List.mem_filter.mpr ⟨he', by simp [hkey]⟩

theorem Sequenced.shared (hs : Sequenced s) : SharedAcrossSeries s where
  recorded := hs.recorded
  across e he e' he' hne htenant hnumber := by
    obtain ⟨hstem, hyear, hseq⟩ := render_injective hnumber
    refine ⟨fun htype => hne ?_, hyear, hstem, hseq⟩
    have hkey : e.key = e'.key := CounterKey.ext_iff'.mpr ⟨htenant, hyear, htype⟩
    rw [hs.inj he he' hkey hseq]

/-- In every interleaving of numbering transactions and changes of the profiles, two documents
share a number only across two series. -/
theorem shared_across_series {c : Config SeriesStore Phase} {ms : List (Nat × Action)}
    (h : Unnumbered c) : SharedAcrossSeries (Run.exec (move turn) c ms).store :=
  (sequenced_run h).shared

end Shared

/-- No two documents of a tenant have one number. -/
def UniqueNumbers (s : SeriesStore) : Prop :=
  ∀ d ∈ s.db.billingDocuments, ∀ d' ∈ s.db.billingDocuments, d.tenantId = d'.tenantId →
    d.invoiceNumber.isSome → d.invoiceNumber = d'.invoiceNumber → d.id = d'.id

instance (s : SeriesStore) : Decidable (UniqueNumbers s) :=
  inferInstanceAs (Decidable (∀ d ∈ s.db.billingDocuments, ∀ d' ∈ s.db.billingDocuments, _))

/-- A document of 2026 that waits for its number. -/
def draftOf (documentType : DocType) (id : UUID) : BillingDocument where
  id
  tenantId := 1
  clientName := "Cliente"
  billingPeriodStart := 1767225600
  billingPeriodEnd := 1769904000
  documentType

/-- An invoice and a credit note, no series begun and no transaction under way. -/
def numberingStart (perTypeSequences : Bool) : Config SeriesStore Phase where
  store.db.documentProfiles := .single { id := 1, tenantId := 1, perTypeSequences }
  store.db.billingDocuments := (Table.single (draftOf .invoice 1)).insert (draftOf .creditNote)
  parties _ := .idle

theorem unnumbered_start (perTypeSequences : Bool) :
    Unnumbered (numberingStart perTypeSequences) where
  assigned := rfl
  counters _ hr := nomatch hr
  documents := by cases perTypeSequences <;> decide
  parties _ := rfl

/-- The turns of transaction `i` from loading its document to the commit. -/
def numberingOf (i : Nat) (documentId : UUID) : List (Nat × Action) :=
  [.load 1 documentId, .readProfile, .ensureCounter, .lockCounter, .commit].map (i, ·)

theorem shared_across_series_once :
    SharedAcrossSeries (Run.exec (move turn) (numberingStart false)
      (numberingOf 0 1 ++ numberingOf 1 2)).store :=
  shared_across_series (unnumbered_start false)

/-- With a series for each type, the first invoice and the first credit note of a year get one
number. -/
theorem types_share_number :
    Unnumbered (numberingStart true) ∧ ¬ UniqueNumbers (Run.exec (move turn) (numberingStart true)
      (numberingOf 0 1 ++ numberingOf 1 2)).store :=
  ⟨unnumbered_start true, by decide +kernel⟩

/-! ## Gaps -/

/-- The numberings that still stand on their documents: the last one of each. -/
def held : List Assigned → List Assigned
  | [] => []
  | e :: es => if es.any (·.documentId = e.documentId) then held es else e :: held es

structure GapFree (s : SeriesStore) : Prop where
  /-- The held numberings are those of the documents. -/
  documents : ∀ e ∈ held s.assigned,
    (s.db.billingDocuments.get e.documentId).any (·.invoiceNumber = some e.number)
  recorded : ∀ d ∈ s.db.billingDocuments, ∀ number, truthy d.invoiceNumber = some number →
    ∃ e ∈ held s.assigned, e.documentId = d.id ∧ e.number = number
  exact : ∀ key, (((held s.assigned).filter (·.key = key)).map (·.seq)).Perm
    (List.range' 1 (s.db.lastNumber key))

/-- The transaction does not commit a number onto a document that has got one since. -/
def NumbersOnce (c : Config SeriesStore Phase) (m : Nat × Action) : Prop :=
  match m.2, c.parties m.1 with
  | .commit, .numbered t _ _ => t.isNew = true ∨
      (c.store.db.billingDocuments.get t.document.id).all (fun d => truthy d.invoiceNumber = none)
  | _, _ => True

instance (c : Config SeriesStore Phase) (m : Nat × Action) : Decidable (NumbersOnce c m) := by
  unfold NumbersOnce
  split <;> infer_instance

theorem held_of_nodup : ∀ {es : List Assigned}, (es.map (·.documentId)).Nodup → held es = es := by
  intro es
  induction es with
  | nil => intro _; rfl
  | cons e es ih =>
    intro h
    rw [List.map_cons, List.nodup_cons] at h
    have hnone : es.any (·.documentId = e.documentId) = false := by
      rw [List.any_eq_false]
      intro e' he' heq
      exact h.1 (List.mem_map.mpr ⟨e', he', of_decide_eq_true heq⟩)
    rw [held, hnone, ih h.2]
    rfl

/-- Each document was numbered once, and has the number it was given. -/
structure Carried (s : SeriesStore) : Prop where
  distinct : (s.assigned.map (·.documentId)).Nodup
  carried : ∀ e ∈ s.assigned, ∃ d, s.db.billingDocuments.get e.documentId = some d ∧
    d.invoiceNumber = some e.number

/-- The document of a transaction under way is there, unless the transaction makes it. -/
def Loaded (s : SeriesStore) (p : Phase) : Prop :=
  ∀ t, p.transaction = some t → t.isNew = true ∨
    (s.db.billingDocuments.get t.document.id).isSome

theorem Sequenced.gapFree {s : SeriesStore} (hs : Sequenced s) (hc : Carried s) : GapFree s := by
  have hheld := held_of_nodup hc.distinct
  constructor
  · intro e he
    rw [hheld] at he
    obtain ⟨d, hd, hnum⟩ := hc.carried e he
    rw [hd, Option.any_some, hnum, decide_eq_true_eq]
  · rw [hheld]
    exact hs.recorded
  · intro key
    rw [hheld, hs.series]

/-! ## A document numbered once keeps its number -/

section Carried

variable {i : Nat} {a : Action} {s s' : SeriesStore} {p p' : Phase}

/-- Documents are neither deleted nor changed by a turn that commits no number. -/
theorem QuietTurn.get_keeps (h : QuietTurn i s p s' p') {id : UUID} {d : BillingDocument}
    (hd : s.db.billingDocuments.get id = some d) : s'.db.billingDocuments.get id = some d := by
  rcases h.documents with hdocs | ⟨mk, hk, hdocs, _⟩
  · rw [hdocs, hd]
  · rw [hdocs, Table.get_insert, if_neg, hd]
    rintro rfl
    rw [Table.get_freshKey] at hd
    cases hd

theorem QuietTurn.carried (h : QuietTurn i s p s' p') (hs : Carried s) : Carried s' where
  distinct := h.assigned ▸ hs.distinct
  carried e he := by
    obtain ⟨d, hd, hnum⟩ := hs.carried e (h.assigned ▸ he)
    exact ⟨d, h.get_keeps hd, hnum⟩

theorem Loaded.keeps (h : ∀ id, (s.db.billingDocuments.get id).isSome →
    (s'.db.billingDocuments.get id).isSome) (hp : Loaded s p) : Loaded s' p :=
  fun t ht => (hp t ht).imp_right (h _)

theorem QuietTurn.isSome_keeps (h : QuietTurn i s p s' p') (id : UUID)
    (hd : (s.db.billingDocuments.get id).isSome) : (s'.db.billingDocuments.get id).isSome := by
  obtain ⟨d, hd⟩ := Option.isSome_iff_exists.mp hd
  rw [h.get_keeps hd]
  rfl

variable {t : Numbered} {n : Numbering} {seq : Nat}

theorem get_writeNumber_ne {number : String} {db : Db} {id : UUID} (h : id ≠ t.documentId db) :
    (t.writeNumber number db.billingDocuments).get id = db.billingDocuments.get id := by
  unfold Numbered.writeNumber
  unfold Numbered.documentId at h
  split
  · next hnew =>
    rw [if_pos hnew] at h
    rw [Table.get_insert, if_neg h]
  · next hnew =>
    rw [if_neg hnew] at h
    exact Table.get_modify_ne h

theorem get_writeNumber_self {number : String} {db : Db}
    (h : t.isNew = true ∨ (db.billingDocuments.get t.document.id).isSome) :
    ∃ d, (t.writeNumber number db.billingDocuments).get (t.documentId db) = some d ∧
      d.invoiceNumber = some number := by
  unfold Numbered.writeNumber Numbered.documentId
  split
  · exact ⟨_, by rw [Table.get_insert, if_pos rfl], rfl⟩
  · next hnew =>
    obtain ⟨d, hd⟩ := Option.isSome_iff_exists.mp (h.resolve_left hnew)
    exact ⟨_, Table.get_modify_self hd, rfl⟩

/-- The document that a transaction may number has no numbering yet. -/
theorem Carried.fresh (hs : Carried s)
    (h : t.isNew = true ∨ (s.db.billingDocuments.get t.document.id).all
      (fun d => truthy d.invoiceNumber = none)) :
    ∀ e ∈ s.assigned, e.documentId ≠ t.documentId s.db := by
  intro e he heq
  obtain ⟨d, hd, hnum⟩ := hs.carried e he
  rw [heq, Numbered.documentId] at hd
  split at hd
  · rw [Table.get_freshKey] at hd
    cases hd
  · next hnew =>
    have hnone := h.resolve_left hnew
    rw [hd, Option.all_some, decide_eq_true_eq, hnum, Assigned.number, truthy_render] at hnone
    cases hnone

theorem publish_carried (hs : Carried s)
    (hloaded : t.isNew = true ∨ (s.db.billingDocuments.get t.document.id).isSome)
    (honce : t.isNew = true ∨ (s.db.billingDocuments.get t.document.id).all
      (fun d => truthy d.invoiceNumber = none)) : Carried (s.publish i t n seq) where
  distinct := by
    simp only [SeriesStore.publish, List.map_append, List.map_cons, List.map_nil]
    rw [List.nodup_append]
    refine ⟨hs.distinct, List.nodup_singleton _, ?_⟩
    intro id hid id' hid' heq
    obtain ⟨e, he, rfl⟩ := List.mem_map.mp hid
    rw [List.mem_singleton.mp hid'] at heq
    exact hs.fresh honce e he heq
  carried e he := by
    simp only [SeriesStore.publish, List.mem_append, List.mem_singleton] at he
    rcases he with he | rfl
    · obtain ⟨d, hd, hnum⟩ := hs.carried e he
      exact ⟨d, (get_writeNumber_ne (hs.fresh honce e he)).trans hd, hnum⟩
    · exact get_writeNumber_self hloaded

theorem publish_isSome (id : UUID) (hd : (s.db.billingDocuments.get id).isSome)
    (hloaded : t.isNew = true ∨ (s.db.billingDocuments.get t.document.id).isSome) :
    ((s.publish i t n seq).db.billingDocuments.get id).isSome := by
  by_cases hid : id = t.documentId s.db
  · obtain ⟨d, hd, _⟩ : ∃ d, (t.writeNumber (n.render t.year seq) s.db.billingDocuments).get
        (t.documentId s.db) = some d ∧ d.invoiceNumber = some (n.render t.year seq) :=
      get_writeNumber_self hloaded
    rw [hid]
    exact Option.isSome_iff_exists.mpr ⟨d, hd⟩
  · exact (congrArg Option.isSome (get_writeNumber_ne hid)).trans hd

end Carried

/-! ## Every interleaving in which documents are numbered once -/

section GapFree

variable {c : Config SeriesStore Phase}

/-- What the database and every transaction keep as long as documents are numbered once. -/
abbrev Kept (c : Config SeriesStore Phase) : Prop :=
  Holds (fun s => Sequenced s ∧ Carried s) (fun i s p => Prepared i s p ∧ Loaded s p) c

theorem kept_own {i : Nat} {a : Action} {s : SeriesStore} {p : Phase} (hI : Kept c)
    (hC : NumbersOnce c (i, a)) (h : turn i a c.store (c.parties i) = some (s, p)) :
    (Sequenced s ∧ Carried s) ∧ Prepared i s p ∧ Loaded s p := by
  obtain ⟨hseq, hcarried⟩ := hI.store
  obtain ⟨hprep, hload⟩ := hI.party i
  obtain ⟨hs, hp⟩ := turn_own hseq hprep h
  rcases turn_cases h with hquiet | ⟨t, n, seq, rfl, hphase, rfl, _, rfl⟩
  · refine ⟨⟨hs, hquiet.carried hcarried⟩, hp, fun t ht => ?_⟩
    rcases hquiet.loaded ht with ht | hnew | hget
    · exact (hload t ht).imp_right (hquiet.isSome_keeps _)
    · exact .inl hnew
    · exact .inr (hquiet.isSome_keeps _ hget)
  · rw [hphase] at hload
    simp only [NumbersOnce, hphase] at hC
    exact ⟨⟨hs, publish_carried hcarried (hload t rfl) hC⟩, hp, fun _ ht => nomatch ht⟩

theorem kept_others {i : Nat} {a : Action} {s : SeriesStore} {p : Phase} (hI : Kept c)
    (h : turn i a c.store (c.parties i) = some (s, p)) (j : Nat) (hj : j ≠ i) :
    Prepared j s (c.parties j) ∧ Loaded s (c.parties j) := by
  refine ⟨turn_others (hI.party i).1 h hj (hI.party j).1, (hI.party j).2.keeps ?_⟩
  intro id hget
  rcases turn_cases h with hquiet | ⟨t, n, seq, rfl, hphase, rfl, _, rfl⟩
  · exact hquiet.isSome_keeps id hget
  · exact publish_isSome id hget ((hI.party i).2 t (by rw [hphase]; rfl))

theorem Unnumbered.kept (h : Unnumbered c) : Kept c where
  store := by
    refine ⟨h.holds.store, ?_, ?_⟩
    · rw [h.assigned]; exact List.nodup_nil
    · rw [h.assigned]; exact fun _ he => nomatch he
  party i := by
    refine ⟨h.holds.party i, fun t ht => ?_⟩
    rw [h.parties i] at ht
    cases ht

/-- In every interleaving in which no transaction numbers a document that got a number since it
was loaded, the documents hold the numbers of every series from one to its last, each once. -/
theorem gap_free {ms : List (Nat × Action)} (h : Unnumbered c)
    (honce : Run.Along (move turn) NumbersOnce c ms) :
    GapFree (Run.exec (move turn) c ms).store := by
  have hrun : Kept (Run.exec (move turn) c ms) := holds_run kept_own
    (fun hI _ ht j hj => kept_others hI ht j hj) h.kept honce
  exact hrun.store.1.gapFree hrun.store.2

/-- One transaction waits for another one that inserts the counter and rolls back. -/
def racingStart : List (Nat × Action) :=
  [(0, .load 1 1), (0, .readProfile), (0, .ensureCounter), (1, .load 1 2), (1, .readProfile),
    (1, .ensureCounter), (0, .lockCounter), (0, .rollback), (1, .ensureCounter), (1, .lockCounter),
    (1, .commit)] ++ numberingOf 0 1

theorem gap_free_once :
    GapFree (Run.exec (move turn) (numberingStart false) racingStart).store :=
  gap_free (unnumbered_start false) (by decide +kernel)

/-- Two transactions that load one invoice before either commits: both number it, and the first
number is on no document. -/
theorem renumbering_leaves_gap :
    Unnumbered (numberingStart false) ∧ ¬ GapFree (Run.exec (move turn) (numberingStart false)
      ((1, .load 1 1) :: numberingOf 0 1 ++
        [.readProfile, .ensureCounter, .lockCounter, .commit].map (1, ·))).store := by
  refine ⟨unnumbered_start false, fun h => ?_⟩
  have hlength := (h.exact ⟨1, 2026, ""⟩).length_eq
  revert hlength
  decide +kernel

end GapFree

end Rotas
