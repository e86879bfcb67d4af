import Rotas.Alerts.DocumentExpiry

/-!
# Rotas.Alerts.Scans

What a scan for expiring documents finds, and the alerts it asks for.

* `Raised`    — the scan asks for an alert for the document.
* `Once`      — the document stands once in the list that is scanned.
* `Once.raised_near_iff` — the alerts of a document follow a date, if it is the date that is read and
  the scan comes as far.
-/

namespace Rotas

/-- An alert for the document is among them. -/
def Raised (asked : List (HeldDocument × AlertCreate)) (holderId : UUID) (docType : String) : Prop :=
  ∃ x ∈ asked, x.1.holderId = holderId ∧ x.1.docType = docType

section Scan

variable {read : Json → Except Exc (Option Int)} {today : Int} {docs before after : List HeldDocument}
  {doc : HeldDocument}

/-- The scan comes as far as the end of the list. -/
def Readable (read : Json → Except Exc (Option Int)) (docs : List HeldDocument) : Prop :=
  ∀ doc ∈ docs, (read doc.data).isOk = true

theorem scanExpiry_append (before after : List HeldDocument) (today : Int)
    (h : Readable read before) :
    scanExpiry read today (before ++ after) =
      scanExpiry read today before ++ scanExpiry read today after := by
  induction before with
  | nil => rfl
  | cons doc before ih =>
    have hrest := ih fun d hd => h d (List.mem_cons_of_mem _ hd)
    have hdoc := h doc List.mem_cons_self
    rw [List.cons_append, scanExpiry, scanExpiry]
    split
    · next hread =>
      rw [hread] at hdoc
      cases hdoc
    · exact hrest
    · split
      · rw [hrest, List.cons_append]
      · exact hrest

theorem scanExpiry_stuck (before after : List HeldDocument) (today : Int)
    (h : ¬ Readable read before) :
    scanExpiry read today (before ++ after) = scanExpiry read today before := by
  induction before with
  | nil => exact absurd (fun _ hd => nomatch hd) h
  | cons doc before ih =>
    rw [List.cons_append, scanExpiry, scanExpiry]
    split
    · rfl
    · next hread =>
      refine ih fun hrest => h (List.forall_mem_cons.mpr ⟨?_, hrest⟩)
      rw [hread]
      rfl
    · next hread =>
      rw [ih fun hrest => h (List.forall_mem_cons.mpr ⟨by rw [hread]; rfl, hrest⟩)]

theorem mem_of_mem_scanExpiry {x : HeldDocument × Int} (h : x ∈ scanExpiry read today docs) :
    x.1 ∈ docs := by
  induction docs with
  | nil => cases h
  | cons doc docs ih =>
    rw [scanExpiry] at h
    split at h
    · cases h
    · exact List.mem_cons_of_mem _ (ih h)
    · split at h
      · rcases List.mem_cons.mp h with rfl | h
        · exact List.mem_cons_self
        · exact List.mem_cons_of_mem _ (ih h)
      · exact List.mem_cons_of_mem _ (ih h)

/-- The documents that the scan has passed when it comes to one. -/
def scannedBefore (docs : List HeldDocument) (holderId : UUID) (docType : String) :
    List HeldDocument :=
  docs.takeWhile fun d => !(d.holderId = holderId && d.docType = docType)

/-- The document stands once in the list, between what comes before and after it. -/
structure Once (before : List HeldDocument) (doc : HeldDocument) (after : List HeldDocument) :
    Prop where
  before : ∀ d ∈ before, ¬ (d.holderId = doc.holderId ∧ d.docType = doc.docType)
  after : ∀ d ∈ after, ¬ (d.holderId = doc.holderId ∧ d.docType = doc.docType)

theorem Once.scannedBefore (h : Once before doc after) :
    scannedBefore (before ++ doc :: after) doc.holderId doc.docType = before := by
  have hpass : ∀ d ∈ before,
      (!(d.holderId = doc.holderId && d.docType = doc.docType : Bool)) = true := by
    intro d hd
    have hother := not_and_or.mp (h.before d hd)
    simpa using hother
  rw [Rotas.scannedBefore, List.takeWhile_append_of_pos hpass, List.takeWhile_cons_of_neg (by simp),
    List.append_nil]

/-- A document that stands once is found by the scan if it comes as far and its date is near. -/
theorem Once.mem_scanExpiry_iff (h : Once before doc after) {x : HeldDocument × Int} :
    (x ∈ scanExpiry read today (before ++ doc :: after) ∧ x.1.holderId = doc.holderId ∧
        x.1.docType = doc.docType) ↔
      Readable read before ∧ x.1 = doc ∧ read doc.data = .ok (some x.2) ∧ today ≤ x.2 ∧
        x.2 ≤ today + 30 := by
  by_cases hread : Readable read before
  · rw [scanExpiry_append before _ _ hread, List.mem_append, scanExpiry]
    constructor
    · rintro ⟨hbefore | hx, hmine⟩
      · exact absurd hmine (h.before _ (mem_of_mem_scanExpiry hbefore))
      · have hafter : x ∉ scanExpiry read today after := fun hx =>
          h.after _ (mem_of_mem_scanExpiry hx) hmine
        split at hx
        · cases hx
        · exact absurd hx hafter
        · next day hday =>
          split at hx
          · next hnear =>
            obtain rfl := (List.mem_cons.mp hx).resolve_right hafter
            exact ⟨hread, rfl, hday, hnear⟩
          · exact absurd hx hafter
    · rintro ⟨-, hdoc, hday, hnear⟩
      obtain ⟨d, day⟩ := x
      cases hdoc
      refine ⟨.inr ?_, rfl, rfl⟩
      rw [hday]
      simp only [if_pos hnear]
      exact List.mem_cons_self
  · rw [scanExpiry_stuck before _ _ hread]
    constructor
    · rintro ⟨hx, hmine⟩
      exact absurd hmine (h.before _ (mem_of_mem_scanExpiry hx))
    · rintro ⟨hread', -⟩
      exact absurd hread' hread

variable {alert : Int → HeldDocument → Int → AlertCreate}

theorem Once.raised_iff (h : Once before doc after) :
    Raised (askedAlerts read alert today (before ++ doc :: after)) doc.holderId doc.docType ↔
      Readable read before ∧ ∃ day, read doc.data = .ok (some day) ∧ today ≤ day ∧
        day ≤ today + 30 ∧ (alert today doc day).valid = true := by
  constructor
  · rintro ⟨y, hy, hmine⟩
    obtain ⟨hy, hvalid⟩ := List.mem_filter.mp hy
    obtain ⟨x, hx, rfl⟩ := List.mem_map.mp hy
    obtain ⟨hread, hdoc, hday, hsoon, hlate⟩ := h.mem_scanExpiry_iff.mp ⟨hx, hmine⟩
    obtain ⟨d, day⟩ := x
    cases hdoc
    exact ⟨hread, day, hday, hsoon, hlate, hvalid⟩
  · rintro ⟨hread, day, hday, hsoon, hlate, hvalid⟩
    obtain ⟨hx, hmine⟩ := h.mem_scanExpiry_iff.mpr
      ⟨hread, (rfl : ((doc, day) : HeldDocument × Int).1 = doc), hday, hsoon, hlate⟩
    exact ⟨_, List.mem_filter.mpr ⟨List.mem_map.mpr ⟨_, hx, rfl⟩, hvalid⟩, hmine⟩

theorem Once.raised_near_iff (h : Once before doc after) {day : Int} {fits : Bool}
    (hfits : ∀ today day, (alert today doc day).valid = fits) :
    (∀ today, Raised (askedAlerts read alert today (before ++ doc :: after)) doc.holderId doc.docType ↔
        today ≤ day ∧ day ≤ today + 30) ↔
      Readable read before ∧ read doc.data = .ok (some day) ∧ fits = true := by
  simp only [h.raised_iff, hfits]
  constructor
  · intro hall
    obtain ⟨hread, first, hfirst, hsoon, -, hvalid⟩ := (hall day).mpr ⟨le_rfl, by omega⟩
    obtain ⟨-, last, hlast, -, hlate, -⟩ := (hall (day - 30)).mpr ⟨by omega, by omega⟩
    cases hfirst.symm.trans hlast
    obtain rfl : first = day := by omega
    exact ⟨hread, hfirst, hvalid⟩
  · rintro ⟨hread, hday, hvalid⟩ today
    constructor
    · rintro ⟨-, day', hday', hsoon, hlate, -⟩
      cases hday.symm.trans hday'
      exact ⟨hsoon, hlate⟩
    · rintro ⟨hsoon, hlate⟩
      exact ⟨hread, day, hday, hsoon, hlate, hvalid⟩

end Scan

/-! ## The documents of one row -/

section Row

variable {documents : Payload} {documentType : String} {data : Json}

theorem split_of_get? (hnodup : (documents.map Prod.fst).Nodup)
    (h : Json.get? documents documentType = some data) :
    ∃ before after, documents = before ++ (documentType, data) :: after ∧
      documentType ∉ before.map Prod.fst ∧ documentType ∉ after.map Prod.fst := by
  obtain ⟨e, hfound, rfl⟩ := Option.map_eq_some_iff.mp h
  have hkey : e.1 = documentType := by simpa using List.find?_some hfound
  obtain ⟨before, after, rfl⟩ := List.append_of_mem (List.mem_of_find?_eq_some hfound)
  refine ⟨before, after, by rw [← hkey], ?_⟩
  rw [List.map_append, List.map_cons, hkey, List.nodup_append] at hnodup
  obtain ⟨-, hafter, hdisjoint⟩ := hnodup
  exact ⟨fun hmem => hdisjoint _ hmem _ List.mem_cons_self rfl, (List.nodup_cons.mp hafter).1⟩

end Row

/-- The documents of a row of a table stand between those of the others. -/
theorem flatMap_held {α : Type} (held : α → List HeldDocument) {id : α → UUID}
    (hheld : ∀ r, ∀ d ∈ held r, d.holderId = id r) {before after : List α} {r : α}
    (hothers : ∀ r' ∈ before ++ after, id r' ≠ id r) {docsBefore docsAfter : List HeldDocument}
    {doc : HeldDocument} (hr : held r = docsBefore ++ doc :: docsAfter)
    (htypes : ∀ d ∈ docsBefore ++ docsAfter, d.docType ≠ doc.docType) :
    (before ++ r :: after).flatMap held =
        (before.flatMap held ++ docsBefore) ++ doc :: (docsAfter ++ after.flatMap held) ∧
      Once (before.flatMap held ++ docsBefore) doc (docsAfter ++ after.flatMap held) := by
  have hid : doc.holderId = id r := hheld r doc (hr ▸ List.mem_append_right _ List.mem_cons_self)
  have hrows : ∀ r' ∈ before ++ after, ∀ d ∈ held r',
      ¬ (d.holderId = doc.holderId ∧ d.docType = doc.docType) := by
    intro r' hr' d hd hmine
    exact hothers r' hr' ((hheld r' d hd).symm.trans (hmine.1.trans hid))
  refine ⟨by simp [hr], fun d hd hmine => ?_, fun d hd hmine => ?_⟩
  · rcases List.mem_append.mp hd with hrow | hown
    · obtain ⟨r', hr', hd⟩ := List.mem_flatMap.mp hrow
      exact hrows r' (List.mem_append_left _ hr') d hd hmine
    · exact htypes d (List.mem_append_left _ hown) hmine.2
  · rcases List.mem_append.mp hd with hown | hrow
    · exact htypes d (List.mem_append_right _ hown) hmine.2
    · obtain ⟨r', hr', hd⟩ := List.mem_flatMap.mp hrow
      exact hrows r' (List.mem_append_right _ hr') d hd hmine

theorem raised_row_iff {α : Type} (held : α → List HeldDocument) {id : α → UUID}
    (hheld : ∀ r, ∀ d ∈ held r, d.holderId = id r) {before after : List α} {r : α}
    (hothers : ∀ r' ∈ before ++ after, id r' ≠ id r) {docsBefore docsAfter : List HeldDocument}
    {doc : HeldDocument} (hr : held r = docsBefore ++ doc :: docsAfter)
    (htypes : ∀ d ∈ docsBefore ++ docsAfter, d.docType ≠ doc.docType)
    {read : Json → Except Exc (Option Int)} {alert : Int → HeldDocument → Int → AlertCreate}
    {fits : Bool} (hfits : ∀ today day, (alert today doc day).valid = fits) {day : Int} :
    (∀ today, Raised (askedAlerts read alert today ((before ++ r :: after).flatMap held))
        (id r) doc.docType ↔ today ≤ day ∧ day ≤ today + 30) ↔
      Readable read (before.flatMap held ++ docsBefore) ∧ read doc.data = .ok (some day) ∧
        fits = true := by
  obtain ⟨hrows, honce⟩ := flatMap_held held hheld hothers hr htypes
  have hid : doc.holderId = id r := hheld r doc (hr ▸ List.mem_append_right _ List.mem_cons_self)
  rw [hrows, ← hid]
  exact honce.raised_near_iff hfits

end Rotas
