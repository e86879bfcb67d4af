import Rotas.Alerts.Scans

/-!
# Rotas.Alerts.RenewedDocuments

What the compliance check and the daily scan read of a document once it is renewed.

* `Renewal` — a renewal, of a vehicle or of a driver.
* `Renewal.Read` — the check goes by the new date, and the scan raises its alerts by it.
* `Renewal.Dated` — the object of the document has had the new date as its `expiry_date`, the scan
  comes as far as it, and the renewal is written or need not be.
* `renewal_read_iff` — these are the renewals that are read.
* `renewed_unseen` — a document that had no `expiry_date`.
-/

namespace Rotas

open DocumentText

/-! ## Renewals -/

inductive HolderKind where
  | vehicle | driver

structure Renewal where
  kind : HolderKind
  now : Instant
  tenantId : UUID
  holderId : UUID
  documentType : String
  payload : DocumentRenewalRequest

/-- The documents of every row are an object, which has each of its keys once. -/
structure Archive.Distinct (s : Archive) : Prop where
  vehicles : ∀ v ∈ s.vehicles, (v.documents.map Prod.fst).Nodup
  drivers : ∀ d ∈ s.drivers, (d.documents.map Prod.fst).Nodup

section

variable [DocumentText]

/-- The day is read back from its text. -/
structure ReadsBack (day : Int) : Prop where
  date : dateFromisoformat (isoformat day) = some day
  datetime : Interpreter.fromisoformat ((isoformat day).replace "Z" "+00:00") = some day

def Renewal.run (r : Renewal) (s : Archive) : Except Exc (UUID × Archive) :=
  match r.kind with
  | .vehicle => renewVehicleDocument r.now r.tenantId r.holderId r.documentType r.payload s
  | .driver => renewDriverDocument r.now r.tenantId r.holderId r.documentType r.payload s

/-- The date by which the compliance check evaluates the document. -/
def Renewal.checkedDate (r : Renewal) (s : Archive) : Option Int :=
  match r.kind with
  | .vehicle => (s.vehicles.get r.holderId).bind fun v =>
    documentValidUntil v.documents r.documentType
  | .driver => (s.drivers.get r.holderId).bind fun d => (d.candidates.lookup r.documentType).join

/-- The alerts that the scan of a day asks for. -/
def Renewal.alerts (r : Renewal) (s : Archive) (today : Int) : List (HeldDocument × AlertCreate) :=
  match r.kind with
  | .vehicle => vehicleAlerts today s.vehicles
  | .driver => driverAlerts today s.drivers

/-- The check goes by the new date, and the scan raises an alert on every day on which it is near,
and on no other. -/
structure Renewal.Read (r : Renewal) (s : Archive) : Prop where
  checked : r.checkedDate s = some r.payload.validUntil
  raised : ∀ today, Raised (r.alerts s today) r.holderId r.documentType ↔
    today ≤ r.payload.validUntil ∧ r.payload.validUntil ≤ today + 30

/-- The document has had the date as its `expiry_date`, the scan comes as far as it, and where the
flat date was the new one already, the check went by it. -/
structure VehicleDated (v : Vehicle) (documentType : String) (day : Int) (vehicles : Table Vehicle) :
    Prop where
  expiry : readVehicleExpiry ((Json.get? v.documents documentType).getD .null) = .ok (some day)
  short : documentType.length ≤ 60
  reached : ∀ doc ∈ scannedBefore (vehicles.rows.flatMap Vehicle.heldDocuments) v.id documentType,
    ¬ (doc.holderId = v.id ∧ doc.docType = flatKey documentType) →
      (readVehicleExpiry doc.data).isOk = true
  written : Json.get? v.documents (flatKey documentType) = some (.text (isoformat day)) →
    documentValidUntil v.documents documentType = some day

def Renewal.Dated (r : Renewal) (s : Archive) : Prop :=
  match r.kind with
  | .vehicle => ∀ v, s.vehicles.get r.holderId = some v →
    VehicleDated v r.documentType r.payload.validUntil s.vehicles
  | .driver => ∀ d, s.drivers.get r.holderId = some d →
    readDriverExpiry ((Json.get? d.documents r.documentType).getD .null) =
      .ok (some r.payload.validUntil)

/-! ## What a renewal leaves of the object -/

variable {now : Instant} {tenantId holderId a : UUID} {documentType : String}
  {payload : DocumentRenewalRequest} {documents current : Payload}

/-- What is read of a renewed document under a key that is not the last four to be set. -/
theorem get?_renewedDocument {key : String}
    (hkey : key ∉ ["file_id", "reference", "notes", "renewed_at"]) :
    Json.get? (renewedDocument now payload current) key =
      Json.get? (putEntry current "valid_until" (.text (isoformat payload.validUntil))) key := by
  simp only [List.mem_cons, List.not_mem_nil, or_false, not_or] at hkey
  obtain ⟨hfile, hreference, hnotes, hrenewed⟩ := hkey
  change Json.get? (putEntry (putEntry (putEntry (putEntry _ "file_id" _) "reference" _) "notes" _)
    "renewed_at" _) key = _
  rw [get?_putEntry, if_neg hrenewed, get?_putEntry, if_neg hnotes, get?_putEntry,
    if_neg hreference, get?_putEntry, if_neg hfile]

/-- The renewal writes `valid_until`, and leaves `expiry_date`. -/
theorem get?_renewedDocument_validUntil :
    Json.get? (renewedDocument now payload current) "valid_until" =
      some (.text (isoformat payload.validUntil)) := by
  rw [get?_renewedDocument (by decide), get?_putEntry, if_pos rfl]

theorem get?_renewedDocument_expiryDate :
    Json.get? (renewedDocument now payload current) "expiry_date" =
      Json.get? current "expiry_date" := by
  rw [get?_renewedDocument (by decide), get?_putEntry, if_neg (by decide)]

theorem expiryEntry_renewedObject :
    expiryEntry (renewedObject now documentType payload documents) =
      expiryEntry ((Json.get? documents documentType).getD .null) := by
  rw [renewedObject, expiryEntry, get?_renewedDocument_expiryDate, documentObject]
  cases Json.get? documents documentType with
  | none => rfl
  | some data => cases data <;> rfl

omit [DocumentText] in
theorem flatKey_ne : flatKey documentType ≠ documentType := by
  intro heq
  have hlength := congrArg String.length heq
  have hsuffix : "_valid_until".length = 12 := rfl
  rw [flatKey, String.length_append] at hlength
  omega

theorem savedVehicleDocuments_cases :
    savedVehicleDocuments now documentType payload documents = documents ∧
        (∃ entries, Json.get? documents documentType = some (.object entries)) ∧
        Json.get? documents (flatKey documentType) = some (.text (isoformat payload.validUntil)) ∨
      savedVehicleDocuments now documentType payload documents =
        renewedVehicleDocuments now documentType payload documents ∧
        ¬ ((∃ entries, Json.get? documents documentType = some (.object entries)) ∧
          Json.get? documents (flatKey documentType) =
            some (.text (isoformat payload.validUntil))) := by
  unfold savedVehicleDocuments
  split
  · next entries s hobject hflat =>
    split
    · next hdate => exact .inl ⟨rfl, ⟨entries, hobject⟩, hdate ▸ hflat⟩
    · next hdate =>
      refine .inr ⟨rfl, fun hsame => hdate ?_⟩
      have htext := hflat.symm.trans hsame.2
      cases htext
      rfl
  · next hnot =>
    refine .inr ⟨rfl, fun hsame => ?_⟩
    obtain ⟨entries, hobject⟩ := hsame.1
    exact hnot entries _ hobject hsame.2

theorem get?_renewedVehicleDocuments :
    Json.get? (renewedVehicleDocuments now documentType payload documents) documentType =
      some (renewedObject now documentType payload documents) := by
  rw [renewedVehicleDocuments, get?_putEntry, if_neg (Ne.symm flatKey_ne), get?_putEntry, if_pos rfl]

theorem isoformat_ne_empty (day : Int) : isoformat day ≠ "" := by
  intro hempty
  have hlength := length_isoformat day
  rw [hempty] at hlength
  cases hlength

theorem documentValidUntil_renewed (hday : ReadsBack payload.validUntil) :
    documentValidUntil (renewedVehicleDocuments now documentType payload documents) documentType =
      some payload.validUntil := by
  have htruthy : Json.truthy (.text (isoformat payload.validUntil)) = true :=
    decide_eq_true (isoformat_ne_empty _)
  rw [documentValidUntil, get?_renewedVehicleDocuments]
  simp only [renewedObject, get?_renewedDocument_validUntil, Json.orElse, Option.filter_some, htruthy,
    if_true, Option.some_or, parseDate, hday.datetime]

/-- The check reads the new date of what is written, and where nothing is, what it read before. -/
theorem documentValidUntil_saved (hday : ReadsBack payload.validUntil) :
    documentValidUntil (savedVehicleDocuments now documentType payload documents) documentType =
        some payload.validUntil ↔
      ((∃ entries, Json.get? documents documentType = some (.object entries)) →
        Json.get? documents (flatKey documentType) =
          some (.text (isoformat payload.validUntil)) →
        documentValidUntil documents documentType = some payload.validUntil) := by
  rcases @savedVehicleDocuments_cases _ now documentType payload documents with
    ⟨hsame, hobject, hflat⟩ | ⟨hnew, hnot⟩
  · rw [hsame]
    exact ⟨fun h _ _ => h, fun h => h hobject hflat⟩
  · rw [hnew]
    exact iff_of_true (documentValidUntil_renewed hday) fun hobject hflat =>
      absurd ⟨hobject, hflat⟩ hnot

/-! ## What the scan finds of a renewed vehicle -/

omit [DocumentText] in
theorem get?_of_mem_of_nodup (hnodup : (documents.map Prod.fst).Nodup) {e : String × Json}
    (he : e ∈ documents) : Json.get? documents e.1 = some e.2 := by
  induction documents with
  | nil => cases he
  | cons e' documents ih =>
    rw [List.map_cons, List.nodup_cons] at hnodup
    rw [get?_cons]
    rcases List.mem_cons.mp he with rfl | he
    · rw [if_pos rfl]
    · rw [if_neg fun heq : e'.1 = e.1 => hnodup.1 (heq ▸ List.mem_map_of_mem he), ih hnodup.2 he]

/-- The documents of a vehicle around the object that is renewed: before it at most the flat date is
another. -/
theorem savedVehicleDocuments_split {before after entries : Payload}
    (hnodup : (documents.map Prod.fst).Nodup)
    (hdocs : documents = before ++ (documentType, .object entries) :: after)
    (hbefore : documentType ∉ before.map Prod.fst) (hafter : documentType ∉ after.map Prod.fst) :
    ∃ before' data after', savedVehicleDocuments now documentType payload documents =
        before' ++ (documentType, data) :: after' ∧
      documentType ∉ before'.map Prod.fst ∧ documentType ∉ after'.map Prod.fst ∧
      expiryEntry data = expiryEntry (.object entries) ∧
      ∀ P : Json → Prop, (∀ s, P (.text s)) →
        ((∀ e ∈ before', P e.2) ↔ ∀ e ∈ before, e.1 ≠ flatKey documentType → P e.2) := by
  have hobject : Json.get? documents documentType = some (.object entries) :=
    get?_of_mem_of_nodup hnodup (hdocs ▸ List.mem_append_right _ List.mem_cons_self)
  have hbeforeNodup : (before.map Prod.fst).Nodup := by
    rw [hdocs, List.map_append] at hnodup
    exact hnodup.of_append_left
  rcases @savedVehicleDocuments_cases _ now documentType payload documents with
    ⟨hsame, -, hflat⟩ | ⟨hnew, -⟩
  · refine ⟨before, _, after, hsame.trans hdocs, hbefore, hafter, rfl, fun P htext => ?_⟩
    refine ⟨fun h e he _ => h e he, fun h e he => ?_⟩
    by_cases hkey : e.1 = flatKey documentType
    · have hmem : e ∈ documents := hdocs ▸ List.mem_append_left _ he
      have hdate := get?_of_mem_of_nodup hnodup hmem
      rw [hkey, hflat] at hdate
      rw [← Option.some.inj hdate]
      exact htext _
    · exact h e he hkey
  · have hexpiry : expiryEntry (renewedObject now documentType payload documents) =
        expiryEntry (.object entries) := by
      rw [expiryEntry_renewedObject, hobject]
      rfl
    have hput : putEntry documents documentType (renewedObject now documentType payload documents) =
        before ++ (documentType, renewedObject now documentType payload documents) :: after := by
      rw [hdocs, putEntry_append_of_not_mem hbefore, putEntry, if_pos rfl]
    rw [hnew, renewedVehicleDocuments, hput]
    by_cases hflat : flatKey documentType ∈ before.map Prod.fst
    · rw [putEntry_append_of_mem hflat]
      refine ⟨_, _, _, rfl, ?_, hafter, hexpiry, fun P htext => ?_⟩
      · rwa [map_fst_putEntry, if_pos hflat]
      · exact forall_mem_putEntry hbeforeNodup hflat (P := fun e => P e.2) (htext _)
    · rw [putEntry_append_of_not_mem hflat, putEntry, if_neg (Ne.symm flatKey_ne)]
      refine ⟨_, _, _, rfl, hbefore, ?_, hexpiry, fun P _ => ?_⟩
      · rw [map_fst_putEntry]
        split
        · exact hafter
        · rw [List.mem_append, List.mem_singleton, not_or]
          exact ⟨hafter, Ne.symm flatKey_ne⟩
      · refine forall₂_congr fun e he => ?_
        have hne : e.1 ≠ flatKey documentType := fun hkey => hflat (hkey ▸ List.mem_map_of_mem he)
        exact ⟨fun h _ => h, fun h => h hne⟩

theorem length_expiryReference (kind : String) (id : UUID) (docType : String) (day : Int) :
    (kind ++ uuid id ++ ":" ++ docType ++ ":" ++ isoformat day).length =
      kind.length + 48 + docType.length := by
  have hcolon : ":".length = 1 := rfl
  rw [String.length_append, String.length_append, String.length_append, String.length_append,
    String.length_append, length_uuid, length_isoformat, hcolon]
  omega

theorem valid_vehicleExpiryAlert (doc : HeldDocument) (today day : Int) :
    (vehicleExpiryAlert today doc day).valid = decide (doc.docType.length ≤ 60) := by
  have hlength : (vehicleExpiryAlert today doc day).requestReference.length =
      12 + 48 + doc.docType.length := length_expiryReference _ _ _ _
  rw [AlertCreate.valid, hlength, decide_eq_true (by omega), Bool.true_and]
  exact decide_eq_decide.mpr (by omega)

theorem valid_driverExpiryAlert (doc : HeldDocument) (today day : Int) :
    (driverExpiryAlert today doc day).valid = decide (doc.docType.length ≤ 61) := by
  have hlength : (driverExpiryAlert today doc day).requestReference.length =
      11 + 48 + doc.docType.length := length_expiryReference _ _ _ _
  rw [AlertCreate.valid, hlength, decide_eq_true (by omega), Bool.true_and]
  exact decide_eq_decide.mpr (by omega)

omit [DocumentText] in
theorem Vehicle.holderId_held (v : Vehicle) : ∀ d ∈ v.heldDocuments, d.holderId = v.id := by
  intro d hd
  obtain ⟨_, -, rfl⟩ := List.mem_map.mp hd
  rfl

omit [DocumentText] in
theorem DocumentedDriver.holderId_held (d : DocumentedDriver) :
    ∀ doc ∈ d.heldDocuments, doc.holderId = d.id := by
  intro doc hdoc
  obtain ⟨_, -, rfl⟩ := List.mem_map.mp hdoc
  rfl

/-- The document of the entry, as the vehicle holds it. -/
def Vehicle.held (v : Vehicle) (e : String × Json) : HeldDocument :=
  { tenantId := v.tenantId, holderId := v.id, plate := v.plate, docType := e.1, data := e.2 }

omit [DocumentText] in
theorem docType_ne_of_held {held : String × Json → HeldDocument} (hheld : ∀ e, (held e).docType = e.1)
    {before after : Payload} (hbefore : documentType ∉ before.map Prod.fst)
    (hafter : documentType ∉ after.map Prod.fst) :
    ∀ d ∈ before.map held ++ after.map held, d.docType ≠ documentType := by
  intro d hd heq
  rcases List.mem_append.mp hd with hd | hd
  · obtain ⟨e, he, rfl⟩ := List.mem_map.mp hd
    exact hbefore (heq ▸ hheld e ▸ List.mem_map_of_mem he)
  · obtain ⟨e, he, rfl⟩ := List.mem_map.mp hd
    exact hafter (heq ▸ hheld e ▸ List.mem_map_of_mem he)

theorem vehicle_entry_raised_iff {before after : List Vehicle} {v : Vehicle}
    (hothers : ∀ u ∈ before ++ after, u.id ≠ v.id) {docsBefore docsAfter : Payload} {data : Json}
    (hdocs : v.documents = docsBefore ++ (documentType, data) :: docsAfter)
    (hbefore : documentType ∉ docsBefore.map Prod.fst)
    (hafter : documentType ∉ docsAfter.map Prod.fst) {day : Int} :
    (∀ today, Raised (askedAlerts readVehicleExpiry vehicleExpiryAlert today
          ((before ++ v :: after).flatMap Vehicle.heldDocuments)) v.id documentType ↔
        today ≤ day ∧ day ≤ today + 30) ↔
      Readable readVehicleExpiry (before.flatMap Vehicle.heldDocuments ++ docsBefore.map v.held) ∧
        readVehicleExpiry data = .ok (some day) ∧ decide (documentType.length ≤ 60) = true := by
  have hheld : v.heldDocuments =
      docsBefore.map v.held ++ v.held (documentType, data) :: docsAfter.map v.held := by
    rw [Vehicle.heldDocuments, hdocs, List.map_append, List.map_cons]
    rfl
  exact raised_row_iff Vehicle.heldDocuments Vehicle.holderId_held hothers hheld
    (docType_ne_of_held (fun _ => rfl) hbefore hafter) (fun today day => valid_vehicleExpiryAlert _ today day)

omit [DocumentText] in
theorem readable_append {read : Json → Except Exc (Option Int)} {docs docs' : List HeldDocument} :
    Readable read (docs ++ docs') ↔ Readable read docs ∧ Readable read docs' :=
  List.forall_mem_append

/-- The scan comes as far as a renewed object, if it does so apart from the flat date. -/
theorem readable_iff_scannedBefore {before after : List Vehicle} {v : Vehicle}
    (hothers : ∀ u ∈ before ++ after, u.id ≠ v.id) {docsBefore docsAfter docsBefore' : Payload}
    {data : Json} (hdocs : v.documents = docsBefore ++ (documentType, data) :: docsAfter)
    (hbefore : documentType ∉ docsBefore.map Prod.fst)
    (hafter : documentType ∉ docsAfter.map Prod.fst)
    (hflat : ∀ P : Json → Prop, (∀ s, P (.text s)) →
      ((∀ e ∈ docsBefore', P e.2) ↔ ∀ e ∈ docsBefore, e.1 ≠ flatKey documentType → P e.2)) :
    Readable readVehicleExpiry (before.flatMap Vehicle.heldDocuments ++ docsBefore'.map v.held) ↔
      ∀ doc ∈ scannedBefore ((before ++ v :: after).flatMap Vehicle.heldDocuments) v.id documentType,
        ¬ (doc.holderId = v.id ∧ doc.docType = flatKey documentType) →
          (readVehicleExpiry doc.data).isOk = true := by
  have hheld : v.heldDocuments =
      docsBefore.map v.held ++ v.held (documentType, data) :: docsAfter.map v.held := by
    rw [Vehicle.heldDocuments, hdocs, List.map_append, List.map_cons]
    rfl
  obtain ⟨hrows, honce⟩ := flatMap_held Vehicle.heldDocuments Vehicle.holderId_held hothers hheld
    (docType_ne_of_held (fun _ => rfl) hbefore hafter)
  have hscanned : scannedBefore ((before ++ v :: after).flatMap Vehicle.heldDocuments) v.id
      documentType = before.flatMap Vehicle.heldDocuments ++ docsBefore.map v.held := by
    rw [hrows]
    exact honce.scannedBefore
  rw [hscanned, List.forall_mem_append, readable_append]
  refine and_congr (forall₂_congr fun doc hdoc => ?_) ?_
  · obtain ⟨u, hu, hdoc⟩ := List.mem_flatMap.mp hdoc
    have hne : doc.holderId ≠ v.id := by
      rw [u.holderId_held doc hdoc]
      exact hothers u (List.mem_append_left _ hu)
    exact ⟨fun h _ => h, fun h => h fun hmine => hne hmine.1⟩
  · rw [Readable, List.forall_mem_map, List.forall_mem_map]
    refine (hflat (fun data => (readVehicleExpiry data).isOk = true) fun _ => rfl).trans ?_
    refine forall₂_congr fun e _ => imp_congr_left ?_
    exact not_congr (and_iff_right rfl).symm

omit [DocumentText] in
theorem expiryEntry_of_not_object
    (h : ¬ ∃ entries, Json.get? documents documentType = some (.object entries)) :
    expiryEntry ((Json.get? documents documentType).getD .null) = none := by
  cases hdata : Json.get? documents documentType with
  | none => rfl
  | some data =>
    cases data with
    | object entries => exact absurd ⟨entries, hdata⟩ h
    | _ => rfl

theorem readVehicleExpiry_congr {data data' : Json} (h : expiryEntry data = expiryEntry data') :
    readVehicleExpiry data = readVehicleExpiry data' := by
  rw [readVehicleExpiry, readVehicleExpiry, h]

theorem nodup_savedVehicleDocuments (hnodup : (documents.map Prod.fst).Nodup) :
    ((savedVehicleDocuments now documentType payload documents).map Prod.fst).Nodup := by
  rcases @savedVehicleDocuments_cases _ now documentType payload documents with ⟨hsame, -⟩ | ⟨hnew, -⟩
  · rwa [hsame]
  · rw [hnew]
    exact nodup_putEntry (nodup_putEntry hnodup _ _) _ _

/-- The alerts for a renewed document of a vehicle, by what its vehicle had before. -/
theorem vehicle_raised_iff {vehicles : Table Vehicle} {v : Vehicle} {day : Int}
    (hv : vehicles.get holderId = some v) (hnodup : (v.documents.map Prod.fst).Nodup) :
    (∀ today, Raised (vehicleAlerts today (vehicles.modify holderId fun v =>
          { v with documents := savedVehicleDocuments now documentType payload v.documents }))
          holderId documentType ↔ today ≤ day ∧ day ≤ today + 30) ↔
      readVehicleExpiry ((Json.get? v.documents documentType).getD .null) = .ok (some day) ∧
        documentType.length ≤ 60 ∧
        ∀ doc ∈ scannedBefore (vehicles.rows.flatMap Vehicle.heldDocuments) v.id documentType,
          ¬ (doc.holderId = v.id ∧ doc.docType = flatKey documentType) →
            (readVehicleExpiry doc.data).isOk = true := by
  let renew (v : Vehicle) : Vehicle :=
    { v with documents := savedVehicleDocuments now documentType payload v.documents }
  have hkept : ∀ v, Keyed.key (renew v) = Keyed.key v := fun _ => rfl
  obtain ⟨before, after, hrows, hrows', hothers⟩ := Table.split_modify hkept hv
  obtain rfl : v.id = holderId := Table.key_of_get hv
  simp only [vehicleAlerts, hrows]
  rw [hrows']
  by_cases hobject : ∃ entries, Json.get? v.documents documentType = some (.object entries)
  · obtain ⟨entries, hentries⟩ := hobject
    obtain ⟨docsBefore, docsAfter, hdocs, hbefore, hafter⟩ := split_of_get? hnodup hentries
    obtain ⟨docsBefore', data, docsAfter', hsaved, hbefore', hafter', hexpiry, hflat⟩ :=
      @savedVehicleDocuments_split _ now documentType payload _ _ _ _ hnodup hdocs hbefore hafter
    have hraised := @vehicle_entry_raised_iff _ documentType before after (renew v) hothers
      docsBefore' docsAfter' data hsaved hbefore' hafter' day
    have hreached := readable_iff_scannedBefore hothers hdocs hbefore hafter hflat
    refine hraised.trans ((and_congr hreached ?_).trans and_rotate)
    rw [hentries, readVehicleExpiry_congr hexpiry, decide_eq_true_eq]
    rfl
  · have hnone := expiryEntry_of_not_object hobject
    refine iff_of_false (fun hall => ?_) fun hdated => ?_
    · have hsaved : (renew v).documents =
          renewedVehicleDocuments now documentType payload v.documents :=
        (savedVehicleDocuments_cases.resolve_left fun hsame => hobject hsame.2.1).1
      have hentry : Json.get? (renew v).documents documentType =
          some (renewedObject now documentType payload v.documents) := by
        rw [hsaved]
        exact get?_renewedVehicleDocuments
      obtain ⟨docsBefore, docsAfter, hdocs, hbefore, hafter⟩ :=
        split_of_get? (nodup_savedVehicleDocuments hnodup) hentry
      have hread := ((@vehicle_entry_raised_iff _ documentType before after (renew v) hothers
        docsBefore docsAfter _ hdocs hbefore hafter day).mp hall).2.1
      rw [readVehicleExpiry, expiryEntry_renewedObject, hnone] at hread
      cases hread
    · rw [readVehicleExpiry, hnone] at hdated
      cases hdated.1

/-! ## What the scan finds of a renewed driver -/

theorem savedDriverDocuments_cases :
    savedDriverDocuments now documentType payload documents = documents ∧
        (∃ entries, Json.get? documents documentType = some (.object entries)) ∨
      savedDriverDocuments now documentType payload documents =
        putEntry documents documentType (renewedObject now documentType payload documents) := by
  unfold savedDriverDocuments
  split
  · next entries hobject => exact .inl ⟨rfl, entries, hobject⟩
  · exact .inr rfl

theorem get?_savedDriverDocuments :
    ∃ data, Json.get? (savedDriverDocuments now documentType payload documents) documentType =
        some data ∧
      expiryEntry data = expiryEntry ((Json.get? documents documentType).getD .null) := by
  rcases @savedDriverDocuments_cases _ now documentType payload documents with
    ⟨hsame, entries, hobject⟩ | hnew
  · rw [hsame, hobject]
    exact ⟨_, rfl, rfl⟩
  · refine ⟨renewedObject now documentType payload documents, ?_, expiryEntry_renewedObject⟩
    rw [hnew, get?_putEntry, if_pos rfl]

theorem nodup_savedDriverDocuments (hnodup : (documents.map Prod.fst).Nodup) :
    ((savedDriverDocuments now documentType payload documents).map Prod.fst).Nodup := by
  rcases @savedDriverDocuments_cases _ now documentType payload documents with ⟨hsame, -⟩ | hnew
  · rwa [hsame]
  · rw [hnew]
    exact nodup_putEntry hnodup _ _

theorem documents_renewedDriver (d : DocumentedDriver) :
    (renewedDriver now documentType payload d).documents =
      savedDriverDocuments now documentType payload d.documents := by
  unfold renewedDriver
  split_ifs <;> rfl

theorem id_renewedDriver (d : DocumentedDriver) :
    (renewedDriver now documentType payload d).id = d.id := by
  unfold renewedDriver
  split_ifs <;> rfl

theorem lookup_candidates_renewedDriver (d : DocumentedDriver)
    (htype : documentType ∈ ["driving_license", "passport", "bi"]) :
    ((renewedDriver now documentType payload d).candidates.lookup documentType).join =
      some payload.validUntil := by
  simp only [List.mem_cons, List.not_mem_nil, or_false] at htype
  rcases htype with rfl | rfl | rfl <;> rfl

/-- The document of the entry, as the driver holds it. -/
def DocumentedDriver.held (d : DocumentedDriver) (e : String × Json) : HeldDocument :=
  { tenantId := d.tenantId, holderId := d.id, docType := e.1, data := e.2 }

/-- The alerts for a renewed document of a driver: nothing ends the scan of the drivers. -/
theorem driver_raised_iff {drivers : Table DocumentedDriver} {d : DocumentedDriver} {day : Int}
    {renew : DocumentedDriver → DocumentedDriver} (hkept : ∀ d, (renew d).id = d.id)
    (hdocuments : (renew d).documents = savedDriverDocuments now documentType payload d.documents)
    (hd : drivers.get holderId = some d) (hnodup : (d.documents.map Prod.fst).Nodup)
    (hshort : documentType.length ≤ 61) :
    (∀ today, Raised (driverAlerts today (drivers.modify holderId renew hkept)) holderId
          documentType ↔ today ≤ day ∧ day ≤ today + 30) ↔
      readDriverExpiry ((Json.get? d.documents documentType).getD .null) = .ok (some day) := by
  obtain ⟨before, after, -, hrows', hothers⟩ := Table.split_modify hkept hd
  obtain rfl : d.id = holderId := Table.key_of_get hd
  obtain ⟨data, hdata, hexpiry⟩ := @get?_savedDriverDocuments _ now documentType payload d.documents
  rw [← hdocuments] at hdata
  have hnodup' : ((renew d).documents.map Prod.fst).Nodup := by
    rw [hdocuments]
    exact nodup_savedDriverDocuments hnodup
  obtain ⟨docsBefore, docsAfter, hdocs, hbefore, hafter⟩ := split_of_get? hnodup' hdata
  have hheld : (renew d).heldDocuments = docsBefore.map (renew d).held ++
      (renew d).held (documentType, data) :: docsAfter.map (renew d).held := by
    rw [DocumentedDriver.heldDocuments, hdocs, List.map_append, List.map_cons]
    rfl
  have hothers' : ∀ d' ∈ before ++ after, d'.id ≠ (renew d).id := by
    rw [hkept]
    exact hothers
  have hraised : _ ↔ _ ∧ readDriverExpiry data = .ok (some day) ∧ _ :=
    raised_row_iff DocumentedDriver.heldDocuments DocumentedDriver.holderId_held hothers' hheld
      (docType_ne_of_held (fun _ => rfl) hbefore hafter) fun today day =>
        valid_driverExpiryAlert _ today day
  simp only [driverAlerts]
  rw [hrows', ← hkept d]
  refine hraised.trans ?_
  rw [readDriverExpiry, readDriverExpiry, hexpiry]
  exact (and_iff_right fun _ _ => rfl).trans (and_iff_left (decide_eq_true hshort))

/-! ## What is read after a renewal -/

theorem renewVehicleDocument_eq_ok {s p : Archive}
    (h : renewVehicleDocument now tenantId holderId documentType payload s = .ok (a, p)) :
    ∃ v, s.vehicles.get holderId = some v ∧ p.vehicles = s.vehicles.modify holderId (fun v =>
      { v with documents := savedVehicleDocuments now documentType payload v.documents })
        fun _ => rfl := by
  simp only [renewVehicleDocument, bind_eq_ok, require_eq_ok] at h
  obtain ⟨v, hv, _, -, files, -, h⟩ := h
  cases h
  exact ⟨v, hv, rfl⟩

theorem renewDriverDocument_eq_ok {s p : Archive}
    (h : renewDriverDocument now tenantId holderId documentType payload s = .ok (a, p)) :
    documentType ∈ ["driving_license", "passport", "bi"] ∧
      ∃ d, s.drivers.get holderId = some d ∧ p.drivers =
        s.drivers.modify holderId (renewedDriver now documentType payload) id_renewedDriver := by
  simp only [renewDriverDocument, bind_eq_ok, require_eq_ok, raiseIf_eq_ok,
    decide_eq_false_iff_not, Decidable.not_not] at h
  obtain ⟨_, htype, d, hd, _, -, files, -, h⟩ := h
  cases h
  exact ⟨htype, d, hd, rfl⟩

/-- A renewal is read if and only if the document is dated and the scan comes as far as it. -/
theorem renewal_read_iff {r : Renewal} {s p : Archive} {a : UUID} (hs : s.Distinct)
    (hday : ReadsBack r.payload.validUntil) (h : r.run s = .ok (a, p)) : r.Read p ↔ r.Dated s := by
  obtain ⟨kind, now, tenantId, holderId, documentType, payload⟩ := r
  cases kind with
  | vehicle =>
    obtain ⟨v, hv, hp⟩ := renewVehicleDocument_eq_ok h
    have hnodup := hs.vehicles v (Table.mem_of_get hv)
    have hraised := @vehicle_raised_iff _ now holderId documentType payload _ _ payload.validUntil
      hv hnodup
    have hchecked := @documentValidUntil_saved _ now documentType payload v.documents hday
    have hread : Renewal.checkedDate ⟨.vehicle, now, tenantId, holderId, documentType, payload⟩ p =
        documentValidUntil (savedVehicleDocuments now documentType payload v.documents)
          documentType := by
      simp only [Renewal.checkedDate, hp, Table.get_modify_self hv]
      rfl
    constructor
    · rintro ⟨hchecks, hraises⟩ v' hv'
      cases hv.symm.trans hv'
      simp only [Renewal.alerts, hp] at hraises
      obtain ⟨hexpiry, hshort, hreached⟩ := hraised.mp hraises
      refine ⟨hexpiry, hshort, hreached, fun hflat => hchecked.mp (hread ▸ hchecks) ?_ hflat⟩
      by_contra hobject
      rw [readVehicleExpiry, expiryEntry_of_not_object hobject] at hexpiry
      cases hexpiry
    · intro hdated
      obtain ⟨hexpiry, hshort, hreached, hwritten⟩ := hdated v hv
      refine ⟨hread.trans (hchecked.mpr fun _ hflat => hwritten hflat), ?_⟩
      simp only [Renewal.alerts, hp]
      exact hraised.mpr ⟨hexpiry, hshort, hreached⟩
  | driver =>
    obtain ⟨htype, d, hd, hp⟩ := renewDriverDocument_eq_ok h
    have hnodup := hs.drivers d (Table.mem_of_get hd)
    have hshort : documentType.length ≤ 61 := by
      simp only [List.mem_cons, List.not_mem_nil, or_false] at htype
      rcases htype with rfl | rfl | rfl <;> decide
    have hraised := @driver_raised_iff _ now holderId documentType payload _ _ payload.validUntil
      _ id_renewedDriver (documents_renewedDriver d) hd hnodup hshort
    have hread : Renewal.checkedDate ⟨.driver, now, tenantId, holderId, documentType, payload⟩ p =
        some payload.validUntil := by
      simp only [Renewal.checkedDate, hp, Table.get_modify_self hd]
      exact lookup_candidates_renewedDriver d htype
    constructor
    · rintro ⟨-, hraises⟩ d' hd'
      cases hd.symm.trans hd'
      simp only [Renewal.alerts, hp] at hraises
      exact hraised.mp hraises
    · intro hdated
      refine ⟨hread, ?_⟩
      simp only [Renewal.alerts, hp]
      exact hraised.mpr (hdated d hd)

end

/-! ## The texts of one day -/

@[reducible] def DocumentText.october : DocumentText where
  repr _ := ""
  fromisoformat _ := some 20000
  isoformat _ := "2024-10-04"
  dateFromisoformat _ := some 20000
  timestamp _ := "2024-09-04T08:00:00+00:00"
  uuid _ := "5f0c2a9e-37b1-4a0e-9d26-1c8e4b7a6f10"
  length_isoformat _ := rfl
  length_uuid _ := rfl

/-- The insurance of a vehicle is renewed to the day. -/
def insuranceRenewal : Renewal where
  kind := .vehicle
  now := 0
  tenantId := 1
  holderId := 1
  documentType := "insurance"
  payload := { validUntil := 20000 }

def insuredArchive (entries : Payload) : Archive where
  vehicles := .single
    { id := 1, tenantId := 1, plate := "AAA-001", documents := [("insurance", .object entries)] }

theorem insuredArchive_distinct (entries : Payload) : (insuredArchive entries).Distinct where
  vehicles _ hv := by
    obtain rfl := List.mem_singleton.mp hv
    exact List.nodup_singleton _
  drivers _ hd := nomatch hd

/-- A renewal whose date was the `expiry_date` already. -/
theorem renewal_read_iff_insured :
    let _ := DocumentText.october
    let s := insuredArchive [("expiry_date", .text "2024-10-04")]
    ∃ a p, insuranceRenewal.run s = .ok (a, p) ∧ insuranceRenewal.Read p := by
  intro _ s
  refine ⟨_, _, rfl, ?_⟩
  refine (renewal_read_iff (insuredArchive_distinct _) ⟨rfl, rfl⟩ rfl).mpr fun v hv => ?_
  cases hv
  exact ⟨rfl, by decide, fun _ hdoc => (nomatch hdoc), fun hflat => (nomatch hflat)⟩

/-- A document without an `expiry_date` is renewed, and no alert is raised on the day itself. -/
theorem renewed_unseen :
    let _ := DocumentText.october
    ∃ a p, insuranceRenewal.run (insuredArchive []) = .ok (a, p) ∧
      insuranceRenewal.checkedDate p = some 20000 ∧
      ¬ Raised (insuranceRenewal.alerts p 20000) 1 "insurance" := by
  refine ⟨_, _, rfl, rfl, ?_⟩
  rintro ⟨_, hx, -⟩
  cases hx

end Rotas
