import Rotas.Cargo.Documents

/-!
# Rotas.Trips.Requirements

The names under which the compliance policy asks for stops and documents, and those under which the
stops and documents of a trip are filed. The policy's side is trimmed and case-folded; the filed
side is as it was sent, and the database only lower-cases it.

* `metByName_iff` — a requirement is reported missing exactly when nothing is filed under its name,
  provided that each filed name the two sides read differently stands beside one they read alike.
-/

namespace Rotas

theorem prefix_drop (s : String) :
    transportDocumentPrefix.toList.isPrefixOf (transportDocumentPrefix ++ s).toList = true ∧
      String.ofList ((transportDocumentPrefix ++ s).toList.drop transportDocumentPrefix.length) =
        s := by
  rw [String.toList_append]
  constructor
  · exact List.isPrefixOf_iff_prefix.mpr (List.prefix_append _ _)
  · rw [show transportDocumentPrefix.length = transportDocumentPrefix.toList.length from
      String.length_toList.symm, List.drop_left, String.ofList_toList]

/-- The name of a typed transport document is none of the names the code knows. -/
theorem typed_ne_known (s : String) :
    transportDocumentPrefix ++ s ≠ "load_permit" ∧ transportDocumentPrefix ++ s ≠ "cargo_manifest" ∧
      transportDocumentPrefix ++ s ≠ "transport_document" := by
  refine ⟨?_, ?_, ?_⟩ <;>
  · intro h
    have hchars := congrArg String.toList h
    rw [String.toList_append] at hchars
    have hlength := congrArg List.length hchars
    have hhead := congrArg List.head? hchars
    simp [transportDocumentPrefix] at hlength hhead
    try omega

section

variable [Locale]

/-- `_normalize_required_document`. -/
def normalizeRequiredDocument (value : String) : String := Locale.casefold (strip value)

/-- The entries of a default list, and of the lists of the trip's cargo type and of the aliases, as
they were written. -/
def writtenFor (trip : Trip) (default : List String) (byType : List (String × List String)) :
    List String :=
  let cargoType := normalizeRequiredDocument (trip.cargoType.getD "")
  let lists := byType.filter fun entry =>
    normalizeRequiredDocument entry.1 = cargoType ||
      policyDefaultAliases.contains (normalizeRequiredDocument entry.1)
  (default ++ lists.flatMap Prod.snd).filter (strip · ≠ "")

def writtenStops (policy : CompliancePolicy) (trip : Trip) : List String :=
  writtenFor trip policy.tripRequiredStops policy.tripRequiredStopsByCargoType

def writtenDocuments (policy : CompliancePolicy) (trip : Trip) : List String :=
  writtenFor trip policy.cargoRequiredDocuments policy.cargoRequiredDocumentsByType

/-- The types of the stops of a trip, as they were sent. -/
def stopTypes (tenantId : UUID) (trip : Trip) (db : Db) : List String :=
  (db.tripStops.rows.filter fun s => s.tenantId = tenantId && s.tripId = trip.id).map (·.stopType)

/-- The types of its transport documents that are not cancelled. -/
def transportDocumentTypes (tenantId : UUID) (trip : Trip) (db : Db) : List String :=
  (db.transportDocuments.rows.filter fun d =>
    d.tenantId = tenantId && d.tripId = trip.id && d.status ≠ "cancelled").map (·.documentType)

/-- A requirement is met under the name it was written with. -/
structure MetByName (tenantId : UUID) (trip : Trip) (db : Db) : Prop where
  stops : ∀ x ∈ writtenStops (tenantPolicy tenantId db) trip,
    (normalizeRequiredDocument x ∈ missingRequiredTripStops tenantId trip db ↔
      ∀ t ∈ stopTypes tenantId trip db,
        normalizeRequiredDocument t ≠ normalizeRequiredDocument x)
  documents : ∀ x ∈ writtenDocuments (tenantPolicy tenantId db) trip, ∀ documentType,
    normalizeRequiredDocument x = transportDocumentPrefix ++ documentType →
      (normalizeRequiredDocument x ∈ missingRequiredCargoDocuments tenantId trip db ↔
        ∀ t ∈ transportDocumentTypes tenantId trip db,
          normalizeRequiredDocument t ≠ normalizeRequiredDocument documentType)

/-- A filed name that the database reads as the policy's side would. -/
def ReadAlike (name : String) : Prop := Locale.sqlLower name = normalizeRequiredDocument name

/-- Each filed name that is not read alike stands beside one that the other side reads as `k`, wherever
one of the two reads it so. -/
def Accompanied (names : List String) (k : String) : Prop :=
  ∀ t ∈ names, ¬ ReadAlike t →
    (normalizeRequiredDocument t = k → ∃ u ∈ names, Locale.sqlLower u = k) ∧
      (Locale.sqlLower t = k → ∃ u ∈ names, normalizeRequiredDocument u = k)

structure WrittenPlainly (tenantId : UUID) (trip : Trip) (db : Db) : Prop where
  stops : ∀ x ∈ writtenStops (tenantPolicy tenantId db) trip,
    Accompanied (stopTypes tenantId trip db) (normalizeRequiredDocument x)
  documents : ∀ x ∈ writtenDocuments (tenantPolicy tenantId db) trip, ∀ documentType,
    normalizeRequiredDocument x = transportDocumentPrefix ++ documentType →
      if strip documentType = "" then
        ∀ t ∈ transportDocumentTypes tenantId trip db,
          normalizeRequiredDocument t ≠ normalizeRequiredDocument documentType
      else
        Accompanied (transportDocumentTypes tenantId trip db)
          (normalizeRequiredDocument documentType)

/-! ## What the two sides read -/

theorem normalizeStops_eq (stops : List String) :
    normalizeStops stops = (stops.filter (strip · ≠ "")).map normalizeRequiredDocument := rfl

theorem normalizeStops_flatMap {α : Type} (l : List α) (f : α → List String) :
    (l.flatMap fun a => normalizeStops (f a)) = normalizeStops (l.flatMap f) := by
  induction l with
  | nil => rfl
  | cons a l ih =>
    rw [List.flatMap_cons, ih, List.flatMap_cons]
    simp only [normalizeStops_eq, List.filter_append, List.map_append]

theorem requiredTripStops_eq (policy : CompliancePolicy) (trip : Trip) :
    requiredTripStops policy trip =
      (writtenStops policy trip).map normalizeRequiredDocument := by
  rw [requiredTripStops, normalizeStops_flatMap, writtenStops, writtenFor, List.filter_append,
    List.map_append]
  rfl

theorem requiredCargoDocumentsForTrip_eq (policy : CompliancePolicy) (trip : Trip) :
    requiredCargoDocumentsForTrip policy trip =
      (writtenDocuments policy trip).map normalizeRequiredDocument := by
  rw [requiredCargoDocumentsForTrip, normalizeStops_flatMap, writtenDocuments, writtenFor,
    List.filter_append, List.map_append]
  rfl

/-- A required stop is reported when no stop lower-cases to its name. -/
theorem mem_missingRequiredTripStops {tenantId : UUID} {trip : Trip} {db : Db} {k : String} :
    k ∈ missingRequiredTripStops tenantId trip db ↔
      k ∈ requiredTripStops (tenantPolicy tenantId db) trip ∧
        ∀ t ∈ stopTypes tenantId trip db, Locale.sqlLower t ≠ k := by
  have hpolicy : ((db.tenants.get tenantId).map Tenant.compliancePolicy).getD {} =
      tenantPolicy tenantId db := rfl
  have hexisting : ((db.tripStops.rows.filter fun s =>
      s.tenantId = tenantId && s.tripId = trip.id).map fun s => Locale.sqlLower s.stopType) =
      (stopTypes tenantId trip db).map Locale.sqlLower := by
    rw [stopTypes, List.map_map]
    rfl
  simp only [missingRequiredTripStops, mem_sorted, List.mem_dedup, List.mem_filter, hpolicy,
    hexisting, decide_eq_true_eq, List.mem_map, not_exists, not_and, ne_eq]

theorem cargoDocumentExists_typed {tenantId : UUID} {trip : Trip} {db : Db} {s : String} :
    cargoDocumentExists tenantId trip.id (transportDocumentPrefix ++ s) db = true ↔
      strip s ≠ "" ∧ ∃ t ∈ transportDocumentTypes tenantId trip db,
        Locale.sqlLower t = normalizeRequiredDocument s := by
  obtain ⟨hpermit, hmanifest, hdocument⟩ := typed_ne_known s
  obtain ⟨hhead, hdrop⟩ := prefix_drop s
  rw [cargoDocumentExists, if_neg hpermit, if_neg hmanifest, if_neg hdocument, if_pos hhead,
    hdrop]
  simp only [hasTransportDocument, transportDocumentTypes, Bool.and_eq_true, decide_eq_true_eq,
    List.any_eq_true, Option.all_some, List.mem_map, List.mem_filter, normalizeRequiredDocument]
  grind

/-- A typed transport document is reported when its type is blank, or no document lower-cases to
its type. -/
theorem mem_missingRequiredCargoDocuments_typed {tenantId : UUID} {trip : Trip} {db : Db}
    {x s : String} (hx : x ∈ writtenDocuments (tenantPolicy tenantId db) trip)
    (hs : normalizeRequiredDocument x = transportDocumentPrefix ++ s) :
    normalizeRequiredDocument x ∈ missingRequiredCargoDocuments tenantId trip db ↔
      (strip s ≠ "" → ∀ t ∈ transportDocumentTypes tenantId trip db,
        Locale.sqlLower t ≠ normalizeRequiredDocument s) := by
  have hrequired : normalizeRequiredDocument x ∈
      requiredCargoDocuments (tenantPolicy tenantId db) trip := by
    rw [requiredCargoDocuments, List.append_assoc]
    rw [requiredCargoDocumentsForTrip_eq]
    exact List.mem_append_left _ (List.mem_map_of_mem hx)
  have hexists := @cargoDocumentExists_typed _ tenantId trip db s
  rw [missingRequiredCargoDocuments, List.mem_filter, mem_sorted, List.mem_dedup, hs,
    Bool.not_eq_true', ← Bool.not_eq_true, hexists]
  rw [hs] at hrequired
  simp only [hrequired, true_and, not_and, not_exists, ne_eq]

/-! ## The two sides -/

/-- The two sides read a list of names alike, as far as `k` goes, exactly when the names not
read alike are accompanied. -/
theorem accompanied_iff {names : List String} {k : String} :
    Accompanied names k ↔
      ((∀ t ∈ names, Locale.sqlLower t ≠ k) ↔ ∀ t ∈ names, normalizeRequiredDocument t ≠ k) := by
  constructor
  · intro h
    constructor
    · intro hnone t ht hk
      by_cases halike : ReadAlike t
      · exact hnone t ht (halike.trans hk)
      · obtain ⟨u, hu, huk⟩ := (h t ht halike).1 hk
        exact hnone u hu huk
    · intro hnone t ht hk
      by_cases halike : ReadAlike t
      · exact hnone t ht (halike.symm.trans hk)
      · obtain ⟨u, hu, huk⟩ := (h t ht halike).2 hk
        exact hnone u hu huk
  · intro h t ht _
    constructor
    · intro hk
      by_contra hnone
      push Not at hnone
      exact h.mp hnone t ht hk
    · intro hk
      by_contra hnone
      push Not at hnone
      exact h.mpr hnone t ht hk

/-- A requirement is met under the name it was written with exactly when the filed names that the
two sides read differently are accompanied, and nothing is filed under a blank type asked for. -/
theorem metByName_iff (tenantId : UUID) (trip : Trip) (db : Db) :
    MetByName tenantId trip db ↔ WrittenPlainly tenantId trip db := by
  have hstops (x : String) (hx : x ∈ writtenStops (tenantPolicy tenantId db) trip) :
      (normalizeRequiredDocument x ∈ missingRequiredTripStops tenantId trip db ↔
          ∀ t ∈ stopTypes tenantId trip db,
            normalizeRequiredDocument t ≠ normalizeRequiredDocument x) ↔
        Accompanied (stopTypes tenantId trip db) (normalizeRequiredDocument x) := by
    have hrequired := List.mem_map_of_mem (f := normalizeRequiredDocument) hx
    rw [← requiredTripStops_eq] at hrequired
    rw [mem_missingRequiredTripStops, accompanied_iff, and_iff_right hrequired]
  have hdocuments (x : String) (hx : x ∈ writtenDocuments (tenantPolicy tenantId db) trip)
      (s : String) (hs : normalizeRequiredDocument x = transportDocumentPrefix ++ s) :
      (normalizeRequiredDocument x ∈ missingRequiredCargoDocuments tenantId trip db ↔
          ∀ t ∈ transportDocumentTypes tenantId trip db,
            normalizeRequiredDocument t ≠ normalizeRequiredDocument s) ↔
        if strip s = "" then
          ∀ t ∈ transportDocumentTypes tenantId trip db,
            normalizeRequiredDocument t ≠ normalizeRequiredDocument s
        else
          Accompanied (transportDocumentTypes tenantId trip db) (normalizeRequiredDocument s) := by
    rw [mem_missingRequiredCargoDocuments_typed hx hs]
    by_cases hblank : strip s = ""
    · rw [if_pos hblank, iff_true_left fun h => absurd hblank h]
    · rw [if_neg hblank, accompanied_iff, imp_iff_right hblank]
  constructor
  · intro h
    exact ⟨fun x hx => (hstops x hx).mp (h.stops x hx),
      fun x hx s hs => (hdocuments x hx s hs).mp (h.documents x hx s hs)⟩
  · intro h
    exact ⟨fun x hx => (hstops x hx).mpr (h.stops x hx),
      fun x hx s hs => (hdocuments x hx s hs).mpr (h.documents x hx s hs)⟩

end

/-! ## A stop sent with a blank -/

def borderTrip : Trip := { id := 2, tenantId := 1, vehicleId := 1, origin := "Beira"
                           destination := "Harare" }

/-- The stop the policy asks for is on file, with a blank before its name. -/
def blankBorder : Db where
  tenants := .single
    { id := 1, name := "Rotas", compliancePolicy := { tripRequiredStops := ["Border"] } }
  trips := .single borderTrip
  tripStops := .single { id := 3, tenantId := 1, tripId := 2, stopType := " border" }

theorem border_not_met : ¬ @MetByName Locale.chars 1 borderTrip blankBorder := by
  let := Locale.chars
  intro h
  have hwritten : "Border" ∈ writtenStops (tenantPolicy 1 blankBorder) borderTrip := by
    decide +kernel
  have hmissing : normalizeRequiredDocument "Border" ∈
      missingRequiredTripStops 1 borderTrip blankBorder := by
    decide +kernel
  have hsame : normalizeRequiredDocument " border" = normalizeRequiredDocument "Border" := by
    decide +kernel
  have hfiled : " border" ∈ stopTypes 1 borderTrip blankBorder := by
    decide +kernel
  exact (h.stops "Border" hwritten).mp hmissing " border" hfiled hsame

end Rotas
