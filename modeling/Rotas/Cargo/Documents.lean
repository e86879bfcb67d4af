import Rotas.Availability.Service

/-!
# Rotas.Cargo.Documents

The papers of a trip's cargo, and those its tenant's policy asks for.

* `createLoadPermit`, `createCargoManifest`, `fileTransportDocument` — the services that file one;
  nothing ever changes the status of a paper.
* `requiredCargoDocuments`        — what the policy and the flags of the trip ask for.
* `missingRequiredCargoDocuments` — what of it is not there, cancelled papers not counted.
-/

namespace Rotas

structure LoadPermitCreate where
  permitNumber : Option String := none
  district : Option String := none

structure TransportDocumentCreate where
  documentType : String

/-- A paper of a hazmat trip asks for the declared class first. -/
def createLoadPermit (now : Instant) (tenantId tripId : UUID) (payload : LoadPermitCreate)
    (db : Db) : Except Exc (UUID × Db) := do
  let trip ← requireTrip tenantId tripId db
  raiseIf (trip.isHazmat && strip (trip.hazmatClass.getD "") = "")
    (unprocessable "hazmat_declaration_required"
      ("Trip is marked as hazmat — hazmat_class must be declared on the trip" ++
        " before creating a Load Permit.")
      [("trip_id", .uuid tripId), ("is_hazmat", .bool true)])
  let permit (id : UUID) : LoadPermit :=
    { id, tenantId, tripId, permitNumber := payload.permitNumber, district := payload.district
      createdAt := now }
  return (db.loadPermits.freshKey, { db with loadPermits := db.loadPermits.insert permit })

def createCargoManifest (now : Instant) (tenantId tripId : UUID) (db : Db) :
    Except Exc (UUID × Db) := do
  let _ ← requireTrip tenantId tripId db
  let manifest (id : UUID) : CargoManifest := { id, tenantId, tripId, createdAt := now }
  return (db.cargoManifests.freshKey,
    { db with cargoManifests := db.cargoManifests.insert manifest })

/-- A transport document of the trip, which passes the guard of its type. -/
def fileTransportDocument (documentType status : String) (guard : Trip → Except Exc Unit)
    (now : Instant) (tenantId tripId : UUID) (db : Db) : Except Exc (UUID × Db) := do
  let trip ← requireTrip tenantId tripId db
  guard trip
  let document (id : UUID) : TransportDocument :=
    { id, tenantId, tripId, createdAt := now, documentType, status }
  return (db.transportDocuments.freshKey,
    { db with transportDocuments := db.transportDocuments.insert document })

def createTransportDocument (payload : TransportDocumentCreate) :
    Instant → UUID → UUID → Db → Except Exc (UUID × Db) :=
  fileTransportDocument payload.documentType "pending" fun _ => .ok ()

def createGuiaRemessa : Instant → UUID → UUID → Db → Except Exc (UUID × Db) :=
  fileTransportDocument "guia_remessa" "issued" fun _ => .ok ()

def createCartaPorte : Instant → UUID → UUID → Db → Except Exc (UUID × Db) :=
  fileTransportDocument "carta_porte_internacional" "issued" fun _ => .ok ()

def createDav : Instant → UUID → UUID → Db → Except Exc (UUID × Db) :=
  fileTransportDocument "dav" "issued" fun _ => .ok ()

def createDeclaracaoCargaPerigosa : Instant → UUID → UUID → Db → Except Exc (UUID × Db) :=
  fileTransportDocument "declaracao_carga_perigosa" "issued" fun trip =>
    raiseIf (!trip.isHazmat) (conflict "trip_not_hazmat"
      "Declaração de Carga Perigosa só pode ser emitida para viagens marcadas como hazmat.")

/-! ## What a trip must carry -/

theorem mem_sorted {ss : List String} {s : String} : s ∈ sorted ss ↔ s ∈ ss := by
  simp only [sorted]
  exact (List.mergeSort_perm _ _).mem_iff

section

variable [Locale]

/-- The documents the policy asks of every trip, and those of the trip's cargo type. -/
def requiredCargoDocumentsForTrip (policy : CompliancePolicy) (trip : Trip) : List String :=
  let cargoType := Locale.casefold (strip (trip.cargoType.getD ""))
  let byType := policy.cargoRequiredDocumentsByType.filter fun entry =>
    let key := Locale.casefold (strip entry.1)
    key = cargoType || policyDefaultAliases.contains key
  normalizeStops policy.cargoRequiredDocuments ++ byType.flatMap fun entry => normalizeStops entry.2

/-- Those of the policy, with what the flags of the trip add. -/
def requiredCargoDocuments (policy : CompliancePolicy) (trip : Trip) : List String :=
  requiredCargoDocumentsForTrip policy trip ++
    (if trip.requiresLoadPermit then ["load_permit"] else []) ++
    if trip.requiresCargoManifest then ["cargo_manifest"] else []

def transportDocumentPrefix : String := "transport_document:"

def hasTransportDocument (tenantId tripId : UUID) (documentType : Option String) (db : Db) : Bool :=
  db.transportDocuments.rows.any fun d =>
    d.tenantId = tenantId && d.tripId = tripId && d.status ≠ "cancelled" &&
      documentType.all fun t => Locale.sqlLower d.documentType = Locale.casefold t

/-- A paper of that name is on file; a name the code does not know is never there. -/
def cargoDocumentExists (tenantId tripId : UUID) (document : String) (db : Db) : Bool :=
  if document = "load_permit" then
    db.loadPermits.rows.any fun p =>
      p.tenantId = tenantId && p.tripId = tripId && p.status ≠ "cancelled"
  else if document = "cargo_manifest" then
    db.cargoManifests.rows.any fun m =>
      m.tenantId = tenantId && m.tripId = tripId && m.status ≠ "cancelled"
  else if document = "transport_document" then hasTransportDocument tenantId tripId none db
  else if transportDocumentPrefix.toList.isPrefixOf document.toList then
    let documentType := strip (.ofList (document.toList.drop transportDocumentPrefix.length))
    documentType ≠ "" && hasTransportDocument tenantId tripId (some documentType) db
  else false

/-- `_missing_required_cargo_documents`. -/
def missingRequiredCargoDocuments (tenantId : UUID) (trip : Trip) (db : Db) : List String :=
  (sorted (requiredCargoDocuments (tenantPolicy tenantId db) trip).dedup).filter
    (!cargoDocumentExists tenantId trip.id · db)

/-- Nothing is missing exactly when every required document is on file. -/
theorem missingRequiredCargoDocuments_eq_nil_iff {tenantId : UUID} {trip : Trip} {db : Db} :
    missingRequiredCargoDocuments tenantId trip db = [] ↔
      ∀ d ∈ requiredCargoDocuments (tenantPolicy tenantId db) trip,
        cargoDocumentExists tenantId trip.id d db = true := by
  simp only [missingRequiredCargoDocuments, List.filter_eq_nil_iff, mem_sorted, List.mem_dedup,
    Bool.not_eq_true, Bool.not_eq_false']

end

end Rotas
