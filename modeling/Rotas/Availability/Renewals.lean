import Rotas.Availability.Service

/-!
# Rotas.Availability.Renewals

The documents of the fleet and their renewal. The documents of a vehicle or a driver are one JSON
object, and the object of each document is shared between the row and its new documents.

* `putEntry`        — `entries[key] = value`, in its place.
* `DocumentText`    — the texts of dates, times and ids.
* `renewVehicleDocument`, `renewDriverDocument` — the renewals.
* `savedVehicleDocuments`, `savedDriverDocuments` — what the database is given of them.
-/

namespace Rotas

/-! ## Entries -/

/-- `entries[key] = value`: an entry that is there is rewritten in its place. -/
def putEntry : Payload → String → Json → Payload
  | [], key, value => [(key, value)]
  | e :: entries, key, value =>
    if e.1 = key then (key, value) :: entries else e :: putEntry entries key value

theorem get?_putEntry (entries : Payload) (key k : String) (value : Json) :
    Json.get? (putEntry entries key value) k =
      if k = key then some value else Json.get? entries k := by
  induction entries with
  | nil =>
    rw [putEntry, get?_cons]
    by_cases hk : k = key
    · rw [if_pos hk.symm, if_pos hk]
    · rw [if_neg fun heq => hk heq.symm, if_neg hk]
  | cons e entries ih =>
    rw [putEntry]
    split
    · next he =>
      rw [get?_cons, get?_cons, he]
      by_cases hk : k = key
      · rw [if_pos hk.symm, if_pos hk]
      · rw [if_neg fun heq => hk heq.symm, if_neg hk, if_neg fun heq => hk heq.symm]
    · next he =>
      rw [get?_cons, get?_cons, ih]
      by_cases hk : k = key
      · subst hk
        rw [if_neg he, if_pos rfl, if_pos rfl]
      · rw [if_neg hk, if_neg hk]

theorem putEntry_append_of_mem {entries : Payload} {key : String} (h : key ∈ entries.map Prod.fst)
    (value : Json) (rest : Payload) :
    putEntry (entries ++ rest) key value = putEntry entries key value ++ rest := by
  induction entries with
  | nil => cases h
  | cons e entries ih =>
    rw [List.cons_append, putEntry, putEntry]
    by_cases he : e.1 = key
    · rw [if_pos he, if_pos he, List.cons_append]
    · rcases List.mem_cons.mp h with hkey | hmem
      · exact absurd hkey.symm he
      · rw [if_neg he, if_neg he, ih hmem, List.cons_append]

theorem putEntry_append_of_not_mem {entries : Payload} {key : String}
    (h : key ∉ entries.map Prod.fst) (value : Json) (rest : Payload) :
    putEntry (entries ++ rest) key value = entries ++ putEntry rest key value := by
  induction entries with
  | nil => rfl
  | cons e entries ih =>
    rw [List.map_cons, List.mem_cons, not_or] at h
    rw [List.cons_append, putEntry, if_neg fun heq => h.1 heq.symm, ih h.2, List.cons_append]

theorem map_fst_putEntry (entries : Payload) (key : String) (value : Json) :
    (putEntry entries key value).map Prod.fst =
      if key ∈ entries.map Prod.fst then entries.map Prod.fst else entries.map Prod.fst ++ [key] := by
  induction entries with
  | nil => rfl
  | cons e entries ih =>
    rw [putEntry]
    by_cases he : e.1 = key
    · rw [if_pos he, List.map_cons, List.map_cons, he, if_pos List.mem_cons_self]
    · have hmem : key ∈ e.1 :: entries.map Prod.fst ↔ key ∈ entries.map Prod.fst := by
        rw [List.mem_cons]
        exact or_iff_right fun heq => he heq.symm
      rw [if_neg he, List.map_cons, ih, List.map_cons, if_congr hmem rfl rfl]
      split <;> rfl

theorem nodup_putEntry {entries : Payload} (h : (entries.map Prod.fst).Nodup) (key : String)
    (value : Json) : ((putEntry entries key value).map Prod.fst).Nodup := by
  rw [map_fst_putEntry]
  split
  · exact h
  · next hkey =>
    rw [← List.concat_eq_append]
    exact h.concat hkey

theorem forall_mem_putEntry {entries : Payload} (hnodup : (entries.map Prod.fst).Nodup)
    {key : String} (hkey : key ∈ entries.map Prod.fst) {value : Json} {P : String × Json → Prop}
    (hP : P (key, value)) :
    (∀ e ∈ putEntry entries key value, P e) ↔ ∀ e ∈ entries, e.1 ≠ key → P e := by
  induction entries with
  | nil => cases hkey
  | cons e entries ih =>
    rw [List.map_cons, List.nodup_cons] at hnodup
    rw [putEntry]
    by_cases he : e.1 = key
    · subst he
      rw [if_pos rfl, List.forall_mem_cons, List.forall_mem_cons]
      simp only [hP, true_and, ne_eq, not_true_eq_false, false_imp_iff]
      refine forall₂_congr fun e' he' => ?_
      have hne : e'.1 ≠ e.1 := fun heq => hnodup.1 (heq ▸ List.mem_map_of_mem he')
      exact ⟨fun h _ => h, fun h => h hne⟩
    · rw [if_neg he, List.forall_mem_cons, List.forall_mem_cons]
      have hrest : key ∈ entries.map Prod.fst := (List.mem_cons.mp hkey).resolve_left fun h => he h.symm
      rw [ih hnodup.2 hrest, forall_prop_of_true he]

/-! ## The archive -/

/-- The texts of the language, as far as documents have them. -/
class DocumentText extends Interpreter where
  /-- `date.isoformat()` of a day. -/
  isoformat : Int → String
  /-- `date.fromisoformat`, in days since 1970-01-01; none where it raises `ValueError`. -/
  dateFromisoformat : String → Option Int
  /-- `datetime.isoformat()`. -/
  timestamp : Instant → String
  /-- `str(id)`. -/
  uuid : UUID → String
  length_isoformat : ∀ day, (isoformat day).length = 10
  length_uuid : ∀ id, (uuid id).length = 36

structure File where
  id : UUID
  tenantId : UUID
  entityType : Option String := none
  entityId : Option UUID := none

/-- A driver with the papers. -/
structure DocumentedDriver extends Driver where
  licenseNumber : Option String := none
  passportNumber : Option String := none
  biNumber : Option String := none
  documents : Payload := []

instance : Keyed File := ⟨File.id⟩
instance : Keyed DocumentedDriver := ⟨fun d => d.id⟩

structure Archive where
  files : Table File := ∅
  vehicles : Table Vehicle := ∅
  drivers : Table DocumentedDriver := ∅

/-! ## Renewals -/

/-- `VehicleDocumentRenewalRequest` and `DriverDocumentRenewalRequest`. -/
structure DocumentRenewalRequest where
  validUntil : Int
  fileId : Option UUID := none
  reference : Option String := none
  notes : Option String := none

/-- The file becomes one of the row. -/
def attachFile (tenantId : UUID) (fileId : Option UUID) (entityType : String) (entityId : UUID)
    (files : Table File) : Except Exc (Table File) :=
  match fileId with
  | none => .ok files
  | some fileId => do
    let missing := notFound "file_not_found" "File not found."
    let file ← require (files.get fileId) missing
    raiseIf (file.tenantId ≠ tenantId) missing
    return files.modify fileId
      ({ · with entityType := some entityType, entityId := some entityId })

def textOrNull (s : Option String) : Json := (s.map Json.text).getD .null

/-- The object of a document, if it is one. -/
def documentObject (documents : Payload) (documentType : String) : Payload :=
  match Json.get? documents documentType with
  | some (.object entries) => entries
  | _ => []

section

variable [DocumentText]

open DocumentText

/-- The document as the renewal leaves it. -/
def renewedDocument (now : Instant) (payload : DocumentRenewalRequest) (current : Payload) :
    Payload :=
  let fileId := (payload.fileId.map fun id => Json.text (uuid id)).getD
    ((Json.get? current "file_id").getD .null)
  let current := putEntry current "valid_until" (.text (isoformat payload.validUntil))
  let current := putEntry current "file_id" fileId
  let current := putEntry current "reference" (textOrNull payload.reference)
  let current := putEntry current "notes" (textOrNull payload.notes)
  putEntry current "renewed_at" (.text (timestamp now))

def renewedObject (now : Instant) (documentType : String) (payload : DocumentRenewalRequest)
    (documents : Payload) : Json :=
  .object (renewedDocument now payload (documentObject documents documentType))

/-- The documents of a vehicle have the date of each document once more, under a key of its own. -/
def flatKey (documentType : String) : String := documentType ++ "_valid_until"

def renewedVehicleDocuments (now : Instant) (documentType : String)
    (payload : DocumentRenewalRequest) (documents : Payload) : Payload :=
  putEntry (putEntry documents documentType (renewedObject now documentType payload documents))
    (flatKey documentType) (.text (isoformat payload.validUntil))

/-- The object that is there is changed in place, in the documents of the row as well. They are equal
to the new ones, and these are not written, where the flat date is not new either. -/
def savedVehicleDocuments (now : Instant) (documentType : String) (payload : DocumentRenewalRequest)
    (documents : Payload) : Payload :=
  match Json.get? documents documentType, Json.get? documents (flatKey documentType) with
  | some (.object _), some (.text s) =>
    if s = isoformat payload.validUntil then documents
    else renewedVehicleDocuments now documentType payload documents
  | _, _ => renewedVehicleDocuments now documentType payload documents

/-- The documents of a driver have no flat date: with an object changed in place nothing is new. -/
def savedDriverDocuments (now : Instant) (documentType : String) (payload : DocumentRenewalRequest)
    (documents : Payload) : Payload :=
  match Json.get? documents documentType with
  | some (.object _) => documents
  | _ => putEntry documents documentType (renewedObject now documentType payload documents)

def renewVehicleDocument (now : Instant) (tenantId vehicleId : UUID) (documentType : String)
    (payload : DocumentRenewalRequest) (s : Archive) : Except Exc (UUID × Archive) := do
  let vehicle ← require (s.vehicles.get vehicleId) vehicleNotFound
  raiseIf (vehicle.tenantId ≠ tenantId) vehicleNotFound
  let files ← attachFile tenantId payload.fileId "vehicle_document" vehicle.id s.files
  return (vehicleId, { s with
    files
    vehicles := s.vehicles.modify vehicleId fun v =>
      { v with documents := savedVehicleDocuments now documentType payload v.documents } })

/-- The columns of a driver that a renewal sets, the number where there is a reference. -/
def renewedDriver (now : Instant) (documentType : String) (payload : DocumentRenewalRequest)
    (driver : DocumentedDriver) : DocumentedDriver :=
  let day := some payload.validUntil
  let number (old : Option String) := (truthy payload.reference).or old
  let driver := { driver with
    documents := savedDriverDocuments now documentType payload driver.documents }
  if documentType = "driving_license" then
    { driver with licenseValidUntil := day, licenseNumber := number driver.licenseNumber }
  else if documentType = "passport" then
    { driver with passportValidUntil := day, passportNumber := number driver.passportNumber }
  else if documentType = "bi" then
    { driver with biValidUntil := day, biNumber := number driver.biNumber }
  else driver

def renewDriverDocument (now : Instant) (tenantId driverId : UUID) (documentType : String)
    (payload : DocumentRenewalRequest) (s : Archive) : Except Exc (UUID × Archive) := do
  raiseIf (documentType ∉ ["driving_license", "passport", "bi"])
    (unprocessable "unsupported_driver_document"
      "Supported driver documents are driving_license, passport and bi."
      [("document_type", .text documentType)])
  let driver ← require (s.drivers.get driverId) driverNotFound
  raiseIf (driver.tenantId ≠ tenantId) driverNotFound
  let files ← attachFile tenantId payload.fileId "driver_document" driver.id s.files
  return (driverId, { s with
    files
    drivers := s.drivers.modify driverId (renewedDriver now documentType payload)
      fun d => by unfold renewedDriver; split_ifs <;> rfl })

end

end Rotas
