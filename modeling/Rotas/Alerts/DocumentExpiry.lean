import Rotas.Alerts.Service
import Rotas.Availability.Renewals

/-!
# Rotas.Alerts.DocumentExpiry

The daily scans of the worker for documents that expire within thirty days. Both go over the objects
of the documents and read `expiry_date`. An alert that is refused is skipped; a date that is no text
ends the scan of the vehicles.

* `readVehicleExpiry`, `readDriverExpiry` — the date of a document.
* `scanExpiry`    — the documents that expire, in the order of the scan.
* `vehicleAlerts`, `driverAlerts` — the alerts that the scan of a day asks for.
-/

namespace Rotas

open DocumentText

/-- An entry of the documents of a vehicle or a driver, which has the plate if it is a vehicle. -/
structure HeldDocument where
  tenantId : UUID
  holderId : UUID
  plate : String := ""
  docType : String
  data : Json

def Vehicle.heldDocuments (v : Vehicle) : List HeldDocument :=
  v.documents.map fun (docType, data) =>
    { tenantId := v.tenantId, holderId := v.id, plate := v.plate, docType, data }

def DocumentedDriver.heldDocuments (d : DocumentedDriver) : List HeldDocument :=
  d.documents.map fun (docType, data) =>
    { tenantId := d.tenantId, holderId := d.id, docType, data }

/-- `doc_data.get("expiry_date")` of an object, if there is something in it. -/
def expiryEntry : Json → Option Json
  | .object entries => (Json.get? entries "expiry_date").filter Json.truthy
  | _ => none

variable [DocumentText]

def readVehicleExpiry (data : Json) : Except Exc (Option Int) :=
  match expiryEntry data with
  | none => .ok none
  | some (.text s) => .ok (dateFromisoformat s)
  | some _ => .error .typeError

/-- The date is read from the text of whatever there is. -/
def readDriverExpiry (data : Json) : Except Exc (Option Int) :=
  .ok ((expiryEntry data).bind fun value => dateFromisoformat value.str)

/-- The documents whose date is between the day and thirty days ahead, with their dates. -/
def scanExpiry (read : Json → Except Exc (Option Int)) (today : Int) :
    List HeldDocument → List (HeldDocument × Int)
  | [] => []
  | doc :: docs =>
    match read doc.data with
    | .error _ => []
    | .ok none => scanExpiry read today docs
    | .ok (some day) =>
      if today ≤ day ∧ day ≤ today + 30 then (doc, day) :: scanExpiry read today docs
      else scanExpiry read today docs

def expiryPriority (today day : Int) : String := if day - today ≤ 7 then "critical" else "high"

def vehicleExpiryAlert (today : Int) (doc : HeldDocument) (day : Int) : AlertCreate where
  requestReference :=
    "vehicle_doc:" ++ uuid doc.holderId ++ ":" ++ doc.docType ++ ":" ++ isoformat day
  alertType := "vehicle_document_expiring_soon"
  priority := expiryPriority today day
  entityType := some "vehicle"
  entityId := some doc.holderId
  title := "Documento de viatura a expirar: " ++ doc.docType
  message := some ("Documento '" ++ doc.docType ++ "' da viatura " ++ doc.plate ++ " expira em " ++
    toString (day - today) ++ " dia(s) (" ++ isoformat day ++ ").")
  channel := "dashboard"

def driverExpiryAlert (today : Int) (doc : HeldDocument) (day : Int) : AlertCreate where
  requestReference :=
    "driver_doc:" ++ uuid doc.holderId ++ ":" ++ doc.docType ++ ":" ++ isoformat day
  alertType := "driver_document_expiring_soon"
  priority := expiryPriority today day
  entityType := some "driver"
  entityId := some doc.holderId
  title := "Documento a vencer — " ++ doc.docType
  message := some ("Documento '" ++ doc.docType ++ "' do motorista vence em " ++
    toString (day - today) ++ " dia(s) (" ++ isoformat day ++ ").")
  channel := "dashboard"

/-- The alerts that are asked for; one that its schema refuses is not. -/
def askedAlerts (read : Json → Except Exc (Option Int))
    (alert : Int → HeldDocument → Int → AlertCreate) (today : Int) (docs : List HeldDocument) :
    List (HeldDocument × AlertCreate) :=
  ((scanExpiry read today docs).map fun (doc, day) => (doc, alert today doc day)).filter (·.2.valid)

def vehicleAlerts (today : Int) (vehicles : Table Vehicle) : List (HeldDocument × AlertCreate) :=
  askedAlerts readVehicleExpiry vehicleExpiryAlert today (vehicles.rows.flatMap Vehicle.heldDocuments)

def driverAlerts (today : Int) (drivers : Table DocumentedDriver) :
    List (HeldDocument × AlertCreate) :=
  askedAlerts readDriverExpiry driverExpiryAlert today
    (drivers.rows.flatMap DocumentedDriver.heldDocuments)

end Rotas
