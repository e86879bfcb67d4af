import Rotas.Core.Errors
import Rotas.Core.Json
import Rotas.Core.Text
import Mathlib.Logic.Function.Basic

/-!
# Rotas.DriverApp.Queue

What the driver app keeps on the device until the server has it.

* `SyncQueueItem`, `PhotoQueueItem`, `PendingFuelLogItem` — the rows.
* `DriverDb.selected` — the operations that a sync takes up.
* `DriverDb.queueOperation`, `DriverDb.queueFuelLog` — the rows of an operation.
* `applyPhotoFileId` — the payload with a photo that the server has.

An object has no entry for a field that is undefined.
-/

namespace Rotas
namespace DriverApp

inductive SyncStatus where
  | localOnly | syncing | synced | retrying | conflict | failed
  deriving DecidableEq

inductive Operation where
  | create | update
  deriving DecidableEq

inductive EntityType where
  | checklist | fuelLog | trip | tripStop | loadPermit | cargoManifest | transportDocument
  | deliveryProof | tripCost
  deriving DecidableEq

def EntityType.text : EntityType → String
  | .checklist => "checklist"
  | .fuelLog => "fuel_log"
  | .trip => "trip"
  | .tripStop => "trip_stop"
  | .loadPermit => "load_permit"
  | .cargoManifest => "cargo_manifest"
  | .transportDocument => "transport_document"
  | .deliveryProof => "delivery_proof"
  | .tripCost => "trip_cost"

inductive FileType where
  | photo | document | signature | receipt
  deriving DecidableEq

structure SyncQueueItem where
  id : Nat
  localId : String
  idempotencyKey : String
  operation : Operation
  entityType : EntityType
  payload : Payload
  retryCount : Nat := 0
  status : SyncStatus := .localOnly
  lastError : Option String := none

structure PhotoQueueItem where
  id : Nat
  entityType : EntityType
  entityLocalId : String
  fieldKey : Option String
  fileType : FileType
  retryCount : Nat := 0
  status : SyncStatus := .localOnly
  serverFileId : Option String := none

/-- What a driver enters at a pump. -/
structure FuelLogInput where
  localId : String
  vehicleId : String
  driverId : String
  stationName : Option String := none
  fuelType : String
  liters : ℚ
  totalCost : ℚ
  kmAtRefuel : ℚ
  paymentMethod : Option String := none
  receiptPhotoLocalId : Option String := none
  odometerPhotoLocalId : Option String := none

structure PendingFuelLogItem where
  id : Nat
  input : FuelLogInput
  status : SyncStatus := .localOnly

/-- The tables; the operations are under keys that count up and never come again. -/
structure DriverDb where
  syncQueue : Nat → Option SyncQueueItem := fun _ => none
  nextId : Nat := 1
  photoQueue : List PhotoQueueItem := []
  pendingFuelLogs : List PendingFuelLogItem := []

/-! ## The queue -/

/-- The operations of `processSyncQueue`, by status and then by key. -/
def DriverDb.selected (db : DriverDb) : List SyncQueueItem :=
  let items := (List.range db.nextId).filterMap db.syncQueue
  (items.filter (·.status = .localOnly) ++ items.filter (·.status = .retrying)).filter
    fun item => item.retryCount < 5

/-- `syncQueue.update(id, …)`, which does nothing without a row. -/
def DriverDb.updateItem (db : DriverDb) (id : Nat) (f : SyncQueueItem → SyncQueueItem) : DriverDb :=
  { db with syncQueue := Function.update db.syncQueue id ((db.syncQueue id).map f) }

def DriverDb.deleteItem (db : DriverDb) (id : Nat) : DriverDb :=
  { db with syncQueue := Function.update db.syncQueue id none }

def DriverDb.updatePhoto (db : DriverDb) (id : Nat) (f : PhotoQueueItem → PhotoQueueItem) :
    DriverDb :=
  { db with photoQueue := db.photoQueue.map fun p => if p.id = id then f p else p }

def DriverDb.updateFuelLog (db : DriverDb) (id : Nat) (status : SyncStatus) : DriverDb :=
  { db with pendingFuelLogs := db.pendingFuelLogs.map fun l =>
      if l.id = id then { l with status } else l }

/-- What a view asks for. -/
structure NewOperation where
  localId : String
  operation : Operation
  entityType : EntityType
  payload : Payload

/-- The row of an operation under its new idempotency key. -/
def NewOperation.item (o : NewOperation) (idempotencyKey : String) (id : Nat) : SyncQueueItem :=
  { id, localId := o.localId, idempotencyKey, operation := o.operation, entityType := o.entityType
    payload := o.payload }

def DriverDb.queueOperation (db : DriverDb) (o : NewOperation) (idempotencyKey : String) :
    DriverDb :=
  { db with
    syncQueue := Function.update db.syncQueue db.nextId (some (o.item idempotencyKey db.nextId))
    nextId := db.nextId + 1 }

/-- An entry for each value that is there. -/
def entries (fields : List (String × Option Json)) : Payload :=
  fields.filterMap fun (key, value) => value.map fun v => (key, v)

def FuelLogInput.operation (log : FuelLogInput) (createdAt : String) : NewOperation where
  localId := log.localId
  operation := .create
  entityType := .fuelLog
  payload := entries [
    ("vehicleId", some (.text log.vehicleId)), ("driverId", some (.text log.driverId)),
    ("fuelDate", some (.text createdAt)), ("stationName", log.stationName.map .text),
    ("fuelType", some (.text log.fuelType)), ("liters", some (.number log.liters)),
    ("totalCost", some (.number log.totalCost)), ("kmAtRefuel", some (.number log.kmAtRefuel)),
    ("paymentMethod", log.paymentMethod.map .text),
    ("receiptPhotoLocalId", log.receiptPhotoLocalId.map .text),
    ("odometerPhotoLocalId", log.odometerPhotoLocalId.map .text),
    ("clientCapturedAt", some (.text createdAt))]

def DriverDb.addFuelLog (db : DriverDb) (log : FuelLogInput) : DriverDb :=
  { db with pendingFuelLogs := db.pendingFuelLogs ++
      [{ id := db.pendingFuelLogs.length + 1, input := log }] }

/-- The two rows of a refuelling, written in one transaction. -/
def DriverDb.queueFuelLog (db : DriverDb) (log : FuelLogInput) (createdAt idempotencyKey : String) :
    DriverDb :=
  (db.addFuelLog log).queueOperation (log.operation createdAt) idempotencyKey

/-! ## Photos -/

/-- The operations that come with photos. -/
def EntityType.hasPhotos : EntityType → Bool
  | .fuelLog | .checklist | .deliveryProof | .loadPermit => true
  | _ => false

/-- `{...value}`. -/
def spread : Json → Payload
  | .object fields => fields
  | .list items => items.zipIdx.map fun (v, i) => (toString i, v)
  | .text s => s.toList.zipIdx.map fun (c, i) => (toString i, .text (String.singleton c))
  | _ => []

/-- A response of a checklist as an object. -/
def responseEntries : Option Json → Payload
  | some (.object fields) => fields
  | some (.list items) => spread (.list items)
  | some value => [("value", value)]
  | none => []

def applyPhotoFileId (payload : Payload) (entityType : EntityType) (fileType : FileType)
    (fileId : String) (fieldKey : Option String) : Payload :=
  match entityType, truthy fieldKey with
  | .checklist, some key =>
    let responses := ((Json.get? payload "responses").map spread).getD []
    let response := setEntry (responseEntries (Json.get? responses key)) "photoFileId" (.text fileId)
    setEntry payload "responses" (.object (setEntry responses key (.object response)))
  | _, _ =>
    if fileType = .receipt then
      (setEntry payload "receiptFileId" (.text fileId)).filter (·.1 ≠ "receiptPhotoLocalId")
    else (setEntry payload "odometerFileId" (.text fileId)).filter (·.1 ≠ "odometerPhotoLocalId")

/-! ## The server -/

/-- The one operation of a batch. -/
structure SyncRequest where
  deviceId : String
  localId : String
  idempotencyKey : String
  operation : Operation
  entityType : EntityType
  payload : Payload

def SyncQueueItem.request (item : SyncQueueItem) (deviceId : Option String) (payload : Payload) :
    SyncRequest where
  deviceId := deviceId.getD "unpaired-device"
  localId := item.localId
  idempotencyKey := item.idempotencyKey
  operation := item.operation
  entityType := item.entityType
  payload

structure SyncResult where
  status : String
  errorCode : Option String := none
  message : Option String := none

/-- What comes of a call of the server. -/
inductive Reply (α : Type) where
  /-- The call fails, or its answer cannot be read. -/
  | threw (error : String)
  | notOk (status : Nat)
  | ok (body : α)

end DriverApp
end Rotas
