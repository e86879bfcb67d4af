import Rotas.DriverApp.Queue
import Rotas.Lib.Interleave

/-!
# Rotas.DriverApp.SyncTurns

Calls of `processSyncQueue`, from one `await` to the next. Operations and photos are queued at any
time between the turns, and the app is terminated at any of them.

* `Stage`    — where a call is with the operation that it sends.
* `Ending`   — how the operation comes out, and what is then written.
* `syncTurn` — the turns.

The device also has what was queued, what the server answered, and the failures that were counted.
-/

namespace Rotas
namespace DriverApp

open Interleave

/-- How an operation comes out of `syncItem`. -/
inductive Ending where
  | answered (result : SyncResult)
  | threw (error : String)

inductive Stage where
  /-- The photos are read next. -/
  | photos
  /-- A photo is marked next. -/
  | photo (payload : Payload) (photo : PhotoQueueItem) (rest : List PhotoQueueItem)
  /-- A photo is on its way. -/
  | upload (payload : Payload) (photo : PhotoQueueItem) (rest : List PhotoQueueItem)
  | uploadRefused (photo : PhotoQueueItem) (status : Nat)
  | uploaded (payload : Payload) (photo : PhotoQueueItem) (fileId : String)
      (rest : List PhotoQueueItem)
  /-- The payload is written back next. -/
  | packed (payload : Payload)
  | posting (payload : Payload)
  /-- The operation is on its way. -/
  | posted (request : SyncRequest)
  /-- The fuel log is read next. -/
  | ended (e : Ending)
  | logged (e : Ending) (fuelLogId : Nat)
  /-- The operation is written next. -/
  | closing (e : Ending)

inductive Phase where
  | idle
  /-- The operations that are left. -/
  | ready (todo : List SyncQueueItem)
  | sending (item : SyncQueueItem) (stage : Stage) (todo : List SyncQueueItem)

inductive Action where
  | queueOperation (o : NewOperation) (idempotencyKey : String)
  | queueFuelLog (log : FuelLogInput) (createdAt idempotencyKey : String)
  | addPhoto (photo : PhotoQueueItem)
  | configure (tenantId deviceId : Option String)
  /-- `processSyncQueue` is called. -/
  | process
  | next
  | uploadReply (reply : Reply String)
  | batchReply (reply : Reply (List SyncResult))
  | terminate

structure Device where
  db : DriverDb := {}
  tenantId : Option String := none
  deviceId : Option String := none
  queued : List SyncQueueItem := []
  answers : List (SyncRequest × SyncResult) := []
  /-- The operations of the failures that were counted. -/
  failures : List Nat := []

def Device.queueOperation (d : Device) (o : NewOperation) (idempotencyKey : String) : Device :=
  { d with
    db := d.db.queueOperation o idempotencyKey
    queued := d.queued ++ [o.item idempotencyKey d.db.nextId] }

def Device.queueFuelLog (d : Device) (log : FuelLogInput) (createdAt idempotencyKey : String) :
    Device :=
  { d with
    db := d.db.queueFuelLog log createdAt idempotencyKey
    queued := d.queued ++ [(log.operation createdAt).item idempotencyKey d.db.nextId] }

/-! ## The stages of an operation -/

/-- The photos of the payload from the first one that the server does not have. -/
def nextPhoto (item : SyncQueueItem) (payload : Payload) : List PhotoQueueItem → Stage
  | [] => .packed payload
  | photo :: rest =>
    match truthy photo.serverFileId with
    | some fileId => nextPhoto item
        (applyPhotoFileId payload item.entityType photo.fileType fileId photo.fieldKey) rest
    | none => .photo payload photo rest

/-- Before the operation is written, the fuel log of a refuelling is. -/
def Ending.stage (e : Ending) (item : SyncQueueItem) : Stage :=
  if item.entityType = .fuelLog then .ended e else .closing e

/-- Where an operation goes once it is marked. -/
def firstStage (item : SyncQueueItem) (tenantId : Option String) : Stage :=
  if (truthy tenantId).isNone then (Ending.threw "tenant_not_configured").stage item
  else if item.entityType.hasPhotos then .photos
  else .posting item.payload

def Ending.fuelStatus : Ending → SyncStatus
  | .answered result =>
    if result.status = "processed" then .synced
    else if result.status = "conflict" then .conflict
    else .failed
  | .threw _ => .retrying

/-- The last write of `syncItem`; the retries are counted from what was selected. -/
def Ending.close (e : Ending) (item : SyncQueueItem) (db : DriverDb) : DriverDb :=
  match e with
  | .answered result =>
    if result.status = "processed" then db.deleteItem item.id
    else db.updateItem item.id fun row => { row with
      status := if result.status = "conflict" then .conflict else .failed
      lastError := some ((result.message.or result.errorCode).getD "sync_failed") }
  | .threw error => db.updateItem item.id fun row => { row with
      status := .retrying, retryCount := item.retryCount + 1, lastError := some error }

/-- The failure that the last write counts. -/
def Ending.failures (e : Ending) (item : SyncQueueItem) : List Nat :=
  match e with
  | .answered _ => []
  | .threw _ => [item.id]

def markSyncing (row : SyncQueueItem) : SyncQueueItem := { row with status := .syncing }

/-- What the answer to a batch of one operation comes to. -/
def batchEnding : Reply (List SyncResult) → Ending
  | .threw error => .threw error
  | .notOk status => .threw ("HTTP " ++ toString status)
  | .ok [] => .threw "Cannot read properties of undefined (reading 'status')"
  | .ok (result :: _) => .answered result

/-- The first result that the server returned. -/
def answersOf (request : SyncRequest) : Reply (List SyncResult) → List (SyncRequest × SyncResult)
  | .ok (result :: _) => [(request, result)]
  | _ => []

/-! ## The turns -/

/-- The next step of a call with the operation that it sends. -/
def sendTurn (act : Action) (d : Device) (item : SyncQueueItem) (stage : Stage) :
    Option (Device × Option Stage) :=
  match act, stage with
  | .next, .photos =>
    some (d, some (nextPhoto item item.payload
      (d.db.photoQueue.filter fun p => p.entityLocalId = item.localId)))
  | .next, .photo payload photo rest =>
    some ({ d with db := d.db.updatePhoto photo.id fun p => { p with status := .syncing } },
      some (.upload payload photo rest))
  | .uploadReply (.threw error), .upload _ _ _ => some (d, some ((Ending.threw error).stage item))
  | .uploadReply (.notOk status), .upload _ photo _ => some (d, some (.uploadRefused photo status))
  | .uploadReply (.ok fileId), .upload payload photo rest =>
    some (d, some (.uploaded payload photo fileId rest))
  | .next, .uploadRefused photo status =>
    some ({ d with db := d.db.updatePhoto photo.id fun p =>
        { p with status := .retrying, retryCount := photo.retryCount + 1 } },
      some ((Ending.threw ("photo_upload_failed_" ++ toString status)).stage item))
  | .next, .uploaded payload photo fileId rest =>
    some ({ d with db := d.db.updatePhoto photo.id fun p =>
        { p with status := .synced, serverFileId := some fileId } },
      some (nextPhoto item
        (applyPhotoFileId payload item.entityType photo.fileType fileId photo.fieldKey) rest))
  | .next, .packed payload =>
    some ({ d with db := d.db.updateItem item.id fun row => { row with payload } },
      some (.posting payload))
  | .next, .posting payload => some (d, some (.posted (item.request d.deviceId payload)))
  | .batchReply reply, .posted request =>
    some ({ d with answers := d.answers ++ answersOf request reply },
      some ((batchEnding reply).stage item))
  | .next, .ended e =>
    match d.db.pendingFuelLogs.find? fun l => l.input.localId = item.localId with
    | some l => some (d, some (.logged e l.id))
    | none => some (d, some (.closing e))
  | .next, .logged e fuelLogId =>
    some ({ d with db := d.db.updateFuelLog fuelLogId e.fuelStatus }, some (.closing e))
  | .next, .closing e =>
    some ({ d with db := e.close item d.db, failures := d.failures ++ e.failures item }, none)
  | _, _ => none

/-- The turn of a call; `none` when the step is not its next. -/
def syncTurn (_ : Nat) (act : Action) (d : Device) (p : Phase) : Option (Device × Phase) :=
  match act, p with
  | .queueOperation o key, p => some (d.queueOperation o key, p)
  | .queueFuelLog log createdAt key, p => some (d.queueFuelLog log createdAt key, p)
  | .addPhoto photo, p => some ({ d with db.photoQueue := d.db.photoQueue ++ [photo] }, p)
  | .configure tenantId deviceId, p => some ({ d with tenantId, deviceId }, p)
  | .process, .idle => some (d, .ready d.db.selected)
  | .next, .ready [] => some (d, .idle)
  | .next, .ready (item :: todo) =>
    some ({ d with db := d.db.updateItem item.id markSyncing },
      .sending item (firstStage item d.tenantId) todo)
  | .terminate, _ => some (d, .idle)
  | act, .sending item stage todo =>
    (sendTurn act d item stage).map fun (d, stage) =>
      match stage with
      | some stage => (d, .sending item stage todo)
      | none => (d, .ready todo)
  | _, _ => none

/-- A new device. -/
def deviceStart : Config Device Phase := ⟨{}, fun _ => .idle⟩

def deviceRun (ms : List (Nat × Action)) : Config Device Phase :=
  Run.exec (move syncTurn) deviceStart ms

end DriverApp
end Rotas
