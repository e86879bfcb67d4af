import Rotas.Core.IdempotencyTurns

/-!
# Rotas.Sync.Batch

The operations an offline device sends, and what it is answered.

* `SyncOperation`, `SyncResult` — one operation of a batch, and its result.
* `SyncKey` — the row of an operation that was worked on.
* `SyncKey.answer` — what a later operation under its key is answered.
-/

namespace Rotas

/-- The payload is JSON with sorted keys. -/
structure SyncOperation where
  localId : String
  idempotencyKey : String
  operation : String
  entityType : String
  payload : String
  deriving DecidableEq

inductive SyncStatus where
  | processed | failed | conflict
  deriving DecidableEq

structure SyncResult where
  localId : String
  serverId : Option UUID := none
  status : SyncStatus
  entityType : String
  errorCode : Option String := none
  message : Option String := none
  deriving DecidableEq

/-- What `_request_hash` hashes. -/
def SyncOperation.canonical (op : SyncOperation) : Canonical where
  operation := op.operation
  entityType := op.entityType
  payload := op.payload

def SyncOperation.processed (op : SyncOperation) (serverId : UUID) : SyncResult where
  localId := op.localId
  serverId := some serverId
  status := .processed
  entityType := op.entityType

def SyncOperation.refuse (op : SyncOperation) (status : SyncStatus) (errorCode message : String) :
    SyncResult where
  localId := op.localId
  status
  entityType := op.entityType
  errorCode := some errorCode
  message := some message

/-- The columns of an idempotency key that the sync service reads. -/
structure SyncKey where
  requestHash : String
  result : SyncResult
  deriving DecidableEq

/-- `{**cached, "message": cached.get("message") or "idempotent_replay"}`. -/
def SyncResult.replay (r : SyncResult) : SyncResult :=
  { r with message := some ((truthy r.message).getD "idempotent_replay") }

/-- The answer to an operation whose key is stored. -/
def SyncKey.answer (canonicalRequestHash : Canonical → String) (k : SyncKey)
    (op : SyncOperation) : SyncResult :=
  if k.requestHash ≠ canonicalRequestHash op.canonical then
    op.refuse .conflict "idempotency_key_reused"
      "Idempotency key was reused with a different payload."
  else k.result.replay

/-- The answer after the insert of the key was refused. -/
def raceAnswer (canonicalRequestHash : Canonical → String) (k : Option SyncKey)
    (op : SyncOperation) : SyncResult :=
  match k.filter fun k => k.requestHash = canonicalRequestHash op.canonical with
  | some k => { k.result with message := some "idempotent_replay" }
  | none => op.refuse .conflict "idempotency_race_conflict"
      "Idempotency key conflict detected during concurrent sync."

end Rotas
