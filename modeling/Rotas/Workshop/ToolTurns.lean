import Rotas.Lib.Interleave
import Rotas.Workshop.WorkOrders

/-!
# Rotas.Workshop.ToolTurns

Checkouts, returns, creations and updates of tools as transactions that run at the same time. Each
read sees what is committed at that instant; what a transaction writes takes effect when it commits.

* `ToolLock`  — the rows that are held: a checkout holds its tool from reading it on, a return its
  checkout and then the tool; an update holds nothing between its read and its commit.
* `ToolPhase`, `ToolAction`, `toolTurn` — the steps of a transaction.
* `lend`, `takeBack`, `ToolUpdateRequest.write` — what is written.

What the other services do to the work orders and to the rest of the workshop is any change that
leaves the tools and their checkouts alone.
-/

namespace Rotas

open Interleave

inductive ToolLock where
  | tool (id : UUID)
  | checkout (id : UUID)
  deriving DecidableEq

/-! ## Requests -/

structure Lending where
  tenantId : UUID
  workOrderId : UUID
  payload : ToolCheckoutCreate
  actorId : Option UUID := none

structure TakingBack where
  tenantId : UUID
  checkoutId : UUID
  payload : ToolReturnCreate
  actorId : Option UUID := none

structure WorkshopToolCreate where
  code : String
  name : String
  isCritical : Bool := false
  calibrationDueAt : Option Instant := none

structure ToolUpdateRequest where
  status : Option String := none
  location : Option String := none
  calibrationIntervalDays : Option Int := none
  category : Option String := none

/-! ## What is written -/

theorem key_toolStatus (status : ToolStatus) (t : WorkshopTool) :
    Keyed.key { t with status } = Keyed.key t := rfl

def lend (r : Lending) (tool : WorkshopTool) (db : Warehouse) : Warehouse :=
  { db with
    tools := db.tools.modify tool.id (fun t => { t with status := .checkedOut })
      (key_toolStatus .checkedOut)
    toolCheckouts := db.toolCheckouts.insert fun id =>
      { id, tenantId := r.tenantId, workOrderId := r.workOrderId, toolId := r.payload.toolId
        checkoutReference := r.payload.checkoutReference, checkedOutBy := r.actorId
        checkedOutAt := r.payload.checkedOutAt, dueAt := r.payload.dueAt
        notes := r.payload.notes } }

def returnedCheckout (r : TakingBack) (condition : ToolStatus) (c : ToolCheckout) : ToolCheckout :=
  { c with
    status := .returned
    returnReference := some r.payload.returnReference
    returnedBy := r.actorId
    returnedAt := some r.payload.returnedAt
    returnCondition := some condition
    notes := (truthy r.payload.notes).or c.notes }

theorem key_returnedCheckout (r : TakingBack) (condition : ToolStatus) (c : ToolCheckout) :
    Keyed.key (returnedCheckout r condition c) = Keyed.key c := rfl

def takeBack (r : TakingBack) (condition : ToolStatus) (item : ToolCheckout) (tool : WorkshopTool)
    (db : Warehouse) : Warehouse :=
  { db with
    toolCheckouts := db.toolCheckouts.modify item.id (returnedCheckout r condition)
      (key_returnedCheckout r condition)
    tools := db.tools.modify tool.id (fun t => { t with status := condition })
      (key_toolStatus condition) }

/-- The status of that name. -/
def ToolStatus.ofText : String → Option ToolStatus
  | "available" => some .available
  | "checked_out" => some .checkedOut
  | "damaged" => some .damaged
  | "lost" => some .lost
  | "retired" => some .retired
  | _ => none

/-- A column is written if the session has given it another value than the one it read. -/
def written {α : Type} [DecidableEq α] (given : Option α) (seen row : α) : α :=
  match given with
  | some value => if value = seen then row else value
  | none => row

/-- `update_tool`, on the row as it is when the update comes to it. -/
def ToolUpdateRequest.write (data : ToolUpdateRequest) (seen row : WorkshopTool) : WorkshopTool :=
  { row with
    status := written (data.status.bind ToolStatus.ofText) seen.status row.status
    location := written (data.location.map some) seen.location row.location
    calibrationIntervalDays := written (data.calibrationIntervalDays.map some)
      seen.calibrationIntervalDays row.calibrationIntervalDays
    category := written (data.category.map some) seen.category row.category }

def updateTool (data : ToolUpdateRequest) (seen : WorkshopTool) (db : Warehouse) : Warehouse :=
  { db with tools := db.tools.modify seen.id (data.write seen) }

/-- The constraint on the status lets it through, and the columns hold the texts and the number. -/
def ToolUpdateRequest.fits (data : ToolUpdateRequest) : Bool :=
  data.status.all (fun s => (ToolStatus.ofText s).isSome) &&
    data.location.all (fun s => decide (s.length ≤ 120)) &&
    data.calibrationIntervalDays.all (fun days => decide (days < 2 ^ 31)) &&
    data.category.all fun s => decide (s.length ≤ 40)

def createTool (tenantId : UUID) (payload : WorkshopToolCreate) (db : Warehouse) : Warehouse :=
  { db with
    tools := db.tools.insert fun id =>
      { id, tenantId, code := payload.code, name := payload.name, isCritical := payload.isCritical
        calibrationDueAt := payload.calibrationDueAt } }

/-- The tenant has a tool of the code. -/
def Warehouse.hasToolCode (db : Warehouse) (tenantId : UUID) (code : String) : Bool :=
  db.tools.rows.any fun t => t.tenantId = tenantId && t.code = code

/-! ## Turns -/

inductive ToolPhase where
  | idle
  /-- The reference is not used yet. -/
  | asked (r : Lending)
  /-- The work order is in progress. -/
  | ordered (r : Lending)
  /-- The tool is available and its row is held. -/
  | lent (r : Lending) (tool : WorkshopTool)
  /-- The checkout is not returned and its row is held. -/
  | returning (r : TakingBack) (condition : ToolStatus) (item : ToolCheckout)
  /-- The row of the tool is held as well. -/
  | taking (r : TakingBack) (condition : ToolStatus) (item : ToolCheckout) (tool : WorkshopTool)
  | creating (tenantId : UUID) (payload : WorkshopToolCreate)
  /-- The tool is read, and nothing is held. -/
  | updating (data : ToolUpdateRequest) (seen : WorkshopTool)

inductive ToolAction where
  | checkoutTool (r : Lending)
  | readOrder
  | lockTool (now : Instant)
  | returnTool (r : TakingBack)
  | createTool (tenantId : UUID) (payload : WorkshopToolCreate)
  | updateTool (tenantId toolId : UUID) (data : ToolUpdateRequest)
  | commit
  | rollback
  /-- What the other services do to the workshop, the transitions of the work orders among it. -/
  | elsewhere (edit : Warehouse → Warehouse)

structure ToolStore where
  db : Warehouse
  locks : Locks ToolLock := fun _ => none

def ToolStore.abort (s : ToolStore) (i : Nat) : ToolStore :=
  { s with locks := s.locks.release i }

/-- The end of the transaction, with the writes that the database takes. -/
def ToolStore.finish (s : ToolStore) (i : Nat) (ok : Bool) (db : Warehouse) :
    ToolStore × ToolPhase :=
  if ok then ({ db, locks := s.locks.release i }, .idle) else (s.abort i, .idle)

/-- The row is taken for the next phase. -/
def ToolStore.hold (s : ToolStore) (i : Nat) (row : ToolLock) (p : ToolPhase) :
    ToolStore × ToolPhase :=
  ({ s with locks := s.locks.take i row }, p)

/-- The row of a tool of the tenant, as it is committed. -/
def Warehouse.tool (db : Warehouse) (tenantId toolId : UUID) : Option WorkshopTool :=
  (db.tools.get toolId).filter (·.tenantId = tenantId)

/-- The turn of transaction `i`; `none` when it waits for a row or the step is not its next. -/
def toolTurn (i : Nat) (act : ToolAction) (s : ToolStore) (p : ToolPhase) :
    Option (ToolStore × ToolPhase) :=
  match act, p with
  | .checkoutTool r, .idle =>
    -- A reference that is used is answered or refused, and nothing is written.
    match findCheckout r.tenantId r.payload.checkoutReference s.db with
    | some _ => some (s.abort i, .idle)
    | none => some (s, .asked r)
  | .readOrder, .asked r =>
    match requireWorkOrder r.tenantId r.workOrderId s.db with
    | .error _ => some (s.abort i, .idle)
    | .ok workOrder =>
      if workOrder.status = .inProgress then some (s, .ordered r) else some (s.abort i, .idle)
  | .lockTool now, .ordered r =>
    match s.db.tool r.tenantId r.payload.toolId with
    | none => some (s.abort i, .idle)
    | some tool =>
      if s.locks.available i (.tool tool.id) then
        match checkTool now tool with
        | .error _ => some (s.abort i, .idle)
        | .ok _ => some (s.hold i (.tool tool.id) (.lent r tool))
      else none
  | .commit, .lent r tool => some (s.finish i (lend r tool s.db).ordersOk (lend r tool s.db))
  | .returnTool r, .idle =>
    match returnCondition r.payload.returnCondition with
    | none => some (s.abort i, .idle)
    | some condition =>
      match (s.db.toolCheckouts.get r.checkoutId).filter (·.tenantId = r.tenantId) with
      | none => some (s.abort i, .idle)
      | some item =>
        if s.locks.available i (.checkout item.id) then
          if item.status = .returned then some (s.abort i, .idle)
          else some (s.hold i (.checkout item.id) (.returning r condition item))
        else none
  | .lockTool _, .returning r condition item =>
    match s.db.tool r.tenantId item.toolId with
    | none => some (s.abort i, .idle)
    | some tool =>
      if s.locks.available i (.tool tool.id) then
        some (s.hold i (.tool tool.id) (.taking r condition item tool))
      else none
  | .commit, .taking r condition item tool =>
    some (s.finish i true (takeBack r condition item tool s.db))
  | .createTool tenantId payload, .idle =>
    if s.db.hasToolCode tenantId payload.code then some (s.abort i, .idle)
    else some (s, .creating tenantId payload)
  | .commit, .creating tenantId payload =>
    some (s.finish i (!s.db.hasToolCode tenantId payload.code)
      (Rotas.createTool tenantId payload s.db))
  | .updateTool tenantId toolId data, .idle =>
    match s.db.tool tenantId toolId with
    | none => some (s.abort i, .idle)
    | some tool => some (s, .updating data tool)
  | .commit, .updating data seen =>
    if s.locks.available i (.tool seen.id) then
      some (s.finish i data.fits (updateTool data seen s.db))
    else none
  | .rollback, _ => some (s.abort i, .idle)
  | .elsewhere edit, p =>
    some ({ s with db := { edit s.db with
      tools := s.db.tools, toolCheckouts := s.db.toolCheckouts } }, p)
  | _, _ => none

end Rotas
