import Rotas.Alerts.Service
import Rotas.Workshop.Data

/-!
# Rotas.OperationalExceptions.Service

The exceptions of a tenant's operation, and what is sent to the governance engine about them.

* `ensureException`  — the active exception of a kind for an entity: the one that is there, or a new
  one with its alert and, from a high severity on, an event for the governance engine.
* `ensure_of_active` — an exception that is there is left as it is, whatever was asked for.
* `ensure_new`, `ensure_refused` — otherwise it is made as asked for, unless its texts are too long.

An event is scheduled when its exception is made, before anything is committed.
-/

namespace Rotas

inductive ExceptionStatus where
  | opened | acknowledged | resolved
  deriving DecidableEq

/-- The arguments of `ensure_exception`. -/
structure ExceptionRequest where
  entityType : String
  entityId : UUID
  exceptionType : String
  severity : Severity
  title : String
  message : String
  context : List (String × Detail) := []
  sourceType : Option String := none
  sourceId : Option UUID := none

structure OperationalException extends ExceptionRequest where
  id : UUID
  tenantId : UUID
  status : ExceptionStatus := .opened
  createdAt : Instant

instance : Keyed OperationalException := ⟨OperationalException.id⟩

/-- The trips' database with the exceptions and the alerts. -/
structure ExceptionDb extends Db where
  operationalExceptions : Table OperationalException := ∅
  alerts : Table Alert := ∅

def Severity.name : Severity → String
  | .low => "low"
  | .medium => "medium"
  | .high => "high"
  | .critical => "critical"

/-! ## Events -/

/-- `_SEVERITY_MAP`. -/
def governanceSeverity : Severity → String
  | .low => "baixa"
  | .medium => "media"
  | .high => "alta"
  | .critical => "critica"

/-- `_TYPE_MAP`. -/
def governanceTypes : List (String × String) :=
  [("vehicle_breakdown", "vehicle.breakdown"), ("trip_incident", "trip.incident"),
    ("fuel_anomaly", "fuel.anomaly"), ("cargo_damage", "cargo.damage"),
    ("document_expired", "document.expired"), ("driver_infraction", "driver.infraction"),
    ("route_deviation", "trip.route_deviation"),
    ("overdue_checklist", "vehicle.overdue_checklist")]

/-- An event with its one entity, the subject. -/
structure GovernanceEvent where
  eventType : String
  severity : String
  title : String
  description : String
  occurredAt : Instant
  entityType : String
  externalId : String
  displayName : String
  snapshot : List (String × Detail)
  idempotencyKey : String

section

variable [Rendering]

def operationalExceptionEvent (now : Instant) (e : OperationalException) : GovernanceEvent where
  eventType := (governanceTypes.lookup e.exceptionType).getD "trip.operational_exception"
  severity := governanceSeverity e.severity
  title := e.title
  description := e.message
  occurredAt := now
  entityType := e.entityType
  externalId := Rendering.str e.entityId
  displayName := Rendering.str e.entityId
  snapshot := e.context
  idempotencyKey := "rotas:exception:" ++ Rendering.str e.id ++ ":" ++ Rendering.str e.tenantId

/-! ## Exceptions -/

/-- `ACTIVE_STATUSES`. -/
def OperationalException.isActive (e : OperationalException) : Bool :=
  e.status = .opened || e.status = .acknowledged

/-- The exception is the one that the request asks for. -/
def OperationalException.answers (tenantId : UUID) (r : ExceptionRequest)
    (e : OperationalException) : Bool :=
  e.tenantId = tenantId && e.entityType = r.entityType && e.entityId = r.entityId &&
    e.exceptionType = r.exceptionType && e.isActive &&
    (truthy r.sourceType).all (e.sourceType = some ·) && r.sourceId.all (e.sourceId = some ·)

/-- The columns hold the texts. -/
def ExceptionRequest.fits (r : ExceptionRequest) : Bool :=
  decide (r.entityType.length ≤ 50) && decide (r.exceptionType.length ≤ 60) &&
    decide (r.title.length ≤ 180) && r.sourceType.all fun s => decide (s.length ≤ 50)

def newException (now : Instant) (tenantId : UUID) (r : ExceptionRequest) (id : UUID) :
    OperationalException :=
  { r with id, tenantId, createdAt := now }

/-- The alert on the dashboard. -/
def exceptionAlert (tenantId : UUID) (e : OperationalException) (id : UUID) : Alert :=
  { id, tenantId, requestReference := "exception:" ++ Rendering.str e.id
    alertType := e.exceptionType, priority := e.severity.name, entityType := some e.entityType
    entityId := some e.entityId, title := String.ofList (e.title.toList.take 160)
    message := some e.message, channel := "dashboard" }

/-- A high or critical exception is told to the governance engine. -/
def exceptionEvent (now : Instant) (e : OperationalException) : Option GovernanceEvent :=
  if e.severity = .high || e.severity = .critical then some (operationalExceptionEvent now e)
  else none

def ExceptionDb.raised (now : Instant) (tenantId : UUID) (r : ExceptionRequest)
    (db : ExceptionDb) : ExceptionDb :=
  let item := newException now tenantId r db.operationalExceptions.freshKey
  { db with
    operationalExceptions := db.operationalExceptions.insert (newException now tenantId r)
    alerts := db.alerts.insert (exceptionAlert tenantId item) }

/-- `ensure_exception`, with the event that it schedules. -/
def ensureException (now : Instant) (tenantId : UUID) (r : ExceptionRequest) (db : ExceptionDb) :
    Except Exc (OperationalException × Option GovernanceEvent × ExceptionDb) :=
  match latestBy OperationalException.createdAt
      (db.operationalExceptions.rows.filter (·.answers tenantId r)) with
  | some existing => .ok (existing, none, db)
  | none => do
    raiseIf (!r.fits) .dataError
    let item := newException now tenantId r db.operationalExceptions.freshKey
    return (item, exceptionEvent now item, db.raised now tenantId r)

variable {now : Instant} {tenantId : UUID} {r : ExceptionRequest} {db : ExceptionDb}

theorem ensure_of_active (now : Instant)
    (h : db.operationalExceptions.rows.filter (·.answers tenantId r) ≠ []) :
    ∃ existing, ensureException now tenantId r db = .ok (existing, none, db) := by
  obtain ⟨existing, hlatest⟩ := Option.isSome_iff_exists.mp
    ((latestBy_isSome (f := OperationalException.createdAt)).mpr h)
  refine ⟨existing, ?_⟩
  rw [ensureException, hlatest]

theorem ensure_new (h : db.operationalExceptions.rows.filter (·.answers tenantId r) = [])
    (hfits : r.fits = true) :
    ensureException now tenantId r db =
      let item := newException now tenantId r db.operationalExceptions.freshKey
      .ok (item, exceptionEvent now item, db.raised now tenantId r) := by
  rw [ensureException, h, latestBy, hfits]
  rfl

theorem ensure_refused (h : db.operationalExceptions.rows.filter (·.answers tenantId r) = [])
    (hfits : r.fits = false) : ensureException now tenantId r db = .error .dataError := by
  rw [ensureException, h, latestBy, hfits]
  rfl

end

end Rotas
