import Rotas.Core.Json
import Rotas.Governance.HumanIds
import Rotas.Lib.Table

/-!
# Rotas.Governance.Cases

The cases of the governance engine and the occurrences that open them: the rows, what a call asks
for, what it reads and checks, and what it writes.

* `GovDb.ok` — the unique indexes and the references.
* `findTransition`, `findEntry`, `findOccurrence` — what is stored under an idempotency key.
* `requireEntryRule`, `requireRule` — the checks of `open_case` and `apply_transition`.
* `findOrCreateInstance`, `promotedType` — the entities of an occurrence, and the case it opens.
* `ApplyRequest.write`, `OpenRequest.write`, `Draft.write` — the rows that a call adds or changes.
-/

namespace Rotas
namespace Governance

/-! ## Errors -/

/-- The answer to a `GovernanceError`, with the status of its code. -/
def governanceError (code message : String) (details : List (String × Detail) := []) : Exc :=
  let statusCode := match code with
    | "not_found" => 404
    | "illegal_transition" | "idempotency_conflict" => 409
    | "missing_required_field" | "missing_required_attachment" => 422
    | "tenant_isolation_violation" => 403
    | _ => 400
  .api { code, message, statusCode, details }

def entityNotFound (entity entityId : String) : Exc :=
  governanceError "not_found" (entity ++ " '" ++ entityId ++ "' not found.")

def illegalTransition (fromStatus : Option String) (toStatus : String) : Exc :=
  governanceError "illegal_transition"
    ("No transition rule from '" ++ fromStatus.getD "None" ++ "' to '" ++ toStatus ++ "'.")

def missingRequiredField (field : String) : Exc :=
  governanceError "missing_required_field" ("Required field '" ++ field ++ "' is missing.")
    [("field", .text field)]

def missingRequiredAttachment : Exc :=
  governanceError "missing_required_attachment" "This transition requires at least one attachment."

def idempotencyConflict (key : String) : Exc :=
  governanceError "idempotency_conflict"
    ("Idempotency key '" ++ key ++ "' already used with different payload.")

/-! ## Rows -/

structure TaxonomyType where
  id : UUID
  tenantId : UUID
  code : String
  isActive : Bool := true

structure TaxonomyCaseType where
  id : UUID
  tenantId : UUID
  code : String
  initialStatus : String := "open"
  isActive : Bool := true

structure TaxonomyTypePromotion where
  tenantId : UUID
  typeId : UUID
  caseTypeId : UUID
  minSeverity : String := "alta"
  isActive : Bool := true

/-- A rule without `fromStatus` is an entry rule. -/
structure CaseTransitionRule where
  tenantId : UUID
  caseTypeId : UUID
  fromStatus : Option String
  toStatus : String
  requiredFields : List String := []
  requiredAttachments : Bool := false
  slaHours : Option Int := none
  isActive : Bool := true

/-- What an administrator sets up. -/
structure Taxonomy where
  types : List TaxonomyType := []
  caseTypes : List TaxonomyCaseType := []
  promotions : List TaxonomyTypePromotion := []
  rules : List CaseTransitionRule := []

/-- A catalog is known by its tenant and its entity type. -/
structure EntityCatalog where
  tenantId : UUID
  entityType : String
  name : String

/-- An instance is known by its catalog and its external id. -/
structure EntityInstance where
  tenantId : UUID
  entityType : String
  externalId : String
  displayName : String

structure LinkInput where
  entityType : String
  externalId : String
  role : String := "sujeito"
  displayName : String := ""
  snapshot : List (String × Json) := []

structure OccurrenceLink where
  tenantId : UUID
  occurrenceId : UUID
  entityType : String
  externalId : String
  role : String
  snapshot : List (String × Json)

structure Occurrence where
  id : UUID
  tenantId : UUID
  numero : String
  typeId : UUID
  severity : String
  title : String
  description : Option String
  occurredAt : Instant
  reportedBy : UUID
  locationText : Option String
  supersedesId : Option UUID
  idempotencyKey : Option String
  payload : List (String × Json)

structure Case where
  id : UUID
  tenantId : UUID
  reference : String
  caseTypeId : UUID
  status : String
  payload : List (String × Json)
  slaDueAt : Option Instant

structure CaseOccurrence where
  caseId : UUID
  occurrenceId : UUID
  tenantId : UUID
  deriving DecidableEq

structure CaseTransition where
  id : UUID
  tenantId : UUID
  caseId : UUID
  fromStatus : Option String
  toStatus : String
  actorId : UUID
  reason : Option String
  payload : List (String × Json)
  idempotencyKey : Option String

instance : Keyed Occurrence := ⟨Occurrence.id⟩
instance : Keyed Case := ⟨Case.id⟩
instance : Keyed CaseTransition := ⟨CaseTransition.id⟩

structure GovDb where
  taxonomy : Taxonomy := {}
  sequences : Sequences := Sequences.none
  catalogs : List EntityCatalog := []
  instances : List EntityInstance := []
  occurrences : Table Occurrence := ∅
  occurrenceLinks : List OccurrenceLink := []
  cases : Table Case := ∅
  caseOccurrences : List CaseOccurrence := []
  transitions : Table CaseTransition := ∅

def Occurrence.keyed (o : Occurrence) : Option (UUID × String) :=
  o.idempotencyKey.map fun k => (o.tenantId, k)

def CaseTransition.keyed (t : CaseTransition) : Option (UUID × String) :=
  t.idempotencyKey.map fun k => (t.tenantId, k)

def EntityCatalog.name? (c : EntityCatalog) : UUID × String := (c.tenantId, c.entityType)

def EntityInstance.name? (i : EntityInstance) : UUID × String × String :=
  (i.tenantId, i.entityType, i.externalId)

/-- The unique indexes, and the references of the links between cases and occurrences. -/
def GovDb.ok (db : GovDb) : Bool :=
  decide ((db.cases.rows.map Case.reference).Nodup) &&
    decide ((db.occurrences.rows.map Occurrence.numero).Nodup) &&
    decide ((db.transitions.rows.filterMap CaseTransition.keyed).Nodup) &&
    decide ((db.occurrences.rows.filterMap Occurrence.keyed).Nodup) &&
    decide ((db.catalogs.map EntityCatalog.name?).Nodup) &&
    decide ((db.instances.map EntityInstance.name?).Nodup) &&
    decide ((db.caseOccurrences.map fun l => (l.caseId, l.occurrenceId)).Nodup) &&
    db.caseOccurrences.all fun l => (db.occurrences.get l.occurrenceId).isSome

/-! ## Requests -/

structure OpenRequest where
  tenantId : UUID
  caseTypeId : UUID
  initialStatus : String
  occurrenceIds : List UUID := []
  payload : List (String × Json) := []
  actorId : UUID
  idempotencyKey : Option String

structure ApplyRequest where
  tenantId : UUID
  caseId : UUID
  toStatus : String
  payload : List (String × Json) := []
  attachmentsPresent : Bool := false
  actorId : UUID
  reason : Option String := none
  idempotencyKey : Option String

structure CreateRequest where
  tenantId : UUID
  actorId : UUID
  typeCode : String
  severity : String
  title : String
  description : Option String := none
  occurredAt : Instant
  links : List LinkInput := []
  locationText : Option String := none
  supersedesId : Option UUID := none
  idempotencyKey : Option String
  payload : List (String × Json) := []

/-! ## What is stored under a key -/

def GovDb.findTransition (db : GovDb) (tenantId : UUID) (key : String) : Option CaseTransition :=
  db.transitions.rows.find? fun t => t.tenantId = tenantId && t.idempotencyKey = some key

/-- The transition that opened a case. -/
def GovDb.findEntry (db : GovDb) (tenantId : UUID) (key : String) : Option CaseTransition :=
  db.transitions.rows.find? fun t =>
    t.tenantId = tenantId && t.idempotencyKey = some key && t.fromStatus.isNone

def GovDb.findOccurrence (db : GovDb) (tenantId : UUID) (key : String) : Option Occurrence :=
  db.occurrences.rows.find? fun o => o.tenantId = tenantId && o.idempotencyKey = some key

/-! ## Checks -/

/-- `for field in required_fields: if not payload.get(field): raise …`. -/
def requireFields (fields : List String) (payload : List (String × Json)) : Except Exc Unit :=
  match fields.find? fun f => !(Json.get? payload f).any Json.truthy with
  | some field => .error (missingRequiredField field)
  | none => .ok ()

def requireEntryRule (r : OpenRequest) (db : GovDb) : Except Exc CaseTransitionRule := do
  let rule ← require (db.taxonomy.rules.find? fun rule => rule.tenantId = r.tenantId &&
      rule.caseTypeId = r.caseTypeId && rule.fromStatus.isNone &&
      rule.toStatus = r.initialStatus && rule.isActive)
    (illegalTransition none r.initialStatus)
  requireFields rule.requiredFields r.payload
  return rule

/-- The case of a request, as `SELECT … FOR UPDATE` finds it. -/
def requireCase (r : ApplyRequest) (db : GovDb) : Except Exc Case :=
  require ((db.cases.get r.caseId).filter fun c => c.tenantId = r.tenantId)
    (entityNotFound "Case" (toString r.caseId))

def requireRule (r : ApplyRequest) (case : Case) (db : GovDb) : Except Exc CaseTransitionRule := do
  let rule ← require (db.taxonomy.rules.find? fun rule => rule.tenantId = r.tenantId &&
      rule.caseTypeId = case.caseTypeId && rule.fromStatus = some case.status &&
      rule.toStatus = r.toStatus && rule.isActive)
    (illegalTransition (some case.status) r.toStatus)
  requireFields rule.requiredFields r.payload
  raiseIf (rule.requiredAttachments && !r.attachmentsPresent) missingRequiredAttachment
  return rule

def requireType (r : CreateRequest) (db : GovDb) : Except Exc TaxonomyType :=
  require (db.taxonomy.types.find? fun t =>
      t.tenantId = r.tenantId && t.code = r.typeCode && t.isActive)
    (entityNotFound "TaxonomyType" r.typeCode)

/-! ## Entities and promotion -/

/-- The rows that an occurrence adds for its entities, with what is stored. -/
structure Entities where
  catalogs : List EntityCatalog := []
  instances : List EntityInstance := []

/-- `str.capitalize()` of the ASCII letters. -/
def capitalize (s : String) : String :=
  match s.toList with
  | [] => ""
  | c :: cs => .ofList (c.toUpper :: cs.map Char.toLower)

/-- The entity of a link, among the committed rows and those of the transaction; what is missing
is added. -/
def findOrCreateInstance (db : GovDb) (tenantId : UUID) (l : LinkInput) (e : Entities) : Entities :=
  let catalogs := if (db.catalogs ++ e.catalogs).any fun c =>
      c.tenantId = tenantId && c.entityType = l.entityType then e.catalogs
    else e.catalogs ++ [{ tenantId, entityType := l.entityType, name := capitalize l.entityType }]
  let instances := if (db.instances ++ e.instances).any fun i => i.tenantId = tenantId &&
      i.entityType = l.entityType && i.externalId = l.externalId then e.instances
    else e.instances ++ [{
      tenantId, entityType := l.entityType, externalId := l.externalId
      displayName := if l.displayName = "" then l.externalId else l.displayName }]
  { catalogs, instances }

def severityOrder : List String := ["baixa", "media", "alta", "critica"]

/-- `_severity_gte`; a severity that is not in the order is below every other. -/
def severityGte (severity minSeverity : String) : Bool :=
  match severityOrder.idxOf? severity, severityOrder.idxOf? minSeverity with
  | some i, some j => j ≤ i
  | _, _ => false

/-- The case type that an occurrence of a type and severity opens a case of, if any. -/
def Taxonomy.promotedType (t : Taxonomy) (tenantId typeId : UUID) (severity : String) :
    Option TaxonomyCaseType :=
  match t.promotions.find? fun p => p.tenantId = tenantId && p.typeId = typeId && p.isActive with
  | some p =>
    if severityGte severity p.minSeverity then
      (t.caseTypes.find? fun c => c.id = p.caseTypeId).filter TaxonomyCaseType.isActive
    else none
  | none => none

/-! ## Writes -/

/-- `if rule.sla_hours:` the time that the case is due. -/
def CaseTransitionRule.slaDueAt (rule : CaseTransitionRule) (now : Instant) : Option Instant :=
  (rule.slaHours.filter (· ≠ 0)).map fun hours => now + hours * 3600

def ApplyRequest.transition (r : ApplyRequest) (case : Case) (id : UUID) : CaseTransition :=
  { id, tenantId := r.tenantId, caseId := r.caseId, fromStatus := some case.status
    toStatus := r.toStatus, actorId := r.actorId, reason := r.reason, payload := r.payload
    idempotencyKey := r.idempotencyKey }

/-- `UPDATE cases SET status = …`. -/
def ApplyRequest.moved (r : ApplyRequest) (rule : CaseTransitionRule) (now : Instant) (c : Case) :
    Case := { c with status := r.toStatus, slaDueAt := (rule.slaDueAt now).or c.slaDueAt }

def ApplyRequest.write (r : ApplyRequest) (case : Case) (rule : CaseTransitionRule) (now : Instant)
    (db : GovDb) : GovDb :=
  { db with
    transitions := db.transitions.insert (r.transition case)
    cases := db.cases.modify r.caseId (r.moved rule now) }

theorem write_transitions (r : ApplyRequest) (case : Case) (rule : CaseTransitionRule)
    (now : Instant) (db : GovDb) :
    (r.write case rule now db).transitions = db.transitions.insert (r.transition case) := rfl

theorem write_cases (r : ApplyRequest) (case : Case) (rule : CaseTransitionRule) (now : Instant)
    (db : GovDb) :
    (r.write case rule now db).cases = db.cases.modify r.caseId (r.moved rule now) := rfl

def OpenRequest.case (r : OpenRequest) (rule : CaseTransitionRule) (reference : String)
    (now : Instant) (id : UUID) : Case :=
  { id, tenantId := r.tenantId, reference, caseTypeId := r.caseTypeId, status := r.initialStatus
    payload := r.payload, slaDueAt := rule.slaDueAt now }

def OpenRequest.transition (r : OpenRequest) (caseId id : UUID) : CaseTransition :=
  { id, tenantId := r.tenantId, caseId, fromStatus := none, toStatus := r.initialStatus
    actorId := r.actorId, reason := none, payload := r.payload
    idempotencyKey := r.idempotencyKey }

/-- The key of the sequence of the references. -/
def referenceKey (tenantId : UUID) (year : Int) : SequenceKey := ⟨tenantId, "CASE", year⟩

/-- The key of the sequence of the numbers of the occurrences. -/
def numeroKey (tenantId : UUID) (year : Int) : SequenceKey := ⟨tenantId, "EVT", year⟩

/-- The next of a sequence, as it is kept until the end of the transaction. -/
structure Numbered where
  key : SequenceKey
  seq : Nat
  id : String

def requireNumber (key : SequenceKey) (db : GovDb) : Except Exc Numbered := do
  let (seq, _) ← db.sequences.bump key
  return { key, seq, id := humanId key.label key.year seq }

def GovDb.setSequence (db : GovDb) (n : Numbered) : GovDb :=
  { db with sequences := Function.update db.sequences n.key n.seq }

/-- The new case is under the next free id. -/
def OpenRequest.write (r : OpenRequest) (rule : CaseTransitionRule) (n : Numbered) (now : Instant)
    (db : GovDb) : GovDb :=
  { db.setSequence n with
    cases := db.cases.insert (r.case rule n.id now)
    caseOccurrences := db.caseOccurrences ++ r.occurrenceIds.map fun occurrenceId =>
      { caseId := db.cases.freshKey, occurrenceId, tenantId := r.tenantId }
    transitions := db.transitions.insert (r.transition db.cases.freshKey) }

/-- An occurrence that is not committed yet. -/
structure Draft where
  request : CreateRequest
  type : TaxonomyType
  numero : Numbered
  entities : Entities := {}

def Draft.occurrence (d : Draft) (id : UUID) : Occurrence :=
  { id, tenantId := d.request.tenantId, numero := d.numero.id, typeId := d.type.id
    severity := d.request.severity, title := d.request.title, description := d.request.description
    occurredAt := d.request.occurredAt, reportedBy := d.request.actorId
    locationText := d.request.locationText, supersedesId := d.request.supersedesId
    idempotencyKey := d.request.idempotencyKey, payload := d.request.payload }

def Draft.write (d : Draft) (db : GovDb) : GovDb :=
  { db.setSequence d.numero with
    catalogs := db.catalogs ++ d.entities.catalogs
    instances := db.instances ++ d.entities.instances
    occurrences := db.occurrences.insert d.occurrence
    occurrenceLinks := db.occurrenceLinks ++ d.request.links.map fun l =>
      { tenantId := d.request.tenantId, occurrenceId := db.occurrences.freshKey
        entityType := l.entityType, externalId := l.externalId, role := l.role
        snapshot := l.snapshot } }

theorem write_occurrences (d : Draft) (db : GovDb) :
    (d.write db).occurrences = db.occurrences.insert d.occurrence := rfl

theorem get_write_fresh (d : Draft) (db : GovDb) :
    (d.write db).occurrences.get db.occurrences.freshKey =
      some (d.occurrence db.occurrences.freshKey) := by
  rw [write_occurrences, Table.get_insert, if_pos rfl]

/-- The case that an occurrence opens, under a key of its own. -/
def Draft.promotion (d : Draft) (caseType : TaxonomyCaseType) : OpenRequest :=
  { tenantId := d.request.tenantId, caseTypeId := caseType.id
    initialStatus := caseType.initialStatus, actorId := d.request.actorId
    idempotencyKey := (truthy d.request.idempotencyKey).map ("auto_promo:" ++ ·) }

/-! ## Pushed events -/

def rotasEventTypeCodes : List (String × String) :=
  [("vehicle.breakdown", "rotas.vehicle.breakdown"),
   ("vehicle.accident", "rotas.vehicle.accident"),
   ("vehicle.overdue_checklist", "rotas.vehicle.overdue_checklist"),
   ("trip.incident", "rotas.trip.incident"),
   ("trip.route_deviation", "rotas.trip.route_deviation"),
   ("trip.operational_exception", "rotas.trip.operational_exception"),
   ("fuel.anomaly", "rotas.fuel.anomaly"),
   ("fuel.theft_suspicion", "rotas.fuel.theft_suspicion"),
   ("cargo.damage", "rotas.cargo.damage"),
   ("cargo.loss", "rotas.cargo.loss"),
   ("document.expired", "rotas.document.expired"),
   ("driver.infraction", "rotas.driver.infraction"),
   ("driver.absence", "rotas.driver.absence")]

def rotasToGovernanceSeverity : List (String × String) :=
  [("critical", "critica"), ("high", "alta"), ("medium", "media"), ("low", "baixa"),
   ("critica", "critica"), ("alta", "alta"), ("media", "media"), ("baixa", "baixa")]

structure RotasEventPush where
  eventType : String
  severity : String
  title : String
  description : Option String := none
  occurredAt : Instant
  entities : List LinkInput := []
  idempotencyKey : String
  locationText : Option String := none
  payload : List (String × Json) := []

/-- What `push_event` asks the occurrence service for. -/
def RotasEventPush.request (event : RotasEventPush) (tenantId actorId : UUID) : CreateRequest :=
  { tenantId, actorId
    typeCode := (rotasEventTypeCodes.lookup event.eventType).getD "rotas.trip.operational_exception"
    severity := (rotasToGovernanceSeverity.lookup event.severity).getD "baixa"
    title := event.title, description := event.description, occurredAt := event.occurredAt
    links := event.entities, locationText := event.locationText
    idempotencyKey := some event.idempotencyKey, payload := event.payload }

end Governance
end Rotas
