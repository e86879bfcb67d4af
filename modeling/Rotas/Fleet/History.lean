import Rotas.Core.Datetime
import Rotas.Core.Errors
import Rotas.Lib.Base64
import Rotas.Lib.Keyset
import Mathlib.Data.Prod.Lex
import Mathlib.Data.String.Basic

/-!
# Rotas.Fleet.History

The history of a vehicle, read page by page: the rows of six tables as one list of events.

* `EventType.reads`   — the columns the query of a type reads; `EventType.columns` are those its
  table has. They differ for the checklists, which have no odometer reading.
* `HistoryDb.events`  — the events a query of a type selects.
* `encodeCursor`      — where a page ended; `decodeCursor_encodeCursor` reads it back.
* `getVehicleHistory` — one page, with the cursor of the next one and a count.
* `getVehicleHistory_eq` — what it answers: an error when the checklists are asked for, else the
  page of the events below the cursor.
-/

namespace Rotas.History

/-! ## The tables -/

structure MaintenanceRequest where
  id : UUID
  tenantId : UUID
  vehicleId : UUID
  requestType : String
  description : String
  odometerReading : Option Int := none
  requestedAt : Datetime

structure WorkOrder where
  id : UUID
  tenantId : UUID
  vehicleId : Option UUID
  workOrderNumber : String
  plannedWork : String
  createdAt : Datetime

structure VehicleRefuel where
  id : UUID
  tenantId : UUID
  vehicleId : UUID
  odometerReading : Int
  refueledAt : Datetime

structure Checklist where
  id : UUID
  tenantId : UUID
  vehicleId : UUID
  type : String
  completedAt : Option Datetime

structure TripIncident where
  id : UUID
  tenantId : UUID
  vehicleId : Option UUID
  incidentType : String
  occurredAt : Datetime
  description : String

structure MaintenanceSchedule where
  id : UUID
  tenantId : UUID
  vehicleId : UUID
  dueKm : Option Int
  status : String
  createdAt : Datetime

structure HistoryDb where
  maintenanceRequests : List MaintenanceRequest := []
  workOrders : List WorkOrder := []
  vehicleRefuels : List VehicleRefuel := []
  checklists : List Checklist := []
  tripIncidents : List TripIncident := []
  maintenanceSchedule : List MaintenanceSchedule := []

/-! ## The events -/

inductive EventType where
  | maintenanceRequest | workOrder | fuel | checklist | incident | schedule
  deriving DecidableEq

namespace EventType

def text : EventType → String
  | maintenanceRequest => "maintenance_request"
  | workOrder => "work_order"
  | fuel => "fuel"
  | checklist => "checklist"
  | incident => "incident"
  | schedule => "schedule"

/-- `ALL_TYPES`, in the order the queries are put together. -/
def all : List EventType :=
  [maintenanceRequest, workOrder, fuel, checklist, incident, schedule]

/-- The columns the query reads. -/
def reads : EventType → List String
  | maintenanceRequest =>
    ["requested_at", "request_type", "description", "id", "odometer_reading", "tenant_id",
      "vehicle_id"]
  | workOrder =>
    ["created_at", "work_order_number", "planned_work", "id", "tenant_id", "vehicle_id"]
  | fuel => ["refueled_at", "id", "odometer_reading", "tenant_id", "vehicle_id"]
  | checklist =>
    ["completed_at", "type", "id", "odometer_reading", "tenant_id", "vehicle_id", "completed_at"]
  | incident => ["occurred_at", "incident_type", "description", "id", "tenant_id", "vehicle_id"]
  | schedule => ["created_at", "status", "id", "due_km", "tenant_id", "vehicle_id"]

/-- The columns of the table it reads them from. -/
def columns : EventType → List String
  | maintenanceRequest =>
    ["id", "tenant_id", "vehicle_id", "trip_id", "incident_id", "request_type", "priority",
      "description", "odometer_reading", "status", "requested_by", "requested_at", "created_at",
      "updated_at"]
  | workOrder =>
    ["id", "tenant_id", "maintenance_request_id", "governance_case_id", "plan_id", "vehicle_id",
      "work_order_number", "diagnosis", "planned_work", "estimated_cost", "actual_cost", "status",
      "approved_by", "approved_at", "closed_by", "closed_at", "close_notes",
      "service_provider_third_party_id", "labor_cost", "reception_id", "work_bay_id",
      "origin_type", "warranty_original_wo_id", "created_at", "updated_at"]
  | fuel =>
    ["id", "tenant_id", "tank_id", "vehicle_id", "driver_id", "trip_id", "liters",
      "odometer_reading", "refueled_at", "unit_cost", "total_cost", "movement_id", "notes",
      "created_at"]
  | checklist =>
    ["id", "tenant_id", "vehicle_id", "driver_id", "template_id", "type", "status", "responses",
      "location", "gps_accuracy_m", "gps_source", "client_captured_at", "server_received_at",
      "signature_file_id", "started_at", "completed_at", "duration_seconds", "created_at"]
  | incident =>
    ["id", "tenant_id", "trip_id", "vehicle_id", "driver_id", "incident_type", "severity",
      "status", "occurred_at", "reported_at", "location", "description", "immediate_action",
      "resolution_notes", "financial_impact_estimate", "delay_minutes", "reported_by",
      "resolved_by", "resolved_at", "created_at", "updated_at"]
  | schedule =>
    ["id", "tenant_id", "plan_id", "vehicle_id", "quote_id", "work_order_id", "due_km", "due_at",
      "notified_due_at", "notified_overdue_at", "status", "created_at"]

/-- The first column the query reads that its table does not have. -/
def undefinedColumn (ty : EventType) : Option String := ty.reads.find? (· ∉ ty.columns)

theorem undefinedColumn_eq (ty : EventType) :
    ty.undefinedColumn = if ty = .checklist then some "odometer_reading" else none := by
  cases ty <;> decide

end EventType

/-- `id::text`. -/
def uuidText (id : UUID) : String :=
  let hex := Nat.toDigits 16 id
  let cs := List.replicate (32 - hex.length) '0' ++ hex
  .ofList (cs.take 8 ++ '-' :: ((cs.drop 8).take 4 ++ '-' :: ((cs.drop 12).take 4 ++
    '-' :: ((cs.drop 16).take 4 ++ '-' :: cs.drop 20))))

/-- A row of the united queries. All their date columns are `NOT NULL`, but for the one of the
checklists, of which only the completed ones are selected. -/
structure Event where
  eventType : EventType
  eventDate : Datetime
  title : String
  description : Option String := none
  id : UUID
  odometerReading : Option Int := none
  deriving DecidableEq

namespace Event

def referenceId (e : Event) : String := uuidText e.id

/-- What the rows are ordered by. -/
def key (e : Event) : Datetime ×ₗ String := toLex (e.eventDate, e.referenceId)

end Event

/-- The events of a type: what its query selects, had its table the columns. -/
def HistoryDb.events (tenantId vehicleId : UUID) (db : HistoryDb) : EventType → List Event
  | .maintenanceRequest =>
    (db.maintenanceRequests.filter fun r => r.tenantId = tenantId && r.vehicleId = vehicleId).map
      fun r =>
        { eventType := .maintenanceRequest, eventDate := r.requestedAt, title := r.requestType
          description := some r.description, id := r.id, odometerReading := r.odometerReading }
  | .workOrder =>
    (db.workOrders.filter fun r => r.tenantId = tenantId && r.vehicleId = some vehicleId).map
      fun r =>
        { eventType := .workOrder, eventDate := r.createdAt, title := r.workOrderNumber
          description := some r.plannedWork, id := r.id }
  | .fuel =>
    (db.vehicleRefuels.filter fun r => r.tenantId = tenantId && r.vehicleId = vehicleId).map
      fun r =>
        { eventType := .fuel, eventDate := r.refueledAt, title := "Abastecimento", id := r.id
          odometerReading := some r.odometerReading }
  | .checklist =>
    (db.checklists.filter fun r => r.tenantId = tenantId && r.vehicleId = vehicleId).filterMap
      fun r => r.completedAt.map fun completedAt =>
        { eventType := .checklist, eventDate := completedAt, title := r.type, id := r.id }
  | .incident =>
    (db.tripIncidents.filter fun r => r.tenantId = tenantId && r.vehicleId = some vehicleId).map
      fun r =>
        { eventType := .incident, eventDate := r.occurredAt, title := r.incidentType
          description := some r.description, id := r.id }
  | .schedule =>
    (db.maintenanceSchedule.filter fun r => r.tenantId = tenantId && r.vehicleId = vehicleId).map
      fun r =>
        { eventType := .schedule, eventDate := r.createdAt, title := r.status, id := r.id
          odometerReading := r.dueKm }

/-! ## The cursor -/

/-- `s.encode()`. -/
def utf8 (s : String) : List UInt8 := s.toByteArray.data.toList

/-- `bytes.decode()`. -/
def utf8Decode (bytes : List UInt8) : Option String := String.fromUTF8? ⟨bytes.toArray⟩

/-- `s.split("|", 1)`, of a text with a bar. -/
def splitBar (s : String) : Option (String × String) :=
  match s.toList.dropWhile (· ≠ '|') with
  | [] => none
  | _ :: rest => some (.ofList (s.toList.takeWhile (· ≠ '|')), .ofList rest)

def encodeCursor (e : Event) : String :=
  .ofList (b64encode (utf8 (e.eventDate.isoformat ++ "|" ++ e.referenceId)))

/-- A cursor that cannot be read is no cursor, and neither is one without an id. -/
def decodeCursor (cursor : Option String) : Option (Datetime ×ₗ String) := do
  let cursor ← truthy cursor
  let bytes ← b64decode cursor.toList
  let decoded ← utf8Decode bytes
  let (dateStr, idStr) ← splitBar decoded
  let cursorDate ← Datetime.fromisoformat dateStr
  let cursorId ← truthy (some idStr)
  return toLex (cursorDate, cursorId)

/-! ## A page -/

/-- What a caller asks for, page after page. -/
structure HistoryQuery where
  tenantId : UUID
  vehicleId : UUID
  fromDate : Option Datetime := none
  toDate : Option Datetime := none
  types : Option (List String) := none
  limit : Nat

/-- What the answer says of an event. -/
structure EventOut where
  eventType : String
  eventDate : String
  title : String
  description : Option String
  referenceId : String
  odometerReading : Option Int
  deriving DecidableEq

def Event.out (e : Event) : EventOut :=
  { eventType := e.eventType.text, eventDate := e.eventDate.isoformat, title := e.title
    description := e.description, referenceId := e.referenceId
    odometerReading := e.odometerReading }

structure HistoryPage where
  events : List EventOut
  nextCursor : Option String
  totalCount : Nat
  deriving DecidableEq

inductive DbError where
  | undefinedColumn (name : String)

/-- `set(types) & ALL_TYPES if types else ALL_TYPES`. -/
def activeTypes (types : Option (List String)) : List EventType :=
  match types with
  | none | some [] => EventType.all
  | some types => EventType.all.filter (·.text ∈ types)

/-- `UNION ALL` of the queries. The database looks at all the columns before it reads a row. -/
def unionAll (q : HistoryQuery) (db : HistoryDb) (types : List EventType) :
    Except DbError (List Event) :=
  match types.findSome? EventType.undefinedColumn with
  | some column => .error (.undefinedColumn column)
  | none => .ok (types.flatMap (db.events q.tenantId q.vehicleId))

/-- `event_date >= :from_date`, `event_date <= :to_date`, each where there is such a date. -/
def HistoryQuery.inRange (q : HistoryQuery) (e : Event) : Bool :=
  q.fromDate.all (· ≤ e.eventDate) && q.toDate.all (e.eventDate ≤ ·)

/-- `(event_date, reference_id) < (:cursor_date, :cursor_id)`, where there is a cursor. -/
def beyond (cursor : Option (Datetime ×ₗ String)) (e : Event) : Bool :=
  cursor.all (e.key < ·)

def getVehicleHistory (order : OrderBy Event.key) (q : HistoryQuery) (cursor : Option String)
    (db : HistoryDb) : Except DbError HistoryPage := do
  let active := activeTypes q.types
  if active = [] then return { events := [], nextCursor := none, totalCount := 0 }
  let unified ← unionAll q db active
  let cursorKey := decodeCursor cursor
  let selected := unified.filter fun e => q.inRange e && beyond cursorKey e
  let rows := (order.sort selected).take (q.limit + 1)
  let hasMore := decide (q.limit < rows.length)
  let eventRows := rows.take q.limit
  -- The count is of the rows beyond the cursor, like the page.
  return {
    events := eventRows.map Event.out
    nextCursor := if hasMore then eventRows.getLast?.map encodeCursor else none
    totalCount := selected.length }

/-! ## Reading the cursor back -/

theorem utf8Decode_utf8 (s : String) : utf8Decode (utf8 s) = some s := by
  have hbytes : (⟨(utf8 s).toArray⟩ : ByteArray) = s.toByteArray := by
    rw [utf8, Array.toArray_toList]
  rw [utf8Decode, hbytes, String.fromUTF8?, dif_pos s.isValidUTF8]
  rfl

theorem utf8_injective : Function.Injective utf8 := by
  intro s s' h
  have hdecoded := congrArg utf8Decode h
  rw [utf8Decode_utf8, utf8Decode_utf8] at hdecoded
  exact Option.some.inj hdecoded

theorem splitBar_append {date : String} (h : '|' ∉ date.toList) (id : String) :
    splitBar (date ++ "|" ++ id) = some (date, id) := by
  have hdate : ∀ c ∈ date.toList, decide (c ≠ '|') = true := by
    intro c hc
    refine decide_eq_true ?_
    rintro rfl
    exact h hc
  have htext : (date ++ "|" ++ id).toList = date.toList ++ '|' :: id.toList := by
    simp [String.toList_append]
  have hdrop : (date ++ "|" ++ id).toList.dropWhile (· ≠ '|') = '|' :: id.toList := by
    rw [htext, List.dropWhile_append_of_pos hdate]
    rfl
  have htake : (date ++ "|" ++ id).toList.takeWhile (· ≠ '|') = date.toList := by
    rw [htext, List.takeWhile_append_of_pos hdate]
    simp
  rw [splitBar, hdrop, htake, String.ofList_toList]
  show some (date, String.ofList id.toList) = some (date, id)
  rw [String.ofList_toList]

theorem uuidText_ne_empty (id : UUID) : uuidText id ≠ "" := by
  intro h
  have hchars := congrArg String.toList h
  simp [uuidText] at hchars

theorem decodeCursor_encodeCursor (e : Event) :
    decodeCursor (some (encodeCursor e)) = some e.key := by
  have hbytes : utf8 (e.eventDate.isoformat ++ "|" ++ e.referenceId) ≠ [] := by
    intro h
    have hsame : utf8 (e.eventDate.isoformat ++ "|" ++ e.referenceId) = utf8 "" := h
    have hempty := congrArg String.toList (utf8_injective hsame)
    simp [String.toList_append] at hempty
  have hcursor : truthy (some (encodeCursor e)) = some (encodeCursor e) := by
    have hne : encodeCursor e ≠ "" := by
      intro h
      have hchars := congrArg String.toList h
      rw [encodeCursor, String.toList_ofList] at hchars
      exact b64encode_ne_nil hbytes hchars
    simpa [truthy] using hne
  have hid : truthy (some e.referenceId) = some e.referenceId := by
    simpa [truthy, Event.referenceId] using uuidText_ne_empty e.id
  have hbar : '|' ∉ e.eventDate.isoformat.toList :=
    e.eventDate.notMem_isoformat (by decide) (by decide)
  have hchars : (encodeCursor e).toList =
      b64encode (utf8 (e.eventDate.isoformat ++ "|" ++ e.referenceId)) := by
    rw [encodeCursor, String.toList_ofList]
  simp only [decodeCursor, hcursor, hchars, b64decode_b64encode, utf8Decode_utf8,
    splitBar_append hbar, Datetime.fromisoformat_isoformat, hid, Option.bind_eq_bind,
    Option.bind_some]
  rfl

/-! ## What a call answers -/

/-- The page of the events selected, the first ones in the order. -/
def historyPage (order : OrderBy Event.key) (limit : Nat) (selected : List Event) :
    HistoryPage where
  events := ((order.sort selected).take limit).map Event.out
  nextCursor :=
    if limit < selected.length then
      ((order.sort selected).take limit).getLast?.map encodeCursor
    else none
  totalCount := selected.length

/-- The events the caller asks for. -/
def HistoryQuery.matching (q : HistoryQuery) (db : HistoryDb) : List Event :=
  ((activeTypes q.types).flatMap (db.events q.tenantId q.vehicleId)).filter q.inRange

section Answers

variable {order : OrderBy Event.key} {q : HistoryQuery} {cursor : Option String} {db : HistoryDb}

theorem unionAll_eq_error {types : List EventType} (h : .checklist ∈ types) :
    unionAll q db types = .error (.undefinedColumn "odometer_reading") := by
  have hfound : types.findSome? EventType.undefinedColumn = some "odometer_reading" := by
    induction types with
    | nil => cases h
    | cons ty types ih =>
      rw [List.findSome?_cons, EventType.undefinedColumn_eq]
      by_cases hty : ty = .checklist
      · rw [if_pos hty]
      · rw [if_neg hty]
        exact ih ((List.mem_cons.mp h).resolve_left (Ne.symm hty))
  rw [unionAll, hfound]

theorem unionAll_eq_ok {types : List EventType} (h : .checklist ∉ types) :
    unionAll q db types = .ok (types.flatMap (db.events q.tenantId q.vehicleId)) := by
  have hnone : types.findSome? EventType.undefinedColumn = none := by
    refine List.findSome?_eq_none_iff.mpr fun ty hty => ?_
    rw [EventType.undefinedColumn_eq, if_neg]
    rintro rfl
    exact h hty
  rw [unionAll, hnone]

theorem getVehicleHistory_eq_error (h : .checklist ∈ activeTypes q.types) :
    getVehicleHistory order q cursor db = .error (.undefinedColumn "odometer_reading") := by
  have hne : activeTypes q.types ≠ [] := List.ne_nil_of_mem h
  simp only [getVehicleHistory, if_neg hne, unionAll_eq_error h]
  rfl

theorem getVehicleHistory_eq (h : .checklist ∉ activeTypes q.types) :
    getVehicleHistory order q cursor db =
      .ok (historyPage order q.limit ((q.matching db).filter (beyond (decodeCursor cursor)))) := by
  unfold getVehicleHistory HistoryQuery.matching
  by_cases hnone : activeTypes q.types = []
  · have hsort : order.sort [] = [] := (order.perm []).eq_nil
    simp only [hnone, if_true, List.flatMap_nil, List.filter_nil, historyPage, hsort]
    simp [pure, Except.pure]
  · have hmore (rows : List Event) :
        (q.limit < (rows.take (q.limit + 1)).length) = (q.limit < rows.length) := by
      rw [List.length_take]
      exact propext (by omega)
    simp only [if_neg hnone, unionAll_eq_ok h, List.filter_filter, historyPage, List.take_take,
      hmore, order.length_sort, decide_eq_true_eq, Nat.min_eq_left (Nat.le_succ q.limit),
      Bool.and_comm]
    rfl

end Answers
end Rotas.History
