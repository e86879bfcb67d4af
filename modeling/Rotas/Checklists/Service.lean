import Rotas.Core.Json
import Rotas.Fuel.Operations

/-!
# Rotas.Checklists.Service

The checklists that drivers fill in.

* `Yard` — the depot's database with the checklists.
* `createChecklist` — a checklist for an active template of its type.
* `evaluateBlockingFailures` — the items of the template that the responses fail.
* `patchChecklist` — a checklist that is neither completed nor failed takes any values.
* `completeChecklist` — a checklist with failures has failed.
* `resolveChecklistFailure` — a failed checklist that was seen to.
-/

namespace Rotas

structure ChecklistItem where
  id : String
  label : String := ""
  isBlocking : Bool := false
  requiresPhoto : Bool := false

structure ChecklistTemplate where
  id : UUID
  tenantId : UUID
  type : String
  isActive : Bool := true
  items : List ChecklistItem

/-- The responses are under the ids of the items. -/
structure Checklist where
  id : UUID
  tenantId : UUID
  vehicleId : UUID
  driverId : UUID
  templateId : UUID
  type : String
  status : String
  responses : Payload
  clientCapturedAt : Option Instant
  startedAt : Instant
  completedAt : Option Instant := none
  signatureFileId : Option UUID := none

instance : Keyed ChecklistTemplate := ⟨ChecklistTemplate.id⟩
instance : Keyed Checklist := ⟨Checklist.id⟩

structure Yard extends Depot where
  checklistTemplates : Table ChecklistTemplate := ∅
  checklists : Table Checklist := ∅

structure ChecklistCreate where
  vehicleId : UUID
  driverId : UUID
  templateId : UUID
  type : String
  responses : Payload := []
  clientCapturedAt : Option Instant := none
  startedAt : Option Instant := none

def requireTemplate (tenantId templateId : UUID) (s : Yard) : Except Exc ChecklistTemplate := do
  let missing := notFound "checklist_template_not_found" "Checklist template not found."
  let template ← require (s.checklistTemplates.get templateId) missing
  raiseIf (template.tenantId ≠ tenantId) missing
  return template

def ChecklistCreate.row (payload : ChecklistCreate) (now : Instant) (tenantId id : UUID) :
    Checklist :=
  { id, tenantId, vehicleId := payload.vehicleId, driverId := payload.driverId
    templateId := payload.templateId, type := payload.type, status := "in_progress"
    responses := payload.responses, clientCapturedAt := payload.clientCapturedAt
    startedAt := (payload.startedAt.or payload.clientCapturedAt).getD now }

def createChecklist (now : Instant) (tenantId : UUID) (payload : ChecklistCreate) (s : Yard) :
    Except Exc (UUID × Yard) := do
  let template ← requireTemplate tenantId payload.templateId s
  raiseIf (!template.isActive)
    (conflict "checklist_template_inactive" "Checklist template is inactive.")
  raiseIf (template.type ≠ payload.type)
    (conflict "checklist_type_mismatch" "Checklist type does not match template type."
      [("template_type", .text template.type), ("payload_type", .text payload.type)])
  let _ ← requireRefuelVehicle tenantId payload.vehicleId s.toDepot
  let _ ← requireRefuelDriver tenantId payload.driverId s.toDepot
  return (s.checklists.freshKey, { s with
    checklists := s.checklists.insert (payload.row now tenantId) })

/-- The template is active and of the type, and the vehicle and the driver are there. -/
structure ChecklistCreate.Taken (c : ChecklistCreate) (tenantId : UUID) (s : Yard) : Prop where
  template : ∃ t, requireTemplate tenantId c.templateId s = .ok t ∧ t.isActive = true ∧
    t.type = c.type
  vehicle : ∃ v, requireRefuelVehicle tenantId c.vehicleId s.toDepot = .ok v
  driver : ∃ d, requireRefuelDriver tenantId c.driverId s.toDepot = .ok d

theorem createChecklist_eq_ok {now : Instant} {tenantId : UUID} {c : ChecklistCreate} {s : Yard}
    {r : UUID × Yard} : createChecklist now tenantId c s = .ok r ↔ c.Taken tenantId s ∧
      r = (s.checklists.freshKey,
        { s with checklists := s.checklists.insert (c.row now tenantId) }) := by
  simp only [createChecklist, bind_eq_ok, raiseIf_eq_ok, pure, Except.pure, Except.ok.injEq]
  constructor
  · rintro ⟨t, ht, _, hactive, _, htype, v, hv, d, hd, rfl⟩
    exact ⟨⟨⟨t, ht, by simpa using hactive, by simpa using htype⟩, ⟨v, hv⟩, ⟨d, hd⟩⟩, rfl⟩
  · rintro ⟨⟨⟨t, ht, hactive, htype⟩, ⟨v, hv⟩, ⟨d, hd⟩⟩, rfl⟩
    exact ⟨t, ht, (), by simpa using hactive, (), by simpa using htype, v, hv, d, hd, rfl⟩

def requireChecklist (tenantId checklistId : UUID) (s : Yard) : Except Exc Checklist := do
  let missing := notFound "checklist_not_found" "Checklist not found."
  let checklist ← require (s.checklists.get checklistId) missing
  raiseIf (checklist.tenantId ≠ tenantId) missing
  return checklist

theorem requireChecklist_eq_ok {tenantId id : UUID} {s : Yard} {c : Checklist} :
    requireChecklist tenantId id s = .ok c ↔
      s.checklists.get id = some c ∧ c.tenantId = tenantId := by
  simp only [requireChecklist, bind_eq_ok, require_eq_ok, raiseIf_eq_ok, pure, Except.pure,
    Except.ok.injEq]
  constructor
  · rintro ⟨_, hget, _, htenant, rfl⟩
    exact ⟨hget, by simpa using htenant⟩
  · rintro ⟨hget, htenant⟩
    exact ⟨c, hget, (), by simpa using htenant, rfl⟩

/-- The statuses that no patch and no second completion touches. -/
def closedStatuses : List String := ["completed", "failed"]

/-- What a patch sets, of the columns that count here. -/
structure ChecklistPatch where
  status : Option String := none
  responses : Option Payload := none

def ChecklistPatch.apply (payload : ChecklistPatch) (checklist : Checklist) : Checklist :=
  { checklist with
    status := payload.status.getD checklist.status
    responses := payload.responses.getD checklist.responses }

def patchChecklist (tenantId checklistId : UUID) (payload : ChecklistPatch) (s : Yard) :
    Except Exc (UUID × Yard) := do
  let checklist ← requireChecklist tenantId checklistId s
  raiseIf (checklist.status ∈ closedStatuses)
    (conflict "checklist_closed" "Completed or failed checklists cannot be patched."
      [("status", .text checklist.status)])
  return (checklistId, { s with checklists := s.checklists.modify checklistId payload.apply })

def resolveChecklistFailure (tenantId checklistId : UUID) (s : Yard) :
    Except Exc (UUID × Yard) := do
  let checklist ← requireChecklist tenantId checklistId s
  if checklist.status = "resolved" then return (checklistId, s)
  raiseIf (checklist.status ≠ "failed")
    (conflict "checklist_not_failed"
      "Only failed checklists can be resolved through this endpoint."
      [("status", .text checklist.status)])
  return (checklistId, { s with
    checklists := s.checklists.modify checklistId fun c => { c with status := "resolved" } })

/-! ## Failures -/

/-- `_response_value`. -/
def responseValue (response : Json) : Json :=
  match response with
  | .object entries =>
    ((Json.get? entries "value").or (Json.get? entries "status")).getD response
  | _ => response

section

variable [Locale]

/-- `_is_failure`; an item without a response fails. -/
def isFailure (response : Option Json) : Bool :=
  match response.map responseValue with
  | none | some .null => true
  | some (.bool b) => !b
  | some (.text s) => Locale.lower s ∈ ["false", "fail", "failed", "nok", "missing", "em_falta"]
  | some _ => false

/-- `_has_photo`. -/
def hasPhoto (response : Option Json) : Bool :=
  match response with
  | some (.object entries) =>
    ["photo_file_id", "photoFileId", "photo_url", "photoUrl"].any fun key =>
      (Json.get? entries key).any Json.truthy
  | _ => false

structure BlockingFailure where
  itemId : String
  label : String
  reason : String
  deriving DecidableEq

/-- What an item fails with, if it does. -/
def ChecklistItem.failure (item : ChecklistItem) (responses : Payload) : Option BlockingFailure :=
  let response := Json.get? responses item.id
  if item.id = "" then none
  else if item.isBlocking && isFailure response then
    some { itemId := item.id, label := item.label, reason := "blocking_item_failed" }
  else if item.requiresPhoto && !hasPhoto response then
    some { itemId := item.id, label := item.label, reason := "required_photo_missing" }
  else none

def evaluateBlockingFailures (template : ChecklistTemplate) (responses : Payload) :
    List BlockingFailure := template.items.filterMap (·.failure responses)

structure CompleteChecklistRequest where
  completedAt : Option Instant := none
  signatureFileId : Option UUID := none

def completed (failures : List BlockingFailure) (payload : CompleteChecklistRequest)
    (now : Instant) (checklist : Checklist) : Checklist :=
  { checklist with
    completedAt := some (payload.completedAt.getD now)
    signatureFileId := payload.signatureFileId
    status := if failures.isEmpty then "completed" else "failed" }

def completeChecklist (now : Instant) (tenantId checklistId : UUID)
    (payload : CompleteChecklistRequest) (s : Yard) : Except Exc (UUID × Yard) := do
  let checklist ← requireChecklist tenantId checklistId s
  if checklist.status ∈ closedStatuses then return (checklistId, s)
  let template ← requireTemplate tenantId checklist.templateId s
  let failures := evaluateBlockingFailures template checklist.responses
  return (checklistId, { s with
    checklists := s.checklists.modify checklistId (completed failures payload now) })

/-- A checklist that was just created is completed, whatever it fails. -/
theorem completeChecklist_created {now : Instant} {tenantId : UUID} {c : ChecklistCreate}
    {y y₁ : Yard} (h : c.Taken tenantId y)
    (hy : y₁ = { y with checklists := y.checklists.insert (c.row now tenantId) }) :
    ∃ failures y₂, completeChecklist now tenantId y.checklists.freshKey {} y₁ =
        .ok (y.checklists.freshKey, y₂) ∧ y₂.toDepot = y.toDepot ∧
      y₂.checklists.get y.checklists.freshKey =
        some (completed failures {} now (c.row now tenantId y.checklists.freshKey)) := by
  obtain ⟨t, ht, -, -⟩ := h.template
  have hget : y₁.checklists.get y.checklists.freshKey =
      some (c.row now tenantId y.checklists.freshKey) := by
    rw [hy]
    exact (Table.get_insert y.checklists (c.row now tenantId) (fun _ => rfl) _).trans (if_pos rfl)
  have hrequire : requireChecklist tenantId y.checklists.freshKey y₁ =
      .ok (c.row now tenantId y.checklists.freshKey) := requireChecklist_eq_ok.mpr ⟨hget, rfl⟩
  have htemplate : requireTemplate tenantId c.templateId y₁ = .ok t := by
    rw [hy]
    exact ht
  refine ⟨evaluateBlockingFailures t c.responses, { y₁ with
    checklists := y₁.checklists.modify y.checklists.freshKey
      (completed (evaluateBlockingFailures t c.responses) {} now) }, ?_, by rw [hy], ?_⟩
  · simp only [completeChecklist, bind_eq_ok]
    refine ⟨_, hrequire, ?_⟩
    rw [if_neg (by simp [ChecklistCreate.row, closedStatuses])]
    exact bind_eq_ok.mpr ⟨t, htemplate, rfl⟩
  · rw [Table.get_modify_self hget]

end

end Rotas
