import Rotas.Alerts.DocumentExpiry
import Rotas.Core.Calendar

/-!
# Rotas.Alerts.ExpiryChecks

The daily checks of the worker for operational documents and for the insurance of vehicles. Both go
over the rows of all tenants, and an alert that is refused is skipped.

* `Portfolio` — the rows that are read.
* `documentAlert`, `insuranceAlert` — what is asked for.
* `checkDocumentExpiry`, `checkInsuranceRenewals` — the alerts after a check.
* `afterDays` — the alerts after the days on which the worker runs.
* `shownUnder_afterDays` — the first day that asks for an alert of a reference gives it.
-/

namespace Rotas

/-- `str(id)` of an id. -/
class IdText where
  uuid : UUID → String
  uuid_injective : ∀ {id id'}, uuid id = uuid id' → id = id'

structure OperationalDocument where
  id : UUID
  tenantId : UUID
  subjectType : String
  subjectId : UUID
  documentType : String
  expiryDate : Option Date := none

instance : Keyed OperationalDocument := ⟨OperationalDocument.id⟩

structure VehicleInsurance where
  id : UUID
  tenantId : UUID
  vehicleId : UUID
  policyNumber : String
  validUntil : Date

instance : Keyed VehicleInsurance := ⟨VehicleInsurance.id⟩

variable [IdText]

/-- The documents, and the policies of vehicles that are there; the ids are of the usual length. -/
structure Portfolio where
  documents : Table OperationalDocument := ∅
  insurances : Table VehicleInsurance := ∅
  vehicles : Table Vehicle := ∅
  documentIds : ∀ d ∈ documents, (IdText.uuid d.id).length = 36
  insuranceIds : ∀ i ∈ insurances, (IdText.uuid i.id).length = 36
  insured : ∀ i ∈ insurances, (vehicles.get i.vehicleId).isSome

/-! ## Documents -/

/-- The documents that expire within thirty days, with their dates. -/
def expiringDocuments (today : Date) (s : Portfolio) : List (OperationalDocument × Date) :=
  s.documents.rows.filterMap fun doc => doc.expiryDate.bind fun expiry =>
    if 0 ≤ today.daysTo expiry ∧ today.daysTo expiry ≤ 30 then some (doc, expiry) else none

def documentReference (id : UUID) (expiry : Date) : String :=
  "doc_expiry:" ++ IdText.uuid id ++ ":" ++ expiry.isoformat

def documentAlert (today : Date) (doc : OperationalDocument) (expiry : Date) : AlertCreate where
  requestReference := documentReference doc.id expiry
  alertType := "document_expiring_soon"
  priority := if today.daysTo expiry ≤ 7 then "critical" else "high"
  entityType := some doc.subjectType
  entityId := some doc.subjectId
  title := "Document expiring: " ++ doc.documentType
  message := some ("Document '" ++ doc.documentType ++ "' (subject: " ++ doc.subjectType ++ " " ++
    IdText.uuid doc.subjectId ++ ") expires in " ++ toString (today.daysTo expiry) ++
    " day(s) on " ++ expiry.isoformat ++ ".")
  channel := "dashboard"

/-- What the check of a day asks for; one that its schema refuses ends it. -/
def documentRequests (s : Portfolio) (today : Date) : List (UUID × AlertCreate) :=
  ((expiringDocuments today s).map fun (doc, expiry) =>
    (doc.tenantId, documentAlert today doc expiry)).takeWhile (·.2.valid)

/-! ## Insurance -/

/-- `THRESHOLDS`. -/
def renewalThresholds : List Int := [60, 30, 7]

/-- The policies that end in so many days, with the plates of their vehicles. -/
def expiringInsurances (today : Date) (days : Int) (s : Portfolio) :
    List (VehicleInsurance × String) :=
  s.insurances.rows.filterMap fun ins =>
    if today.daysTo ins.validUntil = days then
      (s.vehicles.get ins.vehicleId).map fun v => (ins, v.plate)
    else none

def insuranceReference (id : UUID) (validUntil : Date) (days : Int) : String :=
  "ins_renewal:" ++ IdText.uuid id ++ ":" ++ validUntil.isoformat ++ ":" ++ toString days ++ "d"

def insurancePriority (days : Int) : String :=
  if days ≤ 7 then "critical" else if days ≤ 30 then "high" else "medium"

def insuranceAlert (days : Int) (ins : VehicleInsurance) (plate : String) : AlertCreate where
  alertType := "insurance_renewal"
  priority := insurancePriority days
  entityType := some "vehicle_insurance"
  entityId := some ins.id
  title := "Apólice de seguro a renovar"
  message := some ("Apólice " ++ ins.policyNumber ++ " do veículo " ++ plate ++ " vence em " ++
    toString days ++ " dias (" ++ ins.validUntil.isoformat ++ ")")
  channel := "dashboard"
  requestReference := insuranceReference ins.id ins.validUntil days

/-- What the check of a day asks for; one that its schema refuses is skipped. -/
def insuranceRequests (s : Portfolio) (today : Date) : List (UUID × AlertCreate) :=
  (renewalThresholds.flatMap fun days => (expiringInsurances today days s).map fun (ins, plate) =>
    (ins.tenantId, insuranceAlert days ins plate)).filter (·.2.valid)

/-! ## Runs -/

omit [IdText] in
/-- The alerts once all that are asked for have been created, or refused. -/
def requestAlerts (asked : List (UUID × AlertCreate)) (alerts : Table Alert) : Table Alert :=
  asked.foldl (fun alerts x => requestAlert x.1 x.2 alerts) alerts

/-- `task_check_document_expiry`. -/
def checkDocumentExpiry (s : Portfolio) (today : Date) (alerts : Table Alert) : Table Alert :=
  requestAlerts (documentRequests s today) alerts

/-- `task_check_insurance_renewals`. -/
def checkInsuranceRenewals (s : Portfolio) (today : Date) (alerts : Table Alert) : Table Alert :=
  requestAlerts (insuranceRequests s today) alerts

/-- The alerts after the days on which the worker runs. -/
def afterDays (s : Portfolio) (days : List Date) (alerts : Table Alert) : Table Alert :=
  days.foldl (fun alerts today =>
    checkInsuranceRenewals s today (checkDocumentExpiry s today alerts)) alerts

/-! ## The alerts of a reference -/

omit [IdText] in
def isUnder (tenantId : UUID) (reference : String) (a : Alert) : Bool :=
  a.tenantId = tenantId && a.requestReference = reference

omit [IdText] in
/-- The alerts of the tenant under the reference. -/
def alertsUnder (tenantId : UUID) (reference : String) (alerts : Table Alert) : List Alert :=
  alerts.rows.filter (isUnder tenantId reference)

section Requests

omit [IdText]

variable {tenantId tenantId' : UUID} {reference : String} {payload : AlertCreate}
  {alerts : Table Alert} {asked : List (UUID × AlertCreate)}

/-- The priority and the channel are of those that alerts have. -/
def AlertCreate.Chosen (a : AlertCreate) : Prop :=
  a.priority ∈ alertPriorities ∧ a.channel ∈ alertChannels

theorem requestAlert_of_held (h : alertsUnder tenantId payload.requestReference alerts ≠ []) :
    requestAlert tenantId payload alerts = alerts := by
  have hfound : (alerts.rows.find? fun a =>
      a.tenantId = tenantId && a.requestReference = payload.requestReference).isSome := by
    obtain ⟨a, ha⟩ := List.exists_mem_of_ne_nil _ h
    obtain ⟨hmem, hunder⟩ := List.mem_filter.mp ha
    exact List.find?_isSome.mpr ⟨a, hmem, hunder⟩
  obtain ⟨existing, hexisting⟩ := Option.isSome_iff_exists.mp hfound
  unfold requestAlert
  cases hrun : createAlert tenantId payload alerts with
  | error e => rfl
  | ok r =>
    simp only [createAlert, hexisting, bind_eq_ok] at hrun
    obtain ⟨_, -, _, -, _, -, hrun⟩ := hrun
    cases hrun
    rfl

theorem requestAlert_of_new (h : alertsUnder tenantId payload.requestReference alerts = [])
    (hchosen : payload.Chosen) : requestAlert tenantId payload alerts =
      alerts.insert (fun id => { payload with id, tenantId }) fun _ => rfl := by
  have hnone : (alerts.rows.find? fun a =>
      a.tenantId = tenantId && a.requestReference = payload.requestReference) = none := by
    refine List.find?_eq_none.mpr fun a ha hunder => ?_
    have hmem : a ∈ alertsUnder tenantId payload.requestReference alerts :=
      List.mem_filter.mpr ⟨ha, hunder⟩
    rw [h] at hmem
    cases hmem
  have hrun : createAlert tenantId payload alerts =
      .ok (alerts.freshKey,
        alerts.insert (fun id => { payload with id, tenantId }) fun _ => rfl) := by
    simp only [createAlert, hnone]
    refine bind_eq_ok.mpr ⟨(), validateAlertChoice_eq_ok.mpr hchosen.1, ?_⟩
    exact bind_eq_ok.mpr ⟨(), validateAlertChoice_eq_ok.mpr hchosen.2, rfl⟩
  rw [requestAlert, hrun]

/-- What the alerts of a reference say, with their status. -/
def shownUnder (tenantId : UUID) (reference : String) (alerts : Table Alert) :
    List (AlertCreate × String) :=
  (alertsUnder tenantId reference alerts).map fun a => (a.toAlertCreate, a.status)

theorem shownUnder_requestAlert (hchosen : payload.Chosen) :
    shownUnder tenantId reference (requestAlert tenantId' payload alerts) =
      if (tenantId' = tenantId ∧ payload.requestReference = reference) ∧
        shownUnder tenantId reference alerts = [] then [(payload, "pending")]
      else shownUnder tenantId reference alerts := by
  by_cases hheld : alertsUnder tenantId' payload.requestReference alerts = []
  · have hrows : alertsUnder tenantId reference (requestAlert tenantId' payload alerts) =
        alertsUnder tenantId reference alerts ++
          [{ payload with id := alerts.freshKey, tenantId := tenantId' }].filter
            (isUnder tenantId reference) := by
      rw [requestAlert_of_new hheld hchosen, alertsUnder, Table.rows_insert, List.filter_append]
      rfl
    rw [shownUnder, hrows]
    by_cases hmine : tenantId' = tenantId ∧ payload.requestReference = reference
    · obtain ⟨rfl, rfl⟩ := hmine
      rw [if_pos ⟨⟨rfl, rfl⟩, by rw [shownUnder, hheld, List.map_nil]⟩, hheld]
      simp [isUnder]
    · have hnot : isUnder tenantId reference
          { payload with id := alerts.freshKey, tenantId := tenantId' } = false := by
        simpa [isUnder] using hmine
      rw [if_neg fun h => hmine h.1, List.filter_singleton, hnot]
      simp [shownUnder]
  · rw [requestAlert_of_held hheld]
    split
    · next h =>
      obtain ⟨⟨rfl, rfl⟩, hnone⟩ := h
      exact absurd (List.map_eq_nil_iff.mp hnone) hheld
    · rfl

/-- Of all that is asked for under a reference, the first request is the alert. -/
theorem shownUnder_requestAlerts (hchosen : ∀ x ∈ asked, x.2.Chosen) :
    shownUnder tenantId reference (requestAlerts asked alerts) =
      if shownUnder tenantId reference alerts = [] then
        ((asked.find? fun x => x.1 = tenantId && x.2.requestReference = reference).map
          fun x => (x.2, "pending")).toList
      else shownUnder tenantId reference alerts := by
  induction asked generalizing alerts with
  | nil =>
    split
    · next hnone => simpa [requestAlerts] using hnone
    · rfl
  | cons x asked ih =>
    have hstep : shownUnder tenantId reference (requestAlerts (x :: asked) alerts) =
        shownUnder tenantId reference (requestAlerts asked (requestAlert x.1 x.2 alerts)) := rfl
    have hnext := @shownUnder_requestAlert tenantId x.1 reference x.2 alerts
      (hchosen x List.mem_cons_self)
    rw [hstep, ih fun y hy => hchosen y (List.mem_cons_of_mem _ hy)]
    by_cases hnone : shownUnder tenantId reference alerts = []
    · by_cases hmine : x.1 = tenantId ∧ x.2.requestReference = reference
      · rw [if_pos ⟨hmine, hnone⟩] at hnext
        rw [hnext, if_neg (List.cons_ne_nil _ _), if_pos hnone,
          List.find?_cons_of_pos (by simpa using hmine)]
        rfl
      · rw [if_neg fun h => hmine h.1] at hnext
        rw [hnext, if_pos hnone, if_pos hnone, List.find?_cons_of_neg (by simpa using hmine)]
    · rw [if_neg fun h => hnone h.2] at hnext
      rw [hnext, if_neg hnone, if_neg hnone]

end Requests

/-- All that is asked for on a day. -/
def dayRequests (s : Portfolio) (today : Date) : List (UUID × AlertCreate) :=
  documentRequests s today ++ insuranceRequests s today

theorem afterDays_eq (s : Portfolio) (days : List Date) (alerts : Table Alert) :
    afterDays s days alerts = requestAlerts (days.flatMap (dayRequests s)) alerts := by
  induction days generalizing alerts with
  | nil => rfl
  | cons today days ih =>
    rw [List.flatMap_cons, requestAlerts, List.foldl_append, ← requestAlerts, ← requestAlerts,
      ← ih, dayRequests, requestAlerts, List.foldl_append]
    rfl

theorem chosen_dayRequests {s : Portfolio} {today : Date} :
    ∀ x ∈ dayRequests s today, x.2.Chosen := by
  intro x hx
  rcases List.mem_append.mp hx with hx | hx
  · obtain ⟨⟨doc, expiry⟩, _, rfl⟩ := List.mem_map.mp ((List.takeWhile_sublist _).subset hx)
    refine ⟨?_, List.mem_cons_self⟩
    change (if today.daysTo expiry ≤ 7 then "critical" else "high") ∈ alertPriorities
    split <;> decide
  · obtain ⟨days, hdays, hx⟩ := List.mem_flatMap.mp (List.mem_filter.mp hx).1
    obtain ⟨⟨ins, plate⟩, _, rfl⟩ := List.mem_map.mp hx
    refine ⟨?_, List.mem_cons_self⟩
    change insurancePriority days ∈ alertPriorities
    unfold insurancePriority
    split
    · decide
    · split <;> decide

theorem shownUnder_afterDays {s : Portfolio} {alerts : Table Alert} {tenantId : UUID}
    {reference : String} {when : Date → Bool} {request : Date → AlertCreate}
    (hnone : alertsUnder tenantId reference alerts = [])
    (hday : ∀ today, (dayRequests s today).find?
      (fun x => x.1 = tenantId && x.2.requestReference = reference) =
        if when today then some (tenantId, request today) else none) (days : List Date) :
    shownUnder tenantId reference (afterDays s days alerts) =
      ((days.find? when).map fun today => (request today, "pending")).toList := by
  have hchosen : ∀ x ∈ days.flatMap (dayRequests s), x.2.Chosen := by
    intro x hx
    obtain ⟨today, _, hx⟩ := List.mem_flatMap.mp hx
    exact chosen_dayRequests x hx
  have hfind : (days.flatMap (dayRequests s)).find?
      (fun x => x.1 = tenantId && x.2.requestReference = reference) =
        (days.find? when).map fun today => (tenantId, request today) := by
    induction days with
    | nil => rfl
    | cons today days ih =>
      have hrest := ih fun x hx =>
        hchosen x (by rw [List.flatMap_cons]; exact List.mem_append_right _ hx)
      rw [List.flatMap_cons, List.find?_append, hday today, hrest, List.find?_cons]
      cases hw : when today <;> simp
  have hempty : shownUnder tenantId reference alerts = [] := by
    rw [shownUnder, hnone, List.map_nil]
  rw [afterDays_eq, shownUnder_requestAlerts hchosen, if_pos hempty, hfind, Option.map_map]
  rfl

end Rotas
