import Rotas.Drivers.Hours
import Rotas.Fleet.Data

/-!
# Rotas.Availability.Service

Whether a vehicle or a driver can take a trip: what the services that assign them ask for.

* `vehicleComplianceViolations`, `driverComplianceViolations` — missing and expired documents.
* `vehicleComplianceWarnings`, `driverComplianceWarnings` — documents that expire soon. They raise
  for a valid document where the last day that counts as soon is no date: `warnDocuments_eq_ok`.
* `hasWaiversForViolations` — an active waiver for each of them.
* `requireVehicleAvailable`, `requireDriverAvailable` — the row, or the first thing in its way.
-/

namespace Rotas

/-- `ACTIVE_WORK_ORDER_STATUSES`. -/
def activeWorkOrderStatuses : List WorkOrderStatus := [.approved, .inProgress, .qualityCheck]

structure ComplianceViolation where
  code : String
  documentType : String
  validUntil : Option Int := none

def ComplianceViolation.detail (v : ComplianceViolation) : List (String × Detail) :=
  [("code", .text v.code), ("document_type", .text v.documentType)] ++
    (v.validUntil.map fun day => ("valid_until", Detail.date day)).toList

structure ComplianceWarning where
  code : String := "document_expiring"
  documentType : String
  validUntil : Int
  daysUntilExpiry : Int

/-- The names of a list that are not empty. -/
def requiredDocuments (values : List String) : List String := values.filter (· ≠ "")

def warningDays (policy : CompliancePolicy) : Int :=
  if policy.documentExpiryWarningDays < 0 then 30 else policy.documentExpiryWarningDays

/-- `day + timedelta(days=n)`; no date is later than 9999-12-31. -/
def addDays (day n : Int) : Except Exc Int :=
  if 999999999 < n ∨ 2932896 < day + n then .error .overflowError else .ok (day + n)

/-- The comparisons are chained: the second one is made when the first one holds. -/
def isExpiringSoon (today validUntil : Int) (policy : CompliancePolicy) : Except Exc Bool :=
  if validUntil < today then .ok false
  else (addDays today (warningDays policy)).map fun last => validUntil ≤ last

/-- A document that must be there and must not have expired. -/
def checkDocument (today : Int) (documentType : String) :
    Option Int → Option ComplianceViolation
  | none => some { code := "missing_document", documentType }
  | some validUntil =>
    if validUntil < today then
      some { code := "expired_document", documentType, validUntil := some validUntil }
    else none

def warnDocument (today : Int) (policy : CompliancePolicy) (documentType : String) :
    Option Int → Except Exc (Option ComplianceWarning)
  | none => .ok none
  | some day => (isExpiringSoon today day policy).map fun soon =>
    if soon then some { documentType, validUntil := day, daysUntilExpiry := day - today } else none

/-- The warnings about documents with their dates. -/
def warnDocuments (today : Int) (policy : CompliancePolicy) (documents : List (String × Option Int)) :
    Except Exc (List ComplianceWarning) :=
  (documents.mapM fun d => warnDocument today policy d.1 d.2).map List.reduceOption

/-! ## Vehicles -/

section

variable [Interpreter]

def parseDate : Option Json → Option Int
  | some (.text s) => Interpreter.fromisoformat (s.replace "Z" "+00:00")
  | _ => none

/-- The date of the document's own object, or one of the three flat keys. -/
def documentValidUntil (documents : List (String × Json)) (documentType : String) : Option Int :=
  let nested := match Json.get? documents documentType with
    | some (.object entries) =>
      parseDate (Json.orElse (Json.get? entries "valid_until") (Json.get? entries "expires_at"))
    | _ => none
  let flat := Json.orElse
    (Json.orElse (Json.get? documents (documentType ++ "_valid_until"))
      (Json.get? documents (documentType ++ "_expires_at")))
    (Json.get? documents (documentType ++ "_expiry"))
  nested.or (parseDate flat)

def defaultVehicleDocuments : List String :=
  ["insurance", "inspection", "iav", "sign_tax", "cargo_book", "international_license"]

/-- The documents the policy and the vehicle itself require, each once. -/
def requiredVehicleDocuments (policy : CompliancePolicy) (documents : List (String × Json)) :
    List String :=
  let own := match Json.get? documents "required_documents" with
    | some (.list items) => (items.filter Json.truthy).map Json.str
    | _ => []
  let required := requiredDocuments policy.vehicleRequiredDocuments ++ own
  let required :=
    if required.isEmpty && (Json.get? documents "compliance_required").any Json.truthy then
      defaultVehicleDocuments
    else required
  required.eraseDups

def vehicleComplianceViolations (now : Instant) (vehicle : Vehicle) (policy : CompliancePolicy) :
    List ComplianceViolation :=
  (requiredVehicleDocuments policy vehicle.documents).filterMap fun documentType =>
    checkDocument (utcDate now) documentType (documentValidUntil vehicle.documents documentType)

/-- The documents that are required, with their dates. -/
def Vehicle.candidates (vehicle : Vehicle) (policy : CompliancePolicy) : List (String × Option Int) :=
  (requiredVehicleDocuments policy vehicle.documents).map fun documentType =>
    (documentType, documentValidUntil vehicle.documents documentType)

def vehicleComplianceWarnings (now : Instant) (vehicle : Vehicle) (policy : CompliancePolicy) :
    Except Exc (List ComplianceWarning) :=
  warnDocuments (utcDate now) policy (vehicle.candidates policy)

end

/-! ## Drivers -/

/-- The documents of a driver, with their dates. -/
def Driver.candidates (driver : Driver) : List (String × Option Int) :=
  [("driving_license", driver.licenseValidUntil), ("passport", driver.passportValidUntil),
    ("bi", driver.biValidUntil)]

/-- A date that is not there violates only what the policy requires. -/
def driverComplianceViolations (now : Instant) (driver : Driver) (policy : CompliancePolicy) :
    List ComplianceViolation :=
  driver.candidates.filterMap fun (documentType, validUntil) =>
    if validUntil = none ∧ documentType ∉ requiredDocuments policy.driverRequiredDocuments then none
    else checkDocument (utcDate now) documentType validUntil

/-- The documents that are warned of: all of them where the policy requires none. -/
def Driver.warned (driver : Driver) (policy : CompliancePolicy) : List (String × Option Int) :=
  let required := requiredDocuments policy.driverRequiredDocuments
  let required := if required.isEmpty then ["driving_license", "passport", "bi"] else required
  driver.candidates.filter fun d => d.1 ∈ required

def driverComplianceWarnings (now : Instant) (driver : Driver) (policy : CompliancePolicy) :
    Except Exc (List ComplianceWarning) :=
  warnDocuments (utcDate now) policy (driver.warned policy)

/-! ## What is warned of -/

/-- A document that expires within the days of the policy. -/
def expiring (today : Int) (policy : CompliancePolicy) (d : String × Option Int) :
    Option ComplianceWarning :=
  (d.2.filter fun day => today ≤ day && day ≤ today + warningDays policy).map fun day =>
    { documentType := d.1, validUntil := day, daysUntilExpiry := day - today }

/-- The last day that counts as soon is a date. -/
def Foreseen (today : Int) (policy : CompliancePolicy) : Prop :=
  warningDays policy ≤ 999999999 ∧ today + warningDays policy ≤ 2932896

/-- It is, or the document is not valid any more. -/
def Weighed (today : Int) (policy : CompliancePolicy) (d : String × Option Int) : Prop :=
  ∀ day, d.2 = some day → today ≤ day → Foreseen today policy

section

variable {today : Int} {policy : CompliancePolicy}

theorem addDays_eq_ok {day n last : Int} :
    addDays day n = .ok last ↔ last = day + n ∧ n ≤ 999999999 ∧ day + n ≤ 2932896 := by
  unfold addDays
  split
  · next hlate =>
    have hnot : ¬ (n ≤ 999999999 ∧ day + n ≤ 2932896) := by omega
    simp [hnot]
  · next hdate =>
    have hboth : n ≤ 999999999 ∧ day + n ≤ 2932896 := by omega
    simp [hboth, eq_comm]

theorem isExpiringSoon_eq_ok {day : Int} {soon : Bool} :
    isExpiringSoon today day policy = .ok soon ↔
      soon = (today ≤ day && day ≤ today + warningDays policy) ∧
        (today ≤ day → Foreseen today policy) := by
  unfold isExpiringSoon
  by_cases hday : day < today
  · have hexpired : ¬ today ≤ day := not_le.mpr hday
    simp [hday, hexpired, eq_comm]
  · have hvalid : today ≤ day := not_lt.mp hday
    rw [if_neg hday, map_eq_ok]
    simp only [addDays_eq_ok, Foreseen, hvalid, forall_const, decide_true, Bool.true_and]
    constructor
    · rintro ⟨_, ⟨rfl, hdates⟩, rfl⟩
      exact ⟨rfl, hdates⟩
    · rintro ⟨rfl, hdates⟩
      exact ⟨_, ⟨rfl, hdates⟩, rfl⟩

theorem warnDocument_eq_ok {d : String × Option Int} {w : Option ComplianceWarning} :
    warnDocument today policy d.1 d.2 = .ok w ↔ w = expiring today policy d ∧
      Weighed today policy d := by
  obtain ⟨documentType, validUntil⟩ := d
  cases validUntil with
  | none => simp [warnDocument, expiring, Weighed, eq_comm]
  | some day =>
    simp only [warnDocument, map_eq_ok, isExpiringSoon_eq_ok, expiring, Weighed, Option.some.injEq,
      forall_eq']
    constructor
    · rintro ⟨soon, ⟨rfl, hweighed⟩, rfl⟩
      refine ⟨?_, hweighed⟩
      rw [Option.filter_some]
      split <;> rfl
    · rintro ⟨rfl, hweighed⟩
      refine ⟨_, ⟨rfl, hweighed⟩, ?_⟩
      rw [Option.filter_some]
      split <;> rfl

theorem warnDocuments_eq_ok {documents : List (String × Option Int)} {ws : List ComplianceWarning} :
    warnDocuments today policy documents = .ok ws ↔
      ws = documents.filterMap (expiring today policy) ∧ ∀ d ∈ documents, Weighed today policy d := by
  rw [warnDocuments, map_eq_ok]
  simp only [mapM_eq_ok fun d w => @warnDocument_eq_ok today policy d w]
  constructor
  · rintro ⟨_, ⟨rfl, hall⟩, rfl⟩
    exact ⟨List.filterMap_map, hall⟩
  · rintro ⟨rfl, hall⟩
    exact ⟨_, ⟨rfl, hall⟩, List.filterMap_map⟩

end

/-! ## What stands in the way -/

/-- `_tenant_policy`. -/
def tenantPolicy (tenantId : UUID) (db : Db) : CompliancePolicy :=
  ((db.tenants.get tenantId).map Tenant.compliancePolicy).getD {}

def hasWaiversForViolations (now : Instant) (tenantId : UUID) (entityType : String)
    (entityId : UUID) (violations : List ComplianceViolation) (db : Db) : Bool :=
  violations.all fun v =>
    let waiverType :=
      if v.code = "missing_document" then "missing_document" else "expired_warning"
    hasActiveWaiver now tenantId entityType entityId waiverType db

/-- A work order of the vehicle that is in the workshop. -/
def activeWorkOrder (tenantId vehicleId : UUID) (f : Fleet) : Option UUID :=
  (f.workOrders.rows.find? fun w =>
    w.tenantId = tenantId && w.vehicleId = some vehicleId &&
      w.status ∈ activeWorkOrderStatuses).map WorkOrder.id

/-- An active trip that holds the vehicle or the driver, other than the excluded one. -/
def activeTrip (held : Trip → UUID) (tenantId id : UUID) (excludeTripId : Option UUID) (f : Fleet) :
    Option UUID :=
  (f.trips.rows.find? fun t =>
    t.tenantId = tenantId && held t = id && t.status.active && some t.id ≠ excludeTripId).map Trip.id

/-- Raise the error that names the row, if there is one. -/
def raiseFound (found : Option UUID) (e : UUID → Exc) : Except Exc Unit :=
  match found with
  | some id => .error (e id)
  | none => .ok ()

def vehicleNotFound : Exc := notFound "vehicle_not_found" "Vehicle not found."

def driverNotFound : Exc := notFound "driver_not_found" "Driver not found."

def requireVehicleAvailable [Interpreter] (now : Instant) (tenantId vehicleId : UUID)
    (excludeTripId : Option UUID) (f : Fleet) : Except Exc Vehicle := do
  let vehicle ← require (f.vehicles.get vehicleId) vehicleNotFound
  raiseIf (vehicle.tenantId ≠ tenantId) vehicleNotFound
  raiseIf (vehicle.ownershipType ≠ "fleet")
    (conflict "invalid_vehicle_ownership" "Customer vehicles cannot be assigned to trips.")
  raiseIf (vehicle.status ≠ "active")
    (conflict "vehicle_unavailable" "Vehicle is not active for assignment."
      [("vehicle_status", .text vehicle.status)])
  let violations := vehicleComplianceViolations now vehicle (tenantPolicy tenantId f.toDb)
  raiseIf (!violations.isEmpty &&
      !hasWaiversForViolations now tenantId "vehicle" vehicle.id violations f.toDb)
    (conflict "vehicle_compliance_blocked" "Vehicle has missing or expired compliance documents."
      [("violations", .records (violations.map ComplianceViolation.detail))])
  raiseFound (activeWorkOrder tenantId vehicleId f) fun id =>
    conflict "vehicle_workshop_blocked" "Vehicle has an active workshop work order."
      [("work_order_id", .uuid id)]
  raiseFound (activeTrip Trip.vehicleId tenantId vehicleId excludeTripId f) fun id =>
    conflict "vehicle_assignment_conflict" "Vehicle already has an active trip."
      [("trip_id", .uuid id)]
  return vehicle

def requireDriverAvailable (now : Instant) (tenantId driverId : UUID)
    (excludeTripId : Option UUID) (f : Fleet) : Except Exc Driver := do
  let driver ← require (f.drivers.get driverId) driverNotFound
  raiseIf (driver.tenantId ≠ tenantId) driverNotFound
  raiseIf (driver.status ≠ "active")
    (conflict "driver_unavailable" "Driver is not active for assignment."
      [("driver_status", .text driver.status)])
  let violations := driverComplianceViolations now driver (tenantPolicy tenantId f.toDb)
  raiseIf (!violations.isEmpty &&
      !hasWaiversForViolations now tenantId "driver" driver.id violations f.toDb)
    (conflict "driver_compliance_blocked" "Driver has expired compliance documents."
      [("violations", .records (violations.map ComplianceViolation.detail))])
  raiseFound (activeTrip Trip.driverId tenantId driverId excludeTripId f) fun id =>
    conflict "driver_assignment_conflict" "Driver already has an active trip."
      [("trip_id", .uuid id)]
  return driver

/-- `require_vehicle_and_driver_available`: the vehicle first. -/
def requireVehicleAndDriverAvailable [Interpreter] (now : Instant)
    (tenantId vehicleId driverId : UUID) (excludeTripId : Option UUID) (f : Fleet) :
    Except Exc (Vehicle × Driver) := do
  let vehicle ← requireVehicleAvailable now tenantId vehicleId excludeTripId f
  let driver ← requireDriverAvailable now tenantId driverId excludeTripId f
  return (vehicle, driver)

/-! ## What the requirements say -/

@[simp] theorem raiseFound_eq_ok {found : Option UUID} {e : UUID → Exc} {u : Unit} :
    raiseFound found e = .ok u ↔ found = none := by
  cases found <;> simp [raiseFound]

section

variable {now : Instant} {tenantId vehicleId driverId : UUID} {excludeTripId : Option UUID}
  {f : Fleet} {vehicle : Vehicle} {driver : Driver}

theorem requireVehicleAvailable_eq_ok [Interpreter] :
    requireVehicleAvailable now tenantId vehicleId excludeTripId f = .ok vehicle ↔
      f.vehicles.get vehicleId = some vehicle ∧ vehicle.tenantId = tenantId ∧
        vehicle.ownershipType = "fleet" ∧ vehicle.status = "active" ∧
        (vehicleComplianceViolations now vehicle (tenantPolicy tenantId f.toDb) = [] ∨
          hasWaiversForViolations now tenantId "vehicle" vehicle.id
            (vehicleComplianceViolations now vehicle (tenantPolicy tenantId f.toDb)) f.toDb = true) ∧
        activeWorkOrder tenantId vehicleId f = none ∧
        activeTrip Trip.vehicleId tenantId vehicleId excludeTripId f = none := by
  simp only [requireVehicleAvailable, bind_eq_ok, require_eq_ok, raiseIf_eq_ok, raiseFound_eq_ok,
    pure, Except.pure, Except.ok.injEq, decide_eq_false_iff_not, Decidable.not_not,
    Bool.and_eq_false_iff, Bool.not_eq_false', List.isEmpty_iff]
  constructor
  · rintro ⟨v, hv, _, hten, _, hown, _, hact, _, hdocs, _, horder, _, htrip, rfl⟩
    exact ⟨hv, hten, hown, hact, hdocs, horder, htrip⟩
  · rintro ⟨hv, hten, hown, hact, hdocs, horder, htrip⟩
    exact ⟨vehicle, hv, (), hten, (), hown, (), hact, (), hdocs, (), horder, (), htrip, rfl⟩

theorem requireDriverAvailable_eq_ok :
    requireDriverAvailable now tenantId driverId excludeTripId f = .ok driver ↔
      f.drivers.get driverId = some driver ∧ driver.tenantId = tenantId ∧
        driver.status = "active" ∧
        (driverComplianceViolations now driver (tenantPolicy tenantId f.toDb) = [] ∨
          hasWaiversForViolations now tenantId "driver" driver.id
            (driverComplianceViolations now driver (tenantPolicy tenantId f.toDb)) f.toDb = true) ∧
        activeTrip Trip.driverId tenantId driverId excludeTripId f = none := by
  simp only [requireDriverAvailable, bind_eq_ok, require_eq_ok, raiseIf_eq_ok, raiseFound_eq_ok,
    pure, Except.pure, Except.ok.injEq, decide_eq_false_iff_not, Decidable.not_not,
    Bool.and_eq_false_iff, Bool.not_eq_false', List.isEmpty_iff]
  constructor
  · rintro ⟨d, hd, _, hten, _, hact, _, hdocs, _, htrip, rfl⟩
    exact ⟨hd, hten, hact, hdocs, htrip⟩
  · rintro ⟨hd, hten, hact, hdocs, htrip⟩
    exact ⟨driver, hd, (), hten, (), hact, (), hdocs, (), htrip, rfl⟩

theorem requireVehicleAndDriverAvailable_eq_ok [Interpreter] :
    requireVehicleAndDriverAvailable now tenantId vehicleId driverId excludeTripId f =
        .ok (vehicle, driver) ↔
      requireVehicleAvailable now tenantId vehicleId excludeTripId f = .ok vehicle ∧
        requireDriverAvailable now tenantId driverId excludeTripId f = .ok driver := by
  simp only [requireVehicleAndDriverAvailable, bind_eq_ok, pure, Except.pure, Except.ok.injEq,
    Prod.mk.injEq]
  constructor
  · rintro ⟨v, hv, d, hd, rfl, rfl⟩
    exact ⟨hv, hd⟩
  · rintro ⟨hv, hd⟩
    exact ⟨vehicle, hv, driver, hd, rfl, rfl⟩

end

end Rotas
