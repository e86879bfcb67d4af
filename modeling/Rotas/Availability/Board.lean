import Rotas.Availability.Service

/-!
# Rotas.Availability.Board

The availability board: a summary of a vehicle or of a driver with everything that blocks it, read
by separate code from the requirements of `Rotas.Availability.Service`.

* `vehicleAvailabilitySummary`, `driverAvailabilitySummary` — the two summaries.
* `availability_board` — a fleet vehicle is shown as available exactly when it can be required, a
  driver exactly when they can and their hours of service violate no limit; provided no valid
  document is compared with a day that is no date.
* `hours_only_on_board` — hours of service show on the board and nowhere in the requirement.
-/

namespace Rotas

structure Blocker where
  code : String
  details : List (String × Detail)

structure ActiveWaiver where
  id : UUID
  waiverType : String
  riskLevel : String
  reason : String
  expiresAt : Option Instant
  approvedBy : Option UUID

structure AvailabilitySummary where
  entityType : String
  entityId : UUID
  status : String
  available : Bool
  blockers : List Blocker
  warnings : List ComplianceWarning
  complianceViolations : List ComplianceViolation
  activeWaivers : List ActiveWaiver
  activeTripId : Option UUID
  activeWorkOrderId : Option UUID := none
  hos : Option DrivingHours := none

/-- `_active_waiver_summaries`: these may have expired. -/
def activeWaiverSummaries (tenantId : UUID) (entityType : String) (entityId : UUID) (db : Db) :
    List ActiveWaiver :=
  (db.operationalWaivers.rows.filter fun w =>
    w.tenantId = tenantId && w.entityType = entityType && w.entityId = entityId &&
      w.status = .active).map fun w =>
    { id := w.id, waiverType := w.waiverType, riskLevel := w.riskLevel, reason := w.reason
      expiresAt := w.expiresAt, approvedBy := w.approvedBy }

/-- A blocker that is there when the condition holds. -/
def blockIf (c : Bool) (b : Blocker) : List Blocker := if c then [b] else []

/-- A blocker that names a row, when there is one. -/
def blockFound (found : Option UUID) (b : UUID → Blocker) : List Blocker := (found.map b).toList

def complianceBlocked (now : Instant) (tenantId : UUID) (entityType : String) (entityId : UUID)
    (violations : List ComplianceViolation) (db : Db) : Bool :=
  !violations.isEmpty && !hasWaiversForViolations now tenantId entityType entityId violations db

def vehicleAvailabilitySummary [Interpreter] (now : Instant) (tenantId vehicleId : UUID)
    (excludeTripId : Option UUID) (f : Fleet) : Except Exc AvailabilitySummary := do
  let vehicle ← require (f.vehicles.get vehicleId) vehicleNotFound
  raiseIf (vehicle.tenantId ≠ tenantId) vehicleNotFound
  let policy := tenantPolicy tenantId f.toDb
  let violations := vehicleComplianceViolations now vehicle policy
  let warnings ← vehicleComplianceWarnings now vehicle policy
  let activeWorkOrderId := activeWorkOrder tenantId vehicleId f
  let activeTripId := activeTrip Trip.vehicleId tenantId vehicleId excludeTripId f
  let blockers :=
    blockIf (vehicle.status ≠ "active")
        ⟨"vehicle_unavailable", [("vehicle_status", .text vehicle.status)]⟩ ++
      blockIf (complianceBlocked now tenantId "vehicle" vehicle.id violations f.toDb)
        ⟨"vehicle_compliance_blocked",
          [("violations", .records (violations.map ComplianceViolation.detail))]⟩ ++
      blockFound activeWorkOrderId
        (fun id => ⟨"vehicle_workshop_blocked", [("work_order_id", .uuid id)]⟩) ++
      blockFound activeTripId (fun id => ⟨"vehicle_assignment_conflict", [("trip_id", .uuid id)]⟩)
  return {
    entityType := "vehicle"
    entityId := vehicle.id
    status := vehicle.status
    available := blockers.isEmpty
    blockers
    warnings
    complianceViolations := violations
    activeWaivers := activeWaiverSummaries tenantId "vehicle" vehicle.id f.toDb
    activeTripId
    activeWorkOrderId }

def hosBlocker (hos : DrivingHours) : Blocker where
  code := "driver_hos_violation"
  details := [("hours_today", .number (hos.hoursToday / 100)),
    ("hours_this_week", .number (hos.hoursThisWeek / 100)),
    ("violation_reason", .text (hos.violationReason.getD ""))]

def driverAvailabilitySummary (now : Instant) (tenantId driverId : UUID)
    (excludeTripId : Option UUID) (f : Fleet) : Except Exc AvailabilitySummary := do
  let driver ← require (f.drivers.get driverId) driverNotFound
  raiseIf (driver.tenantId ≠ tenantId) driverNotFound
  let policy := tenantPolicy tenantId f.toDb
  let violations := driverComplianceViolations now driver policy
  let warnings ← driverComplianceWarnings now driver policy
  let activeTripId := activeTrip Trip.driverId tenantId driverId excludeTripId f
  let hos := calculateDrivingHours now driverId tenantId none f.toDb
  let blockers :=
    blockIf (driver.status ≠ "active")
        ⟨"driver_unavailable", [("driver_status", .text driver.status)]⟩ ++
      blockIf (complianceBlocked now tenantId "driver" driver.id violations f.toDb)
        ⟨"driver_compliance_blocked",
          [("violations", .records (violations.map ComplianceViolation.detail))]⟩ ++
      blockFound activeTripId
        (fun id => ⟨"driver_assignment_conflict", [("trip_id", .uuid id)]⟩) ++
      blockIf (hos.status = .violation) (hosBlocker hos)
  return {
    entityType := "driver"
    entityId := driver.id
    status := driver.status
    available := blockers.isEmpty
    blockers
    warnings
    complianceViolations := violations
    activeWaivers := activeWaiverSummaries tenantId "driver" driver.id f.toDb
    activeTripId
    hos := some hos }

/-- The board has a summary, and it says available. -/
def SaysAvailable (r : Except Exc AvailabilitySummary) : Prop := ∃ s, r = .ok s ∧ s.available = true

/-! ## The board against the requirements -/

@[simp] theorem blockIf_eq_nil {c : Bool} {b : Blocker} : blockIf c b = [] ↔ c = false := by
  cases c <;> simp [blockIf]

@[simp] theorem blockFound_eq_nil {found : Option UUID} {b : UUID → Blocker} :
    blockFound found b = [] ↔ found = none := by
  cases found <;> simp [blockFound]

section

variable {now : Instant} {tenantId vehicleId driverId : UUID} {excludeTripId : Option UUID}
  {f : Fleet}

theorem complianceBlocked_eq_false {entityType : String} {entityId : UUID}
    {violations : List ComplianceViolation} {db : Db} :
    complianceBlocked now tenantId entityType entityId violations db = false ↔
      violations = [] ∨
        hasWaiversForViolations now tenantId entityType entityId violations db = true := by
  simp only [complianceBlocked, Bool.and_eq_false_iff, Bool.not_eq_false', List.isEmpty_iff]

theorem saysAvailable_vehicle_iff [Interpreter] :
    SaysAvailable (vehicleAvailabilitySummary now tenantId vehicleId excludeTripId f) ↔
      ∃ vehicle, f.vehicles.get vehicleId = some vehicle ∧ vehicle.tenantId = tenantId ∧
        (∀ d ∈ vehicle.candidates (tenantPolicy tenantId f.toDb),
          Weighed (utcDate now) (tenantPolicy tenantId f.toDb) d) ∧
        vehicle.status = "active" ∧
        (vehicleComplianceViolations now vehicle (tenantPolicy tenantId f.toDb) = [] ∨
          hasWaiversForViolations now tenantId "vehicle" vehicle.id
            (vehicleComplianceViolations now vehicle (tenantPolicy tenantId f.toDb)) f.toDb = true) ∧
        activeWorkOrder tenantId vehicleId f = none ∧
        activeTrip Trip.vehicleId tenantId vehicleId excludeTripId f = none := by
  simp only [SaysAvailable, vehicleAvailabilitySummary, bind_eq_ok, require_eq_ok, raiseIf_eq_ok,
    vehicleComplianceWarnings, warnDocuments_eq_ok, pure, Except.pure, Except.ok.injEq,
    decide_eq_false_iff_not, Decidable.not_not]
  constructor
  · rintro ⟨_, ⟨vehicle, hv, _, hten, _, ⟨-, hdates⟩, rfl⟩, hava⟩
    simp only [List.isEmpty_iff, List.append_eq_nil_iff, blockIf_eq_nil, blockFound_eq_nil,
      decide_eq_false_iff_not, Decidable.not_not, complianceBlocked_eq_false] at hava
    obtain ⟨⟨⟨hact, hdocs⟩, horder⟩, htrip⟩ := hava
    exact ⟨vehicle, hv, hten, hdates, hact, hdocs, horder, htrip⟩
  · rintro ⟨vehicle, hv, hten, hdates, hact, hdocs, horder, htrip⟩
    refine ⟨_, ⟨vehicle, hv, (), hten, _, ⟨rfl, hdates⟩, rfl⟩, ?_⟩
    simp only [List.isEmpty_iff, List.append_eq_nil_iff, blockIf_eq_nil, blockFound_eq_nil,
      decide_eq_false_iff_not, Decidable.not_not, complianceBlocked_eq_false]
    exact ⟨⟨⟨hact, hdocs⟩, horder⟩, htrip⟩

theorem saysAvailable_driver_iff :
    SaysAvailable (driverAvailabilitySummary now tenantId driverId excludeTripId f) ↔
      ∃ driver, f.drivers.get driverId = some driver ∧ driver.tenantId = tenantId ∧
        (∀ d ∈ driver.warned (tenantPolicy tenantId f.toDb),
          Weighed (utcDate now) (tenantPolicy tenantId f.toDb) d) ∧
        driver.status = "active" ∧
        (driverComplianceViolations now driver (tenantPolicy tenantId f.toDb) = [] ∨
          hasWaiversForViolations now tenantId "driver" driver.id
            (driverComplianceViolations now driver (tenantPolicy tenantId f.toDb)) f.toDb = true) ∧
        activeTrip Trip.driverId tenantId driverId excludeTripId f = none ∧
        (calculateDrivingHours now driverId tenantId none f.toDb).status ≠ .violation := by
  simp only [SaysAvailable, driverAvailabilitySummary, bind_eq_ok, require_eq_ok, raiseIf_eq_ok,
    driverComplianceWarnings, warnDocuments_eq_ok, pure, Except.pure, Except.ok.injEq,
    decide_eq_false_iff_not, Decidable.not_not]
  constructor
  · rintro ⟨_, ⟨driver, hd, _, hten, _, ⟨-, hdates⟩, rfl⟩, hava⟩
    simp only [List.isEmpty_iff, List.append_eq_nil_iff, blockIf_eq_nil, blockFound_eq_nil,
      decide_eq_false_iff_not, Decidable.not_not, complianceBlocked_eq_false] at hava
    obtain ⟨⟨⟨hact, hdocs⟩, htrip⟩, hhos⟩ := hava
    exact ⟨driver, hd, hten, hdates, hact, hdocs, htrip, hhos⟩
  · rintro ⟨driver, hd, hten, hdates, hact, hdocs, htrip, hhos⟩
    refine ⟨_, ⟨driver, hd, (), hten, _, ⟨rfl, hdates⟩, rfl⟩, ?_⟩
    simp only [List.isEmpty_iff, List.append_eq_nil_iff, blockIf_eq_nil, blockFound_eq_nil,
      decide_eq_false_iff_not, Decidable.not_not, complianceBlocked_eq_false]
    exact ⟨⟨⟨hact, hdocs⟩, htrip⟩, hhos⟩

/-- The summary of a vehicle of the fleet says what its requirement asks, and that of a driver
what theirs asks together with the limits of the hours of service, where the documents that are
looked at for a warning can be weighed. -/
theorem availability_board [Interpreter] (now : Instant) (tenantId vehicleId driverId : UUID)
    (excludeTripId : Option UUID) (f : Fleet) :
    ((∀ vehicle, f.vehicles.get vehicleId = some vehicle → vehicle.ownershipType = "fleet" ∧
        ∀ d ∈ vehicle.candidates (tenantPolicy tenantId f.toDb),
          Weighed (utcDate now) (tenantPolicy tenantId f.toDb) d) →
      (SaysAvailable (vehicleAvailabilitySummary now tenantId vehicleId excludeTripId f) ↔
        ∃ vehicle, requireVehicleAvailable now tenantId vehicleId excludeTripId f = .ok vehicle)) ∧
    ((∀ driver, f.drivers.get driverId = some driver →
        ∀ d ∈ driver.warned (tenantPolicy tenantId f.toDb),
          Weighed (utcDate now) (tenantPolicy tenantId f.toDb) d) →
      (SaysAvailable (driverAvailabilitySummary now tenantId driverId excludeTripId f) ↔
        (∃ driver, requireDriverAvailable now tenantId driverId excludeTripId f = .ok driver) ∧
          (calculateDrivingHours now driverId tenantId none f.toDb).status ≠ .violation)) := by
  simp only [saysAvailable_vehicle_iff, saysAvailable_driver_iff, requireVehicleAvailable_eq_ok,
    requireDriverAvailable_eq_ok]
  constructor
  · intro hvehicle
    refine exists_congr fun vehicle => ?_
    constructor
    · rintro ⟨hv, hten, -, hact, hrest⟩
      exact ⟨hv, hten, (hvehicle vehicle hv).1, hact, hrest⟩
    · rintro ⟨hv, hten, _, hact, hrest⟩
      exact ⟨hv, hten, (hvehicle vehicle hv).2, hact, hrest⟩
  · intro hdriver
    constructor
    · rintro ⟨driver, hd, hten, -, hact, hdocs, htrip, hhos⟩
      exact ⟨⟨driver, hd, hten, hact, hdocs, htrip⟩, hhos⟩
    · rintro ⟨⟨driver, hd, hten, hact, hdocs, htrip⟩, hhos⟩
      exact ⟨driver, hd, hten, hdriver driver hd, hact, hdocs, htrip, hhos⟩

end

/-! ## Hours that only the board counts -/

/-- A vehicle, and a driver whose trip of ten hours has ended today. -/
def tiredFleet : Fleet where
  vehicles := .single { id := 1, tenantId := 1, plate := "AAA-001-MC" }
  drivers := .single { id := 1, tenantId := 1 }
  trips := .single
    { id := 1, tenantId := 1, vehicleId := 1, driverId := 1, origin := "Maputo"
      destination := "Beira", status := .completed, actualDeparture := some 3600
      actualArrival := some 39600 }

theorem availability_board_tired :
    (SaysAvailable (@vehicleAvailabilitySummary .undated 40000 1 1 none tiredFleet) ↔
        ∃ vehicle, @requireVehicleAvailable .undated 40000 1 1 none tiredFleet = .ok vehicle) ∧
      (SaysAvailable (driverAvailabilitySummary 40000 1 1 none tiredFleet) ↔
        (∃ driver, requireDriverAvailable 40000 1 1 none tiredFleet = .ok driver) ∧
          (calculateDrivingHours 40000 1 1 none tiredFleet.toDb).status ≠ .violation) := by
  obtain ⟨hvehicle, hdriver⟩ := @availability_board .undated 40000 1 1 1 none tiredFleet
  refine ⟨hvehicle fun vehicle h => ?_, hdriver fun driver h d hd day hday _ => ?_⟩
  · cases h
    exact ⟨rfl, fun d hd => by cases hd⟩
  · exact ⟨by decide, by decide⟩

/-- A driver over the daily limit can be required, and the board says they are not available. -/
theorem hours_only_on_board :
    ¬ ∀ (now : Instant) (tenantId driverId : UUID) (f : Fleet),
      SaysAvailable (driverAvailabilitySummary now tenantId driverId none f) ↔
        ∃ driver, requireDriverAvailable now tenantId driverId none f = .ok driver := by
  intro hall
  have hshown := (hall 40000 1 1 tiredFleet).mpr ⟨{ id := 1, tenantId := 1 }, by
    rw [requireDriverAvailable_eq_ok]
    exact ⟨rfl, rfl, rfl, .inl rfl, by decide⟩⟩
  obtain ⟨_, _, _, _, _, _, _, hhos⟩ := saysAvailable_driver_iff.mp hshown
  exact hhos (by decide +kernel)

end Rotas
