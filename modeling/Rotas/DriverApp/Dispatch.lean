import Rotas.Checklists.Service
import Rotas.DriverApp.Queue
import Rotas.Sync.Payloads

/-!
# Rotas.DriverApp.Dispatch

What the server makes of an operation that creates something.

* `decodeFuelLog`, `decodeChecklist` — what the services are given.
* `TripServices`   — the services that no view of the app comes to: those of trips, and those of
  what lies under a trip.
* `dispatchCreate` — `_dispatch_create`.
-/

namespace Rotas
namespace DriverApp

/-! ## What the services are given -/

def fuelLogOf (fields : Fields) : Option FuelLogCreate := do
  let vehicleId ← readField fields "vehicle_id" Value.uuid?
  let driverId ← readField fields "driver_id" Value.uuid?
  let fuelDate ← readField fields "fuel_date" Value.datetime?
  let fuelType ← readField fields "fuel_type" Value.text?
  let liters ← readField fields "liters" Value.number?
  let totalCost ← readField fields "total_cost" Value.number?
  let kmAtRefuel ← readField fields "km_at_refuel" Value.integer?
  return {
    vehicleId, driverId, fuelDate, stationName := readField fields "station_name" Value.text?, fuelType
    liters, pricePerLiter := readField fields "price_per_liter" Value.number?, totalCost, kmAtRefuel
    receiptFileId := readField fields "receipt_file_id" Value.uuid?
    odometerFileId := readField fields "odometer_file_id" Value.uuid?
    paymentMethod := readField fields "payment_method" Value.text?
    paymentReference := readField fields "payment_reference" Value.text?
    clientCapturedAt := readField fields "client_captured_at" Value.datetime? }

def checklistOf (fields : Fields) : Option ChecklistCreate := do
  let vehicleId ← readField fields "vehicle_id" Value.uuid?
  let driverId ← readField fields "driver_id" Value.uuid?
  let templateId ← readField fields "template_id" Value.uuid?
  let type ← readField fields "type" Value.text?
  let responses ← readField fields "responses" Value.object?
  return {
    vehicleId, driverId, templateId, type, responses
    clientCapturedAt := readField fields "client_captured_at" Value.datetime?
    startedAt := readField fields "started_at" Value.datetime? }

section Decode

variable [Wire]

/-- `FuelLogCreate(**payload)`. -/
def decodeFuelLog (payload : Payload) : Except Exc FuelLogCreate := do
  let fields ← validate fuelLogCreate payload
  require (fuelLogOf fields) .typeError

/-- `ChecklistCreate(**payload)`. -/
def decodeChecklist (payload : Payload) : Except Exc ChecklistCreate := do
  let fields ← validate checklistCreate payload
  require (checklistOf fields) .typeError

end Decode

/-! ## The dispatch -/

structure TripServices where
  createTrip : UUID → Fields → Yard → Except Exc (UUID × Yard)
  underTrip : EntityType → UUID → UUID → Fields → Yard → Except Exc (UUID × Yard)

/-- The schemas of what lies under a trip. -/
def underTripSchema : EntityType → Option (List Field)
  | .tripStop => some tripStopCreate
  | .tripCost => some tripCostCreate
  | .loadPermit => some loadPermitCreate
  | .cargoManifest => some cargoManifestCreate
  | .transportDocument => some transportDocumentCreate
  | .deliveryProof => some deliveryProofCreate
  | _ => none

inductive Outcome where
  | processed (serverId : UUID)
  | failed (errorCode message : String)
  deriving DecidableEq

/-- The service commits what it has written, unless the database refuses it. -/
def committed (r : Except Exc (UUID × Yard)) : Except Exc (UUID × Yard) := do
  let (id, s) ← r
  raiseIf (!s.toDepot.ok) .integrityError
  return (id, s)

/-- A service of the depot. -/
def onDepot (f : Depot → Except Exc (UUID × Depot)) (s : Yard) : Except Exc (UUID × Yard) := do
  let (id, depot) ← f s.toDepot
  return (id, { s with toDepot := depot })

def createOf (r : Except Exc (UUID × Yard)) : Except Exc (Outcome × Yard) := do
  let (id, s) ← committed r
  return (.processed id, s)

@[simp] theorem committed_eq_ok {r : Except Exc (UUID × Yard)} {p : UUID × Yard} :
    committed r = .ok p ↔ r = .ok p ∧ p.2.toDepot.ok = true := by
  simp only [committed, bind_eq_ok, raiseIf_eq_ok, pure, Except.pure, Except.ok.injEq]
  constructor
  · rintro ⟨_, h, _, hok, rfl⟩
    exact ⟨h, by simpa using hok⟩
  · rintro ⟨h, hok⟩
    exact ⟨p, h, (), by simpa using hok, rfl⟩

theorem createOf_eq_ok {r : Except Exc (UUID × Yard)} {o : Outcome} {s : Yard} :
    createOf r = .ok (o, s) ↔ ∃ id, r = .ok (id, s) ∧ s.toDepot.ok = true ∧ o = .processed id := by
  simp only [createOf, bind_eq_ok, committed_eq_ok, pure, Except.pure, Except.ok.injEq,
    Prod.mk.injEq]
  constructor
  · rintro ⟨⟨id, _⟩, ⟨h, hok⟩, rfl, rfl⟩
    exact ⟨id, h, hok, rfl⟩
  · rintro ⟨id, h, hok, rfl⟩
    exact ⟨(id, s), ⟨h, hok⟩, rfl, rfl⟩

theorem onDepot_eq_ok {f : Depot → Except Exc (UUID × Depot)} {s : Yard} {p : UUID × Yard} :
    onDepot f s = .ok p ↔ ∃ r, f s.toDepot = .ok r ∧ p = (r.1, { s with toDepot := r.2 }) := by
  simp only [onDepot, bind_eq_ok, pure, Except.pure, Except.ok.injEq]
  exact exists_congr fun r => and_congr_right fun _ => eq_comm

section

variable [Wire] [Locale] (S : TripServices) (now : Instant) (tenantId : UUID)

def dispatchChecklist (payload : Payload) (s : Yard) : Except Exc (Outcome × Yard) := do
  let create ← decodeChecklist payload
  let (id, s) ← committed (createChecklist now tenantId create s)
  match Json.get? payload "complete" with
  | some (.bool true) => createOf (completeChecklist now tenantId id {} s)
  | _ => return (.processed id, s)

def dispatchFuelLog (payload : Payload) (s : Yard) : Except Exc (Outcome × Yard) := do
  let create ← decodeFuelLog payload
  createOf (onDepot (createFuelLog now tenantId create) s)

def dispatchUnderTrip (entityType : EntityType) (payload : Payload) (s : Yard) :
    Except Exc (Outcome × Yard) :=
  match (Json.get? payload "trip_id").bind fun v => match v with | .null => none | v => some v with
  | none => .ok (.failed "trip_id_required" "Sync operation requires trip_id.", s)
  | some tripId =>
    match underTripSchema entityType with
    | some schema => do
      let tripId ← require (Wire.uuid tripId) (.valueError "trip_id")
      let fields ← validate schema (payload.filter (·.1 ≠ "trip_id"))
      createOf (S.underTrip entityType tenantId tripId fields s)
    | none => .ok (.failed "unsupported_entity_type"
        ("Sync create is not implemented for " ++ entityType.text ++ "."), s)

def dispatchCreate (entityType : EntityType) (payload : Payload) (s : Yard) :
    Except Exc (Outcome × Yard) :=
  let payload := normalizePayload payload
  match entityType with
  | .trip => do
    let fields ← validate tripCreate payload
    createOf (S.createTrip tenantId fields s)
  | .checklist => dispatchChecklist now tenantId payload s
  | .fuelLog => dispatchFuelLog now tenantId payload s
  | entityType => dispatchUnderTrip S tenantId entityType payload s

end

end DriverApp
end Rotas
