import Rotas.Fuel.Operations

/-!
# Rotas.Fuel.Logs

Fuel bought on the road: what the service takes of it, and what it stores.

* `FuelLogCreate.row`   — the row of a log.
* `createFuelLog_eq_ok` — the service refuses a log or writes its row.
* `FuelLogCreate.Taken` — the vehicle, the driver and the values of a log that is taken.
* `createFuelLog_iff`   — the service and the database take those logs and no others.
-/

namespace Rotas

open Decimal

/-- The kilometres since the last log of the vehicle. -/
def FuelLogCreate.kmSinceLast (c : FuelLogCreate) (tenantId : UUID) (s : Depot) : Option Int :=
  (previousFuelLog tenantId c.vehicleId c.fuelDate c.kmAtRefuel s).bind fun l =>
    if l.kmAtRefuel < c.kmAtRefuel then some (c.kmAtRefuel - l.kmAtRefuel) else none

def FuelLogCreate.consumption (c : FuelLogCreate) (tenantId : UUID) (s : Depot) : Option Int :=
  calculateConsumption c.liters (c.kmSinceLast tenantId s)

def FuelLogCreate.row (c : FuelLogCreate) (now : Instant) (tenantId : UUID) (vehicle : Vehicle)
    (s : Depot) (id : UUID) : FuelLog :=
  { id, tenantId, vehicleId := c.vehicleId, driverId := c.driverId, fuelDate := c.fuelDate
    stationName := c.stationName, fuelType := c.fuelType, liters := numeric 2 c.liters
    pricePerLiter := c.pricePerLiter.map (numeric 2), totalCost := numeric 2 c.totalCost
    kmAtRefuel := c.kmAtRefuel, kmSinceLast := c.kmSinceLast tenantId s
    consumption := c.consumption tenantId s, receiptFileId := c.receiptFileId
    odometerFileId := c.odometerFileId, paymentMethod := c.paymentMethod
    paymentReference := c.paymentReference
    flagged := isAnomaly (c.consumption tenantId s)
      (historicalConsumptionAverage tenantId c.vehicleId s)
      (vehicle.avgConsumptionTarget.map fun target => (target : ℚ) / 100)
    clientCapturedAt := c.clientCapturedAt, createdAt := now }

/-- The depot with a log. -/
def FuelLogCreate.logged (c : FuelLogCreate) (now : Instant) (tenantId : UUID) (vehicle : Vehicle)
    (s : Depot) : Depot :=
  { s with
    fuelLogs := s.fuelLogs.insert (c.row now tenantId vehicle s)
    vehicles := advanceOdometer c.vehicleId c.kmAtRefuel s.vehicles }

/-- The vehicle is one of the fleet and was not further on, its driver is there, and the reading,
the amounts and the texts fit their columns. -/
structure FuelLogCreate.Taken (c : FuelLogCreate) (tenantId : UUID) (s : Depot) : Prop where
  vehicle : ∃ v, requireRefuelVehicle tenantId c.vehicleId s = .ok v ∧ v.ownershipType = "fleet" ∧
    v.currentKm ≤ c.kmAtRefuel
  driver : ∃ d, requireRefuelDriver tenantId c.driverId s = .ok d
  liters : 0 < c.liters ∧ 0 < numeric 2 c.liters ∧ fitsPayload (numeric 2 c.liters) = true
  price : (c.pricePerLiter.map (numeric 2)).all (fun p => decide (|p| < 10 ^ 10)) = true
  cost : 0 ≤ c.totalCost ∧ fitsMoney (numeric 2 c.totalCost) = true
  consumption : (c.consumption tenantId s).all fitsPayload = true
  reading : c.kmAtRefuel < 2 ^ 31
  texts : fuelTextsFit c.stationName c.fuelType c.paymentMethod c.paymentReference = true

variable {c : FuelLogCreate} {now : Instant} {tenantId : UUID} {vehicle : Vehicle} {s : Depot}

theorem createFuelLog_eq_ok {r : UUID × Depot} : createFuelLog now tenantId c s = .ok r ↔
    ∃ v, requireRefuelVehicle tenantId c.vehicleId s = .ok v ∧ v.ownershipType = "fleet" ∧
      (∃ d, requireRefuelDriver tenantId c.driverId s = .ok d) ∧ 0 < c.liters ∧
      0 ≤ c.totalCost ∧ v.currentKm ≤ c.kmAtRefuel ∧
      r = (s.fuelLogs.freshKey, c.logged now tenantId v s) := by
  simp only [createFuelLog, bind_eq_ok, raiseIf_eq_ok, pure, Except.pure, Except.ok.injEq]
  refine exists_congr fun v => and_congr_right fun _ => ?_
  constructor
  · rintro ⟨_, howner, d, hdriver, _, hliters, _, hcost, _, hkm, rfl⟩
    exact ⟨by simpa using howner, ⟨d, hdriver⟩, by simpa using hliters, by simpa using hcost,
      by simpa using hkm, rfl⟩
  · rintro ⟨howner, ⟨d, hdriver⟩, hliters, hcost, hkm, rfl⟩
    exact ⟨(), by simpa using howner, d, hdriver, (), by simpa using hliters, (),
      by simpa using hcost, (), by simpa using hkm, rfl⟩

theorem get_logged : (c.logged now tenantId vehicle s).fuelLogs.get s.fuelLogs.freshKey =
    some (c.row now tenantId vehicle s s.fuelLogs.freshKey) :=
  (Table.get_insert s.fuelLogs (c.row now tenantId vehicle s) (fun _ => rfl) _).trans (if_pos rfl)

theorem kmSinceLast_nonneg : (c.kmSinceLast tenantId s).all (0 ≤ ·) = true := by
  unfold FuelLogCreate.kmSinceLast
  cases previousFuelLog tenantId c.vehicleId c.fuelDate c.kmAtRefuel s with
  | none => rfl
  | some l =>
    rw [Option.bind_some]
    split
    · next hlt => exact decide_eq_true (by omega)
    · rfl

theorem ok_advanceOdometer {vehicles : Table Vehicle} {vehicleId : UUID} {reading : Int}
    (hok : vehicles.rows.all Vehicle.ok = true) :
    (advanceOdometer vehicleId reading vehicles).rows.all Vehicle.ok = true := by
  rw [List.all_eq_true] at hok ⊢
  refine (Table.forall_mem_modify (P := fun v : Vehicle => v.ok = true) fun v hv _ => ?_).mpr hok
  have hv := hok v hv
  simp only [Vehicle.ok, Bool.and_eq_true, decide_eq_true_eq] at hv ⊢
  exact iff_of_true ⟨hv.1.trans (le_max_left _ _), hv.2⟩ hv

theorem requireRefuelVehicle_mem {vehicleId : UUID}
    (h : requireRefuelVehicle tenantId vehicleId s = .ok vehicle) : vehicle ∈ s.vehicles := by
  simp only [requireRefuelVehicle, bind_eq_ok, require_eq_ok] at h
  obtain ⟨v, hv, _, _, h⟩ := h
  cases h
  exact Table.mem_of_get hv

theorem currentKm_nonneg (hok : s.ok = true) (hvehicle : vehicle ∈ s.vehicles) :
    0 ≤ vehicle.currentKm := by
  simp only [Depot.ok, Fleet.ok, Bool.and_eq_true, List.all_eq_true] at hok
  have hv : vehicle.ok = true := by
    obtain ⟨⟨⟨⟨⟨⟨⟨⟨⟨_, hvehicles⟩, _⟩, _⟩, _⟩, _⟩, _⟩, _⟩, _⟩, _⟩ := hok
    exact hvehicles vehicle hvehicle
  rw [Vehicle.ok, Bool.and_eq_true] at hv
  exact of_decide_eq_true hv.1

/-- The database takes the depot with a log if it takes the log. -/
theorem ok_logged (hok : s.ok = true) : (c.logged now tenantId vehicle s).ok =
    (c.row now tenantId vehicle s s.fuelLogs.freshKey).ok := by
  simp only [Depot.ok, Fleet.ok, Bool.and_eq_true] at hok
  obtain ⟨⟨⟨⟨⟨⟨⟨⟨⟨hdb, hvehicles⟩, horders⟩, hheld⟩, hheld'⟩, hcosts⟩, htanks⟩, hmovements⟩,
    hrefuels⟩, hlogs⟩ := hok
  have hdb' : (c.logged now tenantId vehicle s).toDb.ok = true := hdb
  have hrows : (c.logged now tenantId vehicle s).fuelLogs.rows =
      s.fuelLogs.rows ++ [c.row now tenantId vehicle s s.fuelLogs.freshKey] := rfl
  simp only [Depot.ok, Fleet.ok, hdb', hrows, List.all_append, hlogs]
  simp [FuelLogCreate.logged, ok_advanceOdometer hvehicles, hheld, hheld', htanks, hmovements,
    hrefuels]
  exact fun _ => ⟨horders, hcosts⟩

theorem createFuelLog_iff (hok : s.ok = true) :
    (∃ r, createFuelLog now tenantId c s = .ok r ∧ r.2.ok = true) ↔ c.Taken tenantId s := by
  constructor
  · rintro ⟨_, hr, hrow⟩
    obtain ⟨v, hv, howner, hdriver, hliters, hcost, hkm, rfl⟩ := createFuelLog_eq_ok.mp hr
    rw [ok_logged hok] at hrow
    simp only [FuelLog.ok, FuelLogCreate.row, Bool.and_eq_true] at hrow
    obtain ⟨⟨⟨⟨⟨⟨⟨⟨hpositive, hfits⟩, hprice⟩, hmoney⟩, _⟩, _⟩, hconsumption⟩, hreading⟩, htexts⟩ :=
      hrow
    exact ⟨⟨v, hv, howner, hkm⟩, hdriver, ⟨hliters, of_decide_eq_true hpositive, hfits⟩, hprice,
      ⟨hcost, hmoney⟩, hconsumption, of_decide_eq_true hreading, htexts⟩
  · rintro ⟨⟨v, hv, howner, hkm⟩, hdriver, ⟨hliters, hpositive, hfits⟩, hprice, ⟨hcost, hmoney⟩,
      hconsumption, hlarge, htexts⟩
    refine ⟨_, createFuelLog_eq_ok.mpr ⟨v, hv, howner, hdriver, hliters, hcost, hkm, rfl⟩, ?_⟩
    rw [ok_logged hok]
    have hreading : 0 ≤ c.kmAtRefuel := by
      have hvehicle := currentKm_nonneg hok (requireRefuelVehicle_mem hv)
      omega
    simp only [FuelLog.ok, FuelLogCreate.row, Bool.and_eq_true]
    exact ⟨⟨⟨⟨⟨⟨⟨⟨decide_eq_true hpositive, hfits⟩, hprice⟩, hmoney⟩, decide_eq_true hreading⟩,
      kmSinceLast_nonneg⟩, hconsumption⟩, decide_eq_true hlarge⟩, htexts⟩

end Rotas
