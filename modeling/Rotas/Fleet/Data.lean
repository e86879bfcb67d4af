import Rotas.Trips.Close
import Rotas.Workshop.Data

/-!
# Rotas.Fleet.Data

The database the trips run on: that of billing, with the drivers, the dispatch clearances and the
work orders of the workshop.

* `TripStatus.active` — the statuses in which a trip holds its vehicle and its driver.
* `Fleet.ok` — the checks of the database, the partial unique indexes of the trips with
  them.
* `Fleet.onDb` — a service of the billing database, on the fleet's.
-/

namespace Rotas

open Work

/-- `ACTIVE_TRIP_STATUSES`; the partial indexes of the trips list the same. -/
def activeTripStatuses : List TripStatus :=
  [.planned, .dispatchPending, .dispatched, .inProgress, .delayed, .incident]

def TripStatus.active (s : TripStatus) : Bool := s ∈ activeTripStatuses

structure Fleet extends Db where
  drivers : Table Driver := ∅
  dispatchClearances : Table DispatchClearance := ∅
  workOrders : Table WorkOrder := ∅

/-! ## What the database checks -/

/-- `NUMERIC(10, 2)` with a `CHECK (… >= 0)`. -/
def fitsPayload (c : Int) : Bool := 0 ≤ c && c < 10 ^ 10

def Vehicle.ok (v : Vehicle) : Bool := 0 ≤ v.currentKm && v.maxPayloadKg.all fitsPayload

/-- The rows that hold something have no two of one holder: `uniq_active_vehicle_trip` and
`uniq_active_driver_trip`. -/
def uniqueActive (trips : Table Trip) (held : Trip → UUID) : Bool :=
  decide (((trips.rows.filter (·.status.active)).map fun t => (t.tenantId, held t)).Nodup)

def Fleet.ok (f : Fleet) : Bool :=
  f.toDb.ok && f.vehicles.rows.all Vehicle.ok &&
    decide ((f.trips.rows.filterMap Trip.tripOrderId).Nodup) &&
    uniqueActive f.trips Trip.vehicleId && uniqueActive f.trips Trip.driverId &&
    decide ((f.tripCosts.rows.map fun c => (c.tenantId, c.requestReference)).Nodup)

instance : Store Fleet Exc := ⟨Fleet.ok, .integrityError⟩

theorem uniqueActive_iff {trips : Table Trip} {held : Trip → UUID} :
    uniqueActive trips held = true ↔ ∀ t ∈ trips, ∀ t' ∈ trips, t.status.active = true →
      t'.status.active = true → t.tenantId = t'.tenantId → held t = held t' → t = t' := by
  have hnodup : (trips.rows.filter (·.status.active)).Nodup :=
    trips.nodup.of_map.filter _
  rw [uniqueActive, decide_eq_true_eq, List.nodup_map_iff_inj_on hnodup]
  simp only [List.mem_filter, and_imp, Prod.mk.injEq, Table.mem_def]
  constructor
  · intro h t ht t' ht' ha ha' hten hheld
    exact h t ht ha t' ht' ha' hten hheld
  · intro h t ht ha t' ht' ha' hten hheld
    exact h t ht t' ht' ha ha' hten hheld

/-! ## Services of the billing database -/

/-- A service of the billing database, run on the fleet's: the other tables stay as they are. -/
def Fleet.onDb (service : Db → Except Exc (UUID × Db)) (f : Fleet) : Except Exc (UUID × Fleet) := do
  let (a, db) ← service f.toDb
  return (a, { f with toDb := db })

theorem Fleet.onDb_eq_ok {service : Db → Except Exc (UUID × Db)} {f p : Fleet} {a : UUID} :
    f.onDb service = .ok (a, p) ↔
      ∃ db, service f.toDb = .ok (a, db) ∧ p = { f with toDb := db } := by
  simp only [Fleet.onDb, bind_eq_ok, pure, Except.pure, Except.ok.injEq, Prod.exists, Prod.mk.injEq]
  constructor
  · rintro ⟨a, db, h, rfl, rfl⟩
    exact ⟨db, h, rfl⟩
  · rintro ⟨db, h, rfl⟩
    exact ⟨a, db, h, rfl, rfl⟩

/-- What the service establishes of its own database, it establishes of the fleet's. -/
theorem Fleet.onDb_ind {service : Db → Except Exc (UUID × Db)} {f p : Fleet} {a : UUID}
    {P : Fleet → Prop} (h : f.onDb service = .ok (a, p))
    (hP : ∀ db, service f.toDb = .ok (a, db) → P { f with toDb := db }) : P p := by
  obtain ⟨db, hdb, rfl⟩ := Fleet.onDb_eq_ok.mp h
  exact hP db hdb

end Rotas
