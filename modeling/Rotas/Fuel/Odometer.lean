import Rotas.Fuel.Logs
import Rotas.Lib.Interleave

/-!
# Rotas.Fuel.Odometer

Fuel logs and refuels as transactions that run at the same time, and the odometers of the vehicles
over every interleaving of them. Each read sees what is committed at that instant. `create_fuel_log`
holds the row of its vehicle from reading it on; `create_vehicle_refuel` holds the row of its tank,
and reads its vehicle without a lock. Either works on the vehicle as its session read it; what a
transaction writes takes effect when it commits.

* `sessionView`, `writeOdometer` — the committed rows with the vehicle as the session has it; the
  column is written where the session changed it.
* `RefuelPhase`, `RefuelAction`, `refuelTurn` — the steps of a transaction.
* `Forward`, `ReadingsReached` — no committed odometer goes back, and every recorded reading has been
  reached.
* `Wrote` — what a transaction writes that passed its checks.
* `StillAhead` — a refuel that moves the odometer still passes its check when it commits.
* `odometer_law_iff` — the odometers go forward exactly where the refuels are still ahead.
* `overtaken_refuel` — a log overtakes a refuel, whose older reading is the one that stays.
-/

namespace Rotas

open Interleave

structure Logging where
  now : Instant
  tenantId : UUID
  payload : FuelLogCreate

structure Refuelling where
  tenantId : UUID
  payload : VehicleRefuelCreate
  actorId : Option UUID := none

/-- The depot as a session sees it that has read the vehicle: it is not read again. -/
def sessionView (vehicle : Vehicle) (s : Depot) : Depot :=
  { s with vehicles := s.vehicles.modify vehicle.id fun v => { vehicle with id := v.id } }

/-- `vehicle.current_km = max(vehicle.current_km, reading)`, on the vehicle of the session: the
update has the value of the session, and there is none where the value is the old one. -/
def writeOdometer (vehicle : Vehicle) (reading : Int) (vehicles : Table Vehicle) : Table Vehicle :=
  if vehicle.currentKm < reading then
    vehicles.modify vehicle.id fun v => { v with currentKm := reading }
  else vehicles

/-- What a transaction writes that worked in its view: all but the vehicle is as in the view. -/
def writeSession (vehicle : Vehicle) (reading : Int) (s : Depot)
    (run : Depot → Except Exc (UUID × Depot)) : Except Exc Depot := do
  let (_, p) ← run (sessionView vehicle s)
  return { p with vehicles := writeOdometer vehicle reading s.vehicles }

def Logging.write (l : Logging) (vehicle : Vehicle) (s : Depot) : Except Exc Depot :=
  writeSession vehicle l.payload.kmAtRefuel s (createFuelLog l.now l.tenantId l.payload)

def Refuelling.write (r : Refuelling) (vehicle : Vehicle) (s : Depot) : Except Exc Depot :=
  writeSession vehicle r.payload.odometerReading s
    (createVehicleRefuel r.tenantId r.payload r.actorId)

/-! ## Turns -/

inductive RefuelPhase where
  | idle
  /-- The vehicle is read and its row is held. -/
  | logging (l : Logging) (vehicle : Vehicle)
  /-- The row of the tank is held. -/
  | tank (r : Refuelling)
  /-- The vehicle is read as well, and not held. -/
  | refuelling (r : Refuelling) (vehicle : Vehicle)

inductive RefuelAction where
  | log (l : Logging)
  | refuel (r : Refuelling)
  | readVehicle
  | commit
  | rollback

/-- What is committed, and who holds which vehicle and which tank. -/
structure RefuelStore where
  depot : Depot
  vehicleLocks : Locks UUID := fun _ => none
  tankLocks : Locks UUID := fun _ => none

/-- The end of the transaction: its rows are free. -/
def RefuelStore.release (s : RefuelStore) (i : Nat) : RefuelStore :=
  { s with vehicleLocks := s.vehicleLocks.release i, tankLocks := s.tankLocks.release i }

/-- The next phase, or the end of the transaction when a check refuses it. -/
def RefuelStore.proceed {α : Type} (s : RefuelStore) (i : Nat) (r : Except Exc α)
    (next : α → RefuelPhase) : RefuelStore × RefuelPhase :=
  match r with
  | .error _ => (s.release i, .idle)
  | .ok a => (s, next a)

/-- The end of the transaction: its writes, if the database takes them. -/
def RefuelStore.finish (s : RefuelStore) (i : Nat) (r : Except Exc Depot) :
    RefuelStore × RefuelPhase :=
  match r with
  | .error _ => (s.release i, .idle)
  | .ok depot => if depot.ok then ({ s with depot }.release i, .idle) else (s.release i, .idle)

/-- The turn of transaction `i`; `none` when it waits for a row or the step is not its next. The row
of a refuel refers to its vehicle, so that it waits for the log that holds the vehicle. -/
def refuelTurn (i : Nat) (act : RefuelAction) (s : RefuelStore) (p : RefuelPhase) :
    Option (RefuelStore × RefuelPhase) :=
  match act, p with
  | .log l, .idle =>
    if s.vehicleLocks.available i l.payload.vehicleId then
      some ({ s with vehicleLocks := s.vehicleLocks.take i l.payload.vehicleId }.proceed i
        (requireRefuelVehicle l.tenantId l.payload.vehicleId s.depot) (.logging l))
    else none
  | .refuel r, .idle =>
    if s.tankLocks.available i r.payload.tankId then
      some ({ s with tankLocks := s.tankLocks.take i r.payload.tankId }.proceed i
        (requireTank r.tenantId r.payload.tankId s.depot) fun _ => .tank r)
    else none
  | .readVehicle, .tank r =>
    some (s.proceed i (requireRefuelVehicle r.tenantId r.payload.vehicleId s.depot) (.refuelling r))
  | .commit, .logging l vehicle => some (s.finish i (l.write vehicle s.depot))
  | .commit, .refuelling r vehicle =>
    if s.vehicleLocks.available i vehicle.id then some (s.finish i (r.write vehicle s.depot))
    else none
  | .rollback, _ => some (s.release i, .idle)
  | _, _ => none

/-! ## The law -/

def Depot.km (s : Depot) (vehicleId : UUID) : Option Int :=
  (s.vehicles.get vehicleId).map Vehicle.currentKm

def Forward (s p : Depot) : Prop :=
  ∀ id km, s.km id = some km → ∃ km', p.km id = some km' ∧ km ≤ km'

/-- Each reading of a row that was not there at the start is reached. -/
structure ReadingsReached (start s : Depot) : Prop where
  logs : ∀ l ∈ s.fuelLogs, l ∈ start.fuelLogs ∨
    ∀ km, s.km l.vehicleId = some km → l.kmAtRefuel ≤ km
  refuels : ∀ r ∈ s.vehicleRefuels, r ∈ start.vehicleRefuels ∨
    ∀ km, s.km r.vehicleId = some km → r.odometerReading ≤ km

abbrev RefuelConfig := Config RefuelStore RefuelPhase

/-- The odometers go forward at every turn, and at the end they are past all readings taken. -/
structure OdometerLaw (c : RefuelConfig) (moves : List (Nat × RefuelAction)) : Prop where
  forward : Run.Along (move refuelTurn)
    (fun c m => Forward c.store.depot (move refuelTurn c m).store.depot) c moves
  reached : ReadingsReached c.store.depot (Run.exec (move refuelTurn) c moves).store.depot

/-- The refuel moves the odometer that its session has, and it is going to be committed. -/
structure Moving (r : Refuelling) (vehicle : Vehicle) (i : Nat) (s : RefuelStore) : Prop where
  free : s.vehicleLocks.available i vehicle.id = true
  further : vehicle.currentKm < r.payload.odometerReading
  taken : ∃ p, r.write vehicle s.depot = .ok p ∧ p.ok = true

/-- A refuel that moves the odometer still passes its odometer check when it commits: no transaction
has committed a higher reading for the vehicle since it was read. -/
def StillAhead (c : RefuelConfig) (m : Nat × RefuelAction) : Prop :=
  ∀ r vehicle, m.2 = .commit → c.parties m.1 = .refuelling r vehicle →
    Moving r vehicle m.1 c.store → ∀ km, c.store.depot.km vehicle.id = some km →
      ¬ r.payload.odometerReading < km

/-! ## What a transaction writes -/

section Write

variable {start s p : Depot} {vehicle : Vehicle} {reading : Int} {tenantId vehicleId : UUID}

/-- The check was passed by the vehicle of the session, and one reading of it is recorded. -/
structure Wrote (vehicle : Vehicle) (reading : Int) (s p : Depot) : Prop where
  checked : vehicle.currentKm ≤ reading
  vehicles : p.vehicles = writeOdometer vehicle reading s.vehicles
  logs : ∀ l ∈ p.fuelLogs, l ∈ s.fuelLogs ∨ l.vehicleId = vehicle.id ∧ l.kmAtRefuel = reading
  refuels : ∀ r ∈ p.vehicleRefuels,
    r ∈ s.vehicleRefuels ∨ r.vehicleId = vehicle.id ∧ r.odometerReading = reading

theorem requireRefuelVehicle_eq_ok :
    requireRefuelVehicle tenantId vehicleId s = .ok vehicle ↔
      s.vehicles.get vehicleId = some vehicle ∧ vehicle.tenantId = tenantId ∧
        vehicle.status ∈ ["active", "maintenance"] := by
  simp only [requireRefuelVehicle, bind_eq_ok, require_eq_ok, raiseIf_eq_ok, Bool.or_eq_false_iff,
    decide_eq_false_iff_not, Decidable.not_not, pure, Except.pure, Except.ok.injEq]
  constructor
  · rintro ⟨v, hv, -, ⟨htenant, hstatus⟩, rfl⟩
    exact ⟨hv, htenant, hstatus⟩
  · rintro ⟨hv, htenant, hstatus⟩
    exact ⟨vehicle, hv, (), ⟨htenant, hstatus⟩, rfl⟩

/-- The vehicle of the session is the one that the view has under its id. -/
theorem km_sessionView {v : Vehicle}
    (h : requireRefuelVehicle tenantId vehicle.id (sessionView vehicle s) = .ok v) :
    v.currentKm = vehicle.currentKm := by
  obtain ⟨hget, -⟩ := requireRefuelVehicle_eq_ok.mp h
  have hview : (sessionView vehicle s).vehicles.get vehicle.id =
      (s.vehicles.get vehicle.id).map fun v => { vehicle with id := v.id } := by
    simp only [sessionView, Table.get_modify, if_pos]
  rw [hview] at hget
  obtain ⟨v₀, -, rfl⟩ := Option.map_eq_some_iff.mp hget
  rfl

theorem writeSession_eq_ok {run : Depot → Except Exc (UUID × Depot)} :
    writeSession vehicle reading s run = .ok p ↔
      ∃ id q, run (sessionView vehicle s) = .ok (id, q) ∧
        p = { q with vehicles := writeOdometer vehicle reading s.vehicles } := by
  simp only [writeSession, bind_eq_ok, pure, Except.pure, Except.ok.injEq, Prod.exists]
  exact exists_congr fun _ => exists_congr fun _ => and_congr_right fun _ => eq_comm

theorem wrote_logging {l : Logging} (hvehicle : l.payload.vehicleId = vehicle.id)
    (h : l.write vehicle s = .ok p) : Wrote vehicle l.payload.kmAtRefuel s p := by
  obtain ⟨id, q, hrun, rfl⟩ := writeSession_eq_ok.mp h
  obtain ⟨v, hv, -, -, -, -, hkm, hlogged⟩ := createFuelLog_eq_ok.mp hrun
  cases hlogged
  rw [hvehicle] at hv
  refine ⟨(km_sessionView hv).symm.trans_le hkm, rfl, fun entry hentry => ?_, fun r hr => .inl hr⟩
  rcases (Table.mem_insert s.fuelLogs _ fun _ => rfl).mp hentry with hold | rfl
  · exact .inl hold
  · exact .inr ⟨hvehicle, rfl⟩

theorem wrote_refuelling {r : Refuelling} (hvehicle : r.payload.vehicleId = vehicle.id)
    (h : r.write vehicle s = .ok p) : Wrote vehicle r.payload.odometerReading s p := by
  obtain ⟨id, q, hrun, rfl⟩ := writeSession_eq_ok.mp h
  simp only [createVehicleRefuel, bind_eq_ok, raiseIf_eq_ok, decide_eq_false_iff_not, not_lt,
    Prod.exists, pure, Except.pure, Except.ok.injEq, Prod.mk.injEq] at hrun
  obtain ⟨tank, -, v, hv, -, -, -, -, -, hkm, moved, s', hmove, -, rfl⟩ := hrun
  obtain ⟨fuelMovements, fuelTanks, rfl⟩ := recordFuelMovement_eq_ok hmove
  rw [hvehicle] at hv
  refine ⟨(km_sessionView hv).symm.trans_le hkm, rfl, fun l hl => .inl hl, fun row hrow => ?_⟩
  rcases (Table.mem_insert s.vehicleRefuels _ fun _ => rfl).mp hrow with hold | rfl
  · exact .inl hold
  · exact .inr ⟨hvehicle, rfl⟩

theorem Wrote.km (h : Wrote vehicle reading s p) (id : UUID) : p.km id =
    if id = vehicle.id ∧ vehicle.currentKm < reading then (s.km id).map fun _ => reading
    else s.km id := by
  unfold Depot.km
  rw [h.vehicles, writeOdometer]
  by_cases hfurther : vehicle.currentKm < reading
  · rw [if_pos hfurther, Table.get_modify]
    by_cases hid : id = vehicle.id
    · rw [if_pos hid, if_pos ⟨hid, hfurther⟩, ← hid, Option.map_map, Option.map_map]
      rfl
    · rw [if_neg hid, if_neg fun hboth => hid hboth.1]
  · rw [if_neg hfurther, if_neg fun hboth => hfurther hboth.2]

/-- The odometers go forward exactly where the reading is not behind the committed one. -/
theorem Wrote.forward_iff (h : Wrote vehicle reading s p) : Forward s p ↔
    (vehicle.currentKm < reading → ∀ km, s.km vehicle.id = some km → ¬ reading < km) := by
  constructor
  · intro hforward hfurther km hkm
    obtain ⟨km', hkm', hle⟩ := hforward vehicle.id km hkm
    rw [h.km, if_pos ⟨rfl, hfurther⟩, hkm] at hkm'
    cases hkm'
    exact not_lt.mpr hle
  · intro hahead id km hkm
    rw [h.km]
    split
    · next hboth =>
      rw [hkm]
      exact ⟨reading, rfl, not_lt.mp (hahead hboth.2 km (hboth.1 ▸ hkm))⟩
    · exact ⟨km, hkm, le_rfl⟩

/-- Every odometer that is there was there before, and not further on. -/
theorem Wrote.back (h : Wrote vehicle reading s p) (hforward : Forward s p) {id : UUID} {km' : Int}
    (hkm' : p.km id = some km') : ∃ km, s.km id = some km ∧ km ≤ km' := by
  cases hkm : s.km id with
  | none =>
    rw [h.km, hkm] at hkm'
    split at hkm' <;> cases hkm'
  | some km =>
    obtain ⟨q, hq, hle⟩ := hforward id km hkm
    cases hq.symm.trans hkm'
    exact ⟨km, rfl, hle⟩

/-- The new reading is reached where the vehicle was not further back than the session had read. -/
theorem Wrote.reading_le (h : Wrote vehicle reading s p)
    (hread : ∀ km, s.km vehicle.id = some km → vehicle.currentKm ≤ km) {km' : Int}
    (hkm' : p.km vehicle.id = some km') : reading ≤ km' := by
  rw [h.km] at hkm'
  split at hkm'
  · obtain ⟨km, -, rfl⟩ := Option.map_eq_some_iff.mp hkm'
    exact le_rfl
  · next hnot =>
    have hsame : reading ≤ vehicle.currentKm := not_lt.mp fun hfurther => hnot ⟨rfl, hfurther⟩
    exact hsame.trans (hread km' hkm')

theorem Wrote.reached (h : Wrote vehicle reading s p) (hforward : Forward s p)
    (hread : ∀ km, s.km vehicle.id = some km → vehicle.currentKm ≤ km)
    (hreached : ReadingsReached start s) : ReadingsReached start p := by
  constructor
  · intro l hl
    rcases h.logs l hl with hold | ⟨hid, rfl⟩
    · refine (hreached.logs l hold).imp_right fun hle km' hkm' => ?_
      obtain ⟨km, hkm, hback⟩ := h.back hforward hkm'
      exact (hle km hkm).trans hback
    · exact .inr fun km' hkm' => h.reading_le hread (hid ▸ hkm')
  · intro r hr
    rcases h.refuels r hr with hold | ⟨hid, rfl⟩
    · refine (hreached.refuels r hold).imp_right fun hle km' hkm' => ?_
      obtain ⟨km, hkm, hback⟩ := h.back hforward hkm'
      exact (hle km hkm).trans hback
    · exact .inr fun km' hkm' => h.reading_le hread (hid ▸ hkm')

end Write

/-! ## What a turn does -/

/-- The locks on vehicles that others hold stay. -/
def KeepsLocks (i : Nat) (s s' : RefuelStore) : Prop :=
  ∀ k j, j ≠ i → s.vehicleLocks k = some j → s'.vehicleLocks k = some j

/-- The turns of transaction `i`: the phase before, the store and the phase after. -/
inductive RefuelStep (i : Nat) (s : RefuelStore) :
    RefuelAction → RefuelPhase → RefuelStore → RefuelPhase → Prop where
  | ended {act : RefuelAction} {p : RefuelPhase} {s' : RefuelStore} (hdepot : s'.depot = s.depot)
      (hlocks : KeepsLocks i s s') : RefuelStep i s act p s' .idle
  | logging {l : Logging} {vehicle : Vehicle}
      (hfree : s.vehicleLocks.available i l.payload.vehicleId = true)
      (hvehicle : requireRefuelVehicle l.tenantId l.payload.vehicleId s.depot = .ok vehicle) :
      RefuelStep i s (.log l) .idle
        { s with vehicleLocks := s.vehicleLocks.take i l.payload.vehicleId } (.logging l vehicle)
  | tank {r : Refuelling} :
      RefuelStep i s (.refuel r) .idle { s with tankLocks := s.tankLocks.take i r.payload.tankId }
        (.tank r)
  | refuelling {r : Refuelling} {vehicle : Vehicle}
      (hvehicle : requireRefuelVehicle r.tenantId r.payload.vehicleId s.depot = .ok vehicle) :
      RefuelStep i s .readVehicle (.tank r) s (.refuelling r vehicle)
  | logged {l : Logging} {vehicle : Vehicle} {depot : Depot}
      (hwrite : l.write vehicle s.depot = .ok depot) :
      RefuelStep i s .commit (.logging l vehicle) ({ s with depot }.release i) .idle
  | refuelled {r : Refuelling} {vehicle : Vehicle} {depot : Depot}
      (hfree : s.vehicleLocks.available i vehicle.id = true)
      (hwrite : r.write vehicle s.depot = .ok depot) (hok : depot.ok = true) :
      RefuelStep i s .commit (.refuelling r vehicle) ({ s with depot }.release i) .idle

theorem keepsLocks_release (i : Nat) (s : RefuelStore) : KeepsLocks i s (s.release i) :=
  fun _ _ hj h => Locks.release_of_ne h hj

theorem keepsLocks_take {i : Nat} {s : RefuelStore} {k : UUID}
    (hfree : s.vehicleLocks.available i k = true) :
    KeepsLocks i s { s with vehicleLocks := s.vehicleLocks.take i k } :=
  fun _ _ hj h => Locks.take_of_ne h hj hfree

theorem keepsLocks_trans {i : Nat} {s s' s'' : RefuelStore} (h : KeepsLocks i s s')
    (h' : KeepsLocks i s' s'') : KeepsLocks i s s'' :=
  fun k j hj hk => h' k j hj (h k j hj hk)

theorem finish_eq {s s' : RefuelStore} {i : Nat} {r : Except Exc Depot} {p' : RefuelPhase}
    (h : s.finish i r = (s', p')) : p' = .idle ∧ (s' = s.release i ∨
      ∃ depot, r = .ok depot ∧ depot.ok = true ∧ s' = { s with depot }.release i) := by
  unfold RefuelStore.finish at h
  split at h
  · cases h; exact ⟨rfl, .inl rfl⟩
  · next depot =>
    split at h
    · next hok => cases h; exact ⟨rfl, .inr ⟨depot, rfl, hok, rfl⟩⟩
    · cases h; exact ⟨rfl, .inl rfl⟩

theorem refuelStep_of_turn {i : Nat} {act : RefuelAction} {s s' : RefuelStore}
    {p p' : RefuelPhase} (h : refuelTurn i act s p = some (s', p')) :
    RefuelStep i s act p s' p' := by
  unfold refuelTurn at h
  split at h
  · next l =>
    split at h
    · next hfree =>
      have hkeeps := keepsLocks_take hfree
      cases hvehicle : requireRefuelVehicle l.tenantId l.payload.vehicleId s.depot with
      | error e =>
        rw [hvehicle] at h
        cases h
        exact .ended rfl (keepsLocks_trans hkeeps (keepsLocks_release _ _))
      | ok vehicle =>
        rw [hvehicle] at h
        cases h
        exact .logging hfree hvehicle
    · cases h
  · next r =>
    split at h
    · cases htank : requireTank r.tenantId r.payload.tankId s.depot with
      | error e =>
        rw [htank] at h
        cases h
        exact .ended rfl (keepsLocks_release _ _)
      | ok tank =>
        rw [htank] at h
        cases h
        exact .tank
    · cases h
  · next r =>
    cases hvehicle : requireRefuelVehicle r.tenantId r.payload.vehicleId s.depot with
    | error e =>
      rw [hvehicle] at h
      cases h
      exact .ended rfl (keepsLocks_release _ _)
    | ok vehicle =>
      rw [hvehicle] at h
      cases h
      exact .refuelling hvehicle
  · obtain ⟨rfl, rfl | ⟨depot, hwrite, -, rfl⟩⟩ := finish_eq (Option.some.inj h)
    · exact .ended rfl (keepsLocks_release _ _)
    · exact .logged hwrite
  · split at h
    · next hfree =>
      obtain ⟨rfl, rfl | ⟨depot, hwrite, hok, rfl⟩⟩ := finish_eq (Option.some.inj h)
      · exact .ended rfl (keepsLocks_release _ _)
      · exact .refuelled hfree hwrite hok
    · cases h
  · cases h; exact .ended rfl (keepsLocks_release _ _)
  · cases h

/-! ## The odometers while others run -/

/-- A log holds its vehicle, which stays where the session read it. -/
def RefuelParty (i : Nat) (s : RefuelStore) : RefuelPhase → Prop
  | .idle | .tank _ => True
  | .logging l vehicle => l.payload.vehicleId = vehicle.id ∧
    s.vehicleLocks vehicle.id = some i ∧ s.depot.km vehicle.id = some vehicle.currentKm
  | .refuelling r vehicle => r.payload.vehicleId = vehicle.id

/-- The vehicle of a refuel was not further on when the session read it. -/
def NotBehind (s : Depot) : RefuelPhase → Prop
  | .refuelling _ vehicle => ∀ km, s.km vehicle.id = some km → vehicle.currentKm ≤ km
  | _ => True

theorem Forward.refl (s : Depot) : Forward s s := fun _ km hkm => ⟨km, hkm, le_rfl⟩

theorem Forward.of_eq {s p : Depot} (h : p = s) : Forward s p := h ▸ .refl s

theorem km_of_requireRefuelVehicle {s : Depot} {tenantId vehicleId : UUID} {vehicle : Vehicle}
    (h : requireRefuelVehicle tenantId vehicleId s = .ok vehicle) :
    vehicleId = vehicle.id ∧ s.km vehicle.id = some vehicle.currentKm := by
  obtain ⟨hget, -⟩ := requireRefuelVehicle_eq_ok.mp h
  have hid : vehicle.id = vehicleId := Table.key_of_get hget
  refine ⟨hid.symm, ?_⟩
  rw [Depot.km, hid, hget]
  rfl

section Step

variable {i j : Nat} {s s' : RefuelStore} {act : RefuelAction} {p p' q : RefuelPhase}

/-- A turn writes nothing, or the row and the odometer of a vehicle that nobody else holds. -/
theorem RefuelStep.writes (h : RefuelStep i s act p s' p') (hp : RefuelParty i s p) :
    s'.depot = s.depot ∨ p' = .idle ∧ ∃ vehicle reading,
      Wrote vehicle reading s.depot s'.depot ∧ s.vehicleLocks.available i vehicle.id = true := by
  cases h with
  | ended hdepot => exact .inl hdepot
  | logging | tank | refuelling => exact .inl rfl
  | @logged l vehicle depot hwrite =>
    obtain ⟨hid, hlock, -⟩ := hp
    refine .inr ⟨rfl, vehicle, _, wrote_logging hid hwrite, ?_⟩
    rw [Locks.available, hlock]
    exact decide_eq_true rfl
  | refuelled hfree hwrite => exact .inr ⟨rfl, _, _, wrote_refuelling hp hwrite, hfree⟩

theorem RefuelStep.keepsLocks (h : RefuelStep i s act p s' p') : KeepsLocks i s s' := by
  cases h with
  | ended _ hlocks => exact hlocks
  | logging hfree => exact keepsLocks_take hfree
  | tank | refuelling => exact fun _ _ _ h => h
  | logged | refuelled => exact fun _ _ hj h => Locks.release_of_ne h hj

theorem RefuelStep.party (h : RefuelStep i s act p s' p') : RefuelParty i s' p' := by
  cases h with
  | ended | tank | logged | refuelled => trivial
  | logging _ hvehicle =>
    obtain ⟨hid, hkm⟩ := km_of_requireRefuelVehicle hvehicle
    exact ⟨hid, hid ▸ Locks.take_self, hkm⟩
  | refuelling hvehicle => exact (km_of_requireRefuelVehicle hvehicle).1

/-- The vehicle that another transaction holds stays where it is. -/
theorem RefuelStep.km_of_lock (h : RefuelStep i s act p s' p') (hp : RefuelParty i s p)
    (hj : j ≠ i) {id : UUID} (hlock : s.vehicleLocks id = some j) : s'.depot.km id = s.depot.km id := by
  rcases h.writes hp with hdepot | ⟨-, vehicle, reading, hwrote, hfree⟩
  · rw [hdepot]
  · have hne : id ≠ vehicle.id := by
      rintro rfl
      rw [Locks.available, hlock] at hfree
      exact hj (of_decide_eq_true hfree)
    rw [hwrote.km, if_neg fun hboth => hne hboth.1]

theorem RefuelStep.others (h : RefuelStep i s act p s' p') (hp : RefuelParty i s p) (hj : j ≠ i)
    (hq : RefuelParty j s q) : RefuelParty j s' q := by
  cases q with
  | idle | tank => trivial
  | logging l vehicle =>
    obtain ⟨hid, hlock, hkm⟩ := hq
    exact ⟨hid, h.keepsLocks _ _ hj hlock, (h.km_of_lock hp hj hlock).trans hkm⟩
  | refuelling r vehicle => exact hq

/-- A log goes forward, as its vehicle is held; a refuel does if it is still ahead. -/
theorem RefuelStep.forward (h : RefuelStep i s act p s' p') (hp : RefuelParty i s p)
    (hahead : ∀ r vehicle, act = .commit → p = .refuelling r vehicle → Moving r vehicle i s →
      ∀ km, s.depot.km vehicle.id = some km → ¬ r.payload.odometerReading < km) :
    Forward s.depot s'.depot := by
  cases h with
  | ended hdepot => exact .of_eq hdepot
  | logging | tank | refuelling => exact .refl _
  | logged hwrite =>
    obtain ⟨hid, -, hread⟩ := hp
    have hwrote := wrote_logging hid hwrite
    refine hwrote.forward_iff.mpr fun _ km hkm => ?_
    cases hread.symm.trans hkm
    exact not_lt.mpr hwrote.checked
  | refuelled hfree hwrite hok =>
    exact (wrote_refuelling hp hwrite).forward_iff.mpr fun hfurther =>
      hahead _ _ rfl rfl ⟨hfree, hfurther, _, hwrite, hok⟩

theorem RefuelStep.reached {start : Depot} (h : RefuelStep i s act p s' p')
    (hp : RefuelParty i s p) (hforward : Forward s.depot s'.depot) (hread : NotBehind s.depot p)
    (hreached : ReadingsReached start s.depot) : ReadingsReached start s'.depot := by
  cases h with
  | ended hdepot => exact hdepot ▸ hreached
  | logging | tank | refuelling => exact hreached
  | logged hwrite =>
    obtain ⟨hid, -, hkm⟩ := hp
    refine (wrote_logging hid hwrite).reached hforward (fun km hkm' => ?_) hreached
    cases hkm.symm.trans hkm'
    exact le_rfl
  | refuelled _ hwrite => exact (wrote_refuelling hp hwrite).reached hforward hread hreached

theorem RefuelStep.notBehind (h : RefuelStep i s act p s' p') : NotBehind s'.depot p' := by
  cases h with
  | ended | logging | tank | logged | refuelled => trivial
  | refuelling hvehicle =>
    intro km hkm
    cases (km_of_requireRefuelVehicle hvehicle).2.symm.trans hkm
    exact le_rfl

/-- Where the odometers go forward, none falls behind what a session has read. -/
theorem RefuelStep.notBehind_others (h : RefuelStep i s act p s' p') (hp : RefuelParty i s p)
    (hforward : Forward s.depot s'.depot) (hq : NotBehind s.depot q) : NotBehind s'.depot q := by
  rcases h.writes hp with hdepot | ⟨-, vehicle, reading, hwrote, -⟩
  · rwa [hdepot]
  · cases q with
    | idle | logging | tank => trivial
    | refuelling r read =>
      intro km' hkm'
      obtain ⟨km, hkm, hle⟩ := hwrote.back hforward hkm'
      exact (hq km hkm).trans hle

end Step

/-! ## Runs -/

section Runs

variable {c : RefuelConfig} {m : Nat × RefuelAction} {moves : List (Nat × RefuelAction)}

/-- No transaction has begun. -/
def refuelStart (depot : Depot) : RefuelConfig := ⟨{ depot }, fun _ => .idle⟩

abbrev Known (c : RefuelConfig) : Prop := Holds (fun _ => True) RefuelParty c

theorem known_move (h : Known c) : Known (move refuelTurn c m) := by
  refine holds_move (C := fun _ _ => True) (fun {c i a s p} hI _ hturn => ?_)
    (fun {c i a s p} hI _ hturn j hj => ?_) h trivial
  · exact ⟨trivial, (refuelStep_of_turn hturn).party⟩
  · exact (refuelStep_of_turn hturn).others (hI.party i) hj (hI.party j)

theorem move_of_moving {r : Refuelling} {vehicle : Vehicle} {p : Depot} (hact : m.2 = .commit)
    (hparty : c.parties m.1 = .refuelling r vehicle)
    (hfree : c.store.vehicleLocks.available m.1 vehicle.id = true)
    (hwrite : r.write vehicle c.store.depot = .ok p) (hok : p.ok = true) :
    (move refuelTurn c m).store.depot = p := by
  unfold move
  rw [hact, hparty, refuelTurn, if_pos hfree, hwrite, RefuelStore.finish, if_pos hok]
  rfl

theorem forward_iff_stillAhead (h : Known c) :
    Forward c.store.depot (move refuelTurn c m).store.depot ↔ StillAhead c m := by
  constructor
  · intro hforward r vehicle hact hparty hmoving
    obtain ⟨hfree, hfurther, p, hwrite, hok⟩ := hmoving
    rw [move_of_moving hact hparty hfree hwrite hok] at hforward
    have hid : RefuelParty m.1 c.store (.refuelling r vehicle) := hparty ▸ h.party m.1
    exact (wrote_refuelling hid hwrite).forward_iff.mp hforward hfurther
  · intro hahead
    rcases move_cases refuelTurn c m with hsame | ⟨s, p, hturn, hmove⟩
    · exact .of_eq (by rw [hsame])
    · rw [hmove]
      exact (refuelStep_of_turn hturn).forward (h.party m.1) hahead

/-- What the odometers have reached holds where they go forward. -/
theorem reached_run {start : Depot}
    (h : Holds (fun s => ReadingsReached start s.depot)
      (fun i s p => RefuelParty i s p ∧ NotBehind s.depot p) c)
    (hforward : Run.Along (move refuelTurn)
      (fun c m => Forward c.store.depot (move refuelTurn c m).store.depot) c moves) :
    ReadingsReached start (Run.exec (move refuelTurn) c moves).store.depot := by
  refine (holds_run (fun {c i a s p} hI hC hturn => ?_) (fun {c i a s p} hI hC hturn j hj => ?_) h
    hforward).store
  all_goals
    have hstep := refuelStep_of_turn hturn
    have hmove : move refuelTurn c (i, a) = ⟨s, Function.update c.parties i p⟩ := by
      unfold move
      rw [hturn]
    rw [hmove] at hC
  · obtain ⟨hp, hread⟩ := hI.party i
    exact ⟨hstep.reached hp hC hread hI.store, hstep.party, hstep.notBehind⟩
  · obtain ⟨hp, -⟩ := hI.party i
    obtain ⟨hq, hread⟩ := hI.party j
    exact ⟨hstep.others hp hj hq, hstep.notBehind_others hp hC hread⟩

/-- The odometers go forward, and pass all readings taken, exactly where each refuel that moves an
odometer is still ahead of it when it commits. -/
theorem odometer_law_iff (depot : Depot) (moves : List (Nat × RefuelAction)) :
    OdometerLaw (refuelStart depot) moves ↔
      Run.Along (move refuelTurn) StillAhead (refuelStart depot) moves := by
  have hstart : Known (refuelStart depot) := ⟨trivial, fun _ => trivial⟩
  have hforward : Run.Along (move refuelTurn)
      (fun c m => Forward c.store.depot (move refuelTurn c m).store.depot) (refuelStart depot) moves ↔
      Run.Along (move refuelTurn) StillAhead (refuelStart depot) moves :=
    Run.along_congr (I := Known) (fun _ _ => known_move) (fun _ _ => forward_iff_stillAhead) hstart
  constructor
  · intro hlaw
    exact hforward.mp hlaw.forward
  · intro hahead
    have hruns := hforward.mpr hahead
    exact ⟨hruns, reached_run ⟨⟨fun _ => .inl, fun _ => .inl⟩, fun _ => ⟨trivial, trivial⟩⟩ hruns⟩

end Runs

/-! ## A refuel that is overtaken -/

private def yard : Depot :=
  { vehicles := .single { id := 1, tenantId := 1, plate := "AAA-001", currentKm := 100 }
    drivers := .single { id := 1, tenantId := 1 }
    fuelTanks := .single
      { id := 1, tenantId := 1, capacityLiters := 100000, currentStockLiters := 50000 } }

private def roadLog : Logging :=
  { now := 1000, tenantId := 1
    payload :=
      { vehicleId := 1, driverId := 1, fuelDate := 900, liters := 50, totalCost := 4000
        kmAtRefuel := 200 } }

private def yardRefuel : Refuelling :=
  { tenantId := 1
    payload :=
      { tankId := 1, vehicleId := 1, driverId := 1, liters := 40, odometerReading := 150
        refueledAt := 950 } }

/-- The refuel reads the vehicle at 100 km, the log takes it to 200, and the refuel back to 150. -/
private def overtaking : List (Nat × RefuelAction) :=
  [(0, .refuel yardRefuel), (0, .readVehicle), (1, .log roadLog), (1, .commit), (0, .commit)]

theorem overtaken_refuel : yard.ok = true ∧
    ((Run.exec (move refuelTurn) (refuelStart yard) (overtaking.take 4)).store.depot.km 1,
      (Run.exec (move refuelTurn) (refuelStart yard) overtaking).store.depot.km 1) =
      (some 200, some 150) := by
  decide +kernel

end Rotas
