import Rotas.Gps.Positions
import Rotas.Lib.Interleave

/-!
# Rotas.Gps.Tracking

The positions that devices send, at the same time and in any order, and the arrival of a trip that is
reckoned from the last one of its vehicle.

* `upsert`      — the last position of a vehicle after one more.
* `trackTurn`   — the steps of `ingest_position`, each call a transaction, and `get_trip_eta`.
* `Latest`      — the last position of a vehicle is one with the greatest moment.
* `tracked_run` — what every run keeps, if what is sent is clear and no arrival is asked for where a
  route is known.
-/

namespace Rotas.Gps

open Interleave

structure GpsDevice where
  id : UUID
  tenantId : UUID
  vehicleId : UUID
  imei : String
  deviceSecret : String
  isActive : Bool := true

instance : Keyed GpsDevice := ⟨GpsDevice.id⟩

/-- `hmac.new(secret, body, sha256).hexdigest()`. -/
class Signing where
  hexdigest : String → String → String

/-- The tables. What was accepted, and under which id it is stored, is kept for the statements. -/
structure Track where
  now : Instant
  db : Db
  devices : Table GpsDevice
  positions : Table GpsPosition := ∅
  lastPositions : UUID → Option VehicleLastPosition := fun _ => none
  locks : Locks UUID := fun _ => none
  accepted : List (Payload × UUID) := []

/-! ## Ingestion -/

def verifyDeviceSignature [Signing] (deviceSecret body signature : String) : Bool :=
  Signing.hexdigest deviceSecret body = signature

def deviceNotFound : Exc :=
  .api { code := "device_not_found", message := "IMEI not registered or inactive", statusCode := 401 }

def invalidSignature : Exc :=
  .api { code := "invalid_signature", message := "X-Device-Signature mismatch", statusCode := 401 }

def device (imei : String) (s : Track) : Option GpsDevice :=
  s.devices.rows.find? fun d => d.imei = imei && d.isActive

/-- `ingest_position`, up to what it writes. -/
def receive [Numerals] [Signing] (imei signature body : String) (raw : Payload) (s : Track) :
    Except Exc (GpsDevice × Normalized) := do
  let device ← require (device imei s) deviceNotFound
  raiseIf (!verifyDeviceSignature device.deviceSecret body signature) invalidSignature
  let norm ← normalizePosition s.now raw
  return (device, norm)

/-- The row that is written, if one is: `ON CONFLICT DO UPDATE … WHERE vehicle_last_position.recorded_at
< EXCLUDED.recorded_at`. -/
def upsert (now : Instant) (device : GpsDevice) (c : Columns) :
    Option VehicleLastPosition → Option VehicleLastPosition
  | none => some {
      vehicleId := device.vehicleId, tenantId := device.tenantId, lat := c.lat, lon := c.lon
      speedKmh := c.speedKmh, headingDeg := c.headingDeg, recordedAt := c.recordedAt
      updatedAt := now }
  | some last =>
    if last.recordedAt < c.recordedAt then
      some { last with
        lat := c.lat, lon := c.lon, speedKmh := c.speedKmh, headingDeg := c.headingDeg
        recordedAt := c.recordedAt, updatedAt := now }
    else none

def newPosition (device : GpsDevice) (raw : Payload) (c : Columns) (id : UUID) : GpsPosition :=
  { c with
    id, tenantId := device.tenantId, vehicleId := device.vehicleId, deviceId := device.id
    rawPayload := raw }

theorem key_newPosition (device : GpsDevice) (raw : Payload) (c : Columns) (id : UUID) :
    Keyed.key (newPosition device raw c id) = id := rfl

def Track.commit (i : Nat) (device : GpsDevice) (raw : Payload) (c : Columns)
    (row : Option VehicleLastPosition) (s : Track) : Track :=
  { s with
    positions := s.positions.insert (newPosition device raw c) (key_newPosition device raw c)
    lastPositions := fun v => if v = device.vehicleId then row.or (s.lastPositions v)
      else s.lastPositions v
    locks := s.locks.release i
    accepted := s.accepted ++ [(raw, s.positions.freshKey)] }

/-! ## Arrival -/

inductive EtaReason where
  | staleOrStopped | destinationCoordinatesUnknown
  deriving DecidableEq

structure EtaAnswer where
  reason : EtaReason
  lastPosition : VehicleLastPosition

def findTrip (tenantId tripId : UUID) (s : Track) : Option Trip :=
  (s.db.trips.get tripId).filter fun trip => trip.tenantId = tenantId

/-- The position is at most five minutes old and the vehicle moves. -/
def VehicleLastPosition.moving (now : Instant) (pos : VehicleLastPosition) : Bool :=
  !(300 < now - pos.recordedAt || pos.speedKmh.all (· = 0))

def knownRoute (tenantId : UUID) (trip : Trip) (s : Track) : Option KnownRoute :=
  s.db.knownRoutes.rows.find? fun r =>
    r.tenantId = tenantId && r.origin = trip.origin && r.destination = trip.destination

/-- A known route has no coordinates: what is asked of one that is found raises, and nothing is
reckoned from them. -/
def getTripEta (tenantId tripId : UUID) (s : Track) : Except Exc (Option EtaAnswer) := do
  let trip ← require (findTrip tenantId tripId s) (notFound "trip_not_found" "Trip not found")
  match s.lastPositions trip.vehicleId with
  | none => return none
  | some pos =>
    if !pos.moving s.now then return some ⟨.staleOrStopped, pos⟩
    else
      match knownRoute tenantId trip s with
      | some _ => throw (.attributeError "destination_lat")
      | none => return some ⟨.destinationCoordinatesUnknown, pos⟩

/-! ## Turns -/

/-- A call with a valid signature that gives a latitude and a longitude. -/
def genuine [Signing] (imei signature body : String) (raw : Payload) (s : Track) : Bool :=
  (device imei s).any (fun d => verifyDeviceSignature d.deviceSecret body signature) &&
    (sent raw latKeys).isSome && (sent raw lonKeys).isSome

inductive Phase where
  | idle
  | normalised (device : GpsDevice) (raw : Payload) (norm : Normalized)
  /-- The row of the vehicle is locked, whether or not it is written. -/
  | written (device : GpsDevice) (raw : Payload) (columns : Columns)
      (row : Option VehicleLastPosition)
  | accepted (vehicleId : UUID)
  | refused (genuine : Bool) (e : Exc)
  | answered (trip : Option Trip) (answer : Except Exc (Option EtaAnswer))

inductive Act where
  | receive (imei signature body : String) (raw : Payload)
  | write
  | commit
  | eta (tenantId tripId : UUID)
  /-- The connection is lost, and with it what was written. -/
  | abandon
  /-- Time goes by; trips, routes and devices are what they are then. -/
  | pass (seconds : Nat) (db : Db) (devices : Table GpsDevice)

/-- A party that is in no transaction. -/
def Phase.free : Phase → Bool
  | .normalised _ _ _ => false
  | .written _ _ _ _ => false
  | _ => true

def trackTurn [Numerals] [Signing] (i : Nat) (act : Act) (s : Track) (p : Phase) : Option (Track × Phase) :=
  match act, p with
  | .receive imei signature body raw, p =>
    if p.free then
      match receive imei signature body raw s with
      | .error e => some (s, .refused (genuine imei signature body raw s) e)
      | .ok (device, norm) => some (s, .normalised device raw norm)
    else none
  | .write, .normalised device raw norm =>
    match norm.columns with
    | .error e => some (s, .refused true e)
    | .ok c =>
      if s.locks.available i device.vehicleId then
        some ({ s with locks := s.locks.take i device.vehicleId },
          .written device raw c (upsert s.now device c (s.lastPositions device.vehicleId)))
      else none
  | .commit, .written device raw c row =>
    some (s.commit i device raw c row, .accepted device.vehicleId)
  | .eta tenantId tripId, p =>
    if p.free then
      some (s, .answered (findTrip tenantId tripId s) (getTripEta tenantId tripId s))
    else none
  | .abandon, _ => some ({ s with locks := s.locks.release i }, .idle)
  | .pass seconds db devices, p => some ({ s with now := s.now + seconds, db, devices }, p)
  | _, _ => none

/-- One step of a run. -/
def track [Numerals] [Signing] : Config Track Phase → Nat × Act → Config Track Phase := move trackTurn

/-! ## What holds of the positions -/

/-- The row shows the position. -/
structure VehicleLastPosition.Shows (last : VehicleLastPosition) (p : GpsPosition) : Prop where
  lat : last.lat = p.lat
  lon : last.lon = p.lon
  speedKmh : last.speedKmh = p.speedKmh
  headingDeg : last.headingDeg = p.headingDeg
  recordedAt : last.recordedAt = p.recordedAt

/-- The last position of a vehicle is one of its positions with the greatest moment. -/
def Latest (s : Track) (v : UUID) : Prop :=
  match s.lastPositions v with
  | none => ∀ p ∈ s.positions, p.vehicleId ≠ v
  | some last => ∃ p ∈ s.positions, p.vehicleId = v ∧ last.Shows p ∧
      ∀ p' ∈ s.positions, p'.vehicleId = v → p'.recordedAt ≤ p.recordedAt

/-- There is one position for each call that was accepted, with exactly the values sent, and the last
position of each vehicle is the latest. -/
structure TrackInv [Numerals] (s : Track) : Prop where
  latest : ∀ v, Latest s v
  stored : s.positions.rows.map (·.id) = s.accepted.map Prod.snd
  exact : ∀ e ∈ s.accepted, ∃ p ∈ s.positions, p.id = e.2 ∧ p.rawPayload = e.1 ∧
    Exactly e.1 p.toColumns

/-- Whoever writes holds the vehicle, and has seen its last position; nobody with a genuine call is
refused, and whoever asks for the arrival of a trip is answered. -/
def PhaseInv [Numerals] (i : Nat) (s : Track) : Phase → Prop
  | .normalised _ raw norm => ∃ c, norm.columns = .ok c ∧ Exactly raw c
  | .written device raw c row => s.locks device.vehicleId = some i ∧ Exactly raw c ∧
      ∃ now, row = upsert now device c (s.lastPositions device.vehicleId)
  | .refused genuine _ => genuine = false
  | .answered trip answer => trip.isSome = true → answer.isOk = true
  | _ => True

/-- A genuine call is clear, and an arrival is asked for where the vehicle has not just moved or no
route is known. -/
def Steady [Numerals] [Signing] (c : Config Track Phase) (m : Nat × Act) : Prop :=
  match m.2 with
  | .receive imei signature body raw =>
    genuine imei signature body raw c.store = true → Clear raw
  | .eta tenantId tripId => ∀ trip ∈ findTrip tenantId tripId c.store,
      ∀ pos ∈ c.store.lastPositions trip.vehicleId, pos.moving c.store.now = true →
        knownRoute tenantId trip c.store = none
  | _ => True

/-! ## Steps -/

section

variable {i : Nat} {s : Track} {d : GpsDevice} {raw : Payload} {n : Columns}
  {row : Option VehicleLastPosition}

theorem genuine_of_receive [Numerals] [Signing] {imei signature body : String} {norm : Normalized}
    (h : receive imei signature body raw s = .ok (d, norm)) :
    genuine imei signature body raw s = true ∧ normalizePosition s.now raw = .ok norm := by
  simp only [receive, bind_eq_ok, require_eq_ok, raiseIf_eq_ok, pure, Except.pure,
    Except.ok.injEq, Prod.mk.injEq] at h
  obtain ⟨device, hdevice, _, hsignature, norm', hnorm, rfl, rfl⟩ := h
  have hkeys := hnorm
  simp only [normalizePosition, bind_eq_ok, require_eq_ok] at hkeys
  obtain ⟨lat, hlat, lon, hlon, -⟩ := hkeys
  refine ⟨?_, hnorm⟩
  rw [genuine, hdevice, Option.any_some, sent_isSome_of_orChain hlat, sent_isSome_of_orChain hlon]
  simpa using hsignature

theorem receive_of_genuine [Numerals] [Signing] {imei signature body : String}
    (h : genuine imei signature body raw s = true) (hclear : Clear raw) :
    ∃ d norm, receive imei signature body raw s = .ok (d, norm) := by
  simp only [genuine, Bool.and_eq_true] at h
  obtain ⟨⟨hdevice, hlat⟩, hlon⟩ := h
  obtain ⟨d, hd, hsignature⟩ := (Option.any_eq_true _ _).mp hdevice
  obtain ⟨norm, c, hnorm, -⟩ := stored_of_clear s.now hclear hlat hlon
  refine ⟨d, norm, ?_⟩
  simp [receive, hd, hsignature, hnorm, require, raiseIf, bind, Except.bind, pure, Except.pure]

theorem positions_commit : (s.commit i d raw n row).positions.rows =
    s.positions.rows ++ [newPosition d raw n s.positions.freshKey] := rfl

theorem mem_commit {p : GpsPosition} : p ∈ (s.commit i d raw n row).positions ↔
    p ∈ s.positions ∨ p = newPosition d raw n s.positions.freshKey :=
  Table.mem_insert _ _ (key_newPosition d raw n)

theorem latest_commit_of_ne {v : UUID} (h : Latest s v) (hv : v ≠ d.vehicleId) :
    Latest (s.commit i d raw n row) v := by
  have hlast : (s.commit i d raw n row).lastPositions v = s.lastPositions v := if_neg hv
  rw [Latest, hlast]
  rw [Latest] at h
  cases hrow : s.lastPositions v with
  | none =>
    rw [hrow] at h
    intro p hp
    rcases mem_commit.mp hp with hp | rfl
    · exact h p hp
    · exact hv.symm
  | some last =>
    rw [hrow] at h
    obtain ⟨p, hp, hpv, hshows, hmax⟩ := h
    refine ⟨p, mem_commit.mpr (.inl hp), hpv, hshows, fun p' hp' hv' => ?_⟩
    rcases mem_commit.mp hp' with hp' | rfl
    · exact hmax p' hp' hv'
    · exact absurd hv'.symm hv

/-- The row that was written for what it had seen shows the latest position again. -/
theorem latest_commit_self {now : Instant} (h : Latest s d.vehicleId)
    (hrow : row = upsert now d n (s.lastPositions d.vehicleId)) :
    Latest (s.commit i d raw n row) d.vehicleId := by
  have hlast : (s.commit i d raw n row).lastPositions d.vehicleId =
      row.or (s.lastPositions d.vehicleId) := if_pos rfl
  rw [Latest, hlast, hrow]
  rw [Latest] at h
  have hnew : newPosition d raw n s.positions.freshKey ∈ (s.commit i d raw n row).positions :=
    mem_commit.mpr (.inr rfl)
  cases hseen : s.lastPositions d.vehicleId with
  | none =>
    rw [hseen] at h
    refine ⟨_, hnew, rfl, ⟨rfl, rfl, rfl, rfl, rfl⟩, fun p' hp' hv' => ?_⟩
    rcases mem_commit.mp hp' with hp' | rfl
    · exact absurd hv' (h p' hp')
    · exact Int.le_refl _
  | some last =>
    rw [hseen] at h
    obtain ⟨p, hp, hpv, hshows, hmax⟩ := h
    by_cases hlater : last.recordedAt < n.recordedAt
    · -- the new position is the latest
      rw [upsert, if_pos hlater]
      refine ⟨_, hnew, rfl, ⟨rfl, rfl, rfl, rfl, rfl⟩, fun p' hp' hv' => ?_⟩
      rcases mem_commit.mp hp' with hp' | rfl
      · have hle := hmax p' hp' hv'
        rw [← hshows.recordedAt] at hle
        exact Int.le_of_lt (Int.lt_of_le_of_lt hle hlater)
      · exact Int.le_refl _
    · -- the one that was seen still is
      rw [upsert, if_neg hlater]
      refine ⟨p, mem_commit.mpr (.inl hp), hpv, hshows, fun p' hp' hv' => ?_⟩
      rcases mem_commit.mp hp' with hp' | rfl
      · exact hmax p' hp' hv'
      · rw [← hshows.recordedAt]
        exact Int.not_lt.mp hlater

theorem TrackInv.commit [Numerals] {now : Instant} (h : TrackInv s) (hexact : Exactly raw n)
    (hrow : row = upsert now d n (s.lastPositions d.vehicleId)) :
    TrackInv (s.commit i d raw n row) := by
  refine ⟨fun v => ?_, ?_, fun e he => ?_⟩
  · by_cases hv : v = d.vehicleId
    · subst hv
      exact latest_commit_self (h.latest _) hrow
    · exact latest_commit_of_ne (h.latest v) hv
  · have haccepted : (s.commit i d raw n row).accepted =
        s.accepted ++ [(raw, s.positions.freshKey)] := rfl
    rw [positions_commit, haccepted, List.map_append, List.map_append, h.stored]
    rfl
  · rcases List.mem_append.mp he with he | he
    · obtain ⟨p, hp, hrest⟩ := h.exact e he
      exact ⟨p, mem_commit.mpr (.inl hp), hrest⟩
    · rw [List.mem_singleton.mp he]
      exact ⟨_, mem_commit.mpr (.inr rfl), rfl, rfl, hexact⟩

/-- The tables and the calls that were accepted are the same. -/
structure Track.SameRows (s s' : Track) : Prop where
  positions : s'.positions = s.positions
  lastPositions : s'.lastPositions = s.lastPositions
  accepted : s'.accepted = s.accepted

theorem TrackInv.same [Numerals] {s' : Track} (h : TrackInv s) (hsame : s.SameRows s') : TrackInv s' := by
  constructor
  · intro v
    rw [Latest, hsame.lastPositions, hsame.positions]
    exact h.latest v
  · rw [hsame.positions, hsame.accepted]
    exact h.stored
  · rw [hsame.positions, hsame.accepted]
    exact h.exact

theorem isOk_getTripEta {tenantId tripId : UUID}
    (h : ∀ trip ∈ findTrip tenantId tripId s, ∀ pos ∈ s.lastPositions trip.vehicleId,
      pos.moving s.now = true → knownRoute tenantId trip s = none)
    (htrip : (findTrip tenantId tripId s).isSome = true) :
    (getTripEta tenantId tripId s).isOk = true := by
  obtain ⟨trip, htrip⟩ := Option.isSome_iff_exists.mp htrip
  rw [getTripEta, htrip]
  simp only [require, bind, Except.bind]
  cases hpos : s.lastPositions trip.vehicleId with
  | none => rfl
  | some pos =>
    cases hmoving : pos.moving s.now with
    | false => simp [hmoving, pure, Except.pure, Except.isOk, Except.toBool]
    | true =>
      simp only [hmoving, h trip htrip pos hpos hmoving]
      rfl

theorem trackTurn_own [Numerals] [Signing] {c : Config Track Phase} {act : Act} {s' : Track} {p' : Phase}
    (hI : Holds TrackInv PhaseInv c) (hsteady : Steady c (i, act))
    (h : trackTurn i act c.store (c.parties i) = some (s', p')) :
    TrackInv s' ∧ PhaseInv i s' p' := by
  have hparty := hI.party i
  cases act with
  | receive imei signature body raw =>
    simp only [trackTurn] at h
    split at h
    · split at h
      · next e hrefused =>
        cases h
        refine ⟨hI.store, ?_⟩
        cases hgenuine : genuine imei signature body raw c.store with
        | false => rfl
        | true =>
          obtain ⟨d, norm, hreceived⟩ := receive_of_genuine hgenuine (hsteady hgenuine)
          rw [hreceived] at hrefused
          cases hrefused
      · next d norm hreceived =>
        cases h
        obtain ⟨hgenuine, hnorm⟩ := genuine_of_receive hreceived
        have hclear := hsteady hgenuine
        simp only [genuine, Bool.and_eq_true] at hgenuine
        obtain ⟨norm', columns, hnorm', hcolumns, hexact⟩ :=
          stored_of_clear c.store.now hclear hgenuine.1.2 hgenuine.2
        rw [hnorm] at hnorm'
        cases hnorm'
        exact ⟨hI.store, columns, hcolumns, hexact⟩
    · cases h
  | write =>
    cases hp : c.parties i with
    | normalised d raw norm =>
      rw [hp] at h hparty
      obtain ⟨columns, hcolumns, hexact⟩ := hparty
      simp only [trackTurn, hcolumns] at h
      split at h
      · cases h
        exact ⟨hI.store.same ⟨rfl, rfl, rfl⟩, Locks.take_self, hexact, c.store.now, rfl⟩
      · cases h
    | _ =>
      rw [hp] at h
      cases h
  | commit =>
    cases hp : c.parties i with
    | written d raw columns row =>
      rw [hp] at h hparty
      obtain ⟨-, hexact, now, hrow⟩ := hparty
      cases h
      exact ⟨hI.store.commit hexact hrow, trivial⟩
    | _ =>
      rw [hp] at h
      cases h
  | eta tenantId tripId =>
    simp only [trackTurn] at h
    split at h
    · cases h
      exact ⟨hI.store, isOk_getTripEta hsteady⟩
    · cases h
  | abandon =>
    cases h
    exact ⟨hI.store.same ⟨rfl, rfl, rfl⟩, trivial⟩
  | pass seconds db devices =>
    cases h
    refine ⟨hI.store.same ⟨rfl, rfl, rfl⟩, ?_⟩
    cases hp : c.parties i <;>
    · rw [hp] at hparty
      exact hparty

/-- What another party does leaves a party as it is: one that writes holds its vehicle. -/
theorem PhaseInv.frame [Numerals] {j : Nat} {s s' : Track} {p : Phase} (h : PhaseInv j s p)
    (hlocks : ∀ v, s.locks v = some j → s'.locks v = some j ∧ s'.lastPositions v = s.lastPositions v) :
    PhaseInv j s' p := by
  cases p with
  | written d raw c row =>
    obtain ⟨hlock, hexact, now, hrow⟩ := h
    obtain ⟨hlock', hlast⟩ := hlocks _ hlock
    exact ⟨hlock', hexact, now, by rw [hlast]; exact hrow⟩
  | _ => exact h

theorem trackTurn_others [Numerals] [Signing] {c : Config Track Phase} {act : Act} {s' : Track}
    {p' : Phase} (hI : Holds TrackInv PhaseInv c)
    (h : trackTurn i act c.store (c.parties i) = some (s', p')) {j : Nat} (hj : j ≠ i) :
    PhaseInv j s' (c.parties j) := by
  refine (hI.party j).frame fun v hv => ?_
  cases act with
  | receive imei signature body raw =>
    simp only [trackTurn] at h
    split at h
    · split at h <;>
      · cases h
        exact ⟨hv, rfl⟩
    · cases h
  | write =>
    cases hp : c.parties i with
    | normalised d raw norm =>
      rw [hp] at h
      simp only [trackTurn] at h
      split at h
      · cases h
        exact ⟨hv, rfl⟩
      · split at h
        · next havailable =>
          cases h
          exact ⟨Locks.take_of_ne hv hj havailable, rfl⟩
        · cases h
    | _ =>
      rw [hp] at h
      cases h
  | commit =>
    cases hp : c.parties i with
    | written d raw columns row =>
      have hparty := hI.party i
      rw [hp] at h hparty
      cases h
      refine ⟨Locks.release_of_ne hv hj, ?_⟩
      -- the vehicle is held by the one that commits, not by the other
      have hne : v ≠ d.vehicleId := by
        rintro rfl
        rw [hparty.1] at hv
        exact hj (Option.some.inj hv).symm
      exact if_neg hne
    | _ =>
      rw [hp] at h
      cases h
  | eta tenantId tripId =>
    simp only [trackTurn] at h
    split at h
    · cases h
      exact ⟨hv, rfl⟩
    · cases h
  | abandon =>
    cases h
    exact ⟨Locks.release_of_ne hv hj, rfl⟩
  | pass seconds db devices =>
    cases h
    exact ⟨hv, rfl⟩

/-! ## Runs -/

/-- Nothing is stored, and nobody is at work. -/
structure Opening (c : Config Track Phase) : Prop where
  positions : c.store.positions = ∅
  lastPositions : c.store.lastPositions = fun _ => none
  accepted : c.store.accepted = []
  parties : ∀ j, c.parties j = .idle

/-- What is claimed of a state: the positions and the last positions are as they should be, no
genuine call was refused, and whoever asked for the arrival of a trip that is there was answered. -/
structure Tracked [Numerals] (c : Config Track Phase) : Prop where
  rows : TrackInv c.store
  accepted : ∀ j genuine e, c.parties j = .refused genuine e → genuine = false
  answered : ∀ j trip answer, c.parties j = .answered (some trip) answer → answer.isOk = true

/-- Whoever asked for the arrival of a trip that is there was not answered. -/
def Phase.failed : Phase → Bool
  | .answered (some _) answer => !answer.isOk
  | _ => false

theorem Tracked.not_failed [Numerals] {c : Config Track Phase} (h : Tracked c) (j : Nat) :
    (c.parties j).failed = false := by
  cases hp : c.parties j with
  | answered trip answer =>
    cases trip with
    | none => rfl
    | some trip => rw [Phase.failed, h.answered j trip answer hp, Bool.not_true]
  | _ => rfl

/-- Every run keeps it whose genuine calls are clear, and whose arrivals are asked for where the
vehicle has not just moved or no route is known. -/
theorem tracked_run [Numerals] [Signing] {c : Config Track Phase} {ms : List (Nat × Act)}
    (hopening : Opening c) (hsteady : Run.Along track Steady c ms) :
    Tracked (Run.exec track c ms) := by
  have hstart : Holds TrackInv PhaseInv c := by
    refine ⟨⟨fun v => ?_, ?_, fun e he => ?_⟩, fun j => ?_⟩
    · rw [Latest, hopening.lastPositions, hopening.positions]
      exact fun p hp => absurd hp (Table.not_mem_empty p)
    · rw [hopening.positions, hopening.accepted]
      rfl
    · rw [hopening.accepted] at he
      cases he
    · rw [hopening.parties]
      trivial
  have hrun : Holds TrackInv PhaseInv (Run.exec track c ms) := by
    refine holds_run ?_ ?_ hstart hsteady
    · intro c i act s' p' hI hC hturn
      exact trackTurn_own hI hC hturn
    · intro c i act s' p' hI _ hturn j hj
      exact trackTurn_others hI hturn hj
  refine ⟨hrun.store, fun j genuine e hrefused => ?_, fun j trip answer hanswered => ?_⟩
  · have hparty := hrun.party j
    rw [hrefused] at hparty
    exact hparty
  · have hparty := hrun.party j
    rw [hanswered] at hparty
    exact hparty rfl

end

/-! ## A truck -/

def truck : GpsDevice :=
  { id := 1, tenantId := 1, vehicleId := 7, imei := "350000000000001", deviceSecret := "segredo" }

def body : String := "\x7b\"lat\": -25.875, \"lon\": 32.5, \"speed\": 80\x7d"

def payload : Payload :=
  [("lat", .number (-207 / 8)), ("lon", .number (65 / 2)), ("speed", .number 80)]

def equatorBody : String := "\x7b\"lat\": 0, \"lon\": 32.5\x7d"

def equator : Payload := [("lat", .number 0), ("lon", .number (65 / 2))]

def signature : String := "0cfe0e5222325d7972fdb734ebe6a0fa160ed9b8171ac7e903487e10546d4cc6"

def equatorSignature : String := "b7566feed32a3a8f29bda49b2e1131d63625c022153a77e0a785d304ec321623"

/-- The signatures of the two bodies. -/
@[reducible] def Signing.two : Signing where
  hexdigest secret text :=
    if secret = "segredo" ∧ text = body then signature
    else if secret = "segredo" ∧ text = equatorBody then equatorSignature
    else ""

def maputoBeira : Trip :=
  { id := 1, tenantId := 1, vehicleId := 7, origin := "Maputo", destination := "Beira"
    status := .inProgress }

/-- A truck with a device, on a route that is known. -/
def parked : Config Track Phase where
  store :=
    { now := 0, devices := .single truck
      db := {
        trips := .single maputoBeira
        knownRoutes := .single
          { id := 1, tenantId := 1, origin := "Maputo", destination := "Beira"
            distanceKm := 12000 } } }
  parties := fun _ => .idle

theorem parked_opening : Opening parked := ⟨rfl, rfl, rfl, fun _ => rfl⟩

/-- The device sends a position. -/
def oneSent : List (Nat × Act) :=
  [(0, .receive truck.imei signature body payload), (0, .write), (0, .commit)]

theorem payload_clear : let := Numerals.none; Clear payload := by
  intro _
  have hheard : ∀ keys ∈ [latKeys, lonKeys, speedKeys, headingKeys, accuracyKeys, timestampKeys],
      (sent payload keys).all Json.truthy = true := by
    decide +kernel
  refine ⟨fun keys hkeys => heard_of_truthy (hheard keys hkeys), ?_, ?_, ?_, ?_, ?_⟩
  · intro keys hkeys v hv
    have hnumbers : ∀ keys ∈ [latKeys, lonKeys], (sent payload keys).all
        (fun v => (float v).isSome && decide (float v = named v)) = true := by
      decide +kernel
    have hall := hnumbers keys hkeys
    rw [hv, Option.all_some, Bool.and_eq_true, decide_eq_true_eq] at hall
    exact hall
  · intro v hv
    cases hv
    exact ⟨8000, by norm_num [decimal], by decide⟩
  all_goals
    intro v hv
    cases hv

theorem tracked_oneSent :
    let := Numerals.none
    let := Signing.two
    Tracked (Run.exec track parked oneSent) := by
  intro _ _
  exact tracked_run parked_opening ⟨fun _ => payload_clear, trivial, trivial, trivial⟩

/-- A position on the equator is refused; and the arrival of the moving truck, whose route is known,
is not answered. -/
theorem equator_refused_eta_raises :
    let := Numerals.none
    let := Signing.two
    ¬ Tracked (Run.exec track parked
        [(0, .receive truck.imei equatorSignature equatorBody equator)]) ∧
      ¬ Tracked (Run.exec track parked (oneSent ++ [(1, .eta 1 1)])) := by
  intro _ _
  constructor
  · intro h
    have hrefused : (Run.exec track parked
        [(0, .receive truck.imei equatorSignature equatorBody equator)]).parties 0 =
          .refused true invalidPosition := rfl
    cases h.accepted _ _ _ hrefused
  · intro h
    have hfailed : ((Run.exec track parked (oneSent ++ [(1, .eta 1 1)])).parties 1).failed = true := by
      decide +kernel
    rw [h.not_failed 1] at hfailed
    cases hfailed

end Rotas.Gps
