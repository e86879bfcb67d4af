import Rotas.Lib.Interleave
import Rotas.Workshop.Quotes

/-!
# Rotas.Workshop.ReceptionTurns

The vehicles that the workshop takes in and gives back, `workshop/reception_service.py`, as
transactions that run at the same time.

* `normalizeName`, `namesMatch` — `_normalize_name` and `_names_match`.
* `Receiving`, `Updating`, `Releasing` — `create_reception`, `update_reception_status` and
  `release_vehicle`. Any status may follow any other; a vehicle is released to whoever is
  authorised, or with an override.
* `ReceiveWork` — what a reception has read: the vehicle, and the clock twice, for the year of its
  number and for the year of the counter that the number comes from.
* `DeskPhase`, `DeskAction`, `deskTurn` — the steps of a transaction.
* `DeskStep` — what a turn does; `deskStep_of_turn` says that it does nothing else.

The row of a counter is held from the statement that inserts it, or else from the one that moves it
on, until the end of the transaction. A statement that writes a reception or a release is taken
together with the commit, since nobody reads in between.
-/

namespace Rotas

open Interleave

/-! ## Names -/

/-- Unicode's tables, as `unicodedata` and `re` read them. -/
class Unicode where
  nfkd : String → String
  combining : Char → Bool
  isWord : Char → Bool

/-- No letter is composed, and the word characters are the ASCII ones. -/
@[reducible] def Unicode.ascii : Unicode := ⟨id, fun _ => false, fun c => c.isAlphanum || c = '_'⟩

/-- `s.split()`: the pieces between the whitespace. -/
def nameTokens (s : String) : List String :=
  ((s.toList.splitOnP isSpace).filter fun cs => !cs.isEmpty).map .ofList

section Names

variable [Locale] [Unicode]

/-- `_normalize_name`. -/
def normalizeName (name : Option String) : String :=
  match truthy name with
  | none => ""
  | some name =>
    let noAccents := String.ofList ((Unicode.nfkd name).toList.filter fun c => !Unicode.combining c)
    strip (.ofList ((Locale.lower noAccents).toList.filter fun c => Unicode.isWord c || isSpace c))

/-- `_names_match`. -/
def namesMatch (authorized presented : Option String) : Bool :=
  let normAuth := normalizeName authorized
  let normPres := normalizeName presented
  if normAuth = "" || normPres = "" then true
  else if normAuth = normPres then true
  else
    let authTokens := (nameTokens normAuth).dedup
    let presTokens := (nameTokens normPres).dedup
    let common := authTokens.filter fun t => presTokens.contains t
    2 ≤ common.length || common.length = 1 && (authTokens.length = 1 || presTokens.length = 1)

end Names

/-! ## Rows -/

inductive ReceptionStatus where
  | received | inService | ready | delivered | returnedNoService
  deriving DecidableEq

/-- The vehicle has left. -/
def ReceptionStatus.isClosed : ReceptionStatus → Bool
  | .delivered | .returnedNoService => true
  | _ => false

inductive ReleaseType where
  | afterService | noService
  deriving DecidableEq

structure VehicleReception where
  id : UUID
  tenantId : UUID
  vehicleId : UUID
  clientId : Option UUID := none
  receptionNumber : String
  receivedBy : Option UUID := none
  odometerAtReception : Int := 0
  pickupAuthorizedByName : Option String := none
  status : ReceptionStatus := .received

structure VehicleRelease where
  id : UUID
  tenantId : UUID
  vehicleId : UUID
  receptionId : UUID
  releasedBy : Option UUID := none
  odometerAtRelease : Int := 0
  pickedUpByName : Option String := none
  overrideUnauthorizedPickup : Bool := false
  overrideReason : Option String := none
  releaseType : ReleaseType := .afterService

instance : Keyed VehicleReception := ⟨VehicleReception.id⟩
instance : Keyed VehicleRelease := ⟨VehicleRelease.id⟩

/-- The workshop's tables, of which the vehicles and the counters are used, with the receptions and
the releases. -/
structure Desk where
  shop : Warehouse := {}
  receptions : Table VehicleReception := ∅
  releases : Table VehicleRelease := ∅

def VehicleReception.ok (r : VehicleReception) : Bool :=
  decide (r.receptionNumber.length ≤ 80) && decide (r.odometerAtReception < 2 ^ 31) &&
    r.pickupAuthorizedByName.all fun name => name.length ≤ 160

def VehicleRelease.ok (r : VehicleRelease) : Bool :=
  decide (r.odometerAtRelease < 2 ^ 31) && r.pickedUpByName.all fun name => name.length ≤ 160

/-- The names and the odometers fit their columns; a number may stand twice. -/
instance : Store Desk Exc := ⟨fun d => d.receptions.rows.all VehicleReception.ok &&
  d.releases.rows.all VehicleRelease.ok, .dataError⟩

/-! ## Reception -/

structure ReceptionCreate where
  vehicleId : UUID
  clientId : Option UUID := none
  odometerAtReception : Nat := 0
  pickupAuthorizedByName : Option String := none

def requireReceptionVehicle (tenantId : UUID) (payload : ReceptionCreate) (desk : Desk) :
    Except Exc Vehicle :=
  require ((desk.shop.vehicles.get payload.vehicleId).filter (·.tenantId = tenantId))
    (notFound "vehicle_not_found" "Vehicle not found.")

/-- The reception of a vehicle, under a number of the year `currentYear`. -/
def receptionOf (tenantId : UUID) (payload : ReceptionCreate) (actorId : Option UUID)
    (vehicle : Vehicle) (currentYear seqNum : Nat) (id : UUID) : VehicleReception where
  id
  tenantId
  vehicleId := payload.vehicleId
  clientId := payload.clientId.or vehicle.customerClientId
  receptionNumber := sequenceNumber "REC" currentYear seqNum
  receivedBy := actorId
  odometerAtReception := if payload.odometerAtReception = 0 then vehicle.currentKm
    else payload.odometerAtReception
  pickupAuthorizedByName := payload.pickupAuthorizedByName

def addReception (tenantId : UUID) (payload : ReceptionCreate) (actorId : Option UUID)
    (vehicle : Vehicle) (currentYear seqNum : Nat) (desk : Desk) : Desk :=
  { desk with
    receptions := desk.receptions.insert
      (receptionOf tenantId payload actorId vehicle currentYear seqNum) }

/-! ## Status and release -/

def requireReception (tenantId receptionId : UUID) (desk : Desk) : Except Exc VehicleReception :=
  require ((desk.receptions.get receptionId).filter (·.tenantId = tenantId))
    (notFound "reception_not_found" "Vehicle reception not found.")

/-- What the session writes of a status that it has set: nothing, if that is the one it read. -/
def writeStatus (reception : VehicleReception) (newStatus : ReceptionStatus) (desk : Desk) : Desk :=
  if newStatus = reception.status then desk
  else { desk with
    receptions := desk.receptions.modify reception.id fun r => { r with status := newStatus } }

structure VehicleReleaseCreate where
  odometerAtRelease : Nat := 0
  pickedUpByName : Option String := none
  overrideUnauthorizedPickup : Bool := false
  overrideReason : Option String := none
  releaseType : ReleaseType := .afterService

def unauthorizedPickup (presented authorized : String) : Exc :=
  conflict "unauthorized_pickup_person"
    ("A pessoa indicada (" ++ presented ++ ") difere da autorizada no check-in (" ++ authorized ++
      "). É necessária confirmação com motivo de exceção.")

/-- Who is authorised is compared with who is there, if both are named. -/
def checkPickup [Locale] [Unicode] (reception : VehicleReception) (payload : VehicleReleaseCreate) :
    Except Exc Unit :=
  match truthy reception.pickupAuthorizedByName, truthy payload.pickedUpByName with
  | some authorized, some presented =>
    raiseIf (!namesMatch authorized presented && !payload.overrideUnauthorizedPickup)
      (unauthorizedPickup presented authorized)
  | _, _ => return

/-- The reception, if its vehicle may be released to who is there. -/
def requireReleasable [Locale] [Unicode] (tenantId receptionId : UUID)
    (payload : VehicleReleaseCreate) (desk : Desk) : Except Exc VehicleReception := do
  let reception ← requireReception tenantId receptionId desk
  raiseIf reception.status.isClosed
    (conflict "reception_already_closed" "Vehicle has already been released.")
  checkPickup reception payload
  return reception

def ReleaseType.closing : ReleaseType → ReceptionStatus
  | .afterService => .delivered
  | .noService => .returnedNoService

def releaseOf (tenantId : UUID) (payload : VehicleReleaseCreate) (actorId : Option UUID)
    (reception : VehicleReception) (id : UUID) : VehicleRelease where
  id
  tenantId
  vehicleId := reception.vehicleId
  receptionId := reception.id
  releasedBy := actorId
  odometerAtRelease := payload.odometerAtRelease
  pickedUpByName := payload.pickedUpByName
  overrideUnauthorizedPickup := payload.overrideUnauthorizedPickup
  overrideReason := payload.overrideReason
  releaseType := payload.releaseType

/-- The release is recorded, and the reception closed. -/
def writeRelease (tenantId : UUID) (payload : VehicleReleaseCreate) (actorId : Option UUID)
    (reception : VehicleReception) (desk : Desk) : Desk :=
  writeStatus reception payload.releaseType.closing
    { desk with
      releases := desk.releases.insert (releaseOf tenantId payload actorId reception) }

/-! ## Requests -/

structure Receiving where
  tenantId : UUID
  payload : ReceptionCreate
  actorId : Option UUID := none

structure Updating where
  tenantId : UUID
  receptionId : UUID
  newStatus : ReceptionStatus

structure Releasing where
  tenantId : UUID
  receptionId : UUID
  payload : VehicleReleaseCreate
  actorId : Option UUID := none

/-! ## The work of a reception -/

structure ReceiveWork where
  request : Receiving
  vehicle : Vehicle
  currentYear : Nat
  counterYear : Nat

/-- The counter of a tenant and a year. -/
def receptionKey (tenantId : UUID) (year : Nat) : UUID × String :=
  (tenantId, sequenceKey "reception" year)

def ReceiveWork.key (w : ReceiveWork) : UUID × String :=
  receptionKey w.request.tenantId w.counterYear

def ReceiveWork.write (w : ReceiveWork) (seqNum : Nat) (desk : Desk) : Desk :=
  addReception w.request.tenantId w.request.payload w.request.actorId w.vehicle w.currentYear seqNum
    { desk with shop := desk.shop.setSequence w.key.1 w.key.2 seqNum }

/-! ## Turns -/

inductive DeskPhase where
  | idle
  /-- The vehicle is read. -/
  | receiving (r : Receiving) (vehicle : Vehicle)
  /-- The year of the number is read. -/
  | dated (r : Receiving) (vehicle : Vehicle) (currentYear : Nat)
  /-- The year of the counter is read. -/
  | keyed (w : ReceiveWork)
  /-- The row of the counter is there, or is inserted and held. -/
  | ensured (w : ReceiveWork)
  /-- The counter is moved on, and held. -/
  | numbered (w : ReceiveWork) (seqNum : Nat)
  | updating (u : Updating) (reception : VehicleReception)
  | releasing (r : Releasing) (reception : VehicleReception)

inductive DeskAction where
  | receive (r : Receiving)
  | readYear
  | readCounterYear
  | insertCounter
  | moveCounter
  | update (u : Updating)
  | release (r : Releasing)
  | commit
  | rollback
  /-- Time passes. -/
  | tick (now : Instant)

structure DeskStore where
  desk : Desk
  clock : Instant
  locks : Locks (UUID × String) := fun _ => none

def DeskStore.abort (s : DeskStore) (i : Nat) : DeskStore := { s with locks := s.locks.release i }

/-- The end of the transaction: its writes, if the database takes them. -/
def DeskStore.finish (s : DeskStore) (i : Nat) (desk : Desk) : DeskStore × DeskPhase :=
  if Store.ok desk then ({ s.abort i with desk }, .idle) else (s.abort i, .idle)

/-- The row is taken for the next phase; `none` while another transaction holds it. -/
def DeskStore.hold (s : DeskStore) (i : Nat) (key : UUID × String) (p : DeskPhase) :
    Option (DeskStore × DeskPhase) :=
  if s.locks.available i key then some ({ s with locks := s.locks.take i key }, p) else none

/-- The next phase, or the end of the transaction when a check refuses it. -/
def DeskStore.proceed {α : Type} (s : DeskStore) (i : Nat) (r : Except Exc α)
    (next : α → DeskPhase) : DeskStore × DeskPhase :=
  match r with
  | .error _ => (s.abort i, .idle)
  | .ok a => (s, next a)

/-- The turn of transaction `i`; `none` when it waits for a row or the step is not its next. -/
def deskTurn [Locale] [Unicode] (i : Nat) (act : DeskAction) (s : DeskStore) (p : DeskPhase) :
    Option (DeskStore × DeskPhase) :=
  match act, p with
  | .receive r, .idle =>
    some (s.proceed i (requireReceptionVehicle r.tenantId r.payload s.desk) (.receiving r))
  | .readYear, .receiving r vehicle => some (s, .dated r vehicle (yearOf s.clock))
  | .readCounterYear, .dated r vehicle currentYear =>
    some (s, .keyed ⟨r, vehicle, currentYear, yearOf s.clock⟩)
  | .insertCounter, .keyed w =>
    -- `ON CONFLICT DO NOTHING` waits for a row that somebody else has inserted, and for no other.
    if (s.desk.shop.sequence w.key.1 w.key.2).isSome then some (s, .ensured w)
    else s.hold i w.key (.ensured w)
  | .moveCounter, .ensured w =>
    s.hold i w.key (.numbered w (s.desk.shop.nextValue w.key.1 w.key.2))
  | .commit, .numbered w seqNum => some (s.finish i (w.write seqNum s.desk))
  | .update u, .idle =>
    some (s.proceed i (requireReception u.tenantId u.receptionId s.desk) (.updating u))
  | .commit, .updating u reception => some (s.finish i (writeStatus reception u.newStatus s.desk))
  | .release r, .idle =>
    some (s.proceed i (requireReleasable r.tenantId r.receptionId r.payload s.desk) (.releasing r))
  | .commit, .releasing r reception =>
    some (s.finish i (writeRelease r.tenantId r.payload r.actorId reception s.desk))
  | .rollback, _ => some (s.abort i, .idle)
  | .tick now, p => some ({ s with clock := max s.clock now }, p)
  | _, _ => none

def deskStart (desk : Desk) (clock : Instant) : Config DeskStore DeskPhase :=
  ⟨{ desk, clock }, fun _ => .idle⟩

def deskRun [Locale] [Unicode] (desk : Desk) (clock : Instant) (ms : List (Nat × DeskAction)) :
    Config DeskStore DeskPhase :=
  Run.exec (move deskTurn) (deskStart desk clock) ms

/-! ## What a turn does -/

/-- What a transaction writes when it commits. -/
inductive DeskWrite (desk : Desk) : DeskPhase → Desk → Prop where
  | received (w : ReceiveWork) (seqNum : Nat) :
      DeskWrite desk (.numbered w seqNum) (w.write seqNum desk)
  | updated (u : Updating) (reception : VehicleReception) :
      DeskWrite desk (.updating u reception) (writeStatus reception u.newStatus desk)
  | released (r : Releasing) (reception : VehicleReception) :
      DeskWrite desk (.releasing r reception)
        (writeRelease r.tenantId r.payload r.actorId reception desk)

/-- What a transaction reads. -/
inductive DeskRead [Locale] [Unicode] (s : DeskStore) : DeskPhase → DeskPhase → Prop where
  | vehicle (r : Receiving) (vehicle : Vehicle)
      (h : requireReceptionVehicle r.tenantId r.payload s.desk = .ok vehicle) :
      DeskRead s .idle (.receiving r vehicle)
  | year (r : Receiving) (vehicle : Vehicle) :
      DeskRead s (.receiving r vehicle) (.dated r vehicle (yearOf s.clock))
  | counterYear (r : Receiving) (vehicle : Vehicle) (currentYear : Nat) :
      DeskRead s (.dated r vehicle currentYear) (.keyed ⟨r, vehicle, currentYear, yearOf s.clock⟩)
  | counter (w : ReceiveWork) : DeskRead s (.keyed w) (.ensured w)
  | reception (u : Updating) (reception : VehicleReception)
      (h : requireReception u.tenantId u.receptionId s.desk = .ok reception) :
      DeskRead s .idle (.updating u reception)
  | releasable (r : Releasing) (reception : VehicleReception)
      (h : requireReleasable r.tenantId r.receptionId r.payload s.desk = .ok reception) :
      DeskRead s .idle (.releasing r reception)

/-- The turns of transaction `i` in the store `s`: the phase before, the store and the phase
after. -/
inductive DeskStep [Locale] [Unicode] (i : Nat) (s : DeskStore) :
    DeskAction → DeskPhase → DeskStore → DeskPhase → Prop where
  | ended (act : DeskAction) (p : DeskPhase) : DeskStep i s act p (s.abort i) .idle
  | read (act : DeskAction) {p p' : DeskPhase} (h : DeskRead s p p') : DeskStep i s act p s p'
  | inserted (w : ReceiveWork) (havail : s.locks.available i w.key = true) :
      DeskStep i s .insertCounter (.keyed w) { s with locks := s.locks.take i w.key } (.ensured w)
  | moved (w : ReceiveWork) (havail : s.locks.available i w.key = true) :
      DeskStep i s .moveCounter (.ensured w) { s with locks := s.locks.take i w.key }
        (.numbered w (s.desk.shop.nextValue w.key.1 w.key.2))
  | wrote {p : DeskPhase} {desk : Desk} (h : DeskWrite s.desk p desk) :
      DeskStep i s .commit p { s.abort i with desk } .idle
  | ticked (now : Instant) (p : DeskPhase) :
      DeskStep i s (.tick now) p { s with clock := max s.clock now } p

section Steps

variable [Locale] [Unicode] {i : Nat} {s s' : DeskStore} {act : DeskAction} {p p' : DeskPhase}

theorem deskStep_of_proceed {α : Type} {r : Except Exc α} {next : α → DeskPhase}
    (h : s.proceed i r next = (s', p')) (hread : ∀ a, r = .ok a → DeskRead s p (next a)) :
    DeskStep i s act p s' p' := by
  cases r with
  | error e => cases h; exact .ended act p
  | ok a => cases h; exact .read act (hread a rfl)

theorem deskStep_of_finish {desk : Desk} (h : s.finish i desk = (s', p'))
    (hwrite : DeskWrite s.desk p desk) : DeskStep i s .commit p s' p' := by
  unfold DeskStore.finish at h
  split at h
  · cases h
    exact .wrote hwrite
  · cases h
    exact .ended .commit p

omit [Locale] [Unicode] in
theorem deskHold_eq_some {key : UUID × String} {q : DeskPhase} (h : s.hold i key q = some (s', p')) :
    s.locks.available i key = true ∧ s' = { s with locks := s.locks.take i key } ∧ p' = q := by
  unfold DeskStore.hold at h
  split at h
  · next havail =>
    cases h
    exact ⟨havail, rfl, rfl⟩
  · cases h

theorem deskStep_of_turn (h : deskTurn i act s p = some (s', p')) : DeskStep i s act p s' p' := by
  unfold deskTurn at h
  split at h
  · next r => exact deskStep_of_proceed (Option.some.inj h) fun vehicle hr => .vehicle r vehicle hr
  · next r vehicle => cases h; exact .read _ (.year r vehicle)
  · next r vehicle year => cases h; exact .read _ (.counterYear r vehicle year)
  · next w =>
    split at h
    · cases h
      exact .read _ (.counter w)
    · obtain ⟨havail, rfl, rfl⟩ := deskHold_eq_some h
      exact .inserted w havail
  · next w =>
    obtain ⟨havail, rfl, rfl⟩ := deskHold_eq_some h
    exact .moved w havail
  · next w seqNum => exact deskStep_of_finish (Option.some.inj h) (.received w seqNum)
  · next u =>
    exact deskStep_of_proceed (Option.some.inj h) fun reception hu => .reception u reception hu
  · next u reception => exact deskStep_of_finish (Option.some.inj h) (.updated u reception)
  · next r =>
    exact deskStep_of_proceed (Option.some.inj h) fun reception hr => .releasable r reception hr
  · next r reception => exact deskStep_of_finish (Option.some.inj h) (.released r reception)
  · cases h; exact .ended _ _
  · cases h; exact .ticked _ _
  · cases h

/-- A transaction keeps the counters that it holds, whatever the others do. -/
theorem DeskStep.locks_of_ne (h : DeskStep i s act p s' p') {j : Nat} (hj : j ≠ i)
    {key : UUID × String} (hheld : s.locks key = some j) : s'.locks key = some j := by
  cases h with
  | ended => exact Locks.release_of_ne hheld hj
  | read => exact hheld
  | inserted w havail => exact Locks.take_of_ne hheld hj havail
  | moved w havail => exact Locks.take_of_ne hheld hj havail
  | wrote => exact Locks.release_of_ne hheld hj
  | ticked => exact hheld

end Steps

end Rotas
