import Rotas.Core.Errors
import Rotas.Core.Text
import Rotas.Lib.Interleave
import Rotas.Lib.Table

/-!
# Rotas.Tenants.PlanTurns

The limits of a tenant's plan, and the calls that add its users, drivers and vehicles and that change
them, as transactions that run at the same time. Each read sees what is committed at that instant.

* `PlanDimension`, `Roster` — what a plan limits, and the rows that are counted.
* `checkLimit` — the guard of a creation.
* `create`, `patch` — the services, from their reads to their commit.
* `PlanPhase`, `PlanAction`, `planTurn` — their steps. The guard takes its count from the cache of the
  tenant, if there is one, else from the rows, and puts it in the cache then; the route drops what is
  cached for the tenant once the call has succeeded.
* `calls_of_turns` — calls that are served one after the other.

What is cached expires, and each count that is added to it puts that off: it may be gone at any turn.
-/

namespace Rotas
namespace Plans

open Interleave

inductive PlanDimension where
  | users | drivers | vehicles
  deriving DecidableEq

structure Tenant where
  id : UUID
  maxVehicles : Option Int := some 5
  maxDrivers : Option Int := some 5
  maxUsers : Option Int := some 3
  isActive : Bool := true

def Tenant.max (tenant : Tenant) : PlanDimension → Option Int
  | .users => tenant.maxUsers
  | .drivers => tenant.maxDrivers
  | .vehicles => tenant.maxVehicles

structure User where
  id : UUID
  tenantId : UUID
  email : String
  role : String := "viewer"
  isActive : Bool := true

structure Driver where
  id : UUID
  tenantId : UUID
  phone : Option String := none
  status : String := "active"

structure Vehicle where
  id : UUID
  tenantId : UUID
  plate : String
  status : String := "active"

instance : Keyed Tenant := ⟨Tenant.id⟩
instance : Keyed User := ⟨User.id⟩
instance : Keyed Driver := ⟨Driver.id⟩
instance : Keyed Vehicle := ⟨Vehicle.id⟩

structure Roster where
  tenants : Table Tenant := ∅
  users : Table User := ∅
  drivers : Table Driver := ∅
  vehicles : Table Vehicle := ∅

/-! ## What is counted -/

def User.counts (tenantId : UUID) (u : User) : Bool := u.tenantId = tenantId && u.isActive

def Driver.counts (tenantId : UUID) (d : Driver) : Bool :=
  d.tenantId = tenantId && d.status != "inactive"

def Vehicle.counts (tenantId : UUID) (v : Vehicle) : Bool :=
  v.tenantId = tenantId && v.status != "retired"

def Roster.count (db : Roster) (tenantId : UUID) : PlanDimension → Nat
  | .users => db.users.rows.countP (User.counts tenantId)
  | .drivers => db.drivers.rows.countP (Driver.counts tenantId)
  | .vehicles => db.vehicles.rows.countP (Vehicle.counts tenantId)

/-- The rows, and the cached counts of each tenant where there is a cache. -/
structure PlanStore where
  db : Roster
  redis : Bool
  cached : UUID → PlanDimension → Option Nat

def PlanStore.setCount (s : PlanStore) (tenantId : UUID) (dim : PlanDimension) (count : Nat) :
    PlanStore :=
  { s with
    cached := fun t d => if t = tenantId ∧ d = dim then some count else s.cached t d }

def PlanStore.forget (s : PlanStore) (tenantId : UUID) : PlanStore :=
  { s with cached := fun t d => if t = tenantId then none else s.cached t d }

/-- The settings of the application, and the upper case of a text. -/
structure Host where
  upgradeUrl : String := ""
  upper : String → String

/-! ## The guard -/

def PlanDimension.label : PlanDimension → String
  | .users => "User"
  | .drivers => "Driver"
  | .vehicles => "Vehicle"

def PlanDimension.name : PlanDimension → String
  | .users => "users"
  | .drivers => "drivers"
  | .vehicles => "vehicles"

def planLimitReached (upgradeUrl : String) (dim : PlanDimension) (used : Nat) (max : Int) : Exc :=
  .api
    { code := "plan_limit_reached"
      message := dim.label ++ " limit reached (" ++ toString used ++ "/" ++ toString max ++
        "). Upgrade your plan."
      statusCode := 403
      details := [("upgrade_url", .text upgradeUrl), ("dimension", .text dim.name),
        ("used", .number used), ("max", .number max)] }

/-- The cached count, if there is one. -/
def cachedCount (tenantId : UUID) (dim : PlanDimension) (s : PlanStore) : Option Nat :=
  if s.redis then s.cached tenantId dim else none

/-- The count that a guard has come to, against the limit. -/
def compare (upgradeUrl : String) (dim : PlanDimension) (tenant : Tenant) (count : Nat) :
    Except Exc Unit :=
  match tenant.max dim with
  | none => .ok ()
  | some max => raiseIf (max ≤ count) (planLimitReached upgradeUrl dim count max)

/-- A count of the rows is cached, before it is compared. -/
def checkLimit (upgradeUrl : String) (dim : PlanDimension) (tenant : Tenant) (s : PlanStore) :
    Except Exc Unit × PlanStore :=
  match tenant.max dim with
  | none => (.ok (), s)
  | some _ =>
    match cachedCount tenant.id dim s with
    | some count => (compare upgradeUrl dim tenant count, s)
    | none =>
      let count := s.db.count tenant.id dim
      (compare upgradeUrl dim tenant count, if s.redis then s.setCount tenant.id dim count else s)

def checkUserLimit (upgradeUrl : String) := checkLimit upgradeUrl .users

def checkDriverLimit (upgradeUrl : String) := checkLimit upgradeUrl .drivers

def checkVehicleLimit (upgradeUrl : String) := checkLimit upgradeUrl .vehicles

/-! ## Creations -/

structure UserCreate where
  email : String
  password : String
  role : String := "viewer"

structure DriverCreate where
  phone : Option String := none

structure VehicleCreate where
  plate : String

inductive Creation where
  | user (payload : UserCreate)
  | driver (payload : DriverCreate)
  | vehicle (payload : VehicleCreate)

def Creation.dimension : Creation → PlanDimension
  | .user _ => .users
  | .driver _ => .drivers
  | .vehicle _ => .vehicles

def Creation.checkLimit (upgradeUrl : String) :
    Creation → Tenant → PlanStore → Except Exc Unit × PlanStore
  | .user _ => checkUserLimit upgradeUrl
  | .driver _ => checkDriverLimit upgradeUrl
  | .vehicle _ => checkVehicleLimit upgradeUrl

def requireTenant (tenantId : UUID) (db : Roster) : Except Exc Tenant :=
  require ((db.tenants.get tenantId).filter (·.isActive))
    (notFound "tenant_not_found" "Tenant not found or inactive.")

/-- `sorted(USER_ROLES)`. -/
def userRoles : List String := ["admin", "manager", "owner", "viewer"]

def validateRole (role : Option String) : Except Exc Unit :=
  raiseIf (role.all (· ∉ userRoles))
    (unprocessable "invalid_user_role" "User role is not supported."
      [("allowed_roles", .texts userRoles)])

def validatePassword (password : String) : Except Exc Unit :=
  raiseIf (password.length < 8)
    (unprocessable "weak_password" "Password must contain at least 8 characters.")

def Creation.validate : Creation → Except Exc Unit
  | .user payload => do
    validateRole (some payload.role)
    validatePassword payload.password
  | .driver _ => .ok ()
  | .vehicle _ => .ok ()

/-! ### Names that are taken -/

def normalizeEmail [Locale] (email : String) : String := Locale.lower (strip email)

def normalizePlate (host : Host) (plate : String) : String :=
  if plate = "" then plate else host.upper (strip plate)

def emailTaken (tenantId : UUID) (email : String) (exclude : Option UUID) (db : Roster) :
    Except Exc Unit :=
  raiseIf
    (db.users.rows.any fun u => u.tenantId = tenantId && u.email = email && exclude.all (u.id ≠ ·))
    (conflict "user_email_conflict" "User email already exists for this tenant."
      [("email", .text email)])

def phoneTaken (tenantId : UUID) (phone : String) (exclude : Option UUID) (db : Roster) :
    Except Exc Unit :=
  raiseIf
    (db.drivers.rows.any fun d =>
      d.tenantId = tenantId && d.phone = some phone && exclude.all (d.id ≠ ·))
    (conflict "driver_phone_conflict" "Driver phone already exists for this tenant."
      [("phone", .text phone)])

def plateTaken (tenantId : UUID) (plate : String) (exclude : Option UUID) (db : Roster) :
    Except Exc Unit :=
  raiseIf
    (db.vehicles.rows.any fun v =>
      v.tenantId = tenantId && v.plate = plate && exclude.all (v.id ≠ ·))
    (conflict "vehicle_plate_conflict" "Vehicle plate already exists for this tenant."
      [("plate", .text plate)])

section Calls

variable [Locale] (host : Host)

/-- The email of a user, the phone of a driver and the plate of a vehicle are looked for. -/
def Creation.vet (tenantId : UUID) (db : Roster) : Creation → Except Exc Unit
  | .user payload => emailTaken tenantId (normalizeEmail payload.email) none db
  | .driver payload =>
    match truthy payload.phone with
    | some phone => phoneTaken tenantId phone none db
    | none => .ok ()
  | .vehicle payload => plateTaken tenantId (normalizePlate host payload.plate) none db

/-- The conflict takes precedence over the limit: the email is looked for before the guard. -/
def Creation.vetsFirst : Creation → Bool
  | .user _ => true
  | .driver _ => false
  | .vehicle _ => false

def Creation.insert (tenantId : UUID) (db : Roster) : Creation → Roster
  | .user payload =>
    { db with
      users := db.users.insert fun id =>
        { id, tenantId, email := normalizeEmail payload.email, role := payload.role } }
  | .driver payload =>
    { db with drivers := db.drivers.insert fun id => { id, tenantId, phone := payload.phone } }
  | .vehicle payload =>
    { db with
      vehicles := db.vehicles.insert fun id =>
        { id, tenantId, plate := normalizePlate host payload.plate } }

/-- What the database holds: emails and plates once in a tenant, and texts that fit. -/
def Roster.ok (db : Roster) : Bool :=
  decide (db.users.rows.map fun u => (u.tenantId, u.email)).Nodup &&
    decide (db.vehicles.rows.map fun v => (v.tenantId, v.plate)).Nodup &&
    (db.users.rows.all fun u => u.email.length ≤ 255 && u.role.length ≤ 30) &&
    (db.drivers.rows.all fun d => d.phone.all (·.length ≤ 40) && d.status.length ≤ 30) &&
    db.vehicles.rows.all fun v => v.plate.length ≤ 40 && v.status.length ≤ 30

def PlanStore.commit (s : PlanStore) (db : Roster) : Except Exc Unit × PlanStore :=
  if db.ok then (.ok (), { s with db }) else (.error .integrityError, s)

def creationTenant (tenantId : UUID) (creation : Creation) (db : Roster) : Except Exc Tenant := do
  let tenant ← requireTenant tenantId db
  creation.validate
  return tenant

def create (tenantId : UUID) (creation : Creation) (s : PlanStore) : Except Exc Unit × PlanStore :=
  match creationTenant tenantId creation s.db with
  | .error e => (.error e, s)
  | .ok tenant =>
    match if creation.vetsFirst then creation.vet host tenantId s.db else .ok () with
    | .error e => (.error e, s)
    | .ok () =>
      match creation.checkLimit host.upgradeUrl tenant s with
      | (.error e, s) => (.error e, s)
      | (.ok (), s) =>
        match if creation.vetsFirst then .ok () else creation.vet host tenantId s.db with
        | .error e => (.error e, s)
        | .ok () => s.commit (creation.insert host tenantId s.db)

def createUser (tenantId : UUID) (payload : UserCreate) := create host tenantId (.user payload)

def createDriver (tenantId : UUID) (payload : DriverCreate) :=
  create host tenantId (.driver payload)

def createVehicle (tenantId : UUID) (payload : VehicleCreate) :=
  create host tenantId (.vehicle payload)

end Calls

/-! ## Patches -/

/-- A field of a patch: not given, or given as a value or as null. -/
abbrev Given (α : Type) := Option (Option α)

def Given.notNull {α : Type} (given : Given α) : Bool := given.all Option.isSome

structure UserPatch where
  email : Given String := none
  role : Given String := none
  isActive : Given Bool := none

structure DriverPatch where
  phone : Given String := none
  status : Given String := none

structure VehiclePatch where
  plate : Given String := none
  status : Given String := none

inductive Patch where
  | user (userId : UUID) (payload : UserPatch)
  | driver (driverId : UUID) (payload : DriverPatch)
  | vehicle (vehicleId : UUID) (payload : VehiclePatch)

/-- A patch, and the row as it was read. -/
inductive Revision where
  | user (seen : User) (payload : UserPatch)
  | driver (seen : Driver) (payload : DriverPatch)
  | vehicle (seen : Vehicle) (payload : VehiclePatch)

def Patch.read (tenantId : UUID) (db : Roster) : Patch → Except Exc Revision
  | .user userId payload => do
    let user ← require ((db.users.get userId).filter (·.tenantId = tenantId))
      (notFound "user_not_found" "User not found.")
    return .user user payload
  | .driver driverId payload => do
    let driver ← require ((db.drivers.get driverId).filter (·.tenantId = tenantId))
      (notFound "driver_not_found" "Driver not found.")
    return .driver driver payload
  | .vehicle vehicleId payload => do
    let vehicle ← require ((db.vehicles.get vehicleId).filter (·.tenantId = tenantId))
      (notFound "vehicle_not_found" "Vehicle not found.")
    return .vehicle vehicle payload

/-- A column is written if it is given another value than the one that was read. -/
def assign {α : Type} [DecidableEq α] (given : Option α) (seen row : α) : α :=
  match given with
  | some value => if value = seen then row else value
  | none => row

section Calls

variable [Locale] (host : Host)

/-- The email is looked for where it is given, the phone and the plate where they change. -/
def Revision.vet (tenantId : UUID) (db : Roster) : Revision → Except Exc Unit
  | .user seen payload => do
    match payload.email with
    | none => pure ()
    | some none => .error (.attributeError "strip")
    | some (some email) => emailTaken tenantId (normalizeEmail email) (some seen.id) db
    match payload.role with
    | none => pure ()
    | some role => validateRole role
  | .driver seen payload =>
    match truthy payload.phone.join with
    | some phone =>
      if some phone = seen.phone then .ok () else phoneTaken tenantId phone (some seen.id) db
    | none => .ok ()
  | .vehicle seen payload =>
    match payload.plate.join.map (normalizePlate host) with
    | some plate => if plate = seen.plate then .ok () else plateTaken tenantId plate (some seen.id) db
    | none => .ok ()

def UserPatch.write (payload : UserPatch) (seen row : User) : User :=
  { row with
    email := assign (payload.email.join.map normalizeEmail) seen.email row.email
    role := assign payload.role.join seen.role row.role
    isActive := assign payload.isActive.join seen.isActive row.isActive }

def DriverPatch.write (payload : DriverPatch) (seen row : Driver) : Driver :=
  { row with
    phone := assign payload.phone seen.phone row.phone
    status := assign payload.status.join seen.status row.status }

def VehiclePatch.write (payload : VehiclePatch) (seen row : Vehicle) : Vehicle :=
  { row with
    plate := assign (payload.plate.join.map (normalizePlate host)) seen.plate row.plate
    status := assign payload.status.join seen.status row.status }

def Revision.write (db : Roster) : Revision → Roster
  | .user seen payload => { db with users := db.users.modify seen.id (payload.write seen) }
  | .driver seen payload => { db with drivers := db.drivers.modify seen.id (payload.write seen) }
  | .vehicle seen payload =>
    { db with vehicles := db.vehicles.modify seen.id (payload.write host seen) }

/-- The columns that take no null are given none. -/
def Revision.notNull : Revision → Bool
  | .user _ payload => payload.email.notNull && payload.role.notNull && payload.isActive.notNull
  | .driver _ payload => payload.status.notNull
  | .vehicle _ payload => payload.plate.notNull && payload.status.notNull

def PlanStore.revise (s : PlanStore) (revision : Revision) : Except Exc Unit × PlanStore :=
  if revision.notNull then s.commit (revision.write host s.db) else (.error .integrityError, s)

def patch (tenantId : UUID) (p : Patch) (s : PlanStore) : Except Exc Unit × PlanStore :=
  match p.read tenantId s.db with
  | .error e => (.error e, s)
  | .ok revision =>
    match revision.vet host tenantId s.db with
    | .error e => (.error e, s)
    | .ok () => s.revise host revision

def patchUser (tenantId userId : UUID) (payload : UserPatch) :=
  patch host tenantId (.user userId payload)

def patchDriver (tenantId driverId : UUID) (payload : DriverPatch) :=
  patch host tenantId (.driver driverId payload)

def patchVehicle (tenantId vehicleId : UUID) (payload : VehiclePatch) :=
  patch host tenantId (.vehicle vehicleId payload)

/-! ## Turns -/

/-- A creation whose tenant is read. -/
structure Draft where
  tenantId : UUID
  creation : Creation
  tenant : Tenant
  /-- Its email, phone or plate is looked for. -/
  vetted : Bool := false

inductive PlanPhase where
  | idle
  | admitted (d : Draft)
  /-- The cache has no count. -/
  | missed (d : Draft)
  /-- The rows are counted, and the count is to be cached. -/
  | counted (d : Draft) (count : Nat)
  /-- The guard has let it pass: on a count, or for want of a limit. -/
  | allowed (d : Draft) (seen : Option Nat)
  | patching (tenantId : UUID) (revision : Revision) (vetted : Bool)
  /-- The route has not yet dropped what is cached. -/
  | committed (tenantId : UUID)

inductive PlanAction where
  | create (tenantId : UUID) (creation : Creation)
  | patch (tenantId : UUID) (p : Patch)
  | vet
  | readCache
  | count
  | writeCache
  | commit
  | invalidate
  | abandon
  | expire (tenantId : UUID)

def Draft.dimension (d : Draft) : PlanDimension := d.creation.dimension

/-- The guard on the count that it has come to. -/
def Draft.decide (d : Draft) (count : Nat) : PlanPhase :=
  match compare host.upgradeUrl d.dimension d.tenant count with
  | .ok () => .allowed d (some count)
  | .error _ => .idle

def Draft.readCache (d : Draft) (s : PlanStore) : PlanPhase :=
  match d.tenant.max d.dimension with
  | none => .allowed d none
  | some _ =>
    match cachedCount d.tenantId d.dimension s with
    | some count => d.decide host count
    | none => .missed d

/-- What comes of a commit. -/
def served (tenantId : UUID) : Except Exc Unit × PlanStore → PlanStore × PlanPhase
  | (.ok (), s) => (s, .committed tenantId)
  | (.error _, s) => (s, .idle)

def planTurn (_ : Nat) (act : PlanAction) (s : PlanStore) (p : PlanPhase) :
    Option (PlanStore × PlanPhase) :=
  match act, p with
  | .create tenantId creation, .idle =>
    match creationTenant tenantId creation s.db with
    | .ok tenant => some (s, .admitted { tenantId, creation, tenant })
    | .error _ => some (s, .idle)
  | .patch tenantId p, .idle =>
    match p.read tenantId s.db with
    | .ok revision => some (s, .patching tenantId revision false)
    | .error _ => some (s, .idle)
  | .vet, .admitted d =>
    if d.creation.vetsFirst && !d.vetted then
      match d.creation.vet host d.tenantId s.db with
      | .ok () => some (s, .admitted { d with vetted := true })
      | .error _ => some (s, .idle)
    else none
  | .vet, .allowed d seen =>
    if d.vetted then none
    else
      match d.creation.vet host d.tenantId s.db with
      | .ok () => some (s, .allowed { d with vetted := true } seen)
      | .error _ => some (s, .idle)
  | .vet, .patching tenantId revision false =>
    match revision.vet host tenantId s.db with
    | .ok () => some (s, .patching tenantId revision true)
    | .error _ => some (s, .idle)
  | .readCache, .admitted d =>
    if d.creation.vetsFirst && !d.vetted then none else some (s, d.readCache host s)
  | .count, .missed d =>
    let count := s.db.count d.tenantId d.dimension
    some (s, if s.redis then .counted d count else d.decide host count)
  | .writeCache, .counted d count =>
    some (s.setCount d.tenantId d.dimension count, d.decide host count)
  | .commit, .allowed d _ =>
    if d.vetted then
      some (served d.tenantId (s.commit (d.creation.insert host d.tenantId s.db)))
    else none
  | .commit, .patching tenantId revision true =>
    some (served tenantId (s.revise host revision))
  | .invalidate, .committed tenantId => some (s.forget tenantId, .idle)
  | .abandon, _ => some (s, .idle)
  | .expire tenantId, p => some (s.forget tenantId, p)
  | _, _ => none

/-! ## Calls that are served alone -/

inductive PlanCall where
  | create (tenantId : UUID) (creation : Creation)
  | patch (tenantId : UUID) (p : Patch)

def PlanCall.turns : PlanCall → List PlanAction
  | .create tenantId creation => [.create tenantId creation, .vet] ++
      ([.readCache, .count, .writeCache] ++ [.vet, .commit]) ++ [.invalidate]
  | .patch tenantId p => [.patch tenantId p, .vet, .commit] ++ [.invalidate]

/-- The answer of the service, and what its route leaves. -/
def routed (tenantId : UUID) : Except Exc Unit × PlanStore → PlanStore
  | (.ok (), s) => s.forget tenantId
  | (.error _, s) => s

def PlanCall.serve (s : PlanStore) : PlanCall → PlanStore
  | .create tenantId creation => routed tenantId (Plans.create host tenantId creation s)
  | .patch tenantId p => routed tenantId (Plans.patch host tenantId p s)

section Alone

variable {host} {i : Nat} {s : PlanStore} {tenantId : UUID}

omit [Locale] in
theorem get_of_creationTenant {creation : Creation} {db : Roster} {tenant : Tenant}
    (h : creationTenant tenantId creation db = .ok tenant) : db.tenants.get tenantId = some tenant := by
  obtain ⟨found, hfound, hrest⟩ := bind_eq_ok.mp h
  obtain ⟨u, -, hrest⟩ := bind_eq_ok.mp hrest
  cases hrest
  rw [requireTenant, require_eq_ok] at hfound
  exact (Option.filter_eq_some_iff.mp hfound).1

omit [Locale] in
theorem checkLimit_eq (creation : Creation) :
    creation.checkLimit host.upgradeUrl = checkLimit host.upgradeUrl creation.dimension := by
  cases creation <;> rfl

theorem checkLimit_of_turns {d : Draft} (hid : d.tenant.id = d.tenantId)
    (hready : (d.creation.vetsFirst && !d.vetted) = false) :
    ∃ seen, alone (planTurn host) i (s, .admitted d) [.readCache, .count, .writeCache] =
      match d.creation.checkLimit host.upgradeUrl d.tenant s with
      | (.error _, s') => (s', .idle)
      | (.ok (), s') => (s', .allowed d seen) := by
  rw [checkLimit_eq, checkLimit, hid]
  simp only [alone_cons, alone_nil, planTurn, hready, Draft.readCache]
  cases hmax : d.tenant.max d.creation.dimension with
  | none => exact ⟨none, by simp [Draft.dimension, hmax]⟩
  | some max =>
    simp only [Draft.dimension, hmax, Draft.decide]
    cases hcached : cachedCount d.tenantId d.creation.dimension s with
    | some count =>
      refine ⟨some count, ?_⟩
      cases hcompare : compare host.upgradeUrl d.creation.dimension d.tenant count <;>
        simp [hcompare]
    | none =>
      refine ⟨some (s.db.count d.tenantId d.creation.dimension), ?_⟩
      cases hredis : s.redis <;>
        cases hcompare : compare host.upgradeUrl d.creation.dimension d.tenant
          (s.db.count d.tenantId d.creation.dimension) <;>
        simp [hredis, hcompare]

theorem create_of_turns (creation : Creation) :
    alone (planTurn host) i (s, .idle) ([.create tenantId creation, .vet] ++
      ([.readCache, .count, .writeCache] ++ [.vet, .commit])) =
        served tenantId (create host tenantId creation s) := by
  rw [create, alone_append, alone_append]
  cases htenant : creationTenant tenantId creation s.db with
  | error e => simp [planTurn, htenant, served]
  | ok tenant =>
    have hid : tenant.id = tenantId := Table.key_of_get (get_of_creationTenant htenant)
    cases hvet : if creation.vetsFirst then creation.vet host tenantId s.db else .ok () with
    | error e =>
      obtain ⟨hfirst, hvet⟩ : creation.vetsFirst = true ∧ creation.vet host tenantId s.db = .error e := by
        split at hvet
        · next hfirst => exact ⟨hfirst, hvet⟩
        · cases hvet
      simp [planTurn, htenant, hfirst, hvet, served]
    | ok u =>
      let d : Draft := { tenantId, creation, tenant, vetted := creation.vetsFirst }
      have hstart : alone (planTurn host) i (s, .idle) [.create tenantId creation, .vet] =
          (s, .admitted d) := by
        cases hfirst : creation.vetsFirst with
        | true =>
          rw [hfirst, if_pos rfl] at hvet
          simp [planTurn, htenant, hfirst, hvet, d]
        | false => simp [planTurn, htenant, hfirst, d]
      obtain ⟨seen, hguard⟩ := @checkLimit_of_turns _ host i s d hid (by simp [d])
      rw [hstart, hguard]
      cases hcheck : creation.checkLimit host.upgradeUrl tenant s with
      | mk r s' =>
        cases r with
        | error e => simp [planTurn, hcheck, served]
        | ok u =>
          cases hfirst : creation.vetsFirst with
          | true => simp [planTurn, hcheck, d, hfirst]
          | false => cases hvet' : creation.vet host tenantId s'.db <;>
              simp [planTurn, hcheck, d, hfirst, hvet', served]

theorem patch_of_turns (p : Patch) :
    alone (planTurn host) i (s, .idle) [.patch tenantId p, .vet, .commit] =
      served tenantId (patch host tenantId p s) := by
  rw [patch]
  cases hread : p.read tenantId s.db with
  | error e => simp [planTurn, hread, served]
  | ok revision =>
    cases hvet : revision.vet host tenantId s.db <;> simp [planTurn, hread, hvet, served]

theorem invalidate_served (r : Except Exc Unit × PlanStore) :
    alone (planTurn host) i (served tenantId r) [.invalidate] = (routed tenantId r, .idle) := by
  obtain ⟨e | u, s⟩ := r <;> rfl

/-- Calls of any parties, one after the other, do what their services do. -/
theorem calls_of_turns (calls : List (Nat × PlanCall)) :
    ∀ s : PlanStore, Run.exec (move (planTurn host)) ⟨s, fun _ => .idle⟩
        (calls.flatMap fun c => c.2.turns.map (c.1, ·)) =
      ⟨Run.exec (fun s c => c.2.serve host s) s calls, fun _ => .idle⟩ := by
  induction calls with
  | nil => exact fun _ => rfl
  | cons c calls ih =>
    intro s
    have hcall : alone (planTurn host) c.1 (s, .idle) c.2.turns = (c.2.serve host s, .idle) := by
      cases c.2 with
      | create tenantId creation =>
        rw [PlanCall.turns, alone_append, create_of_turns, invalidate_served]
        rfl
      | patch tenantId p =>
        rw [PlanCall.turns, alone_append, patch_of_turns, invalidate_served]
        rfl
    rw [List.flatMap_cons, Run.exec_append, exec_alone, hcall, Function.update_eq_self, ih]
    rfl

end Alone

end Calls

end Plans
end Rotas
