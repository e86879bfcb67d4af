import Rotas.Core.Text
import Rotas.Data
import Mathlib.Data.Finset.Sort

/-!
# Rotas.Auth.Tokens

Users, drivers and what they sign in with; the access token and the principal that is read from it.

* `rolePermissions`     — the permissions of the standard roles.
* `createAccessToken`   — the claims of an access token, signed.
* `getCurrentPrincipal` — the principal of a request. It reads the tenant and the user, or the
  driver and the device, as they are now.
* `Principal.hasAnyPermission` — the explicit permissions if there are any, else those of the role.
* `Jwt` — the signature: claims to text and back, while they last.
-/

namespace Rotas

/-! ## Tables -/

structure TenantRole where
  id : UUID
  tenantId : UUID
  name : String
  slug : String
  permissions : List String := []
  isSystem : Bool := false
  createdBy : Option UUID := none

structure User where
  id : UUID
  tenantId : UUID
  email : String
  passwordHash : String
  fullName : String
  phone : Option String := none
  role : String := "viewer"
  isActive : Bool := true
  mfaEnabled : Bool := false
  mfaSecret : Option String := none
  mfaConfirmedAt : Option Instant := none
  lastLoginAt : Option Instant := none
  customRoleId : Option UUID := none

structure DriverDevice where
  id : UUID
  tenantId : UUID
  driverId : UUID
  deviceId : String
  deviceName : Option String := none
  lastSeenAt : Option Instant := none
  isActive : Bool := true

structure DriverSession where
  id : UUID
  tenantId : UUID
  driverId : UUID
  deviceId : String
  tokenHash : String
  expiresAt : Instant
  revokedAt : Option Instant := none

structure RefreshToken where
  id : UUID
  tenantId : UUID
  userId : UUID
  tokenHash : String
  expiresAt : Instant
  revokedAt : Option Instant := none
  createdByIp : Option String := none
  userAgent : Option String := none

structure PasswordResetToken where
  id : UUID
  tenantId : UUID
  userId : UUID
  tokenHash : String
  expiresAt : Instant
  consumedAt : Option Instant := none
  createdByIp : Option String := none
  userAgent : Option String := none

structure MfaChallenge where
  id : UUID
  tenantId : UUID
  userId : UUID
  tokenHash : String
  expiresAt : Instant
  consumedAt : Option Instant := none
  createdByIp : Option String := none
  userAgent : Option String := none

instance : Keyed TenantRole := ⟨TenantRole.id⟩
instance : Keyed User := ⟨User.id⟩
instance : Keyed DriverDevice := ⟨DriverDevice.id⟩
instance : Keyed DriverSession := ⟨DriverSession.id⟩
instance : Keyed RefreshToken := ⟨RefreshToken.id⟩
instance : Keyed PasswordResetToken := ⟨PasswordResetToken.id⟩
instance : Keyed MfaChallenge := ⟨MfaChallenge.id⟩

/-- The tables that authentication reads and writes. -/
structure AuthDb where
  tenants : Table Tenant := ∅
  tenantRoles : Table TenantRole := ∅
  users : Table User := ∅
  drivers : Table Driver := ∅
  driverDevices : Table DriverDevice := ∅
  driverSessions : Table DriverSession := ∅
  refreshTokens : Table RefreshToken := ∅
  passwordResetTokens : Table PasswordResetToken := ∅
  mfaChallenges : Table MfaChallenge := ∅

/-- The unique constraints of the emails, the slugs, the pairing codes and the hashes. -/
def AuthDb.ok (db : AuthDb) : Bool :=
  decide ((db.tenants.rows.map Tenant.slug).Nodup) &&
    decide ((db.users.rows.map fun u => (u.tenantId, u.email)).Nodup) &&
    decide ((db.drivers.rows.filterMap Driver.pairingCodeHash).Nodup) &&
    decide ((db.passwordResetTokens.rows.map PasswordResetToken.tokenHash).Nodup) &&
    decide ((db.mfaChallenges.rows.map MfaChallenge.tokenHash).Nodup)

instance : Store AuthDb Exc := ⟨AuthDb.ok, .integrityError⟩

/-! ## Roles -/

/-- `ROLE_PERMISSIONS`. -/
def roleTable : List (String × List String) := [
  ("owner", ["fleet.read", "fleet.write", "drivers.read", "drivers.write", "drivers.pairing",
    "trips.read", "trips.dispatch", "trips.close", "cargo.write", "cargo.validate_delivery",
    "billing.read", "billing.write", "billing.issue", "billing.void_payment", "fuel.read",
    "fuel.write", "fuel.approve_adjustment", "workshop.read", "workshop.write",
    "workshop.release_vehicle", "admin.users", "admin.tenant", "audit.read", "hr.read", "hr.write",
    "hr.salary.view", "hr.payroll.generate", "hr.payroll.approve", "accounting.read",
    "accounting.post", "accounting.reverse", "payables.read", "payables.write", "payables.approve",
    "payables.pay", "inventory.read", "inventory.write", "inventory.adjust"]),
  ("admin", ["fleet.read", "fleet.write", "drivers.read", "drivers.write", "drivers.pairing",
    "trips.read", "trips.dispatch", "trips.close", "cargo.write", "cargo.validate_delivery",
    "billing.read", "billing.write", "billing.issue", "billing.void_payment", "fuel.read",
    "fuel.write", "fuel.approve_adjustment", "workshop.read", "workshop.write",
    "workshop.release_vehicle", "admin.users", "audit.read", "hr.read", "hr.write",
    "hr.salary.view", "hr.payroll.generate", "accounting.read", "accounting.post", "payables.read",
    "payables.write", "payables.approve", "payables.pay", "inventory.read", "inventory.write",
    "inventory.adjust"]),
  ("manager", ["fleet.read", "fleet.write", "drivers.read", "drivers.write", "trips.read",
    "trips.dispatch", "trips.close", "cargo.write", "cargo.validate_delivery", "billing.read",
    "billing.write", "billing.issue", "fuel.read", "fuel.write", "workshop.read", "workshop.write",
    "hr.read", "hr.write", "hr.payroll.generate", "accounting.read", "accounting.post",
    "payables.read", "payables.write", "payables.pay", "inventory.read", "inventory.write"]),
  ("viewer", ["fleet.read", "drivers.read", "trips.read", "billing.read", "fuel.read",
    "workshop.read", "hr.read", "accounting.read", "payables.read", "inventory.read"]),
  ("receptionist", ["fleet.read", "drivers.read", "billing.read", "workshop.read",
    "workshop.write", "workshop.release_vehicle", "workshop.reception", "workshop.quote"]),
  ("mechanic", ["fleet.read", "drivers.read", "trips.read", "fuel.read", "workshop.read",
    "workshop.write"])]

/-- `ROLE_PERMISSIONS.get(role, frozenset())`. -/
def rolePermissions (role : String) : Finset String :=
  (((roleTable.find? (·.1 = role)).map (·.2)).getD []).toFinset

/-! ## Access tokens -/

structure AuthSettings where
  environment : String
  devTestToken : String := ""
  accessTokenMinutes : Int := 15
  refreshTokenDays : Int := 30

/-- The claims of a token; a claim that may be left out or null is optional. -/
structure Claims where
  sub : String
  typ : String
  scope : String
  role : Option String := none
  deviceId : Option String := none
  iat : Instant
  exp : Instant
  jti : UUID
  tenantId : Option UUID := none
  userId : Option UUID := none
  driverId : Option UUID := none
  platformUserId : Option UUID := none
  perms : Option (List String) := none
  deriving DecidableEq

class Jwt where
  /-- The signed token. -/
  encode : Claims → String
  /-- The claims of a token at a time; none where it is not signed with our key, or is over. -/
  decode : Instant → String → Option Claims
  /-- `str(id)`. -/
  str : UUID → String

/-- What `create_access_token` is called with. -/
structure AccessRequest where
  tenantId : Option UUID
  scope : String
  userId : Option UUID := none
  driverId : Option UUID := none
  role : Option String := none
  deviceId : Option String := none
  permissions : Option (Finset String) := none
  platformUserId : Option UUID := none

section AccessTokens

variable [Jwt]

/-- Whom the token is about: the user or driver, a user of the platform, or the platform. -/
def AccessRequest.subject (r : AccessRequest) : String :=
  r.scope ++ ":" ++ match r.userId.or r.driverId, r.platformUserId with
    | some id, _ => Jwt.str id
    | none, some id => Jwt.str id
    | none, none => "platform"

/-- The claims of an access token. An empty set of permissions is a claim too. -/
def accessClaims (S : AuthSettings) (now : Instant) (jti : UUID) (r : AccessRequest) : Claims where
  sub := r.subject
  typ := "access"
  scope := r.scope
  role := r.role
  deviceId := r.deviceId
  iat := now
  exp := now + S.accessTokenMinutes * 60
  jti
  tenantId := r.tenantId
  userId := r.userId
  driverId := r.driverId
  platformUserId := r.platformUserId
  perms := r.permissions.map Finset.sort

/-- The token, and the seconds it lasts. -/
def createAccessToken (S : AuthSettings) (now : Instant) (jti : UUID) (r : AccessRequest) :
    String × Int := (Jwt.encode (accessClaims S now jti r), S.accessTokenMinutes * 60)

end AccessTokens

/-! ## The principal of a request -/

structure Principal where
  subject : String
  tenantId : Option UUID
  scope : String
  role : Option String := none
  userId : Option UUID := none
  driverId : Option UUID := none
  deviceId : Option String := none
  permissions : Option (Finset String) := none

/-- The permissions that count: the explicit ones if there are any, else those of the role. -/
def Principal.effective (p : Principal) : Finset String :=
  p.permissions.getD (rolePermissions (p.role.getD ""))

def Principal.hasAnyPermission (p : Principal) (required : Finset String) : Bool :=
  decide ((p.effective ∩ required).Nonempty)

def unauthorized (code message : String) : Exc := .api { code, message, statusCode := 401 }

/-- What follows `Bearer `, however that is written. -/
def bearerToken (authorization : String) : Option String :=
  let cs := authorization.toList
  if (cs.take 7).map Char.toLower = "bearer ".toList then some (.ofList (cs.drop 7)) else none

/-- The token of the settings that stands for an administrator while the system is developed. -/
def AuthSettings.isDevToken (S : AuthSettings) (token : String) : Bool :=
  S.devTestToken ≠ "" && token = S.devTestToken &&
    (S.environment = "development" || S.environment = "test")

def developmentPrincipal (xTenantId : Option UUID) : Except Exc Principal := do
  let tenantId ← require xTenantId
    (unauthorized "tenant_required" "Tenant context is required for the development token.")
  return { subject := "development:user", tenantId := some tenantId, scope := "dashboard"
           role := some "admin" }

def invalidToken : Exc :=
  unauthorized "invalid_token" "Authentication token is invalid or expired."

/-- The access claims of a token, and the tenant that they name. -/
def requireClaims [Jwt] (now : Instant) (token : String) (xTenantId : Option UUID) :
    Except Exc (Claims × UUID) := do
  let claims ← require (Jwt.decode now token) invalidToken
  raiseIf (claims.typ ≠ "access") invalidToken
  let tenantId ← require claims.tenantId invalidToken
  raiseIf (xTenantId.any (· ≠ tenantId)) (.api {
    code := "tenant_mismatch", statusCode := 403
    message := "Tenant header does not match the authenticated tenant." })
  return (claims, tenantId)

def AuthDb.device (db : AuthDb) (tenantId driverId : UUID) (deviceId : String) :
    Option DriverDevice :=
  db.driverDevices.rows.find? fun d =>
    d.tenantId = tenantId && d.driverId = driverId && d.deviceId = deviceId

/-- The user of a token, now. -/
def requireTokenUser (db : AuthDb) (tenantId userId : UUID) : Except Exc Unit := do
  let e := unauthorized "user_inactive" "User is inactive."
  let user ← require (db.users.get userId) e
  raiseIf (user.tenantId ≠ tenantId || !user.isActive) e

/-- The driver and the device of a token, now. -/
def requireTokenDriver (db : AuthDb) (tenantId driverId : UUID) (deviceId : String) :
    Except Exc Unit := do
  let driver ← require ((db.drivers.get driverId).filter fun d => d.tenantId = tenantId)
    (unauthorized "driver_inactive" "Driver not found.")
  let device ← require (db.device tenantId driverId deviceId)
    (unauthorized "driver_inactive" "Driver device not found.")
  raiseIf (!device.isActive)
    (unauthorized "driver_access_revoked" "Driver access has been revoked by the manager.")
  raiseIf (driver.status ≠ "active") (unauthorized "driver_inactive" "Driver is inactive.")

/-- Whoever holds the token, as its scope says. -/
def requireHolder (db : AuthDb) (tenantId : UUID) (claims : Claims) : Except Exc Unit :=
  match claims.scope, claims.userId, claims.driverId, truthy claims.deviceId with
  | "dashboard", some userId, _, _ => requireTokenUser db tenantId userId
  | "driver_app", _, some driverId, some deviceId => requireTokenDriver db tenantId driverId deviceId
  | _, _, _, _ => .error (unauthorized "invalid_token_scope" "Authentication scope is invalid.")

def tokenPrincipal [Jwt] (db : AuthDb) (now : Instant) (token : String)
    (xTenantId : Option UUID) : Except Exc Principal := do
  let (claims, tenantId) ← requireClaims now token xTenantId
  -- An empty list of permissions counts as none.
  let permissions := (claims.perms.filter (· ≠ [])).map List.toFinset
  let _ ← require ((db.tenants.get tenantId).filter Tenant.isActive)
    (unauthorized "tenant_inactive" "Tenant is inactive.")
  requireHolder db tenantId claims
  return { subject := claims.sub, tenantId := some tenantId, scope := claims.scope
           role := claims.role, userId := claims.userId, driverId := claims.driverId
           deviceId := claims.deviceId, permissions }

def getCurrentPrincipal [Jwt] (S : AuthSettings) (db : AuthDb) (now : Instant)
    (authorization : Option String) (xTenantId : Option UUID := none) : Except Exc Principal := do
  let token ← require (authorization.bind bearerToken)
    (unauthorized "unauthorized" "Authentication token is required.")
  if S.isDevToken token then developmentPrincipal xTenantId
  else tokenPrincipal db now token xTenantId

@[simp] theorem bearerToken_bearer (token : String) :
    bearerToken ("Bearer " ++ token) = some token := by
  have hcs : ("Bearer " ++ token).toList = ['B', 'e', 'a', 'r', 'e', 'r', ' '] ++ token.toList := by
    rw [String.toList_append]; rfl
  have htake : (['B', 'e', 'a', 'r', 'e', 'r', ' '] ++ token.toList).take 7 =
      ['B', 'e', 'a', 'r', 'e', 'r', ' '] := List.take_left' rfl
  have hdrop : (['B', 'e', 'a', 'r', 'e', 'r', ' '] ++ token.toList).drop 7 = token.toList :=
    List.drop_left' rfl
  simp only [bearerToken, hcs, htake, hdrop]
  rw [if_pos (by decide), String.ofList_toList]

end Rotas
