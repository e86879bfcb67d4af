import Rotas.Auth.Tokens

/-!
# Rotas.Auth.Service

Signing in and out, and who may: users with a password and a second factor, drivers with a paired
device. Each call checks first and writes last. The requests are those that the validators let
through.

* `login`, `verifyMfaChallenge`, `refresh`, `logout`, `revokeSession` — the tokens of a user.
* `requestPasswordReset`, `completePasswordReset` — a new password.
* `issuePairingCode`, `pairDriverDevice` — the tokens of a driver.
* `patchUser`, `patchDriver`, `suspendTenant`, `reactivateTenant` — who may sign in.
* `Hashing` — passwords, tokens and codes of the second factor.
-/

namespace Rotas

class Hashing where
  hashToken : String → String
  /-- Of a salt and a password. -/
  hashPassword : String → String → String
  /-- Whether a password fits what is stored of it. -/
  verifyPassword : String → String → Bool
  /-- Of a secret and a code, at a time. -/
  verifyTotpCode : Instant → String → String → Bool

/-- What a call draws at random. -/
structure Draws where
  token : String
  jti : UUID
  salt : String := ""

structure Caller where
  ipAddress : Option String := none
  userAgent : Option String := none

structure UserPayload where
  id : UUID
  tenantId : UUID
  role : String
  fullName : String

structure DriverPayload where
  id : UUID
  tenantId : UUID
  fullName : String

/-- The tokens of a user or of a driver. -/
structure TokenResponse (α : Type) where
  accessToken : String
  refreshToken : String
  tokenType : String := "bearer"
  expiresIn : Int
  holder : α

/-! ## Tokens of a user -/

/-- The permissions of a user: those of a custom role of the same tenant, else of the role. -/
def loadUserPermissions (db : AuthDb) (user : User) : Finset String :=
  match user.customRoleId.bind db.tenantRoles.get with
  | none => rolePermissions user.role
  | some role =>
    if role.tenantId ≠ user.tenantId then rolePermissions user.role else role.permissions.toFinset

/-- The access token that is asked for a user. -/
def userAccess (db : AuthDb) (user : User) : AccessRequest :=
  { tenantId := some user.tenantId, userId := some user.id, scope := "dashboard"
    role := some user.role, permissions := some (loadUserPermissions db user) }

section Services

variable [Hashing] [Jwt] (S : AuthSettings) (now : Instant) (draws : Draws) (caller : Caller)

def AuthDb.addRefreshToken (user : User) (db : AuthDb) : AuthDb :=
  { db with
    refreshTokens := db.refreshTokens.insert fun id =>
      { id, tenantId := user.tenantId, userId := user.id
        tokenHash := Hashing.hashToken draws.token
        expiresAt := now + S.refreshTokenDays * 86400
        createdByIp := caller.ipAddress, userAgent := caller.userAgent } }

def createUserTokens (user : User) (db : AuthDb) : TokenResponse UserPayload × AuthDb :=
  let (accessToken, expiresIn) := createAccessToken S now draws.jti (userAccess db user)
  ({ accessToken, refreshToken := draws.token, expiresIn
     holder := { id := user.id, tenantId := user.tenantId, role := user.role
                 fullName := user.fullName } },
    db.addRefreshToken S now draws caller user)

/-- The second factor that is asked of a user. -/
structure MfaRequired where
  mfaChallenge : String
  expiresIn : Int := 300

def User.usesMfa (user : User) : Bool := user.mfaEnabled && (truthy user.mfaSecret).isSome

def AuthDb.addChallenge (user : User) (db : AuthDb) : AuthDb :=
  { db with
    mfaChallenges := db.mfaChallenges.insert fun id =>
      { id, tenantId := user.tenantId, userId := user.id
        tokenHash := Hashing.hashToken draws.token, expiresAt := now + 5 * 60
        createdByIp := caller.ipAddress, userAgent := caller.userAgent } }

def AuthDb.touchLogin (userId : UUID) (db : AuthDb) : AuthDb :=
  { db with users := db.users.modify userId fun u => { u with lastLoginAt := some now } }

/-- The active users of an email, in active tenants; a slug selects the tenant. -/
def AuthDb.activeUsers (db : AuthDb) (email : String) (tenantSlug : Option String) : List User :=
  db.users.rows.filter fun u => u.email = email && u.isActive &&
    (db.tenants.get u.tenantId).any fun t => t.isActive && (truthy tenantSlug).all (· = t.slug)

structure LoginRequest where
  email : String
  password : String
  tenantSlug : Option String := none

def invalidCredentials : Exc := unauthorized "invalid_credentials" "Invalid credentials."

/-- The one user whom the email and the password fit. -/
def requireLogin [Locale] (payload : LoginRequest) (db : AuthDb) : Except Exc User :=
  match db.activeUsers (Locale.lower (strip payload.email)) payload.tenantSlug with
  | [user] =>
    if Hashing.verifyPassword payload.password user.passwordHash then .ok user
    else .error invalidCredentials
  | _ => .error invalidCredentials

def login [Locale] (payload : LoginRequest) (db : AuthDb) :
    Except Exc ((MfaRequired ⊕ TokenResponse UserPayload) × AuthDb) := do
  let user ← requireLogin payload db
  let db := db.touchLogin now user.id
  if user.usesMfa then
    return (.inl { mfaChallenge := draws.token }, db.addChallenge now draws caller user)
  else
    let (response, db) := createUserTokens S now draws caller user db
    return (.inr response, db)

/-! ## Refresh -/

def AuthDb.refreshToken (db : AuthDb) (token : String) : Option RefreshToken :=
  db.refreshTokens.rows.find? fun t => t.tokenHash = Hashing.hashToken token

def AuthDb.driverSession (db : AuthDb) (token : String) : Option DriverSession :=
  db.driverSessions.rows.find? fun s => s.tokenHash = Hashing.hashToken token

def invalidRefreshToken : Exc :=
  unauthorized "invalid_refresh_token" "Refresh token is invalid."

/-- A token that is neither revoked nor over. -/
def checkUnspent (revokedAt : Option Instant) (expiresAt : Instant) : Except Exc Unit :=
  raiseIf (revokedAt.isSome || expiresAt ≤ now) invalidRefreshToken

/-- The user of a credential, if the user and the tenant are active. -/
def requireActiveUser (e : Exc) (userId tenantId : UUID) (db : AuthDb) : Except Exc User := do
  let user ← require (db.users.get userId) e
  let tenant ← require (db.tenants.get tenantId) e
  raiseIf (!user.isActive || !tenant.isActive) e
  return user

def requireRefreshUser (t : RefreshToken) (db : AuthDb) : Except Exc User := do
  checkUnspent now t.revokedAt t.expiresAt
  requireActiveUser invalidRefreshToken t.userId t.tenantId db

/-- Neither the tenant nor the device is looked at. -/
def requireRefreshDriver (s : DriverSession) (db : AuthDb) : Except Exc Driver := do
  checkUnspent now s.revokedAt s.expiresAt
  let driver ← require (db.drivers.get s.driverId) invalidRefreshToken
  raiseIf (driver.status ≠ "active") invalidRefreshToken
  return driver

def AuthDb.revokeToken (id : UUID) (db : AuthDb) : AuthDb :=
  { db with refreshTokens := db.refreshTokens.modify id fun t => { t with revokedAt := some now } }

def AuthDb.revokeDriverSession (id : UUID) (db : AuthDb) : AuthDb :=
  { db with
    driverSessions := db.driverSessions.modify id fun s => { s with revokedAt := some now } }

def AuthDb.addDriverSession (driver : Driver) (deviceId : String) (db : AuthDb) : AuthDb :=
  { db with
    driverSessions := db.driverSessions.insert fun id =>
      { id, tenantId := driver.tenantId, driverId := driver.id, deviceId
        tokenHash := Hashing.hashToken draws.token
        expiresAt := now + S.refreshTokenDays * 86400 } }

def createDriverTokens (driver : Driver) (deviceId : String) (db : AuthDb) :
    TokenResponse DriverPayload × AuthDb :=
  let (accessToken, expiresIn) := createAccessToken S now draws.jti
    { tenantId := some driver.tenantId, driverId := some driver.id, deviceId := some deviceId
      scope := "driver_app" }
  ({ accessToken, refreshToken := draws.token, expiresIn
     holder := { id := driver.id, tenantId := driver.tenantId, fullName := driver.fullName } },
    db.addDriverSession S now draws driver deviceId)

/-- The new tokens for one of a user. -/
def refreshUser (t : RefreshToken) (db : AuthDb) :
    Except Exc (TokenResponse UserPayload × AuthDb) := do
  let user ← requireRefreshUser now t db
  return createUserTokens S now draws caller user (db.revokeToken now t.id)

/-- The new tokens for one of a driver. -/
def refreshDriver (s : DriverSession) (db : AuthDb) :
    Except Exc (TokenResponse DriverPayload × AuthDb) := do
  let driver ← requireRefreshDriver now s db
  return createDriverTokens S now draws driver s.deviceId (db.revokeDriverSession now s.id)

/-- A token of a user is looked for first, then one of a driver. -/
def refresh (token : String) (db : AuthDb) :
    Except Exc ((TokenResponse UserPayload ⊕ TokenResponse DriverPayload) × AuthDb) :=
  match db.refreshToken token with
  | some t => (refreshUser S now draws caller t db).map fun r => (.inl r.1, r.2)
  | none =>
    match db.driverSession token with
    | some s => (refreshDriver S now draws s db).map fun r => (.inr r.1, r.2)
    | none => .error invalidRefreshToken

/-! ## The second factor -/

def invalidMfaCode : Exc := unauthorized "invalid_mfa_code" "MFA code is invalid."

/-- The challenge of a token, if it is not consumed. -/
def AuthDb.challenge (db : AuthDb) (token : String) : Option MfaChallenge :=
  db.mfaChallenges.rows.find? fun c =>
    c.tokenHash = Hashing.hashToken token && c.consumedAt.isNone

def requireChallenge (token : String) (db : AuthDb) : Except Exc MfaChallenge := do
  let e := unauthorized "invalid_mfa_challenge" "MFA challenge is invalid or expired."
  let challenge ← require (db.challenge token) e
  raiseIf (challenge.expiresAt ≤ now) e
  return challenge

/-- The user of a challenge, if the code is theirs. -/
def requireMfaUser (code : String) (challenge : MfaChallenge) (db : AuthDb) : Except Exc User := do
  let user ← requireActiveUser invalidMfaCode challenge.userId challenge.tenantId db
  raiseIf (!user.mfaEnabled) invalidMfaCode
  let secret ← require (truthy user.mfaSecret) invalidMfaCode
  raiseIf (!Hashing.verifyTotpCode now secret code) invalidMfaCode
  return user

def AuthDb.consumeChallenge (id : UUID) (db : AuthDb) : AuthDb :=
  { db with
    mfaChallenges := db.mfaChallenges.modify id fun c => { c with consumedAt := some now } }

def verifyMfaChallenge (challengeToken code : String) (db : AuthDb) :
    Except Exc (TokenResponse UserPayload × AuthDb) := do
  let challenge ← requireChallenge now challengeToken db
  let user ← requireMfaUser now code challenge db
  return createUserTokens S now draws caller user
    ((db.consumeChallenge now challenge.id).touchLogin now user.id)

def requireUser (tenantId userId : UUID) (db : AuthDb) : Except Exc User :=
  require ((db.users.get userId).filter fun u => u.tenantId = tenantId)
    (notFound "user_not_found" "User not found.")

def AuthDb.setMfa (userId : UUID) (mfaEnabled : Bool) (mfaSecret : Option String)
    (mfaConfirmedAt : Option Instant) (db : AuthDb) : AuthDb :=
  { db with
    users := db.users.modify userId fun u => { u with mfaEnabled, mfaSecret, mfaConfirmedAt } }

/-- A new secret, unless the second factor is in use; the answer says whether it is. -/
def setupMfa (tenantId userId : UUID) (secret : String) (db : AuthDb) :
    Except Exc (Bool × AuthDb) := do
  let user ← requireUser tenantId userId db
  return if user.usesMfa then (true, db) else (false, db.setMfa userId false (some secret) none)

def confirmMfa (tenantId userId : UUID) (code : String) (db : AuthDb) :
    Except Exc (Bool × AuthDb) := do
  let e : Exc := .api { code := "mfa_not_configured", message := "MFA is not configured." }
  let user ← require ((db.users.get userId).filter fun u => u.tenantId = tenantId) e
  let secret ← require (truthy user.mfaSecret) e
  raiseIf (!Hashing.verifyTotpCode now secret code) invalidMfaCode
  return (true, db.setMfa userId true user.mfaSecret (some now))

def disableMfa (tenantId userId : UUID) (code : String) (db : AuthDb) :
    Except Exc (Bool × AuthDb) := do
  let user ← requireUser tenantId userId db
  raiseIf (user.usesMfa && !Hashing.verifyTotpCode now (user.mfaSecret.getD "") code)
    invalidMfaCode
  return (false, if user.usesMfa then db.setMfa userId false none none else db)

/-! ## Signing out -/

/-- The token of a user or of a driver is revoked, if it is not revoked yet. -/
def logout (token : Option String) (db : AuthDb) : AuthDb :=
  match truthy token with
  | none => db
  | some token =>
    match db.refreshToken token with
    | some t => if t.revokedAt.isSome then db else db.revokeToken now t.id
    | none =>
      match db.driverSession token with
      | some s => if s.revokedAt.isSome then db else db.revokeDriverSession now s.id
      | none => db

def revokeSession (tenantId actorUserId : UUID) (actorRole : Option String) (sessionId : UUID)
    (db : AuthDb) : Except Exc (Bool × AuthDb) := do
  let token ← require ((db.refreshTokens.get sessionId).filter fun t => t.tenantId = tenantId)
    (notFound "session_not_found" "Session not found.")
  raiseIf (token.userId ≠ actorUserId && actorRole ≠ some "owner" && actorRole ≠ some "admin")
    (.api { code := "forbidden", message := "Insufficient permissions for this operation."
            statusCode := 403 })
  return (true, if token.revokedAt.isSome then db else db.revokeToken now token.id)

/-! ## A new password -/

/-- The earlier tokens of the user are used up. -/
def AuthDb.addResetToken (user : User) (db : AuthDb) : AuthDb :=
  { db with
    passwordResetTokens :=
      (db.passwordResetTokens.modifyAll (fun t => t.userId = user.id && t.consumedAt.isNone)
        fun t => { t with consumedAt := some now }).insert fun id =>
      { id, tenantId := user.tenantId, userId := user.id
        tokenHash := Hashing.hashToken draws.token, expiresAt := now + 30 * 60
        createdByIp := caller.ipAddress, userAgent := caller.userAgent } }

/-- Without exactly one user nothing is done, and the answer is the same. -/
def requestPasswordReset (email : String) (tenantSlug : Option String) (db : AuthDb) : AuthDb :=
  match db.activeUsers email tenantSlug with
  | [user] => db.addResetToken now draws caller user
  | _ => db

def invalidResetToken : Exc :=
  unauthorized "invalid_reset_token" "Reset token is invalid or expired."

/-- The reset token, if it is not consumed. -/
def AuthDb.resetToken (db : AuthDb) (token : String) : Option PasswordResetToken :=
  db.passwordResetTokens.rows.find? fun t =>
    t.tokenHash = Hashing.hashToken token && t.consumedAt.isNone

def requireResetToken (token : String) (db : AuthDb) : Except Exc PasswordResetToken := do
  let resetToken ← require (db.resetToken token) invalidResetToken
  raiseIf (resetToken.expiresAt ≤ now) invalidResetToken
  return resetToken

def AuthDb.setPassword (userId : UUID) (password : String) (db : AuthDb) : AuthDb :=
  { db with
    users := db.users.modify userId fun u =>
      { u with passwordHash := Hashing.hashPassword draws.salt password } }

def AuthDb.consumeResetToken (id : UUID) (db : AuthDb) : AuthDb :=
  { db with
    passwordResetTokens := db.passwordResetTokens.modify id fun t =>
      { t with consumedAt := some now } }

/-- A token of the user that is not revoked. -/
def RefreshToken.isOpen (userId : UUID) (t : RefreshToken) : Bool :=
  t.userId = userId && t.revokedAt.isNone

/-- The driver has the email or the phone number of the user. -/
def User.isDriver [Locale] (user : User) (d : Driver) : Bool :=
  d.tenantId = user.tenantId &&
    ((d.email.any fun email => Locale.sqlLower email = Locale.lower (strip user.email)) ||
      (truthy user.phone).any fun phone => d.phone = some phone)

/-- A session, not revoked, of a driver whom the user is. -/
def AuthDb.openSession [Locale] (db : AuthDb) (user : User) (s : DriverSession) : Bool :=
  s.tenantId = user.tenantId && (db.drivers.get s.driverId).any user.isDriver &&
    s.revokedAt.isNone

def AuthDb.revokeOpen [Locale] (user : User) (db : AuthDb) : AuthDb :=
  { db with
    refreshTokens := db.refreshTokens.modifyAll (RefreshToken.isOpen user.id) fun t =>
      { t with revokedAt := some now }
    driverSessions := db.driverSessions.modifyAll (db.openSession user) fun s =>
      { s with revokedAt := some now } }

def completePasswordReset [Locale] (token newPassword : String) (db : AuthDb) :
    Except Exc (Unit × AuthDb) := do
  let resetToken ← requireResetToken now token db
  let user ← requireActiveUser invalidResetToken resetToken.userId resetToken.tenantId db
  return ((), ((db.setPassword draws user.id newPassword).consumeResetToken now
    resetToken.id).revokeOpen now user)

/-! ## Drivers and their devices -/

def requireDriver (tenantId driverId : UUID) (db : AuthDb) : Except Exc Driver :=
  require ((db.drivers.get driverId).filter fun d => d.tenantId = tenantId)
    (notFound "driver_not_found" "Driver not found.")

def AuthDb.setPairingCode (driverId : UUID) (hash : Option String) (expiresAt : Option Instant)
    (db : AuthDb) : AuthDb :=
  { db with
    drivers := db.drivers.modify driverId fun d =>
      { d with pairingCodeHash := hash, pairingCodeExpiresAt := expiresAt } }

/-- The code is drawn from six digits. -/
def issuePairingCode (tenantId driverId : UUID) (code : String) (db : AuthDb) :
    Except Exc (String × AuthDb) := do
  let driver ← requireDriver tenantId driverId db
  raiseIf (driver.status ≠ "active")
    (conflict "driver_inactive" "Driver must be active to pair a device.")
  return (code, db.setPairingCode driverId (some (Hashing.hashToken code)) (some (now + 15 * 60)))

structure DriverPairRequest where
  pairingCode : String
  deviceId : String
  deviceName : Option String := none

def requirePairing (pairingCode : String) (db : AuthDb) : Except Exc Driver :=
  require (db.drivers.rows.find? fun d => d.pairingCodeHash = some (Hashing.hashToken pairingCode) &&
      d.pairingCodeExpiresAt.any (now < ·) && d.status = "active")
    (unauthorized "invalid_pairing_code" "Pairing code is invalid or expired.")

/-- The device that was looked up is active from now on; a new one is added. -/
def AuthDb.placeDevice (driver : Driver) (payload : DriverPairRequest)
    (device : Option DriverDevice) (db : AuthDb) : AuthDb :=
  match device with
  | some device =>
    { db with
      driverDevices := db.driverDevices.modify device.id fun d =>
        { d with deviceName := payload.deviceName, lastSeenAt := some now, isActive := true } }
  | none =>
    { db with
      driverDevices := db.driverDevices.insert fun id =>
        { id, tenantId := driver.tenantId, driverId := driver.id, deviceId := payload.deviceId
          deviceName := payload.deviceName, lastSeenAt := some now } }

/-- The device of the driver is active from now on. -/
def AuthDb.pairDevice (driver : Driver) (payload : DriverPairRequest) (db : AuthDb) : AuthDb :=
  db.placeDevice now driver payload (db.device driver.tenantId driver.id payload.deviceId)

def pairDriverDevice (payload : DriverPairRequest) (db : AuthDb) :
    Except Exc (TokenResponse DriverPayload × AuthDb) := do
  let driver ← requirePairing now payload.pairingCode db
  return createDriverTokens S now draws driver payload.deviceId
    ((db.pairDevice now driver payload).setPairingCode driver.id none none)

end Services

/-! ## Who may sign in -/

/-- The fields of a patch that are set. -/
structure UserPatch where
  email : Option String := none
  fullName : Option String := none
  phone : Option (Option String) := none
  role : Option String := none
  isActive : Option Bool := none

def userRoles : List String := ["admin", "manager", "owner", "viewer"]

def UserPatch.apply [Locale] (payload : UserPatch) (u : User) : User :=
  { u with
    email := (payload.email.map fun email => Locale.lower (strip email)).getD u.email
    fullName := payload.fullName.getD u.fullName
    phone := payload.phone.getD u.phone
    role := payload.role.getD u.role
    isActive := payload.isActive.getD u.isActive }

def patchUser [Locale] (tenantId userId : UUID) (payload : UserPatch) (db : AuthDb) :
    Except Exc (UUID × AuthDb) := do
  let user ← requireUser tenantId userId db
  let email := Locale.lower (strip (payload.email.getD ""))
  let taken := db.users.rows.any fun u => u.tenantId = tenantId && u.email = email && u.id ≠ user.id
  raiseIf (payload.email.isSome && taken) (conflict "user_email_conflict"
    "User email already exists for this tenant." [("email", .text email)])
  raiseIf (payload.role.any (· ∉ userRoles)) (unprocessable "invalid_user_role"
    "User role is not supported." [("allowed_roles", .texts userRoles)])
  return (userId, { db with users := db.users.modify userId payload.apply })

/-- The fields of a patch that are set. -/
structure DriverPatch where
  fullName : Option String := none
  phone : Option (Option String) := none
  email : Option (Option String) := none
  status : Option String := none

def DriverPatch.apply (payload : DriverPatch) (d : Driver) : Driver :=
  { d with
    fullName := payload.fullName.getD d.fullName
    phone := payload.phone.getD d.phone
    email := payload.email.getD d.email
    status := payload.status.getD d.status }

def patchDriver (tenantId driverId : UUID) (payload : DriverPatch) (db : AuthDb) :
    Except Exc (UUID × AuthDb) := do
  let driver ← requireDriver tenantId driverId db
  let phone := (truthy payload.phone.join).filter fun phone => driver.phone ≠ some phone
  let taken := phone.any fun phone => db.drivers.rows.any fun d =>
    d.tenantId = tenantId && d.phone = some phone && d.id ≠ driver.id
  raiseIf taken (conflict "driver_phone_conflict" "Driver phone already exists for this tenant."
    [("phone", .text (payload.phone.join.getD ""))])
  return (driverId, { db with drivers := db.drivers.modify driverId payload.apply })

def AuthDb.setTenantActive (tenantId : UUID) (isActive : Bool) (db : AuthDb) : AuthDb :=
  { db with tenants := db.tenants.modify tenantId fun t => { t with isActive } }

def requireTenant (tenantId : UUID) (db : AuthDb) : Except Exc Tenant :=
  require (db.tenants.get tenantId) (notFound "tenant_not_found" "Tenant not found.")

def suspendTenant (tenantId : UUID) (db : AuthDb) : Except Exc (UUID × AuthDb) := do
  let tenant ← requireTenant tenantId db
  raiseIf (!tenant.isActive) (conflict "tenant_already_inactive" "Tenant is already inactive.")
  return (tenantId, db.setTenantActive tenantId false)

def reactivateTenant (tenantId : UUID) (db : AuthDb) : Except Exc (UUID × AuthDb) := do
  let tenant ← requireTenant tenantId db
  raiseIf tenant.isActive (conflict "tenant_already_active" "Tenant is already active.")
  return (tenantId, db.setTenantActive tenantId true)

end Rotas
