import Rotas.Auth.Service
import Rotas.Lib.Interleave

/-!
# Rotas.Auth.RedeemTurns

Refreshes, second factors, new passwords and pairings as transactions that run at the same time.
Each read sees what is committed at that instant; what a transaction writes takes effect when it
commits.

* `AuthRow`     — the rows that are held, from an update to the end of the transaction.
* `Presented`   — a credential that was read and passed its own checks.
* `Redemption`  — what a transaction has read and is about to write.
* `redeemTurn`  — the steps of a transaction.

The store also keeps the secrets that were redeemed, the login that each token and session comes
from, and how many pairing codes a driver was given.
-/

namespace Rotas

open Interleave

inductive AuthRow where
  | refreshToken (id : UUID)
  | driverSession (id : UUID)
  | challenge (id : UUID)
  | resetToken (id : UUID)
  | driver (id : UUID)
  deriving DecidableEq

/-- What is redeemed; the pairing codes of a driver are counted. -/
inductive Secret where
  | refreshToken (id : UUID)
  | driverSession (id : UUID)
  | challenge (id : UUID)
  | resetToken (id : UUID)
  | pairingCode (driverId : UUID) (issue : Nat)
  deriving DecidableEq

/-- Where a refresh token comes from: a token that was there or was given at a login, or a
challenge. -/
inductive Origin where
  | token (id : UUID)
  | challenge (id : UUID)
  deriving DecidableEq

inductive RedeemRequest where
  | refresh (token : String)
  | verifyMfaChallenge (challengeToken code : String)
  | completePasswordReset (token newPassword : String)
  | pairDriverDevice (payload : DriverPairRequest)

inductive Presented where
  | token (t : RefreshToken)
  | session (d : DriverSession)
  | challenge (c : MfaChallenge) (code : String)
  | reset (r : PasswordResetToken) (newPassword : String)
  | pairing (driver : Driver) (issue : Nat) (payload : DriverPairRequest)

inductive Redemption where
  | token (t : RefreshToken) (user : User)
  | session (d : DriverSession) (driver : Driver)
  | challenge (c : MfaChallenge) (user : User)
  /-- The tokens and the sessions that are still to be revoked, once they are read. -/
  | reset (r : PasswordResetToken) (user : User) (newPassword : String) (tokens sessions : List UUID)
  | pairing (driver : Driver) (issue : Nat) (payload : DriverPairRequest)
      (device : Option DriverDevice)

def Redemption.row : Redemption → AuthRow
  | .token t _ => .refreshToken t.id
  | .session d _ => .driverSession d.id
  | .challenge c _ => .challenge c.id
  | .reset r _ _ _ _ => .resetToken r.id
  | .pairing driver _ _ _ => .driver driver.id

def Redemption.secret : Redemption → Secret
  | .token t _ => .refreshToken t.id
  | .session d _ => .driverSession d.id
  | .challenge c _ => .challenge c.id
  | .reset r _ _ _ _ => .resetToken r.id
  | .pairing driver issue _ _ => .pairingCode driver.id issue

inductive RedeemPhase where
  | idle
  | found (now : Instant) (p : Presented)
  /-- The user of the credential is read, and the tenant is next. -/
  | known (now : Instant) (p : Presented) (user : User)
  | checked (now : Instant) (r : Redemption)
  /-- The row of the credential is updated and held. -/
  | updated (now : Instant) (r : Redemption)

inductive RedeemAction where
  | present (request : RedeemRequest)
  | readHolder
  | readTenant
  | update
  | readOpen
  | commit (draws : Draws) (caller : Caller)
  /-- A login, as one step. -/
  | login (payload : LoginRequest) (draws : Draws) (caller : Caller)
  /-- A new pairing code, as one step. -/
  | issuePairingCode (tenantId driverId : UUID) (code : String)
  | rollback
  /-- Time passes. -/
  | tick (now : Instant)

structure RedeemStore where
  db : AuthDb
  clock : Instant
  log : List Secret := []
  tokenOrigin : UUID → Origin := .token
  sessionOrigin : UUID → UUID := id
  issue : UUID → Nat := fun _ => 0
  locks : Locks AuthRow := fun _ => none

section Turns

theorem key_revokedToken (now : Instant) (t : RefreshToken) :
    Keyed.key { t with revokedAt := some now } = Keyed.key t := rfl

theorem key_revokedSession (now : Instant) (d : DriverSession) :
    Keyed.key { d with revokedAt := some now } = Keyed.key d := rfl

variable [Locale] [Hashing] [Jwt] (S : AuthSettings)

/-- The first read: the row of the credential. -/
def RedeemStore.present (s : RedeemStore) : RedeemRequest → Except Exc Presented
  | .refresh token =>
    match s.db.refreshToken token with
    | some t => (checkUnspent s.clock t.revokedAt t.expiresAt).map fun _ => .token t
    | none => do
      let d ← require (s.db.driverSession token) invalidRefreshToken
      checkUnspent s.clock d.revokedAt d.expiresAt
      return .session d
  | .verifyMfaChallenge token code =>
    (requireChallenge s.clock token s.db).map fun c => .challenge c code
  | .completePasswordReset token newPassword =>
    (requireResetToken s.clock token s.db).map fun r => .reset r newPassword
  | .pairDriverDevice payload =>
    (requirePairing s.clock payload.pairingCode s.db).map fun driver =>
      .pairing driver (s.issue driver.id) payload

/-- The second read: the user, or the driver, or the device. -/
def readHolder (now : Instant) (db : AuthDb) : Presented → Except Exc RedeemPhase
  | .token t => do
    let user ← require (db.users.get t.userId) invalidRefreshToken
    return .known now (.token t) user
  | .challenge c code => do
    let user ← require (db.users.get c.userId) invalidMfaCode
    return .known now (.challenge c code) user
  | .reset r newPassword => do
    let user ← require (db.users.get r.userId) invalidResetToken
    return .known now (.reset r newPassword) user
  | .session d => do
    let driver ← require (db.drivers.get d.driverId) invalidRefreshToken
    raiseIf (driver.status ≠ "active") invalidRefreshToken
    return .checked now (.session d driver)
  | .pairing driver issue payload =>
    .ok (.checked now (.pairing driver issue payload
      (db.device driver.tenantId driver.id payload.deviceId)))

/-- The tenant is active, and so is the user who was read before. -/
def requireActive (e : Exc) (user : User) (tenantId : UUID) (db : AuthDb) : Except Exc Unit := do
  let tenant ← require (db.tenants.get tenantId) e
  raiseIf (!user.isActive || !tenant.isActive) e

/-- The third read: the tenant. -/
def readTenant (now : Instant) (user : User) (db : AuthDb) : Presented → Except Exc Redemption
  | .token t => do
    requireActive invalidRefreshToken user t.tenantId db
    return .token t user
  | .challenge c code => do
    requireActive invalidMfaCode user c.tenantId db
    raiseIf (!user.mfaEnabled) invalidMfaCode
    let secret ← require (truthy user.mfaSecret) invalidMfaCode
    raiseIf (!Hashing.verifyTotpCode now secret code) invalidMfaCode
    return .challenge c user
  | .reset r newPassword => do
    requireActive invalidResetToken user r.tenantId db
    return .reset r user newPassword [] []
  | .session _ => .error invalidRefreshToken
  | .pairing _ _ _ => .error invalidRefreshToken

/-- The read of a new password after its update: what it is going to revoke. -/
def readOpen (db : AuthDb) : Redemption → Option Redemption
  | .reset r user newPassword _ _ =>
    some (.reset r user newPassword
      ((db.refreshTokens.rows.filter (RefreshToken.isOpen user.id)).map RefreshToken.id)
      ((db.driverSessions.rows.filter (db.openSession user)).map DriverSession.id))
  | _ => none

def AuthDb.revokeRead (now : Instant) (tokens sessions : List UUID) (db : AuthDb) : AuthDb :=
  { db with
    refreshTokens := db.refreshTokens.modifyAll (fun t => tokens.contains t.id)
      (fun t => { t with revokedAt := some now }) (key_revokedToken now)
    driverSessions := db.driverSessions.modifyAll (fun d => sessions.contains d.id)
      (fun d => { d with revokedAt := some now }) (key_revokedSession now) }

/-- What a transaction writes. -/
def Redemption.write (now : Instant) (draws : Draws) (caller : Caller) (db : AuthDb) :
    Redemption → AuthDb
  | .token t user => (db.revokeToken now t.id).addRefreshToken S now draws caller user
  | .session d driver =>
    (db.revokeDriverSession now d.id).addDriverSession S now draws driver d.deviceId
  | .challenge c user =>
    ((db.consumeChallenge now c.id).touchLogin now user.id).addRefreshToken S now draws caller user
  | .reset r user newPassword tokens sessions =>
    ((db.setPassword draws user.id newPassword).consumeResetToken now r.id).revokeRead now tokens
      sessions
  | .pairing driver _ payload device =>
    ((db.placeDevice now driver payload device).setPairingCode driver.id none none).addDriverSession
      S now draws driver payload.deviceId

/-- The login that the new token of a redemption comes from. -/
def RedeemStore.tokenOrigins (s : RedeemStore) : Redemption → UUID → Origin
  | .token t _ => Function.update s.tokenOrigin s.db.refreshTokens.freshKey (s.tokenOrigin t.id)
  | .challenge c _ => Function.update s.tokenOrigin s.db.refreshTokens.freshKey (.challenge c.id)
  | _ => s.tokenOrigin

/-- The session that the new session of a redemption comes from; a pairing begins one. -/
def RedeemStore.sessionOrigins (s : RedeemStore) : Redemption → UUID → UUID
  | .session d _ =>
    Function.update s.sessionOrigin s.db.driverSessions.freshKey (s.sessionOrigin d.id)
  | .pairing _ _ _ _ =>
    Function.update s.sessionOrigin s.db.driverSessions.freshKey s.db.driverSessions.freshKey
  | _ => s.sessionOrigin

def RedeemStore.release (s : RedeemStore) (i : Nat) : RedeemStore :=
  { s with locks := s.locks.release i }

/-- The end of the transaction: its writes, if the database takes them. -/
def RedeemStore.finish (s : RedeemStore) (i : Nat) (now : Instant) (draws : Draws) (caller : Caller)
    (r : Redemption) : RedeemStore :=
  let db := r.write S now draws caller s.db
  if db.ok then
    { db, clock := s.clock, log := s.log ++ [r.secret], tokenOrigin := s.tokenOrigins r
      sessionOrigin := s.sessionOrigins r, issue := s.issue, locks := s.locks.release i }
  else s.release i

/-- The rows that a new password revokes. -/
def Redemption.revoked : Redemption → List AuthRow
  | .reset _ _ _ tokens sessions =>
    tokens.map AuthRow.refreshToken ++ sessions.map AuthRow.driverSession
  | _ => []

/-- A token that is given at a login begins its own descent. -/
def RedeemStore.logIn (s : RedeemStore) (payload : LoginRequest) (draws : Draws) (caller : Caller) :
    RedeemStore :=
  { s with
    db := Work.perform (fun db => login S s.clock draws caller payload db) s.db
    tokenOrigin := Function.update s.tokenOrigin s.db.refreshTokens.freshKey
      (.token s.db.refreshTokens.freshKey) }

/-- The codes that a driver was given are counted. -/
def RedeemStore.issueCode (s : RedeemStore) (tenantId driverId : UUID) (code : String) :
    RedeemStore :=
  match issuePairingCode s.clock tenantId driverId code s.db with
  | .error _ => s
  | .ok (_, db) =>
    if db.ok then
      { s with db, issue := Function.update s.issue driverId (s.issue driverId + 1) }
    else s

/-- The turn of transaction `i`; `none` when it waits for a row or the step is not its next. -/
def redeemTurn (i : Nat) (act : RedeemAction) (s : RedeemStore) (p : RedeemPhase) :
    Option (RedeemStore × RedeemPhase) :=
  match act, p with
  | .present request, .idle =>
    match s.present request with
    | .ok presented => some (s, .found s.clock presented)
    | .error _ => some (s, .idle)
  | .readHolder, .found now presented =>
    match readHolder now s.db presented with
    | .ok next => some (s, next)
    | .error _ => some (s, .idle)
  | .readTenant, .known now presented user =>
    match readTenant now user s.db presented with
    | .ok r => some (s, .checked now r)
    | .error _ => some (s, .idle)
  | .update, .checked now r =>
    if s.locks.available i r.row then
      some ({ s with locks := s.locks.take i r.row }, .updated now r)
    else none
  | .readOpen, .updated now r => (readOpen s.db r).map fun r => (s, .updated now r)
  | .commit draws caller, .updated now r =>
    if r.revoked.all (s.locks.available i) then some (s.finish S i now draws caller r, .idle)
    else none
  | .login payload draws caller, .idle => some (s.logIn S payload draws caller, .idle)
  | .issuePairingCode tenantId driverId code, .idle =>
    -- The update of the driver waits like any other.
    if s.locks.available i (.driver driverId) then
      some (s.issueCode tenantId driverId code, .idle)
    else none
  | .rollback, _ => some (s.release i, .idle)
  | .tick now, p => some ({ s with clock := max s.clock now }, p)
  | _, _ => none

def redeemStart (db : AuthDb) (clock : Instant) : Config RedeemStore RedeemPhase :=
  ⟨{ db, clock }, fun _ => .idle⟩

def redeemRun (db : AuthDb) (clock : Instant) (ms : List (Nat × RedeemAction)) :
    Config RedeemStore RedeemPhase :=
  Run.exec (move (redeemTurn S)) (redeemStart db clock) ms

end Turns

end Rotas
