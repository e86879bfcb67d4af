import Rotas.Auth.Service
import Rotas.Lib.Attached
import Rotas.Lib.Run

/-!
# Rotas.Auth.Calls

What one can present, who stands behind it, and what a call of authentication leaves of both.

* `Holder`     — users, tenants, drivers and devices: who may be switched off.
* `Credential` — a refresh token, a session or a challenge, with its holders.
* `AuthCall`   — the calls of a run.
* `Follows`    — from one database to the next credentials keep their holders, none is made usable
  again, and only the holders that a call wakes are switched on.
-/

namespace Rotas

open Work

/-! ## Holders -/

inductive Holder where
  | user (id : UUID)
  | tenant (id : UUID)
  | driver (id : UUID)
  | device (tenantId driverId : UUID) (deviceId : String)
  deriving DecidableEq

def Holder.active (db : AuthDb) : Holder → Bool
  | .user id => (db.users.get id).any User.isActive
  | .tenant id => (db.tenants.get id).any Tenant.isActive
  | .driver id => (db.drivers.get id).any fun d => d.status = "active"
  | .device tenantId driverId deviceId =>
    (db.device tenantId driverId deviceId).any DriverDevice.isActive

/-! ## Credentials -/

structure Credential where
  holders : List Holder
  userId : Option UUID := none
  expiresAt : Instant

inductive CredentialId where
  | refreshToken (id : UUID)
  | driverSession (id : UUID)
  | challenge (id : UUID)
  deriving DecidableEq

def RefreshToken.credential (t : RefreshToken) : Credential :=
  { holders := [.user t.userId, .tenant t.tenantId], userId := some t.userId
    expiresAt := t.expiresAt }

def DriverSession.credential (s : DriverSession) : Credential :=
  { holders := [.tenant s.tenantId, .driver s.driverId, .device s.tenantId s.driverId s.deviceId]
    expiresAt := s.expiresAt }

def MfaChallenge.credential (c : MfaChallenge) : Credential :=
  { holders := [.user c.userId, .tenant c.tenantId], userId := some c.userId
    expiresAt := c.expiresAt }

def RefreshToken.unspent (t : RefreshToken) : Bool := t.revokedAt.isNone
def DriverSession.unspent (s : DriverSession) : Bool := s.revokedAt.isNone
def MfaChallenge.unspent (c : MfaChallenge) : Bool := c.consumedAt.isNone

/-- A credential, and whether it is unspent. -/
def AuthDb.credential (db : AuthDb) : CredentialId → Option (Credential × Bool)
  | .refreshToken id => (db.refreshTokens.get id).map fun t => (t.credential, t.unspent)
  | .driverSession id => (db.driverSessions.get id).map fun s => (s.credential, s.unspent)
  | .challenge id => (db.mfaChallenges.get id).map fun c => (c.credential, c.unspent)

def AuthDb.credentials (db : AuthDb) : List CredentialId :=
  db.refreshTokens.rows.map (fun t => .refreshToken t.id) ++
    db.driverSessions.rows.map (fun s => .driverSession s.id) ++
    db.mfaChallenges.rows.map (fun c => .challenge c.id)

/-! ## Calls -/

inductive AuthCall where
  | login (payload : LoginRequest)
  | verifyMfaChallenge (challengeToken code : String)
  | refresh (token : String)
  | pairDriverDevice (payload : DriverPairRequest)
  | issuePairingCode (tenantId driverId : UUID) (code : String)
  | logout (token : Option String)
  | revokeSession (tenantId actorUserId : UUID) (actorRole : Option String) (sessionId : UUID)
  | requestPasswordReset (email : String) (tenantSlug : Option String)
  | completePasswordReset (token newPassword : String)
  | setupMfa (tenantId userId : UUID) (secret : String)
  | confirmMfa (tenantId userId : UUID) (code : String)
  | disableMfa (tenantId userId : UUID) (code : String)
  | patchUser (tenantId userId : UUID) (payload : UserPatch)
  | patchDriver (tenantId driverId : UUID) (payload : DriverPatch)
  | suspendTenant (tenantId : UUID)
  | reactivateTenant (tenantId : UUID)
  /-- The row of a device is switched off; no service does it. -/
  | deactivateDevice (id : UUID)

/-- The database that a call leaves, without its answer. -/
def leaves {α : Type} (x : Except Exc (α × AuthDb)) : Except Exc (Unit × AuthDb) :=
  x.map fun r => ((), r.2)

theorem leaves_eq_ok {α : Type} {x : Except Exc (α × AuthDb)} {u : Unit} {p : AuthDb} :
    leaves x = .ok (u, p) ↔ ∃ a, x = .ok (a, p) := by
  cases x with
  | ok r => simp [leaves, Except.map, Prod.ext_iff]
  | error e => simp [leaves, Except.map]

section Calls

variable [Locale] [Hashing] [Jwt] (S : AuthSettings) (now : Instant) (draws : Draws) (caller : Caller)

def authWork (db : AuthDb) : AuthCall → Except Exc (Unit × AuthDb)
  | .login payload => leaves (login S now draws caller payload db)
  | .verifyMfaChallenge token code => leaves (verifyMfaChallenge S now draws caller token code db)
  | .refresh token => leaves (refresh S now draws caller token db)
  | .pairDriverDevice payload => leaves (pairDriverDevice S now draws payload db)
  | .issuePairingCode tenantId driverId code =>
    leaves (issuePairingCode now tenantId driverId code db)
  | .logout token => .ok ((), logout now token db)
  | .revokeSession tenantId actorUserId actorRole sessionId =>
    leaves (revokeSession now tenantId actorUserId actorRole sessionId db)
  | .requestPasswordReset email slug => .ok ((), requestPasswordReset now draws caller email slug db)
  | .completePasswordReset token password => completePasswordReset now draws token password db
  | .setupMfa tenantId userId secret => leaves (setupMfa tenantId userId secret db)
  | .confirmMfa tenantId userId code => leaves (confirmMfa now tenantId userId code db)
  | .disableMfa tenantId userId code => leaves (disableMfa now tenantId userId code db)
  | .patchUser tenantId userId payload => leaves (patchUser tenantId userId payload db)
  | .patchDriver tenantId driverId payload => leaves (patchDriver tenantId driverId payload db)
  | .suspendTenant tenantId => leaves (suspendTenant tenantId db)
  | .reactivateTenant tenantId => leaves (reactivateTenant tenantId db)
  | .deactivateDevice id =>
    .ok ((), { db with
      driverDevices := db.driverDevices.modify id fun d => { d with isActive := false } })

/-- The holders that a call may switch on. -/
def AuthCall.wakes (db : AuthDb) : AuthCall → List Holder
  | .patchUser _ userId payload => if payload.isActive = some true then [.user userId] else []
  | .patchDriver _ driverId payload =>
    if payload.status = some "active" then [.driver driverId] else []
  | .reactivateTenant tenantId => [.tenant tenantId]
  | .pairDriverDevice payload =>
    match requirePairing now payload.pairingCode db with
    | .ok driver => [.device driver.tenantId driver.id payload.deviceId]
    | .error _ => []
  | _ => []

end Calls

/-! ## From one database to the next -/

/-- Credentials keep their holders and are not made usable again, and only the holders that are
woken are switched on. -/
structure Follows (woken : List Holder) (db db' : AuthDb) : Prop where
  refreshTokens : Table.Grows RefreshToken.credential RefreshToken.unspent (fun _ => True)
    db.refreshTokens db'.refreshTokens
  driverSessions : Table.Grows DriverSession.credential DriverSession.unspent (fun _ => True)
    db.driverSessions db'.driverSessions
  mfaChallenges : Table.Grows MfaChallenge.credential MfaChallenge.unspent (fun _ => True)
    db.mfaChallenges db'.mfaChallenges
  holders : ∀ h : Holder, h.active db' = true → h.active db = true ∨ h ∈ woken

/-- A credential is still there, with its holders, and is unspent only if it was. -/
theorem Follows.credential {woken : List Holder} {db db' : AuthDb} (h : Follows woken db db')
    {k : CredentialId} {c : Credential} {unspent : Bool}
    (hk : db.credential k = some (c, unspent)) :
    ∃ unspent', db'.credential k = some (c, unspent') ∧ (unspent' = true → unspent = true) := by
  cases k with
  | refreshToken id =>
    obtain ⟨t, ht, hpair⟩ := Option.map_eq_some_iff.mp hk
    cases hpair
    obtain ⟨t', ht', hlabel, hlive⟩ := h.refreshTokens.get ht
    exact ⟨_, Option.map_eq_some_iff.mpr ⟨t', ht', by rw [hlabel]⟩, hlive⟩
  | driverSession id =>
    obtain ⟨t, ht, hpair⟩ := Option.map_eq_some_iff.mp hk
    cases hpair
    obtain ⟨t', ht', hlabel, hlive⟩ := h.driverSessions.get ht
    exact ⟨_, Option.map_eq_some_iff.mpr ⟨t', ht', by rw [hlabel]⟩, hlive⟩
  | challenge id =>
    obtain ⟨t, ht, hpair⟩ := Option.map_eq_some_iff.mp hk
    cases hpair
    obtain ⟨t', ht', hlabel, hlive⟩ := h.mfaChallenges.get ht
    exact ⟨_, Option.map_eq_some_iff.mpr ⟨t', ht', by rw [hlabel]⟩, hlive⟩

/-! ## What the updates leave -/

section Updates

variable {woken : List Holder} {db db' db'' : AuthDb}

theorem Follows.refl (woken : List Holder) (db : AuthDb) : Follows woken db db :=
  ⟨.refl _, .refl _, .refl _, fun _ => .inl⟩

theorem Follows.trans (h : Follows woken db db') (h' : Follows woken db' db'') :
    Follows woken db db'' := by
  refine ⟨h.refreshTokens.trans h'.refreshTokens, h.driverSessions.trans h'.driverSessions,
    h.mfaChallenges.trans h'.mfaChallenges, fun holder hactive => ?_⟩
  rcases h'.holders holder hactive with hkept | hwoken
  · exact h.holders holder hkept
  · exact .inr hwoken

theorem Follows.of_credentials
    {refreshTokens : Table RefreshToken} {driverSessions : Table DriverSession}
    {mfaChallenges : Table MfaChallenge} {passwordResetTokens : Table PasswordResetToken}
    (htokens : Table.Grows RefreshToken.credential RefreshToken.unspent (fun _ => True)
      db.refreshTokens refreshTokens)
    (hsessions : Table.Grows DriverSession.credential DriverSession.unspent (fun _ => True)
      db.driverSessions driverSessions)
    (hchallenges : Table.Grows MfaChallenge.credential MfaChallenge.unspent (fun _ => True)
      db.mfaChallenges mfaChallenges) :
    Follows woken db { db with refreshTokens, driverSessions, mfaChallenges, passwordResetTokens } :=
  ⟨htokens, hsessions, hchallenges, fun h hactive => .inl (by cases h <;> exact hactive)⟩

/-- Whoever is active after the update of a row was so before it, unless the row itself is woken. -/
theorem active_of_modify {ρ : Type} [Keyed ρ] {t : Table ρ} {active : ρ → Bool} {f : ρ → ρ}
    (hf : ∀ r, Keyed.key (f r) = Keyed.key r) {id k : UUID} {P : Prop}
    (hwake : ∀ r, active (f r) = true → active r = true ∨ P)
    (h : ((t.modify id f hf).get k).any active = true) : (t.get k).any active = true ∨ k = id ∧ P := by
  rw [Table.get_modify] at h
  by_cases hk : k = id
  · rw [if_pos hk, Option.any_map] at h
    rw [hk]
    cases hg : t.get id with
    | none => rw [hg] at h; cases h
    | some r =>
      rw [hg] at h
      exact (hwake r h).imp_right fun hP => ⟨rfl, hP⟩
  · rw [if_neg hk] at h
    exact .inl h

theorem follows_users {f : User → User} {hf : ∀ u, Keyed.key (f u) = Keyed.key u} (id : UUID)
    (hwake : ∀ u, (f u).isActive = true → u.isActive = true ∨ Holder.user id ∈ woken) :
    Follows woken db { db with users := db.users.modify id f hf } := by
  refine ⟨.refl _, .refl _, .refl _, fun h hactive => ?_⟩
  cases h with
  | user k => exact (active_of_modify hf hwake hactive).imp_right fun ⟨hk, hwoken⟩ => hk ▸ hwoken
  | _ => exact .inl hactive

theorem follows_drivers {f : Driver → Driver} {hf : ∀ d, Keyed.key (f d) = Keyed.key d} (id : UUID)
    (hwake : ∀ d, (f d).status = "active" → d.status = "active" ∨ Holder.driver id ∈ woken) :
    Follows woken db { db with drivers := db.drivers.modify id f hf } := by
  refine ⟨.refl _, .refl _, .refl _, fun h hactive => ?_⟩
  cases h with
  | driver k =>
    refine (active_of_modify hf (fun d hd => ?_) hactive).imp_right fun ⟨hk, hwoken⟩ => hk ▸ hwoken
    simpa using hwake d (by simpa using hd)
  | _ => exact .inl hactive

theorem follows_tenants (id : UUID) (isActive : Bool)
    (hwake : isActive = true → Holder.tenant id ∈ woken) :
    Follows woken db (db.setTenantActive id isActive) := by
  refine ⟨.refl _, .refl _, .refl _, fun h hactive => ?_⟩
  cases h with
  | tenant k =>
    exact (active_of_modify (f := fun t : Tenant => { t with isActive }) (fun _ => rfl)
      (fun _ ht => .inr (hwake ht)) hactive).imp_right fun ⟨hk, hwoken⟩ => hk ▸ hwoken
  | _ => exact .inl hactive

/-- The device of a driver, after an update of rows that keeps them under their names. -/
theorem device_modify {f : DriverDevice → DriverDevice}
    {hf : ∀ d, Keyed.key (f d) = Keyed.key d} (id : UUID)
    (hname : ∀ d, (f d).tenantId = d.tenantId ∧ (f d).driverId = d.driverId ∧
      (f d).deviceId = d.deviceId) (tenantId driverId : UUID) (deviceId : String) :
    ({ db with driverDevices := db.driverDevices.modify id f hf } : AuthDb).device
        tenantId driverId deviceId =
      (db.device tenantId driverId deviceId).map fun d => if d.id = id then f d else d := by
  rw [AuthDb.device, AuthDb.device, Table.rows_modify, List.find?_map]
  have hsame : ∀ d : DriverDevice, (fun d => decide (d.tenantId = tenantId) &&
      decide (d.driverId = driverId) && decide (d.deviceId = deviceId))
        (if d.id = id then f d else d) = (decide (d.tenantId = tenantId) &&
          decide (d.driverId = driverId) && decide (d.deviceId = deviceId)) := by
    intro d
    dsimp only
    split
    · obtain ⟨ht, hd, hn⟩ := hname d
      rw [ht, hd, hn]
    · rfl
  exact congrArg _ (congrArg (fun p => List.find? p db.driverDevices.rows) (funext hsame))

theorem follows_devices {driverDevices : Table DriverDevice}
    (hwake : ∀ tenantId driverId deviceId,
      (({ db with driverDevices } : AuthDb).device tenantId driverId deviceId).any
        DriverDevice.isActive = true →
      (db.device tenantId driverId deviceId).any DriverDevice.isActive = true ∨
        Holder.device tenantId driverId deviceId ∈ woken) :
    Follows woken db { db with driverDevices } := by
  refine ⟨.refl _, .refl _, .refl _, fun h hactive => ?_⟩
  cases h with
  | device tenantId driverId deviceId => exact hwake tenantId driverId deviceId hactive
  | _ => exact .inl hactive

/-- The device that a lookup finds has the names that were looked up. -/
theorem device_names {tenantId driverId : UUID} {deviceId : String} {d : DriverDevice}
    (h : db.device tenantId driverId deviceId = some d) :
    d.tenantId = tenantId ∧ d.driverId = driverId ∧ d.deviceId = deviceId := by
  simpa only [Bool.and_eq_true, decide_eq_true_eq, and_assoc] using List.find?_some h

theorem follows_pairDevice (now : Instant) (driver : Driver) (payload : DriverPairRequest)
    (hwoken : Holder.device driver.tenantId driver.id payload.deviceId ∈ woken) :
    Follows woken db (db.pairDevice now driver payload) := by
  unfold AuthDb.pairDevice AuthDb.placeDevice
  cases hdevice : db.device driver.tenantId driver.id payload.deviceId with
  | some device =>
    refine follows_devices fun tenantId driverId deviceId hactive => ?_
    rw [device_modify (f := fun d => { d with
        deviceName := payload.deviceName, lastSeenAt := some now, isActive := true })
      device.id fun _ => ⟨rfl, rfl, rfl⟩] at hactive
    cases hd : db.device tenantId driverId deviceId with
    | none => rw [hd] at hactive; cases hactive
    | some d =>
      by_cases hid : d.id = device.id
      · -- The device that is paired is the one of the holder.
        have hsame : d = device := Table.eq_of_key (List.mem_of_find?_eq_some hd)
          (List.mem_of_find?_eq_some hdevice) hid
        obtain ⟨rfl, rfl, rfl⟩ := device_names hd
        obtain ⟨ht, hdr, hn⟩ := device_names hdevice
        rw [hsame, ht, hdr, hn]
        exact .inr hwoken
      · rw [hd, Option.map_some, if_neg hid] at hactive
        exact .inl hactive
  | none =>
    refine follows_devices fun tenantId driverId deviceId hactive => ?_
    rw [AuthDb.device, Table.rows_insert, List.find?_append, ← AuthDb.device] at hactive
    cases hd : db.device tenantId driverId deviceId with
    | some d => rw [hd] at hactive; exact .inl hactive
    | none =>
      rw [hd, Option.none_or] at hactive
      obtain ⟨d, hfind, _⟩ := (Option.any_eq_true _ _).mp hactive
      have hname := List.find?_some hfind
      have hnew := List.mem_singleton.mp (List.mem_of_find?_eq_some hfind)
      simp only [hnew, Bool.and_eq_true, decide_eq_true_eq] at hname
      rw [← hname.1.1, ← hname.1.2, ← hname.2]
      exact .inr hwoken

end Updates

/-! ## What the calls leave -/

section Services

variable {S : AuthSettings} {now : Instant} {draws : Draws} {caller : Caller}
  {woken : List Holder} {db p : AuthDb}

theorem follows_addRefreshToken [Hashing] (user : User) :
    Follows woken db (db.addRefreshToken S now draws caller user) :=
  .of_credentials (Table.grows_append (Table.rows_insert ..) trivial) (.refl _) (.refl _)

theorem follows_addDriverSession [Hashing] (driver : Driver) (deviceId : String) :
    Follows woken db (db.addDriverSession S now draws driver deviceId) :=
  .of_credentials (.refl _) (Table.grows_append (Table.rows_insert ..) trivial) (.refl _)

theorem follows_addChallenge [Hashing] (user : User) :
    Follows woken db (db.addChallenge now draws caller user) :=
  .of_credentials (.refl _) (.refl _) (Table.grows_append (Table.rows_insert ..) trivial)

theorem follows_revokeToken (id : UUID) : Follows woken db (db.revokeToken now id) :=
  .of_credentials (Table.grows_update rfl (fun _ => rfl) fun _ _ _ => ⟨rfl, nofun⟩) (.refl _)
    (.refl _)

theorem follows_revokeDriverSession (id : UUID) :
    Follows woken db (db.revokeDriverSession now id) :=
  .of_credentials (.refl _) (Table.grows_update rfl (fun _ => rfl) fun _ _ _ => ⟨rfl, nofun⟩)
    (.refl _)

theorem follows_consumeChallenge (id : UUID) : Follows woken db (db.consumeChallenge now id) :=
  .of_credentials (.refl _) (.refl _)
    (Table.grows_update rfl (fun _ => rfl) fun _ _ _ => ⟨rfl, nofun⟩)

theorem follows_revokeOpen [Locale] (user : User) : Follows woken db (db.revokeOpen now user) :=
  .of_credentials (Table.grows_update rfl (fun _ => rfl) fun _ _ _ => ⟨rfl, nofun⟩)
    (Table.grows_update rfl (fun _ => rfl) fun _ _ _ => ⟨rfl, nofun⟩) (.refl _)

theorem follows_resetTokens (passwordResetTokens : Table PasswordResetToken) :
    Follows woken db { db with passwordResetTokens } :=
  .of_credentials (.refl _) (.refl _) (.refl _)

theorem follows_touchLogin (id : UUID) : Follows woken db (db.touchLogin now id) :=
  follows_users id fun _ h => .inl h

theorem follows_setMfa (id : UUID) (enabled : Bool) (secret : Option String)
    (confirmedAt : Option Instant) : Follows woken db (db.setMfa id enabled secret confirmedAt) :=
  follows_users id fun _ h => .inl h

theorem follows_setPassword [Hashing] (id : UUID) (password : String) :
    Follows woken db (db.setPassword draws id password) := follows_users id fun _ h => .inl h

theorem follows_setPairingCode (id : UUID) (hash : Option String) (expiresAt : Option Instant) :
    Follows woken db (db.setPairingCode id hash expiresAt) := follows_drivers id fun _ h => .inl h

theorem follows_login [Hashing] [Jwt] [Locale] {payload : LoginRequest}
    {a : MfaRequired ⊕ TokenResponse UserPayload}
    (h : login S now draws caller payload db = .ok (a, p)) : Follows woken db p := by
  simp only [login, bind_eq_ok] at h
  obtain ⟨user, _, h⟩ := h
  split at h <;> cases h
  · exact (follows_touchLogin user.id).trans (follows_addChallenge user)
  · exact (follows_touchLogin user.id).trans (follows_addRefreshToken user)

theorem refreshUser_eq_ok [Hashing] [Jwt] {t : RefreshToken} {a : TokenResponse UserPayload}
    (h : refreshUser S now draws caller t db = .ok (a, p)) :
    ∃ user, requireRefreshUser now t db = .ok user ∧
      p = (db.revokeToken now t.id).addRefreshToken S now draws caller user := by
  simp only [refreshUser, bind_eq_ok] at h
  obtain ⟨user, huser, h⟩ := h
  cases h
  exact ⟨user, huser, rfl⟩

theorem refreshDriver_eq_ok [Hashing] [Jwt] {s : DriverSession} {a : TokenResponse DriverPayload}
    (h : refreshDriver S now draws s db = .ok (a, p)) :
    ∃ driver, requireRefreshDriver now s db = .ok driver ∧
      p = (db.revokeDriverSession now s.id).addDriverSession S now draws driver s.deviceId := by
  simp only [refreshDriver, bind_eq_ok] at h
  obtain ⟨driver, hdriver, h⟩ := h
  cases h
  exact ⟨driver, hdriver, rfl⟩

/-- A refresh that succeeds finds a token of a user, or else one of a driver. -/
theorem refresh_eq_ok [Hashing] [Jwt] {token : String}
    {a : TokenResponse UserPayload ⊕ TokenResponse DriverPayload}
    (h : refresh S now draws caller token db = .ok (a, p)) :
    (∃ t b, db.refreshToken token = some t ∧ refreshUser S now draws caller t db = .ok (b, p)) ∨
      ∃ s b, db.refreshToken token = none ∧ db.driverSession token = some s ∧
        refreshDriver S now draws s db = .ok (b, p) := by
  unfold refresh at h
  cases ht : db.refreshToken token with
  | some t =>
    rw [ht] at h
    cases hr : refreshUser S now draws caller t db with
    | error e => simp only [hr, Except.map, reduceCtorEq] at h
    | ok r =>
      simp only [hr, Except.map, Except.ok.injEq, Prod.mk.injEq] at h
      exact .inl ⟨t, r.1, rfl, by rw [hr, ← h.2]⟩
  | none =>
    rw [ht] at h
    cases hs : db.driverSession token with
    | none => simp only [hs, reduceCtorEq] at h
    | some s =>
      cases hr : refreshDriver S now draws s db with
      | error e => simp only [hs, hr, Except.map, reduceCtorEq] at h
      | ok r =>
        simp only [hs, hr, Except.map, Except.ok.injEq, Prod.mk.injEq] at h
        exact .inr ⟨s, r.1, rfl, rfl, by rw [hr, ← h.2]⟩

theorem follows_refresh [Hashing] [Jwt] {token : String}
    {a : TokenResponse UserPayload ⊕ TokenResponse DriverPayload}
    (h : refresh S now draws caller token db = .ok (a, p)) : Follows woken db p := by
  rcases refresh_eq_ok h with ⟨t, b, _, hr⟩ | ⟨s, b, _, _, hr⟩
  · obtain ⟨user, _, rfl⟩ := refreshUser_eq_ok hr
    exact (follows_revokeToken t.id).trans (follows_addRefreshToken user)
  · obtain ⟨driver, _, rfl⟩ := refreshDriver_eq_ok hr
    exact (follows_revokeDriverSession s.id).trans (follows_addDriverSession driver s.deviceId)

theorem verifyMfaChallenge_eq_ok [Hashing] [Jwt] {token code : String}
    {a : TokenResponse UserPayload}
    (h : verifyMfaChallenge S now draws caller token code db = .ok (a, p)) :
    ∃ c user, requireChallenge now token db = .ok c ∧ requireMfaUser now code c db = .ok user ∧
      p = ((db.consumeChallenge now c.id).touchLogin now user.id).addRefreshToken S now draws caller
        user := by
  simp only [verifyMfaChallenge, bind_eq_ok] at h
  obtain ⟨c, hc, user, huser, h⟩ := h
  cases h
  exact ⟨c, user, hc, huser, rfl⟩

theorem follows_verifyMfaChallenge [Hashing] [Jwt] {token code : String}
    {a : TokenResponse UserPayload}
    (h : verifyMfaChallenge S now draws caller token code db = .ok (a, p)) : Follows woken db p := by
  obtain ⟨c, user, _, _, rfl⟩ := verifyMfaChallenge_eq_ok h
  exact ((follows_consumeChallenge c.id).trans (follows_touchLogin user.id)).trans
    (follows_addRefreshToken user)

theorem follows_logout [Hashing] (token : Option String) : Follows woken db (logout now token db) := by
  unfold logout
  split
  · exact .refl _ _
  · split
    · split
      · exact .refl _ _
      · exact follows_revokeToken _
    · split
      · split
        · exact .refl _ _
        · exact follows_revokeDriverSession _
      · exact .refl _ _

theorem follows_revokeSession {tenantId actorUserId sessionId : UUID} {actorRole : Option String}
    {b : Bool} (h : revokeSession now tenantId actorUserId actorRole sessionId db = .ok (b, p)) :
    Follows woken db p := by
  simp only [revokeSession, bind_eq_ok] at h
  obtain ⟨t, _, _, _, h⟩ := h
  cases h
  split
  · exact .refl _ _
  · exact follows_revokeToken t.id

theorem follows_requestPasswordReset [Hashing] (email : String) (slug : Option String) :
    Follows woken db (requestPasswordReset now draws caller email slug db) := by
  unfold requestPasswordReset
  split
  · exact follows_resetTokens _
  · exact .refl _ _

theorem completePasswordReset_eq_ok [Hashing] [Locale] {token password : String} {u : Unit}
    (h : completePasswordReset now draws token password db = .ok (u, p)) :
    ∃ t user, requireResetToken now token db = .ok t ∧
      requireActiveUser invalidResetToken t.userId t.tenantId db = .ok user ∧
      p = ((db.setPassword draws user.id password).consumeResetToken now t.id).revokeOpen now
        user := by
  simp only [completePasswordReset, bind_eq_ok] at h
  obtain ⟨t, ht, user, huser, h⟩ := h
  cases h
  exact ⟨t, user, ht, huser, rfl⟩

theorem follows_completePasswordReset [Hashing] [Locale] {token password : String} {u : Unit}
    (h : completePasswordReset now draws token password db = .ok (u, p)) : Follows woken db p := by
  obtain ⟨t, user, _, _, rfl⟩ := completePasswordReset_eq_ok h
  exact ((follows_setPassword user.id password).trans (follows_resetTokens _)).trans
    (follows_revokeOpen user)

theorem follows_setupMfa {tenantId userId : UUID} {secret : String} {b : Bool}
    (h : setupMfa tenantId userId secret db = .ok (b, p)) : Follows woken db p := by
  simp only [setupMfa, bind_eq_ok] at h
  obtain ⟨user, _, h⟩ := h
  split at h <;> cases h
  · exact .refl _ _
  · exact follows_setMfa ..

theorem follows_confirmMfa [Hashing] {tenantId userId : UUID} {code : String} {b : Bool}
    (h : confirmMfa now tenantId userId code db = .ok (b, p)) : Follows woken db p := by
  simp only [confirmMfa, bind_eq_ok] at h
  obtain ⟨user, _, secret, _, _, _, h⟩ := h
  cases h
  exact follows_setMfa ..

theorem follows_disableMfa [Hashing] {tenantId userId : UUID} {code : String} {b : Bool}
    (h : disableMfa now tenantId userId code db = .ok (b, p)) : Follows woken db p := by
  simp only [disableMfa, bind_eq_ok] at h
  obtain ⟨user, _, _, _, h⟩ := h
  cases h
  split
  · exact follows_setMfa ..
  · exact .refl _ _

theorem follows_issuePairingCode [Hashing] {tenantId driverId : UUID} {code answer : String}
    (h : issuePairingCode now tenantId driverId code db = .ok (answer, p)) : Follows woken db p := by
  simp only [issuePairingCode, bind_eq_ok] at h
  obtain ⟨driver, _, _, _, h⟩ := h
  cases h
  exact follows_setPairingCode ..

theorem follows_pairDriverDevice [Hashing] [Jwt] {payload : DriverPairRequest}
    {a : TokenResponse DriverPayload}
    (h : pairDriverDevice S now draws payload db = .ok (a, p)) :
    Follows ((AuthCall.pairDriverDevice payload).wakes now db) db p := by
  simp only [pairDriverDevice, bind_eq_ok] at h
  obtain ⟨driver, hdriver, h⟩ := h
  cases h
  have hwoken : Holder.device driver.tenantId driver.id payload.deviceId ∈
      (AuthCall.pairDriverDevice payload).wakes now db := by
    rw [AuthCall.wakes, hdriver]
    exact List.mem_singleton_self _
  exact ((follows_pairDevice now driver payload hwoken).trans (follows_setPairingCode ..)).trans
    (follows_addDriverSession driver payload.deviceId)

end Services

theorem follows_patchUser [Locale] [Hashing] {now : Instant} {db p : AuthDb}
    {tenantId userId a : UUID} {payload : UserPatch}
    (h : patchUser tenantId userId payload db = .ok (a, p)) :
    Follows ((AuthCall.patchUser tenantId userId payload).wakes now db) db p := by
  simp only [patchUser, bind_eq_ok] at h
  obtain ⟨user, _, _, _, _, _, h⟩ := h
  cases h
  refine follows_users userId fun u hu => ?_
  cases hp : payload.isActive with
  | none => exact .inl (by simpa [UserPatch.apply, hp] using hu)
  | some isActive =>
    have hactive : isActive = true := by simpa [UserPatch.apply, hp] using hu
    exact .inr (by simp [AuthCall.wakes, hp, hactive])

theorem follows_patchDriver [Hashing] {now : Instant} {db p : AuthDb} {tenantId driverId a : UUID}
    {payload : DriverPatch} (h : patchDriver tenantId driverId payload db = .ok (a, p)) :
    Follows ((AuthCall.patchDriver tenantId driverId payload).wakes now db) db p := by
  simp only [patchDriver, bind_eq_ok] at h
  obtain ⟨driver, _, _, _, h⟩ := h
  cases h
  refine follows_drivers driverId fun d hd => ?_
  cases hp : payload.status with
  | none => exact .inl (by simpa [DriverPatch.apply, hp] using hd)
  | some status =>
    have hactive : status = "active" := by simpa [DriverPatch.apply, hp] using hd
    exact .inr (by simp [AuthCall.wakes, hp, hactive])

theorem follows_deactivateDevice {woken : List Holder} {db : AuthDb} (id : UUID) :
    Follows woken db { db with
      driverDevices := db.driverDevices.modify id fun d => { d with isActive := false } } := by
  refine follows_devices fun tenantId driverId deviceId hactive => .inl ?_
  rw [device_modify (f := fun d => { d with isActive := false }) id fun _ => ⟨rfl, rfl, rfl⟩]
    at hactive
  cases hd : db.device tenantId driverId deviceId with
  | none => rw [hd] at hactive; cases hactive
  | some d =>
    by_cases hid : d.id = id
    · rw [hd, Option.map_some, if_pos hid] at hactive
      cases hactive
    · rw [hd, Option.map_some, if_neg hid] at hactive
      exact hactive

theorem follows_authWork [Locale] [Hashing] [Jwt] {S : AuthSettings} {now : Instant} {draws : Draws}
    {caller : Caller} {db p : AuthDb} {u : Unit} {call : AuthCall}
    (h : authWork S now draws caller db call = .ok (u, p)) : Follows (call.wakes now db) db p := by
  cases call with
  | login payload =>
    obtain ⟨a, ha⟩ := leaves_eq_ok.mp h
    exact follows_login ha
  | verifyMfaChallenge token code =>
    obtain ⟨a, ha⟩ := leaves_eq_ok.mp h
    exact follows_verifyMfaChallenge ha
  | refresh token =>
    obtain ⟨a, ha⟩ := leaves_eq_ok.mp h
    exact follows_refresh ha
  | pairDriverDevice payload =>
    obtain ⟨a, ha⟩ := leaves_eq_ok.mp h
    exact follows_pairDriverDevice ha
  | issuePairingCode tenantId driverId code =>
    obtain ⟨a, ha⟩ := leaves_eq_ok.mp h
    exact follows_issuePairingCode ha
  | logout token =>
    cases h
    exact follows_logout token
  | revokeSession tenantId actorUserId actorRole sessionId =>
    obtain ⟨a, ha⟩ := leaves_eq_ok.mp h
    exact follows_revokeSession ha
  | requestPasswordReset email slug =>
    cases h
    exact follows_requestPasswordReset email slug
  | completePasswordReset token password => exact follows_completePasswordReset h
  | setupMfa tenantId userId secret =>
    obtain ⟨a, ha⟩ := leaves_eq_ok.mp h
    exact follows_setupMfa ha
  | confirmMfa tenantId userId code =>
    obtain ⟨a, ha⟩ := leaves_eq_ok.mp h
    exact follows_confirmMfa ha
  | disableMfa tenantId userId code =>
    obtain ⟨a, ha⟩ := leaves_eq_ok.mp h
    exact follows_disableMfa ha
  | patchUser tenantId userId payload =>
    obtain ⟨a, ha⟩ := leaves_eq_ok.mp h
    exact follows_patchUser ha
  | patchDriver tenantId driverId payload =>
    obtain ⟨a, ha⟩ := leaves_eq_ok.mp h
    exact follows_patchDriver ha
  | suspendTenant tenantId =>
    obtain ⟨a, ha⟩ := leaves_eq_ok.mp h
    simp only [suspendTenant, bind_eq_ok] at ha
    obtain ⟨tenant, _, _, _, ha⟩ := ha
    cases ha
    exact follows_tenants tenantId false nofun
  | reactivateTenant tenantId =>
    obtain ⟨a, ha⟩ := leaves_eq_ok.mp h
    simp only [reactivateTenant, bind_eq_ok] at ha
    obtain ⟨tenant, _, _, _, ha⟩ := ha
    cases ha
    exact follows_tenants tenantId true fun _ => List.mem_singleton_self _
  | deactivateDevice id =>
    cases h
    exact follows_deactivateDevice id

end Rotas
