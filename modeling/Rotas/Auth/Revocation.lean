import Rotas.Auth.Calls
import Rotas.Auth.Permissions

/-!
# Rotas.Auth.Revocation

What one can still do with a credential whose holder was switched off, or whose user has a new
password since.

* `AuthDesk`  — the database, the clock, and the credentials that were issued before such an event.
* `Guarded`   — a step that does not wake the holders of such a credential, does not leave a
  challenge open at a new password, and refreshes no session of an inactive tenant or device.
* `revocation_final` — along guarded runs no such credential is redeemed, and in every state an
  access token is accepted only while its holders are active.
* `redeemed_after_event` — four events after which an old credential is redeemed.
-/

namespace Rotas

open Work

structure AuthAction where
  call : AuthCall
  now : Instant
  draws : Draws
  caller : Caller := {}

structure AuthDesk where
  db : AuthDb
  clock : Instant
  stale : List CredentialId := []

section Steps

variable [Locale] [Hashing] [Jwt] (S : AuthSettings)

def AuthDesk.time (s : AuthDesk) (a : AuthAction) : Instant := max s.clock a.now

/-- The session that serves the call. -/
def AuthDesk.serve (s : AuthDesk) (a : AuthAction) : Except Exc Unit × AuthDb :=
  Work.serve (atomic (ofExcept fun db => authWork S (s.time a) a.draws a.caller db a.call)) s.db

/-- The user who has a new password after the call. -/
def AuthDesk.passwordReset (s : AuthDesk) (a : AuthAction) : Option UUID :=
  match a.call with
  | .completePasswordReset token _ =>
    if (s.serve S a).1.isOk then
      (requireResetToken (s.time a) token s.db).toOption.map PasswordResetToken.userId
    else none
  | _ => none

/-- A holder of the credential is switched off, or its user has a new password. -/
def AuthDesk.stales (s : AuthDesk) (a : AuthAction) (k : CredentialId) : Bool :=
  (s.db.credential k).any fun c =>
    (c.1.holders.any fun h => h.active s.db && !h.active (s.serve S a).2) ||
      c.1.userId.any fun user => s.passwordReset S a = some user

def authStep (s : AuthDesk) (a : AuthAction) : AuthDesk where
  db := (s.serve S a).2
  clock := s.time a
  stale := s.stale ++ s.db.credentials.filter (s.stales S a)

/-- The credential that a call presents. -/
def AuthDb.presented (db : AuthDb) : AuthCall → Option CredentialId
  | .refresh token =>
    match db.refreshToken token with
    | some t => some (.refreshToken t.id)
    | none => (db.driverSession token).map fun s => .driverSession s.id
  | .verifyMfaChallenge token _ => (db.challenge token).map fun c => .challenge c.id
  | _ => none

/-- A call that presents a credential from before is refused. -/
def AuthDesk.Final (s : AuthDesk) (a : AuthAction) : Prop :=
  ∀ k ∈ s.stale, s.db.presented a.call = some k → (s.serve S a).1.isOk = false

/-- The credential may be redeemed, once the holders that are woken are active. -/
def AuthDb.redeemable (db : AuthDb) (now : Instant) (woken : List Holder) (k : CredentialId) : Bool :=
  (db.credential k).any fun c =>
    c.2 && now < c.1.expiresAt && c.1.holders.all fun h => h.active db || woken.contains h

/-- No challenge of the user is open. -/
def AuthDb.challengesClosed (db : AuthDb) (now : Instant) (userId : UUID) : Bool :=
  db.mfaChallenges.rows.all fun c =>
    decide (c.userId ≠ userId) || !c.unspent || decide (c.expiresAt ≤ now)

/-- No holder of an open credential from before is woken, a new password finds no open challenge,
and the tenant and the device of a session that is refreshed are active. -/
def AuthDesk.guarded (s : AuthDesk) (a : AuthAction) : Bool :=
  (s.stale.all fun k => !s.db.redeemable (s.time a) (a.call.wakes (s.time a) s.db) k) &&
    match a.call with
    | .completePasswordReset token _ =>
      (s.db.resetToken token).all fun t => s.db.challengesClosed (s.time a) t.userId
    | .refresh token =>
      (s.db.refreshToken token).isSome || (s.db.driverSession token).all fun d =>
        Holder.active s.db (.tenant d.tenantId) &&
          Holder.active s.db (.device d.tenantId d.driverId d.deviceId)
    | _ => true

def AuthDesk.Guarded (s : AuthDesk) (a : AuthAction) : Prop := s.guarded a = true

instance (s : AuthDesk) (a : AuthAction) : Decidable (s.Guarded a) :=
  inferInstanceAs (Decidable (_ = true))

instance (s : AuthDesk) (a : AuthAction) : Decidable (s.Final S a) :=
  inferInstanceAs (Decidable (∀ k ∈ s.stale, _ → _))

end Steps

/-! ## The invariant -/

/-- The credential cannot be redeemed: it is spent, it is over, or a holder is switched off. -/
def AuthDb.Dead (db : AuthDb) (now : Instant) (k : CredentialId) : Prop :=
  ∃ c unspent, db.credential k = some (c, unspent) ∧
    (unspent = true → now < c.expiresAt → ∃ h ∈ c.holders, h.active db = false)

theorem le_time (s : AuthDesk) (a : AuthAction) : s.clock ≤ s.time a := le_max_left _ _

/-! ## What the checks of a call find -/

theorem requireActiveUser_eq_ok {e : Exc} {userId tenantId : UUID} {db : AuthDb} {user : User} :
    requireActiveUser e userId tenantId db = .ok user ↔ db.users.get userId = some user ∧
      Holder.active db (.user userId) = true ∧ Holder.active db (.tenant tenantId) = true := by
  simp only [requireActiveUser, bind_eq_ok, require_eq_ok, raiseIf_eq_ok, Bool.or_eq_false_iff,
    Bool.not_eq_false', Holder.active, Option.any_eq_true]
  constructor
  · rintro ⟨u, hu, t, ht, _, ⟨huser, htenant⟩, hok⟩
    cases hok
    exact ⟨hu, ⟨_, hu, huser⟩, ⟨t, ht, htenant⟩⟩
  · rintro ⟨hu, ⟨u, hu', huser⟩, ⟨t, ht, htenant⟩⟩
    cases hu.symm.trans hu'
    exact ⟨_, hu, t, ht, (), ⟨huser, htenant⟩, rfl⟩

theorem requireResetToken_eq_ok [Hashing] {now : Instant} {token : String} {db : AuthDb}
    {t : PasswordResetToken} :
    requireResetToken now token db = .ok t ↔ db.resetToken token = some t ∧ now < t.expiresAt := by
  simp only [requireResetToken, bind_eq_ok, require_eq_ok, raiseIf_eq_ok, decide_eq_false_iff_not,
    not_le]
  constructor
  · rintro ⟨t, ht, _, hnow, hok⟩
    cases hok
    exact ⟨ht, hnow⟩
  · rintro ⟨ht, hnow⟩
    exact ⟨t, ht, (), hnow, rfl⟩

theorem checkUnspent_eq_ok {now expiresAt : Instant} {revokedAt : Option Instant} {u : Unit} :
    checkUnspent now revokedAt expiresAt = .ok u ↔ revokedAt.isNone = true ∧ now < expiresAt := by
  simp [checkUnspent]

/-- A token of a user that is redeemed is open, and its holders are active. -/
theorem redeemed_of_token {now : Instant} {db : AuthDb} {t : RefreshToken} {user : User}
    (ht : t ∈ db.refreshTokens) (h : requireRefreshUser now t db = .ok user) :
    db.credential (.refreshToken t.id) = some (t.credential, true) ∧ now < t.expiresAt ∧
      ∀ h ∈ t.credential.holders, h.active db = true := by
  simp only [requireRefreshUser, bind_eq_ok, checkUnspent_eq_ok] at h
  obtain ⟨_, ⟨hunspent, hnow⟩, hactive⟩ := h
  obtain ⟨_, huser, htenant⟩ := requireActiveUser_eq_ok.mp hactive
  refine ⟨Option.map_eq_some_iff.mpr ⟨t, Table.get_of_mem ht, ?_⟩, hnow, fun h hmem => ?_⟩
  · rw [RefreshToken.unspent, hunspent]
  · simp only [RefreshToken.credential, List.mem_cons, List.not_mem_nil, or_false] at hmem
    rcases hmem with rfl | rfl
    · exact huser
    · exact htenant

/-- A session of a driver that is redeemed is open, and the driver is active. -/
theorem redeemed_of_session {now : Instant} {db : AuthDb} {d : DriverSession} {driver : Driver}
    (hd : d ∈ db.driverSessions) (h : requireRefreshDriver now d db = .ok driver) :
    db.credential (.driverSession d.id) = some (d.credential, true) ∧ now < d.expiresAt ∧
      Holder.active db (.driver d.driverId) = true := by
  simp only [requireRefreshDriver, bind_eq_ok, checkUnspent_eq_ok, require_eq_ok,
    raiseIf_eq_ok] at h
  obtain ⟨_, ⟨hunspent, hnow⟩, driver', hget, _, hstatus, _⟩ := h
  refine ⟨Option.map_eq_some_iff.mpr ⟨d, Table.get_of_mem hd, ?_⟩, hnow, ?_⟩
  · rw [DriverSession.unspent, hunspent]
  · rw [Holder.active, hget]
    simpa using hstatus

/-- A challenge that is redeemed is open, and its holders are active. -/
theorem redeemed_of_challenge [Hashing] {now : Instant} {token code : String} {db : AuthDb}
    {c : MfaChallenge} {user : User} (hc : requireChallenge now token db = .ok c)
    (hu : requireMfaUser now code c db = .ok user) :
    db.challenge token = some c ∧ db.credential (.challenge c.id) = some (c.credential, true) ∧
      now < c.expiresAt ∧ ∀ h ∈ c.credential.holders, h.active db = true := by
  simp only [requireChallenge, bind_eq_ok, require_eq_ok, raiseIf_eq_ok, decide_eq_false_iff_not,
    not_le] at hc
  obtain ⟨c', hfind, _, hnow, hc'⟩ := hc
  cases hc'
  simp only [requireMfaUser, bind_eq_ok] at hu
  obtain ⟨_, hactive, _⟩ := hu
  obtain ⟨_, huser, htenant⟩ := requireActiveUser_eq_ok.mp hactive
  have hrow := List.find?_some (p := fun c : MfaChallenge =>
    c.tokenHash = Hashing.hashToken token && c.consumedAt.isNone) hfind
  have hget := Table.get_of_mem (t := db.mfaChallenges) (List.mem_of_find?_eq_some hfind)
  refine ⟨hfind, Option.map_eq_some_iff.mpr ⟨c, hget, ?_⟩, hnow, fun h hmem => ?_⟩
  · rw [MfaChallenge.unspent, (Bool.and_eq_true_iff.mp hrow).2]
  · simp only [MfaChallenge.credential, List.mem_cons, List.not_mem_nil, or_false] at hmem
    rcases hmem with rfl | rfl
    · exact huser
    · exact htenant

theorem not_dead {db : AuthDb} {clock : Instant} {k : CredentialId} {c : Credential}
    (hk : db.credential k = some (c, true)) (hopen : clock < c.expiresAt)
    (hactive : ∀ h ∈ c.holders, h.active db = true) : ¬ db.Dead clock k := by
  rintro ⟨c', unspent, hk', himp⟩
  cases hk.symm.trans hk'
  obtain ⟨h, hmem, hoff⟩ := himp rfl hopen
  exact Bool.false_ne_true (hoff.symm.trans (hactive h hmem))

theorem unspent_revokeOpen [Locale] {id : UUID} {now : Instant} {db : AuthDb} {u : User} {r : RefreshToken}
    (hr : db.refreshTokens.get id = some r) (hu : r.userId = u.id) :
    (db.revokeOpen now u).credential (.refreshToken id) = some (r.credential, false) := by
  rw [AuthDb.credential, AuthDb.revokeOpen, Table.get_modifyAll, hr, Option.map_some,
    Option.map_some]
  cases hrev : r.revokedAt with
  | none => simp [RefreshToken.isOpen, hrev, hu, RefreshToken.unspent, RefreshToken.credential]
  | some _ => simp [RefreshToken.isOpen, hrev, RefreshToken.unspent]

section Invariant

variable [Locale] [Hashing] [Jwt] {S : AuthSettings} {s : AuthDesk} {a : AuthAction}

theorem serve_cases (S : AuthSettings) (s : AuthDesk) (a : AuthAction) :
    (∃ p, authWork S (s.time a) a.draws a.caller s.db a.call = .ok ((), p) ∧
        s.serve S a = (.ok (), p)) ∨
      (s.serve S a).2 = s.db ∧ (s.serve S a).1.isOk = false := by
  rcases serve_atomic_cases
      (ofExcept fun db => authWork S (s.time a) a.draws a.caller db a.call) s.db with
    ⟨u, p, hwork, _, h⟩ | ⟨e, h⟩
  · exact .inl ⟨p, ofExcept_ok.mp hwork, h⟩
  · exact .inr ⟨by rw [AuthDesk.serve, h], by rw [AuthDesk.serve, h]; rfl⟩

theorem follows_serve (S : AuthSettings) (s : AuthDesk) (a : AuthAction) :
    Follows (a.call.wakes (s.time a) s.db) s.db (s.serve S a).2 := by
  rcases serve_cases S s a with ⟨p, hwork, h⟩ | ⟨h, _⟩
  · rw [h]
    exact follows_authWork hwork
  · rw [h]
    exact .refl _ _

/-- A dead credential stays dead, unless a holder of it is woken while it is open. -/
theorem dead_step {k : CredentialId} (hdead : s.db.Dead s.clock k)
    (hguard : s.db.redeemable (s.time a) (a.call.wakes (s.time a) s.db) k = false) :
    (s.serve S a).2.Dead (s.time a) k := by
  obtain ⟨c, unspent, hk, _⟩ := hdead
  have hfollows := follows_serve S s a
  obtain ⟨unspent', hk', hspent⟩ := hfollows.credential hk
  refine ⟨c, unspent', hk', fun hunspent hopen => ?_⟩
  simp only [AuthDb.redeemable, hk, Option.any_some, hspent hunspent, Bool.true_and,
    decide_eq_true hopen, List.all_eq_false, Bool.or_eq_true, List.contains_iff_mem, not_or] at hguard
  obtain ⟨h, hmem, hinactive, hasleep⟩ := hguard
  refine ⟨h, hmem, ?_⟩
  by_contra hactive
  rcases hfollows.holders h (by simpa using hactive) with hwas | hwoken
  · exact hinactive hwas
  · exact hasleep hwoken

theorem passwordReset_eq_some {user : UUID} (h : s.passwordReset S a = some user) :
    ∃ token password t u, a.call = .completePasswordReset token password ∧
      s.db.resetToken token = some t ∧ t.userId = user ∧ u.id = user ∧
      (s.serve S a).2 = ((s.db.setPassword a.draws user password).consumeResetToken (s.time a)
        t.id).revokeOpen (s.time a) u := by
  unfold AuthDesk.passwordReset at h
  cases hc : a.call with
  | completePasswordReset token password =>
    rw [hc] at h
    dsimp only at h
    split at h
    · next hok =>
      rcases serve_cases S s a with ⟨p, hwork, hserve⟩ | ⟨_, hrefused⟩
      · rw [hc] at hwork
        obtain ⟨t, u, ht, hu, rfl⟩ := completePasswordReset_eq_ok hwork
        rw [ht] at h
        cases h
        have hid : u.id = t.userId := Table.key_of_get (requireActiveUser_eq_ok.mp hu).1
        exact ⟨token, password, t, u, rfl, (requireResetToken_eq_ok.mp ht).1, rfl, hid,
          by rw [hserve, hid]⟩
      · rw [hok] at hrefused
        cases hrefused
    · cases h
  | _ => rw [hc] at h; cases h

/-- After a new password the credentials of the user are dead; the challenges were closed. -/
theorem dead_of_reset {k : CredentialId} {c : Credential} {unspent : Bool} {user : UUID}
    (hguard : s.Guarded a) (hk : s.db.credential k = some (c, unspent)) (huser : c.userId = some user)
    (hreset : s.passwordReset S a = some user) : (s.serve S a).2.Dead (s.time a) k := by
  obtain ⟨_, hcall⟩ := Bool.and_eq_true_iff.mp hguard
  obtain ⟨token, password, t, u, hc, ht, htu, hu, hserve⟩ := passwordReset_eq_some hreset
  rw [hserve]
  cases k with
  | driverSession id =>
    obtain ⟨d, _, hpair⟩ := Option.map_eq_some_iff.mp hk
    cases hpair
    cases huser
  | refreshToken id =>
    obtain ⟨r, hr, hpair⟩ := Option.map_eq_some_iff.mp hk
    cases hpair
    exact ⟨_, false, unspent_revokeOpen hr ((Option.some.inj huser).trans hu.symm), nofun⟩
  | challenge id =>
    obtain ⟨m, hm, hpair⟩ := Option.map_eq_some_iff.mp hk
    cases hpair
    refine ⟨m.credential, m.unspent, hk, fun hunspent hopen => ?_⟩
    simp only [hc, ht, htu, Option.all_some, AuthDb.challengesClosed, List.all_eq_true] at hcall
    have hm' : m.userId = user := Option.some.inj huser
    have hopen' : ¬ m.expiresAt ≤ s.time a := not_le.mpr hopen
    have hclosed := hcall m (Table.mem_of_get hm)
    simp [hm', hunspent, hopen'] at hclosed

/-- Who is switched off, or has a new password, leaves dead credentials. -/
theorem dead_of_stales {k : CredentialId} (hguard : s.Guarded a) (h : s.stales S a k = true) :
    (s.serve S a).2.Dead (s.time a) k := by
  obtain ⟨⟨c, unspent⟩, hk, hevent⟩ := (Option.any_eq_true _ _).mp h
  rcases Bool.or_eq_true_iff.mp hevent with hoff | hreset
  · obtain ⟨holder, hmem, hholder⟩ := List.any_eq_true.mp hoff
    obtain ⟨_, hinactive⟩ := Bool.and_eq_true_iff.mp hholder
    obtain ⟨unspent', hk', _⟩ := (follows_serve S s a).credential hk
    exact ⟨c, unspent', hk', fun _ _ => ⟨holder, hmem, by simpa using hinactive⟩⟩
  · obtain ⟨user, huser, hpassword⟩ := (Option.any_eq_true _ _).mp hreset
    exact dead_of_reset hguard hk huser (by simpa using hpassword)

/-- Everything from before an event is dead. -/
def AuthDesk.Settled (s : AuthDesk) : Prop := ∀ k ∈ s.stale, s.db.Dead s.clock k

theorem settled_step (hs : s.Settled) (hguard : s.Guarded a) : (authStep S s a).Settled := by
  intro k hk
  rcases List.mem_append.mp hk with hold | hnew
  · refine dead_step (hs k hold) ?_
    have hasleep := List.all_eq_true.mp (Bool.and_eq_true_iff.mp hguard).1 k hold
    simpa using hasleep
  · exact dead_of_stales hguard (List.mem_filter.mp hnew).2

theorem final_of_settled (hs : s.Settled) (hguard : s.Guarded a) : s.Final S a := by
  intro k hk hpresented
  rcases serve_cases S s a with ⟨p, hwork, _⟩ | ⟨_, hrefused⟩
  swap
  · exact hrefused
  exfalso
  have hlt : ∀ {t : Instant}, s.time a < t → s.clock < t := lt_of_le_of_lt (le_time s a)
  cases hc : a.call with
  | refresh token =>
    rw [hc] at hwork hpresented
    obtain ⟨b, hb⟩ := leaves_eq_ok.mp hwork
    rcases refresh_eq_ok hb with ⟨t, _, ht, hr⟩ | ⟨d, _, hnone, hd, hr⟩
    · simp only [AuthDb.presented, ht, Option.some.injEq] at hpresented
      subst hpresented
      obtain ⟨user, hreq, _⟩ := refreshUser_eq_ok hr
      obtain ⟨hcred, hnow, hactive⟩ := redeemed_of_token (List.mem_of_find?_eq_some ht) hreq
      exact not_dead hcred (hlt hnow) hactive (hs _ hk)
    · simp only [AuthDb.presented, hnone, hd, Option.map_some, Option.some.injEq] at hpresented
      subst hpresented
      obtain ⟨driver, hreq, _⟩ := refreshDriver_eq_ok hr
      obtain ⟨hcred, hnow, hdriver⟩ := redeemed_of_session (List.mem_of_find?_eq_some hd) hreq
      -- Only the driver is looked at; that the tenant and the device are active is assumed.
      obtain ⟨_, hcall⟩ := Bool.and_eq_true_iff.mp hguard
      simp only [hc, hnone, hd, Option.isSome_none, Bool.false_or, Option.all_some,
        Bool.and_eq_true] at hcall
      refine not_dead hcred (hlt hnow) (fun h hmem => ?_) (hs _ hk)
      simp only [DriverSession.credential, List.mem_cons, List.not_mem_nil, or_false] at hmem
      rcases hmem with rfl | rfl | rfl
      · exact hcall.1
      · exact hdriver
      · exact hcall.2
  | verifyMfaChallenge token code =>
    rw [hc] at hwork hpresented
    obtain ⟨b, hb⟩ := leaves_eq_ok.mp hwork
    obtain ⟨c, user, hchallenge, hu, _⟩ := verifyMfaChallenge_eq_ok hb
    obtain ⟨hfind, hcred, hnow, hactive⟩ := redeemed_of_challenge hchallenge hu
    simp only [AuthDb.presented, hfind, Option.map_some, Option.some.injEq] at hpresented
    subst hpresented
    exact not_dead hcred (hlt hnow) hactive (hs _ hk)
  | _ => rw [hc] at hpresented; cases hpresented

end Invariant

/-! ## Access tokens -/

/-- Whom an access token is about. -/
def Claims.holders (claims : Claims) : List Holder :=
  match claims.tenantId with
  | none => []
  | some tenantId =>
    .tenant tenantId ::
      match claims.scope, claims.userId, claims.driverId with
      | "dashboard", some userId, _ => [.user userId]
      | "driver_app", _, some driverId =>
        .driver driverId :: (claims.deviceId.map fun d => .device tenantId driverId d).toList
      | _, _, _ => []

theorem requireTokenUser_eq_ok {db : AuthDb} {tenantId userId : UUID} {u : Unit}
    (h : requireTokenUser db tenantId userId = .ok u) : Holder.active db (.user userId) = true := by
  simp only [requireTokenUser, bind_eq_ok, require_eq_ok, raiseIf_eq_ok, Bool.or_eq_false_iff,
    Bool.not_eq_false'] at h
  obtain ⟨user, hget, _, hactive⟩ := h
  rw [Holder.active, hget]
  exact hactive

theorem requireTokenDriver_eq_ok {db : AuthDb} {tenantId driverId : UUID} {deviceId : String}
    {u : Unit} (h : requireTokenDriver db tenantId driverId deviceId = .ok u) :
    Holder.active db (.driver driverId) = true ∧
      Holder.active db (.device tenantId driverId deviceId) = true := by
  simp only [requireTokenDriver, bind_eq_ok, require_eq_ok, raiseIf_eq_ok, Option.filter_eq_some_iff,
    Bool.not_eq_false', decide_eq_false_iff_not, not_not] at h
  obtain ⟨driver, ⟨hget, _⟩, device, hdevice, _, hactive, hstatus⟩ := h
  rw [Holder.active, Holder.active, hget, hdevice]
  exact ⟨by simpa using hstatus, hactive⟩

theorem requireHolder_eq_ok {db : AuthDb} {tenantId : UUID} {claims : Claims} {u : Unit}
    (ht : claims.tenantId = some tenantId) (htenant : Holder.active db (.tenant tenantId) = true)
    (h : requireHolder db tenantId claims = .ok u) : ∀ h ∈ claims.holders, h.active db = true := by
  unfold requireHolder at h
  unfold Claims.holders
  rw [ht]
  split at h
  · next userId hscope huser =>
    simp only [hscope, huser, List.mem_cons, List.not_mem_nil, or_false, forall_eq_or_imp, forall_eq]
    exact ⟨htenant, requireTokenUser_eq_ok h⟩
  · next driverId deviceId hscope hdriver hdevice =>
    obtain ⟨hname, _⟩ := Option.filter_eq_some_iff.mp hdevice
    obtain ⟨hactive, hdev⟩ := requireTokenDriver_eq_ok h
    simp only [hscope, hdriver, hname, Option.map_some, Option.toList_some, List.mem_cons,
      List.not_mem_nil, or_false, forall_eq_or_imp, forall_eq]
    exact ⟨htenant, hactive, hdev⟩
  · cases h

section Access

variable [Jwt] {S : AuthSettings} {db : AuthDb} {now : Instant} {authorization : Option String}
  {token : String} {claims : Claims} {xTenantId : Option UUID}

/-- An access token is accepted only while its holders are active. -/
theorem active_of_principal (htoken : authorization.bind bearerToken = some token)
    (hdev : S.isDevToken token = false) (hclaims : Jwt.decode now token = some claims)
    (hok : (getCurrentPrincipal S db now authorization xTenantId).isOk = true) :
    ∀ h ∈ claims.holders, h.active db = true := by
  obtain ⟨p, hp⟩ := eq_ok_of_isOk hok
  simp only [getCurrentPrincipal, htoken, require, bind, Except.bind, hdev, Bool.false_eq_true,
    if_false] at hp
  simp only [tokenPrincipal, requireClaims, bind_eq_ok, require_eq_ok, hclaims,
    Option.filter_eq_some_iff] at hp
  obtain ⟨⟨c, tenantId⟩, ⟨_, hc, _, _, t, ht, _, _, hpair⟩, tenant, ⟨hget, hactive⟩, _, hholder, _⟩ := hp
  cases hc
  cases hpair
  refine requireHolder_eq_ok ht ?_ hholder
  rw [Holder.active, hget]
  exact hactive

end Access

/-- Along a guarded run no credential from before an event is redeemed, and after it an access
token is accepted only while its holders are active. -/
theorem revocation_final [Locale] [Hashing] [Jwt] {S : AuthSettings} {db : AuthDb} {clock : Instant}
    {as : List AuthAction}
    (hguard : Run.Along (authStep S) AuthDesk.Guarded ⟨db, clock, []⟩ as) :
    Run.Along (authStep S) (AuthDesk.Final S) ⟨db, clock, []⟩ as ∧
      ∀ (now : Instant) (authorization : Option String) (token : String) (claims : Claims)
        (xTenantId : Option UUID), authorization.bind bearerToken = some token →
        S.isDevToken token = false → Jwt.decode now token = some claims →
        (getCurrentPrincipal S (Run.exec (authStep S) ⟨db, clock, []⟩ as).db now authorization
          xTenantId).isOk = true →
        ∀ h ∈ claims.holders, h.active (Run.exec (authStep S) ⟨db, clock, []⟩ as).db = true := by
  have hstart : AuthDesk.Settled ⟨db, clock, []⟩ := fun _ h => absurd h List.not_mem_nil
  exact ⟨Run.along_inv (fun _ _ => settled_step) (fun _ _ => final_of_settled) hstart hguard,
    fun _ _ _ _ _ htoken hdev hclaims hok => active_of_principal htoken hdev hclaims hok⟩

/-! ## Events that leave credentials -/

/-- A user with a second factor and a driver with a device, both with open credentials. -/
def signedIn : AuthDb where
  tenants := .single { id := 1, name := "Rotas" }
  users := .single { id := 1, tenantId := 1, email := "ana@rotas.mz", passwordHash := "old"
                     fullName := "Ana", mfaEnabled := true, mfaSecret := some "123456" }
  drivers := .single { id := 1, tenantId := 1 }
  driverDevices := .single { id := 1, tenantId := 1, driverId := 1, deviceId := "tablet" }
  driverSessions := .single { id := 1, tenantId := 1, driverId := 1, deviceId := "tablet"
                              tokenHash := "session", expiresAt := 1000 }
  refreshTokens := .single { id := 1, tenantId := 1, userId := 1, tokenHash := "refresh"
                             expiresAt := 1000 }
  passwordResetTokens := .single { id := 1, tenantId := 1, userId := 1, tokenHash := "reset"
                                   expiresAt := 1000 }
  mfaChallenges := .single { id := 1, tenantId := 1, userId := 1, tokenHash := "challenge"
                             expiresAt := 1000 }

/-- The calls, one second apart. -/
def inTurn (calls : List AuthCall) : List AuthAction :=
  calls.zipIdx.map fun (call, i) => { call, now := i, draws := { token := "new", jti := i } }

/-- A user refreshes, is switched off, and tries again. -/
def switchedOff : List AuthAction :=
  inTurn [.refresh "refresh", .patchUser 1 1 { isActive := some false }, .refresh "new"]

theorem revocation_final_switchedOff :
    letI := Locale.ascii; letI := Hashing.plain; letI := Jwt.only (managerClaims [])
    Run.Along (authStep { environment := "production" })
        (AuthDesk.Final { environment := "production" }) ⟨signedIn, 0, []⟩ switchedOff ∧
      ∀ (now : Instant) (authorization : Option String) (token : String) (claims : Claims)
        (xTenantId : Option UUID), authorization.bind bearerToken = some token →
        AuthSettings.isDevToken { environment := "production" } token = false →
        Jwt.decode now token = some claims →
        (getCurrentPrincipal { environment := "production" }
          (Run.exec (authStep { environment := "production" }) ⟨signedIn, 0, []⟩ switchedOff).db now
          authorization xTenantId).isOk = true →
        ∀ h ∈ claims.holders, h.active (Run.exec (authStep { environment := "production" })
          ⟨signedIn, 0, []⟩ switchedOff).db = true :=
  @revocation_final .ascii .plain (.only (managerClaims [])) _ signedIn 0 switchedOff
    (by decide +kernel)

/-- A tenant is suspended, a device is switched off, a password is reset, a user comes back: what
was issued before is redeemed after it. -/
theorem redeemed_after_event :
    letI := Locale.ascii; letI := Hashing.plain; letI := Jwt.only (managerClaims [])
    ¬ ∃ calls ∈ [[.suspendTenant 1, .refresh "session"],
        [.deactivateDevice 1, .refresh "session"],
        [.completePasswordReset "reset" "new password", .verifyMfaChallenge "challenge" "123456"],
        [.patchUser 1 1 { isActive := some false }, .patchUser 1 1 { isActive := some true },
          .refresh "refresh"]],
      Run.Along (authStep { environment := "production" })
        (AuthDesk.Final { environment := "production" }) ⟨signedIn, 0, []⟩ (inTurn calls) := by
  decide +kernel

end Rotas
