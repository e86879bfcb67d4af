import Rotas.Auth.Revocation
import Rotas.Auth.RedeemTurns
import Rotas.Lib.Descent

/-!
# Rotas.Auth.SingleUse

How often a credential is redeemed when calls run at the same time.

* `Unspent`   — a call that commits finds its credential as it has read it: nobody has redeemed,
  revoked or replaced it in the meantime.
* `SingleUse` — each secret is redeemed once, and each login has one live refresh token.
* `redeemed_once` — in every interleaving of such calls.
* `redeemed_twice` — two calls with one secret that have both read it before either commits.
-/

namespace Rotas

open Interleave Table

/-! ## What is still unmarked -/

def PasswordResetToken.unspent (r : PasswordResetToken) : Bool := r.consumedAt.isNone

def Driver.hasCode (d : Driver) : Bool := d.pairingCodeHash.isSome

/-- The row of the credential is not marked, and a pairing code is the one that was read. -/
def Redemption.unmarked (s : RedeemStore) : Redemption → Bool
  | .token t _ => (s.db.refreshTokens.get t.id).any RefreshToken.unspent
  | .session d _ => (s.db.driverSessions.get d.id).any DriverSession.unspent
  | .challenge c _ => (s.db.mfaChallenges.get c.id).any MfaChallenge.unspent
  | .reset r _ _ _ _ => (s.db.passwordResetTokens.get r.id).any PasswordResetToken.unspent
  | .pairing driver issue _ _ =>
    (s.db.drivers.get driver.id).any Driver.hasCode && s.issue driver.id = issue

/-- A commit finds the credential unmarked. -/
def unspent (c : Config RedeemStore RedeemPhase) (m : Nat × RedeemAction) : Bool :=
  match m.2, c.parties m.1 with
  | .commit _ _, .updated _ r => r.unmarked c.store
  | _, _ => true

def Unspent (c : Config RedeemStore RedeemPhase) (m : Nat × RedeemAction) : Prop :=
  unspent c m = true

instance (c : Config RedeemStore RedeemPhase) (m : Nat × RedeemAction) : Decidable (Unspent c m) :=
  inferInstanceAs (Decidable (_ = true))

/-! ## The invariant -/

/-- The secret cannot be redeemed again. -/
def Secret.Used (s : RedeemStore) : Secret → Prop
  | .refreshToken id => ∃ t, s.db.refreshTokens.get id = some t ∧ t.unspent = false
  | .driverSession id => ∃ d, s.db.driverSessions.get id = some d ∧ d.unspent = false
  | .challenge id => ∃ c, s.db.mfaChallenges.get id = some c ∧ c.unspent = false
  | .resetToken id => ∃ r, s.db.passwordResetTokens.get id = some r ∧ r.unspent = false
  | .pairingCode driverId issue => issue < s.issue driverId ∨ issue = s.issue driverId ∧
      ∃ d, s.db.drivers.get driverId = some d ∧ d.hasCode = false

/-- A login that has begun: its token is there, or its challenge is consumed. -/
def Origin.Begun (db : AuthDb) : Origin → Prop
  | .token id => ∃ t, db.refreshTokens.get id = some t
  | .challenge id => ∃ c, db.mfaChallenges.get id = some c ∧ c.unspent = false

structure SingleUse (s : RedeemStore) : Prop where
  once : s.log.Nodup
  used : ∀ x ∈ s.log, x.Used s
  tokensBegun : ∀ t ∈ s.db.refreshTokens, (s.tokenOrigin t.id).Begun s.db
  sessionsBegun : ∀ d ∈ s.db.driverSessions, ∃ d₀, s.db.driverSessions.get (s.sessionOrigin d.id)
    = some d₀
  oneToken : OneLive s.tokenOrigin RefreshToken.unspent s.db.refreshTokens
  oneSession : OneLive s.sessionOrigin DriverSession.unspent s.db.driverSessions

theorem singleUse_start (db : AuthDb) (clock : Instant) :
    SingleUse (redeemStart db clock).store where
  once := List.nodup_nil
  used := fun _ h => absurd h List.not_mem_nil
  tokensBegun := fun t ht => ⟨t, get_of_mem ht⟩
  sessionsBegun := fun d hd => ⟨d, get_of_mem hd⟩
  oneToken := oneLive_start (fun _ _ h => by cases h; rfl) _
  oneSession := oneLive_start Function.injective_id _

/-! ## What is marked stays marked -/

/-- Rows stay, and what is marked in them is not unmarked. -/
structure Advances (db db' : AuthDb) : Prop where
  refreshTokens : Grows RefreshToken.credential RefreshToken.unspent (fun _ => True)
    db.refreshTokens db'.refreshTokens
  driverSessions : Grows DriverSession.credential DriverSession.unspent (fun _ => True)
    db.driverSessions db'.driverSessions
  mfaChallenges : Grows MfaChallenge.credential MfaChallenge.unspent (fun _ => True)
    db.mfaChallenges db'.mfaChallenges
  resetTokens : Grows PasswordResetToken.userId PasswordResetToken.unspent (fun _ => True)
    db.passwordResetTokens db'.passwordResetTokens

theorem spent_of_grows {ρ β : Type} [Keyed ρ] {label : ρ → β} {live : ρ → Bool} {P : β → Prop}
    {t t' : Table ρ} (h : Grows label live P t t') {k : Nat}
    (hspent : ∃ r, t.get k = some r ∧ live r = false) : ∃ r, t'.get k = some r ∧ live r = false := by
  obtain ⟨r, hr, hdead⟩ := hspent
  obtain ⟨r', hr', _, hlive⟩ := h.get hr
  refine ⟨r', hr', Bool.eq_false_iff.mpr fun h => ?_⟩
  rw [hlive h] at hdead
  cases hdead

theorem spent_of_modify {ρ : Type} [Keyed ρ] {live : ρ → Bool} {t : Table ρ} {k : Nat} {f : ρ → ρ}
    (h : (t.get k).any live = true) (hf : ∀ r, Keyed.key (f r) = Keyed.key r)
    (hdead : ∀ r, live (f r) = false) : ∃ r, (t.modify k f hf).get k = some r ∧ live r = false := by
  obtain ⟨r, hr, _⟩ := (Option.any_eq_true _ _).mp h
  exact ⟨f r, get_modify_self hr, hdead r⟩

theorem not_spent {ρ : Type} [Keyed ρ] {live : ρ → Bool} {t : Table ρ} {k : Nat}
    (h : (t.get k).any live = true) : ¬ ∃ r, t.get k = some r ∧ live r = false := by
  rintro ⟨r, hr, hdead⟩
  rw [hr, Option.any_some, hdead] at h
  cases h

theorem used_of_advances {s s' : RedeemStore} (h : Advances s.db s'.db) {x : Secret}
    (hcode : ∀ driverId issue, (Secret.pairingCode driverId issue).Used s →
      (Secret.pairingCode driverId issue).Used s') (hused : x.Used s) : x.Used s' := by
  cases x with
  | refreshToken id => exact spent_of_grows h.refreshTokens hused
  | driverSession id => exact spent_of_grows h.driverSessions hused
  | challenge id => exact spent_of_grows h.mfaChallenges hused
  | resetToken id => exact spent_of_grows h.resetTokens hused
  | pairingCode driverId issue => exact hcode driverId issue hused

theorem begun_of_advances {db db' : AuthDb} (h : Advances db db') {o : Origin} (ho : o.Begun db) :
    o.Begun db' := by
  cases o with
  | token id =>
    obtain ⟨t, ht⟩ := ho
    obtain ⟨t', ht', _⟩ := h.refreshTokens.get ht
    exact ⟨t', ht'⟩
  | challenge id => exact spent_of_grows h.mfaChallenges ho

theorem Advances.refl (db : AuthDb) : Advances db db := ⟨.refl _, .refl _, .refl _, .refl _⟩

theorem advances_of_follows {db db' : AuthDb} (h : Follows [] db db')
    (hr : db'.passwordResetTokens = db.passwordResetTokens) : Advances db db' :=
  ⟨h.refreshTokens, h.driverSessions, h.mfaChallenges, hr ▸ .refl _⟩

theorem SingleUse.of_frame {s : RedeemStore} (h : SingleUse s) (clock : Instant)
    (locks : Locks AuthRow) : SingleUse { s with clock, locks } :=
  { h with used := fun x hx => used_of_advances (.refl _) (fun _ _ => id) (h.used x hx) }

theorem not_used_of_unmarked {s : RedeemStore} {r : Redemption} (h : r.unmarked s = true) : ¬ r.secret.Used s := by
  cases r with
  | token t user => exact not_spent h
  | session d driver => exact not_spent h
  | challenge c user => exact not_spent h
  | reset r user newPassword tokens sessions => exact not_spent h
  | pairing driver issue payload device =>
    obtain ⟨hcode, hissue⟩ := Bool.and_eq_true_iff.mp h
    rintro (hlt | ⟨_, hnone⟩)
    · exact Nat.lt_irrefl _ (of_decide_eq_true hissue ▸ hlt)
    · exact not_spent hcode hnone

/-! ## What a redemption writes -/

section Steps

variable [Hashing] {S : AuthSettings} {now : Instant} {draws : Draws}
  {caller : Caller} {s s' : RedeemStore} {r : Redemption} {i : Nat}

theorem advances_write (S : AuthSettings) (now : Instant) (draws : Draws) (caller : Caller)
    (db : AuthDb) (r : Redemption) : Advances db (r.write S now draws caller db) := by
  cases r with
  | token t user =>
    exact advances_of_follows ((follows_revokeToken t.id).trans
      (follows_addRefreshToken user)) rfl
  | session d driver =>
    exact advances_of_follows ((follows_revokeDriverSession d.id).trans
      (follows_addDriverSession driver d.deviceId)) rfl
  | challenge c user =>
    exact advances_of_follows (((follows_consumeChallenge c.id).trans
      (follows_touchLogin user.id)).trans (follows_addRefreshToken user)) rfl
  | reset r user newPassword tokens sessions =>
    exact ⟨grows_update rfl (fun _ => rfl) fun _ _ _ => ⟨rfl, nofun⟩,
      grows_update rfl (fun _ => rfl) fun _ _ _ => ⟨rfl, nofun⟩, .refl _,
      grows_update rfl (fun _ => rfl) fun _ _ _ => ⟨rfl, nofun⟩⟩
  | pairing driver issue payload device =>
    cases device <;>
      exact ⟨.refl _, grows_append (rows_insert ..) trivial, .refl _, .refl _⟩

/-- The drivers keep their codes, but for the one that is paired. -/
theorem drivers_write (S : AuthSettings) (now : Instant) (draws : Draws) (caller : Caller)
    (db : AuthDb) (r : Redemption) : (r.write S now draws caller db).drivers =
      match r with
      | .pairing driver _ _ _ => db.drivers.modify driver.id fun d =>
        { d with pairingCodeHash := none, pairingCodeExpiresAt := none }
      | _ => db.drivers := by
  cases r with
  | pairing driver issue payload device => cases device <;> rfl
  | _ => rfl

/-- A driver who has no code is not given one by a redemption. -/
theorem noCode_write {driverId : UUID} {db : AuthDb}
    (h : ∃ d, db.drivers.get driverId = some d ∧ d.hasCode = false) :
    ∃ d, (r.write S now draws caller db).drivers.get driverId = some d ∧ d.hasCode = false := by
  rw [drivers_write]
  cases r with
  | pairing driver issue payload device =>
    have hgrows : Grows (fun _ => ()) Driver.hasCode (fun _ => True) db.drivers
        (db.drivers.modify driver.id fun d =>
          { d with pairingCodeHash := none, pairingCodeExpiresAt := none }) :=
      grows_update rfl (fun _ => rfl) fun _ _ _ => ⟨rfl, nofun⟩
    exact spent_of_grows hgrows h
  | _ => exact h

theorem used_write (h : r.unmarked s = true) (hdb : s'.db = r.write S now draws caller s.db)
    (hissue : s'.issue = s.issue) : r.secret.Used s' := by
  cases r with
  | token t user =>
    rw [Redemption.secret, Secret.Used, hdb]
    exact spent_of_grows (advances_of_follows (follows_addRefreshToken user) rfl).refreshTokens
      (spent_of_modify h (by intro; rfl) (by intro; rfl))
  | session d driver =>
    rw [Redemption.secret, Secret.Used, hdb]
    exact spent_of_grows (advances_of_follows (follows_addDriverSession driver d.deviceId) rfl).driverSessions
      (spent_of_modify h (by intro; rfl) (by intro; rfl))
  | challenge c user =>
    rw [Redemption.secret, Secret.Used, hdb]
    exact spent_of_modify h (by intro; rfl) (by intro; rfl)
  | reset r user newPassword tokens sessions =>
    rw [Redemption.secret, Secret.Used, hdb]
    exact spent_of_modify h (by intro; rfl) (by intro; rfl)
  | pairing driver issue payload device =>
    obtain ⟨hcode, hcount⟩ := Bool.and_eq_true_iff.mp h
    refine .inr ⟨by rw [hissue]; exact (of_decide_eq_true hcount).symm, ?_⟩
    rw [hdb, drivers_write]
    exact spent_of_modify hcode (by intro; rfl) (by intro; rfl)

theorem oneToken_write (h : SingleUse s) (hr : r.unmarked s = true) :
    OneLive (s.tokenOrigins r) RefreshToken.unspent
      (r.write S now draws caller s.db).refreshTokens := by
  cases r with
  | token t user =>
    obtain ⟨t₀, hget, hlive⟩ := (Option.any_eq_true _ _).mp hr
    obtain ⟨hmem, hid⟩ := get_eq_some_iff.mp hget
    change OneLive (Function.update s.tokenOrigin s.db.refreshTokens.freshKey (s.tokenOrigin t.id))
      RefreshToken.unspent ((s.db.refreshTokens.modify t.id _).insert _)
    rw [← hid]
    exact h.oneToken.replace hmem hlive fun _ => rfl
  | challenge c user =>
    refine h.oneToken.insert fun t ht hlive horigin => ?_
    have hbegun := h.tokensBegun t ht
    rw [show s.tokenOrigin t.id = .challenge c.id from horigin] at hbegun
    exact not_spent hr hbegun
  | reset r user newPassword tokens sessions => exact h.oneToken.kill (by intro; rfl) (by intro; rfl)
  | session d driver => exact h.oneToken
  | pairing driver issue payload device => cases device <;> exact h.oneToken

theorem oneSession_write (h : SingleUse s) (hr : r.unmarked s = true) :
    OneLive (s.sessionOrigins r) DriverSession.unspent
      (r.write S now draws caller s.db).driverSessions := by
  have hpairing : ∀ d ∈ s.db.driverSessions, d.unspent = true →
      s.sessionOrigin d.id ≠ s.db.driverSessions.freshKey := by
    intro d hd _ horigin
    obtain ⟨d₀, hd₀⟩ := h.sessionsBegun d hd
    rw [horigin, get_freshKey] at hd₀
    cases hd₀
  cases r with
  | session d driver =>
    obtain ⟨d₀, hget, hlive⟩ := (Option.any_eq_true _ _).mp hr
    obtain ⟨hmem, hid⟩ := get_eq_some_iff.mp hget
    change OneLive (Function.update s.sessionOrigin s.db.driverSessions.freshKey
      (s.sessionOrigin d.id)) DriverSession.unspent ((s.db.driverSessions.modify d.id _).insert _)
    rw [← hid]
    exact h.oneSession.replace hmem hlive fun _ => rfl
  | pairing driver issue payload device => cases device <;> exact h.oneSession.insert hpairing
  | reset r user newPassword tokens sessions => exact h.oneSession.kill (by intro; rfl) (by intro; rfl)
  | token t user => exact h.oneSession
  | challenge c user => exact h.oneSession

theorem tokensBegun_write (h : SingleUse s) (hr : r.unmarked s = true) :
    ∀ t ∈ (r.write S now draws caller s.db).refreshTokens,
      (s.tokenOrigins r t.id).Begun (r.write S now draws caller s.db) := by
  have hadvances := advances_write S now draws caller s.db r
  have hold : ∀ t ∈ s.db.refreshTokens,
      (s.tokenOrigin t.id).Begun (r.write S now draws caller s.db) :=
    fun t ht => begun_of_advances hadvances (h.tokensBegun t ht)
  cases r with
  | token t user =>
    obtain ⟨t₀, hget, _⟩ := (Option.any_eq_true _ _).mp hr
    obtain ⟨hmem, hid⟩ := get_eq_some_iff.mp hget
    have hbegun := hold t₀ hmem
    rw [show t₀.id = t.id from hid] at hbegun
    exact forall_origin_replace hold hbegun (by intro; rfl) (by intro; rfl)
  | challenge c user =>
    have hconsumed : (Origin.challenge c.id).Begun
        ((Redemption.challenge c user).write S now draws caller s.db) :=
      spent_of_modify hr (by intro; rfl) (by intro; rfl)
    exact forall_origin_insert hold hconsumed (by intro; rfl)
  | reset r user newPassword tokens sessions => exact forall_origin_modifyAll hold (by intro; rfl)
  | session d driver => exact hold
  | pairing driver issue payload device => cases device <;> exact hold

theorem sessionsBegun_write (h : SingleUse s) (hr : r.unmarked s = true) :
    ∀ d ∈ (r.write S now draws caller s.db).driverSessions,
      ∃ d₀, (r.write S now draws caller s.db).driverSessions.get (s.sessionOrigins r d.id) =
        some d₀ := by
  have hadvances := advances_write S now draws caller s.db r
  have hold : ∀ d ∈ s.db.driverSessions, ∃ d₀,
      (r.write S now draws caller s.db).driverSessions.get (s.sessionOrigin d.id) = some d₀ := by
    intro d hd
    obtain ⟨d₀, hd₀⟩ := h.sessionsBegun d hd
    obtain ⟨d₁, hd₁, _⟩ := hadvances.driverSessions.get hd₀
    exact ⟨d₁, hd₁⟩
  cases r with
  | session d driver =>
    obtain ⟨d₀, hget, _⟩ := (Option.any_eq_true _ _).mp hr
    obtain ⟨hmem, hid⟩ := get_eq_some_iff.mp hget
    have hbegun := hold d₀ hmem
    rw [show d₀.id = d.id from hid] at hbegun
    exact forall_origin_replace (P := fun k => ∃ d₀, Table.get _ k = some d₀) hold hbegun
      (by intro; rfl) (by intro; rfl)
  | pairing driver issue payload device =>
    cases device <;>
      exact forall_origin_insert (P := fun k => ∃ d₀, Table.get _ k = some d₀) hold
        ⟨_, get_of_mem ((mem_insert ..).mpr (.inr rfl))⟩ (by intro; rfl)
  | reset r user newPassword tokens sessions =>
    exact forall_origin_modifyAll (P := fun k => ∃ d₀, Table.get _ k = some d₀) hold (by intro; rfl)
  | token t user => exact hold
  | challenge c user => exact hold

theorem singleUse_finish (h : SingleUse s) (hr : r.unmarked s = true) :
    SingleUse (s.finish S i now draws caller r) := by
  rw [RedeemStore.finish]
  split
  · refine ⟨?_, fun x hx => ?_, tokensBegun_write h hr, sessionsBegun_write h hr,
      oneToken_write h hr, oneSession_write h hr⟩
    · rw [List.nodup_append]
      refine ⟨h.once, List.nodup_singleton _, fun x hx y hy hxy => ?_⟩
      rw [List.mem_singleton.mp hy] at hxy
      exact not_used_of_unmarked hr (hxy ▸ h.used x hx)
    · rcases List.mem_append.mp hx with hold | hnew
      · refine used_of_advances (advances_write S now draws caller s.db r) ?_ (h.used x hold)
        rintro driverId issue (hlt | ⟨heq, hnone⟩)
        · exact .inl hlt
        · exact .inr ⟨heq, noCode_write hnone⟩
      · rw [List.mem_singleton.mp hnew]
        exact used_write hr rfl rfl
  · exact h.of_frame _ _

end Steps

/-! ## Logins and new codes -/

theorem singleUse_issueCode [Hashing] {s : RedeemStore} {tenantId driverId : UUID} {code : String}
    (h : SingleUse s) :
    SingleUse (s.issueCode tenantId driverId code) := by
  rw [RedeemStore.issueCode]
  split
  · exact h
  · next _ db hissue =>
    split
    · simp only [issuePairingCode, bind_eq_ok, pure, Except.pure, Except.ok.injEq, Prod.mk.injEq]
        at hissue
      obtain ⟨driver, _, _, _, _, rfl⟩ := hissue
      refine ⟨h.once, fun x hx => ?_, h.tokensBegun, h.sessionsBegun, h.oneToken, h.oneSession⟩
      refine used_of_advances ?_ (fun other issue hcode => ?_) (h.used x hx)
      · exact ⟨.refl _, .refl _, .refl _, .refl _⟩
      by_cases hother : other = driverId
      · subst hother
        left
        simp only [Function.update_self]
        rcases hcode with hlt | ⟨heq, _⟩
        · exact Nat.lt_succ_of_lt hlt
        · exact heq ▸ Nat.lt_succ_self _
      · simp only [Secret.Used, Function.update_of_ne hother, AuthDb.setPairingCode,
          get_modify_ne hother]
        exact hcode
    · exact h

/-- What a login leaves of the credentials: one more token, or none. -/
theorem singleUse_login {s : RedeemStore} {db : AuthDb} (h : SingleUse s) (hadvances : Advances s.db db)
    (hdrivers : db.drivers = s.db.drivers) (hsessions : db.driverSessions = s.db.driverSessions)
    (htokens : db.refreshTokens = s.db.refreshTokens ∨
      ∃ mk hk, db.refreshTokens = s.db.refreshTokens.insert mk hk) :
    SingleUse { s with
      db
      tokenOrigin := Function.update s.tokenOrigin s.db.refreshTokens.freshKey
        (.token s.db.refreshTokens.freshKey) } := by
  have hold : ∀ t ∈ s.db.refreshTokens, (s.tokenOrigin t.id).Begun db :=
    fun t ht => begun_of_advances hadvances (h.tokensBegun t ht)
  have hused : ∀ x ∈ s.log, x.Used { s with db } := by
    refine fun x hx => used_of_advances hadvances (fun driverId issue hcode => ?_) (h.used x hx)
    rw [Secret.Used, hdrivers]
    exact hcode
  rcases htokens with htokens | ⟨mk, hk, htokens⟩
  · refine ⟨h.once, hused, ?_, hsessions ▸ h.sessionsBegun, ?_, hsessions ▸ h.oneSession⟩
    · rw [htokens]
      exact forall_origin_freshen hold
    · rw [htokens]
      exact h.oneToken.freshen
  · have hbegun : (Origin.token s.db.refreshTokens.freshKey).Begun db :=
      ⟨mk _, by rw [htokens, get_insert, if_pos rfl]⟩
    refine ⟨h.once, hused, ?_, hsessions ▸ h.sessionsBegun, ?_, hsessions ▸ h.oneSession⟩
    · rw [htokens]
      exact forall_origin_insert hold hbegun hk
    · rw [htokens]
      refine h.oneToken.insert fun t ht _ horigin => ?_
      have hthere := h.tokensBegun t ht
      rw [show s.tokenOrigin t.id = _ from horigin] at hthere
      obtain ⟨t', ht'⟩ := hthere
      rw [get_freshKey] at ht'
      cases ht'

section Logins

variable [Locale] [Hashing] [Jwt] {S : AuthSettings} {now : Instant} {draws : Draws}
  {caller : Caller} {s : RedeemStore} {db p : AuthDb} {payload : LoginRequest}

theorem login_eq_ok {a : MfaRequired ⊕ TokenResponse UserPayload}
    (h : login S now draws caller payload db = .ok (a, p)) : ∃ user,
      p = (db.touchLogin now user.id).addChallenge now draws caller user ∨
      p = (db.touchLogin now user.id).addRefreshToken S now draws caller user := by
  simp only [login, bind_eq_ok] at h
  obtain ⟨user, _, h⟩ := h
  refine ⟨user, ?_⟩
  split at h <;> cases h
  · exact .inl rfl
  · exact .inr rfl

theorem singleUse_logIn (h : SingleUse s) : SingleUse (s.logIn S payload draws caller) := by
  rw [RedeemStore.logIn]
  rcases Work.perform_cases (fun db => login S s.clock draws caller payload db) s.db with
    heq | ⟨a, hlogin, _⟩
  · rw [heq]
    exact singleUse_login h (.refl _) rfl rfl (.inl rfl)
  · have hadvances : Follows [] s.db _ := follows_login hlogin
    obtain ⟨user, heq | heq⟩ := login_eq_ok hlogin <;> rw [heq] at hadvances ⊢
    · exact singleUse_login h (advances_of_follows hadvances rfl) rfl rfl (.inl rfl)
    · exact singleUse_login h (advances_of_follows hadvances rfl) rfl rfl
        (.inr ⟨_, _, by rw [AuthDb.addRefreshToken, AuthDb.touchLogin]⟩)

end Logins

/-! ## Every interleaving -/

section Turns

variable [Locale] [Hashing] [Jwt] {S : AuthSettings}

theorem redeemTurn_cases {i : Nat} {act : RedeemAction} {s s' : RedeemStore} {p p' : RedeemPhase}
    (h : redeemTurn S i act s p = some (s', p')) :
    (∃ clock locks, s' = { s with clock, locks }) ∨
    (∃ draws caller now r, act = .commit draws caller ∧ p = .updated now r ∧
      s' = s.finish S i now draws caller r) ∨
    (∃ payload draws caller, s' = s.logIn S payload draws caller) ∨
    ∃ tenantId driverId code, s' = s.issueCode tenantId driverId code := by
  unfold redeemTurn at h
  split at h
  · split at h <;> cases h <;> exact .inl ⟨_, _, rfl⟩
  · split at h <;> cases h <;> exact .inl ⟨_, _, rfl⟩
  · split at h <;> cases h <;> exact .inl ⟨_, _, rfl⟩
  · split at h <;> cases h
    exact .inl ⟨_, _, rfl⟩
  · obtain ⟨r, _, hr⟩ := Option.map_eq_some_iff.mp h
    cases hr
    exact .inl ⟨_, _, rfl⟩
  · split at h <;> cases h
    exact .inr (.inl ⟨_, _, _, _, rfl, rfl, rfl⟩)
  · cases h
    exact .inr (.inr (.inl ⟨_, _, _, rfl⟩))
  · split at h <;> cases h
    exact .inr (.inr (.inr ⟨_, _, _, rfl⟩))
  · cases h
    exact .inl ⟨_, _, rfl⟩
  · cases h
    exact .inl ⟨_, _, rfl⟩
  · cases h

theorem singleUse_move {c : Config RedeemStore RedeemPhase} {m : Nat × RedeemAction}
    (h : SingleUse c.store) (hunspent : Unspent c m) :
    SingleUse (move (redeemTurn S) c m).store := by
  rcases move_cases (redeemTurn S) c m with heq | ⟨s, p, hturn, heq⟩ <;> rw [heq]
  · exact h
  obtain ⟨i, act⟩ := m
  rcases redeemTurn_cases hturn with ⟨clock, locks, rfl⟩ | ⟨draws, caller, now, r, rfl, hp, rfl⟩ |
    ⟨payload, draws, caller, rfl⟩ | ⟨tenantId, driverId, code, rfl⟩
  · exact h.of_frame clock locks
  · rw [Unspent, unspent, show c.parties _ = _ from hp] at hunspent
    exact singleUse_finish h hunspent
  · exact singleUse_logIn h
  · exact singleUse_issueCode h

theorem singleUse_run {db : AuthDb} {clock : Instant} {ms : List (Nat × RedeemAction)}
    (hunspent : Run.Along (move (redeemTurn S)) Unspent (redeemStart db clock) ms) :
    SingleUse (redeemRun S db clock ms).store := by
  have hstep : ∀ (c : Config RedeemStore RedeemPhase) m, SingleUse c.store → Unspent c m →
      SingleUse (move (redeemTurn S) c m).store := fun _ _ => singleUse_move
  have hrun := Run.exec_inv hstep (singleUse_start db clock) hunspent
  exact hrun

/-- If every call that commits finds its credential as it has read it, each secret is redeemed
once, and each login has one live token and one live session. -/
theorem redeemed_once (S : AuthSettings) (db : AuthDb) (clock : Instant)
    (ms : List (Nat × RedeemAction))
    (hunspent : Run.Along (move (redeemTurn S)) Unspent (redeemStart db clock) ms) :
    let s := (redeemRun S db clock ms).store
    s.log.Nodup ∧ OneLive s.tokenOrigin RefreshToken.unspent s.db.refreshTokens ∧
      OneLive s.sessionOrigin DriverSession.unspent s.db.driverSessions :=
  have h := singleUse_run hunspent
  ⟨h.once, h.oneToken, h.oneSession⟩

end Turns

/-! ## Two calls with one secret -/

/-- The turns of a call, up to its commit. -/
def RedeemRequest.turns (request : RedeemRequest) : List RedeemAction :=
  [.present request, .readHolder, .readTenant, .update, .readOpen]

/-- Two calls, one after the other. -/
def callsInTurn (first second : RedeemRequest) : List (Nat × RedeemAction) :=
  first.turns.map (0, ·) ++ [(0, .commit { token := "first", jti := 1 } {})] ++
    (second.turns.map (1, ·) ++ [(1, .commit { token := "second", jti := 2 } {})])

/-- Two calls, both of which read the secret before the first one commits. -/
def callsAtOnce (request : RedeemRequest) : List (Nat × RedeemAction) :=
  [(0, .present request), (1, .present request)] ++ request.turns.tail.map (0, ·) ++
    [(0, .commit { token := "first", jti := 1 } {})] ++ request.turns.tail.map (1, ·) ++
    [(1, .commit { token := "second", jti := 2 } {})]

def theSecrets : List RedeemRequest :=
  [.refresh "refresh", .refresh "session", .verifyMfaChallenge "challenge" "123456",
    .completePasswordReset "reset" "new password",
    .pairDriverDevice { pairingCode := "code", deviceId := "tablet" }]

/-- The driver who is signed in was given another code. -/
def withCode : AuthDb :=
  { signedIn with
    drivers := .single { id := 1, tenantId := 1, pairingCodeHash := some "code"
                         pairingCodeExpiresAt := some 1000 } }

/-- A token is redeemed, and what was given for it. -/
theorem redeemed_once_inTurn :
    letI := Locale.ascii; letI := Hashing.plain; letI := Jwt.only (managerClaims [])
    let s := (redeemRun { environment := "production" } signedIn 0
      (callsInTurn (.refresh "refresh") (.refresh "first"))).store
    s.log.Nodup ∧ OneLive s.tokenOrigin RefreshToken.unspent s.db.refreshTokens ∧
      OneLive s.sessionOrigin DriverSession.unspent s.db.driverSessions :=
  @redeemed_once .ascii .plain (.only (managerClaims [])) { environment := "production" } signedIn 0
    (callsInTurn (.refresh "refresh") (.refresh "first")) (by decide +kernel)

/-- Each kind of secret is redeemed twice by two calls that have both read it. -/
theorem redeemed_twice :
    letI := Locale.ascii; letI := Hashing.plain; letI := Jwt.only (managerClaims [])
    ¬ ∃ request ∈ theSecrets,
      (redeemRun { environment := "production" } withCode 0 (callsAtOnce request)).store.log.Nodup :=
  by decide +kernel

end Rotas
