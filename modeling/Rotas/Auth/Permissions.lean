import Rotas.Auth.Service

/-!
# Rotas.Auth.Permissions

What a user may do, and what the principal of the user's access token may do.

* `Jwt.Issues` — the token of some claims is read back as these claims.
* `permissions_survive` — the principal has the permissions of the user, unless the user has none
  and the role has some: an empty claim is read as no claim.
* `emptied_role_reads` — a custom role without permissions, and the role behind it.
-/

namespace Rotas

/-- The token of the claims is read back at the time as these claims, and is not the token of
the settings. -/
structure Jwt.Issues [Jwt] (S : AuthSettings) (now : Instant) (claims : Claims) : Prop where
  decodes : Jwt.decode now (Jwt.encode claims) = some claims
  notDev : S.isDevToken (Jwt.encode claims) = false

theorem hasAnyPermission_iff {p : Principal} {required : Finset String} :
    p.hasAnyPermission required = true ↔ (p.effective ∩ required).Nonempty := by
  rw [Principal.hasAnyPermission, decide_eq_true_eq]

theorem meets_same_iff {A B : Finset String} :
    (∀ R : Finset String, (A ∩ R).Nonempty ↔ (B ∩ R).Nonempty) ↔ A = B := by
  constructor
  · intro h
    ext x
    simpa [Finset.Nonempty] using h {x}
  · rintro rfl R
    exact Iff.rfl

section Decode

variable [Jwt] {S : AuthSettings} {db : AuthDb} {now later : Instant} {jti : UUID}
  {r : AccessRequest} {p : Principal} {xTenantId : Option UUID}

theorem principal_of_access (hjwt : Jwt.Issues S later (accessClaims S now jti r))
    (hp : getCurrentPrincipal S db later
      (some ("Bearer " ++ (createAccessToken S now jti r).1)) xTenantId = .ok p) :
    p.role = r.role ∧
      p.permissions = ((r.permissions.map Finset.sort).filter (· ≠ [])).map List.toFinset := by
  have htoken : tokenPrincipal db later (Jwt.encode (accessClaims S now jti r)) xTenantId = .ok p := by
    simpa only [getCurrentPrincipal, createAccessToken, Option.bind_some, bearerToken_bearer,
      require, bind, Except.bind, hjwt.notDev, Bool.false_eq_true, if_false] using hp
  simp only [tokenPrincipal, requireClaims, bind_eq_ok, require_eq_ok, hjwt.decodes] at htoken
  obtain ⟨⟨claims, tenantId⟩, ⟨_, hclaims, _, _, _, _, _, _, hpair⟩, _, _, _, _, hprincipal⟩ := htoken
  cases hclaims
  cases hpair
  cases hprincipal
  exact ⟨rfl, rfl⟩

end Decode

/-- A set of permissions as it comes out of the token: an empty one is lost. -/
theorem perms_roundTrip (P : Finset String) :
    (((some P).map Finset.sort).filter (· ≠ [])).map List.toFinset =
      if P = ∅ then none else some P := by
  by_cases hP : P = ∅
  · rw [hP, if_pos rfl, Option.map_some, Finset.sort_empty]
    rfl
  · have hsort : P.sort ≠ [] := by
      intro h
      exact hP (by rw [← P.sort_toFinset (· ≤ ·), h, List.toFinset_nil])
    rw [if_neg hP, Option.map_some, Option.filter_some_pos (by simpa using hsort), Option.map_some,
      Finset.sort_toFinset]

section Survive

variable [Hashing] [Jwt] {S : AuthSettings} {db live : AuthDb} {now later : Instant}
  {draws : Draws} {caller : Caller} {user : User} {xTenantId : Option UUID} {p : Principal}

/-- The permissions of the principal that a user's access token names. -/
theorem effective_of_user
    (hjwt : Jwt.Issues S later (accessClaims S now draws.jti (userAccess db user)))
    (hp : getCurrentPrincipal S live later
      (some ("Bearer " ++ (createUserTokens S now draws caller user db).1.accessToken)) xTenantId
        = .ok p) :
    p.effective = if loadUserPermissions db user = ∅ then rolePermissions user.role
      else loadUserPermissions db user := by
  obtain ⟨hrole, hperms⟩ := principal_of_access hjwt hp
  rw [Principal.effective, hrole, hperms]
  change ((((some (loadUserPermissions db user)).map Finset.sort).filter (· ≠ [])).map
    List.toFinset).getD _ = _
  rw [perms_roundTrip]
  split <;> rfl

/-- The principal of a user's access token has the permissions of the user, unless the user has
none while the role has some. -/
theorem permissions_survive
    (hjwt : Jwt.Issues S later (accessClaims S now draws.jti (userAccess db user)))
    (hp : getCurrentPrincipal S live later
      (some ("Bearer " ++ (createUserTokens S now draws caller user db).1.accessToken)) xTenantId
        = .ok p) :
    (∀ R : Finset String, p.hasAnyPermission R = true ↔ (loadUserPermissions db user ∩ R).Nonempty) ↔
      (loadUserPermissions db user).Nonempty ∨ rolePermissions user.role = ∅ := by
  simp only [hasAnyPermission_iff]
  rw [meets_same_iff, effective_of_user hjwt hp]
  by_cases hS : loadUserPermissions db user = ∅
  · simp [hS]
  · simp [hS, Finset.nonempty_iff_ne_empty]

end Survive

/-! ## Custom roles -/

/-- A signature that only knows one token. -/
@[reducible] def Jwt.only (claims : Claims) : Jwt where
  encode _ := "signed"
  decode now token := if token = "signed" && now < claims.exp then some claims else none
  str id := toString id

/-- Hashes that keep their text. -/
@[reducible] def Hashing.plain : Hashing where
  hashToken token := token
  hashPassword salt password := salt ++ password
  verifyPassword password encoded := password = encoded
  verifyTotpCode _ secret code := secret = code

/-- A tenant with a custom role for its one manager. -/
def oneRole (permissions : List String) : AuthDb where
  tenants := .single { id := 1, name := "Rotas" }
  tenantRoles := .single { id := 1, tenantId := 1, name := "Custom", slug := "custom", permissions }
  users := .single { id := 1, tenantId := 1, email := "ana@rotas.mz", passwordHash := ""
                     fullName := "Ana", role := "manager", customRoleId := some 1 }

def theManager : User where
  id := 1
  tenantId := 1
  email := "ana@rotas.mz"
  passwordHash := ""
  fullName := "Ana"
  role := "manager"
  customRoleId := some 1

def managerClaims (perms : List String) : Claims where
  sub := "dashboard:1"
  typ := "access"
  scope := "dashboard"
  role := some "manager"
  iat := 0
  exp := 900
  jti := 7
  tenantId := some 1
  userId := some 1
  perms := some perms

/-- Whether the principal of the manager's access token holds one of the required permissions. -/
def managerMay (permissions : List String) (required : Finset String) : Bool :=
  letI := Jwt.only (managerClaims permissions)
  letI := Hashing.plain
  match getCurrentPrincipal { environment := "production" } (oneRole permissions) 60
      (some ("Bearer " ++ (createUserTokens { environment := "production" } 0
        { token := "r", jti := 7 } {} theManager (oneRole permissions)).1.accessToken)) with
  | .ok p => p.hasAnyPermission required
  | .error _ => false

theorem permissions_survive_custom :
    letI := Jwt.only (managerClaims ["trips.read"])
    ((∀ R : Finset String, Principal.hasAnyPermission
        { subject := "dashboard:1", tenantId := some 1, scope := "dashboard"
          role := some "manager", userId := some 1, permissions := some {"trips.read"} } R = true ↔
        (loadUserPermissions (oneRole ["trips.read"]) theManager ∩ R).Nonempty) ↔
      (loadUserPermissions (oneRole ["trips.read"]) theManager).Nonempty ∨
        rolePermissions theManager.role = ∅) :=
  letI := Jwt.only (managerClaims ["trips.read"])
  letI := Hashing.plain
  @permissions_survive _ _ { environment := "production" } (oneRole ["trips.read"])
    (oneRole ["trips.read"]) 0 60 { token := "r", jti := 7 } {} theManager none _
    ⟨by decide +kernel, by decide +kernel⟩
    (by rw [getCurrentPrincipal, Option.bind_some, bearerToken_bearer]; rfl)

/-- A custom role without permissions leaves its manager the permissions of a manager. -/
theorem emptied_role_reads :
    loadUserPermissions (oneRole []) theManager = ∅ ∧ managerMay [] {"fleet.read"} = true := by
  decide +kernel

end Rotas
