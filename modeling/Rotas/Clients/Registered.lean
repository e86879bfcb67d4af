import Rotas.Clients.Create

/-!
# Rotas.Clients.Registered

What every run of registrations keeps, however they overlap.

* `AtMostOne`    — the rows of a tenant and NUIT.
* `Complete`     — a client, with all that it rests on.
* `Registered`   — what is claimed of a state.
* `StoreInv`, `PhaseInv` — what holds of the rows, and of a call that is under way.
* `registered_run` — every run keeps it, if no role is there when one is flushed and what is sent
  fits its columns.
-/

namespace Rotas
namespace Registration

open Interleave Inserts

/-! ## What is claimed -/

/-- A row is about the third party of a tenant and NUIT. -/
def isThirdParty (tenantId : UUID) (nuit : String) (row : Row) : Bool :=
  (row.thirdPartyId? tenantId nuit).isSome

def isOf (tenantId : UUID) (nuit : String) (rows : List Row) (id : UUID) : Bool :=
  rows.any fun row => row.thirdPartyId? tenantId nuit = some id

def isRole (tenantId : UUID) (nuit : String) (rows : List Row) : Row → Bool
  | .role row => row.roleType = "client" && isOf tenantId nuit rows row.thirdPartyId
  | _ => false

def isProfile (tenantId : UUID) (nuit : String) (rows : List Row) : Row → Bool
  | .profile row => isOf tenantId nuit rows row.thirdPartyId
  | _ => false

def isClient (tenantId : UUID) (nuit : String) : Row → Bool
  | .client row => row.tenantId = tenantId && row.nuit = nuit
  | _ => false

structure AtMostOne (rows : List Row) (tenantId : UUID) (nuit : String) : Prop where
  thirdParty : rows.countP (isThirdParty tenantId nuit) ≤ 1
  role : rows.countP (isRole tenantId nuit rows) ≤ 1
  profile : rows.countP (isProfile tenantId nuit rows) ≤ 1
  client : rows.countP (isClient tenantId nuit) ≤ 1

/-- The third party of a call. -/
def Found (rows : List Row) (call : Call) (thirdPartyId : UUID) : Prop :=
  ∃ row, Row.thirdParty row ∈ rows ∧ row.id = thirdPartyId ∧ row.tenantId = call.tenantId ∧
    row.nuit = some call.nuit

/-- The client is there, with its third party, and this one's role and profile. -/
def Complete (rows : List Row) (call : Call) (client : Client) : Prop :=
  ∃ thirdPartyId, Found rows call thirdPartyId ∧ .role thirdPartyId "client" ∈ keys rows ∧
    .profile thirdPartyId ∈ keys rows ∧ .client client ∈ rows ∧
    client = newClient call thirdPartyId client.id

/-- A call that is under way. -/
def Phase.active : Phase → Bool
  | .idle => false
  | .answered _ _ => false
  | _ => true

/-- The call was for the NUIT, and it succeeded. -/
def Phase.succeeded (tenantId : UUID) (nuit : String) : Phase → Bool
  | .answered call (.ok _) => call.tenantId = tenantId && call.nuit = nuit
  | _ => false

structure Registered (start : List Row) (c : Config Registry Phase) : Prop where
  unique : ∀ tenantId nuit, AtMostOne c.store.base.rows tenantId nuit
  /-- No call fails in another way. -/
  answered : ∀ j call answer, c.parties j = .answered call answer →
    (∃ client, answer = .ok client) ∨ answer = .error nuitAlreadyExists
  /-- Once a call for a NUIT without a client has ended, exactly one has succeeded. -/
  one : ∀ tenantId nuit, .client tenantId nuit ∉ keys start →
    ∀ j call answer, c.parties j = .answered call answer → call.tenantId = tenantId →
      call.nuit = nuit → ∃! winner, (c.parties winner).succeeded tenantId nuit = true
  complete : ∀ j call client, c.parties j = .answered call (.ok client) →
    Complete c.store.base.rows call client
  /-- Nothing is there but what was there and what the calls that succeeded have inserted. -/
  rows : c.store.base.rows = start ++ c.store.log.flatMap Entry.rows
  logged : ∀ e ∈ c.store.log, c.parties e.party = .answered e.call (.ok e.client)
  /-- Some call can go on, as long as one is under way. -/
  progress : ∀ j, (c.parties j).active = true →
    ∃ i, (createTurn i .go c.store (c.parties i)).isSome = true

/-! ## What a state keeps -/

/-- The place of a key in the order in which a call inserts its rows. -/
def Key.rank : Key → Nat
  | .thirdParty _ _ => 0
  | .role _ _ => 1
  | .client _ _ => 2
  | .profile _ => 3

/-- The keys that are inserted before have a lower one. -/
def Stage.rank : Stage → Nat
  | .readRole => 1
  | .autoflush _ => 1
  | .readProfile => 2
  | .flushClient _ => 2
  | .flushProfile _ _ => 3
  | .commit _ => 4

def Phase.ended : Phase → Bool
  | .answered _ _ => true
  | _ => false

def Phase.rank : Phase → Nat
  | .working stage _ => stage.rank
  | _ => 0

def Phase.rows : Phase → List Row
  | .working _ w => w.rows
  | _ => []

def Call.keys (call : Call) (thirdPartyId : UUID) : List Key :=
  [.thirdParty call.tenantId call.nuit, .role thirdPartyId "client",
    .client call.tenantId call.nuit, .profile thirdPartyId]

/-- What a call sees. -/
def Work.view (w : Work) (s : Registry) : List Row := s.base.rows ++ w.rows

structure Core (s : Registry) (w : Work) (rank : Nat) : Prop where
  fits : w.call.payload.fits = true
  found : Found (w.view s) w.call w.thirdPartyId
  issued : newIssue w.call w.thirdPartyId ∈ s.issued
  within : ∀ k ∈ keys w.rows, k ∈ w.call.keys w.thirdPartyId ∧ k.rank < rank
  given : ∀ row, Row.thirdParty row ∈ w.rows → ⟨row.id, row.tenantId, row.nuit⟩ ∈ s.issued

def RoleInv (s : Registry) (w : Work) : Prop := .role w.thirdPartyId "client" ∈ keys (w.view s)

/-- A profile that has come since one was found missing came with a client of the same NUIT. -/
def ProfileInv (s : Registry) (w : Work) : Bool → Prop
  | false => .profile w.thirdPartyId ∈ keys (w.view s)
  | true => .profile w.thirdPartyId ∈ keys s.base.rows →
      .client w.call.tenantId w.call.nuit ∈ keys s.base.rows

def ClientInv (w : Work) (clientId : UUID) : Prop :=
  .client (newClient w.call w.thirdPartyId clientId) ∈ w.rows

def StageInv (s : Registry) (w : Work) : Stage → Prop
  | .readRole => True
  | .autoflush added => added = false → RoleInv s w
  | .readProfile => RoleInv s w
  | .flushClient added => RoleInv s w ∧ ProfileInv s w added
  | .flushProfile clientId added => RoleInv s w ∧ ProfileInv s w added ∧ ClientInv w clientId
  | .commit clientId => RoleInv s w ∧ ProfileInv s w false ∧ ClientInv w clientId

def PlaceInv (i : Nat) (s : Registry) : Phase → Prop
  | .idle => True
  | .missing call => call.payload.fits = true
  | .lost call => call.payload.fits = true ∧
      .thirdParty call.tenantId call.nuit ∈ keys s.base.rows
  | .working stage w => Core s w stage.rank ∧ StageInv s w stage
  | .answered call (.ok client) => ∃ e ∈ s.log, e.party = i ∧ e.call = call ∧ e.client = client
  | .answered call (.error e) => e = nuitAlreadyExists ∧
      .client call.tenantId call.nuit ∈ keys s.base.rows

structure PhaseInv (i : Nat) (s : Registry) (p : Phase) : Prop where
  own : Own i p.rows s.base
  logged : ∀ e ∈ s.log, e.party = i → p = .answered e.call (.ok e.client)
  place : PlaceInv i s p

/-- The tenant and NUIT of a registration. -/
def Entry.name (e : Entry) : UUID × String := (e.call.tenantId, e.call.nuit)

structure EntryInv (s : Registry) (e : Entry) : Prop where
  complete : Complete s.base.rows e.call e.client
  own : ∀ tenantId nuit, .client tenantId nuit ∈ keys e.rows → e.name = (tenantId, nuit)
  client : .client e.call.tenantId e.call.nuit ∈ keys e.rows

structure StoreInv (start : List Row) (s : Registry) : Prop where
  unique : Distinct s.base
  rows : s.base.rows = start ++ s.log.flatMap Entry.rows
  entries : ∀ e ∈ s.log, EntryInv s e
  names : (s.log.map Entry.name).Nodup
  /-- A client that was there is not registered again. -/
  fresh : ∀ e ∈ s.log, .client e.call.tenantId e.call.nuit ∉ keys start
  issued : ∀ row, Row.thirdParty row ∈ s.base.rows →
    ⟨row.id, row.tenantId, row.nuit⟩ ∈ s.issued

/-! ## Rows that stay -/

section

variable {i j : Nat} {start rows rows' : List Row} {s s' : Registry} {p p' : Phase} {w : Work}
  {call : Call} {id clientId : UUID} {row : Row} {stage : Stage}

theorem keys_subset (h : rows ⊆ rows') : keys rows ⊆ keys rows' := by
  intro k hk
  obtain ⟨row, hrow, hentry⟩ := mem_keys.mp hk
  exact mem_keys.mpr ⟨row, h hrow, hentry⟩

theorem Found.mono (h : Found rows call id) (hsub : rows ⊆ rows') : Found rows' call id := by
  obtain ⟨row, hrow, hrest⟩ := h
  exact ⟨row, hsub hrow, hrest⟩

theorem Complete.mono {client : Client} (h : Complete rows call client) (hsub : rows ⊆ rows') :
    Complete rows' call client := by
  obtain ⟨id, hfound, hrole, hprofile, hclient, hnew⟩ := h
  exact ⟨id, hfound.mono hsub, keys_subset hsub hrole, keys_subset hsub hprofile, hsub hclient, hnew⟩

/-- What a transaction may count on while another one takes a step. -/
structure Grows (i : Nat) (s s' : Registry) : Prop where
  rows : s.base.rows ⊆ s'.base.rows
  issued : ∀ x ∈ s.issued, x ∈ s'.issued
  log : ∀ e ∈ s'.log, e ∈ s.log ∨ e.party = i
  logged : s.log ⊆ s'.log
  own : ∀ j, j ≠ i → ∀ theirs, Own j theirs s.base → Own j theirs s'.base
  paired : ∀ call id, newIssue call id ∈ s.issued → .profile id ∈ keys s'.base.rows →
    .profile id ∈ keys s.base.rows ∨ .client call.tenantId call.nuit ∈ keys s'.base.rows

theorem Grows.view (h : Grows i s s') (w : Work) : w.view s ⊆ w.view s' := by
  intro row hrow
  rcases List.mem_append.mp hrow with hrow | hrow
  · exact List.mem_append_left _ (h.rows hrow)
  · exact List.mem_append_right _ hrow

theorem Core.grow {rank : Nat} (h : Core s w rank) (hgrows : Grows i s s') : Core s' w rank where
  fits := h.fits
  found := h.found.mono (hgrows.view w)
  issued := hgrows.issued _ h.issued
  within := h.within
  given row hrow := hgrows.issued _ (h.given row hrow)

theorem RoleInv.grow (h : RoleInv s w) (hgrows : Grows i s s') : RoleInv s' w :=
  keys_subset (hgrows.view w) h

theorem ProfileInv.grow {added : Bool} (h : ProfileInv s w added) (hgrows : Grows i s s')
    (hissued : newIssue w.call w.thirdPartyId ∈ s.issued) : ProfileInv s' w added := by
  cases added with
  | false => exact keys_subset (hgrows.view w) h
  | true =>
    intro hprofile
    rcases hgrows.paired _ _ hissued hprofile with hthere | hclient
    · exact keys_subset hgrows.rows (h hthere)
    · exact hclient

theorem StageInv.grow (h : StageInv s w stage) (hgrows : Grows i s s')
    (hissued : newIssue w.call w.thirdPartyId ∈ s.issued) : StageInv s' w stage := by
  cases stage with
  | readRole => trivial
  | autoflush added => exact fun hadded => (h hadded).grow hgrows
  | readProfile => exact RoleInv.grow h hgrows
  | flushClient added => exact ⟨h.1.grow hgrows, h.2.grow hgrows hissued⟩
  | flushProfile clientId added => exact ⟨h.1.grow hgrows, h.2.1.grow hgrows hissued, h.2.2⟩
  | commit clientId => exact ⟨h.1.grow hgrows, h.2.1.grow hgrows hissued, h.2.2⟩

theorem PhaseInv.grow (h : PhaseInv j s p) (hgrows : Grows i s s') (hj : j ≠ i) :
    PhaseInv j s' p := by
  refine ⟨hgrows.own j hj _ h.own, fun e he hparty => ?_, ?_⟩
  · rcases hgrows.log e he with he | hi
    · exact h.logged e he hparty
    · exact absurd (hparty.symm.trans hi) hj
  · have hplace := h.place
    cases p with
    | idle => trivial
    | missing call => exact hplace
    | lost call => exact ⟨hplace.1, keys_subset hgrows.rows hplace.2⟩
    | working stage w => exact ⟨hplace.1.grow hgrows, hplace.2.grow hgrows hplace.1.issued⟩
    | answered call answer =>
      cases answer with
      | error e => exact ⟨hplace.1, keys_subset hgrows.rows hplace.2⟩
      | ok client =>
        obtain ⟨e, he, hrest⟩ := hplace
        exact ⟨e, hgrows.logged he, hrest⟩

/-! ## Steps that commit nothing -/

structure Quiet (i : Nat) (s s' : Registry) : Prop where
  rows : s'.base.rows = s.base.rows
  log : s'.log = s.log
  issued : ∀ x ∈ s.issued, x ∈ s'.issued
  own : ∀ j, j ≠ i → ∀ theirs, Own j theirs s.base → Own j theirs s'.base

theorem Quiet.refl (i : Nat) (s : Registry) : Quiet i s s :=
  ⟨rfl, rfl, fun _ hx => hx, fun _ _ _ h => h⟩

theorem Quiet.trans {s'' : Registry} (h : Quiet i s s') (h' : Quiet i s' s'') : Quiet i s s'' where
  rows := h'.rows.trans h.rows
  log := h'.log.trans h.log
  issued x hx := h'.issued x (h.issued x hx)
  own j hj theirs hown := h'.own j hj theirs (h.own j hj theirs hown)

theorem quiet_rollback (i : Nat) (s : Registry) : Quiet i s (s.rollback i) :=
  ⟨rfl, rfl, fun _ hx => hx, fun _ hj _ hown => hown.rollback_other hj⟩

theorem quiet_inserted {base : Base Row Key} (h : Inserted i row s.base base) :
    Quiet i s { s with base } :=
  ⟨h.rows, rfl, fun _ hx => hx, fun _ hj _ hown => hown.insert_other h hj⟩

theorem quiet_issue (i : Nat) (call : Call) (s : Registry) : Quiet i s (s.issue call) :=
  ⟨rfl, rfl, fun _ hx => (Table.mem_insert _ _ (key_newIssue call)).mpr (.inl hx),
    fun _ _ _ h => h⟩

theorem Quiet.grows (h : Quiet i s s') : Grows i s s' where
  rows := by
    rw [h.rows]
    exact List.Subset.refl _
  issued := h.issued
  log e he := by
    rw [h.log] at he
    exact .inl he
  logged := by
    rw [h.log]
    exact List.Subset.refl _
  own := h.own
  paired call id _ hprofile := by
    rw [h.rows] at hprofile
    exact .inl hprofile

theorem EntryInv.mono {e : Entry} (h : EntryInv s e) (hsub : s.base.rows ⊆ s'.base.rows) :
    EntryInv s' e where
  complete := h.complete.mono hsub
  own := h.own
  client := h.client

theorem StoreInv.quiet (h : StoreInv start s) (hquiet : Quiet i s s') : StoreInv start s' where
  unique := by
    rw [Distinct, hquiet.rows]
    exact h.unique
  rows := by
    rw [hquiet.rows, hquiet.log]
    exact h.rows
  entries e he := by
    rw [hquiet.log] at he
    exact (h.entries e he).mono hquiet.grows.rows
  names := by
    rw [hquiet.log]
    exact h.names
  fresh e he := by
    rw [hquiet.log] at he
    exact h.fresh e he
  issued row hrow := by
    rw [hquiet.rows] at hrow
    exact hquiet.issued _ (h.issued row hrow)

/-- What a step leaves behind. -/
structure Kept (start : List Row) (i : Nat) (s s' : Registry) (p' : Phase) : Prop where
  store : StoreInv start s'
  phase : PhaseInv i s' p'
  grows : Grows i s s'

/-- A step that commits nothing, of a call that has not ended. -/
theorem kept_of_quiet (hS : StoreInv start s) (hP : PhaseInv i s p)
    (hopen : p.ended = false) (hquiet : Quiet i s s')
    (hown : Own i p'.rows s'.base) (hplace : PlaceInv i s' p') : Kept start i s s' p' := by
  refine ⟨hS.quiet hquiet, ⟨hown, fun e he hparty => ?_, hplace⟩, hquiet.grows⟩
  rw [hquiet.log] at he
  rw [hP.logged e he hparty] at hopen
  cases hopen

theorem kept_of_refused (hS : StoreInv start s) (hP : PhaseInv i s p)
    (hopen : p.ended = false) (hquiet : Quiet i s s')
    (hclient : .client call.tenantId call.nuit ∈ keys s.base.rows) :
    Kept start i s (s'.rollback i) (.answered call (.error nuitAlreadyExists)) := by
  refine kept_of_quiet hS hP hopen (hquiet.trans (quiet_rollback i s')) own_rollback ⟨rfl, ?_⟩
  rw [(quiet_rollback i s').rows, hquiet.rows]
  exact hclient

/-! ## Flushes -/

theorem fits_thirdParty (h : call.payload.fits = true) (id : UUID) :
    (Row.thirdParty (newThirdParty call id)).fits = true := by
  have hstatus : fitsText 30 "active" = true := by decide
  simp only [ClientCreate.fits, Bool.and_eq_true] at h
  simp [Row.fits, newThirdParty, Call.nuit, h, hstatus]

theorem fits_role (call : Call) (id : UUID) : (Row.role (newRole call id)).fits = true := by
  show fitsText 40 "client" = true
  decide

theorem fits_client (h : call.payload.fits = true) (id clientId : UUID) :
    (Row.client (newClient call id clientId)).fits = true := by
  simp only [ClientCreate.fits, Bool.and_eq_true] at h
  simp [Row.fits, newClient, h, Option.all_map]

theorem fits_profile (h : call.payload.fits = true) (id : UUID) :
    (Row.profile (newProfile call id)).fits = true := by
  simp only [ClientCreate.fits, Bool.and_eq_true] at h
  simp [Row.fits, newProfile, h, Option.all_map]

theorem insert_cases {k : Key} {answer : Except Exc Registry} (h : s.insert i row = some answer)
    (hfits : row.fits = true) (hentry : row.entry = some k) :
    answer = .error .integrityError ∧ (k ∈ keys s.base.rows ∨ s.base.locks k = some i) ∨
      ∃ base, answer = .ok { s with base } ∧ Inserted i row s.base base := by
  rw [Registry.insert, if_pos hfits] at h
  split at h
  · cases h
  · next hviolates =>
    cases h
    exact .inl ⟨rfl, insert_violates hentry hviolates⟩
  · next base hinserted =>
    cases h
    exact .inr ⟨base, rfl, insert_inserted hinserted⟩

theorem flush_cases {k : Key} {raised : Exc → Exc} {next : Stage} {r : Registry × Phase}
    (hown : Own i w.rows s.base) (hcore : Core s w k.rank) (hfits : row.fits = true)
    (hentry : row.entry = some k) (hk : k ∈ w.call.keys w.thirdPartyId) (hplace : 0 < k.rank)
    (h : w.flush i row raised next s = some r) :
    k ∈ keys s.base.rows ∧ r = s.fail i w.call (raised .integrityError) ∨
      ∃ s', r = (s', .working next { w with rows := w.rows ++ [row] }) ∧ Quiet i s s' ∧
        Own i (w.rows ++ [row]) s'.base ∧ Core s' { w with rows := w.rows ++ [row] } (k.rank + 1) := by
  rw [Work.flush] at h
  split at h
  · cases h
  · next s' hinsert =>
    cases h
    rcases insert_cases hinsert hfits hentry with ⟨herror, -⟩ | ⟨base, hok, hinserted⟩
    · cases herror
    · cases hok
      have hquiet := quiet_inserted hinserted
      refine .inr ⟨_, rfl, hquiet, hown.insert hinserted, hcore.fits, ?_, hcore.issued, ?_, ?_⟩
      · refine hcore.found.mono fun row hrow => ?_
        rw [Work.view, hquiet.rows, ← List.append_assoc]
        exact List.mem_append_left _ hrow
      · intro k' hk'
        rw [keys_append, List.mem_append, keys_singleton, Option.mem_toList] at hk'
        rcases hk' with hk' | hk'
        · exact ⟨(hcore.within k' hk').1, Nat.lt_succ_of_lt (hcore.within k' hk').2⟩
        · rw [← Option.some.inj (hentry.symm.trans hk')]
          exact ⟨hk, Nat.lt_succ_self _⟩
      · intro r hr
        rcases List.mem_append.mp hr with hr | hr
        · exact hcore.given r hr
        · -- a third party has the first place
          rw [← List.mem_singleton.mp hr] at hentry
          obtain ⟨nuit, -, hkey⟩ := Option.map_eq_some_iff.mp hentry
          rw [← hkey] at hplace
          exact absurd hplace (Nat.lt_irrefl 0)
  · next e hinsert =>
    cases h
    rcases insert_cases hinsert hfits hentry with ⟨herror, hthere⟩ | ⟨base, hok, -⟩
    · cases herror
      rcases hthere with hthere | hlock
      · exact .inl ⟨hthere, rfl⟩
      · -- a key of its own would have a lower place
        have hmine := (hown.locks k).mp hlock
        exact absurd (hcore.within k hmine).2 (Nat.lt_irrefl _)
    · cases hok

/-! ## Steps -/

theorem thirdPartyId?_eq_some {row : Row} {tenantId : UUID} {nuit : String}
    (h : row.thirdPartyId? tenantId nuit = some id) :
    ∃ r, row = .thirdParty r ∧ r.id = id ∧ r.tenantId = tenantId ∧ r.nuit = some nuit := by
  cases row with
  | thirdParty r =>
    simp only [Row.thirdPartyId?] at h
    split at h
    · next hr =>
      cases h
      exact ⟨r, rfl, rfl, hr⟩
    · cases h
  | _ => cases h

theorem found_of_some (hS : StoreInv start s)
    (h : s.thirdPartyId? call.tenantId call.nuit = some id) :
    Found s.base.rows call id ∧ newIssue call id ∈ s.issued := by
  obtain ⟨row, hrow, hid⟩ := List.exists_of_findSome?_eq_some h
  obtain ⟨r, rfl, rfl, htenant, hnuit⟩ := thirdPartyId?_eq_some hid
  refine ⟨⟨r, hrow, rfl, htenant, hnuit⟩, ?_⟩
  rw [newIssue, ← htenant, ← hnuit]
  exact hS.issued r hrow

theorem found_isSome (h : .thirdParty call.tenantId call.nuit ∈ keys s.base.rows) :
    (s.thirdPartyId? call.tenantId call.nuit).isSome = true := by
  obtain ⟨row, hrow, hentry⟩ := mem_keys.mp h
  refine List.findSome?_isSome_iff.mpr ⟨row, hrow, ?_⟩
  cases row with
  | thirdParty r =>
    obtain ⟨nuit, hnuit, hkey⟩ := Option.map_eq_some_iff.mp hentry
    injection hkey with htenant hsame
    rw [Row.thirdPartyId?, if_pos ⟨htenant, hsame ▸ hnuit⟩]
    rfl
  | _ => cases hentry

theorem core_of_found (hfits : call.payload.fits = true) (hfound : Found s.base.rows call id)
    (hissued : newIssue call id ∈ s.issued) : Core s { call, thirdPartyId := id } 1 := by
  refine ⟨hfits, ?_, hissued, fun k hk => ?_, fun row hrow => ?_⟩
  · rw [Work.view, List.append_nil]
    exact hfound
  · cases hk
  · cases hrow

theorem create_kept (hS : StoreInv start s) (hP : PhaseInv i s .idle)
    {tenantId : UUID} {payload : ClientCreate} (hfits : payload.fits = true)
    (h : createTurn i (.create tenantId payload) s .idle = some (s', p')) :
    Kept start i s s' p' := by
  let call : Call := ⟨tenantId, payload⟩
  simp only [createTurn] at h
  split at h
  · next id hid =>
    cases h
    obtain ⟨hfound, hissued⟩ := @found_of_some _ _ call _ hS hid
    have hcore := @core_of_found _ call _ hfits hfound hissued
    exact kept_of_quiet hS hP rfl (Quiet.refl i s) hP.own ⟨hcore, trivial⟩
  · cases h
    exact kept_of_quiet hS hP rfl (Quiet.refl i s) hP.own hfits

theorem insertThirdParty_kept (hS : StoreInv start s) (hP : PhaseInv i s (.missing call))
    (h : insertThirdParty i call s = some (s', p')) : Kept start i s s' p' := by
  have hpayload : call.payload.fits = true := hP.place
  have hfits := fits_thirdParty hpayload s.issued.freshKey
  have hcases (answer : Except Exc Registry) (hinsert : s.insert i
      (.thirdParty (newThirdParty call s.issued.freshKey)) = some answer) :=
    insert_cases hinsert hfits rfl
  simp only [insertThirdParty] at h
  split at h
  · cases h
  · next s'' hinsert =>
    cases h
    rcases hcases _ hinsert with ⟨herror, -⟩ | ⟨base, hok, hinserted⟩
    · cases herror
    · cases hok
      have hissued : newIssue call s.issued.freshKey ∈ (s.issue call).issued :=
        (Table.mem_insert _ _ (key_newIssue call)).mpr (.inr rfl)
      refine kept_of_quiet hS hP rfl ((quiet_inserted hinserted).trans (quiet_issue i call _))
        (hP.own.insert hinserted)
        ⟨⟨hpayload, ?_, hissued, fun k hk => ?_, fun row hrow => ?_⟩, trivial⟩
      · exact ⟨_, List.mem_append_right _ (List.mem_singleton.mpr rfl), rfl, rfl, rfl⟩
      · rw [List.mem_singleton.mp hk]
        exact ⟨List.mem_cons_self, Nat.zero_lt_one⟩
      · cases List.mem_singleton.mp hrow
        exact hissued
  · next hinsert =>
    cases h
    rcases hcases _ hinsert with ⟨-, hthere⟩ | ⟨base, hok, -⟩
    · have hkey := hthere.resolve_right fun hlock => by cases (hP.own.locks _).mp hlock
      exact kept_of_quiet hS hP rfl (quiet_rollback i s) own_rollback ⟨hpayload, hkey⟩
    · cases hok
  · next e hne hinsert =>
    rcases hcases _ hinsert with ⟨herror, -⟩ | ⟨base, hok, -⟩
    · cases herror
      exact absurd rfl hne
    · cases hok

theorem lookAgain_kept (hS : StoreInv start s) (hP : PhaseInv i s (.lost call)) :
    Kept start i s (lookAgain i call s).1 (lookAgain i call s).2 := by
  obtain ⟨hpayload, hkey⟩ := hP.place
  obtain ⟨id, hid⟩ := Option.isSome_iff_exists.mp (found_isSome hkey)
  obtain ⟨hfound, hissued⟩ := found_of_some hS hid
  have hcore := core_of_found hpayload hfound hissued
  rw [lookAgain, hid]
  exact kept_of_quiet hS hP rfl (Quiet.refl i s) hP.own ⟨hcore, trivial⟩

/-! ### The end -/

/-- What a call has inserted when it commits is the client, and all that it rests on is there. -/
theorem complete_of_commit (hP : PhaseInv i s (.working (.commit clientId) w)) :
    Complete (w.view s) w.call (newClient w.call w.thirdPartyId clientId) := by
  obtain ⟨hcore, hrole, hprofile, hclient⟩ := hP.place
  exact ⟨w.thirdPartyId, hcore.found, hrole, hprofile, List.mem_append_right _ hclient, rfl⟩

theorem client_mem_commit (hP : PhaseInv i s (.working (.commit clientId) w)) :
    .client w.call.tenantId w.call.nuit ∈ keys w.rows :=
  mem_keys.mpr ⟨_, hP.place.2.2.2, rfl⟩

theorem eq_of_client_mem {rank : Nat} {tenantId : UUID} {nuit : String} (hcore : Core s w rank)
    (h : .client tenantId nuit ∈ keys w.rows) :
    (w.call.tenantId, w.call.nuit) = (tenantId, nuit) := by
  have hmem := (hcore.within _ h).1
  simp only [Call.keys, List.mem_cons, List.not_mem_nil, reduceCtorEq, or_false, false_or,
    Key.client.injEq] at hmem
  rw [hmem.1, hmem.2]

/-- The profile that a call has inserted is for its own third party. -/
theorem eq_of_profile_mem {rank : Nat} (hcore : Core s w rank) (h : .profile id ∈ keys w.rows) :
    id = w.thirdPartyId := by
  have hmem := (hcore.within _ h).1
  simp only [Call.keys, List.mem_cons, List.not_mem_nil, reduceCtorEq, or_false, false_or,
    Key.profile.injEq] at hmem
  exact hmem

theorem eq_of_issued {call' : Call} (h : newIssue call id ∈ s.issued)
    (h' : newIssue call' id ∈ s.issued) :
    call.tenantId = call'.tenantId ∧ call.nuit = call'.nuit := by
  have hsame := Table.eq_of_key h h' rfl
  injection hsame with _ htenant hnuit
  exact ⟨htenant, Option.some.inj hnuit⟩

theorem commit_grows (hP : PhaseInv i s (.working (.commit clientId) w)) :
    Grows i s (w.commit i clientId s).1 := by
  obtain ⟨hcore, -⟩ := hP.place
  refine ⟨List.subset_append_left _ _, fun _ hx => hx, fun e he => ?_, List.subset_append_left _ _,
    fun j hj theirs hown => hown.commit_other hP.own hj, fun call id hissued hprofile => ?_⟩
  · rcases List.mem_append.mp he with he | he
    · exact .inl he
    · rw [List.mem_singleton.mp he]
      exact .inr rfl
  · change _ ∈ keys (s.base.rows ++ w.rows) at hprofile
    rw [keys_append, List.mem_append] at hprofile
    rcases hprofile with hthere | hmine
    · exact .inl hthere
    · -- the profile came with the client of the same third party
      have hid := eq_of_profile_mem hcore hmine
      subst hid
      obtain ⟨htenant, hnuit⟩ := eq_of_issued hissued hcore.issued
      rw [htenant, hnuit]
      refine .inr (keys_subset (List.subset_append_right _ _) (client_mem_commit hP))

theorem commit_kept (hS : StoreInv start s) (hP : PhaseInv i s (.working (.commit clientId) w)) :
    Kept start i s (w.commit i clientId s).1 (w.commit i clientId s).2 := by
  have hcore := hP.place.1
  have hclient := client_mem_commit hP
  have hnew := hP.own.absent _ hclient
  have hlog : (w.commit i clientId s).1.log =
      s.log ++ [⟨i, w.call, newClient w.call w.thirdPartyId clientId, w.rows⟩] := rfl
  have hgrows := commit_grows hP
  refine ⟨⟨hS.unique.commit hP.own, ?_, fun e he => ?_, ?_, fun e he => ?_, fun row hrow => ?_⟩,
    ⟨own_commit, fun e he hparty => ?_, ?_⟩, hgrows⟩
  · show s.base.rows ++ w.rows = _
    rw [hlog, List.flatMap_append, ← List.append_assoc, ← hS.rows]
    simp
  · rcases List.mem_append.mp he with he | he
    · exact (hS.entries e he).mono hgrows.rows
    · rw [List.mem_singleton.mp he]
      exact ⟨complete_of_commit hP, fun _ _ hmem => eq_of_client_mem hcore hmem, hclient⟩
  · rw [hlog]
    refine nodup_append_entry hS.names fun e he hname => ?_
    -- an earlier registration of the NUIT has left its client
    have hthere : .client e.call.tenantId e.call.nuit ∈ keys s.base.rows := by
      obtain ⟨id, -, -, -, hmem, hmade⟩ := (hS.entries e he).complete
      refine mem_keys.mpr ⟨_, hmem, ?_⟩
      rw [hmade]
      rfl
    injection hname with htenant hnuit
    rw [htenant, hnuit] at hthere
    exact hnew hthere
  · rcases List.mem_append.mp he with he | he
    · exact hS.fresh e he
    · rw [List.mem_singleton.mp he]
      intro hstart
      refine hnew (keys_subset ?_ hstart)
      rw [hS.rows]
      exact List.subset_append_left _ _
  · rcases List.mem_append.mp hrow with hrow | hrow
    · exact hS.issued row hrow
    · exact hcore.given row hrow
  · rcases List.mem_append.mp he with he | he
    · cases hP.logged e he hparty
    · rw [List.mem_singleton.mp he]
      rfl
  · exact ⟨_, List.mem_append_right _ (List.mem_singleton.mpr rfl), rfl, rfl, rfl⟩

/-! ### Between -/

theorem Core.le {rank rank' : Nat} (h : Core s w rank) (hle : rank ≤ rank') : Core s w rank' :=
  { h with within := fun k hk => ⟨(h.within k hk).1, Nat.lt_of_lt_of_le (h.within k hk).2 hle⟩ }

theorem view_flushed (hquiet : Quiet i s s') (row : Row) :
    Work.view { w with rows := w.rows ++ [row] } s' = w.view s ++ [row] := by
  rw [Work.view, Work.view, hquiet.rows, List.append_assoc]

theorem RoleInv.flushed (h : RoleInv s w) (hquiet : Quiet i s s') (row : Row) :
    RoleInv s' { w with rows := w.rows ++ [row] } := by
  rw [RoleInv, view_flushed hquiet]
  exact keys_subset (List.subset_append_left _ _) h

theorem ProfileInv.flushed {added : Bool} (h : ProfileInv s w added) (hquiet : Quiet i s s')
    (row : Row) : ProfileInv s' { w with rows := w.rows ++ [row] } added := by
  cases added with
  | false =>
    rw [ProfileInv, view_flushed hquiet]
    exact keys_subset (List.subset_append_left _ _) h
  | true =>
    rw [ProfileInv, hquiet.rows]
    exact h

theorem mem_view_flushed {k : Key} (hquiet : Quiet i s s') (hentry : row.entry = some k) :
    k ∈ keys (Work.view { w with rows := w.rows ++ [row] } s') := by
  rw [view_flushed hquiet]
  exact mem_keys.mpr ⟨row, List.mem_append_right _ (List.mem_singleton.mpr rfl), hentry⟩

theorem mem_view_of_has {k : Key} (h : s.has k = true) (w : Work) : k ∈ keys (w.view s) :=
  keys_subset (List.subset_append_left _ _) (of_decide_eq_true h)

theorem go_kept (hS : StoreInv start s) (hP : PhaseInv i s (.working stage w))
    (hrole : stage = .autoflush true → s.has (.role w.thirdPartyId "client") = false)
    (h : w.go i stage s = some (s', p')) : Kept start i s s' p' := by
  obtain ⟨hcore, hstage⟩ := hP.place
  have hpayload := hcore.fits
  cases stage with
  | readRole =>
    cases h
    refine kept_of_quiet hS hP rfl (Quiet.refl i s) hP.own ⟨hcore, fun hadded => ?_⟩
    exact mem_view_of_has (by simpa using hadded) w
  | autoflush added =>
    cases added with
    | false =>
      cases h
      exact kept_of_quiet hS hP rfl (Quiet.refl i s) hP.own
        ⟨hcore.le (Nat.le_succ 1), hstage rfl⟩
    | true =>
      rcases flush_cases (k := .role w.thirdPartyId "client") hP.own hcore
        (fits_role w.call w.thirdPartyId) rfl (by simp [Call.keys]) Nat.zero_lt_one h with
        ⟨hthere, -⟩ | ⟨s'', hr, hquiet, hown, hcore'⟩
      · have hno := of_decide_eq_false (hrole rfl)
        exact absurd hthere hno
      · cases hr
        exact kept_of_quiet hS hP rfl hquiet hown ⟨hcore', mem_view_flushed hquiet rfl⟩
  | readProfile =>
    cases h
    refine kept_of_quiet hS hP rfl (Quiet.refl i s) hP.own ⟨hcore, hstage, ?_⟩
    cases hhas : s.has (.profile w.thirdPartyId) with
    | true => exact mem_view_of_has hhas w
    | false => exact fun hthere => absurd hthere (of_decide_eq_false hhas)
  | flushClient added =>
    have hissue := quiet_issue i w.call s
    rcases flush_cases (s := s.issue w.call) (k := .client w.call.tenantId w.call.nuit) hP.own
      (hcore.grow hissue.grows) (fits_client hpayload w.thirdPartyId s.issued.freshKey) rfl
      (by simp [Call.keys]) Nat.two_pos h with ⟨hthere, hr⟩ | ⟨s'', hr, hquiet, hown, hcore'⟩
    · cases hr
      exact kept_of_refused hS hP rfl hissue hthere
    · cases hr
      have hquiet := hissue.trans hquiet
      exact kept_of_quiet hS hP rfl hquiet hown ⟨hcore', hstage.1.flushed hquiet _,
        hstage.2.flushed hquiet _, List.mem_append_right _ (List.mem_singleton.mpr rfl)⟩
  | flushProfile clientId added =>
    cases added with
    | false =>
      cases h
      exact kept_of_quiet hS hP rfl (Quiet.refl i s) hP.own
        ⟨hcore.le (Nat.le_succ 3), hstage⟩
    | true =>
      rcases flush_cases (k := .profile w.thirdPartyId) hP.own hcore
        (fits_profile hpayload w.thirdPartyId) rfl (by simp [Call.keys]) (Nat.succ_pos 2) h with
        ⟨hthere, hr⟩ | ⟨s'', hr, hquiet, hown, hcore'⟩
      · cases hr
        exact kept_of_refused hS hP rfl (Quiet.refl i s) (hstage.2.1 hthere)
      · cases hr
        exact kept_of_quiet hS hP rfl hquiet hown ⟨hcore', hstage.1.flushed hquiet _,
          mem_view_flushed hquiet rfl, List.mem_append_left _ hstage.2.2⟩
  | commit clientId =>
    cases h
    exact commit_kept hS hP

/-! ## What follows -/

theorem isOf_iff {tenantId : UUID} {nuit : String} : isOf tenantId nuit rows id = true ↔
    ∃ r, Row.thirdParty r ∈ rows ∧ r.id = id ∧ r.tenantId = tenantId ∧ r.nuit = some nuit := by
  rw [isOf, List.any_eq_true]
  constructor
  · rintro ⟨row, hrow, hid⟩
    obtain ⟨r, rfl, hrest⟩ := thirdPartyId?_eq_some (of_decide_eq_true hid)
    exact ⟨r, hrow, hrest⟩
  · rintro ⟨r, hr, rfl, htenant, hnuit⟩
    refine ⟨_, hr, decide_eq_true ?_⟩
    rw [Row.thirdPartyId?, if_pos ⟨htenant, hnuit⟩]

theorem eq_of_isOf {tenantId : UUID} {nuit : String} {id' : UUID} (h : Distinct s.base)
    (hid : isOf tenantId nuit s.base.rows id = true)
    (hid' : isOf tenantId nuit s.base.rows id' = true) : id = id' := by
  obtain ⟨r, hr, rfl, htenant, hnuit⟩ := isOf_iff.mp hid
  obtain ⟨r', hr', rfl, htenant', hnuit'⟩ := isOf_iff.mp hid'
  have hentry : Row.entry (.thirdParty r) = some (.thirdParty tenantId nuit) := by
    rw [Row.entry, hnuit, htenant]
    rfl
  have hentry' : Row.entry (.thirdParty r') = some (.thirdParty tenantId nuit) := by
    rw [Row.entry, hnuit', htenant']
    rfl
  cases h.eq_of_entry hr hr' hentry hentry'
  rfl

/-- Of the rows that belong to the third party with a NUIT, at most one has a key of it. -/
theorem countP_isOf (tenantId : UUID) (nuit : String) (h : Distinct s.base) {P : Row → Bool}
    (key : UUID → Key) (hP : ∀ row ∈ s.base.rows, P row = true →
      ∃ id, isOf tenantId nuit s.base.rows id = true ∧ row.entry = some (key id)) :
    s.base.rows.countP P ≤ 1 := by
  by_cases hsome : ∃ id, isOf tenantId nuit s.base.rows id = true
  · obtain ⟨id, hid⟩ := hsome
    refine h.countP_le_one (k := key id) fun row hrow hprow => ?_
    obtain ⟨id', hid', hentry⟩ := hP row hrow hprow
    rw [eq_of_isOf h hid hid']
    exact hentry
  · refine h.countP_le_one (k := key 0) fun row hrow hprow => ?_
    obtain ⟨id, hid, -⟩ := hP row hrow hprow
    exact absurd ⟨id, hid⟩ hsome

theorem atMostOne (h : Distinct s.base) (tenantId : UUID) (nuit : String) :
    AtMostOne s.base.rows tenantId nuit := by
  constructor
  · refine h.countP_le_one (k := .thirdParty tenantId nuit) fun row _ hrow => ?_
    obtain ⟨id, hid⟩ := Option.isSome_iff_exists.mp hrow
    obtain ⟨r, rfl, -, rfl, hnuit⟩ := thirdPartyId?_eq_some hid
    show r.nuit.map _ = _
    rw [hnuit]
    rfl
  · refine countP_isOf tenantId nuit h (.role · "client") fun row _ hrow => ?_
    cases row with
    | role r =>
      simp only [isRole, Bool.and_eq_true, decide_eq_true_eq] at hrow
      refine ⟨r.thirdPartyId, hrow.2, ?_⟩
      rw [Row.entry, hrow.1]
    | _ => cases hrow
  · refine countP_isOf tenantId nuit h .profile fun row _ hrow => ?_
    cases row with
    | profile r => exact ⟨r.thirdPartyId, hrow, rfl⟩
    | _ => cases hrow
  · refine h.countP_le_one (k := .client tenantId nuit) fun row _ hrow => ?_
    cases row with
    | client r =>
      simp only [isClient, Bool.and_eq_true, decide_eq_true_eq] at hrow
      show some (Key.client r.tenantId r.nuit) = _
      rw [hrow.1, hrow.2]
    | _ => cases hrow

/-! ### Waiting -/

theorem insert_none (h : s.insert i row = none) :
    ∃ k j, row.entry = some k ∧ j ≠ i ∧ s.base.locks k = some j := by
  rw [Registry.insert] at h
  split at h
  · split at h
    · next hwaits => exact insert_waits hwaits
    · cases h
    · cases h
  · cases h

theorem flush_none {raised : Exc → Exc} {next : Stage}
    (h : w.flush i row raised next s = none) : s.insert i row = none := by
  rw [Work.flush] at h
  split at h
  · next hinsert => exact hinsert
  · cases h
  · cases h

theorem waits_of_none (hactive : p.active = true) (h : createTurn i .go s p = none) :
    ∃ k j, s.base.locks k = some j ∧ k.rank = p.rank := by
  cases p with
  | idle => cases hactive
  | answered call answer => cases hactive
  | lost call => cases h
  | missing call =>
    have hinsert : s.insert i (.thirdParty (newThirdParty call s.issued.freshKey)) = none := by
      simp only [createTurn, insertThirdParty] at h
      split at h
      · next hinsert => exact hinsert
      · cases h
      · cases h
      · cases h
    obtain ⟨k, j, hentry, -, hlock⟩ := insert_none hinsert
    cases hentry
    exact ⟨_, j, hlock, rfl⟩
  | working stage w =>
    cases stage with
    | autoflush added =>
      cases added with
      | false => cases h
      | true =>
        obtain ⟨k, j, hentry, -, hlock⟩ := insert_none (flush_none h)
        cases hentry
        exact ⟨_, j, hlock, rfl⟩
    | flushClient added =>
      obtain ⟨k, j, hentry, -, hlock⟩ := insert_none (flush_none h)
      cases hentry
      exact ⟨_, j, hlock, rfl⟩
    | flushProfile clientId added =>
      cases added with
      | false => cases h
      | true =>
        obtain ⟨k, j, hentry, -, hlock⟩ := insert_none (flush_none h)
        cases hentry
        exact ⟨_, j, hlock, rfl⟩
    | _ => cases h

/-- Whoever holds a key is under way, and past the place of the key. -/
theorem active_of_lock {k : Key} (hP : PhaseInv j s p) (hlock : s.base.locks k = some j) :
    p.active = true ∧ k.rank < p.rank := by
  have hmine := (hP.own.locks k).mp hlock
  cases p with
  | working stage w => exact ⟨rfl, (hP.place.1.within k hmine).2⟩
  | _ => cases hmine

theorem rank_le (p : Phase) : p.rank ≤ 4 := by
  cases p with
  | working stage w => cases stage <;> simp [Phase.rank, Stage.rank]
  | _ => exact Nat.zero_le 4

theorem exists_go {c : Config Registry Phase} (hP : ∀ i, PhaseInv i c.store (c.parties i))
    (hj : (c.parties j).active = true) :
    ∃ i, (createTurn i .go c.store (c.parties i)).isSome = true := by
  refine @exists_ready (fun i => (c.parties i).active = true) _ (fun i => (c.parties i).rank) 4
    (fun i _ => rank_le _) (fun i hi => ?_) j hj
  cases hturn : createTurn i .go c.store (c.parties i) with
  | some r => exact .inl rfl
  | none =>
    obtain ⟨k, j, hlock, hrank⟩ := waits_of_none hi hturn
    obtain ⟨hactive, hlt⟩ := active_of_lock (hP j) hlock
    rw [hrank] at hlt
    exact .inr ⟨j, hactive, hlt⟩

/-! ## Runs -/

/-- What is sent fits its columns, and no role is there when one is flushed. -/
def steady (c : Config Registry Phase) (m : Nat × Act) : Bool :=
  match m.2, c.parties m.1 with
  | .create _ payload, .idle => payload.fits
  | .go, .working (.autoflush true) w => !c.store.has (.role w.thirdPartyId "client")
  | _, _ => true

/-- The rows keep their constraints, and nobody is at work. -/
structure Opening (c : Config Registry Phase) : Prop where
  unique : Distinct c.store.base
  locks : ∀ k, c.store.base.locks k = none
  issued : ∀ row, Row.thirdParty row ∈ c.store.base.rows →
    ⟨row.id, row.tenantId, row.nuit⟩ ∈ c.store.issued
  log : c.store.log = []
  parties : ∀ i, c.parties i = .idle

theorem Opening.holds {c : Config Registry Phase} (h : Opening c) :
    Holds (StoreInv c.store.base.rows) PhaseInv c := by
  refine ⟨⟨h.unique, ?_, ?_, ?_, ?_, h.issued⟩, fun i => ?_⟩
  · rw [h.log, List.flatMap_nil, List.append_nil]
  · rw [h.log]
    exact fun e he => absurd he List.not_mem_nil
  · rw [h.log]
    exact List.nodup_nil
  · rw [h.log]
    exact fun e he => absurd he List.not_mem_nil
  · rw [h.parties]
    refine ⟨own_nil fun k hk => ?_, fun e he => ?_, trivial⟩
    · rw [h.locks k] at hk
      cases hk
    · rw [h.log] at he
      cases he

theorem turn_kept {c : Config Registry Phase} {act : Act}
    (hI : Holds (StoreInv start) PhaseInv c) (hsteady : steady c (i, act) = true)
    (h : createTurn i act c.store (c.parties i) = some (s', p')) :
    Kept start i c.store s' p' := by
  have hS := hI.store
  have hP := hI.party i
  cases act with
  | create tenantId payload =>
    cases hp : c.parties i with
    | idle =>
      have hfits : payload.fits = true := by simpa only [steady, hp] using hsteady
      rw [hp] at hP h
      exact create_kept hS hP hfits h
    | _ =>
      rw [hp] at h
      cases h
  | go =>
    cases hp : c.parties i with
    | missing call =>
      rw [hp] at hP h
      exact insertThirdParty_kept hS hP h
    | lost call =>
      rw [hp] at hP h
      have hkept := lookAgain_kept hS hP
      rw [Option.some.inj h] at hkept
      exact hkept
    | working stage w =>
      have hrole : stage = .autoflush true → c.store.has (.role w.thirdPartyId "client") = false := by
        rintro rfl
        simpa only [steady, hp, Bool.not_eq_true'] using hsteady
      rw [hp] at hP h
      exact go_kept hS hP hrole h
    | _ =>
      rw [hp] at h
      cases h

/-- Of the calls for a NUIT, one that has succeeded has its entry. -/
theorem entry_of_succeeded {tenantId : UUID} {nuit : String} (hP : PhaseInv i s p)
    (h : p.succeeded tenantId nuit = true) :
    ∃ e ∈ s.log, e.party = i ∧ e.name = (tenantId, nuit) := by
  cases p with
  | answered call answer =>
    cases answer with
    | error e => cases h
    | ok client =>
      obtain ⟨e, he, hparty, rfl, -⟩ := hP.place
      simp only [Phase.succeeded, Bool.and_eq_true, decide_eq_true_eq] at h
      exact ⟨e, he, hparty, by rw [Entry.name, h.1, h.2]⟩
  | _ => cases h

theorem succeeded_of_entry {e : Entry} {tenantId : UUID} {nuit : String}
    (hP : PhaseInv e.party s p) (he : e ∈ s.log) (hname : e.name = (tenantId, nuit)) :
    p.succeeded tenantId nuit = true := by
  injection hname with htenant hnuit
  rw [hP.logged e he rfl, Phase.succeeded, htenant, hnuit]
  simp

theorem entry_of_client {tenantId : UUID} {nuit : String} (hS : StoreInv start s)
    (hnew : .client tenantId nuit ∉ keys start)
    (h : .client tenantId nuit ∈ keys s.base.rows) : ∃ e ∈ s.log, e.name = (tenantId, nuit) := by
  rw [hS.rows, keys_append, List.mem_append] at h
  obtain ⟨row, hrow, hentry⟩ := mem_keys.mp (h.resolve_left hnew)
  obtain ⟨e, he, hmem⟩ := List.mem_flatMap.mp hrow
  exact ⟨e, he, (hS.entries e he).own _ _ (mem_keys.mpr ⟨row, hmem, hentry⟩)⟩

theorem registered_of_holds {c : Config Registry Phase}
    (hI : Holds (StoreInv start) PhaseInv c) : Registered start c := by
  have hS := hI.store
  refine ⟨atMostOne hS.unique, fun j call answer hj => ?_, ?_, fun j call client hj => ?_, hS.rows,
    fun e he => (hI.party e.party).logged e he rfl, fun j hj => exists_go hI.party hj⟩
  · have hplace := (hI.party j).place
    rw [hj] at hplace
    cases answer with
    | ok client => exact .inl ⟨client, rfl⟩
    | error e => exact .inr (congrArg Except.error hplace.1)
  · rintro tenantId nuit hnew j call answer hj rfl rfl
    have hregistered : ∃ e ∈ c.store.log, e.name = (call.tenantId, call.nuit) := by
      have hplace := (hI.party j).place
      rw [hj] at hplace
      cases answer with
      | ok client =>
        obtain ⟨e, he, -, rfl, -⟩ := hplace
        exact ⟨e, he, rfl⟩
      | error e => exact entry_of_client hS hnew hplace.2
    obtain ⟨e, he, hname⟩ := hregistered
    refine ⟨e.party, succeeded_of_entry (hI.party _) he hname, fun i hi => ?_⟩
    obtain ⟨e', he', rfl, hname'⟩ := entry_of_succeeded (hI.party i) hi
    rw [List.inj_on_of_nodup_map hS.names he' he (hname'.trans hname.symm)]
  · have hplace := (hI.party j).place
    rw [hj] at hplace
    obtain ⟨e, he, -, rfl, rfl⟩ := hplace
    exact (hS.entries e he).complete

/-- Every run keeps it in which what is sent fits its columns and no role of the third party is
there when a call flushes one. -/
theorem registered_run {c : Config Registry Phase} {ms : List (Nat × Act)} (hopening : Opening c)
    (hsteady : Run.Along registration (fun c m => steady c m = true) c ms) :
    Registered c.store.base.rows (Run.exec registration c ms) := by
  refine registered_of_holds (holds_run (C := fun c m => steady c m = true) ?_ ?_ hopening.holds
    hsteady)
  · intro c i act s' p' hI hC hturn
    have hkept := turn_kept hI hC hturn
    exact ⟨hkept.store, hkept.phase⟩
  · intro c i act s' p' hI hC hturn j hj
    exact (hI.party j).grow (turn_kept hI hC hturn).grows hj

end

/-! ## Two calls for one NUIT -/

def order : ClientCreate := { tradingName := "Moagem do Save", nuit := "400123456" }

/-- Nobody knows the NUIT. -/
def unknown : Config Registry Phase where
  store := { base := { rows := [] } }
  parties := fun _ => .idle

theorem unknown_opening : Opening unknown where
  unique := List.nodup_nil
  locks _ := rfl
  issued _ hrow := absurd hrow List.not_mem_nil
  log := rfl
  parties _ := rfl

/-- Both find no third party; the second waits for the first to end, looks again, and is refused. -/
def race : List (Nat × Act) :=
  [(0, .create 1 order), (1, .create 1 order), (0, .go), (1, .go), (0, .go), (0, .go), (0, .go),
    (0, .go), (0, .go), (0, .go), (1, .go), (1, .go), (1, .go), (1, .go), (1, .go), (1, .go)]

theorem registered_race :
    Registered [] (Run.exec registration unknown race) :=
  registered_run unknown_opening (by decide +kernel)

/-- A supplier, which is not a client yet. -/
def supplier : Config Registry Phase where
  store :=
    { base := { rows := [.thirdParty
        { id := 5, tenantId := 1, name := "Moagem do Save", nuit := some "400123456" }] }
      issued := .single ⟨5, 1, some "400123456"⟩ }
  parties := fun _ => .idle

theorem supplier_opening : Opening supplier where
  unique := List.nodup_singleton _
  locks _ := rfl
  issued row hrow := by
    cases List.mem_singleton.mp hrow
    exact List.mem_singleton.mpr rfl
  log := rfl
  parties _ := rfl

/-- Both find that the supplier lacks the role; the second inserts it once the first has. -/
def twice : List (Nat × Act) :=
  [(0, .create 1 order), (1, .create 1 order), (0, .go), (1, .go), (0, .go), (0, .go), (0, .go),
    (0, .go), (0, .go), (1, .go)]

theorem twice_fails :
    Opening supplier ∧
      ¬ Registered supplier.store.base.rows (Run.exec registration supplier twice) := by
  refine ⟨supplier_opening, fun h => ?_⟩
  have hfailed : (Run.exec registration supplier twice).parties 1 =
      .answered ⟨1, order⟩ (.error .integrityError) := rfl
  rcases h.answered _ _ _ hfailed with ⟨client, hok⟩ | hrefused
  · cases hok
  · cases hrefused

end Registration
end Rotas
