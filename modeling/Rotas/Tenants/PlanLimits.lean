import Rotas.Tenants.PlanTurns

/-!
# Rotas.Tenants.PlanLimits

What takes a tenant above the limits of its plan, in every interleaving of its calls.

* `Exceeds`     — a turn that takes a number above its limit.
* `Overtaken`   — a creation that commits when more rows are there than its guard has counted.
* `Reactivates` — a patch that brings a row back; no guard stands before it.
* `OneAtATime`  — a call starts when none is under way, and what it has made stale is dropped.
* `plan_limits` — only the overtaken and the reactivating exceed.
* `Heeded`      — neither commits where the limit is reached; then no step exceeds it
  (`plan_limits_heeded`).
* `plan_limits_one_at_a_time` — where calls do not overlap, only the reactivating do.
-/

namespace Rotas
namespace Plans

open Interleave

section Statement

variable [Locale] (host : Host)

abbrev PlanConfig := Config PlanStore PlanPhase

/-- A patch that gives a row that is not counted a status that is. -/
def Revision.reactivates (db : Roster) : Revision → Bool
  | .user seen payload =>
    (db.users.get seen.id).any fun row => !row.isActive && (payload.write seen row).isActive
  | .driver seen payload =>
    (db.drivers.get seen.id).any fun row =>
      row.status == "inactive" && (payload.write seen row).status != "inactive"
  | .vehicle seen payload =>
    (db.vehicles.get seen.id).any fun row =>
      row.status == "retired" && (payload.write host seen row).status != "retired"

def Exceeds (c : PlanConfig) (m : Nat × PlanAction) (tenantId : UUID) (dim : PlanDimension) : Prop :=
  ∃ tenant max, c.store.db.tenants.get tenantId = some tenant ∧ tenant.max dim = some max ∧
    c.store.db.count tenantId dim < (move (planTurn host) c m).store.db.count tenantId dim ∧
    max < (move (planTurn host) c m).store.db.count tenantId dim

/-- More rows are there than the guard of the creation has counted, or found in the cache. -/
def Overtaken (c : PlanConfig) (m : Nat × PlanAction) : Prop :=
  match m.2, c.parties m.1 with
  | .commit, .allowed d (some seen) => seen < c.store.db.count d.tenantId d.dimension
  | _, _ => False

def Reactivates (c : PlanConfig) (m : Nat × PlanAction) : Prop :=
  match m.2, c.parties m.1 with
  | .commit, .patching _ revision _ => revision.reactivates host c.store.db = true
  | _, _ => False

/-- The tenant and the limit that the row counts for which a patch writes. -/
def Revision.target (db : Roster) : Revision → Option (UUID × PlanDimension)
  | .user seen _ => (db.users.get seen.id).map fun row => (row.tenantId, .users)
  | .driver seen _ => (db.drivers.get seen.id).map fun row => (row.tenantId, .drivers)
  | .vehicle seen _ => (db.vehicles.get seen.id).map fun row => (row.tenantId, .vehicles)

/-- The tenant has a limit, and has reached it. -/
def Roster.full (db : Roster) (tenantId : UUID) (dim : PlanDimension) : Bool :=
  (db.tenants.get tenantId).any fun tenant =>
    (tenant.max dim).any fun max => max ≤ (db.count tenantId dim : Int)

/-- Where the limit is reached, no creation commits on a count that the rows have outgrown, and no
patch that brings a row back. -/
def Heeded (c : PlanConfig) (m : Nat × PlanAction) : Prop :=
  match m.2, c.parties m.1 with
  | .commit, .allowed d (some seen) => seen < c.store.db.count d.tenantId d.dimension →
      c.store.db.full d.tenantId d.dimension = false
  | .commit, .patching _ revision _ => revision.reactivates host c.store.db = true →
      ∀ t ∈ revision.target c.store.db, c.store.db.full t.1 t.2 = false
  | _, _ => True

/-- No number is above the limit that was not as high before. -/
def LimitsKept (db db' : Roster) : Prop :=
  ∀ tenantId dim tenant max, db'.tenants.get tenantId = some tenant → tenant.max dim = some max →
    (db'.count tenantId dim : Int) ≤ max ∨ db'.count tenantId dim ≤ db.count tenantId dim

/-- No step of the run takes a number above the limit, so none ends there that did not start there. -/
structure PlansHeld (c : PlanConfig) (ms : List (Nat × PlanAction)) : Prop where
  steps : Run.Along (move (planTurn host)) (fun c m => ∀ tenantId dim, ¬ Exceeds host c m tenantId dim)
    c ms
  kept : LimitsKept c.store.db (Run.exec (move (planTurn host)) c ms).store.db

/-- A call starts when none is under way, and the route drops what is cached after each commit. -/
def OneAtATime (c : PlanConfig) (m : Nat × PlanAction) : Prop :=
  match m.2, c.parties m.1 with
  | .create _ _, _ => ∀ i, c.parties i = .idle
  | .patch _ _, _ => ∀ i, c.parties i = .idle
  | .abandon, .committed _ => False
  | _, _ => True

end Statement

/-! ## What is counted after a call -/

section Counts

variable [Locale] {host : Host} {db : Roster} {tenantId t : UUID} {dim : PlanDimension}

theorem count_insert (creation : Creation) :
    (creation.insert host tenantId db).count t dim =
      db.count t dim + if t = tenantId ∧ dim = creation.dimension then 1 else 0 := by
  cases creation <;> cases dim <;>
    simp [Creation.insert, Creation.dimension, Roster.count, User.counts, Driver.counts,
      Vehicle.counts, eq_comm]

omit [Locale] in
/-- A row that is written counts for its tenant once more, and only if it is brought back. -/
theorem countP_write_le {ρ : Type} [Keyed ρ] {table : Table ρ} {tenantOf : ρ → UUID}
    {live : ρ → Bool} {k : UUID} {f : ρ → ρ} {hf : ∀ r, Keyed.key (f r) = Keyed.key r}
    (htenant : ∀ r, tenantOf (f r) = tenantOf r) :
    let p := fun r => decide (tenantOf r = t) && live r
    (table.modify k f hf).rows.countP p ≤ table.rows.countP p ∨
      (table.modify k f hf).rows.countP p ≤ table.rows.countP p + 1 ∧
        (∃ r, table.get k = some r ∧ live r = false ∧ live (f r) = true ∧ tenantOf r = t) := by
  intro p
  refine or_iff_not_imp_right.mpr fun hnot => Table.countP_modify_le fun r hr hcounted => ?_
  obtain ⟨hmine, hlive⟩ := Bool.and_eq_true_iff.mp hcounted
  have hmine : tenantOf r = t := (htenant r).symm.trans (of_decide_eq_true hmine)
  cases hidle : live r with
  | true => simp [p, hmine, hidle]
  | false => exact absurd ⟨Table.countP_modify_le_succ, r, hr, hidle, hlive, hmine⟩ hnot

/-- A patch adds at most one row, and only to the tenant of a row that it brings back. -/
theorem count_write_le (revision : Revision) :
    (revision.write host db).count t dim ≤ db.count t dim ∨
      (revision.write host db).count t dim ≤ db.count t dim + 1 ∧
        revision.reactivates host db = true ∧ revision.target db = some (t, dim) := by
  cases revision with
  | user seen payload =>
    cases dim with
    | users =>
      refine (@countP_write_le t _ _ db.users User.tenantId User.isActive seen.id
        (payload.write seen) (fun _ => rfl) fun _ => rfl).imp_right ?_
      rintro ⟨hone, r, hr, hidle, hlive, rfl⟩
      exact ⟨hone, by simp [Revision.reactivates, hr, hidle, hlive], by simp [Revision.target, hr]⟩
    | drivers | vehicles => exact .inl le_rfl
  | driver seen payload =>
    cases dim with
    | drivers =>
      refine (@countP_write_le t _ _ db.drivers Driver.tenantId (fun d => d.status != "inactive")
        seen.id (payload.write seen) (fun _ => rfl) fun _ => rfl).imp_right ?_
      rintro ⟨hone, r, hr, hidle, hlive, rfl⟩
      refine ⟨hone, ?_, by simp [Revision.target, hr]⟩
      simpa [Revision.reactivates, hr] using ⟨bne_eq_false_iff_eq.mp hidle, bne_iff_ne.mp hlive⟩
    | users | vehicles => exact .inl le_rfl
  | vehicle seen payload =>
    cases dim with
    | vehicles =>
      refine (@countP_write_le t _ _ db.vehicles Vehicle.tenantId (fun v => v.status != "retired")
        seen.id (payload.write host seen) (fun _ => rfl) fun _ => rfl).imp_right ?_
      rintro ⟨hone, r, hr, hidle, hlive, rfl⟩
      refine ⟨hone, ?_, by simp [Revision.target, hr]⟩
      simpa [Revision.reactivates, hr] using ⟨bne_eq_false_iff_eq.mp hidle, bne_iff_ne.mp hlive⟩
    | users | drivers => exact .inl le_rfl

end Counts


/-! ## What a turn does -/

section Turn

variable [Locale] {host : Host} {i : Nat} {act : PlanAction} {s s' : PlanStore} {p p' : PlanPhase}

/-- The tenant of the draft is the one that is read, and the guard holds against what it has seen. -/
structure Draft.Passed (d : Draft) (seen : Option Nat) : Prop where
  below : ∀ n ∈ seen, ∀ max ∈ d.tenant.max d.dimension, (n : Int) < max
  unlimited : seen = none → d.tenant.max d.dimension = none

def PlanSound (s : PlanStore) : PlanPhase → Prop
  | .admitted d | .missed d | .counted d _ => s.db.tenants.get d.tenantId = some d.tenant
  | .allowed d seen => s.db.tenants.get d.tenantId = some d.tenant ∧ d.Passed seen
  | _ => True

omit [Locale] in
theorem decide_cases (d : Draft) (count : Nat) : d.decide host count = .idle ∨
    d.decide host count = .allowed d (some count) ∧ d.Passed (some count) := by
  unfold Draft.decide
  cases hcompare : compare host.upgradeUrl d.dimension d.tenant count with
  | error e => exact .inl rfl
  | ok u =>
    refine .inr ⟨rfl, ⟨?_, fun h => by cases h⟩⟩
    rintro n hn max hmax
    obtain rfl := Option.some.inj hn
    rw [compare, Option.mem_def.mp hmax, raiseIf_eq_ok, decide_eq_false_iff_not] at hcompare
    exact not_le.mp hcompare

omit [Locale] in
theorem sound_decide {d : Draft} {count : Nat}
    (hd : s.db.tenants.get d.tenantId = some d.tenant) : PlanSound s (d.decide host count) := by
  rcases @decide_cases host d count with h | ⟨h, hpassed⟩ <;> rw [h]
  · trivial
  · exact ⟨hd, hpassed⟩

/-- A turn writes no row, or it commits a creation that the guard has let pass, or a patch. -/
theorem turn_cases (h : planTurn host i act s p = some (s', p')) : s'.db = s.db ∨
    act = .commit ∧ ((∃ d seen, p = .allowed d seen ∧
        s'.db = d.creation.insert host d.tenantId s.db ∧ p' = .committed d.tenantId) ∨
      ∃ tenantId revision, p = .patching tenantId revision true ∧
        s'.db = revision.write host s.db ∧ p' = .committed tenantId) := by
  unfold planTurn at h
  split at h
  case h_9 d seen =>
    split at h
    · unfold PlanStore.commit at h
      split at h <;> cases h
      · exact .inr ⟨rfl, .inl ⟨d, seen, rfl, rfl, rfl⟩⟩
      · exact .inl rfl
    · cases h
  case h_10 tenantId revision =>
    unfold PlanStore.revise PlanStore.commit at h
    split at h
    · split at h <;> cases h
      · exact .inr ⟨rfl, .inr ⟨tenantId, revision, rfl, rfl, rfl⟩⟩
      · exact .inl rfl
    · cases h
      exact .inl rfl
  all_goals
    left
    repeat' split at h
    all_goals
      cases h
      try rfl

theorem sound_turn (h : planTurn host i act s p = some (s', p')) (hp : PlanSound s p) :
    PlanSound s p' := by
  unfold planTurn at h
  split at h
  case h_1 tenantId creation =>
    split at h
    · next tenant htenant =>
      cases h
      exact get_of_creationTenant htenant
    · cases h
      trivial
  case h_6 d =>
    split at h <;> cases h
    unfold Draft.readCache
    split
    · next hmax => exact ⟨hp, ⟨fun n hn => (by cases hn), fun _ => hmax⟩⟩
    · split
      · exact sound_decide hp
      · exact hp
  case h_7 d =>
    cases h
    split
    · exact hp
    · exact sound_decide hp
  case h_8 d count =>
    cases h
    exact sound_decide hp
  case h_9 d seen =>
    split at h
    · unfold PlanStore.commit at h
      split at h <;> cases h <;> trivial
    · cases h
  case h_10 tenantId revision =>
    unfold PlanStore.revise PlanStore.commit at h
    split at h
    · split at h <;> cases h <;> trivial
    · cases h
      trivial
  all_goals
    repeat' split at h
    all_goals cases h
    all_goals first | trivial | exact hp | exact ⟨hp.1, ⟨hp.2.below, hp.2.unlimited⟩⟩

theorem tenants_turn (h : planTurn host i act s p = some (s', p')) :
    s'.db.tenants = s.db.tenants := by
  rcases turn_cases h with hdb | ⟨-, ⟨d, seen, -, hdb, -⟩ | ⟨tenantId, revision, -, hdb, -⟩⟩
  · rw [hdb]
  · rw [hdb]
    cases d.creation <;> rfl
  · rw [hdb]
    cases revision <;> rfl

omit [Locale] in
theorem sound_of_tenants (hp : PlanSound s p) (h : s'.db.tenants = s.db.tenants) :
    PlanSound s' p := by
  cases p <;> simp only [PlanSound, h] at hp ⊢ <;> exact hp

end Turn

/-! ## Every interleaving -/

section Runs

variable [Locale] {host : Host} {c : PlanConfig} {m : Nat × PlanAction}

/-- No call is under way, and nothing is cached. -/
def planStart (db : Roster) (redis : Bool) : PlanConfig :=
  ⟨⟨db, redis, fun _ _ => none⟩, fun _ => .idle⟩

theorem planSound_move (h : ∀ i, PlanSound c.store (c.parties i)) :
    ∀ i, PlanSound (move (planTurn host) c m).store ((move (planTurn host) c m).parties i) := by
  rcases move_cases (planTurn host) c m with heq | ⟨s, p, hturn, heq⟩
  · rw [heq]
    exact h
  · rw [heq]
    intro i
    by_cases hi : i = m.1
    · subst hi
      simp only [Function.update_self]
      exact sound_of_tenants (sound_turn hturn (h _)) (tenants_turn hturn)
    · simp only [Function.update_of_ne hi]
      exact sound_of_tenants (h i) (tenants_turn hturn)

omit [Locale] in
theorem full_of_lt {tenantId : UUID} {dim : PlanDimension} {db : Roster} {tenant : Tenant} {max : Int}
    (htenant : db.tenants.get tenantId = some tenant) (hmax : tenant.max dim = some max)
    (habove : max < db.count tenantId dim + 1) : db.full tenantId dim = true := by
  rw [Roster.full, htenant, Option.any_some, hmax, Option.any_some]
  exact decide_eq_true (Int.lt_add_one_iff.mp habove)

/-- Where a turn exceeds, the limit is reached, and the turn commits a creation that has counted too
little or a patch that brings back a row of the tenant. -/
theorem exceeds_cases {tenantId : UUID} {dim : PlanDimension}
    (h : ∀ i, PlanSound c.store (c.parties i)) (hexceeds : Exceeds host c m tenantId dim) :
    c.store.db.full tenantId dim = true ∧ m.2 = .commit ∧
      ((∃ d seen, c.parties m.1 = .allowed d (some seen) ∧ d.tenantId = tenantId ∧
          d.dimension = dim ∧ seen < c.store.db.count tenantId dim) ∨
        ∃ t revision, c.parties m.1 = .patching t revision true ∧
          revision.reactivates host c.store.db = true ∧
          revision.target c.store.db = some (tenantId, dim)) := by
  obtain ⟨tenant, max, htenant, hmax, hmore, habove⟩ := hexceeds
  obtain ⟨i, act⟩ := m
  rcases move_cases (planTurn host) c (i, act) with heq | ⟨s, p, hturn, heq⟩
  · rw [heq] at hmore
    exact absurd hmore (lt_irrefl _)
  · rw [heq] at hmore habove
    have hi := h i
    rcases turn_cases hturn with hdb | ⟨rfl, ⟨d, seen, hp, hdb, -⟩ | ⟨t, revision, hp, hdb, -⟩⟩
    · rw [hdb] at hmore
      exact absurd hmore (lt_irrefl _)
    · simp only at hp
      rw [hp] at hi
      obtain ⟨hread, hpassed⟩ := hi
      simp only [hdb, count_insert] at hmore habove
      split at hmore
      · next hmine =>
        obtain ⟨rfl, rfl⟩ := hmine
        obtain rfl : d.tenant = tenant := Option.some.inj (hread.symm.trans htenant)
        rw [if_pos ⟨rfl, rfl⟩] at habove
        have hfull := full_of_lt htenant hmax (by exact_mod_cast habove)
        cases seen with
        | none =>
          exact absurd (hpassed.unlimited rfl) (by simp [Draft.dimension, hmax])
        | some n =>
          have hbelow := hpassed.below n rfl max hmax
          exact ⟨hfull, rfl, .inl ⟨d, n, hp, rfl, rfl, by omega⟩⟩
      · exact absurd hmore (lt_irrefl _)
    · simp only at hp
      simp only [hdb] at hmore habove
      rcases @count_write_le _ host c.store.db tenantId dim revision with hle | ⟨hone, hback, htarget⟩
      · exact absurd hmore (not_lt.mpr hle)
      · exact ⟨full_of_lt htenant hmax (by omega), rfl, .inr ⟨t, revision, hp, hback, htarget⟩⟩

theorem overtaken_or_reactivates {tenantId : UUID} {dim : PlanDimension}
    (h : ∀ i, PlanSound c.store (c.parties i)) (hexceeds : Exceeds host c m tenantId dim) :
    Overtaken c m ∨ Reactivates host c m := by
  obtain ⟨-, hact, ⟨d, seen, hp, rfl, rfl, hseen⟩ | ⟨t, revision, hp, hback, -⟩⟩ :=
    exceeds_cases h hexceeds
  · left
    simp only [Overtaken, hact, hp]
    exact hseen
  · right
    simp only [Reactivates, hact, hp]
    exact hback

theorem not_exceeds_of_heeded {tenantId : UUID} {dim : PlanDimension}
    (h : ∀ i, PlanSound c.store (c.parties i)) (hheeded : Heeded host c m) :
    ¬ Exceeds host c m tenantId dim := by
  intro hexceeds
  obtain ⟨hfull, hact, ⟨d, seen, hp, rfl, rfl, hseen⟩ | ⟨t, revision, hp, hback, htarget⟩⟩ :=
    exceeds_cases h hexceeds
  · simp only [Heeded, hact, hp] at hheeded
    rw [hheeded hseen] at hfull
    cases hfull
  · simp only [Heeded, hact, hp] at hheeded
    rw [hheeded hback _ htarget] at hfull
    cases hfull

/-- Whatever is cached and however the calls overtake each other, a number only rises above its
limit where a creation has counted fewer rows than there are, or a patch brings a row back. -/
theorem plan_limits (host : Host) (db : Roster) (redis : Bool) (ms : List (Nat × PlanAction)) :
    Run.Along (move (planTurn host))
      (fun c m => ∀ tenantId dim, Exceeds host c m tenantId dim → Overtaken c m ∨ Reactivates host c m)
      (planStart db redis) ms := by
  have hstart : ∀ i, PlanSound (planStart db redis).store ((planStart db redis).parties i) :=
    fun _ => trivial
  exact Run.along_inv (C := fun _ _ => True) (I := fun c => ∀ i, PlanSound c.store (c.parties i))
    (fun _ _ h _ => planSound_move h) (fun _ _ h _ _ _ => overtaken_or_reactivates h) hstart
    (Run.along_of_forall (fun _ _ _ => trivial) _)

theorem tenants_move : (move (planTurn host) c m).store.db.tenants = c.store.db.tenants := by
  rcases move_cases (planTurn host) c m with heq | ⟨s, p, hturn, heq⟩
  · rw [heq]
  · rw [heq]
    exact tenants_turn hturn

theorem limitsKept_move {db : Roster} (h : LimitsKept db c.store.db)
    (hnot : ∀ tenantId dim, ¬ Exceeds host c m tenantId dim) :
    LimitsKept db (move (planTurn host) c m).store.db := by
  intro tenantId dim tenant max htenant hmax
  rw [tenants_move] at htenant
  have hbefore := h tenantId dim tenant max htenant hmax
  by_cases hmore : c.store.db.count tenantId dim < (move (planTurn host) c m).store.db.count tenantId dim
  · refine .inl (not_lt.mp fun habove => ?_)
    exact hnot tenantId dim ⟨tenant, max, htenant, hmax, hmore, habove⟩
  · have hle := not_lt.mp hmore
    omega

/-- Whatever is cached at first: where every step heeds the limits, no number rises above one. -/
theorem plan_limits_heeded (host : Host) (db : Roster) (redis : Bool)
    (cached : UUID → PlanDimension → Option Nat) (ms : List (Nat × PlanAction))
    (hheeded : Run.Along (move (planTurn host)) (Heeded host)
      ⟨⟨db, redis, cached⟩, fun _ => .idle⟩ ms) :
    PlansHeld host ⟨⟨db, redis, cached⟩, fun _ => .idle⟩ ms := by
  have hsound : ∀ i : Nat, PlanSound ⟨db, redis, cached⟩ ((fun _ => .idle : Nat → PlanPhase) i) :=
    fun _ => trivial
  have hsteps : Run.Along (move (planTurn host))
      (fun c m => ∀ tenantId dim, ¬ Exceeds host c m tenantId dim)
      ⟨⟨db, redis, cached⟩, fun _ => .idle⟩ ms :=
    Run.along_inv (I := fun c : PlanConfig => ∀ i, PlanSound c.store (c.parties i))
      (fun _ _ h _ => planSound_move h) (fun _ _ h hm _ _ => not_exceeds_of_heeded h hm) hsound hheeded
  refine ⟨hsteps, Run.exec_inv (I := fun c : PlanConfig => LimitsKept db c.store.db) ?_ ?_ hsteps⟩
  · exact fun c m hkept hnot => limitsKept_move hkept hnot
  · exact fun tenantId dim tenant max _ _ => .inr le_rfl

end Runs

/-! ## One call at a time -/

section One

variable [Locale] {host : Host} {i : Nat} {act : PlanAction} {s s' : PlanStore} {p p' : PlanPhase}
  {tenantId t : UUID} {dim : PlanDimension}

/-- The row is as it was read, and of the tenant. -/
def Revision.Own (tenantId : UUID) (db : Roster) : Revision → Prop
  | .user seen _ => db.users.get seen.id = some seen ∧ seen.tenantId = tenantId
  | .driver seen _ => db.drivers.get seen.id = some seen ∧ seen.tenantId = tenantId
  | .vehicle seen _ => db.vehicles.get seen.id = some seen ∧ seen.tenantId = tenantId

/-- What the call has read is still so. -/
def Fresh (s : PlanStore) : PlanPhase → Prop
  | .counted d count | .allowed d (some count) => count = s.db.count d.tenantId d.dimension
  | .patching tenantId revision _ => revision.Own tenantId s.db
  | _ => True

/-- What is cached is the number of the rows, except for a tenant whose cache is to be dropped. -/
structure Current (s : PlanStore) (p : PlanPhase) : Prop where
  fresh : Fresh s p
  cached : ∀ t dim count, s.cached t dim = some count → count = s.db.count t dim ∨ p = .committed t

omit [Locale] in
theorem own_of_read {q : Patch} {db : Roster} {revision : Revision}
    (h : q.read tenantId db = .ok revision) : revision.Own tenantId db := by
  cases q <;>
  · simp only [Patch.read, bind_eq_ok, require_eq_ok, Option.filter_eq_some_iff] at h
    obtain ⟨row, ⟨hget, hmine⟩, h⟩ := h
    cases h
    refine ⟨?_, of_decide_eq_true hmine⟩
    rw [show row.id = _ from Table.key_of_get hget]
    exact hget

theorem count_write_other {revision : Revision} {db : Roster} (h : revision.Own tenantId db)
    (ht : t ≠ tenantId) : (revision.write host db).count t dim = db.count t dim := by
  cases revision with
  | user seen payload =>
    cases dim with
    | users =>
      show (db.users.modify seen.id (payload.write seen)).rows.countP (User.counts t) = _
      refine Table.countP_modify fun row hrow => ?_
      obtain rfl : seen = row := Option.some.inj (h.1.symm.trans hrow)
      simp [User.counts, UserPatch.write, h.2, Ne.symm ht]
    | drivers | vehicles => rfl
  | driver seen payload =>
    cases dim with
    | drivers =>
      show (db.drivers.modify seen.id (payload.write seen)).rows.countP (Driver.counts t) = _
      refine Table.countP_modify fun row hrow => ?_
      obtain rfl : seen = row := Option.some.inj (h.1.symm.trans hrow)
      simp [Driver.counts, DriverPatch.write, h.2, Ne.symm ht]
    | users | vehicles => rfl
  | vehicle seen payload =>
    cases dim with
    | vehicles =>
      show (db.vehicles.modify seen.id (payload.write host seen)).rows.countP (Vehicle.counts t) = _
      refine Table.countP_modify fun row hrow => ?_
      obtain rfl : seen = row := Option.some.inj (h.1.symm.trans hrow)
      simp [Vehicle.counts, VehiclePatch.write, h.2, Ne.symm ht]
    | users | drivers => rfl

omit [Locale] in
theorem Current.forget (h : Current s p) (t : UUID) : Current (s.forget t) p where
  fresh := h.fresh
  cached t' dim count hcached := by
    simp only [PlanStore.forget] at hcached
    split at hcached
    · cases hcached
    · exact h.cached t' dim count hcached

omit [Locale] in
theorem fresh_decide {d : Draft} {count : Nat} (hcount : count = s.db.count d.tenantId d.dimension) :
    Fresh s (d.decide host count) := by
  rcases @decide_cases host d count with h | ⟨h, -⟩ <;> rw [h]
  · trivial
  · exact hcount

omit [Locale] in
/-- After a commit, only the numbers of its tenant have changed. -/
theorem current_committed {db : Roster} (h : Current s p) (hquiet : ∀ t, p ≠ .committed t)
    (hdb : ∀ t dim, t ≠ tenantId → db.count t dim = s.db.count t dim) :
    Current { s with db } (.committed tenantId) where
  fresh := trivial
  cached t dim count hcached := by
    by_cases ht : t = tenantId
    · exact .inr (ht ▸ rfl)
    · exact .inl (((h.cached t dim count hcached).resolve_right (hquiet t)).trans (hdb t dim ht).symm)

omit [Locale] in
/-- A call that has not committed goes on and changes nothing. -/
theorem Current.goes {q : PlanPhase} (h : Current s p) (hquiet : ∀ t, p ≠ .committed t)
    (hfresh : Fresh s q) : Current s q where
  fresh := hfresh
  cached t dim count hcached := .inl ((h.cached t dim count hcached).resolve_right (hquiet t))

omit [Locale] in
theorem Current.readCache {d : Draft} (h : Current s (.admitted d)) :
    Fresh s (d.readCache host s) := by
  unfold Draft.readCache
  split
  · trivial
  · split
    · next count hcached =>
      unfold cachedCount at hcached
      split at hcached
      · exact fresh_decide ((h.cached _ _ _ hcached).resolve_right fun h => by cases h)
      · cases hcached
    · trivial

omit [Locale] in
theorem Current.setCount {d : Draft} {count : Nat} (h : Current s (.counted d count)) :
    Current (s.setCount d.tenantId d.dimension count) (d.decide host count) := by
  refine ⟨fresh_decide h.fresh, fun t dim n hcached => .inl ?_⟩
  simp only [PlanStore.setCount] at hcached
  split at hcached
  · next hmine =>
    obtain ⟨rfl, rfl⟩ := hmine
    exact (Option.some.inj hcached).symm.trans h.fresh
  · exact (h.cached t dim n hcached).resolve_right fun h => by cases h

theorem Current.commit {d : Draft} {seen : Option Nat} (h : Current s (.allowed d seen))
    (hserved : served d.tenantId (s.commit (d.creation.insert host d.tenantId s.db)) = (s', p')) :
    Current s' p' := by
  unfold PlanStore.commit at hserved
  split at hserved <;> cases hserved
  · refine current_committed h (fun _ h => by cases h) fun t dim ht => ?_
    rw [count_insert, if_neg fun h => ht h.1, Nat.add_zero]
  · exact h.goes (fun _ h => by cases h) trivial

theorem Current.revise {revision : Revision} {vetted : Bool}
    (h : Current s (.patching tenantId revision vetted))
    (hserved : served tenantId (s.revise host revision) = (s', p')) : Current s' p' := by
  unfold PlanStore.revise PlanStore.commit at hserved
  split at hserved
  · split at hserved <;> cases hserved
    · exact current_committed h (fun _ h => by cases h) fun t dim ht => count_write_other h.fresh ht
    · exact h.goes (fun _ h => by cases h) trivial
  · cases hserved
    exact h.goes (fun _ h => by cases h) trivial

omit [Locale] in
theorem Current.invalidate (h : Current s (.committed tenantId)) :
    Current (s.forget tenantId) .idle := by
  refine ⟨trivial, fun t dim count hcached => .inl ?_⟩
  simp only [PlanStore.forget] at hcached
  split at hcached
  · cases hcached
  · next hother =>
    refine (h.cached t dim count hcached).resolve_right fun h => ?_
    cases h
    exact hother rfl

theorem current_turn (h : planTurn host i act s p = some (s', p')) (hp : Current s p)
    (hkept : ∀ t, p = .committed t → act ≠ .abandon) : Current s' p' := by
  unfold planTurn at h
  split at h
  case h_1 tenantId creation =>
    split at h <;> cases h <;> exact hp.goes (fun _ h => by cases h) trivial
  case h_2 tenantId q =>
    split at h <;> cases h
    · next hread => exact hp.goes (fun _ h => by cases h) (own_of_read hread)
    · exact hp.goes (fun _ h => by cases h) trivial
  case h_3 d =>
    repeat' split at h
    all_goals cases h
    all_goals exact hp.goes (fun _ h => by cases h) trivial
  case h_4 d seen =>
    repeat' split at h
    all_goals cases h
    · refine hp.goes (fun _ h => by cases h) ?_
      cases seen with
      | none => trivial
      | some count => exact hp.fresh
    · exact hp.goes (fun _ h => by cases h) trivial
  case h_5 tenantId revision =>
    split at h <;> cases h
    · exact hp.goes (fun _ h => by cases h) hp.fresh
    · exact hp.goes (fun _ h => by cases h) trivial
  case h_6 d =>
    split at h <;> cases h
    exact hp.goes (fun _ h => by cases h) hp.readCache
  case h_7 d =>
    cases h
    refine hp.goes (fun _ h => by cases h) ?_
    split
    · exact rfl
    · exact fresh_decide rfl
  case h_8 d count =>
    cases h
    exact hp.setCount
  case h_9 d seen =>
    split at h
    · exact hp.commit (Option.some.inj h)
    · cases h
  case h_10 tenantId revision => exact hp.revise (Option.some.inj h)
  case h_11 tenantId =>
    cases h
    exact hp.invalidate
  case h_12 =>
    cases h
    exact hp.goes (fun t ht => hkept t ht rfl) trivial
  case h_13 tenantId =>
    cases h
    exact hp.forget tenantId
  case h_14 => cases h

/-- A party with no call under way starts one, or drops what is cached. -/
theorem idle_turn (h : planTurn host i act s .idle = some (s', p')) :
    ((∃ t creation, act = .create t creation) ∨ ∃ t q, act = .patch t q) ∨
      p' = .idle ∧ (s' = s ∨ ∃ t, s' = s.forget t) := by
  cases act with
  | create t creation => exact .inl (.inl ⟨t, creation, rfl⟩)
  | patch t q => exact .inl (.inr ⟨t, q, rfl⟩)
  | abandon =>
    cases h
    exact .inr ⟨rfl, .inl rfl⟩
  | expire t =>
    cases h
    exact .inr ⟨rfl, .inr ⟨t, rfl⟩⟩
  | _ => cases h

/-- At most one call is under way, and it is current. -/
structure Single (c : PlanConfig) (i : Nat) : Prop where
  others : ∀ j, j ≠ i → c.parties j = .idle
  current : Current c.store (c.parties i)

theorem single_move {c : PlanConfig} {m : Nat × PlanAction} (h : ∃ i, Single c i)
    (hone : OneAtATime c m) : ∃ i, Single (move (planTurn host) c m) i := by
  obtain ⟨i, hothers, hcurrent⟩ := h
  obtain ⟨j, act⟩ := m
  rcases move_cases (planTurn host) c (j, act) with heq | ⟨s, p, hturn, heq⟩
  · rw [heq]
    exact ⟨i, hothers, hcurrent⟩
  · rw [heq]
    have htaken : ∀ k, k ≠ j → Function.update c.parties j p k = c.parties k :=
      fun k hk => Function.update_of_ne hk ..
    -- the one call that is under way is the one that moves, or nothing but the cache changes
    have hmoves : (∀ k, k ≠ j → c.parties k = .idle) → Current c.store (c.parties j) →
        ∃ i, Single ⟨s, Function.update c.parties j p⟩ i := by
      intro hquiet hj
      refine ⟨j, fun k hk => (htaken k hk).trans (hquiet k hk), ?_⟩
      simp only [Function.update_self]
      refine current_turn hturn hj ?_
      rintro t hp rfl
      simp only [OneAtATime, hp] at hone
    by_cases hji : j = i
    · exact hmoves (hji ▸ hothers) (hji ▸ hcurrent)
    · have hidle := hothers j hji
      simp only [hidle] at hturn
      rcases idle_turn hturn with hstarts | ⟨rfl, hstore⟩
      · have hall : ∀ k, c.parties k = .idle := by
          rcases hstarts with ⟨t, creation, rfl⟩ | ⟨t, q, rfl⟩ <;> exact hone
        exact hmoves (fun k _ => hall k) (hidle ▸ hall i ▸ hcurrent)
      · have hparties : Function.update c.parties j .idle = c.parties := by
          rw [← hidle, Function.update_eq_self]
        rw [hparties]
        refine ⟨i, hothers, ?_⟩
        rcases hstore with rfl | ⟨t, rfl⟩
        · exact hcurrent
        · exact hcurrent.forget t

omit [Locale] in
theorem not_overtaken {c : PlanConfig} {m : Nat × PlanAction} (h : ∃ i, Single c i) :
    ¬ Overtaken c m := by
  obtain ⟨i, hothers, hcurrent⟩ := h
  obtain ⟨j, act⟩ := m
  intro hover
  unfold Overtaken at hover
  split at hover
  · next d seen _ hp =>
    simp only at hp
    have hji : j = i := by
      by_contra hne
      rw [hothers j hne] at hp
      cases hp
    rw [← hji, hp] at hcurrent
    exact absurd hover (by rw [show seen = _ from hcurrent.fresh]; exact lt_irrefl _)
  · exact hover

/-- Where the calls are made one after the other, and each drops what it has made stale, only a
patch that brings a row back takes a number above its limit. -/
theorem plan_limits_one_at_a_time (host : Host) (db : Roster) (redis : Bool)
    (ms : List (Nat × PlanAction))
    (hone : Run.Along (move (planTurn host)) OneAtATime (planStart db redis) ms) :
    Run.Along (move (planTurn host))
      (fun c m => ∀ tenantId dim, Exceeds host c m tenantId dim → Reactivates host c m)
      (planStart db redis) ms := by
  have hsound : ∀ i, PlanSound (planStart db redis).store ((planStart db redis).parties i) :=
    fun _ => trivial
  have hsingle : ∃ i, Single (planStart db redis) i :=
    ⟨0, fun _ _ => rfl, trivial, fun _ _ _ h => by cases h⟩
  exact Run.along_inv (I := fun c => (∀ i, PlanSound c.store (c.parties i)) ∧ ∃ i, Single c i)
    (fun _ _ h hm => ⟨planSound_move h.1, single_move h.2 hm⟩)
    (fun _ _ h _ _ _ hexceeds => (overtaken_or_reactivates h.1 hexceeds).resolve_left (not_overtaken h.2))
    ⟨hsound, hsingle⟩ hone

end One

/-! ## A driver that comes back -/

@[reducible] def asIs : Host := { upper := fun s => s }

def oneDriverLeft : Roster where
  tenants := .single { id := 1, maxDrivers := some 1 }
  drivers := (Table.single { id := 1, tenantId := 1 }).insert fun id =>
    { id, tenantId := 1, status := "inactive" }

def rehire : List (Nat × PlanAction) :=
  [(0, .patch 1 (.driver 2 { status := some (some "active") })), (0, .vet), (0, .commit),
    (0, .invalidate)]

theorem plan_limits_rehire : @Run.Along _ _ (move (@planTurn Locale.chars asIs))
    (fun c m => ∀ tenantId dim, @Exceeds Locale.chars asIs c m tenantId dim →
      @Reactivates Locale.chars asIs c m) (planStart oneDriverLeft true) rehire := by
  let := Locale.chars
  exact plan_limits_one_at_a_time asIs oneDriverLeft true rehire
    ⟨fun _ => rfl, trivial, trivial, trivial, trivial⟩

/-! ## Above the limit -/

def twoDriversLeft : Roster :=
  { oneDriverLeft with tenants := .single { id := 1, maxDrivers := some 2 } }

/-- Below the limit a driver may come back. -/
theorem plan_limits_heeded_rehire :
    @PlansHeld Locale.chars asIs (planStart twoDriversLeft true) rehire := by
  let := Locale.chars
  refine plan_limits_heeded asIs twoDriversLeft true _ rehire ⟨trivial, trivial, fun _ t ht => ?_,
    trivial, trivial⟩
  cases ht
  decide +kernel

/-- Two creations that are let pass on one count. -/
def hireTwice : List (Nat × PlanAction) :=
  [(0, .create 1 (.driver {})), (1, .create 1 (.driver {})), (0, .readCache), (1, .readCache),
    (0, .count), (1, .count), (0, .vet), (1, .vet), (0, .commit), (1, .commit)]

/-- A driver comes back where the limit is reached; and of two creations the second exceeds it. -/
theorem driver_above_limit :
    ¬ @PlansHeld Locale.chars asIs (planStart oneDriverLeft true) rehire ∧
      ¬ @PlansHeld Locale.chars asIs (planStart { oneDriverLeft with drivers := ∅ } false)
        hireTwice := by
  let := Locale.chars
  constructor
  · intro h
    have hrose : (Run.exec (move (@planTurn Locale.chars asIs))
        (planStart oneDriverLeft true) rehire).store.db.count 1 .drivers = 2 := by decide +kernel
    have hkept := h.kept 1 .drivers { id := 1, maxDrivers := some 1 } 1 rfl rfl
    rw [hrose] at hkept
    revert hkept
    decide +kernel
  · intro h
    have hrose : (Run.exec (move (@planTurn Locale.chars asIs))
        (planStart { oneDriverLeft with drivers := ∅ } false) hireTwice).store.db.count 1 .drivers =
          2 := by
      decide +kernel
    have hkept := h.kept 1 .drivers { id := 1, maxDrivers := some 1 } 1 rfl rfl
    rw [hrose] at hkept
    revert hkept
    decide +kernel

end Plans
end Rotas
