import Rotas.Lib.Run
import Rotas.Lib.Tiers
import Rotas.Trips.Execution

/-!
# Rotas.Trips.Allowance

The travel allowance of the driver of a trip, by the tiers of the tenant's table of distances, over
runs of calls and retries, with other costs and any changes of the trips, the orders and the tables
between. Distances and amounts are floats in the source, exact numbers here.

* `AllowanceTable` — the table as the tenant's policy has it, checked when it was set.
* `driverAllowanceMatch` — the amount for a distance: the first tier that holds it.
* `recordDriverTravelAllowance` — the cost of type `driver_despacho`, under the caller's reference or
  one that is made of the trip and the distance.
* `allowance_mono` — with adjoining tiers, in any order, a greater distance has no smaller amount.
* `OneAllowance` — no trip has two costs that are its driver's allowance.
* `AllowanceCall.Settled` — the call is for a trip without one, or does not qualify, or its reference
  is recorded already.
* `one_allowance` — runs of such calls record one allowance for a trip at most.
* `allowance_again` — a trip that is ten kilometres longer than expected gets two.
-/

namespace Rotas

open Work Run

/-! ## The table -/

/-- A tier of the table; `_validate_compliance_policy` refuses any other. Its label may be called its
description. -/
structure AllowanceTier where
  minKm : ℚ
  maxKm : Option ℚ := none
  amount : ℚ
  label : Option String := none
  code : Option String := none
  minKm_nonneg : 0 ≤ minKm := by simp
  amount_nonneg : 0 ≤ amount := by simp
  nonempty : maxKm.all (minKm < ·) := by norm_num

/-- `driver_travel_allowance_policy`. Its minimum may be absent, or null. -/
structure AllowanceTable where
  enabled : Option Bool := none
  tableName : Option String := none
  name : Option String := none
  tableReference : Option String := none
  reference : Option String := none
  effectiveFrom : Option String := none
  entryMode : Option String := none
  currency : Option String := none
  minLongCourseKm : Option (Option ℚ) := none
  tiers : Option (List AllowanceTier) := none
  minLongCourseKm_nonneg : minLongCourseKm.all (·.all (0 ≤ ·)) := by simp

/-- The tiers of `DEFAULT_DRIVER_ALLOWANCE_POLICY`. -/
def defaultTiers : List AllowanceTier :=
  [{ minKm := 100, maxKm := some 250, amount := 500, label := some "100-249 km" },
    { minKm := 250, maxKm := some 500, amount := 1000, label := some "250-499 km" },
    { minKm := 500, amount := 1500, label := some "500+ km" }]

/-- A table with its defaults filled in. -/
structure AllowancePolicy where
  enabled : Bool := true
  tableName : String := "Tabela padrao de despacho"
  tableReference : String := "system-default"
  effectiveFrom : Option String := none
  entryMode : Option String := none
  currency : String := "MZN"
  minLongCourseKm : ℚ := 100
  tiers : List AllowanceTier := defaultTiers
  source : String := "system_default"

/-- `_driver_allowance_policy`, with `float(… or 0)` of its minimum. -/
def driverAllowancePolicy (value : Option AllowanceTable) : AllowancePolicy :=
  match value with
  | none => {}
  | some value =>
    { enabled := value.enabled.getD true
      tableName :=
        (truthy value.tableName).getD ((truthy value.name).getD "Tabela padrao de despacho")
      tableReference :=
        (truthy value.tableReference).getD ((truthy value.reference).getD "system-default")
      effectiveFrom := value.effectiveFrom
      entryMode := value.entryMode
      currency := ((truthy value.currency).getD "MZN").toUpper
      minLongCourseKm := (value.minLongCourseKm.getD (some 100)).getD 0
      tiers := value.tiers.getD defaultTiers
      source := "tenant_policy" }

structure AllowanceMatch where
  amount : ℚ := 0
  currency : String
  policy : AllowancePolicy
  tier : Option AllowanceTier := none
  reason : String

/-- The tier is for the distance: not below its minimum, and below its maximum if it has one. -/
def AllowanceTier.matches (tier : AllowanceTier) (distanceKm : ℚ) : Bool :=
  !decide (distanceKm < tier.minKm) && !tier.maxKm.any (· ≤ distanceKm)

/-- `_driver_allowance_match`. -/
def driverAllowanceMatch (policy : AllowancePolicy) (distanceKm : ℚ) : AllowanceMatch :=
  let currency := policy.currency
  if policy.enabled = false then { currency, policy, reason := "disabled" }
  else if distanceKm < policy.minLongCourseKm then
    { currency, policy, reason := "below_min_long_course_km" }
  else match policy.tiers.find? (·.matches distanceKm) with
    | some tier => { amount := tier.amount, currency, policy, tier := some tier, reason := "matched" }
    | none => { currency, policy, reason := "no_matching_tier" }

/-! ## The cost -/

/-- The trips' database with the distances of the orders and the tenants' tables. -/
structure AllowanceDb extends Db where
  estimatedDistanceKm : UUID → Option ℚ := fun _ => none
  driverTravelAllowancePolicy : UUID → Option AllowanceTable := fun _ => none

instance : Store AllowanceDb Exc := ⟨fun db => db.ok, .integrityError⟩

/-- What a request can give; without a reference one is made up. -/
structure TripDriverAllowanceRecordRequest where
  distanceKm : Option ℚ := none
  incurredAt : Option Instant := none
  requestReference : Option String := none
  notes : Option String := none

/-- A number of kilometres in the texts: `str(round(km, 2))` and `f"{km:g}"`. -/
class Kilometres where
  rounded : ℚ → String
  brief : ℚ → String

/-- Distances in whole kilometres. -/
@[reducible] def Kilometres.whole : Kilometres where
  rounded km := toString ⌊km⌋ ++ ".0"
  brief km := toString ⌊km⌋

/-- The estimate of the trip's order. -/
def orderDistanceKm (tenantId : UUID) (trip : Trip) (db : AllowanceDb) : Option ℚ :=
  trip.tripOrderId.bind fun orderId => (db.tripOrders.get orderId).bind fun order =>
    if order.tenantId = tenantId then db.estimatedDistanceKm order.id else none

/-- What the odometer says the trip was. -/
def drivenKm (trip : Trip) : Option ℚ :=
  match trip.kmStart, trip.kmEnd with
  | some kmStart, some kmEnd => if kmStart ≤ kmEnd then some (kmEnd - kmStart : Int) else none
  | _, _ => none

/-- `_trip_allowance_distance`. -/
def tripAllowanceDistance (tenantId : UUID) (trip : Trip) (overrideKm : Option ℚ)
    (db : AllowanceDb) : Except Exc ℚ :=
  match overrideKm with
  | some km => do
    raiseIf (km < 0)
      (unprocessable "invalid_trip_distance" "Trip allowance distance cannot be negative.")
    return km
  | none => require (orderDistanceKm tenantId trip db <|> drivenKm trip)
      (unprocessable "trip_distance_required"
        "Trip distance is required to calculate driver despacho allowance.")

section Cost

variable [Rendering] [Kilometres]

/-- The reference of the cost: the caller's, or one of the trip and the distance. -/
def allowanceReference (tripId : UUID) (payload : TripDriverAllowanceRecordRequest)
    (distanceKm : ℚ) : String :=
  (truthy payload.requestReference).getD
    ("driver-despacho:" ++ Rendering.str tripId ++ ":" ++ Kilometres.rounded distanceKm)

def allowanceCost (now : Instant) (tripId : UUID) (payload : TripDriverAllowanceRecordRequest)
    (distanceKm : ℚ) (found : AllowanceMatch) : TripCostCreate where
  costType := "driver_despacho"
  description := some ((truthy payload.notes).getD ("Despacho do motorista para viagem de " ++
    Kilometres.brief distanceKm ++ " km pela " ++ found.policy.tableName ++ "."))
  amount := found.amount
  currency := found.currency
  paidBy := "company"
  paymentMethod := some "driver_allowance"
  requestReference := allowanceReference tripId payload distanceKm
  incurredAt := payload.incurredAt.getD now
  sourceType := "driver_despacho"
  sourceId := some tripId

/-- What the caller is answered, beside the cost itself. -/
structure AllowanceAnswer where
  costId : UUID
  distanceKm : ℚ
  allowance : AllowanceMatch

def recordDriverTravelAllowance [Locale] (now : Instant) (tenantId tripId : UUID)
    (payload : TripDriverAllowanceRecordRequest) (actorId : Option UUID) (db : AllowanceDb) :
    Except Exc (AllowanceAnswer × AllowanceDb) := do
  let trip ← requireTrip tenantId tripId db.toDb
  let distanceKm ← tripAllowanceDistance tenantId trip payload.distanceKm db
  let policy := driverAllowancePolicy (db.driverTravelAllowancePolicy tenantId)
  let allowance := driverAllowanceMatch policy distanceKm
  raiseIf (allowance.amount ≤ 0)
    (conflict "driver_allowance_not_applicable"
      "Trip distance does not qualify for driver despacho allowance."
      [("distance_km", .number distanceKm), ("reason", .text allowance.reason)])
  let (costId, withCost) ← recordTripCost now tenantId tripId
    (allowanceCost now tripId payload distanceKm allowance) actorId db.toDb
  return ({ costId, distanceKm, allowance }, { db with toDb := withCost })

end Cost

/-! ## Distances and amounts -/

def AllowanceTier.tier (t : AllowanceTier) : Tier ℚ ℚ := ⟨t.minKm, t.maxKm, t.amount⟩

/-- In the order of `min_km` the tiers adjoin: each `max_km` is the next `min_km`, the last has
none, and the amounts do not fall. -/
def AdjoiningTiers (tiers : List AllowanceTier) : Prop :=
  ∃ inOrder : List AllowanceTier, tiers.Perm inOrder ∧ Adjoining (inOrder.map AllowanceTier.tier)

section Monotone

variable {policy : AllowancePolicy} {d d' : ℚ}

theorem matches_eq (t : AllowanceTier) (d : ℚ) : t.matches d = t.tier.holds d := by
  refine Bool.eq_iff_iff.mpr ?_
  cases hmax : t.maxKm with
  | none => simp [AllowanceTier.matches, AllowanceTier.tier, Tier.holds, hmax]
  | some max => simp [AllowanceTier.matches, AllowanceTier.tier, Tier.holds, hmax]

theorem holds_of_find {tiers : List AllowanceTier} {t : AllowanceTier}
    (h : tiers.find? (·.matches d) = some t) : t.tier.holds d = true := by
  have hmatch : t.matches d = true := by simpa using List.find?_some h
  rw [← matches_eq]
  exact hmatch

theorem amount_nonneg (policy : AllowancePolicy) (d : ℚ) :
    0 ≤ (driverAllowanceMatch policy d).amount := by
  unfold driverAllowanceMatch
  split
  · exact le_refl 0
  split
  · exact le_refl 0
  split
  · next tier _ => exact tier.amount_nonneg
  · exact le_refl 0

/-- A tier that matches the smaller distance is followed by one, of no smaller amount, that is the
first to match the greater. -/
theorem match_mono (hadjoin : AdjoiningTiers policy.tiers) (hle : d ≤ d') {t : AllowanceTier}
    (hfind : policy.tiers.find? (·.matches d) = some t) :
    ∃ u, policy.tiers.find? (·.matches d') = some u ∧ t.amount ≤ u.amount := by
  obtain ⟨inOrder, hperm, hadjoin⟩ := hadjoin
  have ht : t ∈ inOrder := hperm.mem_iff.mp (List.mem_of_find?_eq_some hfind)
  have hholds : t.tier.holds d = true := holds_of_find hfind
  obtain ⟨_, hmem, hheld, hamount⟩ :=
    hadjoin.mono hle t.tier (List.mem_map_of_mem ht) hholds
  obtain ⟨u, hu, rfl⟩ := List.mem_map.mp hmem
  cases hfind' : policy.tiers.find? (·.matches d') with
  | none =>
    have hnone := List.find?_eq_none.mp hfind' u (hperm.mem_iff.mpr hu)
    rw [matches_eq] at hnone
    exact absurd hheld hnone
  | some v =>
    have hv : v ∈ inOrder := hperm.mem_iff.mp (List.mem_of_find?_eq_some hfind')
    have hvholds : v.tier.holds d' = true := holds_of_find hfind'
    -- the first tier that matches is the only one
    have hsame := hadjoin.unique v.tier (List.mem_map_of_mem hv) u.tier (List.mem_map_of_mem hu)
      hvholds hheld
    refine ⟨v, rfl, ?_⟩
    have hvalue : v.amount = u.amount := congrArg Tier.value hsame
    rw [hvalue]
    exact hamount

theorem allowance_mono (hadjoin : AdjoiningTiers policy.tiers) (hle : d ≤ d') :
    (driverAllowanceMatch policy d).amount ≤ (driverAllowanceMatch policy d').amount := by
  have hnonneg := amount_nonneg policy d'
  by_cases henabled : policy.enabled = false
  · simp only [driverAllowanceMatch, if_pos henabled, le_refl]
  by_cases hlong : d < policy.minLongCourseKm
  · have hzero : (driverAllowanceMatch policy d).amount = 0 := by
      simp only [driverAllowanceMatch, if_neg henabled, if_pos hlong]
    rw [hzero]
    exact hnonneg
  have hlong' : ¬ d' < policy.minLongCourseKm := not_lt.mpr (le_trans (not_lt.mp hlong) hle)
  cases hfind : policy.tiers.find? (·.matches d) with
  | none =>
    have hzero : (driverAllowanceMatch policy d).amount = 0 := by
      simp only [driverAllowanceMatch, if_neg henabled, if_neg hlong, hfind]
    rw [hzero]
    exact hnonneg
  | some t =>
    obtain ⟨u, hfind', hamount⟩ := match_mono hadjoin hle hfind
    simp only [driverAllowanceMatch, if_neg henabled, if_neg hlong, if_neg hlong', hfind, hfind']
    exact hamount

end Monotone

theorem adjoining_defaultTiers : AdjoiningTiers defaultTiers :=
  ⟨defaultTiers, List.Perm.refl _, by
    simp [defaultTiers, Adjoining, AllowanceTier.tier]
    norm_num⟩

/-- The cost is the allowance of the trip, not one that somebody entered. -/
def TripCost.isAllowance (tripId : UUID) (c : TripCost) : Bool :=
  c.tripId = tripId && c.costType = "driver_despacho" && c.sourceType = "driver_despacho"

def allowances (tripId : UUID) (db : AllowanceDb) : List TripCost :=
  db.tripCosts.rows.filter (·.isAllowance tripId)

def OneAllowance (db : AllowanceDb) : Prop := ∀ tripId, (allowances tripId db).length ≤ 1

/-! ## Calls -/

/-- What happens to the trips' database: allowances, the costs of other callers, and changes of
anything but the costs. -/
inductive AllowanceCall where
  | recordDriverTravelAllowance (now : Instant) (tenantId tripId : UUID)
      (payload : TripDriverAllowanceRecordRequest) (actorId : Option UUID)
  | recordTripCost (now : Instant) (tenantId tripId : UUID) (payload : TripCostCreate)
      (actorId : Option UUID) (source : payload.sourceType ≠ "driver_despacho")
  | change (edit : AllowanceDb → AllowanceDb)

section Calls

variable [Locale] [Rendering] [Kilometres]

/-- A service of the billing database, run with the distances and the tables beside it. -/
def AllowanceDb.onDb (service : Db → Except Exc (UUID × Db)) (db : AllowanceDb) :
    Except Exc (UUID × AllowanceDb) := do
  let (a, q) ← service db.toDb
  return (a, { db with toDb := q })

def AllowanceCall.step (db : AllowanceDb) : AllowanceCall → AllowanceDb
  | .recordDriverTravelAllowance now tenantId tripId payload actorId =>
    perform (Rotas.recordDriverTravelAllowance now tenantId tripId payload actorId) db
  | .recordTripCost now tenantId tripId payload actorId _ =>
    perform (AllowanceDb.onDb (Rotas.recordTripCost now tenantId tripId payload actorId)) db
  | .change edit => { edit db with tripCosts := db.tripCosts }

/-- The tenant has a cost under the reference. -/
def ReferenceRecorded (tenantId : UUID) (reference : String) (db : AllowanceDb) : Prop :=
  ∃ c ∈ db.tripCosts, c.tenantId = tenantId ∧ c.requestReference = reference

instance (tenantId : UUID) (reference : String) (db : AllowanceDb) :
    Decidable (ReferenceRecorded tenantId reference db) :=
  inferInstanceAs (Decidable (∃ c ∈ db.tripCosts.rows, _))

/-- A call that can add no second allowance: its trip has none, or its distance gets none, or its
reference is recorded. -/
def AllowanceCall.Settled (db : AllowanceDb) : AllowanceCall → Prop
  | .recordDriverTravelAllowance _ tenantId tripId payload _ =>
    allowances tripId db = [] ∨
      ∀ trip distanceKm, db.trips.get tripId = some trip →
        tripAllowanceDistance tenantId trip payload.distanceKm db = .ok distanceKm →
        (driverAllowanceMatch (driverAllowancePolicy (db.driverTravelAllowancePolicy tenantId))
          distanceKm).amount ≤ 0 ∨
        ReferenceRecorded tenantId (allowanceReference tripId payload distanceKm) db
  | _ => True

end Calls

/-! ## One allowance -/

section Rows

variable [Locale] {db q : AllowanceDb} {p p' : Db} {now : Instant} {tenantId tripId a : UUID}
  {payload : TripCostCreate} {actorId : Option UUID}

/-- An answered call adds a row under a new reference, or none. -/
theorem recordTripCost_rows (h : recordTripCost now tenantId tripId payload actorId p = .ok (a, p')) :
    p'.tripCosts = p.tripCosts ∨
      (∀ c ∈ p.tripCosts, c.tenantId = tenantId → c.requestReference ≠ payload.requestReference) ∧
        p'.tripCosts = p.tripCosts.insert (newTripCost tenantId tripId payload actorId) := by
  simp only [recordTripCost, bind_eq_ok] at h
  obtain ⟨_, _, _, _, h⟩ := h
  split at h
  · simp only [bind_eq_ok] at h
    obtain ⟨_, _, h⟩ := h
    cases h
    exact .inl rfl
  · next hnone =>
    cases h
    refine .inr ⟨fun c hc hten href => ?_, rfl⟩
    have hother := List.find?_eq_none.mp hnone c hc
    simp [hten, href] at hother

theorem allowances_recordTripCost (source : payload.sourceType ≠ "driver_despacho")
    (h : recordTripCost now tenantId tripId payload actorId db.toDb = .ok (a, p)) (k : UUID) :
    allowances k { db with toDb := p } = allowances k db := by
  rcases recordTripCost_rows h with hsame | ⟨-, hadded⟩
  · simp only [allowances, hsame]
  · simp [allowances, hadded, TripCost.isAllowance, newTripCost, source]

omit [Locale]

theorem OneAllowance.of_rows (h : OneAllowance db) (hrows : q.tripCosts = db.tripCosts) :
    OneAllowance q := by
  intro k
  rw [allowances, hrows]
  exact h k

theorem OneAllowance.insert (h : OneAllowance db) (hnone : allowances tripId db = [])
        (hrows : q.tripCosts = db.tripCosts.insert (newTripCost tenantId tripId payload actorId)) :
    OneAllowance q := by
  intro k
  rw [allowances, hrows, Table.rows_insert, List.filter_append, List.length_append]
  by_cases hk : k = tripId
  · subst hk
    have hold : (db.tripCosts.rows.filter (·.isAllowance k)).length = 0 := by
      rw [List.length_eq_zero_iff]
      exact hnone
    have hlast := List.length_filter_le (·.isAllowance k)
      [newTripCost tenantId k payload actorId db.tripCosts.freshKey]
    simp only [List.length_singleton] at hlast
    omega
  · have hother : (newTripCost tenantId tripId payload actorId db.tripCosts.freshKey).isAllowance k
        = false := by
      simp [TripCost.isAllowance, newTripCost, Ne.symm hk]
    have hone := h k
    rw [List.filter_cons_of_neg (by simp [hother]), List.filter_nil, List.length_nil]
    exact hone

end Rows

section Step

variable [Locale] [Rendering] [Kilometres] {db q : AllowanceDb} {now : Instant}
  {tenantId tripId : UUID} {answer : AllowanceAnswer}
  {payload : TripDriverAllowanceRecordRequest} {actorId : Option UUID}

/-- An answered call is for a distance that has an amount; it adds the trip's allowance under a new
reference, or nothing. -/
theorem recordDriverTravelAllowance_rows
    (h : recordDriverTravelAllowance now tenantId tripId payload actorId db = .ok (answer, q)) :
    q.tripCosts = db.tripCosts ∨
      ∃ trip distanceKm, db.trips.get tripId = some trip ∧
        tripAllowanceDistance tenantId trip payload.distanceKm db = .ok distanceKm ∧
        0 < (driverAllowanceMatch (driverAllowancePolicy (db.driverTravelAllowancePolicy tenantId))
          distanceKm).amount ∧
        ¬ ReferenceRecorded tenantId (allowanceReference tripId payload distanceKm) db ∧
        ∃ allowance, q.tripCosts = db.tripCosts.insert (newTripCost tenantId tripId
          (allowanceCost now tripId payload distanceKm allowance) actorId) := by
  simp only [recordDriverTravelAllowance, bind_eq_ok, requireTrip_eq_ok, raiseIf_eq_ok,
    decide_eq_false_iff_not, not_le] at h
  obtain ⟨trip, ⟨htrip, -⟩, distanceKm, hdistance, _, hamount, ⟨_, withCost⟩, hcost, h⟩ := h
  cases h
  rcases recordTripCost_rows hcost with hsame | ⟨hnew, hadded⟩
  · exact .inl hsame
  · refine .inr ⟨trip, distanceKm, htrip, hdistance, hamount, ?_, _, hadded⟩
    rintro ⟨c, hc, hten, href⟩
    exact hnew c hc hten href

theorem OneAllowance.step (h : OneAllowance db) (call : AllowanceCall) (hcall : call.Settled db) :
    OneAllowance (call.step db) := by
  cases call with
  | recordDriverTravelAllowance now tenantId tripId payload actorId =>
    rcases perform_cases (Rotas.recordDriverTravelAllowance now tenantId tripId payload actorId) db
      with hsame | ⟨answer, hq, -⟩
    · rw [AllowanceCall.step, hsame]
      exact h
    rcases recordDriverTravelAllowance_rows hq with
      hrows | ⟨trip, km, htrip, hkm, hamount, hnew, _, hrows⟩
    · exact h.of_rows hrows
    · rcases hcall with hnone | hsettled
      · exact h.insert hnone hrows
      · rcases hsettled trip km htrip hkm with hzero | hrecorded
        · exact absurd hamount (not_lt.mpr hzero)
        · exact absurd hrecorded hnew
  | recordTripCost now tenantId tripId payload actorId source =>
    rcases perform_cases (AllowanceDb.onDb
      (Rotas.recordTripCost now tenantId tripId payload actorId)) db with hsame | ⟨a, hq, -⟩
    · rw [AllowanceCall.step, hsame]
      exact h
    · simp only [AllowanceDb.onDb, bind_eq_ok] at hq
      obtain ⟨⟨_, p⟩, hcost, hq⟩ := hq
      have hstep : (AllowanceCall.recordTripCost now tenantId tripId payload actorId source).step db
          = { db with toDb := p } := by
        simp only [pure, Except.pure, Except.ok.injEq, Prod.mk.injEq] at hq
        exact hq.2.symm
      intro k
      rw [hstep, allowances_recordTripCost source hcost]
      exact h k
  | change edit => exact h.of_rows rfl

/-- In every run of settled calls each trip gets one allowance at most; and under every table with
adjoining tiers, in whatever order, a greater distance has no smaller amount. -/
theorem one_allowance :
    (∀ (db : AllowanceDb) (calls : List AllowanceCall), OneAllowance db →
      Along AllowanceCall.step AllowanceCall.Settled db calls →
      OneAllowance (exec AllowanceCall.step db calls)) ∧
    ∀ (value : Option AllowanceTable) (d d' : ℚ),
      AdjoiningTiers (driverAllowancePolicy value).tiers → d ≤ d' →
      (driverAllowanceMatch (driverAllowancePolicy value) d).amount ≤
        (driverAllowanceMatch (driverAllowancePolicy value) d').amount := by
  constructor
  · intro db calls hdb hcalls
    exact exec_inv (fun _ call h hcall => h.step call hcall) hdb hcalls
  · intro value d d' hadjoin hle
    exact allowance_mono hadjoin hle

end Step

/-! ## A second allowance -/

/-- A trip on its way. -/
def despachoDb : AllowanceDb where
  trips := .single
    { id := 1, tenantId := 1, vehicleId := 1, driverId := 1, origin := "Maputo"
      destination := "Xai-Xai", status := .inProgress, kmStart := some 1000 }

def recordDespacho (distanceKm : Option ℚ) : AllowanceCall :=
  .recordDriverTravelAllowance 100 1 1 { distanceKm } none

/-- The trip is completed: 130 km. -/
def reachKmEnd : AllowanceCall := .change fun db =>
  { db with trips := db.trips.modify 1 fun trip =>
      { trip with status := .completed, kmEnd := some 1130 } }

/-- Recorded for the 120 km that were expected, and for the 130 km of the completed trip: both
distances have the amount of one tier, and the driver gets it twice. -/
theorem allowance_again :
    ¬ OneAllowance (exec (@AllowanceCall.step .ascii .decimal .whole) despachoDb
      [recordDespacho (some 120), reachKmEnd, recordDespacho none]) := by
  intro h
  exact absurd (h 1) (by decide +kernel)

/-- The first allowance, and a retry at the end of the trip that names its reference. -/
def retriedDespacho : List AllowanceCall :=
  let call (distanceKm : Option ℚ) : AllowanceCall := .recordDriverTravelAllowance 100 1 1
    { distanceKm, requestReference := some "D-1" } none
  [call (some 120), reachKmEnd, call none]

theorem one_allowance_retried :
    OneAllowance (exec (@AllowanceCall.step .ascii .decimal .whole) despachoDb retriedDespacho) ∧
      (driverAllowanceMatch (driverAllowancePolicy none) 120).amount ≤
        (driverAllowanceMatch (driverAllowancePolicy none) 250).amount := by
  have hrecorded : ReferenceRecorded 1 "D-1" (exec (@AllowanceCall.step .ascii .decimal .whole)
      despachoDb (retriedDespacho.take 2)) := by decide +kernel
  have hempty : OneAllowance despachoDb := fun _ => Nat.zero_le 1
  have hboth := @one_allowance .ascii .decimal .whole
  refine ⟨hboth.1 despachoDb retriedDespacho hempty ⟨.inl rfl, trivial, ?_, trivial⟩,
    hboth.2 none 120 250 adjoining_defaultTiers (by norm_num)⟩
  exact .inr fun _ _ _ _ => .inr hrecorded

end Rotas
