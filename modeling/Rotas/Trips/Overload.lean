import Rotas.Trips.Clearance

/-!
# Rotas.Trips.Overload

The load of the trips on the road. The weight is compared with what the vehicle takes when a trip is
created, when an order is assigned, when a patch gives a weight and when a trip is started; not when
it is dispatched, nor when a patch gives only the reason for an overload.

* `Fleet.NoOverload`     — no trip on the road weighs more than its vehicle takes, without a reason.
* `OpsCall.KeepsLoads`   — the call empties no reason of an overloaded trip on the road, and
  dispatches no overloaded trip without a reason.
* `no_overload_iff`      — these are the runs in which no overloaded truck is on the road.
* `overloaded_on_the_road` — a patch empties the reason of a dispatched trip.
-/

namespace Rotas

open Work

/-- The vehicle takes less than the weight of the trip; in hundredths of a kilogram. -/
def Fleet.overloaded (f : Fleet) (t : Trip) : Bool :=
  t.cargoWeight.any fun weight =>
    ((f.vehicles.get t.vehicleId).bind Vehicle.maxPayloadKg).any (· < weight)

/-- The trip is not overloaded, or has a reason to be. -/
def Fleet.loadAllowed (f : Fleet) (t : Trip) : Bool :=
  !f.overloaded t || (truthy t.payloadOverrideReason).isSome

/-- The trips on the road are dispatched, in progress or delayed. -/
def Fleet.NoOverload (f : Fleet) : Prop :=
  ∀ t ∈ f.trips, t.status ∈ slaMonitoredStatuses → f.loadAllowed t = true

/-- An answered patch of a trip on the road that gives an empty reason leaves it not overloaded, and
an answered dispatch is of a trip that `start_trip` would let go. -/
def OpsCall.KeepsLoads [Interpreter] [Locale] (f : Fleet) (c : OpsCall) : Prop :=
  match c with
  | .trips (.patchTrip _ tripId patch) => c.accepted f = true → ∀ t, f.trips.get tripId = some t →
    t.status ∈ slaMonitoredStatuses → patch.payloadOverrideReason = some "" →
    f.overloaded (patchedTrip patch t) = false
  | .trips (.dispatchTrip _ _ tripId _) => c.accepted f = true → ∀ t, f.trips.get tripId = some t →
    f.loadAllowed t = true
  | _ => True

/-! ## The guard -/

section Guard

variable {f p : Fleet} {t t' : Trip} {message : String} {reason : Option String}

/-- What a trip's load is looked up by. -/
def Trip.load (t : Trip) : Option Int × UUID × Option String :=
  (t.cargoWeight, t.vehicleId, t.payloadOverrideReason)

theorem loadAllowed_congr (hvehicles : p.vehicles = f.vehicles) (hload : t'.load = t.load) :
    p.loadAllowed t' = f.loadAllowed t := by
  simp only [Trip.load, Prod.mk.injEq] at hload
  simp only [Fleet.loadAllowed, Fleet.overloaded, hvehicles, hload]

theorem checkPayload_eq_ok {weight : Option ℚ} {vehicle : Option Vehicle} {u : Unit} :
    checkPayload message weight vehicle reason = .ok u ↔
      ∀ w max, weight = some w → vehicle.bind Vehicle.maxPayloadKg = some max →
        w ≤ max / 100 ∨ (truthy reason).isSome = true := by
  unfold checkPayload
  split
  · next w max hmax =>
    rw [raiseIf_eq_ok, Bool.and_eq_false_iff, decide_eq_false_iff_not, not_lt,
      Option.isNone_eq_false_iff]
    constructor
    · intro h _ _ hw hmax'
      cases hw
      cases hmax.symm.trans hmax'
      exact h
    · intro h
      exact h w max rfl hmax
  · next hnone =>
    refine iff_of_true rfl fun w max hw hmax => ?_
    exact absurd hmax (hnone w max hw)

/-- The guard of a start lets the trips go whose load is allowed. -/
theorem loadAllowed_of_check (h : checkPayload message (kilograms t.cargoWeight)
    (f.vehicles.get t.vehicleId) t.payloadOverrideReason = .ok ()) : f.loadAllowed t = true := by
  rw [checkPayload_eq_ok] at h
  rw [Fleet.loadAllowed, Bool.or_eq_true, Bool.not_eq_true']
  by_contra hover
  push Not at hover
  obtain ⟨hover, hreason⟩ := hover
  simp only [Fleet.overloaded, Bool.not_eq_false, Option.any_eq_true, decide_eq_true_eq] at hover
  obtain ⟨weight, hweight, max, hmax, hlt⟩ := hover
  rcases h (weight / 100) max (by rw [kilograms, hweight]; rfl) hmax with hle | hsome
  · have hle' : (weight : ℚ) ≤ max := (div_le_div_iff_of_pos_right (by norm_num)).mp hle
    exact absurd hlt (not_lt.mpr (Int.cast_le.mp hle'))
  · exact hreason hsome

/-- The guard of a patch, which falls back on the trip's own reason where the patch gives none or an
empty one. -/
theorem loadAllowed_patched {patch : TripPatch} (hallowed : f.loadAllowed t = true)
    (hcheck : checkPayload message patch.cargoWeight (f.vehicles.get t.vehicleId)
      ((truthy patch.payloadOverrideReason).or t.payloadOverrideReason) = .ok ())
    (hempty : patch.payloadOverrideReason = some "" →
      f.overloaded (patchedTrip patch t) = false) :
    f.loadAllowed (patchedTrip patch t) = true := by
  by_cases hreason : (truthy (patchedTrip patch t).payloadOverrideReason).isSome = true
  · rw [Fleet.loadAllowed, hreason, Bool.or_true]
  cases hpatch : patch.payloadOverrideReason with
  | some reason =>
    by_cases hblank : reason = ""
    · rw [Fleet.loadAllowed, hempty (by rw [hpatch, hblank])]
      rfl
    · exact absurd (by simp [patchedTrip, truthy, hpatch, hblank]) hreason
  | none =>
    have hsame : (patchedTrip patch t).payloadOverrideReason = t.payloadOverrideReason := by
      rw [patchedTrip, hpatch, Option.none_or]
    cases hweight : patch.cargoWeight with
    | none =>
      rw [loadAllowed_congr rfl (t := t) (by simp [Trip.load, patchedTrip, hpatch, hweight])]
      exact hallowed
    | some weight =>
      -- the weight that the guard saw, rounded to the column
      suffices hfits : f.overloaded (patchedTrip patch t) = false by rw [Fleet.loadAllowed, hfits]; rfl
      rw [hpatch, checkPayload_eq_ok] at hcheck
      rw [Fleet.overloaded, Option.any_eq_false]
      intro rounded hrounded
      have hnumeric : rounded = Decimal.numeric 2 weight := by
        simpa [patchedTrip, hweight] using hrounded.symm
      rw [Option.any_eq_false]
      intro max hmax
      rcases hcheck weight max hweight hmax with hle | hsome
      · have hround : Decimal.numeric 2 weight ≤ max :=
          (Decimal.rounds_numeric 2).le_of_ge (by norm_num; exact hle)
        rw [hnumeric]
        simpa using hround
      · rw [hsame] at hreason
        exact absurd hsome hreason

end Guard

/-! ## One call -/

section Services

variable {f p : Fleet} {k a : UUID} {t : Trip} {c : OpsCall}

theorem NewTrip.offRoad [Interpreter] (h : NewTrip f c t) : t.status ∉ slaMonitoredStatuses := by
  cases h <;> simp [newTrip, tripOfOrder, slaMonitoredStatuses]

theorem startTrip_guarded {db q : Db} {now : Instant} {tenantId : UUID} {payload : StartTripRequest}
    (h : startTrip now tenantId k payload db = .ok (a, q)) :
    ∃ t message, db.trips.get k = some t ∧ checkPayload message (kilograms t.cargoWeight)
      (db.vehicles.get t.vehicleId) t.payloadOverrideReason = .ok () := by
  simp only [startTrip, bind_eq_ok, requireTrip_eq_ok] at h
  obtain ⟨t, ⟨ht, -⟩, _, _, _, hcheck, -⟩ := h
  exact ⟨t, _, ht, hcheck⟩

theorem patchTrip_guarded {db q : Db} {tenantId : UUID} {patch : TripPatch}
    (h : patchTrip tenantId k patch db = .ok (a, q)) :
    ∃ t message, db.trips.get k = some t ∧
      checkPayload message patch.cargoWeight (db.vehicles.get t.vehicleId)
        ((truthy patch.payloadOverrideReason).or t.payloadOverrideReason) = .ok () ∧
      q.trips.get k = some (patchedTrip patch t) := by
  simp only [patchTrip, bind_eq_ok, requireTrip_eq_ok, pure, Except.pure, Except.ok.injEq,
    Prod.mk.injEq] at h
  obtain ⟨t, ⟨ht, -⟩, _, hcheck, -, rfl⟩ := h
  refine ⟨t, _, ht, hcheck, ?_⟩
  rw [Table.get_modify_self ht]

theorem dispatchTrip_moves [Interpreter] {now : Instant} {tenantId : UUID} {payload : TripDispatchRequest}
    (h : dispatchTrip now tenantId k payload f = .ok (a, p)) :
    ∃ t, f.trips.get k = some t ∧ p.trips.get k = some (dispatchedTrip now payload t) := by
  simp only [dispatchTrip, bind_eq_ok, requireTrip_eq_ok, pure, Except.pure, Except.ok.injEq,
    Prod.mk.injEq] at h
  obtain ⟨t, ⟨ht, -⟩, _, _, _, _, _, _, -, rfl⟩ := h
  refine ⟨t, ht, ?_⟩
  rw [Table.get_modify_self ht]

end Services

section Step

variable [Locale] {f p : Fleet} {k : UUID} {t t' : Trip} {c : OpsCall}

theorem TripMove.load (h : TripMove f k t c t') :
    (∃ tenantId patch, c = .trips (.patchTrip tenantId k patch) ∧ t' = patchedTrip patch t) ∨
      t'.load = t.load := by
  cases h with
  | patch => exact .inl ⟨_, _, rfl, rfl⟩
  | _ => exact .inr rfl

theorem TripMove.road (h : TripMove f k t c t') (hroad : t'.status ∈ slaMonitoredStatuses) :
    t.status ∈ slaMonitoredStatuses ∨
      (∃ now tenantId payload, c = .trips (.startTrip now tenantId k payload)) ∨
      ∃ now tenantId payload, c = .trips (.dispatchTrip now tenantId k payload) := by
  cases h with
  | start => exact .inr (.inl ⟨_, _, _, rfl⟩)
  | dispatch => exact .inr (.inr ⟨_, _, _, rfl⟩)
  | late hlate =>
    simp only [Trip.breachesSla, Bool.and_eq_true, decide_eq_true_eq] at hlate
    exact .inl hlate.1.1.2
  | @report _ _ _ _ _ severity =>
    rcases reportedTrip_status t severity with hsame | hincident
    · exact .inl (hsame ▸ hroad)
    · rw [hincident] at hroad
      exact absurd hroad (by decide)
  | request => exact absurd hroad (by simp [slaMonitoredStatuses])
  | complete => exact absurd hroad (by simp [completedTrip, slaMonitoredStatuses])
  | close => exact absurd hroad (by simp [closeTrip, slaMonitoredStatuses])
  | deliver => exact absurd hroad (by simp [provenTrip, slaMonitoredStatuses])
  | _ => exact .inl hroad

variable [Interpreter]

/-- A call that keeps the loads leaves no overloaded truck on the road. -/
theorem Fleet.NoOverload.step (hf : f.NoOverload) (hc : c.KeepsLoads f) :
    (c.step f).NoOverload := by
  cases haccepted : c.accepted f with
  | false =>
    rw [OpsCall.step_of_refused haccepted]
    exact hf
  | true =>
    obtain ⟨a, p, hrun, hok⟩ := OpsCall.accepted_iff.mp haccepted
    intro t' ht' hroad
    have hstep := c.step_trips f
    have hvehicles := hstep.vehicles
    rcases hstep.trip_cases ht' with ⟨t, ht, hmove⟩ | ⟨-, hnew⟩
    · have hallowed := hf t (Table.mem_of_get ht)
      rcases hmove.load with ⟨tenantId, patch, rfl, rfl⟩ | hload
      · -- a patch: its guard, and no empty reason
        obtain ⟨q, hpatch, -⟩ := Fleet.onDb_eq_ok.mp hrun
        obtain ⟨t₁, message, ht₁, hcheck, -⟩ := patchTrip_guarded hpatch
        cases ht.symm.trans ht₁
        rw [loadAllowed_congr hvehicles rfl]
        exact loadAllowed_patched (hallowed hroad) hcheck (hc haccepted t ht hroad)
      · rw [loadAllowed_congr hvehicles hload]
        rcases hmove.road hroad with hold | ⟨now, tenantId, payload, rfl⟩ |
          ⟨now, tenantId, payload, rfl⟩
        · exact hallowed hold
        · obtain ⟨q, hstart, -⟩ := Fleet.onDb_eq_ok.mp hrun
          obtain ⟨t₁, message, ht₁, hcheck⟩ := startTrip_guarded hstart
          cases ht.symm.trans ht₁
          exact loadAllowed_of_check hcheck
        · exact hc haccepted t ht
    · exact absurd hroad hnew.offRoad

/-- A call that leaves no overloaded truck on the road keeps the loads. -/
theorem OpsCall.KeepsLoads.of_step (h : (c.step f).NoOverload) : c.KeepsLoads f := by
  have hvehicles := (c.step_trips f).vehicles
  cases c with
  | trips c =>
    cases c with
    | patchTrip tenantId tripId patch =>
      intro haccepted t ht hroad hempty
      obtain ⟨a, p, hrun, hok⟩ := OpsCall.accepted_iff.mp haccepted
      rw [OpsCall.step_of_run hrun hok] at h hvehicles
      obtain ⟨q, hpatch, rfl⟩ := Fleet.onDb_eq_ok.mp hrun
      obtain ⟨t₁, message, ht₁, -, hget⟩ := patchTrip_guarded hpatch
      cases ht.symm.trans ht₁
      have hallowed := h (patchedTrip patch t) (Table.mem_of_get hget) hroad
      rw [loadAllowed_congr hvehicles rfl, Fleet.loadAllowed] at hallowed
      simpa [patchedTrip, truthy, hempty] using hallowed
    | dispatchTrip now tenantId tripId payload =>
      intro haccepted t ht
      obtain ⟨a, p, hrun, hok⟩ := OpsCall.accepted_iff.mp haccepted
      rw [OpsCall.step_of_run hrun hok] at h hvehicles
      obtain ⟨t₁, ht₁, hget⟩ := dispatchTrip_moves hrun
      cases ht.symm.trans ht₁
      have hallowed := h (dispatchedTrip now payload t) (Table.mem_of_get hget) (by
        simp [dispatchedTrip, slaMonitoredStatuses])
      exact (loadAllowed_congr hvehicles rfl).symm.trans hallowed
    | _ => trivial
  | _ => trivial

/-- From a fleet without overloaded trucks on the road: there is none after any call of a run
exactly if every call keeps the loads. -/
theorem no_overload_iff {calls : List OpsCall} (hf : f.NoOverload) :
    Run.Along OpsCall.step (fun f c => (c.step f).NoOverload) f calls ↔
      Run.Along OpsCall.step (fun f c => c.KeepsLoads f) f calls :=
  (Run.along_iff_keeps (fun _ => id) (fun _ _ hf hc => hf.step hc) (fun _ _ _ => .of_step) hf).symm

end Step

/-! ## A reason that is emptied -/

/-- A vehicle for a ton. -/
def tonFleet : Fleet where
  vehicles := .single { id := 1, tenantId := 1, plate := "AAA-001-MC", maxPayloadKg := some 100000 }
  drivers := .single { id := 1, tenantId := 1 }

/-- Two tons, for a reason, as far as on the road. -/
def twoTons : List OpsCall :=
  [.trips (.createTrip 100 1
      { vehicleId := 1, driverId := 1, origin := "Maputo", destination := "Beira"
        cargoWeight := some 2000, payloadOverrideReason := some "Autorizado pelo gestor" }),
    .trips (.requestDispatchClearance 1 1),
    .trips (.approveDispatchClearance 200 1 1 {} none),
    .trips (.dispatchTrip 300 1 1 {})]

def emptyReason : OpsCall := .trips (.patchTrip 1 1 { payloadOverrideReason := some "" })

theorem tonFleet_noOverload : tonFleet.NoOverload := fun _ ht => absurd ht (Table.not_mem_empty _)

/-- The patch gives no weight, so its guard does not run. -/
theorem overloaded_on_the_road :
    ¬ (Run.exec (@OpsCall.step .undated .ascii) tonFleet (twoTons ++ [emptyReason])).NoOverload := by
  intro h
  have hrow : ((Run.exec (@OpsCall.step .undated .ascii) tonFleet
      (twoTons ++ [emptyReason])).trips.get 1).map (fun t => (t.status, (Run.exec
        (@OpsCall.step .undated .ascii) tonFleet (twoTons ++ [emptyReason])).loadAllowed t)) =
      some (.dispatched, false) := by decide +kernel
  obtain ⟨t, ht, hpair⟩ := Option.map_eq_some_iff.mp hrow
  obtain ⟨hstatus, hload⟩ := Prod.mk.inj hpair
  have hallowed := h t (Table.mem_of_get ht) (by rw [hstatus]; decide)
  rw [hload] at hallowed
  cases hallowed

theorem no_overload_twoTons :
    Run.Along (@OpsCall.step .undated .ascii)
      (fun f c => (@OpsCall.step .undated .ascii f c).NoOverload) tonFleet twoTons := by
  refine (@no_overload_iff .ascii tonFleet .undated twoTons tonFleet_noOverload).mpr
    ⟨trivial, trivial, trivial, fun _ t ht => ?_, trivial⟩
  have hload : ((Run.exec (@OpsCall.step .undated .ascii) tonFleet
      (twoTons.take 3)).trips.get 1).map (Fleet.loadAllowed (Run.exec
        (@OpsCall.step .undated .ascii) tonFleet (twoTons.take 3))) = some true := by decide +kernel
  obtain ⟨t₁, ht₁, hallowed⟩ := Option.map_eq_some_iff.mp hload
  cases ht.symm.trans ht₁
  exact hallowed

end Rotas
