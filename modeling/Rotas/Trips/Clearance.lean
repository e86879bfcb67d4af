import Rotas.Trips.Moves

/-!
# Rotas.Trips.Clearance

What a trip needs before it moves, over runs of all the calls from a fleet without trips.

* `Fleet.Cleared` — an approved clearance of the trip, with every check made.
* `Fleet.Orderly` — what every call keeps: an approved clearance is a checked one of a trip, a
  dispatched trip is cleared, and every trip has its tenant's own vehicle and driver.
* `moving_trips_cleared` — a dispatched trip is cleared, a trip under way is cleared or was started
  straight from its planning, and no two active trips have a vehicle or a driver in common.
* `draft_moves_uncleared` — a draft can be started with no clearance at all.
-/

namespace Rotas

/-- The vehicle and the driver of the trip are its tenant's. -/
structure Fleet.Crewed (f : Fleet) (t : Trip) : Prop where
  vehicle : ∃ v, f.vehicles.get t.vehicleId = some v ∧ v.tenantId = t.tenantId
  driver : ∃ d, f.drivers.get t.driverId = some d ∧ d.tenantId = t.tenantId

/-- The trip has an approved clearance, with every check made. -/
def Fleet.Cleared (f : Fleet) (t : Trip) : Prop :=
  ∃ cl ∈ f.dispatchClearances, cl.tenantId = t.tenantId ∧ cl.tripId = t.id ∧
    cl.clearanceStatus = .approved ∧ ∀ check ∈ cl.checks, check.2 = true

/-- No trip has been planned yet; the rest of the database is as it may be. -/
structure Fleet.Fresh (f : Fleet) : Prop where
  ok : f.ok = true
  trips : f.trips = ∅
  clearances : f.dispatchClearances = ∅

structure Fleet.Orderly (f : Fleet) : Prop where
  ok : f.ok = true
  crews : ∀ t ∈ f.trips, f.Crewed t
  checked : ∀ cl ∈ f.dispatchClearances, cl.clearanceStatus = .approved →
    (∀ check ∈ cl.checks, check.2 = true) ∧
      ∃ t, f.trips.get cl.tripId = some t ∧ t.tenantId = cl.tenantId
  dispatched : ∀ t ∈ f.trips, t.status = .dispatched → f.Cleared t

theorem Fleet.Fresh.orderly {f : Fleet} (h : f.Fresh) : f.Orderly where
  ok := h.ok
  crews t ht := absurd (h.trips ▸ ht) (Table.not_mem_empty t)
  checked cl hcl := absurd (h.clearances ▸ hcl) (Table.not_mem_empty cl)
  dispatched t ht := absurd (h.trips ▸ ht) (Table.not_mem_empty t)

/-! ## One vehicle, one driver -/

theorem Fleet.ok_unique {f : Fleet} (h : f.ok = true) :
    uniqueActive f.trips Trip.vehicleId = true ∧ uniqueActive f.trips Trip.driverId = true := by
  simp only [Fleet.ok, Bool.and_eq_true] at h
  exact ⟨h.1.1.2, h.1.2⟩

/-- Active trips share neither a vehicle nor a driver, whosever they are. -/
theorem Fleet.Orderly.apart {f : Fleet} {t t' : Trip} (hf : f.Orderly) (ht : t ∈ f.trips)
    (ht' : t' ∈ f.trips) (ha : t.status.active = true) (ha' : t'.status.active = true)
    (hshare : t.vehicleId = t'.vehicleId ∨ t.driverId = t'.driverId) : t = t' := by
  obtain ⟨hvehicles, hdrivers⟩ := Fleet.ok_unique hf.ok
  -- a vehicle has one tenant, so the trips that share it are one tenant's
  rcases hshare with hshare | hshare
  · obtain ⟨v, hv, hten⟩ := (hf.crews t ht).vehicle
    obtain ⟨v', hv', hten'⟩ := (hf.crews t' ht').vehicle
    rw [hshare, hv'] at hv
    cases hv
    exact uniqueActive_iff.mp hvehicles t ht t' ht' ha ha' (hten.symm.trans hten') hshare
  · obtain ⟨d, hd, hten⟩ := (hf.crews t ht).driver
    obtain ⟨d', hd', hten'⟩ := (hf.crews t' ht').driver
    rw [hshare, hd'] at hd
    cases hd
    exact uniqueActive_iff.mp hdrivers t ht t' ht' ha ha' (hten.symm.trans hten') hshare

/-! ## Moves -/

/-- What a trip reports leaves its status, or makes it an incident. -/
theorem reportedTrip_status (t : Trip) (severity : Severity) :
    (reportedTrip severity t).status = t.status ∨ (reportedTrip severity t).status = .incident := by
  rw [reportedTrip]
  split
  · exact .inr rfl
  · exact .inl rfl

section

variable [Interpreter] {f : Fleet} {c : OpsCall} {t : Trip}

theorem NewTrip.crewed (h : NewTrip f c t) : f.Crewed t := by
  cases h with
  | create hv hd =>
    obtain ⟨hv, hvten, -⟩ := requireVehicleAvailable_eq_ok.mp hv
    obtain ⟨hd, hdten, -⟩ := requireDriverAvailable_eq_ok.mp hd
    exact ⟨⟨_, hv, hvten⟩, ⟨_, hd, hdten⟩⟩
  | plan _ _ hv hd =>
    obtain ⟨hv, hvten, -⟩ := requireVehicleAvailable_eq_ok.mp hv
    obtain ⟨hd, hdten, -⟩ := requireDriverAvailable_eq_ok.mp hd
    exact ⟨⟨_, hv, hvten⟩, ⟨_, hd, hdten⟩⟩

theorem NewTrip.planning (h : NewTrip f c t) : t.status ∈ [TripStatus.draft, .planned] := by
  cases h <;> simp [newTrip, tripOfOrder]

end

section

variable [Locale] {f p : Fleet} {k : UUID} {t t' : Trip} {c : OpsCall}

theorem TripMove.crew (h : TripMove f k t c t') :
    t'.tenantId = t.tenantId ∧ t'.vehicleId = t.vehicleId ∧ t'.driverId = t.driverId := by
  cases h <;> exact ⟨rfl, rfl, rfl⟩

/-- A trip comes to be dispatched through its approved clearance. -/
theorem TripMove.dispatched (h : TripMove f k t c t') (hs : t'.status = .dispatched) :
    t.status = .dispatched ∨ ∃ cl ∈ f.dispatchClearances,
      cl.tenantId = t.tenantId ∧ cl.tripId = k ∧ cl.clearanceStatus = .approved := by
  cases h with
  | dispatch hten _ hcl hclten hclk happroved =>
    exact .inr ⟨_, hcl, hclten.trans hten.symm, hclk, happroved⟩
  | @report _ _ _ _ _ severity =>
    rcases reportedTrip_status t severity with hsame | hincident
    · exact .inl (hsame.symm.trans hs)
    · rw [hincident] at hs; cases hs
  | start => cases hs
  | request => cases hs
  | late => cases hs
  | complete => cases hs
  | close => cases hs
  | deliver => cases hs
  | same => exact .inl hs
  | associate => exact .inl hs
  | cost => exact .inl hs
  | patch => exact .inl hs
  | accept => exact .inl hs
  | validate => exact .inl hs
  | dispute => exact .inl hs
  | settle => exact .inl hs
  | reopen => exact .inl hs

theorem TripMove.inProgress (h : TripMove f k t c t') (hs : t'.status = .inProgress) :
    t.status = .inProgress ∨ ∃ now tenantId payload,
      c = .trips (.startTrip now tenantId k payload) ∧
        t.status ∈ [TripStatus.draft, .planned, .dispatched] := by
  cases h with
  | start _ hstatus => exact .inr ⟨_, _, _, rfl, hstatus⟩
  | @report _ _ _ _ _ severity =>
    rcases reportedTrip_status t severity with hsame | hincident
    · exact .inl (hsame.symm.trans hs)
    · rw [hincident] at hs; cases hs
  | dispatch => cases hs
  | request => cases hs
  | late => cases hs
  | complete => cases hs
  | close => cases hs
  | deliver => cases hs
  | same => exact .inl hs
  | associate => exact .inl hs
  | cost => exact .inl hs
  | patch => exact .inl hs
  | accept => exact .inl hs
  | validate => exact .inl hs
  | dispute => exact .inl hs
  | settle => exact .inl hs
  | reopen => exact .inl hs

theorem TripFrame.crewed (h : TripFrame c f p) (hcrew : f.Crewed t)
    (hsame : t'.tenantId = t.tenantId ∧ t'.vehicleId = t.vehicleId ∧ t'.driverId = t.driverId) :
    p.Crewed t' where
  vehicle := by rw [h.vehicles, hsame.1, hsame.2.1]; exact hcrew.vehicle
  driver := by rw [h.drivers, hsame.1, hsame.2.2]; exact hcrew.driver

theorem TripFrame.cleared (h : TripFrame c f p) (hcleared : f.Cleared t)
    (hten : t'.tenantId = t.tenantId) (hid : t'.id = t.id) : p.Cleared t' := by
  obtain ⟨cl, hcl, hclten, hclk, happroved, hchecks⟩ := hcleared
  refine ⟨cl, Table.mem_of_get (h.kept _ cl (Table.get_of_mem hcl) happroved), ?_, ?_, happroved,
    hchecks⟩
  · rw [hten, hclten]
  · rw [hid, hclk]

section

variable [Interpreter]

/-- A row of the trips after a call is a trip moved, or a new one. -/
theorem TripStep.trip_cases (h : TripStep c f p) (ht' : t' ∈ p.trips) :
    (∃ t, f.trips.get t'.id = some t ∧ TripMove f t'.id t c t') ∨
      f.trips.get t'.id = none ∧ NewTrip f c t' := by
  have hget : p.trips.get t'.id = some t' := Table.get_of_mem ht'
  cases ht : f.trips.get t'.id with
  | none => exact .inr ⟨rfl, h.fresh _ _ ht hget⟩
  | some t =>
    obtain ⟨t₁, ht₁, hmove⟩ := h.moves _ _ ht
    rw [hget] at ht₁
    cases ht₁
    exact .inl ⟨t, rfl, hmove⟩

theorem Fleet.Orderly.step (hf : f.Orderly) (c : OpsCall) : (c.step f).Orderly where
  ok := c.step_ok hf.ok
  crews t' ht' := by
    have hstep := c.step_trips f
    rcases hstep.trip_cases ht' with ⟨t, ht, hmove⟩ | ⟨-, hnew⟩
    · exact hstep.crewed (hf.crews t (Table.mem_of_get ht)) hmove.crew
    · exact hstep.crewed hnew.crewed ⟨rfl, rfl, rfl⟩
  checked cl hcl happroved := by
    have hstep := c.step_trips f
    have hkept : ∀ t, f.trips.get cl.tripId = some t → t.tenantId = cl.tenantId →
        ∃ t', (c.step f).trips.get cl.tripId = some t' ∧ t'.tenantId = cl.tenantId := by
      intro t ht hten
      obtain ⟨t', ht', hmove⟩ := hstep.moves _ t ht
      exact ⟨t', ht', hmove.crew.1.trans hten⟩
    rcases hstep.approvals _ cl (Table.get_of_mem hcl) happroved with hold | ⟨trip, happroval⟩
    · obtain ⟨hchecks, t, ht, hten⟩ := hf.checked cl (Table.mem_of_get hold) happroved
      exact ⟨hchecks, hkept t ht hten⟩
    · exact ⟨happroval.checks, hkept trip happroval.row happroval.tenant⟩
  dispatched t' ht' hs := by
    have hstep := c.step_trips f
    rcases hstep.trip_cases ht' with ⟨t, ht, hmove⟩ | ⟨-, hnew⟩
    · have hid : t'.id = t.id := (Table.key_of_get ht).symm
      rcases hmove.dispatched hs with hwas | ⟨cl, hcl, hclten, hclk, happroved⟩
      · exact hstep.cleared (hf.dispatched t (Table.mem_of_get ht) hwas) hmove.crew.1 hid
      · have hcleared : f.Cleared t :=
          ⟨cl, hcl, hclten, hclk.trans hid, happroved, (hf.checked cl hcl happroved).1⟩
        exact hstep.cleared hcleared hmove.crew.1 hid
    · have hplanning := hnew.planning
      rw [hs] at hplanning
      simp at hplanning

theorem Fleet.Orderly.exec (hf : f.Orderly) (calls : List OpsCall) :
    (Run.exec OpsCall.step f calls).Orderly :=
  Run.exec_inv_all (fun _ c hs => hs.step c) hf

/-! ## Two ways to leave -/

/-- The call starts trip `k` straight from its planning, and is accepted. -/
def OpsCall.StartsPlanned (k : UUID) (f : Fleet) (c : OpsCall) : Prop :=
  ∃ now tenantId payload t, c = .trips (.startTrip now tenantId k payload) ∧
    c.accepted f = true ∧ f.trips.get k = some t ∧ t.status ∈ [TripStatus.draft, .planned]

/-- A trip under way stays cleared, unless the call starts it straight from its planning. -/
theorem under_way_step (hf : f.Orderly)
    (hcleared : ∀ t, f.trips.get k = some t → t.status = .inProgress → f.Cleared t) :
    (∀ t', (c.step f).trips.get k = some t' → t'.status = .inProgress → (c.step f).Cleared t') ∨
      c.StartsPlanned k f := by
  by_cases hstarts : c.StartsPlanned k f
  · exact .inr hstarts
  refine .inl fun t' ht' hs => ?_
  have hstep := c.step_trips f
  have hid : t'.id = k := Table.key_of_get ht'
  subst hid
  rcases hstep.trip_cases (Table.mem_of_get ht') with ⟨t, ht, hmove⟩ | ⟨-, hnew⟩
  · have hkeep (hwas : f.Cleared t) : (c.step f).Cleared t' :=
      hstep.cleared hwas hmove.crew.1 (Table.key_of_get ht).symm
    rcases hmove.inProgress hs with hwas | ⟨now, tenantId, payload, rfl, hstatus⟩
    · exact hkeep (hcleared t ht hwas)
    · by_cases hdispatched : t.status = .dispatched
      · exact hkeep (hf.dispatched t (Table.mem_of_get ht) hdispatched)
      · have hplanning : t.status ∈ [TripStatus.draft, .planned] := by
          simp only [List.mem_cons, List.not_mem_nil, or_false] at hstatus ⊢
          tauto
        -- a refused call would have left the trip in its planning
        by_cases haccepted : OpsCall.accepted f (.trips (.startTrip now tenantId t'.id payload))
        · exact absurd ⟨now, tenantId, payload, t, rfl, haccepted, ht, hplanning⟩ hstarts
        · rw [OpsCall.step_of_refused (by simpa using haccepted), ht] at ht'
          cases ht'
          simp [hs] at hplanning
  · have hplanning := hnew.planning
    simp [hs] at hplanning

/-- In every run from a fleet without trips: a dispatched trip has an approved clearance with every
check made; a trip under way has one too, or an accepted call started it straight from draft or
planned; and no two active trips have a vehicle or a driver in common. -/
theorem moving_trips_cleared {calls : List OpsCall} (hf : f.Fresh)
    (ht : t ∈ (Run.exec OpsCall.step f calls).trips) :
    (t.status = .dispatched → (Run.exec OpsCall.step f calls).Cleared t) ∧
      (t.status = .inProgress → (Run.exec OpsCall.step f calls).Cleared t ∨
        ∃ before c after, calls = before ++ c :: after ∧
          c.StartsPlanned t.id (Run.exec OpsCall.step f before)) ∧
      ∀ t' ∈ (Run.exec OpsCall.step f calls).trips, t.status.active = true →
        t'.status.active = true → t.vehicleId = t'.vehicleId ∨ t.driverId = t'.driverId →
        t = t' := by
  have hend := hf.orderly.exec calls
  refine ⟨hend.dispatched t ht, fun hs => ?_, fun t' ht' => hend.apart ht ht'⟩
  let Kept (s : Fleet) : Prop :=
    s.Orderly ∧ ∀ t', s.trips.get t.id = some t' → t'.status = .inProgress → s.Cleared t'
  have hstart : Kept f := ⟨hf.orderly, fun t' ht' => by rw [hf.trips] at ht'; cases ht'⟩
  have hstep : ∀ s c, Kept s → Kept (OpsCall.step s c) ∨ c.StartsPlanned t.id s :=
    fun s c hs => (under_way_step hs.1 hs.2).imp_left fun h => ⟨hs.1.step c, h⟩
  exact (Run.exec_or_event hstep hstart).imp_left fun h => h.2 t (Table.get_of_mem ht) hs

end

end

/-! ## A draft that is started -/

/-- A vehicle and a driver, and no trip yet. -/
def idleFleet : Fleet where
  vehicles := .single { id := 1, tenantId := 1, plate := "AAA-001-MC" }
  drivers := .single { id := 1, tenantId := 1 }

theorem idleFleet_fresh : idleFleet.Fresh := ⟨by decide +kernel, rfl, rfl⟩

/-- A trip of it, created and started. -/
def startedDraft : List OpsCall :=
  [.trips (.createTrip 100 1
      { vehicleId := 1, driverId := 1, origin := "Maputo", destination := "Beira" }),
    .trips (.startTrip 200 1 1 { kmStart := 10 })]

theorem startedDraft_status :
    ((Run.exec (@OpsCall.step .undated .ascii) idleFleet startedDraft).trips.get 1).map
      Trip.status = some .inProgress := by decide +kernel

theorem moving_trips_cleared_started :
    ∃ t ∈ (Run.exec (@OpsCall.step .undated .ascii) idleFleet startedDraft).trips,
      t.status = .inProgress ∧
        ((Run.exec (@OpsCall.step .undated .ascii) idleFleet startedDraft).Cleared t ∨
          ∃ before c after, startedDraft = before ++ c :: after ∧
            @OpsCall.StartsPlanned .ascii .undated t.id
              (Run.exec (@OpsCall.step .undated .ascii) idleFleet before) c) := by
  obtain ⟨t, ht, hs⟩ := Option.map_eq_some_iff.mp startedDraft_status
  exact ⟨t, Table.mem_of_get ht, hs,
    (@moving_trips_cleared .ascii idleFleet t .undated startedDraft idleFleet_fresh
      (Table.mem_of_get ht)).2.1 hs⟩

/-- A draft that is started is under way with no clearance at all. -/
theorem draft_moves_uncleared :
    (Run.exec (@OpsCall.step .undated .ascii) idleFleet startedDraft).dispatchClearances = ∅ ∧
      ¬ ∀ (f : Fleet) (calls : List OpsCall), f.Fresh →
        ∀ t ∈ (Run.exec (@OpsCall.step .undated .ascii) f calls).trips,
          t.status ∈ [TripStatus.dispatched, .inProgress] →
            (Run.exec (@OpsCall.step .undated .ascii) f calls).Cleared t := by
  have hnone : (Run.exec (@OpsCall.step .undated .ascii) idleFleet
      startedDraft).dispatchClearances = ∅ := Table.ext (List.isEmpty_iff.mp (by decide +kernel))
  refine ⟨hnone, fun hall => ?_⟩
  obtain ⟨t, ht, hs⟩ := Option.map_eq_some_iff.mp startedDraft_status
  obtain ⟨cl, hcl, -⟩ := hall idleFleet startedDraft idleFleet_fresh t (Table.mem_of_get ht)
    (by simp [hs])
  rw [hnone] at hcl
  exact Table.not_mem_empty cl hcl

end Rotas
