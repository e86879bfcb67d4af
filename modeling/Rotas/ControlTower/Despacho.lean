import Rotas.ControlTower.Queues
import Rotas.Lib.Overfetch

/-!
# Rotas.ControlTower.Despacho

Reading the pending despachos page by page. The offset of a page counts the rows of the query, the
page itself those of them that are long enough.

* `pageTrips_eq`   — a page of the queue, as a page of the rows that are long enough.
* `pagedOnce_iff`  — every trip is visited once exactly when the rows that are long enough lie
  evenly among the others.
-/

namespace Rotas.ControlTower

/-- Page `k + 1` of the same size. -/
def Paged.turn (p : Paged) (k : Nat) : Paged := { p with page := k + 1, page_pos := k.succ_pos }

section

variable {tenantId : UUID} {p : Paged} {t : Tower} {trip : Trip}

def pageTrips (tenantId : UUID) (p : Paged) (t : Tower) : List Trip :=
  (driverDespachoPendingQueue tenantId p t).map PendingDespacho.trip

/-- A trip whose driver has a despacho coming. -/
structure Qualifies (tenantId : UUID) (t : Tower) (trip : Trip) : Prop where
  mem : trip ∈ t.trips
  own : trip.tenantId = tenantId
  unpaid : withoutDespacho tenantId t trip = true
  listed : trip.status ∈ [TripStatus.planned, .dispatched, .inProgress, .delayed, .incident,
    .delivered, .closed]
  far : ∃ km, tripDistanceForDespacho t trip = some km ∧ driverDespachoMinDistance tenantId t ≤ km

/-- Paging visits every trip that qualifies, and no other, once. -/
structure PagedOnce (tenantId : UUID) (p : Paged) (t : Tower) : Prop where
  visited : ∀ trip, Qualifies tenantId t trip → ∃! k, trip ∈ pageTrips tenantId (p.turn k) t
  once : ∀ k, (pageTrips tenantId (p.turn k) t).Nodup
  only : ∀ k, ∀ trip ∈ pageTrips tenantId (p.turn k) t, Qualifies tenantId t trip
  full : ∀ j k, j < k → pageTrips tenantId (p.turn k) t ≠ [] →
    (pageTrips tenantId (p.turn j) t).length = p.pageSize

/-- The trip is shown, if it is one of the rows. -/
def longEnough (tenantId : UUID) (t : Tower) (trip : Trip) : Bool :=
  (pendingDespacho tenantId t trip).isSome

theorem longEnough_iff : longEnough tenantId t trip = true ↔
    ∃ km, tripDistanceForDespacho t trip = some km ∧
      driverDespachoMinDistance tenantId t ≤ km := by
  rw [longEnough, pendingDespacho]
  cases tripDistanceForDespacho t trip with
  | none => simp
  | some km =>
    by_cases hshort : km < driverDespachoMinDistance tenantId t
    · simp [hshort]
    · simp [hshort, not_lt.mp hshort]

theorem mem_despachoRows : trip ∈ despachoRows tenantId t ↔
    trip ∈ t.trips ∧ trip.tenantId = tenantId ∧ withoutDespacho tenantId t trip = true ∧
      trip.status ∈ [TripStatus.planned, .dispatched, .inProgress, .delayed, .incident, .delivered,
        .closed] := by
  rw [despachoRows, mem_orderDesc, List.mem_filter, Bool.and_eq_true, Bool.and_eq_true,
    decide_eq_true_eq, decide_eq_true_eq, and_assoc]
  exact Iff.rfl

theorem qualifies_iff : Qualifies tenantId t trip ↔
    trip ∈ despachoRows tenantId t ∧ longEnough tenantId t trip = true := by
  rw [mem_despachoRows, longEnough_iff]
  constructor
  · intro h
    exact ⟨⟨h.mem, h.own, h.unpaid, h.listed⟩, h.far⟩
  · rintro ⟨⟨hmem, hown, hunpaid, hlisted⟩, hfar⟩
    exact ⟨hmem, hown, hunpaid, hlisted, hfar⟩

theorem despachoRows_nodup : (despachoRows tenantId t).Nodup :=
  (orderDesc_perm _ _).nodup_iff.mpr (t.trips.nodup.of_map.filter _)

theorem filterMap_pendingDespacho (rows : List Trip) :
    (rows.filterMap (pendingDespacho tenantId t)).map PendingDespacho.trip =
      rows.filter (longEnough tenantId t) := by
  induction rows with
  | nil => rfl
  | cons trip rows ih =>
    cases hshown : pendingDespacho tenantId t trip with
    | none =>
      rw [List.filterMap_cons_none hshown, ih, List.filter_cons_of_neg]
      rw [longEnough, hshown]
      exact Bool.false_ne_true
    | some shown =>
      have htrip : shown.trip = trip := by
        rw [pendingDespacho] at hshown
        cases hdistance : tripDistanceForDespacho t trip with
        | none =>
          rw [hdistance] at hshown
          cases hshown
        | some km =>
          simp only [hdistance, Option.ite_none_left_eq_some, Option.some.injEq] at hshown
          rw [← hshown.2]
      rw [List.filterMap_cons_some hshown, List.map_cons, ih, htrip, List.filter_cons_of_pos]
      rw [longEnough, hshown]
      rfl

theorem pageTrips_eq (k : Nat) : pageTrips tenantId (p.turn k) t =
    keptPage (longEnough tenantId t) p.pageSize (p.pageSize * 3) k (despachoRows tenantId t) := by
  have hoffset : (p.turn k).offset = k * p.pageSize := by
    rw [Paged.offset, Paged.turn, Nat.add_sub_cancel]
  rw [pageTrips, driverDespachoPendingQueue, List.map_take, filterMap_pendingDespacho, hoffset]
  rfl

/-- Every trip is visited once exactly when no stretch of rows of which some are too short comes
before one that is long enough. -/
theorem pagedOnce_iff (tenantId : UUID) (p : Paged) (t : Tower) :
    PagedOnce tenantId p t ↔
      Evenly (longEnough tenantId t) p.pageSize (despachoRows tenantId t) := by
  have hw : 2 * p.pageSize ≤ p.pageSize * 3 := by omega
  rw [← visitedOnce_iff p.pageSize_pos hw despachoRows_nodup]
  constructor
  · intro h
    constructor
    · intro trip hrow hlong
      have hvisited := h.visited trip (qualifies_iff.mpr ⟨hrow, hlong⟩)
      simpa only [pageTrips_eq] using hvisited
    · intro j k hjk hk
      have hfull := h.full j k hjk
      rw [pageTrips_eq, pageTrips_eq] at hfull
      exact hfull hk
  · rintro ⟨hvisited, hfull⟩
    refine ⟨fun trip htrip => ?_, fun k => ?_, fun k trip htrip => ?_, fun j k hjk hk => ?_⟩
    · obtain ⟨hrow, hlong⟩ := qualifies_iff.mp htrip
      have honce := hvisited trip hrow hlong
      simpa only [pageTrips_eq] using honce
    · rw [pageTrips_eq, keptPage]
      exact (((despachoRows_nodup.sublist (List.drop_sublist _ _)).sublist
        (List.take_sublist _ _)).filter _).sublist (List.take_sublist _ _)
    · rw [pageTrips_eq] at htrip
      obtain ⟨hrow, hlong⟩ := List.mem_filter.mp (List.mem_of_mem_take htrip)
      exact qualifies_iff.mpr ⟨List.mem_of_mem_drop (List.mem_of_mem_take hrow), hlong⟩
    · rw [pageTrips_eq] at hk ⊢
      exact hfull j k hjk hk

end

/-! ## A short trip before a long one -/

def tripOf (id : UUID) (km : Int) : Trip :=
  { id, tenantId := 1, vehicleId := 1, origin := "Beira", destination := "Tete"
    kmStart := some 0, kmEnd := some km, status := .closed }

/-- The trip made last is short, the one before it long. -/
def shortThenLong : Tower where
  trips := ⟨[tripOf 2 10, tripOf 1 500], by decide⟩
  tripStamps := { createdAt := fun id => id }

/-- With pages of one trip, the long one is on the first and on the second. -/
theorem shortThenLong_twice : ¬ PagedOnce 1 { pageSize := 1 } shortThenLong := by
  intro h
  have hrows : despachoRows 1 shortThenLong = [tripOf 2 10, tripOf 1 500] :=
    orderDesc_of_pairwise (by decide)
  have hshort : longEnough 1 shortThenLong (tripOf 2 10) = false := by
    decide +kernel
  have hlong : longEnough 1 shortThenLong (tripOf 1 500) = true := by
    decide +kernel
  have hqualifies : Qualifies 1 shortThenLong (tripOf 1 500) :=
    qualifies_iff.mpr ⟨by rw [hrows]; simp, hlong⟩
  have hpage (k : Nat) (hk : k < 2) :
      tripOf 1 500 ∈ pageTrips 1 (Paged.turn { pageSize := 1 } k) shortThenLong := by
    rw [pageTrips_eq, hrows]
    match k, hk with
    | 0, _ => simp [keptPage, Rotas.page, hshort, hlong]
    | 1, _ => simp [keptPage, Rotas.page, hlong]
  obtain ⟨k, -, hunique⟩ := h.visited _ hqualifies
  have hsame := (hunique 0 (hpage 0 (by decide))).trans (hunique 1 (hpage 1 (by decide))).symm
  cases hsame

end Rotas.ControlTower
