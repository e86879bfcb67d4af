import Rotas.Drivers.Hours
import Rotas.Trips.LifeCycle

/-!
# Rotas.Drivers.DrivingTime

The reported hours of service against the time that was driven. A trip counts with its whole length
on the day and in the week it departs in.

* `drivenIn`, `drivenAfter`, `drivenBefore` — the driving time in a window, and what the trips on
  its edges have on either side.
* `hours_of_service` — the hours of a day are, up to rounding, the driving time of the day, with what
  the trips of the day drive after it and without what earlier trips drive in it; so are those of the
  week, while no trip departs after it. Starting and closing trips never lowers either.
* `midnight_moves_hours` — a trip over midnight counts for one day only.
-/

namespace Rotas

open Spans Binary64

/-! ## Driving time -/

/-- Monday 00:00 after the week of a day. -/
def weekEnd (targetDate : Int) : Int := dayStart (monday targetDate + 7)

/-- The trip with its departure, when the driver drives it or has driven it. -/
def Trip.drive (driverId tenantId : UUID) (t : Trip) : Option (Trip × Instant) :=
  match t.actualDeparture with
  | some departure =>
    if t.driverId = driverId ∧ t.tenantId = tenantId ∧ t.status ∈ drivingStatuses then
      some (t, departure)
    else none
  | none => none

/-- All that a driver drives or has driven. -/
def drives (driverId tenantId : UUID) (db : Db) : List (Trip × Instant) :=
  db.trips.rows.filterMap (Trip.drive driverId tenantId)

/-- The end of a drive; one that has not arrived lasts until now. -/
def driveEnd (now : Instant) (d : Trip × Instant) : Int := d.1.actualArrival.getD now

/-- The time driven in a window. -/
def drivenIn (now : Instant) (lo hi : Int) (ds : List (Trip × Instant)) : Int :=
  (ds.map fun d => overlap d.2 (driveEnd now d) lo hi).sum

/-- What the drives that depart in the window take after it. -/
def drivenAfter (now : Instant) (lo hi : Int) (ds : List (Trip × Instant)) : Int :=
  (ds.map fun d => if lo ≤ d.2 ∧ d.2 < hi then span hi (driveEnd now d) else 0).sum

/-- What the drives that depart before the window take in it. -/
def drivenBefore (now : Instant) (lo hi : Int) (ds : List (Trip × Instant)) : Int :=
  (ds.map fun d => if d.2 < lo then overlap d.2 (driveEnd now d) lo hi else 0).sum

/-- No drive that departs in the window or before it goes over an edge of it. -/
def WithinEdges (now : Instant) (lo hi : Int) (ds : List (Trip × Instant)) : Prop :=
  ∀ d ∈ ds, (d.2 < lo → driveEnd now d ≤ lo) ∧ (lo ≤ d.2 → d.2 < hi → driveEnd now d ≤ hi)

section

variable {now : Instant} {lo hi day : Int} {ds : List (Trip × Instant)} {driverId tenantId : UUID}
  {db : Db}

theorem WithinEdges.after (h : WithinEdges now lo hi ds) : drivenAfter now lo hi ds = 0 := by
  refine List.sum_eq_zero fun x hx => ?_
  obtain ⟨d, hd, rfl⟩ := List.mem_map.mp hx
  split
  · next hin => exact span_of_le ((h d hd).2 hin.1 hin.2)
  · rfl

theorem WithinEdges.before (h : WithinEdges now lo hi ds) : drivenBefore now lo hi ds = 0 := by
  refine List.sum_eq_zero fun x hx => ?_
  obtain ⟨d, hd, rfl⟩ := List.mem_map.mp hx
  split
  · next hin => exact overlap_of_end_before ((h d hd).1 hin)
  · rfl

/-- The query of a week keeps the drives that depart in it or later. -/
theorem drivingTrips_eq {since : Instant} :
    drivingTrips driverId tenantId since db =
      (drives driverId tenantId db).filter (fun d => decide (since ≤ d.2)) := by
  rw [drives, List.filter_filterMap]
  refine congrArg (List.filterMap · db.trips.rows) (funext fun t => ?_)
  simp only [Trip.drive]
  cases t.actualDeparture with
  | none => rfl
  | some departure =>
    by_cases hmine : t.driverId = driverId ∧ t.tenantId = tenantId ∧ t.status ∈ drivingStatuses
    · by_cases hsince : since ≤ departure <;> simp [hmine, hsince, Option.filter]
    · have hout : ¬ (t.driverId = driverId ∧ t.tenantId = tenantId ∧ t.status ∈ drivingStatuses ∧
          since ≤ departure) := fun h => hmine ⟨h.1, h.2.1, h.2.2.1⟩
      simp only [if_neg hmine, if_neg hout, Option.filter_none]

/-- The seconds of a day are those driven in it, with what its drives take after it, and without
what earlier drives take in it. -/
theorem secondsToday_eq :
    secondsToday now day (drivingTrips driverId tenantId (weekStart day) db) =
      drivenIn now (dayStart day) (dayStart (day + 1)) (drives driverId tenantId db) +
        drivenAfter now (dayStart day) (dayStart (day + 1)) (drives driverId tenantId db) -
        drivenBefore now (dayStart day) (dayStart (day + 1)) (drives driverId tenantId db) := by
  rw [drivenIn, drivenAfter, drivenBefore,
    ← sum_starting _ (fun d : Trip × Instant => d.2) (driveEnd now), secondsToday, drivingTrips_eq,
    sum_filter]
  refine congrArg List.sum (List.map_congr_left fun d _ => ?_)
  have hweek := weekStart_le day
  by_cases hday : utcDate d.2 = day
  · have hin := utcDate_eq_iff.mp hday
    rw [if_pos hday, if_pos hin, if_pos (decide_eq_true (hweek.trans hin.1))]
    rfl
  · rw [if_neg hday, if_neg fun hin => hday (utcDate_eq_iff.mpr hin), ite_self]

/-- So are the seconds of a week, while no drive departs after it. -/
theorem secondsThisWeek_eq (hweek : ∀ d ∈ drives driverId tenantId db, d.2 < weekEnd day) :
    secondsThisWeek now (drivingTrips driverId tenantId (weekStart day) db) =
      drivenIn now (weekStart day) (weekEnd day) (drives driverId tenantId db) +
        drivenAfter now (weekStart day) (weekEnd day) (drives driverId tenantId db) -
        drivenBefore now (weekStart day) (weekEnd day) (drives driverId tenantId db) := by
  rw [drivenIn, drivenAfter, drivenBefore,
    ← sum_starting _ (fun d : Trip × Instant => d.2) (driveEnd now), secondsThisWeek,
    drivingTrips_eq, sum_filter]
  refine congrArg List.sum (List.map_congr_left fun d hd => ?_)
  by_cases hsince : weekStart day ≤ d.2
  · rw [if_pos (decide_eq_true hsince), if_pos ⟨hsince, hweek d hd⟩]
    rfl
  · rw [if_neg (by simpa using hsince), if_neg fun hin => hsince hin.1]

end

/-! ## Calls that keep the hours -/

/-- A drive stays as it is; what is none yet may become one. -/
def KeepsDrives (t t' : Trip) : Prop := t' = t ∨ t.status ∉ drivingStatuses

theorem KeepsDrives.trans {t t' t'' : Trip} (h : KeepsDrives t t') (h' : KeepsDrives t' t'') :
    KeepsDrives t t'' := by
  rcases h with rfl | hidle
  · exact h'
  · exact .inr hidle

theorem Trip.drive_of_not_driving {driverId tenantId : UUID} {t : Trip}
    (h : t.status ∉ drivingStatuses) : t.drive driverId tenantId = none := by
  rw [Trip.drive]
  split
  · exact if_neg fun hmine => h hmine.2.2
  · rfl

/-- Drives that are kept weigh no less later, beside what has come to them. -/
theorem sum_drives_le {driverId tenantId : UUID} {db db' : Db} {w w' : Trip × Instant → Int}
    (hkeep : ∀ k t, db.trips.get k = some t →
      ∃ t', db'.trips.get k = some t' ∧ KeepsDrives t t')
    (hle : ∀ d, w d ≤ w' d) (hw' : ∀ d, 0 ≤ w' d) :
    ((drives driverId tenantId db).map w).sum ≤ ((drives driverId tenantId db').map w').sum := by
  have hnonneg (o : Option (Trip × Instant)) : 0 ≤ (o.map w').getD 0 := by
    cases o with
    | none => exact Int.le_refl 0
    | some d => exact hw' d
  simp only [drives, sum_filterMap]
  refine Table.sum_rows_le (fun k t ht => ?_) fun t _ => hnonneg _
  obtain ⟨t', ht', rfl | hidle⟩ := hkeep k t ht
  · refine ⟨_, ht', ?_⟩
    cases t'.drive driverId tenantId with
    | none => exact Int.le_refl 0
    | some d => exact hle d
  · exact ⟨t', ht', by rw [Trip.drive_of_not_driving hidle]; exact hnonneg _⟩

theorem drivenSeconds_mono {now now' : Instant} (h : (now : Int) ≤ now') (d : Trip × Instant) :
    drivenSeconds now d ≤ drivenSeconds now' d := by
  simp only [drivenSeconds]
  cases d.1.actualArrival with
  | none => exact span_mono h
  | some arrival => exact Int.le_refl _

section

variable {driverId tenantId : UUID} {day : Int} {now now' : Instant} {db db' : Db}

/-- Later, with every drive kept, neither the time of the day nor that of the week is less. -/
theorem seconds_le (hnow : (now : Int) ≤ now')
    (hkeep : ∀ k t, db.trips.get k = some t →
      ∃ t', db'.trips.get k = some t' ∧ KeepsDrives t t') :
    secondsToday now day (drivingTrips driverId tenantId (weekStart day) db) ≤
        secondsToday now' day (drivingTrips driverId tenantId (weekStart day) db') ∧
      secondsThisWeek now (drivingTrips driverId tenantId (weekStart day) db) ≤
        secondsThisWeek now' (drivingTrips driverId tenantId (weekStart day) db') := by
  have hmono := drivenSeconds_mono hnow
  have hpos (d : Trip × Instant) : 0 ≤ drivenSeconds now' d := span_nonneg _ _
  constructor
  · simp only [secondsToday, drivingTrips_eq, sum_filter]
    refine sum_drives_le hkeep (fun d => ?_) fun d => ?_
    · split
      · split
        · exact hmono d
        · exact Int.le_refl 0
      · exact Int.le_refl 0
    · split
      · split
        · exact hpos d
        · exact Int.le_refl 0
      · exact Int.le_refl 0
  · simp only [secondsThisWeek, drivingTrips_eq, sum_filter]
    refine sum_drives_le hkeep (fun d => ?_) fun d => ?_
    · split
      · exact hmono d
      · exact Int.le_refl 0
    · split
      · exact hpos d
      · exact Int.le_refl 0

theorem drivingTrips_subset
    (hkeep : ∀ k t, db.trips.get k = some t →
      ∃ t', db'.trips.get k = some t' ∧ KeepsDrives t t') :
    drivingTrips driverId tenantId (weekStart day) db ⊆
      drivingTrips driverId tenantId (weekStart day) db' := by
  intro d hd
  rw [drivingTrips_eq, List.mem_filter, drives, List.mem_filterMap] at hd ⊢
  obtain ⟨⟨t, ht, hdrive⟩, hsince⟩ := hd
  obtain ⟨t', ht', hkept⟩ := hkeep _ t (Table.get_of_mem ht)
  refine ⟨⟨t', Table.mem_of_get ht', ?_⟩, hsince⟩
  rcases hkept with rfl | hidle
  · exact hdrive
  · rw [Trip.drive_of_not_driving hidle] at hdrive
    cases hdrive

theorem drivenHours_mono (hnow : (now : Int) ≤ now') (d : Trip × Instant) :
    drivenHours now d ≤ drivenHours now' d := by
  have hle : (drivenSeconds now d : ℚ) ≤ drivenSeconds now' d := by
    exact_mod_cast drivenSeconds_mono hnow d
  rw [drivenHours_eq, drivenHours_eq]
  refine nearest_mono (normal_hours (span_nonneg _ _)).nonneg ?_
  exact div_le_div_of_nonneg_right hle (by norm_num)

/-- Later, with more trips in the same order, no hours are fewer. -/
theorem hoursOf_le (hnow : (now : Int) ≤ now') {trips trips' : List (Trip × Instant)}
    (h : trips.Sublist trips') :
    (hoursOf now day trips).hoursToday ≤ (hoursOf now' day trips').hoursToday ∧
      (hoursOf now day trips).hoursThisWeek ≤ (hoursOf now' day trips').hoursThisWeek := by
  have hpos (d : Trip × Instant) : 0 ≤ drivenHours now d := le_max_left _ _
  have hmono := drivenHours_mono hnow
  simp only [hoursOf, addTrip_eq]
  exact ⟨roundHours_mono (sum_le_sum hpos hmono (h.filter _)),
    roundHours_mono (sum_le_sum hpos hmono h)⟩

end

/-- A call to `start_trip` or to `operational_close_trip`. -/
def OpsCall.startsOrCloses : OpsCall → Bool
  | .trips (.startTrip ..) => true
  | .trips (.operationalCloseTrip ..) => true
  | _ => false

section

variable [Interpreter] [Locale]

/-- Only a trip that is not driven yet is started, and only one that is driven no more is closed. -/
theorem OpsCall.keepsDrives :
    Lifecycle.Moves (fun (f : Fleet) k => f.trips.get k) OpsCall.step
      (fun _ c => c.startsOrCloses = true) KeepsDrives := by
  intro f c hc k t ht
  obtain ⟨t', ht', hmove⟩ := (c.step_trips f).moves k t ht
  refine ⟨t', ht', ?_⟩
  cases hmove with
  | same => exact .inl rfl
  | start _ hstatus =>
    refine .inr (.inr fun hdriving => ?_)
    cases hst : t.status <;> simp_all [drivingStatuses]
  | close _ _ hchecks =>
    have hstatus := closeChecks_status hchecks
    refine .inr (.inr fun hdriving => ?_)
    cases hst : t.status <;> simp_all [drivingStatuses]
  | _ => cases hc

/-- Hours of service against the driving time, for every driver, day and set of trips. -/
theorem hours_of_service (now : Instant) (driverId tenantId : UUID) (day : Int) (f : Fleet) :
    let ds := drives driverId tenantId f.toDb
    let rows := drivingTrips driverId tenantId (weekStart day) f.toDb
    let today := secondsToday now day rows
    let thisWeek := secondsThisWeek now rows
    (∀ hours, Answers now driverId tenantId day f.toDb hours →
      Reported rows.length hours.hoursToday today ∧
        Reported rows.length hours.hoursThisWeek thisWeek) ∧
    (today = drivenIn now (dayStart day) (dayStart (day + 1)) ds +
        drivenAfter now (dayStart day) (dayStart (day + 1)) ds -
        drivenBefore now (dayStart day) (dayStart (day + 1)) ds ∧
      (WithinEdges now (dayStart day) (dayStart (day + 1)) ds →
        today = drivenIn now (dayStart day) (dayStart (day + 1)) ds)) ∧
    ((∀ d ∈ ds, d.2 < weekEnd day) →
      thisWeek = drivenIn now (weekStart day) (weekEnd day) ds +
        drivenAfter now (weekStart day) (weekEnd day) ds -
        drivenBefore now (weekStart day) (weekEnd day) ds ∧
      (WithinEdges now (weekStart day) (weekEnd day) ds →
        thisWeek = drivenIn now (weekStart day) (weekEnd day) ds)) ∧
    ∀ (now' : Instant) (calls : List OpsCall), (now : Int) ≤ now' →
      (∀ c ∈ calls, c.startsOrCloses = true) →
      let rows' := drivingTrips driverId tenantId (weekStart day)
        (Run.exec OpsCall.step f calls).toDb
      rows ⊆ rows' ∧
      (today ≤ secondsToday now' day rows' ∧ thisWeek ≤ secondsThisWeek now' rows') ∧
      ∀ trips trips', trips.Perm rows → trips'.Perm rows' → trips.Sublist trips' →
        (hoursOf now day trips).hoursToday ≤ (hoursOf now' day trips').hoursToday ∧
          (hoursOf now day trips).hoursThisWeek ≤ (hoursOf now' day trips').hoursThisWeek := by
  have htoday := @secondsToday_eq now day driverId tenantId f.toDb
  refine ⟨?_, ⟨htoday, fun hedges => ?_⟩, fun hweek => ?_, fun now' calls hnow hcalls => ?_⟩
  · rintro _ ⟨trips, hperm, rfl⟩
    exact hoursOf_near hperm
  · rw [hedges.after, hedges.before, Int.add_zero, Int.sub_zero] at htoday
    exact htoday
  · have hthis := @secondsThisWeek_eq now day _ _ _ hweek
    refine ⟨hthis, fun hedges => ?_⟩
    rw [hedges.after, hedges.before, Int.add_zero, Int.sub_zero] at hthis
    exact hthis
  · have hkeep (k : UUID) (t : Trip) (ht : f.trips.get k = some t) :
        ∃ t', (Run.exec OpsCall.step f calls).trips.get k = some t' ∧ KeepsDrives t t' :=
      Lifecycle.exec_related (fun _ => .inl rfl) (fun _ _ _ h h' => h.trans h')
        OpsCall.keepsDrives ht (Run.along_of_forall (fun c hc _ => hcalls c hc) f)
    exact ⟨drivingTrips_subset hkeep, seconds_le hnow hkeep,
      fun trips trips' _ _ hsub => hoursOf_le hnow hsub⟩

end

/-! ## Over midnight -/

/-- A trip that has been under way since 23:00 of the first day. -/
def nightFleet : Fleet where
  trips := .single
    { id := 1, tenantId := 1, vehicleId := 1, driverId := 1, origin := "Maputo"
      destination := "Beira", status := .inProgress, actualDeparture := some 82800 }

/-- In its week it counts with all of its time, at 02:00 and still at 03:00. -/
theorem hours_of_service_night :
    (∃ x, (calculateDrivingHours 93600 1 1 (some 1) nightFleet.toDb).hoursThisWeek = roundHours x ∧
        Near 2 x (3 : ℚ)) ∧
      (calculateDrivingHours 93600 1 1 (some 1) nightFleet.toDb).hoursThisWeek ≤
        (calculateDrivingHours 97200 1 1 (some 1) (Run.exec (@OpsCall.step .undated .ascii)
          nightFleet [.trips (.startTrip 95000 1 2 { kmStart := 10 })]).toDb).hoursThisWeek := by
  have hall := @hours_of_service .undated .ascii 93600 1 1 1 nightFleet
  constructor
  · obtain ⟨x, hx, hnear⟩ := (hall.1 _ ⟨_, .refl _, rfl⟩).2
    rw [(hall.2.2.1 (by decide +kernel)).2 fun d hd => by
      cases List.mem_singleton.mp hd
      decide +kernel] at hnear
    refine ⟨x, hx, ?_⟩
    have hthree : drivenIn 93600 (weekStart 1) (weekEnd 1) (drives 1 1 nightFleet.toDb) = 10800 := by
      decide +kernel
    rw [hthree] at hnear
    norm_num at hnear
    exact hnear
  · exact ((hall.2.2.2 97200 _ (by decide) (by decide)).2.2 _ _ (.refl _) (.refl _) (.refl _)).2

/-- At 02:00 it has been driven for two hours of the second day, of which none is reported. -/
theorem midnight_moves_hours :
    (calculateDrivingHours 93600 1 1 (some 1) nightFleet.toDb).hoursToday = 0 ∧
      ¬ ∀ (now : Instant) (driverId tenantId : UUID) (day : Int) (f : Fleet),
        (calculateDrivingHours now driverId tenantId (some day) f.toDb).hoursToday =
          roundHours ((drivenIn now (dayStart day) (dayStart (day + 1))
            (drives driverId tenantId f.toDb) : ℚ) / 3600) := by
  have hnone : (calculateDrivingHours 93600 1 1 (some 1) nightFleet.toDb).hoursToday = 0 := by
    decide +kernel
  have hdriven : roundHours ((drivenIn 93600 (dayStart 1) (dayStart (1 + 1))
      (drives 1 1 nightFleet.toDb) : ℚ) / 3600) = 200 := by decide +kernel
  refine ⟨hnone, fun hall => ?_⟩
  have htwo := hall 93600 1 1 1 nightFleet
  rw [hnone, hdriven] at htwo
  cases htwo

end Rotas
