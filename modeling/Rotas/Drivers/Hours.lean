import Rotas.Data
import Rotas.Lib.Binary64
import Rotas.Lib.Spans

/-!
# Rotas.Drivers.Hours

Hours of service, from the trips of a driver. Days are counted from 1970-01-01 and instants in
seconds; the hours are floats, added in the order in which the database returns the trips, and rounded
to hundredths when they are reported.

* `weekStart` — Monday 00:00 of the week of a day.
* `calculateDrivingHours` — the hours of a day and of its week, and whether they keep the limits.
* `Answers` — what it may report, as the query has no order.
* `secondsToday`, `secondsThisWeek` — the time itself; `hoursOf_near` says how far the hours are off.
-/

namespace Rotas

open Spans Binary64

/-- `_DRIVING_STATUSES`. -/
def drivingStatuses : List TripStatus := [.inProgress, .completed]

/-- 00:00 of a day, as an instant. -/
def dayStart (day : Int) : Int := 86400 * day

/-- `day.weekday()`; day 0 was a Thursday. -/
def weekday (day : Int) : Int := (day + 3) % 7

/-- The Monday of the week of a day. -/
def monday (day : Int) : Int := day - weekday day

/-- `_week_start`. -/
def weekStart (targetDate : Int) : Int := dayStart (monday targetDate)

inductive HosStatus where
  | ok | warning | violation
  deriving DecidableEq

/-- What `calculate_driving_hours` answers, in hundredths of an hour. -/
structure DrivingHours where
  hoursToday : Int
  hoursThisWeek : Int
  status : HosStatus
  violationReason : Option String
  deriving DecidableEq

/-- The trips of the query, each with its departure. -/
def drivingTrips (driverId tenantId : UUID) (since : Instant) (db : Db) : List (Trip × Instant) :=
  db.trips.rows.filterMap fun t =>
    match t.actualDeparture with
    | some departure =>
      if t.driverId = driverId ∧ t.tenantId = tenantId ∧ t.status ∈ drivingStatuses ∧
          since ≤ departure then some (t, departure) else none
    | none => none

/-- The float of `(end - departure).total_seconds() / 3600`, at least zero; a trip that has not arrived
drives until now. -/
def drivenHours (now : Instant) (trip : Trip × Instant) : ℚ :=
  max 0 (nearest (((trip.1.actualArrival.getD now - trip.2 : Int) : ℚ) / 3600))

/-- `round(hours, 2)`. -/
def roundHours (hours : ℚ) : Int := Decimal.quantize 2 hours

/-- The limits: eight and nine hours a day, forty-eight a week. -/
def hosStatus (today thisWeek : ℚ) : HosStatus × Option String :=
  if 48 ≤ thisWeek then (.violation, some "weekly_limit")
  else if 9 ≤ today then (.violation, some "daily_limit")
  else if 8 ≤ today then (.warning, none)
  else (.ok, none)

/-- The hours of the day and of the week after another trip. -/
def addTrip (now : Instant) (today : Int) (hours : ℚ × ℚ) (trip : Trip × Instant) : ℚ × ℚ :=
  (if utcDate trip.2 = today then nearest (hours.1 + drivenHours now trip) else hours.1,
    nearest (hours.2 + drivenHours now trip))

/-- The hours of the trips, in the order in which they come. -/
def hoursOf (now : Instant) (today : Int) (trips : List (Trip × Instant)) : DrivingHours :=
  let hours := trips.foldl (addTrip now today) (0, 0)
  let result := hosStatus hours.1 hours.2
  { hoursToday := roundHours hours.1
    hoursThisWeek := roundHours hours.2
    status := result.1
    violationReason := result.2 }

def calculateDrivingHours (now : Instant) (driverId tenantId : UUID) (targetDate : Option Int)
    (db : Db) : DrivingHours :=
  let today := targetDate.getD (utcDate now)
  hoursOf now today (drivingTrips driverId tenantId (weekStart today) db)

/-- What may be reported: the query has no order. -/
def Answers (now : Instant) (driverId tenantId : UUID) (day : Int) (db : Db)
    (hours : DrivingHours) : Prop :=
  ∃ trips, trips.Perm (drivingTrips driverId tenantId (weekStart day) db) ∧
    hours = hoursOf now day trips

/-! ## The time that was driven -/

/-- The seconds of a trip. -/
def drivenSeconds (now : Instant) (trip : Trip × Instant) : Int :=
  span trip.2 (trip.1.actualArrival.getD now)

/-- The seconds of the trips that departed on the day. -/
def secondsToday (now : Instant) (today : Int) (trips : List (Trip × Instant)) : Int :=
  (trips.map fun t => if utcDate t.2 = today then drivenSeconds now t else 0).sum

def secondsThisWeek (now : Instant) (trips : List (Trip × Instant)) : Int :=
  (trips.map (drivenSeconds now)).sum

/-- Hours of some trips as they are reported: those of the seconds, up to the roundings of the
floats. -/
def Reported (trips : Nat) (hours seconds : Int) : Prop :=
  ∃ x : ℚ, hours = roundHours x ∧ Near (trips + 1) x (seconds / 3600)

section

variable {now : Instant} {today : Int}

theorem drivenHours_eq (t : Trip × Instant) :
    drivenHours now t = nearest ((drivenSeconds now t : ℚ) / 3600) := by
  have h3600 : (0 : ℚ) < 3600 := by norm_num
  unfold drivenHours drivenSeconds span
  rcases le_total 0 ((t.1.actualArrival.getD now : Int) - t.2) with hpos | hneg
  · have hq : (0 : ℚ) ≤ ((t.1.actualArrival.getD now - t.2 : Int) : ℚ) / 3600 :=
      div_nonneg (by exact_mod_cast hpos) h3600.le
    rw [max_eq_right hpos, max_eq_right (nearest_nonneg hq)]
  · have hq : ((t.1.actualArrival.getD now - t.2 : Int) : ℚ) / 3600 ≤ 0 :=
      div_nonpos_of_nonpos_of_nonneg (by exact_mod_cast hneg) h3600.le
    rw [max_eq_left hneg, max_eq_left (nearest_nonpos hq), Int.cast_zero, zero_div, nearest_zero]

theorem normal_hours {seconds : Int} (h : 0 ≤ seconds) : Normal ((seconds : ℚ) / 3600) := by
  rcases h.eq_or_lt with rfl | hpos
  · exact .inl (by norm_num)
  · have hone : (1 : ℚ) ≤ seconds := by exact_mod_cast hpos
    have hsmall : (2 : ℚ) ^ (-1022 : ℤ) ≤ 2 ^ (-12 : ℤ) := zpow_le_zpow_right₀ (by norm_num) (by norm_num)
    refine .inr (hsmall.trans ?_)
    norm_num
    linarith

/-- The hours of the trips that count, added one after the other. -/
theorem addTrip_eq (trips : List (Trip × Instant)) :
    trips.foldl (addTrip now today) (0, 0) =
      (sum ((trips.filter fun t => utcDate t.2 = today).map (drivenHours now)),
        sum (trips.map (drivenHours now))) := by
  suffices hacc : ∀ hours : ℚ × ℚ, trips.foldl (addTrip now today) hours =
      (((trips.filter fun t => utcDate t.2 = today).map (drivenHours now)).foldl
          (fun acc q => nearest (acc + q)) hours.1,
        (trips.map (drivenHours now)).foldl (fun acc q => nearest (acc + q)) hours.2) from
    hacc (0, 0)
  induction trips with
  | nil => exact fun _ => rfl
  | cons t trips ih =>
    intro hours
    rw [List.foldl_cons, ih]
    by_cases hday : utcDate t.2 = today <;> simp [addTrip, hday]

theorem sum_hours_near (trips : List (Trip × Instant)) :
    Near (trips.length + 1) (sum (trips.map (drivenHours now)))
      (secondsThisWeek now trips / 3600) := by
  have hpos (t : Trip × Instant) : 0 ≤ drivenSeconds now t := span_nonneg _ _
  have hsum : (trips.map fun t => (drivenSeconds now t : ℚ) / 3600).sum =
      (secondsThisWeek now trips : ℚ) / 3600 := by
    induction trips with
    | nil => simp [secondsThisWeek]
    | cons t trips ih =>
      simp only [List.map_cons, List.sum_cons, secondsThisWeek] at ih ⊢
      rw [ih]
      push_cast
      ring
  have hnear := sum_near (n := 1) (w := drivenHours now) (v := fun t => (drivenSeconds now t : ℚ) / 3600)
    (fun t => by rw [drivenHours_eq]; exact (normal_hours (hpos t)).nearest)
    (fun t => (normal_hours (hpos t)).nonneg)
    (fun t => by rw [drivenHours_eq]; exact nearest_near (normal_hours (hpos t))) trips
  rw [hsum, Nat.add_comm] at hnear
  exact hnear

theorem hoursOf_near {trips rows : List (Trip × Instant)} (h : trips.Perm rows) :
    Reported rows.length (hoursOf now today trips).hoursToday (secondsToday now today rows) ∧
      Reported rows.length (hoursOf now today trips).hoursThisWeek (secondsThisWeek now rows) := by
  have hweek : secondsThisWeek now rows = secondsThisWeek now trips :=
    ((h.map (drivenSeconds now)).sum_eq).symm
  have hday : secondsToday now today rows =
      secondsThisWeek now (trips.filter fun t => utcDate t.2 = today) := by
    rw [secondsThisWeek, sum_filter, secondsToday, ← (h.map _).sum_eq]
    simp only [decide_eq_true_eq]
  constructor
  · refine ⟨_, congrArg (fun hours : ℚ × ℚ => roundHours hours.1) (addTrip_eq trips), ?_⟩
    have hle := List.length_filter_le (fun t : Trip × Instant => decide (utcDate t.2 = today)) trips
    have hnear := @sum_hours_near now (trips.filter fun t => utcDate t.2 = today)
    rw [← hday] at hnear
    refine hnear.mono ?_ (by rw [← h.length_eq]; omega)
    refine div_nonneg ?_ (by norm_num)
    rw [hday]
    exact_mod_cast List.sum_nonneg fun x hx => by
      obtain ⟨t, -, rfl⟩ := List.mem_map.mp hx
      exact span_nonneg _ _
  · refine ⟨_, congrArg (fun hours : ℚ × ℚ => roundHours hours.2) (addTrip_eq trips), ?_⟩
    rw [hweek, ← h.length_eq]
    exact sum_hours_near trips

end

/-! ## Days and weeks -/

theorem utcDate_eq_iff {t day : Int} :
    utcDate t = day ↔ dayStart day ≤ t ∧ t < dayStart (day + 1) := by
  simp only [utcDate, dayStart]
  omega

theorem monday_le (day : Int) : monday day ≤ day := by
  simp only [monday, weekday]
  omega

theorem weekStart_le (day : Int) : weekStart day ≤ dayStart day := by
  have := monday_le day
  simp only [weekStart, dayStart]
  omega

theorem roundHours_mono {x x' : ℚ} (h : x ≤ x') : roundHours x ≤ roundHours x' := by
  simp only [roundHours, Decimal.quantize]
  exact Decimal.roundHalfEven_mono (by linarith)

/-- 2024-05-15 was a Wednesday: its week starts two days before. -/
example : monday 19858 = 19856 := by decide

end Rotas
