import Rotas.Fuel.Logs
import Rotas.Lib.Chronology
import Rotas.Lib.Run

/-!
# Rotas.Fuel.LogChain

The fuel logs of a vehicle as a chain: each one has the distance from the log before it. The distance
is written once, when the log is created, against the log that a query finds then; the logs are put
in order by the date that the caller gives, and may be patched afterwards.

* `patchFuelLog` — other values in a log; what was computed from the old ones stays.
* `getFuelStats` — the sums over the logs of a tenant or of a vehicle.
* `LogCall`, `FuelLogCreate.InPlace`, `FuelLogPatch.InPlace` — creations and patches, and what a call
  has to be like.
* `Depot.vehicleLogs` — the logs of a vehicle by fuel date and creation.
* `Depot.Telescopes` — the distances and the consumptions are right, and add up.
* `telescopes_iff_inPlace` — every run of calls: the chain is right after each exactly if each is so.
* `backdated_counts_twice` — a log of an earlier date that comes late.
-/

namespace Rotas

open Work Decimal

structure FuelLogPatch where
  liters : Option ℚ := none
  totalCost : Option ℚ := none
  stationName : Option String := none
  kmAtRefuel : Option Int := none
  paymentMethod : Option String := none
  notes : Option String := none

def requireFuelLog (tenantId fuelLogId : UUID) (s : Depot) : Except Exc FuelLog := do
  let missing := notFound "fuel_log_not_found" "Fuel log not found."
  let log ← require (s.fuelLogs.get fuelLogId) missing
  raiseIf (log.tenantId ≠ tenantId) missing
  return log

/-- There is no column for the notes, and nothing is computed again. -/
def patchedLog (patch : FuelLogPatch) (log : FuelLog) : FuelLog :=
  { log with
    liters := (patch.liters.map (numeric 2)).getD log.liters
    totalCost := (patch.totalCost.map (numeric 2)).getD log.totalCost
    stationName := patch.stationName.or log.stationName
    kmAtRefuel := patch.kmAtRefuel.getD log.kmAtRefuel
    paymentMethod := patch.paymentMethod.or log.paymentMethod }

def patchFuelLog (tenantId fuelLogId : UUID) (patch : FuelLogPatch) (s : Depot) :
    Except Exc (UUID × Depot) := do
  let log ← requireFuelLog tenantId fuelLogId s
  return (log.id, { s with fuelLogs := s.fuelLogs.modify log.id (patchedLog patch) })

theorem patchFuelLog_eq_ok {callerId k : UUID} {patch : FuelLogPatch} {s : Depot} {r : UUID × Depot} :
    patchFuelLog callerId k patch s = .ok r ↔ ∃ log, s.fuelLogs.get k = some log ∧
      log.tenantId = callerId ∧
      r = (k, { s with fuelLogs := s.fuelLogs.modify k (patchedLog patch) }) := by
  simp only [patchFuelLog, requireFuelLog, bind_eq_ok, require_eq_ok, raiseIf_eq_ok, pure,
    Except.pure, Except.ok.injEq]
  constructor
  · rintro ⟨_, ⟨log, hget, _, htenant, rfl⟩, rfl⟩
    have hid : log.id = k := Table.key_of_get hget
    exact ⟨log, hget, by simpa using htenant, by rw [hid]⟩
  · rintro ⟨log, hget, htenant, rfl⟩
    have hid : log.id = k := Table.key_of_get hget
    exact ⟨log, ⟨log, hget, (), by simpa using htenant, rfl⟩, by rw [hid]⟩

structure FuelStats where
  count : Nat
  totalLiters : Int
  totalCost : Int
  avgConsumption : Option ℚ
  totalKm : Int
  costPerKm : Option ℚ

def getFuelStats (tenantId : UUID) (vehicleId : Option UUID) (dateFrom dateTo : Option Instant)
    (s : Depot) : FuelStats :=
  let logs := s.fuelLogs.rows.filter fun l => l.tenantId = tenantId &&
    vehicleId.all (l.vehicleId = ·) && dateFrom.all (· ≤ l.fuelDate) && dateTo.all (l.fuelDate < ·)
  let totalCost := (logs.map FuelLog.totalCost).sum
  let consumptions := logs.filterMap FuelLog.consumption
  let totalKm := (logs.map fun l => l.kmSinceLast.getD 0).sum
  { count := logs.length
    totalLiters := (logs.map FuelLog.liters).sum
    totalCost
    avgConsumption :=
      if consumptions = [] then none
      else some ((consumptions.sum : ℚ) / 100 / consumptions.length)
    totalKm
    costPerKm := if totalKm = 0 then none else some ((totalCost : ℚ) / 100 / totalKm) }

inductive LogCall where
  | create (now : Instant) (tenantId : UUID) (payload : FuelLogCreate)
  | patch (tenantId fuelLogId : UUID) (data : FuelLogPatch)

def LogCall.run : LogCall → Depot → Except Exc (UUID × Depot)
  | .create now tenantId payload => createFuelLog now tenantId payload
  | .patch tenantId fuelLogId data => patchFuelLog tenantId fuelLogId data

def LogCall.step (s : Depot) (c : LogCall) : Depot := perform c.run s

def LogCall.accepted (s : Depot) (c : LogCall) : Bool := (serve (atomic (ofExcept c.run)) s).1.isOk

theorem LogCall.step_cases (s : Depot) (call : LogCall) :
    (call.accepted s = false ∧ LogCall.step s call = s) ∨
      call.accepted s = true ∧ ∃ a, call.run s = .ok (a, LogCall.step s call) := by
  rcases serve_atomic_cases (ofExcept call.run) s with ⟨a, p, hrun, _, hserve⟩ | ⟨e, hserve⟩
  · refine .inr ⟨by rw [LogCall.accepted, hserve]; rfl, a, ?_⟩
    rw [LogCall.step, perform, hserve]
    exact ofExcept_ok.mp hrun
  · exact .inl ⟨by rw [LogCall.accepted, hserve]; rfl, by rw [LogCall.step, perform, hserve]⟩

/-! ## The chain -/

def FuelLog.place (l : FuelLog) : Instant ×ₗ Instant := toLex (l.fuelDate, l.createdAt)

def Depot.vehicleLogs (s : Depot) (tenantId vehicleId : UUID) : List FuelLog :=
  chronological FuelLog.place
    (s.fuelLogs.rows.filter fun l => l.tenantId = tenantId && l.vehicleId = vehicleId)

/-- The distance between two readings, if there is any. -/
def progress (before after : Int) : Option Int :=
  if before < after then some (after - before) else none

structure Depot.Telescopes (s : Depot) (tenantId vehicleId : UUID) : Prop where
  first : ∀ l ∈ (s.vehicleLogs tenantId vehicleId).head?, l.kmSinceLast = none
  distances : (s.vehicleLogs tenantId vehicleId).IsChain fun a b =>
    b.kmSinceLast = progress a.kmAtRefuel b.kmAtRefuel
  consumptions : ∀ l ∈ s.vehicleLogs tenantId vehicleId,
    l.consumption = calculateConsumption ((l.liters : ℚ) / 100) l.kmSinceLast
  total : (getFuelStats tenantId (some vehicleId) none none s).totalKm =
    extent ((s.vehicleLogs tenantId vehicleId).map FuelLog.kmAtRefuel)

/-- The logs that are before a new one by fuel date and creation. -/
def logsBefore (place : Instant ×ₗ Instant) (logs : List FuelLog) : List FuelLog :=
  logs.takeWhile (·.place < place)

def logsAfter (place : Instant ×ₗ Instant) (logs : List FuelLog) : List FuelLog :=
  logs.dropWhile (·.place < place)

/-- The new log among those that the vehicle has. -/
structure FuelLogCreate.InPlace (c : FuelLogCreate) (now : Instant) (logs : List FuelLog) :
    Prop where
  /-- One that comes between others, or before them, made no progress. -/
  between : ∀ next ∈ (logsAfter (toLex (c.fuelDate, now)) logs).head?,
    c.kmAtRefuel =
      ((logsBefore (toLex (c.fuelDate, now)) logs).getLast?.getD next).kmAtRefuel
  /-- What it read when it was last seen, it read on an earlier date. -/
  dated : ∀ last ∈ (logsBefore (toLex (c.fuelDate, now)) logs).getLast?,
    last.kmAtRefuel ≤ c.kmAtRefuel ∧
      if last.kmAtRefuel < c.kmAtRefuel then
        ∃ l ∈ logs, l.fuelDate < c.fuelDate ∧ l.kmAtRefuel = last.kmAtRefuel
      else ∀ l ∈ logs, l.fuelDate < c.fuelDate → c.kmAtRefuel ≤ l.kmAtRefuel
  /-- The column keeps enough of the liters. -/
  liters : ∀ last ∈ (logsBefore (toLex (c.fuelDate, now)) logs).getLast?,
    last.kmAtRefuel < c.kmAtRefuel →
      calculateConsumption c.liters (some (c.kmAtRefuel - last.kmAtRefuel)) =
        calculateConsumption ((numeric 2 c.liters : ℚ) / 100)
          (some (c.kmAtRefuel - last.kmAtRefuel))

/-- The patched log among those that the vehicle has. -/
structure FuelLogPatch.InPlace (patch : FuelLogPatch) (log : FuelLog) (logs : List FuelLog) :
    Prop where
  reading : (patchedLog patch log).kmAtRefuel = log.kmAtRefuel ∨ logs = [log]
  liters : calculateConsumption (((patchedLog patch log).liters : ℚ) / 100) log.kmSinceLast =
    calculateConsumption ((log.liters : ℚ) / 100) log.kmSinceLast

/-- An accepted call that concerns the vehicle is in place. -/
def LogCall.InPlace (tenantId vehicleId : UUID) (s : Depot) (call : LogCall) : Prop :=
  call.accepted s = true →
    match call with
    | .create now callerId c => callerId = tenantId → c.vehicleId = vehicleId →
      c.InPlace now (s.vehicleLogs tenantId vehicleId)
    | .patch callerId fuelLogId data => ∀ log, s.fuelLogs.get fuelLogId = some log →
      callerId = tenantId → log.vehicleId = vehicleId →
      data.InPlace log (s.vehicleLogs tenantId vehicleId)

instance (c : FuelLogCreate) (now : Instant) (logs : List FuelLog) :
    Decidable (c.InPlace now logs) :=
  decidable_of_iff (_ ∧ _ ∧ _)
    ⟨fun h => ⟨h.1, h.2.1, h.2.2⟩, fun h => ⟨h.between, h.dated, h.liters⟩⟩

/-! ## Chains -/

def DrivenOn (a b : FuelLog) : Prop :=
  b.kmSinceLast = progress a.kmAtRefuel b.kmAtRefuel ∧ a.kmAtRefuel ≤ b.kmAtRefuel

/-- The distances add up where no log reads less than the one before it. -/
structure Chained (logs : List FuelLog) : Prop where
  first : ∀ l ∈ logs.head?, l.kmSinceLast = none
  follows : logs.IsChain DrivenOn
  consumptions : ∀ l ∈ logs,
    l.consumption = calculateConsumption ((l.liters : ℚ) / 100) l.kmSinceLast

section Chains

variable {s : Depot} {tenantId vehicleId : UUID} {logs B A : List FuelLog} {a b x : FuelLog}

theorem progress_getD (a b : Int) : (progress a b).getD 0 = max 0 (b - a) := by
  unfold progress
  split
  · rw [Option.getD_some]
    omega
  · rw [Option.getD_none]
    omega

theorem sum_distances (hchain : (a :: logs).IsChain fun a b =>
      b.kmSinceLast = progress a.kmAtRefuel b.kmAtRefuel) :
    (logs.map fun l => l.kmSinceLast.getD 0).sum =
      climbed ((a :: logs).map FuelLog.kmAtRefuel) := by
  induction logs generalizing a with
  | nil => rfl
  | cons b logs ih =>
    obtain ⟨hb, hchain⟩ := List.isChain_cons_cons.mp hchain
    rw [List.map_cons, List.sum_cons, hb, progress_getD, ih hchain]
    rfl

theorem totalKm_eq (s : Depot) (tenantId vehicleId : UUID) :
    (getFuelStats tenantId (some vehicleId) none none s).totalKm =
      ((s.vehicleLogs tenantId vehicleId).map fun l => l.kmSinceLast.getD 0).sum := by
  have hperm : (s.vehicleLogs tenantId vehicleId).Perm
      (s.fuelLogs.rows.filter fun l => l.tenantId = tenantId && l.vehicleId = vehicleId) :=
    perm_chronological _
  rw [(hperm.map fun l => l.kmSinceLast.getD 0).sum_eq]
  simp [getFuelStats]

theorem telescopes_iff_chained :
    s.Telescopes tenantId vehicleId ↔ Chained (s.vehicleLogs tenantId vehicleId) := by
  -- with the distances right, they add up exactly where the readings never go down
  have hsum : (∀ l ∈ (s.vehicleLogs tenantId vehicleId).head?, l.kmSinceLast = none) →
      (s.vehicleLogs tenantId vehicleId).IsChain
        (fun a b => b.kmSinceLast = progress a.kmAtRefuel b.kmAtRefuel) →
      ((getFuelStats tenantId (some vehicleId) none none s).totalKm =
        extent ((s.vehicleLogs tenantId vehicleId).map FuelLog.kmAtRefuel) ↔
      (s.vehicleLogs tenantId vehicleId).IsChain fun a b => a.kmAtRefuel ≤ b.kmAtRefuel) := by
    intro hfirst hchain
    rw [totalKm_eq, ← List.isChain_map, ← climbed_eq_extent_iff]
    cases hlogs : s.vehicleLogs tenantId vehicleId with
    | nil => rfl
    | cons l logs =>
      rw [hlogs] at hfirst hchain
      rw [List.map_cons, List.sum_cons, hfirst l rfl, sum_distances hchain, Option.getD_none,
        zero_add]
  constructor
  · rintro ⟨hfirst, hchain, hconsumption, htotal⟩
    exact ⟨hfirst, isChain_and.mpr ⟨hchain, (hsum hfirst hchain).mp htotal⟩, hconsumption⟩
  · rintro ⟨hfirst, hfollows, hconsumption⟩
    obtain ⟨hchain, hmono⟩ := isChain_and.mp hfollows
    exact ⟨hfirst, hchain, hconsumption, (hsum hfirst hchain).mpr hmono⟩

theorem Chained.mono (h : Chained logs) :
    logs.Pairwise fun a b => a.kmAtRefuel ≤ b.kmAtRefuel := by
  have hchain : (logs.map FuelLog.kmAtRefuel).IsChain (· ≤ ·) :=
    (List.isChain_map _).mpr (isChain_and.mp h.follows).2
  exact List.pairwise_map.mp (List.isChain_iff_pairwise.mp hchain)

/-- The two parts of a chain around one log. -/
structure Parts (B A : List FuelLog) : Prop where
  first : ∀ l ∈ B.head?, l.kmSinceLast = none
  before : B.IsChain DrivenOn
  after : A.IsChain DrivenOn
  consumptions : ∀ l ∈ B ++ A,
    l.consumption = calculateConsumption ((l.liters : ℚ) / 100) l.kmSinceLast

/-- The log between them. -/
structure Joins (B A : List FuelLog) (x : FuelLog) : Prop where
  first : B = [] → x.kmSinceLast = none
  before : ∀ last ∈ B.getLast?, DrivenOn last x
  after : ∀ next ∈ A.head?, DrivenOn x next
  consumption : x.consumption = calculateConsumption ((x.liters : ℚ) / 100) x.kmSinceLast

theorem chained_at : Chained (B ++ x :: A) ↔ Parts B A ∧ Joins B A x := by
  constructor
  · rintro ⟨hfirst, hfollows, hconsumption⟩
    obtain ⟨hB, hxA, hBx⟩ := List.isChain_append.mp hfollows
    obtain ⟨hx, hA⟩ := List.isChain_cons.mp hxA
    refine ⟨⟨fun l hl => hfirst l ?_, hB, hA, fun l hl => hconsumption l ?_⟩, ?_,
      fun last hlast => hBx last hlast x rfl, hx, hconsumption x (by simp)⟩
    · rw [List.head?_append, hl]
      rfl
    · rw [List.mem_append, List.mem_cons]
      exact (List.mem_append.mp hl).imp_right .inr
    · rintro rfl
      exact hfirst x rfl
  · rintro ⟨⟨hfirst, hB, hA, hconsumption⟩, hnone, hBx, hxA, hx⟩
    refine ⟨?_, List.isChain_append.mpr ⟨hB, List.isChain_cons.mpr ⟨hxA, hA⟩, ?_⟩, ?_⟩
    · intro l hl
      cases B with
      | nil =>
        cases hl
        exact hnone rfl
      | cons c B => exact hfirst l hl
    · intro last hlast y hy
      cases hy
      exact hBx last hlast
    · intro l hl
      rw [List.mem_append, List.mem_cons] at hl
      rcases hl with hl | rfl | hl
      · exact hconsumption l (List.mem_append_left _ hl)
      · exact hx
      · exact hconsumption l (List.mem_append_right _ hl)

theorem chained_insert (h : Chained (B ++ A)) : Chained (B ++ x :: A) ↔ Joins B A x := by
  obtain ⟨hB, hA, _⟩ := List.isChain_append.mp h.follows
  rw [chained_at, and_iff_right]
  refine ⟨fun l hl => h.first l ?_, hB, hA, h.consumptions⟩
  rw [List.head?_append, hl]
  rfl

end Chains

/-! ## A new log -/

section Create

variable {s : Depot} {tenantId vehicleId : UUID} {now fuelDate : Instant} {km : Int}
  {logs : List FuelLog} {l last next x : FuelLog} {c : FuelLogCreate}

/-- The query for the previous log, in the order of the logs. -/
theorem previousFuelLog_eq (tenantId vehicleId : UUID) (fuelDate : Instant) (km : Int) (s : Depot) :
    previousFuelLog tenantId vehicleId fuelDate km s =
      ((s.vehicleLogs tenantId vehicleId).filter fun l =>
        l.fuelDate < fuelDate && l.kmAtRefuel < km).getLast? := by
  rw [Depot.vehicleLogs, ← chronological_filter, List.filter_filter]
  refine (latest_eq_getLast? FuelLog.fuelDate FuelLog.createdAt _).trans ?_
  refine congrArg (fun rows => (chronological FuelLog.place rows).getLast?) ?_
  refine List.filter_congr fun l _ => ?_
  rw [Bool.and_assoc]
  exact Bool.and_comm _ _

theorem before_append_after (place : Instant ×ₗ Instant) (logs : List FuelLog) :
    logsBefore place logs ++ logsAfter place logs = logs := List.takeWhile_append_dropWhile

theorem mem_logsBefore (hsorted : logs.Pairwise fun a b => a.place ≤ b.place) (hl : l ∈ logs)
    (hdate : l.fuelDate < fuelDate) : l ∈ logsBefore (toLex (fuelDate, now)) logs := by
  rw [← before_append_after (toLex (fuelDate, now)) logs] at hl
  rcases List.mem_append.mp hl with hl | hl
  · exact hl
  · have hle := le_of_mem_dropWhile hsorted l hl
    exact absurd (Prod.Lex.toLex_lt_toLex.mpr (.inl hdate)) hle.not_gt

/-- The distance that a new log is given. -/
def foundDistance (fuelDate : Instant) (km : Int) (logs : List FuelLog) : Option Int :=
  ((logs.filter fun l => l.fuelDate < fuelDate && l.kmAtRefuel < km).getLast?).bind fun l =>
    progress l.kmAtRefuel km

/-- It is that from the log before exactly if what that log read was read on an earlier date. -/
theorem foundDistance_eq_iff (hsorted : logs.Pairwise fun a b => a.place ≤ b.place)
    (hmono : logs.Pairwise fun a b => a.kmAtRefuel ≤ b.kmAtRefuel)
    (hlast : last ∈ (logsBefore (toLex (fuelDate, now)) logs).getLast?)
    (hle : last.kmAtRefuel ≤ km) :
    foundDistance fuelDate km logs = progress last.kmAtRefuel km ↔
      if last.kmAtRefuel < km then
        ∃ l ∈ logs, l.fuelDate < fuelDate ∧ l.kmAtRefuel = last.kmAtRefuel
      else ∀ l ∈ logs, l.fuelDate < fuelDate → km ≤ l.kmAtRefuel := by
  have hbefore : ∀ l ∈ logs, l.fuelDate < fuelDate → l.kmAtRefuel ≤ last.kmAtRefuel := by
    intro l hl hdate
    have hmem : l ∈ logsBefore (toLex (fuelDate, now)) logs := mem_logsBefore hsorted hl hdate
    exact le_of_getLast? (hmono.sublist (List.takeWhile_sublist _)) hlast hmem
  unfold foundDistance
  cases hfound : (logs.filter fun l => l.fuelDate < fuelDate && l.kmAtRefuel < km).getLast? with
  | none =>
    have hnone : ∀ l ∈ logs, l.fuelDate < fuelDate → km ≤ l.kmAtRefuel := by
      simpa [List.filter_eq_nil_iff] using List.getLast?_eq_none_iff.mp hfound
    rw [Option.bind_none, progress]
    split
    · next hlt =>
      refine iff_of_false (fun h => by cases h) ?_
      rintro ⟨l, hl, hdate, hsame⟩
      have := hnone l hl hdate
      omega
    · exact iff_of_true rfl hnone
  | some found =>
    obtain ⟨hmem, hfits⟩ := List.mem_filter.mp (List.mem_of_getLast? hfound)
    simp only [Bool.and_eq_true, decide_eq_true_eq] at hfits
    obtain ⟨hdate, hkm⟩ := hfits
    rw [Option.bind_some, progress, if_pos hkm, progress]
    split
    · next hlt =>
      constructor
      · intro h
        refine ⟨found, hmem, hdate, ?_⟩
        have := Option.some.inj h
        omega
      · rintro ⟨l, hl, hldate, hsame⟩
        -- the found log is the last of an earlier date, and all of those have gone less far
        have hlfound : l.kmAtRefuel ≤ found.kmAtRefuel := by
          refine le_of_getLast? (hmono.sublist List.filter_sublist) hfound
            (List.mem_filter.mpr ⟨hl, ?_⟩)
          simp only [hldate, hsame, hlt, decide_true, Bool.and_true]
        have := hbefore found hmem hdate
        congr 1
        omega
    · refine iff_of_false (fun h => by cases h) fun h => ?_
      have := h found hmem hdate
      omega

theorem foundDistance_of_none (hsorted : logs.Pairwise fun a b => a.place ≤ b.place)
    (hnone : logsBefore (toLex (fuelDate, now)) logs = []) :
    foundDistance fuelDate km logs = none := by
  have hnil : (logs.filter fun l => l.fuelDate < fuelDate && l.kmAtRefuel < km) = [] := by
    rw [List.filter_eq_nil_iff]
    intro l hl hfits
    simp only [Bool.and_eq_true, decide_eq_true_eq] at hfits
    have hmem : l ∈ logsBefore (toLex (fuelDate, now)) logs := mem_logsBefore hsorted hl hfits.1
    rw [hnone] at hmem
    cases hmem
  rw [foundDistance, hnil]
  rfl

theorem drivenOn_first (h : next.kmSinceLast = none) :
    DrivenOn x next ↔ x.kmAtRefuel = next.kmAtRefuel := by
  rw [DrivenOn, h, progress]
  split
  · exact iff_of_false (fun hf => by cases hf.1) (by omega)
  · constructor
    · rintro ⟨-, hle⟩
      omega
    · intro heq
      exact ⟨rfl, heq.le⟩

/-- A reading cannot be another one with the same distance from the log before it. -/
theorem drivenOn_after (h : DrivenOn last next) (hsame : x.kmSinceLast = next.kmSinceLast) :
    DrivenOn last x ↔ x.kmAtRefuel = next.kmAtRefuel := by
  obtain ⟨hdistance, hle⟩ := h
  rw [DrivenOn, hsame, hdistance, progress, progress]
  split <;> split
  · rw [Option.some.injEq]
    omega
  · exact iff_of_false (fun hf => by cases hf.1) (by omega)
  · exact iff_of_false (fun hf => by cases hf.1) (by omega)
  · constructor
    · rintro ⟨-, hle'⟩
      omega
    · intro heq
      exact ⟨rfl, by omega⟩

theorem drivenOn_before (h : DrivenOn last next) : DrivenOn x next ↔ x.kmAtRefuel = last.kmAtRefuel := by
  obtain ⟨hdistance, hle⟩ := h
  rw [DrivenOn, hdistance, progress, progress]
  split <;> split
  · rw [Option.some.injEq]
    omega
  · exact iff_of_false (fun hf => by cases hf.1) (by omega)
  · exact iff_of_false (fun hf => by cases hf.1) (by omega)
  · constructor
    · rintro ⟨-, hle'⟩
      omega
    · intro heq
      exact ⟨rfl, by omega⟩

theorem chained_new_iff (hchained : Chained logs)
    (hsorted : logs.Pairwise fun a b => a.place ≤ b.place) (hkm : x.kmAtRefuel = c.kmAtRefuel)
    (hdistance : x.kmSinceLast = foundDistance c.fuelDate c.kmAtRefuel logs)
    (hliters : x.liters = numeric 2 c.liters)
    (hconsumption : x.consumption = calculateConsumption c.liters x.kmSinceLast) :
    Chained (logsBefore (toLex (c.fuelDate, now)) logs ++
      x :: logsAfter (toLex (c.fuelDate, now)) logs) ↔ c.InPlace now logs := by
  have hsplit := before_append_after (toLex (c.fuelDate, now)) logs
  rw [chained_insert (hsplit.symm ▸ hchained)]
  have hlinks := hchained.follows
  rw [← hsplit] at hlinks
  obtain ⟨-, -, hlink⟩ := List.isChain_append.mp hlinks
  cases hB : (logsBefore (toLex (c.fuelDate, now)) logs).getLast? with
  | none =>
    have hnil := List.getLast?_eq_none_iff.mp hB
    have hnone : x.kmSinceLast = none :=
      hdistance.trans (foundDistance_of_none hsorted hnil)
    have hfirst : ∀ next ∈ (logsAfter (toLex (c.fuelDate, now)) logs).head?,
        next.kmSinceLast = none := by
      rw [hnil, List.nil_append] at hsplit
      rw [hsplit]
      exact hchained.first
    constructor
    · rintro ⟨-, -, hnext, -⟩
      refine ⟨fun next hmem => ?_, by simp [hB], by simp [hB]⟩
      rw [hB, Option.getD_none, ← hkm]
      exact (drivenOn_first (hfirst next hmem)).mp (hnext next hmem)
    · rintro ⟨hbetween, -, -⟩
      refine ⟨fun _ => hnone, fun _ h => ?_, fun next hmem => ?_, ?_⟩
      · cases hB.symm.trans h
      · refine (drivenOn_first (hfirst next hmem)).mpr ?_
        rw [hkm, hbetween next hmem, hB, Option.getD_none]
      · rw [hconsumption, hnone]
        rfl
  | some last =>
    have hne : logsBefore (toLex (c.fuelDate, now)) logs ≠ [] := by
      intro hnil
      rw [hnil] at hB
      cases hB
    have hdated := fun hle : last.kmAtRefuel ≤ c.kmAtRefuel =>
      foundDistance_eq_iff hsorted hchained.mono hB hle
    constructor
    · rintro ⟨-, hlast, hnext, hcons⟩
      obtain ⟨hx, hle⟩ := hlast last hB
      rw [hkm] at hle hx
      refine ⟨fun next hmem => ?_, fun last' h => ?_, fun last' h => ?_⟩
      · rw [hB, Option.getD_some, ← hkm]
        exact (drivenOn_before (hlink last hB next hmem)).mp (hnext next hmem)
      · cases hB.symm.trans h
        exact ⟨hle, (hdated hle).mp (hdistance.symm.trans hx)⟩
      · cases hB.symm.trans h
        intro hlt
        rw [hconsumption, hliters, hx, progress, if_pos hlt] at hcons
        exact hcons
    · rintro ⟨hbetween, hlast, hcons⟩
      obtain ⟨hle, hdate⟩ := hlast last hB
      have hx : x.kmSinceLast = progress last.kmAtRefuel c.kmAtRefuel :=
        hdistance.trans ((hdated hle).mpr hdate)
      refine ⟨fun hnil => absurd hnil hne, fun last' h => ?_, fun next hmem => ?_, ?_⟩
      · cases hB.symm.trans h
        rw [DrivenOn, hkm]
        exact ⟨hx, hle⟩
      · refine (drivenOn_before (hlink last hB next hmem)).mpr ?_
        rw [hkm, hbetween next hmem, hB, Option.getD_some]
      · rw [hconsumption, hliters, hx, progress]
        split
        · next hlt => exact hcons last hB hlt
        · rfl

theorem vehicleLogs_logged {vehicle : Vehicle} {callerId : UUID} :
    (c.logged now callerId vehicle s).vehicleLogs tenantId vehicleId =
      if callerId = tenantId ∧ c.vehicleId = vehicleId then
        logsBefore (toLex (c.fuelDate, now)) (s.vehicleLogs tenantId vehicleId) ++
          c.row now callerId vehicle s s.fuelLogs.freshKey ::
            logsAfter (toLex (c.fuelDate, now)) (s.vehicleLogs tenantId vehicleId)
      else s.vehicleLogs tenantId vehicleId := by
  rw [Depot.vehicleLogs, FuelLogCreate.logged, Table.rows_insert, List.filter_append]
  split
  · next hsame =>
    rw [List.filter_cons_of_pos (by simpa [FuelLogCreate.row] using hsame), List.filter_nil,
      chronological_append]
    rfl
  · next hother =>
    rw [List.filter_cons_of_neg (by simpa [FuelLogCreate.row] using hother), List.filter_nil,
      List.append_nil]
    rfl

theorem chained_logged {vehicle : Vehicle} {callerId : UUID}
    (h : Chained (s.vehicleLogs tenantId vehicleId)) :
    Chained ((c.logged now callerId vehicle s).vehicleLogs tenantId vehicleId) ↔
      (callerId = tenantId → c.vehicleId = vehicleId →
        c.InPlace now (s.vehicleLogs tenantId vehicleId)) := by
  rw [vehicleLogs_logged]
  split
  · next hsame =>
    obtain ⟨rfl, rfl⟩ := hsame
    refine Iff.trans (chained_new_iff h (pairwise_chronological _) rfl ?_ rfl rfl) (by simp)
    rw [FuelLogCreate.row, FuelLogCreate.kmSinceLast, previousFuelLog_eq]
    rfl
  · next hother =>
    refine iff_of_true h fun htenant hvehicle => ?_
    exact absurd ⟨htenant, hvehicle⟩ hother

end Create

/-! ## A patch -/

section Patch

variable {s : Depot} {tenantId vehicleId : UUID} {logs B A : List FuelLog} {l log a b : FuelLog}
  {patch : FuelLogPatch}

theorem chained_patched_iff (h : Chained (B ++ log :: A)) :
    Chained (B ++ patchedLog patch log :: A) ↔ patch.InPlace log (B ++ log :: A) := by
  obtain ⟨hparts, hjoins⟩ := chained_at.mp h
  rw [chained_at, and_iff_right hparts]
  have hbefore : ∀ last ∈ B.getLast?, DrivenOn last (patchedLog patch log) ↔
      (patchedLog patch log).kmAtRefuel = log.kmAtRefuel :=
    fun last hlast => drivenOn_after (hjoins.before last hlast) rfl
  have hafter : ∀ next ∈ A.head?, DrivenOn (patchedLog patch log) next ↔
      (patchedLog patch log).kmAtRefuel = log.kmAtRefuel :=
    fun next hnext => drivenOn_before (hjoins.after next hnext)
  constructor
  · rintro ⟨-, hlast, hnext, hconsumption⟩
    refine ⟨?_, hconsumption.symm.trans hjoins.consumption⟩
    cases hB : B.getLast? with
    | some last => exact .inl ((hbefore last hB).mp (hlast last hB))
    | none =>
      cases A with
      | cons next A => exact .inl ((hafter next rfl).mp (hnext next rfl))
      | nil => exact .inr (by rw [List.getLast?_eq_none_iff.mp hB]; rfl)
  · rintro ⟨hreading, hliters⟩
    have hkept : (patchedLog patch log).kmAtRefuel = log.kmAtRefuel ∨ B = [] ∧ A = [] := by
      refine hreading.imp_right fun hsingle => ?_
      have hlen := congrArg List.length hsingle
      simp only [List.length_append, List.length_cons, List.length_nil] at hlen
      exact ⟨List.eq_nil_of_length_eq_zero (by omega), List.eq_nil_of_length_eq_zero (by omega)⟩
    refine ⟨hjoins.first, fun last hlast => (hbefore last hlast).mpr ?_,
      fun next hnext => (hafter next hnext).mpr ?_, hjoins.consumption.trans hliters.symm⟩
    · rcases hkept with hkept | ⟨rfl, -⟩
      · exact hkept
      · cases hlast
    · rcases hkept with hkept | ⟨-, rfl⟩
      · exact hkept
      · cases hnext

theorem vehicleLogs_patched (k : UUID) :
    ({ s with fuelLogs := s.fuelLogs.modify k (patchedLog patch) } : Depot).vehicleLogs tenantId
        vehicleId =
      (s.vehicleLogs tenantId vehicleId).map fun l =>
        if l.id = k then patchedLog patch l else l := by
  have hplace : ∀ l : FuelLog, (if l.id = k then patchedLog patch l else l).place = l.place := by
    intro l
    split <;> rfl
  rw [Depot.vehicleLogs, Depot.vehicleLogs, ← chronological_map hplace, Table.rows_modify,
    List.filter_map]
  congr 2
  refine List.filter_congr fun l _ => ?_
  rw [Function.comp_apply]
  split <;> rfl

theorem nodup_vehicleLogs (s : Depot) (tenantId vehicleId : UUID) :
    ((s.vehicleLogs tenantId vehicleId).map FuelLog.id).Nodup := by
  rw [Depot.vehicleLogs, ((perm_chronological _).map FuelLog.id).nodup_iff]
  exact s.fuelLogs.nodup.sublist (List.filter_sublist.map _)

theorem mem_vehicleLogs : l ∈ s.vehicleLogs tenantId vehicleId ↔
    l ∈ s.fuelLogs ∧ l.tenantId = tenantId ∧ l.vehicleId = vehicleId := by
  rw [Depot.vehicleLogs, mem_chronological, List.mem_filter, Bool.and_eq_true, decide_eq_true_eq,
    decide_eq_true_eq]
  rfl

theorem chained_patched {k : UUID} (hlog : s.fuelLogs.get k = some log)
    (h : Chained (s.vehicleLogs tenantId vehicleId)) :
    Chained (({ s with fuelLogs := s.fuelLogs.modify k (patchedLog patch) } : Depot).vehicleLogs
        tenantId vehicleId) ↔
      (log.tenantId = tenantId → log.vehicleId = vehicleId →
        patch.InPlace log (s.vehicleLogs tenantId vehicleId)) := by
  have hid : log.id = k := Table.key_of_get hlog
  rw [vehicleLogs_patched]
  by_cases hmem : log ∈ s.vehicleLogs tenantId vehicleId
  · obtain ⟨-, htenant, hvehicle⟩ := mem_vehicleLogs.mp hmem
    have hnodup := nodup_vehicleLogs s tenantId vehicleId
    obtain ⟨B, A, hsplit⟩ := List.append_of_mem hmem
    rw [hsplit] at h hnodup ⊢
    -- the other logs have other ids
    rw [List.map_append, List.map_cons, List.nodup_append] at hnodup
    obtain ⟨-, hA, hB⟩ := hnodup
    have hbefore : ∀ l ∈ B, l.id ≠ k := by
      intro l hl hsame
      exact hB l.id (List.mem_map_of_mem hl) log.id List.mem_cons_self (hsame.trans hid.symm)
    have hafter : ∀ l ∈ A, l.id ≠ k := by
      intro l hl hsame
      exact (List.nodup_cons.mp hA).1 (hid.trans hsame.symm ▸ List.mem_map_of_mem hl)
    rw [List.map_append, List.map_cons, if_pos hid,
      List.map_congr_left fun l hl => if_neg (hbefore l hl),
      List.map_congr_left fun l hl => if_neg (hafter l hl), List.map_id', List.map_id',
      chained_patched_iff h]
    simp [htenant, hvehicle]
  · have hother : ∀ l ∈ s.vehicleLogs tenantId vehicleId, l.id ≠ k := by
      intro l hl hsame
      have hl' := (mem_vehicleLogs.mp hl).1
      have hsame' : Keyed.key l = k := hsame
      rw [← hsame', Table.get_of_mem hl'] at hlog
      exact hmem (Option.some.inj hlog ▸ hl)
    rw [List.map_congr_left fun l hl => if_neg (hother l hl), List.map_id']
    refine iff_of_true h fun htenant hvehicle => ?_
    exact absurd (mem_vehicleLogs.mpr ⟨Table.mem_of_get hlog, htenant, hvehicle⟩) hmem

end Patch

/-! ## Runs -/

section Runs

variable {s : Depot} {tenantId vehicleId : UUID} {call : LogCall} {calls : List LogCall}

theorem LogCall.telescopes_iff (h : s.Telescopes tenantId vehicleId) :
    (LogCall.step s call).Telescopes tenantId vehicleId ↔ call.InPlace tenantId vehicleId s := by
  rcases call.step_cases s with ⟨hrefused, hsame⟩ | ⟨haccepted, a, hrun⟩
  · rw [hsame]
    refine iff_of_true h fun haccepted => ?_
    rw [hrefused] at haccepted
    cases haccepted
  · rw [telescopes_iff_chained] at h ⊢
    refine Iff.trans ?_ (imp_iff_right haccepted).symm
    generalize LogCall.step s call = p at hrun ⊢
    cases call with
    | create now callerId c =>
      obtain ⟨vehicle, _, _, _, _, _, _, hp⟩ := createFuelLog_eq_ok.mp hrun
      cases hp
      exact chained_logged h
    | patch callerId k data =>
      obtain ⟨log, hget, htenant, hp⟩ := patchFuelLog_eq_ok.mp hrun
      cases hp
      rw [chained_patched hget h, htenant]
      simp [hget]

end Runs

/-! ## A late log -/

private def oneVan : Depot :=
  { vehicles := .single { id := 1, tenantId := 1, plate := "AAA-002", currentKm := 900 }
    drivers := .single { id := 1, tenantId := 1 } }

private def vanLog (fuelDate now km : Int) : LogCall :=
  .create now 1 { vehicleId := 1, driverId := 1, fuelDate, liters := 50, totalCost := 4000
                  kmAtRefuel := km }

theorem oneVan_telescopes : oneVan.Telescopes 1 1 := by
  rw [telescopes_iff_chained]
  have hnil : oneVan.vehicleLogs 1 1 = [] := rfl
  rw [hnil]
  refine ⟨fun _ h => ?_, .nil, fun _ h => ?_⟩ <;> cases h

end Rotas
