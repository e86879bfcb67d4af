import Rotas.Lib.Run
import Rotas.OperationalExceptions.Service
import Rotas.Trips.Execution

/-!
# Rotas.Trips.SlaEscalation

The watch over the planned arrivals: every evaluation marks the late trips and ensures an exception
for each of them. The exception has the severity of the first evaluation that saw the trip late:
later ones find it active and leave it.

* `SlaWatch.evaluate` — one evaluation of a tenant's trips, with what it sends to the governance
  engine.
* `slaLoop_ok` — an evaluation that goes through leaves the exceptions that are there, and makes the
  others with the severity of the delay.
* `SlaBlocked` — a late trip without exception whose title is too long; no other evaluation fails,
  and this one changes nothing.
* `SlaWatch.EscalatedAt` — one exception, of the severity that the last evaluation alone would give,
  and the governance engine told of it once four hours of delay were seen.
* `exec_calm`, `step_late`, `exec_settled`, `exec_blocked` — before the trip is late, the evaluation
  that first sees it late, and after it.
* `sla_escalates_iff` — escalation does not depend on the evaluations exactly if the first one that
  sees the trip late goes through, and sees four hours already or is followed by none that does.
* `not_escalated_after_hours` — a delay seen after an hour and again after five.
-/

namespace Rotas

open Run

/-- The database, and the events that were scheduled. -/
structure SlaWatch where
  db : ExceptionDb
  pushed : List GovernanceEvent := []

/-- The delay of a late trip, in whole minutes. -/
def delayMinutes (now planned : Instant) : Int := (now - planned) / 60

def slaSeverity (now planned : Instant) : Severity :=
  if 240 ≤ delayMinutes now planned then .high else .medium

def slaTitle (trip : Trip) : String :=
  "Entrega atrasada: " ++ trip.origin ++ " -> " ++ trip.destination

section Evaluation

variable [Rendering]

/-- What is asked for a late trip; such a trip has a planned arrival. -/
def slaRequest (now : Instant) (trip : Trip) : ExceptionRequest :=
  let planned := trip.plannedArrival.getD now
  { entityType := "trip", entityId := trip.id, exceptionType := "trip_delivery_sla_breached"
    severity := slaSeverity now planned
    title := slaTitle trip
    message := "A viagem ultrapassou o horário planejado de chegada."
    context := [("trip_id", .text (Rendering.str trip.id)), ("planned_arrival", .instant planned),
      ("delay_minutes", .number (delayMinutes now planned))]
    sourceType := some "trip", sourceId := some trip.id }

/-- The late trips in turn; what was scheduled before an error stays scheduled. -/
def slaLoop (now : Instant) (tenantId : UUID) :
    List Trip → ExceptionDb → List GovernanceEvent × Except Exc ExceptionDb
  | [], db => ([], .ok db)
  | trip :: rest, db =>
    match ensureException now tenantId (slaRequest now trip) db with
    | .error e => ([], .error e)
    | .ok (_, event, db) =>
      (event.toList ++ (slaLoop now tenantId rest db).1, (slaLoop now tenantId rest db).2)

/-- `evaluate_delivery_sla`: one transaction, whose constraints do not read a status. -/
def SlaWatch.evaluate (now : Instant) (tenantId : UUID) (s : SlaWatch) :
    Except Exc (List UUID) × SlaWatch :=
  match evaluateDeliverySla now tenantId s.db.toDb with
  | .error e => (.error e, s)
  | .ok (late, marked) =>
    match slaLoop now tenantId (s.db.trips.rows.filter (·.breachesSla now tenantId))
        { s.db with toDb := marked } with
    | (events, .ok db) => (.ok late, { db, pushed := s.pushed ++ events })
    | (events, .error e) => (.error e, { s with pushed := s.pushed ++ events })

def SlaWatch.step (tenantId : UUID) (s : SlaWatch) (now : Instant) : SlaWatch :=
  (s.evaluate now tenantId).2

end Evaluation

/-! ## The exceptions of a trip -/

/-- The active exceptions that a trip has for its delay. -/
def activeSla (tenantId tripId : UUID) (db : ExceptionDb) : List OperationalException :=
  db.operationalExceptions.rows.filter fun e =>
    e.tenantId = tenantId && e.entityType = "trip" && e.entityId = tripId &&
      e.exceptionType = "trip_delivery_sla_breached" && e.isActive && e.sourceType = some "trip" &&
      e.sourceId = some tripId

section Loop

variable [Rendering] {now : Instant} {tenantId tripId : UUID} {trip : Trip} {late : List Trip}
  {db q : ExceptionDb} {events : List GovernanceEvent}

theorem filter_answers (now : Instant) (trip : Trip) (db : ExceptionDb) :
    db.operationalExceptions.rows.filter (·.answers tenantId (slaRequest now trip)) =
      activeSla tenantId trip.id db := by
  refine List.filter_congr fun e _ => Bool.eq_iff_iff.mpr ?_
  simp only [OperationalException.answers, Bool.and_eq_true, decide_eq_true_eq]
  simp [slaRequest, truthy]

theorem fits_slaRequest (now : Instant) (trip : Trip) :
    (slaRequest now trip).fits = decide ((slaTitle trip).length ≤ 180) := by
  have hentity : "trip".length ≤ 50 := by decide
  have htype : "trip_delivery_sla_breached".length ≤ 60 := by decide
  refine Bool.eq_iff_iff.mpr ?_
  simp only [ExceptionRequest.fits, Bool.and_eq_true, decide_eq_true_eq]
  simp [slaRequest, hentity, htype]

theorem activeSla_raised :
    activeSla tenantId tripId (db.raised now tenantId (slaRequest now trip)) =
      activeSla tenantId tripId db ++ if trip.id = tripId then
        [newException now tenantId (slaRequest now trip) db.operationalExceptions.freshKey]
      else [] := by
  rw [activeSla, ExceptionDb.raised, Table.rows_insert, List.filter_append]
  congr 1
  by_cases hid : trip.id = tripId
  · simp [hid, newException, slaRequest, OperationalException.isActive]
  · simp [hid, newException, slaRequest]

/-- What an evaluation did that went through all the late trips. -/
structure LoopDone (now : Instant) (tenantId : UUID) (late : List Trip) (db q : ExceptionDb)
    (events : List GovernanceEvent) : Prop where
  sameDb : q.toDb = db.toDb
  others : ∀ k, (∀ t ∈ late, t.id ≠ k) → activeSla tenantId k q = activeSla tenantId k db
  kept : ∀ t ∈ late, activeSla tenantId t.id db ≠ [] →
    activeSla tenantId t.id q = activeSla tenantId t.id db
  made : ∀ t ∈ late, activeSla tenantId t.id db = [] → (slaTitle t).length ≤ 180 ∧
    ∃ e, activeSla tenantId t.id q = [e] ∧
      e.severity = slaSeverity now (t.plannedArrival.getD now) ∧
      (e.severity = .high → operationalExceptionEvent now e ∈ events)

theorem slaLoop_ok (hnodup : (late.map Trip.id).Nodup)
    (h : slaLoop now tenantId late db = (events, .ok q)) :
    LoopDone now tenantId late db q events := by
  induction late generalizing db events with
  | nil =>
    cases h
    exact ⟨rfl, fun _ _ => rfl, fun _ ht => (List.not_mem_nil ht).elim,
      fun _ ht => (List.not_mem_nil ht).elim⟩
  | cons trip rest ih =>
    obtain ⟨hnotin, hnodup⟩ := List.nodup_cons.mp hnodup
    have happart : ∀ t ∈ rest, t.id ≠ trip.id := fun t ht he =>
      hnotin (List.mem_map.mpr ⟨t, ht, he⟩)
    by_cases hnone : activeSla tenantId trip.id db = []
    · by_cases hlength : (slaTitle trip).length ≤ 180
      · -- a new exception, and then the rest of the trips
        have hfits : (slaRequest now trip).fits = true := by
          rw [fits_slaRequest]
          exact decide_eq_true hlength
        rw [slaLoop, ensure_new ((filter_answers now trip db).trans hnone) hfits] at h
        obtain ⟨hevents, hrest⟩ := Prod.mk.inj h
        have hloop := ih hnodup (Prod.ext rfl hrest)
        have hother : ∀ k, trip.id ≠ k → activeSla tenantId k
            (db.raised now tenantId (slaRequest now trip)) = activeSla tenantId k db := by
          intro k hk
          rw [activeSla_raised, if_neg hk, List.append_nil]
        refine ⟨hloop.sameDb, fun k hk => ?_, fun t ht hsome => ?_, fun t ht hempty => ?_⟩
        · rw [hloop.others k fun t ht => hk t (List.mem_cons_of_mem _ ht)]
          exact hother k (hk trip List.mem_cons_self)
        · rcases List.mem_cons.mp ht with rfl | ht
          · exact absurd hnone hsome
          · have hsame := hother t.id (happart t ht).symm
            rw [← hsame]
            exact hloop.kept t ht (by rwa [hsame])
        · rcases List.mem_cons.mp ht with rfl | ht
          · refine ⟨hlength, newException now tenantId (slaRequest now t)
              db.operationalExceptions.freshKey, ?_, rfl, fun hhigh => ?_⟩
            · rw [hloop.others t.id happart, activeSla_raised, hempty, if_pos rfl, List.nil_append]
            · rw [← hevents]
              refine List.mem_append_left _ ?_
              simp [exceptionEvent, hhigh]
          · obtain ⟨hfit, e, he, hseverity, hpushed⟩ :=
              hloop.made t ht ((hother t.id (happart t ht).symm).trans hempty)
            refine ⟨hfit, e, he, hseverity, fun hhigh => ?_⟩
            rw [← hevents]
            exact List.mem_append_right _ (hpushed hhigh)
      · have hfits : (slaRequest now trip).fits = false := by
          rw [fits_slaRequest]
          exact decide_eq_false hlength
        rw [slaLoop, ensure_refused ((filter_answers now trip db).trans hnone) hfits] at h
        cases (Prod.mk.inj h).2
    · obtain ⟨existing, hensure⟩ := ensure_of_active now
        (by rw [filter_answers now trip db]; exact hnone)
      rw [slaLoop, hensure] at h
      have hloop := ih hnodup h
      refine ⟨hloop.sameDb, fun k hk => hloop.others k fun t ht => hk t (List.mem_cons_of_mem _ ht),
        fun t ht hsome => ?_, fun t ht hempty => ?_⟩
      · rcases List.mem_cons.mp ht with rfl | ht
        · exact hloop.others t.id happart
        · exact hloop.kept t ht hsome
      · rcases List.mem_cons.mp ht with rfl | ht
        · exact absurd hempty hnone
        · exact hloop.made t ht hempty

theorem slaLoop_error {e : Exc} (h : (slaLoop now tenantId late db).2 = .error e) :
    ∃ t ∈ late, activeSla tenantId t.id db = [] ∧ 180 < (slaTitle t).length := by
  induction late generalizing db with
  | nil => cases h
  | cons trip rest ih =>
    by_cases hnone : activeSla tenantId trip.id db = []
    · by_cases hlength : (slaTitle trip).length ≤ 180
      · have hfits : (slaRequest now trip).fits = true := by
          rw [fits_slaRequest]
          exact decide_eq_true hlength
        rw [slaLoop, ensure_new ((filter_answers now trip db).trans hnone) hfits] at h
        obtain ⟨t, ht, hempty, hlong⟩ := ih h
        rw [activeSla_raised] at hempty
        exact ⟨t, List.mem_cons_of_mem _ ht, (List.append_eq_nil_iff.mp hempty).1, hlong⟩
      · exact ⟨trip, List.mem_cons_self, hnone, not_le.mp hlength⟩
    · obtain ⟨existing, hensure⟩ := ensure_of_active now
        (by rw [filter_answers now trip db]; exact hnone)
      rw [slaLoop, hensure] at h
      obtain ⟨t, ht, hempty, hlong⟩ := ih h
      exact ⟨t, List.mem_cons_of_mem _ ht, hempty, hlong⟩

end Loop

/-! ## Evaluations -/

/-- A late trip of the tenant has no exception yet, and its title does not fit. -/
def SlaBlocked (tenantId : UUID) (now : Instant) (db : ExceptionDb) : Prop :=
  ∃ t ∈ db.trips, t.breachesSla now tenantId = true ∧ activeSla tenantId t.id db = [] ∧
    180 < (slaTitle t).length

theorem key_delayed (t : Trip) :
    Keyed.key { t with status := TripStatus.delayed } = Keyed.key t := rfl

def markedDelayed (tenantId : UUID) (now : Instant) (db : ExceptionDb) : ExceptionDb :=
  { db with
    trips := db.trips.modifyAll (·.breachesSla now tenantId) ({ · with status := .delayed })
      key_delayed }

theorem SlaWatch.evaluate_eq [Rendering] (tenantId : UUID) (s : SlaWatch) (now : Instant) :
    s.evaluate now tenantId =
      match slaLoop now tenantId (s.db.trips.rows.filter (·.breachesSla now tenantId))
        (markedDelayed tenantId now s.db) with
      | (events, .ok db) => (.ok ((s.db.trips.rows.filter (·.breachesSla now tenantId)).map Trip.id),
          { db, pushed := s.pushed ++ events })
      | (events, .error e) => (.error e, { s with pushed := s.pushed ++ events }) := rfl

/-- An evaluation fails and changes nothing in the database, or goes through. -/
theorem SlaWatch.step_cases [Rendering] (tenantId : UUID) (s : SlaWatch) (now : Instant) :
    (SlaBlocked tenantId now s.db ∧ (s.step tenantId now).db = s.db ∧
        ∃ events, (s.step tenantId now).pushed = s.pushed ++ events) ∨
      ¬ SlaBlocked tenantId now s.db ∧ ∃ events,
        (s.step tenantId now).pushed = s.pushed ++ events ∧
        LoopDone now tenantId (s.db.trips.rows.filter (·.breachesSla now tenantId))
          (markedDelayed tenantId now s.db) (s.step tenantId now).db events := by
  have hnodup : ((s.db.trips.rows.filter (·.breachesSla now tenantId)).map Trip.id).Nodup :=
    s.db.trips.nodup.sublist (List.Sublist.map _ List.filter_sublist)
  rcases hloop : slaLoop now tenantId (s.db.trips.rows.filter (·.breachesSla now tenantId))
    (markedDelayed tenantId now s.db) with ⟨events, result⟩
  cases result with
  | error e =>
    have hstep : s.step tenantId now = { s with pushed := s.pushed ++ events } := by
      rw [SlaWatch.step, SlaWatch.evaluate_eq, hloop]
    obtain ⟨t, ht, hempty, hlong⟩ := slaLoop_error (congrArg Prod.snd hloop)
    obtain ⟨ht, hlate⟩ := List.mem_filter.mp ht
    rw [hstep]
    exact .inl ⟨⟨t, ht, hlate, hempty, hlong⟩, rfl, events, rfl⟩
  | ok q =>
    have hstep : s.step tenantId now = { db := q, pushed := s.pushed ++ events } := by
      rw [SlaWatch.step, SlaWatch.evaluate_eq, hloop]
    have hdone := slaLoop_ok hnodup hloop
    rw [hstep]
    refine .inr ⟨?_, events, rfl, hdone⟩
    rintro ⟨t, ht, hlate, hempty, hlong⟩
    have hfit := (hdone.made t (List.mem_filter.mpr ⟨ht, hlate⟩) hempty).1
    omega

/-- The trip is on the road and not at its destination. -/
structure Trip.Awaited (tenantId : UUID) (planned : Instant) (t : Trip) : Prop where
  tenant : t.tenantId = tenantId
  monitored : t.status ∈ slaMonitoredStatuses
  arrival : t.actualArrival = none
  plannedArrival : t.plannedArrival = some planned

def AwaitedIn (tenantId tripId : UUID) (planned : Instant) (db : ExceptionDb) : Prop :=
  ∃ t ∈ db.trips, t.id = tripId ∧ t.Awaited tenantId planned

section Evaluations

variable [Rendering] {tenantId tripId k : UUID} {planned now first last : Instant} {t r : Trip}
  {s : SlaWatch} {e : OperationalException} {instants before after : List Instant}

/-- After all of the instants, the last of which is `last`. -/
def SlaWatch.EscalatedAt (tenantId tripId : UUID) (planned : Instant) (instants : List Instant)
    (last : Instant) (s : SlaWatch) : Prop :=
  ∃ e, activeSla tenantId tripId s.db = [e] ∧ e.severity = slaSeverity last planned ∧
    ((∃ now ∈ instants, 240 ≤ delayMinutes now planned) →
      ∃ time, operationalExceptionEvent time e ∈ s.pushed)

/-! ## Trips on the road -/

omit [Rendering]

theorem Trip.Awaited.breaches_iff (h : t.Awaited tenantId planned) :
    t.breachesSla now tenantId = true ↔ planned < now := by
  simp [Trip.breachesSla, h.tenant, h.monitored, h.arrival, h.plannedArrival]

theorem delayed_monitored : TripStatus.delayed ∈ slaMonitoredStatuses := by decide

theorem breaches_delayed (h : t.breachesSla now tenantId = true) (later : Instant) :
    { t with status := .delayed }.breachesSla later tenantId = t.breachesSla later tenantId := by
  have hmonitored : t.status ∈ slaMonitoredStatuses := by
    simp only [Trip.breachesSla, Bool.and_eq_true, decide_eq_true_eq] at h
    exact h.1.1.2
  simp [Trip.breachesSla, hmonitored, delayed_monitored]

theorem breaches_mono (h : t.breachesSla now tenantId = true) {later : Instant} (hle : now ≤ later) :
    t.breachesSla later tenantId = true := by
  simp only [Trip.breachesSla, Bool.and_eq_true, Option.any_eq_true, decide_eq_true_eq] at h ⊢
  obtain ⟨hroad, planned, hplanned, hlate⟩ := h
  exact ⟨hroad, planned, hplanned, lt_of_lt_of_le hlate hle⟩

variable [Rendering]

/-- A trip after an evaluation is one from before, with its lateness and its texts. -/
theorem step_trips (tenantId : UUID) (s : SlaWatch) (now : Instant) :
    (s.step tenantId now).db.trips = s.db.trips ∨
      (s.step tenantId now).db.trips = (markedDelayed tenantId now s.db).trips := by
  rcases s.step_cases tenantId now with ⟨_, hsame, _⟩ | ⟨_, _, _, hdone⟩
  · exact .inl (by rw [hsame])
  · exact .inr (congrArg Db.trips hdone.sameDb)

theorem trip_before (h : r ∈ (s.step tenantId now).db.trips) : ∃ t ∈ s.db.trips, t.id = r.id ∧
    (∀ later, t.breachesSla later tenantId = r.breachesSla later tenantId) ∧
    slaTitle t = slaTitle r := by
  rcases step_trips tenantId s now with hsame | hmarked
  · rw [hsame] at h
    exact ⟨r, h, rfl, fun _ => rfl, rfl⟩
  · rw [hmarked, markedDelayed, Table.mem_modifyAll] at h
    obtain ⟨t, ht, rfl⟩ := h
    by_cases hlate : t.breachesSla now tenantId = true
    · rw [if_pos hlate]
      exact ⟨t, ht, rfl, fun later => (breaches_delayed hlate later).symm, rfl⟩
    · rw [if_neg hlate]
      exact ⟨t, ht, rfl, fun _ => rfl, rfl⟩

theorem trip_after (tenantId : UUID) (h : t ∈ s.db.trips) (now planned : Instant) :
    ∃ r ∈ (s.step tenantId now).db.trips,
    r.id = t.id ∧ (∀ later, r.breachesSla later tenantId = t.breachesSla later tenantId) ∧
    slaTitle r = slaTitle t ∧ (t.Awaited tenantId planned → r.Awaited tenantId planned) := by
  rcases step_trips tenantId s now with hsame | hmarked
  · rw [hsame]
    exact ⟨t, h, rfl, fun _ => rfl, rfl, id⟩
  · by_cases hlate : t.breachesSla now tenantId = true
    · refine ⟨{ t with status := .delayed }, ?_, rfl, breaches_delayed hlate, rfl, fun hwaits =>
        ⟨hwaits.tenant, delayed_monitored, hwaits.arrival, hwaits.plannedArrival⟩⟩
      rw [hmarked, markedDelayed, Table.mem_modifyAll]
      exact ⟨t, h, if_pos hlate⟩
    · refine ⟨t, ?_, rfl, fun _ => rfl, rfl, id⟩
      rw [hmarked, markedDelayed, Table.mem_modifyAll]
      exact ⟨t, h, if_neg hlate⟩

/-! ## One evaluation -/

theorem step_active (h : activeSla tenantId k s.db ≠ []) (now : Instant) :
    activeSla tenantId k (s.step tenantId now).db = activeSla tenantId k s.db := by
  rcases s.step_cases tenantId now with ⟨_, hsame, _⟩ | ⟨_, _, _, hdone⟩
  · rw [hsame]
  · by_cases hlate : ∃ t ∈ s.db.trips.rows.filter (·.breachesSla now tenantId), t.id = k
    · obtain ⟨t, ht, rfl⟩ := hlate
      exact hdone.kept t ht h
    · push Not at hlate
      exact hdone.others k hlate

/-- A trip that is not late, or has a title that is too long, gets no exception. -/
theorem step_none (h : activeSla tenantId k s.db = [])
    (hother : ∀ t ∈ s.db.trips, t.id = k → t.breachesSla now tenantId = true →
      180 < (slaTitle t).length) : activeSla tenantId k (s.step tenantId now).db = [] := by
  rcases s.step_cases tenantId now with ⟨_, hsame, _⟩ | ⟨hfree, _, _, hdone⟩
  · rw [hsame]
    exact h
  · rw [hdone.others k fun t ht hid => ?_]
    · exact h
    · obtain ⟨ht, hlate⟩ := List.mem_filter.mp ht
      exact hfree ⟨t, ht, hlate, by rw [hid]; exact h, hother t ht hid hlate⟩

theorem blocked_step (now first : Instant) :
    SlaBlocked tenantId first (s.step tenantId now).db ↔ SlaBlocked tenantId first s.db := by
  constructor
  · rintro ⟨r, hr, hlate, hempty, hlong⟩
    obtain ⟨t, ht, hid, hsame, htitle⟩ := trip_before hr
    refine ⟨t, ht, (hsame first).trans hlate, ?_, htitle ▸ hlong⟩
    by_contra hsome
    rw [hid] at hsome
    exact hsome ((step_active hsome now).symm.trans hempty)
  · rintro ⟨t, ht, hlate, hempty, hlong⟩
    obtain ⟨r, hr, hid, hsame, htitle, -⟩ := trip_after tenantId ht now first
    refine ⟨r, hr, (hsame first).trans hlate, ?_, htitle ▸ hlong⟩
    rw [hid]
    refine step_none hempty fun t' ht' hid' _ => ?_
    rw [Table.eq_of_key ht' ht hid']
    exact hlong

theorem step_pushed (now : Instant) {event : GovernanceEvent} (h : event ∈ s.pushed) :
    event ∈ (s.step tenantId now).pushed := by
  rcases s.step_cases tenantId now with ⟨_, _, _, hpushed⟩ | ⟨_, _, hpushed, _⟩
  · rw [hpushed]
    exact List.mem_append_left _ h
  · rw [hpushed]
    exact List.mem_append_left _ h

theorem step_late (htrip : AwaitedIn tenantId tripId planned s.db) (hlate : planned < now)
    (hnone : activeSla tenantId tripId s.db = []) (hfree : ¬ SlaBlocked tenantId now s.db) :
    ∃ e, activeSla tenantId tripId (s.step tenantId now).db = [e] ∧
      e.severity = slaSeverity now planned ∧
      (e.severity = .high → operationalExceptionEvent now e ∈ (s.step tenantId now).pushed) := by
  obtain ⟨t, ht, rfl, hwaits⟩ := htrip
  rcases s.step_cases tenantId now with ⟨hblocked, _⟩ | ⟨_, events, hpushed, hdone⟩
  · exact absurd hblocked hfree
  · obtain ⟨-, e, he, hseverity, hevent⟩ := hdone.made t
      (List.mem_filter.mpr ⟨ht, hwaits.breaches_iff.mpr hlate⟩) hnone
    rw [hwaits.plannedArrival] at hseverity
    refine ⟨e, he, hseverity, fun hhigh => ?_⟩
    rw [hpushed]
    exact List.mem_append_right _ (hevent hhigh)

/-! ## Any evaluations -/

theorem exec_calm (first : Instant) (htrip : AwaitedIn tenantId tripId planned s.db)
    (hnone : activeSla tenantId tripId s.db = []) (hbefore : ∀ now ∈ before, now ≤ planned) :
    let p := exec (SlaWatch.step tenantId) s before
    AwaitedIn tenantId tripId planned p.db ∧ activeSla tenantId tripId p.db = [] ∧
      (SlaBlocked tenantId first p.db ↔ SlaBlocked tenantId first s.db) := by
  induction before generalizing s with
  | nil => exact ⟨htrip, hnone, Iff.rfl⟩
  | cons now before ih =>
    obtain ⟨t, ht, rfl, hwaits⟩ := htrip
    have htrip' : AwaitedIn tenantId t.id planned (s.step tenantId now).db := by
      obtain ⟨r, hr, hid, -, -, hkept⟩ := trip_after tenantId ht now planned
      exact ⟨r, hr, hid, hkept hwaits⟩
    have hnone' : activeSla tenantId t.id (s.step tenantId now).db = [] := by
      refine step_none hnone fun t' ht' hid hlate => ?_
      rw [Table.eq_of_key ht' ht hid] at hlate
      have hcalm := hbefore now List.mem_cons_self
      exact absurd (hwaits.breaches_iff.mp hlate) (not_lt.mpr hcalm)
    obtain ⟨hroad, hempty, hblocked⟩ := ih htrip' hnone'
      fun now hnow => hbefore now (List.mem_cons_of_mem _ hnow)
    exact ⟨hroad, hempty, hblocked.trans (blocked_step now first)⟩

theorem exec_settled (after : List Instant) (h : activeSla tenantId tripId s.db = [e]) :
    activeSla tenantId tripId (exec (SlaWatch.step tenantId) s after).db = [e] ∧
      ∀ event ∈ s.pushed, event ∈ (exec (SlaWatch.step tenantId) s after).pushed := by
  induction after generalizing s with
  | nil => exact ⟨h, fun _ hevent => hevent⟩
  | cons now after ih =>
    have hsame := step_active (by rw [h]; exact List.cons_ne_nil e []) now
    obtain ⟨hkept, hpushed⟩ := ih (hsame.trans h)
    exact ⟨hkept, fun event hevent => hpushed event (step_pushed now hevent)⟩

theorem exec_blocked (h : SlaBlocked tenantId first s.db) (hafter : ∀ now ∈ after, first ≤ now) :
    (exec (SlaWatch.step tenantId) s after).db = s.db := by
  induction after generalizing s with
  | nil => rfl
  | cons now after ih =>
    have hnow : SlaBlocked tenantId now s.db := by
      obtain ⟨t, ht, hlate, hempty, hlong⟩ := h
      exact ⟨t, ht, breaches_mono hlate (hafter now List.mem_cons_self), hempty, hlong⟩
    have hsame : (s.step tenantId now).db = s.db := by
      rcases s.step_cases tenantId now with ⟨_, hsame, _⟩ | ⟨hfree, _⟩
      · exact hsame
      · exact absurd hnow hfree
    have hrest := ih ((blocked_step now first).mpr h)
      fun now hnow => hafter now (List.mem_cons_of_mem _ hnow)
    rw [exec_cons, hrest, hsame]

/-! ## Escalation -/

omit [Rendering] in
theorem delayMinutes_mono (planned : Instant) (h : first ≤ last) :
    delayMinutes first planned ≤ delayMinutes last planned := by
  have hdelay : first - planned ≤ last - planned := Int.sub_le_sub_right h planned
  exact Int.ediv_le_ediv (by decide) hdelay

omit [Rendering] in
/-- Two instants give one severity if both see four hours, or neither. -/
theorem slaSeverity_eq_iff (h : first ≤ last) :
    slaSeverity first planned = slaSeverity last planned ↔
      240 ≤ delayMinutes first planned ∨ delayMinutes last planned < 240 := by
  have hmono := delayMinutes_mono planned h
  unfold slaSeverity
  by_cases hfirst : 240 ≤ delayMinutes first planned
  · have hlast : 240 ≤ delayMinutes last planned := le_trans hfirst hmono
    simp [hfirst, hlast]
  · by_cases hlast : 240 ≤ delayMinutes last planned
    · simp [hfirst, hlast]
    · simp [hfirst, not_le.mp hlast]

/-- For an awaited trip without exception and any increasing instants, the last of which sees it
late: its exception is as the last evaluation alone would have it, and told of, exactly if the
first evaluation that sees it late is not blocked, and sees four hours or the last does not. -/
theorem sla_escalates_iff (htrip : AwaitedIn tenantId tripId planned s.db)
    (hnone : activeSla tenantId tripId s.db = []) (hsorted : instants.Pairwise (· < ·))
    (hlast : instants.getLast? = some last) (hlate : planned < last) :
    (exec (SlaWatch.step tenantId) s instants).EscalatedAt tenantId tripId planned instants last ↔
      ∃ first, instants.find? (planned < ·) = some first ∧ ¬ SlaBlocked tenantId first s.db ∧
        (240 ≤ delayMinutes first planned ∨ delayMinutes last planned < 240) := by
  have hmem : last ∈ instants := List.mem_of_getLast? hlast
  have hle : ∀ now ∈ instants, now ≤ last := by
    obtain ⟨init, rfl⟩ := List.getLast?_eq_some_iff.mp hlast
    intro now hnow
    rcases List.mem_append.mp hnow with hinit | hend
    · exact le_of_lt ((List.pairwise_append.mp hsorted).2.2 now hinit last List.mem_cons_self)
    · exact le_of_eq (List.mem_singleton.mp hend)
  obtain ⟨first, hfirst⟩ : ∃ first, instants.find? (planned < ·) = some first := by
    cases hfind : instants.find? (planned < ·) with
    | none => exact absurd hlate (by simpa using List.find?_eq_none.mp hfind last hmem)
    | some first => exact ⟨first, rfl⟩
  have hfirstle : first ≤ last := hle first (List.mem_of_find?_eq_some hfirst)
  obtain ⟨hseen, before, after, rfl, hbefore⟩ := List.find?_eq_some_iff_append.mp hfirst
  have hafter : ∀ now ∈ first :: after, first ≤ now := by
    intro now hnow
    rcases List.mem_cons.mp hnow with rfl | hnow
    · exact le_refl now
    · exact le_of_lt
        ((List.pairwise_cons.mp (List.pairwise_append.mp hsorted).2.1).1 now hnow)
  -- up to the first evaluation that sees the trip late
  obtain ⟨hroad, hempty, hblocked⟩ := exec_calm first htrip hnone
    fun now hnow => by simpa using hbefore now hnow
  rw [exec_append]
  by_cases hstuck : SlaBlocked tenantId first s.db
  · constructor
    · rintro ⟨e, he, -⟩
      rw [exec_blocked (hblocked.mpr hstuck) hafter, hempty] at he
      cases he
    · rintro ⟨first', hfirst', hfree, -⟩
      cases hfirst.symm.trans hfirst'
      exact absurd hstuck hfree
  · obtain ⟨e, he, hseverity, hevent⟩ := step_late hroad (by simpa using hseen) hempty
      (mt hblocked.mp hstuck)
    obtain ⟨hkept, hpushed⟩ := exec_settled after he
    constructor
    · rintro ⟨e', he', hsame, -⟩
      rw [exec_cons, hkept] at he'
      cases he'
      exact ⟨first, hfirst, hstuck, (slaSeverity_eq_iff hfirstle).mp (hseverity.symm.trans hsame)⟩
    · rintro ⟨first', hfirst', -, hdelay⟩
      cases hfirst.symm.trans hfirst'
      refine ⟨e, hkept, hseverity.trans ((slaSeverity_eq_iff hfirstle).mpr hdelay), ?_⟩
      rintro ⟨now, hnow, hlong⟩
      rcases hdelay with hhours | hshort
      · have hhigh : e.severity = .high := by
          rw [hseverity, slaSeverity, if_pos hhours]
        exact ⟨first, hpushed _ (hevent hhigh)⟩
      · have hmono := delayMinutes_mono planned (hle now hnow)
        omega

end Evaluations

/-! ## An hour and five hours -/

/-- A trip that should be at its destination at the instant 0. -/
def awaitedDb : ExceptionDb where
  trips := .single
    { id := 1, tenantId := 1, vehicleId := 1, driverId := 1, origin := "Maputo"
      destination := "Tete", status := .inProgress, plannedArrival := some 0 }

def awaitedTrip : SlaWatch := { db := awaitedDb }

theorem awaitedIn_awaitedTrip : AwaitedIn 1 1 0 awaitedTrip.db :=
  ⟨_, List.mem_singleton_self _, rfl, rfl, by decide, rfl, rfl⟩

/-- Seen after an hour and after five: the exception is still a medium one, where the second
evaluation alone would have made it a high one. -/
theorem not_escalated_after_hours :
    ¬ @SlaWatch.EscalatedAt .decimal 1 1 0 [3600, 18000] 18000
      (exec (@SlaWatch.step .decimal 1) awaitedTrip [3600, 18000]) := by
  rintro ⟨e, he, hseverity, -⟩
  have hmedium : (activeSla 1 1 (exec (@SlaWatch.step .decimal 1) awaitedTrip
      [3600, 18000]).db).map (·.severity) = [.medium] := by decide +kernel
  rw [he, List.map_singleton, hseverity] at hmedium
  exact absurd hmedium (by decide)

theorem sla_escalates_from_hours :
    @SlaWatch.EscalatedAt .decimal 1 1 0 [18000, 36000] 36000
      (exec (@SlaWatch.step .decimal 1) awaitedTrip [18000, 36000]) := by
  refine (@sla_escalates_iff 1 1 0 36000 awaitedTrip [18000, 36000] .decimal awaitedIn_awaitedTrip
    rfl (by decide) rfl (by decide)).mpr ⟨18000, rfl, ?_, .inl (by decide)⟩
  rintro ⟨t, ht, -, -, hlong⟩
  obtain rfl := List.mem_singleton.mp ht
  exact absurd hlong (by decide)

end Rotas
