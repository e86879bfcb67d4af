import Rotas.Lib.Run
import Rotas.Trips.Moves

/-!
# Rotas.Trips.Monitoring

A run of the trip module, and the same run with its monitoring: calls that look for late trips, and
incidents that are reported and resolved.

* `unnoticed`   — no service but those of the incidents and the closing looks at the incidents.
* `Beside`      — two databases that differ in incidents of the monitoring only.
* `Harmless`    — what is inserted marks no trip that is on the road, and none is closed while an
  inserted incident blocks it.
* `monitoring_strands_no_trip` — then every call is answered as before, and the trips are the same.
* `late_trip_stranded` — a dispatched trip that is marked late cannot be started any more.
-/

namespace Rotas

open Work Weave

/-! ## What is not looked at -/

def Db.withIncidents (db : Db) (incidents : Table TripIncident) : Db :=
  { db with tripIncidents := incidents }

def Fleet.withIncidents (f : Fleet) (incidents : Table TripIncident) : Fleet :=
  { f with tripIncidents := incidents }

/-- The service works the same whatever the incidents are, and leaves them. -/
def Unnoticed (service : Fleet → Except Exc (UUID × Fleet)) : Prop :=
  ∀ f incidents, service (f.withIncidents incidents) =
    (service f).map fun r => (r.1, r.2.withIncidents incidents)

theorem Unnoticed.onDb {service : Db → Except Exc (UUID × Db)}
    (h : ∀ db incidents, service (db.withIncidents incidents) =
      (service db).map fun r => (r.1, r.2.withIncidents incidents)) :
    Unnoticed (Fleet.onDb service) := by
  intro f incidents
  have hdb := h f.toDb incidents
  have hto : (f.withIncidents incidents).toDb = f.toDb.withIncidents incidents := rfl
  simp only [Fleet.onDb, hto, hdb]
  cases service f.toDb <;> rfl

section

variable {now : Instant} {tenantId tripId : UUID} {actorId : Option UUID}

theorem startTrip_unnoticed {payload : StartTripRequest} :
    Unnoticed (Fleet.onDb (startTrip now tenantId tripId payload)) :=
  .onDb fun _ _ => map_bind_of fun _ => map_bind_of fun _ => map_bind_of fun _ => rfl

theorem requestDispatchClearance_unnoticed :
    Unnoticed (requestDispatchClearance tenantId tripId) := by
  refine fun f incidents => map_bind_of fun trip => map_bind_of fun _ => ?_
  have hsame : (f.withIncidents incidents).dispatchClearances = f.dispatchClearances := rfl
  rw [hsame]
  cases f.dispatchClearances.rows.find? fun c => c.tenantId = tenantId && c.tripId = tripId <;> rfl

theorem completeTrip_unnoticed {payload : CompleteTripRequest} :
    Unnoticed (Fleet.onDb (completeTrip now tenantId tripId payload)) :=
  .onDb fun _ _ => map_bind_of fun _ => map_bind_of fun _ => rfl

theorem associateContract_unnoticed {contractId : UUID} :
    Unnoticed (Fleet.onDb (associateContract now tenantId tripId contractId)) :=
  .onDb fun _ _ => map_bind_of fun _ => map_bind_of fun _ => rfl

theorem createStop_unnoticed {stopType : String} :
    Unnoticed (Fleet.onDb (createStop tenantId tripId stopType)) :=
  .onDb fun _ _ => map_bind_of fun _ => rfl

theorem patchTrip_unnoticed {patch : TripPatch} :
    Unnoticed (Fleet.onDb (patchTrip tenantId tripId patch)) :=
  .onDb fun _ _ => map_bind_of fun _ => map_bind_of fun _ => rfl

theorem recordTripCost_unnoticed [Locale] {payload : TripCostCreate} :
    Unnoticed (Fleet.onDb (recordTripCost now tenantId tripId payload actorId)) := by
  refine .onDb fun db incidents => map_bind_of fun _ => map_bind_of fun _ => ?_
  have hsame : (db.withIncidents incidents).tripCosts = db.tripCosts := rfl
  rw [hsame]
  cases db.tripCosts.rows.find? fun c =>
      c.tenantId = tenantId && c.requestReference = payload.requestReference with
  | some existing => exact map_bind_of fun _ => rfl
  | none => rfl

variable [Interpreter]

theorem createTrip_unnoticed {payload : TripCreate} : Unnoticed (createTrip now tenantId payload) :=
  fun _ _ => map_bind_of fun _ => map_bind_of fun _ => map_bind_of fun _ => map_bind_of fun _ =>
    map_bind_of fun _ => map_bind_of fun _ => rfl

theorem dispatchTrip_unnoticed {payload : TripDispatchRequest} :
    Unnoticed (dispatchTrip now tenantId tripId payload) :=
  fun _ _ => map_bind_of fun _ => map_bind_of fun _ => map_bind_of fun _ => map_bind_of fun _ => rfl

variable [Locale]

theorem approveDispatchClearance_unnoticed {payload : DispatchClearanceApproveRequest} :
    Unnoticed (approveDispatchClearance now tenantId tripId payload actorId) := by
  refine fun f incidents => map_bind_of fun trip => map_bind_of fun clearance => ?_
  split
  · rfl
  · rw [apply_ite (Except.map _)]
    exact ite_congr rfl (fun _ => rfl) fun _ => map_bind_of fun _ => rfl

/-- The calls that look at the incidents. -/
def TripCall.looksAtIncidents : TripCall → Bool
  | .createIncident .. => true
  | .resolveIncident .. => true
  | .operationalCloseTrip .. => true
  | _ => false

theorem TripCall.unnoticed {c : TripCall} (hc : c.looksAtIncidents = false) : Unnoticed c.run := by
  cases c with
  | createTrip => exact createTrip_unnoticed
  | startTrip => exact startTrip_unnoticed
  | requestDispatchClearance => exact requestDispatchClearance_unnoticed
  | approveDispatchClearance => exact approveDispatchClearance_unnoticed
  | dispatchTrip => exact dispatchTrip_unnoticed
  | evaluateDeliverySla => exact fun _ _ => rfl
  | completeTrip => exact completeTrip_unnoticed
  | associateContract => exact associateContract_unnoticed
  | createStop => exact createStop_unnoticed
  | recordTripCost => exact recordTripCost_unnoticed
  | patchTrip => exact patchTrip_unnoticed
  | createIncident => cases hc
  | resolveIncident => cases hc
  | operationalCloseTrip => cases hc

end

/-! ## Two databases beside each other -/

/-- The second database is the first one with incidents of the ids added. -/
structure Beside (ids : List UUID) (f g : Fleet) : Prop where
  rest : g = f.withIncidents g.tripIncidents
  incidents : ∀ i, i ∈ f.tripIncidents ↔ i ∈ g.tripIncidents ∧ i.id ∉ ids

theorem Beside.ok {ids : List UUID} {f g : Fleet} (h : Beside ids f g) : g.ok = f.ok := by
  rw [h.rest]
  rfl

theorem Beside.trips {ids : List UUID} {f g : Fleet} (h : Beside ids f g) :
    g.trips = f.trips := by
  rw [h.rest]
  rfl

theorem Beside.get_trip {ids : List UUID} {f g : Fleet} (h : Beside ids f g) (k : UUID) :
    g.trips.get k = f.trips.get k := by
  rw [h.trips]

theorem Beside.get {ids : List UUID} {f g : Fleet} (h : Beside ids f g) {id : UUID}
    (hid : id ∉ ids) (i : TripIncident) :
    f.tripIncidents.get id = some i ↔ g.tripIncidents.get id = some i := by
  simp only [Table.get_eq_some_iff, h.incidents]
  constructor
  · rintro ⟨⟨hi, -⟩, hkey⟩
    exact ⟨hi, hkey⟩
  · rintro ⟨hi, hkey⟩
    exact ⟨⟨hi, fun hin => hid (hkey ▸ hin)⟩, hkey⟩

theorem Beside.of_extra {ids : List UUID} {f g : Fleet} {incidents : Table TripIncident}
    (h : Beside ids f g)
    (hi : ∀ i, i.id ∉ ids → (i ∈ incidents ↔ i ∈ g.tripIncidents)) :
    Beside ids f (g.withIncidents incidents) where
  rest := by
    rw [h.rest]
    rfl
  incidents i := by
    rw [h.incidents]
    constructor
    · rintro ⟨hmem, hid⟩
      exact ⟨(hi i hid).mpr hmem, hid⟩
    · rintro ⟨hmem, hid⟩
      exact ⟨(hi i hid).mp hmem, hid⟩

section

variable [Interpreter] [Locale] {ids : List UUID} {f g : Fleet} {c : TripCall} {now : Instant}
  {tenantId tripId incidentId : UUID} {actorId : Option UUID}

/-- The database after one call of the trip module. -/
def TripCall.step (f : Fleet) (c : TripCall) : Fleet := OpsCall.step f (.trips c)

def TripCall.accepted (f : Fleet) (c : TripCall) : Bool := OpsCall.accepted f (.trips c)

/-- Two databases stay beside each other through a call, and the second answers when the first
does, if the service answers in both alike and does nothing to the first that it refuses. -/
theorem Beside.step (h : Beside ids f g)
    (hok : ∀ a p, c.run f = .ok (a, p) → ∃ q, c.run g = .ok (a, q) ∧ Beside ids p q)
    (hno : (∀ r, c.run f ≠ .ok r) → ∀ b q, c.run g = .ok (b, q) → Beside ids f q) :
    Beside ids (c.step f) (c.step g) ∧ (c.accepted f = true → c.accepted g = true) := by
  have hsecond (hq : ∀ b q, c.run g = .ok (b, q) → Beside ids f q) : Beside ids f (c.step g) :=
    perform_ind h hq
  cases hf : c.run f with
  | error e =>
    have hnone : c.accepted f = false := by
      rw [Bool.eq_false_iff]
      intro haccepted
      obtain ⟨a, p, hrun, -⟩ := OpsCall.accepted_iff.mp haccepted
      cases hf.symm.trans hrun
    have hsame : c.step f = f := OpsCall.step_of_refused hnone
    rw [hsame, hnone]
    exact ⟨hsecond (hno fun r hr => by rw [hf] at hr; cases hr), fun h => by cases h⟩
  | ok r =>
    obtain ⟨a, p⟩ := r
    obtain ⟨q, hg, hpq⟩ := hok a p hf
    cases hp : p.ok with
    | true =>
      have hq : q.ok = true := hpq.ok.trans hp
      have hstep : c.step f = p := OpsCall.step_of_run (c := .trips c) hf hp
      have hstep' : c.step g = q := OpsCall.step_of_run (c := .trips c) hg hq
      rw [hstep, hstep']
      exact ⟨hpq, fun _ => OpsCall.accepted_iff.mpr ⟨a, q, hg, hq⟩⟩
    | false =>
      have hrefused {s r : Fleet} (hrun : c.run s = .ok (a, r)) (hr : r.ok = false) :
          c.accepted s = false := by
        rw [Bool.eq_false_iff]
        intro haccepted
        obtain ⟨b, r', hrun', hok'⟩ := OpsCall.accepted_iff.mp haccepted
        cases hrun.symm.trans hrun'
        rw [hr] at hok'
        cases hok'
      have hnone := hrefused hf hp
      have hsame : c.step f = f := OpsCall.step_of_refused hnone
      have hsame' : c.step g = g := OpsCall.step_of_refused (hrefused hg (hpq.ok.trans hp))
      rw [hsame, hsame', hnone]
      exact ⟨h, fun h => by cases h⟩

theorem Beside.step_unnoticed (h : Beside ids f g) (hc : c.looksAtIncidents = false) :
    Beside ids (c.step f) (c.step g) ∧ (c.accepted f = true → c.accepted g = true) := by
  have hrun := TripCall.unnoticed hc f g.tripIncidents
  rw [← h.rest] at hrun
  refine h.step (fun a p hf => ?_) fun hno b q hg => ?_
  · -- the call leaves the incidents of the first database as they are
    have hkept := TripCall.unnoticed hc f f.tripIncidents
    rw [show f.withIncidents f.tripIncidents = f from rfl, hf] at hkept
    have hp : p = p.withIncidents f.tripIncidents := by
      simpa only [Except.map, Except.ok.injEq, Prod.mk.injEq, true_and] using hkept
    have hincidents : p.tripIncidents = f.tripIncidents := congrArg (·.tripIncidents) hp
    rw [hf] at hrun
    refine ⟨_, hrun, rfl, fun i => ?_⟩
    rw [hincidents]
    exact h.incidents i
  · cases hf : c.run f with
    | error e => rw [hf, hg] at hrun; cases hrun
    | ok r => exact absurd hf (hno r)

/-! ## Calls that look at the incidents -/

/-- A trip that no added incident blocks is closed in both or in neither. -/
theorem Beside.step_close {payload : OperationalCloseTripRequest} (h : Beside ids f g)
    (hc : c = .operationalCloseTrip now tenantId tripId payload actorId)
    (hblocks : ∀ i ∈ g.tripIncidents, i.blocks tenantId tripId = true → i.id ∉ ids) :
    Beside ids (c.step f) (c.step g) ∧ (c.accepted f = true → c.accepted g = true) := by
  subst hc
  have hchecks {trip : Trip} (htrip : f.trips.get tripId = some trip) :
      closeChecks now tenantId trip g.toDb = .ok () ↔
        closeChecks now tenantId trip f.toDb = .ok () := by
    have hid : trip.id = tripId := Table.key_of_get htrip
    simp only [closeChecks_eq_ok]
    have hincidents : (∀ i ∈ g.tripIncidents, i.blocks tenantId trip.id = false) ↔
        ∀ i ∈ f.tripIncidents, i.blocks tenantId trip.id = false := by
      rw [hid]
      constructor
      · exact fun hnone i hi => hnone i ((h.incidents i).mp hi).1
      · intro hnone i hi
        by_contra hblocking
        have hid := hblocks i hi (by simpa using hblocking)
        exact hblocking (hnone i ((h.incidents i).mpr ⟨hi, hid⟩))
    rw [hincidents, h.rest]
    exact Iff.rfl
  refine h.step (fun a p hf => ?_) fun hno b q hg => ?_
  · obtain ⟨db, hclose, rfl⟩ := Fleet.onDb_eq_ok.mp hf
    obtain ⟨rfl, trip, htrip, hten, hcase⟩ := operationalCloseTrip_eq_ok.mp hclose
    have htrip' := (h.get_trip a).trans htrip
    rcases hcase with ⟨hclosed, rfl⟩ | ⟨hopen, hok, rfl⟩
    · exact ⟨g, Fleet.onDb_eq_ok.mpr ⟨g.toDb, operationalCloseTrip_eq_ok.mpr
        ⟨rfl, trip, htrip', hten, .inl ⟨hclosed, rfl⟩⟩, rfl⟩, h⟩
    · refine ⟨_, Fleet.onDb_eq_ok.mpr ⟨_, operationalCloseTrip_eq_ok.mpr
        ⟨rfl, trip, htrip', hten, .inr ⟨hopen, (hchecks htrip).mpr hok, rfl⟩⟩, rfl⟩, ?_,
        h.incidents⟩
      rw [h.rest]
      rfl
  · obtain ⟨db, hclose, rfl⟩ := Fleet.onDb_eq_ok.mp hg
    obtain ⟨rfl, trip, htrip, hten, hcase⟩ := operationalCloseTrip_eq_ok.mp hclose
    have htrip' := (h.get_trip b).symm.trans htrip
    rcases hcase with ⟨hclosed, rfl⟩ | ⟨hopen, hok, rfl⟩
    · exact h
    · exact absurd (Fleet.onDb_eq_ok.mpr ⟨_, operationalCloseTrip_eq_ok.mpr
        ⟨rfl, trip, htrip', hten, .inr ⟨hopen, (hchecks htrip').mp hok, rfl⟩⟩, rfl⟩) (hno _)

theorem Beside.step_report {payload : TripIncidentCreate} (h : Beside ids f g)
    (hc : c = .createIncident now tenantId tripId incidentId payload actorId)
    (hid : incidentId ∉ ids) :
    Beside ids (c.step f) (c.step g) ∧ (c.accepted f = true → c.accepted g = true) := by
  subst hc
  have hfree : f.tripIncidents.get incidentId = none ↔ g.tripIncidents.get incidentId = none := by
    simp only [Option.eq_none_iff_forall_ne_some, ne_eq, h.get hid]
  refine h.step (fun a p hf => ?_) fun hno b q hg => ?_
  · obtain ⟨db, hreport, rfl⟩ := Fleet.onDb_eq_ok.mp hf
    obtain ⟨rfl, trip, severity, incidents, htrip, hten, htype, hseverity, hadd, rfl⟩ :=
      createIncident_eq_ok.mp hreport
    obtain ⟨incidents', hadd'⟩ := Table.exists_add (t := g.tripIncidents)
      (r := newIncident now tenantId a payload actorId severity trip)
      (hfree.mp (Table.get_key_of_add hadd))
    refine ⟨_, Fleet.onDb_eq_ok.mpr ⟨_, createIncident_eq_ok.mpr ⟨rfl, trip, severity, incidents',
      (h.get_trip _).trans htrip, hten, htype, hseverity, hadd', rfl⟩, rfl⟩, ?_, fun i => ?_⟩
    · rw [h.trips, h.rest]
      rfl
    · simp only [Table.mem_add hadd, Table.mem_add hadd', h.incidents, or_and_right]
      refine or_congr_right ⟨fun hi => ⟨hi, ?_⟩, And.left⟩
      rw [hi]
      exact hid
  · obtain ⟨db, hreport, rfl⟩ := Fleet.onDb_eq_ok.mp hg
    obtain ⟨rfl, trip, severity, incidents, htrip, hten, htype, hseverity, hadd, rfl⟩ :=
      createIncident_eq_ok.mp hreport
    obtain ⟨incidents', hadd'⟩ := Table.exists_add (t := f.tripIncidents)
      (r := newIncident now tenantId b payload actorId severity trip)
      (hfree.mpr (Table.get_key_of_add hadd))
    exact absurd (Fleet.onDb_eq_ok.mpr ⟨_, createIncident_eq_ok.mpr ⟨rfl, trip, severity, incidents',
      (h.get_trip _).symm.trans htrip, hten, htype, hseverity, hadd', rfl⟩, rfl⟩) (hno _)

/-- The resolution of an added incident changes that incident only. -/
theorem Beside.resolve_extra {payload : TripIncidentResolveRequest} {b : UUID} {q : Fleet}
    (h : Beside ids f g) (hid : incidentId ∈ ids)
    (hg : (TripCall.resolveIncident now tenantId tripId incidentId payload actorId).run g =
      .ok (b, q)) : Beside ids f q := by
  obtain ⟨db, hresolve, rfl⟩ := Fleet.onDb_eq_ok.mp hg
  obtain ⟨-, _, _, -, -, -, -, -, ⟨-, rfl⟩ | ⟨-, rfl⟩⟩ := resolveIncident_eq_ok.mp hresolve
  · exact h
  · refine h.of_extra fun i hi => ?_
    constructor
    · intro hmem
      rcases Table.mem_modify_cases hmem with ⟨i₀, -, hkey, rfl⟩ | ⟨hmem, -⟩
      · have hin : Keyed.key i₀ ∈ ids := by rw [hkey]; exact hid
        exact absurd hin hi
      · exact hmem
    · intro hmem
      refine Table.mem_modify.mpr ⟨i, hmem, if_neg ?_⟩
      rintro rfl
      exact hi hid

theorem Beside.step_resolve {payload : TripIncidentResolveRequest} (h : Beside ids f g)
    (hc : c = .resolveIncident now tenantId tripId incidentId payload actorId) :
    Beside ids (c.step f) (c.step g) ∧ (c.accepted f = true → c.accepted g = true) := by
  subst hc
  refine h.step (fun a p hf => ?_) fun hno b q hg => ?_
  · obtain ⟨db, hresolve, rfl⟩ := Fleet.onDb_eq_ok.mp hf
    obtain ⟨rfl, trip, incident, htrip, hten, hget, hiten, hitrip, hcase⟩ :=
      resolveIncident_eq_ok.mp hresolve
    have hid : a ∉ ids :=
      Table.key_of_get hget ▸ ((h.incidents incident).mp (Table.mem_of_get hget)).2
    have hget' := (h.get hid incident).mp hget
    have htrip' := (h.get_trip tripId).trans htrip
    rcases hcase with ⟨hdone, rfl⟩ | ⟨hopen, rfl⟩
    · exact ⟨g, Fleet.onDb_eq_ok.mpr ⟨g.toDb, resolveIncident_eq_ok.mpr ⟨rfl, trip, incident, htrip',
        hten, hget', hiten, hitrip, .inl ⟨hdone, rfl⟩⟩, rfl⟩, h⟩
    · refine ⟨_, Fleet.onDb_eq_ok.mpr ⟨_, resolveIncident_eq_ok.mpr ⟨rfl, trip, incident, htrip',
        hten, hget', hiten, hitrip, .inr ⟨hopen, rfl⟩⟩, rfl⟩, ?_, fun i => ?_⟩
      · rw [h.rest]
        rfl
      · simp only [Table.mem_modify, h.incidents]
        constructor
        · rintro ⟨i₀, ⟨hi₀, hid₀⟩, rfl⟩
          refine ⟨⟨i₀, hi₀, rfl⟩, ?_⟩
          split
          · exact hid₀
          · exact hid₀
        · rintro ⟨⟨i₀, hi₀, rfl⟩, hid₀⟩
          refine ⟨i₀, ⟨hi₀, ?_⟩, rfl⟩
          split at hid₀
          · exact hid₀
          · exact hid₀
  · by_cases hid : incidentId ∈ ids
    · exact h.resolve_extra hid hg
    · obtain ⟨db, hresolve, rfl⟩ := Fleet.onDb_eq_ok.mp hg
      obtain ⟨rfl, trip, incident, htrip, hten, hget, hiten, hitrip, hcase⟩ :=
        resolveIncident_eq_ok.mp hresolve
      have hget' := (h.get hid incident).mpr hget
      have htrip' := (h.get_trip tripId).symm.trans htrip
      rcases hcase with ⟨hdone, rfl⟩ | ⟨hopen, rfl⟩
      · exact h
      · exact absurd (Fleet.onDb_eq_ok.mpr ⟨_, resolveIncident_eq_ok.mpr ⟨rfl, trip, incident, htrip',
          hten, hget', hiten, hitrip, .inr ⟨hopen, rfl⟩⟩, rfl⟩) (hno _)

/-! ## The monitoring -/

/-- What may be inserted into a run of the trip module. -/
def Monitors : Inserted TripCall → Bool
  | .base _ => true
  | .extra (.evaluateDeliverySla ..) => true
  | .extra (.createIncident ..) => true
  | .extra (.resolveIncident ..) => true
  | .extra _ => false

/-- A call of the monitoring marks no trip: it finds none on the road that is late and not marked
yet, and reports nothing grave of one on the road. The ids that it draws are no others', and no trip
is closed while an incident of the monitoring blocks it. -/
def Harmless (ids : List UUID) (p : Fleet × Fleet) : Inserted TripCall → Prop
  | .extra (.evaluateDeliverySla now tenantId) => ∀ t ∈ p.2.trips,
    t.breachesSla now tenantId = true → t.status = .delayed
  | .extra (.createIncident _ tenantId tripId incidentId payload _) => incidentId ∈ ids ∧
    ∀ t severity, p.2.trips.get tripId = some t → t.tenantId = tenantId →
      Severity.ofText payload.severity = some severity → t.stoppedBy severity = false
  | .extra (.resolveIncident _ _ _ incidentId _ _) => incidentId ∈ ids
  | .extra _ => False
  | .base (.createIncident _ _ _ incidentId _ _) => incidentId ∉ ids
  | .base (.operationalCloseTrip _ tenantId tripId _ _) => ∀ i ∈ p.2.tripIncidents,
    i.blocks tenantId tripId = true → i.id ∉ ids
  | .base _ => True

/-- A call of the monitoring leaves the second database beside the first. -/
theorem Beside.extra (h : Beside ids f g) (hc : Harmless ids (f, g) (.extra c)) :
    Beside ids f (c.step g) := by
  refine perform_ind h fun b q hg => ?_
  cases c with
  | evaluateDeliverySla now tenantId =>
    have hsame : g.trips.modifyAll (·.breachesSla now tenantId) ({ · with status := .delayed }) =
        g.trips := by
      refine Table.modifyAll_eq_self fun t ht hlate => ?_
      have hdelayed := hc t ht hlate
      rw [← hdelayed]
    cases hg
    rw [hsame]
    exact h
  | createIncident now tenantId tripId incidentId payload actorId =>
    obtain ⟨hid, hcalm⟩ := hc
    obtain ⟨db, hreport, rfl⟩ := Fleet.onDb_eq_ok.mp hg
    obtain ⟨-, trip, severity, incidents, htrip, hten, -, hseverity, hadd, rfl⟩ :=
      createIncident_eq_ok.mp hreport
    have hsame : g.trips.modify tripId (reportedTrip severity) = g.trips := by
      refine Table.modifyAll_eq_self fun t ht hkey => ?_
      have hget : g.trips.get tripId = some t := by
        rw [← beq_iff_eq.mp hkey]
        exact Table.get_of_mem ht
      rw [htrip] at hget
      cases hget
      simp [reportedTrip, hcalm _ _ htrip hten hseverity]
    rw [hsame]
    refine h.of_extra fun i hi => ?_
    rw [Table.mem_add hadd]
    refine ⟨fun hmem => hmem.resolve_right ?_, .inl⟩
    rintro rfl
    exact hi hid
  | resolveIncident => exact h.resolve_extra hc hg
  | _ => exact absurd hc id

/-- A call of the run keeps the two databases beside each other, and is answered in the second when
it is in the first. -/
theorem Beside.base (h : Beside ids f g) (hc : Harmless ids (f, g) (.base c)) :
    Beside ids (c.step f) (c.step g) ∧ (c.accepted f = true → c.accepted g = true) := by
  cases c with
  | createIncident => exact h.step_report rfl hc
  | resolveIncident => exact h.step_resolve rfl
  | operationalCloseTrip => exact h.step_close rfl hc
  | _ => exact h.step_unnoticed rfl

/-- A call of the run that is accepted without the monitoring is accepted with it. -/
def AnsweredToo (p : Fleet × Fleet) : Inserted TripCall → Prop
  | .base c => c.accepted p.1 = true → c.accepted p.2 = true
  | .extra _ => True

/-- In a run with monitoring that does no harm every call is accepted that is accepted without it,
and at the end the trips are the same. -/
theorem monitoring_strands_no_trip {ms : List (Inserted TripCall)}
    (hids : ∀ i ∈ f.tripIncidents, i.id ∉ ids)
    (hms : Run.Along (both TripCall.step) (Harmless ids) (f, f) ms) :
    Run.Along (both TripCall.step) AnsweredToo (f, f) ms ∧
      (Run.exec TripCall.step f (Weave.base ms)).trips =
        (Run.exec TripCall.step f (woven ms)).trips := by
  have hstart : Beside ids f f := ⟨rfl, fun i => ⟨fun hi => ⟨hi, hids i hi⟩, And.left⟩⟩
  have hstep : ∀ p m, Beside ids p.1 p.2 → Harmless ids p m →
      Beside ids (both TripCall.step p m).1 (both TripCall.step p m).2 := by
    intro p m h hm
    cases m with
    | base c => exact (h.base hm).1
    | extra c => exact h.extra hm
  refine ⟨Run.along_inv (I := fun p : Fleet × Fleet => Beside ids p.1 p.2) hstep ?_ hstart hms,
    (woven_related hstep hstart hms).trips.symm⟩
  intro p m h hm
  cases m with
  | base c => exact (h.base hm).2
  | extra c => trivial

end

/-! ## A late trip -/

/-- A trip that should have arrived at 350 is dispatched at 300. -/
def lateCalls : List (Inserted TripCall) :=
  [.base (.createTrip 100 1
      { vehicleId := 1, driverId := 1, origin := "Maputo", destination := "Beira"
        plannedArrival := some 350 }),
    .base (.requestDispatchClearance 1 1),
    .base (.approveDispatchClearance 200 1 1 {} none),
    .base (.dispatchTrip 300 1 1 {})]

def lateFleet : Fleet :=
  { drivers := .single { id := 1, tenantId := 1 }
    vehicles := .single { id := 1, tenantId := 1, plate := "AAA-001-MC" } }

/-- Looked at before it is late, and reported for something small, it is started all the same. -/
def earlyCalls : List (Inserted TripCall) :=
  lateCalls ++ [.extra (.evaluateDeliverySla 340 1),
    .extra (.createIncident 345 1 1 7
      { incidentType := "border_delay", severity := "low", description := "" } none),
    .base (.startTrip 500 1 1 { kmStart := 10 })]

theorem monitoring_strands_no_trip_early :
    (Run.exec (@TripCall.step .undated .ascii) lateFleet (Weave.base earlyCalls)).trips =
      (Run.exec (@TripCall.step .undated .ascii) lateFleet (woven earlyCalls)).trips := by
  have hearly : ∀ t ∈ (Run.exec (@TripCall.step .undated .ascii) lateFleet
      (woven lateCalls)).trips, t.breachesSla 340 1 = true → t.status = .delayed := by
    decide +kernel
  refine (@monitoring_strands_no_trip .undated .ascii [7] lateFleet earlyCalls (by decide)
    ⟨trivial, trivial, trivial, trivial, hearly, ⟨by decide, ?_⟩, trivial, trivial⟩).2
  rintro t severity - - hseverity
  cases hseverity
  exact Bool.false_and _

/-- Marked late, it cannot be started any more. -/
theorem late_trip_stranded :
    @TripCall.accepted .undated .ascii (Run.exec (@TripCall.step .undated .ascii) lateFleet
        (Weave.base lateCalls)) (.startTrip 500 1 1 { kmStart := 10 }) = true ∧
      ¬ ∀ (f : Fleet) (ms : List (Inserted TripCall)), ms.all Monitors = true →
        Run.Along (both (@TripCall.step .undated .ascii)) (@AnsweredToo .undated .ascii) (f, f)
          ms := by
  refine ⟨by decide +kernel, fun hall => ?_⟩
  obtain ⟨-, -, -, -, -, hstart, -⟩ := hall lateFleet (lateCalls ++
    [.extra (.evaluateDeliverySla 400 1), .base (.startTrip 500 1 1 { kmStart := 10 })])
    (by decide)
  have hrefused : @TripCall.accepted .undated .ascii (Run.exec (@TripCall.step .undated .ascii)
      lateFleet (woven (lateCalls ++ [.extra (.evaluateDeliverySla 400 1)])))
      (.startTrip 500 1 1 { kmStart := 10 }) = false := by decide +kernel
  cases (hstart (by decide +kernel)).symm.trans hrefused

end Rotas
