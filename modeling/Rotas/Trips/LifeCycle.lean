import Rotas.Lib.Run
import Rotas.Trips.Moves

/-!
# Rotas.Trips.LifeCycle

How far a trip has come, along runs of all the calls. Each service of the trip module tests the
status it starts from; the delivery proof tests nothing.

* `Journey`, `Leg` — the life cycle of a trip, apart from everything else on its row.
* `TripMove.journey` — every move of a trip is a leg of the life cycle, a new delivery proof, or
  nothing.
* `closed_stays_closed` — where every proof is filed for a trip that has left and is not closed,
  closed trips stay as they are, no trip falls back, and none is delivered before it departs.
* `proof_reopens_trip` — a proof of a closed trip takes it back to delivered.
-/

namespace Rotas

/-! ## The life cycle -/

/-- What a trip has done. -/
structure Journey where
  status : TripStatus
  departure : Option Instant
  arrival : Option Instant
  kmEnd : Option Int
  closedAt : Option Instant

def Trip.journey (t : Trip) : Journey where
  status := t.status
  departure := t.actualDeparture
  arrival := t.actualArrival
  kmEnd := t.kmEnd
  closedAt := t.closedAt

/-- A leg of the life cycle. -/
inductive Leg (p : Journey) : Journey → Prop where
  | request : p.status ∈ [TripStatus.draft, .planned] → Leg p { p with status := .dispatchPending }
  | dispatch (at_ : Instant) : p.status ∈ [TripStatus.planned, .dispatchPending] →
      Leg p { p with status := .dispatched, departure := some at_ }
  | start (at_ : Instant) : p.status ∈ [TripStatus.draft, .planned, .dispatched] →
      Leg p { p with status := .inProgress, departure := some at_ }
  | late : p.status ∈ [TripStatus.dispatched, .inProgress, .delayed] →
      Leg p { p with status := .delayed }
  | halt : p.status ∈ [TripStatus.dispatched, .inProgress, .delayed] →
      Leg p { p with status := .incident }
  | complete (at_ : Instant) (km : Int) : p.status = .inProgress →
      Leg p { p with status := .arrived, arrival := some at_, kmEnd := some km }
  | close (at_ : Instant) : p.status ∈ [TripStatus.arrived, .delivered, .incident] →
      Leg p { p with status := .closed, closedAt := some at_ }

/-- What a delivery proof makes of a trip, from any status. -/
def Journey.delivered (p : Journey) (deliveredAt : Instant) : Journey :=
  { p with status := .delivered, arrival := some deliveredAt }

/-- The later phases, in their order; what comes before them counts as one. -/
def TripStatus.phase : TripStatus → Nat
  | .arrived => 1
  | .delivered => 2
  | .closed => 3
  | _ => 0

theorem Leg.not_closed {p p' : Journey} (h : Leg p p') : p.status ≠ .closed := by
  intro hclosed
  cases h <;> simp_all

theorem Leg.phase_le {p p' : Journey} (h : Leg p p') : p.status.phase ≤ p'.status.phase := by
  cases h with
  | request hs => cases hst : p.status <;> simp_all [TripStatus.phase]
  | dispatch _ hs => cases hst : p.status <;> simp_all [TripStatus.phase]
  | start _ hs => cases hst : p.status <;> simp_all [TripStatus.phase]
  | late hs => cases hst : p.status <;> simp_all [TripStatus.phase]
  | halt hs => cases hst : p.status <;> simp_all [TripStatus.phase]
  | complete _ _ hs => simp [hs, TripStatus.phase]
  | close _ hs => cases hst : p.status <;> simp_all [TripStatus.phase]

theorem Leg.not_delivered {p p' : Journey} (h : Leg p p') : p'.status ≠ .delivered := by
  cases h <;> simp

/-! ## The rows follow it -/

section

variable {f : Fleet} {k : UUID} {t t' : Trip} {c : OpsCall}

theorem closeChecks_status [Locale] {now : Instant} {tenantId : UUID} {db : Db}
    (h : closeChecks now tenantId t db = .ok ()) :
    t.status ∈ [TripStatus.arrived, .delivered, .incident] := (closeChecks_eq_ok.mp h).1

theorem Trip.breachesSla_status {now : Instant} {tenantId : UUID}
    (h : t.breachesSla now tenantId = true) : t.status ∈ slaMonitoredStatuses := by
  simp only [Trip.breachesSla, Bool.and_eq_true] at h
  exact of_decide_eq_true h.1.1.2

theorem reportedTrip_journey (severity : Severity) :
    (reportedTrip severity t).journey = t.journey ∨
      Leg t.journey (reportedTrip severity t).journey := by
  cases hstop : t.stoppedBy severity with
  | true =>
    have hs : t.status ∈ [TripStatus.dispatched, .inProgress, .delayed] := by
      simp only [Trip.stoppedBy, Bool.and_eq_true] at hstop
      exact of_decide_eq_true hstop.2
    have hhalt := Leg.halt (p := t.journey) hs
    exact .inr (by simpa only [Trip.journey, reportedTrip, hstop, if_true] using hhalt)
  | false => exact .inl (by simp [Trip.journey, reportedTrip, hstop])

theorem TripMove.journey [Locale] (h : TripMove f k t c t') :
    t'.journey = t.journey ∨ Leg t.journey t'.journey ∨
      ∃ tenantId payload, c = .proofs (.createDeliveryProof tenantId k payload) ∧
        t.tenantId = tenantId ∧ t'.journey = t.journey.delivered payload.deliveredAt := by
  cases h with
  | start _ hs => exact .inr (.inl (.start _ hs))
  | request _ hs => exact .inr (.inl (.request hs))
  | dispatch _ hs => exact .inr (.inl (.dispatch _ hs))
  | late hlate => exact .inr (.inl (.late (Trip.breachesSla_status hlate)))
  | @report _ _ _ _ _ severity =>
    rcases reportedTrip_journey severity with hsame | hleg
    · exact .inl hsame
    · exact .inr (.inl hleg)
  | complete _ hs => exact .inr (.inl (.complete _ _ hs))
  | close _ _ hchecks => exact .inr (.inl (.close _ (closeChecks_status hchecks)))
  | deliver hten => exact .inr (.inr ⟨_, _, rfl, hten, rfl⟩)
  | same => exact .inl rfl
  | associate => exact .inl rfl
  | cost => exact .inl rfl
  | patch => exact .inl rfl
  | accept => exact .inl rfl
  | validate => exact .inl rfl
  | dispute => exact .inl rfl
  | settle => exact .inl rfl
  | reopen => exact .inl rfl

end

/-! ## Closed trips -/

/-- A proof is filed for a trip that is not closed, and has departed or is delivered already. -/
def OpsCall.deliversOnTheRoad (f : Fleet) : OpsCall → Bool
  | .proofs (.createDeliveryProof tenantId tripId _) =>
    (f.trips.get tripId).all fun t =>
      t.tenantId ≠ tenantId || (t.status ≠ .closed &&
        (t.actualDeparture.isSome || t.status = .delivered))
  | _ => true

/-- What has to happen to a trip that changes from one point of its journey to another. -/
structure Journey.Forward (p p' : Journey) : Prop where
  closed : p.status = .closed → p' = p
  forward : p.status.phase ≤ p'.status.phase
  departed : p'.status = .delivered → p.status ≠ .delivered → p'.departure.isSome

theorem Journey.Forward.refl (p : Journey) : p.Forward p :=
  ⟨fun _ => rfl, Nat.le_refl _, fun h h' => absurd h h'⟩

theorem Leg.forward {p p' : Journey} (h : Leg p p') : p.Forward p' :=
  ⟨fun hclosed => absurd hclosed h.not_closed, h.phase_le, fun hd => absurd hd h.not_delivered⟩

theorem Journey.forward_delivered {p : Journey} {deliveredAt : Instant}
    (hopen : p.status ≠ .closed) (hgone : p.departure.isSome ∨ p.status = .delivered) :
    p.Forward (p.delivered deliveredAt) where
  closed h := absurd h hopen
  forward := by cases hs : p.status <;> simp_all [TripStatus.phase, Journey.delivered]
  departed _ h := hgone.resolve_right h

/-- A call takes every trip forward, and adds none that is past its planning. -/
structure ForwardStep (f p : Fleet) : Prop where
  moves : ∀ k t, f.trips.get k = some t →
    ∃ t', p.trips.get k = some t' ∧ t.journey.Forward t'.journey
  fresh : ∀ k t', f.trips.get k = none → p.trips.get k = some t' →
    t'.status = .draft ∨ t'.status = .planned

theorem NewTrip.status [Interpreter] {f : Fleet} {c : OpsCall} {t : Trip} (h : NewTrip f c t) :
    t.status = .draft ∨ t.status = .planned := by
  cases h with
  | create => exact .inl rfl
  | plan => exact .inr rfl

section

variable [Interpreter] [Locale]

theorem OpsCall.step_forward {f : Fleet} {c : OpsCall} (hc : c.deliversOnTheRoad f = true) :
    ForwardStep f (c.step f) where
  moves k t ht := by
    obtain ⟨t', ht', hmove⟩ := (c.step_trips f).moves k t ht
    refine ⟨t', ht', ?_⟩
    rcases hmove.journey with hsame | hleg | ⟨tenantId, payload, rfl, hten, hdelivered⟩
    · rw [hsame]; exact .refl _
    · exact hleg.forward
    · simp only [OpsCall.deliversOnTheRoad, ht, Option.all_some, hten, ne_eq, not_true_eq_false,
        decide_false, Bool.false_or, Bool.and_eq_true, Bool.or_eq_true, decide_eq_true_eq] at hc
      rw [hdelivered]
      exact Journey.forward_delivered hc.1 hc.2
  fresh k t' ht ht' := ((c.step_trips f).fresh k t' ht ht').status

/-- In a run whose delivery proofs are filed for trips on the road, every call takes every trip
forward; so a closed trip keeps its status, its closing, its last kilometre and its arrival, and no
trip falls back to an earlier phase. -/
theorem closed_stays_closed {f : Fleet} {calls : List OpsCall}
    (hcalls : Run.Along OpsCall.step (fun f c => c.deliversOnTheRoad f = true) f calls) :
    Run.Along OpsCall.step (fun f c => ForwardStep f (c.step f)) f calls ∧
      ∀ k t, f.trips.get k = some t →
        ∃ t', (Run.exec OpsCall.step f calls).trips.get k = some t' ∧
          (t.status = .closed → t'.journey = t.journey) ∧ t.status.phase ≤ t'.status.phase := by
  refine ⟨Run.along_inv (I := fun _ => True) (fun _ _ _ _ => trivial)
    (fun _ _ _ hc => OpsCall.step_forward hc) trivial hcalls, ?_⟩
  have hmoves : Lifecycle.Moves (fun (f : Fleet) k => f.trips.get k) OpsCall.step
      (fun f c => c.deliversOnTheRoad f = true) fun t t' =>
        (t.status = .closed → t'.journey = t.journey) ∧ t.status.phase ≤ t'.status.phase := by
    intro f c hc k t ht
    obtain ⟨t', ht', hforward⟩ := (OpsCall.step_forward hc).moves k t ht
    exact ⟨t', ht', .inr ⟨hforward.closed, hforward.forward⟩⟩
  intro k t ht
  refine Lifecycle.exec_related (fun _ => ⟨fun _ => rfl, Nat.le_refl _⟩) ?_ hmoves ht hcalls
  rintro t t' t'' ⟨h₁, hle₁⟩ ⟨h₂, hle₂⟩
  refine ⟨fun hclosed => ?_, hle₁.trans hle₂⟩
  have hsame := h₁ hclosed
  have hclosed' : t'.status = .closed := (congrArg Journey.status hsame).trans hclosed
  rw [h₂ hclosed', hsame]

end

/-! ## A proof of a closed trip -/

/-- A trip that was closed with a validated proof. -/
def closedTripFleet : Fleet where
  trips := .single
    { id := 1, tenantId := 1, vehicleId := 1, driverId := 1, origin := "Maputo"
      destination := "Beira", status := .closed, actualDeparture := some 100
      actualArrival := some 200, closedAt := some 300, kmStart := some 10, kmEnd := some 90 }

/-- It outlives the monitoring, a second closing and the proof of another tenant. -/
theorem closed_stays_closed_once :
    ∃ t', (Run.exec (@OpsCall.step .undated .ascii) closedTripFleet
        [.trips (.evaluateDeliverySla 400 1), .trips (.operationalCloseTrip 500 1 1 {} none),
          .proofs (.createDeliveryProof 2 1 { deliveredAt := 600 })]).trips.get 1 = some t' ∧
      (TripStatus.closed = .closed →
        t'.journey = ⟨.closed, some 100, some 200, some 90, some 300⟩) ∧
      TripStatus.closed.phase ≤ t'.status.phase :=
  (@closed_stays_closed .undated .ascii closedTripFleet _ (by decide +kernel)).2 1 _ rfl

/-- A late proof makes a closed trip a delivered one, with another arrival; and a draft that never
left is delivered. -/
theorem proof_reopens_trip :
    ((Run.exec (@OpsCall.step .undated .ascii) closedTripFleet
        [.proofs (.createDeliveryProof 1 1 { deliveredAt := 400 })]).trips.get 1).map
          (fun t => (t.status, t.actualArrival)) = some (.delivered, some 400) ∧
      ¬ ∀ (f : Fleet) (calls : List OpsCall),
        Run.Along (@OpsCall.step .undated .ascii)
          (fun f c => ForwardStep f (@OpsCall.step .undated .ascii f c)) f calls := by
  have hrun : ((Run.exec (@OpsCall.step .undated .ascii) closedTripFleet
      [.proofs (.createDeliveryProof 1 1 { deliveredAt := 400 })]).trips.get 1).map
        (fun t => (t.status, t.actualArrival)) = some (.delivered, some 400) := by decide +kernel
  refine ⟨hrun, fun hall => ?_⟩
  have hstep := (hall closedTripFleet
    [.proofs (.createDeliveryProof 1 1 { deliveredAt := 400 })]).1
  obtain ⟨t', ht', hforward⟩ := hstep.moves 1 _ rfl
  have hsame := congrArg Journey.status (hforward.closed rfl)
  simp only [Run.exec_cons, Run.exec_nil, ht', Option.map_some, Option.some.injEq,
    Prod.mk.injEq] at hrun
  rw [show t'.journey.status = t'.status from rfl, hrun.1] at hsame
  cases hsame

end Rotas
