import Rotas.ControlTower.Queues

/-!
# Rotas.ControlTower.Readiness

What the board says of a trip that can be closed, and what closing it says, commit included.

* `CloseFits`          — the amounts that a close writes on the trip fit their columns.
* `closing_served`     — how `operational_close_trip` answers for a trip of the queue.
* `readiness_eq`       — the verdict of the board, from the incidents and the latest proof.
* `readinessRight_iff` — when the two agree.
-/

namespace Rotas.ControlTower

open Work

/-! ## The queue -/

section

variable {tenantId : UUID} {p : Paged} {t : Tower} {trip : Trip} {c : CloseCandidate}

/-- The proof of the trip that was delivered last. -/
def latestProof (tenantId tripId : UUID) (t : Tower) : Option DeliveryProof :=
  (orderDesc [fun d => d.deliveredAt, fun d => t.proofStamps.createdAt d.id]
    (t.deliveryProofs.rows.filter fun d => d.tenantId = tenantId && d.tripId = tripId)).head?

theorem mem_closeRows (h : trip ∈ closeRows tenantId p t) :
    trip ∈ t.trips ∧ trip.tenantId = tenantId ∧
      trip.status ∈ [TripStatus.arrived, .delivered, .incident] := by
  have hrow := mem_orderDesc.mp (Paged.mem_of_mem h)
  rw [List.mem_filter, Bool.and_eq_true, decide_eq_true_eq, decide_eq_true_eq] at hrow
  exact ⟨hrow.1, hrow.2.1, hrow.2.2⟩

theorem proofsByTrip_eq {tripIds : List UUID} (h : trip.id ∈ tripIds) :
    proofsByTrip (proofRows tenantId t tripIds) trip.id = latestProof tenantId trip.id t := by
  rw [proofsByTrip, latestProof, ← List.head?_filter, proofRows, filter_orderDesc,
    List.filter_filter]
  congr 2
  refine List.filter_congr fun d _ => ?_
  by_cases htrip : d.tripId = trip.id
  · simp [htrip, h]
  · simp [htrip]

/-- An incident that keeps the trip from being closed. -/
def blockingIncident (tenantId tripId : UUID) (t : Tower) : Option TripIncident :=
  t.tripIncidents.rows.find? (·.blocks tenantId tripId)

theorem any_incidentRows {tripIds : List UUID} (h : trip.id ∈ tripIds) :
    ((incidentRows tenantId t tripIds).any fun i => i.tripId = trip.id) =
      (blockingIncident tenantId trip.id t).isSome := by
  rw [Bool.eq_iff_iff, List.any_eq_true, blockingIncident, List.find?_isSome]
  simp only [incidentRows, List.mem_filter, TripIncident.blocks, Bool.and_eq_true,
    decide_eq_true_eq]
  constructor
  · rintro ⟨i, ⟨hi, ⟨⟨htenant, _⟩, hopen⟩, hsevere⟩, htrip⟩
    exact ⟨i, hi, ⟨⟨htenant, htrip⟩, hopen⟩, hsevere⟩
  · rintro ⟨i, hi, ⟨⟨htenant, htrip⟩, hopen⟩, hsevere⟩
    exact ⟨i, ⟨hi, ⟨⟨htenant, htrip ▸ h⟩, hopen⟩, hsevere⟩, htrip⟩

theorem readiness_eq (h : c ∈ operationalCloseQueue tenantId p t) :
    c.trip ∈ closeRows tenantId p t ∧ c.readiness =
      if (blockingIncident tenantId c.trip.id t).isSome then .blockedIncident
      else if (latestProof tenantId c.trip.id t).any (·.status = .validated) then .ready
      else .needsValidatedPodOrWaiver := by
  obtain ⟨trip, htrip, rfl⟩ := List.mem_map.mp h
  have hid : trip.id ∈ (closeRows tenantId p t).map Trip.id := List.mem_map_of_mem htrip
  refine ⟨htrip, ?_⟩
  simp only [closeCandidate, any_incidentRows hid, proofsByTrip_eq hid]

end

/-! ## Closing -/

section

variable [Locale] {now : Instant} {tenantId : UUID} {p : Paged} {t : Tower} {trip : Trip}
  {payload : OperationalCloseTripRequest} {actorId : Option UUID}

/-- The trip has a validated proof, or a waiver instead of one. -/
def proofOrWaiver (now : Instant) (tenantId tripId : UUID) (db : Db) : Bool :=
  (db.deliveryProofs.rows.any fun d =>
    d.tenantId = tenantId && d.tripId = tripId && d.status = .validated) ||
      hasActiveWaiver now tenantId "trip" tripId "no_pod" db

theorem key_closeTrip (now : Instant) (tenantId : UUID) (payload : OperationalCloseTripRequest)
    (actorId : Option UUID) (db : Db) (trip : Trip) :
    Keyed.key (closeTrip now tenantId payload actorId db trip) = Keyed.key trip := rfl

def closedDb (now : Instant) (tenantId : UUID) (payload : OperationalCloseTripRequest)
    (actorId : Option UUID) (trip : Trip) (db : Db) : Db :=
  { db with
    trips := db.trips.modify trip.id (closeTrip now tenantId payload actorId db)
      (key_closeTrip now tenantId payload actorId db)
    tripOrders := closeOrder tenantId trip db.tripOrders }

/-- What the checks say of a trip in a status that can be closed. -/
theorem closeChecks_listed (h : trip.status ∈ [TripStatus.arrived, .delivered, .incident]) :
    closeChecks now tenantId trip t.toDb =
      match blockingIncident tenantId trip.id t with
      | some incident => .error (conflict "open_blocking_incident"
          "Trip cannot be closed while high or critical incidents are open."
          [("incident_id", .uuid incident.id)])
      | none =>
        if proofOrWaiver now tenantId trip.id t.toDb then
          if missingRequiredTripStops tenantId trip t.toDb = [] then .ok ()
          else .error (conflict "required_trip_stops_missing"
            "Trip cannot be closed while mandatory stops are missing."
            [("missing_stops", .texts (missingRequiredTripStops tenantId trip t.toDb))])
        else .error (conflict "validated_pod_required"
          "Trip cannot be closed without validated POD or active no_pod waiver.") := by
  rw [closeChecks, blockingIncident]
  simp only [bind, Except.bind, raiseIf, h, not_true_eq_false, decide_false]
  cases t.tripIncidents.rows.find? (·.blocks tenantId trip.id) with
  | some incident => rfl
  | none =>
    cases hproof : proofOrWaiver now tenantId trip.id t.toDb with
    | false =>
      rw [proofOrWaiver, Bool.or_eq_false_iff] at hproof
      rw [hproof.1, hproof.2]
      rfl
    | true =>
      have hpassed : ((!t.deliveryProofs.rows.any fun d => d.tenantId = tenantId &&
          d.tripId = trip.id && d.status = .validated) &&
          !hasActiveWaiver now tenantId "trip" trip.id "no_pod" t.toDb) = false := by
        rw [← Bool.not_or, ← proofOrWaiver, hproof]
        rfl
      rw [hpassed]
      cases missingRequiredTripStops tenantId trip t.toDb <;> rfl

theorem closing_listed (h : trip ∈ closeRows tenantId p t) :
    operationalCloseTrip now tenantId trip.id payload actorId t.toDb =
      (closeChecks now tenantId trip t.toDb).map fun _ =>
        (trip.id, closedDb now tenantId payload actorId trip t.toDb) := by
  obtain ⟨hmem, htenant, hstatus⟩ := mem_closeRows h
  have hrequire : requireTrip tenantId trip.id t.toDb = .ok trip :=
    requireTrip_eq_ok.mpr ⟨Table.get_of_mem hmem, htenant⟩
  have hopen : trip.status ≠ .closed := by
    intro hclosed
    rw [hclosed] at hstatus
    simp at hstatus
  rw [operationalCloseTrip, hrequire]
  simp only [bind, Except.bind, if_neg hopen]
  cases closeChecks now tenantId trip t.toDb <;> rfl

/-- Expenses, costs and revenue of the trip fit their columns, which refuse what is negative. -/
def CloseFits (tenantId : UUID) (trip : Trip) (db : Db) : Prop :=
  let expenses := db.tripCosts.sumWhere
    (fun c => c.tenantId = tenantId && c.tripId = trip.id) TripCost.amount
  fitsMoney expenses = true ∧ fitsMoney (trip.totalFuelCost + expenses) = true ∧
    fitsMoney (autoCalculateRevenue tenantId trip db) = true

instance (tenantId : UUID) (trip : Trip) (db : Db) : Decidable (CloseFits tenantId trip db) :=
  inferInstanceAs (Decidable (_ ∧ _ ∧ _))

theorem closeTrip_ok {db : Db} (h : trip.ok = true) :
    (closeTrip now tenantId payload actorId db trip).ok = true ↔ CloseFits tenantId trip db := by
  simp only [Trip.ok, Bool.and_eq_true] at h
  obtain ⟨⟨⟨⟨⟨⟨⟨⟨⟨hstart, hend⟩, hdriven⟩, hweight⟩, hvolume⟩, hfuel⟩, -⟩, -⟩, -⟩, -⟩ := h
  simp only [Trip.ok, closeTrip, reconcileTripCosts, CloseFits, Bool.and_eq_true, hstart, hend,
    hdriven, hweight, hvolume, hfuel, true_and]
  constructor
  · rintro ⟨⟨⟨hexpenses, hcosts⟩, hrevenue⟩, -⟩
    exact ⟨hexpenses, hcosts, hrevenue⟩
  · rintro ⟨hexpenses, hcosts, hrevenue⟩
    refine ⟨⟨⟨hexpenses, hcosts⟩, hrevenue⟩, ?_⟩
    -- between two amounts that fit lies a margin that fits
    simp only [fitsMoney, fitsAmount, Bool.and_eq_true, decide_eq_true_eq] at hcosts hrevenue ⊢
    omega

theorem closedDb_ok {db : Db} (hok : db.ok = true) (htrip : trip ∈ db.trips) :
    (closedDb now tenantId payload actorId trip db).ok = true ↔ CloseFits tenantId trip db := by
  have hvalid := Db.ok_iff.mp hok
  rw [← closeTrip_ok (hvalid.trips trip htrip), Db.ok_iff]
  constructor
  · intro h
    have hmem : closeTrip now tenantId payload actorId db trip ∈
        (closedDb now tenantId payload actorId trip db).trips :=
      Table.mem_of_get (@Table.get_modify_self _ _ _ _
        (key_closeTrip now tenantId payload actorId db) _ _ (Table.get_of_mem htrip))
    exact h.trips _ hmem
  · intro hclosed
    refine { hvalid with trips := fun t ht => ?_ }
    have hkeys := key_closeTrip now tenantId payload actorId db
    rcases @Table.mem_modify_cases _ _ _ _ hkeys _ _ ht with ⟨t₀, ht₀, hkey, rfl⟩ | ⟨ht, -⟩
    · rw [Table.eq_of_key ht₀ htrip hkey]
      exact hclosed
    · exact hvalid.trips t ht

theorem closing_served (h : trip ∈ closeRows tenantId p t) (hok : t.toDb.ok = true) :
    (serve (atomic (ofExcept (operationalCloseTrip now tenantId trip.id payload actorId)))
        t.toDb).1 =
      (closeChecks now tenantId trip t.toDb).bind fun _ =>
        if CloseFits tenantId trip t.toDb then .ok trip.id else .error .integrityError := by
  have hclosing : operationalCloseTrip now tenantId trip.id payload actorId t.toDb = _ :=
    closing_listed h
  cases hchecks : closeChecks now tenantId trip t.toDb with
  | error e =>
    rw [hchecks] at hclosing
    have hwork : Work.ofExcept (operationalCloseTrip now tenantId trip.id payload actorId) t.toDb =
        (.error e, t.toDb) := by
      simp only [Work.ofExcept, hclosing, Except.map]
    rw [serve_atomic_of_error hwork]
    rfl
  | ok _ =>
    rw [hchecks] at hclosing
    have hwork := ofExcept_ok.mpr hclosing
    have hstored := @closedDb_ok _ now tenantId trip payload actorId _ hok (mem_closeRows h).1
    by_cases hfits : CloseFits tenantId trip t.toDb
    · rw [serve_atomic_of_ok hwork (hstored.mpr hfits)]
      exact (if_pos hfits).symm
    · have hrefused := Bool.eq_false_iff.mpr fun hstore => hfits (hstored.mp hstore)
      rw [serve_atomic_of_refused hwork hrefused]
      exact (if_neg hfits).symm

/-! ## Agreement -/

/-- A service was refused with an error of this code. -/
def RefusedWith {α : Type} (code : String) (result : Except Exc α) : Prop :=
  ∃ e, result = .error (.api e) ∧ e.code = code

/-- What closing the trip in a session of its own answers. -/
def closing (now : Instant) (tenantId tripId : UUID) (payload : OperationalCloseTripRequest)
    (actorId : Option UUID) (db : Db) : Except Exc UUID :=
  (serve (atomic (ofExcept (operationalCloseTrip now tenantId tripId payload actorId))) db).1

/-- The board says of a trip what closing it would say. -/
structure ReadinessRight (now : Instant) (tenantId : UUID) (payload : OperationalCloseTripRequest)
    (actorId : Option UUID) (t : Tower) (c : CloseCandidate) : Prop where
  ready : c.readiness = .ready ↔ ∃ r, closing now tenantId c.trip.id payload actorId t.toDb = .ok r
  blocked : c.readiness = .blockedIncident ↔ RefusedWith "open_blocking_incident"
    (closing now tenantId c.trip.id payload actorId t.toDb)
  needsProof : c.readiness = .needsValidatedPodOrWaiver ↔ RefusedWith "validated_pod_required"
    (closing now tenantId c.trip.id payload actorId t.toDb)

/-- An incident blocks the trip; or its latest proof is validated, no required stop is missing and
the amounts to write fit; or it has neither a validated proof nor a waiver. -/
def ForeseeableClose (now : Instant) (tenantId : UUID) (t : Tower) (trip : Trip) : Prop :=
  (blockingIncident tenantId trip.id t).isSome = true ∨
    if (latestProof tenantId trip.id t).any (·.status = .validated) then
      missingRequiredTripStops tenantId trip t.toDb = [] ∧ CloseFits tenantId trip t.toDb
    else proofOrWaiver now tenantId trip.id t.toDb = false

omit [Locale] in
theorem proofOrWaiver_of_latest
    (h : (latestProof tenantId trip.id t).any (·.status = .validated) = true) :
    proofOrWaiver now tenantId trip.id t.toDb = true := by
  rw [latestProof, Option.any_eq_true] at h
  obtain ⟨d, hd, hvalidated⟩ := h
  have hmem := mem_orderDesc.mp (List.mem_of_head? hd)
  rw [List.mem_filter] at hmem
  rw [proofOrWaiver, Bool.or_eq_true]
  exact .inl (List.any_eq_true.mpr ⟨d, hmem.1, by rw [hmem.2, hvalidated]; rfl⟩)

end

/-! ## A second proof -/

def deliveredTrip : Trip :=
  { id := 1, tenantId := 1, vehicleId := 1, origin := "Beira", destination := "Tete"
    status := .delivered }

def validatedProof : DeliveryProof :=
  { id := 1, tenantId := 1, tripId := 1, deliveredAt := 10, status := .validated }

def provedOnce : Tower where
  trips := .single deliveredTrip
  deliveryProofs := .single validatedProof

/-- A later proof of the same trip is pending. -/
def provedTwice : Tower where
  trips := .single deliveredTrip
  deliveryProofs := ⟨[{ validatedProof with id := 2, deliveredAt := 20, status := .pending },
    validatedProof], by decide⟩

theorem mem_queue_of_closeRows {tenantId : UUID} {p : Paged} {t : Tower} {trip : Trip}
    (h : closeRows tenantId p t = [trip]) :
    closeCandidate t (proofRows tenantId t [trip.id]) (incidentRows tenantId t [trip.id]) trip ∈
      operationalCloseQueue tenantId p t := by
  rw [operationalCloseQueue, h]
  exact List.mem_singleton_self _

theorem closeRows_single {t : Tower} {trip : Trip} {p : Paged}
    (h : t.trips.rows = [trip]) (hstatus : trip.status = .delivered) (hpage : p.page = 1) :
    closeRows trip.tenantId p t = [trip] := by
  have hrows : (t.trips.rows.filter fun row => row.tenantId = trip.tenantId &&
      row.status ∈ [TripStatus.arrived, .delivered, .incident]) = [trip] := by
    rw [h]
    simp [hstatus]
  rw [closeRows, hrows, orderDesc, List.mergeSort_singleton, Paged.of, Rotas.page, Paged.offset,
    hpage, Nat.sub_self, Nat.zero_mul, List.drop_zero, List.take_of_length_le]
  exact p.pageSize_pos

end Rotas.ControlTower
