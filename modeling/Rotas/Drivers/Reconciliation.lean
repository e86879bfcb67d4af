import Rotas.Drivers.Settlements
import Rotas.Trips.LifeCycle

/-!
# Rotas.Drivers.Reconciliation

Advances and settlements over runs of the calls of the trips and of this module.

* `DeskCall.Right` — a completed trip can still be settled, an approved settlement says what was
  advanced and spent, and no trip has two of either.
* `Unsettled`      — no trip has the status that a settlement asks for; every call keeps it.
* `settlements_right` — the runs of which all this holds: those that complete no trip.
* `completed_trip_unsettled` — a trip that is completed, and what can never be done with it.
-/

namespace Rotas

open Work

/-! ## What settlements promise -/

/-- No trip has two advances that count, or two approved settlements. -/
structure SettlementsRight (s : CashDesk) : Prop where
  oneAdvance : ∀ a ∈ s.driverAdvances, ∀ b ∈ s.driverAdvances, a.tripId = b.tripId →
    a.status ≠ .voided → b.status ≠ .voided → a = b
  oneApproved : ∀ a ∈ s.tripSettlements, ∀ b ∈ s.tripSettlements, a.tripId = b.tripId →
    a.status = .approved → b.status = .approved → a = b

section

variable [Interpreter] [Locale]

/-- The call completes a trip. -/
def DeskCall.Completes (c : DeskCall) (tenantId tripId : UUID) (s : CashDesk) : Prop :=
  (∃ now payload, c = .ops (.trips (.completeTrip now tenantId tripId payload))) ∧
    c.accepted s = true

/-- The settlement of the trip is computed at some point of some run from here. -/
def CashDesk.Settles (s : CashDesk) (tenantId tripId : UUID) : Prop :=
  ∃ later now, (DeskCall.computeSettlement now tenantId tripId).accepted
    (Run.exec CashDesk.serve s later) = true

structure DeskCall.Right (c : DeskCall) (s : CashDesk) : Prop where
  settles : ∀ tenantId tripId, c.Completes tenantId tripId s → (s.serve c).Settles tenantId tripId
  balances : ∀ now tenantId userId settlementId,
    c = .approveSettlement now tenantId userId settlementId → c.accepted s = true →
    ∀ settlement, s.tripSettlements.get settlementId = some settlement →
      settlement.balanceMzn =
        ((s.activeAdvances tenantId settlement.tripId).map DriverAdvance.amountMzn).sum -
          s.sumTripCosts tenantId settlement.tripId
  laws : SettlementsRight (s.serve c)

end

/-! ## The status that nobody assigns -/

structure Unsettled (s : CashDesk) : Prop where
  trips : ∀ t ∈ s.trips, t.status ≠ .completed
  driverAdvances : s.driverAdvances = ∅
  tripSettlements : s.tripSettlements = ∅

theorem Leg.not_completed {p p' : Journey} (h : Leg p p') : p'.status ≠ .completed := by
  cases h <;> simp

section Rows

variable {s p : CashDesk} {id : UUID}

theorem issueAdvance_refused {now : Instant} {tenantId userId : UUID} {payload : AdvanceRequest} :
    issueAdvance now tenantId userId payload s ≠ .ok (id, p) := by
  simp [issueAdvance, bind_eq_ok]

theorem Unsettled.computeSettlement (h : Unsettled s) {now : Instant} {tenantId tripId : UUID} :
    Rotas.computeSettlement now tenantId tripId s ≠ .ok (id, p) := by
  intro hrun
  simp only [Rotas.computeSettlement, bind_eq_ok, raiseIf_eq_ok, requireTrip_eq_ok,
    decide_eq_false_iff_not, ne_eq, Classical.not_not] at hrun
  obtain ⟨trip, ⟨hget, _⟩, _, hcompleted, _⟩ := hrun
  exact h.trips trip (Table.mem_of_get hget) hcompleted

theorem Unsettled.requireSettlement (h : Unsettled s) {tenantId settlementId : UUID}
    {settlement : TripSettlement} :
    Rotas.requireSettlement tenantId settlementId s ≠ .ok settlement := by
  intro hrun
  simp only [Rotas.requireSettlement, require_eq_ok, Option.filter_eq_some_iff] at hrun
  have hmem := Table.mem_of_get hrun.1
  rw [h.tripSettlements] at hmem
  exact Table.not_mem_empty _ hmem

theorem Unsettled.requireDriverAdvance (h : Unsettled s) {tenantId advanceId : UUID}
    {advance : DriverAdvance} : Rotas.requireDriverAdvance tenantId advanceId s ≠ .ok advance := by
  intro hrun
  simp only [Rotas.requireDriverAdvance, require_eq_ok, Option.filter_eq_some_iff] at hrun
  have hmem := Table.mem_of_get hrun.1
  rw [h.driverAdvances] at hmem
  exact Table.not_mem_empty _ hmem

theorem Unsettled.laws (h : Unsettled s) : SettlementsRight s where
  oneAdvance a ha := absurd (h.driverAdvances ▸ ha) (Table.not_mem_empty a)
  oneApproved a ha := absurd (h.tripSettlements ▸ ha) (Table.not_mem_empty a)

end Rows

section Steps

variable [Interpreter] [Locale] {s p : CashDesk} {c : DeskCall} {id : UUID}

theorem not_completed_step {f : Fleet} (c : OpsCall) (h : ∀ t ∈ f.trips, t.status ≠ .completed) :
    ∀ t ∈ (c.step f).trips, t.status ≠ .completed := by
  intro t' ht'
  have hget : (c.step f).trips.get t'.id = some t' := Table.get_of_mem ht'
  cases hold : f.trips.get t'.id with
  | none =>
    rcases ((c.step_trips f).fresh _ _ hold hget).status with hnew | hnew <;> simp [hnew]
  | some t =>
    obtain ⟨t'', ht'', hmove⟩ := (c.step_trips f).moves _ _ hold
    obtain rfl := Option.some.inj (hget.symm.trans ht'')
    rcases hmove.journey with hsame | hleg | ⟨_, _, _, _, hdelivered⟩
    · have hstatus : t'.status = t.status := congrArg Journey.status hsame
      rw [hstatus]
      exact h t (Table.mem_of_get hold)
    · exact hleg.not_completed
    · have hstatus : t'.status = .delivered := congrArg Journey.status hdelivered
      simp [hstatus]

theorem accepted_iff : c.accepted s = true ↔ ∃ a p, c.run s = .ok (a, p) ∧ p.ok = true := by
  simp only [DeskCall.accepted, serve_atomic_isOk, ofExcept_ok]
  rfl

theorem Unsettled.run_cases (h : Unsettled s) (hrun : c.run s = .ok (id, p)) :
    ∃ o fleet, c = .ops o ∧ o.run s.toFleet = .ok (id, fleet) ∧ p = { s with toFleet := fleet } := by
  cases c with
  | ops o =>
    simp only [DeskCall.run] at hrun
    cases hops : o.run s.toFleet with
    | error e => rw [hops] at hrun; cases hrun
    | ok r =>
      rw [hops] at hrun
      cases hrun
      exact ⟨o, r.2, rfl, hops, rfl⟩
  | issueAdvance now tenantId userId payload => exact absurd hrun issueAdvance_refused
  | voidAdvance tenantId advanceId =>
    simp only [DeskCall.run, Rotas.voidAdvance, bind_eq_ok] at hrun
    obtain ⟨advance, hadvance, _⟩ := hrun
    exact absurd hadvance h.requireDriverAdvance
  | computeSettlement now tenantId tripId => exact absurd hrun h.computeSettlement
  | approveSettlement now tenantId userId settlementId =>
    simp only [DeskCall.run, Rotas.approveSettlement, bind_eq_ok] at hrun
    obtain ⟨settlement, hsettlement, _⟩ := hrun
    exact absurd hsettlement h.requireSettlement
  | rejectSettlement tenantId settlementId reason =>
    simp only [DeskCall.run, Rotas.rejectSettlement, bind_eq_ok] at hrun
    obtain ⟨settlement, hsettlement, _⟩ := hrun
    exact absurd hsettlement h.requireSettlement

theorem Unsettled.serve (h : Unsettled s) (c : DeskCall) : Unsettled (s.serve c) := by
  rcases perform_cases c.run s with hsame | ⟨id, hrun, hok⟩
  · rw [CashDesk.serve, hsame]
    exact h
  · obtain ⟨o, fleet, _, hops, hp⟩ := h.run_cases hrun
    have hfleet : fleet.ok = true := by
      have hdesk : (perform c.run s).ok = true := hok
      rw [hp] at hdesk
      simp only [CashDesk.ok, Bool.and_eq_true] at hdesk
      exact hdesk.1.1.1
    have hstep := not_completed_step o h.trips
    rw [OpsCall.step_of_run hops hfleet] at hstep
    rw [CashDesk.serve, hp]
    exact ⟨hstep, h.driverAdvances, h.tripSettlements⟩

theorem Unsettled.not_settles (h : Unsettled s) {tenantId tripId : UUID} :
    ¬ s.Settles tenantId tripId := by
  rintro ⟨later, now, haccepted⟩
  obtain ⟨a, p, hrun, _⟩ := accepted_iff.mp haccepted
  have hlater : Unsettled (Run.exec CashDesk.serve s later) :=
    Run.exec_inv_all (I := Unsettled) (fun _ c hs => hs.serve c) h
  exact hlater.computeSettlement hrun

theorem Unsettled.right_iff (h : Unsettled s) :
    c.Right s ↔ ∀ tenantId tripId, ¬ c.Completes tenantId tripId s := by
  constructor
  · exact fun hright tenantId tripId hc => (h.serve c).not_settles (hright.settles _ _ hc)
  · intro hnone
    refine ⟨fun tenantId tripId hc => absurd hc (hnone tenantId tripId), ?_, (h.serve c).laws⟩
    intro now tenantId userId settlementId _ _ settlement hget
    have hmem := Table.mem_of_get hget
    rw [h.tripSettlements] at hmem
    exact absurd hmem (Table.not_mem_empty settlement)

/-- In a run every completed trip can still be settled, every approved settlement is right and no
trip has two advances or two approved settlements, if and only if the run completes no trip. -/
theorem settlements_right {calls : List DeskCall} (h : Unsettled s) :
    Run.Along CashDesk.serve (fun s c => c.Right s) s calls ↔
      Run.Along CashDesk.serve
        (fun s c => ∀ tenantId tripId, ¬ c.Completes tenantId tripId s) s calls := by
  induction calls generalizing s with
  | nil => exact Iff.rfl
  | cons c calls ih => exact and_congr h.right_iff (ih (h.serve c))

end Steps

/-! ## A trip on the road -/

private def onTheRoad : CashDesk where
  trips := .single
    { id := 1, tenantId := 1, vehicleId := 1, driverId := 1, origin := "Maputo"
      destination := "Beira", status := .inProgress, actualDeparture := some 100
      kmStart := some 10 }

private def arrival : DeskCall := .ops (.trips (.completeTrip 200 1 1 { kmEnd := 90 }))

private theorem onTheRoad_unsettled : Unsettled onTheRoad where
  trips := by decide
  driverAdvances := rfl
  tripSettlements := rfl

private theorem completes_arrival : @DeskCall.Completes .undated .ascii arrival 1 1 onTheRoad :=
  ⟨⟨200, { kmEnd := 90 }, rfl⟩, by decide +kernel⟩

/-- A trip that goes nowhere asks for no settlement. -/
theorem settlements_right_waiting :
    Run.Along (@CashDesk.serve .undated .ascii) (fun s c => @DeskCall.Right .undated .ascii c s)
      onTheRoad [.computeSettlement 200 1 1] :=
  (@settlements_right .undated .ascii onTheRoad _ onTheRoad_unsettled).mpr
    ⟨fun _ _ hc => (nomatch hc.1), trivial⟩

/-- A trip is completed, and whatever is called then, no settlement of it is computed; nor is an
advance issued while it is on the road. -/
theorem completed_trip_unsettled :
    @DeskCall.Completes .undated .ascii arrival 1 1 onTheRoad ∧
      ¬ @CashDesk.Settles .undated .ascii (@CashDesk.serve .undated .ascii onTheRoad arrival) 1 1 ∧
      (issueAdvance 150 1 9 { tripId := 1, driverId := 1, amountMzn := 100 } onTheRoad).isOk = false :=
  ⟨completes_arrival,
    @Unsettled.not_settles .undated .ascii _
      (@Unsettled.serve .undated .ascii onTheRoad onTheRoad_unsettled arrival) 1 1, rfl⟩

end Rotas
