import Rotas.Billing.FailedCreate
import Rotas.Fuel.Operations
import Rotas.Lib.Run
import Rotas.Trips.Execution

/-!
# Rotas.Billing.MarginGovernance

The margin of a trip, over runs of the calls that write its costs, its contract, its waivers and
its invoice.

* `MarginCall` — those calls, and `MarginCall.step`, one session for each.
* `Trip.trueMargin` — the recorded revenue of a trip less its fuel and all its recorded costs.
* `CostMove` — what a call makes of the costs of a trip.
* `Costed` — the invariant: the totals of a reconciled trip are those of its rows.
* `margin_governed` — an invoice takes a reconciled trip with a true margin that is not negative,
  or under an active waiver that a call of the run granted.
* `margin_ungoverned` — the ways around the approval of a negative margin.
-/

namespace Rotas

open Work Run

/-! ## The calls -/

inductive MarginCall where
  | recordTripCost (now : Instant) (tenantId tripId : UUID) (payload : TripCostCreate)
      (actorId : Option UUID)
  | reconcileTripCosts (now : Instant) (tenantId tripId : UUID)
  | operationalCloseTrip (now : Instant) (tenantId tripId : UUID)
      (payload : OperationalCloseTripRequest) (actorId : Option UUID)
  | createFuelLog (now : Instant) (tenantId : UUID) (payload : FuelLogCreate)
  | createVehicleRefuel (tenantId : UUID) (payload : VehicleRefuelCreate) (actorId : Option UUID)
  | associateContract (now : Instant) (tenantId tripId contractId : UUID)
  | createWaiver (now : Instant) (tenantId : UUID) (payload : OperationalWaiverCreate)
      (actorId : Option UUID)
  | revokeWaiver (tenantId waiverId : UUID)
  | createBillingWaiver (now : Instant) (tenantId tripId : UUID) (reason : String)
  | approveBillingWaiver (now : Instant) (tenantId waiverId approverId : UUID)
  | rejectBillingWaiver (tenantId waiverId rejectorId : UUID)
  | createDocument (now : Instant) (r : IdempotentRequest) (payload : BillingDocumentCreate)
      (body : UUID × List BillingItem → String)

/-- A service of the billing database, run on the depot's. -/
def Depot.onDb (service : Db → Except Exc (UUID × Db)) (s : Depot) : Except Exc (UUID × Depot) := do
  let (a, f) ← s.toFleet.onDb service
  return (a, { s with toFleet := f })

theorem Depot.onDb_eq_ok {service : Db → Except Exc (UUID × Db)} {s p : Depot} {a : UUID} :
    s.onDb service = .ok (a, p) ↔
      ∃ db, service s.toDb = .ok (a, db) ∧ p = { s with toDb := db } := by
  simp only [Depot.onDb, bind_eq_ok, Fleet.onDb_eq_ok, pure, Except.pure, Except.ok.injEq,
    Prod.exists, Prod.mk.injEq]
  constructor
  · rintro ⟨_, _, ⟨db, h, rfl⟩, rfl, rfl⟩
    exact ⟨db, h, rfl⟩
  · rintro ⟨db, h, rfl⟩
    exact ⟨a, _, ⟨db, h, rfl⟩, rfl, rfl⟩

section

variable [Locale]

/-- `reconcile_trip_costs` on the tenant's trip. -/
def reconcileTrip (now : Instant) (tenantId tripId : UUID) (db : Db) : Except Exc (UUID × Db) := do
  let _ ← requireTrip tenantId tripId db
  return (tripId,
    { db with trips := db.trips.modify tripId (reconcileTripCosts now tenantId · db) })

/-- The database after one call, served by a session of its own. -/
def MarginCall.step (s : Depot) : MarginCall → Depot
  | .recordTripCost now tenantId tripId payload actorId =>
    perform (Depot.onDb (Rotas.recordTripCost now tenantId tripId payload actorId)) s
  | .reconcileTripCosts now tenantId tripId =>
    perform (Depot.onDb (reconcileTrip now tenantId tripId)) s
  | .operationalCloseTrip now tenantId tripId payload actorId =>
    perform (Depot.onDb (Rotas.operationalCloseTrip now tenantId tripId payload actorId)) s
  | .createFuelLog now tenantId payload => perform (Rotas.createFuelLog now tenantId payload) s
  | .createVehicleRefuel tenantId payload actorId =>
    perform (Rotas.createVehicleRefuel tenantId payload actorId) s
  | .associateContract now tenantId tripId contractId =>
    perform (Depot.onDb (Rotas.associateContract now tenantId tripId contractId)) s
  | .createWaiver now tenantId payload actorId =>
    perform (Depot.onDb (Rotas.createWaiver now tenantId payload actorId)) s
  | .revokeWaiver tenantId waiverId =>
    perform (Depot.onDb (Rotas.revokeWaiver tenantId waiverId)) s
  | .createBillingWaiver now tenantId tripId reason =>
    perform (Depot.onDb (Rotas.createBillingWaiver now tenantId tripId reason)) s
  | .approveBillingWaiver now tenantId waiverId approverId =>
    perform (Depot.onDb (Rotas.approveBillingWaiver now tenantId waiverId approverId)) s
  | .rejectBillingWaiver tenantId waiverId rejectorId =>
    perform (Depot.onDb (Rotas.rejectBillingWaiver tenantId waiverId rejectorId)) s
  | .createDocument now r payload body =>
    { s with toDb := (serve (createDocumentRequest now r payload body) s.toDb).2 }

end

/-! ## Costs and margins -/

/-- The sum of all the costs recorded of a trip. -/
def recordedCosts (tripId : UUID) (db : Db) : Int :=
  db.tripCosts.sumWhere (fun c => c.tripId = tripId) TripCost.amount

/-- The revenue of the trip less its fuel and all its recorded costs. -/
def Trip.trueMargin (trip : Trip) (db : Db) : Int :=
  trip.actualRevenue - trip.totalFuelCost - recordedCosts trip.id db

/-- The trip's costs have been reconciled. -/
def Trip.reconciled (trip : Trip) : Bool := trip.costsReconciledAt.isSome

/-- The columns that `reconcile_trip_costs` reads and writes, apart from what measures the trip. -/
def Trip.costs (t : Trip) : UUID × Int × Int × Int × Int × Option Instant :=
  (t.tenantId, t.totalFuelCost, t.totalTransportCost, t.actualRevenue, t.actualMargin,
    t.costsReconciledAt)

/-- What the revenue of a trip is calculated from, besides its contract. -/
def Trip.measures (t : Trip) :
    String × String × Option Int × Option Int × Option Int × Option Int :=
  (t.origin, t.destination, t.cargoWeight, t.cargoVolume, t.kmStart, t.kmEnd)

/-- An active waiver of the negative margin of the trip. -/
def OperationalWaiver.allows (w : OperationalWaiver) (now : Instant) (trip : Trip) : Prop :=
  w.tenantId = trip.tenantId ∧ w.entityType = "trip" ∧ w.entityId = trip.id ∧
    w.waiverType = negativeMarginApprovalWaiver ∧ w.status = .active ∧ w.expiresAt.all (now < ·)

/-- The call makes the waiver of the margin active: it approves the waiver, or grants it at once. -/
def MarginCall.Grants (w : OperationalWaiver) : MarginCall → Prop
  | .approveBillingWaiver _ tenantId waiverId _ => tenantId = w.tenantId ∧ waiverId = w.id
  | .createWaiver _ tenantId payload _ =>
    tenantId = w.tenantId ∧ payload.entityType = w.entityType ∧ payload.entityId = w.entityId ∧
      payload.waiverType = w.waiverType
  | _ => False

/-- The call does not put fuel on the trip after its costs were reconciled. -/
def MarginCall.KeepsFuel (tripId : UUID) (s : Depot) : MarginCall → Prop
  | .createVehicleRefuel _ payload _ =>
    payload.tripId = some tripId → (s.trips.get tripId).all (!·.reconciled) = true
  | _ => True

/-- The call does not associate a contract with the trip after its costs were reconciled. -/
def MarginCall.KeepsContract (tripId : UUID) (s : Depot) : MarginCall → Prop
  | .associateContract _ _ id _ => id = tripId → (s.trips.get tripId).all (!·.reconciled) = true
  | _ => True

/-! ## What an invoice takes -/

/-- An invoice takes trips as they are: their costs, their measures and their contract stay, and so
do the rows of costs, the waivers and the prices. -/
structure CostsKept (db q : Db) : Prop where
  contracts : q.contracts = db.contracts
  knownRoutes : q.knownRoutes = db.knownRoutes
  contractTariffs : q.contractTariffs = db.contractTariffs
  tripCosts : q.tripCosts = db.tripCosts
  operationalWaivers : q.operationalWaivers = db.operationalWaivers
  trips : ∀ {k t'}, q.trips.get k = some t' → ∃ t, db.trips.get k = some t ∧ t'.costs = t.costs ∧
    t'.measures = t.measures ∧ t'.contractId = t.contractId

section Invoice

variable {now : Instant} {tenantId : UUID} {db q : Db}

theorem CostsKept.refl (db : Db) : CostsKept db db :=
  ⟨rfl, rfl, rfl, rfl, rfl, fun ht => ⟨_, ht, rfl, rfl, rfl⟩⟩

theorem CostsKept.addItem {contract : Contract} {documentId : UUID} {b : BillableTrip}
    (h : CostsKept db q) : CostsKept db (addItem tenantId contract documentId b q) :=
  { h with
    trips := fun {k t'} ht => by
      rw [addItem_get_trip] at ht
      split at ht
      · next hk =>
        subst hk
        obtain ⟨t, hget, rfl⟩ := Option.map_eq_some_iff.mp ht
        obtain ⟨t₀, ht₀, hcosts, hmeasures, hcontract⟩ := h.trips hget
        exact ⟨t₀, ht₀, hcosts, hmeasures, hcontract⟩
      · exact h.trips ht }

/-- The trip was let through the check of its margin, as it stood in `db`. -/
def MarginChecked (now : Instant) (tenantId tripId : UUID) (db : Db) : Prop :=
  ∃ trip, db.trips.get tripId = some trip ∧ trip.tenantId = tenantId ∧
    (trip.reconciled = false ∨ 0 ≤ trip.actualMargin ∨
      ∃ w ∈ db.operationalWaivers, w.allows now trip)

theorem requireMarginGovernance_eq_ok {trip : Trip} {u : Unit}
    (h : requireMarginGovernance now tenantId trip db = .ok u) :
    trip.costsReconciledAt = none ∨ 0 ≤ trip.actualMargin ∨
      ∃ w ∈ db.operationalWaivers, w.tenantId = tenantId ∧ w.entityType = "trip" ∧
        w.entityId = trip.id ∧ w.waiverType = negativeMarginApprovalWaiver ∧ w.status = .active ∧
        w.expiresAt.all (now < ·) := by
  simp only [requireMarginGovernance, raiseIf_eq_ok, Bool.and_eq_false_iff, Bool.not_eq_false',
    Option.isSome_eq_false_iff, Option.isNone_iff_eq_none, decide_eq_false_iff_not, not_lt,
    hasActiveWaiver, List.any_eq_true, Bool.and_eq_true, decide_eq_true_eq, or_assoc, and_assoc] at h
  exact h

/-- What an invoice adds passed the check, also when a later trip of it was refused. -/
theorem createDocument_checked {payload : BillingDocumentCreate} :
    CostsKept db (createDocument now tenantId payload db).2 ∧
      ∀ i ∈ (createDocument now tenantId payload db).2.billingItems, i ∈ db.billingItems ∨
        ∃ tripId, i.tripId = some tripId ∧ MarginChecked now tenantId tripId db := by
  refine createDocument_pending (P := fun q => CostsKept db q ∧ ∀ i ∈ q.billingItems,
    i ∈ db.billingItems ∨ ∃ tripId, i.tripId = some tripId ∧ MarginChecked now tenantId tripId db)
    ⟨.refl db, fun i hi => .inl hi⟩ (fun contract => ⟨{ CostsKept.refl db with }, fun i hi => .inl hi⟩) ?_
    (fun items q h => ⟨{ h.1 with }, h.2⟩)
  intro contract held tripId q b ⟨hkept, hitems⟩ hacc
  refine ⟨hkept.addItem, fun i hi => ?_⟩
  rcases mem_addItem.mp hi with hi | rfl
  · exact hitems i hi
  · refine .inr ⟨b.trip.id, rfl, ?_⟩
    have hid := hacc.trip_id
    obtain ⟨t, hget, hcosts, _, _⟩ := hkept.trips (hid ▸ hacc.trip)
    have htid : t.id = b.trip.id := Table.key_of_get hget
    simp only [Trip.costs, Prod.mk.injEq] at hcosts
    obtain ⟨hten, _, _, _, hmargin, hat⟩ := hcosts
    refine ⟨t, hget, hten.symm.trans hacc.tenant, ?_⟩
    rcases requireMarginGovernance_eq_ok hacc.margin with h | h | ⟨w, hw, h⟩
    · exact .inl (by rw [Trip.reconciled, ← hat, h]; rfl)
    · exact .inr (.inl (hmargin ▸ h))
    · refine .inr (.inr ⟨w, hkept.operationalWaivers ▸ hw, ?_⟩)
      rwa [OperationalWaiver.allows, ← hten, hacc.tenant, htid]

end Invoice

/-! ## What a call makes of the costs -/

/-- What a call makes of the trip `t` of `s`, where `t'` is the trip after it, in `p`. -/
inductive CostMove [Locale] (tripId : UUID) (s : Depot) (t : Trip) (p : Depot) (t' : Trip) :
    MarginCall → Prop
  | kept {c : MarginCall} (costs : t'.costs = t.costs) (measures : t'.measures = t.measures)
      (contract : t'.contractId = t.contractId)
      (rows : recordedCosts tripId p.toDb = recordedCosts tripId s.toDb) :
      CostMove tripId s t p t' c
  | reconciled {c : MarginCall} (now : Instant)
      (costs : t'.costs = (reconcileTripCosts now t.tenantId t p.toDb).costs)
      (measures : t'.measures = t.measures) (contract : t'.contractId = t.contractId) :
      CostMove tripId s t p t' c
  | refuelled {tenantId : UUID} {payload : VehicleRefuelCreate} {actorId : Option UUID}
      (trip : payload.tripId = some tripId) (tenant : t'.tenantId = t.tenantId)
      (reconciledAt : t'.costsReconciledAt = t.costsReconciledAt) :
      CostMove tripId s t p t' (.createVehicleRefuel tenantId payload actorId)
  | associated {now : Instant} {tenantId contractId : UUID} (costs : t'.costs = t.costs)
      (rows : recordedCosts tripId p.toDb = recordedCosts tripId s.toDb) :
      CostMove tripId s t p t' (.associateContract now tenantId tripId contractId)

/-- What every call does: to the trips, to the rows of costs and to the waivers. -/
structure MarginStep [Locale] (c : MarginCall) (s p : Depot) : Prop where
  contracts : p.contracts = s.contracts
  knownRoutes : p.knownRoutes = s.knownRoutes
  contractTariffs : p.contractTariffs = s.contractTariffs
  trips : ∀ {k t'}, p.trips.get k = some t' → ∃ t, s.trips.get k = some t ∧ CostMove k s t p t' c
  costRows : ∀ r ∈ p.tripCosts, r ∈ s.tripCosts ∨
    ∃ t, s.trips.get r.tripId = some t ∧ t.tenantId = r.tenantId
  waivers : ∀ w ∈ p.operationalWaivers, w.status = .active →
    w ∈ s.operationalWaivers ∨ c.Grants w

section Steps

variable [Locale] {c : MarginCall} {s p : Depot} {db q : Db} {now : Instant}
  {tenantId tripId a : UUID} {actorId : Option UUID}

theorem MarginStep.refl (c : MarginCall) (s : Depot) : MarginStep c s s where
  contracts := rfl
  knownRoutes := rfl
  contractTariffs := rfl
  trips ht := ⟨_, ht, .kept rfl rfl rfl rfl⟩
  costRows _ hr := .inl hr
  waivers _ hw _ := .inl hw

theorem MarginStep.of_waivers {ws : Table OperationalWaiver}
    (h : ∀ w ∈ ws, w.status = .active → w ∈ s.operationalWaivers ∨ c.Grants w) :
    MarginStep c s { s with operationalWaivers := ws } :=
  { MarginStep.refl c s with trips := fun ht => ⟨_, ht, .kept rfl rfl rfl rfl⟩, waivers := h }

theorem MarginStep.of_modify (orders : Table TripOrder) {f : Trip → Trip}
    {hf : ∀ t, (f t).id = t.id}
    (h : ∀ t, s.trips.get tripId = some t → CostMove tripId s t
      { s with trips := s.trips.modify tripId f hf, tripOrders := orders } (f t) c) :
    MarginStep c s { s with trips := s.trips.modify tripId f hf, tripOrders := orders } where
  contracts := rfl
  knownRoutes := rfl
  contractTariffs := rfl
  trips {k t'} ht := by
    replace ht : (s.trips.modify tripId f hf).get k = some t' := ht
    by_cases hk : k = tripId
    · subst hk
      rw [Table.get_modify, if_pos rfl, Option.map_eq_some_iff] at ht
      obtain ⟨t, hget, rfl⟩ := ht
      exact ⟨t, hget, h t hget⟩
    · rw [Table.get_modify_ne hk] at ht
      exact ⟨t', ht, .kept rfl rfl rfl rfl⟩
  costRows _ hr := .inl hr
  waivers _ hw _ := .inl hw

/-- A service of the billing database, by what it makes of that database. -/
theorem MarginStep.of_service {service : Db → Except Exc (UUID × Db)}
    (h : ∀ a q, service s.toDb = .ok (a, q) → MarginStep c s { s with toDb := q }) :
    MarginStep c s (perform (Depot.onDb service) s) := by
  refine perform_ind (.refl c s) fun a p hrun => ?_
  obtain ⟨q, hq, rfl⟩ := Depot.onDb_eq_ok.mp hrun
  exact h a q hq

/-! ### Trips and costs -/

theorem recordTripCost_step {payload : TripCostCreate}
    (h : recordTripCost now tenantId tripId payload actorId s.toDb = .ok (a, q)) :
    MarginStep c s { s with toDb := q } := by
  simp only [recordTripCost, bind_eq_ok, requireTrip_eq_ok] at h
  obtain ⟨_, _, trip, ⟨htrip, hten⟩, h⟩ := h
  split at h
  · simp only [bind_eq_ok, pure, Except.pure, Except.ok.injEq, Prod.mk.injEq] at h
    obtain ⟨_, _, _, rfl⟩ := h
    exact .refl c s
  · cases h
    have hrow : ∀ r ∈ s.tripCosts.insert (newTripCost tenantId tripId payload actorId),
        r ∈ s.tripCosts ∨ r = newTripCost tenantId tripId payload actorId s.tripCosts.freshKey :=
      fun r hr => (Table.mem_insert _ _ _).mp hr
    refine ⟨rfl, rfl, rfl, ?_, ?_, fun _ hw _ => .inl hw⟩
    · intro k t' ht
      replace ht : (s.trips.modify tripId (reconcileTripCosts now tenantId · { s.toDb with
          tripCosts := s.tripCosts.insert (newTripCost tenantId tripId payload actorId) })).get k =
        some t' := ht
      by_cases hk : k = tripId
      · subst hk
        rw [Table.get_modify_self htrip] at ht
        cases ht
        refine ⟨trip, htrip, .reconciled now ?_ rfl rfl⟩
        rw [hten]
        rfl
      · rw [Table.get_modify_ne hk] at ht
        refine ⟨t', ht, .kept rfl rfl rfl ?_⟩
        have hother : tripId ≠ k := fun h => hk h.symm
        simp [recordedCosts, Table.sumWhere_insert, newTripCost, hother]
    · intro r hr
      rcases hrow r hr with hr | rfl
      · exact .inl hr
      · exact .inr ⟨trip, htrip, hten⟩

theorem reconcileTrip_step (h : reconcileTrip now tenantId tripId s.toDb = .ok (a, q)) :
    MarginStep c s { s with toDb := q } := by
  simp only [reconcileTrip, bind_eq_ok, requireTrip_eq_ok, pure, Except.pure, Except.ok.injEq,
    Prod.mk.injEq] at h
  obtain ⟨trip, ⟨htrip, hten⟩, _, rfl⟩ := h
  refine .of_modify s.tripOrders fun t ht => .reconciled now ?_ rfl rfl
  cases htrip.symm.trans ht
  rw [hten]
  rfl

theorem operationalCloseTrip_step {payload : OperationalCloseTripRequest}
    (h : operationalCloseTrip now tenantId tripId payload actorId s.toDb = .ok (a, q)) :
    MarginStep c s { s with toDb := q } := by
  obtain ⟨_, trip, htrip, hten, ⟨_, rfl⟩ | ⟨_, _, rfl⟩⟩ := operationalCloseTrip_eq_ok.mp h
  · exact .refl c s
  · refine .of_modify _ fun t ht => .reconciled now ?_ rfl rfl
    cases htrip.symm.trans ht
    rw [hten]
    rfl

theorem associateContract_step {contractId : UUID}
    (h : associateContract now tenantId tripId contractId s.toDb = .ok (a, q)) :
    MarginStep (.associateContract now tenantId tripId contractId) s { s with toDb := q } := by
  simp only [associateContract, bind_eq_ok, pure, Except.pure, Except.ok.injEq, Prod.mk.injEq] at h
  obtain ⟨_, _, _, _, _, rfl⟩ := h
  exact .of_modify s.tripOrders fun t _ => .associated rfl rfl

/-! ### Fuel -/

theorem createVehicleRefuel_step {payload : VehicleRefuelCreate}
    (h : createVehicleRefuel tenantId payload actorId s = .ok (a, p)) :
    MarginStep (.createVehicleRefuel tenantId payload actorId) s p := by
  obtain ⟨cost, _, _, _, _, rfl⟩ := createVehicleRefuel_eq_ok h
  refine ⟨rfl, rfl, rfl, ?_, fun _ hr => .inl hr, fun _ hw _ => .inl hw⟩
  intro k t' ht
  replace ht : (refuelTrips payload.tripId cost s.trips).get k = some t' := ht
  unfold refuelTrips at ht
  split at ht
  · next tripId fuel htrip =>
    by_cases hk : k = tripId
    · subst hk
      rw [Table.get_modify, if_pos rfl, Option.map_eq_some_iff] at ht
      obtain ⟨t, hget, rfl⟩ := ht
      exact ⟨t, hget, .refuelled htrip rfl rfl⟩
    · rw [Table.get_modify_ne hk] at ht
      exact ⟨t', ht, .kept rfl rfl rfl rfl⟩
  · exact ⟨t', ht, .kept rfl rfl rfl rfl⟩

theorem createFuelLog_step {payload : FuelLogCreate}
    (h : createFuelLog now tenantId payload s = .ok (a, p)) : MarginStep c s p := by
  simp only [createFuelLog, bind_eq_ok, pure, Except.pure, Except.ok.injEq, Prod.mk.injEq] at h
  obtain ⟨_, _, _, _, _, _, _, _, _, _, _, _, _, rfl⟩ := h
  exact { MarginStep.refl c s with trips := fun ht => ⟨_, ht, .kept rfl rfl rfl rfl⟩ }

/-! ### Waivers -/

theorem createWaiver_step {payload : OperationalWaiverCreate}
    (h : createWaiver now tenantId payload actorId s.toDb = .ok (a, q)) :
    MarginStep (.createWaiver now tenantId payload actorId) s { s with toDb := q } := by
  simp only [createWaiver, bind_eq_ok, pure, Except.pure, Except.ok.injEq, Prod.mk.injEq] at h
  obtain ⟨_, _, _, _, _, rfl⟩ := h
  refine .of_waivers fun w hw _ => ?_
  rcases (Table.mem_insert _ _ _).mp hw with hw | rfl
  · exact .inl hw
  · exact .inr ⟨rfl, rfl, rfl, rfl⟩

/-- A rewriting of one waiver that the call grants if it leaves it active. -/
theorem MarginStep.of_modify_waiver {waiverId : UUID} {f : OperationalWaiver → OperationalWaiver}
    {hf : ∀ w, (f w).id = w.id}
    (h : ∀ w, s.operationalWaivers.get waiverId = some w → (f w).status = .active → c.Grants (f w)) :
    MarginStep c s { s with operationalWaivers := s.operationalWaivers.modify waiverId f hf } := by
  refine .of_waivers fun w hw hactive => ?_
  rcases Table.mem_modify_cases hw with ⟨w₀, hw₀, hkey, rfl⟩ | ⟨hw, _⟩
  · exact .inr (h w₀ (hkey ▸ Table.get_of_mem hw₀) hactive)
  · exact .inl hw

theorem revokeWaiver_step {waiverId : UUID}
    (h : revokeWaiver tenantId waiverId s.toDb = .ok (a, q)) :
    MarginStep c s { s with toDb := q } := by
  simp only [revokeWaiver, bind_eq_ok] at h
  obtain ⟨_, _, _, _, h⟩ := h
  split at h
  · cases h; exact .refl c s
  · cases h
    exact .of_modify_waiver fun _ _ hactive => by cases hactive

theorem createBillingWaiver_step {reason : String}
    (h : createBillingWaiver now tenantId tripId reason s.toDb = .ok (a, q)) :
    MarginStep c s { s with toDb := q } := by
  simp only [createBillingWaiver, bind_eq_ok, pure, Except.pure, Except.ok.injEq, Prod.mk.injEq] at h
  obtain ⟨_, _, _, _, _, _, _, rfl⟩ := h
  refine .of_waivers fun w hw hactive => ?_
  rcases (Table.mem_insert _ _ _).mp hw with hw | rfl
  · exact .inl hw
  · cases hactive

theorem approveBillingWaiver_step {waiverId approverId : UUID}
    (h : approveBillingWaiver now tenantId waiverId approverId s.toDb = .ok (a, q)) :
    MarginStep (.approveBillingWaiver now tenantId waiverId approverId) s { s with toDb := q } := by
  simp only [approveBillingWaiver, bind_eq_ok, pure, Except.pure, Except.ok.injEq,
    Prod.mk.injEq] at h
  obtain ⟨w, hpending, _, rfl⟩ := h
  obtain ⟨hget, hten⟩ := pendingBillingWaiver_eq_ok hpending
  refine .of_modify_waiver fun w' hget' _ => ?_
  cases hget.symm.trans hget'
  exact ⟨hten.symm, (Table.key_of_get hget).symm⟩

theorem rejectBillingWaiver_step {waiverId rejectorId : UUID}
    (h : rejectBillingWaiver tenantId waiverId rejectorId s.toDb = .ok (a, q)) :
    MarginStep c s { s with toDb := q } := by
  simp only [rejectBillingWaiver, bind_eq_ok, pure, Except.pure, Except.ok.injEq, Prod.mk.injEq] at h
  obtain ⟨_, _, _, rfl⟩ := h
  exact .of_modify_waiver fun _ _ hactive => by cases hactive

/-! ### Invoices -/

theorem createDocument_step {r : IdempotentRequest} {payload : BillingDocumentCreate}
    {body : UUID × List BillingItem → String} :
    MarginStep c s { s with toDb := (serve (createDocumentRequest now r payload body) s.toDb).2 } := by
  have hkept : CostsKept s.toDb (serve (createDocumentRequest now r payload body) s.toDb).2 := by
    refine (keeps_executeHttpIdempotent (fun q keys h => { h with })
      fun q hq => ?_).serve (.refl s.toDb)
    have hstep : CostsKept q (createDocument now r.tenantId payload q).2 := createDocument_checked.1
    refine ⟨hstep.contracts.trans hq.contracts, hstep.knownRoutes.trans hq.knownRoutes,
      hstep.contractTariffs.trans hq.contractTariffs, hstep.tripCosts.trans hq.tripCosts,
      hstep.operationalWaivers.trans hq.operationalWaivers, fun ht => ?_⟩
    obtain ⟨t, ht, hcosts, hmeasures, hcontract⟩ := hstep.trips ht
    obtain ⟨t₀, ht₀, hcosts₀, hmeasures₀, hcontract₀⟩ := hq.trips ht
    exact ⟨t₀, ht₀, hcosts.trans hcosts₀, hmeasures.trans hmeasures₀, hcontract.trans hcontract₀⟩
  refine ⟨hkept.contracts, hkept.knownRoutes, hkept.contractTariffs, fun ht => ?_, fun r hr => ?_,
    fun w hw _ => ?_⟩
  · obtain ⟨t, ht, hcosts, hmeasures, hcontract⟩ := hkept.trips ht
    exact ⟨t, ht, .kept hcosts hmeasures hcontract
      (congrArg (fun rows => Table.sumWhere rows _ TripCost.amount) hkept.tripCosts)⟩
  · exact .inl (hkept.tripCosts ▸ hr)
  · exact .inl (hkept.operationalWaivers ▸ hw)

theorem MarginCall.step_margin (c : MarginCall) (s : Depot) : MarginStep c s (c.step s) := by
  cases c with
  | recordTripCost => exact .of_service fun _ _ h => recordTripCost_step h
  | reconcileTripCosts => exact .of_service fun _ _ h => reconcileTrip_step h
  | operationalCloseTrip => exact .of_service fun _ _ h => operationalCloseTrip_step h
  | createFuelLog => exact perform_ind (.refl _ s) fun _ _ h => createFuelLog_step h
  | createVehicleRefuel => exact perform_ind (.refl _ s) fun _ _ h => createVehicleRefuel_step h
  | associateContract => exact .of_service fun _ _ h => associateContract_step h
  | createWaiver => exact .of_service fun _ _ h => createWaiver_step h
  | revokeWaiver => exact .of_service fun _ _ h => revokeWaiver_step h
  | createBillingWaiver => exact .of_service fun _ _ h => createBillingWaiver_step h
  | approveBillingWaiver => exact .of_service fun _ _ h => approveBillingWaiver_step h
  | rejectBillingWaiver => exact .of_service fun _ _ h => rejectBillingWaiver_step h
  | createDocument => exact createDocument_step

end Steps

/-! ## The totals of a trip -/

/-- Nothing has been recorded of the trip yet. -/
structure Uncosted (tripId : UUID) (s : Depot) : Prop where
  unreconciled : ∀ t, s.trips.get tripId = some t → t.reconciled = false
  costRows : ∀ r ∈ s.tripCosts, r.tripId ≠ tripId
  waivers : ∀ w ∈ s.operationalWaivers, w.entityId ≠ tripId

/-- The rows of costs are the tenant's of the trip, and once they are reconciled they are what the
totals say. -/
structure Costed (tripId : UUID) (s : Depot) : Prop where
  tenants : ∀ {t}, s.trips.get tripId = some t → ∀ r ∈ s.tripCosts, r.tripId = tripId →
    r.tenantId = t.tenantId
  totals : ∀ {t}, s.trips.get tripId = some t → t.reconciled = true →
    t.totalTransportCost = t.totalFuelCost + recordedCosts tripId s.toDb ∧
      t.actualMargin = t.actualRevenue - t.totalTransportCost

/-- The revenue of a reconciled trip is what its contract gives. -/
def Priced [Locale] (tripId : UUID) (s : Depot) : Prop :=
  ∀ t, s.trips.get tripId = some t → t.reconciled = true →
    t.actualRevenue = autoCalculateRevenue t.tenantId t s.toDb

/-- The true margin of the trip is not negative, or a waiver that a call granted allows it; a trip
whose costs were never reconciled is not asked for its margin. -/
def Governed (now : Instant) (calls : List MarginCall) (trip : Trip) (s : Depot) : Prop :=
  trip.reconciled = false ∨ 0 ≤ trip.trueMargin s.toDb ∨
    ∃ w ∈ s.operationalWaivers, w.allows now trip ∧ ∃ c ∈ calls, c.Grants w

section Runs

variable {tripId : UUID} {s p : Depot} {t t' : Trip} {c : MarginCall} {calls : List MarginCall}

theorem Uncosted.costed (h : Uncosted tripId s) : Costed tripId s where
  tenants _ r hr hk := absurd hk (h.costRows r hr)
  totals ht hrec := by
    rw [h.unreconciled _ ht] at hrec
    cases hrec

theorem Costed.totals_of_costs (hs : Costed tripId s) (ht : s.trips.get tripId = some t)
    (hcosts : t'.costs = t.costs)
    (hrows : recordedCosts tripId p.toDb = recordedCosts tripId s.toDb)
    (hrec : t'.reconciled = true) :
    t'.totalTransportCost = t'.totalFuelCost + recordedCosts tripId p.toDb ∧
      t'.actualMargin = t'.actualRevenue - t'.totalTransportCost := by
  simp only [Trip.costs, Prod.mk.injEq] at hcosts
  obtain ⟨_, hfuel, htransport, hrevenue, hmargin, hat⟩ := hcosts
  have htotals := hs.totals ht (by rwa [Trip.reconciled, ← hat])
  rwa [hfuel, htransport, hrevenue, hmargin, hrows]

variable [Locale]

theorem CostMove.tenant (h : CostMove tripId s t p t' c) : t'.tenantId = t.tenantId := by
  cases h with
  | kept costs => exact congrArg Prod.fst costs
  | reconciled _ costs => exact congrArg Prod.fst costs
  | refuelled _ tenant => exact tenant
  | associated costs => exact congrArg Prod.fst costs

/-- Reconciling sums all the rows of the trip, since they are its tenant's. -/
theorem reconcileTripCosts_totals {now : Instant}
    (hcosts : t'.costs = (reconcileTripCosts now t.tenantId t p.toDb).costs)
    (hid : t.id = tripId)
    (htenants : ∀ r ∈ p.tripCosts, r.tripId = tripId → r.tenantId = t.tenantId) :
    t'.totalTransportCost = t'.totalFuelCost + recordedCosts tripId p.toDb ∧
      t'.actualMargin = t'.actualRevenue - t'.totalTransportCost := by
  simp only [Trip.costs, reconcileTripCosts, Prod.mk.injEq] at hcosts
  obtain ⟨_, hfuel, htransport, hrevenue, hmargin, _⟩ := hcosts
  have hsum : p.tripCosts.sumWhere (fun r => r.tenantId = t.tenantId && r.tripId = t.id)
      TripCost.amount = recordedCosts tripId p.toDb := by
    refine Table.sumWhere_congr fun r hr => ?_
    by_cases hk : r.tripId = tripId
    · simp [hk, hid, htenants r hr hk]
    · simp [hk, hid]
  constructor
  · rw [htransport, hfuel, hsum]
  · rw [hmargin, hrevenue, htransport]

theorem Costed.step (hs : Costed tripId s) (hc : c.KeepsFuel tripId s) :
    Costed tripId (c.step s) := by
  have hstep := c.step_margin s
  have htenants : ∀ {t'}, (c.step s).trips.get tripId = some t' → ∀ r ∈ (c.step s).tripCosts,
      r.tripId = tripId → r.tenantId = t'.tenantId := by
    intro t' ht' r hr hk
    obtain ⟨t, ht, hmove⟩ := hstep.trips ht'
    rw [hmove.tenant]
    rcases hstep.costRows r hr with hr | ⟨t₀, ht₀, hten⟩
    · exact hs.tenants ht r hr hk
    · rw [hk, ht] at ht₀
      cases ht₀
      exact hten.symm
  refine ⟨htenants, fun {t'} ht' hrec => ?_⟩
  obtain ⟨t, ht, hmove⟩ := hstep.trips ht'
  have hten := hmove.tenant
  cases hmove with
  | kept costs _ _ rows => exact hs.totals_of_costs ht costs rows hrec
  | associated costs rows => exact hs.totals_of_costs ht costs rows hrec
  | reconciled _ costs =>
    exact reconcileTripCosts_totals costs (Table.key_of_get ht) (hten ▸ htenants ht')
  | refuelled trip _ reconciledAt =>
    -- fuel only goes on a trip that is not reconciled, and leaves it so
    have hopen := hc trip
    rw [ht, Option.all_some, Trip.reconciled, ← reconciledAt] at hopen
    rw [Trip.reconciled] at hrec
    rw [hrec] at hopen
    cases hopen

theorem Priced.step (hs : Priced tripId s) (hfuel : c.KeepsFuel tripId s)
    (hcontract : c.KeepsContract tripId s) : Priced tripId (c.step s) := by
  have hstep := c.step_margin s
  intro t' ht' hrec
  obtain ⟨t, ht, hmove⟩ := hstep.trips ht'
  have hten := hmove.tenant
  have hrevenue (hm : t'.measures = t.measures) (hk : t'.contractId = t.contractId) :
      ∀ {db : Db}, (c.step s).contracts = db.contracts →
        (c.step s).knownRoutes = db.knownRoutes →
        (c.step s).contractTariffs = db.contractTariffs →
        autoCalculateRevenue t.tenantId t' (c.step s).toDb =
          autoCalculateRevenue t.tenantId t db := by
    intro db h₁ h₂ h₃
    simp only [Trip.measures, Prod.mk.injEq] at hm
    obtain ⟨ho, hd, hw, hv, hks, hke⟩ := hm
    exact autoCalculateRevenue_congr hk ho hd hw hv hks hke h₁ h₂ h₃
  rw [hten]
  cases hmove with
  | kept costs measures contract _ =>
    simp only [Trip.costs, Prod.mk.injEq] at costs
    obtain ⟨_, _, _, hrev, _, hat⟩ := costs
    rw [hrevenue measures contract hstep.contracts hstep.knownRoutes hstep.contractTariffs, hrev]
    exact hs t ht (by rwa [Trip.reconciled, ← hat])
  | reconciled _ costs measures contract =>
    simp only [Trip.costs, Prod.mk.injEq] at costs
    rw [hrevenue measures contract rfl rfl rfl]
    exact costs.2.2.2.1
  | refuelled trip _ reconciledAt =>
    have hopen := hfuel trip
    rw [ht, Option.all_some, Trip.reconciled, ← reconciledAt] at hopen
    rw [Trip.reconciled] at hrec
    rw [hrec] at hopen
    cases hopen
  | associated costs =>
    simp only [Trip.costs, Prod.mk.injEq] at costs
    have hopen := hcontract rfl
    rw [ht, Option.all_some, Trip.reconciled, ← costs.2.2.2.2.2] at hopen
    rw [Trip.reconciled] at hrec
    rw [hrec] at hopen
    cases hopen

/-- A waiver that allows a margin was granted by a call of the run. -/
theorem granted_of_allows {now : Instant} {w : OperationalWaiver} (hs : Uncosted tripId s)
    (hw : w ∈ (exec MarginCall.step s calls).operationalWaivers) (hallows : w.allows now t)
    (hid : t.id = tripId) : ∃ c ∈ calls, c.Grants w := by
  have hstart : w ∉ s.operationalWaivers := fun h => hs.waivers w h (hallows.2.2.1.trans hid)
  have hstep (s : Depot) (c : MarginCall) (h : w ∉ s.operationalWaivers) :
      w ∉ (c.step s).operationalWaivers ∨ c.Grants w := by
    by_cases hw' : w ∈ (c.step s).operationalWaivers
    · rcases (c.step_margin s).waivers w hw' hallows.2.2.2.2.1 with h' | hgrants
      · exact absurd h' h
      · exact .inr hgrants
    · exact .inl hw'
  have hrun : w ∉ (exec MarginCall.step s calls).operationalWaivers ∨
      ∃ before c after, calls = before ++ c :: after ∧ c.Grants w :=
    exec_or_event (I := fun s : Depot => w ∉ s.operationalWaivers)
      (E := fun _ (c : MarginCall) => c.Grants w) hstep hstart
  rcases hrun with h | ⟨before, c, after, rfl, hc⟩
  · exact absurd hw h
  · exact ⟨c, by simp, hc⟩

/-- From a trip of which nothing is recorded, in a run that puts no fuel on it after its costs were
reconciled: its total is that of its rows, an invoice takes it only as it should, and its revenue
is its contract's as long as no other contract is associated with it after its costs were
reconciled. -/
theorem margin_governed (hs : Uncosted tripId s)
    (hfuel : Along MarginCall.step (fun s c => c.KeepsFuel tripId s) s calls) :
    (∀ trip, (exec MarginCall.step s calls).trips.get tripId = some trip →
      trip.reconciled = true →
      trip.totalTransportCost =
        trip.totalFuelCost + recordedCosts tripId (exec MarginCall.step s calls).toDb) ∧
    (∀ now tenantId payload,
      ∀ i ∈ (createDocument now tenantId payload
        (exec MarginCall.step s calls).toDb).2.billingItems,
      i ∉ (exec MarginCall.step s calls).billingItems → i.tripId = some tripId →
      ∃ trip, (exec MarginCall.step s calls).trips.get tripId = some trip ∧
        Governed now calls trip (exec MarginCall.step s calls)) ∧
    (Along MarginCall.step (fun s c => c.KeepsContract tripId s) s calls →
      Priced tripId (exec MarginCall.step s calls)) := by
  have hcosted : Costed tripId (exec MarginCall.step s calls) :=
    exec_inv (fun _ _ hI hc => hI.step hc) hs.costed hfuel
  refine ⟨fun trip ht hrec => (hcosted.totals ht hrec).1, ?_, fun hcontract => ?_⟩
  · intro now tenantId payload i hi hnew hid
    rcases createDocument_checked.2 i hi with hold | ⟨_, hid', trip, ht, _, hmargin⟩
    · exact absurd hold hnew
    rw [hid] at hid'
    cases hid'
    refine ⟨trip, ht, ?_⟩
    cases hrec : trip.reconciled with
    | false => exact .inl hrec
    | true =>
      obtain ⟨htotal, hm⟩ := hcosted.totals ht hrec
      rcases hmargin with h | h | ⟨w, hw, hallows⟩
      · rw [hrec] at h; cases h
      · refine .inr (.inl ?_)
        rw [Trip.trueMargin, show trip.id = tripId from Table.key_of_get ht]
        omega
      · exact .inr (.inr ⟨w, hw, hallows, granted_of_allows hs hw hallows (Table.key_of_get ht)⟩)
  · have hstart : Priced tripId s := fun t ht hrec => by
      rw [hs.unreconciled t ht] at hrec
      cases hrec
    exact exec_inv (fun _ _ hI hc => hI.step hc.1 hc.2) hstart (along_and hfuel hcontract)

end Runs

/-! ## Around the approval -/

/-- A delivered trip that waits for its invoice, at 100.00, and a tank of fuel at 1.00 a liter. -/
def tripDepot : Depot where
  contracts := .single
    { id := 1, tenantId := 1, clientName := "Cliente", contractReference := "CT-1"
      defaultUnitPrice := some 10000 }
  trips := .single
    { id := 1, tenantId := 1, contractId := some 1, vehicleId := 1, driverId := 1
      origin := "Maputo", destination := "Beira", status := .closed, billingStatus := .billable }
  deliveryProofs := .single
    { id := 1, tenantId := 1, tripId := 1, deliveredAt := 100, status := .validated }
  vehicles := .single { id := 1, tenantId := 1, plate := "AAA-111-MC" }
  drivers := .single { id := 1, tenantId := 1 }
  fuelTanks := .single
    { id := 1, tenantId := 1, capacityLiters := 200000, currentStockLiters := 100000
      averageUnitCost := 100 }

/-- 200 liters for the trip. -/
def refuelTrip : MarginCall :=
  .createVehicleRefuel 1
    { tankId := 1, vehicleId := 1, driverId := 1, tripId := some 1, liters := 200
      odometerReading := 10, refueledAt := 150 } none

def tollCost (amount : ℚ) : MarginCall :=
  .recordTripCost 200 1 1
    { costType := "toll", amount, requestReference := "R-1", incurredAt := 150 } none

def invoiceOfTrip : BillingDocumentCreate where
  contractId := some 1
  billingPeriodStart := 0
  billingPeriodEnd := 1000
  tripIds := [1]
  periods := zero_lt_thousand

/-- The generic endpoint, asked for the type of an approval. -/
def grantAtOnce : MarginCall :=
  .createWaiver 210 1
    { entityType := "trip", entityId := 1, waiverType := negativeMarginApprovalWaiver
      reason := "margem aprovada" } (some 1)

theorem uncosted_tripDepot : Uncosted 1 tripDepot where
  unreconciled t ht := by cases ht; rfl
  costRows _ hr := nomatch hr
  waivers _ hw := nomatch hw

/-- A costly trip, granted its negative margin. -/
def waivedRun : List MarginCall := [refuelTrip, tollCost 500, grantAtOnce]

theorem margin_governed_waived :
    ((exec (@MarginCall.step .ascii) tripDepot waivedRun).trips.get 1).any Trip.reconciled ∧
      ∀ trip, (exec (@MarginCall.step .ascii) tripDepot waivedRun).trips.get 1 = some trip →
        trip.reconciled = true →
        trip.totalTransportCost = trip.totalFuelCost +
          recordedCosts 1 (exec (@MarginCall.step .ascii) tripDepot waivedRun).toDb := by
  have hfuel : Along (@MarginCall.step .ascii) (fun s c => c.KeepsFuel 1 s) tripDepot waivedRun :=
    ⟨fun _ => by decide +kernel, trivial, trivial, trivial⟩
  exact ⟨by decide +kernel, (@margin_governed _ _ _ .ascii uncosted_tripDepot hfuel).1⟩

def MarginCall.approves : MarginCall → Bool
  | .approveBillingWaiver .. => true
  | _ => false

/-- After the calls, none of which approves a waiver, the trip is billed at a loss. -/
def BilledAtLoss (calls : List MarginCall) : Bool :=
  let s := exec (@MarginCall.step .ascii) tripDepot calls
  calls.all (!·.approves) && (s.trips.get 1).any (fun t => t.trueMargin s.toDb < 0) &&
    (serve (atomic (createDocument 300 1 invoiceOfTrip)) s.toDb).1.isOk

/-- A trip is billed at a loss when its costs were never reconciled, when the generic endpoint
grants the waiver at once, and when the fuel came after the reconciliation; in the last case the
total is not the sum of its parts either. -/
theorem margin_ungoverned :
    BilledAtLoss [refuelTrip] = true ∧ BilledAtLoss [tollCost 500, grantAtOnce] = true ∧
      BilledAtLoss [tollCost 10, refuelTrip] = true ∧
      ((exec (@MarginCall.step .ascii) tripDepot [tollCost 10, refuelTrip]).trips.get 1).any
        (fun t => t.reconciled && t.totalTransportCost ≠ t.totalFuelCost + recordedCosts 1
          (exec (@MarginCall.step .ascii) tripDepot [tollCost 10, refuelTrip]).toDb) = true := by
  decide +kernel

end Rotas
