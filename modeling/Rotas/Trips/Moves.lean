import Rotas.Trips.Operations

/-!
# Rotas.Trips.Moves

What an accepted call does to the rows of the trips, once for all that is proved about them.

* `TripMove`  — all that a call can make of the row of a trip, with the guard it passed.
* `NewTrip`   — the rows that appear.
* `run_trips` — an accepted call moves every trip by `TripMove` and adds only `NewTrip`s.
-/

namespace Rotas

/-- The trip as a new delivery proof leaves it. -/
def provenTrip (payload : DeliveryProofCreate) (trip : Trip) : Trip :=
  { trip with
    status := .delivered
    actualArrival := some payload.deliveredAt
    deliveryFileId := payload.fileId
    cargoStatus := some payload.cargoCondition
    billingStatus := .pendingDeliveryValidation }

section

variable [Locale]

/-- What an accepted call in state `f` can make of `t`, the row of trip `k`. -/
inductive TripMove (f : Fleet) (k : UUID) (t : Trip) : OpsCall → Trip → Prop where
  | same (c : OpsCall) : TripMove f k t c t
  | start {now : Instant} {tenantId : UUID} {payload : StartTripRequest} :
      t.tenantId = tenantId → t.status ∈ [TripStatus.draft, .planned, .dispatched] →
      TripMove f k t (.trips (.startTrip now tenantId k payload)) (startedTrip now payload t)
  | request {tenantId : UUID} :
      t.tenantId = tenantId → t.status ∈ [TripStatus.draft, .planned] →
      (∀ c ∈ f.dispatchClearances, c.tenantId = tenantId → c.tripId ≠ k) →
      TripMove f k t (.trips (.requestDispatchClearance tenantId k))
        { t with status := .dispatchPending }
  | dispatch {now : Instant} {tenantId : UUID} {payload : TripDispatchRequest}
      {c : DispatchClearance} :
      t.tenantId = tenantId → t.status ∈ [TripStatus.planned, .dispatchPending] →
      c ∈ f.dispatchClearances → c.tenantId = tenantId → c.tripId = k →
      c.clearanceStatus = .approved →
      TripMove f k t (.trips (.dispatchTrip now tenantId k payload)) (dispatchedTrip now payload t)
  | late {now : Instant} {tenantId : UUID} :
      t.breachesSla now tenantId = true →
      TripMove f k t (.trips (.evaluateDeliverySla now tenantId)) { t with status := .delayed }
  | report {now : Instant} {tenantId incidentId : UUID} {payload : TripIncidentCreate}
      {actorId : Option UUID} {severity : Severity} :
      t.tenantId = tenantId → Severity.ofText payload.severity = some severity →
      TripMove f k t (.trips (.createIncident now tenantId k incidentId payload actorId))
        (reportedTrip severity t)
  | complete {now : Instant} {tenantId : UUID} {payload : CompleteTripRequest} :
      t.tenantId = tenantId → t.status = .inProgress →
      TripMove f k t (.trips (.completeTrip now tenantId k payload)) (completedTrip now payload t)
  | close {now : Instant} {tenantId : UUID} {payload : OperationalCloseTripRequest}
      {actorId : Option UUID} :
      t.tenantId = tenantId → t.status ≠ .closed →
      closeChecks now tenantId t f.toDb = .ok () →
      TripMove f k t (.trips (.operationalCloseTrip now tenantId k payload actorId))
        (closeTrip now tenantId payload actorId f.toDb t)
  | associate {now : Instant} {tenantId contractId : UUID} {contract : Contract} :
      t.tenantId = tenantId → f.contracts.get contractId = some contract →
      contract.tenantId = tenantId →
      TripMove f k t (.trips (.associateContract now tenantId k contractId))
        (contractedTrip now contract t)
  | cost {now : Instant} {tenantId : UUID} {payload : TripCostCreate} {actorId : Option UUID}
      {db : Db} :
      t.tenantId = tenantId →
      TripMove f k t (.trips (.recordTripCost now tenantId k payload actorId))
        (reconcileTripCosts now tenantId t db)
  | patch {tenantId : UUID} {patch : TripPatch} :
      t.tenantId = tenantId →
      TripMove f k t (.trips (.patchTrip tenantId k patch)) (patchedTrip patch t)
  | deliver {tenantId : UUID} {payload : DeliveryProofCreate} :
      t.tenantId = tenantId →
      TripMove f k t (.proofs (.createDeliveryProof tenantId k payload)) (provenTrip payload t)
  | accept {now : Instant} {tenantId proofId userId : UUID} {proof : DeliveryProof} :
      f.deliveryProofs.get proofId = some proof → proof.tenantId = tenantId → proof.tripId = k →
      proof.status = .pending →
      TripMove f k t (.proofs (.acceptDeliveryProof now tenantId proofId userId))
        { t with billingStatus := .billable }
  | validate {now : Instant} {tenantId proofId : UUID} {userId : Option UUID}
      {payload : ValidateDeliveryProofRequest} {proof : DeliveryProof} :
      t.tenantId = tenantId → f.deliveryProofs.get proofId = some proof →
      proof.tenantId = tenantId → proof.tripId = k →
      proof.status ∉ [ProofStatus.validated, .verified, .disputed] →
      TripMove f k t (.proofs (.validateDeliveryProof now tenantId k proofId userId payload))
        (t.readyForBilling now)
  | dispute {tenantId proofId : UUID} {payload : DisputeDeliveryProofRequest}
      {proof : DeliveryProof} :
      t.tenantId = tenantId → f.deliveryProofs.get proofId = some proof →
      proof.tenantId = tenantId → proof.tripId = k → proof.status ≠ .disputed →
      t.billingStatus ∉ [BillingStatus.billingDraft, .billed] →
      TripMove f k t (.proofs (.disputeDeliveryProof tenantId k proofId payload))
        { t with billingStatus := .deliveryDisputed, billableAt := none }
  | settle {now : Instant} {tenantId proofId : UUID} {userId : Option UUID}
      {payload : ResolveDeliveryProofDisputeRequest} {proof : DeliveryProof} :
      t.tenantId = tenantId → f.deliveryProofs.get proofId = some proof →
      proof.tenantId = tenantId → proof.tripId = k → proof.status = .disputed →
      payload.outcome = "validated" →
      TripMove f k t (.proofs (.resolveDeliveryProofDispute now tenantId k proofId userId payload))
        (t.readyForBilling now)
  | reopen {now : Instant} {tenantId proofId : UUID} {userId : Option UUID}
      {payload : ResolveDeliveryProofDisputeRequest} {proof : DeliveryProof} :
      t.tenantId = tenantId → f.deliveryProofs.get proofId = some proof →
      proof.tenantId = tenantId → proof.tripId = k → proof.status = .disputed →
      payload.outcome = "rejected" →
      TripMove f k t (.proofs (.resolveDeliveryProofDispute now tenantId k proofId userId payload))
        { t with billingStatus := .pendingDeliveryProof, billableAt := none }

/-- A row that an accepted call in state `f` can add. -/
inductive NewTrip [Interpreter] (f : Fleet) : OpsCall → Trip → Prop where
  | create {now : Instant} {tenantId id : UUID} {payload : TripCreate} {vehicle : Vehicle}
      {driver : Driver} {contractReference : Option String} :
      requireVehicleAvailable now tenantId payload.vehicleId none f = .ok vehicle →
      requireDriverAvailable now tenantId payload.driverId none f = .ok driver →
      NewTrip f (.trips (.createTrip now tenantId payload))
        (newTrip tenantId payload contractReference id)
  | plan {now : Instant} {tenantId orderId id : UUID} {payload : TripOrderAssignRequest}
      {actorId : Option UUID} {order : TripOrder} {vehicle : Vehicle} {driver : Driver} :
      f.tripOrders.get orderId = some order → order.tenantId = tenantId →
      requireVehicleAvailable now tenantId payload.vehicleId none f = .ok vehicle →
      requireDriverAvailable now tenantId payload.driverId none f = .ok driver →
      NewTrip f (.orders (.assignTripOrder now tenantId orderId payload actorId))
        (tripOfOrder tenantId order payload f.toDb id)

/-- A clearance that the call approves: every check made, every document of its trip there. -/
structure Approval (f : Fleet) (c : OpsCall) (cl : DispatchClearance) (trip : Trip) : Prop where
  call : ∃ now tenantId payload actorId,
    c = .trips (.approveDispatchClearance now tenantId cl.tripId payload actorId)
  row : f.trips.get cl.tripId = some trip
  tenant : trip.tenantId = cl.tenantId
  checks : ∀ check ∈ cl.checks, check.2 = true
  documents : missingRequiredCargoDocuments cl.tenantId trip f.toDb = []

/-- The tables around the trips. -/
structure Around where
  tenants : Table Tenant
  vehicles : Table Vehicle
  drivers : Table Driver
  loadPermits : Table LoadPermit
  cargoManifests : Table CargoManifest
  transportDocuments : Table TransportDocument
  dispatchClearances : Table DispatchClearance
  deliveryProofs : Table DeliveryProof
  operationalWaivers : Table OperationalWaiver

def Fleet.around (f : Fleet) : Around :=
  { tenants := f.tenants, vehicles := f.vehicles, drivers := f.drivers
    loadPermits := f.loadPermits, cargoManifests := f.cargoManifests
    transportDocuments := f.transportDocuments, dispatchClearances := f.dispatchClearances
    deliveryProofs := f.deliveryProofs, operationalWaivers := f.operationalWaivers }

/-- What a call does around the trips: vehicles, drivers and waivers stay, papers are only added, a
policy changes by its own call, delivery proofs by theirs, and an approved clearance stays as it
is. -/
structure TripFrame (c : OpsCall) (f p : Fleet) : Prop where
  vehicles : p.vehicles = f.vehicles
  drivers : p.drivers = f.drivers
  waivers : p.operationalWaivers = f.operationalWaivers
  permits : ∀ r ∈ f.loadPermits, r ∈ p.loadPermits
  manifests : ∀ r ∈ f.cargoManifests, r ∈ p.cargoManifests
  documents : ∀ r ∈ f.transportDocuments, r ∈ p.transportDocuments
  policy : ∀ tenantId, tenantPolicy tenantId p.toDb = tenantPolicy tenantId f.toDb ∨
    ∃ compliancePolicy, c = .policy tenantId compliancePolicy ∧
      tenantPolicy tenantId p.toDb = compliancePolicy
  kept : ∀ k cl, f.dispatchClearances.get k = some cl → cl.clearanceStatus = .approved →
    p.dispatchClearances.get k = some cl
  approvals : ∀ k cl, p.dispatchClearances.get k = some cl → cl.clearanceStatus = .approved →
    f.dispatchClearances.get k = some cl ∨ ∃ trip, Approval f c cl trip
  proofs : (∃ pc, c = .proofs pc) ∨ p.deliveryProofs = f.deliveryProofs

theorem TripFrame.of_eq {c : OpsCall} {f p : Fleet} (h : p.around = f.around) :
    TripFrame c f p := by
  simp only [Fleet.around, Around.mk.injEq] at h
  obtain ⟨htenants, hvehicles, hdrivers, hpermits, hmanifests, hdocuments, hclearances, hproofs,
    hwaivers⟩ := h
  exact {
    vehicles := hvehicles
    drivers := hdrivers
    waivers := hwaivers
    permits _ hr := hpermits ▸ hr
    manifests _ hr := hmanifests ▸ hr
    documents _ hr := hdocuments ▸ hr
    policy _ := .inl (by rw [tenantPolicy, htenants]; rfl)
    kept _ _ hk _ := hclearances ▸ hk
    approvals _ _ hk _ := .inl (hclearances ▸ hk)
    proofs := .inr hproofs }

/-- Nothing around the trips has changed but the proofs, by one of their calls. -/
theorem TripFrame.of_proofs {pc : ProofCall} {f p : Fleet}
    (h : { p.around with deliveryProofs := f.deliveryProofs } = f.around) :
    TripFrame (.proofs pc) f p :=
  { TripFrame.of_eq (c := .proofs pc) (f := f) (p := { p with deliveryProofs := f.deliveryProofs }) h
    with proofs := .inl ⟨pc, rfl⟩ }

/-- What an accepted call does to the trips and around them. -/
structure TripStep [Interpreter] (c : OpsCall) (f p : Fleet) : Prop extends TripFrame c f p where
  moves : ∀ k t, f.trips.get k = some t → ∃ t', p.trips.get k = some t' ∧ TripMove f k t c t'
  fresh : ∀ k t', f.trips.get k = none → p.trips.get k = some t' → NewTrip f c t'

end

section

/-- No check is missing: each was made, and each document is there. -/
theorem missingChecks_eq_nil {cl : DispatchClearance} {documents : List String}
    (h : missingChecks cl documents = []) :
    (∀ check ∈ cl.checks, check.2 = true) ∧ documents = [] := by
  simp only [missingChecks, List.append_eq_nil_iff, List.map_eq_nil_iff, List.filter_eq_nil_iff,
    Bool.not_eq_true, Bool.not_eq_false'] at h
  exact h

end

section Step

variable [Locale] {c : OpsCall} {f p : Fleet} {q : Db} {now : Instant}
  {tenantId tripId proofId a : UUID} {actorId : Option UUID}

theorem TripFrame.of_clearances
    (h : { p.around with dispatchClearances := f.dispatchClearances } = f.around)
    (hkept : ∀ k cl, f.dispatchClearances.get k = some cl → cl.clearanceStatus = .approved →
      p.dispatchClearances.get k = some cl)
    (happrovals : ∀ k cl, p.dispatchClearances.get k = some cl → cl.clearanceStatus = .approved →
      f.dispatchClearances.get k = some cl ∨ ∃ trip, Approval f c cl trip) : TripFrame c f p :=
  { TripFrame.of_eq (c := c) (f := f) (p := { p with dispatchClearances := f.dispatchClearances }) h
    with kept := hkept, approvals := happrovals }

/-- The row of a clearance that is not approved yet, rewritten. -/
theorem TripFrame.of_checked {cl : DispatchClearance} {g : DispatchClearance → DispatchClearance}
    {hg : ∀ cl, Keyed.key (g cl) = Keyed.key cl} (hcl : cl ∈ f.dispatchClearances)
    (hopen : cl.clearanceStatus ≠ .approved)
    (hg' : (g cl).clearanceStatus = .approved → ∃ trip, Approval f c (g cl) trip) :
    TripFrame c f { f with dispatchClearances := f.dispatchClearances.modify cl.id g hg } := by
  have hget : f.dispatchClearances.get cl.id = some cl := Table.get_of_mem hcl
  refine .of_clearances rfl (fun k cl' hk happroved => ?_) fun k cl' hk happroved => ?_
  · have hne : k ≠ cl.id := by
      rintro rfl
      rw [hget] at hk
      cases hk
      exact hopen happroved
    rw [Table.get_modify_ne hne]
    exact hk
  · rw [Table.get_modify] at hk
    split at hk
    · rw [hget] at hk
      cases hk
      exact .inr (hg' happroved)
    · exact .inl hk

variable [Interpreter]

theorem TripStep.of_trips (h : p.trips = f.trips)
    (hframe : TripFrame c f p) : TripStep c f p where
  toTripFrame := hframe
  moves k t ht := ⟨t, h ▸ ht, .same c⟩
  fresh k t' ht ht' := by
    rw [h, ht] at ht'
    cases ht'

theorem TripStep.of_modify {g : Trip → Trip} {trip : Trip}
    (hp : ∀ k, p.trips.get k = if k = tripId then (f.trips.get tripId).map g else f.trips.get k)
    (htrip : f.trips.get tripId = some trip) (hmove : TripMove f tripId trip c (g trip))
    (hframe : TripFrame c f p) : TripStep c f p where
  toTripFrame := hframe
  moves k t ht := by
    rw [hp]
    split
    · next hk =>
      subst hk
      rw [htrip] at ht
      cases ht
      exact ⟨g trip, by rw [htrip, Option.map_some], hmove⟩
    · exact ⟨t, ht, .same c⟩
  fresh k t' ht ht' := by
    rw [hp] at ht'
    split at ht'
    · next hk => subst hk; rw [htrip] at ht; cases ht
    · rw [ht] at ht'; cases ht'

theorem TripStep.of_insert {trip : Trip}
    (hp : ∀ k, p.trips.get k = if k = f.trips.freshKey then some trip else f.trips.get k)
    (hnew : NewTrip f c trip) (hframe : TripFrame c f p) :
    TripStep c f p where
  toTripFrame := hframe
  moves k t ht := by
    have hne : k ≠ f.trips.freshKey := by
      rintro rfl
      rw [Table.get_freshKey] at ht
      cases ht
    exact ⟨t, by rw [hp, if_neg hne]; exact ht, .same c⟩
  fresh k t' ht ht' := by
    rw [hp] at ht'
    split at ht'
    · cases ht'; exact hnew
    · rw [ht] at ht'; cases ht'

/-! ## The services of the trip module -/

theorem createTrip_trips {payload : TripCreate} (h : createTrip now tenantId payload f = .ok (a, p)) :
    TripStep (.trips (.createTrip now tenantId payload)) f p := by
  simp only [createTrip, bind_eq_ok, pure, Except.pure, Except.ok.injEq, Prod.mk.injEq] at h
  obtain ⟨⟨vehicle, driver⟩, havail, _, _, contractReference, _, _, _, _, _, _, _, rfl, rfl⟩ := h
  obtain ⟨hv, hd⟩ := requireVehicleAndDriverAvailable_eq_ok.mp havail
  exact .of_insert (fun k => by rw [Table.get_insert]) (.create hv hd) (.of_eq rfl)

theorem startTrip_trips {payload : StartTripRequest}
    (h : startTrip now tenantId tripId payload f.toDb = .ok (a, q)) :
    TripStep (.trips (.startTrip now tenantId tripId payload)) f { f with toDb := q } := by
  simp only [startTrip, bind_eq_ok, requireTrip_eq_ok, raiseIf_eq_ok, pure, Except.pure,
    Except.ok.injEq, Prod.mk.injEq, decide_eq_false_iff_not, Decidable.not_not] at h
  obtain ⟨trip, ⟨htrip, hten⟩, _, hstatus, _, _, rfl, rfl⟩ := h
  exact .of_modify (fun k => by rw [Table.get_modify]) htrip (.start hten hstatus) (.of_eq rfl)

theorem requestDispatchClearance_trips
    (h : requestDispatchClearance tenantId tripId f = .ok (a, p)) :
    TripStep (.trips (.requestDispatchClearance tenantId tripId)) f p := by
  simp only [requestDispatchClearance, bind_eq_ok, requireTrip_eq_ok, raiseIf_eq_ok,
    decide_eq_false_iff_not, Decidable.not_not] at h
  obtain ⟨trip, ⟨htrip, hten⟩, _, hstatus, h⟩ := h
  split at h
  · cases h
    exact .of_trips rfl (.of_eq rfl)
  · next hnone =>
    cases h
    refine .of_modify (fun k => by rw [Table.get_modify]) htrip (.request hten hstatus ?_)
      (.of_clearances rfl (fun k cl hk _ => ?_) fun k cl hk happroved => ?_)
    · intro c hc hcten hctrip
      exact absurd (List.find?_eq_none.mp hnone c hc) (by simp [hcten, hctrip])
    · have hne : k ≠ f.dispatchClearances.freshKey := by
        rintro rfl
        rw [Table.get_freshKey] at hk
        cases hk
      rw [Table.get_insert, if_neg hne]
      exact hk
    · rw [Table.get_insert] at hk
      split at hk
      · cases hk; cases happroved
      · exact .inl hk

theorem approveDispatchClearance_trips {payload : DispatchClearanceApproveRequest}
    (h : approveDispatchClearance now tenantId tripId payload actorId f = .ok (a, p)) :
    TripStep (.trips (.approveDispatchClearance now tenantId tripId payload actorId)) f p := by
  simp only [approveDispatchClearance, bind_eq_ok, requireTrip_eq_ok, require_eq_ok] at h
  obtain ⟨trip, ⟨htrip, hten⟩, cl, hfound, h⟩ := h
  have hcl := List.mem_of_find?_eq_some hfound
  have hkeys := List.find?_some hfound
  simp only [Bool.and_eq_true, decide_eq_true_eq] at hkeys
  split at h
  · cases h
    exact .of_trips rfl (.of_eq rfl)
  · next hopen =>
    split at h
    · cases h
      exact .of_trips rfl (.of_checked hcl hopen fun happroved => by cases happroved)
    · next hmade =>
      simp only [bind_eq_ok] at h
      obtain ⟨_, _, h⟩ := h
      cases h
      obtain ⟨hchecks, hdocuments⟩ := missingChecks_eq_nil (not_not.mp hmade)
      have happroval : Approval f
          (.trips (.approveDispatchClearance now tenantId tripId payload actorId))
          (approvedClearance now actorId (checkedClearance payload trip
            (missingRequiredCargoDocuments tenantId trip f.toDb) cl)) trip :=
        { call := ⟨now, tenantId, payload, actorId, by rw [← hkeys.2]; rfl⟩
          row := (congrArg f.trips.get hkeys.2).trans htrip
          tenant := hten.trans hkeys.1.symm
          checks := hchecks
          documents := (congrArg (missingRequiredCargoDocuments · trip f.toDb) hkeys.1).trans
            hdocuments }
      exact .of_trips rfl (.of_checked hcl hopen fun _ => ⟨trip, happroval⟩)

theorem dispatchTrip_trips {payload : TripDispatchRequest}
    (h : dispatchTrip now tenantId tripId payload f = .ok (a, p)) :
    TripStep (.trips (.dispatchTrip now tenantId tripId payload)) f p := by
  simp only [dispatchTrip, bind_eq_ok, requireTrip_eq_ok, require_eq_ok, raiseIf_eq_ok, pure,
    Except.pure, Except.ok.injEq, Prod.mk.injEq, decide_eq_false_iff_not, Decidable.not_not] at h
  obtain ⟨trip, ⟨htrip, hten⟩, c, hfound, _, hstatus, _, _, rfl, rfl⟩ := h
  have hc := List.find?_some hfound
  simp only [Bool.and_eq_true, decide_eq_true_eq] at hc
  obtain ⟨⟨hcten, hctrip⟩, happroved⟩ := hc
  exact .of_modify (fun k => by rw [Table.get_modify]) htrip
    (.dispatch hten hstatus (List.mem_of_find?_eq_some hfound) hcten hctrip happroved) (.of_eq rfl)

theorem evaluateDeliverySla_trips {late : List UUID}
    (h : evaluateDeliverySla now tenantId f.toDb = .ok (late, q)) :
    TripStep (.trips (.evaluateDeliverySla now tenantId)) f { f with toDb := q } := by
  simp only [evaluateDeliverySla, Except.ok.injEq, Prod.mk.injEq] at h
  obtain ⟨_, rfl⟩ := h
  constructor
  case toTripFrame => exact .of_eq rfl
  case moves =>
    intro k t ht
    refine ⟨if t.breachesSla now tenantId then { t with status := .delayed } else t,
      by rw [Table.get_modifyAll, ht, Option.map_some], ?_⟩
    split
    · next hlate => exact .late hlate
    · exact .same _
  case fresh =>
    intro k t' ht ht'
    rw [Table.get_modifyAll, ht] at ht'
    cases ht'

theorem createIncident_trips {incidentId : UUID} {payload : TripIncidentCreate}
    (h : createIncident now tenantId tripId incidentId payload actorId f.toDb = .ok (a, q)) :
    TripStep (.trips (.createIncident now tenantId tripId incidentId payload actorId)) f
      { f with toDb := q } := by
  obtain ⟨rfl, trip, severity, _, htrip, hten, _, hseverity, _, rfl⟩ := createIncident_eq_ok.mp h
  exact .of_modify (fun k => by rw [Table.get_modify]) htrip (.report hten hseverity) (.of_eq rfl)

theorem resolveIncident_trips {incidentId : UUID} {payload : TripIncidentResolveRequest}
    (h : resolveIncident now tenantId tripId incidentId payload actorId f.toDb = .ok (a, q)) :
    TripStep c f { f with toDb := q } := by
  obtain ⟨-, _, _, -, -, -, -, -, ⟨-, rfl⟩ | ⟨-, rfl⟩⟩ := resolveIncident_eq_ok.mp h
  · exact .of_trips rfl (.of_eq rfl)
  · exact .of_trips rfl (.of_eq rfl)

theorem completeTrip_trips {payload : CompleteTripRequest}
    (h : completeTrip now tenantId tripId payload f.toDb = .ok (a, q)) :
    TripStep (.trips (.completeTrip now tenantId tripId payload)) f { f with toDb := q } := by
  simp only [completeTrip, bind_eq_ok, requireTrip_eq_ok, raiseIf_eq_ok, pure, Except.pure,
    Except.ok.injEq, Prod.mk.injEq, decide_eq_false_iff_not, Decidable.not_not] at h
  obtain ⟨trip, ⟨htrip, hten⟩, _, hstatus, rfl, rfl⟩ := h
  exact .of_modify (fun k => by rw [Table.get_modify]) htrip (.complete hten hstatus) (.of_eq rfl)

theorem operationalCloseTrip_trips {payload : OperationalCloseTripRequest}
    (h : operationalCloseTrip now tenantId tripId payload actorId f.toDb = .ok (a, q)) :
    TripStep (.trips (.operationalCloseTrip now tenantId tripId payload actorId)) f
      { f with toDb := q } := by
  obtain ⟨-, trip, htrip, hten, ⟨-, rfl⟩ | ⟨hopen, hchecks, rfl⟩⟩ := operationalCloseTrip_eq_ok.mp h
  · exact .of_trips rfl (.of_eq rfl)
  · exact .of_modify (fun k => by rw [Table.get_modify]) htrip (.close hten hopen hchecks)
      (.of_eq rfl)

theorem associateContract_trips {contractId : UUID}
    (h : associateContract now tenantId tripId contractId f.toDb = .ok (a, q)) :
    TripStep (.trips (.associateContract now tenantId tripId contractId)) f
      { f with toDb := q } := by
  simp only [associateContract, bind_eq_ok, requireTrip_eq_ok, requireContract_eq_ok, pure,
    Except.pure, Except.ok.injEq, Prod.mk.injEq] at h
  obtain ⟨trip, ⟨htrip, hten⟩, contract, ⟨hcontract, hcten⟩, rfl, rfl⟩ := h
  exact .of_modify (fun k => by rw [Table.get_modify]) htrip (.associate hten hcontract hcten)
    (.of_eq rfl)

theorem recordTripCost_trips {payload : TripCostCreate}
    (h : recordTripCost now tenantId tripId payload actorId f.toDb = .ok (a, q)) :
    TripStep (.trips (.recordTripCost now tenantId tripId payload actorId)) f
      { f with toDb := q } := by
  simp only [recordTripCost, bind_eq_ok, requireTrip_eq_ok] at h
  obtain ⟨_, _, trip, ⟨htrip, hten⟩, h⟩ := h
  split at h
  · simp only [bind_eq_ok] at h
    obtain ⟨_, _, h⟩ := h
    cases h
    exact .of_trips rfl (.of_eq rfl)
  · cases h
    exact .of_modify (fun k => by rw [Table.get_modify]) htrip (.cost hten) (.of_eq rfl)

theorem patchTrip_trips {patch : TripPatch}
    (h : patchTrip tenantId tripId patch f.toDb = .ok (a, q)) :
    TripStep (.trips (.patchTrip tenantId tripId patch)) f { f with toDb := q } := by
  simp only [patchTrip, bind_eq_ok, requireTrip_eq_ok, pure, Except.pure, Except.ok.injEq,
    Prod.mk.injEq] at h
  obtain ⟨trip, ⟨htrip, hten⟩, _, _, rfl, rfl⟩ := h
  exact .of_modify (fun k => by rw [Table.get_modify]) htrip (.patch hten) (.of_eq rfl)

theorem TripCall.run_trips {c : TripCall} (h : c.run f = .ok (a, p)) : TripStep (.trips c) f p := by
  cases c with
  | createTrip => exact createTrip_trips h
  | startTrip => exact Fleet.onDb_ind h fun _ h => startTrip_trips h
  | requestDispatchClearance => exact requestDispatchClearance_trips h
  | approveDispatchClearance => exact approveDispatchClearance_trips h
  | dispatchTrip => exact dispatchTrip_trips h
  | evaluateDeliverySla =>
    rw [TripCall.run] at h
    refine Fleet.onDb_ind h fun q hq => ?_
    simp only [bind_eq_ok, pure, Except.pure, Except.ok.injEq, Prod.mk.injEq] at hq
    obtain ⟨⟨_, _⟩, hlate, rfl, rfl⟩ := hq
    exact evaluateDeliverySla_trips hlate
  | createIncident => exact Fleet.onDb_ind h fun _ h => createIncident_trips h
  | resolveIncident => exact Fleet.onDb_ind h fun _ h => resolveIncident_trips h
  | completeTrip => exact Fleet.onDb_ind h fun _ h => completeTrip_trips h
  | operationalCloseTrip => exact Fleet.onDb_ind h fun _ h => operationalCloseTrip_trips h
  | associateContract => exact Fleet.onDb_ind h fun _ h => associateContract_trips h
  | createStop =>
    refine Fleet.onDb_ind h fun q h => ?_
    simp only [Rotas.createStop, bind_eq_ok] at h
    obtain ⟨_, _, h⟩ := h
    cases h
    exact .of_trips rfl (.of_eq rfl)
  | recordTripCost => exact Fleet.onDb_ind h fun _ h => recordTripCost_trips h
  | patchTrip => exact Fleet.onDb_ind h fun _ h => patchTrip_trips h

/-! ## Orders, papers and the policy -/

theorem assignTripOrder_trips {orderId : UUID} {payload : TripOrderAssignRequest}
    (h : assignTripOrder now tenantId orderId payload actorId f = .ok (a, p)) :
    TripStep (.orders (.assignTripOrder now tenantId orderId payload actorId)) f p := by
  simp only [assignTripOrder, requireOrder, bind_eq_ok, require_eq_ok, raiseIf_eq_ok, pure,
    Except.pure, Except.ok.injEq, Prod.mk.injEq, decide_eq_false_iff_not, Decidable.not_not] at h
  obtain ⟨order, ⟨_, hget, _, hten, rfl⟩, _, _, ⟨vehicle, driver⟩, havail, _, _, _, _, rfl, rfl⟩ := h
  obtain ⟨hv, hd⟩ := requireVehicleAndDriverAvailable_eq_ok.mp havail
  exact .of_insert (fun k => by rw [Table.get_insert]) (.plan hget hten hv hd) (.of_eq rfl)

theorem OrderCall.run_trips {c : OrderCall} (h : c.run f = .ok (a, p)) :
    TripStep (.orders c) f p := by
  cases c with
  | createTripOrder =>
    refine Fleet.onDb_ind h fun q h => ?_
    simp only [Rotas.createTripOrder, bind_eq_ok] at h
    obtain ⟨_, _, _, _, _, _, h⟩ := h
    split at h
    · simp only [bind_eq_ok] at h
      obtain ⟨_, _, h⟩ := h
      cases h
      exact .of_trips rfl (.of_eq rfl)
    · cases h
      exact .of_trips rfl (.of_eq rfl)
  | confirmTripOrder =>
    refine Fleet.onDb_ind h fun q h => ?_
    simp only [Rotas.confirmTripOrder, bind_eq_ok] at h
    obtain ⟨_, _, h⟩ := h
    split at h
    · cases h
      exact .of_trips rfl (.of_eq rfl)
    · simp only [bind_eq_ok] at h
      obtain ⟨_, _, h⟩ := h
      cases h
      exact .of_trips rfl (.of_eq rfl)
  | assignTripOrder => exact assignTripOrder_trips h
  | cancelTripOrder =>
    refine Fleet.onDb_ind h fun q h => ?_
    simp only [Rotas.cancelTripOrder, bind_eq_ok] at h
    obtain ⟨_, _, h⟩ := h
    split at h
    · cases h
      exact .of_trips rfl (.of_eq rfl)
    · simp only [bind_eq_ok] at h
      obtain ⟨_, _, h⟩ := h
      cases h
      exact .of_trips rfl (.of_eq rfl)
  | rejectDispatchClearance =>
    refine Fleet.onDb_ind h fun q h => ?_
    simp only [Rotas.rejectDispatchClearance, bind_eq_ok] at h
    obtain ⟨_, _, h⟩ := h
    cases h
    exact .of_trips rfl (.of_eq rfl)

theorem fileTransportDocument_trips {documentType status : String} {guard : Trip → Except Exc Unit}
    (h : fileTransportDocument documentType status guard now tenantId tripId f.toDb = .ok (a, q)) :
    TripStep c f { f with toDb := q } := by
  simp only [fileTransportDocument, bind_eq_ok] at h
  obtain ⟨_, _, _, _, h⟩ := h
  cases h
  exact .of_trips rfl { TripFrame.of_eq (c := c) (f := f) (p := f) rfl with
    documents := fun _ hr => (Table.mem_insert _ _ _).mpr (.inl hr) }

theorem PaperCall.run_trips {c' : PaperCall} (h : c'.run f.toDb = .ok (a, q)) :
    TripStep c f { f with toDb := q } := by
  cases c' with
  | createLoadPermit =>
    simp only [PaperCall.run, Rotas.createLoadPermit, bind_eq_ok] at h
    obtain ⟨_, _, _, _, h⟩ := h
    cases h
    exact .of_trips rfl { TripFrame.of_eq (c := c) (f := f) (p := f) rfl with
      permits := fun _ hr => (Table.mem_insert _ _ _).mpr (.inl hr) }
  | createCargoManifest =>
    simp only [PaperCall.run, Rotas.createCargoManifest, bind_eq_ok] at h
    obtain ⟨_, _, h⟩ := h
    cases h
    exact .of_trips rfl { TripFrame.of_eq (c := c) (f := f) (p := f) rfl with
      manifests := fun _ hr => (Table.mem_insert _ _ _).mpr (.inl hr) }
  | createTransportDocument => exact fileTransportDocument_trips h
  | createGuiaRemessa => exact fileTransportDocument_trips h
  | createCartaPorte => exact fileTransportDocument_trips h
  | createDav => exact fileTransportDocument_trips h
  | createDeclaracaoCargaPerigosa => exact fileTransportDocument_trips h

theorem patchCurrentTenant_trips {compliancePolicy : CompliancePolicy}
    (h : patchCurrentTenant tenantId compliancePolicy f.toDb = .ok (a, q)) :
    TripStep (.policy tenantId compliancePolicy) f { f with toDb := q } := by
  simp only [patchCurrentTenant, bind_eq_ok] at h
  obtain ⟨tenant, htenant, _, _, h⟩ := h
  cases h
  refine .of_trips rfl { TripFrame.of_eq (c := .policy tenantId compliancePolicy) (f := f) (p := f)
    rfl with policy := fun k => ?_ }
  by_cases hk : k = tenantId
  · subst hk
    refine .inr ⟨compliancePolicy, rfl, ?_⟩
    rw [tenantPolicy, Table.get_modify_self (require_eq_ok.mp htenant)]
    rfl
  · exact .inl (by simp only [tenantPolicy, Table.get_modify_ne hk])

/-! ## Proofs -/

theorem createDeliveryProof_trips {payload : DeliveryProofCreate}
    (h : createDeliveryProof tenantId tripId payload f.toDb = .ok (a, q)) :
    TripStep (.proofs (.createDeliveryProof tenantId tripId payload)) f { f with toDb := q } := by
  simp only [createDeliveryProof, bind_eq_ok, requireTrip_eq_ok, pure, Except.pure,
    Except.ok.injEq] at h
  obtain ⟨trip, ⟨htrip, hten⟩, h⟩ := h
  cases h
  exact .of_modify (g := provenTrip payload) (fun k => by rw [Table.get_modify]; rfl) htrip
    (.deliver hten) (.of_proofs rfl)

theorem acceptDeliveryProof_trips {userId : UUID}
    (h : acceptDeliveryProof now tenantId proofId userId f.toDb = .ok (a, q)) :
    TripStep (.proofs (.acceptDeliveryProof now tenantId proofId userId)) f
      { f with toDb := q } := by
  simp only [acceptDeliveryProof, bind_eq_ok, require_eq_ok, raiseIf_eq_ok, pure, Except.pure,
    Except.ok.injEq, decide_eq_false_iff_not, Decidable.not_not] at h
  obtain ⟨proof, hproof, _, hten, _, hedge, h⟩ := h
  cases h
  have hpending : proof.status = .pending := by
    cases hs : proof.status <;> simp_all [deliveryProofValidTransitions]
  cases htrip : f.trips.get proof.tripId with
  | none =>
    constructor
    case toTripFrame => exact .of_proofs rfl
    case moves =>
      intro k t ht
      have hne : k ≠ proof.tripId := by
        rintro rfl
        rw [htrip] at ht
        cases ht
      exact ⟨t, by rw [Table.get_modify_ne hne]; exact ht, .same _⟩
    case fresh =>
      intro k t' ht ht'
      rw [Table.get_modify] at ht'
      split at ht'
      · rw [htrip] at ht'; cases ht'
      · rw [ht] at ht'; cases ht'
  | some trip =>
    exact .of_modify (fun k => by rw [Table.get_modify]) htrip (.accept hproof hten rfl hpending)
      (.of_proofs rfl)

theorem validateDeliveryProof_trips {userId : Option UUID} {payload : ValidateDeliveryProofRequest}
    (h : validateDeliveryProof now tenantId tripId proofId userId payload f.toDb = .ok (a, q)) :
    TripStep (.proofs (.validateDeliveryProof now tenantId tripId proofId userId payload)) f
      { f with toDb := q } := by
  simp only [validateDeliveryProof, bind_eq_ok, requireTrip_eq_ok, requireProof_eq_ok] at h
  obtain ⟨trip, ⟨htrip, hten⟩, proof, ⟨hproof, hpten, hptrip⟩, h⟩ := h
  split at h
  · cases h
    exact .of_trips rfl (.of_proofs rfl)
  · next hdone =>
    simp only [bind_eq_ok, raiseIf_eq_ok, pure, Except.pure, Except.ok.injEq,
      decide_eq_false_iff_not] at h
    obtain ⟨_, hdisputed, h⟩ := h
    cases h
    refine .of_modify (fun k => by rw [Table.get_modify]) htrip
      (.validate hten hproof hpten hptrip ?_) (.of_proofs rfl)
    simp only [List.mem_cons, List.not_mem_nil, or_false, not_or] at hdone ⊢
    exact ⟨hdone.1, hdone.2, hdisputed⟩

theorem disputeDeliveryProof_trips {payload : DisputeDeliveryProofRequest}
    (h : disputeDeliveryProof tenantId tripId proofId payload f.toDb = .ok (a, q)) :
    TripStep (.proofs (.disputeDeliveryProof tenantId tripId proofId payload)) f
      { f with toDb := q } := by
  simp only [disputeDeliveryProof, bind_eq_ok, requireTrip_eq_ok, requireProof_eq_ok, raiseIf_eq_ok,
    Bool.or_eq_false_iff, decide_eq_false_iff_not] at h
  obtain ⟨trip, ⟨htrip, hten⟩, proof, ⟨hproof, hpten, hptrip⟩, _, hunbilled, h⟩ := h
  split at h
  · cases h
    exact .of_trips rfl (.of_proofs rfl)
  · next hdisputed =>
    cases h
    exact .of_modify (fun k => by rw [Table.get_modify]) htrip
      (.dispute hten hproof hpten hptrip hdisputed (by simpa using hunbilled)) (.of_proofs rfl)

theorem resolveDeliveryProofDispute_trips {userId : Option UUID}
    {payload : ResolveDeliveryProofDisputeRequest}
    (h : resolveDeliveryProofDispute now tenantId tripId proofId userId payload f.toDb =
      .ok (a, q)) :
    TripStep (.proofs (.resolveDeliveryProofDispute now tenantId tripId proofId userId payload)) f
      { f with toDb := q } := by
  simp only [resolveDeliveryProofDispute, bind_eq_ok, requireTrip_eq_ok, requireProof_eq_ok,
    raiseIf_eq_ok, decide_eq_false_iff_not, Decidable.not_not] at h
  obtain ⟨_, houtcome, trip, ⟨htrip, hten⟩, proof, ⟨hproof, hpten, hptrip⟩, _, hdisputed, h⟩ := h
  split at h
  · next hvalidated =>
    cases h
    exact .of_modify (fun k => by rw [Table.get_modify]) htrip
      (.settle hten hproof hpten hptrip hdisputed hvalidated) (.of_proofs rfl)
  · next hrejected =>
    cases h
    refine .of_modify (fun k => by rw [Table.get_modify]) htrip
      (.reopen hten hproof hpten hptrip hdisputed ?_) (.of_proofs rfl)
    simpa [hrejected] using houtcome

theorem ProofCall.run_trips {c : ProofCall} (h : c.serve f.toDb = .ok (a, q)) :
    TripStep (.proofs c) f { f with toDb := q } := by
  cases c with
  | createDeliveryProof => exact createDeliveryProof_trips h
  | acceptDeliveryProof => exact acceptDeliveryProof_trips h
  | rejectDeliveryProof =>
    simp only [ProofCall.serve, Rotas.rejectDeliveryProof, bind_eq_ok] at h
    obtain ⟨_, _, _, _, _, _, h⟩ := h
    cases h
    exact .of_trips rfl (.of_proofs rfl)
  | validateDeliveryProof => exact validateDeliveryProof_trips h
  | disputeDeliveryProof => exact disputeDeliveryProof_trips h
  | resolveDeliveryProofDispute => exact resolveDeliveryProofDispute_trips h
  | patchDeliveryProof =>
    simp only [ProofCall.serve, Rotas.patchDeliveryProof, bind_eq_ok] at h
    obtain ⟨_, _, _, _, h⟩ := h
    cases h
    exact .of_trips rfl (.of_proofs rfl)

/-! ## Calls -/

theorem OpsCall.run_trips (h : c.run f = .ok (a, p)) : TripStep c f p := by
  cases c with
  | trips => exact TripCall.run_trips h
  | orders => exact OrderCall.run_trips h
  | papers => exact Fleet.onDb_ind h fun _ h => PaperCall.run_trips h
  | proofs => exact Fleet.onDb_ind h fun _ h => ProofCall.run_trips h
  | policy => exact Fleet.onDb_ind h fun _ h => patchCurrentTenant_trips h

theorem OpsCall.step_trips (c : OpsCall) (f : Fleet) : TripStep c f (c.step f) :=
  Work.perform_ind (.of_trips rfl (.of_eq rfl)) fun _ _ h => OpsCall.run_trips h

end Step

end Rotas
