import Rotas.Trips.LifeCycle

/-!
# Rotas.TripOrders.Moves

What an accepted call does to the statuses of the trip orders, and to the trips that belong to them.

* `TripOrderMove`  — all that a call can make of the status of an order, with the guard it passed.
* `TripOrderStep`  — an accepted call moves every order by `TripOrderMove`, and adds only drafts.
* `FollowStep` — the trips stay with their orders, and do not become active again once they rest.
-/

namespace Rotas

/-- The status of an order, if it is there. -/
def Fleet.orderStatus (f : Fleet) (orderId : UUID) : Option String :=
  (f.tripOrders.get orderId).map TripOrder.status

theorem orderStatus_eq_some {f : Fleet} {k : UUID} {s : String} :
    f.orderStatus k = some s ↔ ∃ o, f.tripOrders.get k = some o ∧ o.status = s :=
  Option.map_eq_some_iff

theorem requireOrder_eq_ok {tenantId orderId : UUID} {db : Db} {order : TripOrder} :
    requireOrder tenantId orderId db = .ok order ↔
      db.tripOrders.get orderId = some order ∧ order.tenantId = tenantId := by
  simp only [requireOrder, bind_eq_ok, require_eq_ok, raiseIf_eq_ok, decide_eq_false_iff_not,
    Decidable.not_not, pure, Except.pure, Except.ok.injEq]
  constructor
  · rintro ⟨o, ho, -, hten, rfl⟩
    exact ⟨ho, hten⟩
  · rintro ⟨ho, hten⟩
    exact ⟨order, ho, (), hten, rfl⟩

/-- An assignment plans the trip of its order, which was confirmed. -/
theorem assignTripOrder_eq_ok [Interpreter] {now : Instant} {tenantId orderId a : UUID}
    {payload : TripOrderAssignRequest} {actorId : Option UUID} {f p : Fleet}
    (h : assignTripOrder now tenantId orderId payload actorId f = .ok (a, p)) :
    ∃ order, f.tripOrders.get orderId = some order ∧ order.status ∈ ["confirmed", "planning"] ∧
      p = { f with
        tripOrders := f.tripOrders.modify orderId (assignedOrder now payload actorId)
        trips := f.trips.insert (tripOfOrder tenantId order payload f.toDb) } := by
  simp only [assignTripOrder, bind_eq_ok, requireOrder_eq_ok, raiseIf_eq_ok, pure,
    Except.pure, Except.ok.injEq, Prod.mk.injEq, decide_eq_false_iff_not, Decidable.not_not] at h
  obtain ⟨order, ⟨horder, -⟩, -, hstatus, -, -, -, -, -, -, -, rfl⟩ := h
  exact ⟨order, horder, hstatus, rfl⟩

/-- The statuses that `cancel_trip_order` refuses. -/
def uncancellableStatuses : List String :=
  ["assigned", "dispatched", "in_execution", "delivered", "closed"]

/-- What a call that leads from `f` to `p` can make of the status `s` of order `k`. -/
inductive TripOrderMove [Locale] (f p : Fleet) (k : UUID) (s : String) : OpsCall → String → Prop where
  | same (c : OpsCall) : TripOrderMove f p k s c s
  | confirm {tenantId : UUID} :
      s = "draft" → TripOrderMove f p k s (.orders (.confirmTripOrder tenantId k)) "confirmed"
  | assign {now : Instant} {tenantId : UUID} {payload : TripOrderAssignRequest}
      {actorId : Option UUID} :
      s ∈ ["confirmed", "planning"] →
      TripOrderMove f p k s (.orders (.assignTripOrder now tenantId k payload actorId)) "assigned"
  | cancel {tenantId : UUID} {o : TripOrder} :
      f.tripOrders.get k = some o → o.tenantId = tenantId → s ∉ uncancellableStatuses →
      TripOrderMove f p k s (.orders (.cancelTripOrder tenantId k)) "cancelled"
  | reject {tenantId : UUID} {o : TripOrder} :
      f.tripOrders.get k = some o → o.tenantId = tenantId →
      TripOrderMove f p k s (.orders (.rejectDispatchClearance tenantId k)) "rejected"
  | request {tenantId tripId : UUID} {t : Trip} :
      f.trips.get tripId = some t → t.tripOrderId = some k →
      t.status ∈ [TripStatus.draft, .planned] →
      TripOrderMove f p k s (.trips (.requestDispatchClearance tenantId tripId)) "dispatch_pending"
  | dispatch {now : Instant} {tenantId tripId : UUID} {payload : TripDispatchRequest} {t : Trip} :
      f.trips.get tripId = some t → t.tripOrderId = some k →
      t.status ∈ [TripStatus.planned, .dispatchPending] →
      TripOrderMove f p k s (.trips (.dispatchTrip now tenantId tripId payload)) "dispatched"
  | close {now : Instant} {tenantId tripId : UUID} {payload : OperationalCloseTripRequest}
      {actorId : Option UUID} {t t' : Trip} {o : TripOrder} :
      f.trips.get tripId = some t → t.tenantId = tenantId → t.tripOrderId = some k →
      f.tripOrders.get k = some o → o.tenantId = tenantId → t.status ≠ .closed →
      closeChecks now tenantId t f.toDb = .ok () →
      p.trips.get tripId = some t' → t'.status = .closed →
      TripOrderMove f p k s (.trips (.operationalCloseTrip now tenantId tripId payload actorId)) "closed"

/-- What an accepted call does to the orders. -/
structure TripOrderStep [Locale] (c : OpsCall) (f p : Fleet) : Prop where
  moves : ∀ k s, f.orderStatus k = some s → ∃ s', p.orderStatus k = some s' ∧ TripOrderMove f p k s c s'
  fresh : ∀ k s, f.orderStatus k = none → p.orderStatus k = some s → s = "draft"

section

variable [Locale] {c : OpsCall} {f p : Fleet} {q : Db} {now : Instant} {tenantId tripId a : UUID}
  {actorId : Option UUID}

theorem TripOrderStep.of_map {g : UUID → TripOrder → TripOrder}
    (hp : ∀ k, p.tripOrders.get k = (f.tripOrders.get k).map (g k))
    (hmove : ∀ k o, f.tripOrders.get k = some o → TripOrderMove f p k o.status c (g k o).status) :
    TripOrderStep c f p where
  moves k s hs := by
    obtain ⟨o, ho, rfl⟩ := orderStatus_eq_some.mp hs
    refine ⟨(g k o).status, ?_, hmove k o ho⟩
    rw [Fleet.orderStatus, hp, ho]
    rfl
  fresh k s hnone hs := by
    rw [Fleet.orderStatus, Option.map_eq_none_iff] at hnone
    rw [Fleet.orderStatus, hp, hnone] at hs
    cases hs

theorem TripOrderStep.of_eq (h : p.tripOrders = f.tripOrders) : TripOrderStep c f p :=
  .of_map (g := fun _ o => o) (fun k => by rw [h, Option.map_id']) fun _ _ _ => .same c

theorem TripOrderStep.of_modify {orderId : UUID} {order : TripOrder} {g : TripOrder → TripOrder}
    (hp : ∀ k, p.tripOrders.get k =
      if k = orderId then (f.tripOrders.get orderId).map g else f.tripOrders.get k)
    (horder : f.tripOrders.get orderId = some order)
    (hmove : TripOrderMove f p orderId order.status c (g order).status) : TripOrderStep c f p := by
  refine .of_map (g := fun k o => if k = orderId then g o else o) (fun k => ?_) fun k o ho => ?_
  · rw [hp]
    split
    · next hk => rw [hk]
    · exact Option.map_id'.symm
  · split
    · next hk =>
      cases hk
      cases horder.symm.trans ho
      exact hmove
    · exact .same c

theorem TripOrderStep.of_follow {trip : Trip} {status : String}
    (hp : p.tripOrders = followOrder tenantId trip status f.tripOrders)
    (hmove : ∀ k o, f.tripOrders.get k = some o → trip.tripOrderId = some k →
      o.tenantId = tenantId → TripOrderMove f p k o.status c status) : TripOrderStep c f p := by
  refine .of_map (fun k => by rw [hp, followOrder, Table.get_modifyAll]) fun k o ho => ?_
  split
  · next hmine =>
    simp only [Bool.and_eq_true, decide_eq_true_eq] at hmine
    have hk : o.id = k := Table.key_of_get ho
    exact hmove k o ho (hmine.1 ▸ hk ▸ rfl) hmine.2
  · exact .same c

theorem TripOrderStep.of_insert {order : TripOrder}
    (hp : ∀ k, p.tripOrders.get k =
      if k = f.tripOrders.freshKey then some order else f.tripOrders.get k)
    (hdraft : order.status = "draft") : TripOrderStep c f p where
  moves k s hs := by
    obtain ⟨o, ho, rfl⟩ := orderStatus_eq_some.mp hs
    have hne : k ≠ f.tripOrders.freshKey := by
      rintro rfl
      cases (Table.get_freshKey f.tripOrders).symm.trans ho
    refine ⟨o.status, orderStatus_eq_some.mpr ⟨o, ?_, rfl⟩, .same c⟩
    rw [hp, if_neg hne, ho]
  fresh k s hnone hs := by
    rw [Fleet.orderStatus, Option.map_eq_none_iff] at hnone
    obtain ⟨o, ho, rfl⟩ := orderStatus_eq_some.mp hs
    rw [hp, hnone] at ho
    split at ho <;> cases ho
    exact hdraft

/-! ## The services of the order module -/

theorem createTripOrder_orders {payload : TripOrderCreate}
    (h : createTripOrder tenantId payload f.toDb = .ok (a, q)) :
    TripOrderStep c f { f with toDb := q } := by
  simp only [createTripOrder, bind_eq_ok] at h
  obtain ⟨_, _, _, _, _, _, h⟩ := h
  split at h
  · simp only [bind_eq_ok] at h
    obtain ⟨_, _, h⟩ := h
    cases h
    exact .of_insert (fun k => by rw [Table.get_insert]) rfl
  · cases h
    exact .of_insert (fun k => by rw [Table.get_insert]) rfl

theorem confirmTripOrder_orders {orderId : UUID}
    (h : confirmTripOrder tenantId orderId f.toDb = .ok (a, q)) :
    TripOrderStep (.orders (.confirmTripOrder tenantId orderId)) f { f with toDb := q } := by
  simp only [confirmTripOrder, bind_eq_ok, requireOrder_eq_ok] at h
  obtain ⟨order, ⟨horder, -⟩, h⟩ := h
  split at h
  · cases h
    exact .of_eq rfl
  · simp only [bind_eq_ok, raiseIf_eq_ok, decide_eq_false_iff_not, Decidable.not_not] at h
    obtain ⟨-, hdraft, h⟩ := h
    cases h
    exact .of_modify (fun k => by rw [Table.get_modify]) horder (.confirm hdraft)

theorem cancelTripOrder_orders {orderId : UUID}
    (h : cancelTripOrder tenantId orderId f.toDb = .ok (a, q)) :
    TripOrderStep (.orders (.cancelTripOrder tenantId orderId)) f { f with toDb := q } := by
  simp only [cancelTripOrder, bind_eq_ok, requireOrder_eq_ok] at h
  obtain ⟨order, ⟨horder, hten⟩, h⟩ := h
  split at h
  · cases h
    exact .of_eq rfl
  · simp only [bind_eq_ok, raiseIf_eq_ok, decide_eq_false_iff_not] at h
    obtain ⟨-, hopen, h⟩ := h
    cases h
    exact .of_modify (fun k => by rw [Table.get_modify]) horder (.cancel horder hten hopen)

theorem rejectDispatchClearance_orders {orderId : UUID}
    (h : rejectDispatchClearance tenantId orderId f.toDb = .ok (a, q)) :
    TripOrderStep (.orders (.rejectDispatchClearance tenantId orderId)) f { f with toDb := q } := by
  simp only [rejectDispatchClearance, bind_eq_ok, requireOrder_eq_ok] at h
  obtain ⟨order, ⟨horder, hten⟩, h⟩ := h
  cases h
  exact .of_modify (fun k => by rw [Table.get_modify]) horder (.reject horder hten)

/-! ## The other services -/

theorem requestDispatchClearance_orders (h : requestDispatchClearance tenantId tripId f = .ok (a, p)) :
    TripOrderStep (.trips (.requestDispatchClearance tenantId tripId)) f p := by
  simp only [requestDispatchClearance, bind_eq_ok, requireTrip_eq_ok, raiseIf_eq_ok,
    decide_eq_false_iff_not, Decidable.not_not] at h
  obtain ⟨trip, ⟨htrip, -⟩, -, hstatus, h⟩ := h
  split at h
  · cases h
    exact .of_eq rfl
  · cases h
    exact .of_follow rfl fun k o _ hk _ => .request htrip hk hstatus

theorem recordTripCost_orders {payload : TripCostCreate}
    (h : recordTripCost now tenantId tripId payload actorId f.toDb = .ok (a, q)) :
    TripOrderStep c f { f with toDb := q } := by
  simp only [recordTripCost, bind_eq_ok] at h
  obtain ⟨_, _, _, _, h⟩ := h
  split at h
  · simp only [bind_eq_ok] at h
    obtain ⟨_, _, h⟩ := h
    cases h
    exact .of_eq rfl
  · cases h
    exact .of_eq rfl

theorem operationalCloseTrip_orders {payload : OperationalCloseTripRequest}
    (h : operationalCloseTrip now tenantId tripId payload actorId f.toDb = .ok (a, q)) :
    TripOrderStep (.trips (.operationalCloseTrip now tenantId tripId payload actorId)) f
      { f with toDb := q } := by
  obtain ⟨-, trip, htrip, hten, ⟨-, rfl⟩ | ⟨hopen, hchecks, rfl⟩⟩ := operationalCloseTrip_eq_ok.mp h
  · exact .of_eq rfl
  · have hclosed : (f.trips.modify tripId (closeTrip now tenantId payload actorId f.toDb)
        fun _ => rfl).get tripId = some (closeTrip now tenantId payload actorId f.toDb trip) :=
      Table.get_modify_self htrip
    have horders : closeOrder tenantId trip f.tripOrders =
      followOrder tenantId trip "closed" f.tripOrders := rfl
    exact .of_follow horders fun k o ho hk hoten =>
      .close htrip hten hk ho hoten hopen hchecks hclosed rfl

theorem fileTransportDocument_orders {documentType status : String} {guard : Trip → Except Exc Unit}
    (h : fileTransportDocument documentType status guard now tenantId tripId f.toDb = .ok (a, q)) :
    TripOrderStep c f { f with toDb := q } := by
  simp only [fileTransportDocument, bind_eq_ok] at h
  obtain ⟨_, _, _, _, h⟩ := h
  cases h
  exact .of_eq rfl

theorem PaperCall.run_orders {c' : PaperCall} (h : c'.run f.toDb = .ok (a, q)) :
    TripOrderStep c f { f with toDb := q } := by
  cases c' with
  | createLoadPermit =>
    simp only [PaperCall.run, Rotas.createLoadPermit, bind_eq_ok] at h
    obtain ⟨_, _, _, _, h⟩ := h
    cases h
    exact .of_eq rfl
  | createCargoManifest =>
    simp only [PaperCall.run, Rotas.createCargoManifest, bind_eq_ok] at h
    obtain ⟨_, _, h⟩ := h
    cases h
    exact .of_eq rfl
  | createTransportDocument => exact fileTransportDocument_orders h
  | createGuiaRemessa => exact fileTransportDocument_orders h
  | createCartaPorte => exact fileTransportDocument_orders h
  | createDav => exact fileTransportDocument_orders h
  | createDeclaracaoCargaPerigosa => exact fileTransportDocument_orders h

theorem ProofCall.run_orders {c' : ProofCall} (h : c'.serve f.toDb = .ok (a, q)) :
    TripOrderStep c f { f with toDb := q } := by
  cases c' with
  | createDeliveryProof =>
    simp only [ProofCall.serve, Rotas.createDeliveryProof, bind_eq_ok] at h
    obtain ⟨_, _, h⟩ := h
    cases h
    exact .of_eq rfl
  | acceptDeliveryProof =>
    simp only [ProofCall.serve, Rotas.acceptDeliveryProof, bind_eq_ok] at h
    obtain ⟨_, _, _, _, _, _, h⟩ := h
    cases h
    exact .of_eq rfl
  | rejectDeliveryProof =>
    simp only [ProofCall.serve, Rotas.rejectDeliveryProof, bind_eq_ok] at h
    obtain ⟨_, _, _, _, _, _, h⟩ := h
    cases h
    exact .of_eq rfl
  | validateDeliveryProof =>
    simp only [ProofCall.serve, Rotas.validateDeliveryProof, bind_eq_ok] at h
    obtain ⟨_, _, _, _, h⟩ := h
    split at h
    · cases h
      exact .of_eq rfl
    · simp only [bind_eq_ok] at h
      obtain ⟨_, _, h⟩ := h
      cases h
      exact .of_eq rfl
  | disputeDeliveryProof =>
    simp only [ProofCall.serve, Rotas.disputeDeliveryProof, bind_eq_ok] at h
    obtain ⟨_, _, _, _, _, _, h⟩ := h
    split at h
    · cases h
      exact .of_eq rfl
    · cases h
      exact .of_eq rfl
  | resolveDeliveryProofDispute =>
    simp only [ProofCall.serve, Rotas.resolveDeliveryProofDispute, bind_eq_ok] at h
    obtain ⟨_, _, _, _, _, _, _, _, h⟩ := h
    split at h
    · cases h
      exact .of_eq rfl
    · cases h
      exact .of_eq rfl
  | patchDeliveryProof =>
    simp only [ProofCall.serve, Rotas.patchDeliveryProof, bind_eq_ok] at h
    obtain ⟨_, _, _, _, h⟩ := h
    cases h
    exact .of_eq rfl

variable [Interpreter]

theorem OrderCall.run_orders {c : OrderCall} (h : c.run f = .ok (a, p)) :
    TripOrderStep (.orders c) f p := by
  cases c with
  | createTripOrder => exact Fleet.onDb_ind h fun _ h => createTripOrder_orders h
  | confirmTripOrder => exact Fleet.onDb_ind h fun _ h => confirmTripOrder_orders h
  | assignTripOrder =>
    obtain ⟨order, horder, hstatus, rfl⟩ := assignTripOrder_eq_ok h
    exact .of_modify (fun k => by rw [Table.get_modify]) horder (.assign hstatus)
  | cancelTripOrder => exact Fleet.onDb_ind h fun _ h => cancelTripOrder_orders h
  | rejectDispatchClearance => exact Fleet.onDb_ind h fun _ h => rejectDispatchClearance_orders h

theorem approveDispatchClearance_orders {payload : DispatchClearanceApproveRequest}
    (h : approveDispatchClearance now tenantId tripId payload actorId f = .ok (a, p)) :
    TripOrderStep c f p := by
  simp only [approveDispatchClearance, bind_eq_ok] at h
  obtain ⟨_, _, _, _, h⟩ := h
  split at h
  · cases h
    exact .of_eq rfl
  · split at h
    · cases h
      exact .of_eq rfl
    · simp only [bind_eq_ok] at h
      obtain ⟨_, _, h⟩ := h
      cases h
      exact .of_eq rfl

theorem dispatchTrip_orders {payload : TripDispatchRequest}
    (h : dispatchTrip now tenantId tripId payload f = .ok (a, p)) :
    TripOrderStep (.trips (.dispatchTrip now tenantId tripId payload)) f p := by
  simp only [dispatchTrip, bind_eq_ok, requireTrip_eq_ok, raiseIf_eq_ok, decide_eq_false_iff_not,
    Decidable.not_not] at h
  obtain ⟨trip, ⟨htrip, -⟩, _, _, -, hstatus, _, _, h⟩ := h
  cases h
  exact .of_follow rfl fun k o _ hk _ => .dispatch htrip hk hstatus

theorem TripCall.run_orders {c : TripCall} (h : c.run f = .ok (a, p)) :
    TripOrderStep (.trips c) f p := by
  cases c with
  | createTrip =>
    simp only [TripCall.run, Rotas.createTrip, bind_eq_ok] at h
    obtain ⟨_, _, _, _, _, _, _, _, _, _, _, _, h⟩ := h
    cases h
    exact .of_eq rfl
  | startTrip =>
    refine Fleet.onDb_ind h fun q h => ?_
    simp only [Rotas.startTrip, bind_eq_ok] at h
    obtain ⟨_, _, _, _, _, _, h⟩ := h
    cases h
    exact .of_eq rfl
  | requestDispatchClearance => exact requestDispatchClearance_orders h
  | approveDispatchClearance => exact approveDispatchClearance_orders h
  | dispatchTrip => exact dispatchTrip_orders h
  | evaluateDeliverySla =>
    rw [TripCall.run] at h
    refine Fleet.onDb_ind h fun q h => ?_
    simp only [Rotas.evaluateDeliverySla, bind_eq_ok, pure, Except.pure, Except.ok.injEq] at h
    obtain ⟨_, rfl, h⟩ := h
    cases h
    exact .of_eq rfl
  | createIncident =>
    refine Fleet.onDb_ind h fun q h => ?_
    obtain ⟨-, _, _, _, -, -, -, -, -, rfl⟩ := createIncident_eq_ok.mp h
    exact .of_eq rfl
  | resolveIncident =>
    refine Fleet.onDb_ind h fun q h => ?_
    obtain ⟨-, _, _, -, -, -, -, -, ⟨-, rfl⟩ | ⟨-, rfl⟩⟩ := resolveIncident_eq_ok.mp h
    · exact .of_eq rfl
    · exact .of_eq rfl
  | completeTrip =>
    refine Fleet.onDb_ind h fun q h => ?_
    simp only [Rotas.completeTrip, bind_eq_ok] at h
    obtain ⟨_, _, _, _, h⟩ := h
    cases h
    exact .of_eq rfl
  | operationalCloseTrip => exact Fleet.onDb_ind h fun _ h => operationalCloseTrip_orders h
  | associateContract =>
    refine Fleet.onDb_ind h fun q h => ?_
    simp only [Rotas.associateContract, bind_eq_ok] at h
    obtain ⟨_, _, _, _, h⟩ := h
    cases h
    exact .of_eq rfl
  | createStop =>
    refine Fleet.onDb_ind h fun q h => ?_
    simp only [Rotas.createStop, bind_eq_ok] at h
    obtain ⟨_, _, h⟩ := h
    cases h
    exact .of_eq rfl
  | recordTripCost => exact Fleet.onDb_ind h fun _ h => recordTripCost_orders h
  | patchTrip =>
    refine Fleet.onDb_ind h fun q h => ?_
    simp only [Rotas.patchTrip, bind_eq_ok] at h
    obtain ⟨_, _, _, _, h⟩ := h
    cases h
    exact .of_eq rfl

/-- An accepted call moves every order by one of the moves, and adds drafts only. -/
theorem OpsCall.run_orders (h : c.run f = .ok (a, p)) : TripOrderStep c f p := by
  cases c with
  | trips => exact TripCall.run_orders h
  | orders => exact OrderCall.run_orders h
  | papers => exact Fleet.onDb_ind h fun _ h => PaperCall.run_orders h
  | proofs => exact Fleet.onDb_ind h fun _ h => ProofCall.run_orders h
  | policy =>
    refine Fleet.onDb_ind h fun q h => ?_
    simp only [patchCurrentTenant, bind_eq_ok] at h
    obtain ⟨_, _, _, _, h⟩ := h
    cases h
    exact .of_eq rfl

/-! ## The trips of the orders -/

/-- The trip is neither drafted nor active. -/
def TripStatus.resting (s : TripStatus) : Bool := !s.active && s ≠ .draft

/-- The trips stay with their orders and rest once they rest; a new trip with an order is planned,
and its order is assigned. -/
structure FollowStep (f p : Fleet) : Prop where
  moves : ∀ k t, f.trips.get k = some t → ∃ t', p.trips.get k = some t' ∧
    t'.tripOrderId = t.tripOrderId ∧ (t.status.resting = true → t'.status.resting = true) ∧
    (t'.status = .draft → t.status = .draft)
  fresh : ∀ k t', f.trips.get k = none → p.trips.get k = some t' → ∀ orderId,
    t'.tripOrderId = some orderId → t'.status = .planned ∧ p.orderStatus orderId = some "assigned"

omit [Interpreter] in
theorem TripMove.tripOrderId {k : UUID} {t t' : Trip} (h : TripMove f k t c t') :
    t'.tripOrderId = t.tripOrderId := by
  cases h <;> rfl

omit [Locale] [Interpreter] in
theorem not_resting_of_mem {s : TripStatus} {guard : List TripStatus}
    (hguard : ∀ s ∈ guard, s.resting = false) (hs : s ∈ guard) : ¬ s.resting = true :=
  Bool.eq_false_iff.mp (hguard s hs)

omit [Locale] [Interpreter] in
theorem Leg.resting {p p' : Journey} (h : Leg p p') (hrest : p.status.resting = true) :
    p'.status.resting = true := by
  cases h with
  | close => rfl
  | complete _ _ hs => rw [hs] at hrest; cases hrest
  | request hs => exact absurd hrest (not_resting_of_mem (by decide) hs)
  | dispatch _ hs => exact absurd hrest (not_resting_of_mem (by decide) hs)
  | start _ hs => exact absurd hrest (not_resting_of_mem (by decide) hs)
  | late hs => exact absurd hrest (not_resting_of_mem (by decide) hs)
  | halt hs => exact absurd hrest (not_resting_of_mem (by decide) hs)

omit [Locale] [Interpreter] in
theorem Leg.not_draft {p p' : Journey} (h : Leg p p') : p'.status ≠ .draft := by
  cases h <;> simp

omit [Interpreter] in
theorem TripMove.status {k : UUID} {t t' : Trip} (h : TripMove f k t c t') :
    (t.status.resting = true → t'.status.resting = true) ∧
      (t'.status = .draft → t.status = .draft) := by
  rcases h.journey with hsame | hleg | ⟨_, payload, -, -, hdelivered⟩
  · have hstatus : t'.status = t.status := congrArg Journey.status hsame
    rw [hstatus]
    exact ⟨id, id⟩
  · exact ⟨hleg.resting, fun hdraft => absurd hdraft hleg.not_draft⟩
  · have hstatus : t'.status = .delivered := congrArg Journey.status hdelivered
    rw [hstatus]
    exact ⟨fun _ => rfl, fun h => by cases h⟩

theorem OpsCall.run_follow (h : c.run f = .ok (a, p)) : FollowStep f p where
  moves k t ht := by
    obtain ⟨t', ht', hmove⟩ := (OpsCall.run_trips h).moves k t ht
    exact ⟨t', ht', hmove.tripOrderId, hmove.status⟩
  fresh k t' ht ht' orderId horder := by
    cases (OpsCall.run_trips h).fresh k t' ht ht' with
    | create => cases horder
    | plan hget =>
      obtain ⟨order, hget', -, rfl⟩ := assignTripOrder_eq_ok h
      cases hget.symm.trans hget'
      obtain rfl : _ = orderId := (Table.key_of_get hget).symm.trans (Option.some.inj horder)
      refine ⟨rfl, ?_⟩
      rw [Fleet.orderStatus, Table.get_modify_self hget]
      rfl

end

end Rotas
