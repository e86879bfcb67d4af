import Rotas.ControlTower.Summary
import Rotas.Lib.CacheAside

/-!
# Rotas.ControlTower.Queues

The queues of the control tower, the board that is made of them, and the board behind its cache:
`get_ct_cached`, called by anyone at any time for any day and page. A queue shows rows as they are,
with what the tower works out about them.

* `driverDespachoPendingQueue` — the long trips whose driver got no despacho yet.
* `operationalCloseQueue` — the trips that can be closed, with the verdict on each.
* `getControlTower`, `board` — the board of a day and of a page; the cache's key is the tenant, and
  the day and the page are no part of it.
* `SameBoard` — requests of a tenant that ask for the same board.
* `boards_timely` — every answer is the board that was asked for, at most a minute old, if the
  entries that are found are of the same board and the work is done in time.
-/

namespace Rotas.ControlTower

variable (tenantId : UUID) (p : Paged) (t : Tower)

/-! ## Queues of rows -/

def pendingDispatchQueue : List (DispatchClearance × Trip) :=
  p.of (orderDesc [fun row => t.clearanceStamps.updatedAt row.1.id]
    (t.withTrip DispatchClearance.tripId (t.dispatchClearances.rows.filter fun c =>
      c.tenantId = tenantId && (c.clearanceStatus = .pending || c.clearanceStatus = .approved))))

def blockedDispatchQueue : List (DispatchClearance × Trip) :=
  p.of (orderDesc [fun row => t.clearanceStamps.updatedAt row.1.id]
    (t.withTrip DispatchClearance.tripId (t.dispatchClearances.rows.filter fun c =>
      c.tenantId = tenantId && c.clearanceStatus = .blocked)))

def openIncidentsQueue : List (TripIncident × Trip) :=
  p.of (orderDesc [fun row => row.1.occurredAt]
    (t.withTrip TripIncident.tripId (t.tripIncidents.rows.filter fun i =>
      i.tenantId = tenantId && (i.status = .open || i.status = .investigating))))

def pendingDeliveryQueue : List (DeliveryProof × Trip) :=
  p.of (orderDesc [fun row => row.1.deliveredAt]
    (t.withTrip DeliveryProof.tripId (t.deliveryProofs.rows.filter fun d =>
      d.tenantId = tenantId && d.status = .pending)))

def disputedDeliveryQueue : List (DeliveryProof × Trip) :=
  p.of (orderDesc [fun row => t.proofStamps.updatedAt row.1.id]
    (t.withTrip DeliveryProof.tripId (t.deliveryProofs.rows.filter fun d =>
      d.tenantId = tenantId && d.status = .disputed)))

def operationalExceptionQueue : List OperationalException :=
  p.of (orderDesc [fun e => e.createdAt]
    (t.operationalExceptions.rows.filter fun e => e.tenantId = tenantId && exceptionOpen e))

def alertsQueue : List Alert :=
  p.of (orderDesc [fun a => t.alertStamps.createdAt a.id]
    (t.alerts.rows.filter fun a => a.tenantId = tenantId && alertActive a))

/-- A work order without a vehicle is not shown: the join is an inner one. -/
def activeWorkOrdersQueue : List (WorkOrder × Vehicle) :=
  p.of (orderDesc [fun row => t.workOrderStamps.updatedAt row.1.id]
    ((t.workOrders.rows.filter fun w =>
      w.tenantId = tenantId && w.status ∈ activeWorkOrderStatuses).filterMap fun w =>
        (w.vehicleId.bind t.vehicles.get).map (w, ·)))

/-- A checklist that was not completed comes first, as `NULL` does in a descending order. -/
def failedChecklistsQueue : List (Checklist × Crew) :=
  (p.of (orderDesc [fun c => if c.completedAt.isNone then 1 else 0, fun c => c.completedAt.getD 0,
      fun c => t.checklistStamps.createdAt c.id]
    (t.checklists.rows.filter fun c => c.tenantId = tenantId && c.status = "failed"))).map fun c =>
      (c, t.crew c.vehicleId c.driverId)

def negativeMarginQueue : List (Trip × Crew) :=
  (p.of (orderDesc [fun trip => -trip.actualMargin, fun trip => trip.costsReconciledAt.getD 0]
    (t.trips.rows.filter fun trip =>
      trip.tenantId = tenantId && trip.costsReconciledAt.isSome && trip.actualMargin < 0))).map
        fun trip => (trip, t.crew trip.vehicleId trip.driverId)

/-! ## Late trips -/

structure DelayedTrip where
  trip : Trip
  crew : Crew
  delayMinutes : Int

def delayedTripsQueue (now : Instant) : List DelayedTrip :=
  (p.of (orderDesc [fun trip => -trip.plannedArrival.getD 0]
    (t.trips.rows.filter fun trip => trip.tenantId = tenantId &&
      trip.status ∈ [TripStatus.dispatched, .inProgress, .delayed] && trip.actualArrival.isNone &&
      trip.plannedArrival.any (· < now)))).map fun trip =>
        { trip, crew := t.crew trip.vehicleId trip.driverId
          delayMinutes := (now - trip.plannedArrival.getD 0) / 60 }

/-! ## Despachos -/

/-- `DEFAULT_DRIVER_DESPACHO_MIN_KM`. -/
def defaultDriverDespachoMinKm : ℚ := 100

/-- The tenant's minimum; one that is not there, or is null, is the default. -/
def driverDespachoMinDistance : ℚ :=
  match (t.tenants.get tenantId).bind fun _ => t.driverTravelAllowancePolicy tenantId with
  | none => defaultDriverDespachoMinKm
  | some table => (table.minLongCourseKm.getD none).getD defaultDriverDespachoMinKm

/-- The estimate of the order, whoever's the order is, or what the odometer says. -/
def tripDistanceForDespacho (trip : Trip) : Option ℚ :=
  ((trip.tripOrderId.bind t.tripOrders.get).bind fun order => t.estimatedDistanceKm order.id) <|>
    drivenKm trip

/-- A trip of which no cost is a despacho. -/
def withoutDespacho (trip : Trip) : Bool :=
  !t.tripCosts.rows.any fun c =>
    c.tripId = trip.id && c.tenantId = tenantId && c.costType = "driver_despacho"

/-- The rows of the query, before the distance is looked at. -/
def despachoRows : List Trip :=
  orderDesc [fun trip => t.tripStamps.createdAt trip.id] (t.trips.rows.filter fun trip =>
    trip.tenantId = tenantId && withoutDespacho tenantId t trip &&
      trip.status ∈ [TripStatus.planned, .dispatched, .inProgress, .delayed, .incident, .delivered,
        .closed])

structure PendingDespacho where
  trip : Trip
  crew : Crew
  distanceKm : ℚ
  minLongCourseKm : ℚ

/-- What the queue shows of a trip, if it is long enough. -/
def pendingDespacho (trip : Trip) : Option PendingDespacho :=
  let minLongCourseKm := driverDespachoMinDistance tenantId t
  match tripDistanceForDespacho t trip with
  | none => none
  | some distanceKm =>
    if distanceKm < minLongCourseKm then none
    else some { trip, crew := t.crew trip.vehicleId trip.driverId, distanceKm, minLongCourseKm }

/-- Three pages of rows are read from the offset on, and the first page of those that are long
enough is shown. -/
def driverDespachoPendingQueue : List PendingDespacho :=
  let rows := Rotas.page (p.pageSize * 3) p.offset (despachoRows tenantId t)
  (rows.filterMap (pendingDespacho tenantId t)).take p.pageSize

/-! ## Closing -/

inductive Readiness where
  | ready | blockedIncident | needsValidatedPodOrWaiver
  deriving DecidableEq

structure CloseCandidate where
  trip : Trip
  crew : Crew
  latestDeliveryProof : Option DeliveryProof
  hasBlockingIncident : Bool
  readiness : Readiness

/-- The trips of a page of the queue. -/
def closeRows : List Trip :=
  p.of (orderDesc [fun trip => t.tripStamps.updatedAt trip.id,
    fun trip => t.tripStamps.createdAt trip.id] (t.trips.rows.filter fun trip =>
      trip.tenantId = tenantId && trip.status ∈ [TripStatus.arrived, .delivered, .incident]))

/-- The proofs of those trips, the latest first. -/
def proofRows (tripIds : List UUID) : List DeliveryProof :=
  orderDesc [fun d => d.deliveredAt, fun d => t.proofStamps.createdAt d.id]
    (t.deliveryProofs.rows.filter fun d => d.tenantId = tenantId && d.tripId ∈ tripIds)

/-- `proofs_by_trip`: the first proof of a trip stays. -/
def proofsByTrip (proofs : List DeliveryProof) (tripId : UUID) : Option DeliveryProof :=
  proofs.find? fun d => d.tripId = tripId

def incidentRows (tripIds : List UUID) : List TripIncident :=
  t.tripIncidents.rows.filter fun i => i.tenantId = tenantId && i.tripId ∈ tripIds &&
    (i.status = .open || i.status = .investigating) && (i.severity = .high || i.severity = .critical)

def closeCandidate (proofs : List DeliveryProof) (incidents : List TripIncident) (trip : Trip) :
    CloseCandidate :=
  let proof := proofsByTrip proofs trip.id
  let blocked := incidents.any fun i => i.tripId = trip.id
  { trip, crew := t.crew trip.vehicleId trip.driverId, latestDeliveryProof := proof
    hasBlockingIncident := blocked
    readiness :=
      if blocked then .blockedIncident
      else if proof.any fun d => d.status = .validated then .ready
      else .needsValidatedPodOrWaiver }

def operationalCloseQueue : List CloseCandidate :=
  let rows := closeRows tenantId p t
  let tripIds := rows.map Trip.id
  rows.map (closeCandidate t (proofRows tenantId t tripIds) (incidentRows tenantId t tripIds))

/-! ## The board -/

structure Queues where
  pendingDispatch : List (DispatchClearance × Trip)
  blockedDispatch : List (DispatchClearance × Trip)
  openIncidents : List (TripIncident × Trip)
  delayedTrips : List DelayedTrip
  pendingDeliveryValidation : List (DeliveryProof × Trip)
  operationalExceptions : List OperationalException
  alerts : List Alert
  activeWorkOrders : List (WorkOrder × Vehicle)
  negativeMarginTrips : List (Trip × Crew)
  driverDespachoPending : List PendingDespacho
  failedChecklists : List (Checklist × Crew)
  disputedDeliveryProofs : List (DeliveryProof × Trip)
  operationalCloseCandidates : List CloseCandidate
  vehicleDocumentsExpiring : List (Vehicle × ComplianceWarning)
  driverDocumentsExpiring : List (Driver × ComplianceWarning)

/-- The date counts days. -/
structure Board where
  date : Int
  summary : Summary
  queues : Queues

def getControlTower [Interpreter] (targetDate : Option Int) (now : Instant) :
    Except Exc Board := do
  let bounds ← dayBounds now targetDate
  let summary ← summary now tenantId targetDate t
  let vehicleDocumentsExpiring ← vehicleDocumentExpiryQueue now tenantId t
  let driverDocumentsExpiring ← driverDocumentExpiryQueue now tenantId t
  return { date := utcDate bounds.1, summary, queues := {
    pendingDispatch := pendingDispatchQueue tenantId p t
    blockedDispatch := blockedDispatchQueue tenantId p t
    openIncidents := openIncidentsQueue tenantId p t
    delayedTrips := delayedTripsQueue tenantId p t now
    pendingDeliveryValidation := pendingDeliveryQueue tenantId p t
    operationalExceptions := operationalExceptionQueue tenantId p t
    alerts := alertsQueue tenantId p t
    activeWorkOrders := activeWorkOrdersQueue tenantId p t
    negativeMarginTrips := negativeMarginQueue tenantId p t
    driverDespachoPending := driverDespachoPendingQueue tenantId p t
    failedChecklists := failedChecklistsQueue tenantId p t
    disputedDeliveryProofs := disputedDeliveryQueue tenantId p t
    operationalCloseCandidates := operationalCloseQueue tenantId p t
    vehicleDocumentsExpiring
    driverDocumentsExpiring } }

/-! ## The cache -/

open Interleave CacheAside

structure BoardRequest where
  tenantId : UUID
  targetDate : Option Int := none
  paged : Paged := {}

/-- `CT_KPI_TTL`. -/
def ctKpiTtl : Nat := 60

section

variable [Interpreter]

/-- The keys are `ct:kpis:{tenant_id}` and, for the lock, `ct:kpis:{tenant_id}:lock`. -/
def board : CacheAside.Origin Tower BoardRequest UUID Board where
  answer request now t :=
    (getControlTower request.tenantId request.paged t request.targetDate now).toOption
  key := BoardRequest.tenantId
  ttl := ctKpiTtl
  lockTtl := 10

abbrev CachedTower := Cache Tower BoardRequest UUID Board

/-- The step of a call of `get_ct_cached`, or of the world around it. -/
def getCtCached : Config CachedTower (Call BoardRequest Board) → Nat × Act Tower BoardRequest →
    Config CachedTower (Call BoardRequest Board) := move (CacheAside.turn board)

/-- The same day, as it was then, and the same page. -/
def SameBoard (request request' : BoardRequest) (readAt : Int) : Prop :=
  dayBounds readAt request.targetDate = dayBounds readAt request'.targetDate ∧
    request.paged = request'.paged

/-- A call that finds an entry finds one of the same board, read at most a minute ago, and one that
works the board out answers within a minute. -/
def BoardServed : Config CachedTower (Call BoardRequest Board) → Nat × Act Tower BoardRequest → Prop :=
  CacheAside.Served board SameBoard

/-- Nothing is cached, and nobody has asked yet. -/
structure Opening (c : Config CachedTower (Call BoardRequest Board)) : Prop where
  past : c.store.past = [(c.store.now, c.store.data)]
  entries : c.store.entries = fun _ => none
  parties : ∀ i, c.parties i = .idle

/-- Every answer is the board that was asked for, at an instant at most a minute before. -/
def BoardsTimely (c : Config CachedTower (Call BoardRequest Board)) : Prop :=
  ∀ i request value answeredAt, c.parties i = .answered request value answeredAt →
    ∃ instant t, (instant, t) ∈ c.store.past ∧ instant ≤ answeredAt ∧
      answeredAt ≤ instant + ctKpiTtl ∧
      getControlTower request.tenantId request.paged t request.targetDate instant = .ok value

/-- A board depends on the day of the request, not on how it is given. -/
theorem board_same {request request' : BoardRequest} {now : Instant} {t : Tower}
    (hkey : request.tenantId = request'.tenantId) (h : SameBoard request request' now) :
    board.answer request now t = board.answer request' now t := by
  obtain ⟨hday, hpage⟩ := h
  simp only [board, getControlTower, summary, summaryOf, hkey, hday, hpage]

theorem boards_timely {c : Config CachedTower (Call BoardRequest Board)}
    {ms : List (Nat × Act Tower BoardRequest)} (hstart : Opening c)
    (hserved : Run.Along getCtCached BoardServed c ms) :
    BoardsTimely (Run.exec getCtCached c ms) := by
  have hopening : Holds (CacheInv board) (fun _ => CallInv board) c := by
    constructor
    · constructor
      · rw [hstart.past]
        exact List.mem_singleton_self _
      · intro k e he
        rw [hstart.entries] at he
        cases he
    · intro i
      rw [hstart.parties]
      trivial
  have hrun := timely_run (fun _ _ _ _ hkey h => board_same hkey h) hopening hserved
  intro i request value answeredAt hanswer
  have hparty := hrun.party i
  rw [show (Run.exec (move (CacheAside.turn board)) c ms).parties i = _ from hanswer] at hparty
  obtain ⟨instant, t, ht, hle, hsoon, hvalue⟩ := hparty
  refine ⟨instant, t, ht, hle, hsoon, ?_⟩
  simp only [board] at hvalue
  cases hboard : getControlTower request.tenantId request.paged t request.targetDate instant with
  | ok value' =>
    rw [hboard] at hvalue
    exact congrArg Except.ok (Option.some.inj hvalue)
  | error e =>
    rw [hboard] at hvalue
    cases hvalue

/-! ## Two calls -/

/-- An empty tower, whose board nobody has asked for. -/
def quiet : Config CachedTower (Call BoardRequest Board) where
  store :=
    { now := 0, data := {}, past := [(0, {})], redis := true, entries := fun _ => none
      locks := fun _ => none }
  parties := fun _ => .idle

omit [Interpreter] in
theorem quiet_opening : Opening quiet := ⟨rfl, rfl, fun _ => rfl⟩

/-- One call is answered before the other one starts. -/
def askTwice (first second : BoardRequest) : List (Nat × Act Tower BoardRequest) :=
  [(0, .ask first), (0, .lock), (0, .compute), (0, .store), (0, .unlock), (1, .ask second)]

section

variable {first second : BoardRequest} {value : Board}

theorem askTwice_answer (hkey : first.tenantId = second.tenantId)
    (hvalue : getControlTower first.tenantId first.paged {} first.targetDate 0 = .ok value) :
    (Run.exec getCtCached quiet (askTwice first second)).parties 1 = .answered second value 0 := by
  simp [askTwice, getCtCached, move, CacheAside.turn, ask, quiet, Cache.get, Cache.free,
    Cache.unlock, board, ctKpiTtl, hkey, hkey ▸ hvalue, Except.toOption]
  rfl

theorem askTwice_served
    (hvalue : getControlTower first.tenantId first.paged {} first.targetDate 0 = .ok value) :
    Run.Along getCtCached BoardServed quiet (askTwice first first) := by
  simp [askTwice, Run.Along, BoardServed, CacheAside.Served, SameBoard, getCtCached, move,
    CacheAside.turn, ask, quiet, Cache.get, Cache.free, Cache.unlock, board, ctKpiTtl, hvalue,
    Except.toOption]

end

end

theorem quiet_board (day : Int) (hday : day = 0 ∨ day = 52) :
    let := Interpreter.undated
    ∃ value, getControlTower 1 {} {} (some day) 0 = .ok value ∧ value.date = day := by
  intro _
  rcases hday with rfl | rfl
  · exact ⟨_, rfl, rfl⟩
  · exact ⟨_, rfl, rfl⟩

/-- The answers of two calls for one day and page are right. -/
theorem boards_timely_twice :
    let := Interpreter.undated
    BoardsTimely (Run.exec getCtCached quiet
      (askTwice { tenantId := 1, targetDate := some 52 } { tenantId := 1, targetDate := some 52 })) := by
  intro _
  obtain ⟨value, hvalue, -⟩ := quiet_board 52 (.inr rfl)
  exact boards_timely quiet_opening (askTwice_served hvalue)

/-- A call for the second day is given the board of the first. -/
theorem board_of_another_day :
    let := Interpreter.undated
    ¬ BoardsTimely (Run.exec getCtCached quiet
      (askTwice { tenantId := 1, targetDate := some 0 } { tenantId := 1, targetDate := some 1 })) := by
  intro _ h
  obtain ⟨value, hvalue, hfirst⟩ := quiet_board 0 (.inl rfl)
  obtain ⟨instant, t, -, -, -, hsecond⟩ := h 1 _ _ _ (askTwice_answer rfl hvalue)
  simp only [getControlTower, bind_eq_ok, dayBounds_eq_ok] at hsecond
  obtain ⟨_, ⟨rfl, -⟩, _, -, _, -, _, -, hboard⟩ := hsecond
  cases hboard
  simp [utcDate] at hfirst

end Rotas.ControlTower
