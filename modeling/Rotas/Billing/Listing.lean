import Rotas.Billing.Earned
import Rotas.Billing.FailedCreate
import Rotas.Billing.NoDeadEnd
import Rotas.Trips.BillingFlag

/-!
# Rotas.Billing.Listing

The listing of the trips that wait for their invoice, and what `create_document` makes of its rows.

* `candidateStatus`   — what a row says of its trip: ready to bill, or why not.
* `listBillableTrips` — a row for each proof of each trip, filtered and paged.
* `listed_blocked_refused` — no document is created over a trip whose row says why not.
* `listed_ready_iff`       — when one is created over a trip whose row says it is ready.
* `billable_is_proven`     — both, and what the flag says, in every state of a run.
-/

namespace Rotas

open Work Decimal

/-! ## The listing -/

/-- One row of the join; every table but the trips may miss. -/
structure JoinedTrip where
  trip : Trip
  proof : Option DeliveryProof
  contract : Option Contract
  vehicle : Option Vehicle

/-- Outer join: each match, or none where nothing matches. -/
def outerMatches {α : Type} (matched : List α) : List (Option α) :=
  if matched.isEmpty then [none] else matched.map some

def joinTrip (db : Db) (trip : Trip) : List JoinedTrip :=
  (outerMatches (db.deliveryProofs.rows.filter (·.tripId = trip.id))).map fun proof =>
    { trip, proof, contract := trip.contractId.bind db.contracts.get
      vehicle := db.vehicles.get trip.vehicleId }

structure BillableTripsQuery where
  clientName : Option String := none
  contractReference : Option String := none
  periodStart : Option Instant := none
  periodEnd : Option Instant := none
  statusFilter : Option String := none
  limit : Nat := 50
  offset : Nat := 0

/-- The row is the tenant's, of a trip that has arrived, and passes the filters; a comparison with
a null does not hold. -/
def BillableTripsQuery.selects [Locale] (tenantId : UUID) (query : BillableTripsQuery)
    (row : JoinedTrip) : Bool :=
  row.trip.tenantId = tenantId && (row.trip.status = .delivered || row.trip.status = .closed) &&
    row.trip.kmEnd.isSome &&
    ((truthy query.clientName).all fun name =>
      row.contract.any fun c => ilike c.clientName ("%" ++ name ++ "%")) &&
    ((truthy query.contractReference).all fun reference =>
      row.trip.contractReference = some reference) &&
    ((truthy query.statusFilter).all fun status => row.trip.billingStatus.text = status) &&
    (query.periodStart.all fun start => row.proof.any fun p => start ≤ p.deliveredAt) &&
    (query.periodEnd.all fun stop => row.proof.any fun p => p.deliveredAt < stop)

/-- `order_by(Trip.actual_arrival.desc())`; the nulls come first. -/
def arrivesLater (row row' : JoinedTrip) : Bool :=
  match row.trip.actualArrival, row'.trip.actualArrival with
  | none, _ => true
  | some _, none => false
  | some arrival, some arrival' => arrival' ≤ arrival

/-- The latest waiver of the trip's margin, whatever its answer. -/
def latestMarginWaiver (tenantId tripId : UUID) (db : Db) : Option OperationalWaiver :=
  (db.operationalWaivers.rows.filter fun w => w.tenantId = tenantId && w.entityType = "trip" &&
    w.entityId = tripId && w.waiverType = negativeMarginApprovalWaiver).getLast?

/-- What the row says of the trip: that it is billable, or the first reason why it is not. -/
def candidateStatus (trip : Trip) (proof : Option DeliveryProof) (contract : Option Contract) :
    BillingStatus :=
  match proof with
  | none => .pendingDeliveryProof
  | some proof =>
    if proof.status = .disputed ∨ trip.billingStatus = .deliveryDisputed then .deliveryDisputed
    else if proof.status ∉ [ProofStatus.validated, .verified] then .pendingDeliveryValidation
    else if contract.isNone then .uncontracted
    else if trip.billingStatus ∈ [BillingStatus.billingDraft, .billed] then trip.billingStatus
    else .billable

structure BillableTripRow where
  tripId : UUID
  vehicleId : UUID
  vehiclePlate : Option String
  contractId : Option UUID
  contractReference : Option String
  clientName : Option String
  origin : String
  destination : String
  cargoType : Option String
  cargoClass : Option String
  loadState : Option String
  deliveredAt : Option Instant
  deliveryProofId : Option UUID
  deliveryProofStatus : Option ProofStatus
  billingStatus : BillingStatus
  candidateStatus : BillingStatus
  amount : Option Int
  waiverStatus : Option WaiverStatus

def serializeBillableTrip (row : JoinedTrip) (waiver : Option OperationalWaiver) :
    BillableTripRow where
  tripId := row.trip.id
  vehicleId := row.trip.vehicleId
  vehiclePlate := row.vehicle.map Vehicle.plate
  contractId := row.trip.contractId
  contractReference := row.trip.contractReference
  clientName := row.contract.map Contract.clientName
  origin := row.trip.origin
  destination := row.trip.destination
  cargoType := row.trip.cargoType
  cargoClass := row.trip.cargoClass
  loadState := row.trip.loadState
  deliveredAt := match row.proof with
    | some proof => some proof.deliveredAt
    | none => row.trip.actualArrival
  deliveryProofId := row.proof.map DeliveryProof.id
  deliveryProofStatus := row.proof.map DeliveryProof.status
  billingStatus := row.trip.billingStatus
  candidateStatus := Rotas.candidateStatus row.trip row.proof row.contract
  amount := row.contract.bind Contract.defaultUnitPrice
  waiverStatus := waiver.map OperationalWaiver.status

def listBillableTrips [Locale] (tenantId : UUID) (query : BillableTripsQuery) (db : Db) :
    List BillableTripRow :=
  let rows := (db.trips.rows.flatMap (joinTrip db)).filter (query.selects tenantId)
  let page := ((rows.mergeSort arrivesLater).drop query.offset).take query.limit
  page.map fun row => serializeBillableTrip row (latestMarginWaiver tenantId row.trip.id db)

section Rows

variable {α : Type} {tenantId : UUID} {query : BillableTripsQuery} {db : Db} {row : BillableTripRow}

theorem mem_outerMatches {matched : List α} {a : Option α} (h : a ∈ outerMatches matched) :
    a = none ∧ matched = [] ∨ ∃ b ∈ matched, a = some b := by
  rw [outerMatches] at h
  split at h
  · next hnone => exact .inl ⟨List.mem_singleton.mp h, List.isEmpty_iff.mp hnone⟩
  · obtain ⟨b, hb, rfl⟩ := List.mem_map.mp h
    exact .inr ⟨b, hb, rfl⟩

/-- The trip of a row, and the proof that the row is about. -/
structure RowOf (tenantId : UUID) (db : Db) (row : BillableTripRow) (trip : Trip)
    (proof : Option DeliveryProof) : Prop where
  get : db.trips.get row.tripId = some trip
  tenant : trip.tenantId = tenantId
  status : row.candidateStatus =
    Rotas.candidateStatus trip proof (trip.contractId.bind db.contracts.get)
  unproven : proof = none → ∀ p ∈ db.deliveryProofs, p.tripId ≠ trip.id
  proven : ∀ p, proof = some p → p ∈ db.deliveryProofs ∧ p.tripId = trip.id

theorem rowOf_mem [Locale] (h : row ∈ listBillableTrips tenantId query db) :
    ∃ trip proof, RowOf tenantId db row trip proof := by
  obtain ⟨joined, hjoined, rfl⟩ := List.mem_map.mp h
  have hsorted := List.mem_of_mem_drop (List.mem_of_mem_take hjoined)
  obtain ⟨hfrom, hselected⟩ := List.mem_filter.mp ((List.mergeSort_perm _ _).mem_iff.mp hsorted)
  obtain ⟨trip, htrip, hjoin⟩ := List.mem_flatMap.mp hfrom
  obtain ⟨proof, hproof, rfl⟩ := List.mem_map.mp hjoin
  simp only [BillableTripsQuery.selects, Bool.and_eq_true, decide_eq_true_eq] at hselected
  refine ⟨trip, proof, Table.get_of_mem htrip, hselected.1.1.1.1.1.1.1, rfl, ?_, ?_⟩
  · rintro rfl p hp hof
    rcases mem_outerMatches hproof with ⟨-, hnone⟩ | ⟨_, _, h⟩
    · exact absurd (List.mem_filter.mpr ⟨hp, by simpa using hof⟩) (hnone ▸ List.not_mem_nil)
    · cases h
  · rintro p rfl
    rcases mem_outerMatches hproof with ⟨h, -⟩ | ⟨b, hb, h⟩
    · cases h
    · cases h
      obtain ⟨hb, hof⟩ := List.mem_filter.mp hb
      exact ⟨hb, by simpa using hof⟩

end Rows

/-! ## What becomes of the rows -/

/-- What `create_document` asks of each trip but its margin, its period and its rate. -/
structure Billable (tenantId : UUID) (contract : Contract) (db : Db) (trip : Trip) : Prop where
  tenant : trip.tenantId = tenantId
  linked : trip.contractId = some contract.id
  flag : trip.billingStatus = .billable
  proven : (billableProof tenantId trip.id db).isSome = true

section Create

variable {now : Instant} {tenantId documentId tripId : UUID} {payload : BillingDocumentCreate}
  {contract : Contract} {db p : Db}

theorem billTrips_billable : ∀ {tripIds : List UUID} {items : List BillingItem}
    {held : Option UUID} {db' p' : Db}, Untouched db db' →
    db'.deliveryProofs = db.deliveryProofs →
    billTrips now tenantId payload contract documentId held tripIds db' = (.ok items, p') →
    ∀ tripId ∈ tripIds, ∃ trip, db.trips.get tripId = some trip ∧
      Billable tenantId contract db trip := by
  intro tripIds
  induction tripIds with
  | nil => intro _ _ _ _ _ _ _ tripId h; cases h
  | cons first tripIds ih =>
    intro items held db' p' huntouched hproofs h tripId hmem
    simp only [billTrips] at h
    cases hc : checkTrip now tenantId payload contract held first db' with
    | error e => rw [hc] at h; cases h
    | ok b =>
      have hb := checkTrip_eq_ok.mp hc
      rcases hrest : billTrips now tenantId payload contract documentId (some first) tripIds
        (addItem tenantId contract documentId b db') with ⟨r, q⟩
      cases r with
      | error e => simp [hc, hrest] at h
      | ok items' =>
        rcases List.mem_cons.mp hmem with rfl | hmem
        · refine ⟨b.trip, huntouched hb.trip hb.billable, hb.tenant, hb.linked, hb.billable, ?_⟩
          have hproof := hb.proof
          rw [billableProof, hproofs] at hproof
          rw [billableProof, hproof, Option.isSome_some]
        · exact ih huntouched.addItem hproofs hrest tripId hmem

/-- An accepted document is over billable trips of its contract. -/
theorem billable_of_accepted
    (h : (serve (atomic (createDocument now tenantId payload)) db).1.isOk = true) :
    ∃ contract ∈ db.contracts, ∀ tripId ∈ payload.tripIds, ∃ trip,
      db.trips.get tripId = some trip ∧ Billable tenantId contract db trip := by
  obtain ⟨⟨documentId, items⟩, p, hcreate, -⟩ := serve_atomic_isOk.mp h
  obtain ⟨rfl, contract, p', hcon, -, hloop, rfl⟩ := createDocument_eq_ok.mp hcreate
  have hstart : Untouched db (drafted tenantId payload contract db) := fun htrip _ => htrip
  exact ⟨contract, (requirePayloadContract_eq_ok.mp hcon).2.1,
    billTrips_billable hstart rfl hloop⟩

theorem billableProof_isSome :
    (billableProof tenantId tripId db).isSome = true ↔ ∃ p ∈ db.deliveryProofs,
      p.tenantId = tenantId ∧ p.tripId = tripId ∧ p.status ∈ billableProofStatuses := by
  rw [billableProof, latestBy_isSome]
  simp only [ne_eq, List.filter_eq_nil_iff, not_forall, Bool.and_eq_true, decide_eq_true_eq,
    List.contains_iff_mem, not_not, Table.mem_def, exists_prop, and_assoc]

/-- A document over one trip, under its contract, is created exactly when the margin is approved, the
trip is domestic, its latest delivery lies in the period and its amounts fit. -/
theorem created_iff {trip : Trip} (hok : db.ok = true) (hget : db.trips.get tripId = some trip)
    (hpay : requirePayloadContract tenantId payload db = .ok contract)
    (hbillable : Billable tenantId contract db trip) (hids : payload.tripIds = [tripId])
    (hzoned : payload.zoned = true) (hcurrency : payload.currency.length ≤ 3) :
    (serve (atomic (createDocument now tenantId payload)) db).1.isOk = true ↔
      requireMarginGovernance now tenantId trip db = .ok () ∧ trip.isInternational = false ∧
        ∃ proof, billableProof tenantId trip.id db = some proof ∧
          inPeriod payload proof = true ∧ itemFits contract (billedDomestic trip proof) = true := by
  have hvalid : db.Valid := Db.ok_iff.mp hok
  have hdraft : (drafted tenantId payload contract db).Valid := (drafted_valid_iff hvalid).mpr hcurrency
  rw [serve_atomic_isOk]
  constructor
  · rintro ⟨⟨documentId, items⟩, p, hcreate, hp⟩
    obtain ⟨rfl, contract', b, hpay', -, hb, rfl, rfl⟩ := (createDocument_one hids).mp hcreate
    rw [hpay] at hpay'
    cases hpay'
    obtain rfl : b.trip = trip := Option.some.inj (hb.trip.symm.trans hget)
    obtain ⟨hdomestic, hiva⟩ := resolveIva_eq_ok.mp hb.iva
    have hfits := (Db.ok_iff.mp hp).billingItems _ (mem_addItem.mpr (.inr rfl))
    rw [newItem_ok_eq] at hfits
    simp only [Prod.mk.injEq] at hiva
    have hbilled : billedDomestic b.trip b.proof = b := by
      rw [billedDomestic, ← hiva.1, ← hiva.2]
    exact ⟨hb.margin, hdomestic, b.proof, hb.proof, hb.period, hbilled ▸ hfits⟩
  · rintro ⟨hmargin, hdomestic, proof, hproof, hperiod, hfits⟩
    have hb : Accepted now tenantId payload contract none tripId
        (drafted tenantId payload contract db) (billedDomestic trip proof) :=
      { flushed := .inr (Db.ok_iff.mpr hdraft), trip := hget, tenant := hbillable.tenant
        linked := hbillable.linked, billable := hbillable.flag, margin := hmargin
        proof := hproof, zoned := hzoned, period := hperiod
        iva := resolveIva_eq_ok.mpr ⟨hdomestic, rfl⟩ }
    refine ⟨(_, _), _, (createDocument_one hids).mpr ⟨rfl, _, _, hpay,
      Db.ok_iff.mpr ((addDraft_valid_iff hvalid).mpr hcurrency), hb, rfl, rfl⟩, ?_⟩
    refine Db.ok_iff.mpr (withTotal_valid ((addItem_valid_iff hdraft).mpr ?_) ?_)
    · rw [newItem_ok_eq]
      exact hfits
    · simp only [itemFits, Bool.and_eq_true] at hfits
      simpa [newItem] using hfits.1.1.1.1

end Create

/-- A row that says its trip is ready: the proof counts, the contract is there, and no document has
taken the trip. -/
theorem candidateStatus_billable {trip : Trip} {proof : Option DeliveryProof} {contract : Option Contract}
    (h : candidateStatus trip proof contract = .billable) :
    (∃ p, proof = some p ∧ p.status ∈ [ProofStatus.validated, .verified]) ∧
      contract.isSome = true ∧
      trip.billingStatus ∉ [BillingStatus.deliveryDisputed, .billingDraft, .billed] := by
  cases proof with
  | none => cases h
  | some p =>
    simp only [candidateStatus] at h
    split at h
    · cases h
    · next hopen =>
      split at h
      · cases h
      · next hvalidated =>
        split at h
        · cases h
        · next hcontract =>
          split at h
          · next htaken =>
            rw [h] at htaken
            simp at htaken
          · next htaken =>
            refine ⟨⟨p, rfl, not_not.mp hvalidated⟩, by simpa [Option.isSome_iff_ne_none] using hcontract, ?_⟩
            simp only [List.mem_cons, not_or, List.not_mem_nil] at htaken hopen ⊢
            tauto

section Listed

variable [Locale] {now : Instant} {tenantId : UUID} {payload : BillingDocumentCreate}
  {query : BillableTripsQuery} {row : BillableTripRow} {db : Db} {trip : Trip}

theorem listed_blocked_refused (hrow : row ∈ listBillableTrips tenantId query db)
    (hblocked : row.candidateStatus ≠ .billable) (hget : db.trips.get row.tripId = some trip)
    (hproofs : trip.billingStatus = .billable → ∀ p ∈ db.deliveryProofs, p.tripId = trip.id →
      p.status ∈ [ProofStatus.validated, .verified])
    (hmem : row.tripId ∈ payload.tripIds) :
    (serve (atomic (createDocument now tenantId payload)) db).1.isOk = false := by
  refine Bool.eq_false_iff.mpr fun haccepted => hblocked ?_
  obtain ⟨contract, hcontract, hall⟩ := billable_of_accepted haccepted
  obtain ⟨trip', htrip', hbillable⟩ := hall _ hmem
  rw [hget] at htrip'
  cases htrip'
  obtain ⟨trip', proof, hof⟩ := rowOf_mem hrow
  have hget' := hof.get
  rw [hget] at hget'
  cases hget'
  obtain ⟨p, hp, -, hptrip, -⟩ := billableProof_isSome.mp hbillable.proven
  have hlinked : trip.contractId.bind db.contracts.get = some contract := by
    rw [hbillable.linked]
    exact Table.get_of_mem hcontract
  rw [hof.status, hlinked]
  cases proof with
  | none => exact absurd hptrip (hof.unproven rfl p hp)
  | some proof =>
    obtain ⟨hproof, hptrip⟩ := hof.proven proof rfl
    have hvalidated := hproofs hbillable.flag proof hproof hptrip
    have hopen : ¬ (proof.status = .disputed ∨ trip.billingStatus = .deliveryDisputed) := by
      rw [hbillable.flag]
      rintro (h | h)
      · simp [h] at hvalidated
      · cases h
    rw [candidateStatus, if_neg hopen, if_neg (not_not.mpr hvalidated), if_neg (by simp),
      if_neg (by simp [hbillable.flag])]

theorem listed_ready_iff {contract : Contract} (hok : db.ok = true)
    (hrow : row ∈ listBillableTrips tenantId query db) (hready : row.candidateStatus = .billable)
    (hget : db.trips.get row.tripId = some trip) (hflag : trip.billingStatus = .billable)
    (htenants : ∀ p ∈ db.deliveryProofs, p.tripId = trip.id → p.tenantId = tenantId)
    (hpay : requirePayloadContract tenantId payload db = .ok contract)
    (hcontract : payload.contractId = trip.contractId) (hids : payload.tripIds = [row.tripId])
    (hzoned : payload.zoned = true) (hcurrency : payload.currency.length ≤ 3) :
    (serve (atomic (createDocument now tenantId payload)) db).1.isOk = true ↔
      requireMarginGovernance now tenantId trip db = .ok () ∧ trip.isInternational = false ∧
        ∃ proof, billableProof tenantId trip.id db = some proof ∧
          inPeriod payload proof = true ∧ itemFits contract (billedDomestic trip proof) = true := by
  obtain ⟨trip', proof, hof⟩ := rowOf_mem hrow
  have hget' := hof.get
  rw [hget] at hget'
  cases hget'
  obtain ⟨⟨p, rfl, hvalidated⟩, -, -⟩ := candidateStatus_billable (hof.status.symm.trans hready)
  obtain ⟨hp, hptrip⟩ := hof.proven p rfl
  have hcounts : p.status ∈ billableProofStatuses := by
    simp only [List.mem_cons, List.not_mem_nil, or_false, billableProofStatuses] at hvalidated ⊢
    tauto
  refine created_iff hok hget hpay ⟨hof.tenant, ?_, hflag, ?_⟩ hids hzoned hcurrency
  · rw [← hcontract]
    exact (requirePayloadContract_eq_ok.mp hpay).1
  · exact billableProof_isSome.mpr ⟨p, hp, htenants p hp hptrip, hptrip, hcounts⟩

variable [Interpreter]

/-- In every state of a run from a fleet without trips, whose calls make trip `k` billable duly: if
the trip is billable, it has a contract, no open dispute, and a proof that counts or a waiver of it.
A document over the trip is refused while a row lists it as blocked, provided that a billable trip
has validated proofs only; and while a row lists it as ready, and its flag has not been set back
since, a document over it is created exactly when its margin, its rate, its period and its amounts
allow it. -/
theorem billable_is_proven {f g : Fleet} {calls : List OpsCall} {k : UUID} {t : Trip}
    (hf : f.Unproven) (hcalls : Run.Along OpsCall.step (fun s c => c.BillsDuly k s) f calls)
    (hg : Run.exec OpsCall.step f calls = g) (ht : g.trips.get k = some t) :
    (t.billingStatus = .billable →
      t.contractId.isSome = true ∧ (g.Counted k ∨ g.NoPodWaived t) ∧ g.Settled k) ∧
    ∀ query row, row ∈ listBillableTrips t.tenantId query g.toDb → row.tripId = k →
      ∀ now payload,
        (row.candidateStatus ≠ .billable →
          (t.billingStatus = .billable → ∀ p ∈ g.deliveryProofs, p.tripId = k →
            p.status ∈ [ProofStatus.validated, .verified]) → k ∈ payload.tripIds →
          (serve (atomic (createDocument now t.tenantId payload)) g.toDb).1.isOk = false) ∧
        (row.candidateStatus = .billable →
          t.billingStatus ∉ [BillingStatus.notBillable, .pendingDeliveryProof,
            .pendingDeliveryValidation] →
          ∀ contract, requirePayloadContract t.tenantId payload g.toDb = .ok contract →
            payload.contractId = t.contractId → payload.tripIds = [k] → payload.zoned = true →
            payload.currency.length ≤ 3 →
            ((serve (atomic (createDocument now t.tenantId payload)) g.toDb).1.isOk = true ↔
              requireMarginGovernance now t.tenantId t g.toDb = .ok () ∧
                t.isInternational = false ∧ ∃ proof, billableProof t.tenantId k g.toDb = some proof ∧
                  inPeriod payload proof = true ∧
                  itemFits contract (billedDomestic t proof) = true)) := by
  have hid : t.id = k := Table.key_of_get ht
  have hhonest : g.Honest k := hg ▸ (hf.honest k).exec hcalls
  have hflag : t.Honest g.toDb := hhonest.flag t ht
  have hok : g.toDb.ok = true := by
    have hfleet : g.ok = true := hg ▸
      Run.exec_inv_all (I := fun s => Fleet.ok s = true) (fun _ c hs => c.step_ok hs) hf.ok
    simp only [Fleet.ok, Bool.and_eq_true] at hfleet
    exact hfleet.1.1.1.1.1
  constructor
  · intro hb
    have hcounted := hflag.counted (by simp [hb])
    have hsettled := hflag.settled hb
    rw [hid] at hcounted hsettled
    exact ⟨hflag.contracted hb, hcounted, hsettled⟩
  · rintro query row hrow rfl now payload
    constructor
    · intro hblocked hproofs hmem
      exact listed_blocked_refused hrow hblocked ht (hid ▸ hproofs) hmem
    · intro hready hset contract hpay hcontract hids hzoned hcurrency
      have htenants : ∀ p ∈ g.deliveryProofs, p.tripId = t.id → p.tenantId = t.tenantId := by
        intro p hp hof
        obtain ⟨t', ht', hten⟩ := hhonest.tenants p hp
        rw [hof, hid, ht] at ht'
        cases ht'
        exact hten.symm
      have hbillable : t.billingStatus = .billable := by
        obtain ⟨trip, proof, hof⟩ := rowOf_mem hrow
        obtain rfl : trip = t := Option.some.inj (hof.get.symm.trans ht)
        obtain ⟨-, hlinked, htaken⟩ := candidateStatus_billable (hof.status.symm.trans hready)
        have hcontracted : trip.billingStatus ≠ .uncontracted := fun h => by
          rw [hflag.uncontracted h] at hlinked
          cases hlinked
        cases hs : trip.billingStatus <;> simp_all
      rw [← hid]
      exact listed_ready_iff hok hrow hready ht hbillable htenants hpay hcontract hids hzoned
        hcurrency

end Listed

/-! ## A validated trip and a waived one -/

/-- A vehicle, a driver and a contract, and a waiver of the proof of the first trip. -/
def contractedFleet : Fleet where
  vehicles := .single { id := 1, tenantId := 1, plate := "AAA-001-MC" }
  drivers := .single { id := 1, tenantId := 1 }
  contracts := .single
    { id := 1, tenantId := 1, clientName := "Cliente", contractReference := "CT-1"
      defaultUnitPrice := some 100 }
  operationalWaivers := .single
    { id := 1, tenantId := 1, entityType := "trip", entityId := 1, waiverType := "no_pod"
      reason := "Prova extraviada", approvedAt := 0 }

theorem contractedFleet_unproven : contractedFleet.Unproven := ⟨by decide +kernel, rfl, rfl⟩

/-- The first trip of it, driven to its destination. -/
def drivenTrip : List OpsCall :=
  [.trips (.createTrip 100 1
      { contractId := some 1, vehicleId := 1, driverId := 1, origin := "Maputo"
        destination := "Beira" }),
    .trips (.startTrip 200 1 1 { kmStart := 10 }),
    .trips (.completeTrip 300 1 1 { kmEnd := 20 })]

def validatedTrip : List OpsCall :=
  drivenTrip ++
    [.proofs (.createDeliveryProof 1 1 { deliveredAt := 300 }),
      .proofs (.validateDeliveryProof 400 1 1 1 none {})]

def waivedTrip : List OpsCall :=
  drivenTrip ++ [.trips (.operationalCloseTrip 400 1 1 {} none)]

def march : BillingDocumentCreate where
  contractId := some 1
  billingPeriodStart := 0
  billingPeriodEnd := 1000
  tripIds := [1]
  periods := zero_lt_thousand

theorem validatedTrip_duly :
    Run.Along (@OpsCall.step .undated .ascii) (fun s c => @OpsCall.BillsDuly .ascii 1 s c)
      contractedFleet validatedTrip := by
  refine ⟨trivial, trivial, trivial, trivial, ?_, trivial⟩
  intro proof _ hproof _ _ _ _ p hp _ hne
  have honly : ∀ p ∈ (Run.exec (@OpsCall.step .undated .ascii) contractedFleet
      (validatedTrip.take 4)).deliveryProofs, p.id = 1 := by decide +kernel
  exact absurd ((honly p hp).trans (honly proof (Table.mem_of_get hproof)).symm) hne

theorem validatedTrip_flag :
    ((Run.exec (@OpsCall.step .undated .ascii) contractedFleet validatedTrip).trips.get 1).map
      Trip.billingStatus = some .billable := by decide +kernel

theorem billable_is_proven_validated :
    ∃ t, (Run.exec (@OpsCall.step .undated .ascii) contractedFleet validatedTrip).trips.get 1 =
        some t ∧ t.contractId.isSome = true ∧
      (Run.exec (@OpsCall.step .undated .ascii) contractedFleet validatedTrip).Settled 1 := by
  obtain ⟨t, ht, hflag⟩ := Option.map_eq_some_iff.mp validatedTrip_flag
  obtain ⟨hcontract, -, hsettled⟩ := (@billable_is_proven .ascii .undated contractedFleet _
    validatedTrip 1 t contractedFleet_unproven validatedTrip_duly rfl ht).1 hflag
  exact ⟨t, ht, hcontract, hsettled⟩

/-- The trip is listed as ready, and its document is created. -/
example : (@listBillableTrips .ascii 1 {}
    (Run.exec (@OpsCall.step .undated .ascii) contractedFleet validatedTrip).toDb).map
      BillableTripRow.candidateStatus = [.billable] := by decide +kernel

example : (serve (atomic (createDocument 500 1 march))
    (Run.exec (@OpsCall.step .undated .ascii) contractedFleet validatedTrip).toDb).1.isOk = true := by
  decide +kernel

theorem waivedTrip_flag :
    ((Run.exec (@OpsCall.step .undated .ascii) contractedFleet waivedTrip).trips.get 1).map
      Trip.billingStatus = some .billable := by decide +kernel

/-- A trip that is closed under a waiver of its proof is billable with no proof at all. -/
theorem waived_trip_unproven :
    ¬ ∀ (f : Fleet) (calls : List OpsCall), f.Unproven →
      ∀ t ∈ (Run.exec (@OpsCall.step .undated .ascii) f calls).trips, t.billingStatus = .billable →
        t.contractId.isSome = true ∧
          (Run.exec (@OpsCall.step .undated .ascii) f calls).Counted t.id ∧
          (Run.exec (@OpsCall.step .undated .ascii) f calls).Settled t.id := by
  intro hall
  obtain ⟨t, ht, hflag⟩ := Option.map_eq_some_iff.mp waivedTrip_flag
  obtain ⟨-, ⟨s, hs, -⟩, -⟩ := hall contractedFleet waivedTrip contractedFleet_unproven t
    (Table.mem_of_get ht) hflag
  obtain ⟨p, hp, -⟩ := mem_proofStatuses.mp hs
  have hnone : (Run.exec (@OpsCall.step .undated .ascii) contractedFleet
      waivedTrip).deliveryProofs.rows = [] := List.isEmpty_iff.mp (by decide +kernel)
  rw [hnone] at hp
  cases hp

end Rotas
