import Rotas.Billing.Accepted
import Rotas.Core.Idempotency

/-!
# Rotas.Billing.FailedCreate

The request that creates a document, when one of its trips is refused.

* `createDocumentRequest` — the route: `create_document` under the key of the request.
* `Refused`     — after some good trips one is refused by its checks.
* `LeavesDraft` — the requests that fail and leave their draft behind.
* `failed_create_atomic` — all the others leave the database as it was.
* `failed_create_kept`   — a request that leaves its draft behind.
-/

namespace Rotas

open Work Decimal

/-! ## Trips that are refused -/

/-- The checks of a trip, apart from the flush of what is pending. -/
def tripChecks (now : Instant) (tenantId : UUID) (payload : BillingDocumentCreate)
    (contract : Contract) (tripId : UUID) (db : Db) : Except Exc BillableTrip :=
  checkTrip now tenantId payload contract (some tripId) tripId db

/-- The columns can hold the item of the trip. -/
def itemFits (contract : Contract) (b : BillableTrip) : Bool :=
  fitsMoney contract.itemAmount && b.proof.quantityDelivered.all fitsMoney &&
    contract.defaultUnitPrice.all fitsMoney && ivaRateOk (some b.ivaRate) &&
    decide (0 ≤ quantize 2 ((contract.itemAmount : ℚ) / 100 * b.ivaRate) ∧
      quantize 2 ((contract.itemAmount : ℚ) / 100 * b.ivaRate) < 10 ^ 10)

/-- After some good trips, whose items the columns can hold, a trip is refused: it is among them,
or its checks raise an `ApiError`. -/
def Refused (now : Instant) (tenantId : UUID) (payload : BillingDocumentCreate)
    (contract : Contract) (tripIds : List UUID) (db : Db) : Prop :=
  ∃ good tripId rest, tripIds = good ++ tripId :: rest ∧ good.Nodup ∧
    (∀ t ∈ good, ∃ b, tripChecks now tenantId payload contract t db = .ok b ∧
      itemFits contract b = true) ∧
    (tripId ∈ good ∨ ∃ e, tripChecks now tenantId payload contract tripId db = .error (.api e))

section Checks

variable {now : Instant} {tenantId documentId tripId : UUID} {payload : BillingDocumentCreate}
  {contract : Contract} {held : Option UUID} {b : BillableTrip} {db p : Db} {tripIds : List UUID}

/-- A trip that is not held is read, and what is pending goes to the database first. -/
theorem checkTrip_of_ok (hok : db.ok = true) :
    checkTrip now tenantId payload contract held tripId db =
      tripChecks now tenantId payload contract tripId db := by
  simp [tripChecks, checkTrip, hok]

/-- The checks of a trip read the trip, the proofs and the waivers. -/
theorem tripChecks_congr (htrip : p.trips.get tripId = db.trips.get tripId)
    (hproofs : p.deliveryProofs = db.deliveryProofs)
    (hwaivers : p.operationalWaivers = db.operationalWaivers) :
    tripChecks now tenantId payload contract tripId p =
      tripChecks now tenantId payload contract tripId db := by
  simp only [tripChecks, checkTrip, requireTrip, htrip, requireMarginGovernance, hasActiveWaiver,
    hwaivers, billableProof, hproofs, ne_eq, not_true_eq_false, decide_false, Bool.false_and]

theorem refused_congr (htrips : p.trips = db.trips) (hproofs : p.deliveryProofs = db.deliveryProofs)
    (hwaivers : p.operationalWaivers = db.operationalWaivers) :
    Refused now tenantId payload contract tripIds p ↔
      Refused now tenantId payload contract tripIds db := by
  have hchecks : ∀ t, tripChecks now tenantId payload contract t p =
      tripChecks now tenantId payload contract t db :=
    fun t => tripChecks_congr (by rw [htrips]) hproofs hwaivers
  simp only [Refused, hchecks]

theorem newItem_ok_eq (id : UUID) :
    (newItem tenantId contract documentId b db id).ok = itemFits contract b := by
  simp only [BillingItem.ok, newItem, itemFits, Option.all_some, Bool.decide_and]

theorem tripChecks_accepted (h : tripChecks now tenantId payload contract tripId db = .ok b) :
    Accepted now tenantId payload contract (some tripId) tripId db b := checkTrip_eq_ok.mp h

theorem tripChecks_addItem_ne {t : UUID} (hne : t ≠ b.trip.id) :
    tripChecks now tenantId payload contract t (addItem tenantId contract documentId b db) =
      tripChecks now tenantId payload contract t db :=
  tripChecks_congr (by rw [addItem_get_trip, if_neg hne]) rfl rfl

/-- A trip that is in the draft is not billable a second time. -/
theorem tripChecks_addItem_self (h : tripChecks now tenantId payload contract tripId db = .ok b) :
    ∃ e, tripChecks now tenantId payload contract tripId
      (addItem tenantId contract documentId b db) = .error (.api e) := by
  have hacc := tripChecks_accepted h
  have hget : (addItem tenantId contract documentId b db).trips.get tripId =
      some { b.trip with billingStatus := .billingDraft, billingDocumentId := some documentId } := by
    rw [addItem_get_trip, hacc.trip_id, if_pos rfl, hacc.trip, Option.map_some]
  exact ⟨_, by
    simp [tripChecks, checkTrip, requireTrip, hget, require, raiseIf, hacc.tenant, hacc.linked,
      conflict, bind, Except.bind, pure, Except.pure]
    rfl⟩

/-- What the database refuses before an item, it refuses after it. -/
theorem valid_of_addItem (h : (addItem tenantId contract documentId b db).Valid) : db.Valid := by
  have hitems : ∀ i ∈ db.billingItems, i.ok = true := fun i hi =>
    h.billingItems i (mem_addItem.mpr (.inl hi))
  exact { h with billingItems := hitems, trips := addItem_trips_ok.mp h.trips }

theorem billTrips_not_ok (hok : db.ok = false) :
    (billTrips now tenantId payload contract documentId held tripIds db).2.ok = false := by
  refine billTrips_ind (P := fun q => q.ok = false) (fun _ _ q b hq _ => ?_) hok
  refine Bool.eq_false_iff.mpr fun h => ?_
  rw [Db.ok_iff.mpr (valid_of_addItem (Db.ok_iff.mp h))] at hq
  cases hq

theorem refused_cons_ok (h : tripChecks now tenantId payload contract tripId db = .ok b)
    (hfits : itemFits contract b = true) :
    Refused now tenantId payload contract (tripId :: tripIds) db ↔
      Refused now tenantId payload contract tripIds
        (addItem tenantId contract documentId b db) := by
  have hbid : b.trip.id = tripId := (tripChecks_accepted h).trip_id
  have hne : ∀ {t}, t ≠ tripId → tripChecks now tenantId payload contract t
      (addItem tenantId contract documentId b db) =
        tripChecks now tenantId payload contract t db := fun ht =>
    tripChecks_addItem_ne (hbid ▸ ht)
  obtain ⟨e, hself⟩ : ∃ e, tripChecks now tenantId payload contract tripId
      (addItem tenantId contract documentId b db) = .error (.api e) := tripChecks_addItem_self h
  constructor
  · rintro ⟨good, t, rest, hsplit, hnodup, hgood, hbad⟩
    cases good with
    | nil =>
      simp only [List.nil_append, List.cons.injEq] at hsplit
      obtain ⟨rfl, _⟩ := hsplit
      rcases hbad with hbad | ⟨e, he⟩
      · cases hbad
      · rw [h] at he; cases he
    | cons g good =>
      simp only [List.cons_append, List.cons.injEq] at hsplit
      obtain ⟨rfl, rfl⟩ := hsplit
      rw [List.nodup_cons] at hnodup
      refine ⟨good, t, rest, rfl, hnodup.2, fun u hu => ?_, ?_⟩
      · rw [hne (fun hut => hnodup.1 (hut ▸ hu))]
        exact hgood u (List.mem_cons_of_mem _ hu)
      · by_cases ht : t = tripId
        · exact .inr ⟨e, ht ▸ hself⟩
        · rw [hne ht]
          exact hbad.imp_left fun hm => (List.mem_cons.mp hm).resolve_left ht
  · rintro ⟨good, t, rest, rfl, hnodup, hgood, hbad⟩
    have hnot : tripId ∉ good := fun hm => by
      obtain ⟨b', hb', _⟩ := hgood _ hm
      rw [hself] at hb'
      cases hb'
    refine ⟨tripId :: good, t, rest, rfl, List.nodup_cons.mpr ⟨hnot, hnodup⟩, fun u hu => ?_, ?_⟩
    · rcases List.mem_cons.mp hu with rfl | hu
      · exact ⟨b, h, hfits⟩
      · obtain ⟨b', hb', hfit⟩ := hgood u hu
        rw [hne (fun hut => hnot (hut ▸ hu))] at hb'
        exact ⟨b', hb', hfit⟩
    · by_cases ht : t = tripId
      · exact .inl (ht ▸ List.mem_cons_self)
      · rw [hne ht] at hbad
        exact hbad.imp_left (List.mem_cons_of_mem _)

theorem Refused.head (h : Refused now tenantId payload contract (tripId :: tripIds) db) :
    (∃ e, tripChecks now tenantId payload contract tripId db = .error (.api e)) ∨
      ∃ b, tripChecks now tenantId payload contract tripId db = .ok b ∧
        itemFits contract b = true := by
  obtain ⟨good, t, rest, hsplit, _, hgood, hbad⟩ := h
  cases good with
  | nil =>
    obtain ⟨rfl, _⟩ := List.cons.inj hsplit
    exact .inl (hbad.resolve_left List.not_mem_nil)
  | cons g good =>
    obtain ⟨rfl, _⟩ := List.cons.inj hsplit
    exact .inr (hgood _ List.mem_cons_self)

/-- The loop raises an `ApiError`, and leaves what the database takes, exactly when a trip is
refused after good ones. -/
theorem billTrips_refused_iff : ∀ {tripIds : List UUID} {held : Option UUID} {db : Db},
    db.ok = true →
    ((∃ e p, billTrips now tenantId payload contract documentId held tripIds db =
      (.error (.api e), p) ∧ p.ok = true) ↔
        Refused now tenantId payload contract tripIds db) := by
  intro tripIds
  induction tripIds with
  | nil =>
    intro held db _
    constructor
    · rintro ⟨e, p, h, _⟩; cases h
    · rintro ⟨good, t, rest, h, _⟩; exact absurd h (by simp)
  | cons tripId tripIds ih =>
    intro held db hok
    simp only [billTrips, checkTrip_of_ok hok]
    cases hc : tripChecks now tenantId payload contract tripId db with
    | error e =>
      constructor
      · rintro ⟨e', p, h, _⟩
        cases h
        exact ⟨[], tripId, tripIds, rfl, List.nodup_nil, fun _ h => absurd h List.not_mem_nil,
          .inr ⟨_, hc⟩⟩
      · intro h
        rcases h.head with ⟨e', he⟩ | ⟨b, hb, _⟩
        · rw [hc] at he
          cases he
          exact ⟨e', db, rfl, hok⟩
        · rw [hc] at hb; cases hb
    | ok b =>
      -- the loop raises what its rest raises
      dsimp only
      refine Iff.trans (b := ∃ e p, billTrips now tenantId payload contract documentId
        (some tripId) tripIds (addItem tenantId contract documentId b db) =
          (.error (.api e), p) ∧ p.ok = true) ?_ ?_
      · rcases billTrips now tenantId payload contract documentId (some tripId) tripIds
          (addItem tenantId contract documentId b db) with ⟨out, p⟩
        cases out <;> simp
      cases hfits : itemFits contract b with
      | true =>
        have hadd : (addItem tenantId contract documentId b db).ok = true := by
          rw [Db.ok_iff, addItem_valid_iff (Db.ok_iff.mp hok), newItem_ok_eq, hfits]
        exact (ih hadd).trans (refused_cons_ok hc hfits).symm
      | false =>
        have hadd : (addItem tenantId contract documentId b db).ok = false := by
          refine Bool.eq_false_iff.mpr fun h => ?_
          rw [Db.ok_iff, addItem_valid_iff (Db.ok_iff.mp hok), newItem_ok_eq, hfits] at h
          cases h
        constructor
        · rintro ⟨e, p, h, hp⟩
          have hnot : (billTrips now tenantId payload contract documentId (some tripId) tripIds
              (addItem tenantId contract documentId b db)).2.ok = false := billTrips_not_ok hadd
          rw [h, hp] at hnot
          cases hnot
        · intro h
          rcases h.head with ⟨e', he⟩ | ⟨b', hb', hfit'⟩
          · rw [hc] at he; cases he
          · rw [hc] at hb'
            cases hb'
            rw [hfits] at hfit'
            cases hfit'

end Checks

/-! ## The request -/

/-- `POST /documents`; `body` renders the answer. -/
def createDocumentRequest (now : Instant) (r : IdempotentRequest) (payload : BillingDocumentCreate)
    (body : UUID × List BillingItem → String) : Work Db Exc String :=
  executeHttpIdempotent r
    (answering (createDocument now r.tenantId payload) fun a => ⟨body a, some a.1⟩)

/-- The key is new and fits its column, the contract is there and its draft is taken, and then a trip
is refused. -/
def LeavesDraft (now : Instant) (r : IdempotentRequest) (payload : BillingDocumentCreate) (db : Db) :
    Prop :=
  (∃ key, truthy r.idempotencyKey = some key ∧ keyFits key = true ∧
      storedKey r.tenantId key db = none) ∧
    payload.currency.length ≤ 3 ∧
    ∃ contract, requirePayloadContract r.tenantId payload db = .ok contract ∧
      Refused now r.tenantId payload contract payload.tripIds db

section Request

variable {now : Instant} {tenantId : UUID} {r : IdempotentRequest} {key : String}
  {payload : BillingDocumentCreate} {db p : Db} {e : ApiError}
  {body : UUID × List BillingItem → String}

/-- `create_document` raises an `ApiError` before it writes anything, or in its loop. -/
theorem createDocument_error_iff :
    createDocument now tenantId payload db = (.error (.api e), p) ↔
      requirePayloadContract tenantId payload db = .error (.api e) ∧ p = db ∨
      ∃ contract, requirePayloadContract tenantId payload db = .ok contract ∧
        (addDraft tenantId payload contract db).ok = true ∧
        billTrips now tenantId payload contract db.billingDocuments.freshKey none payload.tripIds
          (drafted tenantId payload contract db) = (.error (.api e), p) := by
  unfold createDocument
  cases hc : requirePayloadContract tenantId payload db with
  | error e' =>
    constructor
    · intro h; cases h; exact .inl ⟨rfl, rfl⟩
    · rintro (⟨h, rfl⟩ | ⟨_, h, _⟩) <;> cases h
      rfl
  | ok contract =>
    cases hok : (addDraft tenantId payload contract db).ok with
    | false => simp [hok]
    | true =>
      rcases hb : billTrips now tenantId payload contract db.billingDocuments.freshKey none
        payload.tripIds (drafted tenantId payload contract db) with ⟨out, p'⟩
      have hb' := hb
      simp only [drafted] at hb'
      cases out <;> simp [hok, hb', hb]

theorem billTrips_keys {contract : Contract} {documentId : UUID} {held : Option UUID}
    {tripIds : List UUID} {out : Except Exc (List BillingItem)}
    (h : billTrips now tenantId payload contract documentId held tripIds db = (out, p)) :
    p.idempotencyKeys = db.idempotencyKeys ∧ p.fiscalCounters = db.fiscalCounters := by
  have hkeep : (billTrips now tenantId payload contract documentId held tripIds
      db).2.idempotencyKeys = db.idempotencyKeys ∧ (billTrips now tenantId payload contract
      documentId held tripIds db).2.fiscalCounters = db.fiscalCounters :=
    billTrips_ind (P := fun q => q.idempotencyKeys = db.idempotencyKeys ∧
      q.fiscalCounters = db.fiscalCounters) (fun _ _ _ _ hP _ => hP) ⟨rfl, rfl⟩
  rwa [h] at hkeep

theorem releaseKey_ok_iff (hok : db.ok = true) (hres : (reserve r key db).ok = true)
    (hkeys : p.idempotencyKeys = (reserve r key db).idempotencyKeys)
    (hcounters : p.fiscalCounters = db.fiscalCounters) :
    (releaseKey db.idempotencyKeys.freshKey p).ok = true ↔ p.ok = true := by
  have hafter : (releaseKey db.idempotencyKeys.freshKey p).idempotencyKeys = db.idempotencyKeys := by
    simp only [releaseKey, hkeys, reserve, Table.erase_insert]
  have hu : (releaseKey db.idempotencyKeys.freshKey p).uniqueOk = db.uniqueOk := by
    simp only [Db.uniqueOk, hafter]
    rw [releaseKey, hcounters]
  have hup : p.uniqueOk = (reserve r key db).uniqueOk := by
    simp only [Db.uniqueOk, hkeys, hcounters]
    rfl
  rw [Db.ok_iff, Db.ok_iff]
  constructor
  · intro h
    exact { h with unique := hup.trans (Db.ok_iff.mp hres).unique }
  · intro h
    exact { h with unique := hu.trans (Db.ok_iff.mp hok).unique }

/-- Neither the reservation nor the draft is among what the trips are checked against. -/
theorem refused_reserved {contract : Contract} {tripIds : List UUID} :
    Refused now r.tenantId payload contract tripIds
        (drafted r.tenantId payload contract (reserve r key db)) ↔
      Refused now r.tenantId payload contract tripIds db :=
  have htrips : (drafted r.tenantId payload contract (reserve r key db)).trips = db.trips := rfl
  refused_congr htrips rfl rfl

/-- Giving the key back after the loop is refused exactly if what the loop left is. -/
theorem releaseKey_loop_ok_iff {contract : Contract} {documentId : UUID} {held : Option UUID}
    {tripIds : List UUID} {out : Except Exc (List BillingItem)} (hok : db.ok = true)
    (hfree : storedKey r.tenantId key db = none)
    (hloop : billTrips now r.tenantId payload contract documentId held tripIds
      (drafted r.tenantId payload contract (reserve r key db)) = (out, p)) :
    (releaseKey db.idempotencyKeys.freshKey p).ok = true ↔ p.ok = true := by
  obtain ⟨hkeys, hcounters⟩ := billTrips_keys hloop
  exact releaseKey_ok_iff hok ((reserve_ok_iff hok).mpr hfree) hkeys hcounters

/-- The draft under a newly reserved key is one the database takes. -/
theorem reserved_draft_ok (contract : Contract) (hok : db.ok = true)
    (hfree : storedKey r.tenantId key db = none) (hcurrency : payload.currency.length ≤ 3) :
    (drafted r.tenantId payload contract (reserve r key db)).ok = true ∧
      (addDraft r.tenantId payload contract (reserve r key db)).ok = true := by
  have hres := Db.ok_iff.mp ((reserve_ok_iff hok).mpr hfree)
  exact ⟨Db.ok_iff.mpr ((drafted_valid_iff hres).mpr hcurrency),
    Db.ok_iff.mpr ((addDraft_valid_iff hres).mpr hcurrency)⟩

/-- Once the draft is written, giving the key back does not bring the old database back. -/
theorem releaseKey_ne {contract : Contract} {documentId : UUID} {held : Option UUID}
    {tripIds : List UUID} :
    releaseKey db.idempotencyKeys.freshKey (billTrips now tenantId payload contract documentId held
      tripIds (drafted tenantId payload contract (reserve r key db))).2 ≠ db := by
  intro h
  have hdocs := congrArg Db.billingDocuments h
  rw [releaseKey] at hdocs
  dsimp only at hdocs
  rw [billTrips_billingDocuments] at hdocs
  have hsome : ((drafted tenantId payload contract (reserve r key db)).billingDocuments.get
      (reserve r key db).billingDocuments.freshKey).isSome = true := drafted_get payload contract
  rw [hdocs] at hsome
  change (db.billingDocuments.get db.billingDocuments.freshKey).isSome = true at hsome
  rw [Table.get_freshKey] at hsome
  cases hsome

/-- An `ApiError` of the request leaves the database as it was, except for the requests that leave
their draft behind. -/
theorem failed_create_atomic (hok : db.ok = true) :
    (∀ e, (serve (createDocumentRequest now r payload body) db).1 = .error (.api e) →
      (serve (createDocumentRequest now r payload body) db).2 = db) ↔
    ¬ LeavesDraft now r payload db := by
  rw [createDocumentRequest, execute_atomic_iff hok]
  constructor
  · rintro h ⟨⟨key, hkey, hfits, hfree⟩, hcurrency, contract, hcon, hrefused⟩
    obtain ⟨hdraft, hadd⟩ := reserved_draft_ok contract hok hfree hcurrency
    have hrefused' : Refused now r.tenantId payload contract payload.tripIds
        (drafted r.tenantId payload contract (reserve r key db)) :=
      refused_reserved.mpr hrefused
    obtain ⟨e, p, hloop, hp⟩ : ∃ e p, billTrips now r.tenantId payload contract
        (reserve r key db).billingDocuments.freshKey none payload.tripIds
        (drafted r.tenantId payload contract (reserve r key db)) = (.error (.api e), p) ∧
          p.ok = true := (billTrips_refused_iff hdraft).mpr hrefused'
    have hcreate : createDocument now r.tenantId payload (reserve r key db) = (.error (.api e), p) :=
      createDocument_error_iff.mpr (.inr ⟨contract, hcon, hadd, hloop⟩)
    have hrelease := (releaseKey_loop_ok_iff hok hfree hloop).mpr hp
    have hback := h key e p hkey hfits hfree hcreate hrelease
    have hleft : p = _ := (congrArg Prod.snd hloop).symm
    exact releaseKey_ne (hleft ▸ hback)
  · intro h key e p hkey hfits hfree hcreate hp
    rcases createDocument_error_iff.mp hcreate with ⟨_, rfl⟩ | ⟨contract, hcon, hadd, hloop⟩
    · exact releaseKey_reserve
    · have hres := (reserve_ok_iff hok).mpr hfree
      have hcurrency : payload.currency.length ≤ 3 :=
        (addDraft_valid_iff (Db.ok_iff.mp hres)).mp (Db.ok_iff.mp hadd)
      obtain ⟨hdraft, _⟩ := reserved_draft_ok contract hok hfree hcurrency
      have hrefused : Refused now r.tenantId payload contract payload.tripIds
          (drafted r.tenantId payload contract (reserve r key db)) :=
        (billTrips_refused_iff hdraft).mp
          ⟨e, p, hloop, (releaseKey_loop_ok_iff hok hfree hloop).mp hp⟩
      exact absurd ⟨⟨key, hkey, hfits, hfree⟩, hcurrency, contract, hcon,
        refused_reserved.mp hrefused⟩ h

end Request

/-! ## One good trip and a missing one -/

/-- One delivered trip under a contract of 100.00 a trip. -/
def oneTripDb : Db where
  contracts := .single
    { id := 1, tenantId := 1, clientName := "Cliente", contractReference := "CT-1"
      billingBasis := "trip", defaultUnitPrice := some 10000 }
  trips := .single
    { id := 1, tenantId := 1, contractId := some 1, vehicleId := 1, origin := "Maputo"
      destination := "Beira", status := .closed, billingStatus := .billable }
  deliveryProofs := .single
    { id := 1, tenantId := 1, tripId := 1, deliveredAt := 100, status := .validated }

def tripsPayload (tripIds : List UUID) : BillingDocumentCreate where
  contractId := some 1
  billingPeriodStart := 0
  billingPeriodEnd := 1000
  tripIds
  periods := by decide

def createRequest (idempotencyKey : Option String) : IdempotentRequest where
  tenantId := 1
  idempotencyKey
  operation := "create"
  entityType := "billing_document"
  requestHash := "payload"
  expiresAt := 86400

def refusedByApi {α : Type} : Except Exc α → Bool
  | .ok _ => false
  | .error e => e.isApi

theorem exists_of_refusedByApi {α : Type} {out : Except Exc α} (h : refusedByApi out = true) :
    ∃ e, out = .error (.api e) := by
  rcases out with (e | _ | _) | _
  · exact ⟨e, rfl⟩
  all_goals cases h

/-- The draft of a request is left behind, with its item, once the second trip is not found. -/
theorem failed_create_kept :
    ∃ e, (serve (createDocumentRequest 300 (createRequest (some "k")) (tripsPayload [1, 2])
        fun _ => "") oneTripDb).1 = .error (.api e) ∧
      (serve (createDocumentRequest 300 (createRequest (some "k")) (tripsPayload [1, 2])
        fun _ => "") oneTripDb).2 ≠ oneTripDb := by
  obtain ⟨e, he⟩ : ∃ e, (serve (createDocumentRequest 300 (createRequest (some "k"))
      (tripsPayload [1, 2]) fun _ => "") oneTripDb).1 = .error (.api e) :=
    exists_of_refusedByApi (by decide +kernel)
  refine ⟨e, he, fun h => ?_⟩
  have hitems := congrArg (fun db => db.billingItems.rows.length) h
  revert hitems
  decide +kernel

/-- Without a key the same request fails too, and leaves nothing behind. -/
theorem failed_create_atomic_unkeyed :
    (serve (createDocumentRequest 300 (createRequest none) (tripsPayload [1, 2])
      fun _ => "") oneTripDb).2 = oneTripDb := by
  obtain ⟨e, he⟩ : ∃ e, (serve (createDocumentRequest 300 (createRequest none)
      (tripsPayload [1, 2]) fun _ => "") oneTripDb).1 = .error (.api e) :=
    exists_of_refusedByApi (by decide +kernel)
  have hnone : ¬ LeavesDraft 300 (createRequest none) (tripsPayload [1, 2]) oneTripDb :=
    fun h => nomatch h.1
  exact (failed_create_atomic (by decide +kernel)).mpr hnone e he

end Rotas
