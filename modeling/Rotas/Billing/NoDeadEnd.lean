import Rotas.Billing.Accepted
import Rotas.Lib.Run

/-!
# Rotas.Billing.NoDeadEnd

Whether a delivered trip can be brought onto an invoice by the calls of the contract and waiver
operations.

* `SetupCall`   — those calls; none of them writes a trip or a delivery proof.
* `ReadyToBill` — a closed, billable trip with its contract and its latest proof, on no document.
* `Accepts`     — `create_document` takes the trip for every period that contains its delivery.
* `billable_trip_accepted` — some sequence of calls leads there exactly for the domestic trips
  whose delivered quantity is not negative.
* `international_dead_end` — no sequence does for an international trip.
-/

namespace Rotas

open Decimal Work

/-! ## The calls of the operator -/

inductive SetupCall where
  | createContract (tenantId : UUID) (payload : ContractCreate)
  | patchContract (tenantId contractId : UUID) (payload : ContractPatch)
  | transitionContract (tenantId contractId : UUID) (newStatus : String)
      (terminationReason : Option String) (newEndsAt : Option Instant)
  | createContractTariff (tenantId contractId : UUID) (payload : ContractTariffCreate)
  | updateContractTariff (tenantId contractId tariffId : UUID) (payload : ContractTariffPatch)
  | deleteContractTariff (tenantId contractId tariffId : UUID)
  | createWaiver (now : Instant) (tenantId : UUID) (payload : OperationalWaiverCreate)
      (actorId : Option UUID)
  | revokeWaiver (tenantId waiverId : UUID)
  | createBillingWaiver (now : Instant) (tenantId tripId : UUID) (reason : String)
  | approveBillingWaiver (now : Instant) (tenantId waiverId approverId : UUID)
  | rejectBillingWaiver (tenantId waiverId rejectorId : UUID)

/-- The database after one call, served by a session of its own. -/
def SetupCall.step (db : Db) : SetupCall → Db
  | .createContract tenantId payload => perform (Rotas.createContract tenantId payload) db
  | .patchContract tenantId contractId payload =>
    perform (Rotas.patchContract tenantId contractId payload) db
  | .transitionContract tenantId contractId newStatus terminationReason newEndsAt =>
    perform (Rotas.transitionContract tenantId contractId newStatus terminationReason newEndsAt) db
  | .createContractTariff tenantId contractId payload =>
    perform (Rotas.createContractTariff tenantId contractId payload) db
  | .updateContractTariff tenantId contractId tariffId payload =>
    perform (Rotas.updateContractTariff tenantId contractId tariffId payload) db
  | .deleteContractTariff tenantId contractId tariffId =>
    perform (Rotas.deleteContractTariff tenantId contractId tariffId) db
  | .createWaiver now tenantId payload actorId =>
    perform (Rotas.createWaiver now tenantId payload actorId) db
  | .revokeWaiver tenantId waiverId => perform (Rotas.revokeWaiver tenantId waiverId) db
  | .createBillingWaiver now tenantId tripId reason =>
    perform (Rotas.createBillingWaiver now tenantId tripId reason) db
  | .approveBillingWaiver now tenantId waiverId approverId =>
    perform (Rotas.approveBillingWaiver now tenantId waiverId approverId) db
  | .rejectBillingWaiver tenantId waiverId rejectorId =>
    perform (Rotas.rejectBillingWaiver tenantId waiverId rejectorId) db

/-- Contracts, tariffs and waivers may differ, and nothing else does. -/
def SetupOnly (db p : Db) : Prop :=
  ∃ contracts contractTariffs operationalWaivers,
    p = { db with contracts, contractTariffs, operationalWaivers }

section Setup

variable {db p q : Db}

theorem SetupOnly.refl (db : Db) : SetupOnly db db := ⟨_, _, _, rfl⟩

theorem SetupOnly.trans (h : SetupOnly db p) (h' : SetupOnly p q) : SetupOnly db q := by
  obtain ⟨_, _, _, rfl⟩ := h
  obtain ⟨_, _, _, rfl⟩ := h'
  exact ⟨_, _, _, rfl⟩

theorem SetupOnly.step (c : SetupCall) : SetupOnly db (c.step db) := by
  have hsame : SetupOnly db db := .refl db
  cases c with
  | createContract =>
    refine perform_ind hsame fun _ _ h => ?_
    simp only [createContract, bind_eq_ok, pure, Except.pure, Except.ok.injEq, Prod.mk.injEq] at h
    obtain ⟨_, _, _, _, _, _, _, rfl⟩ := h
    exact ⟨_, _, _, rfl⟩
  | patchContract =>
    refine perform_ind hsame fun _ _ h => ?_
    simp only [patchContract, bind_eq_ok, pure, Except.pure, Except.ok.injEq, Prod.mk.injEq] at h
    obtain ⟨_, _, _, _, _, rfl⟩ := h
    exact ⟨_, _, _, rfl⟩
  | transitionContract =>
    refine perform_ind hsame fun _ _ h => ?_
    simp only [transitionContract, bind_eq_ok, pure, Except.pure, Except.ok.injEq,
      Prod.mk.injEq] at h
    obtain ⟨_, _, _, _, _, _, _, _, _, rfl⟩ := h
    exact ⟨_, _, _, rfl⟩
  | createContractTariff =>
    refine perform_ind hsame fun _ _ h => ?_
    simp only [createContractTariff, bind_eq_ok, pure, Except.pure, Except.ok.injEq,
      Prod.mk.injEq] at h
    obtain ⟨_, _, _, _, _, _, _, _, _, rfl⟩ := h
    exact ⟨_, _, _, rfl⟩
  | updateContractTariff =>
    refine perform_ind hsame fun _ _ h => ?_
    simp only [updateContractTariff, bind_eq_ok, pure, Except.pure, Except.ok.injEq,
      Prod.mk.injEq] at h
    obtain ⟨_, _, _, _, _, rfl⟩ := h
    exact ⟨_, _, _, rfl⟩
  | deleteContractTariff =>
    refine perform_ind hsame fun _ _ h => ?_
    simp only [deleteContractTariff, bind_eq_ok, pure, Except.pure, Except.ok.injEq,
      Prod.mk.injEq] at h
    obtain ⟨_, _, _, rfl⟩ := h
    exact ⟨_, _, _, rfl⟩
  | createWaiver =>
    refine perform_ind hsame fun _ _ h => ?_
    simp only [createWaiver, bind_eq_ok, pure, Except.pure, Except.ok.injEq, Prod.mk.injEq] at h
    obtain ⟨_, _, _, _, _, rfl⟩ := h
    exact ⟨_, _, _, rfl⟩
  | revokeWaiver =>
    refine perform_ind hsame fun _ _ h => ?_
    simp only [revokeWaiver, bind_eq_ok] at h
    obtain ⟨_, _, _, _, h⟩ := h
    split at h
    · cases h; exact hsame
    · cases h; exact ⟨_, _, _, rfl⟩
  | createBillingWaiver =>
    refine perform_ind hsame fun _ _ h => ?_
    simp only [createBillingWaiver, bind_eq_ok, pure, Except.pure, Except.ok.injEq,
      Prod.mk.injEq] at h
    obtain ⟨_, _, _, _, _, _, _, rfl⟩ := h
    exact ⟨_, _, _, rfl⟩
  | approveBillingWaiver =>
    refine perform_ind hsame fun _ _ h => ?_
    simp only [approveBillingWaiver, bind_eq_ok, pure, Except.pure, Except.ok.injEq,
      Prod.mk.injEq] at h
    obtain ⟨_, _, _, rfl⟩ := h
    exact ⟨_, _, _, rfl⟩
  | rejectBillingWaiver =>
    refine perform_ind hsame fun _ _ h => ?_
    simp only [rejectBillingWaiver, bind_eq_ok, pure, Except.pure, Except.ok.injEq,
      Prod.mk.injEq] at h
    obtain ⟨_, _, _, rfl⟩ := h
    exact ⟨_, _, _, rfl⟩

theorem SetupOnly.run (calls : List SetupCall) :
    SetupOnly db (Run.exec SetupCall.step db calls) :=
  Run.exec_inv_all (I := SetupOnly db) (fun _ c h => h.trans (.step c)) (.refl db)

end Setup

/-! ## Trips that wait for their invoice -/

structure ReadyToBill (tenantId : UUID) (db : Db) (trip : Trip) (contract : Contract)
    (proof : DeliveryProof) : Prop where
  ok : db.ok = true
  tripMem : trip ∈ db.trips
  tenant : trip.tenantId = tenantId
  contractMem : contract ∈ db.contracts
  contractTenant : contract.tenantId = tenantId
  linked : trip.contractId = some contract.id
  closed : trip.status = .closed
  billable : trip.billingStatus = .billable
  latest : billableProof tenantId trip.id db = some proof
  undisputed : ∀ p ∈ db.deliveryProofs, p.tripId = trip.id → p.status ≠ .disputed
  unbilled : ∀ i ∈ db.billingItems, i.tripId ≠ some trip.id

/-- `create_document` takes the trip, whenever it is called, for every period that contains its
delivery; the currency is any code that fits its column. -/
def Accepts (tenantId : UUID) (trip : Trip) (proof : DeliveryProof) (db : Db) : Prop :=
  ∀ now payload, payload.contractId = trip.contractId → payload.tripIds = [trip.id] →
    payload.zoned = true → inPeriod payload proof = true → payload.currency.length ≤ 3 →
    (serve (atomic (createDocument now tenantId payload)) db).1.isOk = true

section Ready

variable {tenantId : UUID} {db p : Db} {trip : Trip} {contract : Contract} {proof : DeliveryProof}

/-- The instant of the delivery, as a period. -/
def deliveryPeriod (trip : Trip) (proof : DeliveryProof) : BillingDocumentCreate where
  contractId := trip.contractId
  billingPeriodStart := proof.deliveredAt
  billingPeriodEnd := proof.deliveredAt + 1
  tripIds := [trip.id]
  periods := Int.lt_succ _

/-- However contracts, tariffs and waivers stand, only a domestic trip is taken, and its quantity
has to fit in the item. -/
theorem domestic_of_accepts (h : ReadyToBill tenantId db trip contract proof)
    (hp : SetupOnly db p) (hacc : Accepts tenantId trip proof p) :
    trip.isInternational = false ∧ proof.quantityDelivered.all (0 ≤ ·) = true := by
  obtain ⟨contracts, contractTariffs, operationalWaivers, rfl⟩ := hp
  have hperiod : inPeriod (deliveryPeriod trip proof) proof = true := by
    simp [inPeriod, deliveryPeriod]
  have hok := hacc 0 (deliveryPeriod trip proof) rfl rfl rfl hperiod
    (show "MZN".length ≤ 3 by decide)
  obtain ⟨⟨documentId, items⟩, p, hcreate, hvalid⟩ := serve_atomic_isOk.mp hok
  obtain ⟨_, contract', b, _, _, hb, rfl, rfl⟩ :=
    (createDocument_one (show _ = [trip.id] from rfl)).mp hcreate
  have htrip : b.trip = trip := by
    have hget : db.trips.get trip.id = some trip := Table.get_of_mem h.tripMem
    have hget' : db.trips.get trip.id = some b.trip := hb.trip
    rw [hget] at hget'
    exact (Option.some.inj hget').symm
  have hproof : b.proof = proof := by
    have hlatest : billableProof tenantId b.trip.id db = some b.proof := hb.proof
    rw [htrip, h.latest] at hlatest
    exact (Option.some.inj hlatest).symm
  constructor
  · rw [← htrip]
    exact (resolveIva_eq_ok.mp hb.iva).1
  · have hitem := (Db.ok_iff.mp hvalid).billingItems _ (mem_addItem.mpr (.inr rfl))
    simp only [BillingItem.ok, newItem, hproof, Bool.and_eq_true] at hitem
    have hfits := hitem.1.1.1.2
    cases hq : proof.quantityDelivered with
    | none => rfl
    | some q =>
      rw [hq, Option.all_some, fitsMoney, Bool.and_eq_true] at hfits
      exact hfits.1

/-! ## Domestic trips -/

/-- A price of 1.00. -/
def pricePatch : ContractPatch := { defaultUnitPrice := some (some 1) }

def marginApproval (tripId : UUID) : OperationalWaiverCreate where
  entityType := "trip"
  entityId := tripId
  waiverType := negativeMarginApprovalWaiver
  reason := "margem aprovada"

/-- The operator sets a price and approves a negative margin. -/
def configureTrip (tenantId : UUID) (trip : Trip) (contract : Contract) : List SetupCall :=
  [.patchContract tenantId contract.id pricePatch,
    .createWaiver 0 tenantId (marginApproval trip.id) none]

def marginWaiver (tenantId tripId id : UUID) : OperationalWaiver where
  id := id
  tenantId := tenantId
  entityType := "trip"
  entityId := tripId
  waiverType := negativeMarginApprovalWaiver
  reason := "margem aprovada"
  approvedAt := 0

/-- The database after these calls. -/
def configured (tenantId : UUID) (trip : Trip) (contract : Contract) (db : Db) : Db :=
  { db with
    contracts := db.contracts.modify contract.id pricePatch.apply
    operationalWaivers := db.operationalWaivers.insert (marginWaiver tenantId trip.id) }

theorem numeric_one : numeric 2 1 = 100 := by
  rw [numeric, show (1 : ℚ) * 10 ^ 2 = ((100 : ℤ) : ℚ) by norm_num, roundHalfAway_intCast]

theorem pricePatch_price (c : Contract) : (pricePatch.apply c).defaultUnitPrice = some 100 := by
  simp [ContractPatch.apply, pricePatch, numeric_one]

theorem patched_valid (h : db.Valid) (contractId : UUID) :
    Db.Valid { db with contracts := db.contracts.modify contractId pricePatch.apply } := by
  have hcontracts : ∀ c ∈ db.contracts.modify contractId pricePatch.apply,
      c.defaultUnitPrice.all fitsAmount = true := by
    intro c hc
    rcases Table.mem_modify_cases hc with ⟨c₀, _, _, rfl⟩ | ⟨hc, _⟩
    · rw [pricePatch_price]; rfl
    · exact h.contracts c hc
  exact { h with contracts := hcontracts }

theorem configured_valid (h : db.Valid) : (configured tenantId trip contract db).Valid :=
  { patched_valid h contract.id with }

theorem exec_configureTrip (h : ReadyToBill tenantId db trip contract proof) :
    Run.exec SetupCall.step db (configureTrip tenantId trip contract) =
      configured tenantId trip contract db := by
  have hvalid := Db.ok_iff.mp h.ok
  have hcontract : requireContract tenantId contract.id db = .ok contract := by
    have hget : db.contracts.get contract.id = some contract := Table.get_of_mem h.contractMem
    simp [requireContract, hget, h.contractTenant, require, raiseIf, bind, Except.bind, pure,
      Except.pure]
  have hpatch : patchContract tenantId contract.id pricePatch db = .ok (contract.id,
      { db with contracts := db.contracts.modify contract.id pricePatch.apply }) := by
    simp [patchContract, hcontract, bind, Except.bind, raiseIf, ContractPatch.refused, pricePatch,
      pure, Except.pure]
  have hfirst := perform_of_ok hpatch (Db.ok_iff.mpr (patched_valid hvalid contract.id))
  simp only [configureTrip, Run.exec_cons, Run.exec_nil, SetupCall.step]
  rw [hfirst]
  exact perform_of_ok rfl (Db.ok_iff.mpr (configured_valid hvalid))

/-- At this price the item of a trip fits, if its quantity does. -/
theorem newItem_ok {documentId id : UUID} {b : BillableTrip}
    (hprice : contract.defaultUnitPrice = some 100)
    (hquantity : b.proof.quantityDelivered.all fitsMoney = true)
    (hrate : b.ivaRate = defaultIvaRate) :
    (newItem tenantId contract documentId b db id).ok = true := by
  have htax : quantize 2 ((100 : ℤ) / 100 * defaultIvaRate) = 16 := by
    rw [quantize, show ((100 : ℤ) : ℚ) / 100 * defaultIvaRate * 10 ^ 2 = ((16 : ℤ) : ℚ) by
      norm_num [defaultIvaRate], roundHalfEven_intCast]
  have hamount : contract.itemAmount = 100 := by rw [Contract.itemAmount, hprice]; rfl
  simp only [BillingItem.ok, newItem, hamount, hprice, hrate, htax, hquantity, Option.all_some,
    ivaRateOk]
  decide +kernel

theorem requireMarginGovernance_of_waiver {now : Instant}
    (h : hasActiveWaiver now tenantId "trip" trip.id negativeMarginApprovalWaiver db = true) :
    requireMarginGovernance now tenantId trip db = .ok () := by
  simp [requireMarginGovernance, h]

/-- The column of the proof already bounds its quantity from above. -/
theorem ReadyToBill.quantity_fits (h : ReadyToBill tenantId db trip contract proof)
    (hquantity : proof.quantityDelivered.all (0 ≤ ·) = true) :
    proof.quantityDelivered.all fitsMoney = true := by
  have hmem : proof ∈ db.deliveryProofs := (List.mem_filter.mp (latestBy_mem h.latest)).1
  have hcolumn := (Db.ok_iff.mp h.ok).deliveryProofs proof hmem
  cases hq : proof.quantityDelivered with
  | none => rfl
  | some q =>
    rw [hq, Option.all_some] at hquantity hcolumn
    simp only [fitsAmount, Bool.and_eq_true] at hcolumn
    simp only [Option.all_some, fitsMoney, Bool.and_eq_true]
    exact ⟨hquantity, hcolumn.2⟩

/-- What the item of the trip is made from, once a price is set. -/
def billedDomestic (trip : Trip) (proof : DeliveryProof) : BillableTrip :=
  { trip, proof, ivaRate := defaultIvaRate, ivaBasis := "standard_16" }

theorem accepted_configured {now : Instant} {payload : BillingDocumentCreate}
    {contract' : Contract} (h : ReadyToBill tenantId db trip contract proof)
    (hdomestic : trip.isInternational = false) (hlink : contract'.id = contract.id)
    (hzoned : payload.zoned = true) (hperiod : inPeriod payload proof = true)
    (hok : (drafted tenantId payload contract' (configured tenantId trip contract db)).Valid) :
    Accepted now tenantId payload contract' none trip.id
      (drafted tenantId payload contract' (configured tenantId trip contract db))
      (billedDomestic trip proof) where
  flushed := .inr (Db.ok_iff.mpr hok)
  trip := Table.get_of_mem h.tripMem
  tenant := h.tenant
  linked := by rw [hlink]; exact h.linked
  billable := h.billable
  margin := by
    apply requireMarginGovernance_of_waiver
    simp [hasActiveWaiver, drafted, addDraft, Db.modifyDocument, configured, marginWaiver,
      billedDomestic]
  proof := h.latest
  zoned := hzoned
  period := hperiod
  iva := resolveIva_eq_ok.mpr ⟨hdomestic, rfl⟩

theorem accepts_configured (h : ReadyToBill tenantId db trip contract proof)
    (hdomestic : trip.isInternational = false)
    (hquantity : proof.quantityDelivered.all (0 ≤ ·) = true) :
    Accepts tenantId trip proof (configured tenantId trip contract db) := by
  intro now payload hcon hids hzoned hperiod hcurrency
  have hvalid : (configured tenantId trip contract db).Valid :=
    configured_valid (Db.ok_iff.mp h.ok)
  have hmem : pricePatch.apply contract ∈ db.contracts.modify contract.id pricePatch.apply :=
    Table.mem_modify.mpr ⟨contract, h.contractMem, if_pos rfl⟩
  have hpay : requirePayloadContract tenantId payload (configured tenantId trip contract db) =
      .ok (pricePatch.apply contract) :=
    requirePayloadContract_eq_ok.mpr ⟨hcon.trans h.linked, hmem, h.contractTenant⟩
  have hdraft : (drafted tenantId payload (pricePatch.apply contract)
      (configured tenantId trip contract db)).Valid := (drafted_valid_iff hvalid).mpr hcurrency
  have hb : Accepted now tenantId payload (pricePatch.apply contract) none trip.id
      (drafted tenantId payload (pricePatch.apply contract) (configured tenantId trip contract db))
      (billedDomestic trip proof) :=
    accepted_configured h hdomestic rfl hzoned hperiod hdraft
  rw [serve_atomic_isOk]
  refine ⟨(_, _), _, (createDocument_one hids).mpr ⟨rfl, _, _, hpay,
    Db.ok_iff.mpr ((addDraft_valid_iff hvalid).mpr hcurrency), hb, rfl, rfl⟩, ?_⟩
  refine Db.ok_iff.mpr (withTotal_valid ((addItem_valid_iff hdraft).mpr ?_) ?_)
  · exact newItem_ok (pricePatch_price contract) (h.quantity_fits hquantity) rfl
  · simp only [List.map_cons, List.map_nil, newItem, Contract.itemAmount, pricePatch_price]
    rfl

/-- A trip that waits for its invoice can be brought onto one by the calls of the contract and
waiver operations exactly when it is domestic and its delivered quantity is not negative. -/
theorem billable_trip_accepted (h : ReadyToBill tenantId db trip contract proof) :
    (∃ calls : List SetupCall,
      Accepts tenantId trip proof (Run.exec SetupCall.step db calls)) ↔
      trip.isInternational = false ∧ proof.quantityDelivered.all (0 ≤ ·) = true := by
  constructor
  · rintro ⟨calls, hacc⟩
    exact domestic_of_accepts h (.run calls) hacc
  · rintro ⟨hdomestic, hquantity⟩
    refine ⟨configureTrip tenantId trip contract, ?_⟩
    rw [exec_configureTrip h]
    exact accepts_configured h hdomestic hquantity

end Ready

/-! ## A domestic and an international trip -/

/-- A closed and validated trip of ten tons, domestic or international. -/
def deliveredTrip (isInternational : Bool) : Trip where
  id := 1
  tenantId := 1
  contractId := some 1
  vehicleId := 1
  origin := "Maputo"
  destination := "Johannesburg"
  isInternational := isInternational
  status := .closed
  billingStatus := .billable

def frameContract : Contract where
  id := 1
  tenantId := 1
  clientName := "Cliente"
  contractReference := "CT-1"
  defaultUnitPrice := some 10000

def validatedProof : DeliveryProof where
  id := 1
  tenantId := 1
  tripId := 1
  deliveredAt := 100
  quantityDelivered := some 1000
  status := .validated

def deliveredTripDb (isInternational : Bool) : Db where
  contracts := .single frameContract
  trips := .single (deliveredTrip isInternational)
  deliveryProofs := .single validatedProof

theorem readyToBill_delivered (isInternational : Bool) :
    ReadyToBill 1 (deliveredTripDb isInternational) (deliveredTrip isInternational) frameContract
      validatedProof where
  ok := by cases isInternational <;> decide +kernel
  tripMem := List.mem_singleton_self _
  tenant := rfl
  contractMem := List.mem_singleton_self _
  contractTenant := rfl
  linked := rfl
  closed := rfl
  billable := rfl
  latest := rfl
  undisputed p hp _ := by
    rw [List.mem_singleton.mp hp]
    decide
  unbilled _ hi := nomatch hi

theorem billable_trip_accepted_domestic :
    ∃ calls : List SetupCall, Accepts 1 (deliveredTrip false) validatedProof
      (Run.exec SetupCall.step (deliveredTripDb false) calls) :=
  (billable_trip_accepted (readyToBill_delivered false)).mpr ⟨rfl, rfl⟩

/-- No calls of the operator bring an international trip onto an invoice. -/
theorem international_dead_end :
    ReadyToBill 1 (deliveredTripDb true) (deliveredTrip true) frameContract validatedProof ∧
      ¬ ∃ calls : List SetupCall, Accepts 1 (deliveredTrip true) validatedProof
        (Run.exec SetupCall.step (deliveredTripDb true) calls) := by
  refine ⟨readyToBill_delivered true, ?_⟩
  rintro ⟨calls, hacc⟩
  cases (domestic_of_accepts (readyToBill_delivered true) (.run calls) hacc).1

end Rotas
