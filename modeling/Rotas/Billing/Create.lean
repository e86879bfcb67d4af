import Rotas.Billing.Numbering
import Rotas.Cargo.Delivery
import Rotas.Contracts.Service
import Rotas.Operations.Waivers

/-!
# Rotas.Billing.Create

`create_document`: a draft invoice over a list of trips.

* `resolveIva`     — the IVA rate of a trip.
* `checkTrip`      — everything that is checked of one trip, before anything of it is written.
* `addItem`        — what is written for it.
* `billTrips`      — the loop; a trip that is refused leaves the earlier ones written.
* `createDocument` — the pending state it leaves, whether it succeeds or raises.
-/

namespace Rotas

open Decimal

def defaultIvaRate : ℚ := 16 / 100

/-- `getattr(contract, "iva_rate", None)`: contracts have no such column. -/
def Contract.ivaRate (_ : Contract) : Option ℚ := none

/-- The rate of a trip and its legal basis; the trip and the contract may both be absent. -/
def resolveIva (trip : Option Trip) (contract : Option Contract) : Except Exc (ℚ × String) :=
  match contract.bind Contract.ivaRate with
  | some rate => .ok (rate, "contract_override")
  | none =>
    if trip.any Trip.isInternational then
      .error (unprocessable "international_iva_rate_unconfirmed"
        ("Taxa IVA para transporte internacional requer confirmação legal. " ++
          "Configure a taxa no contrato para emitir este documento."))
    else .ok (defaultIvaRate, "standard_16")

/-- The period has its end after its start: the request is not built otherwise. -/
structure BillingDocumentCreate where
  contractId : Option UUID := none
  billingPeriodStart : Instant
  billingPeriodEnd : Instant
  /-- Whether the two bounds carry a time zone; a mixed pair does not compare. -/
  zoned : Bool := true
  currency : String := "MZN"
  tripIds : List UUID := []
  clientNuit : Option String := none
  periods : billingPeriodStart < billingPeriodEnd

theorem zero_lt_thousand : (0 : Instant) < 1000 := by decide

/-! ## The document -/

def formatAddress (profile : TenantDocumentProfile) : String :=
  let city := (truthy profile.city).map fun city =>
    if profile.country = "" then city else city ++ " — " ++ profile.country
  ", ".intercalate ([truthy profile.addressLine1, truthy profile.addressLine2, city].filterMap id)

def bankDetails (profile : TenantDocumentProfile) (issuerName : Option String) : Option String :=
  if profile.showBankDetails then
    (truthy profile.bankName).map fun bank =>
      "Banco " ++ bank ++
        " | Titular: " ++ ((truthy profile.legalName).or (truthy issuerName)).getD "—" ++
        " | Conta: " ++ (truthy profile.bankAccount).getD "—" ++
        " | NIB: " ++ (truthy profile.bankNib).getD "—"
  else none

/-- The issuer columns of a document, copied from the tenant's profile. -/
def snapshotProfile (profile : Option TenantDocumentProfile) (d : BillingDocument) :
    BillingDocument :=
  match profile with
  | none => d
  | some profile => { d with
      issuerAddress := truthy (some (formatAddress profile))
      issuerPhone := profile.phone
      issuerEmail := profile.email
      issuerCity := profile.city
      paymentConditions := some profile.paymentConditions
      issuerBankDetails := (bankDetails profile d.issuerName).or d.issuerBankDetails }

def draftDocument (tenantId : UUID) (payload : BillingDocumentCreate) (contract : Contract)
    (tenant : Option Tenant) (id : UUID) : BillingDocument where
  id := id
  tenantId := tenantId
  contractId := some contract.id
  clientName := contract.clientName
  contractReference := some contract.contractReference
  billingPeriodStart := payload.billingPeriodStart
  billingPeriodEnd := payload.billingPeriodEnd
  currency := payload.currency
  clientNuit := payload.clientNuit
  issuerName := some ((tenant.map Tenant.name).getD "ROTAS")
  issuerNuit := tenant.bind Tenant.nuit

/-! ## One trip -/

/-- The margin of the trip, in units, as the details of an error give it. -/
def Trip.margin (trip : Trip) : ℚ := (trip.actualMargin : ℚ) / 100

def requireMarginGovernance (now : Instant) (tenantId : UUID) (trip : Trip) (db : Db) :
    Except Exc Unit :=
  raiseIf (trip.costsReconciledAt.isSome && decide (trip.actualMargin < 0) &&
      !hasActiveWaiver now tenantId "trip" trip.id negativeMarginApprovalWaiver db)
    (conflict "negative_margin_requires_approval"
      "Trip has negative margin and requires approval before billing."
      [("trip_id", .uuid trip.id), ("actual_margin", .number trip.margin),
        ("required_waiver_type", .text negativeMarginApprovalWaiver)])

/-- The latest proof of the trip that counts for billing. -/
def billableProof (tenantId tripId : UUID) (db : Db) : Option DeliveryProof :=
  latestBy DeliveryProof.deliveredAt <| db.deliveryProofs.rows.filter fun p =>
    p.tenantId = tenantId && p.tripId = tripId && billableProofStatuses.contains p.status

/-- The delivery lies in the period of the payload. -/
def inPeriod (payload : BillingDocumentCreate) (proof : DeliveryProof) : Bool :=
  payload.billingPeriodStart ≤ proof.deliveredAt && proof.deliveredAt < payload.billingPeriodEnd

structure BillableTrip where
  trip : Trip
  proof : DeliveryProof
  ivaRate : ℚ
  ivaBasis : String

/-- The checks of one trip. `held` is the trip of the round before: the session still holds it,
so that it is not read again, and only a read flushes what is pending. -/
def checkTrip (now : Instant) (tenantId : UUID) (payload : BillingDocumentCreate)
    (contract : Contract) (held : Option UUID) (tripId : UUID) (db : Db) :
    Except Exc BillableTrip := do
  raiseIf (held ≠ some tripId && !db.ok) .integrityError
  let trip ← requireTrip tenantId tripId db
  raiseIf (trip.contractId ≠ some contract.id)
    (conflict "trip_contract_mismatch" "Trip is not linked to this contract.")
  raiseIf (trip.billingStatus ≠ .billable)
    (conflict "trip_not_billable" "Trip is not ready for billing."
      [("trip_id", .uuid trip.id), ("billing_status", .text trip.billingStatus.text)])
  requireMarginGovernance now tenantId trip db
  let proof ← require (billableProof tenantId trip.id db)
    (conflict "delivery_proof_required" "Validated delivery proof is required.")
  raiseIf (!payload.zoned) .typeError
  raiseIf (!inPeriod payload proof)
    (conflict "trip_outside_billing_period" "Trip delivery date is outside billing period."
      [("trip_id", .uuid trip.id), ("delivered_at", .instant proof.deliveredAt)])
  let (ivaRate, ivaBasis) ← resolveIva (some trip) (some contract)
  return { trip, proof, ivaRate, ivaBasis }

def latestLoadPermit (tenantId tripId : UUID) (db : Db) : Option LoadPermit :=
  latestBy LoadPermit.createdAt <|
    db.loadPermits.rows.filter fun p => p.tenantId = tenantId && p.tripId = tripId

def latestManifest (tenantId tripId : UUID) (db : Db) : Option CargoManifest :=
  latestBy CargoManifest.createdAt <|
    db.cargoManifests.rows.filter fun m => m.tenantId = tenantId && m.tripId = tripId

def latestTransportDocument (tenantId tripId : UUID) (db : Db) : Option TransportDocument :=
  latestBy TransportDocument.createdAt <|
    db.transportDocuments.rows.filter fun d => d.tenantId = tenantId && d.tripId = tripId

def cargoDescription (trip : Trip) (vehicle : Option Vehicle) (permit : Option LoadPermit) :
    String :=
  let lpStr := ((truthy (permit.bind LoadPermit.permitNumber)).map (" LP:" ++ ·)).getD ""
  let vehStr := ((truthy (vehicle.map Vehicle.plate)).map (" [" ++ · ++ "]")).getD ""
  (truthy trip.cargoType).getD "Serviço" ++ vehStr ++ lpStr

/-- `default_unit_price or 0`: what an item of the contract is billed at. -/
def Contract.itemAmount (contract : Contract) : Int := contract.defaultUnitPrice.getD 0

def newItem (tenantId : UUID) (contract : Contract) (documentId : UUID) (b : BillableTrip)
    (db : Db) (id : UUID) : BillingItem :=
  let permit := latestLoadPermit tenantId b.trip.id db
  { id
    tenantId
    contractId := some contract.id
    billingDocumentId := documentId
    tripId := some b.trip.id
    loadPermitId := permit.map LoadPermit.id
    cargoManifestId := (latestManifest tenantId b.trip.id db).map CargoManifest.id
    transportDocumentId := (latestTransportDocument tenantId b.trip.id db).map TransportDocument.id
    deliveryProofId := some b.proof.id
    clientReference := b.trip.contractReference
    origin := some b.trip.origin
    destination := some b.trip.destination
    district := permit.bind LoadPermit.district
    cargoDescription := some (cargoDescription b.trip (db.vehicles.get b.trip.vehicleId) permit)
    cargoClass := b.trip.cargoClass
    loadState := b.trip.loadState
    loadedAt := b.trip.actualDeparture
    deliveredAt := b.proof.deliveredAt
    quantity := b.proof.quantityDelivered
    unitPrice := contract.defaultUnitPrice
    amount := contract.itemAmount
    ivaRate := some b.ivaRate
    ivaBasis := some b.ivaBasis
    ivaAmount := some (quantize 2 ((contract.itemAmount : ℚ) / 100 * b.ivaRate)) }

/-- The item of a checked trip, and the trip moved into the draft. -/
def addItem (tenantId : UUID) (contract : Contract) (documentId : UUID) (b : BillableTrip)
    (db : Db) : Db :=
  { db with
    billingItems := db.billingItems.insert (newItem tenantId contract documentId b db)
    trips := db.trips.modify b.trip.id
      ({ · with billingStatus := .billingDraft, billingDocumentId := some documentId }) }

section Item

variable {tenantId documentId : UUID} {contract : Contract} {b : BillableTrip} {db : Db}

theorem mem_addItem {i : BillingItem} :
    i ∈ (addItem tenantId contract documentId b db).billingItems ↔
      i ∈ db.billingItems ∨
        i = newItem tenantId contract documentId b db db.billingItems.freshKey := by
  simp only [addItem, Table.mem_insert]

theorem addItem_get_trip (k : UUID) :
    (addItem tenantId contract documentId b db).trips.get k =
      if k = b.trip.id then (db.trips.get b.trip.id).map
        ({ · with billingStatus := .billingDraft, billingDocumentId := some documentId })
      else db.trips.get k := by
  simp only [addItem, Table.get_modify]

end Item

/-! ## The loop and the document -/

/-- The loop over the trips: the items it added, or what one trip was refused with. -/
def billTrips (now : Instant) (tenantId : UUID) (payload : BillingDocumentCreate)
    (contract : Contract) (documentId : UUID) :
    Option UUID → List UUID → Db → Except Exc (List BillingItem) × Db
  | _, [], db => (.ok [], db)
  | held, tripId :: tripIds, db =>
    match checkTrip now tenantId payload contract held tripId db with
    | .error e => (.error e, db)
    | .ok b =>
      let item := newItem tenantId contract documentId b db db.billingItems.freshKey
      match billTrips now tenantId payload contract documentId (some tripId) tripIds
          (addItem tenantId contract documentId b db) with
      | (.ok items, db') => (.ok (item :: items), db')
      | (.error e, db') => (.error e, db')

def requirePayloadContract (tenantId : UUID) (payload : BillingDocumentCreate) (db : Db) :
    Except Exc Contract :=
  match payload.contractId with
  | none => .error (unprocessable "contract_required" "Billing document requires a contract.")
  | some contractId => requireContract tenantId contractId db

def Db.modifyDocument (db : Db) (documentId : UUID) (f : BillingDocument → BillingDocument)
    (hf : ∀ d, (f d).id = d.id := by intro; exact .trans rfl rfl) : Db :=
  { db with billingDocuments := db.billingDocuments.modify documentId f hf }

theorem modifyDocument_get_self {db : Db} {documentId : UUID} {d : BillingDocument}
    {f : BillingDocument → BillingDocument} {hf : ∀ d, (f d).id = d.id}
    (hd : db.billingDocuments.get documentId = some d) :
    (db.modifyDocument documentId f hf).billingDocuments.get documentId = some (f d) := by
  rw [Db.modifyDocument, Table.get_modify_self hd]

/-- The draft and its snapshot of the issuer. -/
def addDraft (tenantId : UUID) (payload : BillingDocumentCreate) (contract : Contract) (db : Db) :
    Db :=
  { db with
    billingDocuments := db.billingDocuments.insert
      (draftDocument tenantId payload contract (db.tenants.get tenantId)) }

theorem snapshotProfile_id (profile : Option TenantDocumentProfile) (d : BillingDocument) :
    (snapshotProfile profile d).id = d.id := by
  cases profile <;> rfl

/-- The snapshot writes the issuer, and leaves what the document is about. -/
theorem snapshotProfile_keeps (profile : Option TenantDocumentProfile) (d : BillingDocument) :
    (snapshotProfile profile d).documentType = d.documentType ∧
      (snapshotProfile profile d).status = d.status ∧
      (snapshotProfile profile d).tenantId = d.tenantId ∧
      (snapshotProfile profile d).totalAmount = d.totalAmount ∧
      (snapshotProfile profile d).documentSource = d.documentSource := by
  cases profile <;> exact ⟨rfl, rfl, rfl, rfl, rfl⟩

/-- The id of the new document and its items; beside it, the pending state. -/
def createDocument (now : Instant) (tenantId : UUID) (payload : BillingDocumentCreate) (db : Db) :
    Except Exc (UUID × List BillingItem) × Db :=
  match requirePayloadContract tenantId payload db with
  | .error e => (.error e, db)
  | .ok contract =>
    let documentId := db.billingDocuments.freshKey
    let db₁ := addDraft tenantId payload contract db
    if !db₁.ok then (.error .integrityError, db)
    else
      let db₂ := db₁.modifyDocument documentId
        (snapshotProfile (documentProfile tenantId db)) (snapshotProfile_id _)
      match billTrips now tenantId payload contract documentId none payload.tripIds db₂ with
      | (.error e, db₃) => (.error e, db₃)
      | (.ok items, db₃) =>
        let total := (items.map BillingItem.amount).sum
        (.ok (documentId, items), db₃.modifyDocument documentId
          ({ · with subtotal := total, totalAmount := total }))

/-! ## What the checks let through -/

/-- What `checkTrip` establishes of a trip it lets through. -/
structure Accepted (now : Instant) (tenantId : UUID) (payload : BillingDocumentCreate)
    (contract : Contract) (held : Option UUID) (tripId : UUID) (db : Db) (b : BillableTrip) :
    Prop where
  flushed : held = some tripId ∨ db.ok = true
  trip : db.trips.get tripId = some b.trip
  tenant : b.trip.tenantId = tenantId
  linked : b.trip.contractId = some contract.id
  billable : b.trip.billingStatus = .billable
  margin : requireMarginGovernance now tenantId b.trip db = .ok ()
  proof : billableProof tenantId b.trip.id db = some b.proof
  zoned : payload.zoned = true
  period : inPeriod payload b.proof = true
  iva : resolveIva (some b.trip) (some contract) = .ok (b.ivaRate, b.ivaBasis)

section Checks

variable {now : Instant} {tenantId : UUID} {payload : BillingDocumentCreate} {contract : Contract}
  {documentId : UUID} {held : Option UUID} {tripId : UUID} {db : Db}

theorem requirePayloadContract_eq_ok :
    requirePayloadContract tenantId payload db = .ok contract ↔
      payload.contractId = some contract.id ∧ contract ∈ db.contracts ∧
        contract.tenantId = tenantId := by
  unfold requirePayloadContract
  split
  · next h => simp [h]
  · next contractId h =>
    simp only [requireContract, bind_eq_ok, require_eq_ok, raiseIf_eq_ok, decide_eq_false_iff_not,
      Decidable.not_not, h, Option.some.injEq]
    constructor
    · rintro ⟨c, hc, _, hten, hr⟩
      cases hr
      exact ⟨(Table.key_of_get hc).symm, Table.mem_of_get hc, hten⟩
    · rintro ⟨rfl, hc, hten⟩
      exact ⟨contract, Table.get_of_mem hc, (), hten, rfl⟩

theorem checkTrip_eq_ok {b : BillableTrip} :
    checkTrip now tenantId payload contract held tripId db = .ok b ↔
      Accepted now tenantId payload contract held tripId db b := by
  simp only [checkTrip, bind_eq_ok, requireTrip_eq_ok, require_eq_ok, raiseIf_eq_ok]
  constructor
  · rintro ⟨_, hflush, trip, ⟨htrip, hten⟩, _, hcon, _, hbill, _, hmargin, proof, hproof, _, hzoned,
      _, hperiod, ⟨rate, basis⟩, hiva, hr⟩
    cases hr
    refine ⟨?_, htrip, hten, ?_, ?_, hmargin, hproof, ?_, ?_, hiva⟩
    · by_cases h : held = some tripId
      · exact .inl h
      · exact .inr (by simpa [h] using hflush)
    · simpa using hcon
    · simpa using hbill
    · simpa using hzoned
    · simpa using hperiod
  · intro h
    refine ⟨(), ?_, b.trip, ⟨h.trip, h.tenant⟩, (), ?_, (), ?_, (), h.margin, b.proof, h.proof, (),
      ?_, (), ?_, (b.ivaRate, b.ivaBasis), h.iva, rfl⟩
    · rcases h.flushed with hf | hf <;> simp [hf]
    · simp [h.linked]
    · simp [h.billable]
    · simp [h.zoned]
    · simp [h.period]

theorem Accepted.trip_id {b : BillableTrip}
    (h : Accepted now tenantId payload contract held tripId db b) : b.trip.id = tripId :=
  Table.key_of_get h.trip

theorem resolveIva_eq_ok {trip : Trip} {r : ℚ × String} :
    resolveIva (some trip) (some contract) = .ok r ↔
      trip.isInternational = false ∧ r = (defaultIvaRate, "standard_16") := by
  cases h : trip.isInternational <;> simp [resolveIva, Contract.ivaRate, h, eq_comm]

/-! ## The loop -/

/-- Whatever holds before the loop and is kept by every item it adds holds of the pending state
the loop leaves, also when a trip is refused. -/
theorem billTrips_ind {P : Db → Prop}
    (hstep : ∀ held tripId db b, P db →
      Accepted now tenantId payload contract held tripId db b →
      P (addItem tenantId contract documentId b db)) :
    ∀ {tripIds : List UUID} {held : Option UUID} {db : Db}, P db →
      P (billTrips now tenantId payload contract documentId held tripIds db).2 := by
  intro tripIds
  induction tripIds with
  | nil => intro held db hP; exact hP
  | cons tripId tripIds ih =>
    intro held db hP
    simp only [billTrips]
    cases hc : checkTrip now tenantId payload contract held tripId db with
    | error e => exact hP
    | ok b =>
      have hrest := @ih (some tripId) _ (hstep held tripId db b hP (checkTrip_eq_ok.mp hc))
      rcases hb : billTrips now tenantId payload contract documentId (some tripId) tripIds
        (addItem tenantId contract documentId b db) with ⟨r, db'⟩
      rw [hb] at hrest
      cases r <;> simpa only [hb] using hrest

theorem billTrips_billingDocuments {tripIds : List UUID} :
    (billTrips now tenantId payload contract documentId held tripIds db).2.billingDocuments =
      db.billingDocuments :=
  billTrips_ind (P := fun db' => db'.billingDocuments = db.billingDocuments)
    (fun _ _ _ _ hP _ => hP) rfl

end Checks

section Document

variable {now : Instant} {tenantId : UUID} {payload : BillingDocumentCreate} {db p : Db}
  {documentId : UUID} {items : List BillingItem}

/-- The database as the loop finds it. -/
def drafted (tenantId : UUID) (payload : BillingDocumentCreate) (contract : Contract) (db : Db) :
    Db :=
  (addDraft tenantId payload contract db).modifyDocument db.billingDocuments.freshKey
    (snapshotProfile (documentProfile tenantId db)) (snapshotProfile_id _)

theorem drafted_get (payload : BillingDocumentCreate) (contract : Contract) :
    ((drafted tenantId payload contract db).billingDocuments.get
      db.billingDocuments.freshKey).isSome := by
  simp [drafted, Db.modifyDocument, Table.get_modify, addDraft, Table.get_insert]

/-- The totals of a document whose items are all there. -/
def withTotal (documentId : UUID) (items : List BillingItem) (db : Db) : Db :=
  db.modifyDocument documentId ({ · with
    subtotal := (items.map BillingItem.amount).sum
    totalAmount := (items.map BillingItem.amount).sum })

theorem createDocument_eq_ok :
    createDocument now tenantId payload db = (.ok (documentId, items), p) ↔
      documentId = db.billingDocuments.freshKey ∧
      ∃ contract p', requirePayloadContract tenantId payload db = .ok contract ∧
        (addDraft tenantId payload contract db).ok = true ∧
        billTrips now tenantId payload contract documentId none payload.tripIds
          (drafted tenantId payload contract db) = (.ok items, p') ∧
        p = withTotal documentId items p' := by
  unfold createDocument
  cases hc : requirePayloadContract tenantId payload db with
  | error e => simp
  | ok contract =>
    cases hok : (addDraft tenantId payload contract db).ok with
    | false => simp [hok]
    | true =>
      rcases hb : billTrips now tenantId payload contract db.billingDocuments.freshKey none
        payload.tripIds (drafted tenantId payload contract db) with ⟨r, p'⟩
      have hb' := hb
      simp only [drafted] at hb'
      simp only [hok, hb', Bool.not_true, Bool.false_eq_true, if_false]
      constructor
      · intro h
        cases r with
        | error e => simp at h
        | ok items' =>
          simp only [Prod.mk.injEq, Except.ok.injEq] at h
          obtain ⟨⟨rfl, rfl⟩, rfl⟩ := h
          exact ⟨rfl, contract, p', rfl, hok, hb, rfl⟩
      · rintro ⟨rfl, contract', p'', hcon, _, hb'', rfl⟩
        cases hcon
        rw [hb] at hb''
        simp only [Prod.mk.injEq] at hb''
        obtain ⟨rfl, rfl⟩ := hb''
        rfl

/-- What a completed `create_document` establishes: what holds of the draft and is kept by every
item and by the totals. -/
theorem createDocument_ind {P : Db → Prop} {a : UUID × List BillingItem}
    (hcreate : createDocument now tenantId payload db = (.ok a, p))
    (hdraft : ∀ contract, requirePayloadContract tenantId payload db = .ok contract →
      P (drafted tenantId payload contract db))
    (hitem : ∀ contract held tripId db' b, P db' →
      Accepted now tenantId payload contract held tripId db' b →
      P (addItem tenantId contract db.billingDocuments.freshKey b db'))
    (htotal : ∀ items db', P db' → P (withTotal db.billingDocuments.freshKey items db')) :
    P p := by
  obtain ⟨documentId, items⟩ := a
  obtain ⟨rfl, contract, p', hcon, _, hb, rfl⟩ := createDocument_eq_ok.mp hcreate
  have hloop : P (billTrips now tenantId payload contract db.billingDocuments.freshKey none
      payload.tripIds (drafted tenantId payload contract db)).2 :=
    billTrips_ind (hitem contract) (hdraft contract hcon)
  rw [hb] at hloop
  exact htotal items p' hloop

/-- The same of what a `create_document` leaves pending, which may have raised. -/
theorem createDocument_pending {P : Db → Prop} (hdb : P db)
    (hdraft : ∀ contract, P (drafted tenantId payload contract db))
    (hitem : ∀ contract held tripId db' b, P db' →
      Accepted now tenantId payload contract held tripId db' b →
      P (addItem tenantId contract db.billingDocuments.freshKey b db'))
    (htotal : ∀ items db', P db' → P (withTotal db.billingDocuments.freshKey items db')) :
    P (createDocument now tenantId payload db).2 := by
  unfold createDocument
  cases requirePayloadContract tenantId payload db with
  | error e => exact hdb
  | ok contract =>
    cases hok : (addDraft tenantId payload contract db).ok with
    | false => simpa [hok] using hdb
    | true =>
      have hloop : P (billTrips now tenantId payload contract db.billingDocuments.freshKey none
          payload.tripIds (drafted tenantId payload contract db)).2 :=
        billTrips_ind (hitem contract) (hdraft contract)
      simp only [drafted] at hloop
      rcases hb : billTrips now tenantId payload contract db.billingDocuments.freshKey none
        payload.tripIds ((addDraft tenantId payload contract db).modifyDocument
          db.billingDocuments.freshKey (snapshotProfile (documentProfile tenantId db))
          (snapshotProfile_id _)) with ⟨r, p'⟩
      rw [hb] at hloop
      cases r with
      | error e => simpa [hok, hb] using hloop
      | ok items => simpa [hok, hb, withTotal] using htotal items p' hloop

end Document
end Rotas
