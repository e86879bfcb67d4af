import Rotas.Core.Errors
import Rotas.Core.Json
import Rotas.Lib.Table

/-!
# Rotas.Data

The tables of the billing, cargo, contract, trip, waiver and fleet modules and the database that
holds those billing works on. A row has the columns that some modelled service reads or writes. Money columns
(`NUMERIC(_, 2)`) are integers counting hundredths, and so are weights and volumes; a distance
(`NUMERIC(10, 1)`) counts tenths; an IVA rate (`NUMERIC(5, 4)`) is a rational.

`Db.ok` is what the database checks of its rows: the `CHECK` constraints of the trip and billing
tables, the ranges of their numeric columns and the length of the currency code.
-/

namespace Rotas

inductive ProofStatus where
  | pending | validated | verified | accepted | rejected | disputed | resolved
  deriving DecidableEq

/-- `Trip.billing_status`. -/
inductive BillingStatus where
  | notBillable | pendingDeliveryProof | pendingDeliveryValidation | uncontracted | billable
  | deliveryDisputed | billingDraft | billed
  deriving DecidableEq

inductive TripStatus where
  | draft | planned | dispatchPending | dispatched | inProgress | delayed | incident | arrived
  | delivered | closed | cancelled | completed
  deriving DecidableEq

inductive DocStatus where
  | draft | issued | overdue | paid | cancelled
  deriving DecidableEq

inductive DocType where
  | invoice | debitNote | creditNote | invoiceReceipt | receipt
  deriving DecidableEq

/-- The value of `document_type` in the database. -/
def DocType.text : DocType → String
  | .invoice => "invoice"
  | .debitNote => "debit_note"
  | .creditNote => "credit_note"
  | .invoiceReceipt => "invoice_receipt"
  | .receipt => "receipt"

inductive DocSource where
  | transport | workshop
  deriving DecidableEq

inductive PaymentStatus where
  | confirmed | voided
  deriving DecidableEq

inductive WaiverStatus where
  | pendingApproval | active | rejected | revoked
  deriving DecidableEq

inductive IncidentStatus where
  | open | investigating | resolved
  deriving DecidableEq

inductive Severity where
  | low | medium | high | critical
  deriving DecidableEq

inductive ClearanceStatus where
  | pending | blocked | approved
  deriving DecidableEq

/-- `Tenant.compliance_policy`: the stops and cargo documents every trip must have and those of one
cargo type, and the documents of vehicles and drivers. -/
structure CompliancePolicy where
  tripRequiredStops : List String := []
  tripRequiredStopsByCargoType : List (String × List String) := []
  cargoRequiredDocuments : List String := []
  cargoRequiredDocumentsByType : List (String × List String) := []
  vehicleRequiredDocuments : List String := []
  driverRequiredDocuments : List String := []
  documentExpiryWarningDays : Int := 30

structure Tenant where
  id : UUID
  name : String
  nuit : Option String := none
  compliancePolicy : CompliancePolicy := {}
  isActive : Bool := true
  slug : String := ""

structure TenantDocumentProfile where
  id : UUID
  tenantId : UUID
  legalName : Option String := none
  addressLine1 : Option String := none
  addressLine2 : Option String := none
  city : Option String := none
  country : String := "Moçambique"
  phone : Option String := none
  email : Option String := none
  bankName : Option String := none
  bankAccount : Option String := none
  bankNib : Option String := none
  invoicePrefix : String := ""
  invoiceSeqPadding : Int := 4
  perTypeSequences : Bool := false
  paymentConditions : String := "Pronto"
  showBankDetails : Bool := true

structure Contract where
  id : UUID
  tenantId : UUID
  clientId : Option UUID := none
  clientName : String
  contractReference : String
  status : String := "active"
  billingBasis : String := "trip"
  defaultUnitPrice : Option Int := none
  startsAt : Option Instant := none
  endsAt : Option Instant := none
  paymentTermsDays : Int := 30

structure ContractTariff where
  id : UUID
  tenantId : UUID
  contractId : UUID
  knownRouteId : UUID
  rateBasis : String := "trip"
  unitPrice : Int

structure KnownRoute where
  id : UUID
  tenantId : UUID
  origin : String
  destination : String
  /-- `NUMERIC(10, 1)`, in tenths of a kilometre. -/
  distanceKm : Int

structure Vehicle where
  id : UUID
  tenantId : UUID
  plate : String
  customerClientId : Option UUID := none
  status : String := "active"
  currentKm : Int := 0
  documents : List (String × Json) := []
  avgConsumptionTarget : Option Int := none
  maxPayloadKg : Option Int := none
  ownershipType : String := "fleet"

/-- The dates count days since 1970-01-01. -/
structure Driver where
  id : UUID
  tenantId : UUID
  status : String := "active"
  licenseValidUntil : Option Int := none
  passportValidUntil : Option Int := none
  biValidUntil : Option Int := none
  fullName : String := ""
  phone : Option String := none
  email : Option String := none
  pairingCodeHash : Option String := none
  pairingCodeExpiresAt : Option Instant := none

structure TripOrder where
  id : UUID
  tenantId : UUID
  status : String
  contractId : Option UUID := none
  origin : String := ""
  destination : String := ""
  cargoType : Option String := none
  estimatedWeight : Option Int := none
  estimatedVolume : Option Int := none
  requiresLoadPermit : Bool := false
  slaPickupDeadline : Option Instant := none
  slaDeliveryDeadline : Option Instant := none
  assignedVehicleId : Option UUID := none
  assignedDriverId : Option UUID := none
  assignedAt : Option Instant := none
  assignedBy : Option UUID := none

structure Trip where
  id : UUID
  tenantId : UUID
  tripOrderId : Option UUID := none
  contractId : Option UUID := none
  vehicleId : UUID
  origin : String
  destination : String
  cargoType : Option String := none
  cargoClass : Option String := none
  cargoWeight : Option Int := none
  cargoVolume : Option Int := none
  isInternational : Bool := false
  loadState : Option String := none
  kmStart : Option Int := none
  kmEnd : Option Int := none
  status : TripStatus := .planned
  actualDeparture : Option Instant := none
  actualArrival : Option Instant := none
  deliveryFileId : Option UUID := none
  cargoStatus : Option String := none
  totalFuelCost : Int := 0
  totalExpenseCost : Int := 0
  totalTransportCost : Int := 0
  actualRevenue : Int := 0
  actualMargin : Int := 0
  costsReconciledAt : Option Instant := none
  contractReference : Option String := none
  billingStatus : BillingStatus := .notBillable
  billableAt : Option Instant := none
  billedAt : Option Instant := none
  billingDocumentId : Option UUID := none
  closedAt : Option Instant := none
  closedBy : Option UUID := none
  operationalCloseNotes : Option String := none
  driverId : UUID := 0
  payloadOverrideReason : Option String := none
  isHazmat : Bool := false
  hazmatClass : Option String := none
  unNumber : Option String := none
  hazmatLabel : Option String := none
  requiresLoadPermit : Bool := false
  requiresCargoManifest : Bool := false
  kmStartFileId : Option UUID := none
  kmEndFileId : Option UUID := none
  plannedDeparture : Option Instant := none
  plannedArrival : Option Instant := none
  recipientName : Option String := none

structure DispatchClearance where
  id : UUID
  tenantId : UUID
  tripOrderId : Option UUID := none
  tripId : UUID
  vehicleChecked : Bool := false
  driverChecked : Bool := false
  documentsChecked : Bool := false
  loadPermitChecked : Bool := false
  cargoChecked : Bool := false
  fuelAdvanceChecked : Bool := false
  routeRiskChecked : Bool := false
  clearanceStatus : ClearanceStatus := .pending
  blockedReason : Option String := none
  approvedBy : Option UUID := none
  approvedAt : Option Instant := none

structure TripCost where
  id : UUID
  tenantId : UUID
  tripId : UUID
  amount : Int
  costType : String := ""
  description : Option String := none
  currency : String := "MZN"
  paidBy : String := "company"
  paymentMethod : Option String := none
  receiptFileId : Option UUID := none
  requestReference : String := ""
  sourceType : String := "manual"
  sourceId : Option UUID := none
  createdBy : Option UUID := none
  incurredAt : Instant := 0

structure TripIncident where
  id : UUID
  tenantId : UUID
  tripId : UUID
  severity : Severity
  status : IncidentStatus
  vehicleId : Option UUID := none
  driverId : Option UUID := none
  incidentType : String := ""
  occurredAt : Instant := 0
  description : String := ""
  reportedBy : Option UUID := none
  resolutionNotes : Option String := none
  resolvedBy : Option UUID := none
  resolvedAt : Option Instant := none

structure TripStop where
  id : UUID
  tenantId : UUID
  tripId : UUID
  stopType : String

structure DeliveryProof where
  id : UUID
  tenantId : UUID
  contractId : Option UUID := none
  tripId : UUID
  deliveredAt : Instant
  cargoCondition : String := "intact"
  quantityDelivered : Option Int := none
  validationMethod : Option String := none
  notes : Option String := none
  fileId : Option UUID := none
  verifiedByUserId : Option UUID := none
  verifiedAt : Option Instant := none
  status : ProofStatus := .pending
  acceptedAt : Option Instant := none
  acceptedBy : Option UUID := none
  rejectedAt : Option Instant := none
  rejectedBy : Option UUID := none
  rejectionReason : Option String := none
  receiverName : Option String := none
  receiverContact : Option String := none

structure LoadPermit where
  id : UUID
  tenantId : UUID
  tripId : UUID
  permitNumber : Option String
  district : Option String
  createdAt : Instant
  status : String := "pending"

structure CargoManifest where
  id : UUID
  tenantId : UUID
  tripId : UUID
  createdAt : Instant
  status : String := "draft"

structure TransportDocument where
  id : UUID
  tenantId : UUID
  tripId : UUID
  createdAt : Instant
  documentType : String := ""
  status : String := "pending"

structure OperationalWaiver where
  id : UUID
  tenantId : UUID
  entityType : String
  entityId : UUID
  waiverType : String
  reason : String
  riskLevel : String := "medium"
  approvedBy : Option UUID := none
  approvedAt : Instant
  expiresAt : Option Instant := none
  status : WaiverStatus := .active

structure BillingDocument where
  id : UUID
  tenantId : UUID
  contractId : Option UUID := none
  clientId : Option UUID := none
  clientName : String
  contractReference : Option String := none
  billingPeriodStart : Instant
  billingPeriodEnd : Instant
  currency : String := "MZN"
  subtotal : Int := 0
  taxAmount : Int := 0
  totalAmount : Int := 0
  status : DocStatus := .draft
  issuedAt : Option Instant := none
  paidAt : Option Instant := none
  dueDate : Option Instant := none
  overdueSinceAt : Option Instant := none
  cancellationReason : Option String := none
  invoiceNumber : Option String := none
  ivaRate : Option ℚ := none
  ivaBasis : Option String := none
  documentType : DocType := .invoice
  parentDocumentId : Option UUID := none
  clientNuit : Option String := none
  issuerName : Option String := none
  issuerNuit : Option String := none
  parentInvoiceNumber : Option String := none
  issuerAddress : Option String := none
  issuerPhone : Option String := none
  issuerEmail : Option String := none
  issuerCity : Option String := none
  issuerBankDetails : Option String := none
  paymentConditions : Option String := none
  documentSource : DocSource := .transport

structure BillingItem where
  id : UUID
  tenantId : UUID
  contractId : Option UUID := none
  billingDocumentId : UUID
  tripId : Option UUID := none
  loadPermitId : Option UUID := none
  cargoManifestId : Option UUID := none
  transportDocumentId : Option UUID := none
  deliveryProofId : Option UUID := none
  clientReference : Option String := none
  origin : Option String := none
  destination : Option String := none
  district : Option String := none
  cargoDescription : Option String := none
  cargoClass : Option String := none
  loadState : Option String := none
  loadedAt : Option Instant := none
  deliveredAt : Instant
  quantity : Option Int := none
  unitPrice : Option Int := none
  amount : Int
  /-- `true` once the document of the item was issued (`status` "billed", else "draft"). -/
  billed : Bool := false
  ivaRate : Option ℚ := none
  ivaBasis : Option String := none
  ivaAmount : Option Int := none
  workOrderId : Option UUID := none

structure Client where
  id : UUID
  tenantId : UUID
  tradingName : String
  nuit : Option String := none

structure ClientPayment where
  id : UUID
  tenantId : UUID
  clientId : UUID
  billingDocumentId : Option UUID := none
  amount : Int
  currency : String := "MZN"
  valueDate : Instant
  paymentMethod : String
  reference : Option String := none
  notes : Option String := none
  status : PaymentStatus := .confirmed
  voidedAt : Option Instant := none
  voidedBy : Option UUID := none
  voidReason : Option String := none
  createdBy : Option UUID := none

structure PaymentAllocation where
  id : UUID
  tenantId : UUID
  paymentId : UUID
  billingDocumentId : UUID
  amountApplied : Int
  deriving DecidableEq

structure FiscalCounter where
  id : UUID
  tenantId : UUID
  fiscalYear : Nat
  /-- Empty for the series that all document types share. -/
  docType : String
  lastNumber : Nat

structure IdempotencyKey where
  id : UUID
  tenantId : UUID
  idempotencyKey : String
  operation : String
  entityType : String
  entityId : Option UUID := none
  requestHash : String
  responseBody : Option String := none
  statusCode : Option Nat := none
  expiresAt : Instant

instance : Keyed Tenant := ⟨Tenant.id⟩
instance : Keyed TenantDocumentProfile := ⟨TenantDocumentProfile.id⟩
instance : Keyed Contract := ⟨Contract.id⟩
instance : Keyed ContractTariff := ⟨ContractTariff.id⟩
instance : Keyed KnownRoute := ⟨KnownRoute.id⟩
instance : Keyed Vehicle := ⟨Vehicle.id⟩
instance : Keyed Driver := ⟨Driver.id⟩
instance : Keyed TripOrder := ⟨TripOrder.id⟩
instance : Keyed Trip := ⟨Trip.id⟩
instance : Keyed DispatchClearance := ⟨DispatchClearance.id⟩
instance : Keyed TripCost := ⟨TripCost.id⟩
instance : Keyed TripIncident := ⟨TripIncident.id⟩
instance : Keyed TripStop := ⟨TripStop.id⟩
instance : Keyed DeliveryProof := ⟨DeliveryProof.id⟩
instance : Keyed LoadPermit := ⟨LoadPermit.id⟩
instance : Keyed CargoManifest := ⟨CargoManifest.id⟩
instance : Keyed TransportDocument := ⟨TransportDocument.id⟩
instance : Keyed OperationalWaiver := ⟨OperationalWaiver.id⟩
instance : Keyed BillingDocument := ⟨BillingDocument.id⟩
instance : Keyed BillingItem := ⟨BillingItem.id⟩
instance : Keyed Client := ⟨Client.id⟩
instance : Keyed ClientPayment := ⟨ClientPayment.id⟩
instance : Keyed PaymentAllocation := ⟨PaymentAllocation.id⟩
instance : Keyed FiscalCounter := ⟨FiscalCounter.id⟩
instance : Keyed IdempotencyKey := ⟨IdempotencyKey.id⟩

structure Db where
  tenants : Table Tenant := ∅
  documentProfiles : Table TenantDocumentProfile := ∅
  contracts : Table Contract := ∅
  contractTariffs : Table ContractTariff := ∅
  knownRoutes : Table KnownRoute := ∅
  vehicles : Table Vehicle := ∅
  tripOrders : Table TripOrder := ∅
  trips : Table Trip := ∅
  tripCosts : Table TripCost := ∅
  tripIncidents : Table TripIncident := ∅
  tripStops : Table TripStop := ∅
  deliveryProofs : Table DeliveryProof := ∅
  loadPermits : Table LoadPermit := ∅
  cargoManifests : Table CargoManifest := ∅
  transportDocuments : Table TransportDocument := ∅
  operationalWaivers : Table OperationalWaiver := ∅
  billingDocuments : Table BillingDocument := ∅
  billingItems : Table BillingItem := ∅
  clients : Table Client := ∅
  clientPayments : Table ClientPayment := ∅
  paymentAllocations : Table PaymentAllocation := ∅
  fiscalCounters : Table FiscalCounter := ∅
  idempotencyKeys : Table IdempotencyKey := ∅

/-! ## What the database checks -/

/-- `NUMERIC(12, 2)` with a `CHECK (… >= 0)`. -/
def fitsMoney (c : Int) : Bool := 0 ≤ c && c < 10 ^ 12

/-- `NUMERIC(12, 2)`. -/
def fitsAmount (c : Int) : Bool := -10 ^ 12 < c && c < 10 ^ 12

def Trip.ok (t : Trip) : Bool :=
  t.kmStart.all (0 ≤ ·) && t.kmEnd.all (0 ≤ ·) &&
    t.kmStart.all (fun a => t.kmEnd.all fun b => decide (a ≤ b)) &&
    t.cargoWeight.all fitsMoney && t.cargoVolume.all fitsMoney && fitsMoney t.totalFuelCost &&
    fitsMoney t.totalExpenseCost && fitsMoney t.totalTransportCost && fitsMoney t.actualRevenue &&
    fitsAmount t.actualMargin

def ivaRateOk (r : Option ℚ) : Bool := r.all fun q => 0 ≤ q && q ≤ 1

def BillingDocument.ok (d : BillingDocument) : Bool :=
  fitsMoney d.subtotal && fitsMoney d.taxAmount && fitsMoney d.totalAmount && ivaRateOk d.ivaRate &&
    decide (d.currency.length ≤ 3) && d.invoiceNumber.all fun n => decide (n.length ≤ 30)

def BillingItem.ok (i : BillingItem) : Bool :=
  fitsMoney i.amount && i.quantity.all fitsMoney && i.unitPrice.all fitsMoney && ivaRateOk i.ivaRate &&
    i.ivaAmount.all fun c => 0 ≤ c && c < 10 ^ 10

/-- `NUMERIC(14, 2)`. -/
def fitsPayment (c : Int) : Bool := -10 ^ 14 < c && c < 10 ^ 14

/-- The unique constraints of the counters and of the idempotency keys. -/
def Db.uniqueOk (db : Db) : Bool :=
  (db.fiscalCounters.rows.map fun c => (c.tenantId, c.fiscalYear, c.docType)).Nodup &&
    (db.idempotencyKeys.rows.map fun k => (k.tenantId, k.idempotencyKey)).Nodup

def Db.ok (db : Db) : Bool :=
  db.contracts.rows.all (fun c => c.defaultUnitPrice.all fitsAmount) &&
    db.contractTariffs.rows.all (fun t => fitsAmount t.unitPrice) &&
    db.deliveryProofs.rows.all (fun p => p.quantityDelivered.all fitsAmount) &&
    db.trips.rows.all Trip.ok && db.billingDocuments.rows.all BillingDocument.ok &&
    db.billingItems.rows.all BillingItem.ok &&
    db.clientPayments.rows.all (fun p => fitsPayment p.amount) &&
    db.paymentAllocations.rows.all (fun a => fitsPayment a.amountApplied) && db.uniqueOk

instance : Store Db Exc := ⟨Db.ok, .integrityError⟩

/-- `Db.ok`, table by table. -/
structure Db.Valid (db : Db) : Prop where
  contracts : ∀ c ∈ db.contracts, c.defaultUnitPrice.all fitsAmount = true
  contractTariffs : ∀ t ∈ db.contractTariffs, fitsAmount t.unitPrice = true
  deliveryProofs : ∀ p ∈ db.deliveryProofs, p.quantityDelivered.all fitsAmount = true
  trips : ∀ t ∈ db.trips, t.ok = true
  billingDocuments : ∀ d ∈ db.billingDocuments, d.ok = true
  billingItems : ∀ i ∈ db.billingItems, i.ok = true
  clientPayments : ∀ p ∈ db.clientPayments, fitsPayment p.amount = true
  paymentAllocations : ∀ a ∈ db.paymentAllocations, fitsPayment a.amountApplied = true
  unique : db.uniqueOk = true

theorem Db.ok_iff {db : Db} : db.ok = true ↔ db.Valid := by
  simp only [Db.ok, Bool.and_eq_true, List.all_eq_true]
  constructor
  · rintro ⟨⟨⟨⟨⟨⟨⟨⟨h₁, h₂⟩, h₃⟩, h₄⟩, h₅⟩, h₆⟩, h₇⟩, h₈⟩, h₉⟩
    exact ⟨h₁, h₂, h₃, h₄, h₅, h₆, h₇, h₈, h₉⟩
  · rintro ⟨h₁, h₂, h₃, h₄, h₅, h₆, h₇, h₈, h₉⟩
    exact ⟨⟨⟨⟨⟨⟨⟨⟨h₁, h₂⟩, h₃⟩, h₄⟩, h₅⟩, h₆⟩, h₇⟩, h₈⟩, h₉⟩

end Rotas
