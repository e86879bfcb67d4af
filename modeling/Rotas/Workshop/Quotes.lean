import Rotas.Billing.Numbering
import Rotas.Workshop.Inventory

/-!
# Rotas.Workshop.Quotes

The quotes of `workshop/quote_service.py`.

* `getNextTenantSequence` — the counters behind the numbers.
* `createQuote` — a quote is sent as soon as it is made.
* `acceptQuote` — its items become tasks and reservations, of a new work order or of the
  one that it supplements.
* `rejectQuote`, `expireOutdatedQuotes` — the other two ends of a sent quote.
-/

namespace Rotas

open Decimal

/-! ## Counters -/

/-- `f"{entity_type}_{current_year}"`. -/
def sequenceKey (entityType : String) (year : Nat) : String := entityType ++ "_" ++ toString year

def Warehouse.sequence (db : Warehouse) (tenantId : UUID) (key : String) : Option TenantSequence :=
  db.tenantSequences.rows.find? fun s => s.tenantId = tenantId && s.entityType = key

/-- What the counter will say next. -/
def Warehouse.nextValue (db : Warehouse) (tenantId : UUID) (key : String) : Nat :=
  ((db.sequence tenantId key).map TenantSequence.currentValue).getD 0 + 1

def Warehouse.setSequence (db : Warehouse) (tenantId : UUID) (key : String) (value : Nat) :
    Warehouse :=
  { db with
    tenantSequences := match db.sequence tenantId key with
      | some s => db.tenantSequences.modify s.id fun s => { s with currentValue := value }
      | none => db.tenantSequences.insert fun id =>
          { id, tenantId, entityType := key, currentValue := value } }

def getNextTenantSequence (now : Instant) (tenantId : UUID) (entityType : String)
    (db : Warehouse) : Nat × Warehouse :=
  let key := sequenceKey entityType (yearOf now)
  let value := db.nextValue tenantId key
  (value, db.setSequence tenantId key value)

/-- `f"{label}-{current_year}-{seq:04d}"`. -/
def sequenceNumber (label : String) (year seq : Nat) : String :=
  label ++ "-" ++ toString year ++ "-" ++ .ofList (zfill 4 seq)

/-! ## Creation -/

structure QuoteItemCreate where
  itemType : QuoteItemType := .labor
  description : String
  partId : Option UUID := none
  quantity : ℚ := 1
  unitPrice : ℚ := 0

structure QuoteCreate where
  vehicleId : UUID
  clientId : Option UUID := none
  receptionId : Option UUID := none
  isSupplemental : Bool := false
  relatedWorkOrderId : Option UUID := none
  validUntil : Option Instant := none
  taxTotal : ℚ := 0
  notes : Option String := none
  items : List QuoteItemCreate := []

def QuoteItemCreate.lineTotal (item : QuoteItemCreate) : ℚ :=
  context (item.quantity * item.unitPrice)

/-- The lines of one kind, added up as they come. -/
def QuoteCreate.total (payload : QuoteCreate) (itemType : QuoteItemType) : ℚ :=
  ((payload.items.filter (·.itemType = itemType)).map QuoteItemCreate.lineTotal).foldl
    (fun total line => context (total + line)) 0

/-- A supplement names a work order of the tenant. -/
def checkSupplement (tenantId : UUID) (payload : QuoteCreate) (db : Warehouse) : Except Exc Unit :=
  if payload.isSupplemental then do
    let workOrderId ← require payload.relatedWorkOrderId
      (.api { code := "invalid_supplemental_quote"
              message := "Supplemental quote requires related_work_order_id." })
    let _ ← require ((db.workOrders.get workOrderId).filter (·.tenantId = tenantId))
      (notFound "work_order_not_found" "Related Work Order not found.")
  else return ()

def QuoteItemCreate.row (item : QuoteItemCreate) (tenantId quoteId id : UUID) :
    WorkshopQuoteItem where
  id
  tenantId
  quoteId
  itemType := item.itemType
  description := item.description
  partId := item.partId
  quantity := numeric 2 item.quantity
  unitPrice := numeric 2 item.unitPrice
  totalPrice := numeric 2 item.lineTotal

def QuoteCreate.row (payload : QuoteCreate) (tenantId : UUID) (vehicle : Vehicle)
    (quoteNumber : String) (id : UUID) : WorkshopQuote :=
  let labor := payload.total .labor
  let parts := payload.total .part
  { id
    tenantId
    vehicleId := payload.vehicleId
    clientId := payload.clientId.or vehicle.customerClientId
    receptionId := payload.receptionId
    quoteNumber
    isSupplemental := payload.isSupplemental
    relatedWorkOrderId := payload.relatedWorkOrderId
    status := .sent
    validUntil := payload.validUntil
    laborTotal := numeric 2 labor
    partsTotal := numeric 2 parts
    taxTotal := numeric 2 payload.taxTotal
    totalAmount := numeric 2 (context (context (labor + parts) + payload.taxTotal))
    notes := payload.notes }

def addQuoteItem (tenantId quoteId : UUID) (db : Warehouse) (item : QuoteItemCreate) : Warehouse :=
  { db with quoteItems := db.quoteItems.insert (item.row tenantId quoteId) }

def createQuote (now : Instant) (tenantId : UUID) (payload : QuoteCreate) (db : Warehouse) :
    Except Exc (UUID × Warehouse) := do
  let vehicle ← require ((db.vehicles.get payload.vehicleId).filter (·.tenantId = tenantId))
    (notFound "vehicle_not_found" "Vehicle not found.")
  checkSupplement tenantId payload db
  let (seq, db) := getNextTenantSequence now tenantId "quote" db
  let quoteNumber := sequenceNumber "ORC" (yearOf now) seq
  let quoteId := db.quotes.freshKey
  let db := { db with quotes := db.quotes.insert (payload.row tenantId vehicle quoteNumber) }
  return (quoteId, payload.items.foldl (addQuoteItem tenantId quoteId) db)

theorem foldl_addQuoteItem (tenantId quoteId : UUID) : ∀ (items : List QuoteItemCreate)
    (db : Warehouse), ∃ quoteItems,
      items.foldl (addQuoteItem tenantId quoteId) db = { db with quoteItems } := by
  intro items
  induction items with
  | nil => exact fun db => ⟨db.quoteItems, rfl⟩
  | cons item items ih =>
    intro db
    obtain ⟨quoteItems, h⟩ := ih (addQuoteItem tenantId quoteId db item)
    exact ⟨quoteItems, h⟩

theorem createQuote_eq_ok {now : Instant} {tenantId a : UUID} {payload : QuoteCreate}
    {db db' : Warehouse} (h : createQuote now tenantId payload db = .ok (a, db')) :
    ∃ tenantSequences quotes quoteItems, db' = { db with tenantSequences, quotes, quoteItems } := by
  simp only [createQuote, bind_eq_ok, pure, Except.pure, Except.ok.injEq, Prod.mk.injEq] at h
  obtain ⟨vehicle, _, _, _, _, rfl⟩ := h
  obtain ⟨quoteItems, h⟩ := foldl_addQuoteItem tenantId _ payload.items _
  rw [h]
  exact ⟨_, _, quoteItems, rfl⟩

/-! ## Acceptance -/

def requireQuote (tenantId quoteId : UUID) (db : Warehouse) : Except Exc WorkshopQuote :=
  require ((db.quotes.get quoteId).filter (·.tenantId = tenantId))
    (notFound "quote_not_found" "Quote not found.")

theorem requireQuote_eq_ok {tenantId quoteId : UUID} {db : Warehouse} {quote : WorkshopQuote}
    (h : requireQuote tenantId quoteId db = .ok quote) :
    db.quotes.get quoteId = some quote ∧ quote.tenantId = tenantId := by
  simp only [requireQuote, require_eq_ok, Option.filter_eq_some_iff, decide_eq_true_eq] at h
  exact h

def invalidQuoteStatus (verb : String) (status : QuoteStatus) : Exc :=
  .api { code := "invalid_quote_status"
         message := "Quote cannot be " ++ verb ++ " from status '" ++ status.text ++ "'." }

def checkAcceptable (quote : WorkshopQuote) : Except Exc Unit := do
  raiseIf (quote.status = .converted)
    (conflict "quote_already_converted" "Quote has already been accepted.")
  raiseIf (quote.status ≠ .sent) (invalidQuoteStatus "accepted" quote.status)

theorem checkAcceptable_eq_ok {quote : WorkshopQuote} {u : Unit}
    (h : checkAcceptable quote = .ok u) : quote.status = .sent := by
  simp only [checkAcceptable, bind_eq_ok, raiseIf_eq_ok, decide_eq_false_iff_not, ne_eq,
    not_not] at h
  obtain ⟨_, _, h⟩ := h
  exact h

def Warehouse.itemsOf (db : Warehouse) (tenantId quoteId : UUID) : List WorkshopQuoteItem :=
  db.quoteItems.rows.filter fun qi => qi.quoteId = quoteId && qi.tenantId = tenantId

/-- The work order that the quote supplements. -/
def WorkshopQuote.supplemented (quote : WorkshopQuote) : Option UUID :=
  if quote.isSupplemental then quote.relatedWorkOrderId else none

/-- The work order of an acceptance: one that is there, or a new one. -/
inductive AcceptTarget where
  | existing (workOrderId : UUID)
  /-- The counter `key` of the work orders has come to `seq`. -/
  | new (key : String) (seq : Nat) (workOrderNumber : String)

def requireTarget (tenantId workOrderId : UUID) (db : Warehouse) : Except Exc AcceptTarget := do
  let wo ← require ((db.workOrders.get workOrderId).filter (·.tenantId = tenantId))
    (notFound "work_order_not_found" "Target Work Order not found.")
  return .existing wo.id

theorem requireTarget_eq_ok {tenantId workOrderId : UUID} {db : Warehouse} {target : AcceptTarget}
    (h : requireTarget tenantId workOrderId db = .ok target) : target = .existing workOrderId := by
  simp only [requireTarget, bind_eq_ok, require_eq_ok, Option.filter_eq_some_iff, pure, Except.pure,
    Except.ok.injEq] at h
  obtain ⟨wo, ⟨hget, _⟩, rfl⟩ := h
  have hid : wo.id = workOrderId := Table.key_of_get hget
  rw [hid]

def newTarget (now : Instant) (tenantId : UUID) (db : Warehouse) : AcceptTarget :=
  let key := sequenceKey "work_order" (yearOf now)
  let seq := db.nextValue tenantId key
  .new key seq (sequenceNumber "OS" (yearOf now) seq)

def acceptTarget (now : Instant) (tenantId : UUID) (quote : WorkshopQuote) (db : Warehouse) :
    Except Exc AcceptTarget :=
  match quote.supplemented with
  | some workOrderId => requireTarget tenantId workOrderId db
  | none => .ok (newTarget now tenantId db)

def AcceptTarget.orderId (db : Warehouse) : AcceptTarget → UUID
  | .existing workOrderId => workOrderId
  | .new .. => db.workOrders.freshKey

def WorkshopQuote.order (quote : WorkshopQuote) (workOrderNumber : String) (id : UUID) :
    WorkOrder where
  id
  tenantId := quote.tenantId
  vehicleId := some quote.vehicleId
  receptionId := quote.receptionId
  workOrderNumber
  plannedWork := (truthy quote.notes).getD
    ("Reparação baseada no Orçamento " ++ quote.quoteNumber)
  estimatedCost := some quote.totalAmount
  status := .approved
  originType := .quote
  laborCost := quote.laborTotal

/-- The new work order; the database refuses a number that the tenant has already. -/
def AcceptTarget.place (quote : WorkshopQuote) (db : Warehouse) :
    AcceptTarget → Except Exc Warehouse
  | .existing _ => .ok db
  | .new key seq workOrderNumber => do
    raiseIf (db.workOrders.rows.any fun wo =>
      wo.tenantId = quote.tenantId && wo.workOrderNumber = workOrderNumber) .integrityError
    return { db.setSequence quote.tenantId key seq with
      workOrders := db.workOrders.insert (quote.order workOrderNumber) }

def taskDescription (quote : WorkshopQuote) (item : WorkshopQuoteItem) : String :=
  if quote.supplemented.isSome then "[Suplementar " ++ quote.quoteNumber ++ "] " ++ item.description
  else item.description

def addTask (quote : WorkshopQuote) (workOrderId : UUID) (db : Warehouse)
    (item : WorkshopQuoteItem) : Warehouse :=
  { db with
    tasks := db.tasks.insert fun id =>
      { id, tenantId := quote.tenantId, workOrderId, description := taskDescription quote item } }

/-- The quote is converted; who accepted it, and how, is kept if it is said. -/
def convertQuote (quoteId workOrderId : UUID) (acceptanceChannel acceptedByPersonName : Option String)
    (db : Warehouse) : Warehouse :=
  { db with
    quotes := db.quotes.modify quoteId fun q => { q with
      relatedWorkOrderId := some workOrderId
      status := .converted
      acceptanceChannel := (truthy acceptanceChannel).or q.acceptanceChannel
      acceptedByPersonName := (truthy acceptedByPersonName).or q.acceptedByPersonName } }

def acceptQuote (now : Instant) (tenantId quoteId : UUID)
    (acceptanceChannel acceptedByPersonName : Option String) (db : Warehouse) :
    Except Exc (UUID × Warehouse) := do
  let quote ← requireQuote tenantId quoteId db
  checkAcceptable quote
  let items := db.itemsOf tenantId quoteId
  let target ← acceptTarget now tenantId quote db
  let workOrderId := target.orderId db
  let db ← target.place quote db
  let db := items.foldl (addTask quote workOrderId) db
  let db := convertQuote quoteId workOrderId acceptanceChannel acceptedByPersonName db
  return (workOrderId, createPartReservations tenantId quoteId (some workOrderId) db)

/-! ## Rejection and expiry -/

def requireRejectable (tenantId quoteId : UUID) (db : Warehouse) : Except Exc WorkshopQuote := do
  let quote ← requireQuote tenantId quoteId db
  raiseIf (quote.status ≠ .sent) (invalidQuoteStatus "rejected" quote.status)
  return quote

/-- The notes with the reason added; none if there is no reason to add. -/
def rejectionNotes (quote : WorkshopQuote) (reason : Option String) : Option String :=
  (truthy reason).map fun reason =>
    strip (quote.notes.getD "" ++ "\nMotivo rejeição: " ++ reason)

/-- The update of a rejection, from the quote as it was read. -/
def markRejected (quote : WorkshopQuote) (reason : Option String) (db : Warehouse) : Warehouse :=
  { db with
    quotes := db.quotes.modify quote.id fun q => { q with
      status := .rejected
      notes := (rejectionNotes quote reason).or q.notes } }

def rejectQuote (tenantId quoteId : UUID) (reason : Option String) (db : Warehouse) :
    Except Exc (UUID × Warehouse) := do
  let quote ← requireRejectable tenantId quoteId db
  return (quote.id, markRejected quote reason db)

def WorkshopQuote.outdated (now : Instant) (quote : WorkshopQuote) : Bool :=
  quote.status = .sent && quote.validUntil.any (· < now)

/-- Of all tenants; the number of quotes that have expired. -/
def expireOutdatedQuotes (now : Instant) (db : Warehouse) : Nat × Warehouse :=
  ((db.quotes.rows.filter (WorkshopQuote.outdated now)).length,
    { db with
      quotes := db.quotes.modifyAll (WorkshopQuote.outdated now)
        fun q => { q with status := .expired } })

end Rotas
