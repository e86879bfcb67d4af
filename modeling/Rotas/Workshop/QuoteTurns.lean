import Rotas.Lib.Interleave
import Rotas.Workshop.Quotes

/-!
# Rotas.Workshop.QuoteTurns

Acceptances, rejections and expiries of quotes as transactions that run at the same time. Each read
sees what is committed at that instant; what a transaction writes takes effect when it commits.

* `QuoteRow`   — the rows that are held: an acceptance holds its quote from reading it on, then the
  counter of the work orders, then each part; the other two hold a quote from updating it on.
* `AcceptWork` — what an acceptance has read and is about to write.
* `QuotePhase`, `QuoteAction`, `quoteTurn` — the steps of a transaction.

The store also keeps the decisions that were committed, and when the quotes were last expired.
-/

namespace Rotas

open Interleave

inductive QuoteRow where
  | quote (id : UUID)
  | sequence (tenantId : UUID) (entityType : String)
  | part (id : UUID)
  deriving DecidableEq

structure Accepting where
  tenantId : UUID
  quoteId : UUID
  acceptanceChannel : Option String := none
  acceptedByPersonName : Option String := none

structure Rejecting where
  tenantId : UUID
  quoteId : UUID
  reason : Option String := none

/-! ## The work of an acceptance -/

/-- A reservation that is still to be written. -/
structure ReservationLine where
  inventoryId : UUID
  quantityReserved : Int
  status : ReservationStatus

structure AcceptWork where
  request : Accepting
  /-- When the quote was read. -/
  time : Instant
  quote : WorkshopQuote
  items : List WorkshopQuoteItem
  target : AcceptTarget
  lines : List ReservationLine := []

/-- The items of a quote that are reserved. -/
def Warehouse.partItems (db : Warehouse) (tenantId quoteId : UUID) : List WorkshopQuoteItem :=
  (db.itemsOf tenantId quoteId).filter fun qi => qi.itemType = .part && qi.partId.isSome

/-- The part of an item, if there is something to reserve of it. -/
def Warehouse.partOf (db : Warehouse) (tenantId : UUID) (qi : WorkshopQuoteItem) :
    Option SparePart :=
  if qi.quantity ≤ 0 then none else qi.partId.bind (db.part tenantId)

/-- What the acceptance has promised of a part itself. -/
def AcceptWork.reserved (w : AcceptWork) (inventoryId : UUID) : Int :=
  ((w.lines.filter fun l => l.inventoryId = inventoryId && l.status = .active).map
    ReservationLine.quantityReserved).sum

/-- One more reservation, of a part that is held. -/
def AcceptWork.reserve (w : AcceptWork) (qi : WorkshopQuoteItem) (inv : SparePart)
    (db : Warehouse) : AcceptWork :=
  let avail := inv.currentQuantity - db.reserved w.request.tenantId inv.id - w.reserved inv.id
  { w with
    lines := w.lines ++ [{ inventoryId := inv.id, quantityReserved := 10 * qi.quantity
                           status := if avail ≥ 10 * qi.quantity then .active
                             else .activeBackorder }] }

def addReservation (quote : WorkshopQuote) (workOrderId : UUID) (db : Warehouse)
    (line : ReservationLine) : Warehouse :=
  { db with
    reservations := db.reservations.insert fun id =>
      { id, tenantId := quote.tenantId, inventoryId := line.inventoryId
        quoteId := some quote.id, workOrderId := some workOrderId
        quantityReserved := line.quantityReserved, status := line.status } }

def AcceptWork.orderId (w : AcceptWork) (db : Warehouse) : UUID := w.target.orderId db

/-- What an acceptance writes. -/
def AcceptWork.write (w : AcceptWork) (db : Warehouse) : Except Exc Warehouse := do
  let workOrderId := w.orderId db
  let db ← w.target.place w.quote db
  let db := w.items.foldl (addTask w.quote workOrderId) db
  let db := convertQuote w.quote.id workOrderId w.request.acceptanceChannel
    w.request.acceptedByPersonName db
  return w.lines.foldl (addReservation w.quote workOrderId) db

/-! ## Turns -/

inductive QuoteOutcome where
  | accepted (workOrderId : UUID)
  | rejected
  | expired
  deriving DecidableEq

/-- A decision about a quote, at the time when its row was read. -/
structure Decision where
  quoteId : UUID
  time : Instant
  outcome : QuoteOutcome
  deriving DecidableEq

inductive QuotePhase where
  | idle
  /-- The quote is read and its row is held. -/
  | locked (a : Accepting) (time : Instant) (quote : WorkshopQuote)
  | itemized (a : Accepting) (time : Instant) (quote : WorkshopQuote)
      (items : List WorkshopQuoteItem)
  | targeted (w : AcceptWork)
  | reserving (w : AcceptWork) (todo : List WorkshopQuoteItem)
  /-- The quote is read, and nothing is held. -/
  | rejecting (r : Rejecting) (time : Instant) (quote : WorkshopQuote)
  | rejected (r : Rejecting) (time : Instant) (quote : WorkshopQuote)
  /-- The quotes that the update has still to look at, and those it has marked. -/
  | expiring (time : Instant) (todo marked : List UUID)

inductive QuoteAction where
  | accept (a : Accepting)
  | readItems
  | readTarget
  | readParts
  | reservePart
  | reject (r : Rejecting)
  | update
  | expire
  | expireRow
  | commit
  | rollback
  /-- Time passes. -/
  | tick (now : Instant)

structure QuoteStore where
  db : Warehouse
  clock : Instant
  lastExpiry : Option Instant := none
  log : List Decision := []
  locks : Locks QuoteRow := fun _ => none

def QuoteStore.abort (s : QuoteStore) (i : Nat) : QuoteStore :=
  { s with locks := s.locks.release i }

/-- The end of the transaction: its writes and its decisions, if the database takes them. -/
def QuoteStore.finish (s : QuoteStore) (i : Nat) (r : Except Exc Warehouse)
    (decisions : List Decision) (lastExpiry : Option Instant) : QuoteStore × QuotePhase :=
  match r with
  | .error _ => (s.abort i, .idle)
  | .ok db =>
    if db.ok then
      ({ db, clock := s.clock, lastExpiry, log := s.log ++ decisions
         locks := s.locks.release i }, .idle)
    else (s.abort i, .idle)

/-- The row is taken for the next phase; `none` while another transaction holds it. -/
def QuoteStore.hold (s : QuoteStore) (i : Nat) (row : QuoteRow) (p : QuotePhase) :
    Option (QuoteStore × QuotePhase) :=
  if s.locks.available i row then some ({ s with locks := s.locks.take i row }, p) else none

theorem key_expired (q : WorkshopQuote) :
    Keyed.key { q with status := QuoteStatus.expired } = Keyed.key q := rfl

/-- The quotes that are marked expire. -/
def expireMarked (marked : List UUID) (db : Warehouse) : Warehouse :=
  { db with
    quotes := db.quotes.modifyAll (fun q => marked.contains q.id)
      (fun q => { q with status := .expired }) key_expired }

/-- The turn of transaction `i`; `none` when it waits for a row or the step is not its next. -/
def quoteTurn (i : Nat) (act : QuoteAction) (s : QuoteStore) (p : QuotePhase) :
    Option (QuoteStore × QuotePhase) :=
  match act, p with
  | .accept a, .idle =>
    match requireQuote a.tenantId a.quoteId s.db with
    | .error _ => some (s.abort i, .idle)
    | .ok quote =>
      if s.locks.available i (.quote a.quoteId) then
        match checkAcceptable quote with
        | .error _ => some (s.abort i, .idle)
        | .ok _ => s.hold i (.quote a.quoteId) (.locked a s.clock quote)
      else none
  | .readItems, .locked a time quote =>
    some (s, .itemized a time quote (s.db.itemsOf a.tenantId a.quoteId))
  | .readTarget, .itemized a time quote items =>
    match quote.supplemented with
    | some workOrderId =>
      match requireTarget a.tenantId workOrderId s.db with
      | .error _ => some (s.abort i, .idle)
      | .ok target => some (s, .targeted { request := a, time, quote, items, target })
    | none =>
      s.hold i (.sequence a.tenantId (sequenceKey "work_order" (yearOf s.clock)))
        (.targeted { request := a, time, quote, items
                     target := newTarget s.clock a.tenantId s.db })
  | .readParts, .targeted w =>
    some (s, .reserving w (s.db.partItems w.request.tenantId w.request.quoteId))
  | .reservePart, .reserving w (qi :: todo) =>
    match s.db.partOf w.request.tenantId qi with
    | none => some (s, .reserving w todo)
    | some inv => s.hold i (.part inv.id) (.reserving (w.reserve qi inv s.db) todo)
  | .commit, .reserving w [] =>
    some (s.finish i (w.write s.db) [⟨w.quote.id, w.time, .accepted (w.orderId s.db)⟩]
      s.lastExpiry)
  | .reject r, .idle =>
    match requireRejectable r.tenantId r.quoteId s.db with
    | .error _ => some (s.abort i, .idle)
    | .ok quote => some (s, .rejecting r s.clock quote)
  | .update, .rejecting r time quote => s.hold i (.quote quote.id) (.rejected r time quote)
  | .commit, .rejected r time quote =>
    some (s.finish i (.ok (markRejected quote r.reason s.db)) [⟨quote.id, time, .rejected⟩]
      s.lastExpiry)
  | .expire, .idle =>
    some (s, .expiring s.clock
      ((s.db.quotes.rows.filter (WorkshopQuote.outdated s.clock)).map WorkshopQuote.id) [])
  | .expireRow, .expiring time (id :: todo) marked =>
    -- A row that somebody else has changed in the meantime is tested again.
    if s.locks.available i (.quote id) then
      if (s.db.quotes.get id).any (WorkshopQuote.outdated time) then
        s.hold i (.quote id) (.expiring time todo (marked ++ [id]))
      else some (s, .expiring time todo marked)
    else none
  | .commit, .expiring time [] marked =>
    some (s.finish i (.ok (expireMarked marked s.db))
      (marked.map fun id => ⟨id, time, .expired⟩) (some (max (s.lastExpiry.getD time) time)))
  | .rollback, _ => some (s.abort i, .idle)
  | .tick now, p => some ({ s with clock := max s.clock now }, p)
  | _, _ => none

def quoteStart (db : Warehouse) (clock : Instant) : Config QuoteStore QuotePhase :=
  ⟨{ db, clock }, fun _ => .idle⟩

def quoteRun (db : Warehouse) (clock : Instant) (ms : List (Nat × QuoteAction)) :
    Config QuoteStore QuotePhase :=
  Run.exec (move quoteTurn) (quoteStart db clock) ms

end Rotas
