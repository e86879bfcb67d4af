import Rotas.Workshop.QuoteTurns

/-!
# Rotas.Workshop.OneDecision

What becomes of a quote when acceptances, rejections and expiries of it run at the same time.

* `QuoteStep`    — what a turn does.
* `OneDecision`  — each quote is decided once, while it is valid, and what it brings is there once.
* `Timely`       — no rejection overwrites a quote that was decided after it was read, and nobody
  accepts a quote after its last day before the worker has seen that day pass.
* `quotes_decided_once` — in every interleaving of timely turns there is one decision.
* `accepted_and_rejected` — an acceptance between the read and the update of a rejection.
-/

namespace Rotas

open Interleave

/-! ## What an acceptance writes -/

def WorkOrderTask.line (t : WorkOrderTask) : UUID × String := (t.workOrderId, t.description)

def PartReservation.line (r : PartReservation) : Option UUID × Option UUID × UUID × Int :=
  (r.quoteId, r.workOrderId, r.inventoryId, r.quantityReserved)

/-- The tasks of a quote in its work order. -/
def WorkshopQuote.taskLines (quote : WorkshopQuote) (workOrderId : UUID)
    (items : List WorkshopQuoteItem) : List (UUID × String) :=
  items.map fun item => (workOrderId, taskDescription quote item)

/-- What there is to reserve of an item. -/
def Warehouse.demand (db : Warehouse) (tenantId : UUID) (qi : WorkshopQuoteItem) :
    Option (UUID × Int) :=
  (db.partOf tenantId qi).map fun inv => (inv.id, 10 * qi.quantity)

def ReservationLine.demand (l : ReservationLine) : UUID × Int := (l.inventoryId, l.quantityReserved)

/-- The reservations of a quote for its work order. -/
def WorkshopQuote.reservationLines (quote : WorkshopQuote) (workOrderId : UUID)
    (demands : List (UUID × Int)) : List (Option UUID × Option UUID × UUID × Int) :=
  demands.map fun d => (some quote.id, some workOrderId, d)

/-- The work order that an acceptance makes, if it makes one. -/
def WorkshopQuote.newOrders (quote : WorkshopQuote) (workOrderId : UUID) : List UUID :=
  if quote.supplemented.isSome then [] else [workOrderId]

/-- The target is the one that the quote asks for. -/
def AcceptTarget.Suits (quote : WorkshopQuote) : AcceptTarget → Prop
  | .existing workOrderId => quote.supplemented = some workOrderId
  | .new .. => quote.supplemented = none

theorem foldl_addTask (quote : WorkshopQuote) (workOrderId : UUID)
    (items : List WorkshopQuoteItem) (db : Warehouse) :
    ∃ tasks, items.foldl (addTask quote workOrderId) db = { db with tasks } ∧
      tasks.rows.map WorkOrderTask.line =
        db.tasks.rows.map WorkOrderTask.line ++ quote.taskLines workOrderId items := by
  induction items generalizing db with
  | nil => exact ⟨db.tasks, rfl, (List.append_nil _).symm⟩
  | cons item items ih =>
    obtain ⟨tasks, heq, hlines⟩ := ih (addTask quote workOrderId db item)
    refine ⟨tasks, heq, ?_⟩
    rw [hlines, addTask, Table.rows_insert, List.map_append, List.append_assoc]
    rfl

theorem foldl_addReservation (quote : WorkshopQuote) (workOrderId : UUID)
    (lines : List ReservationLine) (db : Warehouse) :
    ∃ reservations, lines.foldl (addReservation quote workOrderId) db = { db with reservations } ∧
      reservations.rows.map PartReservation.line =
        db.reservations.rows.map PartReservation.line ++
          quote.reservationLines workOrderId (lines.map ReservationLine.demand) := by
  induction lines generalizing db with
  | nil => exact ⟨db.reservations, rfl, (List.append_nil _).symm⟩
  | cons line lines ih =>
    obtain ⟨reservations, heq, hlines⟩ := ih (addReservation quote workOrderId db line)
    refine ⟨reservations, heq, ?_⟩
    rw [hlines, addReservation, Table.rows_insert, List.map_append, List.append_assoc]
    rfl

theorem place_eq_ok {quote : WorkshopQuote} {target : AcceptTarget} {db db' : Warehouse}
    (hsuits : target.Suits quote) (h : target.place quote db = .ok db') :
    ∃ tenantSequences workOrders, db' = { db with tenantSequences, workOrders } ∧
      workOrders.rows.map WorkOrder.id =
        db.workOrders.rows.map WorkOrder.id ++ quote.newOrders (target.orderId db) := by
  cases target with
  | existing workOrderId =>
    cases h
    have hnone : quote.newOrders workOrderId = [] := by
      rw [WorkshopQuote.newOrders, show quote.supplemented = _ from hsuits]
      rfl
    refine ⟨_, _, rfl, ?_⟩
    rw [AcceptTarget.orderId, hnone, List.append_nil]
  | new key seq number =>
    simp only [AcceptTarget.place, bind_eq_ok, raiseIf_eq_ok, pure, Except.pure,
      Except.ok.injEq] at h
    obtain ⟨_, _, rfl⟩ := h
    refine ⟨_, _, rfl, ?_⟩
    rw [WorkshopQuote.newOrders, show quote.supplemented = _ from hsuits, Table.rows_insert,
      List.map_append]
    rfl

/-- What an acceptance leaves, and what it adds. -/
structure AcceptWork.Writes (w : AcceptWork) (db db' : Warehouse) : Prop where
  quotes : ∃ channel person, db'.quotes =
    (convertQuote w.quote.id (w.orderId db) channel person db).quotes
  quoteItems : db'.quoteItems = db.quoteItems
  spareParts : db'.spareParts = db.spareParts
  workOrders : db'.workOrders.rows.map WorkOrder.id =
    db.workOrders.rows.map WorkOrder.id ++ w.quote.newOrders (w.orderId db)
  tasks : db'.tasks.rows.map WorkOrderTask.line =
    db.tasks.rows.map WorkOrderTask.line ++ w.quote.taskLines (w.orderId db) w.items
  reservations : db'.reservations.rows.map PartReservation.line =
    db.reservations.rows.map PartReservation.line ++
      w.quote.reservationLines (w.orderId db) (w.lines.map ReservationLine.demand)

theorem writes_of_write {w : AcceptWork} {db db' : Warehouse} (hsuits : w.target.Suits w.quote)
    (h : w.write db = .ok db') : w.Writes db db' := by
  simp only [AcceptWork.write, bind_eq_ok, pure, Except.pure, Except.ok.injEq] at h
  obtain ⟨placed, hplace, rfl⟩ := h
  obtain ⟨sequences, orders, rfl, horders⟩ := place_eq_ok hsuits hplace
  obtain ⟨tasks, htasks, htaskLines⟩ := foldl_addTask w.quote (w.orderId db) w.items
    { db with tenantSequences := sequences, workOrders := orders }
  rw [htasks]
  obtain ⟨reservations, heq, hlines⟩ := foldl_addReservation w.quote (w.orderId db) w.lines
    (convertQuote w.quote.id (w.orderId db) w.request.acceptanceChannel
      w.request.acceptedByPersonName
      { db with tenantSequences := sequences, workOrders := orders, tasks })
  rw [heq]
  exact ⟨⟨_, _, rfl⟩, rfl, rfl, horders, htaskLines, hlines⟩

/-! ## What a turn does -/

/-- The turns of transaction `i` in the store `s`: the phase before, the store and the phase
after. -/
inductive QuoteStep (i : Nat) (s : QuoteStore) :
    QuoteAction → QuotePhase → QuoteStore → QuotePhase → Prop where
  | ended (act : QuoteAction) (p : QuotePhase) : QuoteStep i s act p (s.abort i) .idle
  | locked (a : Accepting) (quote : WorkshopQuote) (hget : s.db.quotes.get a.quoteId = some quote)
      (htenant : quote.tenantId = a.tenantId) (hsent : quote.status = .sent)
      (havail : s.locks.available i (.quote a.quoteId) = true) :
      QuoteStep i s (.accept a) .idle
        { s with locks := s.locks.take i (.quote a.quoteId) } (.locked a s.clock quote)
  | itemized (a : Accepting) (time : Instant) (quote : WorkshopQuote) :
      QuoteStep i s .readItems (.locked a time quote) s
        (.itemized a time quote (s.db.itemsOf a.tenantId a.quoteId))
  | supplement (a : Accepting) (time : Instant) (quote : WorkshopQuote)
      (items : List WorkshopQuoteItem) (target : AcceptTarget) (hsuits : target.Suits quote) :
      QuoteStep i s .readTarget (.itemized a time quote items) s
        (.targeted { request := a, time, quote, items, target })
  | numbered (a : Accepting) (time : Instant) (quote : WorkshopQuote)
      (items : List WorkshopQuoteItem) (target : AcceptTarget) (row : QuoteRow)
      (hsuits : target.Suits quote) (havail : s.locks.available i row = true) :
      QuoteStep i s .readTarget (.itemized a time quote items)
        { s with locks := s.locks.take i row }
        (.targeted { request := a, time, quote, items, target })
  | listed (w : AcceptWork) :
      QuoteStep i s .readParts (.targeted w) s
        (.reserving w (s.db.partItems w.request.tenantId w.request.quoteId))
  | skipped (w : AcceptWork) (qi : WorkshopQuoteItem) (todo : List WorkshopQuoteItem)
      (hpart : s.db.partOf w.request.tenantId qi = none) :
      QuoteStep i s .reservePart (.reserving w (qi :: todo)) s (.reserving w todo)
  | reserved (w : AcceptWork) (qi : WorkshopQuoteItem) (todo : List WorkshopQuoteItem)
      (inv : SparePart) (hpart : s.db.partOf w.request.tenantId qi = some inv)
      (havail : s.locks.available i (.part inv.id) = true) :
      QuoteStep i s .reservePart (.reserving w (qi :: todo))
        { s with locks := s.locks.take i (.part inv.id) }
        (.reserving (w.reserve qi inv s.db) todo)
  | accepted (w : AcceptWork) (db : Warehouse) (hwrite : w.write s.db = .ok db) :
      QuoteStep i s .commit (.reserving w [])
        { s with
          db
          log := s.log ++ [⟨w.quote.id, w.time, .accepted (w.orderId s.db)⟩]
          locks := s.locks.release i } .idle
  | rejecting (r : Rejecting) (quote : WorkshopQuote)
      (hget : s.db.quotes.get quote.id = some quote) (hsent : quote.status = .sent) :
      QuoteStep i s (.reject r) .idle s (.rejecting r s.clock quote)
  | updated (r : Rejecting) (time : Instant) (quote : WorkshopQuote)
      (havail : s.locks.available i (.quote quote.id) = true) :
      QuoteStep i s .update (.rejecting r time quote)
        { s with locks := s.locks.take i (.quote quote.id) } (.rejected r time quote)
  | rejected (r : Rejecting) (time : Instant) (quote : WorkshopQuote) :
      QuoteStep i s .commit (.rejected r time quote)
        { s with
          db := markRejected quote r.reason s.db
          log := s.log ++ [⟨quote.id, time, .rejected⟩]
          locks := s.locks.release i } .idle
  | expiring :
      QuoteStep i s .expire .idle s (.expiring s.clock
        ((s.db.quotes.rows.filter (WorkshopQuote.outdated s.clock)).map WorkshopQuote.id) [])
  | marked (time : Instant) (id : UUID) (todo marked : List UUID) (quote : WorkshopQuote)
      (hget : s.db.quotes.get id = some quote) (houtdated : quote.outdated time = true)
      (havail : s.locks.available i (.quote id) = true) :
      QuoteStep i s .expireRow (.expiring time (id :: todo) marked)
        { s with locks := s.locks.take i (.quote id) } (.expiring time todo (marked ++ [id]))
  | passed (time : Instant) (id : UUID) (todo marked : List UUID)
      (hnot : (s.db.quotes.get id).any (WorkshopQuote.outdated time) = false) :
      QuoteStep i s .expireRow (.expiring time (id :: todo) marked) s
        (.expiring time todo marked)
  | expired (time : Instant) (marked : List UUID) :
      QuoteStep i s .commit (.expiring time [] marked)
        { s with
          db := expireMarked marked s.db
          lastExpiry := some (max (s.lastExpiry.getD time) time)
          log := s.log ++ marked.map fun id => ⟨id, time, .expired⟩
          locks := s.locks.release i } .idle
  | ticked (now : Instant) (p : QuotePhase) :
      QuoteStep i s (.tick now) p { s with clock := max s.clock now } p

theorem hold_eq_some {s s' : QuoteStore} {i : Nat} {row : QuoteRow} {p p' : QuotePhase}
    (h : s.hold i row p = some (s', p')) : s.locks.available i row = true ∧
      s' = { s with locks := s.locks.take i row } ∧ p' = p := by
  unfold QuoteStore.hold at h
  split at h
  · next havail =>
    cases h
    exact ⟨havail, rfl, rfl⟩
  · cases h

theorem finish_cases (s : QuoteStore) (i : Nat) {r : Except Exc Warehouse}
    {decisions : List Decision} {lastExpiry : Option Instant} :
    (∃ db, r = .ok db ∧ s.finish i r decisions lastExpiry =
      ({ s with db, lastExpiry, log := s.log ++ decisions, locks := s.locks.release i }, .idle)) ∨
      s.finish i r decisions lastExpiry = (s.abort i, .idle) := by
  cases r with
  | error e => exact .inr rfl
  | ok db =>
    by_cases hok : db.ok = true
    · exact .inl ⟨db, rfl, if_pos hok⟩
    · exact .inr (if_neg hok)

theorem requireRejectable_eq_ok {tenantId quoteId : UUID} {db : Warehouse}
    {quote : WorkshopQuote} (h : requireRejectable tenantId quoteId db = .ok quote) :
    db.quotes.get quote.id = some quote ∧ quote.status = .sent := by
  simp only [requireRejectable, bind_eq_ok, raiseIf_eq_ok, decide_eq_false_iff_not, ne_eq, not_not,
    pure, Except.pure, Except.ok.injEq] at h
  obtain ⟨q, hq, _, hsent, rfl⟩ := h
  have hget := (requireQuote_eq_ok hq).1
  have hid : q.id = quoteId := Table.key_of_get hget
  rw [hid]
  exact ⟨hget, hsent⟩

theorem quoteStep_of_turn {i : Nat} {act : QuoteAction} {s s' : QuoteStore} {p p' : QuotePhase}
    (h : quoteTurn i act s p = some (s', p')) : QuoteStep i s act p s' p' := by
  unfold quoteTurn at h
  split at h
  · split at h
    · cases h; exact .ended _ _
    · next hquote =>
      obtain ⟨hget, htenant⟩ := requireQuote_eq_ok hquote
      split at h
      · split at h
        · cases h; exact .ended _ _
        · next hsent =>
          obtain ⟨havail, rfl, rfl⟩ := hold_eq_some h
          exact .locked _ _ hget htenant (checkAcceptable_eq_ok hsent) havail
      · cases h
  · cases h; exact .itemized _ _ _
  · split at h
    · next hsupp =>
      split at h
      · cases h; exact .ended _ _
      · next htarget =>
        cases h
        rw [requireTarget_eq_ok htarget]
        exact .supplement _ _ _ _ _ hsupp
    · next hsupp =>
      obtain ⟨havail, rfl, rfl⟩ := hold_eq_some h
      exact .numbered _ _ _ _ _ _ hsupp havail
  · cases h; exact .listed _
  · split at h
    · next hpart => cases h; exact .skipped _ _ _ hpart
    · next hpart =>
      obtain ⟨havail, rfl, rfl⟩ := hold_eq_some h
      exact .reserved _ _ _ _ hpart havail
  · rcases finish_cases s i with ⟨db, hwrite, hfinish⟩ | hfinish
    · rw [hfinish] at h; cases h; exact .accepted _ _ hwrite
    · rw [hfinish] at h; cases h; exact .ended _ _
  · split at h
    · cases h; exact .ended _ _
    · next hquote =>
      cases h
      obtain ⟨hget, hsent⟩ := requireRejectable_eq_ok hquote
      exact .rejecting _ _ hget hsent
  · obtain ⟨havail, rfl, rfl⟩ := hold_eq_some h
    exact .updated _ _ _ havail
  · rcases finish_cases s i with ⟨db, hwrite, hfinish⟩ | hfinish
    · rw [hfinish] at h; cases hwrite; cases h; exact .rejected _ _ _
    · rw [hfinish] at h; cases h; exact .ended _ _
  · cases h; exact .expiring
  · split at h
    · next havail =>
      split at h
      · next hrow =>
        obtain ⟨quote, hget, houtdated⟩ := (Option.any_eq_true _ _).mp hrow
        obtain ⟨_, rfl, rfl⟩ := hold_eq_some h
        exact .marked _ _ _ _ quote hget houtdated havail
      · next hrow => cases h; exact .passed _ _ _ _ (Bool.eq_false_iff.mpr hrow)
    · cases h
  · rcases finish_cases s i with ⟨db, hwrite, hfinish⟩ | hfinish
    · rw [hfinish] at h; cases hwrite; cases h; exact .expired _ _
    · rw [hfinish] at h; cases h; exact .ended _ _
  · cases h; exact .ended _ _
  · cases h; exact .ticked _ _
  · cases h

/-! ## One decision -/

/-- The work orders, tasks and reservations that a decision brings, by the quotes and items that
were there at the start. -/
def Decision.orders (db₀ : Warehouse) (e : Decision) : List UUID :=
  match e.outcome, db₀.quotes.get e.quoteId with
  | .accepted workOrderId, some quote => quote.newOrders workOrderId
  | _, _ => []

def Decision.tasks (db₀ : Warehouse) (e : Decision) : List (UUID × String) :=
  match e.outcome, db₀.quotes.get e.quoteId with
  | .accepted workOrderId, some quote =>
    quote.taskLines workOrderId (db₀.itemsOf quote.tenantId quote.id)
  | _, _ => []

def Decision.reservations (db₀ : Warehouse) (e : Decision) :
    List (Option UUID × Option UUID × UUID × Int) :=
  match e.outcome, db₀.quotes.get e.quoteId with
  | .accepted workOrderId, some quote => quote.reservationLines workOrderId
    ((db₀.partItems quote.tenantId quote.id).filterMap (db₀.demand quote.tenantId))
  | _, _ => []

/-- Nobody accepted the quote after its last day, and a supplement went to its own work order. -/
def Decision.Valid (db₀ : Warehouse) (e : Decision) : Prop :=
  ∀ quote, db₀.quotes.get e.quoteId = some quote → ∀ workOrderId, e.outcome = .accepted workOrderId →
    quote.validUntil.all (e.time ≤ ·) = true ∧
      ∀ id, quote.supplemented = some id → workOrderId = id

/-- Each quote is decided once, if it was sent, and in time if it is accepted; there are the work
orders, tasks and reservations of the accepted quotes, once each, and no others. -/
structure OneDecision (db₀ : Warehouse) (s : QuoteStore) : Prop where
  once : (s.log.map Decision.quoteId).Nodup
  known : ∀ e ∈ s.log, ∃ quote, db₀.quotes.get e.quoteId = some quote ∧ quote.status = .sent
  valid : ∀ e ∈ s.log, e.Valid db₀
  orders : s.db.workOrders.rows.map WorkOrder.id =
    db₀.workOrders.rows.map WorkOrder.id ++ s.log.flatMap (Decision.orders db₀)
  tasks : s.db.tasks.rows.map WorkOrderTask.line =
    db₀.tasks.rows.map WorkOrderTask.line ++ s.log.flatMap (Decision.tasks db₀)
  reservations : s.db.reservations.rows.map PartReservation.line =
    db₀.reservations.rows.map PartReservation.line ++ s.log.flatMap (Decision.reservations db₀)

/-! ## What holds in every interleaving -/

/-- The quotes that are still sent are as they were, undecided, and none of them was outdated when
the worker came by last. -/
structure QuotesSound (db₀ : Warehouse) (s : QuoteStore) : Prop extends OneDecision db₀ s where
  quoteItems : s.db.quoteItems = db₀.quoteItems
  spareParts : s.db.spareParts = db₀.spareParts
  sent : ∀ q ∈ s.db.quotes, q.status = .sent →
    db₀.quotes.get q.id = some q ∧ ∀ e ∈ s.log, e.quoteId ≠ q.id
  current : ∀ q ∈ s.db.quotes, q.status = .sent → ∀ u, q.validUntil = some u →
    ∀ t, s.lastExpiry = some t → t ≤ u

/-- The transaction holds the quote, which is still sent. -/
structure HoldsQuote (i : Nat) (s : QuoteStore) (q : WorkshopQuote) : Prop where
  lock : s.locks (.quote q.id) = some i
  mem : q ∈ s.db.quotes
  sent : q.status = .sent

/-- What an acceptance knows of the quote it holds. -/
structure Accepting.Knows (i : Nat) (s : QuoteStore) (a : Accepting) (time : Instant)
    (q : WorkshopQuote) : Prop where
  holds : HoldsQuote i s q
  id : q.id = a.quoteId
  tenant : q.tenantId = a.tenantId
  valid : q.validUntil.all (time ≤ ·) = true

/-- What an acceptance is about to write is what the quote asks for. -/
structure WorkSound (db₀ : Warehouse) (i : Nat) (s : QuoteStore) (w : AcceptWork)
    (todo : List WorkshopQuoteItem) : Prop where
  quote : Accepting.Knows i s w.request w.time w.quote
  items : w.items = db₀.itemsOf w.quote.tenantId w.quote.id
  target : w.target.Suits w.quote
  lines : w.lines.map ReservationLine.demand ++ todo.filterMap (db₀.demand w.quote.tenantId) =
    (db₀.partItems w.quote.tenantId w.quote.id).filterMap (db₀.demand w.quote.tenantId)

def QuoteParty (db₀ : Warehouse) (i : Nat) (s : QuoteStore) : QuotePhase → Prop
  | .idle => True
  | .locked a time q => Accepting.Knows i s a time q
  | .itemized a time q items => Accepting.Knows i s a time q ∧ items = db₀.itemsOf q.tenantId q.id
  | .targeted w => w.lines = [] ∧
    WorkSound db₀ i s w (db₀.partItems w.quote.tenantId w.quote.id)
  | .reserving w todo => WorkSound db₀ i s w todo
  | .rejecting _ _ q => db₀.quotes.get q.id = some q
  | .rejected _ _ q => HoldsQuote i s q
  | .expiring time todo marked => (marked ++ todo).Nodup ∧
    (∀ id ∈ marked, ∃ q, HoldsQuote i s q ∧ q.id = id) ∧
    ∀ q ∈ s.db.quotes, q.outdated time = true → q.id ∈ marked ++ todo

/-- What is left to party `j`: the rows it holds. No quote becomes sent. -/
structure LeavesQuotes (j : Nat) (s s' : QuoteStore) : Prop where
  locks : ∀ row, s.locks row = some j → s'.locks row = some j
  rows : ∀ q ∈ s.db.quotes, s.locks (.quote q.id) = some j → q ∈ s'.db.quotes
  sent : ∀ q ∈ s'.db.quotes, q.status = .sent → q ∈ s.db.quotes

section Leaves

variable {db₀ : Warehouse} {i j : Nat} {s s' : QuoteStore} {p : QuotePhase}

theorem HoldsQuote.leaves {q : WorkshopQuote} (h : HoldsQuote j s q) (hu : LeavesQuotes j s s') :
    HoldsQuote j s' q :=
  ⟨hu.locks _ h.lock, hu.rows q h.mem h.lock, h.sent⟩

theorem Accepting.Knows.leaves {a : Accepting} {time : Instant} {q : WorkshopQuote}
    (h : Accepting.Knows j s a time q) (hu : LeavesQuotes j s s') : Accepting.Knows j s' a time q :=
  ⟨h.holds.leaves hu, h.id, h.tenant, h.valid⟩

theorem WorkSound.leaves {w : AcceptWork} {todo : List WorkshopQuoteItem}
    (h : WorkSound db₀ j s w todo) (hu : LeavesQuotes j s s') : WorkSound db₀ j s' w todo :=
  ⟨h.quote.leaves hu, h.items, h.target, h.lines⟩

theorem outdated_sent {q : WorkshopQuote} {time : Instant} (h : q.outdated time = true) :
    q.status = .sent := by
  simp only [WorkshopQuote.outdated, Bool.and_eq_true, decide_eq_true_eq] at h
  exact h.1

theorem QuoteParty.leaves (h : QuoteParty db₀ j s p) (hu : LeavesQuotes j s s') :
    QuoteParty db₀ j s' p := by
  cases p with
  | idle => trivial
  | locked a time q => exact Accepting.Knows.leaves h hu
  | itemized a time q items => exact ⟨h.1.leaves hu, h.2⟩
  | targeted w => exact ⟨h.1, h.2.leaves hu⟩
  | reserving w todo => exact WorkSound.leaves h hu
  | rejecting r time q => exact h
  | rejected r time q => exact HoldsQuote.leaves h hu
  | expiring time todo marked =>
    obtain ⟨hnodup, hmarked, hall⟩ := h
    refine ⟨hnodup, fun id hid => ?_, fun q hq hout => ?_⟩
    · obtain ⟨q, hq, heq⟩ := hmarked id hid
      exact ⟨q, hq.leaves hu, heq⟩
    · exact hall q (hu.sent q hq (outdated_sent hout)) hout

theorem leaves_of_locks (hj : j ≠ i) (hdb : s'.db = s.db)
    (hlocks : s'.locks = s.locks ∨ s'.locks = s.locks.release i ∨
      ∃ row, s.locks.available i row = true ∧ s'.locks = s.locks.take i row) :
    LeavesQuotes j s s' where
  locks row hrow := by
    rcases hlocks with h | h | ⟨row', havail, h⟩
    · rw [h]; exact hrow
    · rw [h]; exact Locks.release_of_ne hrow hj
    · rw [h]; exact Locks.take_of_ne hrow hj havail
  rows q hq _ := by rw [hdb]; exact hq
  sent q hq _ := by rw [hdb] at hq; exact hq

/-- What is still sent after an update that leaves nothing sent, it has not met. -/
theorem sent_of_modify {quotes quotes' : Table WorkshopQuote} {p : WorkshopQuote → Bool}
    {f : WorkshopQuote → WorkshopQuote}
    (hrows : quotes'.rows = quotes.rows.map fun q => if p q then f q else q)
    (hf : ∀ q, (f q).status ≠ .sent) {q : WorkshopQuote} (hq : q ∈ quotes')
    (hsent : q.status = .sent) : q ∈ quotes ∧ p q = false := by
  rw [Table.mem_def, hrows] at hq
  obtain ⟨q₀, hq₀, rfl⟩ := List.mem_map.mp hq
  split at hsent
  · exact absurd hsent (hf q₀)
  · next hp =>
    rw [if_neg hp]
    exact ⟨hq₀, Bool.eq_false_iff.mpr hp⟩

/-- An update of quotes that the mover holds, none of which it leaves sent. -/
theorem leaves_of_modify (hj : j ≠ i) (hlocks : s'.locks = s.locks.release i)
    {p : WorkshopQuote → Bool} {f : WorkshopQuote → WorkshopQuote}
    (hrows : s'.db.quotes.rows = s.db.quotes.rows.map fun q => if p q then f q else q)
    (hf : ∀ q, (f q).status ≠ .sent)
    (hheld : ∀ q ∈ s.db.quotes, p q = true → s.locks (.quote q.id) = some i) :
    LeavesQuotes j s s' where
  locks row hrow := by
    rw [hlocks]
    exact Locks.release_of_ne hrow hj
  rows q hq hlock := by
    rw [Table.mem_def, hrows]
    refine List.mem_map.mpr ⟨q, hq, if_neg fun hp => ?_⟩
    have hmine := hheld q hq hp
    rw [hlock] at hmine
    exact hj (Option.some.inj hmine)
  sent q hq hstatus := (sent_of_modify hrows hf hq hstatus).1

end Leaves

/-! ## One turn -/

/-- A rejection updates a quote that is still sent, and an acceptance after the last day of a quote
comes after the worker has seen that day pass. -/
def timelyTurn (s : QuoteStore) (act : QuoteAction) (p : QuotePhase) : Bool :=
  match act, p with
  | .accept a, _ => (s.db.quotes.get a.quoteId).all fun q => q.validUntil.all fun u =>
    s.clock ≤ u || s.lastExpiry.any (u < ·)
  | .update, .rejecting _ _ q => (s.db.quotes.get q.id).any (·.status = .sent)
  | _, _ => true

section Turn

variable {db₀ : Warehouse} {i j : Nat} {act : QuoteAction} {s s' : QuoteStore} {p p' : QuotePhase}

theorem QuoteStep.leaves (h : QuoteStep i s act p s' p') (hp : QuoteParty db₀ i s p) (hj : j ≠ i) :
    LeavesQuotes j s s' := by
  cases h with
  | ended => exact leaves_of_locks hj rfl (.inr (.inl rfl))
  | locked a quote hget htenant hsent havail =>
    exact leaves_of_locks hj rfl (.inr (.inr ⟨_, havail, rfl⟩))
  | numbered a time quote items target row hsuits havail =>
    exact leaves_of_locks hj rfl (.inr (.inr ⟨_, havail, rfl⟩))
  | reserved w qi todo inv hpart havail =>
    exact leaves_of_locks hj rfl (.inr (.inr ⟨_, havail, rfl⟩))
  | updated r time quote havail => exact leaves_of_locks hj rfl (.inr (.inr ⟨_, havail, rfl⟩))
  | marked time id todo marked quote hget hout havail =>
    exact leaves_of_locks hj rfl (.inr (.inr ⟨_, havail, rfl⟩))
  | accepted w db hwrite =>
    have hw : WorkSound db₀ i s w [] := hp
    obtain ⟨_, _, hquotes⟩ := (writes_of_write hw.target hwrite).quotes
    refine leaves_of_modify hj rfl (congrArg Table.rows hquotes) (fun _ => nofun) fun q _ hid => ?_
    rw [show q.id = w.quote.id from beq_iff_eq.mp hid]
    exact hw.quote.holds.lock
  | rejected r time quote =>
    refine leaves_of_modify hj rfl rfl (fun _ => nofun) fun q _ hid => ?_
    rw [show q.id = quote.id from beq_iff_eq.mp hid]
    exact HoldsQuote.lock hp
  | expired time marked =>
    refine leaves_of_modify hj rfl rfl (fun _ => nofun) fun q _ hid => ?_
    obtain ⟨q', hq', heq⟩ := hp.2.1 q.id (List.contains_iff_mem.mp hid)
    rw [← heq]
    exact hq'.lock
  | _ => exact leaves_of_locks hj rfl (.inl rfl)

theorem QuotesSound.of_eq (hs : QuotesSound db₀ s) (hdb : s'.db = s.db) (hlog : s'.log = s.log)
    (hexpiry : s'.lastExpiry = s.lastExpiry) : QuotesSound db₀ s' where
  once := by rw [hlog]; exact hs.once
  known := by rw [hlog]; exact hs.known
  valid := by rw [hlog]; exact hs.valid
  orders := by rw [hdb, hlog]; exact hs.orders
  tasks := by rw [hdb, hlog]; exact hs.tasks
  reservations := by rw [hdb, hlog]; exact hs.reservations
  quoteItems := by rw [hdb]; exact hs.quoteItems
  spareParts := by rw [hdb]; exact hs.spareParts
  sent := by rw [hdb, hlog]; exact hs.sent
  current := by rw [hdb, hexpiry]; exact hs.current

/-- Decisions about different quotes that were sent, and what they bring. -/
theorem QuotesSound.decide (hs : QuotesSound db₀ s) {es : List Decision}
    (hlog : s'.log = s.log ++ es) (hnodup : (es.map Decision.quoteId).Nodup)
    (hes : ∀ e ∈ es, ∃ q ∈ s.db.quotes, q.id = e.quoteId ∧ q.status = .sent)
    (hsent : ∀ q ∈ s'.db.quotes, q.status = .sent →
      q ∈ s.db.quotes ∧ ∀ e ∈ es, e.quoteId ≠ q.id)
    (hitems : s'.db.quoteItems = s.db.quoteItems) (hparts : s'.db.spareParts = s.db.spareParts)
    (hvalid : ∀ e ∈ es, e.Valid db₀)
    (horders : s'.db.workOrders.rows.map WorkOrder.id =
      s.db.workOrders.rows.map WorkOrder.id ++ es.flatMap (Decision.orders db₀))
    (htasks : s'.db.tasks.rows.map WorkOrderTask.line =
      s.db.tasks.rows.map WorkOrderTask.line ++ es.flatMap (Decision.tasks db₀))
    (hreservations : s'.db.reservations.rows.map PartReservation.line =
      s.db.reservations.rows.map PartReservation.line ++ es.flatMap (Decision.reservations db₀))
    (hcurrent : ∀ q ∈ s'.db.quotes, q.status = .sent → ∀ u, q.validUntil = some u →
      ∀ t, s'.lastExpiry = some t → t ≤ u) : QuotesSound db₀ s' where
  once := by
    rw [hlog, List.map_append, List.nodup_append]
    refine ⟨hs.once, hnodup, ?_⟩
    intro x hx y hy
    obtain ⟨e, he, rfl⟩ := List.mem_map.mp hx
    obtain ⟨e', he', rfl⟩ := List.mem_map.mp hy
    obtain ⟨q, hq, hid, hstatus⟩ := hes e' he'
    rw [← hid]
    exact (hs.sent q hq hstatus).2 e he
  known e he := by
    rw [hlog] at he
    rcases List.mem_append.mp he with he | he
    · exact hs.known e he
    · obtain ⟨q, hq, hid, hstatus⟩ := hes e he
      exact ⟨q, by rw [← hid]; exact (hs.sent q hq hstatus).1, hstatus⟩
  valid e he := by
    rw [hlog] at he
    exact (List.mem_append.mp he).elim (hs.valid e) (hvalid e)
  orders := by rw [horders, hs.orders, hlog, List.flatMap_append, List.append_assoc]
  tasks := by rw [htasks, hs.tasks, hlog, List.flatMap_append, List.append_assoc]
  reservations := by
    rw [hreservations, hs.reservations, hlog, List.flatMap_append, List.append_assoc]
  quoteItems := hitems.trans hs.quoteItems
  spareParts := hparts.trans hs.spareParts
  sent q hq hstatus := by
    obtain ⟨hq, hnew⟩ := hsent q hq hstatus
    obtain ⟨hget, hold⟩ := hs.sent q hq hstatus
    refine ⟨hget, fun e he => ?_⟩
    rw [hlog] at he
    exact (List.mem_append.mp he).elim (hold e) (hnew e)
  current := hcurrent

theorem flatMap_of_not_accepted (db₀ : Warehouse) (es : List Decision)
    (h : ∀ e ∈ es, ∀ workOrderId, e.outcome ≠ .accepted workOrderId) :
    es.flatMap (Decision.orders db₀) = [] ∧ es.flatMap (Decision.tasks db₀) = [] ∧
      es.flatMap (Decision.reservations db₀) = [] ∧ ∀ e ∈ es, e.Valid db₀ := by
  have hnone : ∀ e ∈ es, e.orders db₀ = [] ∧ e.tasks db₀ = [] ∧ e.reservations db₀ = [] := by
    intro e he
    have hne := h e he
    unfold Decision.orders Decision.tasks Decision.reservations
    cases hout : e.outcome with
    | accepted workOrderId => exact absurd hout (hne workOrderId)
    | rejected => exact ⟨rfl, rfl, rfl⟩
    | expired => exact ⟨rfl, rfl, rfl⟩
  simp only [List.flatMap_eq_nil_iff]
  exact ⟨fun e he => (hnone e he).1, fun e he => (hnone e he).2.1, fun e he => (hnone e he).2.2,
    fun e he quote _ workOrderId hacc => absurd hacc (h e he workOrderId)⟩

theorem QuotesSound.accept (hs : QuotesSound db₀ s) {w : AcceptWork} {db : Warehouse}
    (hw : WorkSound db₀ i s w []) (hwrite : w.write s.db = .ok db) {locks : Locks QuoteRow} :
    QuotesSound db₀ { s with
      db, log := s.log ++ [⟨w.quote.id, w.time, .accepted (w.orderId s.db)⟩], locks } := by
  have hmem := hw.quote.holds.mem
  have hstatus := hw.quote.holds.sent
  have hget := (hs.sent w.quote hmem hstatus).1
  have ha := writes_of_write hw.target hwrite
  obtain ⟨_, _, hquotes⟩ := ha.quotes
  have hlines : w.lines.map ReservationLine.demand = _ := (List.append_nil _).symm.trans hw.lines
  have hsent : ∀ q ∈ db.quotes, q.status = .sent → q ∈ s.db.quotes ∧ w.quote.id ≠ q.id := by
    intro q hq hq'
    obtain ⟨hq, hne⟩ := sent_of_modify (congrArg Table.rows hquotes) (fun _ => nofun) hq hq'
    exact ⟨hq, fun hid => beq_eq_false_iff_ne.mp hne hid.symm⟩
  refine hs.decide rfl (List.nodup_singleton _) ?_ ?_ ha.quoteItems ha.spareParts ?_ ?_ ?_ ?_ ?_
  · intro e he
    rw [List.mem_singleton.mp he]
    exact ⟨_, hmem, rfl, hstatus⟩
  · intro q hq hq'
    refine ⟨(hsent q hq hq').1, fun e he => ?_⟩
    rw [List.mem_singleton.mp he]
    exact (hsent q hq hq').2
  · intro e he quote hquote workOrderId hacc
    rw [List.mem_singleton.mp he] at hquote hacc ⊢
    rw [hget] at hquote
    cases hquote
    cases hacc
    refine ⟨hw.quote.valid, fun id hid => ?_⟩
    have hsuits := hw.target
    unfold AcceptWork.orderId
    cases htarget : w.target with
    | existing workOrderId =>
      rw [htarget] at hsuits
      exact Option.some.inj ((show _ = _ from hsuits).symm.trans hid)
    | new key seq number =>
      rw [htarget] at hsuits
      rw [show w.quote.supplemented = none from hsuits] at hid
      cases hid
  · rw [ha.workOrders, List.flatMap_singleton, Decision.orders, hget]
  · rw [ha.tasks, List.flatMap_singleton, Decision.tasks, hget, hw.items]
  · rw [ha.reservations, List.flatMap_singleton, Decision.reservations, hget, hlines]
  · intro q hq hq'
    exact hs.current q (hsent q hq hq').1 hq'

theorem QuotesSound.reject (hs : QuotesSound db₀ s) {q : WorkshopQuote} (hq : HoldsQuote i s q)
    (reason : Option String) {time : Instant} {locks : Locks QuoteRow} :
    QuotesSound db₀ { s with
      db := markRejected q reason s.db, log := s.log ++ [⟨q.id, time, .rejected⟩], locks } := by
  have hsent : ∀ q' ∈ (markRejected q reason s.db).quotes, q'.status = .sent →
      q' ∈ s.db.quotes ∧ q.id ≠ q'.id := by
    intro q' hq' hstatus
    obtain ⟨hq', hne⟩ := sent_of_modify rfl (by exact fun _ => nofun) hq' hstatus
    exact ⟨hq', fun hid => beq_eq_false_iff_ne.mp hne hid.symm⟩
  obtain ⟨horders, htasks, hreservations, hvalid⟩ :=
    flatMap_of_not_accepted db₀ [⟨q.id, time, .rejected⟩] (by
      intro e he workOrderId hacc
      rw [List.mem_singleton.mp he] at hacc
      cases hacc)
  refine hs.decide rfl (List.nodup_singleton _) ?_ ?_ rfl rfl hvalid ?_ ?_ ?_ ?_
  · intro e he
    rw [List.mem_singleton.mp he]
    exact ⟨q, hq.mem, rfl, hq.sent⟩
  · intro q' hq' hstatus
    refine ⟨(hsent q' hq' hstatus).1, fun e he => ?_⟩
    rw [List.mem_singleton.mp he]
    exact (hsent q' hq' hstatus).2
  · rw [horders, List.append_nil]; rfl
  · rw [htasks, List.append_nil]; rfl
  · rw [hreservations, List.append_nil]; rfl
  · intro q' hq' hstatus
    exact hs.current q' (hsent q' hq' hstatus).1 hstatus

theorem QuotesSound.expire (hs : QuotesSound db₀ s) {time : Instant} {marked : List UUID}
    (hp : QuoteParty db₀ i s (.expiring time [] marked)) {locks : Locks QuoteRow} :
    QuotesSound db₀ { s with
      db := expireMarked marked s.db
      lastExpiry := some (max (s.lastExpiry.getD time) time)
      log := s.log ++ marked.map fun id => ⟨id, time, .expired⟩
      locks } := by
  obtain ⟨hnodup, hheld, hall⟩ := hp
  simp only [List.append_nil] at hnodup hall
  have hsent : ∀ q ∈ (expireMarked marked s.db).quotes, q.status = .sent →
      q ∈ s.db.quotes ∧ q.id ∉ marked := by
    intro q hq hstatus
    obtain ⟨hq, hnot⟩ := sent_of_modify rfl (by exact fun _ => nofun) hq hstatus
    refine ⟨hq, fun hid => ?_⟩
    rw [List.contains_iff_mem.mpr hid] at hnot
    cases hnot
  have hids : (marked.map fun id => (⟨id, time, .expired⟩ : Decision)).map Decision.quoteId =
      marked := by
    rw [List.map_map]
    exact List.map_id _
  obtain ⟨horders, htasks, hreservations, hvalid⟩ :=
    flatMap_of_not_accepted db₀ (marked.map fun id => ⟨id, time, .expired⟩) (by
      intro e he workOrderId hacc
      obtain ⟨id, _, rfl⟩ := List.mem_map.mp he
      cases hacc)
  refine hs.decide rfl (by rw [hids]; exact hnodup) ?_ ?_ rfl rfl hvalid ?_ ?_ ?_ ?_
  · intro e he
    obtain ⟨id, hid, rfl⟩ := List.mem_map.mp he
    obtain ⟨q, hq, heq⟩ := hheld id hid
    exact ⟨q, hq.mem, heq, hq.sent⟩
  · intro q hq hstatus
    refine ⟨(hsent q hq hstatus).1, fun e he heq => ?_⟩
    obtain ⟨id, hid, rfl⟩ := List.mem_map.mp he
    exact (hsent q hq hstatus).2 (by rw [← heq]; exact hid)
  · rw [horders, List.append_nil]; rfl
  · rw [htasks, List.append_nil]; rfl
  · rw [hreservations, List.append_nil]; rfl
  · intro q hq hstatus u hu t ht
    obtain ⟨hq, hnot⟩ := hsent q hq hstatus
    cases ht
    have htime : time ≤ u := by
      by_contra hlt
      refine hnot (hall q hq ?_)
      simp only [WorkshopQuote.outdated, hstatus, hu, Option.any_some, decide_true, Bool.true_and,
        decide_eq_true_eq]
      exact not_le.mp hlt
    refine max_le ?_ htime
    cases hlast : s.lastExpiry with
    | none => exact htime
    | some t => exact hs.current q hq hstatus u hu t hlast

theorem QuoteStep.sound (h : QuoteStep i s act p s' p') (hs : QuotesSound db₀ s)
    (hp : QuoteParty db₀ i s p) : QuotesSound db₀ s' := by
  cases h with
  | accepted w db hwrite => exact hs.accept hp hwrite
  | rejected r time quote => exact hs.reject hp r.reason
  | expired time marked => exact hs.expire hp
  | _ => exact hs.of_eq rfl rfl rfl

/-- The mover keeps its rows when it takes one more, and when time passes. -/
theorem leaves_own (hdb : s'.db = s.db)
    (hlocks : ∀ row, s.locks row = some i → s'.locks row = some i) : LeavesQuotes i s s' :=
  ⟨hlocks, fun q hq _ => by rw [hdb]; exact hq, fun q hq _ => by rw [hdb] at hq; exact hq⟩

theorem partOf_congr (h : s.db.spareParts = db₀.spareParts) : s.db.partOf = db₀.partOf := by
  unfold Warehouse.partOf Warehouse.part
  rw [h]

theorem itemsOf_congr (h : s.db.quoteItems = db₀.quoteItems) : s.db.itemsOf = db₀.itemsOf := by
  unfold Warehouse.itemsOf
  rw [h]

/-- A quote that is still sent is read before its last day is over. -/
theorem valid_of_timely {a : Accepting} {q : WorkshopQuote} (hs : QuotesSound db₀ s)
    (hget : s.db.quotes.get a.quoteId = some q) (hsent : q.status = .sent)
    (htimely : timelyTurn s (.accept a) .idle = true) :
    q.validUntil.all (s.clock ≤ ·) = true := by
  simp only [timelyTurn, hget, Option.all_some] at htimely
  cases hu : q.validUntil with
  | none => rfl
  | some u =>
    rw [hu, Option.all_some, Bool.or_eq_true, decide_eq_true_eq, Option.any_eq_true] at htimely
    rw [Option.all_some, decide_eq_true_eq]
    rcases htimely with hle | ⟨t, ht, hlt⟩
    · exact hle
    · have hcurrent := hs.current q (Table.mem_of_get hget) hsent u hu t ht
      exact absurd (of_decide_eq_true hlt) (not_lt.mpr hcurrent)

/-- A quote that is still sent is as the rejection has read it. -/
theorem holds_of_timely {r : Rejecting} {time : Instant} {q : WorkshopQuote} {locks : Locks QuoteRow}
    (hs : QuotesSound db₀ s) (hp : db₀.quotes.get q.id = some q)
    (htimely : timelyTurn s .update (.rejecting r time q) = true)
    (hlock : locks (.quote q.id) = some i) : HoldsQuote i { s with locks } q := by
  simp only [timelyTurn, Option.any_eq_true, decide_eq_true_eq] at htimely
  obtain ⟨q', hget, hsent⟩ := htimely
  have hid : q'.id = q.id := Table.key_of_get hget
  have hmem := Table.mem_of_get hget
  have hget₀ := (hs.sent q' hmem hsent).1
  rw [hid, hp] at hget₀
  cases hget₀
  exact ⟨hlock, hmem, hsent⟩

theorem WorkSound.reserve {w : AcceptWork} {qi : WorkshopQuoteItem} {todo : List WorkshopQuoteItem}
    {inv : SparePart} (hw : WorkSound db₀ i s w (qi :: todo)) (hs : QuotesSound db₀ s)
    (hpart : s.db.partOf w.request.tenantId qi = some inv) :
    WorkSound db₀ i s (w.reserve qi inv s.db) todo where
  quote := hw.quote
  items := hw.items
  target := hw.target
  lines := by
    have hdemand : db₀.demand w.quote.tenantId qi = some (inv.id, 10 * qi.quantity) := by
      rw [Warehouse.demand, hw.quote.tenant, ← partOf_congr hs.spareParts, hpart]
      rfl
    have hlines := hw.lines
    rw [List.filterMap_cons_some hdemand] at hlines
    dsimp only [AcceptWork.reserve]
    rw [← hlines, List.map_append, List.append_assoc]
    rfl

theorem QuoteStep.party (h : QuoteStep i s act p s' p') (hs : QuotesSound db₀ s)
    (hp : QuoteParty db₀ i s p) (htimely : timelyTurn s act p = true) :
    QuoteParty db₀ i s' p' := by
  cases h with
  | ended => trivial
  | locked a quote hget htenant hsent havail =>
    have hid : quote.id = a.quoteId := Table.key_of_get hget
    refine ⟨⟨?_, Table.mem_of_get hget, hsent⟩, hid, htenant, valid_of_timely hs hget hsent htimely⟩
    rw [hid]
    exact Locks.take_self
  | itemized a time quote =>
    have hk : Accepting.Knows i s a time quote := hp
    exact ⟨hk, by rw [itemsOf_congr hs.quoteItems, hk.tenant, hk.id]⟩
  | supplement a time quote items target hsuits =>
    exact ⟨rfl, hp.1, hp.2, hsuits, rfl⟩
  | numbered a time quote items target row hsuits havail =>
    exact ⟨rfl, hp.1.leaves (leaves_own rfl fun _ => Locks.take_of_own), hp.2, hsuits, rfl⟩
  | listed w =>
    have hk := hp.2.quote
    have hparts : s.db.partItems w.request.tenantId w.request.quoteId =
        db₀.partItems w.quote.tenantId w.quote.id := by
      rw [Warehouse.partItems, Warehouse.partItems, itemsOf_congr hs.quoteItems, hk.tenant, hk.id]
    rw [hparts]
    exact hp.2
  | skipped w qi todo hpart =>
    have hw : WorkSound db₀ i s w (qi :: todo) := hp
    have hdemand : db₀.demand w.quote.tenantId qi = none := by
      rw [Warehouse.demand, hw.quote.tenant, ← partOf_congr hs.spareParts, hpart]
      rfl
    exact ⟨hw.quote, hw.items, hw.target, by rw [← hw.lines, List.filterMap_cons_none hdemand]⟩
  | reserved w qi todo inv hpart havail =>
    have hw : WorkSound db₀ i s w (qi :: todo) := hp
    exact (hw.reserve hs hpart).leaves (leaves_own rfl fun _ => Locks.take_of_own)
  | accepted => trivial
  | rejecting r quote hget hsent => exact (hs.sent quote (Table.mem_of_get hget) hsent).1
  | updated r time quote havail => exact holds_of_timely hs hp htimely Locks.take_self
  | rejected => trivial
  | expiring =>
    refine ⟨?_, fun id hid => absurd hid List.not_mem_nil, fun q hq hout => ?_⟩
    · rw [List.nil_append]
      exact s.db.quotes.nodup.sublist (List.filter_sublist.map _)
    · rw [List.nil_append]
      exact List.mem_map_of_mem (List.mem_filter.mpr ⟨hq, hout⟩)
  | marked time id todo marked quote hget hout havail =>
    obtain ⟨hnodup, hmarked, hall⟩ := hp
    have hid : quote.id = id := Table.key_of_get hget
    have hsame : marked ++ [id] ++ todo = marked ++ id :: todo := by simp
    refine ⟨by rw [hsame]; exact hnodup, fun id' hid' => ?_, by rw [hsame]; exact hall⟩
    rcases List.mem_append.mp hid' with hid' | hid'
    · obtain ⟨q, hq, heq⟩ := hmarked id' hid'
      exact ⟨q, hq.leaves (leaves_own rfl fun _ => Locks.take_of_own), heq⟩
    · rw [List.mem_singleton.mp hid']
      refine ⟨quote, ⟨?_, Table.mem_of_get hget, outdated_sent hout⟩, hid⟩
      rw [hid]
      exact Locks.take_self
  | passed time id todo marked hnot =>
    obtain ⟨hnodup, hmarked, hall⟩ := hp
    refine ⟨hnodup.sublist (List.Sublist.append_left (List.sublist_cons_self _ _) _), hmarked,
      fun q hq hout => ?_⟩
    rcases List.mem_append.mp (hall q hq hout) with hmem | hmem
    · exact List.mem_append_left _ hmem
    · rcases List.mem_cons.mp hmem with heq | hmem
      · rw [← heq, show s.db.quotes.get q.id = some q from Table.get_of_mem hq, Option.any_some,
          hout] at hnot
        cases hnot
      · exact List.mem_append_right _ hmem
  | expired => trivial
  | ticked now => exact hp.leaves (leaves_own rfl fun _ h => h)

end Turn

/-! ## Every interleaving -/

def Timely (c : Config QuoteStore QuotePhase) (m : Nat × QuoteAction) : Prop :=
  timelyTurn c.store m.2 (c.parties m.1) = true

instance (c : Config QuoteStore QuotePhase) (m : Nat × QuoteAction) : Decidable (Timely c m) :=
  inferInstanceAs (Decidable (_ = _))

theorem quotesSound_start (db₀ : Warehouse) (clock : Instant) :
    QuotesSound db₀ { db := db₀, clock } where
  once := List.nodup_nil
  known _ he := absurd he List.not_mem_nil
  valid _ he := absurd he List.not_mem_nil
  orders := (List.append_nil _).symm
  tasks := (List.append_nil _).symm
  reservations := (List.append_nil _).symm
  quoteItems := rfl
  spareParts := rfl
  sent _ hq _ := ⟨Table.get_of_mem hq, fun _ he => absurd he List.not_mem_nil⟩
  current _ _ _ _ _ _ ht := nomatch ht

theorem holds_quoteRun (db₀ : Warehouse) (clock : Instant) {ms : List (Nat × QuoteAction)}
    (h : Run.Along (move quoteTurn) Timely (quoteStart db₀ clock) ms) :
    Holds (QuotesSound db₀) (QuoteParty db₀) (quoteRun db₀ clock ms) := by
  refine holds_run ?_ ?_ ⟨quotesSound_start db₀ clock, fun _ => trivial⟩ h
  · intro c i act s p hI htimely hturn
    have hstep := quoteStep_of_turn hturn
    exact ⟨hstep.sound hI.store (hI.party i), hstep.party hI.store (hI.party i) htimely⟩
  · intro c i act s p hI htimely hturn j hj
    exact (hI.party j).leaves ((quoteStep_of_turn hturn).leaves (hI.party i) hj)

/-- In every interleaving of timely acceptances, rejections and expiries each quote is decided at
most once and only accepted while it is valid, and its work order, tasks and reservations are made
once. -/
theorem quotes_decided_once (db₀ : Warehouse) (clock : Instant) (ms : List (Nat × QuoteAction))
    (h : Run.Along (move quoteTurn) Timely (quoteStart db₀ clock) ms) :
    OneDecision db₀ (quoteRun db₀ clock ms).store :=
  (holds_quoteRun db₀ clock h).store.toOneDecision

/-- A quote of one repair and one part, valid until the instant 100. -/
private def quotedRepair : Warehouse where
  quotes := .single { id := 1, tenantId := 7, status := .sent, validUntil := some 100 }
  quoteItems := (Table.single { id := 1, tenantId := 7, quoteId := 1, description := "Travões" }).insert
    fun id => { id, tenantId := 7, quoteId := 1, itemType := .part, partId := some 3 }
  spareParts := .single { id := 3, tenantId := 7, currentQuantity := 5000 }

private def acceptance (i : Nat) : List (Nat × QuoteAction) :=
  [.accept { tenantId := 7, quoteId := 1 }, .readItems, .readTarget, .readParts, .reservePart,
    .commit].map (i, ·)

/-- Two acceptances and an expiry: the first one is the decision. -/
theorem quotes_decided_once_accepted :
    let ms := (0, .tick 50) :: acceptance 1 ++ acceptance 2 ++
      [(3, .tick 200), (3, .expire), (3, .commit)]
    Run.Along (move quoteTurn) Timely (quoteStart quotedRepair 0) ms ∧
      (quoteRun quotedRepair 0 ms).store.log = [⟨1, 50, .accepted 1⟩] ∧
      OneDecision quotedRepair (quoteRun quotedRepair 0 ms).store :=
  ⟨by decide, by decide, quotes_decided_once _ _ _ (by decide)⟩

/-- Nobody asks an acceptance for the time: this one comes fifty too late. -/
example : (quoteRun quotedRepair 150 (acceptance 1)).store.log = [⟨1, 150, .accepted 1⟩] := by decide

/-- An acceptance between the read and the update of a rejection: both take effect. -/
theorem accepted_and_rejected : ¬ ∀ db₀ clock ms, OneDecision db₀ (quoteRun db₀ clock ms).store := by
  intro h
  have honce := (h quotedRepair 50 ((0, .reject { tenantId := 7, quoteId := 1 }) :: acceptance 1 ++
    [(0, .update), (0, .commit)])).once
  revert honce
  decide

end Rotas
