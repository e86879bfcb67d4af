import Rotas.Trips.Operations

/-!
# Rotas.Drivers.Settlements

Cash advances to drivers, and the settlement of a trip: what was advanced against what it cost.

* `CashDesk` — the fleet's database with advances and settlements.
* `issueAdvance`, `voidAdvance` — an advance, one for each trip.
* `computeSettlement`, `approveSettlement`, `rejectSettlement` — the settlement of a trip.
* `DeskCall` — a call of a run, of this module or of the trips.
-/

namespace Rotas

open Work Decimal

/-! ## Rows -/

inductive AdvanceStatus where
  | issued | settled | voided
  deriving DecidableEq

inductive SettlementStatus where
  | pending | approved | rejected
  deriving DecidableEq

def SettlementStatus.text : SettlementStatus → String
  | .pending => "pending"
  | .approved => "approved"
  | .rejected => "rejected"

structure DriverAdvance where
  id : UUID
  tenantId : UUID
  tripId : UUID
  driverId : UUID
  amountMzn : Int
  allowanceMzn : Int := 0
  expensesMzn : Int := 0
  currency : String := "MZN"
  status : AdvanceStatus := .issued
  issuedBy : Option UUID := none
  issuedAt : Instant
  notes : Option String := none
  requestReference : Option String := none

structure TripSettlement where
  id : UUID
  tenantId : UUID
  tripId : UUID
  advanceId : Option UUID := none
  totalCostsMzn : Int
  advanceAmountMzn : Int := 0
  balanceMzn : Int
  status : SettlementStatus := .pending
  approvedBy : Option UUID := none
  approvedAt : Option Instant := none
  rejectionReason : Option String := none
  settledAt : Instant

instance : Keyed DriverAdvance := ⟨DriverAdvance.id⟩
instance : Keyed TripSettlement := ⟨TripSettlement.id⟩

structure CashDesk extends Fleet where
  driverAdvances : Table DriverAdvance := ∅
  tripSettlements : Table TripSettlement := ∅

def DriverAdvance.ok (a : DriverAdvance) : Bool :=
  decide (0 < a.amountMzn) && [a.amountMzn, a.allowanceMzn, a.expensesMzn].all fun x =>
    decide (|x| < 10 ^ 10)

def TripSettlement.ok (s : TripSettlement) : Bool :=
  [s.totalCostsMzn, s.advanceAmountMzn, s.balanceMzn].all fun x => decide (|x| < 10 ^ 10)

/-- The columns of both tables, and one settlement for each trip. -/
def CashDesk.ok (s : CashDesk) : Bool :=
  s.toFleet.ok && s.driverAdvances.rows.all DriverAdvance.ok &&
    s.tripSettlements.rows.all TripSettlement.ok &&
    decide (s.tripSettlements.rows.map TripSettlement.tripId).Nodup

instance : Store CashDesk Exc := ⟨CashDesk.ok, .integrityError⟩

/-! ## Advances -/

structure AdvanceRequest where
  tripId : UUID
  driverId : UUID
  amountMzn : ℚ
  allowanceMzn : ℚ := 0
  expensesMzn : ℚ := 0
  notes : Option String := none
  requestReference : Option String := none

def dispatchableStatuses : List TripStatus := [.planned, .inProgress]

def CashDesk.activeAdvances (s : CashDesk) (tenantId tripId : UUID) : List DriverAdvance :=
  s.driverAdvances.rows.filter fun a =>
    a.tripId = tripId && a.tenantId = tenantId && a.status ≠ .voided

def newAdvance (now : Instant) (tenantId userId : UUID) (payload : AdvanceRequest) (id : UUID) :
    DriverAdvance :=
  { id, tenantId, tripId := payload.tripId, driverId := payload.driverId
    amountMzn := numeric 2 payload.amountMzn, allowanceMzn := numeric 2 payload.allowanceMzn
    expensesMzn := numeric 2 payload.expensesMzn, issuedBy := some userId, issuedAt := now
    notes := payload.notes, requestReference := payload.requestReference }

/-- The check for an advance that is there already selects rows by a name that the function imports
only further down, for its posting: the import makes the name local, and here it is unbound. -/
def issueAdvance (now : Instant) (tenantId userId : UUID) (payload : AdvanceRequest) (s : CashDesk) :
    Except Exc (UUID × CashDesk) := do
  let trip ← requireTrip tenantId payload.tripId s.toDb
  raiseIf (trip.status ∉ dispatchableStatuses)
    (conflict "trip_not_dispatchable" (s!"Cannot issue advance for trip in status '{trip.status.text}'. " ++
      "Trip must be 'planned' or 'in_progress'."))
  let selectBound := false
  raiseIf (!selectBound) (.unboundLocalError "select")
  raiseIf (s.activeAdvances tenantId payload.tripId ≠ [] : Bool)
    (conflict "advance_already_exists" "A non-voided advance already exists for this trip.")
  return (s.driverAdvances.freshKey,
    { s with driverAdvances := s.driverAdvances.insert (newAdvance now tenantId userId payload) })

def requireDriverAdvance (tenantId advanceId : UUID) (s : CashDesk) : Except Exc DriverAdvance :=
  require ((s.driverAdvances.get advanceId).filter (·.tenantId = tenantId))
    (notFound "advance_not_found" "Advance not found.")

def voidAdvance (tenantId advanceId : UUID) (s : CashDesk) : Except Exc (UUID × CashDesk) := do
  let advance ← requireDriverAdvance tenantId advanceId s
  raiseIf (advance.status = .settled)
    (conflict "advance_already_settled" "Cannot void a settled advance.")
  raiseIf (advance.status = .voided)
    (conflict "advance_already_voided" "Advance is already voided.")
  return (advance.id, { s with
    driverAdvances := s.driverAdvances.modify advance.id ({ · with status := .voided }) })

/-! ## Settlements -/

def CashDesk.sumTripCosts (s : CashDesk) (tenantId tripId : UUID) : Int :=
  s.tripCosts.sumWhere (fun c => c.tripId = tripId && c.tenantId = tenantId) TripCost.amount

/-- The last non-voided advance of a trip. -/
def CashDesk.latestActiveAdvance (s : CashDesk) (tenantId tripId : UUID) : Option DriverAdvance :=
  latestBy DriverAdvance.issuedAt (s.activeAdvances tenantId tripId)

def newSettlement (now : Instant) (tenantId tripId : UUID) (totalCosts : Int)
    (advance : Option DriverAdvance) (id : UUID) : TripSettlement :=
  { id, tenantId, tripId, advanceId := advance.map DriverAdvance.id, totalCostsMzn := totalCosts
    advanceAmountMzn := (advance.map DriverAdvance.amountMzn).getD 0
    balanceMzn := (advance.map DriverAdvance.amountMzn).getD 0 - totalCosts, settledAt := now }

/-- The advance that a settlement takes in is settled. -/
def settleAdvance (advance : Option DriverAdvance) (advances : Table DriverAdvance) :
    Table DriverAdvance :=
  match advance with
  | some advance => advances.modify advance.id ({ · with status := .settled })
  | none => advances

def computeSettlement (now : Instant) (tenantId tripId : UUID) (s : CashDesk) :
    Except Exc (UUID × CashDesk) := do
  let trip ← requireTrip tenantId tripId s.toDb
  raiseIf (trip.status ≠ .completed)
    (conflict "trip_not_completed"
      s!"Settlement requires trip status 'completed', got '{trip.status.text}'.")
  match s.tripSettlements.rows.find? fun t => t.tripId = tripId && t.tenantId = tenantId with
  | some existing => return (existing.id, s)
  | none =>
    let advance := s.latestActiveAdvance tenantId tripId
    return (s.tripSettlements.freshKey, { s with
      tripSettlements := s.tripSettlements.insert
        (newSettlement now tenantId tripId (s.sumTripCosts tenantId tripId) advance)
      driverAdvances := settleAdvance advance s.driverAdvances })

def requireSettlement (tenantId settlementId : UUID) (s : CashDesk) : Except Exc TripSettlement :=
  require ((s.tripSettlements.get settlementId).filter (·.tenantId = tenantId))
    (notFound "settlement_not_found" "Settlement not found.")

def approveSettlement (now : Instant) (tenantId userId settlementId : UUID) (s : CashDesk) :
    Except Exc (UUID × CashDesk) := do
  let settlement ← requireSettlement tenantId settlementId s
  raiseIf (settlement.status = .approved)
    (conflict "settlement_already_approved" "Settlement is already approved.")
  raiseIf (settlement.status ≠ .pending)
    (conflict "settlement_not_pending"
      s!"Cannot approve settlement in status '{settlement.status.text}'.")
  return (settlement.id, { s with
    tripSettlements := s.tripSettlements.modify settlement.id ({ · with
      status := .approved, approvedBy := some userId, approvedAt := some now }) })

def rejectSettlement (tenantId settlementId : UUID) (reason : String) (s : CashDesk) :
    Except Exc (UUID × CashDesk) := do
  let settlement ← requireSettlement tenantId settlementId s
  raiseIf (settlement.status ≠ .pending)
    (conflict "settlement_not_pending"
      s!"Cannot reject settlement in status '{settlement.status.text}'.")
  return (settlement.id, { s with
    tripSettlements := s.tripSettlements.modify settlement.id ({ · with
      status := .rejected, rejectionReason := some reason }) })

/-! ## Calls -/

inductive DeskCall where
  | ops (c : OpsCall)
  | issueAdvance (now : Instant) (tenantId userId : UUID) (payload : AdvanceRequest)
  | voidAdvance (tenantId advanceId : UUID)
  | computeSettlement (now : Instant) (tenantId tripId : UUID)
  | approveSettlement (now : Instant) (tenantId userId settlementId : UUID)
  | rejectSettlement (tenantId settlementId : UUID) (reason : String)

section

variable [Interpreter] [Locale]

def DeskCall.run : DeskCall → CashDesk → Except Exc (UUID × CashDesk)
  | .ops c => fun s => (c.run s.toFleet).map fun (id, fleet) => (id, { s with toFleet := fleet })
  | .issueAdvance now tenantId userId payload => Rotas.issueAdvance now tenantId userId payload
  | .voidAdvance tenantId advanceId => Rotas.voidAdvance tenantId advanceId
  | .computeSettlement now tenantId tripId => Rotas.computeSettlement now tenantId tripId
  | .approveSettlement now tenantId userId settlementId =>
    Rotas.approveSettlement now tenantId userId settlementId
  | .rejectSettlement tenantId settlementId reason =>
    Rotas.rejectSettlement tenantId settlementId reason

/-- The database after a call; one that is refused changes nothing. -/
def CashDesk.serve (s : CashDesk) (c : DeskCall) : CashDesk := perform c.run s

def DeskCall.accepted (c : DeskCall) (s : CashDesk) : Bool :=
  (Work.serve (atomic (Work.ofExcept c.run)) s).1.isOk

end

end Rotas
