import Rotas.Core.Text
import Rotas.Data
import Rotas.Lib.Decimal

/-!
# Rotas.Trips.Revenue

The revenue of a trip and the reconciliation of its costs.

* `RateCard` — the unit price that applies to a trip, per trip, ton, volume or km.
* `rateCard` — the tariff of the trip's route, or the default rate of its contract.
* `autoCalculateRevenue` — the price of the card times what the trip measures.
* `reconcileTripCosts` — expenses, revenue and margin written on the trip.
-/

namespace Rotas

/-- A unit price, what it is the price of, and the distance a card per kilometre falls back to
when the odometer says nothing. -/
structure RateCard where
  rateBasis : String
  unitPrice : Int
  fallbackDistance : ℚ := 0

/-- `value or 0`, as a decimal. -/
def hundredths (c : Option Int) : ℚ := (c.getD 0 : ℚ) / 100

/-- The kilometres driven by the odometer, or the distance of the card. -/
def RateCard.distance (card : RateCard) (trip : Trip) : ℚ :=
  match trip.kmStart, trip.kmEnd with
  | some a, some b => if 0 < b - a then b - a else card.fallbackDistance
  | _, _ => card.fallbackDistance

/-- How many units of the card a trip counts. -/
def RateCard.measure (card : RateCard) (trip : Trip) : ℚ :=
  if card.rateBasis = "ton" then hundredths trip.cargoWeight
  else if card.rateBasis = "volume" then hundredths trip.cargoVolume
  else if card.rateBasis = "km" then card.distance trip
  else 1

/-- The price of a trip under a card; a product is rounded to the cent, ties to even. -/
def RateCard.price (card : RateCard) (trip : Trip) : Int :=
  if card.rateBasis = "trip" then card.unitPrice
  else if card.rateBasis = "ton" ∨ card.rateBasis = "volume" ∨ card.rateBasis = "km" then
    Decimal.quantize 2 ((card.unitPrice : ℚ) / 100 * card.measure trip)
  else card.unitPrice

section

variable [Locale]

/-- The known route between the trip's two ends, compared without case and outer blanks. -/
def findKnownRoute (tenantId : UUID) (trip : Trip) (db : Db) : Option KnownRoute :=
  if trip.origin = "" ∨ trip.destination = "" then none
  else db.knownRoutes.rows.find? fun r =>
    r.tenantId = tenantId &&
      Locale.sqlLower (sqlTrim r.origin) = Locale.sqlLower (sqlTrim trip.origin) &&
      Locale.sqlLower (sqlTrim r.destination) = Locale.sqlLower (sqlTrim trip.destination)

def findTariff (tenantId : UUID) (trip : Trip) (route : KnownRoute) (db : Db) :
    Option ContractTariff :=
  db.contractTariffs.rows.find? fun t =>
    t.tenantId = tenantId && some t.contractId = trip.contractId && t.knownRouteId = route.id

/-- `(basis or "trip").lower()`. -/
def rateBasisOf (basis : String) : String :=
  Locale.lower (if basis = "" then "trip" else basis)

def tariffCard (tariff : ContractTariff) (route : KnownRoute) : RateCard :=
  ⟨rateBasisOf tariff.rateBasis, tariff.unitPrice, (route.distanceKm : ℚ) / 10⟩

def defaultCard (contract : Contract) : RateCard :=
  { rateBasis := rateBasisOf contract.billingBasis, unitPrice := contract.defaultUnitPrice.getD 0 }

/-- The card that prices the trip under its contract. -/
def rateCard (tenantId : UUID) (trip : Trip) (contract : Contract) (db : Db) : RateCard :=
  match findKnownRoute tenantId trip db with
  | none => defaultCard contract
  | some route =>
    match findTariff tenantId trip route db with
    | none => defaultCard contract
    | some tariff => tariffCard tariff route

def autoCalculateRevenue (tenantId : UUID) (trip : Trip) (db : Db) : Int :=
  match trip.contractId with
  | none => 0
  | some contractId =>
    match db.contracts.get contractId with
    | none => 0
    | some contract =>
      if contract.tenantId ≠ tenantId then 0
      else (rateCard tenantId trip contract db).price trip

/-- Expenses, revenue and margin of the trip as of `now`. -/
def reconcileTripCosts (now : Instant) (tenantId : UUID) (trip : Trip) (db : Db) : Trip :=
  let expenseTotal := db.tripCosts.sumWhere
    (fun c => c.tenantId = tenantId && c.tripId = trip.id) TripCost.amount
  let revenue := autoCalculateRevenue tenantId trip db
  { trip with
    totalExpenseCost := expenseTotal
    totalTransportCost := trip.totalFuelCost + expenseTotal
    actualRevenue := revenue
    actualMargin := revenue - (trip.totalFuelCost + expenseTotal)
    costsReconciledAt := some now }

end

/-! ## What a card charges -/

/-- Whatever its basis, a card charges its unit price times the measure of the trip, rounded. -/
theorem RateCard.price_eq (card : RateCard) (trip : Trip) :
    card.price trip = Decimal.roundHalfEven (card.unitPrice * card.measure trip) := by
  have h : Decimal.quantize 2 ((card.unitPrice : ℚ) / 100 * card.measure trip) =
      Decimal.roundHalfEven (card.unitPrice * card.measure trip) := by
    rw [Decimal.quantize]; congr 1; ring
  unfold RateCard.price
  split
  · next hb => simp [RateCard.measure, hb]
  · split
    · exact h
    · next hb =>
      simp only [not_or] at hb
      simp [RateCard.measure, hb.1, hb.2.1, hb.2.2]

/-- The revenue reads the trip's route, contract, load and odometer, and no other column. -/
theorem autoCalculateRevenue_congr [Locale] {tenantId : UUID} {trip trip' : Trip} {db db' : Db}
    (hc : trip'.contractId = trip.contractId) (ho : trip'.origin = trip.origin)
    (hd : trip'.destination = trip.destination) (hw : trip'.cargoWeight = trip.cargoWeight)
    (hv : trip'.cargoVolume = trip.cargoVolume) (hs : trip'.kmStart = trip.kmStart)
    (he : trip'.kmEnd = trip.kmEnd) (h₁ : db'.contracts = db.contracts)
    (h₂ : db'.knownRoutes = db.knownRoutes) (h₃ : db'.contractTariffs = db.contractTariffs) :
    autoCalculateRevenue tenantId trip' db' = autoCalculateRevenue tenantId trip db := by
  have hcard (c : Contract) : rateCard tenantId trip' c db' = rateCard tenantId trip c db := by
    simp only [rateCard, findKnownRoute, findTariff, hc, ho, hd, h₂, h₃]
  have hprice (card : RateCard) : card.price trip' = card.price trip := by
    simp only [RateCard.price, RateCard.measure, RateCard.distance, hw, hv, hs, he]
  simp only [autoCalculateRevenue, hcard, hprice, hc, h₁]

end Rotas
