import Rotas.Lib.Unordered
import Rotas.Trips.Revenue

/-!
# Rotas.Trips.RouteChoice

Which known route prices a trip. Routes are unique by their exact ends, but they are looked up
without case and outer blanks, one row without an order, and only this row's tariff is searched.

* `matchesRoute`, `appliesTo` — the conditions of the two queries.
* `Rerun` — the same rows of both tables, in another order.
* `RevenueWellDefined` — the amount is the same in every order, and that of every tariff that a
  matching route has in the trip's contract.
* `RoutesChargeAlike` — the routes that match all charge the same, with or without a tariff.
* `revenue_wellDefined_iff` — the one holds exactly when the other does.
-/

namespace Rotas

section

variable [Locale]

/-- The condition on the known routes. -/
def matchesRoute (tenantId : UUID) (trip : Trip) (route : KnownRoute) : Bool :=
  route.tenantId = tenantId &&
    Locale.sqlLower (sqlTrim route.origin) = Locale.sqlLower (sqlTrim trip.origin) &&
    Locale.sqlLower (sqlTrim route.destination) = Locale.sqlLower (sqlTrim trip.destination)

/-- The condition on the tariffs. -/
def appliesTo (tenantId : UUID) (trip : Trip) (route : KnownRoute) (tariff : ContractTariff) :
    Bool :=
  tariff.tenantId = tenantId && some tariff.contractId = trip.contractId &&
    tariff.knownRouteId = route.id

/-- `uq_known_routes_tenant_od` and `uq_contract_tariffs_tenant_contract_route`. -/
structure RoutesUnique (db : Db) : Prop where
  knownRoutes : (db.knownRoutes.rows.map fun r => (r.tenantId, r.origin, r.destination)).Nodup
  contractTariffs : (db.contractTariffs.rows.map fun t =>
    (t.tenantId, t.contractId, t.knownRouteId)).Nodup

/-- The same state, its rows returned in another order. -/
structure Rerun (db db' : Db) : Prop where
  contracts : db'.contracts = db.contracts
  knownRoutes : db.knownRoutes.Reordered db'.knownRoutes
  contractTariffs : db.contractTariffs.Reordered db'.contractTariffs

/-- A known route between the trip's ends, with a tariff in the trip's contract. -/
structure PricedRoute (tenantId : UUID) (trip : Trip) (db : Db) (route : KnownRoute)
    (tariff : ContractTariff) : Prop where
  known : route ∈ db.knownRoutes
  ends : matchesRoute tenantId trip route = true
  listed : tariff ∈ db.contractTariffs
  applies : appliesTo tenantId trip route tariff = true

structure RevenueWellDefined (tenantId : UUID) (trip : Trip) (db : Db) : Prop where
  order : ∀ db', Rerun db db' →
    autoCalculateRevenue tenantId trip db' = autoCalculateRevenue tenantId trip db
  tariff : ∀ route tariff, PricedRoute tenantId trip db route tariff →
    autoCalculateRevenue tenantId trip db = Decimal.roundHalfEven
      (tariff.unitPrice * (tariffCard tariff route).measure trip)

/-! ## What a route charges -/

/-- The tenant's contract of the trip. -/
def tripContract (tenantId : UUID) (trip : Trip) (db : Db) : Option Contract :=
  match trip.contractId with
  | none => none
  | some contractId =>
    match db.contracts.get contractId with
    | none => none
    | some contract => if contract.tenantId ≠ tenantId then none else some contract

/-- The card of a route: its tariff in the trip's contract, or the contract's default. -/
def routeCard (tenantId : UUID) (trip : Trip) (contract : Contract) (db : Db)
    (route : KnownRoute) : RateCard :=
  match findTariff tenantId trip route db with
  | none => defaultCard contract
  | some tariff => tariffCard tariff route

/-- The routes between the trip's ends charge alike. A trip without a contract of the tenant is
charged nothing, and one with an end unnamed the default of its contract, whatever the tariffs. -/
def RoutesChargeAlike (tenantId : UUID) (trip : Trip) (db : Db) : Prop :=
  match tripContract tenantId trip db with
  | none => ∀ route tariff, PricedRoute tenantId trip db route tariff →
      (tariffCard tariff route).price trip = 0
  | some contract =>
    if trip.origin = "" ∨ trip.destination = "" then
      ∀ route tariff, PricedRoute tenantId trip db route tariff →
        (tariffCard tariff route).price trip = (defaultCard contract).price trip
    else ∀ route ∈ db.knownRoutes, ∀ route' ∈ db.knownRoutes,
      matchesRoute tenantId trip route = true → matchesRoute tenantId trip route' = true →
      (routeCard tenantId trip contract db route).price trip =
        (routeCard tenantId trip contract db route').price trip

variable {tenantId : UUID} {trip : Trip} {db db' : Db} {contract : Contract}
  {route : KnownRoute} {tariff : ContractTariff}

theorem autoCalculateRevenue_of_contract :
    autoCalculateRevenue tenantId trip db = match tripContract tenantId trip db with
      | none => 0
      | some contract => (rateCard tenantId trip contract db).price trip := by
  unfold autoCalculateRevenue tripContract
  cases trip.contractId with
  | none => rfl
  | some contractId =>
    simp only
    cases db.contracts.get contractId with
    | none => rfl
    | some contract =>
      simp only
      split
      · rfl
      · rfl

omit [Locale] in
theorem tripContract_rerun (h : Rerun db db') :
    tripContract tenantId trip db' = tripContract tenantId trip db := by
  simp only [tripContract, h.contracts]

omit [Locale] in
/-- A tariff is unique for its contract and route, so the order does not matter to its query. -/
theorem findTariff_rerun (huniq : RoutesUnique db) (h : Rerun db db') :
    findTariff tenantId trip route db' = findTariff tenantId trip route db := by
  refine Table.find?_of_unique ?_ h.contractTariffs
  intro t ht t' ht' hp hp'
  simp only [Bool.and_eq_true, decide_eq_true_eq] at hp hp'
  have hcontract : t.contractId = t'.contractId :=
    Option.some.inj (hp.1.2.trans hp'.1.2.symm)
  refine List.inj_on_of_nodup_map huniq.contractTariffs ht ht' ?_
  rw [hp.1.1, hp'.1.1, hcontract, hp.2, hp'.2]

theorem findTariff_of_priced (huniq : RoutesUnique db)
    (hpriced : PricedRoute tenantId trip db route tariff) :
    findTariff tenantId trip route db = some tariff := by
  obtain ⟨t', hord, hfirst⟩ := Table.exists_first hpriced.listed hpriced.applies
  have hrerun : Rerun db { db with contractTariffs := t' } := ⟨rfl, .refl _, hord⟩
  rw [← findTariff_rerun huniq hrerun]
  exact hfirst

theorem routeCard_rerun (huniq : RoutesUnique db) (h : Rerun db db') :
    routeCard tenantId trip contract db' route = routeCard tenantId trip contract db route := by
  simp only [routeCard, findTariff_rerun huniq h]

theorem routeCard_of_priced (huniq : RoutesUnique db)
    (hpriced : PricedRoute tenantId trip db route tariff) :
    routeCard tenantId trip contract db route = tariffCard tariff route := by
  simp only [routeCard, findTariff_of_priced huniq hpriced]

/-- A trip with an end unnamed has the default card of its contract. -/
theorem rateCard_unnamed (h : trip.origin = "" ∨ trip.destination = "") :
    rateCard tenantId trip contract db = defaultCard contract := by
  simp only [rateCard, findKnownRoute, if_pos h]

/-- Otherwise it has the card of the first route that matches. -/
theorem rateCard_named (h : ¬ (trip.origin = "" ∨ trip.destination = "")) :
    rateCard tenantId trip contract db =
      match db.knownRoutes.rows.find? (matchesRoute tenantId trip) with
      | none => defaultCard contract
      | some route => routeCard tenantId trip contract db route := by
  simp only [rateCard, findKnownRoute, if_neg h]
  rfl

/-! ## When the revenue is well defined -/

/-- Whether the choice of a route shows is a matter of the prices of the routes that match. -/
theorem order_iff (huniq : RoutesUnique db)
    (hfound : tripContract tenantId trip db = some contract)
    (hnamed : ¬ (trip.origin = "" ∨ trip.destination = "")) :
    (∀ db', Rerun db db' →
      autoCalculateRevenue tenantId trip db' = autoCalculateRevenue tenantId trip db) ↔
    ∀ route ∈ db.knownRoutes, ∀ route' ∈ db.knownRoutes,
      matchesRoute tenantId trip route = true → matchesRoute tenantId trip route' = true →
      (routeCard tenantId trip contract db route).price trip =
        (routeCard tenantId trip contract db route').price trip := by
  -- the amount as a function of the route that is found, with the tariffs of `db`
  let amount (found : Option KnownRoute) : Int :=
    (match found with
      | none => defaultCard contract
      | some route => routeCard tenantId trip contract db route).price trip
  have hamount : ∀ db', Rerun db db' → autoCalculateRevenue tenantId trip db' =
      amount (db'.knownRoutes.rows.find? (matchesRoute tenantId trip)) := by
    intro db' h
    rw [autoCalculateRevenue_of_contract, tripContract_rerun h, hfound]
    simp only [amount, rateCard_named hnamed, routeCard_rerun huniq h]
  have hself : Rerun db db := ⟨rfl, .refl _, .refl _⟩
  rw [← Table.find?_alike_iff amount]
  constructor
  · intro halike routes hord
    have h : Rerun db { db with knownRoutes := routes } := ⟨rfl, hord, .refl _⟩
    rw [← hamount _ hself, ← hamount _ h]
    exact halike _ h
  · intro halike db' h
    rw [hamount _ hself, hamount _ h]
    exact halike _ h.knownRoutes

/-- Where no route is asked for, the amount is right if all tariffs that match come to it. -/
theorem wellDefined_of_const {amount : Int}
    (hconst : ∀ db', Rerun db db' → autoCalculateRevenue tenantId trip db' = amount) :
    RevenueWellDefined tenantId trip db ↔ ∀ route tariff, PricedRoute tenantId trip db route tariff →
      (tariffCard tariff route).price trip = amount := by
  have hself : autoCalculateRevenue tenantId trip db = amount :=
    hconst db ⟨rfl, .refl _, .refl _⟩
  constructor
  · intro h route tariff hpriced
    rw [RateCard.price_eq, ← hself]
    exact (h.tariff route tariff hpriced).symm
  · intro h
    refine ⟨fun db' hrerun => by rw [hconst db' hrerun, hself], fun route tariff hpriced => ?_⟩
    have hprice := h route tariff hpriced
    rw [RateCard.price_eq] at hprice
    exact hself.trans hprice.symm

/-- The revenue is well defined exactly when the routes between the trip's ends charge alike. -/
theorem revenue_wellDefined_iff (tenantId : UUID) (trip : Trip) (db : Db)
    (huniq : RoutesUnique db) :
    RevenueWellDefined tenantId trip db ↔ RoutesChargeAlike tenantId trip db := by
  rw [RoutesChargeAlike]
  cases hfound : tripContract tenantId trip db with
  | none =>
    refine wellDefined_of_const fun db' h => ?_
    rw [autoCalculateRevenue_of_contract, tripContract_rerun h, hfound]
  | some contract =>
    simp only
    split
    · next hunnamed =>
      refine wellDefined_of_const fun db' h => ?_
      rw [autoCalculateRevenue_of_contract, tripContract_rerun h, hfound]
      simp only [rateCard_unnamed hunnamed]
    · next hnamed =>
      constructor
      · intro h
        exact (order_iff huniq hfound hnamed).mp h.order
      · intro h
        refine ⟨(order_iff huniq hfound hnamed).mpr h, fun route tariff hpriced => ?_⟩
        rw [autoCalculateRevenue_of_contract, hfound]
        simp only [rateCard_named hnamed]
        cases hfirst : db.knownRoutes.rows.find? (matchesRoute tenantId trip) with
        | none => exact absurd hpriced.ends (List.find?_eq_none.mp hfirst route hpriced.known)
        | some first =>
          have hsame := h first (List.mem_of_find?_eq_some hfirst) route hpriced.known
            (List.find?_some hfirst) hpriced.ends
          rw [routeCard_of_priced huniq hpriced] at hsame
          exact hsame.trans (RateCard.price_eq _ _)

end

/-- A route twice in the table, once in capitals, and a tariff for one of the two. -/
def twoSpellings : Db where
  contracts := .single
    { id := 1, tenantId := 1, clientName := "Cliente", contractReference := "C-1" }
  knownRoutes :=
    let route (id : UUID) (origin : String) : KnownRoute :=
      { id, tenantId := 1, origin, destination := "Tete", distanceKm := 0 }
    ⟨[route 1 "Beira", route 2 "BEIRA"], by decide⟩
  contractTariffs :=
    .single { id := 1, tenantId := 1, contractId := 1, knownRouteId := 1, unitPrice := 100 }

def beiraTete : Trip :=
  { id := 1, tenantId := 1, contractId := some 1, vehicleId := 1, origin := "Beira"
    destination := "Tete" }

theorem twoSpellings_unique : RoutesUnique twoSpellings := ⟨by decide, by decide⟩

theorem revenue_wellDefined_twoSpellings :
    @RevenueWellDefined Locale.chars 1 beiraTete twoSpellings ↔
      @RoutesChargeAlike Locale.chars 1 beiraTete twoSpellings :=
  @revenue_wellDefined_iff Locale.chars 1 beiraTete twoSpellings twoSpellings_unique

/-- The revenue is the tariff or nothing, by the order of the two routes. -/
theorem revenue_not_wellDefined : RoutesUnique twoSpellings ∧
    ¬ @RevenueWellDefined Locale.chars 1 beiraTete twoSpellings := by
  refine ⟨twoSpellings_unique, fun h => ?_⟩
  let swapped : Db := { twoSpellings with
    knownRoutes := ⟨twoSpellings.knownRoutes.rows.reverse, by decide⟩ }
  have hrerun : Rerun twoSpellings swapped := ⟨rfl, List.reverse_perm _, .refl _⟩
  have hfirst : @autoCalculateRevenue Locale.chars 1 beiraTete twoSpellings = 100 := by
    decide +kernel
  have hsecond : @autoCalculateRevenue Locale.chars 1 beiraTete swapped = 0 := by
    decide +kernel
  rw [← @RevenueWellDefined.order Locale.chars _ _ _ h swapped hrerun, hsecond] at hfirst
  cases hfirst

end Rotas
