import Rotas.Billing.Create
import Rotas.Trips.Revenue

/-!
# Rotas.Billing.Earned

What is billed for a trip and what the trip earned. `create_document` bills the default price of
the contract; the revenue is the price of the card that applies to the trip, a tariff of its route
or the default rate, times what the trip measures.

* `BilledAsEarned`     — the items carry the revenues and the document their sum.
* `PricesAgree`        — the default price is what the card charges, up to half a cent.
* `billed_as_earned`   — the one holds of an accepted document exactly when the other does.
* `ton_trip_underbilled` — twenty tons are billed as one.
-/

namespace Rotas

open Decimal Work

/-- The default price is within half a cent of the price of the card times the measure of the
trip; a tie goes to the even cent. -/
def Contract.chargesAs (contract : Contract) (card : RateCard) (trip : Trip) : Prop :=
  |card.unitPrice * card.measure trip - contract.itemAmount| < 1 / 2 ∨
    |card.unitPrice * card.measure trip - contract.itemAmount| = 1 / 2 ∧
      contract.itemAmount % 2 = 0

instance (contract : Contract) (card : RateCard) (trip : Trip) :
    Decidable (contract.chargesAs card trip) := inferInstanceAs (Decidable (_ ∨ _))

theorem chargesAs_iff {contract : Contract} {card : RateCard} {trip : Trip} :
    contract.chargesAs card trip ↔ contract.itemAmount = card.price trip := by
  rw [RateCard.price_eq, eq_comm, roundHalfEven_eq_iff, Contract.chargesAs]

section Revenue

variable [Locale]

/-- The revenue of the trip with this id. -/
def Db.revenue (tenantId : UUID) (db : Db) (tripId : UUID) : Int :=
  ((db.trips.get tripId).map fun trip => autoCalculateRevenue tenantId trip db).getD 0

/-- Each item carries the revenue of its trip before the document was made, and the document the
sum of the revenues of its trips. -/
def BilledAsEarned (tenantId : UUID) (tripIds : List UUID) (db : Db) (documentId : UUID)
    (items : List BillingItem) (p : Db) : Prop :=
  (∀ i ∈ items, ∀ trip ∈ db.trips, i.tripId = some trip.id →
    i.amount = autoCalculateRevenue tenantId trip db) ∧
  (p.billingDocuments.get documentId).any
    (·.subtotal = (tripIds.map (db.revenue tenantId)).sum)

/-- The contract's default price is what the card of each trip charges. -/
def PricesAgree (tenantId : UUID) (payload : BillingDocumentCreate) (db : Db) : Prop :=
  ∀ contract ∈ db.contracts, payload.contractId = some contract.id →
    ∀ trip ∈ db.trips, trip.id ∈ payload.tripIds →
      contract.chargesAs (rateCard tenantId trip contract db) trip

instance (tenantId : UUID) (payload : BillingDocumentCreate) (db : Db) :
    Decidable (PricesAgree tenantId payload db) :=
  inferInstanceAs (Decidable (∀ contract ∈ db.contracts, _))

end Revenue

/-! ## The items of an accepted document -/

section Items

variable {now : Instant} {tenantId documentId : UUID} {payload : BillingDocumentCreate}
  {contract : Contract} {db db' p p' : Db} {tripIds : List UUID} {items : List BillingItem}

/-- The item is of a trip of the contract, at the contract's price. -/
structure ItemOf (contract : Contract) (db : Db) (i : BillingItem) : Prop where
  amount : i.amount = contract.itemAmount
  linked : ∃ trip ∈ db.trips, i.tripId = some trip.id ∧ trip.contractId = some contract.id

theorem ItemOf.contractId {i : BillingItem} {trip : Trip} (h : ItemOf contract db i)
    (htrip : trip ∈ db.trips) (hik : i.tripId = some trip.id) :
    trip.contractId = some contract.id := by
  obtain ⟨trip', htrip', hik', hlink⟩ := h.linked
  have hsame : trip' = trip :=
    Table.eq_of_key htrip' htrip (Option.some.inj (hik'.symm.trans hik))
  rw [← hsame, hlink]

/-- A trip that is still billable has not been touched by the loop so far. -/
def Untouched (db db' : Db) : Prop :=
  ∀ {tripId trip}, db'.trips.get tripId = some trip → trip.billingStatus = .billable →
    db.trips.get tripId = some trip

theorem Untouched.addItem {b : BillableTrip} (h : Untouched db db') :
    Untouched db (addItem tenantId contract documentId b db') := by
  intro tripId trip htrip hb
  rw [addItem_get_trip] at htrip
  split at htrip
  · obtain ⟨old, _, rfl⟩ := Option.map_eq_some_iff.mp htrip
    cases hb
  · exact h htrip hb

theorem billTrips_items : ∀ {tripIds : List UUID} {items : List BillingItem} {held : Option UUID}
    {db' : Db}, Untouched db db' →
    billTrips now tenantId payload contract documentId held tripIds db' = (.ok items, p') →
    items.map BillingItem.tripId = tripIds.map some ∧ ∀ i ∈ items, ItemOf contract db i := by
  intro tripIds
  induction tripIds with
  | nil =>
    intro items held db' _ h
    cases h
    exact ⟨rfl, fun _ hi => nomatch hi⟩
  | cons tripId tripIds ih =>
    intro items held db' huntouched h
    simp only [billTrips] at h
    cases hc : checkTrip now tenantId payload contract held tripId db' with
    | error e => rw [hc] at h; cases h
    | ok b =>
      have hb := checkTrip_eq_ok.mp hc
      rcases hrest : billTrips now tenantId payload contract documentId (some tripId) tripIds
        (addItem tenantId contract documentId b db') with ⟨r, q⟩
      cases r with
      | error e => simp [hc, hrest] at h
      | ok items' =>
        simp only [hc, hrest, Prod.mk.injEq, Except.ok.injEq] at h
        obtain ⟨rfl, rfl⟩ := h
        obtain ⟨hids, hall⟩ := ih huntouched.addItem hrest
        have htrip : b.trip ∈ db.trips := Table.mem_of_get (huntouched hb.trip hb.billable)
        refine ⟨?_, List.forall_mem_cons.mpr ⟨⟨rfl, b.trip, htrip, rfl, hb.linked⟩, hall⟩⟩
        rw [List.map_cons, List.map_cons, hids, ← hb.trip_id]
        rfl

/-- An accepted document: an item for each trip, and their sum on the document. -/
theorem createDocument_items
    (h : createDocument now tenantId payload db = (.ok (documentId, items), p)) :
    ∃ contract ∈ db.contracts, payload.contractId = some contract.id ∧
      contract.tenantId = tenantId ∧
      items.map BillingItem.tripId = payload.tripIds.map some ∧
      (∀ i ∈ items, ItemOf contract db i) ∧
      ∃ d, p.billingDocuments.get documentId = some d ∧
        d.subtotal = (items.map BillingItem.amount).sum := by
  obtain ⟨rfl, contract, p', hcon, _, hloop, rfl⟩ := createDocument_eq_ok.mp h
  obtain ⟨hpay, hmem, hten⟩ := requirePayloadContract_eq_ok.mp hcon
  have hstart : Untouched db (drafted tenantId payload contract db) := fun htrip _ => htrip
  obtain ⟨hids, hall⟩ := billTrips_items hstart hloop
  have hdocs : p'.billingDocuments = (drafted tenantId payload contract db).billingDocuments := by
    have hkeep := congrArg (fun r => r.2.billingDocuments) hloop
    rw [← hkeep, billTrips_billingDocuments]
  obtain ⟨d, hd⟩ : ∃ d, (drafted tenantId payload contract db).billingDocuments.get
      db.billingDocuments.freshKey = some d :=
    Option.isSome_iff_exists.mp (drafted_get payload contract)
  rw [← hdocs] at hd
  exact ⟨contract, hmem, hpay, hten, hids, hall, _, modifyDocument_get_self hd, rfl⟩

end Items

/-! ## When the two agree -/

section Agree

variable [Locale] {now : Instant} {tenantId documentId : UUID} {payload : BillingDocumentCreate}
  {db p : Db} {items : List BillingItem}

theorem autoCalculateRevenue_eq {contract : Contract} {trip : Trip} (hc : contract ∈ db.contracts)
    (hten : contract.tenantId = tenantId) (hlink : trip.contractId = some contract.id) :
    autoCalculateRevenue tenantId trip db = (rateCard tenantId trip contract db).price trip := by
  have hget : db.contracts.get contract.id = some contract := Table.get_of_mem hc
  simp only [autoCalculateRevenue, hlink, hget, hten, ne_eq, not_true_eq_false, if_false]

/-- An accepted document bills what its trips earned exactly when the default price of its
contract is what the card of each of its trips charges. -/
theorem billed_as_earned
    (h : createDocument now tenantId payload db = (.ok (documentId, items), p)) :
    BilledAsEarned tenantId payload.tripIds db documentId items p ↔
      PricesAgree tenantId payload db := by
  obtain ⟨contract, hmem, hpay, hten, hids, hall, d, hd, hsub⟩ := createDocument_items h
  constructor
  · rintro ⟨hamount, _⟩ contract' hmem' hpay' trip htrip hk
    have hsame : contract' = contract := by
      rw [hpay] at hpay'
      exact Table.eq_of_key hmem' hmem (Option.some.inj hpay').symm
    subst hsame
    have hk' : some trip.id ∈ items.map BillingItem.tripId := by
      rw [hids]
      exact List.mem_map_of_mem hk
    obtain ⟨i, hi, hik⟩ := List.mem_map.mp hk'
    rw [chargesAs_iff, ← (hall i hi).amount, hamount i hi trip htrip hik,
      autoCalculateRevenue_eq hmem hten ((hall i hi).contractId htrip hik)]
  · intro hprices
    have hamount : ∀ i ∈ items, ∀ trip ∈ db.trips, i.tripId = some trip.id →
        i.amount = autoCalculateRevenue tenantId trip db := by
      intro i hi trip htrip hik
      have hk : some trip.id ∈ payload.tripIds.map some := by
        rw [← hids, ← hik]
        exact List.mem_map_of_mem hi
      have hk' : trip.id ∈ payload.tripIds := by simpa using hk
      rw [(hall i hi).amount, autoCalculateRevenue_eq hmem hten ((hall i hi).contractId htrip hik)]
      exact chargesAs_iff.mp (hprices contract hmem hpay trip htrip hk')
    refine ⟨hamount, ?_⟩
    -- the revenue of an item's trip, read off the item
    have hrevenue : ∀ i ∈ items, i.amount = (i.tripId.map (db.revenue tenantId)).getD 0 := by
      intro i hi
      obtain ⟨trip, htrip, hik, _⟩ := (hall i hi).linked
      have hget : db.trips.get trip.id = some trip := Table.get_of_mem htrip
      rw [hamount i hi trip htrip hik, hik]
      simp [Db.revenue, hget]
    rw [hd, Option.any_some, decide_eq_true_eq, hsub, List.map_congr_left hrevenue]
    calc (items.map fun i => (i.tripId.map (db.revenue tenantId)).getD 0).sum
        = ((items.map BillingItem.tripId).map
            fun k => (k.map (db.revenue tenantId)).getD 0).sum := by
          rw [List.map_map]; rfl
      _ = (payload.tripIds.map (db.revenue tenantId)).sum := by
          rw [hids, List.map_map]; rfl

end Agree

/-! ## A contract per ton -/

/-- A delivered trip of twenty tons under a contract of 100.00 by the given basis. -/
def twentyTonDb (billingBasis : String) : Db where
  contracts := .single
    { id := 1, tenantId := 1, clientName := "Cliente", contractReference := "CT-1", billingBasis
      defaultUnitPrice := some 10000 }
  trips := .single
    { id := 1, tenantId := 1, contractId := some 1, vehicleId := 1, origin := "Maputo"
      destination := "Beira", cargoWeight := some 2000, status := .closed
      billingStatus := .billable }
  deliveryProofs := .single
    { id := 1, tenantId := 1, tripId := 1, deliveredAt := 100, status := .validated }

def invoiceTrip : BillingDocumentCreate where
  contractId := some 1
  billingPeriodStart := 0
  billingPeriodEnd := 1000
  tripIds := [1]
  periods := zero_lt_thousand

theorem billed_as_earned_per_trip :
    ∃ documentId items p,
      createDocument 300 1 invoiceTrip (twentyTonDb "trip") = (.ok (documentId, items), p) ∧
        @BilledAsEarned .ascii 1 [1] (twentyTonDb "trip") documentId items p := by
  obtain ⟨⟨documentId, items⟩, p, h⟩ := exists_of_isOk
    (r := createDocument 300 1 invoiceTrip (twentyTonDb "trip")) (by decide +kernel)
  exact ⟨documentId, items, p, h, (@billed_as_earned .ascii _ _ _ _ _ _ _ h).mpr (by decide +kernel)⟩

/-- Twenty tons at 100.00 the ton earn 2000.00, and are billed at 100.00. -/
theorem ton_trip_underbilled :
    ∃ documentId items p,
      createDocument 300 1 invoiceTrip (twentyTonDb "ton") = (.ok (documentId, items), p) ∧
        ¬ @BilledAsEarned .ascii 1 [1] (twentyTonDb "ton") documentId items p := by
  obtain ⟨⟨documentId, items⟩, p, h⟩ := exists_of_isOk
    (r := createDocument 300 1 invoiceTrip (twentyTonDb "ton")) (by decide +kernel)
  refine ⟨documentId, items, p, h, fun hearned => ?_⟩
  have hid : documentId = 1 := (createDocument_eq_ok.mp h).1
  have hsub : ((createDocument 300 1 invoiceTrip (twentyTonDb "ton")).2.billingDocuments.get 1).any
      (·.subtotal = ([1].map (@Db.revenue .ascii 1 (twentyTonDb "ton"))).sum) = false := by
    decide +kernel
  have hearned' := hearned.2
  rw [hid] at hearned'
  rw [h, hearned'] at hsub
  cases hsub

end Rotas
