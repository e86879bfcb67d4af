import Rotas.Billing.MarginGovernance
import Mathlib.Algebra.BigOperators.Group.Finset.Basic

/-!
# Rotas.Billing.CostsOnce

The costs of the trips, over runs of the calls that record, reconcile, refuel, close and invoice.

* `CostCharge`      — what a recorded cost counts: its reference, its trip and its amount.
* `countedCharges`  — the charges of the calls that a run answers, repetitions included.
* `CountedOnce`     — the invariant: the rows are these charges, each reference once, and a
  reconciled trip has their sum.
* `ExpenseStep`     — what the other calls do to rows and sums.
* `trip_costs_counted_once` — the expense of a reconciled trip is the sum over the distinct charges,
  and a call with a recorded reference changes nothing.
-/

namespace Rotas

open Work Run

structure CostCharge where
  tenantId : UUID
  requestReference : String
  tripId : UUID
  amount : Int
  deriving DecidableEq

def TripCost.charge (c : TripCost) : CostCharge :=
  ⟨c.tenantId, c.requestReference, c.tripId, c.amount⟩

/-- The charge that the call asks for. -/
def TripCostCreate.charge (payload : TripCostCreate) (tenantId tripId : UUID) : CostCharge :=
  ⟨tenantId, payload.requestReference, tripId, Decimal.quantize 2 payload.amount⟩

section

variable [Locale]

/-- The charge of a call, if it records a cost and is answered: the cost is new, or it was recorded
already. -/
def MarginCall.charge (s : Depot) : MarginCall → Option CostCharge
  | .recordTripCost now tenantId tripId payload actorId =>
    let service := Depot.onDb (Rotas.recordTripCost now tenantId tripId payload actorId)
    if (serve (atomic (ofExcept service)) s).1.isOk then
      some (payload.charge tenantId tripId)
    else none
  | _ => none

/-- The charges of the calls that are answered, in their order. -/
def countedCharges : Depot → List MarginCall → List CostCharge
  | _, [] => []
  | s, call :: calls => (call.charge s).toList ++ countedCharges (call.step s) calls

end

/-- No cost is recorded, and no trip reconciled. -/
structure NoCosts (s : Depot) : Prop where
  rows : s.tripCosts = ∅
  trips : ∀ {k t}, s.trips.get k = some t → t.reconciled = false

/-- The rows are the charges made so far, one for each reference, and a reconciled trip has the sum
of its rows. -/
structure CountedOnce (s : Depot) (made : List CostCharge) : Prop where
  rows : ∀ ch, ch ∈ made ↔ ch ∈ s.tripCosts.rows.map TripCost.charge
  unique : (s.tripCosts.rows.map fun c => (c.tenantId, c.requestReference)).Nodup
  tenants : ∀ {k t}, s.trips.get k = some t → ∀ r ∈ s.tripCosts, r.tripId = k →
    r.tenantId = t.tenantId
  totals : ∀ {k t}, s.trips.get k = some t → t.reconciled = true →
    t.totalExpenseCost = recordedCosts k s.toDb

/-- What `reconcile_trip_costs` sums for a trip of the tenant. -/
def expenseTotal (tenantId tripId : UUID) (db : Db) : Int :=
  db.tripCosts.sumWhere (fun c => c.tenantId = tenantId && c.tripId = tripId) TripCost.amount

/-- A call that records nothing: the rows stay, and a trip keeps its sum or is reconciled. -/
structure ExpenseStep (s p : Depot) : Prop where
  rows : p.tripCosts = s.tripCosts
  trips : ∀ {k t'}, p.trips.get k = some t' → ∃ t, s.trips.get k = some t ∧
    t'.tenantId = t.tenantId ∧
    (t'.totalExpenseCost = t.totalExpenseCost ∧ t'.reconciled = t.reconciled ∨
      t'.totalExpenseCost = expenseTotal t.tenantId k s.toDb)

section Sums

variable {s p : Depot} {made : List CostCharge} {k : UUID} {t : Trip}

theorem NoCosts.recorded (h : NoCosts s) : CountedOnce s [] := by
  constructor
  · intro ch
    rw [h.rows]
    rfl
  · rw [h.rows]
    exact List.nodup_nil
  · intro k t _ r hr
    rw [h.rows] at hr
    cases hr
  · intro k t ht hrec
    rw [h.trips ht] at hrec
    cases hrec

/-- The rows of a trip are its tenant's, so the query misses none. -/
theorem expenseTotal_eq
    (htenants : ∀ r ∈ s.tripCosts, r.tripId = k → r.tenantId = t.tenantId) :
    expenseTotal t.tenantId k s.toDb = recordedCosts k s.toDb := by
  refine Table.sumWhere_congr fun r hr => ?_
  by_cases hk : r.tripId = k
  · simp [hk, htenants r hr hk]
  · simp [hk]

theorem CountedOnce.reconciles (h : CountedOnce s made) (ht : s.trips.get k = some t) :
    expenseTotal t.tenantId k s.toDb = recordedCosts k s.toDb :=
  expenseTotal_eq (h.tenants ht)

theorem CountedOnce.keep (h : CountedOnce s made) (hstep : ExpenseStep s p) :
    CountedOnce p made := by
  have htenants : ∀ {k t'}, p.trips.get k = some t' → ∀ r ∈ p.tripCosts, r.tripId = k →
      r.tenantId = t'.tenantId := by
    intro k t' ht' r hr hk
    obtain ⟨t, ht, hten, -⟩ := hstep.trips ht'
    rw [hstep.rows] at hr
    rw [hten]
    exact h.tenants ht r hr hk
  refine ⟨fun ch => by rw [hstep.rows]; exact h.rows ch, by rw [hstep.rows]; exact h.unique,
    htenants, fun {k t'} ht' hrec => ?_⟩
  have hrows : recordedCosts k p.toDb = recordedCosts k s.toDb := by
    rw [recordedCosts, hstep.rows, recordedCosts]
  obtain ⟨t, ht, -, ⟨hkept, hflag⟩ | hsum⟩ := hstep.trips ht'
  · rw [hkept, hrows]
    exact h.totals ht (hflag ▸ hrec)
  · rw [hsum, hrows]
    exact h.reconciles ht

theorem CountedOnce.inj (h : CountedOnce s made) {ch ch' : CostCharge} (hch : ch ∈ made)
    (hch' : ch' ∈ made) (hten : ch.tenantId = ch'.tenantId)
    (href : ch.requestReference = ch'.requestReference) :
    ch = ch' := by
  obtain ⟨r, hr, rfl⟩ := List.mem_map.mp ((h.rows ch).mp hch)
  obtain ⟨r', hr', rfl⟩ := List.mem_map.mp ((h.rows ch').mp hch')
  have hkey : (r.tenantId, r.requestReference) = (r'.tenantId, r'.requestReference) :=
    Prod.ext hten href
  rw [List.inj_on_of_nodup_map h.unique hr hr' hkey]

theorem CountedOnce.sum (h : CountedOnce s made) (k : UUID) :
    recordedCosts k s.toDb = ∑ ch ∈ made.toFinset with ch.tripId = k, ch.amount := by
  have hnodup : (s.tripCosts.rows.map TripCost.charge).Nodup := by
    refine List.Nodup.of_map (fun ch => (ch.tenantId, ch.requestReference)) ?_
    rw [List.map_map]
    exact h.unique
  have hset : made.toFinset = (s.tripCosts.rows.map TripCost.charge).toFinset := by
    ext ch
    rw [List.mem_toFinset, List.mem_toFinset]
    exact h.rows ch
  have hfilter : (s.tripCosts.rows.map TripCost.charge).toFinset.filter (fun ch => ch.tripId = k) =
      ((s.tripCosts.rows.map TripCost.charge).filter fun ch => ch.tripId = k).toFinset := by
    ext ch
    simp only [Finset.mem_filter, List.mem_toFinset, List.mem_filter, decide_eq_true_eq]
  rw [hset, hfilter, List.sum_toFinset _ (hnodup.filter _), List.filter_map, List.map_map]
  rfl

end Sums

/-! ## The calls that record nothing -/

section Steps

variable {s p : Depot} {db q : Db} {now : Instant} {tenantId tripId a : UUID}
  {actorId : Option UUID}

theorem ExpenseStep.refl (s : Depot) : ExpenseStep s s :=
  ⟨rfl, fun ht => ⟨_, ht, rfl, .inl ⟨rfl, rfl⟩⟩⟩

theorem ExpenseStep.of_same (htrips : p.trips = s.trips) (hrows : p.tripCosts = s.tripCosts) :
    ExpenseStep s p :=
  ⟨hrows, fun ht => ⟨_, htrips ▸ ht, rfl, .inl ⟨rfl, rfl⟩⟩⟩

theorem ExpenseStep.of_modify (f : Trip → Trip) (hf : ∀ t, (f t).id = t.id)
    (hrows : p.tripCosts = s.tripCosts) (htrips : p.trips = s.trips.modify tripId f hf)
    (h : ∀ t, s.trips.get tripId = some t → (f t).tenantId = t.tenantId ∧
      ((f t).totalExpenseCost = t.totalExpenseCost ∧ (f t).reconciled = t.reconciled ∨
        (f t).totalExpenseCost = expenseTotal t.tenantId tripId s.toDb)) :
    ExpenseStep s p := by
  refine ⟨hrows, fun {k t'} ht' => ?_⟩
  rw [htrips] at ht'
  by_cases hk : k = tripId
  · subst hk
    rw [Table.get_modify, if_pos rfl, Option.map_eq_some_iff] at ht'
    obtain ⟨t, ht, rfl⟩ := ht'
    exact ⟨t, ht, h t ht⟩
  · rw [Table.get_modify_ne hk] at ht'
    exact ⟨t', ht', rfl, .inl ⟨rfl, rfl⟩⟩

theorem ExpenseStep.of_service {service : Db → Except Exc (UUID × Db)}
    (h : ∀ a q, service s.toDb = .ok (a, q) → ExpenseStep s { s with toDb := q }) :
    ExpenseStep s (perform (Depot.onDb service) s) := by
  refine perform_ind (.refl s) fun a p hrun => ?_
  obtain ⟨q, hq, rfl⟩ := Depot.onDb_eq_ok.mp hrun
  exact h a q hq

theorem createWaiver_expense {payload : OperationalWaiverCreate}
    (h : createWaiver now tenantId payload actorId s.toDb = .ok (a, q)) :
    ExpenseStep s { s with toDb := q } := by
  simp only [createWaiver, bind_eq_ok, pure, Except.pure, Except.ok.injEq, Prod.mk.injEq] at h
  obtain ⟨_, _, _, _, _, rfl⟩ := h
  exact .of_same rfl rfl

theorem revokeWaiver_expense {waiverId : UUID}
    (h : revokeWaiver tenantId waiverId s.toDb = .ok (a, q)) :
    ExpenseStep s { s with toDb := q } := by
  simp only [revokeWaiver, bind_eq_ok] at h
  obtain ⟨_, _, _, _, h⟩ := h
  split at h
  · cases h
    exact .refl s
  · cases h
    exact .of_same rfl rfl

theorem createBillingWaiver_expense {reason : String}
    (h : createBillingWaiver now tenantId tripId reason s.toDb = .ok (a, q)) :
    ExpenseStep s { s with toDb := q } := by
  simp only [createBillingWaiver, bind_eq_ok, pure, Except.pure, Except.ok.injEq,
    Prod.mk.injEq] at h
  obtain ⟨_, _, _, _, _, _, _, rfl⟩ := h
  exact .of_same rfl rfl

theorem approveBillingWaiver_expense {waiverId approverId : UUID}
    (h : approveBillingWaiver now tenantId waiverId approverId s.toDb = .ok (a, q)) :
    ExpenseStep s { s with toDb := q } := by
  simp only [approveBillingWaiver, bind_eq_ok, pure, Except.pure, Except.ok.injEq,
    Prod.mk.injEq] at h
  obtain ⟨_, _, _, rfl⟩ := h
  exact .of_same rfl rfl

theorem rejectBillingWaiver_expense {waiverId rejectorId : UUID}
    (h : rejectBillingWaiver tenantId waiverId rejectorId s.toDb = .ok (a, q)) :
    ExpenseStep s { s with toDb := q } := by
  simp only [rejectBillingWaiver, bind_eq_ok, pure, Except.pure, Except.ok.injEq,
    Prod.mk.injEq] at h
  obtain ⟨_, _, _, rfl⟩ := h
  exact .of_same rfl rfl

/-- An invoice takes trips as they are. -/
structure ExpensesKept (db q : Db) : Prop where
  rows : q.tripCosts = db.tripCosts
  trips : ∀ {k t'}, q.trips.get k = some t' → ∃ t, db.trips.get k = some t ∧
    t'.tenantId = t.tenantId ∧ t'.totalExpenseCost = t.totalExpenseCost ∧
    t'.reconciled = t.reconciled

theorem ExpensesKept.refl (db : Db) : ExpensesKept db db := ⟨rfl, fun ht => ⟨_, ht, rfl, rfl, rfl⟩⟩

theorem reconcileTrip_expense [Locale] (h : reconcileTrip now tenantId tripId s.toDb = .ok (a, q)) :
    ExpenseStep s { s with toDb := q } := by
  simp only [reconcileTrip, bind_eq_ok, requireTrip_eq_ok, pure, Except.pure, Except.ok.injEq,
    Prod.mk.injEq] at h
  obtain ⟨trip, ⟨htrip, hten⟩, _, rfl⟩ := h
  refine .of_modify (reconcileTripCosts now tenantId · s.toDb) (fun _ => rfl) rfl rfl
    fun t ht => ⟨rfl, .inr ?_⟩
  obtain rfl := Option.some.inj (htrip.symm.trans ht)
  rw [hten, ← Table.key_of_get htrip]
  rfl

theorem operationalCloseTrip_expense [Locale] {payload : OperationalCloseTripRequest}
    (h : operationalCloseTrip now tenantId tripId payload actorId s.toDb = .ok (a, q)) :
    ExpenseStep s { s with toDb := q } := by
  obtain ⟨_, trip, htrip, hten, ⟨_, rfl⟩ | ⟨_, _, rfl⟩⟩ := operationalCloseTrip_eq_ok.mp h
  · exact .refl s
  · refine .of_modify (closeTrip now tenantId payload actorId s.toDb) (fun _ => rfl) rfl rfl
      fun t ht => ⟨rfl, .inr ?_⟩
    obtain rfl := Option.some.inj (htrip.symm.trans ht)
    rw [hten, ← Table.key_of_get htrip]
    rfl

theorem associateContract_expense {contractId : UUID}
    (h : associateContract now tenantId tripId contractId s.toDb = .ok (a, q)) :
    ExpenseStep s { s with toDb := q } := by
  simp only [associateContract, bind_eq_ok, pure, Except.pure, Except.ok.injEq, Prod.mk.injEq] at h
  obtain ⟨_, _, _, _, _, rfl⟩ := h
  exact .of_modify (contractedTrip now _) (fun _ => rfl) rfl rfl fun t _ => ⟨rfl, .inl ⟨rfl, rfl⟩⟩

theorem createVehicleRefuel_expense {payload : VehicleRefuelCreate}
    (h : createVehicleRefuel tenantId payload actorId s = .ok (a, p)) : ExpenseStep s p := by
  obtain ⟨cost, _, _, _, _, rfl⟩ := createVehicleRefuel_eq_ok h
  cases htrip : payload.tripId with
  | none => exact .of_same rfl rfl
  | some tripId =>
    cases cost with
    | none => exact .of_same rfl rfl
    | some fuel =>
      exact .of_modify (refuelledTrip fuel) (fun _ => rfl) rfl rfl
        fun t _ => ⟨rfl, .inl ⟨rfl, rfl⟩⟩

theorem createFuelLog_expense {payload : FuelLogCreate}
    (h : createFuelLog now tenantId payload s = .ok (a, p)) : ExpenseStep s p := by
  simp only [createFuelLog, bind_eq_ok, pure, Except.pure, Except.ok.injEq, Prod.mk.injEq] at h
  obtain ⟨_, _, _, _, _, _, _, _, _, _, _, _, _, rfl⟩ := h
  exact .of_same rfl rfl

theorem createDocument_expenses {payload : BillingDocumentCreate} :
    ExpensesKept db (createDocument now tenantId payload db).2 := by
  refine createDocument_pending (P := fun q => ExpensesKept db q) (.refl db)
    (fun contract => { ExpensesKept.refl db with }) ?_ (fun items q h => { h with })
  intro contract held tripId q b hkept hacc
  refine ⟨hkept.rows, fun {k t'} ht' => ?_⟩
  rw [addItem_get_trip] at ht'
  split at ht'
  · next hk =>
    subst hk
    obtain ⟨t, hget, rfl⟩ := Option.map_eq_some_iff.mp ht'
    obtain ⟨t₀, ht₀, hsame⟩ := hkept.trips hget
    exact ⟨t₀, ht₀, hsame⟩
  · exact hkept.trips ht'

theorem createDocumentRequest_expense {r : IdempotentRequest} {payload : BillingDocumentCreate}
    {body : UUID × List BillingItem → String} :
    ExpenseStep s
      { s with toDb := (serve (createDocumentRequest now r payload body) s.toDb).2 } := by
  have hkept : ExpensesKept s.toDb (serve (createDocumentRequest now r payload body) s.toDb).2 := by
    refine (keeps_executeHttpIdempotent (fun q keys h => { h with })
      fun q hq => ?_).serve (.refl s.toDb)
    have hstep : ExpensesKept q (createDocument now r.tenantId payload q).2 :=
      createDocument_expenses
    refine ⟨hstep.rows.trans hq.rows, fun ht => ?_⟩
    obtain ⟨t, ht, hten, htotal, hrec⟩ := hstep.trips ht
    obtain ⟨t₀, ht₀, hten₀, htotal₀, hrec₀⟩ := hq.trips ht
    exact ⟨t₀, ht₀, hten.trans hten₀, htotal.trans htotal₀, hrec.trans hrec₀⟩
  refine ⟨hkept.rows, fun ht => ?_⟩
  obtain ⟨t, ht, hten, htotal, hrec⟩ := hkept.trips ht
  exact ⟨t, ht, hten, .inl ⟨htotal, hrec⟩⟩

end Steps

/-! ## The call that records -/

section Recording

variable [Locale] {s p : Depot} {made : List CostCharge} {now : Instant} {tenantId tripId a : UUID}
  {actorId : Option UUID} {payload : TripCostCreate}

/-- An answered call repeats a row, and does nothing, or adds one and reconciles its trip. -/
theorem recordTripCost_eq_ok {db q : Db}
    (h : recordTripCost now tenantId tripId payload actorId db = .ok (a, q)) :
    ∃ trip, db.trips.get tripId = some trip ∧ trip.tenantId = tenantId ∧
      ((∃ r ∈ db.tripCosts, r.charge = payload.charge tenantId tripId ∧ q = db) ∨
      (∀ r ∈ db.tripCosts, r.tenantId = tenantId → r.requestReference ≠ payload.requestReference) ∧
        let tripCosts := db.tripCosts.insert (newTripCost tenantId tripId payload actorId)
        q = { db with
          tripCosts
          trips := db.trips.modify tripId
            (reconcileTripCosts now tenantId · { db with tripCosts }) }) := by
  simp only [recordTripCost, bind_eq_ok, requireTrip_eq_ok] at h
  obtain ⟨_, _, trip, ⟨htrip, hten⟩, h⟩ := h
  refine ⟨trip, htrip, hten, ?_⟩
  split at h
  · next existing hfound =>
    simp only [bind_eq_ok, raiseIf_eq_ok, Bool.not_eq_false', TripCost.repeats, Bool.and_eq_true,
      decide_eq_true_eq, pure, Except.pure, Except.ok.injEq, Prod.mk.injEq] at h
    obtain ⟨_, ⟨⟨⟨⟨htripId, _⟩, hamount⟩, _⟩, _⟩, _, rfl⟩ := h
    have hkey := List.find?_some hfound
    simp only [Bool.and_eq_true, decide_eq_true_eq] at hkey
    refine .inl ⟨existing, List.mem_of_find?_eq_some hfound, ?_, rfl⟩
    simp only [TripCost.charge, TripCostCreate.charge, hkey, htripId, hamount]
  · next hnone =>
    cases h
    refine .inr ⟨fun r hr hrten href => ?_, rfl⟩
    have := List.find?_eq_none.mp hnone r hr
    simp [hrten, href] at this

/-- A new cost: its reference is new, and its trip is reconciled with it. -/
theorem CountedOnce.insert (h : CountedOnce s made) {trip : Trip}
    (htrip : s.trips.get tripId = some trip)
    (hten : trip.tenantId = tenantId)
    (hnew : ∀ r ∈ s.tripCosts, r.tenantId = tenantId →
      r.requestReference ≠ payload.requestReference)
    (htrips : p.trips = s.trips.modify tripId (reconcileTripCosts now tenantId · { s.toDb with
      tripCosts := p.tripCosts }))
    (hrows : p.tripCosts = s.tripCosts.insert (newTripCost tenantId tripId payload actorId)) :
    CountedOnce p (made ++ [payload.charge tenantId tripId]) := by
  have hmem : ∀ r ∈ p.tripCosts, r ∈ s.tripCosts ∨
      r = newTripCost tenantId tripId payload actorId s.tripCosts.freshKey := by
    intro r hr
    rw [hrows] at hr
    exact (Table.mem_insert _ _ _).mp hr
  have hback : ∀ {k t'}, p.trips.get k = some t' → ∃ t, s.trips.get k = some t ∧
      t'.tenantId = t.tenantId ∧ (k = tripId ∧
        t'.totalExpenseCost = expenseTotal t.tenantId tripId p.toDb ∨ k ≠ tripId ∧ t' = t) := by
    intro k t' ht'
    rw [htrips] at ht'
    by_cases hk : k = tripId
    · subst hk
      rw [Table.get_modify_self htrip] at ht'
      obtain rfl := Option.some.inj ht'
      refine ⟨trip, htrip, rfl, .inl ⟨rfl, ?_⟩⟩
      rw [hten, ← Table.key_of_get htrip]
      rfl
    · rw [Table.get_modify_ne hk] at ht'
      exact ⟨t', ht', rfl, .inr ⟨hk, rfl⟩⟩
  have htenants : ∀ {k t'}, p.trips.get k = some t' → ∀ r ∈ p.tripCosts, r.tripId = k →
      r.tenantId = t'.tenantId := by
    intro k t' ht' r hr hk
    obtain ⟨t, ht, hkept, -⟩ := hback ht'
    rw [hkept]
    rcases hmem r hr with hold | rfl
    · exact h.tenants ht r hold hk
    · have hself : tripId = k := hk
      rw [← hself, htrip] at ht
      rw [← Option.some.inj ht]
      exact hten.symm
  constructor
  · intro ch
    rw [hrows, Table.rows_insert, List.map_append, List.mem_append, List.mem_append, h.rows ch]
    rfl
  · rw [hrows, Table.rows_insert, List.map_append, List.nodup_append]
    refine ⟨h.unique, List.nodup_singleton _, fun key hold key' hlast heq => ?_⟩
    obtain ⟨r, hr, rfl⟩ := List.mem_map.mp hold
    rw [List.map_singleton, List.mem_singleton] at hlast
    obtain ⟨hrten, href⟩ := Prod.mk.inj (heq.trans hlast)
    exact hnew r hr hrten href
  · exact htenants
  · intro k t' ht' hrec
    obtain ⟨t, ht, hkept, ⟨rfl, htotal⟩ | ⟨hk, rfl⟩⟩ := hback ht'
    · rw [htotal, ← hkept]
      exact expenseTotal_eq (htenants ht')
    · have hother : tripId ≠ k := fun he => hk he.symm
      rw [h.totals ht hrec]
      simp [recordedCosts, hrows, Table.sumWhere_insert, newTripCost, hother]

theorem recordTripCost_recorded (h : CountedOnce s made) :
    let call := MarginCall.recordTripCost now tenantId tripId payload actorId
    CountedOnce (call.step s) (made ++ (call.charge s).toList) := by
  intro call
  let service := Depot.onDb (recordTripCost now tenantId tripId payload actorId)
  rcases serve_atomic_cases (ofExcept service) s with ⟨a, p, hf, hp, hserve⟩ | ⟨e, hserve⟩
  · have hstep : call.step s = p := congrArg Prod.snd hserve
    have hcharge : call.charge s = some (payload.charge tenantId tripId) :=
      if_pos (by rw [hserve]; rfl)
    rw [hstep, hcharge, Option.toList_some]
    obtain ⟨q, hq, rfl⟩ := Depot.onDb_eq_ok.mp (ofExcept_ok.mp hf)
    obtain ⟨trip, htrip, hten, ⟨r, hr, hrepeats, rfl⟩ | ⟨hnew, rfl⟩⟩ := recordTripCost_eq_ok hq
    · -- the charge is one of the rows already
      refine ⟨fun ch => ?_, h.unique, h.tenants, h.totals⟩
      rw [List.mem_append, h.rows ch, List.mem_singleton]
      constructor
      · rintro (hold | rfl)
        · exact hold
        · exact List.mem_map.mpr ⟨r, hr, hrepeats⟩
      · exact .inl
    · exact h.insert htrip hten hnew rfl rfl
  · have hstep : call.step s = s := congrArg Prod.snd hserve
    have hcharge : call.charge s = none :=
      if_neg fun h => by
        rw [hserve] at h
        cases h
    rw [hstep, hcharge, Option.toList_none, List.append_nil]
    exact h

/-- A call with a recorded reference is answered with its row or refused. -/
theorem recordTripCost_again (h : CountedOnce s made) {ch : CostCharge} (hch : ch ∈ made)
    (hten : ch.tenantId = tenantId) (href : ch.requestReference = payload.requestReference) :
    (MarginCall.recordTripCost now tenantId tripId payload actorId).step s = s := by
  obtain ⟨r, hr, rfl⟩ := List.mem_map.mp ((h.rows ch).mp hch)
  refine perform_ind (P := fun p => p = s) rfl fun a p hrun => ?_
  obtain ⟨q, hq, rfl⟩ := Depot.onDb_eq_ok.mp hrun
  obtain ⟨_, -, -, ⟨_, -, -, rfl⟩ | ⟨hnew, -⟩⟩ := recordTripCost_eq_ok hq
  · rfl
  · exact absurd href (hnew r hr hten)

end Recording

/-! ## Runs -/

section Runs

variable {s : Depot} {made : List CostCharge}

theorem CountedOnce.quiet {p : Depot} (h : CountedOnce s made) (hstep : ExpenseStep s p) :
    CountedOnce p (made ++ (none : Option CostCharge).toList) := by
  rw [Option.toList_none, List.append_nil]
  exact h.keep hstep

variable [Locale]

theorem CountedOnce.step (h : CountedOnce s made) (call : MarginCall) :
    CountedOnce (call.step s) (made ++ (call.charge s).toList) := by
  cases call with
  | recordTripCost => exact recordTripCost_recorded h
  | reconcileTripCosts => exact h.quiet (.of_service fun _ _ hq => reconcileTrip_expense hq)
  | operationalCloseTrip =>
    exact h.quiet (.of_service fun _ _ hq => operationalCloseTrip_expense hq)
  | createFuelLog => exact h.quiet (perform_ind (.refl s) fun _ _ hp => createFuelLog_expense hp)
  | createVehicleRefuel =>
    exact h.quiet (perform_ind (.refl s) fun _ _ hp => createVehicleRefuel_expense hp)
  | associateContract => exact h.quiet (.of_service fun _ _ hq => associateContract_expense hq)
  | createWaiver => exact h.quiet (.of_service fun _ _ hq => createWaiver_expense hq)
  | revokeWaiver => exact h.quiet (.of_service fun _ _ hq => revokeWaiver_expense hq)
  | createBillingWaiver =>
    exact h.quiet (.of_service fun _ _ hq => createBillingWaiver_expense hq)
  | approveBillingWaiver =>
    exact h.quiet (.of_service fun _ _ hq => approveBillingWaiver_expense hq)
  | rejectBillingWaiver =>
    exact h.quiet (.of_service fun _ _ hq => rejectBillingWaiver_expense hq)
  | createDocument => exact h.quiet createDocumentRequest_expense

theorem CountedOnce.run (h : CountedOnce s made) (calls : List MarginCall) :
    CountedOnce (exec MarginCall.step s calls) (made ++ countedCharges s calls) := by
  induction calls generalizing s made with
  | nil => simpa [countedCharges] using h
  | cons call calls ih =>
    rw [exec_cons, countedCharges, ← List.append_assoc]
    exact ih (h.step call)

/-- Costs are counted once. In every state that calls lead to, from trips without costs: the
answered calls have one charge for each reference, a reconciled trip has the sum of its distinct
charges, as has any reconciliation of it, and a call with a recorded reference changes nothing. -/
theorem trip_costs_counted_once (hs : NoCosts s) (calls : List MarginCall) :
    (∀ ch ∈ countedCharges s calls, ∀ ch' ∈ countedCharges s calls, ch.tenantId = ch'.tenantId →
      ch.requestReference = ch'.requestReference → ch = ch') ∧
    (∀ tripId trip, (exec MarginCall.step s calls).trips.get tripId = some trip →
      (trip.reconciled = true → trip.totalExpenseCost =
        ∑ ch ∈ (countedCharges s calls).toFinset with ch.tripId = tripId, ch.amount) ∧
      ∀ now, (reconcileTripCosts now trip.tenantId trip
          (exec MarginCall.step s calls).toDb).totalExpenseCost =
        ∑ ch ∈ (countedCharges s calls).toFinset with ch.tripId = tripId, ch.amount) ∧
    (∀ now tenantId tripId payload actorId, ∀ ch ∈ countedCharges s calls, ch.tenantId = tenantId →
      ch.requestReference = payload.requestReference →
      (MarginCall.recordTripCost now tenantId tripId payload actorId).step
        (exec MarginCall.step s calls) = exec MarginCall.step s calls) := by
  have h : CountedOnce (exec MarginCall.step s calls) (countedCharges s calls) :=
    hs.recorded.run calls
  refine ⟨fun ch hch ch' hch' => h.inj hch hch',
    fun tripId trip ht => ⟨fun hrec => ?_, fun now => ?_⟩,
    fun now tenantId tripId payload actorId ch hch => recordTripCost_again h hch⟩
  · rw [← h.sum]
    exact h.totals ht hrec
  · rw [← h.sum, ← h.reconciles ht, ← Table.key_of_get ht]
    rfl

end Runs

/-- Tolls recorded, retried and recorded under another reference, with fuel between. -/
def tolledRun : List MarginCall :=
  let again : MarginCall := .recordTripCost 200 1 1
    { costType := "toll", amount := 3 / 2, requestReference := "R-2", incurredAt := 150 } none
  [tollCost 5, again, refuelTrip, tollCost 5, again]

theorem noCosts_tripDepot : NoCosts tripDepot where
  rows := rfl
  trips ht := by
    obtain ⟨ht, -⟩ := Table.get_eq_some_iff.mp ht
    obtain rfl := List.mem_singleton.mp ht
    rfl

theorem trip_costs_counted_once_tolled :
    @countedCharges .ascii tripDepot tolledRun = [⟨1, "R-1", 1, 500⟩, ⟨1, "R-2", 1, 150⟩,
      ⟨1, "R-1", 1, 500⟩, ⟨1, "R-2", 1, 150⟩] ∧
    ∀ ch ∈ @countedCharges .ascii tripDepot tolledRun,
      ∀ ch' ∈ @countedCharges .ascii tripDepot tolledRun, ch.tenantId = ch'.tenantId →
        ch.requestReference = ch'.requestReference → ch = ch' :=
  ⟨by decide +kernel, (@trip_costs_counted_once tripDepot .ascii noCosts_tripDepot tolledRun).1⟩

end Rotas
