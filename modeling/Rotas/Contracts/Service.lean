import Rotas.Data
import Rotas.Lib.Decimal
import Rotas.Lib.Run

/-!
# Rotas.Contracts.Service

Contracts, their state machine and their tariffs, and what the calls of their operations do to the
status and the dates. A price arrives as a float or a decimal of any length and the column rounds it
to the cent. No operation here, and no column of the contract, holds an IVA rate.

* `ContractCall`, `ContractCall.Lawful` — the calls; a lawful patch follows the table and orders the
  dates that it leaves, and a lawful renewal ends after the start.
* `FollowsTable`, `Contract.ordered` — a status goes along an edge of the table, or stays; a contract
  ends after it starts.
* `contract_life_cycle` — lawful calls follow the table and leave all dates in order.
* `terminated_patched` — a terminated contract is patched to be active.
-/

namespace Rotas

open Decimal Work

structure ContractCreate where
  clientId : Option UUID := none
  clientName : Option String := none
  contractReference : String
  billingBasis : String := "trip"
  defaultUnitPrice : Option ℚ := none
  startsAt : Option Instant := none
  endsAt : Option Instant := none
  /-- `validate_dates`. -/
  dates : (match startsAt, endsAt with | some a, some b => decide (a < b) | _, _ => true) = true

def contractNotFound : Exc := notFound "contract_not_found" "Contract not found."

/-- The contract of the tenant. -/
def requireContract (tenantId contractId : UUID) (db : Db) : Except Exc Contract := do
  let contract ← require (db.contracts.get contractId) contractNotFound
  raiseIf (contract.tenantId ≠ tenantId) contractNotFound
  return contract

theorem requireContract_eq_ok {tenantId contractId : UUID} {db : Db} {contract : Contract} :
    requireContract tenantId contractId db = .ok contract ↔
      db.contracts.get contractId = some contract ∧ contract.tenantId = tenantId := by
  simp only [requireContract, bind_eq_ok, require_eq_ok, raiseIf_eq_ok, pure, Except.pure,
    Except.ok.injEq, decide_eq_false_iff_not, Decidable.not_not]
  constructor
  · rintro ⟨_, hget, _, hten, rfl⟩
    exact ⟨hget, hten⟩
  · rintro ⟨hget, hten⟩
    exact ⟨contract, hget, (), hten, rfl⟩

/-- The name on the contract: the client's trading name, or the one given. -/
def resolveClientName (tenantId : UUID) (payload : ContractCreate) (db : Db) :
    Except Exc String :=
  match payload.clientId with
  | some clientId => do
    let missing := notFound "client_not_found" "Cliente não encontrado."
    let client ← require (db.clients.get clientId) missing
    raiseIf (client.tenantId ≠ tenantId) missing
    return client.tradingName
  | none => return payload.clientName.getD ""

def createContract (tenantId : UUID) (payload : ContractCreate) (db : Db) :
    Except Exc (UUID × Db) := do
  raiseIf (payload.clientId.isNone && (payload.clientName.getD "" = ""))
    (unprocessable "client_required" "Seleccione um cliente ou forneça o nome do cliente.")
  raiseIf (db.contracts.rows.any fun c =>
      c.tenantId = tenantId && c.contractReference = payload.contractReference)
    (conflict "contract_reference_exists" "Contract reference already exists for this tenant."
      [("contract_reference", .text payload.contractReference)])
  let clientName ← resolveClientName tenantId payload db
  let contract (id : UUID) : Contract :=
    { id, tenantId, clientName, clientId := payload.clientId
      contractReference := payload.contractReference, billingBasis := payload.billingBasis
      defaultUnitPrice := payload.defaultUnitPrice.map (numeric 2)
      startsAt := payload.startsAt, endsAt := payload.endsAt }
  return (db.contracts.freshKey, { db with contracts := db.contracts.insert contract })

/-- A patch sets the fields it names; a nullable one may be set to null. -/
structure ContractPatch where
  clientId : Option (Option UUID) := none
  clientName : Option (Option String) := none
  status : Option (Option String) := none
  billingBasis : Option (Option String) := none
  defaultUnitPrice : Option (Option ℚ) := none
  startsAt : Option (Option Instant) := none
  endsAt : Option (Option Instant) := none
  /-- `validate_dates`: of the two dates as far as the patch itself has them. -/
  dates : (match startsAt.join, endsAt.join with
    | some a, some b => decide (a < b)
    | _, _ => true) = true := by rfl

/-- Null in a column that is `NOT NULL`. -/
def ContractPatch.refused (payload : ContractPatch) : Bool :=
  payload.clientName = some none || payload.status = some none || payload.billingBasis = some none

def ContractPatch.apply (payload : ContractPatch) (c : Contract) : Contract :=
  { c with
    clientId := payload.clientId.getD c.clientId
    clientName := payload.clientName.join.getD c.clientName
    status := payload.status.join.getD c.status
    billingBasis := payload.billingBasis.join.getD c.billingBasis
    defaultUnitPrice := (payload.defaultUnitPrice.map (·.map (numeric 2))).getD c.defaultUnitPrice
    startsAt := payload.startsAt.getD c.startsAt
    endsAt := payload.endsAt.getD c.endsAt }

def patchContract (tenantId contractId : UUID) (payload : ContractPatch) (db : Db) :
    Except Exc (UUID × Db) := do
  let _ ← requireContract tenantId contractId db
  raiseIf payload.refused .integrityError
  return (contractId, { db with contracts := db.contracts.modify contractId payload.apply })

/-- `_CONTRACT_VALID_TRANSITIONS`; an unknown status allows nothing. -/
def contractValidTransitions : String → List String
  | "draft" => ["active"]
  | "active" => ["paused", "expired", "terminated"]
  | "paused" => ["active", "expired", "terminated"]
  | "expired" => ["active", "terminated"]
  | _ => []

def transitionContract (tenantId contractId : UUID) (newStatus : String)
    (terminationReason : Option String) (newEndsAt : Option Instant) (db : Db) :
    Except Exc (UUID × Db) := do
  let contract ← requireContract tenantId contractId db
  raiseIf (newStatus ∉ contractValidTransitions contract.status)
    (conflict "invalid_state_transition" ("Contract cannot transition from '" ++ contract.status ++
      "' to '" ++ newStatus ++ "'"))
  raiseIf (newStatus = "terminated" && terminationReason.getD "" = "")
    (unprocessable "termination_reason_required"
      "termination_reason is required when terminating a contract")
  let renewed := newStatus = "active" && contract.status = "expired"
  raiseIf (renewed && newEndsAt.isNone)
    (unprocessable "ends_at_required" "new_ends_at is required when renewing an expired contract")
  let endsAt := if renewed then newEndsAt else contract.endsAt
  return (contractId,
    { db with contracts := db.contracts.modify contractId ({ · with status := newStatus, endsAt }) })

/-- The contract is looked up once more by the transition. -/
def renewContract (tenantId contractId : UUID) (newEndsAt : Instant) (db : Db) :
    Except Exc (UUID × Db) := do
  let missing := notFound "contract_not_found" "Contract not found"
  let contract ← require (db.contracts.get contractId) missing
  raiseIf (contract.tenantId ≠ tenantId) missing
  transitionContract tenantId contractId "active" none (some newEndsAt) db

inductive RateBasis where
  | trip | ton | volume | km
  deriving DecidableEq

def RateBasis.text : RateBasis → String
  | .trip => "trip"
  | .ton => "ton"
  | .volume => "volume"
  | .km => "km"

structure ContractTariffCreate where
  knownRouteId : UUID
  rateBasis : RateBasis := .trip
  unitPrice : ℚ
  positive : 0 < unitPrice

def createContractTariff (tenantId contractId : UUID) (payload : ContractTariffCreate) (db : Db) :
    Except Exc (UUID × Db) := do
  let _ ← requireContract tenantId contractId db
  let missing := notFound "known_route_not_found" "Known route not found."
  let route ← require (db.knownRoutes.get payload.knownRouteId) missing
  raiseIf (route.tenantId ≠ tenantId) missing
  raiseIf (db.contractTariffs.rows.any fun t =>
      t.tenantId = tenantId && t.contractId = contractId && t.knownRouteId = payload.knownRouteId)
    (conflict "contract_tariff_exists" "A tariff for this route already exists in this contract.")
  let tariff (id : UUID) : ContractTariff :=
    { id, tenantId, contractId, knownRouteId := payload.knownRouteId
      rateBasis := payload.rateBasis.text, unitPrice := numeric 2 payload.unitPrice }
  return (db.contractTariffs.freshKey,
    { db with contractTariffs := db.contractTariffs.insert tariff })

/-- The tariff of the tenant's contract. -/
def requireTariff (tenantId contractId tariffId : UUID) (db : Db) : Except Exc ContractTariff := do
  let missing := notFound "contract_tariff_not_found" "Contract tariff not found."
  let tariff ← require (db.contractTariffs.get tariffId) missing
  raiseIf (tariff.tenantId ≠ tenantId || tariff.contractId ≠ contractId) missing
  return tariff

structure ContractTariffPatch where
  rateBasis : Option (Option RateBasis) := none
  unitPrice : Option (Option ℚ) := none

def ContractTariffPatch.refused (payload : ContractTariffPatch) : Bool :=
  payload.rateBasis = some none || payload.unitPrice = some none

def ContractTariffPatch.apply (payload : ContractTariffPatch) (t : ContractTariff) :
    ContractTariff :=
  { t with
    rateBasis := (payload.rateBasis.join.map RateBasis.text).getD t.rateBasis
    unitPrice := (payload.unitPrice.join.map (numeric 2)).getD t.unitPrice }

def updateContractTariff (tenantId contractId tariffId : UUID) (payload : ContractTariffPatch)
    (db : Db) : Except Exc (UUID × Db) := do
  let _ ← requireTariff tenantId contractId tariffId db
  raiseIf payload.refused .integrityError
  return (tariffId,
    { db with contractTariffs := db.contractTariffs.modify tariffId payload.apply })

def deleteContractTariff (tenantId contractId tariffId : UUID) (db : Db) :
    Except Exc (UUID × Db) := do
  let _ ← requireTariff tenantId contractId tariffId db
  return (tariffId, { db with contractTariffs := db.contractTariffs.erase tariffId })

inductive ContractCall where
  | create (tenantId : UUID) (payload : ContractCreate)
  | patch (tenantId contractId : UUID) (payload : ContractPatch)
  | transition (tenantId contractId : UUID) (newStatus : String)
      (terminationReason : Option String) (newEndsAt : Option Instant)
  | renew (tenantId contractId : UUID) (newEndsAt : Instant)

def ContractCall.run (call : ContractCall) : Db → Except Exc (UUID × Db) :=
  match call with
  | .create tenantId payload => createContract tenantId payload
  | .patch tenantId id payload => patchContract tenantId id payload
  | .transition tenantId id newStatus reason newEndsAt =>
    transitionContract tenantId id newStatus reason newEndsAt
  | .renew tenantId id newEndsAt => renewContract tenantId id newEndsAt

/-- The database after a call, served by a session of its own. -/
def contractStep (db : Db) (call : ContractCall) : Db := perform call.run db

/-- The status stays or goes along an edge of `_CONTRACT_VALID_TRANSITIONS`. -/
def FollowsTable (c c' : Contract) : Prop :=
  c'.status = c.status ∨ c'.status ∈ contractValidTransitions c.status

/-- A contract with both dates ends after it starts. -/
def Contract.ordered (c : Contract) : Prop :=
  ∀ startsAt endsAt, c.startsAt = some startsAt → c.endsAt = some endsAt → startsAt < endsAt

/-- The end of a renewed contract is after its start. -/
def renewsInOrder (c : Contract) (newEndsAt : Option Instant) : Prop :=
  c.status = "expired" → ∀ startsAt endsAt, c.startsAt = some startsAt → newEndsAt = some endsAt →
    startsAt < endsAt

def ContractCall.Lawful (db : Db) (call : ContractCall) : Prop :=
  match call with
  | .create _ _ => True
  | .patch tenantId id payload => ∀ c, requireContract tenantId id db = .ok c →
      (∀ status, payload.status = some (some status) →
        status = c.status ∨ status ∈ contractValidTransitions c.status) ∧
      ∀ startsAt endsAt, payload.startsAt.getD c.startsAt = some startsAt →
        payload.endsAt.getD c.endsAt = some endsAt → startsAt < endsAt
  | .transition tenantId id newStatus _ newEndsAt => ∀ c, requireContract tenantId id db = .ok c →
      newStatus = "active" → renewsInOrder c newEndsAt
  | .renew tenantId id newEndsAt => ∀ c, requireContract tenantId id db = .ok c →
      renewsInOrder c (some newEndsAt)

variable {db : Db} {call : ContractCall}

/-- A call changes nothing, adds a contract with its dates in order, or rewrites one that it
finds. -/
theorem contractStep_cases (db : Db) (call : ContractCall) (hlawful : call.Lawful db) :
    contractStep db call = db ∨
    (∃ mk hk, (∀ id, (mk id).ordered) ∧
      contractStep db call = { db with contracts := db.contracts.insert mk hk }) ∨
    ∃ id c f hf, db.contracts.get id = some c ∧ FollowsTable c (f c) ∧ (c.ordered → (f c).ordered) ∧
      contractStep db call = { db with contracts := db.contracts.modify id f hf } := by
  have htransition : ∀ {tenantId id newStatus reason newEndsAt r},
      transitionContract tenantId id newStatus reason newEndsAt db = .ok r →
      (∀ c, requireContract tenantId id db = .ok c → newStatus = "active" →
        renewsInOrder c newEndsAt) →
      ∃ c f hf, db.contracts.get id = some c ∧ FollowsTable c (f c) ∧ (c.ordered → (f c).ordered) ∧
        r.2 = { db with contracts := db.contracts.modify id f hf } := by
    intro tenantId id newStatus reason newEndsAt r hr hrenews
    simp only [transitionContract, bind_eq_ok, raiseIf_eq_ok, pure, Except.pure,
      Except.ok.injEq] at hr
    obtain ⟨c, hc, _, hedge, _, -, _, -, rfl⟩ := hr
    refine ⟨c, _, _, (requireContract_eq_ok.mp hc).1, .inr (by simpa using hedge), ?_, rfl⟩
    intro hordered startsAt endsAt hstart hend
    simp only at hstart hend
    split at hend
    · next hrenewed =>
      simp only [Bool.and_eq_true, decide_eq_true_eq] at hrenewed
      exact hrenews c hc hrenewed.1 hrenewed.2 startsAt endsAt hstart hend
    · exact hordered startsAt endsAt hstart hend
  rcases perform_cases call.run db with hsame | ⟨a, hrun, -⟩
  · exact .inl hsame
  · change call.run db = .ok (a, contractStep db call) at hrun
    cases call with
    | create tenantId payload =>
      simp only [ContractCall.run, createContract, bind_eq_ok, pure, Except.pure,
        Except.ok.injEq, Prod.mk.injEq] at hrun
      obtain ⟨_, -, _, -, clientName, -, -, hdb⟩ := hrun
      refine .inr (.inl ⟨_, _, fun id startsAt endsAt hstart hend => ?_, hdb.symm⟩)
      have hdates := payload.dates
      simp only at hstart hend
      rw [hstart, hend] at hdates
      exact of_decide_eq_true hdates
    | patch tenantId id payload =>
      simp only [ContractCall.run, patchContract, bind_eq_ok, raiseIf_eq_ok, pure, Except.pure,
        Except.ok.injEq, Prod.mk.injEq] at hrun
      obtain ⟨c, hc, _, -, -, hdb⟩ := hrun
      obtain ⟨hstatus, hdates⟩ := hlawful c hc
      refine .inr (.inr ⟨id, c, payload.apply, _, (requireContract_eq_ok.mp hc).1, ?_,
        fun _ => hdates, hdb.symm⟩)
      cases hnew : payload.status.join with
      | none => exact .inl (by simp [ContractPatch.apply, hnew])
      | some status =>
        have happly : (payload.apply c).status = status := by simp [ContractPatch.apply, hnew]
        rw [FollowsTable, happly]
        exact hstatus status (Option.join_eq_some_iff.mp hnew)
    | transition tenantId id newStatus reason newEndsAt =>
      obtain ⟨c, f, hf, hget, hfollows, hordered, hdb⟩ := htransition hrun hlawful
      exact .inr (.inr ⟨id, c, f, hf, hget, hfollows, hordered, hdb⟩)
    | renew tenantId id newEndsAt =>
      simp only [ContractCall.run, renewContract, bind_eq_ok] at hrun
      obtain ⟨c, -, _, -, hrun⟩ := hrun
      obtain ⟨c, f, hf, hget, hfollows, hordered, hdb⟩ :=
        htransition hrun fun c hc _ => hlawful c hc
      exact .inr (.inr ⟨id, c, f, hf, hget, hfollows, hordered, hdb⟩)

theorem moves_followsTable : Lifecycle.Moves (fun db : Db => db.contracts.get) contractStep
    (fun db call => call.Lawful db) FollowsTable := by
  intro db call hlawful k c hc
  rcases contractStep_cases db call hlawful with hsame | ⟨mk, hk, -, hnew⟩ |
    ⟨id, c₀, f, hf, hc₀, hfollows, -, hmodified⟩
  · exact ⟨c, by rw [hsame, hc], .inl rfl⟩
  · rw [hnew]
    exact ⟨c, Table.get_insert_of_get _ mk hk hc, .inl rfl⟩
  · rw [hmodified]
    refine ⟨_, Table.get_modify_of_get f hf hc, ?_⟩
    split
    · next hk =>
      subst hk
      cases hc₀.symm.trans hc
      exact .inr hfollows
    · exact .inl rfl

/-- The dates of all contracts are in order. -/
def DatesInOrder (db : Db) : Prop := ∀ c ∈ db.contracts, c.ordered

theorem datesInOrder_step (h : DatesInOrder db) (hlawful : call.Lawful db) :
    DatesInOrder (contractStep db call) := by
  rcases contractStep_cases db call hlawful with hsame | ⟨mk, hk, hmk, hnew⟩ |
    ⟨id, c₀, f, hf, hc₀, -, hordered, hmodified⟩
  · rwa [hsame]
  · rw [hnew]
    exact (Table.forall_mem_insert _ mk hk).mpr ⟨h, hmk _⟩
  · rw [hmodified]
    intro c hc
    change c ∈ db.contracts.modify id f hf at hc
    obtain ⟨c₁, hc₁, hkey, rfl⟩ | ⟨hc, -⟩ := Table.mem_modify_cases hc
    · have heq : c₁ = c₀ :=
        Table.eq_of_key hc₁ (Table.mem_of_get hc₀) (hkey.trans (Table.key_of_get hc₀).symm)
      subst heq
      exact hordered (h c₁ hc₁)
    · exact h c hc

/-- What a step does to the contracts that it finds, and the dates that it leaves. -/
def StepsInOrder (db : Db) (call : ContractCall) : Prop :=
  (∀ id c, db.contracts.get id = some c →
    ∃ c', (contractStep db call).contracts.get id = some c' ∧ FollowsTable c c') ∧
  DatesInOrder (contractStep db call)

/-- In a run of lawful calls every status goes along the table, a terminated contract stays
terminated, and the dates of all contracts stay in order. -/
theorem contract_life_cycle {calls : List ContractCall} (hdates : DatesInOrder db)
    (hlawful : Run.Along contractStep (fun db call => call.Lawful db) db calls) :
    Run.Along contractStep StepsInOrder db calls ∧
      ∀ id c, db.contracts.get id = some c → c.status = "terminated" →
        ∃ c', (Run.exec contractStep db calls).contracts.get id = some c' ∧
          c'.status = "terminated" := by
  constructor
  · refine Run.along_inv (fun db call h => datesInOrder_step h) (fun db call h hlawful => ?_)
      hdates hlawful
    refine ⟨fun id c hc => ?_, datesInOrder_step h hlawful⟩
    obtain ⟨c', hc', hfollows⟩ := moves_followsTable db call hlawful id c hc
    exact ⟨c', hc', hfollows.elim (fun heq => heq ▸ .inl rfl) fun h => h⟩
  · intro id c hc hterminated
    have hkeeps : Lifecycle.Moves (fun db : Db => db.contracts.get) contractStep
        (fun db call => call.Lawful db) fun c c' => c.status = "terminated" →
          c'.status = "terminated" ∧ c'.status = c.status := by
      refine moves_followsTable.mono fun c c' hfollows hc => ?_
      rw [FollowsTable, hc] at hfollows
      have hstatus : c'.status = "terminated" := hfollows.resolve_right List.not_mem_nil
      exact ⟨hstatus, hstatus.trans hc.symm⟩
    obtain ⟨c', hc', hstatus, -⟩ := Lifecycle.exec_keeps hkeeps hc hterminated hlawful
    exact ⟨c', hc', hstatus⟩

/-- A contract from day 100 to day 200. -/
def dated : ContractCreate where
  clientName := some "Ana"
  contractReference := "C-1"
  startsAt := some 100
  endsAt := some 200
  dates := rfl

theorem contract_life_cycle_terminated :
    Run.Along contractStep StepsInOrder {}
      [.create 9 dated, .transition 9 1 "terminated" (some "closed") none] := by
  have hlawful : Run.Along contractStep (fun db call => call.Lawful db) {}
      [.create 9 dated, .transition 9 1 "terminated" (some "closed") none] :=
    ⟨trivial, fun c _ hactive => absurd hactive (by decide), trivial⟩
  exact (contract_life_cycle (fun c hc => absurd hc (Table.not_mem_empty c)) hlawful).1

/-- A terminated contract is patched to be active, and to end before it starts. -/
theorem terminated_patched :
    ∃ c c', (Run.exec contractStep {}
        [.create 9 dated, .transition 9 1 "terminated" (some "closed") none]).contracts.get 1 =
          some c ∧
      (Run.exec contractStep {}
        [.create 9 dated, .transition 9 1 "terminated" (some "closed") none,
          .patch 9 1 { status := some (some "active"), endsAt := some (some 50) }]).contracts.get 1 =
          some c' ∧
      c.status = "terminated" ∧ c'.status = "active" ∧ ¬ FollowsTable c c' ∧ ¬ c'.ordered := by
  refine ⟨_, _, rfl, rfl, rfl, rfl, by unfold FollowsTable; decide, fun h => ?_⟩
  exact absurd (h 100 50 rfl rfl) (by decide)

end Rotas
