import Rotas.Contracts.Service

/-!
# Rotas.Contracts.Transitions

The status transition of a contract as it works on the object that the session holds, with the
columns that only a transition writes. `transition_contract` sets the status before it asks for
the new end of an expired contract, so that this one refusal leaves the object changed.

* `ContractObject` — a contract with those columns.
* `transitionContract` — the answer, and the object as it is left.
* `Transitioned` — the edge that was followed, and every field of the object after it.
* `TransitionCall.work` — the call on a session; the router or `renew_contract` fetches the
  contract.
* `transition_atomic_iff` — a call follows an edge or leaves the session as it was, unless it
  renews an expired contract without an end.
* `transition_agrees` — a session that is dropped after a refusal does not show the difference.
-/

namespace Rotas.Contracts

open Work

/-- A contract with the columns of its state machine. -/
structure ContractObject extends Contract where
  pausedAt : Option Instant := none
  terminatedAt : Option Instant := none
  terminationReason : Option String := none
  renewedAt : Option Instant := none

instance : Keyed ContractObject := ⟨fun c => c.id⟩

/-- What `record_audit_log` adds for a transition. -/
structure AuditLog where
  tenantId : UUID
  userId : UUID
  action : String
  entityId : UUID
  oldStatus : String
  newStatus : String

structure ContractFile where
  contracts : Table ContractObject := ∅
  auditLogs : List AuditLog := []

/-- `uq_contracts_tenant_reference`. -/
def ContractFile.ok (file : ContractFile) : Bool :=
  file.contracts.rows.all fun c => file.contracts.rows.all fun c' =>
    c.id = c'.id || c.tenantId ≠ c'.tenantId || c.contractReference ≠ c'.contractReference

instance : Store ContractFile Exc := ⟨ContractFile.ok, .integrityError⟩

def invalidStateTransition (oldStatus newStatus : String) : Exc :=
  conflict "invalid_state_transition" ("Contract cannot transition from '" ++ oldStatus ++
    "' to '" ++ newStatus ++ "'")

def terminationReasonRequired : Exc :=
  unprocessable "termination_reason_required"
    "termination_reason is required when terminating a contract"

def endsAtRequired : Exc :=
  unprocessable "ends_at_required" "new_ends_at is required when renewing an expired contract"

/-- The answer, and the contract object as the call leaves it. -/
def transitionContract (contract : ContractObject) (newStatus : String) (userId tenantId : UUID)
    (terminationReason : Option String) (newEndsAt : Option Instant) (now : Instant) :
    Except Exc AuditLog × ContractObject :=
  if newStatus ∉ contractValidTransitions contract.status then
    (.error (invalidStateTransition contract.status newStatus), contract)
  else if newStatus = "terminated" ∧ terminationReason.getD "" = "" then
    (.error terminationReasonRequired, contract)
  else
    let oldStatus := contract.status
    let contract := { contract with status := newStatus }
    let auditLog : AuditLog :=
      { tenantId, userId, action := "contract." ++ newStatus, entityId := contract.id
        oldStatus, newStatus }
    if newStatus = "paused" then (.ok auditLog, { contract with pausedAt := some now })
    else if newStatus = "active" ∧ oldStatus = "paused" then
      (.ok auditLog, { contract with pausedAt := none })
    else if newStatus = "active" ∧ oldStatus = "expired" then
      match newEndsAt with
      -- the status is set already
      | none => (.error endsAtRequired, contract)
      | some endsAt => (.ok auditLog, { contract with endsAt := some endsAt, renewedAt := some now })
    else if newStatus = "terminated" then
      (.ok auditLog, { contract with terminatedAt := some now, terminationReason })
    else (.ok auditLog, contract)

/-! ## One transition -/

/-- The transition has followed an edge of the table and written all fields that go with it. -/
structure Transitioned (contract : ContractObject) (newStatus : String)
    (terminationReason : Option String) (newEndsAt : Option Instant) (now : Instant)
    (contract' : ContractObject) : Prop where
  edge : newStatus ∈ contractValidTransitions contract.status
  /-- The fields that no transition writes. -/
  others : contract'.toContract =
    { contract.toContract with status := newStatus, endsAt := contract'.endsAt }
  pausedAt : contract'.pausedAt = if newStatus = "paused" then some now
    else if contract.status = "paused" ∧ newStatus = "active" then none else contract.pausedAt
  renewed : contract.status = "expired" → newStatus = "active" →
    newEndsAt.isSome ∧ contract'.endsAt = newEndsAt ∧ contract'.renewedAt = some now
  notRenewed : ¬ (contract.status = "expired" ∧ newStatus = "active") →
    contract'.endsAt = contract.endsAt ∧ contract'.renewedAt = contract.renewedAt
  terminated : newStatus = "terminated" → terminationReason.getD "" ≠ "" ∧
    contract'.terminatedAt = some now ∧ contract'.terminationReason = terminationReason
  notTerminated : newStatus ≠ "terminated" → contract'.terminatedAt = contract.terminatedAt ∧
    contract'.terminationReason = contract.terminationReason

/-- A renewal of an expired contract that names no new end. -/
def renewsWithoutEnd (contract : ContractObject) (newStatus : String)
    (newEndsAt : Option Instant) : Prop :=
  contract.status = "expired" ∧ newStatus = "active" ∧ newEndsAt = none

section Transition

variable {contract contract' : ContractObject} {newStatus : String} {userId tenantId : UUID}
  {terminationReason : Option String} {newEndsAt : Option Instant} {now : Instant}

theorem transitionContract_ok {auditLog : AuditLog}
    (h : transitionContract contract newStatus userId tenantId terminationReason newEndsAt now =
      (.ok auditLog, contract')) :
    Transitioned contract newStatus terminationReason newEndsAt now contract' := by
  simp only [transitionContract] at h
  split at h
  · cases h
  next hedge =>
  split at h
  · cases h
  next hreason =>
  rw [not_not] at hedge
  split at h
  · next hpaused =>
    obtain rfl := (Prod.mk.inj h).2
    subst hpaused
    constructor <;> simp [hedge]
  next hpaused =>
  split at h
  · next hresumed =>
    obtain ⟨hnew, hold⟩ := hresumed
    obtain rfl := (Prod.mk.inj h).2
    subst hnew
    constructor <;> simp [hold]
    simp [contractValidTransitions]
  next hresumed =>
  split at h
  · next hrenewed =>
    obtain ⟨hnew, hold⟩ := hrenewed
    subst hnew
    cases newEndsAt with
    | none => cases h
    | some endsAt =>
      obtain rfl := (Prod.mk.inj h).2
      constructor <;> simp [hold]
      simp [contractValidTransitions]
  next hrenewed =>
  split at h
  · next hterminated =>
    obtain rfl := (Prod.mk.inj h).2
    subst hterminated
    constructor <;> simp_all
  next hterminated =>
  obtain rfl := (Prod.mk.inj h).2
  constructor <;> grind

theorem transitionContract_error {e : Exc}
    (h : transitionContract contract newStatus userId tenantId terminationReason newEndsAt now =
      (.error e, contract')) :
    (newStatus ∉ contractValidTransitions contract.status ∧
      e = invalidStateTransition contract.status newStatus ∧ contract' = contract) ∨
    (newStatus ∈ contractValidTransitions contract.status ∧
      (newStatus = "terminated" ∧ terminationReason.getD "" = "") ∧
      e = terminationReasonRequired ∧ contract' = contract) ∨
    (renewsWithoutEnd contract newStatus newEndsAt ∧ e = endsAtRequired) := by
  simp only [transitionContract] at h
  split at h
  · next hedge =>
    obtain ⟨he, hleft⟩ := Prod.mk.inj h
    exact .inl ⟨hedge, (Except.error.inj he).symm, hleft.symm⟩
  next hedge =>
  split at h
  · next hreason =>
    obtain ⟨he, hleft⟩ := Prod.mk.inj h
    exact .inr (.inl ⟨not_not.mp hedge, hreason, (Except.error.inj he).symm, hleft.symm⟩)
  split at h
  · cases h
  split at h
  · cases h
  split at h
  · next hrenewed =>
    cases newEndsAt with
    | none =>
      exact .inr (.inr ⟨⟨hrenewed.2, hrenewed.1, rfl⟩, (Except.error.inj (Prod.mk.inj h).1).symm⟩)
    | some endsAt => cases h
  split at h
  · cases h
  · cases h

theorem transitionContract_withoutEnd (h : renewsWithoutEnd contract newStatus newEndsAt) :
    transitionContract contract newStatus userId tenantId terminationReason newEndsAt now =
      (.error endsAtRequired, { contract with status := "active" }) := by
  obtain ⟨hold, rfl, rfl⟩ := h
  simp [transitionContract, hold, contractValidTransitions]

/-- Whatever it answers, a transition keeps the key of the contract and its reference. -/
theorem transitionContract_keeps (contract : ContractObject) (newStatus : String)
    (userId tenantId : UUID) (terminationReason : Option String) (newEndsAt : Option Instant)
    (now : Instant) :
    let left := (transitionContract contract newStatus userId tenantId terminationReason newEndsAt
      now).2
    left.id = contract.id ∧ left.tenantId = contract.tenantId ∧
      left.contractReference = contract.contractReference := by
  intro left
  rcases hcall : transitionContract contract newStatus userId tenantId terminationReason newEndsAt
    now with ⟨answer, contract'⟩
  have hleft : left = contract' := congrArg Prod.snd hcall
  rw [hleft]
  cases answer with
  | ok auditLog =>
    have hothers := (transitionContract_ok hcall).others
    rw [hothers]
    exact ⟨rfl, rfl, rfl⟩
  | error e =>
    rcases transitionContract_error hcall with ⟨-, -, rfl⟩ | ⟨-, -, -, rfl⟩ | ⟨hwithout, -⟩
    · exact ⟨rfl, rfl, rfl⟩
    · exact ⟨rfl, rfl, rfl⟩
    · rw [transitionContract_withoutEnd hwithout] at hcall
      obtain rfl := (Prod.mk.inj hcall).2
      exact ⟨rfl, rfl, rfl⟩

end Transition

/-! ## Calls on a session -/

/-- The router's call, for any status, and `renew_contract`. -/
inductive TransitionCall where
  | transition (tenantId contractId userId : UUID) (newStatus : String)
      (terminationReason : Option String) (newEndsAt : Option Instant)
  | renew (tenantId contractId userId : UUID) (newEndsAt : Instant)

namespace TransitionCall

def tenantId : TransitionCall → UUID
  | .transition tenantId _ _ _ _ _ => tenantId
  | .renew tenantId _ _ _ => tenantId

def contractId : TransitionCall → UUID
  | .transition _ contractId _ _ _ _ => contractId
  | .renew _ contractId _ _ => contractId

def userId : TransitionCall → UUID
  | .transition _ _ userId _ _ _ => userId
  | .renew _ _ userId _ => userId

def newStatus : TransitionCall → String
  | .transition _ _ _ newStatus _ _ => newStatus
  | .renew .. => "active"

def terminationReason : TransitionCall → Option String
  | .transition _ _ _ _ terminationReason _ => terminationReason
  | .renew .. => none

def newEndsAt : TransitionCall → Option Instant
  | .transition _ _ _ _ _ newEndsAt => newEndsAt
  | .renew _ _ _ newEndsAt => some newEndsAt

/-- The transition of a contract that was fetched. -/
def answer (call : TransitionCall) (now : Instant) (contract : ContractObject) :
    Except Exc AuditLog × ContractObject :=
  transitionContract contract call.newStatus call.userId call.tenantId call.terminationReason
    call.newEndsAt now

/-- `db.get`, for a contract of the tenant. -/
def fetch (call : TransitionCall) (file : ContractFile) : Except Exc ContractObject := do
  let missing := notFound "contract_not_found" "Contract not found"
  let contract ← require (file.contracts.get call.contractId) missing
  raiseIf (contract.tenantId ≠ call.tenantId) missing
  return contract

theorem answer_key (call : TransitionCall) (now : Instant) (contract : ContractObject) :
    Keyed.key (call.answer now contract).2 = Keyed.key contract :=
  (transitionContract_keeps contract ..).1

/-- The contracts of the session, with the one of the call as the transition leaves it. -/
def rewrites (call : TransitionCall) (now : Instant) (contracts : Table ContractObject) :
    Table ContractObject :=
  contracts.modify call.contractId (fun c => (call.answer now c).2) (call.answer_key now)

/-- The file with the object as the transition leaves it, and with its audit log if it answers. -/
def run (call : TransitionCall) (now : Instant) (file : ContractFile) :
    Except Exc AuditLog × ContractFile :=
  match call.fetch file with
  | .error e => (.error e, file)
  | .ok contract =>
    let contracts := call.rewrites now file.contracts
    match (call.answer now contract).1 with
    | .error e => (.error e, { file with contracts })
    | .ok auditLog => (.ok auditLog, { contracts, auditLogs := file.auditLogs ++ [auditLog] })

def work (call : TransitionCall) (now : Instant) : Work ContractFile Exc AuditLog :=
  onPending (call.run now)

/-- The contract that the call finds is expired, is to be active and is given no end. -/
def WithoutEnd (call : TransitionCall) (file : ContractFile) : Prop :=
  ∃ contract, call.fetch file = .ok contract ∧
    renewsWithoutEnd contract call.newStatus call.newEndsAt

/-- The call answers, and the contract has gone along an edge with all its fields, which the next
commit publishes; or it raises, and nothing that the session does later can tell. -/
def Atomic (call : TransitionCall) (now : Instant) (s : Session ContractFile) : Prop :=
  match call.work now s with
  | (.ok auditLog, s') => ∃ contract contract', call.fetch s.pending = .ok contract ∧
      Transitioned contract call.newStatus call.terminationReason call.newEndsAt now contract' ∧
      s'.pending.contracts.get call.contractId = some contract' ∧
      (∀ id, id ≠ call.contractId →
        s'.pending.contracts.get id = s.pending.contracts.get id) ∧
      s'.pending.auditLogs = s.pending.auditLogs ++ [auditLog] ∧
      s'.committed = s.committed ∧
      (Store.ok s.pending = true →
        (commit : Work ContractFile Exc Unit) s' = (.ok (), ⟨s'.pending, s'.pending⟩))
  | (.error _, s') => s' = s ∧
      ∀ later : Work ContractFile Exc AuditLog,
        Work.tryCatch (call.work now) (fun _ => some later) s = later s

variable {call : TransitionCall} {now : Instant} {s : Session ContractFile}
  {contract contract' : ContractObject}

theorem fetch_eq_ok {file : ContractFile} :
    call.fetch file = .ok contract ↔ file.contracts.get call.contractId = some contract ∧
      contract.tenantId = call.tenantId := by
  simp only [fetch, bind_eq_ok, require_eq_ok, raiseIf_eq_ok, pure, Except.pure,
    Except.ok.injEq, decide_eq_false_iff_not, Decidable.not_not]
  constructor
  · rintro ⟨_, hget, _, hten, rfl⟩
    exact ⟨hget, hten⟩
  · rintro ⟨hget, hten⟩
    exact ⟨contract, hget, (), hten, rfl⟩

theorem work_of_missing {e : Exc} (hfetch : call.fetch s.pending = .error e) :
    call.work now s = (.error e, s) := by
  simp only [work, onPending, run, hfetch]

theorem work_of_ok {auditLog : AuditLog} (hfetch : call.fetch s.pending = .ok contract)
    (hcall : call.answer now contract = (.ok auditLog, contract')) :
    call.work now s = (.ok auditLog, ⟨s.committed,
      { contracts := call.rewrites now s.pending.contracts
        auditLogs := s.pending.auditLogs ++ [auditLog] }⟩) := by
  simp only [work, onPending, run, hfetch, hcall]

theorem work_of_error {e : Exc} (hfetch : call.fetch s.pending = .ok contract)
    (hcall : call.answer now contract = (.error e, contract')) :
    call.work now s = (.error e, ⟨s.committed,
      { s.pending with contracts := call.rewrites now s.pending.contracts }⟩) := by
  simp only [work, onPending, run, hfetch, hcall]

/-- The references stay unique, since a transition rewrites no reference. -/
theorem ok_rewrites {file : ContractFile} {auditLogs : List AuditLog} (hok : file.ok = true) :
    ContractFile.ok { contracts := call.rewrites now file.contracts, auditLogs } = true := by
  have hkeeps : ∀ c : ContractObject,
      let c' := if Keyed.key c = call.contractId then (call.answer now c).2 else c
      c'.id = c.id ∧ c'.tenantId = c.tenantId ∧ c'.contractReference = c.contractReference := by
    intro c c'
    by_cases hkey : Keyed.key c = call.contractId
    · have hleft : c' = (call.answer now c).2 := if_pos hkey
      rw [hleft]
      exact transitionContract_keeps c ..
    · have hleft : c' = c := if_neg hkey
      rw [hleft]
      exact ⟨rfl, rfl, rfl⟩
  simp only [ContractFile.ok, rewrites, Table.rows_modify, List.all_map, List.all_eq_true,
    Function.comp_apply] at hok ⊢
  intro c hc c' hc'
  have hpair := hok c hc c' hc'
  obtain ⟨hid, hten, href⟩ := hkeeps c
  obtain ⟨hid', hten', href'⟩ := hkeeps c'
  rw [hid, hten, href, hid', hten', href']
  exact hpair

theorem get_rewrites {contracts : Table ContractObject}
    (hget : contracts.get call.contractId = some contract) :
    (call.rewrites now contracts).get call.contractId = some (call.answer now contract).2 := by
  rw [rewrites, Table.get_modify_self hget]

theorem get_rewrites_ne {contracts : Table ContractObject} {id : UUID}
    (hne : id ≠ call.contractId) : (call.rewrites now contracts).get id = contracts.get id := by
  rw [rewrites, Table.get_modify_ne hne]

theorem rewrites_eq_self {contracts : Table ContractObject}
    (hget : contracts.get call.contractId = some contract)
    (hsame : (call.answer now contract).2 = contract) : call.rewrites now contracts = contracts := by
  rw [rewrites, Table.modify, Table.modifyAll_eq_self]
  intro c hc hkey
  have hc' : contracts.get call.contractId = some c :=
    Table.get_eq_some_iff.mpr ⟨hc, of_decide_eq_true hkey⟩
  obtain rfl := Option.some.inj (hget.symm.trans hc')
  exact hsame

/-- A refused call that leaves the object as it was leaves the session as it was. -/
theorem work_eq_self {e : Exc} (hfetch : call.fetch s.pending = .ok contract)
    (hcall : call.answer now contract = (.error e, contract)) :
    call.work now s = (.error e, s) := by
  rw [work_of_error hfetch hcall, rewrites_eq_self (fetch_eq_ok.mp hfetch).1]
  rw [hcall]

/-- A renewal without an end raises, and the session has the contract as active. -/
theorem work_withoutEnd (hfetch : call.fetch s.pending = .ok contract)
    (hwithout : renewsWithoutEnd contract call.newStatus call.newEndsAt) :
    ∃ s', call.work now s = (.error endsAtRequired, s') ∧
      ∃ c, s'.pending.contracts.get call.contractId = some c ∧ c.status = "active" := by
  have hcall : call.answer now contract = (.error endsAtRequired,
      { contract with toContract := { contract.toContract with status := "active" } }) :=
    transitionContract_withoutEnd hwithout
  refine ⟨_, work_of_error hfetch hcall, _, get_rewrites (fetch_eq_ok.mp hfetch).1, ?_⟩
  rw [hcall]

theorem atomic_of_error {e : Exc} (hwork : call.work now s = (.error e, s)) :
    call.Atomic now s := by
  rw [Atomic, hwork]
  refine ⟨rfl, fun later => ?_⟩
  rw [tryCatch_of_error hwork]

theorem atomic_of_ok {auditLog : AuditLog} (hfetch : call.fetch s.pending = .ok contract)
    (hcall : call.answer now contract = (.ok auditLog, contract')) : call.Atomic now s := by
  rw [Atomic, work_of_ok hfetch hcall]
  refine ⟨contract, contract', hfetch, transitionContract_ok hcall, ?_, ?_, rfl, rfl, ?_⟩
  · rw [get_rewrites (fetch_eq_ok.mp hfetch).1, hcall]
  · intro id hne
    exact get_rewrites_ne hne
  · intro hok
    exact commit_of_ok (ok_rewrites hok)

/-- A transition is atomic, but for the renewal of an expired contract that names no new end: this
one is refused after the status was set. -/
theorem transition_atomic_iff (call : TransitionCall) (now : Instant) (s : Session ContractFile) :
    call.Atomic now s ↔ ¬ call.WithoutEnd s.pending := by
  constructor
  · rintro hatomic ⟨contract, hfetch, hwithout⟩
    obtain ⟨s', hwork, c, hget, hactive⟩ := work_withoutEnd hfetch hwithout
    rw [Atomic, hwork] at hatomic
    rw [hatomic.1, (fetch_eq_ok.mp hfetch).1] at hget
    obtain rfl := Option.some.inj hget
    exact absurd (hwithout.1.symm.trans hactive) (by decide)
  · intro hnamed
    cases hfetch : call.fetch s.pending with
    | error e => exact atomic_of_error (work_of_missing hfetch)
    | ok contract =>
      rcases hcall : call.answer now contract with ⟨answer, contract'⟩
      cases answer with
      | ok auditLog => exact atomic_of_ok hfetch hcall
      | error e =>
        rcases transitionContract_error hcall with ⟨-, -, rfl⟩ | ⟨-, -, -, rfl⟩ | ⟨hwithout, -⟩
        · exact atomic_of_error (work_eq_self hfetch hcall)
        · exact atomic_of_error (work_eq_self hfetch hcall)
        · exact absurd ⟨contract, hfetch, hwithout⟩ hnamed

end TransitionCall

def expiredFile : ContractFile where
  contracts := .single
    { id := 1, tenantId := 1, clientName := "Cliente", contractReference := "C-1"
      status := "expired" }

/-- The router's action `renew`, without `new_ends_at`. -/
def renewal : TransitionCall := .transition 1 1 1 "active" none none

/-- The renewal is refused, and a commit in the same session makes the contract active. -/
theorem refused_status_committed :
    ((renewal.work 0 ⟨expiredFile, expiredFile⟩).1 = .error endsAtRequired ∧
      ¬ renewal.Atomic 0 ⟨expiredFile, expiredFile⟩) ∧
    ((serve (Work.tryCatch (renewal.work 0 >>= fun _ => pure ()) fun _ => some commit)
      expiredFile).2.contracts.get 1).map (·.status) = some "active" :=
  ⟨⟨rfl, fun h => absurd (congrArg (fun s => (s.pending.contracts.get 1).map (·.status)) h.1)
    (by decide)⟩, rfl⟩

/-! ## The database after one request -/

section Request

variable {tenantId contractId userId : UUID} {newStatus : String} {now : Instant}
  {terminationReason : Option String} {newEndsAt : Option Instant}
  {contract contract' : ContractObject} {db : Db}

/-- The checks of a transition, made before anything is written. -/
theorem transitionContract_of_found
    (hfound : requireContract tenantId contractId db = .ok contract.toContract) :
    Rotas.transitionContract tenantId contractId newStatus terminationReason newEndsAt db =
      if newStatus ∉ contractValidTransitions contract.status then
        .error (invalidStateTransition contract.status newStatus)
      else if newStatus = "terminated" ∧ terminationReason.getD "" = "" then
        .error terminationReasonRequired
      else if (newStatus = "active" ∧ contract.status = "expired") ∧ newEndsAt = none then
        .error endsAtRequired
      else .ok (contractId, { db with
        contracts := db.contracts.modify contractId ({ · with
          status := newStatus
          endsAt := if newStatus = "active" ∧ contract.status = "expired" then newEndsAt
            else contract.endsAt }) }) := by
  rw [Rotas.transitionContract, hfound]
  by_cases hedge : newStatus ∈ contractValidTransitions contract.status
  · by_cases hreason : newStatus = "terminated" ∧ terminationReason.getD "" = ""
    · simp only [bind, Except.bind, raiseIf]
      simp [hreason.1 ▸ hedge, hreason, terminationReasonRequired]
    · by_cases hend : (newStatus = "active" ∧ contract.status = "expired") ∧ newEndsAt = none
      · obtain ⟨⟨rfl, hold⟩, rfl⟩ := hend
        simp only [bind, Except.bind, raiseIf]
        simp [hold, contractValidTransitions, endsAtRequired]
      · simp only [bind, Except.bind, raiseIf, pure, Except.pure]
        simp [hedge, hreason, hend]
  · simp only [bind, Except.bind, raiseIf]
    simp [hedge, invalidStateTransition]

/-- The checks before and after the assignments refuse as one list of checks would, with the same
exception, and the row that is committed is the same. -/
theorem transition_agrees (hten : contract.tenantId = tenantId)
    (hget : db.contracts.get contractId = some contract.toContract) :
    match transitionContract contract newStatus userId tenantId terminationReason newEndsAt now with
    | (.ok _, contract') => ∃ db', Rotas.transitionContract tenantId contractId newStatus
          terminationReason newEndsAt db = .ok (contractId, db') ∧
        db'.contracts.get contractId = some contract'.toContract
    | (.error e, _) => Rotas.transitionContract tenantId contractId newStatus
          terminationReason newEndsAt db = .error e := by
  have hfound : requireContract tenantId contractId db = .ok contract.toContract :=
    requireContract_eq_ok.mpr ⟨hget, hten⟩
  rcases hcall : transitionContract contract newStatus userId tenantId terminationReason newEndsAt
    now with ⟨answer, contract'⟩
  cases answer with
  | ok auditLog =>
    have hdone := transitionContract_ok hcall
    have hreason : ¬ (newStatus = "terminated" ∧ terminationReason.getD "" = "") :=
      fun ⟨hnew, hnone⟩ => (hdone.terminated hnew).1 hnone
    have hend : ¬ ((newStatus = "active" ∧ contract.status = "expired") ∧ newEndsAt = none) := by
      rintro ⟨⟨hnew, hold⟩, rfl⟩
      cases (hdone.renewed hold hnew).1
    rw [transitionContract_of_found hfound, if_neg (not_not.mpr hdone.edge), if_neg hreason,
      if_neg hend]
    refine ⟨_, rfl, ?_⟩
    rw [Table.get_modify_self hget, hdone.others]
    by_cases hrenews : newStatus = "active" ∧ contract.status = "expired"
    · rw [if_pos hrenews, (hdone.renewed hrenews.2 hrenews.1).2.1]
    · rw [if_neg hrenews, (hdone.notRenewed fun h => hrenews ⟨h.2, h.1⟩).1]
  | error e =>
    rw [transitionContract_of_found hfound]
    rcases transitionContract_error hcall with
      ⟨hedge, rfl, -⟩ | ⟨hedge, hreason, rfl, -⟩ | ⟨⟨hold, rfl, rfl⟩, rfl⟩
    · rw [if_pos hedge]
    · rw [if_neg (not_not.mpr hedge), if_pos hreason]
    · simp [hold, contractValidTransitions]

end Request

def expiredContract : ContractObject where
  id := 1
  tenantId := 1
  clientName := "Cliente"
  contractReference := "C-1"
  status := "expired"

theorem transition_agrees_expired :
    let db : Db := { contracts := .single expiredContract.toContract }
    match transitionContract expiredContract "active" 1 1 none none 0 with
    | (.ok _, contract') => ∃ db', Rotas.transitionContract 1 1 "active" none none db =
        .ok (1, db') ∧ db'.contracts.get 1 = some contract'.toContract
    | (.error e, _) => Rotas.transitionContract 1 1 "active" none none db = .error e :=
  @transition_agrees 1 1 1 "active" 0 none none expiredContract _ rfl rfl

end Rotas.Contracts
