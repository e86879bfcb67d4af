import Rotas.Core.Idempotency
import Rotas.Lib.Interleave

/-!
# Rotas.Core.IdempotencyTurns

`execute_http_idempotent` as calls that run at the same time: the reservation, the commits of the
handler, the stored response and the deleted reservation are separate turns.

* `IdempotentCall`, `CallPhase`, `CallAction`, `callTurn` — the turns of one call.
* `KeysSound` — what the rows of the keys say about the handlers that succeeded.
* `Knows` — what a call knows in each phase.
* `answers_once` — one success for each key, and its response for everybody.
* `KeyStore.releases` — a turn that leaves no key behind.
* `retries_served` — where all turns are so, a failed call leaves its key free.
* `stuck_forever` — one other exception, and the key is refused in every later state.
-/

namespace Rotas

open Interleave

/-! ## Calls -/

/-- What `canonical_request_hash` hashes; the payload is JSON with sorted keys. -/
structure Canonical where
  operation : String
  entityType : String
  payload : String
  deriving DecidableEq

structure IdempotentCall where
  tenantId : UUID
  idempotencyKey : String
  canonical : Canonical
  expiresAt : Instant
  deriving DecidableEq

/-- The call, as the handlers' wrapper sees it. -/
def IdempotentCall.request (canonicalRequestHash : Canonical → String) (r : IdempotentCall) :
    IdempotentRequest where
  tenantId := r.tenantId
  idempotencyKey := some r.idempotencyKey
  operation := r.canonical.operation
  entityType := r.canonical.entityType
  requestHash := canonicalRequestHash r.canonical
  expiresAt := r.expiresAt

/-- The two columns of the unique constraint. -/
def IdempotentCall.key (r : IdempotentCall) : UUID × String := (r.tenantId, r.idempotencyKey)

def IdempotencyKey.key (k : IdempotencyKey) : UUID × String := (k.tenantId, k.idempotencyKey)

/-- A handler that returned, with its effects committed. -/
structure Success where
  call : IdempotentCall
  response : Response

/-- What is committed, the handlers that have succeeded, and the call that inserted each key. -/
structure KeyStore where
  db : Db
  successes : List Success := []
  owner : UUID → Nat := fun _ => 0

inductive CallPhase where
  | idle
  /-- The key is reserved and the handler runs. -/
  | handling (r : IdempotentCall) (id : UUID)
  | handled (r : IdempotentCall) (id : UUID) (response : Response)
  /-- The handler raised an `ApiError`, with changes that it had not committed. -/
  | refused (r : IdempotentCall) (id : UUID) (left : Db → Db)
  /-- The insert of the key was refused and rolled back. -/
  | taken (r : IdempotentCall)
  | answered (r : IdempotentCall) (body : String)
  | failed (r : IdempotentCall)

inductive CallAction where
  | call (r : IdempotentCall)
  | lookup
  /-- A commit of the handler. -/
  | handlerCommit (f : Db → Db)
  | succeed (response : Response)
  | raiseApiError (left : Db → Db)
  /-- Any other exception, in the handler (a refused commit too) or in the encoding of its
  response. -/
  | raiseOther
  | storeResponse
  | deleteReserved

/-- The key that the call has reserved and has not finished with. -/
def CallPhase.reserved : CallPhase → Option (IdempotentCall × UUID)
  | .handling r id => some (r, id)
  | .handled r id _ => some (r, id)
  | .refused r id _ => some (r, id)
  | _ => none

/-- The reserved key of a call whose handler has not succeeded. -/
def CallPhase.unsuccessful : CallPhase → Option IdempotentCall
  | .handling r _ => some r
  | .refused r _ _ => some r
  | _ => none

def CallPhase.request : CallPhase → Option IdempotentCall
  | .idle => none
  | .handling r _ => some r
  | .handled r _ _ => some r
  | .refused r _ _ => some r
  | .taken r => some r
  | .answered r _ => some r
  | .failed r => some r

/-- The database with changes of a handler, who has no business with the keys. -/
def KeyStore.withChanges (s : KeyStore) (f : Db → Db) : Db :=
  { f s.db with idempotencyKeys := s.db.idempotencyKeys }

/-- A commit, and the phase after it; a refused one raises. -/
def KeyStore.publish (s : KeyStore) (r : IdempotentCall) (db : Db) (next : CallPhase) :
    KeyStore × CallPhase :=
  if db.ok then ({ s with db }, next) else (s, .failed r)

/-- The turn of call `i`; `none` when the step is not its next. -/
def callTurn (canonicalRequestHash : Canonical → String) (i : Nat) (act : CallAction)
    (s : KeyStore) (p : CallPhase) : Option (KeyStore × CallPhase) :=
  match act, p with
  | .call r, .idle =>
    let db := reserve (r.request canonicalRequestHash) r.idempotencyKey s.db
    if !keyFits r.idempotencyKey then some (s, .failed r)
    else if db.ok then
      let id := s.db.idempotencyKeys.freshKey
      some ({ s with db, owner := Function.update s.owner id i }, .handling r id)
    else some (s, .taken r)
  | .lookup, .taken r =>
    match replay (r.request canonicalRequestHash) r.idempotencyKey s.db with
    | .ok body => some (s, .answered r body)
    | .error _ => some (s, .failed r)
  | .handlerCommit f, .handling r id =>
    let db := s.withChanges f
    if db.ok then some ({ s with db }, .handling r id) else none
  | .succeed response, .handling r id =>
    some ({ s with successes := s.successes ++ [⟨r, response⟩] }, .handled r id response)
  | .raiseApiError left, .handling r id => some (s, .refused r id left)
  | .raiseOther, .handling r _ => some (s, .failed r)
  | .raiseOther, .handled r _ _ => some (s, .failed r)
  | .storeResponse, .handled r id response =>
    some (s.publish r (storeResponse id response s.db) (.answered r response.body))
  | .deleteReserved, .refused r id left =>
    -- The commit of the deletion takes with it what the handler has left in the session.
    some (s.publish r (releaseKey id (s.withChanges left)) (.failed r))
  | _, _ => none

def callStart (db : Db) : Config KeyStore CallPhase := ⟨{ db }, fun _ => .idle⟩

def callRun (canonicalRequestHash : Canonical → String) (db : Db)
    (ms : List (Nat × CallAction)) : Config KeyStore CallPhase :=
  Run.exec (move (callTurn canonicalRequestHash)) (callStart db) ms

/-! ## The rows of the keys -/

section Rows

variable {db : Db} {r : IdempotentCall} {canonicalRequestHash : Canonical → String} {id : UUID}
  {response : Response}

theorem uniqueOk_iff : db.uniqueOk = true ↔
    (db.fiscalCounters.rows.map fun c => (c.tenantId, c.fiscalYear, c.docType)).Nodup ∧
      (db.idempotencyKeys.rows.map IdempotencyKey.key).Nodup := by
  simp only [Db.uniqueOk, Bool.and_eq_true, decide_eq_true_eq]
  rfl

theorem eq_of_reservedKey (hok : db.ok = true) {k k' : IdempotencyKey} (hk : k ∈ db.idempotencyKeys)
    (hk' : k' ∈ db.idempotencyKeys) (hkey : k.key = k'.key) : k = k' :=
  List.inj_on_of_nodup_map (uniqueOk_iff.mp (Db.ok_iff.mp hok).unique).2 hk hk' hkey

theorem ok_releaseKey (hok : db.ok = true) : (releaseKey id db).ok = true := by
  have h := Db.ok_iff.mp hok
  obtain ⟨hcounters, hkeys⟩ := uniqueOk_iff.mp h.unique
  have hunique : (releaseKey id db).uniqueOk = true :=
    uniqueOk_iff.mpr ⟨hcounters, hkeys.sublist (List.filter_sublist.map _)⟩
  exact Db.ok_iff.mpr { h with unique := hunique }

theorem ok_storeResponse (hok : db.ok = true) : (storeResponse id response db).ok = true := by
  have h := Db.ok_iff.mp hok
  obtain ⟨hcounters, hkeys⟩ := uniqueOk_iff.mp h.unique
  have hsame : (storeResponse id response db).idempotencyKeys.rows.map IdempotencyKey.key =
      db.idempotencyKeys.rows.map IdempotencyKey.key := by
    simp only [storeResponse, Table.rows_modify, List.map_map]
    refine List.map_congr_left fun k _ => ?_
    simp only [Function.comp_apply]
    split <;> rfl
  have hunique : (storeResponse id response db).uniqueOk = true :=
    uniqueOk_iff.mpr ⟨hcounters, by rw [hsame]; exact hkeys⟩
  exact Db.ok_iff.mpr { h with unique := hunique }

theorem mem_erase {k : IdempotencyKey} :
    k ∈ (releaseKey id db).idempotencyKeys ↔ k ∈ db.idempotencyKeys ∧ k.id ≠ id := by
  simp [releaseKey, Table.erase, Table.mem_def, Keyed.key]

/-- What `storeResponse` writes in the row. -/
def IdempotencyKey.answer (response : Response) (k : IdempotencyKey) : IdempotencyKey :=
  { k with
    responseBody := some response.body
    statusCode := some 200
    entityId := response.id.or k.entityId }

theorem mem_storeResponse_cases {k : IdempotencyKey}
    (h : k ∈ (storeResponse id response db).idempotencyKeys) :
    (∃ k₀ ∈ db.idempotencyKeys, k₀.id = id ∧ k = k₀.answer response) ∨
      (k ∈ db.idempotencyKeys ∧ k.id ≠ id) := by
  simp only [storeResponse] at h
  exact Table.mem_modify_cases h

theorem mem_storeResponse_of_ne {k : IdempotencyKey} (hk : k ∈ db.idempotencyKeys)
    (hne : k.id ≠ id) : k ∈ (storeResponse id response db).idempotencyKeys := by
  simp only [storeResponse, Table.mem_modify]
  exact ⟨k, hk, if_neg hne⟩

/-- The row that the call inserts. -/
def IdempotentCall.row (canonicalRequestHash : Canonical → String) (r : IdempotentCall)
    (id : UUID) : IdempotencyKey :=
  (r.request canonicalRequestHash).row r.idempotencyKey id

theorem mem_reserve {k : IdempotencyKey} :
    k ∈ (reserve (r.request canonicalRequestHash) r.idempotencyKey db).idempotencyKeys ↔
      k ∈ db.idempotencyKeys ∨ k = r.row canonicalRequestHash db.idempotencyKeys.freshKey := by
  simp only [reserve, Table.mem_insert]
  rfl

theorem reserve_of_row {k : IdempotencyKey} (hk : k ∈ db.idempotencyKeys) (hkey : k.key = r.key) :
    (reserve (r.request canonicalRequestHash) r.idempotencyKey db).ok = false := by
  rw [Bool.eq_false_iff]
  intro hok
  have hlt : k.id < db.idempotencyKeys.freshKey := Table.key_lt_freshKey hk
  have heq := eq_of_reservedKey hok (mem_reserve.mpr (.inl hk)) (mem_reserve.mpr (.inr rfl)) hkey
  rw [heq] at hlt
  exact Nat.lt_irrefl _ hlt

/-- The call answers with what is stored only if the hashes agree. -/
theorem replay_eq_ok {body : String}
    (h : replay (r.request canonicalRequestHash) r.idempotencyKey db = .ok body) :
    ∃ k ∈ db.idempotencyKeys, k.key = r.key ∧
      k.requestHash = canonicalRequestHash r.canonical ∧ k.responseBody = some body := by
  simp only [replay] at h
  split at h
  · cases h
  · next k hk =>
    have hkey := List.find?_some hk
    simp only [Bool.and_eq_true, decide_eq_true_eq] at hkey
    have hmem : k ∈ db.idempotencyKeys := List.mem_of_find?_eq_some hk
    split at h
    · cases h
    · next hhash =>
      split at h
      · cases h
      · next body' hbody =>
        cases h
        exact ⟨k, hmem, Prod.ext hkey.1 hkey.2, not_not.mp hhash, hbody⟩

end Rows

/-! ## What a turn does -/

/-- The turns of call `i` in the store `s`: the phase before, the store and the phase after. -/
inductive CallStep (canonicalRequestHash : Canonical → String) (i : Nat) (s : KeyStore) :
    CallAction → CallPhase → KeyStore → CallPhase → Prop where
  | tooLong (r : IdempotentCall) : CallStep canonicalRequestHash i s (.call r) .idle s (.failed r)
  | reserved (r : IdempotentCall) (hfits : keyFits r.idempotencyKey = true)
      (hok : (reserve (r.request canonicalRequestHash) r.idempotencyKey s.db).ok = true) :
      CallStep canonicalRequestHash i s (.call r) .idle
        { s with
          db := reserve (r.request canonicalRequestHash) r.idempotencyKey s.db
          owner := Function.update s.owner s.db.idempotencyKeys.freshKey i }
        (.handling r s.db.idempotencyKeys.freshKey)
  | taken (r : IdempotentCall) : CallStep canonicalRequestHash i s (.call r) .idle s (.taken r)
  | replayed (r : IdempotentCall) (body : String)
      (hbody : replay (r.request canonicalRequestHash) r.idempotencyKey s.db = .ok body) :
      CallStep canonicalRequestHash i s .lookup (.taken r) s (.answered r body)
  | conflict (r : IdempotentCall) :
      CallStep canonicalRequestHash i s .lookup (.taken r) s (.failed r)
  | committed (r : IdempotentCall) (id : UUID) (f : Db → Db) (db : Db) (hok : db.ok = true)
      (hkeys : db.idempotencyKeys = s.db.idempotencyKeys) :
      CallStep canonicalRequestHash i s (.handlerCommit f) (.handling r id) { s with db }
        (.handling r id)
  | succeeded (r : IdempotentCall) (id : UUID) (response : Response) :
      CallStep canonicalRequestHash i s (.succeed response) (.handling r id)
        { s with successes := s.successes ++ [⟨r, response⟩] } (.handled r id response)
  | refused (r : IdempotentCall) (id : UUID) (left : Db → Db) :
      CallStep canonicalRequestHash i s (.raiseApiError left) (.handling r id) s
        (.refused r id left)
  | raised (r : IdempotentCall) (id : UUID) :
      CallStep canonicalRequestHash i s .raiseOther (.handling r id) s (.failed r)
  | unencodable (r : IdempotentCall) (id : UUID) (response : Response) :
      CallStep canonicalRequestHash i s .raiseOther (.handled r id response) s (.failed r)
  | stored (r : IdempotentCall) (id : UUID) (response : Response) :
      CallStep canonicalRequestHash i s .storeResponse (.handled r id response)
        { s with db := storeResponse id response s.db } (.answered r response.body)
  | deleted (r : IdempotentCall) (id : UUID) (left : Db → Db) (db : Db) (hok : db.ok = true)
      (hkeys : db.idempotencyKeys = (releaseKey id s.db).idempotencyKeys) :
      CallStep canonicalRequestHash i s .deleteReserved (.refused r id left) { s with db }
        (.failed r)
  | leftBehind (r : IdempotentCall) (id : UUID) (left : Db → Db)
      (hrefused : (s.withChanges left).ok ≠ true) :
      CallStep canonicalRequestHash i s .deleteReserved (.refused r id left) s (.failed r)

theorem callStep_of_turn {canonicalRequestHash : Canonical → String} {i : Nat} {act : CallAction}
    {s s' : KeyStore} {p p' : CallPhase} (hok : s.db.ok = true)
    (h : callTurn canonicalRequestHash i act s p = some (s', p')) :
    CallStep canonicalRequestHash i s act p s' p' := by
  simp only [callTurn, KeyStore.publish, ok_storeResponse hok, if_true] at h
  split at h
  · split at h
    · cases h; exact .tooLong _
    · next hfits =>
      split at h
      · next hres => cases h; exact .reserved _ (by simpa using hfits) hres
      · cases h; exact .taken _
  · split at h
    · next hbody => cases h; exact .replayed _ _ hbody
    · cases h; exact .conflict _
  · split at h
    · next hcommit => cases h; exact .committed _ _ _ _ hcommit rfl
    · cases h
  · cases h; exact .succeeded _ _ _
  · cases h; exact .refused _ _ _
  · cases h; exact .raised _ _
  · cases h; exact .unencodable _ _ _
  · cases h; exact .stored _ _ _
  · split at h
    · next hcommit => cases h; exact .deleted _ _ _ _ hcommit rfl
    · next hrefused =>
      cases h
      exact .leftBehind _ _ _ fun hchanges => hrefused (ok_releaseKey hchanges)
  · cases h

/-! ## What holds in every interleaving -/

/-- The row is one that the call could have inserted. -/
structure Reserves (canonicalRequestHash : Canonical → String) (r : IdempotentCall)
    (k : IdempotencyKey) : Prop where
  key : k.key = r.key
  hash : k.requestHash = canonicalRequestHash r.canonical

structure KeysSound (canonicalRequestHash : Canonical → String) (R : Set Canonical)
    (s : KeyStore) : Prop where
  ok : s.db.ok = true
  stored : ∀ k ∈ s.db.idempotencyKeys, ∀ body, k.responseBody = some body →
    ∃ e ∈ s.successes, Reserves canonicalRequestHash e.call k ∧ e.response.body = body
  succeeded : ∀ e ∈ s.successes, ∃ k ∈ s.db.idempotencyKeys, k.key = e.call.key
  once : (s.successes.map (·.call.key)).Nodup
  known : ∀ e ∈ s.successes, e.call.canonical ∈ R

structure Knows (canonicalRequestHash : Canonical → String) (R : Set Canonical) (i : Nat)
    (s : KeyStore) (p : CallPhase) : Prop where
  owns : ∀ {r id}, p.reserved = some (r, id) → s.owner id = i ∧ ∃ k ∈ s.db.idempotencyKeys,
    k.id = id ∧ Reserves canonicalRequestHash r k ∧ k.responseBody = none
  fits : ∀ {r id}, p.reserved = some (r, id) → keyFits r.idempotencyKey = true
  free : ∀ {r}, p.unsuccessful = some r → ∀ e ∈ s.successes, e.call.key ≠ r.key
  succeeded : ∀ {r id response}, p = .handled r id response → ⟨r, response⟩ ∈ s.successes
  answered : ∀ {r body}, p = .answered r body → ∃ e ∈ s.successes,
    e.call.key = r.key ∧ e.call.canonical = r.canonical ∧ e.response.body = body
  known : ∀ {r}, p.request = some r → r.canonical ∈ R

/-- The turn leaves no key behind: no handler raises anything but an `ApiError`, and the database
takes what one that raised it has not committed. -/
def KeyStore.releases (s : KeyStore) : CallAction → CallPhase → Bool
  | .raiseOther, _ => false
  | .deleteReserved, .refused _ _ left => (s.withChanges left).ok
  | _, _ => true

/-- A key without a response is one that its call is still working on. -/
def UnderWay (i : Nat) (s : KeyStore) (p : CallPhase) : Prop :=
  ∀ k ∈ s.db.idempotencyKeys, k.responseBody = none → s.owner k.id = i →
    ∃ r, p.reserved = some (r, k.id)

/-- The rows of call `j`, and whether its key has succeeded, are left alone. -/
structure LeavesCall (j : Nat) (s s' : KeyStore) : Prop where
  kept : ∀ k ∈ s.db.idempotencyKeys, s.owner k.id = j →
    k ∈ s'.db.idempotencyKeys ∧ s'.owner k.id = j
  noneNew : ∀ k ∈ s'.db.idempotencyKeys, s'.owner k.id = j →
    k ∈ s.db.idempotencyKeys ∧ s.owner k.id = j
  grows : ∀ e ∈ s.successes, e ∈ s'.successes
  apart : ∀ e ∈ s'.successes, e ∈ s.successes ∨
    ∃ k ∈ s.db.idempotencyKeys, k.key = e.call.key ∧ s.owner k.id ≠ j

section LeavesCall

variable {canonicalRequestHash : Canonical → String} {R : Set Canonical} {i j : Nat}
  {s s' : KeyStore} {p : CallPhase} {r : IdempotentCall} {id : UUID} {response : Response}

theorem Knows.leavesCall (hs : s.db.ok = true) (h : Knows canonicalRequestHash R j s p)
    (hu : LeavesCall j s s') : Knows canonicalRequestHash R j s' p where
  owns hp := by
    obtain ⟨hown, k, hk, rfl, hres, hnone⟩ := h.owns hp
    exact ⟨(hu.kept k hk hown).2, k, (hu.kept k hk hown).1, rfl, hres, hnone⟩
  fits := h.fits
  free {r} hp e he := by
    rcases hu.apart e he with he | ⟨k, hk, hkey, hother⟩
    · exact h.free hp e he
    · have hreserved : ∃ id, p.reserved = some (r, id) := by
        cases p <;> simp [CallPhase.unsuccessful] at hp <;> simp [CallPhase.reserved, hp]
      obtain ⟨id, hid⟩ := hreserved
      obtain ⟨hown, k', hk', rfl, hres, _⟩ := h.owns hid
      intro hsame
      have heq := eq_of_reservedKey hs hk hk' ((hkey.trans hsame).trans hres.key.symm)
      rw [heq] at hother
      exact hother hown
  succeeded hp := hu.grows _ (h.succeeded hp)
  answered hp := by
    obtain ⟨e, he, hsame⟩ := h.answered hp
    exact ⟨e, hu.grows e he, hsame⟩
  known := h.known

theorem UnderWay.leavesCall (h : UnderWay j s p) (hu : LeavesCall j s s') : UnderWay j s' p := by
  intro k hk hnone hown
  obtain ⟨hk, hown⟩ := hu.noneNew k hk hown
  exact h k hk hnone hown

theorem leavesCall_of_eq (hkeys : s'.db.idempotencyKeys = s.db.idempotencyKeys)
    (howner : s'.owner = s.owner) (hsuccesses : s'.successes = s.successes) :
    LeavesCall j s s' where
  kept k hk hown := ⟨by rw [hkeys]; exact hk, by rw [howner]; exact hown⟩
  noneNew k hk hown := ⟨by rw [← hkeys]; exact hk, by rw [← howner]; exact hown⟩
  grows e he := by rw [hsuccesses]; exact he
  apart e he := .inl (by rw [← hsuccesses]; exact he)

theorem leavesCall_reserve (hj : j ≠ i) (hdb : s'.db =
      reserve (r.request canonicalRequestHash) r.idempotencyKey s.db)
    (howner : s'.owner = Function.update s.owner s.db.idempotencyKeys.freshKey i)
    (hsuccesses : s'.successes = s.successes) : LeavesCall j s s' where
  kept k hk hown := by
    have hlt : k.id < s.db.idempotencyKeys.freshKey := Table.key_lt_freshKey hk
    rw [hdb, howner, mem_reserve, Function.update_of_ne (Nat.ne_of_lt hlt)]
    exact ⟨.inl hk, hown⟩
  noneNew k hk hown := by
    rw [hdb, mem_reserve] at hk
    rw [howner] at hown
    rcases hk with hk | rfl
    · have hlt : k.id < s.db.idempotencyKeys.freshKey := Table.key_lt_freshKey hk
      rw [Function.update_of_ne (Nat.ne_of_lt hlt)] at hown
      exact ⟨hk, hown⟩
    · exact absurd ((Function.update_self ..).symm.trans hown).symm hj
  grows e he := by rw [hsuccesses]; exact he
  apart e he := .inl (by rw [← hsuccesses]; exact he)

theorem leavesCall_succeed (hj : j ≠ i) {k : IdempotencyKey} (hk : k ∈ s.db.idempotencyKeys)
    (hkey : k.key = r.key) (hown : s.owner k.id = i) :
    LeavesCall j s { s with successes := s.successes ++ [⟨r, response⟩] } where
  kept _ hk hown := ⟨hk, hown⟩
  noneNew _ hk hown := ⟨hk, hown⟩
  grows _ he := List.mem_append_left _ he
  apart e he := by
    rcases List.mem_append.mp he with he | he
    · exact .inl he
    · rw [List.mem_singleton.mp he]
      exact .inr ⟨k, hk, hkey, by rw [hown]; exact hj.symm⟩

theorem leavesCall_storeResponse (hj : j ≠ i) (hown : s.owner id = i) :
    LeavesCall j s { s with db := storeResponse id response s.db } where
  kept k hk hk' := by
    have hne : k.id ≠ id := by
      rintro rfl
      exact hj (hk'.symm.trans hown)
    exact ⟨mem_storeResponse_of_ne hk hne, hk'⟩
  noneNew k hk hk' := by
    rcases mem_storeResponse_cases hk with ⟨k₀, _, hid, rfl⟩ | ⟨hk, _⟩
    · exact absurd (hk'.symm.trans ((congrArg s.owner hid).trans hown)) hj
    · exact ⟨hk, hk'⟩
  grows _ he := he
  apart _ he := .inl he

theorem leavesCall_releaseKey (hj : j ≠ i) (hown : s.owner id = i) {db : Db}
    (hkeys : db.idempotencyKeys = (releaseKey id s.db).idempotencyKeys) :
    LeavesCall j s { s with db } where
  kept k hk hk' := by
    have hne : k.id ≠ id := by
      rintro rfl
      exact hj (hk'.symm.trans hown)
    exact ⟨hkeys ▸ mem_erase.mpr ⟨hk, hne⟩, hk'⟩
  noneNew k hk hk' := ⟨(mem_erase.mp (hkeys ▸ hk)).1, hk'⟩
  grows _ he := he
  apart _ he := .inl he

end LeavesCall

/-! ## One turn -/

section Turn

variable {canonicalRequestHash : Canonical → String} {R : Set Canonical} {i j : Nat}
  {act : CallAction} {s s' : KeyStore} {p p' : CallPhase}

theorem CallStep.leavesCall (h : CallStep canonicalRequestHash i s act p s' p')
    (hp : Knows canonicalRequestHash R i s p) (hj : j ≠ i) : LeavesCall j s s' := by
  cases h with
  | reserved r hfits hok => exact leavesCall_reserve hj rfl rfl rfl
  | succeeded r id response =>
    obtain ⟨hown, k, hk, rfl, hres, _⟩ := hp.owns rfl
    exact leavesCall_succeed hj hk hres.key hown
  | stored r id response => exact leavesCall_storeResponse hj (hp.owns rfl).1
  | deleted r id left db hok hkeys => exact leavesCall_releaseKey hj (hp.owns rfl).1 hkeys
  | committed r id f db hok hkeys => exact leavesCall_of_eq hkeys rfl rfl
  | _ => exact leavesCall_of_eq rfl rfl rfl

/-- A reserved key is new, so no handler has succeeded under it. -/
theorem no_success_of_reserve {r : IdempotentCall} (hs : KeysSound canonicalRequestHash R s)
    (hok : (reserve (r.request canonicalRequestHash) r.idempotencyKey s.db).ok = true) :
    ∀ e ∈ s.successes, e.call.key ≠ r.key := by
  intro e he hsame
  obtain ⟨k, hk, hkey⟩ := hs.succeeded e he
  rw [reserve_of_row hk (hkey.trans hsame)] at hok
  cases hok

theorem CallStep.keysSound (h : CallStep canonicalRequestHash i s act p s' p')
    (hs : KeysSound canonicalRequestHash R s) (hp : Knows canonicalRequestHash R i s p) :
    KeysSound canonicalRequestHash R s' := by
  cases h with
  | reserved r hfits hok =>
    refine { hs with ok := hok, stored := ?_, succeeded := ?_ }
    · intro k hk body hbody
      rcases mem_reserve.mp hk with hk | rfl
      · exact hs.stored k hk body hbody
      · cases hbody
    · intro e he
      obtain ⟨k, hk, hkey⟩ := hs.succeeded e he
      exact ⟨k, mem_reserve.mpr (.inl hk), hkey⟩
  | committed r id f db hok hkeys =>
    refine { hs with ok := hok, stored := ?_, succeeded := ?_ }
    · rw [hkeys]; exact hs.stored
    · rw [hkeys]; exact hs.succeeded
  | succeeded r id response =>
    obtain ⟨_, k, hk, _, hres, _⟩ := hp.owns rfl
    refine { hs with stored := ?_, succeeded := ?_, once := ?_, known := ?_ }
    · intro k hk body hbody
      obtain ⟨e, he, hsame⟩ := hs.stored k hk body hbody
      exact ⟨e, List.mem_append_left _ he, hsame⟩
    · intro e he
      rcases List.mem_append.mp he with he | he
      · exact hs.succeeded e he
      · rw [List.mem_singleton.mp he]
        exact ⟨k, hk, hres.key⟩
    · exact Interleave.nodup_append_entry hs.once (hp.free rfl)
    · intro e he
      rcases List.mem_append.mp he with he | he
      · exact hs.known e he
      · rw [List.mem_singleton.mp he]
        exact hp.known rfl
  | stored r id response =>
    obtain ⟨_, k, hk, hid, hres, _⟩ := hp.owns rfl
    refine { hs with ok := ok_storeResponse hs.ok, stored := ?_, succeeded := ?_ }
    · intro k' hk' body hbody
      rcases mem_storeResponse_cases hk' with ⟨k₀, hk₀, hid₀, rfl⟩ | ⟨hk', _⟩
      · have heq : k₀ = k := Table.eq_of_key hk₀ hk (hid₀.trans hid.symm)
        cases hbody
        rw [← heq] at hres
        exact ⟨_, hp.succeeded rfl, ⟨hres.key, hres.hash⟩, rfl⟩
      · exact hs.stored k' hk' body hbody
    · intro e he
      obtain ⟨k', hk', hkey⟩ := hs.succeeded e he
      by_cases hne : k'.id = id
      · refine ⟨k'.answer response, ?_, hkey⟩
        simp only [storeResponse, Table.mem_modify]
        exact ⟨k', hk', if_pos hne⟩
      · exact ⟨k', mem_storeResponse_of_ne hk' hne, hkey⟩
  | deleted r id left db hok hkeys =>
    obtain ⟨_, k, hk, hid, hres, _⟩ := hp.owns rfl
    refine { hs with ok := hok, stored := ?_, succeeded := ?_ }
    · intro k' hk' body hbody
      exact hs.stored k' (mem_erase.mp (hkeys ▸ hk')).1 body hbody
    · intro e he
      obtain ⟨k', hk', hkey⟩ := hs.succeeded e he
      refine ⟨k', hkeys ▸ mem_erase.mpr ⟨hk', ?_⟩, hkey⟩
      intro hid'
      have heq : k' = k := Table.eq_of_key hk' hk (hid'.trans hid.symm)
      exact hp.free rfl e he (by rw [← hkey, heq, hres.key])
  | _ => exact hs

theorem CallStep.knows (hR : Set.InjOn canonicalRequestHash R)
    (hact : ∀ r, act = .call r → r.canonical ∈ R)
    (h : CallStep canonicalRequestHash i s act p s' p') (hs : KeysSound canonicalRequestHash R s)
    (hp : Knows canonicalRequestHash R i s p) : Knows canonicalRequestHash R i s' p' := by
  cases h with
  | reserved r hfits hok =>
    refine ⟨?_, ?_, ?_, nofun, nofun, ?_⟩
    · intro r' id' hr'
      cases hr'
      exact ⟨Function.update_self .., _, mem_reserve.mpr (.inr rfl), rfl, ⟨rfl, rfl⟩, rfl⟩
    · intro r' id' hr'
      cases hr'
      exact hfits
    · intro r' hr'
      cases hr'
      have hfree := no_success_of_reserve hs hok
      exact hfree
    · intro r' hr'
      cases hr'
      exact hact r rfl
  | taken r | tooLong r =>
    refine ⟨nofun, nofun, nofun, nofun, nofun, ?_⟩
    intro r' hr'
    cases hr'
    exact hact r rfl
  | replayed r body hbody =>
    refine ⟨nofun, nofun, nofun, nofun, ?_, ?_⟩
    · intro r' body' hr'
      cases hr'
      obtain ⟨k, hk, hkey, hhash, hstored⟩ := replay_eq_ok hbody
      obtain ⟨e, he, hres, hsame⟩ := hs.stored k hk body hstored
      have hcanonical : e.call.canonical = r.canonical :=
        hR (hs.known e he) (hp.known rfl) (hres.hash.symm.trans hhash)
      exact ⟨e, he, hres.key.symm.trans hkey, hcanonical, hsame⟩
    · intro r' hr'
      cases hr'
      exact hp.known rfl
  | succeeded r id response =>
    refine ⟨hp.owns, hp.fits, nofun, ?_, nofun, hp.known⟩
    intro r' id' response' hr'
    cases hr'
    exact List.mem_append_right _ (List.mem_singleton.mpr rfl)
  | committed r id f db hok hkeys =>
    refine { hp with owns := ?_ }
    intro r' id' hr'
    rw [hkeys]
    exact hp.owns hr'
  | stored r id response =>
    refine ⟨nofun, nofun, nofun, nofun, ?_, hp.known⟩
    intro r' body' hr'
    cases hr'
    exact ⟨_, hp.succeeded rfl, rfl, rfl, rfl⟩
  | refused r id left => exact ⟨hp.owns, hp.fits, hp.free, nofun, nofun, hp.known⟩
  | _ => exact ⟨nofun, nofun, nofun, nofun, nofun, hp.known⟩

theorem CallStep.underWay (hact : s.releases act p = true)
    (h : CallStep canonicalRequestHash i s act p s' p') (hp : UnderWay i s p) :
    UnderWay i s' p' := by
  intro k hk hnone hown
  cases h with
  | reserved r hfits hok =>
    rcases mem_reserve.mp hk with hk | rfl
    · have hlt : k.id < s.db.idempotencyKeys.freshKey := Table.key_lt_freshKey hk
      have hold : s.owner k.id = i :=
        (Function.update_of_ne (Nat.ne_of_lt hlt) _ _).symm.trans hown
      obtain ⟨r', hr'⟩ := hp k hk hnone hold
      cases hr'
    · exact ⟨r, rfl⟩
  | committed r id f db hok hkeys =>
    rw [hkeys] at hk
    exact hp k hk hnone hown
  | stored r id response =>
    rcases mem_storeResponse_cases hk with ⟨k₀, _, _, rfl⟩ | ⟨hk, hne⟩
    · cases hnone
    · obtain ⟨r', hr'⟩ := hp k hk hnone hown
      cases hr'
      exact absurd rfl hne
  | deleted r id left db hok hkeys =>
    obtain ⟨hk, hne⟩ := mem_erase.mp (hkeys ▸ hk)
    obtain ⟨r', hr'⟩ := hp k hk hnone hown
    cases hr'
    exact absurd rfl hne
  | leftBehind r id left hrefused => exact absurd hact hrefused
  | raised r id => cases hact
  | unencodable r id response => cases hact
  | taken r | tooLong r =>
    obtain ⟨r', hr'⟩ := hp k hk hnone hown
    cases hr'
  | replayed r body hbody =>
    obtain ⟨r', hr'⟩ := hp k hk hnone hown
    cases hr'
  | conflict r =>
    obtain ⟨r', hr'⟩ := hp k hk hnone hown
    cases hr'
  | succeeded r id response => exact hp k hk hnone hown
  | refused r id left => exact hp k hk hnone hown

end Turn

/-! ## Runs -/

/-- At most one success for each key, and its response, for the request that it was the response
to, in every answer. -/
structure ExactlyOnce (c : Config KeyStore CallPhase) : Prop where
  once : (c.store.successes.map (·.call.key)).Nodup
  answered : ∀ {i r body}, c.parties i = .answered r body → ∃ e ∈ c.store.successes,
    e.call.key = r.key ∧ e.call.canonical = r.canonical ∧ e.response.body = body

/-- With no success under its key and no call at work on it, a call executes its handler, if the
column holds the key. -/
def Retriable (canonicalRequestHash : Canonical → String) (c : Config KeyStore CallPhase) : Prop :=
  ∀ r : IdempotentCall, keyFits r.idempotencyKey = true →
    (∀ e ∈ c.store.successes, e.call.key ≠ r.key) →
    (∀ i r' id, (c.parties i).reserved = some (r', id) → r'.key ≠ r.key) →
    ∀ i, ∃ s' id, callTurn canonicalRequestHash i (.call r) c.store .idle =
      some (s', .handling r id)

/-- The requests that are made in a run. -/
def requests (ms : List (Nat × CallAction)) : Set Canonical :=
  {x | ∃ m ∈ ms, ∃ r, m.2 = .call r ∧ r.canonical = x}

section Runs

variable {canonicalRequestHash : Canonical → String} {R : Set Canonical} {db : Db}
  {ms : List (Nat × CallAction)} {c : Config KeyStore CallPhase}

theorem holds_callStart (hdb : db.ok = true) (hkeys : db.idempotencyKeys = ∅) :
    Holds (KeysSound canonicalRequestHash R) (Knows canonicalRequestHash R) (callStart db) where
  store := by
    refine ⟨hdb, ?_, nofun, List.nodup_nil, nofun⟩
    intro k hk
    simp only [callStart, hkeys, Table.not_mem_empty] at hk
  party _ := ⟨nofun, nofun, nofun, nofun, nofun, nofun⟩

theorem holds_callMove (hR : Set.InjOn canonicalRequestHash R) {m : Nat × CallAction}
    (hm : ∀ r, m.2 = .call r → r.canonical ∈ R)
    (hc : Holds (KeysSound canonicalRequestHash R) (Knows canonicalRequestHash R) c) :
    Holds (KeysSound canonicalRequestHash R) (Knows canonicalRequestHash R)
      (move (callTurn canonicalRequestHash) c m) := by
  refine holds_move (C := fun _ m => ∀ r, m.2 = .call r → r.canonical ∈ R) ?_ ?_ hc hm
  · intro c i act s' p' hc hact hturn
    have hstep := callStep_of_turn hc.store.ok hturn
    exact ⟨hstep.keysSound hc.store (hc.party i), hstep.knows hR hact hc.store (hc.party i)⟩
  · intro c i act s' p' hc _ hturn j hj
    have hstep := callStep_of_turn hc.store.ok hturn
    exact (hc.party j).leavesCall hc.store.ok (hstep.leavesCall (hc.party i) hj)

theorem along_requests (hms : requests ms ⊆ R) :
    Run.Along (move (callTurn canonicalRequestHash))
      (fun _ m => ∀ r, m.2 = .call r → r.canonical ∈ R) c ms :=
  Run.along_of_forall (fun m hm _ r hr => hms ⟨m, hm, r, hr, rfl⟩) c

theorem holds_callRun (hR : Set.InjOn canonicalRequestHash R) (hms : requests ms ⊆ R)
    (hc : Holds (KeysSound canonicalRequestHash R) (Knows canonicalRequestHash R) c) :
    Holds (KeysSound canonicalRequestHash R) (Knows canonicalRequestHash R)
      (Run.exec (move (callTurn canonicalRequestHash)) c ms) :=
  Run.exec_inv (fun _ _ hc hm => holds_callMove hR hm hc) hc (along_requests hms)

theorem answers_once (hdb : db.ok = true) (hkeys : db.idempotencyKeys = ∅)
    (hinj : Set.InjOn canonicalRequestHash (requests ms)) :
    ExactlyOnce (callRun canonicalRequestHash db ms) := by
  have h := holds_callRun hinj (fun _ h => h) (holds_callStart hdb hkeys)
  exact ⟨h.store.once, fun hp => (h.party _).answered hp⟩

/-- A key with neither a success nor a call at work on it has no row. -/
theorem retriable_of_underWay (hs : KeysSound canonicalRequestHash R c.store)
    (hp : ∀ i, Knows canonicalRequestHash R i c.store (c.parties i) ∧
      UnderWay i c.store (c.parties i)) : Retriable canonicalRequestHash c := by
  intro r hfits hfree hidle i
  have hreserve : (reserve (r.request canonicalRequestHash) r.idempotencyKey c.store.db).ok =
      true := by
    rw [reserve_ok_iff hs.ok, storedKey_eq_none]
    intro k hk hsame
    have hkey : k.key = r.key := Prod.ext hsame.1 hsame.2
    cases hbody : k.responseBody with
    | some body =>
      obtain ⟨e, he, hres, _⟩ := hs.stored k hk body hbody
      exact hfree e he (hres.key.symm.trans hkey)
    | none =>
      obtain ⟨hknows, hunder⟩ := hp (c.store.owner k.id)
      obtain ⟨r', hr'⟩ := hunder k hk hbody rfl
      obtain ⟨_, k', hk', hid, hres, _⟩ := hknows.owns hr'
      have heq : k' = k := Table.eq_of_key hk' hk hid
      exact hidle _ r' k.id hr' (by rw [← hres.key, heq, hkey])
  simp only [callTurn, hfits, Bool.not_true, Bool.false_eq_true, if_false, hreserve, if_true]
  exact ⟨_, _, rfl⟩

theorem retries_served (hdb : db.ok = true) (hkeys : db.idempotencyKeys = ∅)
    (hinj : Set.InjOn canonicalRequestHash (requests ms))
    (hreleased : Run.Along (move (callTurn canonicalRequestHash))
      (fun c m => c.store.releases m.2 (c.parties m.1) = true) (callStart db) ms) :
    Retriable canonicalRequestHash (callRun canonicalRequestHash db ms) := by
  have hstart : Holds (KeysSound canonicalRequestHash (requests ms))
      (Knows canonicalRequestHash (requests ms)) (callStart db) := holds_callStart hdb hkeys
  have hunder : ∀ i, UnderWay i (callStart db).store ((callStart db).parties i) := by
    intro i k hk
    simp only [callStart, hkeys, Table.not_mem_empty] at hk
  have h : Holds (KeysSound canonicalRequestHash (requests ms))
      (fun i s p => Knows canonicalRequestHash (requests ms) i s p ∧ UnderWay i s p)
      (callRun canonicalRequestHash db ms) := holds_run
    (C := fun c m => (∀ r, m.2 = .call r → r.canonical ∈ requests ms) ∧
      c.store.releases m.2 (c.parties m.1) = true)
    ?_ ?_ ⟨hstart.store, fun i => ⟨hstart.party i, hunder i⟩⟩
    (Run.along_and (along_requests fun _ h => h) hreleased)
  · exact retriable_of_underWay h.store h.party
  · intro c i act s' p' hc hact hturn
    have hstep := callStep_of_turn hc.store.ok hturn
    obtain ⟨hknows, hunder⟩ := hc.party i
    exact ⟨hstep.keysSound hc.store hknows, hstep.knows hinj hact.1 hc.store hknows,
      hstep.underWay hact.2 hunder⟩
  · intro c i act s' p' hc _ hturn j hj
    have hstep := callStep_of_turn hc.store.ok hturn
    have hleft := hstep.leavesCall (hc.party i).1 hj
    exact ⟨(hc.party j).1.leavesCall hc.store.ok hleft, (hc.party j).2.leavesCall hleft⟩

/-- The call failed and left its key behind, without a response. -/
structure Stuck (r : IdempotentCall) (c : Config KeyStore CallPhase) : Prop where
  fits : keyFits r.idempotencyKey = true
  row : ∃ k ∈ c.store.db.idempotencyKeys, k.key = r.key ∧ k.responseBody = none ∧
    c.parties (c.store.owner k.id) = .failed r

theorem stuck_move {r : IdempotentCall} {m : Nat × CallAction}
    (hc : Holds (KeysSound canonicalRequestHash R) (Knows canonicalRequestHash R) c)
    (hstuck : Stuck r c) : Stuck r (move (callTurn canonicalRequestHash) c m) := by
  obtain ⟨i, act⟩ := m
  rcases move_cases (callTurn canonicalRequestHash) c (i, act) with h | ⟨s', p', hturn, h⟩
  · rw [h]; exact hstuck
  · rw [h]
    obtain ⟨hfits, k, hk, hkey, hnone, hfailed⟩ := hstuck
    have hstep := callStep_of_turn hc.store.ok hturn
    by_cases hj : c.store.owner k.id = i
    · -- a call that failed has no turn left
      simp only [← hj, hfailed] at hstep
      cases hstep
    · obtain ⟨hk', hown'⟩ := (hstep.leavesCall (hc.party i) hj).kept k hk rfl
      refine ⟨hfits, k, hk', hkey, hnone, ?_⟩
      show Function.update c.parties i p' (s'.owner k.id) = .failed r
      rw [hown', Function.update_of_ne hj, hfailed]

/-- Nobody is answered, and nobody's handler runs, under a key that was left behind. -/
theorem refused_of_stuck {r r' : IdempotentCall} (hs : KeysSound canonicalRequestHash R c.store)
    (hstuck : Stuck r c) (hr' : r'.key = r.key) (j : Nat) :
    callTurn canonicalRequestHash j (.call r') c.store .idle = some (c.store, .taken r') ∧
      callTurn canonicalRequestHash j .lookup c.store (.taken r') =
        some (c.store, .failed r') := by
  obtain ⟨hfits, k, hk, hkey, hnone, _⟩ := hstuck
  have hfits' : keyFits r'.idempotencyKey = true := by
    rw [show r'.idempotencyKey = r.idempotencyKey from congrArg Prod.snd hr']
    exact hfits
  constructor
  · simp only [callTurn, hfits', Bool.not_true, reserve_of_row hk (hkey.trans hr'.symm),
      Bool.false_eq_true, if_false]
  · simp only [callTurn]
    split
    · next body hbody =>
      obtain ⟨k', hk', hkey', _, hstored⟩ := replay_eq_ok hbody
      have heq := eq_of_reservedKey hs.ok hk' hk ((hkey'.trans hr').trans hkey.symm)
      rw [heq, hnone] at hstored
      cases hstored
    · rfl

/-- One exception of a handler that is not an `ApiError`, and its key is refused in every later
state, to whoever makes a call. -/
theorem stuck_forever {ms' : List (Nat × CallAction)} {r r' : IdempotentCall} {id : UUID}
    {i j : Nat} (hdb : db.ok = true) (hkeys : db.idempotencyKeys = ∅)
    (hinj : Set.InjOn canonicalRequestHash (requests (ms ++ (i, .raiseOther) :: ms')))
    (hp : (callRun canonicalRequestHash db ms).parties i = .handling r id)
    (hr' : r'.key = r.key) :
    let c := callRun canonicalRequestHash db (ms ++ (i, .raiseOther) :: ms')
    callTurn canonicalRequestHash j (.call r') c.store .idle = some (c.store, .taken r') ∧
      callTurn canonicalRequestHash j .lookup c.store (.taken r') =
        some (c.store, .failed r') := by
  intro c
  let R := requests (ms ++ (i, .raiseOther) :: ms')
  have hbefore : Holds (KeysSound canonicalRequestHash R) (Knows canonicalRequestHash R)
      (callRun canonicalRequestHash db ms) :=
    holds_callRun hinj (fun x ⟨m, hm, hx⟩ => ⟨m, List.mem_append_left _ hm, hx⟩)
      (holds_callStart hdb hkeys)
  -- the exception leaves the row of the call as it is
  have hraise : move (callTurn canonicalRequestHash) (callRun canonicalRequestHash db ms)
      (i, .raiseOther) = ⟨(callRun canonicalRequestHash db ms).store,
        Function.update (callRun canonicalRequestHash db ms).parties i (.failed r)⟩ := by
    simp only [move, hp, callTurn]
  have hstuck : Stuck r (move (callTurn canonicalRequestHash)
      (callRun canonicalRequestHash db ms) (i, .raiseOther)) := by
    obtain ⟨hown, k, hk, hid, hres, hnone⟩ := (hbefore.party i).owns (by rw [hp]; rfl)
    rw [hraise]
    refine ⟨(hbefore.party i).fits (by rw [hp]; rfl), k, hk, hres.key, hnone, ?_⟩
    show Function.update _ i _ _ = _
    rw [hid, hown, Function.update_self]
  have hafter : Holds (KeysSound canonicalRequestHash R) (Knows canonicalRequestHash R) c ∧
      Stuck r c := by
    rw [show c = Run.exec (move (callTurn canonicalRequestHash))
      (move (callTurn canonicalRequestHash) (callRun canonicalRequestHash db ms)
        (i, .raiseOther)) ms' from Run.exec_append _ _ _ _]
    have hlater : requests ms' ⊆ R := fun x ⟨m, hm, hx⟩ =>
      ⟨m, List.mem_append_right _ (List.mem_cons_of_mem _ hm), hx⟩
    refine Run.exec_inv (C := fun _ m => ∀ r, m.2 = .call r → r.canonical ∈ R)
      (I := fun c => Holds (KeysSound canonicalRequestHash R) (Knows canonicalRequestHash R) c ∧
        Stuck r c) ?_ ⟨holds_callMove hinj nofun hbefore, hstuck⟩ (along_requests hlater)
    intro c m hc hm
    exact ⟨holds_callMove hinj hm hc.1, stuck_move hc.1 hc.2⟩
  exact refused_of_stuck hafter.1.store hafter.2 hr' j

/-- In every interleaving that releases its keys, each key succeeds at most once, everybody who is
answered is answered with that success, and a failed call can be made again. -/
theorem idempotent_calls (canonicalRequestHash : Canonical → String) (db : Db)
    (ms : List (Nat × CallAction)) (hdb : db.ok = true) (hkeys : db.idempotencyKeys = ∅)
    (hinj : Set.InjOn canonicalRequestHash (requests ms))
    (hreleased : Run.Along (move (callTurn canonicalRequestHash))
      (fun c m => c.store.releases m.2 (c.parties m.1) = true) (callStart db) ms) :
    ExactlyOnce (callRun canonicalRequestHash db ms) ∧
      Retriable canonicalRequestHash (callRun canonicalRequestHash db ms) :=
  ⟨answers_once hdb hkeys hinj, retries_served hdb hkeys hinj hreleased⟩

end Runs

/-! ## Two requests -/

/-- A new trip, whose payload is empty. -/
def tripCall : IdempotentCall where
  tenantId := 1
  idempotencyKey := "k"
  canonical := { operation := "create", entityType := "trip", payload := "{}" }
  expiresAt := 30

/-- SHA-256 of the canonical form of `tripCall`. -/
def tripCallHash : Canonical → String := fun _ =>
  "a4230c480f5e6ab9c5be084eba035798b77327a658b7a2653fecee40ab2ec8f6"

/-- The first call is refused, the second finds its key taken, and the third is the first again. -/
def tripCalls : List (Nat × CallAction) := [(0, .call tripCall), (1, .call tripCall),
  (0, .raiseApiError id), (1, .lookup), (0, .deleteReserved), (2, .call tripCall),
  (2, .succeed { body := "done" }), (2, .storeResponse), (3, .call tripCall), (3, .lookup)]

theorem requests_tripCalls : ∀ x ∈ requests tripCalls, x = tripCall.canonical := by
  rintro x ⟨m, hm, r, hr, rfl⟩
  simp only [tripCalls, List.mem_cons, List.not_mem_nil, or_false] at hm
  rcases hm with rfl | rfl | rfl | rfl | rfl | rfl | rfl | rfl | rfl | rfl <;> cases hr <;> rfl

theorem idempotent_calls_once : ExactlyOnce (callRun tripCallHash {} tripCalls) ∧
    Retriable tripCallHash (callRun tripCallHash {} tripCalls) :=
  idempotent_calls tripCallHash {} tripCalls (by decide +kernel) rfl
    (fun a ha b hb _ => (requests_tripCalls a ha).trans (requests_tripCalls b hb).symm)
    (by decide +kernel)

theorem stuck_forever_trip :
    let c := callRun tripCallHash {} ([(0, .call tripCall)] ++ (0, .raiseOther) :: [])
    callTurn tripCallHash 1 (.call tripCall) c.store .idle = some (c.store, .taken tripCall) ∧
      callTurn tripCallHash 1 .lookup c.store (.taken tripCall) =
        some (c.store, .failed tripCall) := by
  have hsame : ∀ x ∈ requests ([(0, .call tripCall)] ++ (0, .raiseOther) :: []),
      x = tripCall.canonical := by
    rintro x ⟨m, hm, r, hr, rfl⟩
    rcases List.mem_cons.mp hm with rfl | hm
    · cases hr
      rfl
    · cases List.mem_singleton.mp hm
      cases hr
  exact @stuck_forever tripCallHash {} [(0, .call tripCall)] [] tripCall tripCall 1 0 1
    (by decide +kernel) rfl (fun a ha b hb _ => (hsame a ha).trans (hsame b hb).symm) rfl rfl

/-- A handler that raises, say, an `IntegrityError`: nobody is at work on the key, nobody has
succeeded, and the next call is refused. -/
theorem retry_refused : ¬ Retriable tripCallHash
    (callRun tripCallHash {} [(0, .call tripCall), (0, .raiseOther)]) := by
  intro h
  have hidle : ∀ i r' id,
      ((callRun tripCallHash {} [(0, .call tripCall), (0, .raiseOther)]).parties i).reserved =
        some (r', id) → r'.key ≠ tripCall.key := by
    intro i r' id hp
    by_cases hi : i = 0
    · have hfailed : ((callRun tripCallHash {} [(0, .call tripCall), (0, .raiseOther)]).parties
          0).reserved = none := by decide +kernel
      rw [hi, hfailed] at hp
      cases hp
    · simp only [callRun, Run.exec_cons, Run.exec_nil] at hp
      rw [move_party_of_ne _ _ (by exact hi), move_party_of_ne _ _ (by exact hi)] at hp
      cases hp
  obtain ⟨s', id, hturn⟩ := h tripCall (by decide) nofun hidle 1
  have hrefused : (callTurn tripCallHash 1 (.call tripCall)
      (callRun tripCallHash {} [(0, .call tripCall), (0, .raiseOther)]).store .idle).any
        (·.2.reserved.isSome) = false := by decide +kernel
  rw [hturn] at hrefused
  cases hrefused

end Rotas
