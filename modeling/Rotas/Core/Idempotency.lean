import Rotas.Core.Text
import Rotas.Data

/-!
# Rotas.Core.Idempotency

`execute_http_idempotent`: a request under an idempotency key.

* `IdempotentRequest` — the key, and what it is reserved with.
* `reserve`, `release`    — the row of the key, before and after a refused request.
* `replay` — the answer to a request whose key is taken.
* `executeHttpIdempotent` — the wrapper around a handler that commits by itself.
-/

namespace Rotas

open Work

/-- `requestHash` is the hash of operation, entity type and payload in canonical form. -/
structure IdempotentRequest where
  tenantId : UUID
  idempotencyKey : Option String
  operation : String
  entityType : String
  requestHash : String
  expiresAt : Instant

/-- What a handler answers: its body, and the `id` in it. -/
structure Response where
  body : String
  id : Option UUID := none

def IdempotentRequest.row (r : IdempotentRequest) (idempotencyKey : String) (id : UUID) :
    IdempotencyKey where
  id
  tenantId := r.tenantId
  idempotencyKey
  operation := r.operation
  entityType := r.entityType
  requestHash := r.requestHash
  expiresAt := r.expiresAt

def reserve (r : IdempotentRequest) (key : String) (db : Db) : Db :=
  { db with idempotencyKeys := db.idempotencyKeys.insert (r.row key) }

def releaseKey (id : UUID) (db : Db) : Db :=
  { db with idempotencyKeys := db.idempotencyKeys.erase id }

def storeResponse (id : UUID) (response : Response) (db : Db) : Db :=
  { db with
    idempotencyKeys := db.idempotencyKeys.modify id fun k => { k with
      responseBody := some response.body
      statusCode := some 200
      entityId := response.id.or k.entityId } }

def storedKey (tenantId : UUID) (key : String) (db : Db) : Option IdempotencyKey :=
  db.idempotencyKeys.rows.find? fun k => k.tenantId = tenantId && k.idempotencyKey = key

/-- The column is a `String(120)`. -/
def keyFits (key : String) : Bool := key.length ≤ 120

/-- The answer to a request whose key is taken. -/
def replay (r : IdempotentRequest) (key : String) (db : Db) : Except Exc String :=
  let reused := conflict "idempotency_key_reused"
    "Idempotency key was reused with a different request."
  match storedKey r.tenantId key db with
  | none => .error reused
  | some existing =>
    if existing.requestHash ≠ r.requestHash then .error reused
    else
      match existing.responseBody with
      | none => .error (.api
          { code := "idempotency_request_in_progress"
            message := "A request with this idempotency key is already in progress."
            statusCode := 423 })
      | some body => .ok body

/-- The key is given back and the exception passed on; nothing rolls back what is pending. -/
def giveBack (id : UUID) (e : Exc) : Work Db Exc Response := do
  onPending fun db => (.ok (), releaseKey id db)
  commit
  onPending fun db => (.error e, db)

/-- The work of a reserved request. An `ApiError` of the handler gives the key back; any other
exception leaves it as it is. -/
def executeReserved (id : UUID) (handler : Work Db Exc Response) : Work Db Exc String := do
  let response ← Work.tryCatch handler fun e => if e.isApi then some (giveBack id e) else none
  onPending fun db => (.ok (), storeResponse id response db)
  commit
  return response.body

def executeHttpIdempotent (r : IdempotentRequest) (handler : Work Db Exc Response) :
    Work Db Exc String :=
  match truthy r.idempotencyKey with
  | none => do
    let response ← handler
    return response.body
  | some key => do
    let id ← onPending fun db => (.ok db.idempotencyKeys.freshKey, reserve r key db)
    let insert : Work Db Exc Bool := do
      -- a key that is too long is no `IntegrityError`
      onPending fun db => (raiseIf (!keyFits key) .dataError, db)
      commit
      return true
    let reserved ← Work.tryCatch insert fun
      | .integrityError => some do rollback; return false
      | _ => none
    if reserved then executeReserved id handler
    else onPending fun db => (replay r key db, db)

/-! ## The reservation -/

section Reserve

variable {r : IdempotentRequest} {key : String} {handler : Work Db Exc Response} {db : Db}

theorem storedKey_eq_none {tenantId : UUID} :
    storedKey tenantId key db = none ↔
      ∀ k ∈ db.idempotencyKeys, ¬ (k.tenantId = tenantId ∧ k.idempotencyKey = key) := by
  simp [storedKey, List.find?_eq_none, Table.mem_def]

/-- A key is reserved exactly if the tenant has not used it before. -/
theorem reserve_ok_iff (hok : db.ok = true) :
    (reserve r key db).ok = true ↔ storedKey r.tenantId key db = none := by
  have hvalid := Db.ok_iff.mp hok
  have hunique : (reserve r key db).uniqueOk = true ↔ storedKey r.tenantId key db = none := by
    have hu := hvalid.unique
    simp only [Db.uniqueOk, Bool.and_eq_true, decide_eq_true_eq] at hu
    simp only [Db.uniqueOk, reserve, Table.rows_insert, List.map_append, List.map_cons,
      List.map_nil, Bool.and_eq_true, decide_eq_true_eq, List.nodup_append, hu.1, hu.2, true_and,
      List.nodup_cons, List.not_mem_nil, not_false_eq_true, List.nodup_nil, storedKey_eq_none]
    constructor
    · intro h k hk hsame
      refine h (k.tenantId, k.idempotencyKey) (List.mem_map.mpr ⟨k, hk, rfl⟩) _
        List.mem_cons_self ?_
      rw [hsame.1, hsame.2]
      rfl
    · intro h a ha b hb hab
      obtain ⟨k, hk, rfl⟩ := List.mem_map.mp ha
      rw [List.mem_singleton.mp hb] at hab
      simp only [IdempotentRequest.row, Prod.mk.injEq] at hab
      exact h k hk hab
  rw [Db.ok_iff, ← hunique]
  exact ⟨fun h => h.unique, fun h => { hvalid with unique := h }⟩

theorem releaseKey_reserve : releaseKey db.idempotencyKeys.freshKey (reserve r key db) = db := by
  simp only [releaseKey, reserve, Table.erase_insert]

end Reserve

/-! ## A handler that is one service -/

/-- A handler that runs one service and answers with what it returns. -/
def answering {α : Type} (f : Db → Except Exc α × Db) (respond : α → Response) :
    Work Db Exc Response := do
  let a ← atomic f
  return respond a

section Answering

variable {α : Type} {f : Db → Except Exc α × Db} {respond : α → Response} {r : IdempotentRequest}
  {key : String} {db p : Db} {e : ApiError} {id : UUID}

theorem answering_of_error {e : Exc} (hf : f db = (.error e, p)) :
    answering f respond ⟨db, db⟩ = (.error e, ⟨db, p⟩) := by
  simp [answering, atomic, bind_def, onPending, hf]

theorem answering_of_ok {a : α} (hf : f db = (.ok a, p)) (hok : p.ok = true) :
    answering f respond ⟨db, db⟩ = (.ok (respond a), ⟨p, p⟩) := by
  simp [answering, atomic, bind_def, onPending, hf, commit_of_ok (s := ⟨db, p⟩) hok]

theorem answering_of_refused {a : α} (hf : f db = (.ok a, p)) (hok : p.ok = false) :
    answering f respond ⟨db, db⟩ = (.error .integrityError, ⟨db, p⟩) := by
  simp [answering, atomic, bind_def, onPending, hf, commit_of_not_ok (s := ⟨db, p⟩) hok]
  rfl

theorem giveBack_of_ok {e : Exc} (hok : (releaseKey id p).ok = true) :
    giveBack id e ⟨db, p⟩ = (.error e, ⟨releaseKey id p, releaseKey id p⟩) := by
  simp [giveBack, bind_def, onPending, commit_of_ok (s := ⟨db, releaseKey id p⟩) hok]

theorem giveBack_of_not_ok {e : Exc} (hok : (releaseKey id p).ok = false) :
    giveBack id e ⟨db, p⟩ = (.error .integrityError, ⟨db, releaseKey id p⟩) := by
  simp [giveBack, bind_def, onPending, commit_of_not_ok (s := ⟨db, releaseKey id p⟩) hok]
  rfl

/-- An `ApiError` comes out of a reserved request exactly when the handler raised it and the
database took what it had left pending. -/
theorem executeReserved_error_iff {q : Session Db} :
    executeReserved id (answering f respond) ⟨db, db⟩ = (.error (.api e), q) ↔
      ∃ p, f db = (.error (.api e), p) ∧ (releaseKey id p).ok = true ∧
        q = ⟨releaseKey id p, releaseKey id p⟩ := by
  rcases hf : f db with ⟨out, p⟩
  cases out with
  | ok a =>
    cases hok : p.ok with
    | true =>
      simp only [executeReserved, bind_def, tryCatch_of_ok (answering_of_ok hf hok), onPending]
      cases hstore : (storeResponse id (respond a) p).ok with
      | true => simp [commit_of_ok (s := ⟨p, storeResponse id (respond a) p⟩) hstore]
      | false =>
        simp [commit_of_not_ok (s := ⟨p, storeResponse id (respond a) p⟩) hstore, Store.refused]
    | false =>
      simp [executeReserved, bind_def, tryCatch_of_error (answering_of_refused hf hok), Exc.isApi]
  | error e' =>
    simp only [executeReserved, bind_def, tryCatch_of_error (answering_of_error hf), onPending]
    cases e' with
    | api e' =>
      simp only [Exc.isApi, if_true]
      cases hok : (releaseKey id p).ok with
      | true =>
        simp only [giveBack_of_ok hok]
        constructor
        · intro h; cases h; exact ⟨p, rfl, hok, rfl⟩
        · rintro ⟨p', h, _, rfl⟩; cases h; rfl
      | false =>
        simp only [giveBack_of_not_ok hok]
        constructor
        · intro h; cases h
        · rintro ⟨p', h, hok', _⟩; cases h; rw [hok] at hok'; cases hok'
    | _ => simp [Exc.isApi]

theorem serve_execute_unkeyed (f : Db → Except Exc α × Db) (respond : α → Response) (db : Db)
    (hkey : truthy r.idempotencyKey = none) :
    (serve (executeHttpIdempotent r (answering f respond)) db).2 =
      (serve (atomic f) db).2 ∧
    ((∃ e, (serve (executeHttpIdempotent r (answering f respond)) db).1 = .error e) →
      (serve (atomic f) db).2 = db) := by
  have hout : (∃ e, (serve (atomic f) db).1 = .error e) → (serve (atomic f) db).2 = db := by
    rintro ⟨e, he⟩
    rcases serve_atomic_cases f db with ⟨a, p, _, _, h⟩ | ⟨e', h⟩
    · rw [h] at he; cases he
    · rw [h]
  simp only [serve, executeHttpIdempotent, hkey, bind_def, answering] at hout ⊢
  rcases h : atomic f ⟨db, db⟩ with ⟨out, s⟩
  rw [h] at hout
  cases out with
  | ok a =>
    refine ⟨rfl, ?_⟩
    rintro ⟨e, herror⟩
    cases herror
  | error e => exact ⟨rfl, fun _ => hout ⟨e, rfl⟩⟩

/-- A key that is too long is refused, and nothing is written. -/
theorem serve_execute_long (hkey : truthy r.idempotencyKey = some key)
    (hlong : keyFits key = false) {w : Work Db Exc Response} :
    serve (executeHttpIdempotent r w) db = (.error .dataError, db) := by
  simp [serve, executeHttpIdempotent, hkey, bind_def, onPending, Work.tryCatch, hlong, raiseIf]

theorem serve_execute_taken (hkey : truthy r.idempotencyKey = some key)
    (hfits : keyFits key = true) (hok : (reserve r key db).ok = false) :
    serve (executeHttpIdempotent r (answering f respond)) db = (replay r key db, db) := by
  simp only [serve, executeHttpIdempotent, hkey, bind_def, onPending, Work.tryCatch, hfits,
    Bool.not_true, raiseIf, Bool.false_eq_true, if_false,
    commit_of_not_ok (s := ⟨db, reserve r key db⟩) hok, Store.refused, rollback, pure_def]

theorem serve_execute_reserved (hkey : truthy r.idempotencyKey = some key)
    (hfits : keyFits key = true) (hok : (reserve r key db).ok = true) {w : Work Db Exc Response} :
    serve (executeHttpIdempotent r w) db =
      ((executeReserved db.idempotencyKeys.freshKey w ⟨reserve r key db, reserve r key db⟩).1,
        (executeReserved db.idempotencyKeys.freshKey w
          ⟨reserve r key db, reserve r key db⟩).2.committed) := by
  simp only [serve, executeHttpIdempotent, hkey, bind_def, onPending, Work.tryCatch, hfits,
    Bool.not_true, raiseIf, Bool.false_eq_true, if_false,
    commit_of_ok (s := ⟨db, reserve r key db⟩) hok, pure_def, if_true]

/-- The database is as before after every `ApiError` of the request exactly if, whenever the
service raises one under a newly reserved key, what it left pending is nothing, or is refused. -/
theorem execute_atomic_iff (hok : db.ok = true) :
    (∀ e, (serve (executeHttpIdempotent r (answering f respond)) db).1 = .error (.api e) →
      (serve (executeHttpIdempotent r (answering f respond)) db).2 = db) ↔
    ∀ key e p, truthy r.idempotencyKey = some key → keyFits key = true →
      storedKey r.tenantId key db = none → f (reserve r key db) = (.error (.api e), p) →
      (releaseKey db.idempotencyKeys.freshKey p).ok = true →
      releaseKey db.idempotencyKeys.freshKey p = db := by
  constructor
  · intro h key e p hkey hfits hfree hf hp
    have hserve := serve_execute_reserved (w := answering f respond) hkey hfits
      ((reserve_ok_iff hok).mpr hfree)
    have hexec : executeReserved db.idempotencyKeys.freshKey (answering f respond)
        ⟨reserve r key db, reserve r key db⟩ = (.error (.api e), _) :=
      executeReserved_error_iff.mpr ⟨p, hf, hp, rfl⟩
    rw [hexec] at hserve
    have hdb := h e (by rw [hserve])
    rwa [hserve] at hdb
  · intro h e he
    cases hkey : truthy r.idempotencyKey with
    | none =>
      obtain ⟨hcommitted, hout⟩ := serve_execute_unkeyed f respond db hkey
      rw [hcommitted]
      exact hout ⟨_, he⟩
    | some key =>
      cases hfits : keyFits key with
      | false => rw [serve_execute_long hkey hfits]
      | true =>
        cases hres : (reserve r key db).ok with
        | false => rw [serve_execute_taken hkey hfits hres]
        | true =>
          rw [serve_execute_reserved hkey hfits hres] at he ⊢
          obtain ⟨p, hf, hp, hq⟩ := executeReserved_error_iff.mp (Prod.ext he rfl)
          exact (congrArg Session.committed hq).trans
            (h key e p hkey hfits ((reserve_ok_iff hok).mp hres) hf hp)

/-- What the service keeps of the database, also where it raises, the request keeps, if it is
nothing about the keys. -/
theorem keeps_executeHttpIdempotent {P : Db → Prop}
    (hkeys : ∀ db keys, P db → P { db with idempotencyKeys := keys })
    (hf : ∀ db, P db → P (f db).2) :
    Keeps P (executeHttpIdempotent r (answering f respond)) := by
  have hanswer : Keeps P (answering f respond) := .bind (.atomic hf) fun _ => .pure _
  have hgive (id : UUID) (e : Exc) : Keeps P (giveBack id e) :=
    .bind (.onPending fun db h => hkeys db _ h) fun _ =>
      .bind .commit fun _ => .onPending fun _ h => h
  have hreserved (id : UUID) : Keeps P (executeReserved id (answering f respond)) := by
    refine .bind (.tryCatch hanswer fun e m' he => ?_) fun _ =>
      .bind (.onPending fun db h => hkeys db _ h) fun _ => .bind .commit fun _ => .pure _
    split at he
    · cases he; exact hgive id e
    · cases he
  unfold executeHttpIdempotent
  split
  · exact .bind hanswer fun _ => .pure _
  · refine .bind (.onPending fun db h => hkeys db _ h) fun id => .bind (.tryCatch ?_ ?_) ?_
    · exact .bind (.onPending fun _ h => h) fun _ => .bind .commit fun _ => .pure _
    · intro e m' he
      split at he
      · cases he; exact .bind .rollback fun _ => .pure _
      · cases he
    · intro reserved
      cases reserved with
      | true => exact hreserved id
      | false => exact .onPending fun _ h => h

end Answering

end Rotas
