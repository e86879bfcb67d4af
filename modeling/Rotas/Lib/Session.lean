import Mathlib.Init

/-!
# Rotas.Lib.Session

Sessions over a database: the unit-of-work pattern of an object-relational mapper.

A session holds the committed state, as it was when the session last looked, and a pending
state that its work reads and writes. A raised exception ends the work but leaves the pending
state as it is; only `commit` publishes it, after the database has checked its constraints, and
only `rollback` or the end of the session drops it. So an operation that mutates rows and then
raises is atomic when the session is dropped, and is not when a handler commits afterwards.

* `Work σ ε α`   — work on a session over `σ`, raising `ε`.
* `atomic f`     — the usual service: work on the pending state, then one `commit`.
* `serve w db`   — one session opened on `db` for `w` and closed after it.
* `perform f db` — the database after one session for `f`, which raises before it writes.
* `Keeps P w`    — what holds of both states of a session still holds after the work `w`.
-/

namespace Rotas

/-- A database that checks its rows when they reach it, and the exception it answers with. -/
class Store (σ : Type) (ε : outParam Type) where
  ok : σ → Bool
  refused : ε

structure Session (σ : Type) where
  committed : σ
  pending : σ

def Work (σ ε α : Type) := Session σ → Except ε α × Session σ

namespace Work

variable {σ ε α β : Type}

instance : Monad (Work σ ε) where
  pure a := fun s => (.ok a, s)
  bind m f := fun s =>
    match m s with
    | (.ok a, s') => f a s'
    | (.error e, s') => (.error e, s')

/-- Work that only touches the pending state; what it wrote before a raise stays there. -/
def onPending (f : σ → Except ε α × σ) : Work σ ε α := fun s =>
  ((f s.pending).1, { s with pending := (f s.pending).2 })

/-- The database checks the pending rows and publishes them. -/
def commit [Store σ ε] : Work σ ε Unit := fun s =>
  if Store.ok s.pending then (.ok (), ⟨s.pending, s.pending⟩) else (.error (Store.refused σ), s)

/-- Drop what is pending. -/
def rollback : Work σ ε Unit := fun s => (.ok (), ⟨s.committed, s.committed⟩)

/-- Run `m`; an exception for which `h` has a handler continues there, any other is passed on. -/
def tryCatch (m : Work σ ε α) (h : ε → Option (Work σ ε α)) : Work σ ε α := fun s =>
  match m s with
  | (.ok a, s') => (.ok a, s')
  | (.error e, s') =>
    match h e with
    | some m' => m' s'
    | none => (.error e, s')

/-- The usual service: work on the pending state, then one `commit`. -/
def atomic [Store σ ε] (f : σ → Except ε α × σ) : Work σ ε α := do
  let a ← onPending f
  commit
  return a

/-- One session for `m`, opened on `db` and closed at its end: what it did not commit is lost. -/
def serve (m : Work σ ε α) (db : σ) : Except ε α × σ :=
  ((m ⟨db, db⟩).1, (m ⟨db, db⟩).2.committed)

theorem bind_def (m : Work σ ε α) (f : α → Work σ ε β) (s : Session σ) :
    (m >>= f) s = match m s with
      | (.ok a, s') => f a s'
      | (.error e, s') => (.error e, s') := rfl

@[simp] theorem pure_def (a : α) (s : Session σ) : (pure a : Work σ ε α) s = (.ok a, s) := rfl

theorem commit_of_ok [Store σ ε] {s : Session σ} (h : Store.ok s.pending = true) :
    (commit : Work σ ε Unit) s = (.ok (), ⟨s.pending, s.pending⟩) := if_pos h

theorem commit_of_not_ok [Store σ ε] {s : Session σ} (h : Store.ok s.pending = false) :
    (commit : Work σ ε Unit) s = (.error (Store.refused σ), s) := if_neg (by simp [h])

theorem tryCatch_of_ok {m : Work σ ε α} {h : ε → Option (Work σ ε α)} {s s' : Session σ} {a : α}
    (hm : m s = (.ok a, s')) : Work.tryCatch m h s = (.ok a, s') := by
  rw [Work.tryCatch, hm]

theorem tryCatch_of_error {m : Work σ ε α} {h : ε → Option (Work σ ε α)} {s s' : Session σ} {e : ε}
    (hm : m s = (.error e, s')) : Work.tryCatch m h s = match h e with
      | some m' => m' s'
      | none => (.error e, s') := by
  rw [Work.tryCatch, hm]

section Atomic

variable [Store σ ε] {f : σ → Except ε α × σ} {db p : σ} {a : α} {e : ε}

theorem serve_atomic_of_ok (hf : f db = (.ok a, p)) (hp : Store.ok p = true) :
    serve (atomic f) db = (.ok a, p) := by
  simp [serve, atomic, bind_def, onPending, hf, commit_of_ok (s := ⟨db, p⟩) hp]

theorem serve_atomic_of_refused (hf : f db = (.ok a, p)) (hp : Store.ok p = false) :
    serve (atomic f) db = (.error (Store.refused σ), db) := by
  simp [serve, atomic, bind_def, onPending, hf, commit_of_not_ok (s := ⟨db, p⟩) hp]

theorem serve_atomic_of_error (hf : f db = (.error e, p)) :
    serve (atomic f) db = (.error e, db) := by
  simp [serve, atomic, bind_def, onPending, hf]

/-- An atomic service either commits all of its work or leaves the database as it was. -/
theorem serve_atomic_cases (f : σ → Except ε α × σ) (db : σ) :
    (∃ a p, f db = (.ok a, p) ∧ Store.ok p = true ∧ serve (atomic f) db = (.ok a, p)) ∨
      ∃ e, serve (atomic f) db = (.error e, db) := by
  rcases hf : f db with ⟨r, p⟩
  cases r with
  | error e => exact .inr ⟨e, serve_atomic_of_error hf⟩
  | ok a =>
    cases hp : Store.ok p with
    | true => exact .inl ⟨a, p, rfl, hp, serve_atomic_of_ok hf hp⟩
    | false => exact .inr ⟨_, serve_atomic_of_refused hf hp⟩

/-- An atomic service answers when its work completes and passes the checks of the database. -/
theorem serve_atomic_isOk :
    (serve (atomic f) db).1.isOk = true ↔
      ∃ a p, f db = (.ok a, p) ∧ Store.ok p = true := by
  constructor
  · intro h
    rcases serve_atomic_cases f db with ⟨a, p, hf, hp, _⟩ | ⟨e, he⟩
    · exact ⟨a, p, hf, hp⟩
    · rw [he] at h; cases h
  · rintro ⟨a, p, hf, hp⟩
    rw [serve_atomic_of_ok hf hp]
    rfl

/-- What an atomic service leaves behind satisfies every property that the old state has and
that its completed work establishes. -/
theorem serve_atomic_ind {P : σ → Prop} (hdb : P db)
    (hwork : ∀ a p, f db = (.ok a, p) → Store.ok p = true → P p) :
    P (serve (atomic f) db).2 := by
  rcases serve_atomic_cases f db with ⟨a, p, hf, hp, h⟩ | ⟨e, h⟩
  · rw [h]; exact hwork a p hf hp
  · rw [h]; exact hdb

end Atomic

/-! ## What holds of the committed and of the pending state -/

/-- Whether it raises or not, the work leaves `P` true of the committed and of the pending state. -/
def Keeps (P : σ → Prop) (w : Work σ ε α) : Prop :=
  ∀ s, P s.committed → P s.pending → P (w s).2.committed ∧ P (w s).2.pending

section Keeps

variable {P : σ → Prop}

theorem Keeps.pure (a : α) : Keeps P (Pure.pure a : Work σ ε α) := fun _ hc hp => ⟨hc, hp⟩

theorem Keeps.onPending {f : σ → Except ε α × σ} (h : ∀ db, P db → P (f db).2) :
    Keeps P (Work.onPending f) := fun s hc hp => ⟨hc, h s.pending hp⟩

theorem Keeps.commit [Store σ ε] : Keeps P (Work.commit : Work σ ε Unit) := by
  intro s hc hp
  unfold Work.commit
  split
  · exact ⟨hp, hp⟩
  · exact ⟨hc, hp⟩

theorem Keeps.rollback : Keeps P (Work.rollback : Work σ ε Unit) := fun _ hc _ => ⟨hc, hc⟩

theorem Keeps.bind {m : Work σ ε α} {f : α → Work σ ε β} (hm : Keeps P m)
    (hf : ∀ a, Keeps P (f a)) : Keeps P (m >>= f) := by
  intro s hc hp
  have hms := hm s hc hp
  rw [bind_def]
  rcases hr : m s with ⟨r, s'⟩
  rw [hr] at hms
  cases r with
  | ok a => exact hf a s' hms.1 hms.2
  | error e => exact hms

theorem Keeps.tryCatch {m : Work σ ε α} {h : ε → Option (Work σ ε α)} (hm : Keeps P m)
    (hh : ∀ e m', h e = some m' → Keeps P m') : Keeps P (Work.tryCatch m h) := by
  intro s hc hp
  have hms := hm s hc hp
  rcases hr : m s with ⟨r, s'⟩
  rw [hr] at hms
  cases r with
  | ok a =>
    rw [tryCatch_of_ok hr]
    exact hms
  | error e =>
    rw [tryCatch_of_error hr]
    cases he : h e with
    | none => exact hms
    | some m' => exact hh e m' he s' hms.1 hms.2

theorem Keeps.atomic [Store σ ε] {f : σ → Except ε α × σ} (h : ∀ db, P db → P (f db).2) :
    Keeps P (Work.atomic f) :=
  .bind (.onPending h) fun _ => .bind .commit fun _ => .pure _

theorem Keeps.serve {w : Work σ ε α} (h : Keeps P w) {db : σ} (hdb : P db) :
    P (Work.serve w db).2 := (h ⟨db, db⟩ hdb hdb).1

end Keeps

/-! ## Services that check first and write last -/

/-- Work given by a function that answers with the new pending state, or raises before it has
written anything. -/
def ofExcept (f : σ → Except ε (α × σ)) (s : σ) : Except ε α × σ :=
  match f s with
  | .ok (a, s') => (.ok a, s')
  | .error e => (.error e, s)

theorem ofExcept_ok {f : σ → Except ε (α × σ)} {s s' : σ} {a : α} :
    ofExcept f s = (.ok a, s') ↔ f s = .ok (a, s') := by
  cases hf : f s with
  | ok x => obtain ⟨b, t⟩ := x; simp [ofExcept, hf]
  | error e => simp [ofExcept, hf]

/-- The database after one session for a service that checks first and writes last. -/
def perform [Store σ ε] (f : σ → Except ε (α × σ)) (db : σ) : σ := (serve (atomic (ofExcept f)) db).2

theorem perform_of_ok [Store σ ε] {f : σ → Except ε (α × σ)} {db p : σ} {a : α}
    (hf : f db = .ok (a, p)) (hp : Store.ok p = true) : perform f db = p := by
  rw [perform, serve_atomic_of_ok (ofExcept_ok.mpr hf) hp]

/-- A refused call changes nothing, so what a completed call establishes is all there is to ask. -/
theorem perform_ind [Store σ ε] {f : σ → Except ε (α × σ)} {db : σ} {P : σ → Prop} (hdb : P db)
    (hf : ∀ a p, f db = .ok (a, p) → P p) : P (perform f db) :=
  serve_atomic_ind hdb fun a p h _ => hf a p (ofExcept_ok.mp h)

/-- A call either changes nothing, or is completed and passes the checks of the database. -/
theorem perform_cases [Store σ ε] (f : σ → Except ε (α × σ)) (db : σ) :
    perform f db = db ∨ ∃ a, f db = .ok (a, perform f db) ∧ Store.ok (perform f db) = true := by
  rcases serve_atomic_cases (ofExcept f) db with ⟨a, p, hf, hp, h⟩ | ⟨e, h⟩
  · refine .inr ⟨a, ?_, ?_⟩ <;> simp only [perform, h]
    · exact ofExcept_ok.mp hf
    · exact hp
  · exact .inl (by simp only [perform, h])

end Work
end Rotas
