import Rotas.Lib.Session
import Mathlib.Data.Rat.Defs

/-!
# Rotas.Core.Errors

What a service raises. `ApiError` is the application's own exception; the others are the ones
the language or the database raises on their own, which no `except ApiError` catches.
-/

namespace Rotas

abbrev UUID := Nat

/-- Seconds since 1970-01-01T00:00:00Z. -/
abbrev Instant := Int

/-- The date of an instant, in days, in UTC. -/
def utcDate (t : Instant) : Int := t / 86400

/-- A value in the `details` of an `ApiError`. -/
inductive Detail where
  | uuid (id : UUID)
  | text (s : String)
  | texts (ss : List String)
  | number (q : ℚ)
  | instant (t : Instant)
  | bool (b : Bool)
  /-- A date, in days since 1970-01-01. -/
  | date (day : Int)
  | records (rs : List (List (String × Detail)))

structure ApiError where
  code : String
  message : String
  statusCode : Nat := 400
  details : List (String × Detail) := []

inductive Exc where
  | api (e : ApiError)
  | integrityError
  /-- A value that its column cannot hold. -/
  | dataError
  | unboundLocalError (name : String)
  | typeError
  /-- A value that cannot be read, or a field that cannot be validated. -/
  | valueError (name : String)
  | attributeError (name : String)
  | overflowError

def Exc.isApi : Exc → Bool
  | .api _ => true
  | _ => false

def notFound (code message : String) : Exc := .api { code, message, statusCode := 404 }

def conflict (code message : String) (details : List (String × Detail) := []) : Exc :=
  .api { code, message, statusCode := 409, details }

def unprocessable (code message : String) (details : List (String × Detail) := []) : Exc :=
  .api { code, message, statusCode := 422, details }

/-- A guard of a service: raise `e` when the condition `c` it tests for holds. -/
def raiseIf (c : Bool) (e : Exc) : Except Exc Unit := if c then .error e else .ok ()

/-- A row that must be there: raise `e` otherwise. -/
def require {α : Type} (a : Option α) (e : Exc) : Except Exc α :=
  match a with
  | some a => .ok a
  | none => .error e

@[simp] theorem raiseIf_eq_ok {c : Bool} {e : Exc} {u : Unit} :
    raiseIf c e = .ok u ↔ c = false := by
  cases c <;> simp [raiseIf]

@[simp] theorem raiseIf_eq_error {c : Bool} {e e' : Exc} :
    raiseIf c e = .error e' ↔ c = true ∧ e = e' := by
  cases c <;> simp [raiseIf]

@[simp] theorem require_eq_ok {α : Type} {o : Option α} {e : Exc} {a : α} :
    require o e = .ok a ↔ o = some a := by
  cases o <;> simp [require]

theorem eq_ok_of_isOk {ε α : Type} {x : Except ε α} (h : x.isOk = true) : ∃ a, x = .ok a := by
  cases x with
  | ok a => exact ⟨a, rfl⟩
  | error e => cases h

theorem exists_of_isOk {ε α σ : Type} {r : Except ε α × σ} (h : r.1.isOk = true) :
    ∃ a s, r = (.ok a, s) := by
  obtain ⟨a, ha⟩ := eq_ok_of_isOk h
  exact ⟨a, r.2, Prod.ext ha rfl⟩

/-- A chain of guarded reads succeeds exactly when each of its steps does. -/
theorem bind_eq_ok {α β : Type} {x : Except Exc α} {f : α → Except Exc β} {b : β} :
    (x >>= f) = .ok b ↔ ∃ a, x = .ok a ∧ f a = .ok b := by
  cases x with
  | ok a => simp [bind, Except.bind]
  | error e => simp [bind, Except.bind]

theorem map_eq_ok {ε α β : Type} {x : Except ε α} {f : α → β} {b : β} :
    x.map f = .ok b ↔ ∃ a, x = .ok a ∧ f a = b := by
  cases x <;> simp [Except.map]

theorem mapM_eq_ok {α β : Type} {f : α → Except Exc β} {g : α → β} {P : α → Prop}
    (h : ∀ a b, f a = .ok b ↔ b = g a ∧ P a) {as : List α} {bs : List β} :
    as.mapM f = .ok bs ↔ bs = as.map g ∧ ∀ a ∈ as, P a := by
  induction as generalizing bs with
  | nil => simp [pure, Except.pure, eq_comm]
  | cons a as ih =>
    simp only [List.mapM_cons, bind_eq_ok, h, ih, pure, Except.pure, Except.ok.injEq,
      List.forall_mem_cons]
    constructor
    · rintro ⟨_, ⟨rfl, ha⟩, _, ⟨rfl, has⟩, rfl⟩
      exact ⟨rfl, ha, has⟩
    · rintro ⟨rfl, ha, has⟩
      exact ⟨_, ⟨rfl, ha⟩, _, ⟨rfl, has⟩, rfl⟩

/-- What is done to the last result of a chain is done to the result of the chain. -/
theorem map_bind_of {α β γ : Type} {x : Except Exc α} {f : α → Except Exc β}
    {f' : α → Except Exc γ} {g : β → γ} (h : ∀ a, f' a = (f a).map g) :
    (x >>= f') = (x >>= f).map g := by
  cases x with
  | ok a => exact h a
  | error e => rfl

/-- A chain of guarded reads raises what the first failing step raises. -/
theorem bind_eq_error {α β : Type} {x : Except Exc α} {f : α → Except Exc β} {e : Exc} :
    (x >>= f) = .error e ↔ x = .error e ∨ ∃ a, x = .ok a ∧ f a = .error e := by
  cases x with
  | ok a => simp [bind, Except.bind]
  | error e' => simp [bind, Except.bind]

@[simp] theorem require_eq_error {α : Type} {o : Option α} {e e' : Exc} :
    require o e = .error e' ↔ o = none ∧ e = e' := by
  cases o <;> simp [require]

end Rotas
