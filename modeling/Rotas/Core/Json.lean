import Mathlib.Data.Rat.Defs

/-!
# Rotas.Core.Json

The values of a JSON column, as the language sees them.

* `Json.truthy` — what counts as true: not null, false, zero, or empty.
* `Json.get?`   — `value.get(key)` of an object.
* `setEntry`    — `value[key] = …`.
* `Interpreter` — `str` of a value that is no text, and `datetime.fromisoformat`. What they answer
  is not spelled out.
-/

namespace Rotas

inductive Json where
  | null
  | bool (b : Bool)
  | number (q : ℚ)
  | text (s : String)
  | list (items : List Json)
  | object (entries : List (String × Json))

namespace Json

def truthy : Json → Bool
  | .null => false
  | .bool b => b
  | .number q => q ≠ 0
  | .text s => s ≠ ""
  | .list items => !items.isEmpty
  | .object entries => !entries.isEmpty

/-- `entries.get(key)`; an object has each of its keys once. -/
def get? (entries : List (String × Json)) (key : String) : Option Json :=
  (entries.find? (·.1 = key)).map (·.2)

/-- `a or b`, of values that may be absent. -/
def orElse (a b : Option Json) : Option Json := (a.filter truthy).or b

end Json

/-- The entries of an object. -/
abbrev Payload := List (String × Json)

/-- `entries[key] = value`. -/
def setEntry (entries : Payload) (key : String) (value : Json) : Payload :=
  entries.filter (·.1 ≠ key) ++ [(key, value)]

theorem get?_cons (e : String × Json) (es : Payload) (k : String) :
    Json.get? (e :: es) k = if e.1 = k then some e.2 else Json.get? es k := by
  rw [Json.get?, List.find?_cons]
  by_cases h : e.1 = k <;> simp [h, Json.get?]

theorem get?_filter_ne (entries : Payload) (key k : String) :
    Json.get? (entries.filter (·.1 ≠ key)) k = if k = key then none else Json.get? entries k := by
  rw [Json.get?, List.find?_filter]
  split
  · next heq =>
    rw [List.find?_eq_none.mpr fun e _ => by simp [heq], Option.map_none]
  · next hne =>
    rw [Json.get?]
    congr 2
    funext e
    by_cases hk : e.1 = k
    · simp [hk, hne]
    · simp [hk]

theorem get?_setEntry (entries : Payload) (key k : String) (value : Json) :
    Json.get? (setEntry entries key value) k =
      if k = key then some value else Json.get? entries k := by
  rw [setEntry, Json.get?, List.find?_append, Option.map_or, ← Json.get?, get?_filter_ne]
  split
  · next heq => simp [heq]
  · next hne =>
    have hlast : ¬ key = k := fun heq => hne heq.symm
    simp [hlast]

theorem forall_mem_setEntry {P : String → Prop} {p : Payload} (h : ∀ e ∈ p, P e.1) {key : String}
    (hkey : P key) (value : Json) : ∀ e ∈ setEntry p key value, P e.1 := by
  intro e he
  rcases List.mem_append.mp he with he | he
  · exact h e (List.mem_filter.mp he).1
  · rw [List.mem_singleton.mp he]
    exact hkey

class Interpreter where
  /-- `str(value)` of a value that is no text. -/
  repr : Json → String
  /-- The date of `datetime.fromisoformat` in days since 1970-01-01; none where it raises. -/
  fromisoformat : String → Option Int

/-- Texts that are no date, and values whose text is never read. -/
@[reducible] def Interpreter.undated : Interpreter := ⟨fun _ => "", fun _ => none⟩

/-- `str(value)`. -/
def Json.str [Interpreter] : Json → String
  | .text s => s
  | value => Interpreter.repr value

end Rotas
