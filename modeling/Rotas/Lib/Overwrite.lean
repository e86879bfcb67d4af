import Mathlib.Data.List.Induction

/-!
# Rotas.Lib.Overwrite

Updates that overwrite what they wrote before.

* `Overwrites`  — an update forgets what it wrote, whatever is updated in between.
* `foldl_again` — a list of updates that is done twice is as good as done once.
-/

namespace Rotas

universe u v

variable {σ : Type u} {α : Type v}

structure Overwrites (update : σ → α → σ) : Prop where
  again : ∀ x a, update (update x a) a = update x a
  /-- Two states that one update makes the same, it makes the same after any other update. -/
  forgets : ∀ {x y a}, update x a = update y a →
    ∀ b, update (update x b) a = update (update y b) a

namespace Overwrites

variable {update : σ → α → σ}

theorem foldl_forgets (h : Overwrites update) {a : α} (as : List α) :
    ∀ {x y}, update x a = update y a →
      update (as.foldl update x) a = update (as.foldl update y) a := by
  induction as with
  | nil => intro x y hxy; exact hxy
  | cons b as ih =>
    intro x y hxy
    exact ih (h.forgets hxy b)

theorem foldl_again (h : Overwrites update) (as : List α) (x : σ) :
    as.foldl update (as.foldl update x) = as.foldl update x := by
  -- The last update makes its first round forgotten; the updates before it are done twice.
  induction as using List.reverseRecOn with
  | nil => rfl
  | append_singleton as a ih =>
    have hforgets : update (as.foldl update (update (as.foldl update x) a)) a =
        update (as.foldl update (as.foldl update x)) a :=
      h.foldl_forgets as (h.again _ a)
    simp only [List.foldl_append, List.foldl_cons, List.foldl_nil]
    rw [hforgets, ih]

end Overwrites
end Rotas
