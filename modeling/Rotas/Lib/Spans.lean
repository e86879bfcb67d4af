import Mathlib.Algebra.BigOperators.Group.List.Basic
import Mathlib.Algebra.Order.Ring.Int
import Mathlib.Data.List.Basic

/-!
# Rotas.Lib.Spans

Half-open intervals of instants and how long they are.

* `span a b` — the length of `[a, b)`.
* `overlap a b lo hi` — the length of what `[a, b)` has in common with `[lo, hi)`.
* `sum_filter`, `sum_filterMap` — a sum over some of a list, over all of it.
* `sum_starting` — counting intervals by where they start, against counting what is in the
  window.
-/

namespace Rotas
namespace Spans

universe u

def span (a b : Int) : Int := max 0 (b - a)

def overlap (a b lo hi : Int) : Int := span (max a lo) (min b hi)

theorem span_nonneg (a b : Int) : 0 ≤ span a b := le_max_left _ _

theorem span_mono {a b b' : Int} (h : b ≤ b') : span a b ≤ span a b' := by
  simp only [span]
  omega

/-- An interval that starts in the window leaves it only at its end. -/
theorem span_of_start_in {a b lo hi : Int} (hlo : lo ≤ a) (hhi : a < hi) :
    span a b = overlap a b lo hi + span hi b := by
  simp only [span, overlap]
  omega

theorem overlap_of_start_after {a b lo hi : Int} (h : hi ≤ a) : overlap a b lo hi = 0 := by
  simp only [span, overlap]
  omega

theorem overlap_of_end_before {a b lo hi : Int} (h : b ≤ lo) : overlap a b lo hi = 0 := by
  simp only [span, overlap]
  omega

theorem span_of_le {a b : Int} (h : b ≤ a) : span a b = 0 := by
  simp only [span]
  omega

theorem sum_filter {ι : Type u} {p : ι → Bool} {w : ι → Int} (xs : List ι) :
    ((xs.filter p).map w).sum = (xs.map fun x => if p x then w x else 0).sum := by
  induction xs with
  | nil => rfl
  | cons x xs ih => by_cases hx : p x <;> simp [hx, ih]

theorem sum_filterMap {ι κ : Type u} {g : ι → Option κ} {w : κ → Int} (xs : List ι) :
    ((xs.filterMap g).map w).sum = (xs.map fun x => ((g x).map w).getD 0).sum := by
  induction xs with
  | nil => rfl
  | cons x xs ih => cases hx : g x <;> simp [hx, ih]

variable {ι : Type u} (xs : List ι) (a b : ι → Int) (lo hi : Int)

/-- The intervals that start in the window, counted whole, are what all of them have in the window
and what those that start in it have after it, without what the earlier ones have in it. -/
theorem sum_starting :
    (xs.map fun x => if lo ≤ a x ∧ a x < hi then span (a x) (b x) else 0).sum =
      (xs.map fun x => overlap (a x) (b x) lo hi).sum +
        (xs.map fun x => if lo ≤ a x ∧ a x < hi then span hi (b x) else 0).sum -
        (xs.map fun x => if a x < lo then overlap (a x) (b x) lo hi else 0).sum := by
  induction xs with
  | nil => rfl
  | cons x xs ih =>
    simp only [List.map_cons, List.sum_cons, ih]
    by_cases hlo : lo ≤ a x
    · by_cases hhi : a x < hi
      · rw [if_pos ⟨hlo, hhi⟩, if_pos ⟨hlo, hhi⟩, if_neg (by omega), span_of_start_in hlo hhi]
        omega
      · rw [if_neg (by omega), if_neg (by omega), if_neg (by omega),
          overlap_of_start_after (by omega)]
        omega
    · rw [if_neg (by omega), if_neg (by omega), if_pos (by omega)]
      omega

end Spans
end Rotas
