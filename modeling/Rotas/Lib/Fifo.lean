import Mathlib.Algebra.BigOperators.Group.List.Basic
import Mathlib.Algebra.Order.Ring.Int
import Mathlib.Data.List.Zip

/-!
# Rotas.Lib.Fifo

A quantity taken from a list of stores, the first one first.

* `take qs n`       — what is taken of each store; `none` of a store that is not reached.
* `sum_take`        — all of `n` is taken, where there is as much.
* `wholly_before`   — a store is only reached once those before it are used up.
* `le_of_mem_take`  — no store gives more than it has.

The stores may be below zero: one that is reached then adds to what is still to be taken.
-/

namespace Rotas
namespace Fifo

def take : List Int → Int → List (Option Int)
  | [], _ => []
  | q :: qs, n => if n ≤ 0 then none :: take qs n else some (min q n) :: take qs (n - min q n)

/-- What was taken of one store. -/
def amount (t : Option Int) : Int := t.getD 0

@[simp] theorem take_nil (n : Int) : take [] n = [] := rfl

theorem take_of_nonpos {n : Int} (hn : n ≤ 0) (qs : List Int) : take qs n = qs.map fun _ => none := by
  induction qs with
  | nil => rfl
  | cons q qs ih => rw [take, if_pos hn, ih, List.map_cons]

@[simp] theorem length_take (qs : List Int) (n : Int) : (take qs n).length = qs.length := by
  induction qs generalizing n with
  | nil => rfl
  | cons q qs ih =>
    unfold take
    split <;> simp [ih]

theorem sum_take_of_nonpos {n : Int} (hn : n ≤ 0) (qs : List Int) :
    ((take qs n).map amount).sum = 0 := by
  rw [take_of_nonpos hn, List.map_map]
  simp [Function.comp_def, amount]

theorem sum_take {qs : List Int} {n : Int} (hn : 0 ≤ n) (hle : n ≤ qs.sum) :
    ((take qs n).map amount).sum = n := by
  induction qs generalizing n with
  | nil =>
    simp at hle ⊢
    omega
  | cons q qs ih =>
    rw [List.sum_cons] at hle
    by_cases hpos : n ≤ 0
    · rw [sum_take_of_nonpos hpos]
      omega
    · rw [take, if_neg hpos, List.map_cons, List.sum_cons]
      by_cases hq : q ≤ n
      · -- the store is used up
        rw [min_eq_left hq, ih (by omega) (by omega)]
        simp [amount]
      · -- nothing is left to be taken
        rw [min_eq_right (by omega), sum_take_of_nonpos (by omega)]
        simp [amount]

theorem not_reached {qs : List Int} {n : Int} (hn : n ≤ 0) {e : Int × Option Int}
    (he : e ∈ qs.zip (take qs n)) : e.2 = none := by
  rw [take_of_nonpos hn] at he
  obtain ⟨q, -, hq⟩ := List.mem_map.mp (List.of_mem_zip he).2
  exact hq.symm

theorem wholly_before (qs : List Int) (n : Int) :
    (qs.zip (take qs n)).Pairwise fun a b => b.2.isSome = true → a.2 = some a.1 := by
  induction qs generalizing n with
  | nil => simp
  | cons q qs ih =>
    by_cases hpos : n ≤ 0
    · refine List.pairwise_of_forall_mem_list fun a _ b hb hsome => ?_
      rw [not_reached hpos hb] at hsome
      cases hsome
    · rw [take, if_neg hpos, List.zip_cons_cons, List.pairwise_cons]
      refine ⟨fun b hb hsome => ?_, ih _⟩
      by_cases hq : q ≤ n
      · simp [hq]
      · rw [min_eq_right (by omega), sub_self] at hb
        rw [not_reached le_rfl hb] at hsome
        cases hsome

theorem le_of_mem_take {qs : List Int} {n : Int} {e : Int × Option Int} {t : Int}
    (he : e ∈ qs.zip (take qs n)) (ht : e.2 = some t) : t ≤ e.1 := by
  induction qs generalizing n with
  | nil => cases he
  | cons q qs ih =>
    unfold take at he
    split at he
    · rw [List.zip_cons_cons, List.mem_cons] at he
      rcases he with rfl | he
      · cases ht
      · exact ih he
    · rw [List.zip_cons_cons, List.mem_cons] at he
      rcases he with rfl | he
      · cases ht
        exact min_le_left q n
      · exact ih he

end Fifo
end Rotas
