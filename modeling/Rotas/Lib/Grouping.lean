import Mathlib.Algebra.BigOperators.Group.Finset.Piecewise
import Mathlib.Algebra.Order.BigOperators.Group.Finset
import Mathlib.Algebra.Order.Ring.Int
import Mathlib.Data.List.Nodup
import Mathlib.Tactic.Ring

/-!
# Rotas.Lib.Grouping

Sums by group and lists read in pages.

* `addTo k x d` — `d[k] = d.get(k, 0) + x` for a dictionary in insertion order; `sumOver_addTo`.
* `sum_le_of_groups` — lists that are compared group by group.
* `page limit offset l`, `pages` — one page of a list, and the first pages one after another.
-/

namespace Rotas

universe u

section Groups

variable {κ : Type u}

def addTo [DecidableEq κ] (k : κ) (x : Int) : List (κ × Int) → List (κ × Int)
  | [] => [(k, x)]
  | (k', y) :: d => if k' = k then (k', y + x) :: d else (k', y) :: addTo k x d

/-- The sum over the groups that `p` selects. -/
def sumOver (p : κ → Bool) (d : List (κ × Int)) : Int :=
  ((d.filter fun e => p e.1).map Prod.snd).sum

theorem sumOver_cons (p : κ → Bool) (k : κ) (x : Int) (d : List (κ × Int)) :
    sumOver p ((k, x) :: d) = (if p k then x else 0) + sumOver p d := by
  unfold sumOver
  by_cases h : p k <;> simp [h]

theorem sumOver_addTo [DecidableEq κ] (p : κ → Bool) (k : κ) (x : Int) (d : List (κ × Int)) :
    sumOver p (addTo k x d) = sumOver p d + if p k then x else 0 := by
  induction d with
  | nil =>
    rw [addTo, sumOver_cons]
    exact add_comm _ _
  | cons e d ih =>
    obtain ⟨k', y⟩ := e
    by_cases hk : k' = k
    · subst hk
      rw [addTo, if_pos rfl, sumOver_cons, sumOver_cons]
      by_cases hp : p k'
      · simp only [hp, if_true]
        ring
      · simp only [hp, Bool.false_eq_true, if_false]
        ring
    · rw [addTo, if_neg hk, sumOver_cons, sumOver_cons, ih]
      ring

theorem sumOver_perm {p : κ → Bool} {d d' : List (κ × Int)} (h : d.Perm d') :
    sumOver p d = sumOver p d' :=
  ((h.filter _).map _).sum_eq

end Groups

section Compare

variable {κ : Type u} [DecidableEq κ] {α β : Type u}

theorem sum_eq_sum_groups (key : α → κ) (f : α → Int) {ks : Finset κ} : ∀ {l : List α},
    (∀ a ∈ l, key a ∈ ks) →
      (l.map f).sum = ∑ k ∈ ks, ((l.filter fun a => key a = k).map f).sum := by
  intro l
  induction l with
  | nil => simp
  | cons a l ih =>
    intro h
    have hgroup : ∀ k, (((a :: l).filter fun a => key a = k).map f).sum =
        (if key a = k then f a else 0) + ((l.filter fun a => key a = k).map f).sum := by
      intro k
      by_cases hk : key a = k <;> simp [hk]
    simp only [hgroup, Finset.sum_add_distrib, Finset.sum_ite_eq, h a List.mem_cons_self, if_true]
    rw [List.map_cons, List.sum_cons, ih fun a ha => h a (List.mem_cons_of_mem _ ha)]

theorem sum_le_of_groups {xs : List α} {ys : List β} {f : α → Int} {g : β → Int} (kx : α → κ)
    (ky : β → κ) (h : ∀ k, ((xs.filter fun x => kx x = k).map f).sum ≤
      ((ys.filter fun y => ky y = k).map g).sum) : (xs.map f).sum ≤ (ys.map g).sum := by
  let ks : Finset κ := (xs.map kx).toFinset ∪ (ys.map ky).toFinset
  have hxs : ∀ x ∈ xs, kx x ∈ ks := fun x hx =>
    Finset.mem_union_left _ (List.mem_toFinset.mpr (List.mem_map_of_mem hx))
  have hys : ∀ y ∈ ys, ky y ∈ ks := fun y hy =>
    Finset.mem_union_right _ (List.mem_toFinset.mpr (List.mem_map_of_mem hy))
  rw [sum_eq_sum_groups kx f hxs, sum_eq_sum_groups ky g hys]
  exact Finset.sum_le_sum fun k _ => h k

end Compare

section Pages

variable {α : Type u}

theorem filterMap_guard {β : Type u} (c : α → Bool) (g : α → β) (l : List α) :
    l.filterMap (fun a => if c a then some (g a) else none) = (l.filter c).map g := by
  rw [← List.filterMap_eq_map, List.filterMap_filter]
  rfl

/-- `OFFSET offset LIMIT limit`. -/
def page (limit offset : Nat) (l : List α) : List α := (l.drop offset).take limit

theorem flatMap_page (limit : Nat) (l : List α) (n : Nat) :
    ((List.range n).flatMap fun i => page limit (i * limit) l) = l.take (n * limit) := by
  induction n with
  | zero => simp
  | succ n ih =>
    rw [List.range_succ, List.flatMap_append, ih, List.flatMap_singleton, page, Nat.succ_mul,
      List.take_add]

theorem flatMap_page_all {limit n : Nat} {l : List α} (h : l.length ≤ n * limit) :
    ((List.range n).flatMap fun i => page limit (i * limit) l) = l := by
  rw [flatMap_page, List.take_of_length_le h]

end Pages

end Rotas
