import Rotas.Lib.Unordered
import Mathlib.Order.Defs.LinearOrder

/-!
# Rotas.Lib.Tiers

Values by tiers: half-open intervals of a linear order, and the first tier that holds a point.

* `Tier` — an interval, open above if it has no upper end, and its value.
* `Adjoining` — each tier ends where the next one begins, the last is open, and the values do
  not fall.
* `Adjoining.unique` — a point is in one tier at most, so the order of the list does not matter.
* `Adjoining.mono` — a greater point has no smaller value.
-/

namespace Rotas

universe u v

structure Tier (α : Type u) (β : Type v) where
  lower : α
  upper : Option α
  value : β

variable {α : Type u} {β : Type v} [LinearOrder α]

namespace Tier

def holds (t : Tier α β) (x : α) : Bool := t.lower ≤ x && t.upper.all (x < ·)

theorem holds_iff {t : Tier α β} {x : α} :
    t.holds x = true ↔ t.lower ≤ x ∧ ∀ upper, t.upper = some upper → x < upper := by
  simp [holds, Option.all_eq_true]

theorem lower_le {t : Tier α β} {x : α} (h : t.holds x = true) : t.lower ≤ x := (holds_iff.mp h).1

theorem lt_upper {t : Tier α β} {x upper : α} (h : t.holds x = true) (hu : t.upper = some upper) :
    x < upper := (holds_iff.mp h).2 upper hu

end Tier

variable [Preorder β]

/-- The tiers in their order. -/
def Adjoining : List (Tier α β) → Prop
  | [] => True
  | [t] => t.upper = none
  | t :: next :: rest =>
    t.upper = some next.lower ∧ t.lower ≤ next.lower ∧ t.value ≤ next.value ∧
      Adjoining (next :: rest)

namespace Adjoining

variable {t next : Tier α β} {rest tiers : List (Tier α β)} {x y : α}

theorem tail (h : Adjoining (t :: rest)) : Adjoining rest := by
  cases rest with
  | nil => trivial
  | cons next rest => exact h.2.2.2

theorem lower_le_of_mem (h : Adjoining (t :: rest)) : ∀ u ∈ rest, t.lower ≤ u.lower := by
  induction rest generalizing t with
  | nil => intro u hu; cases hu
  | cons next rest ih =>
    intro u hu
    rcases List.mem_cons.mp hu with rfl | hu
    · exact h.2.1
    · exact le_trans h.2.1 (ih h.2.2.2 u hu)

/-- A point that the first tier holds is before all the others. -/
theorem lt_of_holds (h : Adjoining (t :: rest)) (hx : t.holds x = true) :
    ∀ u ∈ rest, x < u.lower := by
  cases rest with
  | nil => intro u hu; cases hu
  | cons next rest =>
    intro u hu
    have hnext : x < next.lower := Tier.lt_upper hx h.1
    rcases List.mem_cons.mp hu with rfl | hu
    · exact hnext
    · exact lt_of_lt_of_le hnext (h.2.2.2.lower_le_of_mem u hu)

theorem unique (h : Adjoining tiers) : ∀ t ∈ tiers, ∀ u ∈ tiers,
    t.holds x = true → u.holds x = true → t = u := by
  induction tiers with
  | nil => intro t ht; cases ht
  | cons first rest ih =>
    intro t ht u hu hxt hxu
    rcases List.mem_cons.mp ht with rfl | htrest
    · rcases List.mem_cons.mp hu with rfl | hurest
      · rfl
      · exact absurd (Tier.lower_le hxu) (not_le_of_gt (h.lt_of_holds hxt u hurest))
    · rcases List.mem_cons.mp hu with rfl | hurest
      · exact absurd (Tier.lower_le hxt) (not_le_of_gt (h.lt_of_holds hxu t htrest))
      · exact ih h.tail t htrest u hurest hxt hxu

/-- From the beginning of the first tier on, every point is in a tier, of no smaller value. -/
theorem exists_tier (h : Adjoining (t :: rest)) (hx : t.lower ≤ x) :
    ∃ u ∈ t :: rest, u.holds x = true ∧ t.value ≤ u.value := by
  induction rest generalizing t with
  | nil =>
    have hopen : t.upper = none := h
    refine ⟨t, List.mem_cons_self, Tier.holds_iff.mpr ⟨hx, fun upper hu => ?_⟩, le_refl _⟩
    rw [hopen] at hu
    cases hu
  | cons next rest ih =>
    by_cases hnext : next.lower ≤ x
    · obtain ⟨u, hu, hholds, hle⟩ := ih h.2.2.2 hnext
      exact ⟨u, List.mem_cons_of_mem _ hu, hholds, le_trans h.2.2.1 hle⟩
    · refine ⟨t, List.mem_cons_self, Tier.holds_iff.mpr ⟨hx, fun upper hu => ?_⟩, le_refl _⟩
      obtain rfl := Option.some.inj (h.1.symm.trans hu)
      exact lt_of_not_ge hnext

/-- Beyond a point that a tier holds, every point is in a tier of no smaller value. -/
theorem mono (h : Adjoining tiers) (hxy : x ≤ y) : ∀ t ∈ tiers, t.holds x = true →
    ∃ u ∈ tiers, u.holds y = true ∧ t.value ≤ u.value := by
  induction tiers with
  | nil => intro t ht; cases ht
  | cons first rest ih =>
    intro t ht hx
    rcases List.mem_cons.mp ht with rfl | ht
    · exact h.exists_tier (le_trans (Tier.lower_le hx) hxy)
    · obtain ⟨u, hu, hholds, hle⟩ := ih h.tail t ht hx
      exact ⟨u, List.mem_cons_of_mem _ hu, hholds, hle⟩

end Adjoining
end Rotas
