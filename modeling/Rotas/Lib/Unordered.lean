import Rotas.Lib.Table
import Mathlib.Data.List.Perm.Basic

/-!
# Rotas.Lib.Unordered

Queries without an order. The rows of a table may come in any order, and a query for one row takes
the first that satisfies its condition.

* `find?_perm` — a condition that one row satisfies at most finds the same in every order.
* `Reordered t t'` — `t'` has the rows of `t`, in some order.
* `exists_first` — any row that satisfies the condition comes first in some order.
* `find?_of_unique` — `find?_perm`, of the rows of a table.
* `find?_alike_iff` — what is made of the row found is the same in every order exactly when it is
  the same for all rows that satisfy the condition.
-/

namespace Rotas

universe u v

theorem find?_perm {α : Type u} {p : α → Bool} {l l' : List α} (hperm : l'.Perm l)
    (huniq : ∀ a ∈ l, ∀ b ∈ l, p a = true → p b = true → a = b) : l'.find? p = l.find? p := by
  cases hfound : l.find? p with
  | none =>
    rw [List.find?_eq_none] at hfound ⊢
    intro a ha
    exact hfound a (hperm.mem_iff.mp ha)
  | some a =>
    cases hfound' : l'.find? p with
    | none =>
      have ha := List.find?_eq_none.mp hfound' a
        (hperm.mem_iff.mpr (List.mem_of_find?_eq_some hfound))
      exact absurd (List.find?_some hfound) ha
    | some b =>
      have hb := hperm.mem_iff.mp (List.mem_of_find?_eq_some hfound')
      rw [huniq b hb a (List.mem_of_find?_eq_some hfound) (List.find?_some hfound')
        (List.find?_some hfound)]

namespace Table

variable {ρ : Type u} {β : Type v} [Keyed ρ] {t t' t'' : Table ρ} {p : ρ → Bool} {r : ρ}

def Reordered (t t' : Table ρ) : Prop := t'.rows.Perm t.rows

theorem Reordered.refl (t : Table ρ) : t.Reordered t := List.Perm.refl _

theorem Reordered.mem_iff (h : t.Reordered t') : r ∈ t' ↔ r ∈ t := List.Perm.mem_iff h

theorem exists_first (hr : r ∈ t) (hp : p r = true) :
    ∃ t', t.Reordered t' ∧ t'.rows.find? p = some r := by
  obtain ⟨before, after, hrows⟩ := List.append_of_mem hr
  have hperm : (r :: (before ++ after)).Perm t.rows := by
    rw [hrows]
    exact List.perm_middle.symm
  have hnodup : ((r :: (before ++ after)).map Keyed.key).Nodup :=
    (hperm.map Keyed.key).nodup_iff.mpr t.nodup
  refine ⟨⟨r :: (before ++ after), hnodup⟩, hperm, ?_⟩
  rw [List.find?_cons_of_pos hp]

theorem Reordered.find?_eq_none (h : t.Reordered t') :
    t'.rows.find? p = none ↔ t.rows.find? p = none := by
  rw [List.find?_eq_none, List.find?_eq_none]
  constructor
  · intro hnone r hr
    exact hnone r (h.mem_iff.mpr hr)
  · intro hnone r hr
    exact hnone r (h.mem_iff.mp hr)

theorem Reordered.of_find? (h : t.Reordered t') (hr : t'.rows.find? p = some r) :
    r ∈ t ∧ p r = true :=
  ⟨h.mem_iff.mp (List.mem_of_find?_eq_some hr), List.find?_some hr⟩

theorem find?_of_unique (huniq : ∀ r ∈ t, ∀ r' ∈ t, p r = true → p r' = true → r = r')
    (h : t.Reordered t') : t'.rows.find? p = t.rows.find? p := find?_perm h huniq

theorem find?_alike_iff (g : Option ρ → β) :
    (∀ t', t.Reordered t' → g (t'.rows.find? p) = g (t.rows.find? p)) ↔
      ∀ r ∈ t, ∀ r' ∈ t, p r = true → p r' = true → g (some r) = g (some r') := by
  constructor
  · intro halike r hr r' hr' hp hp'
    obtain ⟨t₁, hord, hfirst⟩ := exists_first hr hp
    obtain ⟨t₂, hord', hfirst'⟩ := exists_first hr' hp'
    rw [← hfirst, ← hfirst', halike t₁ hord, halike t₂ hord']
  · intro hsame t' h
    cases hfound : t'.rows.find? p with
    | none => rw [h.find?_eq_none.mp hfound]
    | some r' =>
      obtain ⟨hr', hp'⟩ := h.of_find? hfound
      cases hfound₀ : t.rows.find? p with
      | none => cases (h.find?_eq_none.mpr hfound₀).symm.trans hfound
      | some r =>
        obtain ⟨hr, hp⟩ := (Reordered.refl t).of_find? hfound₀
        exact hsame r' hr' r hr hp' hp

end Table
end Rotas
