import Mathlib.Data.List.Basic

/-!
# Rotas.Lib.Ensure

Rows that are looked for by a name, and added where none has it.

* `ensureAll` — the rows, with one for every item.
* `named_ensureAll` — every item has its row then.
* `ensureAll_of_named` — where every item has its row, nothing is added.
* `find?_of_prefix` — rows added later do not change the row that is found.
-/

namespace Rotas

section Ensure

variable {α ι κ : Type} [DecidableEq κ] (key : α → κ) (name : ι → κ) (mk : List α → ι → α)

/-- The rows, with a new one for each item whose name no row has. -/
def ensureAll : List α → List ι → List α
  | rows, [] => rows
  | rows, i :: items =>
    ensureAll (if name i ∈ rows.map key then rows else rows ++ [mk rows i]) items

variable {key name mk} {rows rows' : List α} {items : List ι}

theorem ensureAll_of_named (h : ∀ i ∈ items, name i ∈ rows.map key) :
    ensureAll key name mk rows items = rows := by
  induction items with
  | nil => rfl
  | cons i items ih =>
    rw [ensureAll, if_pos (h i List.mem_cons_self)]
    exact ih fun j hj => h j (List.mem_cons_of_mem _ hj)

theorem prefix_ensureAll : ∀ {rows}, rows <+: ensureAll key name mk rows items := by
  induction items with
  | nil => exact List.prefix_rfl
  | cons i items ih =>
    intro rows
    refine List.IsPrefix.trans ?_ ih
    split
    · exact List.prefix_rfl
    · exact List.prefix_append ..

omit [DecidableEq κ] in
theorem named_of_prefix {k : κ} (h : rows <+: rows') (hk : k ∈ rows.map key) :
    k ∈ rows'.map key :=
  (h.map key).subset hk

theorem named_ensureAll (hmk : ∀ rows i, key (mk rows i) = name i) :
    ∀ {rows}, ∀ i ∈ items, name i ∈ (ensureAll key name mk rows items).map key := by
  induction items with
  | nil => exact fun _ h => absurd h List.not_mem_nil
  | cons i items ih =>
    intro rows j hj
    rcases List.mem_cons.mp hj with rfl | hj
    · refine named_of_prefix (@prefix_ensureAll _ _ _ _ key name mk items _) ?_
      split
      · assumption
      · simp [hmk]
    · exact ih j hj

theorem mem_ensureAll {r : α} : ∀ {rows}, r ∈ ensureAll key name mk rows items →
    r ∈ rows ∨ ∃ i ∈ items, ∃ rows, r = mk rows i := by
  induction items with
  | nil => exact .inl
  | cons i items ih =>
    intro rows h
    rcases ih h with h | ⟨j, hj, hr⟩
    · split at h
      · exact .inl h
      · rcases List.mem_append.mp h with h | h
        · exact .inl h
        · exact .inr ⟨i, List.mem_cons_self, rows, List.mem_singleton.mp h⟩
    · exact .inr ⟨j, List.mem_cons_of_mem _ hj, hr⟩

theorem find?_of_prefix {k : κ} (h : rows <+: rows') (hk : k ∈ rows.map key) :
    rows'.find? (key · = k) = rows.find? (key · = k) := by
  obtain ⟨r, hr, rfl⟩ := List.mem_map.mp hk
  cases hfind : rows.find? (key · = key r) with
  | none => exact absurd (decide_eq_true rfl) (List.find?_eq_none.mp hfind r hr)
  | some found => exact h.find?_eq_some hfind

end Ensure

-- the rows of a long list of items are not to be computed
attribute [irreducible] ensureAll

end Rotas
