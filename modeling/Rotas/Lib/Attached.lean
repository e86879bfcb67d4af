import Rotas.Lib.Table

/-!
# Rotas.Lib.Attached

Tables whose rows hang off something else: each row has a label, which says what it hangs off, and
may be live.

* `Table.Grows` — rows are changed under their labels, none of them comes to life, and the labels
  of the new ones are allowed.
* `Table.keysWhere` — the keys of the rows with some labels; labels that are not allowed get no more.
* `Grows.any_eq`, `Grows.countP_le` — nor do they appear, and of the live ones there are no more.
* `Grows.refl`, `Grows.trans`, `grows_append`, `grows_update` — the rules for updates.
-/

namespace Rotas

universe u v

namespace Table

open Keyed (key)

variable {ρ : Type u} [Keyed ρ] {β : Type v} {label : ρ → β} {live : ρ → Bool} {P Q : β → Prop}
  {t t' t'' : Table ρ}

/-- From `t` to `t'` rows keep their keys and labels and do not come to life, and the labels of new
rows satisfy `P`. -/
def Grows (label : ρ → β) (live : ρ → Bool) (P : β → Prop) (t t' : Table ρ) : Prop :=
  ∃ (f : ρ → ρ) (new : List ρ), t'.rows = t.rows.map f ++ new ∧
    (∀ r ∈ t.rows, key (f r) = key r ∧ label (f r) = label r ∧ (live (f r) = true → live r = true)) ∧
    ∀ r ∈ new, P (label r)

theorem Grows.refl (t : Table ρ) : Grows label live P t t :=
  ⟨id, [], by simp, fun _ _ => ⟨rfl, rfl, id⟩, fun _ h => absurd h List.not_mem_nil⟩

theorem Grows.mono (h : Grows label live P t t') (hPQ : ∀ b, P b → Q b) :
    Grows label live Q t t' := by
  obtain ⟨f, new, hrows, hf, hnew⟩ := h
  exact ⟨f, new, hrows, hf, fun r hr => hPQ _ (hnew r hr)⟩

theorem Grows.trans (h : Grows label live P t t') (h' : Grows label live P t' t'') :
    Grows label live P t t'' := by
  obtain ⟨f, new, hrows, hf, hnew⟩ := h
  obtain ⟨f', new', hrows', hf', hnew'⟩ := h'
  refine ⟨f' ∘ f, new.map f' ++ new', ?_, fun r hr => ?_, fun r hr => ?_⟩
  · rw [hrows', hrows, List.map_append, List.map_map, List.append_assoc]
  · obtain ⟨hkey, hlabel, hlive⟩ := hf r hr
    have hmem : f r ∈ t'.rows := by
      rw [hrows]
      exact List.mem_append_left _ (List.mem_map_of_mem hr)
    obtain ⟨hkey', hlabel', hlive'⟩ := hf' _ hmem
    exact ⟨hkey'.trans hkey, hlabel'.trans hlabel, fun hl => hlive (hlive' hl)⟩
  · rcases List.mem_append.mp hr with hr | hr
    · obtain ⟨r₀, hr₀, rfl⟩ := List.mem_map.mp hr
      have hmem : r₀ ∈ t'.rows := by
        rw [hrows]
        exact List.mem_append_right _ hr₀
      rw [(hf' r₀ hmem).2.1]
      exact hnew r₀ hr₀
    · exact hnew' r hr

theorem grows_append {r : ρ} (hrows : t'.rows = t.rows ++ [r]) (h : P (label r)) :
    Grows label live P t t' := by
  refine ⟨id, [r], by rw [hrows, List.map_id], fun _ _ => ⟨rfl, rfl, id⟩, fun r' hr => ?_⟩
  rw [List.mem_singleton.mp hr]
  exact h

theorem grows_update {p : ρ → Bool} {f : ρ → ρ}
    (hrows : t'.rows = t.rows.map fun r => if p r then f r else r) (hkey : ∀ r, key (f r) = key r)
    (h : ∀ r ∈ t, p r = true → label (f r) = label r ∧ (live (f r) = true → live r = true)) :
    Grows label live P t t' := by
  refine ⟨fun r => if p r then f r else r, [], by rw [hrows, List.append_nil], fun r hr => ?_,
    fun _ h => absurd h List.not_mem_nil⟩
  dsimp only
  split
  · next hp => exact ⟨hkey r, h r hr hp⟩
  · exact ⟨rfl, rfl, id⟩

/-- A row was there, with the same label and live if it is now, or its label is allowed. -/
theorem Grows.mem (h : Grows label live P t t') {r' : ρ} (hr : r' ∈ t') :
    (∃ r ∈ t, key r' = key r ∧ label r' = label r ∧ (live r' = true → live r = true)) ∨
      P (label r') := by
  obtain ⟨f, new, hrows, hf, hnew⟩ := h
  rw [mem_def, hrows] at hr
  rcases List.mem_append.mp hr with hr | hr
  · obtain ⟨r, hr₀, rfl⟩ := List.mem_map.mp hr
    exact .inl ⟨r, hr₀, hf r hr₀⟩
  · exact .inr (hnew r' hr)

theorem Grows.exists_of_mem (h : Grows label live P t t') {r : ρ} (hr : r ∈ t) :
    ∃ r' ∈ t', key r' = key r ∧ label r' = label r := by
  obtain ⟨f, new, hrows, hf, _⟩ := h
  refine ⟨f r, ?_, (hf r hr).1, (hf r hr).2.1⟩
  rw [mem_def, hrows]
  exact List.mem_append_left _ (List.mem_map_of_mem hr)

/-- The row of a key is still there, with the same label, and live only if it was. -/
theorem Grows.get (h : Grows label live P t t') {k : Nat} {r : ρ} (hr : t.get k = some r) :
    ∃ r', t'.get k = some r' ∧ label r' = label r ∧ (live r' = true → live r = true) := by
  obtain ⟨f, new, hrows, hf, _⟩ := h
  obtain ⟨hmem, rfl⟩ := get_eq_some_iff.mp hr
  obtain ⟨hkey, hlabel, hlive⟩ := hf r hmem
  refine ⟨f r, get_eq_some_iff.mpr ⟨?_, hkey⟩, hlabel, hlive⟩
  rw [mem_def, hrows]
  exact List.mem_append_left _ (List.mem_map_of_mem hmem)

/-- The keys of the rows whose label satisfies `q`. -/
def keysWhere (label : ρ → β) (q : β → Bool) (t : Table ρ) : List Nat :=
  (t.rows.filter fun r => q (label r)).map key

/-- Labels that are not allowed get no new rows, and lose none. -/
theorem Grows.keysWhere_eq (h : Grows label live P t t') {q : β → Bool}
    (hq : ∀ b, P b → q b = false) : t'.keysWhere label q = t.keysWhere label q := by
  obtain ⟨f, new, hrows, hf, hnew⟩ := h
  have hnone : new.filter (fun r => q (label r)) = [] := by
    rw [List.filter_eq_nil_iff]
    intro r hr
    rw [hq _ (hnew r hr)]
    exact Bool.false_ne_true
  unfold keysWhere
  rw [hrows, List.filter_append, hnone, List.append_nil, List.filter_map, List.map_map]
  have hfilter : t.rows.filter ((fun r => q (label r)) ∘ f) = t.rows.filter fun r => q (label r) :=
    List.filter_congr fun r hr => by rw [Function.comp, (hf r hr).2.1]
  rw [hfilter]
  exact List.map_congr_left fun r hr => (hf r (List.mem_filter.mp hr).1).1

theorem Grows.any_eq (h : Grows label live P t t') {q : β → Bool} (hq : ∀ b, P b → q b = false) :
    (t'.rows.any fun r => q (label r)) = t.rows.any fun r => q (label r) := by
  obtain ⟨f, new, hrows, hf, hnew⟩ := h
  have hnone : (new.any fun r => q (label r)) = false :=
    List.any_eq_false.mpr fun r hr => by rw [hq _ (hnew r hr)]; exact Bool.false_ne_true
  rw [hrows, List.any_append, hnone, Bool.or_false, List.any_map, Bool.eq_iff_iff, List.any_eq_true,
    List.any_eq_true]
  exact exists_congr fun r => and_congr_right fun hr => by rw [Function.comp, (hf r hr).2.1]

theorem Grows.countP_le (h : Grows label live P t t') {q : β → Bool} (hq : ∀ b, P b → q b = false) :
    (t'.rows.countP fun r => live r && q (label r)) ≤
      t.rows.countP fun r => live r && q (label r) := by
  obtain ⟨f, new, hrows, hf, hnew⟩ := h
  have hnone : (new.countP fun r => live r && q (label r)) = 0 :=
    List.countP_eq_zero.mpr fun r hr => by
      rw [hq _ (hnew r hr), Bool.and_false]
      exact Bool.false_ne_true
  rw [hrows, List.countP_append, hnone, Nat.add_zero, List.countP_map]
  refine List.countP_mono_left fun r hr hp => ?_
  obtain ⟨hlive, hlabel⟩ := Bool.and_eq_true_iff.mp hp
  rw [(hf r hr).2.2 hlive, ← (hf r hr).2.1, hlabel]
  rfl

end Table

end Rotas
