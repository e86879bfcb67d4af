import Rotas.Lib.Table

/-!
# Rotas.Lib.Evolution

What a step does to a table, row by row.

* `Table.Evolves R N` — the rows go along `R` under their keys, and the new ones satisfy `N`.
* `Evolves.refl`, `Evolves.trans`, `evolves_append`, `evolves_modifyAll` — the rules for updates.
* `Evolves.perm` — the rows after the step: those that were there, rewritten, and the new ones.
* `Evolves.sumWhere_le`, `Evolves.le_sumWhere` — sums over rows whose weights go one way.
* `sumWhere_modify` — the sum where one row is rewritten.
-/

namespace Rotas

universe u

namespace Table

open Keyed (key)

variable {ρ : Type u} [Keyed ρ] {R Q : ρ → ρ → Prop} {N M : ρ → Prop} {t t' t'' : Table ρ}

structure Evolves (R : ρ → ρ → Prop) (N : ρ → Prop) (t t' : Table ρ) : Prop where
  kept : ∀ {k r}, t.get k = some r → ∃ r', t'.get k = some r' ∧ R r r'
  added : ∀ {k r'}, t.get k = none → t'.get k = some r' → N r'

theorem Evolves.refl (hR : ∀ r, R r r) (t : Table ρ) : Evolves R N t t where
  kept hr := ⟨_, hr, hR _⟩
  added hnone hr := by rw [hnone] at hr; cases hr

theorem Evolves.trans (hR : ∀ r r' r'', R r r' → R r' r'' → R r r'')
    (hN : ∀ r r', N r → R r r' → N r') (h : Evolves R N t t') (h' : Evolves R N t' t'') :
    Evolves R N t t'' where
  kept hr := by
    obtain ⟨r', hr', hstep⟩ := h.kept hr
    obtain ⟨r'', hr'', hstep'⟩ := h'.kept hr'
    exact ⟨r'', hr'', hR _ _ _ hstep hstep'⟩
  added {k r''} hnone hr'' := by
    cases hget : t'.get k with
    | none => exact h'.added hget hr''
    | some r' =>
      obtain ⟨q, hq, hstep⟩ := h'.kept hget
      rw [hr''] at hq
      cases hq
      exact hN _ _ (h.added hnone hget) hstep

/-- A row after the step was there before under its key, or is new. -/
theorem Evolves.mem {r' : ρ} (h : Evolves R N t t') (hr' : r' ∈ t') :
    (∃ r ∈ t, key r' = key r ∧ R r r') ∨ t.get (key r') = none ∧ N r' := by
  have hget' := get_of_mem hr'
  cases hget : t.get (key r') with
  | none => exact .inr ⟨rfl, h.added hget hget'⟩
  | some r =>
    obtain ⟨q, hq, hstep⟩ := h.kept hget
    rw [hget'] at hq
    cases hq
    exact .inl ⟨r, mem_of_get hget, (key_of_get hget).symm, hstep⟩

/-! ## Updates -/

theorem evolves_append {r : ρ} (hR : ∀ r, R r r) (hrows : t'.rows = t.rows ++ [r]) (h : N r) :
    Evolves R N t t' where
  kept {k r₀} hr := by
    refine ⟨r₀, get_eq_some_iff.mpr ⟨?_, key_of_get hr⟩, hR r₀⟩
    rw [mem_def, hrows]
    exact List.mem_append_left _ (mem_of_get hr)
  added {k r'} hnone hr' := by
    have hmem := mem_of_get hr'
    rw [mem_def, hrows] at hmem
    rcases List.mem_append.mp hmem with hold | hnew
    · exact absurd (key_of_get hr') (get_eq_none_iff.mp hnone r' hold)
    · rw [List.mem_singleton.mp hnew]
      exact h

theorem evolves_insert {mk : Nat → ρ} (hk : ∀ k, key (mk k) = k) (hR : ∀ r, R r r)
    (h : N (mk t.freshKey)) : Evolves R N t (t.insert mk hk) :=
  evolves_append hR rfl h

theorem evolves_modifyAll {p : ρ → Bool} {f : ρ → ρ} (hf : ∀ r, key (f r) = key r)
    (hR : ∀ r, R r r) (h : ∀ r ∈ t, p r = true → R r (f r)) :
    Evolves R N t (t.modifyAll p f hf) where
  kept {k r} hr := by
    rw [get_modifyAll, hr, Option.map_some]
    refine ⟨_, rfl, ?_⟩
    split
    · next hp => exact h r (mem_of_get hr) hp
    · exact hR r
  added hnone hr' := by
    rw [get_modifyAll, hnone] at hr'
    cases hr'

theorem evolves_modify {k : Nat} {f : ρ → ρ} (hf : ∀ r, key (f r) = key r) (hR : ∀ r, R r r)
    (h : ∀ r, t.get k = some r → R r (f r)) : Evolves R N t (t.modify k f hf) := by
  refine evolves_modifyAll hf hR fun r hr hp => h r ?_
  rw [← beq_iff_eq.mp hp]
  exact get_of_mem hr

/-! ## Sums -/

theorem Evolves.perm (h : Evolves R N t t') : ∃ (f : ρ → ρ) (new : List ρ),
    t'.rows.Perm (t.rows.map f ++ new) ∧ (∀ r ∈ t, R r (f r)) ∧ ∀ r ∈ new, N r := by
  have hf : ∀ r ∈ t, ∃ r', t'.get (key r) = some r' ∧ R r r' := fun r hr => h.kept (get_of_mem hr)
  let f (r : ρ) : ρ := (t'.get (key r)).getD r
  have hfget : ∀ r ∈ t, t'.get (key r) = some (f r) ∧ R r (f r) := by
    intro r hr
    obtain ⟨r', hr', hstep⟩ := hf r hr
    have hsame : f r = r' := by simp only [f, hr', Option.getD_some]
    rw [hsame]
    exact ⟨hr', hstep⟩
  have hkeys : (t.rows.map f).map key = t.rows.map key := by
    rw [List.map_map]
    exact List.map_congr_left fun r hr => key_of_get (hfget r hr).1
  have hnodup : (t.rows.map f).Nodup := .of_map key (hkeys ▸ t.nodup)
  have hsub : t.rows.map f ⊆ t'.rows := by
    intro r' hr'
    obtain ⟨r, hr, rfl⟩ := List.mem_map.mp hr'
    exact mem_of_get (hfget r hr).1
  obtain ⟨old, hold, hsublist⟩ := List.subperm_of_subset hnodup hsub
  obtain ⟨new, hrest⟩ := hsublist.exists_perm_append
  have hperm : t'.rows.Perm (t.rows.map f ++ new) := hrest.trans (hold.append_right new)
  refine ⟨f, new, hperm, fun r hr => (hfget r hr).2, fun r' hr' => ?_⟩
  have hmem : r' ∈ t' := hperm.mem_iff.mpr (List.mem_append_right _ hr')
  have hapart := (hperm.map key).nodup_iff.mp t'.nodup
  rw [List.map_append, hkeys, List.nodup_append] at hapart
  refine h.added (get_eq_none_iff.mpr fun r hr => ?_) (get_of_mem hmem)
  exact hapart.2.2 _ (List.mem_map_of_mem hr) _ (List.mem_map_of_mem hr')

/-- What a row adds to a sum. -/
def weight (p : ρ → Bool) (w : ρ → Int) (r : ρ) : Int := if p r then w r else 0

theorem sumWhere_eq_sum (p : ρ → Bool) (w : ρ → Int) (t : Table ρ) :
    t.sumWhere p w = (t.rows.map (weight p w)).sum := by
  have hlist : ∀ l : List ρ, ((l.filter p).map w).sum = (l.map (weight p w)).sum := by
    intro l
    induction l with
    | nil => rfl
    | cons r l ih =>
      rw [List.map_cons, List.sum_cons, ← ih, weight, List.filter_cons]
      cases p r
      · exact (zero_add _).symm
      · rfl
  exact hlist t.rows

variable {p : ρ → Bool} {w : ρ → Int}

theorem Evolves.sumWhere_le (h : Evolves R N t t')
    (hR : ∀ r ∈ t, ∀ r', R r r' → weight p w r' ≤ weight p w r)
    (hN : ∀ r, N r → weight p w r ≤ 0) : t'.sumWhere p w ≤ t.sumWhere p w := by
  obtain ⟨f, new, hperm, hf, hnew⟩ := h.perm
  have hold : (t.rows.map (weight p w ∘ f)).sum ≤ (t.rows.map (weight p w)).sum :=
    List.sum_le_sum fun r hr => hR r hr _ (hf r hr)
  have hadded : (new.map (weight p w)).sum ≤ (new.map fun _ => (0 : Int)).sum :=
    List.sum_le_sum fun r hr => hN r (hnew r hr)
  rw [List.map_const', List.sum_replicate, nsmul_zero] at hadded
  rw [sumWhere_eq_sum, sumWhere_eq_sum, (hperm.map _).sum_eq, List.map_append, List.sum_append,
    List.map_map]
  omega

theorem Evolves.le_sumWhere (h : Evolves R N t t')
    (hR : ∀ r ∈ t, ∀ r', R r r' → weight p w r ≤ weight p w r')
    (hN : ∀ r, N r → 0 ≤ weight p w r) : t.sumWhere p w ≤ t'.sumWhere p w := by
  obtain ⟨f, new, hperm, hf, hnew⟩ := h.perm
  have hold : (t.rows.map (weight p w)).sum ≤ (t.rows.map (weight p w ∘ f)).sum :=
    List.sum_le_sum fun r hr => hR r hr _ (hf r hr)
  have hadded : 0 ≤ (new.map (weight p w)).sum := by
    refine List.sum_nonneg fun x hx => ?_
    obtain ⟨r, hr, rfl⟩ := List.mem_map.mp hx
    exact hN r (hnew r hr)
  rw [sumWhere_eq_sum, sumWhere_eq_sum, (hperm.map _).sum_eq, List.map_append, List.sum_append,
    List.map_map]
  omega

theorem sumWhere_modify {k : Nat} (f : ρ → ρ) (hf : ∀ r, key (f r) = key r) {r : ρ}
    (hr : t.get k = some r) :
    (t.modify k f hf).sumWhere p w = t.sumWhere p w - weight p w r + weight p w (f r) := by
  obtain ⟨pre, post, hrows, hmap, -⟩ := rows_split (mem_of_get hr) f
  rw [key_of_get hr] at hmap
  have hmodify : (t.modify k f hf).rows = pre ++ f r :: post := hmap
  rw [sumWhere_eq_sum, sumWhere_eq_sum, hmodify, hrows]
  simp only [List.map_append, List.map_cons, List.sum_append, List.sum_cons]
  omega

end Table
end Rotas
