import Rotas.Lib.Table
import Mathlib.Logic.Function.Basic

/-!
# Rotas.Lib.Descent

Tables whose rows replace one another: each row has an origin, and a row that is replaced dies as
the one that replaces it comes to life.

* `Table.OneLive` — at most one row of each origin is live.
* `oneLive_start`, `OneLive.kill`, `OneLive.freshen`, `OneLive.insert`, `OneLive.replace` — the rules
  for updates.
* `forall_origin_insert`, `forall_origin_replace` — what holds of all origins still does.
-/

namespace Rotas

universe u v

namespace Table

open Keyed (key)

variable {ρ : Type u} [Keyed ρ] {β : Type v} {origin : Nat → β} {live : ρ → Bool} {t t' : Table ρ}

/-- At most one row of each origin is live. -/
def OneLive (origin : Nat → β) (live : ρ → Bool) (t : Table ρ) : Prop :=
  ∀ r ∈ t, ∀ r' ∈ t, live r = true → live r' = true → origin (key r) = origin (key r') → r = r'

theorem oneLive_start {origin : Nat → β} (h : Function.Injective origin) (t : Table ρ) :
    OneLive origin live t := fun _ hr _ hr' _ _ horigin => eq_of_key hr hr' (h horigin)

theorem OneLive.kill (h : OneLive origin live t) {p : ρ → Bool} {f : ρ → ρ}
    (hf : ∀ r, key (f r) = key r) (hdead : ∀ r, live (f r) = false) :
    OneLive origin live (t.modifyAll p f hf) := by
  have hkept : ∀ r ∈ t.modifyAll p f hf, live r = true → r ∈ t := by
    intro r hr hlive
    obtain ⟨r₀, hr₀, rfl⟩ := mem_modifyAll.mp hr
    split at hlive
    · rw [hdead] at hlive; cases hlive
    · next hp => rw [if_neg hp]; exact hr₀
  exact fun r hr r' hr' hl hl' => h r (hkept r hr hl) r' (hkept r' hr' hl') hl hl'

section Insert

variable {mk : Nat → ρ} {hk : ∀ k, key (mk k) = k} {b : β}

theorem update_origin_of_mem {r : ρ} (hr : r ∈ t) :
    Function.update origin t.freshKey b (key r) = origin (key r) :=
  Function.update_of_ne (key_lt_freshKey hr).ne _ _

theorem OneLive.freshen (h : OneLive origin live t) :
    OneLive (Function.update origin t.freshKey b) live t := by
  intro r hr r' hr' hl hl' horigin
  rw [update_origin_of_mem hr, update_origin_of_mem hr'] at horigin
  exact h r hr r' hr' hl hl' horigin

theorem OneLive.insert (h : OneLive origin live t)
    (hnone : ∀ r ∈ t, live r = true → origin (key r) ≠ b) :
    OneLive (Function.update origin t.freshKey b) live (t.insert mk hk) := by
  intro r hr r' hr' hl hl' horigin
  rw [mem_insert] at hr hr'
  rcases hr with hr | rfl <;> rcases hr' with hr' | rfl
  · rw [update_origin_of_mem hr, update_origin_of_mem hr'] at horigin
    exact h r hr r' hr' hl hl' horigin
  · rw [update_origin_of_mem hr, hk, Function.update_self] at horigin
    exact absurd horigin (hnone r hr hl)
  · rw [update_origin_of_mem hr', hk, Function.update_self] at horigin
    exact absurd horigin.symm (hnone r' hr' hl')
  · rfl

end Insert

/-- Once the live row of an origin is dead, the origin has no live row. -/
theorem OneLive.none_live (h : OneLive origin live t) {r₀ : ρ} (hr₀ : r₀ ∈ t)
    (hlive : live r₀ = true) {f : ρ → ρ} {hf : ∀ r, key (f r) = key r}
    (hdead : ∀ r, live (f r) = false) :
    ∀ r ∈ t.modify (key r₀) f hf, live r = true → origin (key r) ≠ origin (key r₀) := by
  intro r hr hl horigin
  rcases mem_modify_cases hr with ⟨r₁, _, _, rfl⟩ | ⟨hr, hne⟩
  · rw [hdead] at hl; cases hl
  · exact hne (congrArg key (h r hr r₀ hr₀ hl hlive horigin))

theorem freshKey_modifyAll {p : ρ → Bool} {f : ρ → ρ} {hf : ∀ r, key (f r) = key r} :
    (t.modifyAll p f hf).freshKey = t.freshKey := by
  have hkeys : (t.modifyAll p f hf).rows.map key = t.rows.map key := by
    rw [rows_modifyAll, List.map_map]
    refine List.map_congr_left fun r _ => ?_
    rw [Function.comp]
    split
    · exact hf r
    · rfl
  rw [freshKey, freshKey, hkeys]

theorem OneLive.replace (h : OneLive origin live t) {r₀ : ρ} (hr₀ : r₀ ∈ t)
    (hlive : live r₀ = true) {f : ρ → ρ} {hf : ∀ r, key (f r) = key r}
    (hdead : ∀ r, live (f r) = false) {mk : Nat → ρ} {hk : ∀ k, key (mk k) = k} :
    OneLive (Function.update origin t.freshKey (origin (key r₀))) live
      ((t.modify (key r₀) f hf).insert mk hk) := by
  have hfresh : t.freshKey = (t.modify (key r₀) f hf).freshKey := freshKey_modifyAll.symm
  rw [hfresh]
  exact (h.kill hf hdead).insert (h.none_live hr₀ hlive hdead)

/-! ## What holds of all origins -/

section Origins

variable {P : β → Prop}

theorem forall_origin_modifyAll (h : ∀ r ∈ t, P (origin (key r))) {p : ρ → Bool} {f : ρ → ρ}
    (hf : ∀ r, key (f r) = key r) : ∀ r ∈ t.modifyAll p f hf, P (origin (key r)) := by
  intro r hr
  obtain ⟨r₀, hr₀, rfl⟩ := mem_modifyAll.mp hr
  split
  · rw [hf]; exact h r₀ hr₀
  · exact h r₀ hr₀

theorem forall_origin_freshen (h : ∀ r ∈ t, P (origin (key r))) {b : β} :
    ∀ r ∈ t, P (Function.update origin t.freshKey b (key r)) := by
  intro r hr
  rw [update_origin_of_mem hr]
  exact h r hr

theorem forall_origin_insert (h : ∀ r ∈ t, P (origin (key r))) {b : β} (hb : P b)
    {mk : Nat → ρ} (hk : ∀ k, key (mk k) = k) :
    ∀ r ∈ t.insert mk hk, P (Function.update origin t.freshKey b (key r)) := by
  intro r hr
  rcases (mem_insert ..).mp hr with hr | rfl
  · rw [update_origin_of_mem hr]; exact h r hr
  · rw [hk, Function.update_self]; exact hb

theorem forall_origin_replace (h : ∀ r ∈ t, P (origin (key r))) {b : β} (hb : P b) {k : Nat}
    {f : ρ → ρ} (hf : ∀ r, key (f r) = key r) {mk : Nat → ρ} (hk : ∀ k, key (mk k) = k) :
    ∀ r ∈ (t.modify k f hf).insert mk hk, P (Function.update origin t.freshKey b (key r)) := by
  have hfresh : t.freshKey = (t.modify k f hf).freshKey := freshKey_modifyAll.symm
  rw [hfresh]
  exact forall_origin_insert (forall_origin_modifyAll h hf) hb hk

end Origins

end Table

end Rotas
