import Mathlib.Algebra.Order.BigOperators.Group.List
import Mathlib.Algebra.Order.Ring.Int
import Mathlib.Data.List.MinMax
import Mathlib.Data.List.Nodup

/-!
# Rotas.Lib.Table

Database tables as lists of rows with a primary key. The key constraint is a field of `Table`, so
a table with two rows of one key cannot be built.

* `get t k`        — the row with key `k`.
* `insert t mk`    — append the row `mk k` for a key `k` no row of `t` has.
* `add? t r`       — append the row `r`, if no row of `t` has its key.
* `modify t k f`   — rewrite the row with key `k`; `f` keeps the key.
* `modifyAll t p f` — rewrite every row that satisfies `p` (an `UPDATE … WHERE`).
* `erase t k`      — delete the row with key `k`.
* `latestBy f rows` — the first row by descending `f`.
* `sumWhere t p f` — the sum of `f` over the rows that satisfy `p`; `sum_groups` takes it by group.
* `eq_of_label`    — a unique index: rows of one label are one row.
-/

namespace Rotas

universe u v

/-- The primary key of a row. -/
class Keyed (ρ : Type u) where
  key : ρ → Nat

structure Table (ρ : Type u) [Keyed ρ] where
  rows : List ρ
  nodup : (rows.map Keyed.key).Nodup

namespace Table

variable {ρ : Type u} [Keyed ρ]

open Keyed (key)

instance : EmptyCollection (Table ρ) := ⟨⟨[], List.nodup_nil⟩⟩

/-- The table of one row. -/
def single (r : ρ) : Table ρ := ⟨[r], List.nodup_singleton _⟩

instance : Membership ρ (Table ρ) := ⟨fun t r => r ∈ t.rows⟩

instance [DecidableEq ρ] : DecidableEq (Table ρ) := fun t t' =>
  decidable_of_iff (t.rows = t'.rows) ⟨fun h => by cases t; cases t'; cases h; rfl, congrArg _⟩

theorem mem_def {t : Table ρ} {r : ρ} : r ∈ t ↔ r ∈ t.rows := Iff.rfl

instance (t : Table ρ) (p : ρ → Prop) [DecidablePred p] : Decidable (∀ r ∈ t, p r) :=
  inferInstanceAs (Decidable (∀ r ∈ t.rows, p r))

instance (t : Table ρ) (p : ρ → Prop) [DecidablePred p] : Decidable (∃ r ∈ t, p r) :=
  inferInstanceAs (Decidable (∃ r ∈ t.rows, p r))

@[simp] theorem not_mem_empty (r : ρ) : ¬ r ∈ (∅ : Table ρ) := List.not_mem_nil

@[ext] theorem ext {t t' : Table ρ} (h : t.rows = t'.rows) : t = t' := by
  cases t; cases t'; cases h; rfl

/-- The row with key `k`. -/
def get (t : Table ρ) (k : Nat) : Option ρ := t.rows.find? fun r => key r == k

theorem key_of_get {t : Table ρ} {k : Nat} {r : ρ} (h : t.get k = some r) : key r = k := by
  simpa using List.find?_some h

theorem mem_of_get {t : Table ρ} {k : Nat} {r : ρ} (h : t.get k = some r) : r ∈ t :=
  List.mem_of_find?_eq_some h

theorem eq_of_key {t : Table ρ} {r r' : ρ} (h : r ∈ t) (h' : r' ∈ t) (hk : key r = key r') :
    r = r' := List.inj_on_of_nodup_map t.nodup h h' hk

theorem get_of_mem {t : Table ρ} {r : ρ} (h : r ∈ t) : t.get (key r) = some r := by
  cases hg : t.get (key r) with
  | some r' => rw [eq_of_key (mem_of_get hg) h (key_of_get hg)]
  | none => exact absurd (List.find?_eq_none.mp hg r h) (by simp)

theorem get_eq_some_iff {t : Table ρ} {k : Nat} {r : ρ} :
    t.get k = some r ↔ r ∈ t ∧ key r = k := by
  constructor
  · intro h; exact ⟨mem_of_get h, key_of_get h⟩
  · rintro ⟨h, rfl⟩; exact get_of_mem h

theorem get_eq_none_iff {t : Table ρ} {k : Nat} : t.get k = none ↔ ∀ r ∈ t, key r ≠ k := by
  simp [get, mem_def, List.find?_eq_none]

theorem filter_key {t : Table ρ} {r : ρ} (h : r ∈ t) :
    t.rows.filter (fun r' => key r' = key r) = [r] := by
  have hlist : ∀ l : List ρ, (l.map key).Nodup → r ∈ l →
      l.filter (fun r' => key r' = key r) = [r] := by
    intro l
    induction l with
    | nil => intro _ h; cases h
    | cons a l ih =>
      intro hnodup hmem
      rw [List.map_cons, List.nodup_cons] at hnodup
      rcases List.mem_cons.mp hmem with rfl | hmem
      · rw [List.filter_cons_of_pos (by simp), List.filter_eq_nil_iff.mpr]
        intro r' hr'
        have hne : key r' ≠ key r := fun he => hnodup.1 (he ▸ List.mem_map_of_mem hr')
        simpa using hne
      · have hne : key a ≠ key r := fun he => hnodup.1 (he ▸ List.mem_map_of_mem hmem)
        rw [List.filter_cons_of_neg (by simpa using hne), ih hnodup.2 hmem]
  exact hlist t.rows t.nodup h

theorem countP_key_le (t : Table ρ) (k : Nat) : t.rows.countP (fun r => key r = k) ≤ 1 := by
  rw [List.countP_eq_length_filter]
  cases hg : t.get k with
  | some r =>
    obtain ⟨hr, rfl⟩ := get_eq_some_iff.mp hg
    rw [filter_key hr]
    exact Nat.le_refl 1
  | none =>
    rw [List.filter_eq_nil_iff.mpr fun r hr => by simpa using get_eq_none_iff.mp hg r hr]
    exact Nat.zero_le 1

/-! ## Insertion -/

/-- A key no row of the table has. -/
def freshKey (t : Table ρ) : Nat := (t.rows.map key).foldr max 0 + 1

theorem key_lt_freshKey {t : Table ρ} {r : ρ} (h : r ∈ t) : key r < t.freshKey :=
  Nat.lt_succ_of_le (List.le_max_of_le' 0 (List.mem_map_of_mem h) (Nat.le_refl _))

theorem get_freshKey (t : Table ρ) : t.get t.freshKey = none :=
  get_eq_none_iff.mpr fun _ hr => Nat.ne_of_lt (key_lt_freshKey hr)

/-- Append a row under a key that is new in the table. -/
def insert (t : Table ρ) (mk : Nat → ρ)
    (hk : ∀ k, key (mk k) = k := by intro; exact .trans rfl rfl) : Table ρ where
  rows := t.rows ++ [mk t.freshKey]
  nodup := by
    rw [List.map_append, List.nodup_append]
    refine ⟨t.nodup, by simp, ?_⟩
    intro a ha b hb hab
    obtain ⟨r, hr, rfl⟩ := List.mem_map.mp ha
    simp only [List.map_cons, List.map_nil, List.mem_singleton] at hb
    have := key_lt_freshKey (t := t) hr
    rw [hab, hb, hk] at this
    exact Nat.lt_irrefl _ this

section Insert

variable (t : Table ρ) (mk : Nat → ρ) (hk : ∀ k, key (mk k) = k)

@[simp] theorem rows_insert : (t.insert mk hk).rows = t.rows ++ [mk t.freshKey] := rfl

@[simp] theorem mem_insert {r : ρ} : r ∈ t.insert mk hk ↔ r ∈ t ∨ r = mk t.freshKey := by
  simp [mem_def]

theorem get_insert (k : Nat) :
    (t.insert mk hk).get k = if k = t.freshKey then some (mk t.freshKey) else t.get k := by
  by_cases h : k = t.freshKey
  · rw [if_pos h, get_eq_some_iff, mem_insert]
    exact ⟨.inr rfl, by rw [hk, h]⟩
  · rw [if_neg h]
    cases hg : t.get k with
    | some r =>
      rw [get_eq_some_iff] at hg ⊢
      exact ⟨(mem_insert t mk hk).mpr (.inl hg.1), hg.2⟩
    | none =>
      rw [get_eq_none_iff] at hg ⊢
      intro r hr
      rcases (mem_insert t mk hk).mp hr with hr | rfl
      · exact hg r hr
      · rw [hk]; exact Ne.symm h

theorem get_insert_of_get {k : Nat} {r : ρ} (h : t.get k = some r) :
    (t.insert mk hk).get k = some r := by
  have hne : k ≠ t.freshKey := by
    rintro rfl
    cases (get_freshKey t).symm.trans h
  rw [get_insert, if_neg hne, h]

theorem forall_mem_insert {P : ρ → Prop} :
    (∀ r ∈ t.insert mk hk, P r) ↔ (∀ r ∈ t, P r) ∧ P (mk t.freshKey) := by
  simp only [mem_insert, or_imp, forall_and, forall_eq]

end Insert

/-- Append a row under its own key, if no row has it. -/
def add? (t : Table ρ) (r : ρ) : Option (Table ρ) :=
  if h : t.get (key r) = none then
    some ⟨t.rows ++ [r], by
      rw [List.map_append, List.nodup_append]
      refine ⟨t.nodup, by simp, ?_⟩
      intro a ha b hb hab
      obtain ⟨r', hr', rfl⟩ := List.mem_map.mp ha
      simp only [List.map_cons, List.map_nil, List.mem_singleton] at hb
      exact get_eq_none_iff.mp h r' hr' (hab.trans hb)⟩
  else none

section Add

variable {t t' : Table ρ} {r : ρ}

theorem rows_add (h : t.add? r = some t') : t'.rows = t.rows ++ [r] := by
  simp only [add?] at h
  split at h
  · cases h; rfl
  · cases h

theorem get_key_of_add (h : t.add? r = some t') : t.get (key r) = none := by
  simp only [add?] at h
  split at h
  · next hfree => exact hfree
  · cases h

theorem exists_add (h : t.get (key r) = none) : ∃ t', t.add? r = some t' := ⟨_, dif_pos h⟩

theorem mem_add (h : t.add? r = some t') {r' : ρ} : r' ∈ t' ↔ r' ∈ t ∨ r' = r := by
  rw [mem_def, rows_add h, List.mem_append, List.mem_singleton]
  rfl

end Add

/-! ## Update -/

/-- Rewrite every row that satisfies `p`, keeping its key. -/
def modifyAll (t : Table ρ) (p : ρ → Bool) (f : ρ → ρ)
    (hf : ∀ r, key (f r) = key r := by intro; exact .trans rfl rfl) : Table ρ where
  rows := t.rows.map fun r => if p r then f r else r
  nodup := by
    rw [List.map_map]
    have e : key ∘ (fun r => if p r then f r else r) = key := by
      funext r
      simp only [Function.comp]
      split
      · exact hf r
      · rfl
    rw [e]
    exact t.nodup

/-- Rewrite the row with key `k`, keeping its key. -/
def modify (t : Table ρ) (k : Nat) (f : ρ → ρ)
    (hf : ∀ r, key (f r) = key r := by intro; exact .trans rfl rfl) : Table ρ :=
  t.modifyAll (fun r => key r == k) f hf

section Modify

variable {t : Table ρ} {f : ρ → ρ} {hf : ∀ r, key (f r) = key r}

theorem rows_modifyAll {p : ρ → Bool} :
    (t.modifyAll p f hf).rows = t.rows.map fun r => if p r then f r else r := rfl

theorem rows_modify {k : Nat} :
    (t.modify k f hf).rows = t.rows.map fun r => if key r = k then f r else r := by
  simp [modify, rows_modifyAll]

theorem mem_modifyAll {p : ρ → Bool} {r : ρ} :
    r ∈ t.modifyAll p f hf ↔ ∃ r₀ ∈ t, (if p r₀ then f r₀ else r₀) = r := by
  simp only [mem_def, rows_modifyAll, List.mem_map]

theorem mem_modify {k : Nat} {r : ρ} :
    r ∈ t.modify k f hf ↔ ∃ r₀ ∈ t, (if key r₀ = k then f r₀ else r₀) = r := by
  simp only [mem_def, rows_modify, List.mem_map]

theorem modifyAll_eq_self {p : ρ → Bool} (h : ∀ r ∈ t, p r = true → f r = r) :
    t.modifyAll p f hf = t := by
  refine ext ((List.map_congr_left fun r hr => ?_).trans (List.map_id t.rows))
  split
  · next hp => exact h r hr hp
  · rfl

theorem get_modifyAll (p : ρ → Bool) (k : Nat) :
    (t.modifyAll p f hf).get k = (t.get k).map fun r => if p r then f r else r := by
  cases hg : t.get k with
  | some r =>
    rw [get_eq_some_iff] at hg
    rw [Option.map_some, get_eq_some_iff, mem_modifyAll]
    refine ⟨⟨r, hg.1, rfl⟩, ?_⟩
    split
    · rw [hf, hg.2]
    · exact hg.2
  | none =>
    rw [Option.map_none, get_eq_none_iff]
    rw [get_eq_none_iff] at hg
    intro r hr
    obtain ⟨r₀, hr₀, rfl⟩ := mem_modifyAll.mp hr
    split
    · rw [hf]; exact hg r₀ hr₀
    · exact hg r₀ hr₀

theorem get_modify (k k' : Nat) :
    (t.modify k f hf).get k' = if k' = k then (t.get k).map f else t.get k' := by
  rw [modify, get_modifyAll]
  cases hg : t.get k' with
  | some r =>
    have hr := key_of_get hg
    by_cases h : k' = k
    · subst h; simp [hg, hr]
    · simp [h, hr]
  | none =>
    by_cases h : k' = k
    · subst h; simp [hg]
    · simp [h]

theorem get_modify_self {k : Nat} {r : ρ} (h : t.get k = some r) :
    (t.modify k f hf).get k = some (f r) := by
  rw [get_modify, if_pos rfl, h, Option.map_some]

/-- One row of a table between the others, which an update leaves. -/
theorem split_modify (hf : ∀ r, key (f r) = key r) {k : Nat} {r : ρ} (h : t.get k = some r) :
    ∃ before after, t.rows = before ++ r :: after ∧
      (t.modify k f hf).rows = before ++ f r :: after ∧
      ∀ r' ∈ before ++ after, key r' ≠ k := by
  have hkey := key_of_get h
  obtain ⟨before, after, hrows⟩ := List.append_of_mem (mem_of_get h)
  have hnodup := t.nodup
  rw [hrows, List.map_append, List.map_cons, hkey, List.nodup_append] at hnodup
  obtain ⟨-, hafter, hdisjoint⟩ := hnodup
  have hothers : ∀ r' ∈ before ++ after, key r' ≠ k := by
    intro r' hr' heq
    rcases List.mem_append.mp hr' with hb | ha
    · exact hdisjoint _ (List.mem_map_of_mem hb) _ List.mem_cons_self heq
    · exact (List.nodup_cons.mp hafter).1 (heq ▸ List.mem_map_of_mem ha)
  have hkept : ∀ rows ⊆ before ++ after,
      (rows.map fun r => if key r = k then f r else r) = rows := by
    intro rows hsub
    refine (List.map_congr_left fun r' hr' => ?_).trans (List.map_id rows)
    rw [if_neg (hothers r' (hsub hr'))]
    rfl
  refine ⟨before, after, hrows, ?_, hothers⟩
  rw [rows_modify, hrows, List.map_append, List.map_cons, if_pos hkey,
    hkept before (List.subset_append_left _ _), hkept after (List.subset_append_right _ _)]

theorem get_modify_ne {k k' : Nat} (h : k' ≠ k) : (t.modify k f hf).get k' = t.get k' := by
  rw [get_modify, if_neg h]

theorem get_modify_of_get (f : ρ → ρ) (hf : ∀ r, key (f r) = key r) {k k' : Nat} {r : ρ}
    (h : t.get k' = some r) :
    (t.modify k f hf).get k' = some (if k' = k then f r else r) := by
  rw [get_modify]
  split
  · next hk => rw [← hk, h, Option.map_some]
  · exact h

theorem forall_mem_modify {P : ρ → Prop} {k : Nat} (hP : ∀ r ∈ t, key r = k → (P (f r) ↔ P r)) :
    (∀ r ∈ t.modify k f hf, P r) ↔ ∀ r ∈ t, P r := by
  simp only [mem_modify, forall_exists_index, and_imp, forall_apply_eq_imp_iff₂]
  refine forall₂_congr fun r hr => ?_
  split
  · next hk => exact hP r hr hk
  · rfl

/-- A rewritten row, as one of two cases: the row with key `k`, or one left alone. -/
theorem mem_modify_cases {k : Nat} {r : ρ} (h : r ∈ t.modify k f hf) :
    (∃ r₀ ∈ t, key r₀ = k ∧ r = f r₀) ∨ (r ∈ t ∧ key r ≠ k) := by
  obtain ⟨r₀, hr₀, rfl⟩ := mem_modify.mp h
  by_cases hk : key r₀ = k
  · rw [if_pos hk]; exact .inl ⟨r₀, hr₀, hk, rfl⟩
  · rw [if_neg hk]; exact .inr ⟨hr₀, hk⟩

/-- Rewriting a row changes its place among the rows, and no other. -/
theorem rows_split {r : ρ} (h : r ∈ t) (f : ρ → ρ) :
    ∃ pre post, t.rows = pre ++ r :: post ∧
      (t.rows.map fun r' => if key r' == key r then f r' else r') = pre ++ f r :: post ∧
      ∀ r' ∈ pre ++ post, key r' ≠ key r := by
  obtain ⟨pre, post, hrows⟩ := List.append_of_mem h
  have hnodup := t.nodup
  rw [hrows, List.map_append, List.map_cons, List.nodup_middle, List.nodup_cons,
    ← List.map_append] at hnodup
  have hne : ∀ r' ∈ pre ++ post, key r' ≠ key r := fun r' hr' hk =>
    hnodup.1 (hk ▸ List.mem_map_of_mem hr')
  refine ⟨pre, post, hrows, ?_, hne⟩
  have hkeep : ∀ l : List ρ, (∀ r' ∈ l, key r' ≠ key r) →
      l.map (fun r' => if key r' == key r then f r' else r') = l := fun l hl =>
    (List.map_congr_left fun r' hr' => if_neg (by simpa using hl r' hr')).trans (List.map_id l)
  rw [hrows, List.map_append, List.map_cons, if_pos (by simp),
    hkeep pre fun r' hr' => hne r' (List.mem_append_left _ hr'),
    hkeep post fun r' hr' => hne r' (List.mem_append_right _ hr')]

theorem rows_insert_modify (mk : Nat → ρ) (hk : ∀ k, key (mk k) = k) {g : ρ → ρ}
    (hg : ∀ r, key (g r) = key r) :
    ((t.insert mk hk).modify t.freshKey g hg).rows = t.rows ++ [g (mk t.freshKey)] := by
  have hold : (t.rows.map fun r => if key r = t.freshKey then g r else r) = t.rows := by
    refine (List.map_congr_left fun r hr => if_neg ?_).trans (List.map_id _)
    exact (key_lt_freshKey (t := t) hr).ne
  rw [rows_modify, rows_insert, List.map_append, hold, List.map_singleton, hk, if_pos rfl]

theorem exists_mem_modifyAll {g : ρ → ρ} (hg : ∀ r, key (g r) = key r) {p : ρ → Bool} {r : ρ}
    (h : r ∈ t) : ∃ r' ∈ t.modifyAll p g hg, key r' = key r := by
  refine ⟨_, mem_modifyAll.mpr ⟨r, h, rfl⟩, ?_⟩
  split
  · exact hg r
  · rfl

theorem exists_mem_modify {g : ρ → ρ} (hg : ∀ r, key (g r) = key r) {k : Nat} {r : ρ} (h : r ∈ t) :
    ∃ r' ∈ t.modify k g hg, key r' = key r := by
  refine ⟨_, mem_modify.mpr ⟨r, h, rfl⟩, ?_⟩
  split
  · exact hg r
  · rfl

end Modify

/-! ## Deletion -/

/-- Delete the row with key `k`. -/
def erase (t : Table ρ) (k : Nat) : Table ρ where
  rows := t.rows.filter fun r => key r != k
  nodup := t.nodup.sublist (List.filter_sublist.map _)

/-- Inserting a row and deleting it again gives the table back. -/
theorem erase_insert (t : Table ρ) (mk : Nat → ρ) (hk : ∀ k, key (mk k) = k) :
    (t.insert mk hk).erase t.freshKey = t := by
  apply ext
  have hall : ∀ r ∈ t.rows, (key r != t.freshKey) = true := by
    intro r hr
    have := key_lt_freshKey (t := t) hr
    simp only [bne_iff_ne, ne_eq]
    omega
  simp only [erase, rows_insert, List.filter_append, List.filter_eq_self.mpr hall]
  simp [hk]

/-! ## Counts -/

section Count

variable {t : Table ρ} {p : ρ → Bool}

theorem countP_modify_le {f : ρ → ρ} {hf : ∀ r, key (f r) = key r} {k : Nat}
    (h : ∀ r, t.get k = some r → p (f r) = true → p r = true) :
    (t.modify k f hf).rows.countP p ≤ t.rows.countP p := by
  rw [rows_modify, List.countP_map]
  apply List.countP_mono_left
  intro r hr hcounted
  rw [Function.comp_apply] at hcounted
  split at hcounted
  · next hkey => exact h r (hkey ▸ get_of_mem hr) hcounted
  · exact hcounted

theorem countP_modify_le_succ {f : ρ → ρ} {hf : ∀ r, key (f r) = key r} {k : Nat} :
    (t.modify k f hf).rows.countP p ≤ t.rows.countP p + 1 := by
  have hone := countP_key_le t k
  have hle : (t.modify k f hf).rows.countP p ≤
      t.rows.countP p + t.rows.countP (fun r => key r = k) := by
    rw [rows_modify]
    generalize t.rows = rows
    induction rows with
    | nil => exact Nat.le_refl 0
    | cons r rows ih =>
      simp only [List.map_cons, List.countP_cons]
      by_cases hkey : key r = k
      · simp only [hkey, if_true, decide_true]
        split <;> split <;> omega
      · simp only [hkey, if_false, decide_false, Bool.false_eq_true]
        omega
  omega

theorem countP_modify {f : ρ → ρ} {hf : ∀ r, key (f r) = key r} {k : Nat}
    (h : ∀ r, t.get k = some r → p (f r) = p r) :
    (t.modify k f hf).rows.countP p = t.rows.countP p := by
  rw [rows_modify, List.countP_map]
  refine List.countP_congr fun r hr => ?_
  rw [Function.comp_apply]
  split
  · next hkey => rw [h r (hkey ▸ get_of_mem hr)]
  · rfl

end Count

/-! ## Sums -/

/-- `SELECT COALESCE(SUM(f), 0) … WHERE p`. -/
def sumWhere (t : Table ρ) (p : ρ → Bool) (f : ρ → Int) : Int := ((t.rows.filter p).map f).sum

section Sum

variable {t : Table ρ} {p q : ρ → Bool} {f : ρ → Int}

theorem sumWhere_append {t' : Table ρ} {r : ρ} (hrows : t'.rows = t.rows ++ [r]) :
    t'.sumWhere p f = t.sumWhere p f + if p r then f r else 0 := by
  unfold sumWhere
  rw [hrows, List.filter_append, List.map_append, List.sum_append]
  by_cases h : p r <;> simp [h]

theorem sumWhere_insert (mk : Nat → ρ) (hk : ∀ k, key (mk k) = k) :
    (t.insert mk hk).sumWhere p f =
      t.sumWhere p f + if p (mk t.freshKey) then f (mk t.freshKey) else 0 :=
  sumWhere_append rfl

theorem sumWhere_congr (h : ∀ r ∈ t, p r = q r) : t.sumWhere p f = t.sumWhere q f := by
  unfold sumWhere
  rw [List.filter_congr h]

theorem sumWhere_eq_zero (h : ∀ r ∈ t, p r = false) : t.sumWhere p f = 0 := by
  unfold sumWhere
  rw [List.filter_eq_nil_iff.mpr fun r hr => by simp [h r hr]]
  rfl

theorem sumWhere_nonneg (hf : ∀ r ∈ t, 0 ≤ f r) : 0 ≤ t.sumWhere p f := by
  refine List.sum_nonneg fun x hx => ?_
  obtain ⟨r, hr, rfl⟩ := List.mem_map.mp hx
  exact hf r (List.mem_filter.mp hr).1

theorem sumWhere_add (h : ∀ r ∈ t, p r = true → q r = true) :
    t.sumWhere p f + t.sumWhere (fun r => q r && !p r) f = t.sumWhere q f := by
  have hlist : ∀ l : List ρ, (∀ r ∈ l, p r = true → q r = true) →
      ((l.filter p).map f).sum + ((l.filter fun r => q r && !p r).map f).sum =
        ((l.filter q).map f).sum := by
    intro l
    induction l with
    | nil => intro _; rfl
    | cons r l ih =>
      intro h
      have ih' := ih fun r hr => h r (List.mem_cons_of_mem _ hr)
      cases hp : p r with
      | true =>
        have hq := h r List.mem_cons_self hp
        simp only [List.filter_cons, hp, hq, if_true, Bool.not_true, Bool.and_false,
          Bool.false_eq_true, if_false, List.map_cons, List.sum_cons]
        omega
      | false =>
        cases hq : q r <;>
          simp only [List.filter_cons, hp, hq, if_true, Bool.not_false, Bool.and_true,
            Bool.false_eq_true, if_false, List.map_cons, List.sum_cons] <;> omega
  exact hlist t.rows h

theorem sumWhere_modifyAll_drop {u : ρ → ρ} {hu : ∀ r, key (u r) = key r}
    (h : ∀ r ∈ t, q r = true → p (u r) = false) :
    (t.modifyAll q u hu).sumWhere p f = t.sumWhere (fun r => p r && !q r) f := by
  have hlist : ∀ l : List ρ, (∀ r ∈ l, q r = true → p (u r) = false) →
      (((l.map fun r => if q r then u r else r).filter p).map f).sum =
        ((l.filter fun r => p r && !q r).map f).sum := by
    intro l
    induction l with
    | nil => intro _; rfl
    | cons r l ih =>
      intro h
      have ih' := ih fun r hr => h r (List.mem_cons_of_mem _ hr)
      cases hq : q r with
      | true =>
        have hp := h r List.mem_cons_self hq
        simp only [List.map_cons, hq, if_true, List.filter_cons, hp, Bool.false_eq_true, if_false,
          Bool.not_true, Bool.and_false, ih']
      | false =>
        cases hp : p r <;>
          simp only [List.map_cons, hq, Bool.false_eq_true, if_false, List.filter_cons, hp, if_true,
            Bool.not_false, Bool.and_true, List.sum_cons, ih']
  exact hlist t.rows h

theorem sum_groups {κ : Type v} [DecidableEq κ] (g : ρ → κ) {ks : List κ} (hks : ks.Nodup) :
    (ks.map fun k => t.sumWhere (fun r => p r && g r = k) f).sum =
      t.sumWhere (fun r => p r && decide (g r ∈ ks)) f := by
  induction ks with
  | nil => simp [sumWhere]
  | cons k ks ih =>
    rw [List.nodup_cons] at hks
    have hone : t.sumWhere (fun r => p r && g r = k) f +
        t.sumWhere (fun r => (p r && decide (g r ∈ k :: ks)) && !(p r && g r = k)) f =
          t.sumWhere (fun r => p r && decide (g r ∈ k :: ks)) f :=
      sumWhere_add fun r _ h => by
        simp only [Bool.and_eq_true, decide_eq_true_eq] at h ⊢
        exact ⟨h.1, h.2 ▸ List.mem_cons_self⟩
    have hrest : t.sumWhere (fun r => (p r && decide (g r ∈ k :: ks)) && !(p r && g r = k)) f =
        t.sumWhere (fun r => p r && decide (g r ∈ ks)) f := by
      refine sumWhere_congr fun r _ => ?_
      by_cases hk : g r = k
      · have hnot : g r ∉ ks := hk ▸ hks.1
        simp [hk, hks.1]
      · simp [hk]
    rw [List.map_cons, List.sum_cons, ih hks.2, ← hone, hrest]

/-- Fewer rows sum up to less, where every summand is positive or zero. -/
theorem sumWhere_le (h : ∀ r ∈ t, p r = true → q r = true) (hf : ∀ r ∈ t, 0 ≤ f r) :
    t.sumWhere p f ≤ t.sumWhere q f := by
  have hrest := sumWhere_nonneg (p := fun r => q r && !p r) hf
  have hadd := sumWhere_add (f := f) h
  omega

/-- Fewer rows sum up to the same exactly if the others are zero. -/
theorem sumWhere_eq_iff (h : ∀ r ∈ t, p r = true → q r = true) (hf : ∀ r ∈ t, 0 ≤ f r) :
    t.sumWhere p f = t.sumWhere q f ↔ ∀ r ∈ t, q r = true → p r = false → f r = 0 := by
  have hzero : t.sumWhere (fun r => q r && !p r) f = 0 ↔
      ∀ r ∈ t, q r = true → p r = false → f r = 0 := by
    constructor
    · intro hsum r hr hq hp
      refine List.all_zero_of_le_zero_le_of_sum_eq_zero (fun x hx => ?_) hsum
        (List.mem_map_of_mem (List.mem_filter.mpr ⟨hr, by simp [hq, hp]⟩))
      obtain ⟨r, hr, rfl⟩ := List.mem_map.mp hx
      exact hf r (List.mem_filter.mp hr).1
    · intro hall
      refine List.sum_eq_zero fun x hx => ?_
      obtain ⟨r, hr, rfl⟩ := List.mem_map.mp hx
      obtain ⟨hr, hqp⟩ := List.mem_filter.mp hr
      simp only [Bool.and_eq_true, Bool.not_eq_true'] at hqp
      exact hall r hr hqp.1 hqp.2
  rw [← hzero, ← sumWhere_add h]
  omega

theorem sumWhere_congr_fun {g : ρ → Int} (h : ∀ r ∈ t, p r = true → f r = g r) :
    t.sumWhere p f = t.sumWhere p g := by
  unfold sumWhere
  refine congrArg List.sum (List.map_congr_left fun r hr => ?_)
  obtain ⟨hr, hp⟩ := List.mem_filter.mp hr
  exact h r hr hp

theorem sumWhere_zero (h : ∀ r ∈ t, p r = true → f r = 0) : t.sumWhere p f = 0 := by
  rw [sumWhere_congr_fun (g := fun _ => 0) h]
  simp [sumWhere]

/-- A sum over fewer rows is one over all of them that counts the others as zero. -/
theorem sumWhere_and : t.sumWhere (fun r => p r && q r) f =
    t.sumWhere p fun r => if q r then f r else 0 := by
  have hlist : ∀ l : List ρ, ((l.filter fun r => p r && q r).map f).sum =
      ((l.filter p).map fun r => if q r then f r else 0).sum := by
    intro l
    induction l with
    | nil => rfl
    | cons r l ih =>
      cases hp : p r <;> cases hq : q r <;> simp [hp, hq, ih]
  exact hlist t.rows

theorem sumWhere_sub (g : ρ → Int) :
    t.sumWhere p (fun r => f r - g r) = t.sumWhere p f - t.sumWhere p g := by
  have hlist : ∀ l : List ρ, (l.map fun r => f r - g r).sum = (l.map f).sum - (l.map g).sum := by
    intro l
    induction l with
    | nil => rfl
    | cons r l ih =>
      simp only [List.map_cons, List.sum_cons, ih]
      omega
  exact hlist _

theorem sumWhere_mono {g : ρ → Int} (h : ∀ r ∈ t, p r = true → f r ≤ g r) :
    t.sumWhere p f ≤ t.sumWhere p g := by
  refine List.sum_le_sum fun r hr => ?_
  obtain ⟨hr, hp⟩ := List.mem_filter.mp hr
  exact h r hr hp

/-- Where each row of a table has its place in another, with at least its weight, the other weighs
no less: the rest of it weighs something or nothing. -/
theorem sum_rows_le {t' : Table ρ} {w w' : ρ → Int}
    (h : ∀ k r, t.get k = some r → ∃ r', t'.get k = some r' ∧ w r ≤ w' r')
    (hw' : ∀ r ∈ t', 0 ≤ w' r) : (t.rows.map w).sum ≤ (t'.rows.map w').sum := by
  let weight (k : Nat) : Int := ((t'.get k).map w').getD 0
  have hweight (r : ρ) (hr : r ∈ t') : weight (key r) = w' r := by
    simp only [weight, get_of_mem hr, Option.map_some, Option.getD_some]
  have hle : (t.rows.map w).sum ≤ ((t.rows.map key).map weight).sum := by
    rw [List.map_map]
    refine List.sum_le_sum fun r hr => ?_
    obtain ⟨r', hr', hle⟩ := h _ r (get_of_mem hr)
    simpa only [Function.comp_apply, weight, hr', Option.map_some, Option.getD_some] using hle
  have hkeys : t.rows.map key ⊆ t'.rows.map key := by
    intro k hk
    obtain ⟨r, hr, rfl⟩ := List.mem_map.mp hk
    obtain ⟨r', hr', -⟩ := h _ r (get_of_mem hr)
    exact List.mem_map.mpr ⟨r', mem_of_get hr', key_of_get hr'⟩
  obtain ⟨ks, hperm, hsub⟩ := List.subperm_of_subset t.nodup hkeys
  have hsum : ((t.rows.map key).map weight).sum ≤ ((t'.rows.map key).map weight).sum := by
    rw [← (hperm.map weight).sum_eq]
    refine (hsub.map weight).sum_le_sum fun x hx => ?_
    simp only [List.map_map, List.mem_map, Function.comp_apply] at hx
    obtain ⟨r, hr, rfl⟩ := hx
    rw [hweight r hr]
    exact hw' r hr
  have hend : ((t'.rows.map key).map weight).sum = (t'.rows.map w').sum := by
    rw [List.map_map]
    exact congrArg List.sum (List.map_congr_left fun r hr => hweight r hr)
  exact hle.trans (hsum.trans_eq hend)

/-- Sums of smaller summands are equal exactly if the summands are. -/
theorem sumWhere_eq_iff_of_le {g : ρ → Int} (h : ∀ r ∈ t, p r = true → f r ≤ g r) :
    t.sumWhere p f = t.sumWhere p g ↔ ∀ r ∈ t, p r = true → f r = g r := by
  have hlist : ∀ l : List ρ, (∀ r ∈ l, f r ≤ g r) →
      (l.map f).sum ≤ (l.map g).sum ∧
        ((l.map f).sum = (l.map g).sum ↔ ∀ r ∈ l, f r = g r) := by
    intro l
    induction l with
    | nil => intro _; simp
    | cons r l ih =>
      intro h
      obtain ⟨hle, heq⟩ := ih fun r' hr' => h r' (List.mem_cons_of_mem _ hr')
      have hr := h r List.mem_cons_self
      simp only [List.map_cons, List.sum_cons, List.forall_mem_cons, ← heq]
      constructor <;> omega
  refine (hlist _ fun r hr => ?_).2.trans ?_
  · obtain ⟨hr, hp⟩ := List.mem_filter.mp hr
    exact h r hr hp
  · simp only [List.mem_filter, and_imp]
    rfl

/-- A sum over the rows whose parent satisfies `q`, taken parent by parent. -/
theorem sumWhere_join {σ : Type v} [Keyed σ] (parents : Table σ) (ref : ρ → Nat) (q : σ → Bool) :
    t.sumWhere (fun r => p r && (parents.get (ref r)).any q) f =
      parents.sumWhere q fun s => t.sumWhere (fun r => p r && ref r = key s) f := by
  have hks : ((parents.rows.filter q).map key).Nodup :=
    parents.nodup.sublist (List.filter_sublist.map _)
  have hmem : ∀ r, (parents.get (ref r)).any q = decide (ref r ∈ (parents.rows.filter q).map key) := by
    intro r
    rw [Bool.eq_iff_iff, decide_eq_true_eq, Option.any_eq_true, List.mem_map]
    constructor
    · rintro ⟨s, hs, hq⟩
      exact ⟨s, List.mem_filter.mpr ⟨mem_of_get hs, hq⟩, key_of_get hs⟩
    · rintro ⟨s, hs, hkey⟩
      obtain ⟨hs, hq⟩ := List.mem_filter.mp hs
      exact ⟨s, hkey ▸ get_of_mem hs, hq⟩
  have hgroups := sum_groups (t := t) (p := p) (f := f) ref hks
  rw [List.map_map] at hgroups
  refine Eq.trans ?_ hgroups.symm
  exact sumWhere_congr fun r _ => by rw [hmem r]

end Sum

end Table

/-! ## Order -/

section Order

variable {ρ : Type u}

/-- `ORDER BY f DESC`, first row. -/
def latestBy (f : ρ → Int) : List ρ → Option ρ
  | [] => none
  | r :: rs =>
    match latestBy f rs with
    | none => some r
    | some s => if f s ≤ f r then some r else some s

theorem latestBy_mem {f : ρ → Int} {rs : List ρ} {r : ρ} (h : latestBy f rs = some r) : r ∈ rs := by
  induction rs generalizing r with
  | nil => cases h
  | cons a rs ih =>
    simp only [latestBy] at h
    split at h
    · cases h; exact List.mem_cons_self
    · next s hs =>
      split at h
      · cases h; exact List.mem_cons_self
      · cases h; exact List.mem_cons_of_mem _ (ih hs)

theorem latestBy_isSome {f : ρ → Int} {rs : List ρ} :
    (latestBy f rs).isSome = true ↔ rs ≠ [] := by
  cases rs with
  | nil => simp [latestBy]
  | cons r rs =>
    simp only [latestBy]
    split
    · simp
    · split <;> simp

end Order
/-! ## Unique indexes

Some rows have a label, and those that have one have different ones. -/

section Labels

variable {α : Type u} {β : Type v} [DecidableEq β] {label : α → Option β} {rows : List α} {b : β}

theorem countP_label_eq : rows.countP (fun a => label a = some b) = (rows.filterMap label).count b := by
  rw [List.count_filterMap]
  exact List.countP_congr fun a _ => by simp

theorem countP_label_le (h : (rows.filterMap label).Nodup) :
    rows.countP (fun a => label a = some b) ≤ 1 := by
  rw [countP_label_eq]
  exact List.nodup_iff_count_le_one.mp h b

theorem countP_label (h : (rows.filterMap label).Nodup) (hmem : ∃ a ∈ rows, label a = some b) :
    rows.countP (fun a => label a = some b) = 1 := by
  rw [countP_label_eq]
  obtain ⟨a, ha, hb⟩ := hmem
  exact List.count_eq_one_of_mem h (List.mem_filterMap.mpr ⟨a, ha, hb⟩)

theorem eq_of_label (h : (rows.filterMap label).Nodup) {a a' : α} (ha : a ∈ rows) (ha' : a' ∈ rows)
    (hb : label a = some b) (hb' : label a' = some b) : a = a' := by
  have hone := countP_label h ⟨a, ha, hb⟩
  rw [List.countP_eq_length_filter, List.length_eq_one_iff] at hone
  obtain ⟨x, hx⟩ := hone
  have hall : ∀ y ∈ rows, label y = some b → y = x := by
    intro y hy hyb
    have hfilter : y ∈ rows.filter fun a => label a = some b :=
      List.mem_filter.mpr ⟨hy, decide_eq_true hyb⟩
    rw [hx] at hfilter
    exact List.mem_singleton.mp hfilter
  rw [hall a ha hb, hall a' ha' hb']

end Labels

end Rotas
