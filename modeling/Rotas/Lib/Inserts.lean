import Rotas.Lib.Interleave
import Mathlib.Data.List.Pairwise

/-!
# Rotas.Lib.Inserts

Transactions that insert rows under unique keys, at the same time.

* `Base`     — the rows that are committed, and the keys that are held until a transaction ends.
* `insert`   — one more row. It waits while another transaction holds its key, and it violates the
  constraint if a row with its key is there.
* `commit`, `rollback` — the two ends of a transaction.
* `Own`      — the rows that a transaction has inserted: it holds their keys, and no others.
* `Distinct`   — no two rows have one key; `Distinct.commit` keeps it.
* `exists_ready` — keys that are taken in order block nobody for ever.
-/

namespace Rotas
namespace Inserts

open Interleave

universe u v

/-- The entry of a row in the unique indexes, if it has one. -/
class Indexed (ρ : Type u) (κ : outParam (Type v)) where
  entry : ρ → Option κ

variable {ρ : Type u} {κ : Type v} [Indexed ρ κ]

def keys (rows : List ρ) : List κ := rows.filterMap Indexed.entry

@[simp] theorem keys_append (rows rows' : List ρ) : keys (rows ++ rows') = keys rows ++ keys rows' :=
  List.filterMap_append

theorem keys_singleton (r : ρ) : keys [r] = (Indexed.entry r).toList := by
  cases h : Indexed.entry r with
  | none => exact List.filterMap_cons_none h
  | some k => exact List.filterMap_cons_some h

theorem mem_keys {rows : List ρ} {k : κ} : k ∈ keys rows ↔ ∃ r ∈ rows, Indexed.entry r = some k :=
  List.mem_filterMap

structure Base (ρ : Type u) (κ : Type v) where
  rows : List ρ
  locks : Locks κ := fun _ => none

inductive Outcome (ρ : Type u) (κ : Type v) where
  | waits
  | violates
  | inserted (base : Base ρ κ)

/-- Nothing is held by the transaction, and what it has inserted is there for everyone. -/
def Base.commit (i : Nat) (mine : List ρ) (b : Base ρ κ) : Base ρ κ where
  rows := b.rows ++ mine
  locks := b.locks.release i

def Base.rollback (i : Nat) (b : Base ρ κ) : Base ρ κ := { b with locks := b.locks.release i }

/-- What a transaction has inserted: it holds the keys, and nobody has committed one. -/
structure Own (i : Nat) (mine : List ρ) (b : Base ρ κ) : Prop where
  locks : ∀ k, b.locks k = some i ↔ k ∈ keys mine
  absent : ∀ k ∈ keys mine, k ∉ keys b.rows
  nodup : (keys mine).Nodup

def Distinct (b : Base ρ κ) : Prop := (keys b.rows).Nodup

variable {i j : Nat} {mine theirs : List ρ} {b b' : Base ρ κ} {r : ρ} {k : κ}

/-! ## Ends -/

theorem release_self (L : Locks κ) (i : Nat) (k : κ) : L.release i k ≠ some i := by
  intro h
  by_cases hk : L k = some i
  · rw [Locks.release, if_pos hk] at h
    cases h
  · rw [Locks.release, if_neg hk] at h
    exact hk h

theorem release_iff (L : Locks κ) (hj : j ≠ i) (k : κ) :
    L.release i k = some j ↔ L k = some j := by
  constructor
  · intro h
    by_cases hk : L k = some i
    · rw [Locks.release, if_pos hk] at h
      cases h
    · rw [Locks.release, if_neg hk] at h
      exact h
  · exact fun h => Locks.release_of_ne h hj

theorem own_nil (h : ∀ k, b.locks k ≠ some i) : Own i [] b where
  locks k := ⟨fun hk => absurd hk (h k), fun hk => absurd hk List.not_mem_nil⟩
  absent _ hk := absurd hk List.not_mem_nil
  nodup := List.nodup_nil

theorem own_rollback : Own i [] (b.rollback i) := own_nil fun k => release_self b.locks i k

theorem own_commit : Own i [] (b.commit i mine) := own_nil fun k => release_self b.locks i k

theorem Own.rollback_other (h : Own j theirs b) (hj : j ≠ i) : Own j theirs (b.rollback i) where
  locks k := (release_iff b.locks hj k).trans (h.locks k)
  absent := h.absent
  nodup := h.nodup

theorem Own.disjoint (h : Own i mine b) (h' : Own j theirs b) (hj : j ≠ i) (hk : k ∈ keys mine) :
    k ∉ keys theirs := by
  intro hk'
  have hlock := (h.locks k).mpr hk
  rw [(h'.locks k).mpr hk'] at hlock
  exact hj (Option.some.inj hlock)

theorem Own.commit_other (h : Own j theirs b) (hown : Own i mine b) (hj : j ≠ i) :
    Own j theirs (b.commit i mine) where
  locks k := (release_iff b.locks hj k).trans (h.locks k)
  absent k hk := by
    rw [Base.commit, keys_append, List.mem_append]
    rintro (hthere | hmine)
    · exact h.absent k hk hthere
    · exact hown.disjoint h hj hmine hk
  nodup := h.nodup

theorem Distinct.eq_of_entry {r' : ρ} (h : Distinct b) (hr : r ∈ b.rows) (hr' : r' ∈ b.rows)
    (hk : Indexed.entry r = some k) (hk' : Indexed.entry r' = some k) : r = r' := by
  by_contra hne
  have hpairwise := List.pairwise_filterMap.mp h
  have : Std.Symm fun r r' : ρ =>
      ∀ k, Indexed.entry r = some k → ∀ k', Indexed.entry r' = some k' → k ≠ k' :=
    ⟨fun _ _ hne k hk k' hk' => (hne k' hk' k hk).symm⟩
  exact hpairwise.forall hr hr' hne k hk k hk' rfl

theorem Distinct.commit (h : Distinct b) (hown : Own i mine b) : Distinct (b.commit i mine) := by
  rw [Distinct, Base.commit, keys_append, List.nodup_append]
  refine ⟨h, hown.nodup, fun k hk k' hk' => ?_⟩
  rintro rfl
  exact hown.absent k hk' hk

section

variable [DecidableEq κ]

theorem Distinct.countP_le_one (h : Distinct b) {P : ρ → Bool}
    (hP : ∀ r ∈ b.rows, P r = true → Indexed.entry r = some k) : b.rows.countP P ≤ 1 := by
  have hcount : b.rows.countP (fun r => Indexed.entry r == some k) ≤ 1 := by
    rw [← List.count_filterMap]
    exact List.nodup_iff_count_le_one.mp h k
  refine Nat.le_trans (List.countP_mono_left fun r hr hPr => ?_) hcount
  rw [hP r hr hPr, BEq.rfl]

/-! ## Insertion -/

/-- The row of a transaction; a key of its own is there for it. -/
def Base.insert (i : Nat) (r : ρ) (b : Base ρ κ) : Outcome ρ κ :=
  match Indexed.entry r with
  | none => .inserted b
  | some k =>
    if k ∈ keys b.rows ∨ b.locks k = some i then .violates
    else if b.locks.available i k then .inserted { b with locks := b.locks.take i k }
    else .waits

/-- What an insertion that succeeds finds and does. -/
structure Inserted (i : Nat) (r : ρ) (b b' : Base ρ κ) : Prop where
  rows : b'.rows = b.rows
  absent : ∀ k, Indexed.entry r = some k → k ∉ keys b.rows
  free : ∀ k, Indexed.entry r = some k → b.locks k = none
  locks : ∀ k, b'.locks k = if Indexed.entry r = some k then some i else b.locks k

theorem insert_inserted (h : b.insert i r = .inserted b') : Inserted i r b b' := by
  cases hr : Indexed.entry r with
  | none =>
    rw [Base.insert, hr] at h
    cases h
    refine ⟨rfl, fun k hk => ?_, fun k hk => ?_, fun k => ?_⟩
    · cases hr.symm.trans hk
    · cases hr.symm.trans hk
    · rw [hr, if_neg (by simp)]
  | some k =>
    simp only [Base.insert, hr] at h
    split at h
    · cases h
    · next hno =>
      rw [not_or] at hno
      split at h
      · next havailable =>
        cases h
        have hfree : b.locks k = none := by
          cases hk : b.locks k with
          | none => rfl
          | some j =>
            rw [Locks.eq_of_available hk havailable] at hk
            exact absurd hk hno.2
        refine ⟨rfl, fun k' hk' => ?_, fun k' hk' => ?_, fun k' => ?_⟩
        · rw [← Option.some.inj (hr.symm.trans hk')]
          exact hno.1
        · rw [← Option.some.inj (hr.symm.trans hk')]
          exact hfree
        · by_cases hk : k' = k
          · rw [hk, hr, if_pos rfl]
            exact Locks.take_self
          · rw [hr, if_neg fun he => hk (Option.some.inj he).symm]
            exact Function.update_of_ne hk _ _
      · cases h

theorem insert_violates (hr : Indexed.entry r = some k) (h : b.insert i r = .violates) :
    k ∈ keys b.rows ∨ b.locks k = some i := by
  simp only [Base.insert, hr] at h
  split at h
  · next hthere => exact hthere
  · split at h <;> cases h

theorem insert_waits (h : b.insert i r = .waits) :
    ∃ k j, Indexed.entry r = some k ∧ j ≠ i ∧ b.locks k = some j := by
  cases hr : Indexed.entry r with
  | none =>
    rw [Base.insert, hr] at h
    cases h
  | some k =>
    simp only [Base.insert, hr] at h
    split at h
    · cases h
    · next hno =>
      split at h
      · cases h
      · next hheld =>
        cases hk : b.locks k with
        | none =>
          rw [Locks.available, hk] at hheld
          exact absurd rfl hheld
        | some j =>
          refine ⟨k, j, rfl, ?_, hk⟩
          rintro rfl
          exact hno (.inr hk)

theorem Own.insert (h : Own i mine b) (hinsert : Inserted i r b b') : Own i (mine ++ [r]) b' := by
  have hkeys (k : κ) : k ∈ keys (mine ++ [r]) ↔ k ∈ keys mine ∨ Indexed.entry r = some k := by
    rw [keys_append, List.mem_append, keys_singleton, Option.mem_toList]
  constructor
  · intro k
    rw [hkeys, hinsert.locks]
    split
    · next hk => exact ⟨fun _ => .inr hk, fun _ => rfl⟩
    · next hk => exact (h.locks k).trans ⟨.inl, fun hmine => hmine.resolve_right hk⟩
  · intro k hk
    rw [hinsert.rows]
    rcases (hkeys k).mp hk with hk | hk
    · exact h.absent k hk
    · exact hinsert.absent k hk
  · cases hr : Indexed.entry r with
    | none =>
      rw [keys_append, keys_singleton, hr, Option.toList_none, List.append_nil]
      exact h.nodup
    | some k =>
      rw [keys_append, keys_singleton, hr, Option.toList_some, List.nodup_append]
      refine ⟨h.nodup, List.nodup_singleton k, fun k' hk' k'' hk'' => ?_⟩
      rw [List.mem_singleton.mp hk'']
      rintro rfl
      -- the key was free
      have hlock := (h.locks k').mpr hk'
      rw [hinsert.free k' hr] at hlock
      cases hlock

theorem Own.insert_other (h : Own j theirs b) (hinsert : Inserted i r b b') (hj : j ≠ i) :
    Own j theirs b' := by
  refine ⟨fun k => ?_, fun k hk => ?_, h.nodup⟩
  · rw [hinsert.locks, ← h.locks]
    split
    · next hk =>
      rw [hinsert.free k hk]
      exact ⟨fun he => absurd (Option.some.inj he).symm hj, fun he => by cases he⟩
    · exact Iff.rfl
  · rw [hinsert.rows]
    exact h.absent k hk

end

/-! ## Order -/

theorem exists_ready {active ready : Nat → Prop} {rank : Nat → Nat} {last : Nat}
    (hlast : ∀ i, active i → rank i ≤ last)
    (hwaits : ∀ i, active i → ready i ∨ ∃ j, active j ∧ rank i < rank j) {i : Nat} (hi : active i) :
    ∃ j, ready j := by
  induction hn : last - rank i using Nat.strongRecOn generalizing i with
  | ind n ih =>
    rcases hwaits i hi with hready | ⟨j, hj, hlt⟩
    · exact ⟨i, hready⟩
    · have hle := hlast j hj
      exact ih (last - rank j) (by omega) hj rfl

end Inserts
end Rotas
