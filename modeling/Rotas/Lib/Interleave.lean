import Rotas.Lib.Run
import Mathlib.Data.List.Nodup
import Mathlib.Logic.Function.Basic

/-!
# Rotas.Lib.Interleave

Parties that take turns on one shared store, each with a state of its own.

* `Config`  — the store, and the state of every party; any number of them may be active.
* `move`    — one party's turn; a turn that is blocked, or not the party's to take, does nothing.
* `holds_run` — the rule for interleavings: a property of the store and one of each party hold
  throughout, if every turn keeps the mover's and disturbs nobody else's.
* `nodup_append_entry` — a log in which each name stands once.
* `Locks`   — row locks, held by one party each.
-/

namespace Rotas
namespace Interleave

universe u v w

variable {σ : Type u} {Λ : Type v} {α : Type w}

structure Config (σ : Type u) (Λ : Type v) where
  store : σ
  parties : Nat → Λ

/-- The turn of party `m.1`, doing `m.2`. -/
def move (turn : Nat → α → σ → Λ → Option (σ × Λ)) (c : Config σ Λ) (m : Nat × α) : Config σ Λ :=
  match turn m.1 m.2 c.store (c.parties m.1) with
  | none => c
  | some (s, l) => ⟨s, Function.update c.parties m.1 l⟩

theorem move_cases (turn : Nat → α → σ → Λ → Option (σ × Λ)) (c : Config σ Λ) (m : Nat × α) :
    move turn c m = c ∨ ∃ s l, turn m.1 m.2 c.store (c.parties m.1) = some (s, l) ∧
      move turn c m = ⟨s, Function.update c.parties m.1 l⟩ := by
  unfold move
  cases h : turn m.1 m.2 c.store (c.parties m.1) with
  | none => exact .inl rfl
  | some r => exact .inr ⟨r.1, r.2, rfl, rfl⟩

theorem move_party_of_ne (turn : Nat → α → σ → Λ → Option (σ × Λ)) (c : Config σ Λ)
    {m : Nat × α} {i : Nat} (hi : i ≠ m.1) : (move turn c m).parties i = c.parties i := by
  rcases move_cases turn c m with h | ⟨s, l, _, h⟩
  · rw [h]
  · rw [h]; exact Function.update_of_ne hi _ _

/-- The store satisfies `G`, and each party `P`. -/
structure Holds (G : σ → Prop) (P : Nat → σ → Λ → Prop) (c : Config σ Λ) : Prop where
  store : G c.store
  party : ∀ i, P i c.store (c.parties i)

section Rule

variable {turn : Nat → α → σ → Λ → Option (σ × Λ)} {C : Config σ Λ → Nat × α → Prop}
  {G : σ → Prop} {P : Nat → σ → Λ → Prop}

theorem holds_move
    (hown : ∀ {c i a s l}, Holds G P c → C c (i, a) →
      turn i a c.store (c.parties i) = some (s, l) → G s ∧ P i s l)
    (hothers : ∀ {c i a s l}, Holds G P c → C c (i, a) →
      turn i a c.store (c.parties i) = some (s, l) → ∀ j, j ≠ i → P j s (c.parties j))
    {c : Config σ Λ} {m : Nat × α} (hI : Holds G P c) (hC : C c m) : Holds G P (move turn c m) := by
  rcases move_cases turn c m with h | ⟨s, l, hturn, h⟩
  · rw [h]; exact hI
  · rw [h]
    obtain ⟨hG, hP⟩ := hown hI hC hturn
    refine ⟨hG, fun j => ?_⟩
    by_cases hj : j = m.1
    · subst hj
      simpa only [Function.update_self] using hP
    · simpa only [Function.update_of_ne hj] using hothers hI hC hturn j hj

theorem holds_run
    (hown : ∀ {c i a s l}, Holds G P c → C c (i, a) →
      turn i a c.store (c.parties i) = some (s, l) → G s ∧ P i s l)
    (hothers : ∀ {c i a s l}, Holds G P c → C c (i, a) →
      turn i a c.store (c.parties i) = some (s, l) → ∀ j, j ≠ i → P j s (c.parties j))
    {c : Config σ Λ} {ms : List (Nat × α)} (hI : Holds G P c)
    (hC : Run.Along (move turn) C c ms) : Holds G P (Run.exec (move turn) c ms) :=
  Run.exec_inv (fun _ _ hI hC => holds_move hown hothers hI hC) hI hC

theorem holds_run_all
    (hown : ∀ {c i a s l}, Holds G P c → turn i a c.store (c.parties i) = some (s, l) → G s ∧ P i s l)
    (hothers : ∀ {c i a s l}, Holds G P c → turn i a c.store (c.parties i) = some (s, l) →
      ∀ j, j ≠ i → P j s (c.parties j))
    {c : Config σ Λ} {ms : List (Nat × α)} (hI : Holds G P c) :
    Holds G P (Run.exec (move turn) c ms) :=
  Run.exec_inv_all (fun _ _ hI => holds_move (C := fun _ _ => True) (fun hI _ h => hown hI h)
    (fun hI _ h => hothers hI h) hI trivial) hI

end Rule

/-! ## One party -/

/-- The turns of one party that nobody else comes between. -/
def alone (turn : Nat → α → σ → Λ → Option (σ × Λ)) (i : Nat) : σ × Λ → List α → σ × Λ :=
  List.foldl fun x a => (turn i a x.1 x.2).getD x

@[simp] theorem alone_nil (turn : Nat → α → σ → Λ → Option (σ × Λ)) (i : Nat) (x : σ × Λ) :
    alone turn i x [] = x := rfl

@[simp] theorem alone_cons (turn : Nat → α → σ → Λ → Option (σ × Λ)) (i : Nat) (x : σ × Λ) (a : α)
    (as : List α) : alone turn i x (a :: as) = alone turn i ((turn i a x.1 x.2).getD x) as := rfl

theorem alone_append (turn : Nat → α → σ → Λ → Option (σ × Λ)) (i : Nat) (x : σ × Λ)
    (as bs : List α) : alone turn i x (as ++ bs) = alone turn i (alone turn i x as) bs :=
  List.foldl_append

theorem exec_alone (turn : Nat → α → σ → Λ → Option (σ × Λ)) (i : Nat) (as : List α) :
    ∀ c : Config σ Λ, Run.exec (move turn) c (as.map (i, ·)) =
      ⟨(alone turn i (c.store, c.parties i) as).1,
        Function.update c.parties i (alone turn i (c.store, c.parties i) as).2⟩ := by
  induction as with
  | nil => exact fun c => by rw [alone, List.foldl_nil, Function.update_eq_self]; rfl
  | cons a as ih =>
    intro c
    rw [List.map_cons, Run.exec_cons, ih]
    unfold move alone
    rw [List.foldl_cons]
    cases turn i a c.store (c.parties i) with
    | none => rfl
    | some x => simp only [Function.update_self, Function.update_idem, Option.getD_some]

/-! ## Logs -/

theorem nodup_append_entry {β : Type v} {γ : Type w} {name : β → γ} {log : List β} {e : β}
    (h : (log.map name).Nodup) (hnew : ∀ e' ∈ log, name e' ≠ name e) :
    ((log ++ [e]).map name).Nodup := by
  rw [List.map_append, List.nodup_append]
  refine ⟨h, List.nodup_singleton _, ?_⟩
  intro x hx y hy
  obtain ⟨e', he', rfl⟩ := List.mem_map.mp hx
  rw [List.mem_singleton.mp hy]
  exact hnew e' he'

/-! ## Row locks -/

/-- The party that holds each row until the end of its transaction. -/
def Locks (κ : Type u) := κ → Option Nat

namespace Locks

variable {κ : Type u} {L : Locks κ} {i j : Nat} {k k' : κ}

/-- Nobody else holds the row. -/
def available (L : Locks κ) (i : Nat) (k : κ) : Bool := (L k).all (· = i)

def release (L : Locks κ) (i : Nat) : Locks κ := fun k => if L k = some i then none else L k

/-- A party keeps its rows when another one ends its transaction. -/
theorem release_of_ne (h : L k = some j) (hj : j ≠ i) : L.release i k = some j := by
  have hne : L k ≠ some i := by
    rw [h]
    exact fun he => hj (Option.some.inj he)
  rw [release, if_neg hne, h]

theorem available_of_own (h : L k = some i) : L.available i k = true := by
  rw [available, h, Option.all_some, decide_eq_true_eq]

theorem eq_of_available (h : L k = some j) (ha : L.available i k = true) : j = i := by
  rw [available, h, Option.all_some, decide_eq_true_eq] at ha
  exact ha

variable [DecidableEq κ]

def take (L : Locks κ) (i : Nat) (k : κ) : Locks κ := Function.update L k (some i)

@[simp] theorem take_self : L.take i k k = some i := Function.update_self ..

theorem take_of_own (h : L k' = some i) : L.take i k k' = some i := by
  by_cases hk : k' = k
  · rw [hk, take_self]
  · exact (Function.update_of_ne hk _ _).trans h

/-- A party keeps its rows when another one takes a row that was available to it. -/
theorem take_of_ne (h : L k' = some j) (hj : j ≠ i) (ha : L.available i k = true) :
    L.take i k k' = some j := by
  have hne : k' ≠ k := by
    rintro rfl
    exact hj (eq_of_available h ha)
  exact (Function.update_of_ne hne _ _).trans h

end Locks

end Interleave
end Rotas
