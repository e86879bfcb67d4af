import Mathlib.Data.List.Basic

/-!
# Rotas.Lib.Queries

Outer joins of lists of rows, what a count over a joined row counts, and the order of a query.

* `leftJoin on l r` — each row of `l` with the rows of `r` it goes with, or with none.
* `countP_leftJoin_left`, `countP_leftJoin_right` — where the condition looks at the right row
  only, each side is counted as often as the other one has rows.
* `orderDesc keys rows` — `ORDER BY` the keys, each descending; rows alike in all of them stay in the
  order of the table.
* `filter_orderDesc`    — the rows of a kind come in the order they have among themselves.
-/

namespace Rotas

universe u v

section

variable {α : Type u} {β : Type v}

/-- A row with those it goes with, or with none. -/
def outerRows (a : α) : List β → List (α × Option β)
  | [] => [(a, none)]
  | b :: bs => (b :: bs).map fun b => (a, some b)

/-- `l LEFT JOIN r ON on`. -/
def leftJoin (on : α → β → Bool) (l : List α) (r : List β) : List (α × Option β) :=
  l.flatMap fun a => outerRows a (r.filter (on a))

variable {p : β → Bool} {l : List α} {r : List β}

theorem leftJoin_cons (a : α) :
    leftJoin (fun _ => p) (a :: l) r = outerRows a (r.filter p) ++ leftJoin (fun _ => p) l r := rfl

theorem countP_outerRows_left (q : α → Bool) (a : α) (bs : List β) :
    (outerRows a bs).countP (fun row => q row.1) = if q a then max bs.length 1 else 0 := by
  cases bs with
  | nil => cases h : q a <;> simp [outerRows, h]
  | cons b bs =>
    simp only [outerRows, List.countP_map]
    cases h : q a with
    | true =>
      have hall : (b :: bs).countP ((fun row : α × Option β => q row.1) ∘ fun b => (a, some b)) =
          (b :: bs).length := List.countP_eq_length.mpr fun b _ => h
      rw [if_pos rfl, hall, List.length_cons]
      omega
    | false =>
      rw [if_neg Bool.false_ne_true]
      refine List.countP_eq_zero.mpr fun b _ hb => ?_
      rw [Function.comp_apply, h] at hb
      cases hb

theorem countP_outerRows_right (q : β → Bool) (a : α) (bs : List β) :
    (outerRows a bs).countP (fun row => row.2.any q) = bs.countP q := by
  cases bs with
  | nil => rfl
  | cons b bs =>
    simp only [outerRows, List.countP_map]
    rfl

theorem countP_leftJoin_left (q : α → Bool) :
    (leftJoin (fun _ => p) l r).countP (fun row => q row.1) = l.countP q * max (r.countP p) 1 := by
  induction l with
  | nil => rw [leftJoin, List.flatMap_nil, List.countP_nil, List.countP_nil, Nat.zero_mul]
  | cons a l ih =>
    rw [leftJoin_cons, List.countP_append, ih, countP_outerRows_left, List.countP_cons,
      ← List.countP_eq_length_filter, Nat.add_mul]
    cases q a with
    | true => rw [if_pos rfl, if_pos rfl]; omega
    | false => rw [if_neg Bool.false_ne_true, if_neg Bool.false_ne_true]; omega

theorem length_leftJoin : (leftJoin (fun _ => p) l r).length = l.length * max (r.countP p) 1 := by
  have h := countP_leftJoin_left (p := p) (l := l) (r := r) fun _ => true
  rwa [List.countP_true, List.countP_true] at h

theorem countP_leftJoin_right (q : β → Bool) :
    (leftJoin (fun _ => p) l r).countP (fun row => row.2.any q) =
      l.length * r.countP fun b => p b && q b := by
  induction l with
  | nil => rw [leftJoin, List.flatMap_nil, List.countP_nil, List.length_nil, Nat.zero_mul]
  | cons a l ih =>
    have hfilter : (r.filter p).countP q = r.countP fun b => p b && q b := by
      rw [List.countP_filter]
      exact List.countP_congr fun b _ => by rw [Bool.and_comm]
    rw [leftJoin_cons, List.countP_append, ih, countP_outerRows_right, hfilter, List.length_cons,
      Nat.add_mul]
    omega

end

section

variable {α : Type u}

/-- `a` need not come after `b`: the first key that tells them apart is greater at `a`. -/
def before : List (α → Int) → α → α → Bool
  | [], _, _ => true
  | key :: keys, a, b => decide (key b < key a) || (decide (key a = key b) && before keys a b)

def orderDesc (keys : List (α → Int)) (rows : List α) : List α := rows.mergeSort (before keys)

variable {keys : List (α → Int)} {rows : List α}

theorem before_trans (keys : List (α → Int)) (a b c : α) (hab : before keys a b = true)
    (hbc : before keys b c = true) : before keys a c = true := by
  induction keys with
  | nil => rfl
  | cons key keys ih =>
    simp only [before, Bool.or_eq_true, Bool.and_eq_true, decide_eq_true_eq] at hab hbc ⊢
    rcases hab with hab | ⟨hab, hrest⟩
    · rcases hbc with hbc | ⟨hbc, -⟩
      · exact .inl (by omega)
      · exact .inl (by omega)
    · rcases hbc with hbc | ⟨hbc, hrest'⟩
      · exact .inl (by omega)
      · exact .inr ⟨hab.trans hbc, ih hrest hrest'⟩

theorem before_total (keys : List (α → Int)) (a b : α) :
    (before keys a b || before keys b a) = true := by
  induction keys with
  | nil => rfl
  | cons key keys ih =>
    simp only [before, Bool.or_eq_true, Bool.and_eq_true, decide_eq_true_eq] at ih ⊢
    rcases Int.lt_trichotomy (key a) (key b) with h | h | h
    · exact .inr (.inl h)
    · rcases ih with ih | ih
      · exact .inl (.inr ⟨h, ih⟩)
      · exact .inr (.inr ⟨h.symm, ih⟩)
    · exact .inl (.inl h)

theorem mem_orderDesc {a : α} : a ∈ orderDesc keys rows ↔ a ∈ rows :=
  (List.mergeSort_perm _ _).mem_iff

theorem orderDesc_perm (keys : List (α → Int)) (rows : List α) :
    (orderDesc keys rows).Perm rows := List.mergeSort_perm _ _

theorem orderDesc_pairwise (keys : List (α → Int)) (rows : List α) :
    (orderDesc keys rows).Pairwise fun a b => before keys a b = true :=
  List.pairwise_mergeSort (before_trans keys) (before_total keys) rows

theorem orderDesc_of_pairwise (h : rows.Pairwise fun a b => before keys a b = true) :
    orderDesc keys rows = rows := List.mergeSort_of_pairwise h

/-- A list is cut in one way between the elements that do not satisfy `le` and those that do. -/
theorem append_inj_of_le {le : α → Bool} {l₁ l₂ m₁ m₂ : List α} (h : l₁ ++ l₂ = m₁ ++ m₂)
    (hl₁ : ∀ b ∈ l₁, le b = false) (hl₂ : ∀ b ∈ l₂, le b = true) (hm₁ : ∀ b ∈ m₁, le b = false)
    (hm₂ : ∀ b ∈ m₂, le b = true) : l₁ = m₁ ∧ l₂ = m₂ := by
  have hfilter {l₁ l₂ : List α} (h₁ : ∀ b ∈ l₁, le b = false) (h₂ : ∀ b ∈ l₂, le b = true) :
      (l₁ ++ l₂).filter (!le ·) = l₁ ∧ (l₁ ++ l₂).filter le = l₂ := by
    rw [List.filter_append, List.filter_append]
    constructor
    · rw [List.filter_eq_self.mpr fun b hb => by rw [h₁ b hb]; rfl,
        List.filter_eq_nil_iff.mpr fun b hb => by rw [h₂ b hb]; exact Bool.false_ne_true,
        List.append_nil]
    · rw [List.filter_eq_nil_iff.mpr fun b hb => by rw [h₁ b hb]; exact Bool.false_ne_true,
        List.filter_eq_self.mpr h₂, List.nil_append]
  obtain ⟨hfirst, hsecond⟩ := hfilter hl₁ hl₂
  obtain ⟨hfirst', hsecond'⟩ := hfilter hm₁ hm₂
  rw [h] at hfirst hsecond
  exact ⟨hfirst.symm.trans hfirst', hsecond.symm.trans hsecond'⟩

theorem filter_orderDesc (p : α → Bool) :
    (orderDesc keys rows).filter p = orderDesc keys (rows.filter p) := by
  induction rows with
  | nil => simp [orderDesc]
  | cons a rows ih =>
    -- the new row goes in at one place of what is sorted already, here and among those of its kind
    obtain ⟨l₁, l₂, hsorted, hrest, hbefore⟩ :=
      List.mergeSort_cons (before_trans keys) (before_total keys) a rows
    have hafter : ∀ b ∈ l₂, before keys a b = true := by
      have hpairwise := orderDesc_pairwise keys (a :: rows)
      rw [orderDesc, hsorted, List.pairwise_append] at hpairwise
      exact (List.pairwise_cons.mp hpairwise.2.1).1
    rw [orderDesc, hrest, List.filter_append] at ih
    rw [orderDesc, hsorted, List.filter_append]
    cases hp : p a with
    | false =>
      rw [List.filter_cons_of_neg (by rw [hp]; exact Bool.false_ne_true), ih,
        List.filter_cons_of_neg (by rw [hp]; exact Bool.false_ne_true)]
    | true =>
      obtain ⟨m₁, m₂, hsorted', hrest', hbefore'⟩ :=
        List.mergeSort_cons (before_trans keys) (before_total keys) a (rows.filter p)
      have hafter' : ∀ b ∈ m₂, before keys a b = true := by
        have hpairwise := orderDesc_pairwise keys (a :: rows.filter p)
        rw [orderDesc, hsorted', List.pairwise_append] at hpairwise
        exact (List.pairwise_cons.mp hpairwise.2.1).1
      rw [orderDesc, hrest'] at ih
      obtain ⟨rfl, rfl⟩ := append_inj_of_le ih
        (fun b hb => by simpa using hbefore b (List.mem_of_mem_filter hb))
        (fun b hb => hafter b (List.mem_of_mem_filter hb))
        (fun b hb => by simpa using hbefore' b hb) hafter'
      rw [List.filter_cons_of_pos hp, List.filter_cons_of_pos hp, orderDesc, hsorted']

end

end Rotas
