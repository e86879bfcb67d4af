import Rotas.Lib.Grouping

/-!
# Rotas.Lib.Overfetch

Pages of the elements of a kind, where the offset counts all elements: a page is read from its offset
on, more than a page of elements, and what is of the kind is kept up to the size of a page.

* `keptPage q n w k l` — page `k` of size `n`, from a window of `w` elements.
* `Evenly q n l`       — a stretch of `n` elements that are not all of the kind is the last one that
  has any.
* `visitedOnce_iff`    — each element of the kind is on one page exactly when they lie evenly; then
  also no page is short before one that is not empty.
-/

namespace Rotas

universe u

section

variable {α : Type u} {q : α → Bool} {n w : Nat} {l : List α}

def keptPage (q : α → Bool) (n w k : Nat) (l : List α) : List α :=
  ((page w (k * n) l).filter q).take n

/-- Each element of the kind is on one page. -/
def VisitedOnce (q : α → Bool) (n w : Nat) (l : List α) : Prop :=
  ∀ x ∈ l, q x = true → ∃! k, x ∈ keptPage q n w k l

/-- Before a page that is not empty all pages are full. -/
def FullBefore (q : α → Bool) (n w : Nat) (l : List α) : Prop :=
  ∀ j k, j < k → keptPage q n w k l ≠ [] → (keptPage q n w j l).length = n

def Evenly (q : α → Bool) (n : Nat) (l : List α) : Prop :=
  ∀ k, (∀ x ∈ page n (k * n) l, q x = true) ∨ ∀ x ∈ l.drop ((k + 1) * n), q x = false

/-! ## Where the elements lie evenly -/

theorem window_eq (hw : n ≤ w) (k : Nat) (l : List α) :
    ∃ rest, page w (k * n) l = page n (k * n) l ++ rest ∧ rest ⊆ l.drop ((k + 1) * n) := by
  refine ⟨((l.drop (k * n)).drop n).take (w - n), ?_, ?_⟩
  · rw [page, page, ← List.take_add, Nat.add_sub_cancel' hw]
  · rw [List.drop_drop, ← Nat.succ_mul]
    exact List.take_subset _ _

/-- A page then shows what is of the kind in its own stretch. -/
theorem keptPage_of_evenly (hw : n ≤ w) (h : Evenly q n l) (k : Nat) :
    keptPage q n w k l = (page n (k * n) l).filter q := by
  obtain ⟨rest, hwindow, hrest⟩ := window_eq hw k l
  have hshort : (page n (k * n) l).length ≤ n := List.length_take_le _ _
  rw [keptPage, hwindow, List.filter_append]
  rcases h k with hall | hnone
  · rw [List.filter_eq_self.mpr hall]
    rcases Nat.lt_or_ge (page n (k * n) l).length n with hlt | hge
    · -- the list ends within the stretch
      have hend : l.length ≤ (k + 1) * n := by
        rw [page, List.length_take, List.length_drop] at hlt
        rw [Nat.add_mul, Nat.one_mul]
        omega
      have hnil : rest = [] := by
        rw [List.drop_of_length_le hend] at hrest
        exact List.subset_nil.mp hrest
      rw [hnil, List.filter_nil, List.append_nil, List.take_of_length_le hshort]
    · rw [List.take_append_of_le_length hge, List.take_of_length_le hshort]
  · have hnil : rest.filter q = [] :=
      List.filter_eq_nil_iff.mpr fun x hx => by
        rw [hnone x (hrest hx)]
        exact Bool.false_ne_true
    rw [hnil, List.append_nil, List.take_of_length_le]
    exact (List.length_filter_le _ _).trans hshort

theorem mem_some_page (hn : 0 < n) {x : α} (h : x ∈ l) : ∃ k, x ∈ page n (k * n) l := by
  have hall := flatMap_page_all (Nat.le_mul_of_pos_right l.length hn)
  rw [← hall] at h
  obtain ⟨k, -, hk⟩ := List.mem_flatMap.mp h
  exact ⟨k, hk⟩

theorem page_disjoint (hl : l.Nodup) {j k : Nat} (hjk : j < k) {x : α}
    (hj : x ∈ page n (j * n) l) (hk : x ∈ page n (k * n) l) : False := by
  have hle : j * n + n ≤ k * n := by
    rw [← Nat.succ_mul]
    exact Nat.mul_le_mul_right n hjk
  have hstretch : page n (j * n) l = (l.take (j * n + n)).drop (j * n) := by
    rw [List.drop_take, Nat.add_sub_cancel_left]
    rfl
  have hbefore : x ∈ l.take (k * n) := by
    rw [hstretch] at hj
    exact (List.take_subset_take_left l hle) (List.mem_of_mem_drop hj)
  have hafter : x ∈ l.drop (k * n) := List.mem_of_mem_take hk
  rw [← List.take_append_drop (k * n) l] at hl
  exact List.disjoint_of_nodup_append hl hbefore hafter

theorem visitedOnce_of_evenly (hn : 0 < n) (hw : n ≤ w) (hl : l.Nodup) (h : Evenly q n l) :
    VisitedOnce q n w l := by
  intro x hx hq
  obtain ⟨k, hk⟩ := mem_some_page hn hx
  refine ⟨k, ?_, ?_⟩
  · show x ∈ keptPage q n w k l
    rw [keptPage_of_evenly hw h]
    exact List.mem_filter.mpr ⟨hk, hq⟩
  · intro j hj
    rw [keptPage_of_evenly hw h] at hj
    have hj := List.mem_of_mem_filter hj
    rcases Nat.lt_trichotomy j k with hlt | heq | hlt
    · exact (page_disjoint hl hlt hj hk).elim
    · exact heq
    · exact (page_disjoint hl hlt hk hj).elim

theorem fullBefore_of_evenly (hw : n ≤ w) (h : Evenly q n l) : FullBefore q n w l := by
  intro j k hjk hk
  obtain ⟨x, hx⟩ := List.exists_mem_of_ne_nil _ hk
  rw [keptPage_of_evenly hw h] at hx
  rw [keptPage_of_evenly hw h]
  obtain ⟨hx, hq⟩ := List.mem_filter.mp hx
  have hle : (j + 1) * n ≤ k * n := Nat.mul_le_mul_right n hjk
  have hlater : x ∈ l.drop ((j + 1) * n) := by
    have hdrop := List.mem_of_mem_take hx
    rw [← Nat.add_sub_cancel' hle, ← List.drop_drop] at hdrop
    exact List.mem_of_mem_drop hdrop
  rcases h j with hall | hnone
  · have hlength := List.length_pos_of_mem hlater
    rw [List.length_drop, Nat.add_mul, Nat.one_mul] at hlength
    rw [List.filter_eq_self.mpr hall, page, List.length_take, List.length_drop]
    omega
  · rw [hnone x hlater] at hq
    cases hq

/-! ## Where they do not -/

/-- An element of the kind is on a page when fewer than a page of them come before it there. -/
theorem mem_keptPage {k : Nat} {a m r : List α} {x : α} (hl : l = a ++ (m ++ x :: r))
    (ha : a.length = k * n) (hm : m.length < w) (hcount : m.countP q < n) (hx : q x = true) :
    x ∈ keptPage q n w k l := by
  obtain ⟨w', rfl⟩ : ∃ w', w = m.length + (w' + 1) := ⟨w - m.length - 1, by omega⟩
  have hwindow : page (m.length + (w' + 1)) (k * n) l = m ++ x :: r.take w' := by
    rw [page, hl, ← ha, List.drop_left, List.take_length_add_append, List.take_succ_cons]
  rw [keptPage, hwindow, List.filter_append, List.filter_cons_of_pos hx]
  obtain ⟨n', hn'⟩ : ∃ n', n = (m.filter q).length + (n' + 1) := by
    rw [List.countP_eq_length_filter] at hcount
    exact ⟨n - (m.filter q).length - 1, by omega⟩
  rw [hn', List.take_length_add_append, List.take_succ_cons]
  exact List.mem_append_right _ List.mem_cons_self

/-- After a stretch that is not all of the kind, the first element of the kind is on the page of its
own stretch and on the one before. -/
theorem not_visitedOnce (hn : 0 < n) (hw : 2 * n ≤ w) (h : ¬ Evenly q n l) :
    ¬ VisitedOnce q n w l := by
  intro hvisited
  rw [Evenly] at h
  push Not at h
  obtain ⟨b, ⟨y, hy, hqy⟩, z, hz, hqz⟩ := h
  -- `x` is the first element of the kind after the stretch `b`
  obtain ⟨x, hfind⟩ : ∃ x, (l.drop ((b + 1) * n)).find? q = some x :=
    Option.isSome_iff_exists.mp
      (List.find?_isSome.mpr ⟨z, hz, by simpa using hqz⟩)
  obtain ⟨hx, m, r, hdrop, hnone⟩ := List.find?_eq_some_iff_append.mp hfind
  have hnot : m.countP q = 0 := List.countP_eq_zero.mpr fun c hc => by
    have := hnone c hc
    simpa using this
  have hl : l = l.take ((b + 1) * n) ++ (m ++ x :: r) := by
    rw [← hdrop, List.take_append_drop]
  have hlong : (l.take ((b + 1) * n)).length = (b + 1) * n := by
    have hpos := List.length_pos_of_mem hz
    rw [List.length_drop] at hpos
    rw [List.length_take]
    omega
  have hmem : x ∈ l := by
    rw [hl]
    exact List.mem_append_right _ (List.mem_append_right _ List.mem_cons_self)
  have hdiv := Nat.div_add_mod' m.length n
  have hmod := Nat.mod_lt m.length hn
  have hnone_drop (i : Nat) : (m.drop i).countP q = 0 := by
    have hsub := (List.drop_sublist i m).countP_le (p := q)
    omega
  -- on the page of its own stretch nothing of the kind comes before it
  have hown : x ∈ keptPage q n w (b + 1 + m.length / n) l := by
    refine mem_keptPage (a := l.take ((b + 1) * n) ++ m.take (m.length / n * n))
      (m := m.drop (m.length / n * n)) (r := r) ?_ ?_ ?_ ?_ hx
    · rw [List.append_assoc, ← List.append_assoc (m.take _), List.take_append_drop, ← hl]
    · rw [List.length_append, hlong, List.length_take, Nat.add_mul (b + 1)]
      omega
    · rw [List.length_drop]
      omega
    · rw [hnone_drop]
      exact hn
  have hbefore : x ∈ keptPage q n w (b + m.length / n) l := by
    cases hd : m.length / n with
    | zero =>
      -- the page before is that of the stretch `b`, where something is not of the kind
      rw [hd, Nat.zero_mul] at hdiv
      have htake : l.take ((b + 1) * n) = l.take (b * n) ++ page n (b * n) l := by
        rw [Nat.add_mul, Nat.one_mul, List.take_add]
        rfl
      have hstretch : (page n (b * n) l).length = n := by
        rw [Nat.add_mul, Nat.one_mul, List.length_take] at hlong
        rw [page, List.length_take, List.length_drop]
        omega
      have hcount : (page n (b * n) l).countP q < n := by
        have hlt := List.countP_lt_length_iff.mpr ⟨y, hy, by simpa using hqy⟩
        rwa [hstretch] at hlt
      refine mem_keptPage (a := l.take (b * n)) (m := page n (b * n) l ++ m) (r := r) ?_ ?_ ?_ ?_ hx
      · rw [List.append_assoc, ← List.append_assoc, ← htake, ← hl]
      · rw [Nat.add_mul, Nat.one_mul, List.length_take] at hlong
        rw [List.length_take, Nat.add_zero]
        omega
      · rw [List.length_append, hstretch]
        omega
      · rw [List.countP_append, hnot]
        exact hcount
    | succ d =>
      rw [hd, Nat.add_mul, Nat.one_mul] at hdiv
      refine mem_keptPage (a := l.take ((b + 1) * n) ++ m.take (d * n)) (m := m.drop (d * n))
        (r := r) ?_ ?_ ?_ ?_ hx
      · rw [List.append_assoc, ← List.append_assoc (m.take _), List.take_append_drop, ← hl]
      · rw [List.length_append, hlong, List.length_take, show b + (d + 1) = b + 1 + d by omega,
          Nat.add_mul (b + 1)]
        omega
      · rw [List.length_drop]
        omega
      · rw [hnone_drop]
        exact hn
  obtain ⟨k, -, hunique⟩ := hvisited x hmem hx
  have hsame := (hunique _ hown).trans (hunique _ hbefore).symm
  omega

theorem visitedOnce_iff (hn : 0 < n) (hw : 2 * n ≤ w) (hl : l.Nodup) :
    VisitedOnce q n w l ∧ FullBefore q n w l ↔ Evenly q n l := by
  constructor
  · rintro ⟨hvisited, -⟩
    by_contra h
    exact not_visitedOnce hn hw h hvisited
  · intro h
    exact ⟨visitedOnce_of_evenly hn (by omega) hl h, fullBefore_of_evenly (by omega) h⟩

end

end Rotas
