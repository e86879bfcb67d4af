import Mathlib.Data.List.Sort
import Mathlib.Order.Basic

/-!
# Rotas.Lib.Keyset

Reading rows page by page, where a page begins below the key of the last row of the page before.

* `OrderBy key`    — an order of the rows, by descending key.
* `Pages o n rows` — the pages of at most `n` rows that `rows` are read in.
* `Unsplit n ks`   — no page ends between two rows of one key.
* `Pages.length_flatten` — the pages hold as many rows as there are exactly when none is split so;
  they are in order in any case, and no row comes twice.
-/

namespace Rotas

universe u v

variable {α : Type u} {κ : Type v} [LinearOrder κ] {key : α → κ}

/-- `ORDER BY key DESC`. Which of two rows of one key comes first is not said. -/
structure OrderBy (key : α → κ) where
  sort : List α → List α
  perm : ∀ rows, (sort rows).Perm rows
  sorted : ∀ rows, (sort rows).Pairwise fun a b => key b ≤ key a

namespace OrderBy

/-- The rows of one key stay as they come. -/
def stable (key : α → κ) : OrderBy key where
  sort rows := rows.mergeSort fun a b => key b ≤ key a
  perm rows := List.mergeSort_perm rows _
  sorted rows := by
    have htrans : ∀ a b c : α, decide (key b ≤ key a) = true → decide (key c ≤ key b) = true →
        decide (key c ≤ key a) = true := by
      intro a b c hab hbc
      simp only [decide_eq_true_eq] at *
      exact hbc.trans hab
    have htotal : ∀ a b : α, (decide (key b ≤ key a) || decide (key a ≤ key b)) = true := by
      intro a b
      simpa using le_total (key b) (key a)
    exact (List.pairwise_mergeSort htrans htotal rows).imp fun h => of_decide_eq_true h

variable {n : Nat} {x : α} {l rows : List α}

theorem length_sort (o : OrderBy key) : (o.sort rows).length = rows.length :=
  (o.perm rows).length_eq

theorem mem_sort (o : OrderBy key) : x ∈ o.sort rows ↔ x ∈ rows := (o.perm rows).mem_iff

theorem map_key_sort (o : OrderBy key) (hperm : l.Perm rows)
    (hsorted : l.Pairwise fun a b => key b ≤ key a) : (o.sort rows).map key = l.map key := by
  have hkeys : ((o.sort rows).map key).Perm (l.map key) :=
    ((o.perm rows).trans hperm.symm).map key
  have hdown : ((o.sort rows).map key).Pairwise fun a b => b ≤ a :=
    List.pairwise_map.mpr (o.sorted rows)
  have hdown' : (l.map key).Pairwise fun a b => b ≤ a := List.pairwise_map.mpr hsorted
  refine hkeys.eq_of_pairwise ?_ hdown hdown'
  intro a b _ _ hab hba
  exact le_antisymm hba hab

end OrderBy

/-- The rows below `x`. -/
def rowsBelow (key : α → κ) (x : α) (rows : List α) : List α := rows.filter fun r => key r < key x

inductive Pages (o : OrderBy key) (n : Nat) : List α → List (List α) → Prop where
  | last {rows} : rows.length ≤ n → Pages o n rows [o.sort rows]
  | more {rows x pages} : n < rows.length → ((o.sort rows).take n).getLast? = some x →
      Pages o n (rowsBelow key x rows) pages → Pages o n rows ((o.sort rows).take n :: pages)

/-- Pages of `n` rows end between different keys only. -/
def Unsplit (n : Nat) (ks : List κ) : Prop :=
  ∀ k, 0 < k → ∀ a b, ks[k * n - 1]? = some a → ks[k * n]? = some b → a ≠ b

section Unsplit

variable {n : Nat} {ks : List κ}

omit [LinearOrder κ] in
theorem Unsplit.of_length_le (h : ks.length ≤ n) : Unsplit n ks := by
  intro k hk a b _ hb
  obtain ⟨hlt, _⟩ := List.getElem?_eq_some_iff.mp hb
  have := Nat.le_mul_of_pos_left n hk
  omega

omit [LinearOrder κ] in
theorem unsplit_iff_drop (hn : 0 < n) {a b : κ} (ha : ks[n - 1]? = some a)
    (hb : ks[n]? = some b) : Unsplit n ks ↔ a ≠ b ∧ Unsplit n (ks.drop n) := by
  have hbefore : ∀ k, 0 < k → n + (k * n - 1) = (k + 1) * n - 1 := by
    intro k hk
    have := Nat.le_mul_of_pos_left n hk
    rw [Nat.succ_mul]
    omega
  have hafter : ∀ k, n + k * n = (k + 1) * n := by
    intro k
    rw [Nat.succ_mul, Nat.add_comm]
  constructor
  · intro h
    refine ⟨h 1 Nat.one_pos a b (by simpa using ha) (by simpa using hb), ?_⟩
    intro k hk a' b' ha' hb'
    rw [List.getElem?_drop] at ha' hb'
    exact h (k + 1) k.succ_pos a' b' (hbefore k hk ▸ ha') (hafter k ▸ hb')
  · rintro ⟨hne, h⟩ k hk a' b' ha' hb'
    obtain _ | _ | k := k
    · exact absurd hk (Nat.lt_irrefl 0)
    · simp only [Nat.zero_add, Nat.one_mul] at ha' hb'
      cases ha.symm.trans ha'
      cases hb.symm.trans hb'
      exact hne
    · refine h (k + 1) k.succ_pos a' b' ?_ ?_
      · rw [List.getElem?_drop, hbefore (k + 1) k.succ_pos]
        exact ha'
      · rw [List.getElem?_drop, hafter (k + 1)]
        exact hb'

end Unsplit

/-! ## What lies below the last row of a page -/

section Below

variable {n : Nat} {x : α} {l rows : List α}

theorem mem_below {r : α} : r ∈ rowsBelow key x rows ↔ r ∈ rows ∧ key r < key x := by
  simp [rowsBelow]

theorem below_perm (h : l.Perm rows) : (rowsBelow key x l).Perm (rowsBelow key x rows) := h.filter _

theorem below_take (hl : l.Pairwise fun a b => key b ≤ key a)
    (hx : (l.take n).getLast? = some x) : rowsBelow key x (l.take n) = [] := by
  refine List.filter_eq_nil_iff.mpr fun r hr => ?_
  obtain ⟨init, hinit⟩ := List.getLast?_eq_some_iff.mp hx
  have htake := hl.sublist (List.take_sublist n l)
  rw [hinit] at htake hr
  obtain hr | hr := List.mem_append.mp hr
  · have hle := (List.pairwise_append.mp htake).2.2 r hr x List.mem_cons_self
    simpa using hle
  · rw [List.mem_singleton.mp hr]
    simp

theorem below_eq_drop (hl : l.Pairwise fun a b => key b ≤ key a)
    (hx : (l.take n).getLast? = some x) : rowsBelow key x l = rowsBelow key x (l.drop n) := by
  conv_lhs => rw [← List.take_append_drop n l]
  rw [rowsBelow, List.filter_append, ← rowsBelow, ← rowsBelow, below_take hl hx, List.nil_append]

variable {y : α}

/-- All rows after the page are below its last row if the next one is. -/
theorem below_eq_of_lt (hl : l.Pairwise fun a b => key b ≤ key a)
    (hx : (l.take n).getLast? = some x) (hy : l[n]? = some y) (hlt : key y < key x) :
    rowsBelow key x l = l.drop n := by
  rw [below_eq_drop hl hx]
  refine List.filter_eq_self.mpr fun r hr => ?_
  have hdrop := hl.sublist (List.drop_sublist n l)
  obtain ⟨hn, rfl⟩ := List.getElem?_eq_some_iff.mp hy
  rw [List.drop_eq_getElem_cons hn] at hdrop hr
  obtain rfl | hr := List.mem_cons.mp hr
  · simpa using hlt
  · have hle := (List.pairwise_cons.mp hdrop).1 r hr
    simpa using lt_of_le_of_lt hle hlt

/-- A row after the page that is not below its last row is left out. -/
theorem length_below_lt (hl : l.Pairwise fun a b => key b ≤ key a)
    (hx : (l.take n).getLast? = some x) (hy : l[n]? = some y) (hnlt : ¬key y < key x) :
    (rowsBelow key x l).length < l.length - n := by
  rw [below_eq_drop hl hx, ← List.length_drop]
  obtain ⟨hn, rfl⟩ := List.getElem?_eq_some_iff.mp hy
  refine List.length_filter_lt_length_iff_exists.mpr ⟨l[n], ?_, by simpa using hnlt⟩
  rw [List.drop_eq_getElem_cons hn]
  exact List.mem_cons_self

theorem length_below_lt_of_mem (key : α → κ) (h : x ∈ rows) :
    (rowsBelow key x rows).length < rows.length :=
  List.length_filter_lt_length_iff_exists.mpr ⟨x, h, by simp⟩

end Below

/-! ## The pages -/

namespace Pages

variable {o : OrderBy key} {n : Nat} {x : α} {rows : List α} {pages : List (List α)}

theorem mem_of_getLast? (hx : ((o.sort rows).take n).getLast? = some x) : x ∈ rows :=
  o.mem_sort.mp (List.mem_of_mem_take (List.mem_of_getLast? hx))

theorem exists_pages (o : OrderBy key) (hn : 0 < n) (rows : List α) :
    ∃ pages, Pages o n rows pages := by
  induction hlen : rows.length using Nat.strong_induction_on generalizing rows with
  | _ len ih =>
    by_cases hle : rows.length ≤ n
    · exact ⟨_, .last hle⟩
    · have hlt : n < rows.length := Nat.lt_of_not_le hle
      have hne : (o.sort rows).take n ≠ [] := by
        intro h
        have hlength := congrArg List.length h
        rw [List.length_take, o.length_sort, List.length_nil] at hlength
        omega
      have hx := List.getLast?_eq_some_getLast hne
      have hfewer := length_below_lt_of_mem key (mem_of_getLast? hx)
      obtain ⟨pages, hpages⟩ := ih _ (hlen ▸ hfewer) _ rfl
      exact ⟨_, .more hlt hx hpages⟩

theorem subperm (h : Pages o n rows pages) : pages.flatten.Subperm rows := by
  induction h with
  | @last rows _ =>
    rw [List.flatten_singleton]
    exact (o.perm rows).subperm
  | @more rows x pages _ hx _ ih =>
    have hsorted : (rowsBelow key x rows).Perm (rowsBelow key x ((o.sort rows).drop n)) := by
      rw [← below_eq_drop (o.sorted rows) hx]
      exact below_perm (o.perm rows).symm
    have hrest : pages.flatten.Subperm ((o.sort rows).drop n) :=
      ih.trans (hsorted.subperm.trans (List.filter_sublist).subperm)
    have hall : ((o.sort rows).take n ++ pages.flatten).Subperm (o.sort rows) := by
      conv_rhs => rw [← List.take_append_drop n (o.sort rows)]
      exact (List.subperm_append_left _).mpr hrest
    rw [List.flatten_cons]
    exact hall.trans (o.perm rows).subperm

theorem sorted (h : Pages o n rows pages) : pages.flatten.Pairwise fun a b => key b ≤ key a := by
  induction h with
  | @last rows _ =>
    rw [List.flatten_singleton]
    exact o.sorted rows
  | @more rows x pages _ hx hpages ih =>
    rw [List.flatten_cons]
    refine List.pairwise_append.mpr
      ⟨(o.sorted rows).sublist (List.take_sublist n _), ih, fun a ha b hb => ?_⟩
    -- The rows of the later pages are below the last row of this one.
    have hb' : key b < key x := (mem_below.mp (hpages.subperm.subset hb)).2
    have ha' : ¬key a < key x := by
      intro hlt
      have hmem : a ∈ rowsBelow key x ((o.sort rows).take n) := mem_below.mpr ⟨ha, hlt⟩
      rw [below_take (o.sorted rows) hx] at hmem
      cases hmem
    exact hb'.le.trans (not_lt.mp ha')

/-- The pages hold every row exactly when none ends between two rows of one key. -/
theorem length_flatten (hn : 0 < n) (h : Pages o n rows pages) :
    pages.flatten.length = rows.length ↔ Unsplit n ((o.sort rows).map key) := by
  induction h with
  | @last rows hle =>
    rw [List.flatten_singleton, o.length_sort]
    refine iff_of_true rfl (.of_length_le ?_)
    rw [List.length_map, o.length_sort]
    exact hle
  | @more rows x pages hlt hx hpages ih =>
    have hlen : (o.sort rows).length = rows.length := o.length_sort
    have hsorted := o.sorted rows
    obtain ⟨y, hy⟩ : ∃ y, (o.sort rows)[n]? = some y :=
      ⟨_, List.getElem?_eq_getElem (by omega)⟩
    have hx' : (o.sort rows)[n - 1]? = some x := by
      have hlast := hx
      rw [List.getLast?_take, if_neg (Nat.pos_iff_ne_zero.mp hn)] at hlast
      rw [List.getElem?_eq_getElem (by omega)] at hlast ⊢
      simpa using hlast
    have hkx : ((o.sort rows).map key)[n - 1]? = some (key x) := by
      rw [List.getElem?_map, hx', Option.map_some]
    have hky : ((o.sort rows).map key)[n]? = some (key y) := by
      rw [List.getElem?_map, hy, Option.map_some]
    have hsplit := unsplit_iff_drop hn hkx hky
    have hperm : (rowsBelow key x (o.sort rows)).Perm (rowsBelow key x rows) :=
      below_perm (o.perm rows)
    have hheld := hpages.subperm.length_le
    rw [List.flatten_cons, List.length_append, List.length_take, hsplit]
    by_cases hkey : key y < key x
    · have hrest := below_eq_of_lt hsorted hx hy hkey
      have hkeys : (o.sort (rowsBelow key x rows)).map key = ((o.sort rows).map key).drop n := by
        rw [← List.map_drop, ← hrest]
        exact o.map_key_sort hperm (hsorted.sublist List.filter_sublist)
      have hcount : (rowsBelow key x rows).length = rows.length - n := by
        rw [← hperm.length_eq, hrest, List.length_drop, hlen]
      rw [hkeys] at ih
      rw [← ih, and_iff_right hkey.ne']
      omega
    · have hfewer := length_below_lt hsorted hx hy hkey
      rw [hperm.length_eq] at hfewer
      have hsame : key x = key y := by
        refine le_antisymm (not_lt.mp hkey) ?_
        obtain ⟨hn₁, hx''⟩ := List.getElem?_eq_some_iff.mp hx'
        obtain ⟨hn₂, hy'⟩ := List.getElem?_eq_some_iff.mp hy
        rw [← hx'', ← hy']
        exact List.pairwise_iff_getElem.mp hsorted _ _ hn₁ hn₂ (by omega)
      refine iff_of_false ?_ (fun hne => hne.1 hsame)
      omega

theorem perm (hn : 0 < n) (h : Pages o n rows pages)
    (hunsplit : Unsplit n ((o.sort rows).map key)) : pages.flatten.Perm rows :=
  h.subperm.perm_of_length_le ((h.length_flatten hn).mpr hunsplit).ge

end Pages
end Rotas
