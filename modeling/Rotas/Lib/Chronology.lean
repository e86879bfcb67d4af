import Rotas.Lib.Table
import Mathlib.Data.List.Chain
import Mathlib.Data.List.Sort
import Mathlib.Data.Prod.Lex
import Mathlib.Order.RelIso.Basic

/-!
# Rotas.Lib.Chronology

Rows in the order of a key, as they are added one after the other.

* `chronological` — the rows by their key. Of rows with one key the oldest is last, as a
  descending `ORDER BY` gives it first.
* `chronological_append` — where one more row comes.
* `latest_eq_getLast?` — the row that a query picks by two columns is the last one.
* `climbed` — what a sequence of readings went up, and when that is all it moved.
-/

namespace Rotas

universe u v

variable {ρ : Type u} {κ : Type v} [LinearOrder κ] {key : ρ → κ}

def chronological (key : ρ → κ) (rows : List ρ) : List ρ :=
  rows.reverse.insertionSort fun a b => key a ≤ key b

section Chronological

variable {rows : List ρ} {x : ρ}

theorem perm_chronological (rows : List ρ) : (chronological key rows).Perm rows :=
  (List.perm_insertionSort _ _).trans rows.reverse_perm

theorem mem_chronological {r : ρ} : r ∈ chronological key rows ↔ r ∈ rows :=
  (perm_chronological rows).mem_iff

theorem pairwise_chronological (rows : List ρ) :
    (chronological key rows).Pairwise fun a b => key a ≤ key b := by
  have : IsTrans ρ fun a b => key a ≤ key b := ⟨fun _ _ _ => le_trans⟩
  have : Std.Total fun a b : ρ => key a ≤ key b := ⟨fun a b => le_total (key a) (key b)⟩
  exact List.pairwise_insertionSort _ _

theorem chronological_append (rows : List ρ) (x : ρ) :
    chronological key (rows ++ [x]) =
      (chronological key rows).takeWhile (key · < key x) ++
        x :: (chronological key rows).dropWhile (key · < key x) := by
  rw [chronological, List.reverse_append, List.reverse_singleton, List.singleton_append,
    List.insertionSort_cons_eq_take_drop]
  simp only [not_le]
  rfl

theorem chronological_map {g : ρ → ρ} (hg : ∀ r, key (g r) = key r) (rows : List ρ) :
    chronological key (rows.map g) = (chronological key rows).map g := by
  rw [chronological, ← List.map_reverse]
  refine (List.map_insertionSort _ _ g rows.reverse fun a _ b _ => ?_).symm
  rw [hg, hg]

theorem filter_orderedInsert {r : ρ → ρ → Prop} [DecidableRel r] [IsTrans ρ r] (q : ρ → Bool)
    (x : ρ) {l : List ρ} (hl : l.Pairwise r) : (l.orderedInsert r x).filter q =
      if q x then (l.filter q).orderedInsert r x else l.filter q := by
  induction l with
  | nil => cases hx : q x <;> simp [hx]
  | cons a l ih =>
    obtain ⟨ha, hl⟩ := List.pairwise_cons.mp hl
    rw [List.orderedInsert_cons]
    split
    · next hxa =>
      -- the row goes before all that pass, as it goes before all
      have hbefore : ∀ b ∈ (a :: l).filter q, r x b := by
        intro b hb
        rcases List.mem_cons.mp (List.mem_of_mem_filter hb) with rfl | hb
        · exact hxa
        · exact IsTrans.trans _ _ _ hxa (ha b hb)
      cases hx : q x with
      | false => simp [List.filter_cons, hx]
      | true =>
        rw [if_pos rfl, List.filter_cons_of_pos hx]
        cases hfilter : (a :: l).filter q with
        | nil => rfl
        | cons b m =>
          rw [List.orderedInsert_cons, if_pos]
          exact hbefore b (hfilter ▸ List.mem_cons_self)
    · next hxa =>
      cases hqa : q a with
      | false =>
        have hskip : ¬ q a = true := by simp [hqa]
        rw [List.filter_cons_of_neg hskip, List.filter_cons_of_neg hskip, ih hl]
      | true =>
        rw [List.filter_cons_of_pos hqa, List.filter_cons_of_pos hqa, ih hl]
        split
        · rw [List.orderedInsert_cons, if_neg hxa]
        · rfl

/-- A row that is added goes before those whose key is not smaller. -/
theorem chronological_insert (rows : List ρ) (x : ρ) : chronological key (rows ++ [x]) =
    (chronological key rows).orderedInsert (fun a b => key a ≤ key b) x := by
  rw [chronological, List.reverse_append]
  rfl

theorem chronological_filter (q : ρ → Bool) (rows : List ρ) :
    chronological key (rows.filter q) = (chronological key rows).filter q := by
  have : IsTrans ρ fun a b => key a ≤ key b := ⟨fun _ _ _ => le_trans⟩
  induction rows using List.reverseRecOn with
  | nil => rfl
  | append_singleton rows x ih =>
    rw [chronological_insert, filter_orderedInsert q x (pairwise_chronological rows), ← ih,
      List.filter_append]
    cases hx : q x with
    | false => simp [hx]
    | true => rw [if_pos rfl, List.filter_singleton, hx, cond_true, chronological_insert]

theorem getLast?_orderedInsert {l : List ρ} (hl : l.Pairwise fun a b => key a ≤ key b) (x : ρ) :
    (l.orderedInsert (fun a b => key a ≤ key b) x).getLast? =
      match l.getLast? with
      | none => some x
      | some last => if key x ≤ key last then some last else some x := by
  induction l with
  | nil => rfl
  | cons a l ih =>
    obtain ⟨ha, hl⟩ := List.pairwise_cons.mp hl
    rw [List.orderedInsert_cons]
    split
    · next hxa =>
      rw [List.getLast?_cons_cons]
      cases hlast : (a :: l).getLast? with
      | none => cases (List.getLast?_eq_none_iff.mp hlast)
      | some last =>
        have hle : key x ≤ key last := by
          rcases List.mem_cons.mp (List.mem_of_getLast? hlast) with rfl | hmem
          · exact hxa
          · exact hxa.trans (ha last hmem)
        exact (if_pos hle).symm
    · next hxa =>
      rw [List.getLast?_cons, List.getLast?_cons, ih hl]
      cases l.getLast? with
      | none => exact (if_neg hxa).symm
      | some last =>
        dsimp only [Option.getD_some]
        split <;> rfl

/-- No row from the first one on that is not before a place is before it. -/
theorem le_of_mem_dropWhile {k : κ} {l : List ρ} (hl : l.Pairwise fun a b => key a ≤ key b) :
    ∀ r ∈ l.dropWhile (key · < k), k ≤ key r := by
  induction l with
  | nil => intro r hr; cases hr
  | cons a l ih =>
    intro r hr
    obtain ⟨ha, hl⟩ := List.pairwise_cons.mp hl
    by_cases hlt : key a < k
    · rw [List.dropWhile_cons_of_pos (by simpa using hlt)] at hr
      exact ih hl r hr
    · rw [List.dropWhile_cons_of_neg (by simpa using hlt)] at hr
      rcases List.mem_cons.mp hr with rfl | hr
      · exact not_lt.mp hlt
      · exact (not_lt.mp hlt).trans (ha r hr)

theorem le_of_getLast? {β : Type v} [Preorder β] {f : ρ → β} {l : List ρ} {last r : ρ}
    (hl : l.Pairwise fun a b => f a ≤ f b) (hlast : l.getLast? = some last) (hr : r ∈ l) :
    f r ≤ f last := by
  obtain ⟨front, rfl⟩ := List.getLast?_eq_some_iff.mp hlast
  rcases List.mem_append.mp hr with hr | hr
  · exact (List.pairwise_append.mp hl).2.2 r hr last (List.mem_singleton.mpr rfl)
  · rw [List.mem_singleton.mp hr]

theorem isChain_and {R S : ρ → ρ → Prop} {l : List ρ} :
    l.IsChain (fun a b => R a b ∧ S a b) ↔ l.IsChain R ∧ l.IsChain S := by
  induction l with
  | nil => simp
  | cons a l ih =>
    rw [List.isChain_cons, List.isChain_cons, List.isChain_cons, ih]
    constructor
    · rintro ⟨hhead, hR, hS⟩
      exact ⟨⟨fun b hb => (hhead b hb).1, hR⟩, fun b hb => (hhead b hb).2, hS⟩
    · rintro ⟨⟨hheadR, hR⟩, hheadS, hS⟩
      exact ⟨fun b hb => ⟨hheadR b hb, hheadS b hb⟩, hR, hS⟩

/-! ## The row that a query picks -/

theorem latestBy_append {f : ρ → Int} (rows : List ρ) (x : ρ) : latestBy f (rows ++ [x]) =
    match latestBy f rows with
    | none => some x
    | some last => if f x ≤ f last then some last else some x := by
  induction rows with
  | nil => rfl
  | cons a rows ih =>
    rw [List.cons_append, latestBy, ih, latestBy]
    cases latestBy f rows with
    | none => rfl
    | some last =>
      by_cases hx : f x ≤ f last <;> by_cases ha : f last ≤ f a <;>
        by_cases hxa : f x ≤ f a <;> simp [hx, ha, hxa] <;> omega

theorem latestBy_eq_none {f : ρ → Int} {rows : List ρ} : latestBy f rows = none ↔ rows = [] := by
  rw [← Option.not_isSome_iff_eq_none, latestBy_isSome, not_not]

theorem latestBy_max {f : ρ → Int} {rows : List ρ} {last : ρ} (h : latestBy f rows = some last) :
    ∀ r ∈ rows, f r ≤ f last := by
  induction rows generalizing last with
  | nil => cases h
  | cons a rows ih =>
    intro r hr
    rw [latestBy] at h
    cases hrest : latestBy f rows with
    | none =>
      rw [hrest] at h
      cases h
      rw [latestBy_eq_none.mp hrest, List.mem_singleton] at hr
      exact le_of_eq (congrArg f hr)
    | some b =>
      rw [hrest] at h
      have hb := ih hrest
      rcases List.mem_cons.mp hr with rfl | hr
      · dsimp only at h
        split at h <;> cases h <;> omega
      · have := hb r hr
        dsimp only at h
        split at h <;> cases h <;> omega

theorem latest_eq_getLast? (f g : ρ → Int) (rows : List ρ) :
    ((latestBy f rows).bind fun last => latestBy g (rows.filter (f · = f last))) =
      (chronological (fun r => toLex (f r, g r)) rows).getLast? := by
  induction rows using List.reverseRecOn with
  | nil => rfl
  | append_singleton rows x ih =>
    rw [chronological_insert, getLast?_orderedInsert (pairwise_chronological rows), ← ih,
      latestBy_append]
    cases hlast : latestBy f rows with
    | none =>
      have hnil : rows = [] := latestBy_eq_none.mp hlast
      simp [hnil, latestBy]
    | some last =>
      have hmax := latestBy_max hlast
      -- among the rows of the last `f`, one is picked by `g`
      obtain ⟨pick, hpick⟩ : ∃ pick, latestBy g (rows.filter (f · = f last)) = some pick := by
        rw [← Option.isSome_iff_exists, latestBy_isSome]
        exact List.ne_nil_of_mem (List.mem_filter.mpr ⟨latestBy_mem hlast, by simp⟩)
      have hf : f pick = f last := by simpa using (List.mem_filter.mp (latestBy_mem hpick)).2
      simp only [Option.bind_some, hpick, Prod.Lex.toLex_le_toLex, hf]
      rcases lt_trichotomy (f x) (f last) with hlt | heq | hgt
      · rw [if_pos hlt.le, if_pos (.inl hlt), Option.bind_some, List.filter_append]
        simp [hlt.ne, hpick]
      · rw [if_pos heq.le, Option.bind_some, List.filter_append]
        simp [heq, latestBy_append, hpick]
      · rw [if_neg (not_le.mpr hgt), Option.bind_some, List.filter_append,
          List.filter_eq_nil_iff.mpr fun r hr => by simpa using ((hmax r hr).trans_lt hgt).ne]
        simp [latestBy, hgt.not_gt, hgt.ne']

end Chronological

/-! ## Readings -/

/-- What a sequence of readings went up, from one to the next. -/
def climbed : List Int → Int
  | a :: b :: rs => max 0 (b - a) + climbed (b :: rs)
  | _ => 0

/-- The last reading less the first. -/
def extent (rs : List Int) : Int := rs.getLast?.getD 0 - rs.head?.getD 0

theorem extent_cons_cons (a b : Int) (rs : List Int) :
    extent (a :: b :: rs) = b - a + extent (b :: rs) := by
  simp only [extent, List.getLast?_cons_cons, List.head?_cons, Option.getD_some]
  omega

theorem extent_le_climbed (rs : List Int) : extent rs ≤ climbed rs := by
  induction rs with
  | nil => simp [extent, climbed]
  | cons a rs ih =>
    cases rs with
    | nil => simp [extent, climbed]
    | cons b rs =>
      rw [extent_cons_cons, climbed]
      omega

/-- Readings that never went down have gone up by the last less the first, and no others have. -/
theorem climbed_eq_extent_iff {rs : List Int} : climbed rs = extent rs ↔ rs.IsChain (· ≤ ·) := by
  induction rs with
  | nil => simp [extent, climbed]
  | cons a rs ih =>
    cases rs with
    | nil => simp [extent, climbed]
    | cons b rs =>
      have hle := extent_le_climbed (b :: rs)
      rw [List.isChain_cons_cons, ← ih, extent_cons_cons, climbed]
      omega

end Rotas
