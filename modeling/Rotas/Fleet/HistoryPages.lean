import Rotas.Fleet.History

/-!
# Rotas.Fleet.HistoryPages

Reading the history of a vehicle from its first page to its last.

* `Walk`     — the pages from a cursor on, each asked for with the `next_cursor` of the one before.
* `Listed`   — the pages hold the events that match, each once and in descending order.
* `Counted`  — every page counts the events that match.
* `walk_of_pages` — the walk gives the pages the events are read in (`Pages`).

The events are listed unless a page ends between two of one date and one id. A second page no
longer counts those of the first, so all pages count right only where there is one.
-/

namespace Rotas.History

inductive Walk (order : OrderBy Event.key) (q : HistoryQuery) (db : HistoryDb) :
    Option String → List HistoryPage → Prop where
  | last {cursor page} : getVehicleHistory order q cursor db = .ok page →
      page.nextCursor = none → Walk order q db cursor [page]
  | more {cursor page next pages} : getVehicleHistory order q cursor db = .ok page →
      page.nextCursor = some next → Walk order q db (some next) pages →
      Walk order q db cursor (page :: pages)

def Listed (q : HistoryQuery) (db : HistoryDb) (pages : List HistoryPage) : Prop :=
  ∃ rows : List Event, rows.Perm (q.matching db) ∧ rows.Pairwise (fun e e' => e'.key ≤ e.key) ∧
    pages.flatMap (·.events) = rows.map Event.out

def Counted (q : HistoryQuery) (db : HistoryDb) (pages : List HistoryPage) : Prop :=
  ∀ page ∈ pages, page.totalCount = (q.matching db).length

/-- The events beyond a cursor. -/
def HistoryQuery.remaining (q : HistoryQuery) (db : HistoryDb) (cursor : Option String) :
    List Event :=
  (q.matching db).filter (beyond (decodeCursor cursor))

variable {order : OrderBy Event.key} {q : HistoryQuery} {db : HistoryDb}
  {cursor : Option String} {pages pages' : List HistoryPage}

theorem remaining_none : q.remaining db none = q.matching db := List.filter_true _

theorem remaining_encodeCursor {e : Event} (he : e ∈ q.remaining db cursor) :
    q.remaining db (some (encodeCursor e)) = rowsBelow Event.key e (q.remaining db cursor) := by
  have hbeyond : beyond (decodeCursor cursor) e = true := (List.mem_filter.mp he).2
  unfold HistoryQuery.remaining rowsBelow
  rw [decodeCursor_encodeCursor, List.filter_filter]
  refine List.filter_congr fun e' _ => ?_
  cases hcursor : decodeCursor cursor with
  | none => simp [beyond]
  | some k =>
    rw [hcursor] at hbeyond
    simp only [beyond, Option.all_some, decide_eq_true_eq] at hbeyond ⊢
    by_cases hlt : e'.key < e.key
    · simp [hlt, hlt.trans hbeyond]
    · simp [hlt]

/-! ## One step of a walk -/

theorem history_eq (h : .checklist ∉ activeTypes q.types) :
    getVehicleHistory order q cursor db =
      .ok (historyPage order q.limit (q.remaining db cursor)) :=
  getVehicleHistory_eq h

section Step

variable (hactive : .checklist ∉ activeTypes q.types)
include hactive

theorem walk_last (hle : (q.remaining db cursor).length ≤ q.limit) :
    Walk order q db cursor pages ↔
      pages = [historyPage order q.limit (q.remaining db cursor)] := by
  have hnone : (historyPage order q.limit (q.remaining db cursor)).nextCursor = none :=
    if_neg (Nat.not_lt.mpr hle)
  constructor
  · intro h
    cases h with
    | last hget _ =>
      rw [history_eq hactive] at hget
      cases hget
      rfl
    | more hget hsome _ =>
      rw [history_eq hactive] at hget
      cases hget
      rw [hnone] at hsome
      cases hsome
  · rintro rfl
    exact .last (history_eq hactive) hnone

theorem walk_more {e : Event} (hlt : q.limit < (q.remaining db cursor).length)
    (he : ((order.sort (q.remaining db cursor)).take q.limit).getLast? = some e) :
    Walk order q db cursor pages ↔
      ∃ rest, pages = historyPage order q.limit (q.remaining db cursor) :: rest ∧
        Walk order q db (some (encodeCursor e)) rest := by
  have hnext : (historyPage order q.limit (q.remaining db cursor)).nextCursor =
      some (encodeCursor e) := by
    simp only [historyPage, if_pos hlt, he, Option.map_some]
  constructor
  · intro h
    cases h with
    | last hget hnone =>
      rw [history_eq hactive] at hget
      cases hget
      rw [hnext] at hnone
      cases hnone
    | more hget hsome hrest =>
      rw [history_eq hactive] at hget
      cases hget
      rw [hnext] at hsome
      obtain rfl := Option.some.inj hsome
      exact ⟨_, rfl, hrest⟩
  · rintro ⟨rest, rfl, hrest⟩
    exact .more (history_eq hactive) hnext hrest

theorem walk_of_pages {rows : List Event} {read : List (List Event)}
    (h : Pages order q.limit rows read) (hrows : q.remaining db cursor = rows) :
    (∃ pages, Walk order q db cursor pages) ∧ ∀ pages, Walk order q db cursor pages →
      pages.map (·.events) = read.map (·.map Event.out) := by
  induction h generalizing cursor with
  | last hle =>
    subst hrows
    have hall : (order.sort (q.remaining db cursor)).take q.limit =
        order.sort (q.remaining db cursor) :=
      List.take_of_length_le (order.length_sort.trans_le hle)
    refine ⟨⟨_, (walk_last hactive hle).mpr rfl⟩, fun pages hwalk => ?_⟩
    rw [(walk_last hactive hle).mp hwalk]
    simp only [historyPage, hall, List.map_cons, List.map_nil]
  | @more _ e _ hlt he _ ih =>
    subst hrows
    obtain ⟨⟨rest, hrest⟩, hevents⟩ := ih (remaining_encodeCursor (Pages.mem_of_getLast? he))
    refine ⟨⟨_, (walk_more hactive hlt he).mpr ⟨rest, rfl, hrest⟩⟩, fun pages hwalk => ?_⟩
    obtain ⟨rest', rfl, hrest'⟩ := (walk_more hactive hlt he).mp hwalk
    rw [List.map_cons, List.map_cons, hevents rest' hrest']
    rfl

end Step

/-! ## Whole walks -/

namespace Walk

theorem notMem_checklist (h : Walk order q db cursor pages) :
    .checklist ∉ activeTypes q.types := by
  intro hactive
  cases h with
  | last hget _ =>
    rw [getVehicleHistory_eq_error hactive] at hget
    cases hget
  | more hget _ _ =>
    rw [getVehicleHistory_eq_error hactive] at hget
    cases hget

/-- The first page counts the events beyond the cursor it was asked for with. -/
theorem exists_first (h : Walk order q db cursor pages) :
    ∃ page ∈ pages, page.totalCount = (q.remaining db cursor).length := by
  have hactive := h.notMem_checklist
  cases h with
  | last hget _ =>
    rw [history_eq hactive] at hget
    cases hget
    exact ⟨_, List.mem_cons_self, rfl⟩
  | more hget _ _ =>
    rw [history_eq hactive] at hget
    cases hget
    exact ⟨_, List.mem_cons_self, rfl⟩

theorem listed_iff (hlimit : 0 < q.limit) (h : Walk order q db none pages) :
    Listed q db pages ↔ Unsplit q.limit ((order.sort (q.matching db)).map Event.key) := by
  obtain ⟨read, hread⟩ := Pages.exists_pages order hlimit (q.matching db)
  have hevents := (walk_of_pages h.notMem_checklist hread remaining_none).2 pages h
  have hflat : pages.flatMap (·.events) = read.flatten.map Event.out := by
    rw [List.flatMap_def, hevents, List.map_flatten]
  constructor
  · rintro ⟨rows, hperm, _, hrows⟩
    have hlength := congrArg List.length (hflat.symm.trans hrows)
    rw [List.length_map, List.length_map, hperm.length_eq] at hlength
    exact (hread.length_flatten hlimit).mp hlength
  · intro hunsplit
    exact ⟨read.flatten, hread.perm hlimit hunsplit, hread.sorted, hflat⟩

theorem counted_iff (hlimit : 0 < q.limit) (h : Walk order q db none pages) :
    Counted q db pages ↔ (q.matching db).length ≤ q.limit := by
  have hactive := h.notMem_checklist
  have hnone : q.remaining db none = q.matching db := remaining_none
  obtain ⟨read, hread⟩ := Pages.exists_pages order hlimit (q.matching db)
  cases hread with
  | last hle =>
    refine iff_of_true (fun page hpage => ?_) hle
    rw [(walk_last hactive (hnone.symm ▸ hle)).mp h, List.mem_singleton] at hpage
    rw [hpage, hnone]
    rfl
  | @more _ e _ hlt he _ =>
    refine iff_of_false (fun hcounted => ?_) (Nat.not_le.mpr hlt)
    -- The second page counts the events below the last one of the first page.
    obtain ⟨rest, rfl, hrest⟩ := (walk_more hactive (hnone.symm ▸ hlt) (hnone.symm ▸ he)).mp h
    obtain ⟨page, hpage, hcount⟩ := hrest.exists_first
    have hmem : e ∈ q.matching db := Pages.mem_of_getLast? he
    have hfewer := length_below_lt_of_mem Event.key hmem
    rw [remaining_encodeCursor (hnone.symm ▸ hmem), hnone] at hcount
    exact absurd (hcount.symm.trans (hcounted page (List.mem_cons_of_mem _ hpage))) hfewer.ne

end Walk

theorem exists_walk (order : OrderBy Event.key) (hlimit : 0 < q.limit) (hactive : .checklist ∉ activeTypes q.types) :
    ∃ pages, Walk order q db none pages := by
  obtain ⟨read, hread⟩ := Pages.exists_pages order hlimit (q.matching db)
  exact (walk_of_pages hactive hread remaining_none).1

/-- Without the checklists, the walk ends and lists every event that matches once and in order
exactly when no page ends between two events of one date and one id. All its pages count the events
that match exactly when one page takes them all. -/
theorem history_paged (hlimit : 0 < q.limit) :
    ((∃ pages, Walk order q db none pages ∧ Listed q db pages) ↔
      .checklist ∉ activeTypes q.types ∧
        Unsplit q.limit ((order.sort (q.matching db)).map Event.key)) ∧
    ((∃ pages, Walk order q db none pages ∧ Listed q db pages ∧ Counted q db pages) ↔
      .checklist ∉ activeTypes q.types ∧ (q.matching db).length ≤ q.limit) := by
  refine ⟨⟨?_, ?_⟩, ?_, ?_⟩
  · rintro ⟨pages, hwalk, hlisted⟩
    exact ⟨hwalk.notMem_checklist, (hwalk.listed_iff hlimit).mp hlisted⟩
  · rintro ⟨hactive, hunsplit⟩
    obtain ⟨pages, hwalk⟩ := exists_walk order hlimit hactive
    exact ⟨pages, hwalk, (hwalk.listed_iff hlimit).mpr hunsplit⟩
  · rintro ⟨pages, hwalk, _, hcounted⟩
    exact ⟨hwalk.notMem_checklist, (hwalk.counted_iff hlimit).mp hcounted⟩
  · rintro ⟨hactive, hle⟩
    obtain ⟨pages, hwalk⟩ := exists_walk order hlimit hactive
    have hunsplit : Unsplit q.limit ((order.sort (q.matching db)).map Event.key) := by
      refine .of_length_le ?_
      rw [List.length_map, order.length_sort]
      exact hle
    exact ⟨pages, hwalk, (hwalk.listed_iff hlimit).mpr hunsplit, (hwalk.counted_iff hlimit).mpr hle⟩

/-- Two fillings of a vehicle, an hour apart. -/
def refuelled : HistoryDb where
  vehicleRefuels :=
    [{ id := 1, tenantId := 1, vehicleId := 1, odometerReading := 1000
       refueledAt := ⟨⟨2026, 3, 31, by decide, by decide, by decide⟩, 8, 0, 0, 0, by decide⟩ },
     { id := 2, tenantId := 1, vehicleId := 1, odometerReading := 1050
       refueledAt := ⟨⟨2026, 3, 31, by decide, by decide, by decide⟩, 9, 0, 0, 0, by decide⟩ }]

theorem history_paged_refuelled :
    ∃ pages, Walk (.stable Event.key) ⟨1, 1, none, none, some ["fuel"], 2⟩ refuelled none pages ∧
      Listed ⟨1, 1, none, none, some ["fuel"], 2⟩ refuelled pages ∧
      Counted ⟨1, 1, none, none, some ["fuel"], 2⟩ refuelled pages :=
  (history_paged (by decide)).2.mpr ⟨by decide, by decide⟩

/-- Read one at a time, the second page counts one event; without a filter there is no page. -/
theorem refuelled_not_counted :
    (¬∃ pages, Walk (.stable Event.key) ⟨1, 1, none, none, some ["fuel"], 1⟩ refuelled none pages ∧
      Listed ⟨1, 1, none, none, some ["fuel"], 1⟩ refuelled pages ∧
      Counted ⟨1, 1, none, none, some ["fuel"], 1⟩ refuelled pages) ∧
    ¬∃ pages, Walk (.stable Event.key) ⟨1, 1, none, none, none, 2⟩ refuelled none pages := by
  constructor
  · rintro ⟨pages, hwalk, _, hcounted⟩
    exact absurd ((hwalk.counted_iff (by decide)).mp hcounted) (by decide)
  · rintro ⟨pages, hwalk⟩
    exact hwalk.notMem_checklist (by decide)

end Rotas.History
