import Rotas.Lib.Interleave
import Rotas.Outbox.Service

/-!
# Rotas.Outbox.Drainers

Drain cycles that run at the same time. A cycle reads the rows that are due, holds no lock on them,
posts them one after the other, and writes all of them at its end.

* `DrainTurn`, `drainTurn` — the turns of a cycle, and the services that add rows between them.
* `Tidy`       — the invariant while no two cycles have a row in common.
* `Protocol`   — what delivery promises of one turn.
* `delivery_protocol` — in such a run, a turn keeps it exactly when it posts no event in vain before
  the last attempt.
* `first_retry_late`  — a first retry after the second delay.
-/

namespace Rotas

open Interleave

/-- The rows, and the log of the attempts. -/
structure Outbox where
  events : Table OutboxEvent := ∅
  attempts : List UUID := []

/-- A cycle has attempted some of its rows, and the others are as it read them. -/
inductive Drainer where
  | idle
  | draining (done : List (OutboxEvent × OutboxEvent)) (todo : List OutboxEvent)

inductive DrainTurn where
  | enqueue (now : Instant) (request : EnqueueRequest)
  | select (now : Instant) (maxRows : Nat)
  | attempt (now : Instant) (response : GovernanceResponse)
  | commit

/-- The rows of the cycle, as it read them. -/
def Drainer.rows : Drainer → List OutboxEvent
  | .idle => []
  | .draining done todo => done.map Prod.fst ++ todo

def Drainer.done : Drainer → List (OutboxEvent × OutboxEvent)
  | .idle => []
  | .draining done _ => done

section Turns

variable [UuidText] (S : GovernanceSettings)

/-- A cycle that raises writes nothing. -/
def drainTurn (_ : Nat) : DrainTurn → Outbox → Drainer → Option (Outbox × Drainer)
  | .enqueue now request, s, d => some ({ s with events := enqueue now request s.events }, d)
  | .select now maxRows, s, .idle =>
    if S.ffGovernanceOutbox then some (s, .draining [] (dueEvents now maxRows s.events)) else none
  | .attempt now response, s, .draining done (row :: todo) =>
    let s' : Outbox := { s with attempts := s.attempts ++ [row.id] }
    match attempted S now response row with
    | some row' => some (s', .draining (done ++ [(row, row')]) todo)
    | none => some (s', .idle)
  | .commit, s, .draining done [] => some ({ s with events := writeRows done s.events }, .idle)
  | _, _, _ => none

def drainStep (c : Config Outbox Drainer) (m : Nat × DrainTurn) : Config Outbox Drainer :=
  move (drainTurn S) c m

/-! ## The promise -/

/-- What delivery promises of an attempt: the row is not known to be sent; the attempt is counted,
and within the schedule; the row is dead exactly when it failed for good or has no attempt left; and
its `k`-th retry comes after the `k`-th delay. -/
structure AttemptKept (s : Outbox) (now : Instant) (response : GovernanceResponse)
    (row row' : OutboxEvent) : Prop where
  unsent : ∀ r, s.events.get row.id = some r → r.status ≠ .sent
  counted : row'.attemptCount = s.attempts.count row.id + 1
  bounded : row'.attemptCount ≤ defaultBackoffsSeconds.length
  dead : row'.status = .deadLetter ↔ (outcome S response).ok = false ∧
    (row'.attemptCount = defaultBackoffsSeconds.length ∨ clientError S response = true)
  retry : row'.status = .pending →
    row'.nextAttemptAt = defaultBackoffsSeconds[row'.attemptCount - 1]?.map (now + ·)

/-- What delivery promises of a turn: a row that is sent or dead stays as it is, and an attempt
keeps its promise. -/
structure Protocol (c : Config Outbox Drainer) (m : Nat × DrainTurn) : Prop where
  frozen : ∀ r ∈ c.store.events, r.status ≠ .pending → r ∈ (drainStep S c m).store.events
  attempt : ∀ now response done row todo, m.2 = .attempt now response →
    c.parties m.1 = .draining done (row :: todo) →
    ∃ row', attempted S now response row = some row' ∧ AttemptKept S c.store now response row row'

/-- An attempt succeeds, or it is the last one. -/
def Due (c : Config Outbox Drainer) (m : Nat × DrainTurn) : Prop :=
  ∀ now response done row todo, m.2 = .attempt now response →
    c.parties m.1 = .draining done (row :: todo) →
    (outcome S response).ok = true ∨ row.attemptCount + 1 = defaultBackoffsSeconds.length

/-- No cycle reads a row that another one has, and every accepted post names its case by a text. -/
def Cautious (c : Config Outbox Drainer) (m : Nat × DrainTurn) : Prop :=
  match m.2 with
  | .select now maxRows => ∀ r ∈ dueEvents now maxRows c.store.events, ∀ j, j ≠ m.1 →
    ∀ r' ∈ (c.parties j).rows, r.id ≠ r'.id
  | .attempt _ response => (outcome S response).readable = true
  | _ => True

end Turns

/-! ## The invariant -/

/-- The counter of the row stands within the schedule, and at its end for a dead letter only. -/
structure OutboxEvent.Sound (row : OutboxEvent) : Prop where
  bounded : row.attemptCount ≤ defaultBackoffsSeconds.length
  pending : row.status = .pending → row.attemptCount < defaultBackoffsSeconds.length

/-- While no two cycles have a row in common: what each has read is still there and pending, what it
has made of a row counts the attempts of it, and so does a row that no cycle has attempted. -/
structure Tidy (c : Config Outbox Drainer) : Prop where
  held : ∀ i, ∀ r ∈ (c.parties i).rows, c.store.events.get r.id = some r ∧ r.status = .pending
  nodup : ∀ i, ((c.parties i).rows.map OutboxEvent.id).Nodup
  apart : ∀ i j, i ≠ j → ∀ r ∈ (c.parties i).rows, ∀ r' ∈ (c.parties j).rows, r.id ≠ r'.id
  sound : ∀ r ∈ c.store.events, r.Sound
  done : ∀ i, ∀ d ∈ (c.parties i).done, d.2.id = d.1.id ∧ d.1.write d.2 d.1 = d.2 ∧ d.2.Sound ∧
    c.store.attempts.count d.1.id = d.2.attemptCount
  counted : ∀ r ∈ c.store.events, (∀ i, ∀ d ∈ (c.parties i).done, d.1.id ≠ r.id) →
    c.store.attempts.count r.id = r.attemptCount
  known : ∀ k ∈ c.store.attempts, ∃ r ∈ c.store.events, r.id = k

/-- Nothing has been enqueued yet, and no cycle is running. -/
structure Quiet (c : Config Outbox Drainer) : Prop where
  events : c.store.events = ∅
  attempts : c.store.attempts = []
  idle : ∀ i, c.parties i = .idle

theorem Quiet.tidy {c : Config Outbox Drainer} (h : Quiet c) : Tidy c where
  held i r hr := by rw [h.idle] at hr; cases hr
  nodup i := by rw [h.idle]; exact List.nodup_nil
  apart i j _ r hr := by rw [h.idle] at hr; cases hr
  sound r hr := absurd (h.events ▸ hr) (Table.not_mem_empty r)
  done i d hd := by rw [h.idle] at hd; cases hd
  counted r hr := absurd (h.events ▸ hr) (Table.not_mem_empty r)
  known k hk := by rw [h.attempts] at hk; cases hk

/-- What is written of the rows of one cycle: each is as the cycle made it, and the others are as
they were. -/
theorem writeRows_get {rows : List (OutboxEvent × OutboxEvent)} :
    ∀ {events : Table OutboxEvent}, (rows.map fun d => d.1.id).Nodup →
    (∀ d ∈ rows, events.get d.1.id = some d.1 ∧ d.1.write d.2 d.1 = d.2) →
    (∀ d ∈ rows, (writeRows rows events).get d.1.id = some d.2) ∧
      ∀ k, (∀ d ∈ rows, d.1.id ≠ k) → (writeRows rows events).get k = events.get k := by
  induction rows with
  | nil =>
    intro events _ _
    exact ⟨fun d hd => absurd hd List.not_mem_nil, fun _ _ => rfl⟩
  | cons d rows ih =>
    intro events hnodup hheld
    rw [List.map_cons, List.nodup_cons] at hnodup
    obtain ⟨hget, hwrite⟩ := hheld d List.mem_cons_self
    have hne : ∀ d' ∈ rows, d'.1.id ≠ d.1.id := by
      intro d' hd' h
      exact hnodup.1 (List.mem_map.mpr ⟨d', hd', h⟩)
    have hfirst : (events.modify d.1.id (d.1.write d.2)).get d.1.id = some d.2 := by
      rw [Table.get_modify_self hget, hwrite]
    obtain ⟨hrows, hothers⟩ := @ih (events.modify d.1.id (d.1.write d.2)) hnodup.2
      fun d' hd' => by
        rw [Table.get_modify_ne (hne d' hd')]
        exact hheld d' (List.mem_cons_of_mem _ hd')
    constructor
    · intro d' hd'
      rcases List.mem_cons.mp hd' with rfl | hd'
      · exact (hothers _ hne).trans hfirst
      · exact hrows d' hd'
    · intro k hk
      refine (hothers k fun d' hd' => hk d' (List.mem_cons_of_mem _ hd')).trans ?_
      exact Table.get_modify_ne fun h => hk d List.mem_cons_self h.symm

/-- The rows that are due are rows of the table, each once, and pending. -/
theorem mem_dueEvents {now : Instant} {maxRows : Nat} {events : Table OutboxEvent}
    {r : OutboxEvent} (h : r ∈ dueEvents now maxRows events) :
    events.get r.id = some r ∧ r.status = .pending := by
  obtain ⟨hr, hdue⟩ := List.mem_filter.mp (List.mem_of_mem_take h)
  simp only [Bool.and_eq_true, decide_eq_true_eq] at hdue
  exact ⟨Table.get_of_mem hr, hdue.1⟩

theorem nodup_dueEvents (now : Instant) (maxRows : Nat) (events : Table OutboxEvent) :
    ((dueEvents now maxRows events).map OutboxEvent.id).Nodup := by
  refine events.nodup.sublist (List.Sublist.map _ ?_)
  exact (List.take_sublist _ _).trans List.filter_sublist

section Step

variable {c c' : Config Outbox Drainer} {i : Nat}

theorem Tidy.enqueue (h : Tidy c) (now : Instant) (request : EnqueueRequest) :
    Tidy { c with store := { c.store with events := enqueue now request c.store.events } } where
  held i r hr := by
    obtain ⟨hget, hpending⟩ := h.held i r hr
    have hne : r.id ≠ c.store.events.freshKey := by
      intro hk
      rw [hk, Table.get_freshKey] at hget
      cases hget
    refine ⟨?_, hpending⟩
    rw [Rotas.enqueue, Table.get_insert, if_neg hne]
    exact hget
  nodup := h.nodup
  apart := h.apart
  sound r hr := by
    rcases (Table.mem_insert _ _ _).mp hr with hr | rfl
    · exact h.sound r hr
    · exact ⟨Nat.zero_le _, fun _ => by simp [defaultBackoffsSeconds]⟩
  done := h.done
  counted r hr hfree := by
    rcases (Table.mem_insert _ _ _).mp hr with hr | rfl
    · exact h.counted r hr hfree
    · refine List.count_eq_zero.mpr fun hk => ?_
      obtain ⟨r, hr, hid⟩ := h.known _ hk
      exact absurd hid (Nat.ne_of_lt (Table.key_lt_freshKey hr))
  known k hk := by
    obtain ⟨r, hr, hid⟩ := h.known k hk
    exact ⟨r, (Table.mem_insert _ _ _).mpr (.inl hr), hid⟩

theorem Tidy.select (h : Tidy c) {now : Instant} {maxRows : Nat} (hidle : c.parties i = .idle)
    (hfree : ∀ r ∈ dueEvents now maxRows c.store.events, ∀ j, j ≠ i → ∀ r' ∈ (c.parties j).rows,
      r.id ≠ r'.id) (hstore : c'.store = c.store)
    (hself : c'.parties i = .draining [] (dueEvents now maxRows c.store.events))
    (hother : ∀ j, j ≠ i → c'.parties j = c.parties j) : Tidy c' := by
  have hdone (j : Nat) : (c'.parties j).done = (c.parties j).done := by
    by_cases hj : j = i
    · rw [hj, hself, hidle]; rfl
    · rw [hother j hj]
  have hrows (j : Nat) : (c'.parties j).rows = (c.parties j).rows ∨
      j = i ∧ (c'.parties j).rows = dueEvents now maxRows c.store.events := by
    by_cases hj : j = i
    · rw [hj, hself]; exact .inr ⟨rfl, rfl⟩
    · rw [hother j hj]; exact .inl rfl
  constructor
  case held =>
    intro j r hr
    rw [hstore]
    rcases hrows j with hj | ⟨-, hj⟩
    · exact h.held j r (hj ▸ hr)
    · exact mem_dueEvents (hj ▸ hr)
  case nodup =>
    intro j
    rcases hrows j with hj | ⟨-, hj⟩
    · rw [hj]; exact h.nodup j
    · rw [hj]; exact nodup_dueEvents _ _ _
  case apart =>
    intro j k hjk r hr r' hr'
    by_cases hj : j = i
    · subst hj
      rw [hself] at hr
      rw [hother k (Ne.symm hjk)] at hr'
      exact hfree r hr k (Ne.symm hjk) r' hr'
    · rw [hother j hj] at hr
      by_cases hk : k = i
      · subst hk
        rw [hself] at hr'
        exact (hfree r' hr' j hj r hr).symm
      · rw [hother k hk] at hr'
        exact h.apart j k hjk r hr r' hr'
  case sound => rw [hstore]; exact h.sound
  case done =>
    intro j d hd
    rw [hstore]
    exact h.done j d (hdone j ▸ hd)
  case counted =>
    rw [hstore]
    exact fun r hr hout => h.counted r hr fun j d hd => hout j d ((hdone j).symm ▸ hd)
  case known => rw [hstore]; exact h.known

/-- The rows that a cycle has attempted are among those it read. -/
theorem mem_rows_of_done {d : Drainer} {p : OutboxEvent × OutboxEvent} (h : p ∈ d.done) :
    p.1 ∈ d.rows := by
  cases d with
  | idle => cases h
  | draining done todo => exact List.mem_append_left _ (List.mem_map_of_mem h)

theorem Tidy.fresh (h : Tidy c) {done : List (OutboxEvent × OutboxEvent)} {row : OutboxEvent}
    {todo : List OutboxEvent} (hi : c.parties i = .draining done (row :: todo)) (j : Nat) :
    ∀ d ∈ (c.parties j).done, d.1.id ≠ row.id := by
  intro d hd
  have hrow : row ∈ (c.parties i).rows := by
    rw [hi]
    simp [Drainer.rows]
  by_cases hj : j = i
  · subst hj
    have hnodup := h.nodup j
    rw [hi] at hnodup hd
    rw [Drainer.rows, List.map_append, List.nodup_append] at hnodup
    refine hnodup.2.2 _ ?_ _ List.mem_cons_self
    exact List.mem_map_of_mem (List.mem_map_of_mem hd)
  · exact h.apart j i hj _ (mem_rows_of_done hd) _ hrow

theorem Tidy.next (h : Tidy c) {done : List (OutboxEvent × OutboxEvent)} {row : OutboxEvent}
    {todo : List OutboxEvent} (hi : c.parties i = .draining done (row :: todo)) :
    c.store.events.get row.id = some row ∧ row.status = .pending ∧
      c.store.attempts.count row.id = row.attemptCount := by
  obtain ⟨hget, hpending⟩ := h.held i row (by rw [hi]; simp [Drainer.rows])
  exact ⟨hget, hpending, h.counted row (Table.mem_of_get hget) fun j => h.fresh hi j⟩

theorem Attempted.sound {accepted : Bool} {now : Instant} {row row' : OutboxEvent}
    (h : Attempted accepted now row row') (hrow : row.Sound) (hpending : row.status = .pending) :
    row'.Sound := by
  have hlt := hrow.pending hpending
  have hcount := h.count
  constructor
  · omega
  · intro hs
    cases accepted with
    | true => rw [h.sent rfl] at hs; cases hs
    | false =>
      cases hdead : isDeadLetter row'.attemptCount with
      | true => rw [h.dead rfl hdead] at hs; cases hs
      | false => simpa [isDeadLetter] using hdead

theorem Tidy.attempt (h : Tidy c) {done : List (OutboxEvent × OutboxEvent)}
    {row row' : OutboxEvent} {todo : List OutboxEvent} {accepted : Bool} {now : Instant}
    (hi : c.parties i = .draining done (row :: todo)) (ha : Attempted accepted now row row')
    (hevents : c'.store.events = c.store.events)
    (hlog : c'.store.attempts = c.store.attempts ++ [row.id])
    (hself : c'.parties i = .draining (done ++ [(row, row')]) todo)
    (hother : ∀ j, j ≠ i → c'.parties j = c.parties j) : Tidy c' := by
  obtain ⟨hget, hpending, hcount⟩ := h.next hi
  have hmem : row ∈ c.store.events := Table.mem_of_get hget
  have hrows (j : Nat) : (c'.parties j).rows = (c.parties j).rows := by
    by_cases hj : j = i
    · rw [hj, hself, hi]
      simp [Drainer.rows]
    · rw [hother j hj]
  -- an attempted row is one of before, or the new one
  have hdone (j : Nat) (d : OutboxEvent × OutboxEvent) :
      d ∈ (c'.parties j).done ↔ d ∈ (c.parties j).done ∨ j = i ∧ d = (row, row') := by
    by_cases hj : j = i
    · rw [hj, hself, hi]
      simp [Drainer.done]
    · rw [hother j hj]
      simp [hj]
  have hcount_ne {k : UUID} (hk : k ≠ row.id) :
      c'.store.attempts.count k = c.store.attempts.count k := by
    simp [hlog, List.count_append, hk.symm]
  have hcount_self : c'.store.attempts.count row.id = row'.attemptCount := by
    simp [hlog, List.count_append, hcount, ha.count]
  constructor
  case held =>
    intro j r hr
    rw [hevents]
    exact h.held j r (hrows j ▸ hr)
  case nodup => exact fun j => (hrows j).symm ▸ h.nodup j
  case apart => exact fun j k hjk r hr r' hr' => h.apart j k hjk r (hrows j ▸ hr) r' (hrows k ▸ hr')
  case sound => rw [hevents]; exact h.sound
  case done =>
    intro j d hd
    rcases (hdone j d).mp hd with hd | ⟨-, rfl⟩
    · obtain ⟨hid, hwrite, hsound, hcounted⟩ := h.done j d hd
      exact ⟨hid, hwrite, hsound, (hcount_ne (h.fresh hi j d hd)).trans hcounted⟩
    · exact ⟨ha.id, ha.written, ha.sound (h.sound row hmem) hpending, hcount_self⟩
  case counted =>
    intro r hr hout
    rw [hevents] at hr
    have hne : r.id ≠ row.id := (hout i _ ((hdone i _).mpr (.inr ⟨rfl, rfl⟩))).symm
    refine (hcount_ne hne).trans (h.counted r hr fun j d hd => ?_)
    exact hout j d ((hdone j d).mpr (.inl hd))
  case known =>
    intro k hk
    rw [hevents]
    rw [hlog] at hk
    rcases List.mem_append.mp hk with hk | hk
    · exact h.known k hk
    · exact ⟨row, hmem, (List.mem_singleton.mp hk).symm⟩

theorem Tidy.written (h : Tidy c) {done : List (OutboxEvent × OutboxEvent)}
    (hi : c.parties i = .draining done []) :
    (∀ d ∈ done, (writeRows done c.store.events).get d.1.id = some d.2) ∧
      ∀ k, (∀ d ∈ done, d.1.id ≠ k) →
        (writeRows done c.store.events).get k = c.store.events.get k := by
  refine writeRows_get ?_ fun d hd => ?_
  · have hnodup := h.nodup i
    rw [hi, Drainer.rows, List.append_nil, List.map_map] at hnodup
    exact hnodup
  · have hd' : d ∈ (c.parties i).done := hi ▸ hd
    exact ⟨(h.held i d.1 (mem_rows_of_done hd')).1, (h.done i d hd').2.1⟩

/-- Every row after the commit is one that the cycle has made, or one that it did not have. -/
theorem Tidy.written_cases (h : Tidy c) {done : List (OutboxEvent × OutboxEvent)}
    (hi : c.parties i = .draining done []) {r : OutboxEvent}
    (hr : r ∈ writeRows done c.store.events) :
    (∃ d ∈ done, d.2 = r) ∨ r ∈ c.store.events ∧ ∀ d ∈ done, d.1.id ≠ r.id := by
  obtain ⟨hown, hothers⟩ := h.written hi
  have hget : (writeRows done c.store.events).get r.id = some r := Table.get_of_mem hr
  by_cases hd : ∃ d ∈ done, d.1.id = r.id
  · obtain ⟨d, hd, hid⟩ := hd
    rw [← hid, hown d hd] at hget
    exact .inl ⟨d, hd, Option.some.inj hget⟩
  · have hd : ∀ d ∈ done, d.1.id ≠ r.id := fun d hd' hid => hd ⟨d, hd', hid⟩
    rw [hothers r.id hd] at hget
    exact .inr ⟨Table.mem_of_get hget, hd⟩

theorem Tidy.commit (h : Tidy c) {done : List (OutboxEvent × OutboxEvent)}
    (hi : c.parties i = .draining done [])
    (hevents : c'.store.events = writeRows done c.store.events)
    (hlog : c'.store.attempts = c.store.attempts) (hself : c'.parties i = .idle)
    (hother : ∀ j, j ≠ i → c'.parties j = c.parties j) : Tidy c' := by
  obtain ⟨hown, hothers⟩ := h.written hi
  have hdone {d : OutboxEvent × OutboxEvent} (hd : d ∈ done) : d ∈ (c.parties i).done := hi ▸ hd
  have hparty {j : Nat} {d : OutboxEvent × OutboxEvent} (hd : d ∈ (c'.parties j).done) :
      j ≠ i ∧ d ∈ (c.parties j).done := by
    by_cases hj : j = i
    · rw [hj, hself] at hd; cases hd
    · exact ⟨hj, hother j hj ▸ hd⟩
  have hrows {j : Nat} {r : OutboxEvent} (hr : r ∈ (c'.parties j).rows) :
      j ≠ i ∧ r ∈ (c.parties j).rows := by
    by_cases hj : j = i
    · rw [hj, hself] at hr; cases hr
    · exact ⟨hj, hother j hj ▸ hr⟩
  constructor
  case held =>
    intro j r hr
    obtain ⟨hj, hr⟩ := hrows hr
    rw [hevents, hothers r.id fun d hd =>
      h.apart i j (Ne.symm hj) _ (mem_rows_of_done (hdone hd)) r hr]
    exact h.held j r hr
  case nodup =>
    intro j
    by_cases hj : j = i
    · rw [hj, hself]; exact List.nodup_nil
    · rw [hother j hj]; exact h.nodup j
  case apart =>
    intro j k hjk r hr r' hr'
    exact h.apart j k hjk r (hrows hr).2 r' (hrows hr').2
  case sound =>
    intro r hr
    rw [hevents] at hr
    rcases h.written_cases hi hr with ⟨d, hd, rfl⟩ | ⟨hr, -⟩
    · exact (h.done i d (hdone hd)).2.2.1
    · exact h.sound r hr
  case done =>
    intro j d hd
    rw [hlog]
    exact h.done j d (hparty hd).2
  case counted =>
    intro r hr hout
    rw [hevents] at hr
    rw [hlog]
    rcases h.written_cases hi hr with ⟨d, hd, rfl⟩ | ⟨hr, hne⟩
    · obtain ⟨hid, -, -, hcount⟩ := h.done i d (hdone hd)
      rw [hid, hcount]
    · refine h.counted r hr fun j d hd => ?_
      by_cases hj : j = i
      · subst hj
        rw [hi] at hd
        exact hne d hd
      · exact hout j d (hother j hj ▸ hd)
  case known =>
    intro k hk
    rw [hlog] at hk
    obtain ⟨r, hr, rfl⟩ := h.known k hk
    rw [hevents]
    by_cases hd : ∃ d ∈ done, d.1.id = r.id
    · obtain ⟨d, hd, hid⟩ := hd
      refine ⟨d.2, Table.mem_of_get (hown d hd), ?_⟩
      exact (h.done i d (hdone hd)).1.trans hid
    · have hget : (writeRows done c.store.events).get r.id = some r := by
        rw [hothers r.id fun d hd' hid => hd ⟨d, hd', hid⟩]
        exact Table.get_of_mem hr
      exact ⟨r, Table.mem_of_get hget, rfl⟩

end Step

/-- The delays of the schedule are all different, one after the other. -/
theorem retry_late {now : Instant} : ∀ {k : Nat}, 0 < k → k < defaultBackoffsSeconds.length →
    defaultBackoffsSeconds[k - 1]?.map (now + ·) ≠ some (retryAt now k)
  | 1, _, _ => by simp [defaultBackoffsSeconds, retryAt]
  | 2, _, _ => by simp [defaultBackoffsSeconds, retryAt]
  | 3, _, _ => by simp [defaultBackoffsSeconds, retryAt]
  | 4, _, _ => by simp [defaultBackoffsSeconds, retryAt]
  | 5, _, _ => by simp [defaultBackoffsSeconds, retryAt]
  | _ + 6, _, h => absurd h (by simp [defaultBackoffsSeconds])

/-! ## Turns -/

section Runs

variable [UuidText] {S : GovernanceSettings}

/-- What a turn of a cycle does. -/
inductive DrainTurned (S : GovernanceSettings) (s : Outbox) (d : Drainer) :
    DrainTurn → Outbox → Drainer → Prop
  | enqueue (now : Instant) (request : EnqueueRequest) :
      DrainTurned S s d (.enqueue now request)
        { s with events := Rotas.enqueue now request s.events } d
  | select (now : Instant) (maxRows : Nat) : d = .idle → S.ffGovernanceOutbox = true →
      DrainTurned S s d (.select now maxRows) s (.draining [] (dueEvents now maxRows s.events))
  | attempt {now : Instant} {response : GovernanceResponse}
      {done : List (OutboxEvent × OutboxEvent)} {row row' : OutboxEvent} {todo : List OutboxEvent} :
      d = .draining done (row :: todo) → attempted S now response row = some row' →
      DrainTurned S s d (.attempt now response) { s with attempts := s.attempts ++ [row.id] }
        (.draining (done ++ [(row, row')]) todo)
  | raise {now : Instant} {response : GovernanceResponse}
      {done : List (OutboxEvent × OutboxEvent)} {row : OutboxEvent} {todo : List OutboxEvent} :
      d = .draining done (row :: todo) → attempted S now response row = none →
      DrainTurned S s d (.attempt now response) { s with attempts := s.attempts ++ [row.id] } .idle
  | commit {done : List (OutboxEvent × OutboxEvent)} : d = .draining done [] →
      DrainTurned S s d .commit { s with events := writeRows done s.events } .idle

theorem drainTurn_turned {i : Nat} {a : DrainTurn} {s s' : Outbox} {d d' : Drainer}
    (h : drainTurn S i a s d = some (s', d')) : DrainTurned S s d a s' d' := by
  cases a with
  | enqueue now request =>
    cases h
    exact .enqueue now request
  | select now maxRows =>
    cases d with
    | draining => cases h
    | idle =>
      simp only [drainTurn] at h
      split at h
      · next hflag =>
        cases h
        exact .select now maxRows rfl hflag
      · cases h
  | attempt now response =>
    cases d with
    | idle => cases h
    | draining done todo =>
      cases todo with
      | nil => cases h
      | cons row todo =>
        simp only [drainTurn] at h
        split at h
        · next row' hrow =>
          cases h
          exact .attempt rfl hrow
        · next hrow =>
          cases h
          exact .raise rfl hrow
  | commit =>
    cases d with
    | idle => cases h
    | draining done todo =>
      cases todo with
      | nil =>
        cases h
        exact .commit rfl
      | cons => cases h

variable {c : Config Outbox Drainer} {m : Nat × DrainTurn}

/-- A cautious turn keeps the invariant, and a row that is sent or dead stays as it is. -/
theorem Tidy.step (h : Tidy c) (hm : Cautious S c m) :
    Tidy (drainStep S c m) ∧
      ∀ r ∈ c.store.events, r.status ≠ .pending → r ∈ (drainStep S c m).store.events := by
  obtain ⟨i, a⟩ := m
  rcases move_cases (drainTurn S) c (i, a) with hsame | ⟨s', d', hturn, hmove⟩
  · rw [drainStep, hsame]
    exact ⟨h, fun _ hr _ => hr⟩
  rw [drainStep, hmove]
  have hself : Function.update c.parties i d' i = d' := Function.update_self ..
  have hother : ∀ j, j ≠ i → Function.update c.parties i d' j = c.parties j :=
    fun j hj => Function.update_of_ne hj ..
  cases drainTurn_turned hturn with
  | enqueue now request =>
    have hsame : Function.update c.parties i (c.parties i) = c.parties := Function.update_eq_self ..
    rw [hsame]
    exact ⟨h.enqueue now request, fun r hr _ => (Table.mem_insert _ _ _).mpr (.inl hr)⟩
  | select now maxRows hidle hflag =>
    exact ⟨h.select hidle hm rfl hself hother, fun _ hr _ => hr⟩
  | attempt hi hrow =>
    exact ⟨h.attempt hi (attempted_spec hrow) rfl rfl hself hother, fun _ hr _ => hr⟩
  | raise hi hrow =>
    obtain ⟨row', hrow'⟩ := attempted_isSome hm
    rw [hrow'] at hrow
    cases hrow
  | @commit done hi =>
    refine ⟨h.commit hi rfl rfl hself hother, fun r hr hs => ?_⟩
    have hget : (writeRows done c.store.events).get r.id = some r := by
      refine ((h.written hi).2 r.id fun d hd hid => ?_).trans (Table.get_of_mem hr)
      have hd' : d ∈ (c.parties i).done := hi ▸ hd
      obtain ⟨hheld, hpending⟩ := h.held i d.1 (mem_rows_of_done hd')
      have hrow : c.store.events.get r.id = some r := Table.get_of_mem hr
      rw [hid, hrow] at hheld
      cases hheld
      exact hs hpending
    exact Table.mem_of_get hget

/-- A cautious turn keeps the protocol exactly when its attempt, if it is one, succeeds or is the
last. -/
theorem Tidy.protocol_iff (h : Tidy c) (hm : Cautious S c m) : Protocol S c m ↔ Due S c m := by
  constructor
  · intro hp now response done row todo ha hi
    obtain ⟨row', hrow, hkept⟩ := hp.attempt now response done row todo ha hi
    have hspec := attempted_spec hrow
    cases hok : (outcome S response).ok with
    | true => exact .inl rfl
    | false =>
      refine .inr ?_
      cases hdead : isDeadLetter row'.attemptCount with
      | true =>
        have hbound := hkept.bounded
        simp only [isDeadLetter, decide_eq_true_eq] at hdead
        rw [← hspec.count]
        exact Nat.le_antisymm hbound hdead
      | false =>
        obtain ⟨hpending, hretry⟩ := hspec.retried hok hdead
        simp only [isDeadLetter, decide_eq_false_iff_not, Nat.not_le] at hdead
        have hlate := @retry_late now row'.attemptCount (by rw [hspec.count]; exact Nat.succ_pos _) hdead
        exact absurd ((hkept.retry hpending).symm.trans hretry) hlate
  · intro hdue
    refine ⟨(h.step hm).2, fun now response done row todo ha hi => ?_⟩
    obtain ⟨i, a⟩ := m
    cases ha
    obtain ⟨row', hrow⟩ : ∃ row', attempted S now response row = some row' := attempted_isSome hm
    have hspec := attempted_spec hrow
    obtain ⟨hget, hpending, hcount⟩ := h.next hi
    have hlt := (h.sound row (Table.mem_of_get hget)).pending hpending
    refine ⟨row', hrow, ?_⟩
    constructor
    case unsent =>
      intro r hr
      rw [hget] at hr
      cases hr
      rw [hpending]
      decide
    case counted => rw [hspec.count, hcount]
    case bounded => rw [hspec.count]; exact hlt
    case dead =>
      rcases hdue now response done row todo rfl hi with hok | hlast
      · simp [hspec.sent hok, hok]
      · cases hok : (outcome S response).ok with
        | true => simp [hspec.sent hok]
        | false =>
          have hdead : isDeadLetter row'.attemptCount = true := by
            simp [isDeadLetter, hspec.count, hlast]
          simp [hspec.dead hok hdead, hspec.count, hlast]
    case retry =>
      intro hs
      rcases hdue now response done row todo rfl hi with hok | hlast
      · rw [hspec.sent hok] at hs
        cases hs
      · cases hok : (outcome S response).ok with
        | true => rw [hspec.sent hok] at hs; cases hs
        | false =>
          have hdead : isDeadLetter row'.attemptCount = true := by
            simp [isDeadLetter, hspec.count, hlast]
          rw [hspec.dead hok hdead] at hs
          cases hs

/-- In every run in which no cycle reads a row that another one has, and every accepted post names
its case by a text, a turn keeps the protocol exactly when its attempt, if it is one, succeeds or
is the last that the row has. -/
theorem delivery_protocol {c : Config Outbox Drainer} {ms : List (Nat × DrainTurn)} (hc : Quiet c)
    (hms : Run.Along (drainStep S) (Cautious S) c ms) :
    Run.Along (drainStep S) (fun c m => Protocol S c m ↔ Due S c m) c ms :=
  Run.along_inv (fun _ _ h hm => (h.step hm).1) (fun _ _ h hm => h.protocol_iff hm) hc.tidy hms

end Runs

/-! ## A first retry -/

/-- Every event is posted, and its case is never read. -/
def governed : GovernanceSettings where
  ffGovernanceOutbox := true
  governanceEngineUrl := "http://governance"

@[reducible] def UuidText.unread : UuidText := ⟨fun _ => none⟩

def quietOutbox : Config Outbox Drainer := ⟨{}, fun _ => .idle⟩

/-- One event, and the engine is down when it is posted. -/
def engineDown : List (Nat × DrainTurn) :=
  [(0, .enqueue 0 { tenantId := 1, eventType := "trip.closed", payload := .null }),
    (0, .select 0 100), (0, .attempt 0 (.answer 503 none)), (0, .commit)]

theorem quietOutbox_quiet : Quiet quietOutbox := ⟨rfl, rfl, fun _ => rfl⟩

theorem engineDown_cautious :
    Run.Along (@drainStep .unread governed) (Cautious governed) quietOutbox engineDown := by
  refine ⟨trivial, ?_, rfl, trivial, trivial⟩
  intro r _ j hj r' hr'
  change r' ∈ (Function.update quietOutbox.parties 0 Drainer.idle j).rows at hr'
  rw [Function.update_of_ne hj] at hr'
  cases hr'

theorem delivery_protocol_down :
    Run.Along (@drainStep .unread governed)
      (fun c m => @Protocol .unread governed c m ↔ Due governed c m) quietOutbox engineDown :=
  @delivery_protocol .unread governed quietOutbox engineDown quietOutbox_quiet engineDown_cautious

/-- The first retry comes after the second delay, five minutes instead of one. -/
theorem first_retry_late :
    ¬ ∀ (S : GovernanceSettings) (c : Config Outbox Drainer) (ms : List (Nat × DrainTurn)),
      Quiet c → Run.Along (@drainStep .unread S) (Cautious S) c ms →
        Run.Along (@drainStep .unread S) (fun c m => @Protocol .unread S c m) c ms := by
  intro hall
  obtain ⟨-, -, hprotocol, -⟩ :=
    hall governed quietOutbox engineDown quietOutbox_quiet engineDown_cautious
  obtain ⟨row', hrow, hkept⟩ :=
    @Protocol.attempt .unread _ _ _ hprotocol 0 (.answer 503 none) [] _ [] rfl rfl
  cases hrow
  have hretry : (some 300 : Option Instant) = some 60 := hkept.retry rfl
  cases hretry

end Rotas
