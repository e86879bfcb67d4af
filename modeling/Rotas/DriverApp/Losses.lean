import Rotas.DriverApp.SyncSteps

/-!
# Rotas.DriverApp.Losses

What becomes of the operations that are queued.

* `Situation`    — removed, settled by the server, exhausted, or selected by the next sync.
* `LosesNothing` — each operation is in one of these, or in the hands of a call that sends it, and a
  call is done with an operation once it is answered or a failure is counted.
* `Unbroken`     — the app is not terminated while a call has an operation in its hands.
* `loses_nothing_iff` — the two come to the same.
* `lost_while_syncing` — an operation that no sync takes up again.
-/

namespace Rotas
namespace DriverApp

open Interleave

inductive Situation where
  | removed | settled | exhausted | selected

/-- The situation of an operation that was queued. -/
def Device.At (d : Device) (q : SyncQueueItem) : Situation → Prop
  | .removed => d.db.syncQueue q.id = none ∧ d.Answered q (· = "processed")
  | .settled => ∃ row, d.db.syncQueue q.id = some row ∧
      (row.status = .conflict ∧ d.Answered q Conflict ∨ row.status = .failed ∧ d.Answered q Failed)
  | .exhausted => ∃ row, d.db.syncQueue q.id = some row ∧ row.status = .retrying ∧
      5 ≤ row.retryCount ∧ 5 ≤ d.failures.count q.id
  | .selected => ∃ row ∈ d.db.selected, row.id = q.id ∧ row.idempotencyKey = q.idempotencyKey

/-- The call has the operation in its hands. -/
def Phase.Has (id : Nat) : Phase → Prop
  | .sending item _ _ => item.id = id
  | _ => False

/-- The operation is being sent. -/
def InHand (c : Config Device Phase) (q : SyncQueueItem) : Prop :=
  (∃ row, c.store.db.syncQueue q.id = some row ∧ row.status = .syncing) ∧ ∃ i, (c.parties i).Has q.id

def Kept (c : Config Device Phase) : Prop :=
  ∀ q ∈ c.store.queued, (∃! x, c.store.At q x) ∨ InHand c q

/-- A call that goes on to the next operation has an answer to this one, or counts a failure. -/
def Handled (c : Config Device Phase) (m : Nat × Action) : Prop :=
  ∀ item stage todo, c.parties m.1 = .sending item stage todo →
    (move syncTurn c m).parties m.1 = .ready todo →
      c.store.Answered item (fun _ => True) ∨
        (move syncTurn c m).store.failures = c.store.failures ++ [item.id]

def LosesNothing (c : Config Device Phase) (m : Nat × Action) : Prop :=
  Kept (move syncTurn c m) ∧ Handled c m

/-- The app is not terminated while an operation is marked as being sent, unless another call sends
it as well. -/
def Unbroken (c : Config Device Phase) (m : Nat × Action) : Prop :=
  match m.2, c.parties m.1 with
  | .terminate, .sending item _ _ => ∀ row, c.store.db.syncQueue item.id = some row →
      row.status = .syncing → ∃ j, j ≠ m.1 ∧ (c.parties j).Has item.id
  | _, _ => True

section Situations

variable {d : Device} {q row : SyncQueueItem}

theorem Device.Sound.key_of_row (h : d.Sound) (hq : q ∈ d.queued)
    (hrow : d.db.syncQueue q.id = some row) :
    row.id = q.id ∧ row.idempotencyKey = q.idempotencyKey := by
  obtain ⟨hid, hknown, _⟩ := h.rows q.id row hrow
  obtain ⟨q', hq', hid', hkey'⟩ := hknown.queued
  exact ⟨hid, hkey'.symm.trans (h.oneKey q' hq' q hq (hid'.trans hid))⟩

/-- The row that is selected for an operation is the row under its id. -/
theorem row_of_selected (h : d.Sound) {row' : SyncQueueItem} (hmem : row' ∈ d.db.selected)
    (hid : row'.id = q.id) : d.db.syncQueue q.id = some row' := by
  obtain ⟨⟨id, _, hrow⟩, _⟩ := mem_selected.mp hmem
  rw [← hid, (h.rows id row' hrow).1]
  exact hrow

/-- An operation that is not marked as being sent is in a situation. -/
theorem exists_situation (h : d.Sound) (hq : q ∈ d.queued)
    (hstatus : ∀ row, d.db.syncQueue q.id = some row → row.status ≠ .syncing) : ∃ x, d.At q x := by
  cases hrow : d.db.syncQueue q.id with
  | none => exact ⟨.removed, hrow, h.removed q hq hrow⟩
  | some row =>
    obtain ⟨hid, hknown, hsound⟩ := h.rows q.id row hrow
    obtain ⟨_, hkey⟩ := h.key_of_row hq hrow
    have hselected : (row.status = .localOnly ∨ row.status = .retrying) → row.retryCount < 5 →
        ∃ x, d.At q x := fun hs hcount =>
      ⟨.selected, row, mem_selected.mpr ⟨⟨q.id, h.issued q hq, hrow⟩, hs, hcount⟩, hid, hkey⟩
    rw [Device.StatusSound] at hsound
    cases hs : row.status with
    | localOnly =>
      rw [hs] at hsound
      have hcount : row.retryCount = 0 := hsound
      exact hselected (.inl hs) (by omega)
    | syncing => exact absurd hs (hstatus row hrow)
    | synced =>
      rw [hs] at hsound
      exact hsound.elim
    | retrying =>
      by_cases hcount : row.retryCount < 5
      · exact hselected (.inr hs) hcount
      · have hle := hknown.counted
        rw [hid] at hle
        exact ⟨.exhausted, row, hrow, hs, by omega, by omega⟩
    | conflict =>
      rw [hs] at hsound
      exact ⟨.settled, row, hrow, .inl ⟨hs, Device.Answered.of_key hsound hkey⟩⟩
    | failed =>
      rw [hs] at hsound
      exact ⟨.settled, row, hrow, .inr ⟨hs, Device.Answered.of_key hsound hkey⟩⟩

/-- What the row of an operation shows in each situation. -/
def Situation.shows (row : Option SyncQueueItem) : Situation → Prop
  | .removed => row = none
  | .settled => ∃ r, row = some r ∧ (r.status = .conflict ∨ r.status = .failed)
  | .exhausted => ∃ r, row = some r ∧ r.status = .retrying ∧ 5 ≤ r.retryCount
  | .selected => ∃ r, row = some r ∧ (r.status = .localOnly ∨ r.status = .retrying) ∧ r.retryCount < 5

theorem shows_of_at (h : d.Sound) {x : Situation} (hx : d.At q x) :
    x.shows (d.db.syncQueue q.id) := by
  cases x with
  | removed => exact hx.1
  | settled =>
    obtain ⟨row, hrow, hs⟩ := hx
    exact ⟨row, hrow, hs.imp And.left And.left⟩
  | exhausted =>
    obtain ⟨row, hrow, hs, hcount, _⟩ := hx
    exact ⟨row, hrow, hs, hcount⟩
  | selected =>
    obtain ⟨row, hmem, hid, _⟩ := hx
    exact ⟨row, row_of_selected h hmem hid, (mem_selected.mp hmem).2⟩

theorem shows_unique {row : Option SyncQueueItem} {x y : Situation} (hx : x.shows row)
    (hy : y.shows row) : x = y := by
  cases x <;> cases y <;> simp only [Situation.shows] at hx hy <;> grind

/-- An operation is in exactly one situation unless it is marked as being sent. -/
theorem one_situation_iff (h : d.Sound) (hq : q ∈ d.queued) :
    (∃! x, d.At q x) ↔ ∀ row, d.db.syncQueue q.id = some row → row.status ≠ .syncing := by
  constructor
  · rintro ⟨x, hx, _⟩ row hrow hs
    have hshows := shows_of_at h hx
    rw [hrow] at hshows
    cases x <;> simp [Situation.shows, hs] at hshows
  · intro hstatus
    obtain ⟨x, hx⟩ := exists_situation h hq hstatus
    exact ⟨x, hx, fun y hy => shows_unique (shows_of_at h hy) (shows_of_at h hx)⟩

end Situations

/-! ## Operations that are marked as being sent -/

/-- Each operation that is marked as being sent is in the hands of a call. -/
def Attended (c : Config Device Phase) : Prop :=
  ∀ id row, c.store.db.syncQueue id = some row → row.status = .syncing → ∃ i, (c.parties i).Has id

theorem kept_iff_attended {c : Config Device Phase} (h : c.store.Sound) : Kept c ↔ Attended c := by
  constructor
  · intro hkept id row hrow hs
    obtain ⟨hid, ⟨⟨q, hq, hqid, _⟩, _⟩, _⟩ := h.rows id row hrow
    have heq : q.id = id := hqid.trans hid
    subst heq
    rcases hkept q hq with hone | ⟨_, hhas⟩
    · exact absurd hs ((one_situation_iff h hq).mp hone row hrow)
    · exact hhas
  · intro hattended q hq
    by_cases hs : ∃ row, c.store.db.syncQueue q.id = some row ∧ row.status = .syncing
    · obtain ⟨row, hrow, hstatus⟩ := hs
      exact .inr ⟨⟨row, hrow, hstatus⟩, hattended q.id row hrow hstatus⟩
    · refine .inl ((one_situation_iff h hq).mpr fun row hrow hstatus => ?_)
      exact hs ⟨row, hrow, hstatus⟩

section Step

variable {act : Action} {d d' : Device} {p p' : Phase}

/-- An operation that is marked as being sent after a turn is in the hands of the call, or was
marked before; the call keeps what it has in its hands. -/
theorem syncing_cases (hstep : SyncStep d act p d' p') {id : Nat} {row' : SyncQueueItem}
    (hrow : d'.db.syncQueue id = some row') (hs : row'.status = .syncing) :
    p'.Has id ∨ (∃ row, d.db.syncQueue id = some row ∧ row.status = .syncing) ∧
      (p.Has id → p'.Has id ∨ act = .terminate) := by
  cases hstep with
  | queued act p logs o key =>
    have hget : (d.db.syncQueue id = some row' ∨ row' = o.item key d.db.nextId) := by
      change Function.update d.db.syncQueue d.db.nextId (some (o.item key d.db.nextId)) id = _ at hrow
      rw [Function.update_apply] at hrow
      split at hrow
      · exact .inr (Option.some.inj hrow).symm
      · exact .inl hrow
    rcases hget with hold | rfl
    · exact .inr ⟨⟨row', hold, hs⟩, .inl⟩
    · cases hs
  | configured => exact .inr ⟨⟨row', hrow, hs⟩, .inl⟩
  | selected => exact .inr ⟨⟨row', hrow, hs⟩, False.elim⟩
  | finished => exact .inr ⟨⟨row', hrow, hs⟩, False.elim⟩
  | marked item stage todo hstage =>
    change (d.db.updateItem _ _).syncQueue id = some row' at hrow
    rw [syncQueue_updateItem] at hrow
    split at hrow
    · next heq => exact .inl heq.symm
    · exact .inr ⟨⟨row', hrow, hs⟩, False.elim⟩
  | passed => exact .inr ⟨⟨row', hrow, hs⟩, .inl⟩
  | packed item payload todo =>
    change (d.db.updateItem _ _).syncQueue id = some row' at hrow
    rw [syncQueue_updateItem] at hrow
    split at hrow
    · next heq => exact .inl heq.symm
    · exact .inr ⟨⟨row', hrow, hs⟩, .inl⟩
  | answered => exact .inr ⟨⟨row', hrow, hs⟩, .inl⟩
  | closed item e todo =>
    have hne : id ≠ item.id ∧ d.db.syncQueue id = some row' := by
      change (e.close item d.db).syncQueue id = some row' at hrow
      unfold Ending.close at hrow
      split at hrow
      · split at hrow
        · rw [syncQueue_deleteItem] at hrow
          split at hrow
          · cases hrow
          · next hne => exact ⟨hne, hrow⟩
        · rw [syncQueue_updateItem] at hrow
          split at hrow
          · obtain ⟨row, _, rfl⟩ := Option.map_eq_some_iff.mp hrow
            simp only at hs
            split at hs <;> cases hs
          · next hne => exact ⟨hne, hrow⟩
      · rw [syncQueue_updateItem] at hrow
        split at hrow
        · obtain ⟨row, _, rfl⟩ := Option.map_eq_some_iff.mp hrow
          cases hs
        · next hne => exact ⟨hne, hrow⟩
    exact .inr ⟨⟨row', hne.2, hs⟩, fun hhas => absurd hhas.symm hne.1⟩
  | terminated => exact .inr ⟨⟨row', hrow, hs⟩, fun _ => .inr rfl⟩

/-- A call is done with an operation once it is answered or a failure is counted. -/
theorem handled_step {item : SyncQueueItem} {stage : Stage} {todo : List SyncQueueItem}
    (hp : Carries 0 d (.sending item stage todo))
    (hstep : SyncStep d act (.sending item stage todo) d' (.ready todo)) :
    d.Answered item (fun _ => True) ∨ d'.failures = d.failures ++ [item.id] := by
  cases hstep with
  | closed item e todo =>
    cases e with
    | answered result =>
      obtain ⟨a, ha, hkey, _⟩ := hp.2.1 result rfl
      exact .inl ⟨a, ha, hkey, trivial⟩
    | threw error => exact .inr rfl

end Step

/-! ## Every run -/

section Moves

variable {c : Config Device Phase} {m : Nat × Action}

theorem attended_move (h : Attended c) (hunbroken : Unbroken c m) :
    Attended (move syncTurn c m) := by
  rcases move_cases syncTurn c m with heq | ⟨d, p, hturn, heq⟩
  · rw [heq]; exact h
  rw [heq]
  intro id row hrow hs
  have hothers : ∀ j, j ≠ m.1 → (c.parties j).Has id →
      ∃ i, (Function.update c.parties m.1 p i).Has id := by
    intro j hj hhas
    refine ⟨j, ?_⟩
    rw [Function.update_of_ne hj]
    exact hhas
  have hown : p.Has id → ∃ i, (Function.update c.parties m.1 p i).Has id := by
    intro hhas
    refine ⟨m.1, ?_⟩
    rw [Function.update_self]
    exact hhas
  rcases syncing_cases (syncStep_of_turn hturn) hrow hs with hhas | ⟨⟨old, hold, hstatus⟩, hkeeps⟩
  · exact hown hhas
  · obtain ⟨j, hj⟩ := h id old hold hstatus
    by_cases hjm : j = m.1
    · subst hjm
      rcases hkeeps hj with hhas | hterminate
      · exact hown hhas
      · cases hp : c.parties m.1 with
        | sending item stage todo =>
          rw [hp] at hj
          rw [Unbroken, hterminate, hp] at hunbroken
          have hid : item.id = id := hj
          obtain ⟨k, hk, hhas⟩ := hunbroken old (hid ▸ hold) hstatus
          exact hothers k hk (hid ▸ hhas)
        | idle => rw [hp] at hj; exact hj.elim
        | ready todo => rw [hp] at hj; exact hj.elim
    · exact hothers j hjm hj

theorem handled_move (h : Holds Device.Sound Carries c) : Handled c m := by
  intro item stage todo hp hready
  rcases move_cases syncTurn c m with heq | ⟨d, p, hturn, heq⟩
  · rw [heq, hp] at hready
    cases hready
  · rw [heq] at hready ⊢
    simp only [Function.update_self] at hready
    subst hready
    have hstep := syncStep_of_turn hturn
    have hparty := h.party m.1
    rw [hp] at hstep hparty
    exact handled_step hparty hstep

/-- A termination that leaves every operation attended is none that `Unbroken` excludes. -/
theorem unbroken_of_attended (h : Attended (move syncTurn c m)) : Unbroken c m := by
  unfold Unbroken
  split
  · next item stage todo hact hp =>
    intro row hrow hs
    have heq : move syncTurn c m = ⟨c.store, Function.update c.parties m.1 .idle⟩ := by
      rw [move, hact, hp]
      rfl
    rw [heq] at h
    obtain ⟨j, hj⟩ := h item.id row hrow hs
    have hne : j ≠ m.1 := by
      rintro rfl
      simp only [Function.update_self] at hj
      exact hj
    simp only [Function.update_of_ne hne] at hj
    exact ⟨j, hne, hj⟩
  · trivial

end Moves

/-- No operation is lost in a run exactly if no termination leaves one that is marked as being sent
without a call that sends it. -/
theorem loses_nothing_iff (ms : List (Nat × Action)) :
    Run.Along (move syncTurn) LosesNothing deviceStart ms ↔
      Run.Along (move syncTurn) Unbroken deviceStart ms := by
  have hstart : Holds Device.Sound Carries deviceStart ∧ Attended deviceStart :=
    ⟨deviceStart_holds, fun _ _ hrow => absurd hrow (Option.some_ne_none _).symm⟩
  constructor <;> refine Run.along_inv (I := fun c => Holds Device.Sound Carries c ∧ Attended c)
    ?_ ?_ hstart
  · intro c m hI h
    have hmove := holds_sync_move (m := m) hI.1
    exact ⟨hmove, (kept_iff_attended hmove.store).mp h.1⟩
  · intro c m hI h
    exact unbroken_of_attended ((kept_iff_attended (holds_sync_move hI.1).store).mp h.1)
  · intro c m hI h
    exact ⟨holds_sync_move hI.1, attended_move hI.2 h⟩
  · intro c m hI h
    exact ⟨(kept_iff_attended (holds_sync_move hI.1).store).mpr (attended_move hI.2 h),
      handled_move hI.1⟩

/-- The app is terminated after the first write of a sync. -/
def killedSync : List (Nat × Action) :=
  [(0, .queueOperation ⟨"trip_1", .create, .trip, []⟩ "key-1"), (0, .process), (0, .next),
    (0, .terminate)]

/-- The operation stays marked as being sent, and no sync selects it. -/
theorem lost_while_syncing : ¬ Run.Along (move syncTurn) LosesNothing deviceStart killedSync := by
  rintro ⟨-, -, -, ⟨hkept, -⟩, -⟩
  obtain ⟨i, hi⟩ := (kept_iff_attended (deviceRun_holds killedSync).store).mp hkept 1 _ rfl rfl
  cases i with
  | zero => exact hi
  | succ i => exact hi

end DriverApp
end Rotas
