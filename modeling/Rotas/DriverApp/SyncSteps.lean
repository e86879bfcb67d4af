import Rotas.DriverApp.SyncTurns

/-!
# Rotas.DriverApp.SyncSteps

What a turn of the driver app does.

* `SyncStep` — the turns, and `syncStep_of_turn`.
* `Device.Sound`, `Carries` — the rows, the answers and the calls agree.
* `deviceRun_holds` — they do in every run.
-/

namespace Rotas
namespace DriverApp

open Interleave

/-- The server has answered the operation with such a status. -/
def Device.Answered (d : Device) (item : SyncQueueItem) (verdict : String → Prop) : Prop :=
  ∃ a ∈ d.answers, a.1.idempotencyKey = item.idempotencyKey ∧ verdict a.2.status

def Conflict (status : String) : Prop := status = "conflict"

def Failed (status : String) : Prop := status ≠ "processed" ∧ status ≠ "conflict"

/-! ## The invariant -/

/-- The operation is one that was queued, and each of its retries was counted. -/
structure Device.Known (d : Device) (item : SyncQueueItem) : Prop where
  queued : ∃ q ∈ d.queued, q.id = item.id ∧ q.idempotencyKey = item.idempotencyKey
  counted : item.retryCount ≤ d.failures.count item.id

/-- What the status of a row says. -/
def Device.StatusSound (d : Device) (row : SyncQueueItem) : Prop :=
  match row.status with
  | .localOnly => row.retryCount = 0
  | .syncing | .retrying => True
  | .synced => False
  | .conflict => d.Answered row Conflict
  | .failed => d.Answered row Failed

structure Device.Sound (d : Device) : Prop where
  issued : ∀ q ∈ d.queued, q.id < d.db.nextId
  oneKey : ∀ q ∈ d.queued, ∀ q' ∈ d.queued, q.id = q'.id → q.idempotencyKey = q'.idempotencyKey
  rows : ∀ id row, d.db.syncQueue id = some row → row.id = id ∧ d.Known row ∧ d.StatusSound row
  removed : ∀ q ∈ d.queued, d.db.syncQueue q.id = none → d.Answered q (· = "processed")

/-- The answer that an operation ends with is one that the server gave. -/
def Ending.Sound (e : Ending) (d : Device) (item : SyncQueueItem) : Prop :=
  ∀ result, e = .answered result → d.Answered item (· = result.status)

def Stage.Sound (d : Device) (item : SyncQueueItem) : Stage → Prop
  | .posted request => request.idempotencyKey = item.idempotencyKey
  | .ended e | .logged e _ | .closing e => e.Sound d item
  | _ => True

/-- A call sends operations that were queued. -/
def Carries (_ : Nat) (d : Device) : Phase → Prop
  | .idle => True
  | .ready todo => ∀ item ∈ todo, d.Known item
  | .sending item stage todo => d.Known item ∧ stage.Sound d item ∧ ∀ item ∈ todo, d.Known item

theorem mem_selected {db : DriverDb} {row : SyncQueueItem} :
    row ∈ db.selected ↔ (∃ id < db.nextId, db.syncQueue id = some row) ∧
      (row.status = .localOnly ∨ row.status = .retrying) ∧ row.retryCount < 5 := by
  simp only [DriverDb.selected, List.mem_filter, List.mem_append, List.mem_filterMap,
    List.mem_range, decide_eq_true_eq, ← and_or_left, and_assoc]

theorem Device.Answered.of_key {d : Device} {item item' : SyncQueueItem} {verdict : String → Prop}
    (h : d.Answered item verdict) (hkey : item.idempotencyKey = item'.idempotencyKey) :
    d.Answered item' verdict := by
  obtain ⟨a, ha, heq, hverdict⟩ := h
  exact ⟨a, ha, heq.trans hkey, hverdict⟩

/-! ## The turns -/

/-- What a turn does with the queue and with what is counted: the phase before, the device and the
phase after. -/
inductive SyncStep (d : Device) : Action → Phase → Device → Phase → Prop where
  | queued (act : Action) (p : Phase) (logs : List PendingFuelLogItem) (o : NewOperation)
      (key : String) :
      SyncStep d act p ({ d with db.pendingFuelLogs := logs }.queueOperation o key) p
  | configured (act : Action) (p : Phase) (photos : List PhotoQueueItem)
      (tenantId deviceId : Option String) :
      SyncStep d act p { d with db.photoQueue := photos, tenantId, deviceId } p
  | selected : SyncStep d .process .idle d (.ready d.db.selected)
  | finished : SyncStep d .next (.ready []) d .idle
  | marked (item : SyncQueueItem) (stage : Stage) (todo : List SyncQueueItem)
      (hstage : ∀ d', stage.Sound d' item) :
      SyncStep d .next (.ready (item :: todo))
        { d with db := d.db.updateItem item.id markSyncing } (.sending item stage todo)
  | passed (act : Action) (item : SyncQueueItem) (stage stage' : Stage) (todo : List SyncQueueItem)
      (photos : List PhotoQueueItem) (logs : List PendingFuelLogItem)
      (hstage : ∀ d', stage.Sound d' item → stage'.Sound d' item) :
      SyncStep d act (.sending item stage todo)
        { d with db.photoQueue := photos, db.pendingFuelLogs := logs } (.sending item stage' todo)
  | packed (item : SyncQueueItem) (payload : Payload) (todo : List SyncQueueItem) :
      SyncStep d .next (.sending item (.packed payload) todo)
        { d with db := d.db.updateItem item.id fun row => { row with payload } }
        (.sending item (.posting payload) todo)
  | answered (item : SyncQueueItem) (request : SyncRequest) (reply : Reply (List SyncResult))
      (todo : List SyncQueueItem) :
      SyncStep d (.batchReply reply) (.sending item (.posted request) todo)
        { d with answers := d.answers ++ answersOf request reply }
        (.sending item ((batchEnding reply).stage item) todo)
  | closed (item : SyncQueueItem) (e : Ending) (todo : List SyncQueueItem) :
      SyncStep d .next (.sending item (.closing e) todo)
        { d with db := e.close item d.db, failures := d.failures ++ e.failures item } (.ready todo)
  | terminated (p : Phase) : SyncStep d .terminate p d .idle

theorem Ending.stage_sound {e : Ending} {d : Device} {item item' : SyncQueueItem} :
    (e.stage item').Sound d item ↔ e.Sound d item := by
  unfold Ending.stage
  split <;> exact Iff.rfl

theorem threw_sound (error : String) (d : Device) (item : SyncQueueItem) :
    (Ending.threw error).Sound d item := fun _ h => by cases h

theorem firstStage_sound (item : SyncQueueItem) (tenantId : Option String) (d : Device) :
    (firstStage item tenantId).Sound d item := by
  unfold firstStage
  split
  · exact Ending.stage_sound.mpr (threw_sound _ d item)
  · split <;> trivial

theorem nextPhoto_sound (d : Device) (item item' : SyncQueueItem) (photos : List PhotoQueueItem) :
    ∀ payload, (nextPhoto item' payload photos).Sound d item := by
  induction photos with
  | nil => intro payload; trivial
  | cons photo rest ih =>
    intro payload
    unfold nextPhoto
    split
    · exact ih _
    · trivial

section Turns

variable {act : Action} {d d' : Device} {p p' : Phase} {item : SyncQueueItem} {stage : Stage}

theorem syncStep_of_send {stage' : Option Stage} (todo : List SyncQueueItem)
    (h : sendTurn act d item stage = some (d', stage')) : SyncStep d act (.sending item stage todo) d'
      (match stage' with
        | some stage' => .sending item stage' todo
        | none => .ready todo) := by
  unfold sendTurn at h
  split at h
  · cases h
    exact .passed _ _ _ _ _ _ _ fun d' _ => nextPhoto_sound d' ..
  · cases h
    exact .passed _ _ _ _ _ _ _ fun _ _ => trivial
  · cases h
    exact .passed _ _ _ _ _ _ _ fun d' _ => Ending.stage_sound.mpr (threw_sound _ d' _)
  · cases h
    exact .passed _ _ _ _ _ _ _ fun _ _ => trivial
  · cases h
    exact .passed _ _ _ _ _ _ _ fun _ _ => trivial
  · cases h
    exact .passed _ _ _ _ _ _ _ fun d' _ => Ending.stage_sound.mpr (threw_sound _ d' _)
  · cases h
    exact .passed _ _ _ _ _ _ _ fun d' _ => nextPhoto_sound d' ..
  · cases h
    exact .packed ..
  · cases h
    exact .passed _ _ _ _ _ _ _ fun _ _ => rfl
  · cases h
    exact .answered ..
  · next e =>
    rcases hfind : d.db.pendingFuelLogs.find? fun l => l.input.localId = item.localId with _ | l
    · simp only [hfind, Option.some.injEq, Prod.mk.injEq] at h
      obtain ⟨rfl, rfl⟩ := h
      exact .passed _ _ _ _ _ _ _ fun _ => id
    · simp only [hfind, Option.some.injEq, Prod.mk.injEq] at h
      obtain ⟨rfl, rfl⟩ := h
      exact .passed _ _ _ _ _ _ _ fun _ => id
  · cases h
    exact .passed _ _ _ _ _ _ _ fun _ => id
  · cases h
    exact .closed ..
  · cases h

theorem syncStep_of_turn {i : Nat} (h : syncTurn i act d p = some (d', p')) :
    SyncStep d act p d' p' := by
  unfold syncTurn at h
  split at h
  · cases h; exact .queued _ _ d.db.pendingFuelLogs _ _
  · cases h; exact .queued ..
  · cases h; exact .configured _ _ _ d.tenantId d.deviceId
  · cases h; exact .configured _ _ d.db.photoQueue _ _
  · cases h; exact .selected
  · cases h; exact .finished
  · cases h; exact .marked _ _ _ (firstStage_sound _ _)
  · cases h; exact .terminated _
  · obtain ⟨⟨d₁, stage'⟩, hsend, heq⟩ := Option.map_eq_some_iff.mp h
    cases stage' <;> cases heq <;> exact syncStep_of_send _ hsend
  · cases h

end Turns

/-! ## What the turns keep -/

/-- What was queued, answered and counted stays. -/
structure Grows (d d' : Device) : Prop where
  queued : ∀ q ∈ d.queued, q ∈ d'.queued
  answers : ∀ a ∈ d.answers, a ∈ d'.answers
  failures : ∀ id, d.failures.count id ≤ d'.failures.count id

section Growth

variable {d d' : Device} {item : SyncQueueItem}

theorem Device.Answered.grows {verdict : String → Prop} (h : d.Answered item verdict)
    (hg : Grows d d') : d'.Answered item verdict := by
  obtain ⟨a, ha, hverdict⟩ := h
  exact ⟨a, hg.answers a ha, hverdict⟩

theorem Device.Known.grows (h : d.Known item) (hg : Grows d d') : d'.Known item := by
  obtain ⟨⟨q, hq, hkey⟩, hcounted⟩ := h
  exact ⟨⟨q, hg.queued q hq, hkey⟩, hcounted.trans (hg.failures item.id)⟩

theorem Device.StatusSound.grows (h : d.StatusSound item) (hg : Grows d d') :
    d'.StatusSound item := by
  rw [Device.StatusSound] at h ⊢
  cases hs : item.status with
  | conflict => rw [hs] at h; exact Device.Answered.grows h hg
  | failed => rw [hs] at h; exact Device.Answered.grows h hg
  | _ => rw [hs] at h; exact h

theorem Ending.Sound.grows {e : Ending} (h : e.Sound d item) (hg : Grows d d') :
    e.Sound d' item := fun result he => (h result he).grows hg

theorem Stage.Sound.grows {stage : Stage} (h : stage.Sound d item) (hg : Grows d d') :
    stage.Sound d' item := by
  cases stage with
  | posted request => exact h
  | ended e | logged e id | closing e => exact Ending.Sound.grows h hg
  | _ => trivial

theorem Carries.grows {i : Nat} {p : Phase} (h : Carries i d p) (hg : Grows d d') :
    Carries i d' p := by
  cases p with
  | idle => trivial
  | ready todo => exact fun item hitem => (h item hitem).grows hg
  | sending item stage todo =>
    exact ⟨h.1.grows hg, h.2.1.grows hg, fun x hx => (h.2.2 x hx).grows hg⟩

end Growth

section Step

variable {act : Action} {d d' : Device} {p p' : Phase}

theorem SyncStep.grows (h : SyncStep d act p d' p') : Grows d d' := by
  cases h with
  | queued => exact ⟨fun _ => List.mem_append_left _, fun _ => id, fun _ => le_rfl⟩
  | answered => exact ⟨fun _ => id, fun _ => List.mem_append_left _, fun _ => le_rfl⟩
  | closed item e todo =>
    refine ⟨fun _ => id, fun _ => id, fun id => ?_⟩
    change d.failures.count id ≤ (d.failures ++ e.failures item).count id
    rw [List.count_append]
    exact Nat.le_add_right _ _
  | _ => exact ⟨fun _ => id, fun _ => id, fun _ => le_rfl⟩

theorem syncQueue_updateItem (db : DriverDb) (id id' : Nat) (f : SyncQueueItem → SyncQueueItem) :
    (db.updateItem id f).syncQueue id' =
      if id' = id then (db.syncQueue id').map f else db.syncQueue id' := by
  unfold DriverDb.updateItem
  simp only [Function.update_apply]
  split
  · next heq => rw [heq]
  · rfl

theorem syncQueue_deleteItem (db : DriverDb) (id id' : Nat) :
    (db.deleteItem id).syncQueue id' = if id' = id then none else db.syncQueue id' :=
  Function.update_apply ..

theorem Device.Sound.write (h : d.Sound) (hg : Grows d d') (hqueued : d'.queued = d.queued)
    (hnext : d'.db.nextId = d.db.nextId)
    (hrows : ∀ id row, d'.db.syncQueue id = some row →
      row.id = id ∧ d'.Known row ∧ d'.StatusSound row)
    (hremoved : ∀ q ∈ d.queued, d'.db.syncQueue q.id = none →
      d.db.syncQueue q.id = none ∨ d'.Answered q (· = "processed")) : d'.Sound where
  issued := by
    rw [hqueued, hnext]
    exact h.issued
  oneKey := by
    rw [hqueued]
    exact h.oneKey
  rows := hrows
  removed := by
    rw [hqueued]
    intro q hq hnone
    rcases hremoved q hq hnone with hold | hanswered
    · exact (h.removed q hq hold).grows hg
    · exact hanswered

theorem Device.Sound.same (h : d.Sound) (hg : Grows d d') (hqueued : d'.queued = d.queued)
    (hnext : d'.db.nextId = d.db.nextId) (hqueue : d'.db.syncQueue = d.db.syncQueue) : d'.Sound := by
  refine h.write hg hqueued hnext (fun id row hrow => ?_) (fun q hq hnone => .inl (hqueue ▸ hnone))
  obtain ⟨hid, hknown, hstatus⟩ := h.rows id row (hqueue ▸ hrow)
  exact ⟨hid, hknown.grows hg, hstatus.grows hg⟩

theorem Device.Sound.update (h : d.Sound) (hg : Grows d d') (hqueued : d'.queued = d.queued)
    {id : Nat} {f : SyncQueueItem → SyncQueueItem} (hdb : d'.db = d.db.updateItem id f)
    (hf : ∀ row, d.db.syncQueue id = some row → row.id = id → d.Known row → d.StatusSound row →
      (f row).id = id ∧ d'.Known (f row) ∧ d'.StatusSound (f row)) : d'.Sound := by
  refine h.write hg hqueued (by rw [hdb]; rfl) (fun id' row hrow => ?_) (fun q hq hnone => ?_)
  · rw [hdb, syncQueue_updateItem] at hrow
    split at hrow
    · next heq =>
      subst heq
      obtain ⟨old, hold, rfl⟩ := Option.map_eq_some_iff.mp hrow
      obtain ⟨hid, hknown, hstatus⟩ := h.rows _ old hold
      exact hf old hold hid hknown hstatus
    · obtain ⟨hid, hknown, hstatus⟩ := h.rows id' row hrow
      exact ⟨hid, hknown.grows hg, hstatus.grows hg⟩
  · rw [hdb, syncQueue_updateItem] at hnone
    split at hnone
    · exact .inl (Option.map_eq_none_iff.mp hnone)
    · exact .inl hnone

theorem Device.Sound.queue (h : d.Sound) (o : NewOperation) (key : String) :
    (d.queueOperation o key).Sound := by
  have hg : Grows d (d.queueOperation o key) := (SyncStep.queued .next .idle _ o key).grows
  have hmem : ∀ {q}, q ∈ (d.queueOperation o key).queued →
      q ∈ d.queued ∨ q = o.item key d.db.nextId := by
    intro q hq
    exact (List.mem_append.mp hq).imp_right List.mem_singleton.mp
  have hget : ∀ id, (d.queueOperation o key).db.syncQueue id =
      if id = d.db.nextId then some (o.item key d.db.nextId) else d.db.syncQueue id :=
    fun id => Function.update_apply ..
  refine ⟨fun q hq => ?_, fun q hq q' hq' heq => ?_, fun id row hrow => ?_, fun q hq hnone => ?_⟩
  · rcases hmem hq with hold | rfl
    · exact (h.issued q hold).trans (Nat.lt_succ_self _)
    · exact Nat.lt_succ_self _
  · rcases hmem hq with hold | rfl <;> rcases hmem hq' with hold' | rfl
    · exact h.oneKey q hold q' hold' heq
    · exact absurd heq (h.issued q hold).ne
    · exact absurd heq.symm (h.issued q' hold').ne
    · rfl
  · rw [hget] at hrow
    split at hrow
    · next heq =>
      cases hrow
      exact ⟨heq.symm, ⟨⟨_, List.mem_append_right _ (List.mem_singleton_self _), rfl, rfl⟩,
        Nat.zero_le _⟩, rfl⟩
    · obtain ⟨hid, hknown, hstatus⟩ := h.rows id row hrow
      exact ⟨hid, hknown.grows hg, hstatus.grows hg⟩
  · rw [hget] at hnone
    split at hnone
    · cases hnone
    · next hne =>
      rcases hmem hq with hold | rfl
      · exact (h.removed q hold hnone).grows hg
      · exact absurd rfl hne

theorem Known.key_eq {item row : SyncQueueItem} (h : d.Sound) (hitem : d.Known item)
    (hrow : d.Known row) (hid : row.id = item.id) : item.idempotencyKey = row.idempotencyKey := by
  obtain ⟨q, hq, hqid, hqkey⟩ := hitem.queued
  obtain ⟨q', hq', hqid', hqkey'⟩ := hrow.queued
  rw [← hqkey, ← hqkey']
  exact h.oneKey q hq q' hq' (hqid.trans (hid.symm.trans hqid'.symm))

theorem sound_close (h : d.Sound) {item : SyncQueueItem} {e : Ending} (hitem : d.Known item)
    (he : e.Sound d item) :
    Device.Sound { d with db := e.close item d.db, failures := d.failures ++ e.failures item } := by
  have hg := (SyncStep.closed (d := d) item e []).grows
  cases e with
  | answered result =>
    have hanswer := (he result rfl).grows hg
    by_cases hprocessed : result.status = "processed"
    · have hget : ∀ id, ((Ending.answered result).close item d.db).syncQueue id =
          if id = item.id then none else d.db.syncQueue id := by
        intro id
        rw [Ending.close, if_pos hprocessed, syncQueue_deleteItem]
      refine h.write hg rfl (by rw [Ending.close, if_pos hprocessed]; rfl) ?_ ?_
      · intro id row hrow
        rw [hget] at hrow
        split at hrow
        · cases hrow
        · obtain ⟨hid, hknown, hstatus⟩ := h.rows id row hrow
          exact ⟨hid, hknown.grows hg, hstatus.grows hg⟩
      · intro q hq hnone
        rw [hget] at hnone
        split at hnone
        · next heq =>
          obtain ⟨q', hq', hid, hkey⟩ := hitem.queued
          rw [hprocessed] at hanswer
          exact .inr (hanswer.of_key (hkey.symm.trans (h.oneKey q' hq' q hq (hid.trans heq.symm))))
        · exact .inl hnone
    · refine h.update hg rfl (if_neg hprocessed) fun row hrow hid hknown hstatus => ?_
      refine ⟨hid, ⟨(hknown.grows hg).queued, (hknown.grows hg).counted⟩, ?_⟩
      have hkey := Known.key_eq h hitem hknown hid
      by_cases hconflict : result.status = "conflict"
      · simp only [Device.StatusSound, if_pos hconflict]
        rw [hconflict] at hanswer
        exact hanswer.of_key hkey
      · simp only [Device.StatusSound, if_neg hconflict]
        obtain ⟨a, ha, heq, hs⟩ := hanswer
        exact ⟨a, ha, heq.trans hkey, by rw [hs]; exact hprocessed, by rw [hs]; exact hconflict⟩
  | threw error =>
    refine h.update hg rfl rfl fun row hrow hid hknown hstatus => ⟨hid, ⟨hknown.queued, ?_⟩, trivial⟩
    change item.retryCount + 1 ≤ (d.failures ++ [item.id]).count row.id
    rw [hid, List.count_append, List.count_singleton_self]
    exact Nat.succ_le_succ hitem.counted

theorem sound_step (h : d.Sound) (hp : Carries 0 d p) (hstep : SyncStep d act p d' p') :
    d'.Sound := by
  have hg := hstep.grows
  cases hstep with
  | queued act p logs o key =>
    have hlogs : Device.Sound { d with db.pendingFuelLogs := logs } :=
      h.same ⟨fun _ => id, fun _ => id, fun _ => le_rfl⟩ rfl rfl rfl
    exact hlogs.queue o key
  | configured => exact h.same hg rfl rfl rfl
  | selected => exact h
  | finished => exact h
  | marked item stage todo hstage =>
    exact h.update hg rfl rfl fun row hrow hid hknown hstatus =>
      ⟨hid, ⟨hknown.queued, hknown.counted⟩, trivial⟩
  | passed => exact h.same hg rfl rfl rfl
  | packed item payload todo =>
    exact h.update hg rfl rfl fun row hrow hid hknown hstatus =>
      ⟨hid, ⟨hknown.queued, hknown.counted⟩, hstatus⟩
  | answered => exact h.same hg rfl rfl rfl
  | closed item e todo => exact sound_close h hp.1 hp.2.1
  | terminated => exact h

theorem carries_step (h : d.Sound) (hp : Carries 0 d p) (hstep : SyncStep d act p d' p') :
    Carries 0 d' p' := by
  have hg := hstep.grows
  cases hstep with
  | queued => exact hp.grows hg
  | configured => exact hp.grows hg
  | selected =>
    intro item hitem
    obtain ⟨⟨id, _, hrow⟩, _⟩ := mem_selected.mp hitem
    exact (h.rows id item hrow).2.1
  | finished => trivial
  | marked item stage todo hstage =>
    exact ⟨(hp item List.mem_cons_self).grows hg, hstage _,
      fun x hx => (hp x (List.mem_cons_of_mem _ hx)).grows hg⟩
  | passed act item stage stage' todo photos logs hstage =>
    obtain ⟨hknown, hsound, htodo⟩ := hp.grows hg
    exact ⟨hknown, hstage _ hsound, htodo⟩
  | packed item payload todo =>
    obtain ⟨hknown, _, htodo⟩ := hp.grows hg
    exact ⟨hknown, trivial, htodo⟩
  | answered item request reply todo =>
    obtain ⟨hknown, hrequest, htodo⟩ := hp.grows hg
    refine ⟨hknown, Ending.stage_sound.mpr fun result hresult => ?_, htodo⟩
    unfold batchEnding at hresult
    split at hresult <;> cases hresult
    exact ⟨(request, result), List.mem_append_right _ (List.mem_singleton_self _), hrequest, rfl⟩
  | closed item e todo => exact (hp.grows hg).2.2
  | terminated => trivial

end Step

/-! ## Every run -/

theorem holds_sync_move {c : Config Device Phase} {m : Nat × Action}
    (h : Holds Device.Sound Carries c) : Holds Device.Sound Carries (move syncTurn c m) := by
  refine holds_move (C := fun _ _ => True) ?_ ?_ h trivial
  · intro c i act d p hI _ hturn
    have hstep := syncStep_of_turn hturn
    exact ⟨sound_step hI.store (hI.party i) hstep, carries_step hI.store (hI.party i) hstep⟩
  · intro c i act d p hI _ hturn j _
    exact Carries.grows (hI.party j) (syncStep_of_turn hturn).grows

theorem deviceStart_holds : Holds Device.Sound Carries deviceStart :=
  ⟨⟨fun _ hq => absurd hq List.not_mem_nil, fun _ hq => absurd hq List.not_mem_nil,
    fun _ _ hrow => absurd hrow (Option.some_ne_none _).symm,
    fun _ hq => absurd hq List.not_mem_nil⟩, fun _ => trivial⟩

theorem deviceRun_holds (ms : List (Nat × Action)) : Holds Device.Sound Carries (deviceRun ms) :=
  Run.exec_inv_all (fun _ _ => holds_sync_move) deviceStart_holds

end DriverApp
end Rotas
