import Rotas.DriverApp.PhotoFields
import Rotas.DriverApp.SyncSteps

/-!
# Rotas.DriverApp.PhotoTurns

What the turns of a call do with the photos of its operation.

* `Carried`    — a copy of an operation is as it was queued, or has the ids of all its photos.
* `Stage.Fits` — how far a call has come with the photos.
* `Orderly`    — photos come before their operation, and no two calls send one operation.
* `Keeps`      — photos that the server has stay as they are.
* `turn_sends` — a turn keeps all of it.
-/

namespace Rotas
namespace DriverApp

open Interleave

/-! ## Photos -/

def Device.photosOf (d : Device) (localId : String) : List PhotoQueueItem :=
  d.db.photoQueue.filter fun p => p.entityLocalId = localId

/-- The server has all of them. -/
def AllUp (photos : List PhotoQueueItem) : Prop := ∀ p ∈ photos, (truthy p.serverFileId).isSome

/-- The payload that an operation is sent with. -/
def SyncQueueItem.sentPayload (q : SyncQueueItem) (photos : List PhotoQueueItem) : Payload :=
  if q.entityType.hasPhotos then withPhotos q.entityType photos q.payload else q.payload

theorem withPhotos_again (entityType : EntityType) (photos : List PhotoQueueItem)
    (payload : Payload) : withPhotos entityType photos (withPhotos entityType photos payload) =
      withPhotos entityType photos payload :=
  (overwrites_withPhoto entityType).foldl_again photos payload

theorem withPhotos_append (entityType : EntityType) (photos photos' : List PhotoQueueItem)
    (payload : Payload) : withPhotos entityType (photos ++ photos') payload =
      withPhotos entityType photos' (withPhotos entityType photos payload) :=
  List.foldl_append

/-- A call goes on to the first photo that the server does not have. -/
theorem nextPhoto_eq (item : SyncQueueItem) (photos : List PhotoQueueItem) :
    ∀ payload, (AllUp photos ∧
      nextPhoto item payload photos = .packed (withPhotos item.entityType photos payload)) ∨
    ∃ done photo rest, photos = done ++ photo :: rest ∧ AllUp done ∧
      truthy photo.serverFileId = none ∧
      nextPhoto item payload photos =
        .photo (withPhotos item.entityType done payload) photo rest := by
  induction photos with
  | nil => intro payload; exact .inl ⟨fun _ hp => absurd hp List.not_mem_nil, rfl⟩
  | cons p photos ih =>
    intro payload
    cases hfile : truthy p.serverFileId with
    | none =>
      refine .inr ⟨[], p, photos, rfl, fun _ hp => absurd hp List.not_mem_nil, hfile, ?_⟩
      simp only [nextPhoto, hfile]
      rfl
    | some fileId =>
      have hnext : nextPhoto item payload (p :: photos) =
          nextPhoto item (withPhoto item.entityType payload p) photos := by
        simp only [nextPhoto, hfile, withPhoto]
      have hup : ∀ {ps : List PhotoQueueItem}, AllUp ps → AllUp (p :: ps) := by
        intro ps hps x hx
        rcases List.mem_cons.mp hx with rfl | hx
        · rw [hfile]; rfl
        · exact hps x hx
      rw [hnext]
      rcases ih (withPhoto item.entityType payload p) with ⟨hall, heq⟩ |
        ⟨done, photo, rest, rfl, hdone, hphoto, heq⟩
      · exact .inl ⟨hup hall, heq⟩
      · exact .inr ⟨p :: done, photo, rest, rfl, hup hdone, hphoto, heq⟩

/-! ## What fits -/

/-- A row or a copy of an operation that was queued, as it was or with the ids of all its photos. -/
structure Carried (photos : List PhotoQueueItem) (q item : SyncQueueItem) : Prop where
  id : item.id = q.id
  localId : item.localId = q.localId
  idempotencyKey : item.idempotencyKey = q.idempotencyKey
  operation : item.operation = q.operation
  entityType : item.entityType = q.entityType
  payload : item.payload = q.payload ∨ AllUp photos ∧ item.payload = q.sentPayload photos

def Device.Fits (d : Device) (item : SyncQueueItem) : Prop :=
  ∃ q ∈ d.queued, Carried (d.photosOf q.localId) q item

/-- The photo is the next one; the ids of those before it are in the payload. -/
structure Pending (photos : List PhotoQueueItem) (q item : SyncQueueItem) (payload : Payload)
    (photo : PhotoQueueItem) (rest : List PhotoQueueItem) : Prop where
  hasPhotos : q.entityType.hasPhotos
  waits : truthy photo.serverFileId = none
  split : ∃ done, photos = done ++ photo :: rest ∧ AllUp done ∧
    payload = withPhotos q.entityType done item.payload

/-- The payload is the one that the operation is sent with. -/
def Packed (photos : List PhotoQueueItem) (q : SyncQueueItem) (payload : Payload) : Prop :=
  (q.entityType.hasPhotos → AllUp photos) ∧ payload = q.sentPayload photos

/-- The photo as it is on its way. -/
def PhotoQueueItem.marked (p : PhotoQueueItem) : PhotoQueueItem := { p with status := .syncing }

/-- How far a call has come. -/
def Stage.Fits (photos : List PhotoQueueItem) (q item : SyncQueueItem) : Stage → Prop
  | .photos => q.entityType.hasPhotos
  | .photo payload p rest => Pending photos q item payload p rest
  | .upload payload p rest => Pending photos q item payload p.marked rest
  | .uploadRefused p _ => ∃ payload rest, Pending photos q item payload p.marked rest
  | .uploaded payload p fileId rest => Pending photos q item payload p.marked rest ∧ fileId ≠ ""
  | .packed payload | .posting payload => Packed photos q payload
  | .posted request => ∃ deviceId payload, Packed photos q payload ∧
      request = q.request deviceId payload
  | _ => True

/-- A call sends operations that were queued. -/
def Sends (_ : Nat) (d : Device) : Phase → Prop
  | .idle => True
  | .ready todo => ∀ item ∈ todo, d.Fits item
  | .sending item stage todo =>
    (∃ q ∈ d.queued, Carried (d.photosOf q.localId) q item ∧
      stage.Fits (d.photosOf q.localId) q item) ∧ ∀ item ∈ todo, d.Fits item

structure Stocked (d : Device) : Prop where
  photoIds : (d.db.photoQueue.map (·.id)).Nodup
  issued : ∀ q ∈ d.queued, q.id < d.db.nextId
  unique : ∀ q ∈ d.queued, ∀ q' ∈ d.queued, q.id = q'.id → q = q'
  rows : ∀ id row, d.db.syncQueue id = some row → row.id = id ∧ d.Fits row

/-- No two calls send operations with the same photos. -/
def Apart (c : Config Device Phase) : Prop :=
  ∀ i j, i ≠ j → ∀ item stage todo item' stage' todo', c.parties i = .sending item stage todo →
    c.parties j = .sending item' stage' todo' → item.localId ≠ item'.localId

/-- Photos are kept under a new key and before their operation is queued, an upload is answered
with an id, and a call takes up no operation that another one sends. -/
def Orderly (c : Config Device Phase) (m : Nat × Action) : Prop :=
  match m.2 with
  | .addPhoto photo => (∀ p ∈ c.store.db.photoQueue, p.id ≠ photo.id) ∧
      ∀ q ∈ c.store.queued, q.localId ≠ photo.entityLocalId
  | .uploadReply (.ok fileId) => fileId ≠ ""
  | .next => ∀ item todo, c.parties m.1 = .ready (item :: todo) →
      ∀ j item' stage todo', c.parties j = .sending item' stage todo' →
        item'.localId ≠ item.localId
  | _ => True

section Photos

variable {d : Device} {photos photos' : List PhotoQueueItem} {q item : SyncQueueItem}

theorem Carried.withPhotos_eq (h : Carried photos q item) (htype : q.entityType.hasPhotos) :
    withPhotos q.entityType photos item.payload = q.sentPayload photos := by
  rw [SyncQueueItem.sentPayload, if_pos htype]
  rcases h.payload with heq | ⟨_, heq⟩
  · rw [heq]
  · rw [heq, SyncQueueItem.sentPayload, if_pos htype, withPhotos_again]

/-- A copy still fits when photos that the server has stay as they are. -/
theorem Carried.congr (h : Carried photos q item) (hsame : AllUp photos → photos' = photos) :
    Carried photos' q item where
  id := h.id
  localId := h.localId
  idempotencyKey := h.idempotencyKey
  operation := h.operation
  entityType := h.entityType
  payload := by
    rcases h.payload with heq | ⟨hup, heq⟩
    · exact .inl heq
    · rw [hsame hup]
      exact .inr ⟨hup, heq⟩

theorem Carried.request_eq (h : Carried photos q item) (deviceId : Option String)
    (payload : Payload) : item.request deviceId payload = q.request deviceId payload := by
  simp only [SyncQueueItem.request, h.localId, h.idempotencyKey, h.operation, h.entityType]

/-- The rows of an operation change where one of its photos does. -/
theorem photosOf_updatePhoto {f : PhotoQueueItem → PhotoQueueItem}
    (hlocal : ∀ p, (f p).entityLocalId = p.entityLocalId) (id : Nat) (localId : String) :
    Device.photosOf { d with db := d.db.updatePhoto id f } localId =
      (d.photosOf localId).map fun p => if p.id = id then f p else p := by
  unfold Device.photosOf DriverDb.updatePhoto
  rw [List.filter_map]
  congr 1
  refine List.filter_congr fun p _ => ?_
  simp only [Function.comp_apply]
  split
  · rw [hlocal]
  · rfl

theorem photosOf_update_self {f : PhotoQueueItem → PhotoQueueItem} {localId : String}
    {photo : PhotoQueueItem} {done rest : List PhotoQueueItem} (h : Stocked d)
    (hlocal : ∀ p, (f p).entityLocalId = p.entityLocalId)
    (hsplit : d.photosOf localId = done ++ photo :: rest) :
    Device.photosOf { d with db := d.db.updatePhoto photo.id f } localId =
      done ++ f photo :: rest := by
  have hids : ((d.photosOf localId).map (·.id)).Nodup :=
    h.photoIds.sublist (List.filter_sublist.map _)
  rw [hsplit, List.map_append, List.map_cons, List.nodup_append] at hids
  obtain ⟨_, hrest, hdone⟩ := hids
  have hsame : ∀ ps : List PhotoQueueItem, (∀ p ∈ ps, p.id ≠ photo.id) →
      ps.map (fun p => if p.id = photo.id then f p else p) = ps := by
    intro ps hps
    refine (List.map_congr_left fun p hp => if_neg (hps p hp)).trans ?_
    exact List.map_id _
  rw [photosOf_updatePhoto hlocal, hsplit, List.map_append, List.map_cons, if_pos rfl,
    hsame done, hsame rest]
  · intro p hp heq
    exact (List.nodup_cons.mp hrest).1 (heq ▸ List.mem_map_of_mem hp)
  · intro p hp
    exact hdone _ (List.mem_map_of_mem hp) _ List.mem_cons_self

theorem photosOf_update_ne {f : PhotoQueueItem → PhotoQueueItem} {localId : String}
    {photo : PhotoQueueItem} (h : Stocked d) (hlocal : ∀ p, (f p).entityLocalId = p.entityLocalId)
    (hphoto : photo ∈ d.db.photoQueue) (hne : photo.entityLocalId ≠ localId) :
    Device.photosOf { d with db := d.db.updatePhoto photo.id f } localId = d.photosOf localId := by
  rw [photosOf_updatePhoto hlocal]
  refine (List.map_congr_left fun p hp => if_neg fun heq => hne ?_).trans (List.map_id _)
  obtain ⟨hmem, hp⟩ := List.mem_filter.mp hp
  have hsame : p = photo := List.inj_on_of_nodup_map h.photoIds hmem hphoto heq
  rw [← hsame]
  exact of_decide_eq_true hp

end Photos

/-! ## The turns -/

/-- What was queued stays, and the photos of an operation change only while it is sent and the
server does not have all of them. -/
structure Keeps (d : Device) (p : Phase) (d' : Device) : Prop where
  queued : ∀ q ∈ d.queued, q ∈ d'.queued
  photos : ∀ q ∈ d.queued, d'.photosOf q.localId = d.photosOf q.localId ∨
    (∃ item stage todo, p = .sending item stage todo ∧ item.localId = q.localId) ∧
      ¬AllUp (d.photosOf q.localId)
  kinds : ∀ q ∈ d.queued, (d'.photosOf q.localId).map (fun p => (p.fileType, p.fieldKey)) =
    (d.photosOf q.localId).map fun p => (p.fileType, p.fieldKey)

section Turns

variable {d d' : Device} {p p' : Phase} {q item : SyncQueueItem}

theorem Keeps.of_photoQueue (hqueued : ∀ q ∈ d.queued, q ∈ d'.queued)
    (hphotos : d'.db.photoQueue = d.db.photoQueue) : Keeps d p d' := by
  have hsame : ∀ localId, d'.photosOf localId = d.photosOf localId := by
    intro localId
    rw [Device.photosOf, hphotos, Device.photosOf]
  exact ⟨hqueued, fun q _ => .inl (hsame _), fun q _ => by rw [hsame]⟩

theorem Keeps.sealed (h : Keeps d p d') (hq : q ∈ d.queued) (hup : AllUp (d.photosOf q.localId)) :
    d'.photosOf q.localId = d.photosOf q.localId := by
  rcases h.photos q hq with heq | ⟨_, hnot⟩
  · exact heq
  · exact absurd hup hnot

theorem Device.Fits.keeps (h : d.Fits item) (hk : Keeps d p d') : d'.Fits item := by
  obtain ⟨q, hq, hcarried⟩ := h
  exact ⟨q, hk.queued q hq, hcarried.congr (hk.sealed hq)⟩

/-- A photo that the server does not have is written by the call that sends its operation. -/
theorem Keeps.update {f : PhotoQueueItem → PhotoQueueItem} {stage : Stage}
    {todo : List SyncQueueItem} {payload : Payload} {photo : PhotoQueueItem}
    {rest : List PhotoQueueItem} (hd : Stocked d)
    (hcarried : Carried (d.photosOf q.localId) q item)
    (hpending : Pending (d.photosOf q.localId) q item payload photo rest)
    (hf : ∀ p, (f p).entityLocalId = p.entityLocalId ∧ (f p).fileType = p.fileType ∧
      (f p).fieldKey = p.fieldKey) :
    Keeps d (.sending item stage todo) { d with db := d.db.updatePhoto photo.id f } := by
  obtain ⟨done, hsplit, hdone, _⟩ := hpending.split
  have hmem : photo ∈ d.photosOf q.localId := by
    rw [hsplit]
    exact List.mem_append_right _ List.mem_cons_self
  obtain ⟨hqueue, hlocal⟩ := List.mem_filter.mp hmem
  have hlocal : photo.entityLocalId = q.localId := of_decide_eq_true hlocal
  refine ⟨fun _ => id, fun q' hq' => ?_, fun q' hq' => ?_⟩
  · by_cases hsame : q'.localId = q.localId
    · rw [hsame]
      refine .inr ⟨⟨item, stage, todo, rfl, hcarried.localId⟩, fun hup => ?_⟩
      have hphoto := hup photo hmem
      rw [hpending.waits] at hphoto
      cases hphoto
    · exact .inl (photosOf_update_ne hd (fun p => (hf p).1) hqueue
        fun heq => hsame (heq.symm.trans hlocal))
  · rw [photosOf_updatePhoto (fun p => (hf p).1), List.map_map]
    refine List.map_congr_left fun p _ => ?_
    simp only [Function.comp_apply]
    split
    · rw [(hf p).2.1, (hf p).2.2]
    · rfl

theorem Stocked.keeps (h : Stocked d) (hk : Keeps d p d') (hqueued : d'.queued = d.queued)
    (hnext : d'.db.nextId = d.db.nextId) (hqueue : d'.db.syncQueue = d.db.syncQueue)
    (hphotos : (d'.db.photoQueue.map (·.id)).Nodup) : Stocked d' where
  photoIds := hphotos
  issued := by
    rw [hqueued, hnext]
    exact h.issued
  unique := by
    rw [hqueued]
    exact h.unique
  rows := by
    intro id row hrow
    obtain ⟨hid, hfits⟩ := h.rows id row (hqueue ▸ hrow)
    exact ⟨hid, hfits.keeps hk⟩

theorem Stocked.updatePhoto (h : Stocked d) {id : Nat} {f : PhotoQueueItem → PhotoQueueItem}
    (hf : ∀ p, (f p).id = p.id) (hk : Keeps d p { d with db := d.db.updatePhoto id f }) :
    Stocked { d with db := d.db.updatePhoto id f } := by
  refine h.keeps hk rfl rfl rfl ?_
  have hids : (d.db.updatePhoto id f).photoQueue.map (·.id) = d.db.photoQueue.map (·.id) := by
    rw [DriverDb.updatePhoto, List.map_map]
    refine List.map_congr_left fun p _ => ?_
    simp only [Function.comp_apply]
    split
    · rw [hf]
    · rfl
  rw [hids]
  exact h.photoIds

theorem Stocked.updateItem (h : Stocked d) {id : Nat} {f : SyncQueueItem → SyncQueueItem}
    (hf : ∀ row, row.id = id → d.Fits row → (f row).id = id ∧ d.Fits (f row)) :
    Stocked { d with db := d.db.updateItem id f } where
  photoIds := h.photoIds
  issued := h.issued
  unique := h.unique
  rows := by
    intro id' row hrow
    simp only [syncQueue_updateItem] at hrow
    split at hrow
    · next heq =>
      subst heq
      obtain ⟨old, hold, rfl⟩ := Option.map_eq_some_iff.mp hrow
      obtain ⟨hid, hfits⟩ := h.rows _ old hold
      exact hf old hid hfits
    · exact h.rows id' row hrow

theorem Device.Fits.marks (h : d.Fits item) {item' : SyncQueueItem} (hid : item'.id = item.id)
    (hlocal : item'.localId = item.localId) (hkey : item'.idempotencyKey = item.idempotencyKey)
    (hoperation : item'.operation = item.operation) (htype : item'.entityType = item.entityType)
    (hpayload : item'.payload = item.payload) : d.Fits item' := by
  obtain ⟨q, hq, hcarried⟩ := h
  exact ⟨q, hq, hid.trans hcarried.id, hlocal.trans hcarried.localId,
    hkey.trans hcarried.idempotencyKey, hoperation.trans hcarried.operation,
    htype.trans hcarried.entityType, by rw [hpayload]; exact hcarried.payload⟩

theorem Stocked.close (h : Stocked d) (e : Ending) (item : SyncQueueItem) (failures : List Nat) :
    Stocked { d with db := e.close item d.db, failures } := by
  have hupdate : ∀ f : SyncQueueItem → SyncQueueItem,
      (∀ row, (f row).id = row.id ∧ (f row).localId = row.localId ∧
        (f row).idempotencyKey = row.idempotencyKey ∧ (f row).operation = row.operation ∧
        (f row).entityType = row.entityType ∧ (f row).payload = row.payload) →
      Stocked { d with db := d.db.updateItem item.id f, failures } := by
    intro f hf
    refine Stocked.updateItem (d := { d with failures }) ⟨h.photoIds, h.issued, h.unique, h.rows⟩
      fun row hid hfits => ?_
    obtain ⟨h1, h2, h3, h4, h5, h6⟩ := hf row
    exact ⟨h1.trans hid, Device.Fits.marks hfits h1 h2 h3 h4 h5 h6⟩
  unfold Ending.close
  split
  · split
    · refine ⟨h.photoIds, h.issued, h.unique, fun id row hrow => ?_⟩
      simp only [syncQueue_deleteItem] at hrow
      split at hrow
      · cases hrow
      · exact h.rows id row hrow
    · exact hupdate _ fun row => ⟨rfl, rfl, rfl, rfl, rfl, rfl⟩
  · exact hupdate _ fun row => ⟨rfl, rfl, rfl, rfl, rfl, rfl⟩

/-- The photos before `rest` are in the payload, and the call goes on. -/
theorem nextPhoto_fits (done : List PhotoQueueItem) {photos rest : List PhotoQueueItem}
    (hcarried : Carried photos q item) (htype : q.entityType.hasPhotos)
    (hphotos : photos = done ++ rest) (hdone : AllUp done)
    (hend : withPhotos q.entityType photos item.payload = q.sentPayload photos) :
    (nextPhoto item (withPhotos q.entityType done item.payload) rest).Fits photos q item := by
  have hup : ∀ {ps : List PhotoQueueItem}, AllUp ps → AllUp (done ++ ps) := by
    intro ps hps p hp
    rcases List.mem_append.mp hp with hp | hp
    · exact hdone p hp
    · exact hps p hp
  rcases nextPhoto_eq item rest (withPhotos q.entityType done item.payload) with
    ⟨hrest, heq⟩ | ⟨done', photo, rest', rfl, hdone', hwaits, heq⟩
  · rw [heq, hcarried.entityType, ← withPhotos_append, ← hphotos]
    refine ⟨fun _ => ?_, hend⟩
    rw [hphotos]
    exact hup hrest
  · rw [heq, hcarried.entityType, ← withPhotos_append]
    exact ⟨htype, hwaits, done ++ done', by rw [hphotos, List.append_assoc], hup hdone', rfl⟩

theorem Ending.stage_fits (e : Ending) (photos : List PhotoQueueItem) (q item : SyncQueueItem) :
    (e.stage item).Fits photos q item := by
  unfold Ending.stage
  split <;> trivial

/-- What a turn of a call leaves of the operation that it sends. -/
structure Advances (d : Device) (p : Phase) (q item : SyncQueueItem) (d' : Device)
    (stage' : Option Stage) : Prop where
  stocked : Stocked d'
  keeps : Keeps d p d'
  carried : Carried (d'.photosOf q.localId) q item
  fits : ∀ stage, stage' = some stage → stage.Fits (d'.photosOf q.localId) q item

variable {stage : Stage}

theorem Advances.quiet (hd : Stocked d) (hcarried : Carried (d.photosOf q.localId) q item)
    {answers : List (SyncRequest × SyncResult)} {logs : List PendingFuelLogItem} {stage' : Stage}
    (hstage : stage'.Fits (d.photosOf q.localId) q item) :
    Advances d p q item { d with db.pendingFuelLogs := logs, answers } (some stage') where
  stocked := ⟨hd.photoIds, hd.issued, hd.unique, hd.rows⟩
  keeps := .of_photoQueue (fun _ => id) rfl
  carried := hcarried
  fits := by
    rintro _ ⟨⟩
    exact hstage

theorem Advances.photo (photo : PhotoQueueItem) {todo : List SyncQueueItem}
    {f : PhotoQueueItem → PhotoQueueItem} {payload : Payload} {rest : List PhotoQueueItem}
    {stage' : Stage} (hd : Stocked d)
    (hcarried : Carried (d.photosOf q.localId) q item)
    (hpending : Pending (d.photosOf q.localId) q item payload photo rest)
    (hf : ∀ p, (f p).id = p.id ∧ (f p).entityLocalId = p.entityLocalId ∧
      (f p).fileType = p.fileType ∧ (f p).fieldKey = p.fieldKey)
    (hstage : ∀ done, d.photosOf q.localId = done ++ photo :: rest → AllUp done →
      payload = withPhotos q.entityType done item.payload → item.payload = q.payload →
      Carried (done ++ f photo :: rest) q item →
      stage'.Fits (done ++ f photo :: rest) q item) :
    Advances d (.sending item stage todo) q item { d with db := d.db.updatePhoto photo.id f }
      (some stage') := by
  have hkeeps : Keeps d (.sending item stage todo)
      { d with db := d.db.updatePhoto photo.id f } :=
    .update hd hcarried hpending fun p => (hf p).2
  obtain ⟨done, hsplit, hdone, hpayload⟩ := hpending.split
  have hnot : ¬AllUp (d.photosOf q.localId) := by
    intro hup
    have hphoto := hup photo (hsplit ▸ List.mem_append_right _ List.mem_cons_self)
    rw [hpending.waits] at hphoto
    cases hphoto
  have hphotos := photosOf_update_self hd (fun p => (hf p).2.1) hsplit
  have hcarried' : Carried (done ++ f photo :: rest) q item :=
    hcarried.congr fun hup => absurd hup hnot
  refine ⟨hd.updatePhoto (fun p => (hf p).1) hkeeps, hkeeps, ?_, ?_⟩
  · rw [hphotos]
    exact hcarried'
  · rintro _ ⟨⟩
    rw [hphotos]
    refine hstage done hsplit hdone hpayload ?_ hcarried'
    rcases hcarried.payload with heq | ⟨hup, _⟩
    · exact heq
    · exact absurd hup hnot

theorem advances_uploaded {payload : Payload} {photo : PhotoQueueItem} {fileId : String}
    {rest : List PhotoQueueItem} (todo : List SyncQueueItem) (hd : Stocked d)
    (hcarried : Carried (d.photosOf q.localId) q item)
    (hfits : (Stage.uploaded payload photo fileId rest).Fits (d.photosOf q.localId) q item) :
    Advances d (.sending item (.uploaded payload photo fileId rest) todo) q item
      { d with db := d.db.updatePhoto photo.id fun p =>
          { p with status := .synced, serverFileId := some fileId } }
      (some (nextPhoto item
        (applyPhotoFileId payload item.entityType photo.fileType fileId photo.fieldKey) rest)) := by
  obtain ⟨hpending, hfile⟩ := hfits
  refine .photo photo.marked hd hcarried hpending (fun p => ⟨rfl, rfl, rfl, rfl⟩) ?_
  intro done hsplit hdone hpayload hbase hcarried'
  -- The photo is up now, and its id is the last one of the payload.
  have hphoto : truthy (some fileId) = some fileId := by simp [truthy, hfile]
  have hdone' : AllUp
      (done ++ [{ photo with status := .synced, serverFileId := some fileId }]) := by
    intro p hp
    rcases List.mem_append.mp hp with hp | hp
    · exact hdone p hp
    · rw [List.mem_singleton.mp hp, hphoto]
      rfl
  have hpayload' : applyPhotoFileId payload item.entityType photo.fileType fileId photo.fieldKey =
      withPhotos q.entityType
        (done ++ [{ photo with status := .synced, serverFileId := some fileId }])
        item.payload := by
    rw [withPhotos_append, ← hpayload, hcarried.entityType]
    simp only [withPhotos, List.foldl_cons, List.foldl_nil, withPhoto, hphoto]
  rw [hpayload']
  refine nextPhoto_fits _ hcarried' hpending.hasPhotos (by simp [PhotoQueueItem.marked]) hdone' ?_
  rw [SyncQueueItem.sentPayload, if_pos hpending.hasPhotos, hbase]

theorem advances_packed {payload : Payload} (hd : Stocked d) (hq : q ∈ d.queued)
    (hcarried : Carried (d.photosOf q.localId) q item)
    (hfits : Packed (d.photosOf q.localId) q payload) :
    Advances d p q item { d with db := d.db.updateItem item.id fun row => { row with payload } }
      (some (.posting payload)) := by
  refine ⟨hd.updateItem fun row hid hrow => ⟨hid, ?_⟩, .of_photoQueue (fun _ => id) rfl,
    hcarried, ?_⟩
  · obtain ⟨q', hq', hrow⟩ := hrow
    have hsame : q' = q := hd.unique q' hq' q hq (hrow.id.symm.trans (hid.trans hcarried.id))
    subst hsame
    refine ⟨q', hq', hrow.id, hrow.localId, hrow.idempotencyKey, hrow.operation,
      hrow.entityType, ?_⟩
    by_cases htype : q'.entityType.hasPhotos
    · exact .inr ⟨hfits.1 htype, hfits.2⟩
    · left
      rw [hfits.2, SyncQueueItem.sentPayload, if_neg htype]
  · rintro _ ⟨⟩
    exact hfits

theorem advances_close (e : Ending) (failures : List Nat) (hd : Stocked d)
    (hcarried : Carried (d.photosOf q.localId) q item) :
    Advances d p q item { d with db := e.close item d.db, failures } none := by
  have hphotos : (e.close item d.db).photoQueue = d.db.photoQueue := by
    unfold Ending.close
    split
    · split <;> rfl
    · rfl
  have hsame : ∀ localId, Device.photosOf { d with db := e.close item d.db, failures } localId =
      d.photosOf localId := by
    intro localId
    rw [Device.photosOf, hphotos, Device.photosOf]
  refine ⟨hd.close e item _, .of_photoQueue (fun _ => id) hphotos, ?_, fun _ hs => by cases hs⟩
  rw [hsame]
  exact hcarried

theorem send_advances {act : Action} (todo : List SyncQueueItem) {stage' : Option Stage}
    (hd : Stocked d)
    (hq : q ∈ d.queued) (hcarried : Carried (d.photosOf q.localId) q item)
    (hfits : stage.Fits (d.photosOf q.localId) q item)
    (hact : ∀ fileId, act = .uploadReply (.ok fileId) → fileId ≠ "")
    (h : sendTurn act d item stage = some (d', stage')) :
    Advances d (.sending item stage todo) q item d' stage' := by
  unfold sendTurn at h
  split at h
  · cases h
    rw [hcarried.localId]
    exact .quiet hd hcarried (nextPhoto_fits [] hcarried hfits rfl
      (fun _ hp => absurd hp List.not_mem_nil) (hcarried.withPhotos_eq hfits))
  · next payload photo rest =>
    cases h
    refine .photo photo hd hcarried hfits (fun p => ⟨rfl, rfl, rfl, rfl⟩) ?_
    intro done hsplit hdone hpayload _ _
    exact ⟨hfits.hasPhotos, hfits.waits, done, rfl, hdone, hpayload⟩
  · cases h
    exact .quiet hd hcarried (Ending.stage_fits _ _ _ _)
  · next status payload photo rest =>
    cases h
    exact .quiet hd hcarried ⟨payload, rest, hfits⟩
  · next fileId payload photo rest =>
    cases h
    exact .quiet hd hcarried ⟨hfits, hact fileId rfl⟩
  · next photo status =>
    cases h
    obtain ⟨payload, rest, hpending⟩ := hfits
    exact .photo photo.marked hd hcarried hpending (fun p => ⟨rfl, rfl, rfl, rfl⟩)
      fun _ _ _ _ _ _ => Ending.stage_fits _ _ _ _
  · next payload photo fileId rest =>
    cases h
    exact advances_uploaded todo hd hcarried hfits
  · next payload =>
    cases h
    exact advances_packed hd hq hcarried hfits
  · next payload =>
    cases h
    exact .quiet hd hcarried ⟨d.deviceId, payload, hfits, hcarried.request_eq _ _⟩
  · cases h
    exact .quiet hd hcarried (Ending.stage_fits _ _ _ _)
  · next e =>
    rcases hfind : d.db.pendingFuelLogs.find? fun l => l.input.localId = item.localId with _ | l
    · simp only [hfind, Option.some.injEq, Prod.mk.injEq] at h
      obtain ⟨rfl, rfl⟩ := h
      exact .quiet hd hcarried trivial
    · simp only [hfind, Option.some.injEq, Prod.mk.injEq] at h
      obtain ⟨rfl, rfl⟩ := h
      exact .quiet hd hcarried trivial
  · cases h
    exact .quiet hd hcarried trivial
  · next e =>
    cases h
    exact advances_close e _ hd hcarried
  · cases h

/-- The photos of what a call sends are as they were, unless the call that moves sends it too. -/
theorem Sends.keeps {i : Nat} {pm : Phase} (h : Sends i d p) (hk : Keeps d pm d')
    (hapart : ∀ item stage todo item' stage' todo', p = .sending item stage todo →
      pm = .sending item' stage' todo' → item'.localId ≠ item.localId) : Sends i d' p := by
  cases p with
  | idle => trivial
  | ready todo => exact fun item hitem => (h item hitem).keeps hk
  | sending item stage todo =>
    obtain ⟨⟨q, hq, hcarried, hfits⟩, htodo⟩ := h
    have hsame : d'.photosOf q.localId = d.photosOf q.localId := by
      rcases hk.photos q hq with heq | ⟨⟨item', stage', todo', hpm, hlocal⟩, _⟩
      · exact heq
      · exact absurd (hlocal.trans hcarried.localId.symm) (hapart _ _ _ _ _ _ rfl hpm)
    refine ⟨⟨q, hk.queued q hq, ?_, ?_⟩, fun x hx => (htodo x hx).keeps hk⟩
    · rw [hsame]
      exact hcarried
    · rw [hsame]
      exact hfits

theorem Stocked.queue (h : Stocked d) (o : NewOperation) (key : String) :
    Stocked (d.queueOperation o key) ∧ ∀ pm, Keeps d pm (d.queueOperation o key) := by
  have hmem : ∀ {q}, q ∈ (d.queueOperation o key).queued →
      q ∈ d.queued ∨ q = o.item key d.db.nextId := by
    intro q hq
    exact (List.mem_append.mp hq).imp_right List.mem_singleton.mp
  have hkeeps : ∀ pm, Keeps d pm (d.queueOperation o key) :=
    fun pm => .of_photoQueue (fun _ => List.mem_append_left _) rfl
  refine ⟨⟨h.photoIds, fun q hq => ?_, fun q hq q' hq' heq => ?_, fun id row hrow => ?_⟩, hkeeps⟩
  · rcases hmem hq with hold | rfl
    · exact (h.issued q hold).trans (Nat.lt_succ_self _)
    · exact Nat.lt_succ_self _
  · rcases hmem hq with hold | rfl <;> rcases hmem hq' with hold' | rfl
    · exact h.unique q hold q' hold' heq
    · exact absurd heq (h.issued q hold).ne
    · exact absurd heq.symm (h.issued q' hold').ne
    · rfl
  · have hget : (d.queueOperation o key).db.syncQueue id =
        if id = d.db.nextId then some (o.item key d.db.nextId) else d.db.syncQueue id :=
      Function.update_apply ..
    rw [hget] at hrow
    split at hrow
    · next heq =>
      cases hrow
      exact ⟨heq.symm, _, List.mem_append_right _ (List.mem_singleton_self _),
        rfl, rfl, rfl, rfl, rfl, .inl rfl⟩
    · obtain ⟨hid, hfits⟩ := h.rows id row hrow
      exact ⟨hid, hfits.keeps (hkeeps .idle)⟩

theorem Keeps.addPhoto {photo : PhotoQueueItem}
    (hnew : ∀ q ∈ d.queued, q.localId ≠ photo.entityLocalId) :
    Keeps d p { d with db.photoQueue := d.db.photoQueue ++ [photo] } := by
  have hsame : ∀ q ∈ d.queued,
      Device.photosOf { d with db.photoQueue := d.db.photoQueue ++ [photo] } q.localId =
        d.photosOf q.localId := by
    intro q hq
    have hne : ¬photo.entityLocalId = q.localId := fun heq => hnew q hq heq.symm
    simp [Device.photosOf, List.filter_append, hne]
  exact ⟨fun _ => id, fun q hq => .inl (hsame q hq), fun q hq => by rw [hsame q hq]⟩

theorem firstStage_fits {photos : List PhotoQueueItem} (hcarried : Carried photos q item)
    (tenantId : Option String) : (firstStage item tenantId).Fits photos q item := by
  unfold firstStage
  rw [hcarried.entityType]
  split
  · exact Ending.stage_fits _ _ _ _
  · split
    · next htype => exact htype
    · next htype =>
      refine ⟨fun h => absurd h htype, ?_⟩
      rw [SyncQueueItem.sentPayload, if_neg htype]
      rcases hcarried.payload with heq | ⟨_, heq⟩
      · exact heq
      · rw [heq, SyncQueueItem.sentPayload, if_neg htype]

theorem turn_sends {i : Nat} {act : Action} {parties : Nat → Phase} (hd : Stocked d)
    (hp : Sends i d p) (hC : Orderly ⟨d, parties⟩ (i, act))
    (h : syncTurn i act d p = some (d', p')) : Stocked d' ∧ Sends i d' p' ∧ Keeps d p d' := by
  have hsame : ∀ {d₁ : Device}, (∀ pm, Keeps d pm d₁) → Sends i d₁ p :=
    fun hk => hp.keeps (hk .idle) fun _ _ _ _ _ _ _ hpm => nomatch hpm
  unfold syncTurn at h
  split at h
  · next p o key =>
    cases h
    obtain ⟨hstocked, hkeeps⟩ := hd.queue o key
    exact ⟨hstocked, hsame hkeeps, hkeeps _⟩
  · next p log createdAt key =>
    cases h
    have hlogs : Stocked { d with db := d.db.addFuelLog log } :=
      ⟨hd.photoIds, hd.issued, hd.unique, hd.rows⟩
    obtain ⟨hstocked, _⟩ := hlogs.queue (log.operation createdAt) key
    have hkeeps : ∀ pm, Keeps d pm (d.queueFuelLog log createdAt key) :=
      fun pm => .of_photoQueue (fun _ => List.mem_append_left _) rfl
    exact ⟨hstocked, hsame hkeeps, hkeeps _⟩
  · next p photo =>
    cases h
    obtain ⟨hids, hnew⟩ := hC
    refine ⟨hd.keeps (.addPhoto (p := p) hnew) rfl rfl rfl ?_, hsame fun pm => .addPhoto hnew,
      .addPhoto hnew⟩
    exact nodup_append_entry hd.photoIds hids
  · cases h
    have hkeeps : ∀ (tenantId deviceId : Option String) pm,
        Keeps d pm { d with tenantId, deviceId } :=
      fun _ _ pm => .of_photoQueue (fun _ => id) rfl
    exact ⟨⟨hd.photoIds, hd.issued, hd.unique, hd.rows⟩, hsame (hkeeps _ _), hkeeps _ _ _⟩
  · cases h
    refine ⟨hd, fun item hitem => ?_, .of_photoQueue (fun _ => id) rfl⟩
    obtain ⟨⟨id, _, hrow⟩, _⟩ := mem_selected.mp hitem
    exact (hd.rows id item hrow).2
  · cases h
    exact ⟨hd, trivial, .of_photoQueue (fun _ => id) rfl⟩
  · next item todo =>
    cases h
    have hkeeps : Keeps d (.ready (item :: todo))
        { d with db := d.db.updateItem item.id markSyncing } :=
      .of_photoQueue (fun _ => id) rfl
    refine ⟨hd.updateItem fun row hid hrow => ⟨hid, hrow.marks rfl rfl rfl rfl rfl rfl⟩,
      ⟨?_, fun x hx => (hp x (List.mem_cons_of_mem _ hx)).keeps hkeeps⟩, hkeeps⟩
    obtain ⟨q, hq, hcarried⟩ := hp item List.mem_cons_self
    exact ⟨q, hq, hcarried, firstStage_fits hcarried _⟩
  · cases h
    exact ⟨hd, trivial, .of_photoQueue (fun _ => id) rfl⟩
  · next item stage todo _ _ _ _ _ =>
    obtain ⟨⟨d₁, stage'⟩, hsend, heq⟩ := Option.map_eq_some_iff.mp h
    obtain ⟨⟨q, hq, hcarried, hfits⟩, htodo⟩ := hp
    have hact : ∀ fileId, act = .uploadReply (.ok fileId) → fileId ≠ "" := by
      rintro fileId rfl
      exact hC
    have hadvances := send_advances todo hd hq hcarried hfits hact hsend
    have htodo' : ∀ x ∈ todo, d₁.Fits x := fun x hx => (htodo x hx).keeps hadvances.keeps
    cases stage' with
    | some stage' =>
      cases heq
      exact ⟨hadvances.stocked, ⟨⟨q, hadvances.keeps.queued q hq, hadvances.carried,
        hadvances.fits _ rfl⟩, htodo'⟩, hadvances.keeps⟩
    | none =>
      cases heq
      exact ⟨hadvances.stocked, htodo', hadvances.keeps⟩
  · cases h

/-- A call that sends an operation sent it before, or takes it up. -/
theorem sending_of_turn {i : Nat} {act : Action} {stage : Stage} {todo : List SyncQueueItem}
    (h : syncTurn i act d p = some (d', .sending item stage todo)) :
    (∃ stage todo, p = .sending item stage todo) ∨ act = .next ∧ p = .ready (item :: todo) := by
  generalize hp' : Phase.sending item stage todo = p' at h
  cases syncStep_of_turn h with
  | queued | configured => exact .inl ⟨_, _, hp'.symm⟩
  | marked => cases hp'; exact .inr ⟨rfl, rfl⟩
  | passed | packed | answered => cases hp'; exact .inl ⟨_, _, rfl⟩
  | selected | finished | closed | terminated => cases hp'

end Turns

end DriverApp
end Rotas
