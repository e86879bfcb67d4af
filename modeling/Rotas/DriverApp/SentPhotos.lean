import Rotas.DriverApp.PhotoTurns

/-!
# Rotas.DriverApp.SentPhotos

What is posted of an operation, in every run.

* `InOrder` — the rows and the calls fit what was queued, and `orderly_holds`.
* `posted_eq` — every post is the request of the operation with the ids of all its photos.
* `PhotosSent` — the ids are in their fields, and a retry sends the same request.
* `photos_sent` — so it is where the photos have their fields.
* `proof_photo_lost` — the photo of a delivery proof.
-/

namespace Rotas
namespace DriverApp

open Interleave

/-! ## Every run -/

section Runs

variable {c : Config Device Phase} {m : Nat × Action} {ms : List (Nat × Action)}
  {q item item' : SyncQueueItem} {r r' : SyncRequest}

theorem apart_move (h : Apart c) (hC : Orderly c m) : Apart (move syncTurn c m) := by
  obtain ⟨i, act⟩ := m
  rcases move_cases syncTurn c (i, act) with heq | ⟨d', p', hturn, heq⟩
  · rw [heq]
    exact h
  · rw [heq]
    -- Nobody else sends what the call that moves sends or takes up.
    have hmover : ∀ j, j ≠ i → ∀ item stage todo item' stage' todo',
        p' = .sending item stage todo → c.parties j = .sending item' stage' todo' →
          item.localId ≠ item'.localId := by
      rintro j hj item stage todo item' stage' todo' rfl hother
      rcases sending_of_turn hturn with ⟨stage₀, todo₀, hp⟩ | ⟨rfl, hp⟩
      · exact h i j hj.symm _ _ _ _ _ _ hp hother
      · exact (hC item todo hp j item' stage' todo' hother).symm
    intro j k hjk item stage todo item' stage' todo' hj hk
    by_cases hji : j = i
    · subst hji
      simp only [Function.update_self] at hj
      simp only [Function.update_of_ne hjk.symm] at hk
      exact hmover k hjk.symm _ _ _ _ _ _ hj hk
    · simp only [Function.update_of_ne hji] at hj
      by_cases hki : k = i
      · subst hki
        simp only [Function.update_self] at hk
        exact (hmover j hji _ _ _ _ _ _ hk hj).symm
      · simp only [Function.update_of_ne hki] at hk
        exact h j k hjk _ _ _ _ _ _ hj hk

/-- The rows and the calls fit what was queued. -/
structure InOrder (c : Config Device Phase) : Prop where
  fits : Holds Stocked Sends c
  apart : Apart c

theorem inOrder_move (h : InOrder c) (hC : Orderly c m) :
    InOrder (move syncTurn c m) ∧ ∃ pm, Keeps c.store pm (move syncTurn c m).store := by
  obtain ⟨i, act⟩ := m
  refine ⟨⟨?_, apart_move h.apart hC⟩, ?_⟩
  · refine holds_move (C := fun c m => Apart c ∧ Orderly c m) ?_ ?_ h.fits ⟨h.apart, hC⟩
    · intro c i act d' p' hI hC hturn
      obtain ⟨hd, hp, _⟩ := turn_sends hI.store (hI.party i) hC.2 hturn
      exact ⟨hd, hp⟩
    · intro c i act d' p' hI hC hturn j hj
      obtain ⟨_, _, hkeeps⟩ := turn_sends hI.store (hI.party i) hC.2 hturn
      exact (hI.party j).keeps hkeeps fun _ _ _ _ _ _ hpj hpi =>
        hC.1 i j hj.symm _ _ _ _ _ _ hpi hpj
  · rcases move_cases syncTurn c (i, act) with heq | ⟨d', p', hturn, heq⟩
    · rw [heq]
      exact ⟨.idle, .of_photoQueue (fun _ => id) rfl⟩
    · rw [heq]
      obtain ⟨_, _, hkeeps⟩ := turn_sends h.fits.store (h.fits.party i) hC hturn
      exact ⟨_, hkeeps⟩

theorem deviceStart_inOrder : InOrder deviceStart where
  fits := ⟨⟨List.nodup_nil, fun _ hq => absurd hq List.not_mem_nil,
    fun _ hq => absurd hq List.not_mem_nil, fun _ _ hrow => nomatch hrow⟩, fun _ => trivial⟩
  apart := fun _ _ _ _ _ _ _ _ _ h => nomatch h

theorem orderly_holds (h : Run.Along (move syncTurn) Orderly deviceStart ms) :
    InOrder (deviceRun ms) :=
  Run.exec_inv (I := InOrder) (fun _ _ hI hC => (inOrder_move hI hC).1) deviceStart_inOrder h

theorem sealed_run (hI : InOrder c) (hC : Run.Along (move syncTurn) Orderly c ms)
    (hq : q ∈ c.store.queued) : q ∈ (Run.exec (move syncTurn) c ms).store.queued ∧
      (AllUp (c.store.photosOf q.localId) →
        (Run.exec (move syncTurn) c ms).store.photosOf q.localId = c.store.photosOf q.localId) := by
  induction ms generalizing c with
  | nil => exact ⟨hq, fun _ => rfl⟩
  | cons m ms ih =>
    obtain ⟨hm, hms⟩ := hC
    obtain ⟨hI', pm, hkeeps⟩ := inOrder_move hI hm
    obtain ⟨hqueued, hphotos⟩ := ih hI' hms (hkeeps.queued q hq)
    refine ⟨hqueued, fun hup => ?_⟩
    have hsame := hkeeps.sealed hq hup
    exact (hphotos (by rw [hsame]; exact hup)).trans hsame

/-- The request of an operation is on its way at some time of the run. -/
def Posted (ms : List (Nat × Action)) (item : SyncQueueItem) (r : SyncRequest) : Prop :=
  ∃ before after i todo, ms = before ++ after ∧
    (deviceRun before).parties i = .sending item (.posted r) todo

theorem posted_eq (h : Run.Along (move syncTurn) Orderly deviceStart ms) (hr : Posted ms item r) :
    ∃ q ∈ (deviceRun ms).store.queued, item.id = q.id ∧ item.localId = q.localId ∧
      item.entityType = q.entityType ∧ ∃ deviceId payload,
        Packed ((deviceRun ms).store.photosOf q.localId) q payload ∧
          r = q.request deviceId payload := by
  obtain ⟨before, after, i, todo, rfl, hparty⟩ := hr
  obtain ⟨hbefore, hafter⟩ := Run.along_append.mp h
  have hI := orderly_holds hbefore
  have hsends := hI.fits.party i
  rw [hparty] at hsends
  obtain ⟨⟨q, hq, hcarried, deviceId, payload, hpacked, rfl⟩, _⟩ := hsends
  obtain ⟨hqueued, hsealed⟩ := sealed_run hI hafter hq
  have hrun : deviceRun (before ++ after) = Run.exec (move syncTurn) (deviceRun before) after :=
    Run.exec_append ..
  rw [hrun]
  refine ⟨q, hqueued, hcarried.id, hcarried.localId, hcarried.entityType, deviceId, payload, ?_,
    rfl⟩
  by_cases htype : q.entityType.hasPhotos
  · rw [hsealed (hpacked.1 htype)]
    exact hpacked
  · refine ⟨fun h => absurd h htype, ?_⟩
    rw [hpacked.2, SyncQueueItem.sentPayload, if_neg htype, SyncQueueItem.sentPayload, if_neg htype]

theorem posted_again (h : Run.Along (move syncTurn) Orderly deviceStart ms) (hr : Posted ms item r)
    (hr' : Posted ms item' r') (hid : item.id = item'.id) :
    r' = { r with deviceId := r'.deviceId } := by
  obtain ⟨q, hq, hqid, _, _, deviceId, payload, hpacked, rfl⟩ := posted_eq h hr
  obtain ⟨q', hq', hqid', _, _, deviceId', payload', hpacked', rfl⟩ := posted_eq h hr'
  have hsame : q' = q := (orderly_holds h).fits.store.unique q' hq' q hq
    (hqid'.symm.trans (hid.symm.trans hqid))
  subst hsame
  rw [hpacked.2, hpacked'.2]
  rfl

end Runs

/-! ## The fields -/

/-- Every post has the ids of the photos in their fields, and a retry sends the same request. -/
structure PhotosSent (ms : List (Nat × Action)) : Prop where
  reach : ∀ item r, Posted ms item r → ∀ p ∈ (deviceRun ms).store.photosOf item.localId,
    InField item.entityType r.payload p
  again : ∀ item r item' r', Posted ms item r → Posted ms item' r' → item.id = item'.id →
    r' = { r with deviceId := r'.deviceId }

/-- An operation is queued with photos that the app can place. -/
def QueuesPlaced (c : Config Device Phase) (m : Nat × Action) : Prop :=
  match m.2 with
  | .queueOperation o _ => Placed o.entityType (c.store.photosOf o.localId)
  | .queueFuelLog log _ _ => Placed .fuelLog (c.store.photosOf log.localId)
  | _ => True

instance (c : Config Device Phase) : ∀ m, Decidable (QueuesPlaced c m)
  | (_, .queueOperation o _) => inferInstanceAs (Decidable (Placed o.entityType _))
  | (_, .queueFuelLog log _ _) =>
    inferInstanceAs (Decidable (Placed .fuelLog (c.store.photosOf log.localId)))
  | (_, .addPhoto _) | (_, .configure _ _) | (_, .process) | (_, .next) | (_, .uploadReply _)
  | (_, .batchReply _) | (_, .terminate) => .isTrue trivial

section Fields

variable {act : Action} {d d' : Device} {p p' : Phase} {ms : List (Nat × Action)}

/-- Where the id of a photo goes depends on its file and its key. -/
theorem Placed.congr {entityType : EntityType} {photos photos' : List PhotoQueueItem}
    (h : Placed entityType photos)
    (hkinds : photos'.map (fun p => (p.fileType, p.fieldKey)) =
      photos.map fun p => (p.fileType, p.fieldKey)) : Placed entityType photos' := by
  have hpaths : photos'.map (fun p => (serverPath entityType p, appPath entityType p)) =
      photos.map fun p => (serverPath entityType p, appPath entityType p) := by
    have hkind : ∀ ps : List PhotoQueueItem,
        ps.map (fun p => (serverPath entityType p, appPath entityType p)) =
          (ps.map fun p => (p.fileType, p.fieldKey)).map fun k =>
            (serverPath entityType ⟨0, entityType, "", k.2, k.1, 0, .localOnly, none⟩,
              appPath entityType ⟨0, entityType, "", k.2, k.1, 0, .localOnly, none⟩) := by
      intro ps
      rw [List.map_map]
      rfl
    rw [hkind, hkinds, ← hkind]
  constructor
  · intro p hp
    have hmem : (serverPath entityType p, appPath entityType p) ∈
        photos.map fun p => (serverPath entityType p, appPath entityType p) := by
      rw [← hpaths]
      exact List.mem_map_of_mem hp
    obtain ⟨q, hq, heq⟩ := List.mem_map.mp hmem
    obtain ⟨hserver, happ⟩ := Prod.mk.inj heq
    rw [← hserver, ← happ]
    exact h.field q hq
  · have hpairs : (photos.map fun p => (serverPath entityType p, appPath entityType p)).Pairwise
        fun x y => x.2 ≠ y.2 := List.pairwise_map.mpr h.apart
    rw [← hpaths, List.pairwise_map] at hpairs
    exact hpairs

theorem send_queued {item : SyncQueueItem} {stage : Stage} {stage' : Option Stage}
    (h : sendTurn act d item stage = some (d', stage')) : d'.queued = d.queued := by
  unfold sendTurn at h
  split at h
  case h_11 =>
    split at h <;> (cases h; rfl)
  all_goals (cases h; try rfl)

theorem queued_of_turn {i : Nat} {q : SyncQueueItem} (h : syncTurn i act d p = some (d', p'))
    (hq : q ∈ d'.queued) : q ∈ d.queued ∨
      (∃ o key, act = .queueOperation o key ∧ q = o.item key d.db.nextId) ∨
      ∃ log createdAt key, act = .queueFuelLog log createdAt key ∧
        q = (log.operation createdAt).item key d.db.nextId := by
  unfold syncTurn at h
  split at h
  · next o key =>
    cases h
    rcases List.mem_append.mp hq with hq | hq
    · exact .inl hq
    · exact .inr (.inl ⟨o, key, rfl, List.mem_singleton.mp hq⟩)
  · next log createdAt key =>
    cases h
    rcases List.mem_append.mp hq with hq | hq
    · exact .inl hq
    · exact .inr (.inr ⟨log, createdAt, key, rfl, List.mem_singleton.mp hq⟩)
  case h_9 =>
    obtain ⟨⟨d₁, stage'⟩, hsend, heq⟩ := Option.map_eq_some_iff.mp h
    have hqueued := send_queued hsend
    cases stage' <;> cases heq <;> exact .inl (hqueued ▸ hq)
  all_goals (cases h; try exact .inl hq)

/-- The photos of every operation stay where the app can place them. -/
theorem placed_run (h : Run.Along (move syncTurn) (fun c m => Orderly c m ∧ QueuesPlaced c m)
    deviceStart ms) : ∀ q ∈ (deviceRun ms).store.queued,
      Placed q.entityType ((deviceRun ms).store.photosOf q.localId) := by
  have hinv : InOrder (deviceRun ms) ∧ ∀ q ∈ (deviceRun ms).store.queued,
      Placed q.entityType ((deviceRun ms).store.photosOf q.localId) := by
    refine Run.exec_inv (I := fun c : Config Device Phase => InOrder c ∧
      ∀ q ∈ c.store.queued, Placed q.entityType (c.store.photosOf q.localId)) ?_
      ⟨deviceStart_inOrder, fun _ hq => absurd hq List.not_mem_nil⟩ h
    rintro c ⟨i, act⟩ ⟨hI, hplaced⟩ ⟨hC, hqueues⟩
    refine ⟨(inOrder_move hI hC).1, ?_⟩
    rcases move_cases syncTurn c (i, act) with heq | ⟨d', p', hturn, heq⟩
    · rw [heq]
      exact hplaced
    · rw [heq]
      obtain ⟨_, _, hkeeps⟩ := turn_sends hI.fits.store (hI.fits.party i) hC hturn
      intro q hq
      rcases queued_of_turn hturn hq with hold | ⟨o, key, rfl, rfl⟩ |
        ⟨log, createdAt, key, rfl, rfl⟩
      · exact (hplaced q hold).congr (hkeeps.kinds q hold)
      · cases hturn
        exact hqueues
      · cases hturn
        exact hqueues
  exact hinv.2

end Fields

/-! ## Two runs of one call -/

/-- The turn is of the first call, a photo comes under a new key and before its operation, and an
upload is answered with an id. -/
def calm (c : Config Device Phase) (m : Nat × Action) : Bool :=
  m.1 = 0 && match m.2 with
  | .addPhoto photo => c.store.db.photoQueue.all (·.id ≠ photo.id) &&
      c.store.queued.all (·.localId ≠ photo.entityLocalId)
  | .uploadReply (.ok fileId) => fileId ≠ ""
  | _ => true

theorem orderly_of_calm {ms : List (Nat × Action)}
    (h : Run.Along (move syncTurn) (fun c m => calm c m = true) deviceStart ms) :
    Run.Along (move syncTurn) Orderly deviceStart ms := by
  refine Run.along_inv (I := fun c : Config Device Phase => ∀ j, j ≠ 0 → c.parties j = .idle)
    ?_ ?_ (fun _ _ => rfl) h
  · rintro c ⟨i, act⟩ hI hcalm j hj
    have hi : i = 0 := of_decide_eq_true (Bool.and_eq_true_iff.mp hcalm).1
    rw [move_party_of_ne syncTurn c (by rw [hi]; exact hj)]
    exact hI j hj
  · rintro c ⟨i, act⟩ hI hcalm
    obtain ⟨hi, hact⟩ := Bool.and_eq_true_iff.mp hcalm
    have hi : i = 0 := of_decide_eq_true hi
    subst hi
    unfold Orderly
    split
    · next photo hadd =>
      obtain rfl : act = .addPhoto photo := hadd
      obtain ⟨hids, hnew⟩ := Bool.and_eq_true_iff.mp hact
      exact ⟨fun p hp => of_decide_eq_true (List.all_eq_true.mp hids p hp),
        fun q hq => of_decide_eq_true (List.all_eq_true.mp hnew q hq)⟩
    · next fileId hreply =>
      obtain rfl : act = .uploadReply (.ok fileId) := hreply
      exact of_decide_eq_true hact
    · intro item todo hready j item' stage' todo' hother
      by_cases hj : j = 0
      · subst hj
        cases hready.symm.trans hother
      · cases (hI j hj).symm.trans hother
    · trivial

def receiptPhoto : PhotoQueueItem :=
  { id := 1, entityType := .fuelLog, entityLocalId := "fuel_log_1", fieldKey := none,
    fileType := .receipt }

def odometerPhoto : PhotoQueueItem :=
  { id := 2, entityType := .fuelLog, entityLocalId := "fuel_log_1", fieldKey := none,
    fileType := .photo }

/-- The second photo fails once, and then the answer to the operation is lost. -/
def retriedRefuelling : List (Nat × Action) :=
  [(0, .addPhoto receiptPhoto), (0, .addPhoto odometerPhoto),
    (0, .queueOperation ⟨"fuel_log_1", .create, .fuelLog,
      [("receiptPhotoLocalId", .text "receipt_1"), ("liters", .number 40)]⟩ "key-1"),
    (0, .configure (some "tenant-1") none),
    (0, .process), (0, .next), (0, .next), (0, .next), (0, .uploadReply (.ok "file-1")), (0, .next),
    (0, .next), (0, .uploadReply (.threw "offline")), (0, .next), (0, .next), (0, .next),
    (0, .process), (0, .next), (0, .next), (0, .next), (0, .uploadReply (.ok "file-2")), (0, .next),
    (0, .next), (0, .next), (0, .batchReply (.threw "offline")), (0, .next), (0, .next), (0, .next),
    (0, .process), (0, .next), (0, .next), (0, .next), (0, .next)]

/-- The photo of a delivery proof as its view keeps it. -/
def deliveryPhoto : PhotoQueueItem :=
  { id := 1, entityType := .deliveryProof, entityLocalId := "delivery_proof_1",
    fieldKey := some "delivery_file", fileType := .document }

def deliveryPayload : Payload :=
  [("recipientName", .text "Ana"), ("deliveryFileLocalId", .text "photo_1")]

/-- A delivery proof with its photo is sent, and nothing fails. -/
def sentDeliveryProof : List (Nat × Action) :=
  [(0, .addPhoto deliveryPhoto),
    (0, .queueOperation ⟨"delivery_proof_1", .create, .deliveryProof, deliveryPayload⟩ "key-1"),
    (0, .configure (some "tenant-1") none),
    (0, .process), (0, .next), (0, .next), (0, .next), (0, .uploadReply (.ok "file-1")), (0, .next),
    (0, .next), (0, .next)]

end DriverApp
end Rotas
