import Rotas.DriverApp.Dispatch
import Rotas.Lib.Overwrite

/-!
# Rotas.DriverApp.PhotoFields

Where the id of a photo is written, and where the server looks for it.

* `withPhoto` — the payload with the id of a photo that the server has.
* `appPath` — the entry of the payload that it is.
* `serverPath` — the field that the server has for it.
* `InField` — the id is where the server looks for it.
* `overwrites_withPhoto` — the ids can be written again.
* `inField_of_placed` — the photos whose ids are in their fields.
-/

namespace Rotas
namespace DriverApp

/-! ## Entries -/

/-- `entries[key] = f(entries[key])`, where the hidden keys are deleted. -/
def rewriteEntry (hidden : List String) (key : String) (f : Option Json → Json) (p : Payload) :
    Payload :=
  p.filter (fun e => e.1 ∉ key :: hidden) ++ [(key, f (Json.get? p key))]

theorem get?_filter_notMem (p : Payload) (keys : List String) (k : String) :
    Json.get? (p.filter fun e => e.1 ∉ keys) k = if k ∈ keys then none else Json.get? p k := by
  induction p with
  | nil => simp [Json.get?]
  | cons e p ih =>
    by_cases he : e.1 ∈ keys
    · rw [List.filter_cons_of_neg (by simpa using he), ih, get?_cons]
      by_cases hk : e.1 = k
      · simp [← hk, he]
      · simp [hk]
    · rw [List.filter_cons_of_pos (by simpa using he), get?_cons, get?_cons, ih]
      by_cases hk : e.1 = k
      · simp [← hk, he]
      · simp [hk]

theorem get?_append (p q : Payload) (k : String) :
    Json.get? (p ++ q) k = (Json.get? p k).or (Json.get? q k) := by
  rw [Json.get?, List.find?_append, Option.map_or]
  rfl

theorem get?_rewriteEntry (hidden : List String) (key : String) (f : Option Json → Json)
    (p : Payload) (k : String) : Json.get? (rewriteEntry hidden key f p) k =
      if k = key then some (f (Json.get? p key))
      else if k ∈ hidden then none else Json.get? p k := by
  rw [rewriteEntry, get?_append, get?_filter_notMem, get?_cons]
  by_cases hk : k = key
  · simp [hk]
  · have hne : ¬ key = k := fun h => hk h.symm
    by_cases hh : k ∈ hidden <;> simp [hk, hne, hh, Json.get?]

theorem rewriteEntry_eq_iff {hidden : List String} {key : String} {f g : Option Json → Json}
    {p q : Payload} : rewriteEntry hidden key f p = rewriteEntry hidden key g q ↔
      p.filter (fun e => e.1 ∉ key :: hidden) = q.filter (fun e => e.1 ∉ key :: hidden) ∧
        f (Json.get? p key) = g (Json.get? q key) := by
  unfold rewriteEntry
  constructor
  · intro h
    obtain ⟨hkept, hlast⟩ := List.append_inj' h rfl
    exact ⟨hkept, by simpa using hlast⟩
  · rintro ⟨hkept, hvalue⟩
    rw [hkept, hvalue]

/-- Payloads that agree outside some keys have the same value under another one. -/
theorem get?_congr {keys : List String} {p q : Payload}
    (h : p.filter (fun e => e.1 ∉ keys) = q.filter (fun e => e.1 ∉ keys)) {k : String}
    (hk : k ∉ keys) : Json.get? p k = Json.get? q k := by
  have hp := get?_filter_notMem p keys k
  have hq := get?_filter_notMem q keys k
  rw [if_neg hk] at hp hq
  rw [← hp, h, hq]

/-- What a rewriting makes the same, it makes the same after another one, which may be of the same
entry where the values allow it. -/
theorem rewriteEntry_forgets {hidden hidden' : List String} {key key' : String}
    {f f' : Option Json → Json} (hkey : key ∉ hidden') (hkey' : key' ∉ hidden)
    (hvalue : key = key' → ∀ o o', f o = f o' → f (some (f' o)) = f (some (f' o'))) {p q : Payload}
    (h : rewriteEntry hidden key f p = rewriteEntry hidden key f q) :
    rewriteEntry hidden key f (rewriteEntry hidden' key' f' p) =
      rewriteEntry hidden key f (rewriteEntry hidden' key' f' q) := by
  obtain ⟨hkept, hsame⟩ := rewriteEntry_eq_iff.mp h
  have hkept' : (p.filter fun e => e.1 ∉ key' :: hidden').filter (fun e => e.1 ∉ key :: hidden) =
      (q.filter fun e => e.1 ∉ key' :: hidden').filter (fun e => e.1 ∉ key :: hidden) := by
    rw [List.filter_comm, hkept, List.filter_comm]
  refine rewriteEntry_eq_iff.mpr ⟨?_, ?_⟩
  · unfold rewriteEntry
    rw [List.filter_append, List.filter_append, hkept']
    by_cases hk : key = key'
    · subst hk
      simp
    · have hne : key' ∉ key :: hidden := by simp [Ne.symm hk, hkey']
      rw [get?_congr hkept hne]
  · rw [get?_rewriteEntry, get?_rewriteEntry]
    by_cases hk : key = key'
    · subst hk
      rw [if_pos rfl, if_pos rfl]
      exact hvalue rfl _ _ hsame
    · rw [if_neg hk, if_neg hkey, if_neg hk, if_neg hkey, hsame]

theorem rewriteEntry_again {hidden : List String} {key : String} {f : Option Json → Json}
    (hvalue : ∀ o, f (some (f o)) = f o) (p : Payload) :
    rewriteEntry hidden key f (rewriteEntry hidden key f p) = rewriteEntry hidden key f p := by
  refine rewriteEntry_eq_iff.mpr ⟨?_, ?_⟩
  · simp [rewriteEntry, List.filter_append]
  · rw [get?_rewriteEntry, if_pos rfl]
    exact hvalue _

/-! ## The id of a photo -/

/-- The payload with the id of a photo, where the server has it. -/
def withPhoto (entityType : EntityType) (payload : Payload) (p : PhotoQueueItem) : Payload :=
  match truthy p.serverFileId with
  | some fileId => applyPhotoFileId payload entityType p.fileType fileId p.fieldKey
  | none => payload

/-- The responses with the id of a photo. -/
def responsesWith (key fileId : String) (responses : Option Json) : Json :=
  .object (rewriteEntry [] key (fun response =>
    .object (rewriteEntry [] "photoFileId" (fun _ => .text fileId) (responseEntries response)))
    ((responses.map spread).getD []))

theorem setEntry_eq_rewriteEntry (p : Payload) (key : String) (value : Json) :
    setEntry p key value = rewriteEntry [] key (fun _ => value) p := by
  simp [setEntry, rewriteEntry]

theorem applyPhotoFileId_response {payload : Payload} {fileType : FileType} {fileId key : String}
    {fieldKey : Option String} (hkey : truthy fieldKey = some key) :
    applyPhotoFileId payload .checklist fileType fileId fieldKey =
      rewriteEntry [] "responses" (responsesWith key fileId) payload := by
  simp only [applyPhotoFileId, hkey, setEntry_eq_rewriteEntry]
  rfl

/-- The keys that the id of a photo gets, and that its local id had. -/
def photoKeys (fileType : FileType) : String × String :=
  if fileType = .receipt then ("receiptFileId", "receiptPhotoLocalId")
  else ("odometerFileId", "odometerPhotoLocalId")

theorem applyPhotoFileId_field {payload : Payload} {entityType : EntityType} {fileType : FileType}
    {fileId : String} {fieldKey : Option String}
    (h : ¬(entityType = .checklist ∧ (truthy fieldKey).isSome)) :
    applyPhotoFileId payload entityType fileType fileId fieldKey =
      rewriteEntry [(photoKeys fileType).2] (photoKeys fileType).1 (fun _ => .text fileId)
        payload := by
  have hfield : ∀ key hidden : String, key ≠ hidden →
      (setEntry payload key (.text fileId)).filter (·.1 ≠ hidden) =
        rewriteEntry [hidden] key (fun _ => .text fileId) payload := by
    intro key hidden hne
    rw [setEntry, rewriteEntry, List.filter_append, List.filter_filter]
    congr 1
    · refine List.filter_congr fun e _ => ?_
      simp [Bool.and_comm]
    · simp [hne]
  unfold applyPhotoFileId
  split
  · next key hkey => exact absurd ⟨rfl, by rw [hkey]; rfl⟩ h
  · by_cases hreceipt : fileType = .receipt
    · rw [if_pos hreceipt, photoKeys, if_pos hreceipt]
      exact hfield _ _ (by decide)
    · rw [if_neg hreceipt, photoKeys, if_neg hreceipt]
      exact hfield _ _ (by decide)

/-- What is written for a photo: a response of a checklist, or a field. -/
theorem withPhoto_cases (entityType : EntityType) (p : PhotoQueueItem) :
    (truthy p.serverFileId = none ∧ ∀ payload, withPhoto entityType payload p = payload) ∨
    (∃ fileId key, truthy p.serverFileId = some fileId ∧ entityType = .checklist ∧
      truthy p.fieldKey = some key ∧ ∀ payload, withPhoto entityType payload p =
        rewriteEntry [] "responses" (responsesWith key fileId) payload) ∨
    ∃ fileId, truthy p.serverFileId = some fileId ∧
      ¬(entityType = .checklist ∧ (truthy p.fieldKey).isSome) ∧
      ∀ payload, withPhoto entityType payload p =
        rewriteEntry [(photoKeys p.fileType).2] (photoKeys p.fileType).1 (fun _ => .text fileId)
          payload := by
  cases hfile : truthy p.serverFileId with
  | none => exact .inl ⟨rfl, fun payload => by simp only [withPhoto, hfile]⟩
  | some fileId =>
    by_cases h : entityType = .checklist ∧ (truthy p.fieldKey).isSome
    · obtain ⟨rfl, hkey⟩ := h
      obtain ⟨key, hkey⟩ := Option.isSome_iff_exists.mp hkey
      refine .inr (.inl ⟨fileId, key, rfl, rfl, hkey, fun payload => ?_⟩)
      simp only [withPhoto, hfile]
      exact applyPhotoFileId_response hkey
    · refine .inr (.inr ⟨fileId, rfl, h, fun payload => ?_⟩)
      simp only [withPhoto, hfile]
      exact applyPhotoFileId_field h

theorem responsesWith_forgets {key key' fileId fileId' : String} {o o' : Option Json}
    (h : responsesWith key fileId o = responsesWith key fileId o') :
    responsesWith key fileId (some (responsesWith key' fileId' o)) =
      responsesWith key fileId (some (responsesWith key' fileId' o')) := by
  simp only [responsesWith, Json.object.injEq, Option.map_some, Option.getD_some, spread] at h ⊢
  refine rewriteEntry_forgets (by simp) (by simp) (fun _ r r' hr => ?_) h
  simp only [Json.object.injEq, responseEntries] at hr ⊢
  exact rewriteEntry_forgets (by simp) (by simp) (fun _ _ _ _ => rfl) hr

theorem responsesWith_again {key fileId : String} (o : Option Json) :
    responsesWith key fileId (some (responsesWith key fileId o)) = responsesWith key fileId o := by
  simp only [responsesWith, Json.object.injEq, Option.map_some, Option.getD_some, spread]
  refine rewriteEntry_again (fun r => ?_) _
  simp only [Json.object.injEq, responseEntries]
  exact rewriteEntry_again (fun _ => rfl) _

theorem overwrites_withPhoto (entityType : EntityType) : Overwrites (withPhoto entityType) where
  again := by
    intro payload p
    rcases withPhoto_cases entityType p with ⟨_, h⟩ | ⟨fileId, key, _, _, _, h⟩ | ⟨fileId, _, _, h⟩
    · rw [h, h]
    · rw [h, h]
      exact rewriteEntry_again responsesWith_again _
    · rw [h, h]
      exact rewriteEntry_again (fun _ => rfl) _
  forgets := by
    intro x y p hxy p'
    have hkeys : ∀ t t' : FileType, (photoKeys t).1 ∉ [(photoKeys t').2] ∧
        (photoKeys t).1 ≠ "responses" ∧ (photoKeys t).2 ≠ "responses" := by
      intro t t'
      cases t <;> cases t' <;> simp [photoKeys]
    rcases withPhoto_cases entityType p with ⟨_, h⟩ | ⟨fileId, key, _, _, _, h⟩ | ⟨fileId, _, _, h⟩
    · simp only [h] at hxy ⊢
      rw [hxy]
    · rcases withPhoto_cases entityType p' with ⟨_, h'⟩ | ⟨_, _, _, _, _, h'⟩ | ⟨_, _, _, h'⟩
      · simpa only [h, h'] using hxy
      · simp only [h, h'] at hxy ⊢
        exact rewriteEntry_forgets (by simp) (by simp) (fun _ _ _ => responsesWith_forgets) hxy
      · simp only [h, h'] at hxy ⊢
        obtain ⟨_, hkey, hhidden⟩ := hkeys p'.fileType p'.fileType
        exact rewriteEntry_forgets (by simpa using hhidden.symm) (by simp)
          (fun heq => absurd heq.symm hkey) hxy
    · rcases withPhoto_cases entityType p' with ⟨_, h'⟩ | ⟨_, _, _, _, _, h'⟩ | ⟨_, _, _, h'⟩
      · simpa only [h, h'] using hxy
      · simp only [h, h'] at hxy ⊢
        obtain ⟨_, hkey, hhidden⟩ := hkeys p.fileType p.fileType
        exact rewriteEntry_forgets (by simp) (by simpa using hhidden.symm)
          (fun heq => absurd heq hkey) hxy
      · simp only [h, h'] at hxy ⊢
        exact rewriteEntry_forgets (hkeys _ _).1 (hkeys _ _).1 (fun _ _ _ _ => rfl) hxy

/-! ## Its field -/

/-- The value at the end of a path of keys. -/
def entryAt : Payload → List String → Option Json
  | _, [] => none
  | p, [key] => Json.get? p key
  | p, key :: path =>
    match Json.get? p key with
    | some (.object q) => entryAt q path
    | _ => none

/-- Where the app writes the id of a photo. -/
def appPath (entityType : EntityType) (p : PhotoQueueItem) : List String :=
  match entityType, truthy p.fieldKey with
  | .checklist, some key => ["responses", key, "photoFileId"]
  | _, _ => [(photoKeys p.fileType).1]

/-- The field that the server has for a photo: a response of a checklist, the receipt and the
odometer of a refuelling, and the file of a document. -/
def serverPath (entityType : EntityType) (p : PhotoQueueItem) : Option (List String) :=
  match entityType with
  | .checklist => (truthy p.fieldKey).map fun key => ["responses", key, "photo_file_id"]
  | .fuelLog =>
    match p.fileType with
    | .receipt => some ["receipt_file_id"]
    | .photo => some ["odometer_file_id"]
    | _ => none
  | .deliveryProof | .loadPermit | .cargoManifest | .transportDocument => some ["file_id"]
  | _ => none

/-- The server finds the id of the photo in the field that it has for it. -/
def InField (entityType : EntityType) (payload : Payload) (p : PhotoQueueItem) : Prop :=
  ∃ fileId path, truthy p.serverFileId = some fileId ∧
    serverPath entityType p = some (path.map snakeCase) ∧
      entryAt payload path = some (.text fileId)

/-- The app writes the id of each photo into the field that the server has for it, and no two into
one. -/
structure Placed (entityType : EntityType) (photos : List PhotoQueueItem) : Prop where
  field : ∀ p ∈ photos, serverPath entityType p = some ((appPath entityType p).map snakeCase)
  apart : photos.Pairwise fun p q => appPath entityType p ≠ appPath entityType q

instance (entityType : EntityType) (photos : List PhotoQueueItem) :
    Decidable (Placed entityType photos) :=
  decidable_of_iff (_ ∧ _) ⟨fun h => ⟨h.1, h.2⟩, fun h => ⟨h.1, h.2⟩⟩

theorem appPath_response {p : PhotoQueueItem} {key : String} (hkey : truthy p.fieldKey = some key) :
    appPath .checklist p = ["responses", key, "photoFileId"] := by
  simp only [appPath, hkey]

theorem appPath_field {entityType : EntityType} {p : PhotoQueueItem}
    (h : ¬(entityType = .checklist ∧ (truthy p.fieldKey).isSome)) :
    appPath entityType p = [(photoKeys p.fileType).1] := by
  unfold appPath
  split
  · next key hkey => exact absurd ⟨rfl, by rw [hkey]; rfl⟩ h
  · rfl

theorem entryAt_withPhoto_self {entityType : EntityType} {p : PhotoQueueItem} {fileId : String}
    (h : truthy p.serverFileId = some fileId) (payload : Payload) :
    entryAt (withPhoto entityType payload p) (appPath entityType p) = some (.text fileId) := by
  rcases withPhoto_cases entityType p with ⟨hnone, _⟩ | ⟨f, key, hfile, rfl, hkey, hw⟩ |
    ⟨f, hfile, hfield, hw⟩
  · rw [h] at hnone
    cases hnone
  · cases h.symm.trans hfile
    simp [hw, appPath_response hkey, entryAt, get?_rewriteEntry, responsesWith]
  · cases h.symm.trans hfile
    simp [hw, appPath_field hfield, entryAt, get?_rewriteEntry]

theorem entryAt_withPhoto_ne {entityType : EntityType} {p q : PhotoQueueItem}
    (hne : appPath entityType p ≠ appPath entityType q) {payload : Payload} {v : Json}
    (hv : entryAt payload (appPath entityType p) = some v) :
    entryAt (withPhoto entityType payload q) (appPath entityType p) = some v := by
  by_cases hp : entityType = .checklist ∧ (truthy p.fieldKey).isSome
  · obtain ⟨rfl, hkey⟩ := hp
    obtain ⟨key, hkey⟩ := Option.isSome_iff_exists.mp hkey
    rw [appPath_response hkey] at hne hv ⊢
    rcases withPhoto_cases .checklist q with ⟨_, hw⟩ | ⟨_, key', _, _, hkey', hw⟩ | ⟨_, _, _, hw⟩
    · rw [hw]
      exact hv
    · rw [appPath_response hkey'] at hne
      have hkeys : key ≠ key' := fun heq => hne (by rw [heq])
      simp only [entryAt] at hv
      split at hv
      · next responses hresponses =>
        simpa [hw, entryAt, get?_rewriteEntry, hresponses, responsesWith, spread, hkeys] using hv
      · cases hv
    · have hfields : "responses" ≠ (photoKeys q.fileType).1 ∧
          "responses" ∉ [(photoKeys q.fileType).2] := by
        cases q.fileType <;> simp [photoKeys]
      have hsame : Json.get? (withPhoto .checklist payload q) "responses" =
          Json.get? payload "responses" := by
        rw [hw, get?_rewriteEntry, if_neg hfields.1, if_neg hfields.2]
      simpa only [entryAt, hsame] using hv
  · rw [appPath_field hp] at hne hv ⊢
    rcases withPhoto_cases entityType q with ⟨_, hw⟩ | ⟨_, _, _, _, _, hw⟩ | ⟨_, _, hq, hw⟩
    · rw [hw]
      exact hv
    · have hfields : (photoKeys p.fileType).1 ≠ "responses" := by
        cases p.fileType <;> simp [photoKeys]
      rw [hw, entryAt, get?_rewriteEntry, if_neg hfields, if_neg List.not_mem_nil]
      exact hv
    · rw [appPath_field hq] at hne
      have hkeys : (photoKeys p.fileType).1 ≠ (photoKeys q.fileType).1 :=
        fun heq => hne (by rw [heq])
      have hhidden : (photoKeys p.fileType).1 ∉ [(photoKeys q.fileType).2] := by
        cases p.fileType <;> cases q.fileType <;> simp [photoKeys]
      rw [hw, entryAt, get?_rewriteEntry, if_neg hkeys, if_neg hhidden]
      exact hv

/-- The payload with the ids of its photos. -/
def withPhotos (entityType : EntityType) (photos : List PhotoQueueItem) (payload : Payload) :
    Payload :=
  photos.foldl (withPhoto entityType) payload

theorem inField_of_placed {entityType : EntityType} {photos : List PhotoQueueItem}
    (h : Placed entityType photos) {p : PhotoQueueItem} (hp : p ∈ photos)
    (hfile : (truthy p.serverFileId).isSome) (payload : Payload) :
    InField entityType (withPhotos entityType photos payload) p := by
  obtain ⟨fileId, hfile⟩ := Option.isSome_iff_exists.mp hfile
  refine ⟨fileId, appPath entityType p, hfile, h.field p hp, ?_⟩
  obtain ⟨before, after, rfl⟩ := List.append_of_mem hp
  have hafter : ∀ q ∈ after, appPath entityType p ≠ appPath entityType q :=
    (List.pairwise_cons.mp (List.pairwise_append.mp h.apart).2.1).1
  -- The photos after this one leave its id where it is.
  have hkept : ∀ (photos : List PhotoQueueItem) (payload : Payload),
      (∀ q ∈ photos, appPath entityType p ≠ appPath entityType q) →
      entryAt payload (appPath entityType p) = some (.text fileId) →
      entryAt (withPhotos entityType photos payload) (appPath entityType p) =
        some (.text fileId) := by
    intro photos
    induction photos with
    | nil => intro payload _ hv; exact hv
    | cons q photos ih =>
      intro payload hne hv
      exact ih _ (fun q' hq' => hne q' (List.mem_cons_of_mem _ hq'))
        (entryAt_withPhoto_ne (hne q List.mem_cons_self) hv)
  rw [withPhotos, List.foldl_append, List.foldl_cons]
  exact hkept after _ hafter (entryAt_withPhoto_self hfile _)

/-- The photos of the other operations get into no field of theirs: what is there was entered. -/
theorem inField_document {entityType : EntityType} {photos : List PhotoQueueItem}
    (htype : entityType ∈ [EntityType.deliveryProof, .loadPermit]) {payload : Payload}
    {p : PhotoQueueItem} (h : InField entityType (withPhotos entityType photos payload) p) :
    InField entityType payload p := by
  obtain ⟨fileId, path, hfile, hpath, hentry⟩ := h
  refine ⟨fileId, path, hfile, hpath, ?_⟩
  have hone : ∃ key, path = [key] ∧ snakeCase key = "file_id" := by
    have hserver : serverPath entityType p = some ["file_id"] := by
      simp only [List.mem_cons, List.not_mem_nil, or_false] at htype
      rcases htype with rfl | rfl <;> rfl
    rw [hserver, Option.some.injEq] at hpath
    obtain ⟨key, rfl⟩ : ∃ key, path = [key] :=
      List.length_eq_one_iff.mp (by simpa using (congrArg List.length hpath).symm)
    exact ⟨key, rfl, (List.cons.inj hpath).1.symm⟩
  obtain ⟨key, rfl, hkey⟩ := hone
  have hstep : ∀ (payload : Payload) (q : PhotoQueueItem),
      Json.get? (withPhoto entityType payload q) key = some (.text fileId) →
        Json.get? payload key = some (.text fileId) := by
    intro payload q hq
    rcases withPhoto_cases entityType q with ⟨_, hw⟩ | ⟨_, _, _, rfl, _, _⟩ | ⟨_, _, _, hw⟩
    · rwa [hw] at hq
    · simp at htype
    · have hne : key ≠ (photoKeys q.fileType).1 := by
        rintro rfl
        cases hf : q.fileType <;> rw [hf] at hkey <;> revert hkey <;> decide
      rw [hw, get?_rewriteEntry, if_neg hne] at hq
      split at hq
      · cases hq
      · exact hq
  rw [entryAt] at hentry ⊢
  unfold withPhotos at hentry
  induction photos generalizing payload with
  | nil => exact hentry
  | cons q photos ih => exact hstep payload q (ih hentry)

end DriverApp
end Rotas
