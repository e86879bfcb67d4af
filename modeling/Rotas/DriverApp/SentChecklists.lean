import Rotas.DriverApp.Dispatch
import Rotas.DriverApp.Forms

/-!
# Rotas.DriverApp.SentChecklists

What the server reads of a checklist that the driver app sends.

* `Answered` — the responses once the server has some of the photos.
* `answered_responses` — one photo after the other is put under its item.
* `stored_iff` — a response is found under its item if the key of the item is small.
* `dispatchChecklist_iff` — the checklists that are stored as they were filled in.
-/

namespace Rotas
namespace DriverApp

/-- The keys that a checklist is sent with. -/
def checklistKeys : List String :=
  ["vehicleId", "driverId", "templateId", "type", "responses", "complete", "clientCapturedAt",
    "odometerFileId"]

theorem map_snakeCase_checklistKeys : checklistKeys.map snakeCase =
    ["vehicle_id", "driver_id", "template_id", "type", "responses", "complete",
      "client_captured_at", "odometer_file_id"] := by
  simp only [checklistKeys, List.map_cons, List.map_nil, List.cons.injEq, and_true]
  and_intros <;> exact snakeCase_eq_of_chars rfl rfl (by decide +kernel)

theorem checklistKeys_injective :
    ∀ k ∈ checklistKeys, ∀ k' ∈ checklistKeys, snakeCase k = snakeCase k' → k = k' :=
  snakeCase_injective_of_names map_snakeCase_checklistKeys (by simp)

/-- The keys of a response. -/
def responseKeys : List String := ["value", "photoLocalId", "photoFileId"]

theorem map_snakeCase_responseKeys :
    responseKeys.map snakeCase = ["value", "photo_local_id", "photo_file_id"] := by
  simp only [responseKeys, List.map_cons, List.map_nil, List.cons.injEq, and_true]
  and_intros <;> exact snakeCase_eq_of_chars rfl rfl (by decide +kernel)

theorem responseKeys_injective :
    ∀ k ∈ responseKeys, ∀ k' ∈ responseKeys, snakeCase k = snakeCase k' → k = k' :=
  snakeCase_injective_of_names map_snakeCase_responseKeys (by simp)

/-! ## Responses -/

/-- The ids of the items. -/
def ChecklistForm.ids (f : ChecklistForm) : List String := f.items.map TemplateItem.id

section

variable {f : ChecklistForm} {localId : String} {photoLocalId : String → String}

theorem distinct_responses : Distinct f.ids (f.responses photoLocalId) := by
  have hfold : ∀ (items : List TemplateItem) (d : Payload), (∀ item ∈ items, item.id ∈ f.ids) →
      Distinct f.ids d → Distinct f.ids
        (items.foldl (fun d item => setEntry d item.id (f.response photoLocalId item)) d) := by
    intro items
    induction items with
    | nil => intro d _ hd; exact hd
    | cons item items ih =>
      intro d hitems hd
      exact ih _ (fun i hi => hitems i (List.mem_cons_of_mem _ hi))
        (hd.setEntry (hitems item List.mem_cons_self) _)
  exact hfold _ _ (fun _ hitem => List.mem_map_of_mem hitem) ⟨nofun, List.nodup_nil⟩

theorem get?_responses {id : String} (hid : id ∈ f.ids) :
    Json.get? (f.responses photoLocalId) id = some (f.response photoLocalId { id }) := by
  have hfold : ∀ (items : List TemplateItem) (d : Payload), id ∈ items.map TemplateItem.id ∨
      Json.get? d id = some (f.response photoLocalId { id }) → Json.get?
        (items.foldl (fun d item => setEntry d item.id (f.response photoLocalId item)) d) id =
          some (f.response photoLocalId { id }) := by
    intro items
    induction items with
    | nil => intro d h; exact h.resolve_left List.not_mem_nil
    | cons item items ih =>
      intro d h
      refine ih _ ?_
      rw [get?_setEntry]
      by_cases heq : id = item.id
      · exact .inr (by rw [if_pos heq, heq]; rfl)
      · rw [if_neg heq]
        exact h.imp_left fun hmem => (List.mem_cons.mp hmem).resolve_left heq
  exact hfold _ _ (.inl hid)

theorem fieldKey_photos {p : PhotoQueueItem} (h : p ∈ f.photos localId) :
    ∃ key ∈ f.ids, p.fieldKey = some key := by
  obtain ⟨⟨item, i⟩, hitem, rfl⟩ := List.mem_map.mp h
  exact ⟨item.id, List.mem_map_of_mem (List.mem_of_mem_filter (List.fst_mem_of_mem_zipIdx hitem)),
    rfl⟩

theorem fileType_photos {p : PhotoQueueItem} (h : p ∈ f.photos localId) : p.fileType = .photo := by
  obtain ⟨⟨item, i⟩, hitem, rfl⟩ := List.mem_map.mp h
  rfl

theorem exists_photo {item : TemplateItem} (hitem : item ∈ f.items)
    (hphoto : f.photo item.id = true) : ∃ p ∈ f.photos localId, p.fieldKey = some item.id := by
  have hmem : item ∈ f.items.filter fun item => f.photo item.id :=
    List.mem_filter.mpr ⟨hitem, hphoto⟩
  obtain ⟨i, hi⟩ := List.mem_iff_getElem?.mp hmem
  exact ⟨_, List.mem_map.mpr ⟨(item, i), List.mem_zipIdx_iff_getElem?.mpr hi, rfl⟩, rfl⟩

end

section Responses

variable [Wire] (f : ChecklistForm) (files : Nat → UUID)

/-- The responses with the file of a photo. -/
def withResponse (responses : Payload) (p : PhotoQueueItem) : Payload :=
  match truthy p.fieldKey with
  | some key => setEntry responses key (.object
      (setEntry (responseEntries (Json.get? responses key)) "photoFileId"
        (.text (Wire.uuidText (files p.id)))))
  | none => responses

/-- What the server has of the photos in `done` is in the responses to their items. -/
structure Answered (done : List PhotoQueueItem) (responses : Payload) : Prop where
  distinct : Distinct f.ids responses
  response : ∀ id ∈ f.ids, ∃ entries, Json.get? responses id = some (.object entries) ∧
    Distinct responseKeys entries ∧ Json.get? entries "value" = some (.bool (f.value id)) ∧
    (id = "" → Json.get? entries "photoFileId" = none) ∧
    (id ≠ "" → ∀ p ∈ done, p.fieldKey = some id → ∃ p' ∈ done, p'.fieldKey = some id ∧
      Json.get? entries "photoFileId" = some (.text (Wire.uuidText (files p'.id))))

variable {f : ChecklistForm} {photoLocalId : String → String} {files : Nat → UUID}

theorem answered_responses_nil : Answered f files [] (f.responses photoLocalId) where
  distinct := distinct_responses
  response := by
    intro id hid
    refine ⟨_, get?_responses hid, ?_, ?_, fun _ => ?_,
      fun _ _ hp => absurd hp List.not_mem_nil⟩
    · refine distinct_entries ?_ ?_ <;> simp [responseKeys]
    · simp [get?_entries_cons]
    · simp [get?_entries_cons, get?_entries_nil]

theorem Answered.withResponse {done : List PhotoQueueItem} {responses : Payload}
    (h : Answered f files done responses) {p : PhotoQueueItem} {key : String} (hkey : key ∈ f.ids)
    (hp : p.fieldKey = some key) :
    Answered f files (done ++ [p]) (withResponse files responses p) := by
  unfold DriverApp.withResponse
  rw [hp]
  by_cases hempty : key = ""
  · subst hempty
    refine ⟨h.distinct, fun id hid => ?_⟩
    obtain ⟨entries, hget, hdistinct, hvalue, hnone, hfile⟩ := h.response id hid
    refine ⟨entries, hget, hdistinct, hvalue, hnone, fun hne p' hp' hkey' => ?_⟩
    rcases List.mem_append.mp hp' with hp' | hp'
    · obtain ⟨p'', hp'', hrest⟩ := hfile hne p' hp' hkey'
      exact ⟨p'', List.mem_append_left _ hp'', hrest⟩
    · cases List.mem_singleton.mp hp'
      rw [hp] at hkey'
      exact absurd (Option.some.inj hkey').symm hne
  · have htruthy : truthy (some key) = some key := by simp [truthy, hempty]
    rw [htruthy]
    refine ⟨h.distinct.setEntry hkey _, fun id hid => ?_⟩
    obtain ⟨entries, hget, hdistinct, hvalue, hnone, hfile⟩ := h.response id hid
    simp only [get?_setEntry]
    by_cases heq : id = key
    · subst heq
      rw [if_pos rfl, hget]
      refine ⟨_, rfl, hdistinct.setEntry (by decide) _, ?_, fun hid => absurd hid hempty,
        fun _ _ _ _ => ⟨p, List.mem_append_right _ List.mem_cons_self, hp, ?_⟩⟩
      · rw [get?_setEntry, if_neg (by decide)]
        exact hvalue
      · rw [get?_setEntry, if_pos rfl]
    · rw [if_neg heq]
      refine ⟨entries, hget, hdistinct, hvalue, hnone, fun hne p' hp' hkey' => ?_⟩
      rcases List.mem_append.mp hp' with hp' | hp'
      · obtain ⟨p'', hp'', hrest⟩ := hfile hne p' hp' hkey'
        exact ⟨p'', List.mem_append_left _ hp'', hrest⟩
      · cases List.mem_singleton.mp hp'
        rw [hp] at hkey'
        exact absurd (Option.some.inj hkey').symm heq

theorem answered_foldl {photos : List PhotoQueueItem}
    (hphotos : ∀ p ∈ photos, ∃ key ∈ f.ids, p.fieldKey = some key) :
    Answered f files photos (photos.foldl (withResponse files) (f.responses photoLocalId)) := by
  have hrun : ∀ (rest done : List PhotoQueueItem) (responses : Payload),
      (∀ p ∈ rest, ∃ key ∈ f.ids, p.fieldKey = some key) → Answered f files done responses →
      Answered f files (done ++ rest) (rest.foldl (withResponse files) responses) := by
    intro rest
    induction rest with
    | nil =>
      intro done responses _ h
      rw [List.append_nil]
      exact h
    | cons p rest ih =>
      intro done responses hrest h
      obtain ⟨key, hkey, hp⟩ := hrest p List.mem_cons_self
      have hdone := ih _ _ (fun p' hp' => hrest p' (List.mem_cons_of_mem _ hp'))
        (h.withResponse hkey hp)
      rwa [List.append_assoc, List.singleton_append] at hdone
  exact hrun photos [] _ hphotos answered_responses_nil

/-! ## The payload -/

variable (f : ChecklistForm) (s : Session) (localId : String)
  (photoLocalId : String → String) (files : Nat → UUID)

/-- What is queued of a checklist. -/
def ChecklistForm.queued : Payload :=
  entries [("vehicleId", some (.text (Wire.uuidText s.vehicleId))),
    ("driverId", some (.text (Wire.uuidText s.driverId))),
    ("templateId", some (.text (Wire.uuidText f.templateId))), ("type", field f.type),
    ("responses", some (.object (f.responses photoLocalId))), ("complete", some (.bool true)),
    ("clientCapturedAt", captured s)]

/-- What is sent of a checklist. -/
def ChecklistForm.payload : Payload :=
  (f.photos localId).foldl (withFile .checklist files) (f.queued s photoLocalId)

/-- The responses that are sent. -/
def ChecklistForm.sent : Payload :=
  (f.photos localId).foldl (withResponse files) (f.responses photoLocalId)

/-- The entries of a checklist that the photos leave alone. -/
def enteredKeys : List String :=
  ["vehicleId", "driverId", "templateId", "type", "complete", "clientCapturedAt"]

omit [Wire] in
theorem enteredKeys_subset : enteredKeys ⊆ checklistKeys := by decide

/-- The payload has these responses, and all else as it was queued. -/
structure SentWith (responses : Payload) (payload : Payload) : Prop where
  distinct : Distinct checklistKeys payload
  responses : Json.get? payload "responses" = some (.object responses)
  entered : ∀ k ∈ enteredKeys,
    Json.get? payload k = Json.get? (f.queued s photoLocalId) k

variable {f s localId photoLocalId files}

theorem SentWith.withFile {responses payload : Payload} {p : PhotoQueueItem}
    (hp : p.fileType = .photo) (h : SentWith f s photoLocalId responses payload) :
    SentWith f s photoLocalId (withResponse files responses p)
      (withFile .checklist files payload p) := by
  unfold DriverApp.withFile applyPhotoFileId withResponse
  cases truthy p.fieldKey with
  | none =>
    simp only [hp, reduceCtorEq, if_false]
    refine ⟨(h.distinct.setEntry (by decide) _).filter _, ?_, fun k hk => ?_⟩
    · rw [get?_filter_ne, get?_setEntry, if_neg (by decide), if_neg (by decide)]
      exact h.responses
    · rw [get?_filter_ne, get?_setEntry, if_neg fun heq => absurd (heq ▸ hk) (by decide),
        if_neg fun heq => absurd (heq ▸ hk) (by decide)]
      exact h.entered k hk
  | some key =>
    simp only [h.responses, Option.map_some, Option.getD_some, spread]
    refine ⟨h.distinct.setEntry (by decide) _, ?_, fun k hk => ?_⟩
    · rw [get?_setEntry, if_pos rfl]
    · rw [get?_setEntry, if_neg fun heq => absurd (heq ▸ hk) (by decide)]
      exact h.entered k hk

theorem sentWith_sent : SentWith f s photoLocalId (f.sent localId photoLocalId files)
    (f.payload s localId photoLocalId files) := by
  have hrun : ∀ (photos : List PhotoQueueItem) (responses payload : Payload),
      (∀ p ∈ photos, p.fileType = .photo) → SentWith f s photoLocalId responses payload →
      SentWith f s photoLocalId (photos.foldl (withResponse files) responses)
        (photos.foldl (DriverApp.withFile .checklist files) payload) := by
    intro photos
    induction photos with
    | nil => intro _ _ _ h; exact h
    | cons p photos ih =>
      intro responses payload hphotos h
      exact ih _ _ (fun p' hp' => hphotos p' (List.mem_cons_of_mem _ hp'))
        (h.withFile (hphotos p List.mem_cons_self))
  have hqueued : SentWith f s photoLocalId (f.responses photoLocalId) (f.queued s photoLocalId) := by
    refine ⟨?_, ?_, fun _ _ => rfl⟩
    · refine distinct_entries ?_ ?_ <;> simp [checklistKeys]
    · exact get?_entries (by simp) (by simp)
  exact hrun _ _ _ (fun _ => fileType_photos) hqueued

/-- An entry of the sent checklist is found under its key in snake case. -/
theorem get?_sentChecklist {k name : String} {v : Json} (hname : snakeCase k = name)
    (hk : k ∈ checklistKeys)
    (hv : Json.get? (f.payload s localId photoLocalId files) k = some v) :
    Json.get? (normalizePayload (f.payload s localId photoLocalId files)) name =
      some (Json.rename snakeCase v) := by
  rw [← hname, sentWith_sent.distinct.get?_normalize checklistKeys_injective hk, hv]
  rfl

theorem get?_notSentChecklist {name : String} (h : ∀ k ∈ checklistKeys, snakeCase k ≠ name) :
    Json.get? (normalizePayload (f.payload s localId photoLocalId files)) name = none :=
  get?_normalizePayload_eq_none fun e he => h _ (sentWith_sent.distinct.mem e he)

/-- What the checklist service is to be given. -/
def ChecklistForm.create (f : ChecklistForm) (s : Session) (localId : String)
    (photoLocalId : String → String) (files : Nat → UUID) : ChecklistCreate where
  vehicleId := s.vehicleId
  driverId := s.driverId
  templateId := f.templateId
  type := f.type
  responses := normalizePayload (f.sent localId photoLocalId files)
  clientCapturedAt := some s.now

theorem decodeChecklist_sent :
    decodeChecklist (normalizePayload (f.payload s localId photoLocalId files)) =
      .ok (f.create s localId photoLocalId files) := by
  have hmissing : ∀ {type name}, (∀ k ∈ checklistKeys, snakeCase k ≠ name) →
      Field.read { name, type } (normalizePayload (f.payload s localId photoLocalId files)) =
        .ok .null := fun hname => read_missing (get?_notSentChecklist hname)
  have hnever : ∀ {name}, name ∉ _ → _ := snakeCase_ne_of_names map_snakeCase_checklistKeys
  have hentered : ∀ {k name text}, snakeCase k = name → k ∈ enteredKeys →
      Json.get? (f.queued s photoLocalId) k = some (.text text) →
      Json.get? (normalizePayload (f.payload s localId photoLocalId files)) name =
        some (.text text) := by
    intro k name text hname hk hv
    rw [get?_sentChecklist hname (enteredKeys_subset hk) ((sentWith_sent.entered k hk).trans hv)]
    simp [Json.rename]
  have hresponses : Json.get? (normalizePayload (f.payload s localId photoLocalId files))
      "responses" = some (Json.rename snakeCase (.object (f.sent localId photoLocalId files))) :=
    get?_sentChecklist (k := "responses") (snakeCase_eq_of_chars rfl rfl rfl) (by decide)
      sentWith_sent.responses
  suffices hfields : validate checklistCreate
      (normalizePayload (f.payload s localId photoLocalId files)) = .ok
        [("vehicle_id", .uuid s.vehicleId), ("driver_id", .uuid s.driverId),
          ("template_id", .uuid f.templateId), ("type", .text f.type),
          ("responses", .object (normalizePayload (f.sent localId photoLocalId files))),
          ("location", .null), ("gps_accuracy_m", .null), ("gps_source", .null),
          ("client_captured_at", .datetime s.now), ("started_at", .null)] by
    rw [decodeChecklist, hfields]
    rfl
  refine validate_of_read ?_
  refine .cons ⟨rfl, read_uuid ?_⟩ <| .cons ⟨rfl, read_uuid ?_⟩ <| .cons ⟨rfl, read_uuid ?_⟩ <|
    .cons ⟨rfl, read_text ?_⟩ <|
    .cons ⟨rfl, read_required (v := .object (normalizePayload _)) ?_ (by simp) rfl⟩ <|
    .cons ⟨rfl, hmissing (hnever (by simp))⟩ <| .cons ⟨rfl, hmissing (hnever (by simp))⟩ <|
    .cons ⟨rfl, hmissing (hnever (by simp))⟩ <| .cons ⟨rfl, read_datetime ?_⟩ <|
    .cons ⟨rfl, hmissing (hnever (by simp))⟩ .nil
  · exact hentered (k := "vehicleId") (snakeCase_eq_of_chars rfl rfl rfl) (by decide)
      (get?_entries (by simp) (by simp))
  · exact hentered (k := "driverId") (snakeCase_eq_of_chars rfl rfl rfl) (by decide)
      (get?_entries (by simp) (by simp))
  · exact hentered (k := "templateId") (snakeCase_eq_of_chars rfl rfl rfl) (by decide)
      (get?_entries (by simp) (by simp))
  · exact hentered (k := "type") (snakeCase_eq_of_chars rfl rfl rfl) (by decide)
      (get?_entries (by simp) (by simp [field]))
  · rw [hresponses, rename_normalized]
  · exact hentered (k := "clientCapturedAt") (snakeCase_eq_of_chars rfl rfl rfl) (by decide)
      (get?_entries (by simp) (by simp [captured]))

/-! ## What is stored -/

/-- The checklist has what the driver filled in: under each item the answer, and a photo of the
item if there is one. -/
structure ChecklistForm.Stored (f : ChecklistForm) (s : Session) (localId : String)
    (files : Nat → UUID) (c : Checklist) : Prop where
  vehicle : c.vehicleId = s.vehicleId
  driver : c.driverId = s.driverId
  template : c.templateId = f.templateId
  type : c.type = f.type
  response : ∀ item ∈ f.items, ∃ entries, Json.get? c.responses item.id = some (.object entries) ∧
    Json.get? entries "value" = some (.bool (f.value item.id)) ∧
    (f.photo item.id = true → ∃ p ∈ f.photos localId, p.fieldKey = some item.id ∧
      Json.get? entries "photo_file_id" = some (.text (Wire.uuidText (files p.id))))

/-- The server finds the items of the template under these keys. -/
def ChecklistForm.Found (f : ChecklistForm) : Prop :=
  ∀ item ∈ f.items, Small item.id ∧ (f.photo item.id = true → item.id ≠ "")

theorem answered_sent : Answered f files (f.photos localId) (f.sent localId photoLocalId files) :=
  answered_foldl fun _ => fieldKey_photos

/-- Where all keys are small, the server finds a response under its item, with the answer and the
file under their own keys. -/
theorem get?_response (hsmall : ∀ item ∈ f.items, Small item.id) {id : String} (hid : id ∈ f.ids) :
    ∃ entries, Json.get? (normalizePayload (f.sent localId photoLocalId files)) id =
      some (.object entries) ∧ Json.get? entries "value" = some (.bool (f.value id)) ∧
      (id = "" → Json.get? entries "photo_file_id" = none) ∧
      (id ≠ "" → ∀ p ∈ f.photos localId, p.fieldKey = some id → ∃ p' ∈ f.photos localId,
        p'.fieldKey = some id ∧
          Json.get? entries "photo_file_id" = some (.text (Wire.uuidText (files p'.id)))) := by
  have hsame : ∀ k ∈ f.ids, snakeCase k = k := by
    intro k hk
    obtain ⟨item, hitem, rfl⟩ := List.mem_map.mp hk
    exact snakeCase_of_small (hsmall item hitem)
  have hinjective : ∀ k ∈ f.ids, ∀ k' ∈ f.ids, snakeCase k = snakeCase k' → k = k' := by
    intro k hk k' hk' heq
    rwa [hsame k hk, hsame k' hk'] at heq
  have hanswered : Answered f files (f.photos localId) (f.sent localId photoLocalId files) :=
    answered_sent
  obtain ⟨entries, hget, hdistinct, hvalue, hnone, hfile⟩ := hanswered.response id hid
  have hentry : ∀ {k name}, snakeCase k = name → k ∈ responseKeys →
      Json.get? (normalizePayload entries) name = (Json.get? entries k).map (Json.rename snakeCase) := by
    intro k name hname hk
    rw [← hname, hdistinct.get?_normalize responseKeys_injective hk]
  refine ⟨normalizePayload entries, ?_, ?_, fun hempty => ?_, fun hne p hp hkey => ?_⟩
  · have hfound := hanswered.distinct.get?_normalize hinjective hid
    rw [hsame id hid, hget] at hfound
    simpa [rename_normalized] using hfound
  · rw [hentry (k := "value") (by decide) (by decide), hvalue]
    simp [Json.rename]
  · rw [hentry (k := "photoFileId") (by decide) (by decide), hnone hempty]
    rfl
  · obtain ⟨p', hp', hkey', hfile'⟩ := hfile hne p hp hkey
    refine ⟨p', hp', hkey', ?_⟩
    rw [hentry (k := "photoFileId") (by decide) (by decide), hfile']
    simp [Json.rename]

/-- The responses of a row are as they were filled in if the server finds the items. -/
theorem response_iff : (∀ item ∈ f.items, ∃ entries,
    Json.get? (normalizePayload (f.sent localId photoLocalId files)) item.id =
      some (.object entries) ∧
    Json.get? entries "value" = some (.bool (f.value item.id)) ∧
    (f.photo item.id = true → ∃ p ∈ f.photos localId, p.fieldKey = some item.id ∧
      Json.get? entries "photo_file_id" = some (.text (Wire.uuidText (files p.id))))) ↔
    f.Found := by
  constructor
  · intro hstored
    have hsmall : ∀ item ∈ f.items, Small item.id := by
      intro item hitem
      by_contra hlarge
      obtain ⟨entries, hget, -⟩ := hstored item hitem
      have hnone : Json.get? (normalizePayload (f.sent localId photoLocalId files)) item.id =
          none := get?_normalizePayload_eq_none fun e _ heq => hlarge (heq ▸ snakeCase_small e.1)
      rw [hnone] at hget
      cases hget
    refine fun item hitem => ⟨hsmall item hitem, fun hphoto hempty => ?_⟩
    obtain ⟨entries, hget, -, hfile⟩ := hstored item hitem
    obtain ⟨_, _, _, hfound⟩ := hfile hphoto
    obtain ⟨entries', hget', -, hnone, -⟩ :=
      get?_response hsmall (List.mem_map_of_mem hitem)
    cases hget.symm.trans hget'
    rw [hnone hempty] at hfound
    cases hfound
  · intro hfound item hitem
    obtain ⟨entries, hget, hvalue, -, hfile⟩ :=
      get?_response (fun item hitem => (hfound item hitem).1) (List.mem_map_of_mem hitem)
    refine ⟨entries, hget, hvalue, fun hphoto => ?_⟩
    obtain ⟨p, hp, hkey⟩ := exists_photo hitem hphoto
    exact hfile ((hfound item hitem).2 hphoto) p hp hkey

theorem dispatchChecklist_iff [Locale] {now : Instant} {tenantId : UUID} {y : Yard}
    (hok : y.toDepot.ok = true) :
    (∃ id y', dispatchChecklist now tenantId
        (normalizePayload (f.payload s localId photoLocalId files)) y = .ok (.processed id, y') ∧
      ∃ c, y'.checklists.get id = some c ∧ f.Stored s localId files c) ↔
      f.Found ∧ (f.create s localId photoLocalId files).Taken tenantId y := by
  have hcomplete : Json.get? (normalizePayload (f.payload s localId photoLocalId files))
      "complete" = some (.bool true) := by
    rw [get?_sentChecklist (k := "complete") (v := .bool true) (by decide) (by decide)
      ((sentWith_sent.entered _ (by decide)).trans (get?_entries (by simp) (by simp)))]
    simp [Json.rename]
  have hdispatch : ∀ {r}, dispatchChecklist now tenantId
      (normalizePayload (f.payload s localId photoLocalId files)) y = .ok r ↔
      ∃ p, createChecklist now tenantId (f.create s localId photoLocalId files) y = .ok p ∧
        p.2.toDepot.ok = true ∧ createOf (completeChecklist now tenantId p.1 {} p.2) = .ok r := by
    intro r
    rw [dispatchChecklist, decodeChecklist_sent, hcomplete]
    simp only [bind_eq_ok, committed_eq_ok, Except.ok.injEq, exists_eq_left']
    exact exists_congr fun p => and_assoc
  constructor
  · rintro ⟨id, y', hrun, c, hc, hstored⟩
    obtain ⟨_, hcreate, -, hdone⟩ := hdispatch.mp hrun
    obtain ⟨htaken, rfl⟩ := createChecklist_eq_ok.mp hcreate
    obtain ⟨failures, y₂, hy₂, -, hget⟩ := completeChecklist_created htaken rfl
    obtain ⟨_, hdone, -, hid⟩ := createOf_eq_ok.mp hdone
    cases hdone.symm.trans hy₂
    cases hid
    cases hc.symm.trans hget
    exact ⟨response_iff.mp hstored.response, htaken⟩
  · rintro ⟨hfound, htaken⟩
    obtain ⟨failures, y₂, hy₂, hdepot, hget⟩ := completeChecklist_created htaken rfl
    refine ⟨_, y₂, hdispatch.mpr ⟨_, createChecklist_eq_ok.mpr ⟨htaken, rfl⟩, hok,
      createOf_eq_ok.mpr ⟨_, hy₂, hdepot ▸ hok, rfl⟩⟩, _, hget, rfl, rfl, rfl, rfl,
      response_iff.mpr hfound⟩

end Responses

end DriverApp
end Rotas
