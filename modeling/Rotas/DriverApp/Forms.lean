import Rotas.DriverApp.Queue
import Rotas.Sync.Payloads

/-!
# Rotas.DriverApp.Forms

What the views of the driver app queue while a trip is active.

* `Form`        — what the driver enters in a view.
* `Form.submit` — the operation that is queued, with its photos; none where the view refuses.
* `Submission.payload` — what is sent once the server has the photos.

`Number` reads a decimal as it is written; it is not rounded to a double.
-/

namespace Rotas
namespace DriverApp

/-! ## Numbers -/

/-- The value of some digits. -/
def digitsValue (cs : List Char) : Option Nat :=
  if cs.isEmpty || !cs.all Char.isDigit then none else some (Nat.ofDigitChars 10 cs 0)

/-- `12`, `12.`, `12.5` or `.5`. -/
def decimalValue (cs : List Char) : Option ℚ :=
  let whole := cs.takeWhile (· ≠ '.')
  match cs.dropWhile (· ≠ '.') with
  | [] => (digitsValue whole).map fun (n : Nat) => (n : ℚ)
  | _ :: fraction =>
    if whole.isEmpty && fraction.isEmpty then none
    else do
      let n ← if whole.isEmpty then some 0 else digitsValue whole
      let f ← if fraction.isEmpty then some 0 else digitsValue fraction
      return n + f / 10 ^ fraction.length

def signed (read : List Char → Option ℚ) : List Char → Option ℚ
  | '-' :: cs => (read cs).map (- ·)
  | '+' :: cs => read cs
  | cs => read cs

/-- A decimal with or without an exponent. -/
def numberValue (cs : List Char) : Option ℚ :=
  let isExponent (c : Char) : Bool := c = 'e' || c = 'E'
  let mantissa := cs.takeWhile (!isExponent ·)
  match cs.dropWhile (!isExponent ·) with
  | [] => decimalValue mantissa
  | _ :: exponent => do
    let m ← decimalValue mantissa
    let e ← signed (fun ds => (digitsValue ds).map fun (n : Nat) => (n : ℚ)) exponent
    return m * (10 : ℚ) ^ e.num

/-- The base of `0x…`, `0o…` and `0b…`. -/
def radix (c : Char) : Option Nat :=
  if c ∈ ['x', 'X'] then some 16 else if c ∈ ['o', 'O'] then some 8
  else if c ∈ ['b', 'B'] then some 2 else none

def digitValue (c : Char) : Nat :=
  if c.isDigit then c.toNat - '0'.toNat else c.toLower.toNat - 'a'.toNat + 10

/-- The value of digits in a base. -/
def radixValue (base : Nat) (cs : List Char) : Option ℚ :=
  if cs.isEmpty || !cs.all (fun c => c.isAlphanum && digitValue c < base) then none
  else some (cs.foldl (fun n c => n * base + digitValue c) 0 : Nat)

/-- What `trim` takes for whitespace. -/
def isBlank (c : Char) : Bool :=
  let n := c.toNat
  (0x09 ≤ n && n ≤ 0x0d) || n = 0x20 || n = 0xa0 || n = 0x1680 || (0x2000 ≤ n && n ≤ 0x200a) ||
    n = 0x2028 || n = 0x2029 || n = 0x202f || n = 0x205f || n = 0x3000 || n = 0xfeff

/-- `text.trim()`. -/
def trim (text : String) : String := stripBy isBlank text

/-- `Number(text)`, where it is finite; the empty text is zero. -/
def number (text : String) : Option ℚ :=
  match (trim text).toList with
  | [] => some 0
  | '0' :: c :: cs =>
    match radix c with
    | some base => radixValue base cs
    | none => numberValue ('0' :: c :: cs)
  | cs => signed numberValue cs

/-! ## Forms -/

/-- The active trip, its driver, and the time. -/
structure Session where
  tripId : UUID
  vehicleId : UUID
  driverId : UUID
  now : Instant

structure DeliveryProofForm where
  recipientName : String
  documentNumber : String
  notes : String
  photo : Bool

structure CargoManifestForm where
  manifestNumber : String
  shipperName : String
  recipientName : String
  cargoDescription : String
  cargoType : String
  packageCount : String
  grossWeightKg : String
  origin : String
  destination : String

structure LoadPermitForm where
  permitNumber : String
  clientName : String
  district : String
  origin : String
  destination : String
  validFrom : String
  validUntil : String
  legType : String
  loadState : String

structure TripStopForm where
  stopType : String
  location : String
  notes : String
  durationMinutes : String

structure FuelForm where
  kmAtRefuel : String
  liters : String
  totalCost : String
  stationName : String
  paymentMethod : String
  receiptPhoto : Bool
  odometerPhoto : Bool

/-- An item of the template that the app has. -/
structure TemplateItem where
  id : String
  requiresPhoto : Bool := false

structure ChecklistForm where
  templateId : UUID
  type : String
  items : List TemplateItem
  /-- What is answered to an item: whether it is in order. -/
  value : String → Bool
  photo : String → Bool

inductive Form where
  | deliveryProof (f : DeliveryProofForm)
  | cargoManifest (f : CargoManifestForm)
  | loadPermit (f : LoadPermitForm)
  | tripStop (f : TripStopForm)
  | fuelLog (f : FuelForm)
  | checklist (f : ChecklistForm)

/-- What a view leaves in the tables: an operation and its photos, under their local ids. -/
structure Submission where
  operation : NewOperation
  photos : List PhotoQueueItem

section Submit

variable [Wire] (s : Session) (localId : String) (photoLocalId : String → String)

def trip : Option Json := some (.text (Wire.uuidText s.tripId))

def captured : Option Json := some (.text (Wire.isoText s.now))

/-- `fd.get(name)`. -/
def field (text : String) : Option Json := some (.text text)

/-- `fd.get(name) ? Number(fd.get(name)) : undefined`. -/
def numberField (text : String) : Option Json :=
  if text = "" then none else (number text).map .number

/-- The text of a form is there where the view requires it. -/
def given (texts : List String) : Bool := texts.all (· ≠ "")

/-- A photo that waits for its upload. -/
def queuedPhoto (entityType : EntityType) (fileType : FileType) (fieldKey : Option String)
    (id : Nat) : PhotoQueueItem :=
  { id, entityType, entityLocalId := localId, fieldKey, fileType }

def create (entityType : EntityType) (fields : List (String × Option Json))
    (photos : List PhotoQueueItem) : Submission where
  operation := { localId, operation := .create, entityType, payload := entries fields }
  photos

def DeliveryProofForm.submit (f : DeliveryProofForm) : Option Submission :=
  if given [f.recipientName] then
    some (create localId .deliveryProof [
      ("tripLocalId", trip s), ("deliveredAt", captured s),
      ("recipientName", field f.recipientName), ("documentNumber", field f.documentNumber),
      ("notes", field f.notes),
      ("deliveryFileLocalId", if f.photo then field (photoLocalId "photo") else none),
      ("clientCapturedAt", captured s)]
      (if f.photo then
        [queuedPhoto localId .deliveryProof .document (some "delivery_file") 1] else []))
  else none

def CargoManifestForm.submit (f : CargoManifestForm) : Option Submission :=
  if given [f.manifestNumber, f.shipperName, f.recipientName, f.cargoDescription, f.origin,
      f.destination] then
    some (create localId .cargoManifest [
      ("tripLocalId", trip s), ("manifestNumber", field f.manifestNumber),
      ("shipperName", field f.shipperName), ("recipientName", field f.recipientName),
      ("cargoDescription", field f.cargoDescription), ("cargoType", field f.cargoType),
      ("packageCount", numberField f.packageCount), ("grossWeightKg", numberField f.grossWeightKg),
      ("origin", field f.origin), ("destination", field f.destination),
      ("clientCapturedAt", captured s)] [])
  else none

def LoadPermitForm.submit (f : LoadPermitForm) : Option Submission :=
  if given [f.permitNumber, f.clientName, f.origin, f.destination, f.validFrom, f.validUntil] then
    some (create localId .loadPermit [
      ("tripLocalId", trip s), ("permitNumber", field f.permitNumber),
      ("clientName", field f.clientName), ("district", field f.district),
      ("origin", field f.origin), ("destination", field f.destination),
      ("validFrom", field f.validFrom), ("validUntil", field f.validUntil),
      ("legType", field f.legType), ("loadState", field f.loadState),
      ("clientCapturedAt", captured s)] [])
  else none

def TripStopForm.submit (f : TripStopForm) : Option Submission :=
  if given [f.stopType] then
    some (create localId .tripStop [
      ("tripLocalId", trip s), ("stopType", field f.stopType), ("location", field f.location),
      ("notes", field f.notes), ("durationMinutes", numberField f.durationMinutes),
      ("clientCapturedAt", captured s)] [])
  else none

/-- `submitFuelLog`: what is queued, unless a number is missing or out of its range. -/
def FuelForm.input (f : FuelForm) : Option FuelLogInput := do
  let kmAtRefuel ← (number f.kmAtRefuel).filter (0 < ·)
  let liters ← (number f.liters).filter (0 < ·)
  let totalCost ← (number f.totalCost).filter (0 ≤ ·)
  return {
    localId, vehicleId := Wire.uuidText s.vehicleId, driverId := Wire.uuidText s.driverId
    stationName := truthy (some (trim f.stationName)), fuelType := "gasoleo", liters, totalCost
    kmAtRefuel, paymentMethod := truthy (some f.paymentMethod)
    receiptPhotoLocalId := if f.receiptPhoto then some (photoLocalId "receipt") else none
    odometerPhotoLocalId := if f.odometerPhoto then some (photoLocalId "odometer") else none }

def FuelForm.photos (f : FuelForm) : List PhotoQueueItem :=
  (if f.receiptPhoto then [queuedPhoto localId .fuelLog .receipt none 1] else []) ++
    if f.odometerPhoto then [queuedPhoto localId .fuelLog .photo none 2] else []

def FuelForm.submit (f : FuelForm) : Option Submission :=
  (f.input s localId photoLocalId).map fun input =>
    { operation := input.operation (Wire.isoText s.now), photos := f.photos localId }

/-- `{ value, photoLocalId }` of an item. -/
def ChecklistForm.response (f : ChecklistForm) (item : TemplateItem) : Json :=
  .object (entries [("value", some (.bool (f.value item.id))),
    ("photoLocalId", if f.photo item.id then field (photoLocalId item.id) else none)])

def ChecklistForm.responses (f : ChecklistForm) : Payload :=
  f.items.foldl (fun d item => setEntry d item.id (f.response photoLocalId item)) []

def ChecklistForm.photos (f : ChecklistForm) : List PhotoQueueItem :=
  (f.items.filter fun item => f.photo item.id).zipIdx.map fun (item, i) =>
    queuedPhoto localId .checklist .photo (some item.id) (i + 1)

/-- `submitChecklist`: a photo that an item requires must be there. -/
def ChecklistForm.submit (f : ChecklistForm) : Option Submission :=
  if f.items.all fun item => !item.requiresPhoto || f.photo item.id then
    some (create localId .checklist [
      ("vehicleId", some (.text (Wire.uuidText s.vehicleId))),
      ("driverId", some (.text (Wire.uuidText s.driverId))),
      ("templateId", some (.text (Wire.uuidText f.templateId))), ("type", field f.type),
      ("responses", some (.object (f.responses photoLocalId))), ("complete", some (.bool true)),
      ("clientCapturedAt", captured s)] (f.photos localId))
  else none

def Form.submit (form : Form) : Option Submission :=
  match form with
  | .deliveryProof f => f.submit s localId photoLocalId
  | .cargoManifest f => f.submit s localId
  | .loadPermit f => f.submit s localId
  | .tripStop f => f.submit s localId
  | .fuelLog f => f.submit s localId photoLocalId
  | .checklist f => f.submit s localId photoLocalId

end Submit

/-! ## Entries -/

theorem get?_entries_cons (key : String) (value : Option Json)
    (fields : List (String × Option Json)) (k : String) :
    Json.get? (entries ((key, value) :: fields)) k =
      (if key = k then value else none).or (Json.get? (entries fields) k) := by
  cases value with
  | none => simp [entries]
  | some v =>
    rw [entries, List.filterMap_cons_some (by rfl), get?_cons, entries]
    split <;> simp

theorem get?_entries_nil (k : String) : Json.get? (entries []) k = none := rfl

theorem get?_entries {fields : List (String × Option Json)} (h : (fields.map Prod.fst).Nodup)
    {k : String} {value : Option Json} (hmem : (k, value) ∈ fields) :
    Json.get? (entries fields) k = value := by
  induction fields with
  | nil => cases hmem
  | cons e fields ih =>
    obtain ⟨hne, hnodup⟩ := List.nodup_cons.mp h
    rw [get?_entries_cons]
    rcases List.mem_cons.mp hmem with rfl | hmem
    · have hrest : Json.get? (entries fields) k = none := by
        rw [Json.get?, List.find?_eq_none.mpr, Option.map_none]
        intro e' he' heq
        obtain ⟨f, hf, hfe⟩ := List.mem_filterMap.mp he'
        obtain ⟨v, -, rfl⟩ := Option.map_eq_some_iff.mp hfe
        exact hne (List.mem_map.mpr ⟨f, hf, of_decide_eq_true heq⟩)
      rw [if_pos rfl, hrest, Option.or_none]
    · have hkey : e.1 ≠ k := fun heq => hne (heq ▸ List.mem_map_of_mem hmem)
      rw [if_neg hkey, Option.none_or, ih hnodup hmem]

theorem distinct_entries {keys : List String} {fields : List (String × Option Json)}
    (hmem : ∀ f ∈ fields, f.1 ∈ keys) (hnodup : (fields.map Prod.fst).Nodup) :
    Distinct keys (entries fields) := by
  constructor
  · intro e he
    obtain ⟨f, hf, heq⟩ := List.mem_filterMap.mp he
    obtain ⟨v, _, rfl⟩ := Option.map_eq_some_iff.mp heq
    exact hmem f hf
  · refine hnodup.sublist ?_
    clear hmem hnodup
    induction fields with
    | nil => exact List.Sublist.slnil
    | cons f fields ih =>
      cases hv : f.2 with
      | none =>
        rw [entries, List.filterMap_cons_none (by simp [hv])]
        exact ih.cons _
      | some v =>
        rw [entries, List.filterMap_cons_some (b := (f.1, v)) (by simp [hv])]
        exact ih.cons_cons _

theorem keys_entries {P : String → Prop} {fields : List (String × Option Json)}
    (h : ∀ k ∈ fields.map Prod.fst, P k) : ∀ e ∈ entries fields, P e.1 := by
  intro e he
  obtain ⟨f, hf, hfe⟩ := List.mem_filterMap.mp he
  obtain ⟨v, -, rfl⟩ := Option.map_eq_some_iff.mp hfe
  exact h _ (List.mem_map_of_mem hf)

/-! ## What is sent -/

section Sent

variable [Wire]

/-- The payload with the file of a photo. -/
def withFile (entityType : EntityType) (files : Nat → UUID) (payload : Payload)
    (p : PhotoQueueItem) : Payload :=
  applyPhotoFileId payload entityType p.fileType (Wire.uuidText (files p.id)) p.fieldKey

/-- The payload that is posted, with the files that the server has made of the photos. -/
def Submission.payload (x : Submission) (files : Nat → UUID) : Payload :=
  x.photos.foldl (withFile x.operation.entityType files) x.operation.payload

end Sent

end DriverApp
end Rotas
