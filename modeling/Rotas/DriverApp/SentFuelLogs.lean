import Rotas.DriverApp.Dispatch
import Rotas.DriverApp.Forms
import Rotas.Fuel.Logs

/-!
# Rotas.DriverApp.SentFuelLogs

What the server reads of a refuelling that the driver app sends.

* `get?_fuelPayload` — the photos change only the entries of the photos.
* `decodeFuelLog_of_whole` — all that the driver entered, if the odometer shows no fraction.
* `whole_of_decodeFuelLog` — nothing otherwise.
* `dispatchFuelLog_iff` — the refuellings that are stored as they were entered.
-/

namespace Rotas
namespace DriverApp

/-- The keys that a refuelling is sent with. -/
def fuelKeys : List String :=
  ["vehicleId", "driverId", "fuelDate", "stationName", "fuelType", "liters", "totalCost",
    "kmAtRefuel", "paymentMethod", "receiptPhotoLocalId", "odometerPhotoLocalId",
    "clientCapturedAt", "receiptFileId", "odometerFileId"]

theorem map_snakeCase_fuelKeys : fuelKeys.map snakeCase =
    ["vehicle_id", "driver_id", "fuel_date", "station_name", "fuel_type", "liters", "total_cost",
      "km_at_refuel", "payment_method", "receipt_photo_local_id", "odometer_photo_local_id",
      "client_captured_at", "receipt_file_id", "odometer_file_id"] := by
  simp only [fuelKeys, List.map_cons, List.map_nil, List.cons.injEq, and_true]
  and_intros <;> exact snakeCase_eq_of_chars rfl rfl (by decide +kernel)

theorem fuelKeys_injective :
    ∀ k ∈ fuelKeys, ∀ k' ∈ fuelKeys, snakeCase k = snakeCase k' → k = k' :=
  snakeCase_injective_of_names map_snakeCase_fuelKeys (by simp)

section Fuel

variable [Wire] (f : FuelForm) (s : Session) (localId : String) (photoLocalId : String → String)
  (files : Nat → UUID)

/-- What the fuel service is to be given. -/
def FuelForm.create (input : FuelLogInput) : FuelLogCreate where
  vehicleId := s.vehicleId
  driverId := s.driverId
  fuelDate := s.now
  stationName := input.stationName
  liters := input.liters
  totalCost := input.totalCost
  kmAtRefuel := input.kmAtRefuel.num
  receiptFileId := if f.receiptPhoto then some (files 1) else none
  odometerFileId := if f.odometerPhoto then some (files 2) else none
  paymentMethod := input.paymentMethod
  clientCapturedAt := some s.now

/-- What is sent of a refuelling. -/
def FuelForm.payload (input : FuelLogInput) : Payload :=
  (f.photos localId).foldl (withFile .fuelLog files) (input.operation (Wire.isoText s.now)).payload

variable {f s localId photoLocalId files} {input : FuelLogInput}

theorem input_eq (h : f.input s localId photoLocalId = some input) :
    number f.kmAtRefuel = some input.kmAtRefuel ∧ number f.liters = some input.liters ∧
      number f.totalCost = some input.totalCost ∧
      input.vehicleId = Wire.uuidText s.vehicleId ∧ input.driverId = Wire.uuidText s.driverId ∧
      input.fuelType = "gasoleo" ∧ input.stationName = truthy (some (trim f.stationName)) ∧
      input.paymentMethod = truthy (some f.paymentMethod) := by
  simp only [FuelForm.input, Option.bind_eq_bind, Option.bind_eq_some_iff,
    Option.filter_eq_some_iff, pure, Option.some.injEq] at h
  obtain ⟨km, ⟨hkm, _⟩, liters, ⟨hliters, _⟩, totalCost, ⟨hcost, _⟩, rfl⟩ := h
  simp only [hkm, hliters, hcost, and_self]

theorem distinct_withFile {keys : List String} {p : Payload} (h : Distinct keys p)
    (hreceipt : "receiptFileId" ∈ keys) (hodometer : "odometerFileId" ∈ keys)
    (fileType : FileType) (id : Nat) :
    Distinct keys (withFile .fuelLog files p (queuedPhoto localId .fuelLog fileType none id)) := by
  change Distinct keys (if fileType = .receipt then _ else _)
  split
  · exact (h.setEntry hreceipt _).filter _
  · exact (h.setEntry hodometer _).filter _

theorem distinct_fuelPayload : Distinct fuelKeys (f.payload s localId files input) := by
  have hbase : Distinct fuelKeys (input.operation (Wire.isoText s.now)).payload := by
    refine distinct_entries ?_ ?_ <;> simp [fuelKeys]
  have hfile : ∀ {p} (fileType : FileType) (id : Nat), Distinct fuelKeys p → Distinct fuelKeys
      (withFile .fuelLog files p (queuedPhoto localId .fuelLog fileType none id)) :=
    fun fileType id h => distinct_withFile h (by decide) (by decide) fileType id
  rw [FuelForm.payload, FuelForm.photos, List.foldl_append]
  cases f.receiptPhoto <;> cases f.odometerPhoto
  · exact hbase
  · exact hfile .photo 2 hbase
  · exact hfile .receipt 1 hbase
  · exact hfile .photo 2 (hfile .receipt 1 hbase)

theorem get?_withReceipt (p : Payload) (id : Nat) (k : String) :
    Json.get? (withFile .fuelLog files p (queuedPhoto localId .fuelLog .receipt none id)) k =
      if k = "receiptPhotoLocalId" then none
      else if k = "receiptFileId" then some (.text (Wire.uuidText (files id)))
      else Json.get? p k := by
  change Json.get? ((setEntry p "receiptFileId" _).filter (·.1 ≠ "receiptPhotoLocalId")) k = _
  rw [get?_filter_ne, get?_setEntry]
  rfl

theorem get?_withOdometer (p : Payload) (id : Nat) (k : String) :
    Json.get? (withFile .fuelLog files p (queuedPhoto localId .fuelLog .photo none id)) k =
      if k = "odometerPhotoLocalId" then none
      else if k = "odometerFileId" then some (.text (Wire.uuidText (files id)))
      else Json.get? p k := by
  change Json.get? ((setEntry p "odometerFileId" _).filter (·.1 ≠ "odometerPhotoLocalId")) k = _
  rw [get?_filter_ne, get?_setEntry]
  rfl

theorem get?_fuelPayload (k : String) :
    Json.get? (f.payload s localId files input) k =
      if k = "receiptFileId" then (if f.receiptPhoto then some (files 1) else none).map
        fun id => .text (Wire.uuidText id)
      else if k = "odometerFileId" then (if f.odometerPhoto then some (files 2) else none).map
        fun id => .text (Wire.uuidText id)
      else if k = "receiptPhotoLocalId" && f.receiptPhoto then none
      else if k = "odometerPhotoLocalId" && f.odometerPhoto then none
      else Json.get? (input.operation (Wire.isoText s.now)).payload k := by
  have hbase : ∀ key ∈ ["receiptFileId", "odometerFileId"],
      Json.get? (input.operation (Wire.isoText s.now)).payload key = none := by
    simp [FuelLogInput.operation, get?_entries_cons, get?_entries_nil]
  rw [FuelForm.payload, FuelForm.photos]
  cases f.receiptPhoto <;> cases f.odometerPhoto <;>
    simp only [Bool.false_eq_true, if_false, if_true, List.nil_append, List.append_nil,
      List.foldl_nil, List.foldl_cons, List.singleton_append, get?_withReceipt, get?_withOdometer,
      Option.map_none, Option.map_some, Bool.and_false, Bool.and_true, decide_eq_true_eq] <;>
    grind

theorem get?_sentFuel {k name : String} (hname : snakeCase k = name) (hk : k ∈ fuelKeys) :
    Json.get? (normalizePayload (f.payload s localId files input)) name =
      (Json.get? (f.payload s localId files input) k).map (Json.rename snakeCase) := by
  rw [← hname]
  exact distinct_fuelPayload.get?_normalize fuelKeys_injective hk

theorem get?_notSentFuel {name : String} (h : ∀ k ∈ fuelKeys, snakeCase k ≠ name) :
    Json.get? (normalizePayload (f.payload s localId files input)) name = none :=
  get?_normalizePayload_eq_none fun e he => h _ (distinct_fuelPayload.mem e he)

end Fuel

/-- The validated fields of a refuelling. -/
def fuelFields (c : FuelLogCreate) : Fields :=
  let idOf (id : Option UUID) : Value := (id.map Value.uuid).getD .null
  let textOf (text : Option String) : Value := (text.map Value.text).getD .null
  [("vehicle_id", .uuid c.vehicleId), ("driver_id", .uuid c.driverId),
    ("fuel_date", .datetime c.fuelDate), ("station_name", textOf c.stationName),
    ("station_location", .null), ("fuel_type", .text c.fuelType), ("liters", .number c.liters),
    ("price_per_liter", (c.pricePerLiter.map Value.number).getD .null),
    ("total_cost", .number c.totalCost), ("km_at_refuel", .integer c.kmAtRefuel),
    ("receipt_file_id", idOf c.receiptFileId), ("odometer_file_id", idOf c.odometerFileId),
    ("payment_method", textOf c.paymentMethod), ("payment_reference", textOf c.paymentReference),
    ("client_captured_at", (c.clientCapturedAt.map Value.datetime).getD .null)]

theorem fuelLogOf_fuelFields (c : FuelLogCreate) : fuelLogOf (fuelFields c) = some c := by
  have huuid : ∀ id : Option UUID, ((id.map Value.uuid).getD .null).uuid? = id := by
    rintro (_ | _) <;> rfl
  have htext : ∀ text : Option String, ((text.map Value.text).getD .null).text? = text := by
    rintro (_ | _) <;> rfl
  have hnumber : ∀ q : Option ℚ, ((q.map Value.number).getD .null).number? = q := by
    rintro (_ | _) <;> rfl
  have hdatetime : ∀ t : Option Instant, ((t.map Value.datetime).getD .null).datetime? = t := by
    rintro (_ | _) <;> rfl
  change some { c with
    stationName := ((c.stationName.map Value.text).getD .null).text?
    pricePerLiter := ((c.pricePerLiter.map Value.number).getD .null).number?
    receiptFileId := ((c.receiptFileId.map Value.uuid).getD .null).uuid?
    odometerFileId := ((c.odometerFileId.map Value.uuid).getD .null).uuid?
    paymentMethod := ((c.paymentMethod.map Value.text).getD .null).text?
    paymentReference := ((c.paymentReference.map Value.text).getD .null).text?
    clientCapturedAt := ((c.clientCapturedAt.map Value.datetime).getD .null).datetime? } = some c
  rw [htext, hnumber, huuid, huuid, htext, htext, hdatetime]

section Fuel

variable [Wire] {f : FuelForm} {s : Session} {localId : String} {photoLocalId : String → String}
  {files : Nat → UUID} {input : FuelLogInput}

/-- The server finds an entry that is no photo as it was entered. -/
theorem get?_entered {k name : String} {v : Option Json} (hname : snakeCase k = name)
    (hk : k ∈ fuelKeys.filter (· ∉ ["receiptPhotoLocalId", "odometerPhotoLocalId",
      "receiptFileId", "odometerFileId"])) (hsame : v.map (Json.rename snakeCase) = v)
    (hv : Json.get? (input.operation (Wire.isoText s.now)).payload k = v) :
    Json.get? (normalizePayload (f.payload s localId files input)) name = v := by
  obtain ⟨hk, hphoto⟩ := List.mem_filter.mp hk
  simp only [List.mem_cons, List.not_mem_nil, or_false, not_or, decide_eq_true_eq] at hphoto
  rw [get?_sentFuel hname hk, get?_fuelPayload, ← hsame, ← hv]
  simp [hphoto]

theorem decodeFuelLog_of_whole (h : f.input s localId photoLocalId = some input)
    (hwhole : input.kmAtRefuel.den = 1) :
    decodeFuelLog (normalizePayload (f.payload s localId files input)) =
      .ok (f.create s files input) := by
  obtain ⟨-, -, -, hvehicle, hdriver, hfuelType, -, -⟩ := input_eq h
  suffices hfields : validate fuelLogCreate (normalizePayload (f.payload s localId files input)) =
      .ok (fuelFields (f.create s files input)) by
    rw [decodeFuelLog, hfields]
    exact congrArg (require · Exc.typeError) (fuelLogOf_fuelFields _)
  have hmissing : ∀ {type name}, (∀ k ∈ fuelKeys, snakeCase k ≠ name) →
      Field.read { name, type } (normalizePayload (f.payload s localId files input)) =
        .ok .null := fun hname => read_missing (get?_notSentFuel hname)
  have hnever : ∀ {name}, name ∉ _ → _ := snakeCase_ne_of_names map_snakeCase_fuelKeys
  have htext : ∀ {text : String}, (some (Json.text text)).map (Json.rename snakeCase) = some (.text text) :=
    fun {_} => by simp [Json.rename]
  have hnumber : ∀ {q : ℚ}, (some (Json.number q)).map (Json.rename snakeCase) = some (.number q) :=
    fun {_} => by simp [Json.rename]
  have htext? : ∀ {text : Option String},
      (text.map Json.text).map (Json.rename snakeCase) = text.map .text := by
    rintro (_ | _) <;> simp [Json.rename]
  refine validate_of_read ?_
  refine .cons ⟨rfl, read_uuid ?_⟩ <| .cons ⟨rfl, read_uuid ?_⟩ <|
    .cons ⟨rfl, read_datetime ?_⟩ <| .cons ⟨rfl, read_optional ?_ fun _ => read_text⟩ <|
    .cons ⟨rfl, hmissing (hnever (by simp))⟩ <| .cons ⟨rfl, read_text ?_⟩ <|
    .cons ⟨rfl, read_number ?_⟩ <| .cons ⟨rfl, hmissing (hnever (by simp))⟩ <|
    .cons ⟨rfl, read_number ?_⟩ <| .cons ⟨rfl, read_integer hwhole ?_⟩ <|
    .cons ⟨rfl, read_optional ?_ fun _ => read_uuid⟩ <|
    .cons ⟨rfl, read_optional ?_ fun _ => read_uuid⟩ <|
    .cons ⟨rfl, read_optional ?_ fun _ => read_text⟩ <|
    .cons ⟨rfl, hmissing (hnever (by simp))⟩ <| .cons ⟨rfl, read_datetime ?_⟩ .nil
  · exact get?_entered (k := "vehicleId") (snakeCase_eq_of_chars rfl rfl rfl) (by decide) htext
      (get?_entries (by simp) (by simp [hvehicle, FuelForm.create]))
  · exact get?_entered (k := "driverId") (snakeCase_eq_of_chars rfl rfl rfl) (by decide) htext
      (get?_entries (by simp) (by simp [hdriver, FuelForm.create]))
  · exact get?_entered (k := "fuelDate") (snakeCase_eq_of_chars rfl rfl rfl) (by decide) htext
      (get?_entries (by simp) (by simp [FuelForm.create]))
  · exact get?_entered (k := "stationName") (snakeCase_eq_of_chars rfl rfl rfl) (by decide)
      htext? (get?_entries (by simp) (by simp [FuelForm.create]))
  · exact get?_entered (k := "fuelType") (snakeCase_eq_of_chars rfl rfl rfl) (by decide) htext
      (get?_entries (by simp) (by simp [hfuelType, FuelForm.create]))
  · exact get?_entered (k := "liters") (snakeCase_eq_of_chars rfl rfl rfl) (by decide) hnumber
      (get?_entries (by simp) (by simp [FuelForm.create]))
  · exact get?_entered (k := "totalCost") (snakeCase_eq_of_chars rfl rfl rfl) (by decide) hnumber
      (get?_entries (by simp) (by simp [FuelForm.create]))
  · exact get?_entered (k := "kmAtRefuel") (snakeCase_eq_of_chars rfl rfl rfl) (by decide)
      hnumber (get?_entries (by simp) (by simp))
  · rw [get?_sentFuel (k := "receiptFileId") (by decide) (by decide), get?_fuelPayload, if_pos rfl]
    cases hphoto : f.receiptPhoto <;> simp [FuelForm.create, Json.rename, hphoto]
  · rw [get?_sentFuel (k := "odometerFileId") (by decide) (by decide), get?_fuelPayload,
      if_neg (by decide), if_pos rfl]
    cases hphoto : f.odometerPhoto <;> simp [FuelForm.create, Json.rename, hphoto]
  · exact get?_entered (k := "paymentMethod") (snakeCase_eq_of_chars rfl rfl rfl) (by decide)
      htext? (get?_entries (by simp) (by simp [FuelForm.create]))
  · exact get?_entered (k := "clientCapturedAt") (snakeCase_eq_of_chars rfl rfl rfl) (by decide)
      htext (get?_entries (by simp) (by simp))

theorem whole_of_decodeFuelLog {c : FuelLogCreate}
    (h : decodeFuelLog (normalizePayload (f.payload s localId files input)) = .ok c) :
    input.kmAtRefuel.den = 1 := by
  obtain ⟨fields, hfields, _⟩ := bind_eq_ok.mp h
  have hfound : Json.get? (normalizePayload (f.payload s localId files input)) "km_at_refuel" =
      some (.number input.kmAtRefuel) :=
    get?_entered (k := "kmAtRefuel") (snakeCase_eq_of_chars rfl rfl rfl) (by decide)
      (by simp [Json.rename]) (get?_entries (by simp) (by simp))
  obtain ⟨value, hread⟩ := read_of_validate hfields
    { name := "km_at_refuel", type := .integer, missing := .required, nullable := false }
    (by simp [fuelLogCreate, requireds])
  by_contra hfraction
  rw [Field.read, hfound] at hread
  simp [FieldType.read, Wire.integer_number, hfraction] at hread

/-- The log has what the driver entered; liters and cost in hundredths. -/
structure FuelForm.Stored (f : FuelForm) (s : Session) (files : Nat → UUID) (l : FuelLog) :
    Prop where
  vehicle : l.vehicleId = s.vehicleId
  driver : l.driverId = s.driverId
  date : l.fuelDate = s.now
  liters : ∃ q, number f.liters = some q ∧ l.liters = Decimal.numeric 2 q
  cost : ∃ q, number f.totalCost = some q ∧ l.totalCost = Decimal.numeric 2 q
  reading : number f.kmAtRefuel = some (l.kmAtRefuel : ℚ)
  station : l.stationName = truthy (some (trim f.stationName))
  paymentMethod : l.paymentMethod = truthy (some f.paymentMethod)
  receipt : l.receiptFileId = if f.receiptPhoto then some (files 1) else none
  odometer : l.odometerFileId = if f.odometerPhoto then some (files 2) else none

theorem stored_row (h : f.input s localId photoLocalId = some input)
    (hwhole : input.kmAtRefuel.den = 1) {now : Instant} {tenantId id : UUID} {vehicle : Vehicle}
    {depot : Depot} :
    f.Stored s files ((f.create s files input).row now tenantId vehicle depot id) := by
  obtain ⟨hkm, hliters, hcost, -, -, -, hstation, hmethod⟩ := input_eq h
  refine ⟨rfl, rfl, rfl, ⟨_, hliters, rfl⟩, ⟨_, hcost, rfl⟩, ?_, hstation, hmethod, rfl, rfl⟩
  rw [hkm]
  exact congrArg some ((Rat.den_eq_one_iff _).mp hwhole).symm

theorem dispatchFuelLog_iff (h : f.input s localId photoLocalId = some input) {now : Instant}
    {tenantId : UUID} {y : Yard} (hok : y.toDepot.ok = true) :
    (∃ id y', dispatchFuelLog now tenantId (normalizePayload (f.payload s localId files input)) y =
      .ok (.processed id, y') ∧ ∃ l, y'.fuelLogs.get id = some l ∧ f.Stored s files l) ↔
      input.kmAtRefuel.den = 1 ∧ (f.create s files input).Taken tenantId y.toDepot := by
  constructor
  · rintro ⟨id, y', hdispatch, -⟩
    obtain ⟨c, hc, hdispatch⟩ := bind_eq_ok.mp hdispatch
    have hwhole := whole_of_decodeFuelLog hc
    cases (decodeFuelLog_of_whole h hwhole).symm.trans hc
    obtain ⟨_, hservice, hok', -⟩ := createOf_eq_ok.mp hdispatch
    obtain ⟨r, hr, hy⟩ := onDepot_eq_ok.mp hservice
    cases hy
    exact ⟨hwhole, (createFuelLog_iff hok).mp ⟨r, hr, hok'⟩⟩
  · rintro ⟨hwhole, htaken⟩
    obtain ⟨r, hr, hok'⟩ : ∃ r, createFuelLog now tenantId _ y.toDepot = .ok r ∧ r.2.ok = true :=
      (createFuelLog_iff hok).mpr htaken
    obtain ⟨vehicle, -, -, -, -, -, -, rfl⟩ := createFuelLog_eq_ok.mp hr
    refine ⟨_, _, bind_eq_ok.mpr ⟨_, decodeFuelLog_of_whole h hwhole,
      createOf_eq_ok.mpr ⟨_, onDepot_eq_ok.mpr ⟨_, hr, rfl⟩, hok', rfl⟩⟩, _, get_logged,
      stored_row h hwhole⟩

end Fuel

end DriverApp
end Rotas
