import Rotas.Core.Errors
import Rotas.Core.Text
import Rotas.Lib.Renaming
import Mathlib.Data.List.Find

/-!
# Rotas.Sync.Payloads

How the server reads the payload of an offline operation.

* `Sync.snakeCase`, `Sync.normalizePayload` — the keys are written as the server writes them.
* `snakeCase`, `normalizePayload` — the same where the letters are ASCII, as the app's are.
* `Wire`     — ids and times as they are sent, and what the validation makes of a value.
* `validate` — the fields of a schema; a key that is none of them is passed over.
* `get?_normalizePayload` — a value is found under the key in snake case.
-/

namespace Rotas

/-! ## Keys -/

/-- `re.sub("(.)([A-Z][a-z]+)", r"\1_\2", value)`; `inWord` while the small letters of a match go
on. -/
def splitWords : Bool → List Char → List Char
  | inWord, c :: u :: l :: cs =>
    if inWord && c.isLower then c :: splitWords true (u :: l :: cs)
    else if c ≠ '\n' && u.isUpper && l.isLower then c :: '_' :: u :: splitWords true (l :: cs)
    else c :: splitWords false (u :: l :: cs)
  | _, cs => cs

/-- `re.sub("([a-z0-9])([A-Z])", r"\1_\2", value)`. -/
def splitCaps : List Char → List Char
  | c :: u :: cs =>
    if (c.isLower || c.isDigit) && u.isUpper then c :: '_' :: u :: splitCaps cs
    else c :: splitCaps (u :: cs)
  | cs => cs

namespace Sync

variable [Locale]

/-- `_snake_case`. -/
def snakeCase (value : String) : String :=
  Locale.lower (.ofList (splitCaps (splitWords false value.toList)))

/-- `_normalize_payload`: the keys of the payload and of the objects that its entries hold. -/
def normalizePayload (payload : Payload) : Payload :=
  dictOf (Json.renameEntries snakeCase payload)

end Sync

def snakeCase (value : String) : String := @Sync.snakeCase .chars value

def normalizePayload (payload : Payload) : Payload := @Sync.normalizePayload .chars payload

section Keys

theorem snakeCase_eq (value : String) :
    snakeCase value = .ofList ((splitCaps (splitWords false value.toList)).map Char.toLower) := by
  show String.ofList ((String.ofList _).toList.map Char.toLower) = _
  rw [String.toList_ofList]

/-- The key has no capital letter. -/
def Small (s : String) : Prop := ∀ c ∈ s.toList, c.isUpper = false

theorem splitWords_eq_self (inWord : Bool) (cs : List Char) (h : ∀ c ∈ cs, c.isUpper = false) :
    splitWords inWord cs = cs := by
  fun_induction splitWords inWord cs with
  | case1 inWord c u l cs hword ih => rw [ih fun x hx => h x (List.mem_cons_of_mem _ hx)]
  | case2 inWord c u l cs hword hmatch ih =>
    have hu := h u (List.mem_cons_of_mem _ List.mem_cons_self)
    simp [hu] at hmatch
  | case3 inWord c u l cs hword hmatch ih => rw [ih fun x hx => h x (List.mem_cons_of_mem _ hx)]
  | case4 => rfl

theorem splitCaps_eq_self (cs : List Char) (h : ∀ c ∈ cs, c.isUpper = false) :
    splitCaps cs = cs := by
  fun_induction splitCaps cs with
  | case1 c u cs hmatch ih =>
    have hu := h u (List.mem_cons_of_mem _ List.mem_cons_self)
    simp [hu] at hmatch
  | case2 c u cs hmatch ih => rw [ih fun x hx => h x (List.mem_cons_of_mem _ hx)]
  | case3 => rfl

theorem toLower_of_small {c : Char} (h : c.isUpper = false) : c.toLower = c := by
  unfold Char.toLower
  split
  · delta Char.isUpper at h
    grind
  · rfl

theorem isUpper_toLower (c : Char) : c.toLower.isUpper = false := by
  unfold Char.toLower
  split
  · delta Char.isUpper
    grind
  · delta Char.isUpper
    grind

/-- The snake case of a key that is written out, character by character. -/
theorem snakeCase_eq_of_chars {k name : String} {cs ds : List Char} (hk : k = .ofList cs)
    (hname : name = .ofList ds) (h : (splitCaps (splitWords false cs)).map Char.toLower = ds) :
    snakeCase k = name := by
  rw [snakeCase_eq, hk, String.toList_ofList, h, hname]

theorem snakeCase_ne_of_chars {k name : String} {cs ds : List Char} (hk : k = .ofList cs)
    (hname : name = .ofList ds) (h : (splitCaps (splitWords false cs)).map Char.toLower ≠ ds) :
    snakeCase k ≠ name := by
  rw [snakeCase_eq, hk, String.toList_ofList, hname]
  exact fun heq => h (String.ofList_injective heq)

section Names

variable {keys names : List String} (hnames : keys.map snakeCase = names)

include hnames

theorem snakeCase_injective_of_names (hnodup : names.Nodup) :
    ∀ k ∈ keys, ∀ k' ∈ keys, snakeCase k = snakeCase k' → k = k' := by
  subst hnames
  exact fun k hk k' hk' heq => List.inj_on_of_nodup_map hnodup hk hk' heq

theorem snakeCase_ne_of_names {name : String} (h : name ∉ names) :
    ∀ k ∈ keys, snakeCase k ≠ name := by
  subst hnames
  exact fun k hk heq => h (heq ▸ List.mem_map_of_mem hk)

end Names

theorem snakeCase_small (s : String) : Small (snakeCase s) := by
  intro c hc
  rw [snakeCase_eq, String.toList_ofList] at hc
  obtain ⟨c', _, rfl⟩ := List.mem_map.mp hc
  exact isUpper_toLower c'

theorem snakeCase_of_small {s : String} (h : Small s) : snakeCase s = s := by
  rw [snakeCase_eq, splitWords_eq_self false _ h, splitCaps_eq_self _ h,
    List.map_congr_left fun c hc => toLower_of_small (h c hc), List.map_id', String.ofList_toList]

theorem normalizePayload_eq (entries : Payload) :
    normalizePayload entries =
      dictOf (entries.map fun e => (snakeCase e.1, Json.rename snakeCase e.2)) := by
  show dictOf (Json.renameEntries snakeCase entries) = _
  rw [Json.renameEntries_eq_map]

theorem rename_normalized (entries : Payload) :
    Json.rename snakeCase (.object entries) = .object (normalizePayload entries) := rfl

theorem get?_normalizePayload {entries : Payload} (h : (entries.map (snakeCase ·.1)).Nodup)
    {k : String} (hk : ∀ e ∈ entries, snakeCase e.1 = snakeCase k → e.1 = k) :
    Json.get? (normalizePayload entries) (snakeCase k) =
      (Json.get? entries k).map (Json.rename snakeCase) := by
  rw [normalizePayload_eq, dictOf_eq_self (by rwa [Json.keys_renamed])]
  have hfind : entries.find? ((fun e => e.1 = snakeCase k) ∘
      fun e => (snakeCase e.1, Json.rename snakeCase e.2)) = entries.find? fun e => e.1 = k := by
    refine List.find?_congr fun e he => ?_
    by_cases heq : e.1 = k
    · simp [heq]
    · have hne : snakeCase e.1 ≠ snakeCase k := fun hs => heq (hk e he hs)
      simp [heq, hne]
  rw [Json.get?, List.find?_map, hfind, Json.get?, Option.map_map, Option.map_map]
  simp only [Function.comp_def]

theorem get?_normalizePayload_eq_none {entries : Payload} {k : String}
    (h : ∀ e ∈ entries, snakeCase e.1 ≠ k) : Json.get? (normalizePayload entries) k = none := by
  rw [Option.eq_none_iff_forall_ne_some]
  intro v hv
  rw [normalizePayload_eq] at hv
  obtain ⟨e, he, heq⟩ := List.mem_map.mp (mem_dictOf (Json.mem_of_get? hv))
  exact h e he (Prod.mk.inj heq).1

/-- The entries are under keys of a list, each once. -/
structure Distinct (keys : List String) (entries : Payload) : Prop where
  mem : ∀ e ∈ entries, e.1 ∈ keys
  nodup : (entries.map Prod.fst).Nodup

theorem Distinct.filter {keys : List String} {entries : Payload} (h : Distinct keys entries)
    (p : String × Json → Bool) : Distinct keys (entries.filter p) where
  mem := fun e he => h.mem e (List.mem_filter.mp he).1
  nodup := h.nodup.sublist (List.filter_sublist.map _)

theorem Distinct.setEntry {keys : List String} {entries : Payload} (h : Distinct keys entries)
    {key : String} (hkey : key ∈ keys) (value : Json) :
    Distinct keys (setEntry entries key value) where
  mem := by
    intro e he
    rcases List.mem_append.mp he with he | he
    · exact (h.filter _).mem e he
    · rw [List.mem_singleton.mp he]
      exact hkey
  nodup := by
    rw [Rotas.setEntry, List.map_append, List.nodup_append]
    refine ⟨(h.filter _).nodup, List.nodup_singleton _, ?_⟩
    intro k hk k' hk' heq
    obtain ⟨e, he, rfl⟩ := List.mem_map.mp hk
    rw [List.mem_singleton.mp hk'] at heq
    exact absurd heq (by simpa using (List.mem_filter.mp he).2)

theorem Distinct.nodup_snakeCase {keys : List String} {entries : Payload}
    (h : Distinct keys entries)
    (hinj : ∀ k ∈ keys, ∀ k' ∈ keys, snakeCase k = snakeCase k' → k = k') :
    (entries.map (snakeCase ·.1)).Nodup := by
  have hmap : entries.map (snakeCase ·.1) = (entries.map Prod.fst).map snakeCase := by
    rw [List.map_map]
    rfl
  rw [hmap]
  refine h.nodup.map_on ?_
  intro k hk k' hk' heq
  obtain ⟨e, he, rfl⟩ := List.mem_map.mp hk
  obtain ⟨e', he', rfl⟩ := List.mem_map.mp hk'
  exact hinj _ (h.mem e he) _ (h.mem e' he') heq

theorem Distinct.get?_normalize {keys : List String} {entries : Payload} (h : Distinct keys entries)
    (hinj : ∀ k ∈ keys, ∀ k' ∈ keys, snakeCase k = snakeCase k' → k = k') {k : String}
    (hk : k ∈ keys) :
    Json.get? (normalizePayload entries) (snakeCase k) =
      (Json.get? entries k).map (Json.rename snakeCase) :=
  get?_normalizePayload (h.nodup_snakeCase hinj) fun e he heq => hinj _ (h.mem e he) k hk heq

end Keys

/-! ## Values -/

/-- The texts of ids and times, and what the validation makes of a value. A text is no number and a
number no text. -/
class Wire where
  uuidText : UUID → String
  isoText : Instant → String
  uuid : Json → Option UUID
  datetime : Json → Option Instant
  integer : Json → Option Int
  number : Json → Option ℚ
  bool : Json → Option Bool
  uuidText_ne_empty : ∀ id, uuidText id ≠ ""
  uuid_uuidText : ∀ id, uuid (.text (uuidText id)) = some id
  datetime_isoText : ∀ t, datetime (.text (isoText t)) = some t
  /-- A number with a fraction is no `int`. -/
  integer_number : ∀ q : ℚ, integer (.number q) = if q.den = 1 then some q.num else none
  number_number : ∀ q, number (.number q) = some q

/-- A text as it is, and no value of another type. -/
def Json.asText : Json → Option String
  | .text s => some s
  | _ => none

/-- An integer as twice its value or, below zero, one more. -/
def codeInt (z : Int) : Nat := if 0 ≤ z then 2 * z.toNat else 2 * (-z).toNat + 1

def ofCodeInt (n : Nat) : Int := if n % 2 = 0 then (n / 2 : Nat) else -(n / 2 : Nat)

theorem ofCodeInt_codeInt (z : Int) : ofCodeInt (codeInt z) = z := by
  unfold ofCodeInt codeInt
  split_ifs <;> omega

/-- Ids and times in decimal, the times by their code. -/
@[reducible] def Wire.plain : Wire where
  uuidText id := Nat.repr id
  isoText t := Nat.repr (codeInt t)
  uuid v := v.asText.map fun text => Nat.ofDigitChars 10 text.toList 0
  datetime v := v.asText.map fun text => ofCodeInt (Nat.ofDigitChars 10 text.toList 0)
  integer v := match v with
    | .number q => if q.den = 1 then some q.num else none
    | _ => none
  number v := match v with
    | .number q => some q
    | _ => none
  bool v := match v with
    | .bool b => some b
    | _ => none
  uuidText_ne_empty _ := Nat.repr_ne_empty
  uuid_uuidText id := by simp [Json.asText, Nat.repr]
  datetime_isoText t := by simp [Json.asText, Nat.repr, ofCodeInt_codeInt]
  integer_number _ := rfl
  number_number _ := rfl

inductive FieldType where
  | text | integer | number | bool | datetime | uuid | object
  deriving DecidableEq

inductive Value where
  | null
  | text (s : String)
  | integer (n : Int)
  | number (q : ℚ)
  | bool (b : Bool)
  | datetime (t : Instant)
  | uuid (id : UUID)
  | object (entries : Payload)

def Value.text? : Value → Option String
  | .text s => some s
  | _ => none

def Value.integer? : Value → Option Int
  | .integer n => some n
  | _ => none

def Value.number? : Value → Option ℚ
  | .number q => some q
  | _ => none

def Value.datetime? : Value → Option Instant
  | .datetime t => some t
  | _ => none

def Value.uuid? : Value → Option UUID
  | .uuid id => some id
  | _ => none

def Value.object? : Value → Option Payload
  | .object entries => some entries
  | _ => none

def Json.asObject : Json → Option Payload
  | .object entries => some entries
  | _ => none

def FieldType.read [Wire] (value : Json) : FieldType → Option Value
  | .text => value.asText.map .text
  | .integer => (Wire.integer value).map .integer
  | .number => (Wire.number value).map .number
  | .bool => (Wire.bool value).map .bool
  | .datetime => (Wire.datetime value).map .datetime
  | .uuid => (Wire.uuid value).map .uuid
  | .object => value.asObject.map .object

/-! ## Schemas -/

/-- What is read where a field is missing. -/
inductive Missing where
  | required
  | default (value : Value)

structure Field where
  name : String
  type : FieldType
  missing : Missing := .default .null
  /-- The field may be null. -/
  nullable : Bool := true

abbrev Fields := List (String × Value)

def Field.read [Wire] (f : Field) (payload : Payload) : Except Exc Value :=
  match Json.get? payload f.name with
  | none =>
    match f.missing with
    | .required => .error (.valueError f.name)
    | .default value => .ok value
  | some .null => if f.nullable then .ok .null else .error (.valueError f.name)
  | some value => require (f.type.read value) (.valueError f.name)

/-- `Schema(**payload)`. -/
def validate [Wire] (schema : List Field) (payload : Payload) : Except Exc Fields :=
  schema.mapM fun f => (f.read payload).map fun value => (f.name, value)

/-- A field of what was validated. -/
def readField {α : Type} (fields : Fields) (name : String) (as : Value → Option α) : Option α :=
  (fields.lookup name).bind as

theorem validate_of_read [Wire] {schema : List Field} {payload : Payload} {fields : Fields}
    (h : List.Forall₂ (fun f e => f.name = e.1 ∧ f.read payload = .ok e.2) schema fields) :
    validate schema payload = .ok fields := by
  induction h with
  | nil => rfl
  | cons hfield _ ih =>
    obtain ⟨hname, hread⟩ := hfield
    rw [validate] at ih ⊢
    rw [List.mapM_cons, hread, ih, hname]
    rfl

theorem read_of_validate [Wire] {schema : List Field} {payload : Payload} :
    ∀ {fields : Fields}, validate schema payload = .ok fields →
      ∀ f ∈ schema, ∃ value, f.read payload = .ok value := by
  induction schema with
  | nil => intro fields _ f hf; cases hf
  | cons f schema ih =>
    intro fields h g hg
    rw [validate, List.mapM_cons, bind_eq_ok] at h
    obtain ⟨first, hfirst, hrest⟩ := h
    obtain ⟨rest, hrest, _⟩ := bind_eq_ok.mp hrest
    rcases List.mem_cons.mp hg with rfl | hg
    · cases hread : g.read payload with
      | ok value => exact ⟨value, rfl⟩
      | error e => rw [hread] at hfirst; cases hfirst
    · exact ih hrest g hg

section Read

variable [Wire] {payload : Payload} {name : String}

theorem read_required {type : FieldType} {v : Json} {value : Value} {nullable : Bool}
    {missing : Missing} (h : Json.get? payload name = some v) (hnull : v ≠ .null)
    (hread : type.read v = some value) :
    Field.read { name, type, missing, nullable } payload = .ok value := by
  unfold Field.read
  rw [h]
  cases v <;> first | exact absurd rfl hnull | simp [hread, require]

theorem read_text {text : String} {nullable : Bool} {missing : Missing}
    (h : Json.get? payload name = some (.text text)) :
    Field.read { name, type := .text, missing, nullable } payload = .ok (.text text) :=
  read_required h nofun rfl

theorem read_number {q : ℚ} {nullable : Bool} {missing : Missing}
    (h : Json.get? payload name = some (.number q)) :
    Field.read { name, type := .number, missing, nullable } payload = .ok (.number q) :=
  read_required h nofun (by simp [FieldType.read, Wire.number_number])

theorem read_integer {q : ℚ} {nullable : Bool} {missing : Missing} (hwhole : q.den = 1)
    (h : Json.get? payload name = some (.number q)) :
    Field.read { name, type := .integer, missing, nullable } payload = .ok (.integer q.num) :=
  read_required h nofun (by simp [FieldType.read, Wire.integer_number, hwhole])

theorem read_uuid {id : UUID} {nullable : Bool} {missing : Missing}
    (h : Json.get? payload name = some (.text (Wire.uuidText id))) :
    Field.read { name, type := .uuid, missing, nullable } payload = .ok (.uuid id) :=
  read_required h nofun (by simp [FieldType.read, Wire.uuid_uuidText])

theorem read_datetime {t : Instant} {nullable : Bool} {missing : Missing}
    (h : Json.get? payload name = some (.text (Wire.isoText t))) :
    Field.read { name, type := .datetime, missing, nullable } payload = .ok (.datetime t) :=
  read_required h nofun (by simp [FieldType.read, Wire.datetime_isoText])

theorem read_missing {type : FieldType} (h : Json.get? payload name = none) :
    Field.read { name, type } payload = .ok .null := by
  rw [Field.read, h]

theorem read_optional {α : Type} {type : FieldType} {o : Option α} {json : α → Json}
    {value : α → Value} (h : Json.get? payload name = o.map json)
    (hread : ∀ a, Json.get? payload name = some (json a) →
      Field.read { name, type } payload = .ok (value a)) :
    Field.read { name, type } payload = .ok ((o.map value).getD .null) := by
  cases o with
  | none => exact read_missing h
  | some a => exact hread a h

end Read

/-- `str | None = None` and the like. -/
def optionals (type : FieldType) (names : List String) : List Field :=
  names.map fun name => { name, type }

/-- A field without a default. -/
def requireds (type : FieldType) (names : List String) : List Field :=
  names.map fun name => { name, type, missing := .required, nullable := false }

/-- A field with a default that is not null. -/
def withDefault (name : String) (type : FieldType) (value : Value) : Field :=
  { name, type, missing := .default value, nullable := false }

def tripCreate : List Field :=
  optionals .uuid ["contract_id"] ++ requireds .uuid ["vehicle_id", "driver_id"] ++
    requireds .text ["origin", "destination"] ++ optionals .text ["cargo_type", "cargo_class"] ++
    optionals .number ["cargo_weight"] ++ optionals .text ["load_state"] ++
    [withDefault "requires_load_permit" .bool (.bool false),
      withDefault "requires_cargo_manifest" .bool (.bool false)] ++
    optionals .datetime ["planned_departure", "planned_arrival"] ++
    optionals .text ["contract_reference", "payload_override_reason"] ++
    [withDefault "is_hazmat" .bool (.bool false), withDefault "is_international" .bool (.bool false)] ++
    optionals .text ["hazmat_class", "un_number", "hazmat_label", "hos_override_reason"]

def tripStopCreate : List Field :=
  requireds .text ["stop_type"] ++ optionals .object ["location"] ++
    optionals .text ["address", "notes"] ++ optionals .uuid ["photo_file_id"] ++
    optionals .number ["cost"] ++ optionals .text ["expense_category"] ++
    optionals .datetime ["stopped_at"]

def tripCostCreate : List Field :=
  requireds .text ["cost_type"] ++ optionals .text ["description"] ++ requireds .number ["amount"] ++
    [withDefault "currency" .text (.text "MZN"), withDefault "paid_by" .text (.text "company")] ++
    optionals .text ["payment_method"] ++ optionals .uuid ["receipt_file_id"] ++
    requireds .text ["request_reference"] ++ requireds .datetime ["incurred_at"]

def loadPermitCreate : List Field :=
  optionals .uuid ["contract_id"] ++
    optionals .text ["client_name", "client_reference", "permit_number"] ++
    [withDefault "issuer_type" .text (.text "client")] ++
    optionals .text ["issuer_name", "district", "location_name", "origin", "destination"] ++
    optionals .datetime ["valid_from", "valid_until"] ++
    [withDefault "leg_type" .text (.text "single"), withDefault "load_state" .text (.text "loaded")] ++
    optionals .uuid ["file_id"] ++ optionals .text ["notes"]

def cargoManifestCreate : List Field :=
  optionals .uuid ["contract_id"] ++
    optionals .text ["manifest_number", "client_name", "shipper_name", "recipient_name",
      "cargo_description", "cargo_type", "cargo_class"] ++
    optionals .integer ["package_count"] ++ optionals .number ["gross_weight"] ++
    optionals .text ["origin", "destination"] ++ optionals .datetime ["issued_at"] ++
    optionals .uuid ["file_id"]

def transportDocumentCreate : List Field :=
  optionals .uuid ["contract_id"] ++ requireds .text ["document_type"] ++
    optionals .text ["document_number", "issuer", "client_name"] ++
    optionals .datetime ["issued_at", "valid_from", "valid_until"] ++
    optionals .text ["origin", "destination", "district", "location_name"] ++
    optionals .uuid ["file_id"] ++ optionals .text ["notes"]

def deliveryProofCreate : List Field :=
  optionals .uuid ["contract_id", "load_permit_id"] ++
    optionals .text ["load_permit_number", "document_number"] ++
    [withDefault "proof_type" .text (.text "client_discharge_note"),
      withDefault "client_type" .text (.text "company")] ++
    optionals .text ["receiver_name", "receiver_contact", "delivery_location"] ++
    requireds .datetime ["delivered_at"] ++
    [withDefault "cargo_condition" .text (.text "intact")] ++
    optionals .number ["quantity_delivered"] ++ optionals .text ["validation_method", "notes"] ++
    optionals .uuid ["file_id"]

def fuelLogCreate : List Field :=
  requireds .uuid ["vehicle_id", "driver_id"] ++ requireds .datetime ["fuel_date"] ++
    optionals .text ["station_name"] ++ optionals .object ["station_location"] ++
    [withDefault "fuel_type" .text (.text "gasoleo")] ++ requireds .number ["liters"] ++
    optionals .number ["price_per_liter"] ++ requireds .number ["total_cost"] ++
    requireds .integer ["km_at_refuel"] ++
    optionals .uuid ["receipt_file_id", "odometer_file_id"] ++
    optionals .text ["payment_method", "payment_reference"] ++
    optionals .datetime ["client_captured_at"]

def checklistCreate : List Field :=
  requireds .uuid ["vehicle_id", "driver_id", "template_id"] ++ requireds .text ["type"] ++
    [withDefault "responses" .object (.object [])] ++ optionals .object ["location"] ++
    optionals .number ["gps_accuracy_m"] ++ optionals .text ["gps_source"] ++
    optionals .datetime ["client_captured_at", "started_at"]

end Rotas
