import Rotas.Data
import Rotas.Lib.Binary64

/-!
# Rotas.Gps.Positions

What a tracking device sends, and what is stored of it. A number of a payload is the exact value of
the int or of the float that was read.

* `Numerals` — how the language reads texts as numbers and moments.
* `orChain` — `raw.get(a) or raw.get(b) or …`.
* `normalizePosition` — the position of a payload.
* `sent`, `Exactly`   — the values a payload gives, and a position that has just these.
* `Clear` — the payloads whose values come through: `stored_of_clear`.
-/

namespace Rotas.Gps

/-- Values that are no numbers, read as finite numbers, and moments; none where that raises. A text
without a time zone is in UTC. -/
class Numerals where
  float : Json → Option ℚ
  decimal : Json → Option ℚ
  int : Json → Option Int
  fromtimestamp : ℚ → Option Instant
  fromisoformat : String → Option Instant

/-- Texts that are no numbers, and whole seconds. -/
@[reducible] def Numerals.none : Numerals where
  float _ := .none
  decimal _ := .none
  int _ := .none
  fromtimestamp q := some ⌊q⌋
  fromisoformat _ := .none

section

variable [Numerals]

/-- `float(value)`: an int is rounded, and raises where it is too large. -/
def float : Json → Option ℚ
  | .number q => Binary64.ofRat q
  | v => Numerals.float v

def floatError (name : String) : Json → Exc
  | .number _ => .overflowError
  | _ => .valueError name

/-- `Decimal(str(value))`: an int is written as it is, a float as the shortest number that reads back
as the float. -/
def decimal : Json → Option ℚ
  | .number q => some (if q.den = 1 then q else Binary64.shortest q)
  | v => Numerals.decimal v

/-- `int(value)`: a number loses what it has after the point. -/
def int : Json → Option Int
  | .number q => some (q.num.tdiv q.den)
  | v => Numerals.int v

end

/-! ## Spellings -/

/-- `raw.get(key)`; a null is as good as nothing. -/
def look (raw : Payload) (key : String) : Option Json :=
  match Json.get? raw key with
  | some .null => none
  | v => v

def orChain (raw : Payload) : List String → Option Json
  | [] => none
  | [key] => look raw key
  | key :: keys => ((look raw key).filter Json.truthy).or (orChain raw keys)

def latKeys : List String := ["lat", "latitude", "Lat", "LAT"]

def lonKeys : List String := ["lon", "lng", "longitude", "Lon", "LON"]

def speedKeys : List String := ["speed", "Speed", "spd"]

def headingKeys : List String := ["angle", "heading", "course", "Heading"]

def accuracyKeys : List String := ["accuracy", "hdop"]

def timestampKeys : List String := ["timestamp", "recorded_at", "time", "dt"]

/-- The value that a payload gives under one of the spellings. -/
def sent (raw : Payload) (keys : List String) : Option Json := keys.findSome? (look raw)

/-- The value is none that counts as false; or nothing under any spelling counts as true, and the
value is the one under the last. -/
def Heard (raw : Payload) (keys : List String) : Prop :=
  ∀ v, sent raw keys = some v → v.truthy = true ∨
    (∀ key ∈ keys, ∀ v', look raw key = some v' → v'.truthy = false) ∧
      keys.getLast?.bind (look raw) = some v

section

variable {raw : Payload} {keys : List String}

theorem heard_of_truthy (h : (sent raw keys).all Json.truthy = true) : Heard raw keys := by
  intro v hv
  rw [hv, Option.all_some] at h
  exact .inl h

/-- The first value that counts as true, else the one under the last spelling. -/
theorem orChain_eq (raw : Payload) (keys : List String) :
    orChain raw keys = ((keys.filterMap (look raw)).find? Json.truthy).or
      (keys.getLast?.bind (look raw)) := by
  induction keys with
  | nil => rfl
  | cons key keys ih =>
    cases keys with
    | nil =>
      cases hv : look raw key with
      | none => simp [orChain, hv]
      | some v => cases htrue : v.truthy <;> simp [orChain, hv, htrue]
    | cons key' keys =>
      have hchain : orChain raw (key :: key' :: keys) =
          ((look raw key).filter Json.truthy).or (orChain raw (key' :: keys)) := rfl
      rw [hchain, ih, List.getLast?_cons_cons]
      cases hv : look raw key with
      | none =>
        rw [List.filterMap_cons_none hv]
        rfl
      | some v =>
        rw [List.filterMap_cons_some hv]
        cases htrue : v.truthy with
        | true =>
          rw [List.find?_cons_of_pos htrue, Option.filter_some, if_pos htrue]
          rfl
        | false =>
          have hfalse : ¬ v.truthy = true := by
            rw [htrue]
            exact Bool.false_ne_true
          rw [List.find?_cons_of_neg hfalse, Option.filter_some, if_neg hfalse]
          rfl

theorem sent_isSome_of_orChain {v : Json} (h : orChain raw keys = some v) :
    (sent raw keys).isSome = true := by
  have hmem : ∃ key ∈ keys, (look raw key).isSome = true := by
    rw [orChain_eq, Option.or_eq_some_iff] at h
    rcases h with hfound | ⟨-, hlast⟩
    · obtain ⟨key, hkey, hlook⟩ := List.mem_filterMap.mp (List.mem_of_find?_eq_some hfound)
      exact ⟨key, hkey, by rw [hlook]; rfl⟩
    · obtain ⟨key, hkey, hlook⟩ := Option.bind_eq_some_iff.mp hlast
      exact ⟨key, List.mem_of_getLast? hkey, by rw [hlook]; rfl⟩
  exact List.findSome?_isSome_iff.mpr hmem

theorem orChain_of_heard (h : Heard raw keys) : orChain raw keys = sent raw keys := by
  have hhead : sent raw keys = (keys.filterMap (look raw)).head? := List.head?_filterMap.symm
  rw [orChain_eq]
  cases hsent : sent raw keys with
  | none =>
    rw [hhead, List.head?_eq_none_iff] at hsent
    have hlast : keys.getLast?.bind (look raw) = none := by
      cases hkey : keys.getLast? with
      | none => rfl
      | some key =>
        rw [List.filterMap_eq_nil_iff] at hsent
        exact hsent key (List.mem_of_getLast? hkey)
    rw [hsent, hlast]
    rfl
  | some v =>
    rcases h v hsent with htrue | ⟨hfalse, hlast⟩
    · rw [hhead] at hsent
      obtain ⟨vs, hvs⟩ := List.head?_eq_some_iff.mp hsent
      rw [hvs, List.find?_cons_of_pos htrue]
      rfl
    · have hnone : (keys.filterMap (look raw)).find? Json.truthy = none := by
        refine List.find?_eq_none.mpr fun v' hv' => ?_
        obtain ⟨key, hkey, hlook⟩ := List.mem_filterMap.mp hv'
        rw [hfalse key hkey v' hlook]
        exact Bool.false_ne_true
      rw [hnone, hlast]
      rfl

end

/-! ## Positions -/

structure Normalized where
  lat : ℚ
  lon : ℚ
  speedKmh : Option ℚ
  headingDeg : Option Int
  accuracyM : Option ℚ
  recordedAt : Instant

/-- The columns of a position; speed and accuracy (`NUMERIC(6, 2)` and `NUMERIC(8, 2)`) count
hundredths. -/
structure Columns where
  lat : ℚ
  lon : ℚ
  speedKmh : Option Int
  headingDeg : Option Int
  accuracyM : Option Int
  recordedAt : Instant

structure GpsPosition extends Columns where
  id : UUID
  tenantId : UUID
  vehicleId : UUID
  deviceId : UUID
  rawPayload : Payload

instance : Keyed GpsPosition := ⟨GpsPosition.id⟩

structure VehicleLastPosition where
  vehicleId : UUID
  tenantId : UUID
  lat : ℚ
  lon : ℚ
  speedKmh : Option Int
  headingDeg : Option Int
  recordedAt : Instant
  updatedAt : Instant

section

variable [Numerals]

def invalidPosition : Exc := unprocessable "invalid_position" "Payload missing lat/lon fields"

/-- `conversion(value) if value is not None else None`. -/
def converted {α : Type} (conversion : Json → Option α) (name : String) :
    Option Json → Except Exc (Option α)
  | none => .ok none
  | some v => (require (conversion v) (.valueError name)).map some

def recordedAt (now : Instant) : Option Json → Except Exc Instant
  | some (.number q) => require (Numerals.fromtimestamp q) (.valueError "timestamp")
  | some (.bool b) => require (Numerals.fromtimestamp (if b then 1 else 0)) (.valueError "timestamp")
  | some (.text s) => .ok ((Numerals.fromisoformat s).getD now)
  | _ => .ok now

def normalizePosition (now : Instant) (raw : Payload) : Except Exc Normalized := do
  let lat ← require (orChain raw latKeys) invalidPosition
  let lon ← require (orChain raw lonKeys) invalidPosition
  let recordedAt ← recordedAt now (orChain raw timestampKeys)
  let lat ← require (float lat) (floatError "lat" lat)
  let lon ← require (float lon) (floatError "lon" lon)
  let speedKmh ← converted decimal "speed" (orChain raw speedKeys)
  let headingDeg ← converted int "heading" (orChain raw headingKeys)
  let accuracyM ← converted decimal "accuracy" (orChain raw accuracyKeys)
  return { lat, lon, speedKmh, headingDeg, accuracyM, recordedAt }

/-- The range of a column. -/
def fitsIn (low high n : Int) : Bool := low ≤ n && n ≤ high

def fitsSpeed : Int → Bool := fitsIn (-999999) 999999

/-- `SMALLINT`. -/
def fitsHeading : Int → Bool := fitsIn (-32768) 32767

def fitsAccuracy : Int → Bool := fitsIn (-99999999) 99999999

/-- What the database makes of the values: it rounds to the hundredth and refuses what is too
large. -/
def Normalized.columns (n : Normalized) : Except Exc Columns := do
  let speedKmh := n.speedKmh.map (Decimal.numeric 2)
  let accuracyM := n.accuracyM.map (Decimal.numeric 2)
  raiseIf (!(speedKmh.all fitsSpeed && n.headingDeg.all fitsHeading && accuracyM.all fitsAccuracy))
    .dataError
  return { n with speedKmh, accuracyM }

/-! ## What was sent -/

/-- The number that a value is, or is read as. -/
def named : Json → Option ℚ
  | .number q => some q
  | v => Numerals.float v

/-- A column holds the value, or nothing where none was sent; `parts` of the column's units are one
of the value's. -/
def Stores (reading : Json → Option ℚ) (parts : ℚ) (column : Option Int) : Option Json → Prop
  | none => column = none
  | some v => ∃ n : Int, column = some n ∧ reading v = some ((n : ℚ) / parts)

/-- The moment that a value names. -/
def moment : Json → Option Instant
  | .number q => Numerals.fromtimestamp q
  | .text s => Numerals.fromisoformat s
  | _ => none

/-- A position with exactly the values that were sent. -/
structure Exactly (raw : Payload) (c : Columns) : Prop where
  lat : (sent raw latKeys).bind named = some c.lat
  lon : (sent raw lonKeys).bind named = some c.lon
  speed : Stores decimal 100 c.speedKmh (sent raw speedKeys)
  heading : Stores named 1 c.headingDeg (sent raw headingKeys)
  accuracy : Stores decimal 100 c.accuracyM (sent raw accuracyKeys)
  recordedAt : ∀ t, (sent raw timestampKeys).bind moment = some t → c.recordedAt = t

/-- A number of hundredths that the column has room for. -/
def Hundredths (fits : Int → Bool) (v : Json) : Prop :=
  ∃ n : Int, decimal v = some ((n : ℚ) / 100) ∧ fits n = true

/-- What is sent is heard, is a number, and fits its column; a coordinate is a float. -/
structure Clear (raw : Payload) : Prop where
  heard : ∀ keys ∈ [latKeys, lonKeys, speedKeys, headingKeys, accuracyKeys, timestampKeys],
    Heard raw keys
  coordinates : ∀ keys ∈ [latKeys, lonKeys], ∀ v ∈ sent raw keys,
    (float v).isSome = true ∧ float v = named v
  speed : ∀ v ∈ sent raw speedKeys, Hundredths fitsSpeed v
  heading : ∀ v ∈ sent raw headingKeys,
    ∃ n : Int, named v = some (n : ℚ) ∧ int v = some n ∧ fitsHeading n = true
  accuracy : ∀ v ∈ sent raw accuracyKeys, Hundredths fitsAccuracy v
  timestamp : ∀ v ∈ sent raw timestampKeys, (recordedAt 0 (some v)).isOk = true

/-! ## What comes through -/

variable {raw : Payload} {keys : List String} {name : String}

omit [Numerals] in
theorem numeric_hundredths (n : Int) : Decimal.numeric 2 (n / 100) = n := by
  have hexact := (Decimal.rounds_numeric 2).exact n
  norm_num at hexact
  exact hexact

theorem converted_hundredths {fits : Int → Bool} {v : Option Json}
    (h : ∀ v' ∈ v, Hundredths fits v') : ∃ q, converted decimal name v = .ok q ∧
      (q.map (Decimal.numeric 2)).all fits = true ∧ Stores decimal 100 (q.map (Decimal.numeric 2)) v := by
  cases v with
  | none => exact ⟨none, rfl, rfl, rfl⟩
  | some v =>
    obtain ⟨n, hn, hfits⟩ := h v rfl
    refine ⟨some ((n : ℚ) / 100), ?_, ?_, n, ?_, hn⟩
    · rw [converted, hn]
      rfl
    · rw [Option.map_some, numeric_hundredths]
      exact hfits
    · rw [Option.map_some, numeric_hundredths]

theorem converted_heading {v : Option Json}
    (h : ∀ v' ∈ v, ∃ n : Int, named v' = some (n : ℚ) ∧ int v' = some n ∧ fitsHeading n = true) :
    ∃ n, converted int name v = .ok n ∧ n.all fitsHeading = true ∧ Stores named 1 n v := by
  cases v with
  | none => exact ⟨none, rfl, rfl, rfl⟩
  | some v =>
    obtain ⟨n, hnamed, hint, hfits⟩ := h v rfl
    refine ⟨some n, ?_, hfits, n, rfl, ?_⟩
    · rw [converted, hint]
      rfl
    · rw [hnamed, div_one]

theorem recordedAt_sent {now : Instant} {v : Option Json}
    (h : ∀ v' ∈ v, (recordedAt 0 (some v')).isOk = true) :
    ∃ t, recordedAt now v = .ok t ∧ ∀ t', v.bind moment = some t' → t = t' := by
  cases v with
  | none => exact ⟨now, rfl, fun t' ht' => by cases ht'⟩
  | some v =>
    have hok := h v rfl
    cases v with
    | number q =>
      obtain ⟨t, ht⟩ := eq_ok_of_isOk hok
      refine ⟨t, ht, fun t' ht' => ?_⟩
      rw [recordedAt, require_eq_ok] at ht
      exact Option.some.inj (ht.symm.trans ht')
    | bool b =>
      obtain ⟨t, ht⟩ := eq_ok_of_isOk hok
      exact ⟨t, ht, fun t' ht' => by cases ht'⟩
    | text s =>
      refine ⟨(Numerals.fromisoformat s).getD now, rfl, fun t' ht' => ?_⟩
      rw [show Numerals.fromisoformat s = some t' from ht', Option.getD_some]
    | _ => exact ⟨now, rfl, fun t' ht' => by cases ht'⟩

theorem stored_of_clear (now : Instant) (h : Clear raw) (hlat : (sent raw latKeys).isSome = true)
    (hlon : (sent raw lonKeys).isSome = true) :
    ∃ n c, normalizePosition now raw = .ok n ∧ n.columns = .ok c ∧ Exactly raw c := by
  have hheard (keys : List String) (hkeys : keys ∈ [latKeys, lonKeys, speedKeys, headingKeys,
      accuracyKeys, timestampKeys]) : orChain raw keys = sent raw keys :=
    orChain_of_heard (h.heard keys hkeys)
  obtain ⟨lat, hlat⟩ := Option.isSome_iff_exists.mp hlat
  obtain ⟨lon, hlon⟩ := Option.isSome_iff_exists.mp hlon
  obtain ⟨hlatFloat, hlatNamed⟩ := h.coordinates latKeys (by simp) lat hlat
  obtain ⟨hlonFloat, hlonNamed⟩ := h.coordinates lonKeys (by simp) lon hlon
  obtain ⟨latValue, hlatValue⟩ := Option.isSome_iff_exists.mp hlatFloat
  obtain ⟨lonValue, hlonValue⟩ := Option.isSome_iff_exists.mp hlonFloat
  obtain ⟨speed, hspeed, hspeedFits, hspeedHolds⟩ :=
    @converted_hundredths _ "speed" _ _ h.speed
  obtain ⟨heading, hheading, hheadingFits, hheadingHolds⟩ :=
    @converted_heading _ "heading" _ h.heading
  obtain ⟨accuracy, haccuracy, haccuracyFits, haccuracyHolds⟩ :=
    @converted_hundredths _ "accuracy" _ _ h.accuracy
  obtain ⟨t, ht, htSent⟩ := @recordedAt_sent _ now _ h.timestamp
  refine ⟨⟨latValue, lonValue, speed, heading, accuracy, t⟩, ⟨latValue, lonValue,
    speed.map (Decimal.numeric 2), heading, accuracy.map (Decimal.numeric 2), t⟩, ?_, ?_, ?_⟩
  · rw [normalizePosition, hheard latKeys (by simp), hheard lonKeys (by simp),
      hheard speedKeys (by simp), hheard headingKeys (by simp), hheard accuracyKeys (by simp),
      hheard timestampKeys (by simp), hlat, hlon, ht, hspeed, hheading, haccuracy]
    simp [require, hlatValue, hlonValue, bind, Except.bind, pure, Except.pure]
  · rw [Normalized.columns]
    simp [hspeedFits, hheadingFits, haccuracyFits, raiseIf, bind, Except.bind, pure, Except.pure]
  · exact ⟨by rw [hlat]; exact hlatNamed.symm.trans hlatValue,
      by rw [hlon]; exact hlonNamed.symm.trans hlonValue, hspeedHolds, hheadingHolds,
      haccuracyHolds, htSent⟩

end

end Rotas.Gps
