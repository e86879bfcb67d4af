import Rotas.Sync.Payloads

/-!
# Rotas.Sync.Normalisation

What becomes of the payload of an offline operation, whatever its keys are.

* `SnakeCase` — a key without capital letters: one that stays as it is.
* `Normalises` — the payload keeps its shape and its values, every key comes out in snake case,
  a second time changes nothing, and every entry is found under its new keys.
* `Tidy` — no object outside of lists has two keys of one snake case, and the keys inside
  lists are in snake case already.
* `normalises_iff` — these are the payloads that are normalised.
* `keys_left_and_merged` — an object in a list keeps its keys; two spellings leave one entry.
-/

namespace Rotas
namespace Sync

open Json

section

variable [Locale]

/-- The key has nothing to lower. -/
def SnakeCase (key : String) : Prop := Locale.lower key = key

instance (key : String) : Decidable (SnakeCase key) := inferInstanceAs (Decidable (_ = _))

/-- What `str.lower` gives has no capital letter, and nothing that would be lowered again. -/
structure LawfulLower : Prop where
  small : ∀ s, Small (Locale.lower s)
  again : ∀ s, Locale.lower (Locale.lower s) = Locale.lower s

structure Normalises (payload : Payload) : Prop where
  alike : Alike (.object payload) (.object (normalizePayload payload))
  snakeCase : AllKeys SnakeCase (.object (normalizePayload payload))
  idempotent : normalizePayload (normalizePayload payload) = normalizePayload payload
  found : ∀ path v, Json.find (.object payload) path = some v →
    Json.find (.object (normalizePayload payload)) (path.map Sync.snakeCase) =
      some (rename Sync.snakeCase v)

structure Tidy (payload : Payload) : Prop where
  distinct : Json.Distinct snakeCase (.object payload)
  lists : ListKeys SnakeCase (.object payload)

variable {payload : Payload}

theorem rename_payload : rename snakeCase (.object payload) = .object (normalizePayload payload) :=
  rfl

theorem snakeCase_of_snakeCase (hlower : LawfulLower) {key : String} (h : SnakeCase key) :
    snakeCase key = key := by
  have hsmall : Small key := h ▸ hlower.small key
  rw [snakeCase, splitWords_eq_self false _ hsmall, splitCaps_eq_self _ hsmall, String.ofList_toList,
    h]

theorem snakeCase_again (hlower : LawfulLower) (key : String) :
    snakeCase (snakeCase key) = snakeCase key :=
  snakeCase_of_snakeCase hlower (hlower.again _)

theorem normalizePayload_again (hlower : LawfulLower) (payload : Payload) :
    normalizePayload (normalizePayload payload) = normalizePayload payload := by
  have h := rename_again (snakeCase_again hlower) (.object payload)
  rw [rename_payload, rename_payload] at h
  exact Json.object.inj h

/-- A payload is normalised as it should be exactly if no two keys of one object come to the same,
and the objects in lists need no normalisation. -/
theorem normalises_iff (hlower : LawfulLower) (hproper : Proper (.object payload)) :
    Normalises payload ↔ Tidy payload := by
  have hkeys (hdistinct : Json.Distinct snakeCase (.object payload)) :=
    allKeys_rename_iff (fun key => hlower.again _) hproper hdistinct (P := SnakeCase)
  constructor
  · intro h
    have hdistinct := (alike_rename_iff hproper).mp h.alike
    exact ⟨hdistinct, (hkeys hdistinct).mp h.snakeCase⟩
  · intro h
    refine ⟨(alike_rename_iff hproper).mpr h.distinct, (hkeys h.distinct).mpr h.lists,
      normalizePayload_again hlower payload, fun path v hfind => ?_⟩
    exact find_rename hproper h.distinct hfind

end

/-! ## ASCII letters -/

theorem toList_lower_chars (s : String) :
    (@Locale.lower Locale.chars s).toList = s.toList.map Char.toLower := String.toList_ofList

theorem lawfulLower_chars : @LawfulLower Locale.chars := by
  refine @LawfulLower.mk Locale.chars (fun s c hc => ?_) fun s => ?_
  · rw [toList_lower_chars] at hc
    obtain ⟨c', _, rfl⟩ := List.mem_map.mp hc
    exact isUpper_toLower c'
  · apply String.toList_injective
    rw [toList_lower_chars, toList_lower_chars, List.map_map]
    exact List.map_congr_left fun c _ => toLower_of_small (isUpper_toLower c)

/-! ## Payloads -/

section Payloads

/-- A stop with its cargo and its seals, as a phone sends it. -/
def sentStop : Payload :=
  [("stopType", .text "border"), ("cargo", .object [("grossWeightKg", .number 1200)]),
    ("seals", .list [.object [("number", .text "A-17")]])]

/-- The units of a load, each an object in a list. -/
def sentUnits : Payload := [("units", .list [.object [("grossWeightKg", .number 1200)]])]

/-- One field in two spellings. -/
def sentTwice : Payload := [("fuelType", .text "diesel"), ("fuel_type", .text "petrol")]

theorem proper_sentStop : Proper (.object sentStop) := by
  refine .object (by decide) ?_
  simp only [sentStop, List.forall_mem_cons, List.not_mem_nil, false_imp_iff, implies_true, and_true]
  refine ⟨.text _, .object (by decide) ?_, .list ?_⟩
  · exact List.forall_mem_singleton.mpr (.number _)
  · exact List.forall_mem_singleton.mpr
      (.object (by decide) (List.forall_mem_singleton.mpr (.text _)))

theorem normalises_sentStop : letI := Locale.chars; Normalises sentStop := by
  let := Locale.chars
  refine (normalises_iff lawfulLower_chars proper_sentStop).mpr ⟨?_, ?_⟩
  · rw [distinct_object proper_sentStop.nodup]
    refine ⟨by decide, fun e he => ?_⟩
    simp only [sentStop, List.mem_cons, List.not_mem_nil, or_false] at he
    rcases he with rfl | rfl | rfl
    · exact distinct_of_leaf fun _ h => by cases h
    · rw [distinct_object (by decide)]
      refine ⟨by decide, List.forall_mem_singleton.mpr ?_⟩
      exact distinct_of_leaf fun _ h => by cases h
    · exact distinct_of_leaf fun _ h => by cases h
  · rw [listKeys_object proper_sentStop.nodup]
    intro e he
    simp only [sentStop, List.mem_cons, List.not_mem_nil, or_false] at he
    rcases he with rfl | rfl | rfl
    · exact listKeys_of_leaf (fun _ h => by cases h) fun _ h => by cases h
    · rw [listKeys_object (by decide)]
      refine List.forall_mem_singleton.mpr ?_
      exact listKeys_of_leaf (fun _ h => by cases h) fun _ h => by cases h
    · rw [listKeys_list]
      refine List.forall_mem_singleton.mpr (.object ?_ ?_)
      · exact List.forall_mem_singleton.mpr (by decide)
      · exact List.forall_mem_singleton.mpr (.text _)

/-- An object in a list keeps the keys of the phone, and of two spellings of a field the second
value is left. -/
theorem keys_left_and_merged : letI := Locale.chars
    (Proper (.object sentUnits) ∧ ¬ Normalises sentUnits) ∧
      Proper (.object sentTwice) ∧ ¬ Normalises sentTwice ∧
        normalizePayload sentTwice = [("fuel_type", .text "petrol")] := by
  let := Locale.chars
  have hunits : Proper (.object sentUnits) :=
    .object (by decide) (List.forall_mem_singleton.mpr (.list (List.forall_mem_singleton.mpr
      (.object (by decide) (List.forall_mem_singleton.mpr (.number _))))))
  have htwice : Proper (.object sentTwice) := by
    refine .object (by decide) ?_
    simp only [sentTwice, List.forall_mem_cons, List.not_mem_nil, false_imp_iff, implies_true,
      and_true]
    exact ⟨.text _, .text _⟩
  refine ⟨⟨hunits, fun h => ?_⟩, htwice, fun h => ?_, ?_⟩
  · cases h.snakeCase with
    | object _ hvalues =>
      cases hvalues _ (List.mem_singleton.mpr rfl) with
      | list hitems =>
        cases hitems _ (List.mem_singleton.mpr rfl) with
        | object hkeys _ =>
          exact absurd (hkeys _ (List.mem_singleton.mpr rfl)) (by decide)
  · cases h.alike with
    | object hentries => exact absurd hentries.length_eq (by decide)
  · have hkey : Sync.snakeCase "fuelType" = "fuel_type" := by decide
    have hsame : Sync.snakeCase "fuel_type" = "fuel_type" := by decide
    rw [normalizePayload, renameEntries_eq_map]
    simp [sentTwice, hkey, hsame, dictOf, fill, assign, rename]

end Payloads

end Sync
end Rotas
