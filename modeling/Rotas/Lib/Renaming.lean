import Rotas.Core.Json
import Mathlib.Data.List.Forall2
import Mathlib.Data.List.Nodup

/-!
# Rotas.Lib.Renaming

New names for the keys of nested objects. A dictionary is filled entry by entry, so two keys of one
new name leave one entry: the place of the first with the value of the last.

* `assign`, `dictOf` — `d[key] = value`, and the dictionary of a list of entries.
* `rename f` — every key `k` becomes `f k`, in the object and in the objects that its entries
  hold; a list is left as it is.
* `find` — what is at a path of keys.
* `Proper`, `AllKeys`, `Alike` — dictionaries, a property of every key at every depth, and values that
  differ in their keys only.
* `rename_again` — renaming is idempotent if `f` is.
* `alike_rename_iff` — nothing but the keys changes exactly if no object has two keys of one new name.
* `find_rename` — then every value is at its renamed path.
-/

namespace Rotas

/-! ## Dictionaries -/

/-- `entries[key] = value`: a key that is there keeps its place. -/
def assign (entries : Payload) (e : String × Json) : Payload :=
  if e.1 ∈ entries.map Prod.fst then entries.map fun e' => if e'.1 = e.1 then e else e'
  else entries ++ [e]

/-- The entries are set one after the other. -/
def fill : Payload → List (String × Json) → Payload := List.foldl assign

def dictOf (entries : List (String × Json)) : Payload := fill [] entries

section Dict

variable {acc es : Payload} {e : String × Json}

theorem keys_assign :
    (assign acc e).map Prod.fst =
      if e.1 ∈ acc.map Prod.fst then acc.map Prod.fst else acc.map Prod.fst ++ [e.1] := by
  unfold assign
  split
  · rw [List.map_map]
    refine List.map_congr_left fun e' _ => ?_
    rw [Function.comp_apply]
    split
    · next heq => exact heq.symm
    · rfl
  · rw [List.map_append, List.map_singleton]

theorem nodup_assign (h : (acc.map Prod.fst).Nodup) : ((assign acc e).map Prod.fst).Nodup := by
  rw [keys_assign]
  split
  · exact h
  · next hnew => exact List.nodup_append.mpr ⟨h, List.nodup_singleton _, by
      intro a ha b hb hab
      exact hnew (List.mem_singleton.mp hb ▸ hab ▸ ha)⟩

theorem mem_assign {e' : String × Json} (h : e' ∈ assign acc e) : e' ∈ acc ∨ e' = e := by
  unfold assign at h
  split at h
  · obtain ⟨e'', he'', rfl⟩ := List.mem_map.mp h
    split
    · exact .inr rfl
    · exact .inl he''
  · rcases List.mem_append.mp h with h | h
    · exact .inl h
    · exact .inr (List.mem_singleton.mp h)

theorem nodup_fill (es : List (String × Json)) :
    ∀ {acc : Payload}, (acc.map Prod.fst).Nodup → ((fill acc es).map Prod.fst).Nodup := by
  induction es with
  | nil => intro acc h; exact h
  | cons e es ih => intro acc h; exact ih (nodup_assign h)

theorem mem_fill (es : List (String × Json)) :
    ∀ {acc : Payload} {e' : String × Json}, e' ∈ fill acc es → e' ∈ acc ∨ e' ∈ es := by
  induction es with
  | nil => intro acc e' h; exact .inl h
  | cons e es ih =>
    intro acc e' h
    rcases ih h with h | h
    · rcases mem_assign h with h | rfl
      · exact .inl h
      · exact .inr List.mem_cons_self
    · exact .inr (List.mem_cons_of_mem _ h)

theorem fill_eq_append (es : List (String × Json)) :
    ∀ {acc : Payload}, ((acc ++ es).map Prod.fst).Nodup → fill acc es = acc ++ es := by
  induction es with
  | nil => intro acc _; exact (List.append_nil acc).symm
  | cons e es ih =>
    intro acc h
    have hnew : e.1 ∉ acc.map Prod.fst := by
      rw [List.map_append, List.map_cons, List.nodup_append] at h
      exact fun hmem => h.2.2 _ hmem _ List.mem_cons_self rfl
    have hsplit : acc ++ e :: es = (acc ++ [e]) ++ es := by
      rw [List.append_assoc, List.singleton_append]
    show fill (assign acc e) es = _
    rw [assign, if_neg hnew, hsplit]
    exact ih (hsplit ▸ h)

theorem length_fill_le (es : List (String × Json)) :
    ∀ {acc : Payload}, (fill acc es).length ≤ acc.length + es.length := by
  induction es with
  | nil => intro acc; exact le_rfl
  | cons e es ih =>
    intro acc
    have hone : (assign acc e).length ≤ acc.length + 1 := by
      unfold assign
      split
      · rw [List.length_map]; omega
      · rw [List.length_append, List.length_singleton]
    have hrest : (fill (assign acc e) es).length ≤ (assign acc e).length + es.length := ih
    show (fill (assign acc e) es).length ≤ _
    rw [List.length_cons]
    omega

theorem length_fill_iff (es : List (String × Json)) :
    ∀ {acc : Payload}, (acc.map Prod.fst).Nodup →
      ((fill acc es).length = acc.length + es.length ↔ ((acc ++ es).map Prod.fst).Nodup) := by
  induction es with
  | nil => intro acc h; simpa [fill] using h
  | cons e es ih =>
    intro acc h
    show (fill (assign acc e) es).length = _ ↔ _
    by_cases hold : e.1 ∈ acc.map Prod.fst
    · have hlength : (assign acc e).length = acc.length := by
        rw [assign, if_pos hold, List.length_map]
      have hle : (fill (assign acc e) es).length ≤ (assign acc e).length + es.length :=
        length_fill_le es
      rw [List.length_cons]
      refine iff_of_false (by omega) fun hnodup => ?_
      rw [List.map_append, List.map_cons, List.nodup_append] at hnodup
      exact hnodup.2.2 _ hold _ List.mem_cons_self rfl
    · have hnext := ih (nodup_assign (e := e) h)
      have hsplit : acc ++ e :: es = (acc ++ [e]) ++ es := by
        rw [List.append_assoc, List.singleton_append]
      rw [assign, if_neg hold] at hnext ⊢
      rw [hsplit, ← hnext, List.length_append, List.length_singleton, List.length_cons,
        Nat.add_assoc, Nat.add_comm 1]

theorem dictOf_eq_self (h : (es.map Prod.fst).Nodup) : dictOf es = es := fill_eq_append es h

theorem nodup_dictOf : ((dictOf es).map Prod.fst).Nodup := nodup_fill es List.nodup_nil

theorem mem_dictOf (h : e ∈ dictOf es) : e ∈ es :=
  (mem_fill es h).resolve_left List.not_mem_nil

theorem length_dictOf_iff : (dictOf es).length = es.length ↔ (es.map Prod.fst).Nodup := by
  have h := @length_fill_iff es [] List.nodup_nil
  rwa [List.length_nil, Nat.zero_add, List.nil_append] at h

end Dict

namespace Json

/-! ## Values -/

/-- Induction on a value; the induction hypotheses are for the members of lists and objects. -/
@[elab_as_elim]
theorem induction {motive : Json → Prop} (null : motive .null) (bool : ∀ b, motive (.bool b))
    (number : ∀ q, motive (.number q)) (text : ∀ s, motive (.text s))
    (list : ∀ items, (∀ v ∈ items, motive v) → motive (.list items))
    (object : ∀ entries, (∀ e ∈ entries, motive e.2) → motive (.object entries)) :
    ∀ j, motive j := by
  refine Json.rec (motive_1 := motive) (motive_2 := fun items => ∀ v ∈ items, motive v)
    (motive_3 := fun entries => ∀ e ∈ entries, motive e.2) (motive_4 := fun e => motive e.2)
    null bool number text list object ?_ ?_ ?_ ?_ ?_
  · exact fun v hv => absurd hv List.not_mem_nil
  · exact fun v items hv hitems => List.forall_mem_cons.mpr ⟨hv, hitems⟩
  · exact fun e he => absurd he List.not_mem_nil
  · exact fun e entries he hentries => List.forall_mem_cons.mpr ⟨he, hentries⟩
  · exact fun _ _ hv => hv

/-- Every object has each of its keys once: a value that the language can hold. -/
inductive Proper : Json → Prop where
  | null : Proper .null
  | bool (b : Bool) : Proper (.bool b)
  | number (q : ℚ) : Proper (.number q)
  | text (s : String) : Proper (.text s)
  | list {items : List Json} : (∀ v ∈ items, Proper v) → Proper (.list items)
  | object {entries : Payload} : (entries.map Prod.fst).Nodup → (∀ e ∈ entries, Proper e.2) →
      Proper (.object entries)

/-- Every key satisfies `P`, at every depth and inside lists. -/
inductive AllKeys (P : String → Prop) : Json → Prop where
  | null : AllKeys P .null
  | bool (b : Bool) : AllKeys P (.bool b)
  | number (q : ℚ) : AllKeys P (.number q)
  | text (s : String) : AllKeys P (.text s)
  | list {items : List Json} : (∀ v ∈ items, AllKeys P v) → AllKeys P (.list items)
  | object {entries : Payload} : (∀ e ∈ entries, P e.1) → (∀ e ∈ entries, AllKeys P e.2) →
      AllKeys P (.object entries)

/-- The same shape and the same values; only the keys may differ. -/
inductive Alike : Json → Json → Prop where
  | null : Alike .null .null
  | bool (b : Bool) : Alike (.bool b) (.bool b)
  | number (q : ℚ) : Alike (.number q) (.number q)
  | text (s : String) : Alike (.text s) (.text s)
  | list {items items' : List Json} : List.Forall₂ Alike items items' →
      Alike (.list items) (.list items')
  | object {entries entries' : Payload} :
      List.Forall₂ (fun e e' => Alike e.2 e'.2) entries entries' →
      Alike (.object entries) (.object entries')

/-- What is at a path of keys. -/
def find : Json → List String → Option Json
  | j, [] => some j
  | .object entries, key :: path => (get? entries key).bind (find · path)
  | _, _ :: _ => none

/-- What is at any path of keys satisfies `Q`. -/
def Throughout (Q : Json → Prop) (j : Json) : Prop := ∀ path v, j.find path = some v → Q v

theorem Alike.refl (j : Json) : Alike j j := by
  induction j using Json.induction with
  | null => exact .null
  | bool b => exact .bool b
  | number q => exact .number q
  | text s => exact .text s
  | list items ih => exact .list (List.forall₂_same.mpr ih)
  | object entries ih => exact .object (List.forall₂_same.mpr ih)

theorem Proper.nodup {entries : Payload} (h : Proper (.object entries)) :
    (entries.map Prod.fst).Nodup := by
  cases h with
  | object hnodup _ => exact hnodup

theorem Proper.value {entries : Payload} (h : Proper (.object entries)) {e : String × Json}
    (he : e ∈ entries) : Proper e.2 := by
  cases h with
  | object _ hvalues => exact hvalues e he

theorem get?_of_mem {entries : Payload} (h : (entries.map Prod.fst).Nodup) {e : String × Json}
    (he : e ∈ entries) : get? entries e.1 = some e.2 := by
  induction entries with
  | nil => cases he
  | cons e' entries ih =>
    obtain ⟨hnew, hnodup⟩ := List.nodup_cons.mp h
    rw [get?_cons]
    rcases List.mem_cons.mp he with rfl | he
    · rw [if_pos rfl]
    · have hne : e'.1 ≠ e.1 := by
        intro heq
        exact hnew (heq ▸ List.mem_map_of_mem he)
      rw [if_neg hne, ih hnodup he]

theorem mem_of_get? {entries : Payload} {key : String} {v : Json} (h : get? entries key = some v) :
    (key, v) ∈ entries := by
  obtain ⟨e, he, rfl⟩ := Option.map_eq_some_iff.mp h
  have hkey := List.find?_some he
  rw [decide_eq_true_eq] at hkey
  rw [← hkey]
  exact List.mem_of_find?_eq_some he

@[simp] theorem find_nil (j : Json) : j.find [] = some j := by cases j <;> rfl

@[simp] theorem find_cons (entries : Payload) (key : String) (path : List String) :
    find (.object entries) (key :: path) = (get? entries key).bind (find · path) := rfl

theorem throughout_of_leaf {Q : Json → Prop} {j : Json} (hleaf : ∀ entries, j ≠ .object entries) :
    Throughout Q j ↔ Q j := by
  constructor
  · exact fun h => h [] j (find_nil j)
  · intro h path v hfind
    cases path with
    | nil =>
      rw [find_nil] at hfind
      exact Option.some.inj hfind ▸ h
    | cons key path =>
      cases j with
      | object entries => exact absurd rfl (hleaf entries)
      | _ => cases hfind

theorem throughout_object {Q : Json → Prop} {entries : Payload}
    (h : (entries.map Prod.fst).Nodup) :
    Throughout Q (.object entries) ↔ Q (.object entries) ∧ ∀ e ∈ entries, Throughout Q e.2 := by
  constructor
  · refine fun hall => ⟨hall [] _ (find_nil _), fun e he path v hfind => hall (e.1 :: path) v ?_⟩
    rw [find_cons, get?_of_mem h he, Option.bind_some, hfind]
  · rintro ⟨hself, hvalues⟩ path v hfind
    cases path with
    | nil =>
      rw [find_nil] at hfind
      exact Option.some.inj hfind ▸ hself
    | cons key path =>
      obtain ⟨w, hw, hfind⟩ := Option.bind_eq_some_iff.mp hfind
      exact hvalues _ (mem_of_get? hw) path v hfind

/-! ## Renaming -/

section Rename

variable (f : String → String)

mutual

def rename : Json → Json
  | .object entries => .object (dictOf (renameEntries entries))
  | value => value

def renameEntries : List (String × Json) → List (String × Json)
  | [] => []
  | e :: es => renameEntry e :: renameEntries es

def renameEntry : String × Json → String × Json
  | (key, value) => (f key, rename value)

end

end Rename

variable {f : String → String}

theorem renameEntries_eq_map (entries : Payload) :
    renameEntries f entries = entries.map fun e => (f e.1, rename f e.2) := by
  induction entries with
  | nil => rfl
  | cons e es ih => rw [renameEntries, ih, List.map_cons, renameEntry]

theorem rename_object (entries : Payload) :
    rename f (.object entries) = .object (dictOf (entries.map fun e => (f e.1, rename f e.2))) := by
  rw [rename, renameEntries_eq_map]

theorem keys_renamed (entries : Payload) :
    (entries.map fun e => (f e.1, rename f e.2)).map Prod.fst = entries.map (f ·.1) := by
  rw [List.map_map]
  rfl

/-- No object has two keys of one new name. -/
def Distinct (f : String → String) : Json → Prop :=
  Throughout fun v => ∀ entries, v = .object entries → (entries.map (f ·.1)).Nodup

/-- The keys inside the lists satisfy `P`. -/
def ListKeys (P : String → Prop) : Json → Prop :=
  Throughout fun v => ∀ items, v = .list items → ∀ item ∈ items, AllKeys P item

theorem distinct_object {entries : Payload} (h : (entries.map Prod.fst).Nodup) :
    Distinct f (.object entries) ↔ (entries.map (f ·.1)).Nodup ∧ ∀ e ∈ entries, Distinct f e.2 := by
  rw [Distinct, throughout_object h]
  refine and_congr_left' ⟨fun hself => hself entries rfl, ?_⟩
  rintro hself _ ⟨⟩
  exact hself

theorem distinct_of_leaf {j : Json} (hleaf : ∀ entries, j ≠ .object entries) : Distinct f j := by
  rw [Distinct, throughout_of_leaf hleaf]
  exact fun entries heq => absurd heq (hleaf entries)

theorem listKeys_of_leaf {P : String → Prop} {j : Json} (hleaf : ∀ entries, j ≠ .object entries)
    (hlist : ∀ items, j ≠ .list items) : ListKeys P j := by
  rw [ListKeys, throughout_of_leaf hleaf]
  exact fun items heq => absurd heq (hlist items)

theorem listKeys_list {P : String → Prop} {items : List Json} :
    ListKeys P (.list items) ↔ ∀ item ∈ items, AllKeys P item := by
  rw [ListKeys, throughout_of_leaf fun _ h => by cases h]
  refine ⟨fun h => h items rfl, ?_⟩
  rintro h _ ⟨⟩
  exact h

theorem listKeys_object {P : String → Prop} {entries : Payload}
    (h : (entries.map Prod.fst).Nodup) :
    ListKeys P (.object entries) ↔ ∀ e ∈ entries, ListKeys P e.2 := by
  rw [ListKeys, throughout_object h]
  exact and_iff_right fun items heq => by cases heq

theorem rename_again (hf : ∀ k, f (f k) = f k) (j : Json) : rename f (rename f j) = rename f j := by
  induction j using Json.induction with
  | object entries ih =>
    rw [rename_object, rename_object]
    have hkept : ∀ e ∈ dictOf (entries.map fun e => (f e.1, rename f e.2)),
        (f e.1, rename f e.2) = e := by
      intro e he
      obtain ⟨e', he', rfl⟩ := List.mem_map.mp (mem_dictOf he)
      rw [hf, ih e' he']
    rw [(List.map_congr_left hkept).trans (List.map_id' _), dictOf_eq_self nodup_dictOf]
  | _ => rfl

theorem alike_rename_iff {j : Json} (hproper : Proper j) :
    Alike j (rename f j) ↔ Distinct f j := by
  induction j using Json.induction with
  | object entries ih =>
    rw [rename_object, distinct_object hproper.nodup]
    constructor
    · intro h
      cases h with
      | object hentries =>
        have hlength := hentries.length_eq
        have hnodup : (entries.map (f ·.1)).Nodup := by
          rw [← keys_renamed, ← length_dictOf_iff, ← hlength, List.length_map]
        refine ⟨hnodup, fun e he => (ih e he (hproper.value he)).mp ?_⟩
        rw [dictOf_eq_self (by rwa [keys_renamed]), List.forall₂_map_right_iff,
          List.forall₂_same] at hentries
        exact hentries e he
    · rintro ⟨hnodup, hvalues⟩
      rw [dictOf_eq_self (by rwa [keys_renamed])]
      refine .object ?_
      rw [List.forall₂_map_right_iff, List.forall₂_same]
      exact fun e he => (ih e he (hproper.value he)).mpr (hvalues e he)
  | _ => exact iff_of_true (Alike.refl _) (distinct_of_leaf fun _ h => by cases h)

/-- Where no entry is lost, the keys are new but for those inside lists. -/
theorem allKeys_rename_iff {P : String → Prop} (hP : ∀ k, P (f k)) {j : Json}
    (hproper : Proper j) (hdistinct : Distinct f j) :
    AllKeys P (rename f j) ↔ ListKeys P j := by
  induction j using Json.induction with
  | object entries ih =>
    obtain ⟨hnodup, hvalues⟩ := (distinct_object hproper.nodup).mp hdistinct
    rw [rename_object, dictOf_eq_self (by rwa [keys_renamed]), listKeys_object hproper.nodup]
    constructor
    · intro h e he
      cases h with
      | object _ hrenamed =>
        exact (ih e he (hproper.value he) (hvalues e he)).mp
          (hrenamed _ (List.mem_map_of_mem he))
    · intro h
      refine .object (fun e he => ?_) fun e he => ?_
      · obtain ⟨e', _, rfl⟩ := List.mem_map.mp he
        exact hP e'.1
      · obtain ⟨e', he', rfl⟩ := List.mem_map.mp he
        exact (ih e' he' (hproper.value he') (hvalues e' he')).mpr (h e' he')
  | list items _ =>
    rw [listKeys_list]
    constructor
    · intro h
      cases h with
      | list hitems => exact hitems
    · exact fun h => .list h
  | null => exact iff_of_true .null (listKeys_of_leaf (fun _ h => by cases h) fun _ h => by cases h)
  | bool b =>
    exact iff_of_true (.bool b) (listKeys_of_leaf (fun _ h => by cases h) fun _ h => by cases h)
  | number q =>
    exact iff_of_true (.number q) (listKeys_of_leaf (fun _ h => by cases h) fun _ h => by cases h)
  | text s =>
    exact iff_of_true (.text s) (listKeys_of_leaf (fun _ h => by cases h) fun _ h => by cases h)

theorem find_rename {j : Json} (hproper : Proper j) (hdistinct : Distinct f j) :
    ∀ {path : List String} {v : Json}, j.find path = some v →
      (rename f j).find (path.map f) = some (rename f v) := by
  induction j using Json.induction with
  | object entries ih =>
    intro path v hfind
    cases path with
    | nil =>
      rw [find_nil] at hfind
      rw [← Option.some.inj hfind, List.map_nil, find_nil]
    | cons key path =>
      obtain ⟨hnodup, hvalues⟩ := (distinct_object hproper.nodup).mp hdistinct
      obtain ⟨w, hw, hfind⟩ := Option.bind_eq_some_iff.mp hfind
      have hmem : (key, w) ∈ entries := mem_of_get? hw
      have hnew : ((entries.map fun e => (f e.1, rename f e.2)).map Prod.fst).Nodup := by
        rwa [keys_renamed]
      rw [rename_object, dictOf_eq_self hnew, List.map_cons, find_cons,
        get?_of_mem hnew (List.mem_map_of_mem hmem), Option.bind_some]
      exact ih _ hmem (hproper.value hmem) (hvalues _ hmem) hfind
  | _ =>
    intro path v hfind
    cases path with
    | nil =>
      rw [find_nil] at hfind
      rw [← Option.some.inj hfind, List.map_nil, find_nil]
    | cons key path => cases hfind

end Json
end Rotas
