import Rotas.Core.Errors
import Rotas.Core.Text
import Rotas.Lib.Run
import Mathlib.Logic.Function.Basic
import Mathlib.Data.List.Nodup

/-!
# Rotas.Governance.HumanIds

The ids that people read, `EVT-2026-000001` and the like.

* `nextHumanId` — one more of a tenant's sequence, with the sequence as it is then.
* `lpad`        — the padding of the database, which cuts what is too long.
* `numbersIssued`, `idsIssued` — what a list of calls returns, in order.
* `fileNext`    — a row is created under the next id, in a column where each id stands once.
* `human_ids_distinct_iff` — the ids are distinct, and no creation fails, exactly when each sequence
  of a prefix and a year is used by one tenant and stays below a million.
-/

namespace Rotas

open Function

/-! ## The sequence of a tenant -/

/-- The key of a sequence; its label is the prefix of its ids. -/
@[ext] structure SequenceKey where
  tenantId : UUID
  label : String
  year : Int
  deriving DecidableEq

/-- The last number of each sequence; a sequence without a row stands at zero. -/
abbrev Sequences := SequenceKey → Nat

def Sequences.none : Sequences := fun _ => 0

/-- The greatest `INTEGER` of the database. -/
def maxInteger : Nat := 2147483647

/-- The prefix is a `VARCHAR(10)`, and the year a `SMALLINT`. -/
def SequenceKey.fits (key : SequenceKey) : Bool :=
  key.label.length ≤ 10 && -32768 ≤ key.year && key.year ≤ 32767

/-- `INSERT … ON CONFLICT DO UPDATE SET last_seq = last_seq + 1 RETURNING last_seq`. -/
def Sequences.bump (key : SequenceKey) (s : Sequences) : Except Exc (Nat × Sequences) := do
  raiseIf (!key.fits || maxInteger ≤ s key) .dataError
  return (s key + 1, update s key (s key + 1))

/-- `LPAD(s, width, fill)`. A text that is longer than the width is cut. -/
def lpad (width : Nat) (fill : Char) (cs : List Char) : List Char :=
  if width < cs.length then cs.take width else List.replicate (width - cs.length) fill ++ cs

/-- `p_prefix || '-' || p_year::TEXT || '-' || LPAD(v_seq::TEXT, 6, '0')`. -/
def humanId (label : String) (year : Int) (seq : Nat) : String :=
  label ++ "-" ++ toString year ++ "-" ++ .ofList (lpad 6 '0' (digits seq))

def nextHumanId (key : SequenceKey) (s : Sequences) : Except Exc (String × Sequences) := do
  let (seq, s) ← s.bump key
  return (humanId key.label key.year seq, s)

theorem bump_eq_ok {key : SequenceKey} {s s' : Sequences} {seq : Nat} :
    s.bump key = .ok (seq, s') ↔ key.fits = true ∧ s key < maxInteger ∧ seq = s key + 1 ∧
      s' = update s key (s key + 1) := by
  simp only [Sequences.bump, bind_eq_ok, raiseIf_eq_ok, Bool.or_eq_false_iff, Bool.not_eq_false',
    decide_eq_false_iff_not, Nat.not_le, pure, Except.pure, Except.ok.injEq, Prod.mk.injEq]
  constructor
  · rintro ⟨_, ⟨hfits, hlt⟩, rfl, rfl⟩
    exact ⟨hfits, hlt, rfl, rfl⟩
  · rintro ⟨hfits, hlt, rfl, rfl⟩
    exact ⟨(), ⟨hfits, hlt⟩, rfl, rfl⟩

/-! ## The numbers that calls are given -/

/-- The numbers of a list of calls; a call that fails gets none. -/
def numbersIssued : Sequences → List SequenceKey → List (SequenceKey × Nat)
  | _, [] => []
  | s, key :: keys =>
    match s.bump key with
    | .ok (seq, s) => (key, seq) :: numbersIssued s keys
    | .error _ => numbersIssued s keys

/-- The ids that a list of calls returns under a prefix. -/
def idsIssued (label : String) : Sequences → List SequenceKey → List String
  | _, [] => []
  | s, key :: keys =>
    match nextHumanId key s with
    | .ok (id, s) => if key.label = label then id :: idsIssued label s keys else idsIssued label s keys
    | .error _ => idsIssued label s keys

/-- Each number of a sequence is given once, one after the other. -/
theorem mem_numbersIssued {keys : List SequenceKey} {s : Sequences} {key : SequenceKey} {n : Nat} :
    (key, n) ∈ numbersIssued s keys ↔
      key.fits = true ∧ s key < n ∧ n ≤ s key + keys.count key ∧ n ≤ maxInteger := by
  induction keys generalizing s with
  | nil => simp only [numbersIssued, List.not_mem_nil, List.count_nil, false_iff]; omega
  | cons k keys ih =>
    rw [numbersIssued]
    cases hbump : s.bump k with
    | ok r =>
      obtain ⟨seq, s'⟩ := r
      obtain ⟨hfits, hlt, rfl, rfl⟩ := bump_eq_ok.mp hbump
      simp only [List.mem_cons, Prod.mk.injEq, ih]
      by_cases hk : key = k
      · subst hk
        simp only [update_self, List.count_cons_self, hfits, true_and]
        omega
      · simp only [update_of_ne hk, List.count_cons_of_ne (Ne.symm hk), hk, false_and, false_or]
    | error e =>
      simp only [ih]
      by_cases hk : key = k
      · subst hk
        have hstuck : ¬ (key.fits = true ∧ s key < maxInteger) := by
          rintro ⟨hfits, hlt⟩
          rw [bump_eq_ok.mpr ⟨hfits, hlt, rfl, rfl⟩] at hbump
          cases hbump
        rw [List.count_cons_self]
        constructor
        · rintro ⟨hfits, hlt, _, hmax⟩
          exact absurd ⟨hfits, by omega⟩ hstuck
        · rintro ⟨hfits, hlt, _, hmax⟩
          exact absurd ⟨hfits, by omega⟩ hstuck
      · rw [List.count_cons_of_ne (Ne.symm hk)]

theorem nodup_numbersIssued (keys : List SequenceKey) (s : Sequences) :
    (numbersIssued s keys).Nodup := by
  induction keys generalizing s with
  | nil => exact List.nodup_nil
  | cons k keys ih =>
    rw [numbersIssued]
    split
    · next seq s' hbump =>
      obtain ⟨_, _, rfl, rfl⟩ := bump_eq_ok.mp hbump
      refine List.nodup_cons.mpr ⟨fun hmem => ?_, ih _⟩
      obtain ⟨_, hlt, _⟩ := mem_numbersIssued.mp hmem
      rw [update_self] at hlt
      exact Nat.lt_irrefl _ hlt
    · exact ih s

theorem idsIssued_eq (label : String) (keys : List SequenceKey) (s : Sequences) :
    idsIssued label s keys = ((numbersIssued s keys).filter fun e => e.1.label = label).map
      fun e => humanId e.1.label e.1.year e.2 := by
  induction keys generalizing s with
  | nil => rfl
  | cons k keys ih =>
    rw [idsIssued, numbersIssued, nextHumanId]
    cases s.bump k with
    | ok r =>
      by_cases hlabel : k.label = label
      · simp [bind, Except.bind, pure, Except.pure, hlabel, ih]
      · simp [bind, Except.bind, pure, Except.pure, hlabel, ih]
    | error e => exact ih s

/-! ## What an id says -/

theorem length_lpad (width : Nat) (fill : Char) (cs : List Char) :
    (lpad width fill cs).length = width := by
  unfold lpad
  split
  · next h => exact List.length_take_of_le (Nat.le_of_lt h)
  · next h => rw [List.length_append, List.length_replicate, Nat.sub_add_cancel (Nat.le_of_not_lt h)]

theorem lpad_digits {n : Nat} (h : n < 1000000) : lpad 6 '0' (digits n) = zfill 6 n := by
  have hlen : (digits n).length ≤ 6 := (Nat.length_toDigits_le_iff (by decide) (by decide)).mpr h
  rw [lpad, if_neg (Nat.not_lt.mpr hlen)]
  rfl

/-- An id says its year, and its number as far as the padding shows it. -/
theorem humanId_injective {label : String} {year year' : Int} {n n' : Nat}
    (h : humanId label year n = humanId label year' n') :
    year = year' ∧ lpad 6 '0' (digits n) = lpad 6 '0' (digits n') := by
  have hchars := congrArg String.toList h
  simp only [humanId, String.toList_append, String.toList_ofList, List.append_assoc] at hchars
  have htail := List.append_cancel_left (List.append_cancel_left hchars)
  obtain ⟨hyear, hnumber⟩ := List.append_inj' htail (by
    simp only [List.length_append, length_lpad])
  exact ⟨toString_int_injective (String.toList_injective hyear), List.append_cancel_left hnumber⟩

/-- The first number of seven digits is cut to a number that was there before. -/
theorem humanId_million (label : String) (year : Int) :
    humanId label year 1000000 = humanId label year 100000 := by
  have hcut : lpad 6 '0' (digits 1000000) = lpad 6 '0' (digits 100000) := by decide
  rw [humanId, hcut, humanId]

/-! ## When the ids are distinct -/

/-- Each prefix and year is used by one tenant, which asks for less than a million ids. -/
structure SequencesApart (keys : List SequenceKey) : Prop where
  oneTenant : ∀ k ∈ keys, ∀ k' ∈ keys, k.fits = true → k.label = k'.label → k.year = k'.year →
    k.tenantId = k'.tenantId
  short : ∀ k ∈ keys, k.fits = true → keys.count k < 1000000

theorem mem_numbersIssued_none {keys : List SequenceKey} {key : SequenceKey} {n : Nat} :
    (key, n) ∈ numbersIssued Sequences.none keys ↔
      key.fits = true ∧ 0 < n ∧ n ≤ keys.count key ∧ n ≤ maxInteger := by
  rw [mem_numbersIssued, Sequences.none, Nat.zero_add]

/-- The ids of a prefix are distinct if they tell its numbers apart. -/
theorem nodup_idsIssued_iff {label : String} {keys : List SequenceKey} :
    (idsIssued label Sequences.none keys).Nodup ↔
      ∀ e ∈ numbersIssued Sequences.none keys, e.1.label = label →
        ∀ e' ∈ numbersIssued Sequences.none keys, e'.1.label = label →
          humanId e.1.label e.1.year e.2 = humanId e'.1.label e'.1.year e'.2 → e = e' := by
  rw [idsIssued_eq, List.nodup_map_iff_inj_on ((nodup_numbersIssued keys _).filter _)]
  simp only [List.mem_filter, decide_eq_true_eq, and_imp]

theorem sequencesApart_of_nodup {keys : List SequenceKey}
    (h : ∀ label, (idsIssued label Sequences.none keys).Nodup) : SequencesApart keys := by
  refine ⟨fun k hk k' hk' hfits hlabel hyear => ?_, fun k hk hfits => ?_⟩
  · have hfirst : (k, 1) ∈ numbersIssued Sequences.none keys :=
      mem_numbersIssued_none.mpr ⟨hfits, Nat.one_pos, List.count_pos_iff.mpr hk, by decide⟩
    have hfirst' : (k', 1) ∈ numbersIssued Sequences.none keys :=
      mem_numbersIssued_none.mpr ⟨by rw [SequenceKey.fits, ← hlabel, ← hyear]; exact hfits, Nat.one_pos,
        List.count_pos_iff.mpr hk', by decide⟩
    have heq := nodup_idsIssued_iff.mp (h k.label) _ hfirst rfl _ hfirst' hlabel.symm
      (by rw [hlabel, hyear])
    rw [(Prod.mk.inj heq).1]
  · by_contra hlong
    have hissued : ∀ n, 0 < n → n ≤ 1000000 → (k, n) ∈ numbersIssued Sequences.none keys :=
      fun n hpos hn => mem_numbersIssued_none.mpr
        ⟨hfits, hpos, hn.trans (Nat.le_of_not_lt hlong), hn.trans (by decide)⟩
    have heq := nodup_idsIssued_iff.mp (h k.label) _ (hissued 1000000 (by decide) le_rfl) rfl _
      (hissued 100000 (by decide) (by decide)) rfl (humanId_million ..)
    exact absurd (Prod.mk.inj heq).2 (by decide)

theorem nodup_of_sequencesApart {keys : List SequenceKey} (h : SequencesApart keys)
    (label : String) : (idsIssued label Sequences.none keys).Nodup := by
  rw [nodup_idsIssued_iff]
  rintro ⟨k, n⟩ hk hlabel ⟨k', n'⟩ hk' hlabel' hid
  obtain ⟨hfits, hpos, hcount, _⟩ := mem_numbersIssued_none.mp hk
  obtain ⟨hfits', hpos', hcount', _⟩ := mem_numbersIssued_none.mp hk'
  have hmem : k ∈ keys := List.count_pos_iff.mp (hpos.trans_le hcount)
  have hmem' : k' ∈ keys := List.count_pos_iff.mp (hpos'.trans_le hcount')
  dsimp only at hlabel hlabel' hid
  rw [hlabel, hlabel'] at hid
  obtain ⟨hyear, hpad⟩ := humanId_injective hid
  have hsame : k.label = k'.label := hlabel.trans hlabel'.symm
  have hkey : k = k' := SequenceKey.ext (h.oneTenant k hmem k' hmem' hfits hsame hyear) hsame hyear
  rw [lpad_digits (hcount.trans_lt (h.short k hmem hfits)),
    lpad_digits (hcount'.trans_lt (h.short k' hmem' hfits'))] at hpad
  rw [hkey, zfill_injective hpad]

/-! ## Rows under the ids -/

/-- The sequences, and the ids in the unique column of each prefix. -/
structure IdStore where
  sequences : Sequences := Sequences.none
  stored : String → List String := fun _ => []

def IdStore.put (s : IdStore) (sequences : Sequences) (label id : String) : IdStore :=
  { sequences, stored := update s.stored label (s.stored label ++ [id]) }

/-- A row is created under the next id; the database refuses an id that its column has. -/
def IdStore.create (s : IdStore) (key : SequenceKey) : Except Exc IdStore := do
  let (id, sequences) ← nextHumanId key s.sequences
  raiseIf (id ∈ s.stored key.label) .integrityError
  return s.put sequences key.label id

/-- One creation as a transaction. -/
def IdStore.fileNext (s : IdStore) (key : SequenceKey) : IdStore :=
  match s.create key with
  | .ok s' => s'
  | .error _ => s

/-- The creation does not run into an id that is there. -/
def IdStore.free (s : IdStore) (key : SequenceKey) : Bool :=
  match s.create key with
  | .error .integrityError => false
  | _ => true

def IdStore.Free (s : IdStore) (key : SequenceKey) : Prop := s.free key = true

instance (s : IdStore) (key : SequenceKey) : Decidable (s.Free key) :=
  inferInstanceAs (Decidable (_ = true))

section Creations

variable {s : IdStore} {key : SequenceKey} {id : String} {sequences : Sequences}

theorem put_stored (label label' : String) : (s.put sequences label id).stored label' =
    if label = label' then s.stored label' ++ [id] else s.stored label' := by
  by_cases h : label = label'
  · subst h
    rw [if_pos rfl]
    exact update_self ..
  · rw [if_neg h]
    exact update_of_ne (Ne.symm h) ..

theorem bump_error {s : Sequences} {e : Exc} (h : s.bump key = .error e) : e = .dataError := by
  rw [Sequences.bump, raiseIf] at h
  split at h <;> cases h
  rfl

theorem create_of_error {e : Exc} (h : nextHumanId key s.sequences = .error e) :
    s.create key = .error .dataError := by
  have hdata : e = .dataError := by
    rw [nextHumanId] at h
    cases hbump : s.sequences.bump key with
    | ok r => rw [hbump] at h; cases h
    | error e' => rw [hbump] at h; cases h; exact bump_error hbump
  rw [IdStore.create, h, hdata]
  rfl

theorem create_of_mem (h : nextHumanId key s.sequences = .ok (id, sequences))
    (hmem : id ∈ s.stored key.label) : s.create key = .error .integrityError := by
  simp [IdStore.create, h, hmem, raiseIf, bind, Except.bind]

theorem create_of_not_mem (h : nextHumanId key s.sequences = .ok (id, sequences))
    (hmem : id ∉ s.stored key.label) : s.create key = .ok (s.put sequences key.label id) := by
  simp [IdStore.create, h, hmem, raiseIf, bind, Except.bind, pure, Except.pure]

end Creations

/-- No creation runs into an id that is there exactly if the ids of each column, with those that
are issued, are distinct. -/
theorem along_free_iff {keys : List SequenceKey} {s : IdStore}
    (hs : ∀ label, (s.stored label).Nodup) :
    Run.Along IdStore.fileNext IdStore.Free s keys ↔
      ∀ label, (s.stored label ++ idsIssued label s.sequences keys).Nodup := by
  induction keys generalizing s with
  | nil => simpa only [Run.Along, idsIssued, List.append_nil, true_iff] using hs
  | cons k keys ih =>
    rw [Run.Along, IdStore.Free, IdStore.free, IdStore.fileNext]
    simp only [idsIssued]
    cases hnext : nextHumanId k s.sequences with
    | error e =>
      rw [create_of_error hnext]
      simpa only [true_and] using ih hs
    | ok r =>
      obtain ⟨id, sequences⟩ := r
      by_cases hmem : id ∈ s.stored k.label
      · rw [create_of_mem hnext hmem]
        simp only [Bool.false_eq_true, false_and, false_iff, not_forall]
        refine ⟨k.label, fun hnodup => ?_⟩
        rw [if_pos rfl] at hnodup
        exact (List.nodup_append.mp hnodup).2.2 id hmem id List.mem_cons_self rfl
      · rw [create_of_not_mem hnext hmem]
        simp only [true_and]
        have hput : ∀ label, ((s.put sequences k.label id).stored label).Nodup := by
          intro label
          rw [put_stored]
          split
          · next hlabel =>
            rw [← hlabel]
            exact (hs _).append (List.nodup_singleton _) (List.disjoint_singleton.mpr hmem)
          · exact hs label
        rw [ih hput]
        refine forall_congr' fun label => ?_
        rw [put_stored]
        split
        · rw [List.append_assoc]
          rfl
        · rfl

/-- The ids of each prefix are distinct, and no creation fails for one, exactly when each prefix
and year is used by one tenant, which asks for less than a million. -/
theorem human_ids_distinct_iff (keys : List SequenceKey) :
    ((∀ label, (idsIssued label Sequences.none keys).Nodup) ↔ SequencesApart keys) ∧
      (Run.Along IdStore.fileNext IdStore.Free {} keys ↔ SequencesApart keys) := by
  have hdistinct : (∀ label, (idsIssued label Sequences.none keys).Nodup) ↔ SequencesApart keys :=
    ⟨sequencesApart_of_nodup, nodup_of_sequencesApart⟩
  refine ⟨hdistinct, ?_⟩
  rw [along_free_iff fun _ => List.nodup_nil, ← hdistinct]
  rfl

/-- Two tenants are given the same first id of a year, and the second creation fails. -/
theorem tenants_share_first_id :
    ¬ (idsIssued "EVT" Sequences.none [⟨1, "EVT", 2026⟩, ⟨2, "EVT", 2026⟩]).Nodup ∧
      ¬ Run.Along IdStore.fileNext IdStore.Free {} [⟨1, "EVT", 2026⟩, ⟨2, "EVT", 2026⟩] := by
  decide +kernel

end Rotas
