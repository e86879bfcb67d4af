import Rotas.Governance.Histories

/-!
# Rotas.Governance.Keys

What an idempotency key stands for.

* `Use` — a call of `open_case` or `apply_transition`, on its own or for an occurrence.
* `Identified` — a call returns what it asked for, and a key that stands for another request is
  refused.
* `KeysApart` — no call comes to its key when it stands for another request.
* `identified_iff_keysApart` — the two come to the same, and a key is recorded once.
* `key_of_another_case` — a call that is answered with the transition of another case.
-/

namespace Rotas
namespace Governance

open Interleave

/-! ## Requests and what they are answered -/

inductive Use where
  | openCase (r : OpenRequest)
  | applyTransition (r : ApplyRequest)

def Use.keyed : Use → Option (UUID × String)
  | .openCase r => r.idempotencyKey.map fun k => (r.tenantId, k)
  | .applyTransition r => r.idempotencyKey.map fun k => (r.tenantId, k)

/-- The stored transition is what the call asks for. -/
def Use.fits (db : GovDb) (t : CaseTransition) : Use → Bool
  | .openCase r => t.fromStatus.isNone &&
      (db.cases.get t.caseId).any fun c => c.caseTypeId = r.caseTypeId
  | .applyTransition r => t.fromStatus.isSome && t.caseId = r.caseId && t.toStatus = r.toStatus

/-- The key of the call stands for another request. -/
def Use.clash (db : GovDb) (u : Use) : Bool :=
  u.keyed.any fun (tenantId, key) => (db.findTransition tenantId key).any fun t => !u.fits db t

/-- The call that comes to its key in this step: where it looks it up, and where it commits. -/
def keyUse (act : Action) (p : Phase) : Option Use :=
  match act, p with
  | .begin (.openCase r), .idle => some (.openCase r)
  | .begin (.applyTransition r), .idle => some (.applyTransition r)
  | .next, .promoting _ r => some (.openCase r)
  | .commit, .ruled r _ _ => some (.applyTransition r)
  | .commit, .numbered _ r _ _ => some (.openCase r)
  | _, _ => none

/-- The answer is what the call asked for. The case of an occurrence is of the type that the
occurrence is promoted to. -/
def Ended.Right (db : GovDb) (e : Ended) : Prop :=
  match e.request, e.outcome with
  | .applyTransition r, .ok (.transition t) => t ∈ db.transitions ∧ t.tenantId = r.tenantId ∧
      t.caseId = r.caseId ∧ t.fromStatus.isSome = true ∧ t.toStatus = r.toStatus
  | .openCase r, .ok (.case id) => ∃ case, db.cases.get id = some case ∧
      case.caseTypeId = r.caseTypeId
  | .create _, .ok (.occurrence o) => ∀ id, o.caseId = some id → ∃ case occurrence caseType,
      db.cases.get id = some case ∧ db.occurrences.get o.occurrenceId = some occurrence ∧
      db.taxonomy.promotedType occurrence.tenantId occurrence.typeId occurrence.severity =
        some caseType ∧ case.caseTypeId = caseType.id
  | _, .error _ => True
  | _, .ok _ => False

/-- A call that ends in this step is answered what it asked for, and one that comes to a key of
another request is refused as a conflict, without effect. -/
def Identified (c : Config GovStore Phase) (m : Nat × Action) : Prop :=
  (∀ e, (move govTurn c m).store.log = c.store.log ++ [e] → e.Right (move govTurn c m).store.db) ∧
    ∀ u, keyUse m.2 (c.parties m.1) = some u → u.clash c.store.db = true →
      (∃ request key, (move govTurn c m).store.log =
        c.store.log ++ [⟨request, .error (idempotencyConflict key)⟩]) ∧
      (move govTurn c m).store.db = c.store.db

/-- No call comes to its key when it stands for another request. -/
def keysApart (c : Config GovStore Phase) (m : Nat × Action) : Bool :=
  (keyUse m.2 (c.parties m.1)).all fun u => !u.clash c.store.db

def KeysApart (c : Config GovStore Phase) (m : Nat × Action) : Prop := keysApart c m = true

instance (c : Config GovStore Phase) (m : Nat × Action) : Decidable (KeysApart c m) :=
  inferInstanceAs (Decidable (_ = true))

/-- The key under which a call that returned has a transition. -/
def Ended.keyed (e : Ended) : Option (UUID × String) :=
  match e.request, e.outcome with
  | .openCase r, .ok _ => (Use.openCase r).keyed
  | .applyTransition r, .ok _ => (Use.applyTransition r).keyed
  | _, _ => none

/-- Each key of a call that returned is recorded once. -/
def RecordedOnce (s : GovStore) : Prop :=
  ∀ e ∈ s.log, ∀ k, e.keyed = some k →
    s.db.transitions.rows.countP (fun t => t.keyed = some k) = 1

/-! ## The keys that are stored -/

/-- A key is stored once, and the key of each call that returned is stored. -/
structure KeysStored (s : GovStore) : Prop where
  unique : (s.db.transitions.rows.filterMap CaseTransition.keyed).Nodup
  stored : ∀ e ∈ s.log, ∀ k, e.keyed = some k → ∃ t ∈ s.db.transitions, t.keyed = some k

theorem keyed_eq_some {t : CaseTransition} {tenantId : UUID} {key : String} :
    t.keyed = some (tenantId, key) ↔ t.tenantId = tenantId ∧ t.idempotencyKey = some key := by
  simp only [CaseTransition.keyed, Option.map_eq_some_iff, Prod.mk.injEq]
  constructor
  · rintro ⟨k, hk, htenant, rfl⟩
    exact ⟨htenant, hk⟩
  · rintro ⟨htenant, hk⟩
    exact ⟨key, hk, htenant, rfl⟩

theorem KeysStored.once {s : GovStore} (h : KeysStored s) : RecordedOnce s :=
  fun e he k hk => countP_label h.unique (h.stored e he k hk)

theorem findTransition_eq_some {db : GovDb} {tenantId : UUID} {key : String} {t : CaseTransition}
    (h : db.findTransition tenantId key = some t) :
    t ∈ db.transitions ∧ t.keyed = some (tenantId, key) := by
  have ht := List.find?_some h
  simp only [Bool.and_eq_true, decide_eq_true_eq] at ht
  exact ⟨List.mem_of_find?_eq_some h, keyed_eq_some.mpr ht⟩

theorem findEntry_eq_some {db : GovDb} {tenantId : UUID} {key : String} {t : CaseTransition}
    (h : db.findEntry tenantId key = some t) :
    t ∈ db.transitions ∧ t.keyed = some (tenantId, key) := by
  have ht := List.find?_some h
  simp only [Bool.and_eq_true, decide_eq_true_eq] at ht
  exact ⟨List.mem_of_find?_eq_some h, keyed_eq_some.mpr ht.1⟩

theorem truthy_bind_eq_some {α : Type} {key : Option String} {f : String → Option α} {a : α}
    (h : (truthy key).bind f = some a) : ∃ k, key = some k ∧ f k = some a := by
  obtain ⟨k, hk, ha⟩ := Option.bind_eq_some_iff.mp h
  exact ⟨k, (Option.filter_eq_some_iff.mp hk).1, ha⟩

theorem unique_of_ok {db : GovDb} (h : db.ok = true) :
    (db.transitions.rows.filterMap CaseTransition.keyed).Nodup := by
  simp only [GovDb.ok, Bool.and_eq_true, decide_eq_true_eq] at h
  exact h.1.1.1.1.1.2

section Step

variable {i : Nat} {act : Action} {s s' : GovStore} {p p' : Phase}

theorem keysStored_of_log (h : KeysStored s) {e : Ended}
    (htransitions : s'.db.transitions = s.db.transitions) (hlog : s'.log = s.log ++ [e])
    (he : ∀ k, e.keyed = some k → ∃ t ∈ s.db.transitions, t.keyed = some k) : KeysStored s' := by
  refine ⟨htransitions ▸ h.unique, fun e' he' k hk => ?_⟩
  rw [htransitions]
  rw [hlog, List.mem_append, List.mem_singleton] at he'
  rcases he' with he' | rfl
  · exact h.stored e' he' k hk
  · exact he k hk

theorem keysStored_of_insert (h : KeysStored s) {e : Ended} {mk : UUID → CaseTransition}
    {hk : ∀ k, Keyed.key (mk k) = k} (hok : s'.db.ok = true)
    (htransitions : s'.db.transitions = s.db.transitions.insert mk hk)
    (hlog : s'.log = s.log ++ [e])
    (he : ∀ k, e.keyed = some k → (mk s.db.transitions.freshKey).keyed = some k) :
    KeysStored s' := by
  refine ⟨unique_of_ok hok, fun e' he' k hkey => ?_⟩
  rw [htransitions]
  rw [hlog, List.mem_append, List.mem_singleton] at he'
  rcases he' with he' | rfl
  · obtain ⟨t, ht, hkeyed⟩ := h.stored e' he' k hkey
    exact ⟨t, (Table.mem_insert ..).mpr (.inl ht), hkeyed⟩
  · exact ⟨_, (Table.mem_insert ..).mpr (.inr rfl), he k hkey⟩

theorem keyed_error {request : Request} {e : Exc} {k : UUID × String} :
    Ended.keyed ⟨request, .error e⟩ ≠ some k := by
  cases request <;> exact nofun

theorem keysStored_step (h : KeysStored s) (hstep : GovStep i s act p s' p') : KeysStored s' := by
  cases hstep with
  | raised => exact keysStored_of_log h rfl rfl fun k hk => absurd hk keyed_error
  | foundEntry r t hfound =>
    obtain ⟨key, hkey, ht⟩ := truthy_bind_eq_some hfound
    obtain ⟨hmem, hkeyed⟩ := findEntry_eq_some ht
    refine keysStored_of_log h rfl rfl fun k hk => ⟨t, hmem, ?_⟩
    change r.idempotencyKey.map _ = some k at hk
    rw [hkey] at hk
    exact hkeyed.trans hk
  | foundTransition r t hfound =>
    obtain ⟨key, hkey, ht⟩ := truthy_bind_eq_some hfound
    obtain ⟨hmem, hkeyed⟩ := findTransition_eq_some ht
    refine keysStored_of_log h rfl rfl fun k hk => ⟨t, hmem, ?_⟩
    change r.idempotencyKey.map _ = some k at hk
    rw [hkey] at hk
    exact hkeyed.trans hk
  | foundOccurrence r o hfound => exact keysStored_of_log h rfl rfl nofun
  | applied r case rule hok => exact keysStored_of_insert h hok (write_transitions ..) rfl fun _ hk => hk
  | opened d r rule n hok =>
    refine keysStored_of_insert h hok (commitOpen_cases d r rule n s.clock s.db).2.1 rfl fun k hk => ?_
    cases d with
    | none => exact hk
    | some d => cases hk
  | filed d existing hok => exact keysStored_of_log h rfl rfl nofun
  | _ => exact ⟨h.unique, h.stored⟩

end Step

/-! ## The type of a case that an occurrence opens -/

/-- The case that is asked for is the one that the draft is promoted to. -/
def Promoted (db : GovDb) (d : Draft) (caseTypeId : UUID) : Prop :=
  ∃ caseType, db.taxonomy.promotedType d.request.tenantId d.type.id d.request.severity =
    some caseType ∧ caseTypeId = caseType.id

def PromotionSound (_ : Nat) (s : GovStore) : Phase → Prop
  | .promoting d r | .opening (some d) r | .entered (some d) r _ | .numbered (some d) r _ _ =>
    Promoted s.db d r.caseTypeId
  | .filed d (some case) => ∃ c, s.db.cases.get case.id = some c ∧ Promoted s.db d c.caseTypeId
  | _ => True

section Step

variable {i j : Nat} {act : Action} {s s' : GovStore} {p p' : Phase}

theorem promotionSound_of_kept (h : PromotionSound j s p) (htaxonomy : s'.db.taxonomy = s.db.taxonomy)
    (hkept : CasesKept s.db s'.db) : PromotionSound j s' p := by
  have hpromoted : ∀ {d caseTypeId}, Promoted s.db d caseTypeId → Promoted s'.db d caseTypeId := by
    intro d caseTypeId hd
    rw [Promoted, htaxonomy]
    exact hd
  cases p with
  | promoting d r => exact hpromoted h
  | opening d r =>
    cases d with
    | none => trivial
    | some d => exact hpromoted h
  | entered d r rule =>
    cases d with
    | none => trivial
    | some d => exact hpromoted h
  | numbered d r rule n =>
    cases d with
    | none => trivial
    | some d => exact hpromoted h
  | filed d existing =>
    cases existing with
    | none => trivial
    | some case =>
      obtain ⟨c, hc, hd⟩ := h
      obtain ⟨c', hc', _, htype⟩ := hkept _ _ hc
      exact ⟨c', hc', hpromoted (htype ▸ hd)⟩
  | _ => trivial

/-- What is stored under the key of a call is what the call asks for. -/
def UseApart (db : GovDb) (act : Action) (p : Phase) : Prop :=
  ∀ u, keyUse act p = some u → u.clash db = false

theorem fits_of_apart {u : Use} (hstored : KeysStored s) (hapart : u.clash s.db = false)
    {t : CaseTransition} (ht : t ∈ s.db.transitions) {tenantId : UUID} {key : String}
    (hkey : t.keyed = some (tenantId, key)) (hu : u.keyed = some (tenantId, key)) :
    u.fits s.db t = true := by
  rw [Use.clash, hu, Option.any_some] at hapart
  cases hfind : s.db.findTransition tenantId key with
  | none =>
    refine absurd ?_ (List.find?_eq_none.mp hfind t ht)
    simpa using keyed_eq_some.mp hkey
  | some t' =>
    obtain ⟨ht', hkey'⟩ := findTransition_eq_some hfind
    rw [eq_of_label hstored.unique ht ht' hkey hkey']
    simpa [hfind] using hapart

theorem promotionSound_step (hstored : KeysStored s) (h : PromotionSound i s p)
    (hapart : UseApart s.db act p) (hstep : GovStep i s act p s' p') : PromotionSound i s' p' := by
  cases hstep with
  | promoted d =>
    unfold Draft.promote
    split
    · next caseType hpromoted => exact ⟨caseType, hpromoted, rfl⟩
    · trivial
  | begun d r =>
    unfold Draft.begin
    split
    · next t hfound =>
      obtain ⟨key, hkey, ht⟩ := truthy_bind_eq_some hfound
      obtain ⟨hmem, hkeyed⟩ := findEntry_eq_some ht
      have hfits := fits_of_apart hstored (hapart _ rfl) hmem hkeyed (by
        rw [Use.keyed, hkey, Option.map_some])
      obtain ⟨_, hany⟩ := Bool.and_eq_true_iff.mp hfits
      obtain ⟨c, hc, htype⟩ := (Option.any_eq_true _ _).mp hany
      rw [hc]
      have hid : c.id = t.caseId := Table.key_of_get hc
      refine ⟨c, by rw [hid]; exact hc, ?_⟩
      rw [of_decide_eq_true htype]
      exact h
    · exact h
  | entered d r rule hrule => cases d <;> exact h
  | numbered d r rule n havail => cases d <;> exact h
  | ticked => exact promotionSound_of_kept h rfl (CasesKept.refl _)
  | _ => trivial

theorem right_step (hstored : KeysStored s) (h : PromotionSound i s p)
    (hapart : UseApart s.db act p) (hstep : GovStep i s act p s' p') {e : Ended}
    (hlog : s'.log = s.log ++ [e]) : e.Right s'.db := by
  have hended : ∀ {e' : Ended}, s.log ++ [e'] = s.log ++ [e] → e' = e := by
    intro e' heq
    exact List.singleton_inj.mp (List.append_cancel_left heq)
  have hnone : s.log ≠ s.log ++ [e] := by simp
  cases hstep with
  | raised _ _ request exc =>
    cases hended hlog
    cases request <;> trivial
  | foundEntry r t hfound =>
    cases hended hlog
    obtain ⟨key, hkey, ht⟩ := truthy_bind_eq_some hfound
    obtain ⟨hmem, hkeyed⟩ := findEntry_eq_some ht
    have hfits := fits_of_apart hstored (hapart _ rfl) hmem hkeyed (by
      rw [Use.keyed, hkey, Option.map_some])
    obtain ⟨_, hany⟩ := Bool.and_eq_true_iff.mp hfits
    obtain ⟨c, hc, htype⟩ := (Option.any_eq_true _ _).mp hany
    exact ⟨c, hc, of_decide_eq_true htype⟩
  | foundTransition r t hfound =>
    cases hended hlog
    obtain ⟨key, hkey, ht⟩ := truthy_bind_eq_some hfound
    obtain ⟨hmem, hkeyed⟩ := findTransition_eq_some ht
    have hfits := fits_of_apart hstored (hapart _ rfl) hmem hkeyed (by
      rw [Use.keyed, hkey, Option.map_some])
    simp only [Use.fits, Bool.and_eq_true, decide_eq_true_eq] at hfits
    exact ⟨hmem, (keyed_eq_some.mp hkeyed).1, hfits.1.2, hfits.1.1, hfits.2⟩
  | foundOccurrence r o hfound =>
    cases hended hlog
    exact nofun
  | applied r case rule hok =>
    cases hended hlog
    refine ⟨?_, rfl, rfl, rfl, rfl⟩
    change _ ∈ (r.write case rule s.clock s.db).transitions
    rw [write_transitions, Table.mem_insert]
    exact .inr rfl
  | opened d r rule n hok =>
    cases hended hlog
    cases d with
    | none => exact ⟨_, get_commitOpen_fresh none r rule n s.clock s.db, rfl⟩
    | some d =>
      obtain ⟨caseType, hpromoted, htype⟩ := h
      rintro id ⟨⟩
      exact ⟨_, _, caseType, get_commitOpen_fresh (some d) r rule n s.clock s.db,
        get_write_fresh d s.db, hpromoted, htype⟩
  | filed d existing hok =>
    cases hended hlog
    cases existing with
    | none => exact nofun
    | some case =>
      obtain ⟨c, hc, caseType, hpromoted, htype⟩ := h
      rintro id ⟨⟩
      exact ⟨c, _, caseType, hc, get_write_fresh d s.db, hpromoted, htype⟩
  | _ => exact absurd hlog hnone

end Step

/-! ## Every interleaving -/

section Conflicts

variable {i : Nat} {s : GovStore} {request : Request} {key : String}

theorem begin_no_conflict (r : Request) :
    (s.begin i r).1.log ≠ s.log ++ [⟨request, .error (idempotencyConflict key)⟩] := by
  cases r <;> rw [GovStore.begin] <;> split <;> simp [GovStore.finish]

theorem commit_no_conflict (r : Request) (answer : Answer) {written : GovStore}
    (hlog : written.log = s.log) : (s.commit i r answer written).1.log ≠
      s.log ++ [⟨request, .error (idempotencyConflict key)⟩] := by
  unfold GovStore.commit
  split <;> simp [GovStore.finish, hlog, idempotencyConflict, governanceError]

/-- A call that comes to its key is not refused as a conflict. -/
theorem no_conflict {act : Action} {p : Phase} {u : Use} (hu : keyUse act p = some u) :
    ∃ s' p', govTurn i act s p = some (s', p') ∧
      ∀ request key, s'.log ≠ s.log ++ [⟨request, .error (idempotencyConflict key)⟩] := by
  unfold keyUse at hu
  split at hu
  · next r => exact ⟨(s.begin i (.openCase r)).1, _, rfl, fun _ _ => begin_no_conflict _⟩
  · next r => exact ⟨(s.begin i (.applyTransition r)).1, _, rfl, fun _ _ => begin_no_conflict _⟩
  · next d r => exact ⟨s, d.begin r s.db, rfl, fun _ _ => by simp⟩
  · next r case rule =>
    exact ⟨(s.commit i (.applyTransition r)
      (.transition (r.transition case s.db.transitions.freshKey))
      { s with db := r.write case rule s.clock s.db }).1, _, rfl,
      fun _ _ => commit_no_conflict _ _ rfl⟩
  · next d r rule n =>
    exact ⟨(s.commit i (caller d r) (commitOpen d r rule n s.clock s.db).1
      { s with
        db := (commitOpen d r rule n s.clock s.db).2
        opened := s.opened ++ openedBy d s.db }).1, _, rfl,
      fun _ _ => commit_no_conflict _ _ rfl⟩
  · cases hu

end Conflicts

theorem keysApart_of_identified {c : Config GovStore Phase} {m : Nat × Action}
    (h : Identified c m) : KeysApart c m := by
  rw [KeysApart, keysApart, Option.all_eq_true]
  intro u hu
  by_contra hclash
  obtain ⟨⟨request, key, hlog⟩, _⟩ := h.2 u hu (by simpa using hclash)
  obtain ⟨s', p', hturn, hnone⟩ := no_conflict hu
  rw [move, hturn] at hlog
  exact hnone request key hlog

theorem identified_step {c : Config GovStore Phase} {m : Nat × Action}
    (hI : Holds KeysStored PromotionSound c) (hC : KeysApart c m) : Identified c m := by
  have hapart : UseApart c.store.db m.2 (c.parties m.1) := by
    intro u hu
    rw [KeysApart, keysApart, hu] at hC
    simpa using hC
  refine ⟨fun e hlog => ?_, fun u hu hclash => ?_⟩
  · rcases move_cases govTurn c m with heq | ⟨s, p, hturn, heq⟩
    · rw [heq] at hlog
      simp at hlog
    · rw [heq] at hlog ⊢
      exact right_step hI.store (hI.party m.1) hapart (govStep_of_turn hturn) hlog
  · rw [hapart u hu] at hclash
    cases hclash

theorem keys_move {c : Config GovStore Phase} {m : Nat × Action}
    (hI : Holds KeysStored PromotionSound c) (hC : KeysApart c m) :
    Holds KeysStored PromotionSound (move govTurn c m) := by
  refine holds_move (C := KeysApart) ?_ ?_ hI hC
  · intro c i act s p hI hC hturn
    have hapart : UseApart c.store.db act (c.parties i) := by
      intro u hu
      rw [KeysApart, keysApart, hu] at hC
      simpa using hC
    have hstep := govStep_of_turn hturn
    exact ⟨keysStored_step hI.store hstep, promotionSound_step hI.store (hI.party i) hapart hstep⟩
  · intro c i act s p hI hC hturn j hj
    have hstep := govStep_of_turn hturn
    exact promotionSound_of_kept (hI.party j) hstep.taxonomy hstep.kept

theorem recordedOnce_run (taxonomy : Taxonomy) (clock : Instant) (ms : List (Nat × Action)) :
    RecordedOnce (govRun taxonomy clock ms).store := by
  have hstart : KeysStored (govStart taxonomy clock).store :=
    ⟨List.nodup_nil, fun e he => absurd he List.not_mem_nil⟩
  have hstep : ∀ (c : Config GovStore Phase) m, KeysStored c.store →
      KeysStored (move govTurn c m).store := by
    intro c m h
    rcases move_cases govTurn c m with heq | ⟨s, p, hturn, heq⟩ <;> rw [heq]
    · exact h
    · exact keysStored_step h (govStep_of_turn hturn)
  have hrun := @Run.exec_inv_all _ _ _ (KeysStored ∘ Config.store) hstep ms _ hstart
  exact hrun.once

/-- The calls of a run return what they ask for and refuse every key of another request exactly if
none comes to a key that stands for another request. However the calls of a key overlap, it is
recorded once. -/
theorem identified_iff_keysApart (taxonomy : Taxonomy) (clock : Instant)
    (ms : List (Nat × Action)) :
    (Run.Along (move govTurn) Identified (govStart taxonomy clock) ms ↔
      Run.Along (move govTurn) KeysApart (govStart taxonomy clock) ms) ∧
    RecordedOnce (govRun taxonomy clock ms).store := by
  have hstart : Holds KeysStored PromotionSound (govStart taxonomy clock) :=
    ⟨⟨List.nodup_nil, fun e he => absurd he List.not_mem_nil⟩, fun _ => trivial⟩
  refine ⟨⟨fun h => ?_, fun h => ?_⟩, recordedOnce_run taxonomy clock ms⟩
  · exact Run.along_inv (fun _ _ _ _ => trivial) (fun _ _ _ => keysApart_of_identified)
      (I := fun _ => True) trivial h
  · exact Run.along_inv (fun _ _ => keys_move) (fun _ _ => identified_step) hstart h

/-- A key of one case is used for another: the call is answered with the transition of the
first. -/
theorem key_of_another_case :
    ¬ Run.Along (move govTurn) Identified (govStart (oneCaseType false) 0)
      (oneByOne [.openCase (openIncident "a"), .openCase (openIncident "b"),
        .applyTransition (analyse 1 "k"), .applyTransition (analyse 2 "k")]) := by
  intro h
  have hapart : Run.Along (move govTurn) KeysApart (govStart (oneCaseType false) 0)
      (oneByOne [.openCase (openIncident "a"), .openCase (openIncident "b"),
        .applyTransition (analyse 1 "k"), .applyTransition (analyse 2 "k")]) :=
    Run.along_inv (fun _ _ _ _ => trivial) (fun _ _ _ => keysApart_of_identified)
      (I := fun _ => True) trivial h
  revert hapart
  decide +kernel

end Governance
end Rotas
