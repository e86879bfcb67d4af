import Rotas.Governance.Keys

/-!
# Rotas.Governance.Replays

Events that are pushed again and again under one key.

* `Replayed`   — a key has one occurrence and one case at most, and one answer.
* `Unpromoted` — no call finds the occurrence of its key if that one opens a case.
* `events_replayed` — in every interleaving of such calls.
* `replayed_without_case` — an event that opens a case, pushed twice.
-/

namespace Rotas
namespace Governance

open Interleave

/-- The key of a request. -/
def CreateRequest.keyed (r : CreateRequest) : Option (UUID × String) :=
  r.idempotencyKey.map fun k => (r.tenantId, k)

/-- The occurrence opens a case. -/
def Occurrence.promoted (o : Occurrence) (t : Taxonomy) : Bool :=
  (t.promotedType o.tenantId o.typeId o.severity).isSome

/-- Under each key there is at most one occurrence and one case, and every call that returns
returns the same. -/
structure Replayed (s : GovStore) : Prop where
  oneOccurrence : ∀ k, s.db.occurrences.rows.countP (fun o => o.keyed = some k) ≤ 1
  oneCase : ∀ k, s.opened.countP (fun e => e.1.keyed = some k) ≤ 1
  sameAnswer : ∀ r r' result result', ⟨.create r, .ok (.occurrence result)⟩ ∈ s.log →
    ⟨.create r', .ok (.occurrence result')⟩ ∈ s.log → r.keyed.isSome = true →
    r.keyed = r'.keyed → result = result'

/-- No call finds the occurrence of its key if that one opens a case. -/
def unpromoted (c : Config GovStore Phase) (m : Nat × Action) : Bool :=
  match m.2, c.parties m.1 with
  | .begin (.create r), .idle =>
    ((truthy r.idempotencyKey).bind (c.store.db.findOccurrence r.tenantId)).all fun o =>
      !o.promoted c.store.db.taxonomy
  | _, _ => true

def Unpromoted (c : Config GovStore Phase) (m : Nat × Action) : Prop := unpromoted c m = true

instance (c : Config GovStore Phase) (m : Nat × Action) : Decidable (Unpromoted c m) :=
  inferInstanceAs (Decidable (_ = true))

/-! ## The invariant -/

/-- The answer is about the occurrence, which opens a case if the answer has one. -/
structure CreateOccurrenceResult.Of (result : CreateOccurrenceResult) (o : Occurrence)
    (t : Taxonomy) : Prop where
  id : result.occurrenceId = o.id
  numero : result.numero = o.numero
  plain : o.promoted t = false → result.caseId = none ∧ result.caseReference = none

structure Pushed (s : GovStore) : Prop where
  unique : (s.db.occurrences.rows.filterMap Occurrence.keyed).Nodup
  uniqueCase : (s.opened.filterMap fun e => e.1.keyed).Nodup
  opened : ∀ e ∈ s.opened, ∀ k, e.1.keyed = some k → ∃ o ∈ s.db.occurrences, o.keyed = some k
  answered : ∀ r result, ⟨.create r, .ok (.occurrence result)⟩ ∈ s.log →
    ∃ o ∈ s.db.occurrences, o.keyed = r.keyed ∧ result.Of o s.db.taxonomy
  sameAnswer : ∀ r r' result result', ⟨.create r, .ok (.occurrence result)⟩ ∈ s.log →
    ⟨.create r', .ok (.occurrence result')⟩ ∈ s.log → r.keyed.isSome = true →
    r.keyed = r'.keyed → result = result'

theorem Pushed.replayed {s : GovStore} (h : Pushed s) : Replayed s where
  oneOccurrence := fun _ => countP_label_le h.unique
  oneCase := fun _ => countP_label_le h.uniqueCase
  sameAnswer := h.sameAnswer

/-- A call whose answer will have a case has an occurrence that opens one. -/
def Phase.OpensCase (t : Taxonomy) : Phase → Prop
  | .promoting d _ | .opening (some d) _ | .entered (some d) _ _ | .numbered (some d) _ _ _
  | .filed d (some _) =>
    (t.promotedType d.request.tenantId d.type.id d.request.severity).isSome = true
  | _ => True

theorem uniqueOccurrence_of_ok {db : GovDb} (h : db.ok = true) :
    (db.occurrences.rows.filterMap Occurrence.keyed).Nodup := by
  simp only [GovDb.ok, Bool.and_eq_true, decide_eq_true_eq] at h
  exact h.1.1.1.1.2

theorem occurrence_keyed_eq_some {o : Occurrence} {tenantId : UUID} {key : String} :
    o.keyed = some (tenantId, key) ↔ o.tenantId = tenantId ∧ o.idempotencyKey = some key := by
  simp only [Occurrence.keyed, Option.map_eq_some_iff, Prod.mk.injEq]
  constructor
  · rintro ⟨k, hk, htenant, rfl⟩
    exact ⟨htenant, hk⟩
  · rintro ⟨htenant, hk⟩
    exact ⟨key, hk, htenant, rfl⟩

theorem findOccurrence_eq_some {db : GovDb} {tenantId : UUID} {key : String} {o : Occurrence}
    (h : db.findOccurrence tenantId key = some o) :
    o ∈ db.occurrences ∧ o.keyed = some (tenantId, key) := by
  have ho := List.find?_some h
  simp only [Bool.and_eq_true, decide_eq_true_eq] at ho
  exact ⟨List.mem_of_find?_eq_some h, occurrence_keyed_eq_some.mpr ho⟩

section Step

variable {i j : Nat} {act : Action} {s s' : GovStore} {p p' : Phase}

/-- Nothing is created, and the log has at most one more entry, which is no answer about an
occurrence. -/
theorem Pushed.of_same (h : Pushed s) (hoccurrences : s'.db.occurrences = s.db.occurrences)
    (htaxonomy : s'.db.taxonomy = s.db.taxonomy) (hopened : s'.opened = s.opened)
    (hlog : ∀ r result, ⟨.create r, .ok (.occurrence result)⟩ ∈ s'.log →
      ⟨.create r, .ok (.occurrence result)⟩ ∈ s.log) : Pushed s' where
  unique := hoccurrences ▸ h.unique
  uniqueCase := hopened ▸ h.uniqueCase
  opened := by
    rw [hopened, hoccurrences]
    exact h.opened
  answered := by
    intro r result hmem
    rw [hoccurrences, htaxonomy]
    exact h.answered r result (hlog r result hmem)
  sameAnswer := fun r r' result result' hr hr' =>
    h.sameAnswer r r' result result' (hlog r result hr) (hlog r' result' hr')

/-- One more call returns an answer about an occurrence, the same as each call before under its
key. -/
theorem Pushed.of_answer (h : Pushed s) {r : CreateRequest} {result : CreateOccurrenceResult}
    (hlog : s'.log = s.log ++ [⟨.create r, .ok (.occurrence result)⟩])
    (hunique : (s'.db.occurrences.rows.filterMap Occurrence.keyed).Nodup)
    (huniqueCase : (s'.opened.filterMap fun e => e.1.keyed).Nodup)
    (hopened : ∀ e ∈ s'.opened, ∀ k, e.1.keyed = some k → ∃ o ∈ s'.db.occurrences, o.keyed = some k)
    (hkept : ∀ o ∈ s.db.occurrences, o ∈ s'.db.occurrences)
    (htaxonomy : s'.db.taxonomy = s.db.taxonomy)
    (hnew : ∃ o ∈ s'.db.occurrences, o.keyed = r.keyed ∧ result.Of o s.db.taxonomy)
    (hsame : ∀ r' result', ⟨.create r', .ok (.occurrence result')⟩ ∈ s.log → r.keyed.isSome = true →
      r'.keyed = r.keyed → result' = result) : Pushed s' := by
  have hmem : ∀ {r' result'}, ⟨.create r', .ok (.occurrence result')⟩ ∈ s'.log →
      ⟨.create r', .ok (.occurrence result')⟩ ∈ s.log ∨ r' = r ∧ result' = result := by
    intro r' result' hr'
    rw [hlog, List.mem_append, List.mem_singleton] at hr'
    rcases hr' with hr' | hr'
    · exact .inl hr'
    · cases hr'
      exact .inr ⟨rfl, rfl⟩
  refine ⟨hunique, huniqueCase, hopened, fun r' result' hr' => ?_, ?_⟩
  · rw [htaxonomy]
    rcases hmem hr' with hold | ⟨rfl, rfl⟩
    · obtain ⟨o, ho, hof⟩ := h.answered r' result' hold
      exact ⟨o, hkept o ho, hof⟩
    · exact hnew
  · intro r₁ r₂ result₁ result₂ h₁ h₂ hsome heq
    rcases hmem h₁ with hold₁ | ⟨rfl, rfl⟩ <;> rcases hmem h₂ with hold₂ | ⟨rfl, rfl⟩
    · exact h.sameAnswer r₁ r₂ result₁ result₂ hold₁ hold₂ hsome heq
    · exact hsame r₁ result₁ hold₁ (heq ▸ hsome) heq
    · exact (hsame r₂ result₂ hold₂ hsome heq.symm).symm
    · rfl

theorem pushed_found (h : Pushed s) {r : CreateRequest} {o : Occurrence}
    (hfound : (truthy r.idempotencyKey).bind (s.db.findOccurrence r.tenantId) = some o)
    (hplain : o.promoted s.db.taxonomy = false) :
    Pushed (s.finish i (.create r) (.ok (.occurrence
      { occurrenceId := o.id, numero := o.numero, caseId := none, caseReference := none }))).1 := by
  obtain ⟨key, hkey, ho⟩ := truthy_bind_eq_some hfound
  obtain ⟨hmem, hkeyed⟩ := findOccurrence_eq_some ho
  have hreq : r.keyed = some (r.tenantId, key) := by
    rw [CreateRequest.keyed, hkey, Option.map_some]
  refine h.of_answer rfl h.unique h.uniqueCase h.opened (fun _ => id) rfl
    ⟨o, hmem, hkeyed.trans hreq.symm, rfl, rfl, fun _ => ⟨rfl, rfl⟩⟩ ?_
  intro r' result' hr' _ heq
  obtain ⟨o', ho', hkeyed', hof⟩ := h.answered r' result' hr'
  have hrow : o' = o := eq_of_label h.unique ho' hmem (hkeyed'.trans (heq.trans hreq)) hkeyed
  subst hrow
  obtain ⟨hcase, hreference⟩ := hof.plain hplain
  have hid := hof.id
  have hnumero := hof.numero
  cases result'
  simp only at hid hnumero hcase hreference
  rw [hid, hnumero, hcase, hreference]

/-- An occurrence is added, with a case or without; nothing is stored under its key before. -/
theorem pushed_created (h : Pushed s) {d : Draft} {result : CreateOccurrenceResult}
    (hok : s'.db.ok = true)
    (hoccurrences : s'.db.occurrences = s.db.occurrences.insert d.occurrence)
    (htaxonomy : s'.db.taxonomy = s.db.taxonomy)
    (hopened : s'.opened = s.opened ∨ ∃ id, s'.opened = s.opened ++ [(d.request, id)])
    (hlog : s'.log = s.log ++ [⟨.create d.request, .ok (.occurrence result)⟩])
    (hof : result.Of (d.occurrence s.db.occurrences.freshKey) s.db.taxonomy) : Pushed s' := by
  have hunique := uniqueOccurrence_of_ok hok
  have hkept : ∀ o ∈ s.db.occurrences, o ∈ s'.db.occurrences := by
    intro o ho
    rw [hoccurrences, Table.mem_insert]
    exact .inl ho
  have hadded : d.occurrence s.db.occurrences.freshKey ∈ s'.db.occurrences := by
    rw [hoccurrences, Table.mem_insert]
    exact .inr rfl
  have hnew : ∀ o ∈ s.db.occurrences, ∀ k, d.request.keyed = some k → o.keyed ≠ some k := by
    intro o ho k hk hkeyed
    have hrow := eq_of_label hunique (hkept o ho) hadded hkeyed hk
    have hlt := Table.key_lt_freshKey ho
    rw [hrow] at hlt
    exact lt_irrefl _ hlt
  refine h.of_answer hlog hunique ?_ ?_ hkept htaxonomy ⟨_, hadded, rfl, hof⟩ ?_
  · rcases hopened with hsame | ⟨id, hone⟩
    · exact hsame ▸ h.uniqueCase
    · rw [hone, List.filterMap_append, List.nodup_append]
      refine ⟨h.uniqueCase, by cases hk : d.request.keyed <;> simp [hk], ?_⟩
      intro k hk k' hk' heq
      subst heq
      obtain ⟨e, he, hek⟩ := List.mem_filterMap.mp hk
      obtain ⟨e', he', hek'⟩ := List.mem_filterMap.mp hk'
      rw [List.mem_singleton.mp he'] at hek'
      obtain ⟨o, ho, hok⟩ := h.opened e he k hek
      exact hnew o ho k hek' hok
  · intro e he k hk
    have hcase : e ∈ s.opened ∨ e.1 = d.request := by
      rcases hopened with hsame | ⟨id, hone⟩
      · exact .inl (hsame ▸ he)
      · rw [hone, List.mem_append, List.mem_singleton] at he
        exact he.imp_right fun (heq : e = (d.request, id)) => congrArg Prod.fst heq
    rcases hcase with he | he
    · obtain ⟨o, ho, hok⟩ := h.opened e he k hk
      exact ⟨o, hkept o ho, hok⟩
    · rw [he] at hk
      exact ⟨_, hadded, hk⟩
  · intro r' result' hr' hsome heq
    obtain ⟨o, ho, hkeyed, _⟩ := h.answered r' result' hr'
    obtain ⟨k, hk⟩ := Option.isSome_iff_exists.mp hsome
    exact absurd (hkeyed.trans (heq.trans hk)) (hnew o ho k hk)

theorem opensCase_step (h : p.OpensCase s.db.taxonomy) (hstep : GovStep i s act p s' p') :
    p'.OpensCase s'.db.taxonomy := by
  rw [hstep.taxonomy]
  cases hstep with
  | promoted d =>
    unfold Draft.promote
    split
    · next hpromoted => exact Option.isSome_of_eq_some hpromoted
    · trivial
  | begun d r =>
    unfold Draft.begin
    split
    · next t hfound =>
      cases s.db.cases.get t.caseId with
      | none => trivial
      | some case => exact h
    · exact h
  | entered d r rule hrule => cases d <;> exact h
  | numbered d r rule n havail => cases d <;> exact h
  | ticked => exact h
  | _ => trivial

theorem pushed_step (h : Pushed s) (hparty : p.OpensCase s.db.taxonomy)
    (hplain : ∀ r o, act = .begin (.create r) → p = .idle →
      (truthy r.idempotencyKey).bind (s.db.findOccurrence r.tenantId) = some o →
      o.promoted s.db.taxonomy = false)
    (hstep : GovStep i s act p s' p') : Pushed s' := by
  have hother : ∀ {e : Ended}, (∀ r result, e ≠ ⟨.create r, .ok (.occurrence result)⟩) →
      ∀ r result, ⟨.create r, .ok (.occurrence result)⟩ ∈ s.log ++ [e] →
        ⟨.create r, .ok (.occurrence result)⟩ ∈ s.log := by
    intro e hne r result hmem
    rcases List.mem_append.mp hmem with hold | hnew
    · exact hold
    · exact absurd (List.mem_singleton.mp hnew).symm (hne r result)
  cases hstep with
  | raised act p request e => exact h.of_same rfl rfl rfl (hother fun _ _ heq => by cases heq)
  | foundEntry r t hfound => exact h.of_same rfl rfl rfl (hother fun _ _ heq => by cases heq)
  | foundTransition r t hfound => exact h.of_same rfl rfl rfl (hother fun _ _ heq => by cases heq)
  | foundOccurrence r o hfound => exact pushed_found h hfound (hplain r o rfl rfl hfound)
  | applied r case rule hok => exact h.of_same rfl rfl rfl (hother fun _ _ heq => by cases heq)
  | opened d r rule n hok =>
    cases d with
    | none =>
      exact h.of_same rfl rfl (List.append_nil _) (hother fun _ _ heq => by cases heq)
    | some d =>
      refine pushed_created h hok rfl rfl (.inr ⟨_, rfl⟩) rfl ⟨rfl, rfl, fun hnone => ?_⟩
      exact absurd (hnone.symm.trans hparty) Bool.false_ne_true
  | filed d existing hok =>
    refine pushed_created h hok rfl rfl (.inl rfl) rfl ⟨rfl, rfl, fun hnone => ?_⟩
    cases existing with
    | none => exact ⟨rfl, rfl⟩
    | some case => exact absurd (hnone.symm.trans hparty) Bool.false_ne_true
  | _ => exact h.of_same rfl rfl rfl fun _ _ => id

end Step

/-! ## Every interleaving -/

/-- Calls that never find an occurrence which opens a case under their key: each key has one
occurrence, one case and one answer, however the calls overlap. -/
theorem events_replayed (taxonomy : Taxonomy) (clock : Instant) (ms : List (Nat × Action))
    (hunpromoted : Run.Along (move govTurn) Unpromoted (govStart taxonomy clock) ms) :
    Replayed (govRun taxonomy clock ms).store := by
  have hstart : Holds Pushed (fun _ s p => p.OpensCase s.db.taxonomy) (govStart taxonomy clock) :=
    ⟨⟨List.nodup_nil, List.nodup_nil, fun _ he => absurd he List.not_mem_nil,
      fun _ _ he => absurd he List.not_mem_nil, fun _ _ _ _ he => absurd he List.not_mem_nil⟩,
      fun _ => trivial⟩
  refine (holds_run (C := Unpromoted) ?_ ?_ hstart hunpromoted).store.replayed
  · intro c i act s p hI hC hturn
    have hstep := govStep_of_turn hturn
    refine ⟨pushed_step hI.store (hI.party i) ?_ hstep, opensCase_step (hI.party i) hstep⟩
    rintro r o rfl hp hfound
    rw [Unpromoted, unpromoted, hp] at hC
    simpa [hfound] using hC
  · intro c i act s p hI hC hturn j hj
    rw [(govStep_of_turn hturn).taxonomy]
    exact hI.party j

/-- One type of events, whose occurrences open a case from the severity `alta` on. -/
def breakdowns : Taxonomy where
  types := [{ id := 1, tenantId := 1, code := "rotas.vehicle.breakdown" }]
  caseTypes := [{ id := 1, tenantId := 1, code := "incident" }]
  promotions := [{ tenantId := 1, typeId := 1, caseTypeId := 1 }]
  rules := [{ tenantId := 1, caseTypeId := 1, fromStatus := none, toStatus := "open" }]

def breakdown (severity : String) : RotasEventPush where
  eventType := "vehicle.breakdown"
  severity
  title := "Breakdown"
  occurredAt := 0
  idempotencyKey := "event-1"

/-- The event is pushed twice. -/
def pushTwice (severity : String) : List (Nat × Action) :=
  oneByOne (List.replicate 2 (.create ((breakdown severity).request 1 7)))

theorem events_replayed_medium : Replayed (govRun breakdowns 0 (pushTwice "medium")).store :=
  events_replayed breakdowns 0 (pushTwice "medium") (by decide +kernel)

/-- What a call for a critical breakdown returns. -/
def answered (caseId : Option UUID) (caseReference : Option String) : Ended :=
  ⟨.create ((breakdown "critical").request 1 7), .ok (.occurrence
    { occurrenceId := 1, numero := "EVT-1970-000001", caseId, caseReference })⟩

/-- An event that opens a case is pushed twice: the second answer is without the case. -/
theorem replayed_without_case :
    ¬ Replayed (govRun breakdowns 0 (pushTwice "critical")).store := by
  intro h
  have hlog : (govRun breakdowns 0 (pushTwice "critical")).store.log =
      [answered (some 1) (some "CASE-1970-000001"), answered none none] := by
    rfl
  have hfirst : answered (some 1) (some "CASE-1970-000001") ∈
      (govRun breakdowns 0 (pushTwice "critical")).store.log := by
    rw [hlog]
    exact List.mem_cons_self
  have hagain : answered none none ∈
      (govRun breakdowns 0 (pushTwice "critical")).store.log := by
    rw [hlog]
    exact List.mem_cons_of_mem _ List.mem_cons_self
  cases congrArg CreateOccurrenceResult.caseId (h.sameAnswer _ _ _ _ hfirst hagain rfl rfl)

end Governance
end Rotas
