import Rotas.Governance.CaseSteps
import Mathlib.Data.List.Chain

/-!
# Rotas.Governance.Histories

The histories of the cases, in every interleaving of calls.

* `Chained` — a history that starts a case and leads to its status.
* `Taken` — a transition that a rule of its case allows.
* `Consistent` — every history is chained, and every transition was taken.
* `Unattached` — no case is opened under an entry rule that requires an attachment.
* `histories_consistent` — the histories are consistent along such runs, and a call that is refused
  leaves everything as it is.
* `opened_unattached` — a case that is opened under such a rule has no attachment.
-/

namespace Rotas
namespace Governance

open Interleave

/-! ## Histories -/

/-- The transitions of a case, in the order in which they were committed. -/
def GovDb.history (db : GovDb) (caseId : UUID) : List CaseTransition :=
  db.transitions.rows.filter fun t => t.caseId = caseId

/-- The history starts from nothing, goes on from where it was, and ends in the status. -/
structure Chained (history : List CaseTransition) (status : String) : Prop where
  first : ∀ t ∈ history.head?, t.fromStatus = none
  linked : history.IsChain fun t t' => t'.fromStatus = some t.toStatus
  last : history.getLast?.map CaseTransition.toStatus = some status

theorem Chained.entry {t : CaseTransition} (h : t.fromStatus = none) : Chained [t] t.toStatus where
  first := fun _ ht => Option.some.inj ht ▸ h
  linked := List.isChain_singleton t
  last := rfl

theorem Chained.extend {history : List CaseTransition} {status : String} {t : CaseTransition}
    (h : Chained history status) (ht : t.fromStatus = some status) :
    Chained (history ++ [t]) t.toStatus := by
  obtain ⟨last, hlast, hstatus⟩ := Option.map_eq_some_iff.mp h.last
  have hne : history ≠ [] := by
    rintro rfl
    cases hlast
  refine ⟨fun u hu => h.first u ?_, ?_, ?_⟩
  · rwa [List.head?_append_of_ne_nil _ hne] at hu
  · refine List.isChain_append.mpr ⟨h.linked, List.isChain_singleton t, fun u hu v hv => ?_⟩
    rw [hlast, Option.mem_some] at hu
    rw [List.head?_singleton, Option.mem_some] at hv
    rw [← hu, ← hv, ht, hstatus]
  · rw [List.getLast?_concat, Option.map_some]

section Insert

variable {db db' : GovDb} {mk : UUID → CaseTransition} {hk : ∀ k, Keyed.key (mk k) = k}

theorem history_insert_same (h : db'.transitions = db.transitions.insert mk hk) (caseId : UUID)
    (hc : (mk db.transitions.freshKey).caseId = caseId) :
    db'.history caseId = db.history caseId ++ [mk db.transitions.freshKey] := by
  rw [GovDb.history, h, Table.rows_insert, List.filter_append, GovDb.history,
    List.filter_cons_of_pos (by simpa using hc), List.filter_nil]

theorem history_insert_other (h : db'.transitions = db.transitions.insert mk hk) (caseId : UUID)
    (hc : (mk db.transitions.freshKey).caseId ≠ caseId) :
    db'.history caseId = db.history caseId := by
  rw [GovDb.history, h, Table.rows_insert, List.filter_append, GovDb.history,
    List.filter_cons_of_neg (by simpa using hc), List.filter_nil, List.append_nil]

end Insert

/-- The rule is active, and allows the step with this payload. -/
structure CaseTransitionRule.Allows (rule : CaseTransitionRule) (tenantId caseTypeId : UUID)
    (fromStatus : Option String) (toStatus : String) (payload : List (String × Json)) : Prop where
  tenant : rule.tenantId = tenantId
  caseType : rule.caseTypeId = caseTypeId
  fromStatus : rule.fromStatus = fromStatus
  toStatus : rule.toStatus = toStatus
  active : rule.isActive = true
  fields : ∀ f ∈ rule.requiredFields, (Json.get? payload f).any Json.truthy = true

/-- The transition was asked for with an attachment. -/
def Attached (log : List Ended) (t : CaseTransition) : Prop :=
  ∃ r, ⟨.applyTransition r, .ok (.transition t)⟩ ∈ log ∧ r.attachmentsPresent = true

/-- A rule of the type of its case allows the transition. -/
def Taken (s : GovStore) (t : CaseTransition) : Prop :=
  ∃ case, s.db.cases.get t.caseId = some case ∧ t.tenantId = case.tenantId ∧
    ∃ rule ∈ s.db.taxonomy.rules,
      rule.Allows case.tenantId case.caseTypeId t.fromStatus t.toStatus t.payload ∧
        (rule.requiredAttachments = true → Attached s.log t)

structure Consistent (s : GovStore) : Prop where
  chained : ∀ c ∈ s.db.cases, Chained (s.db.history c.id) c.status
  taken : ∀ t ∈ s.db.transitions, Taken s t

/-! ## What the checks say -/

theorem requireFields_eq_ok {fields : List String} {payload : List (String × Json)} {u : Unit}
    (h : requireFields fields payload = .ok u) :
    ∀ f ∈ fields, (Json.get? payload f).any Json.truthy = true := by
  rw [requireFields] at h
  split at h
  · cases h
  · next hnone =>
    intro f hf
    simpa using List.find?_eq_none.mp hnone f hf

theorem requireEntryRule_eq_ok {r : OpenRequest} {db : GovDb} {rule : CaseTransitionRule}
    (h : requireEntryRule r db = .ok rule) : rule ∈ db.taxonomy.rules ∧
      rule.Allows r.tenantId r.caseTypeId none r.initialStatus r.payload := by
  simp only [requireEntryRule, bind_eq_ok, require_eq_ok, pure, Except.pure, Except.ok.injEq] at h
  obtain ⟨found, hfind, _, hfields, rfl⟩ := h
  have hrule := List.find?_some hfind
  simp only [Bool.and_eq_true, decide_eq_true_eq, Option.isNone_iff_eq_none] at hrule
  obtain ⟨⟨⟨⟨htenant, htype⟩, hfrom⟩, hto⟩, hactive⟩ := hrule
  exact ⟨List.mem_of_find?_eq_some hfind, htenant, htype, hfrom, hto, hactive,
    requireFields_eq_ok hfields⟩

theorem requireRule_eq_ok {r : ApplyRequest} {case : Case} {db : GovDb} {rule : CaseTransitionRule}
    (h : requireRule r case db = .ok rule) : rule ∈ db.taxonomy.rules ∧
      rule.Allows r.tenantId case.caseTypeId (some case.status) r.toStatus r.payload ∧
      (rule.requiredAttachments = true → r.attachmentsPresent = true) := by
  simp only [requireRule, bind_eq_ok, require_eq_ok, raiseIf_eq_ok, pure, Except.pure,
    Except.ok.injEq] at h
  obtain ⟨found, hfind, _, hfields, _, hattached, rfl⟩ := h
  have hrule := List.find?_some hfind
  simp only [Bool.and_eq_true, decide_eq_true_eq] at hrule
  obtain ⟨⟨⟨⟨htenant, htype⟩, hfrom⟩, hto⟩, hactive⟩ := hrule
  refine ⟨List.mem_of_find?_eq_some hfind, ⟨htenant, htype, hfrom, hto, hactive,
    requireFields_eq_ok hfields⟩, fun hreq => ?_⟩
  simpa [hreq] using hattached

theorem requireCase_eq_ok {r : ApplyRequest} {db : GovDb} {case : Case}
    (h : requireCase r db = .ok case) :
    db.cases.get r.caseId = some case ∧ case.tenantId = r.tenantId := by
  obtain ⟨hget, htenant⟩ := Option.filter_eq_some_iff.mp (require_eq_ok.mp h)
  exact ⟨hget, of_decide_eq_true htenant⟩

/-! ## What a call knows -/

/-- The call holds its case, which is as it was read. -/
structure Held (i : Nat) (s : GovStore) (r : ApplyRequest) (case : Case) : Prop where
  lock : s.locks (.case r.caseId) = some i
  get : s.db.cases.get r.caseId = some case
  tenant : case.tenantId = r.tenantId

def PartySound (i : Nat) (s : GovStore) : Phase → Prop
  | .locked r case => Held i s r case
  | .ruled r case rule => Held i s r case ∧ rule ∈ s.db.taxonomy.rules ∧
      rule.Allows r.tenantId case.caseTypeId (some case.status) r.toStatus r.payload ∧
      (rule.requiredAttachments = true → r.attachmentsPresent = true)
  | .entered _ r rule | .numbered _ r rule _ => rule ∈ s.db.taxonomy.rules ∧
      rule.Allows r.tenantId r.caseTypeId none r.initialStatus r.payload
  | _ => True

/-- No case is opened under an entry rule that requires an attachment. -/
def unattached (c : Config GovStore Phase) (m : Nat × Action) : Bool :=
  match m.2, c.parties m.1 with
  | .commit, .numbered _ _ rule _ => !rule.requiredAttachments
  | _, _ => true

def Unattached (c : Config GovStore Phase) (m : Nat × Action) : Prop := unattached c m = true

instance (c : Config GovStore Phase) (m : Nat × Action) : Decidable (Unattached c m) :=
  inferInstanceAs (Decidable (_ = true))

/-- A call that is refused in this step leaves the database as it is, and so does one that goes
on: only a call that returns writes. -/
def RefusalQuiet (c : Config GovStore Phase) (m : Nat × Action) : Prop :=
  (∀ e, (move govTurn c m).store.log = c.store.log ++ [e] → e.outcome.isOk = false) →
    (move govTurn c m).store.db = c.store.db

/-! ## One turn -/

section Step

variable {i j : Nat} {act : Action} {s s' : GovStore} {p p' : Phase}

theorem held_of_leaves {r : ApplyRequest} {case : Case} (h : Held j s r case) (hl : Leaves j s s') :
    Held j s' r case := by
  have hid : case.id = r.caseId := Table.key_of_get h.get
  have hget := hl.cases case (hid ▸ h.lock) (hid ▸ h.get)
  exact ⟨hl.locks _ h.lock, hid ▸ hget, h.tenant⟩

theorem partySound_of_leaves (h : PartySound j s p) (hl : Leaves j s s') : PartySound j s' p := by
  cases p with
  | locked r case => exact held_of_leaves h hl
  | ruled r case rule =>
    obtain ⟨hheld, hmem, hallows⟩ := h
    exact ⟨held_of_leaves hheld hl, hl.taxonomy ▸ hmem, hallows⟩
  | entered d r rule => exact ⟨hl.taxonomy ▸ h.1, h.2⟩
  | numbered d r rule n => exact ⟨hl.taxonomy ▸ h.1, h.2⟩
  | _ => trivial

theorem Consistent.of_same (h : Consistent s) (hcases : s'.db.cases = s.db.cases)
    (htransitions : s'.db.transitions = s.db.transitions)
    (htaxonomy : s'.db.taxonomy = s.db.taxonomy) (hlog : ∀ e ∈ s.log, e ∈ s'.log) :
    Consistent s' where
  chained := by
    have hhistory : ∀ id, s'.db.history id = s.db.history id := fun id => by
      rw [GovDb.history, htransitions, GovDb.history]
    intro c hc
    rw [hhistory]
    exact h.chained c (hcases ▸ hc)
  taken := by
    intro t ht
    obtain ⟨case, hget, htenant, rule, hmem, hallows, hattached⟩ := h.taken t (htransitions ▸ ht)
    refine ⟨case, hcases ▸ hget, htenant, rule, htaxonomy ▸ hmem, hallows, fun hreq => ?_⟩
    obtain ⟨r, hr, hpresent⟩ := hattached hreq
    exact ⟨r, hlog _ hr, hpresent⟩

/-- A new entry of the log, under a transition that a rule allows. -/
theorem taken_of_grows {t : CaseTransition} (h : Taken s t)
    (htaxonomy : s'.db.taxonomy = s.db.taxonomy) (hlog : ∀ e ∈ s.log, e ∈ s'.log)
    (hkept : CasesKept s.db s'.db) : Taken s' t := by
  obtain ⟨case, hcase, htenant, rule, hmem, hallows, hattached⟩ := h
  obtain ⟨case', hcase', htenant', htype'⟩ := hkept _ _ hcase
  refine ⟨case', hcase', htenant.trans htenant'.symm, rule, htaxonomy ▸ hmem, ?_, fun hreq => ?_⟩
  · rw [htenant', htype']
    exact hallows
  · obtain ⟨r, hr, hpresent⟩ := hattached hreq
    exact ⟨r, hlog _ hr, hpresent⟩

/-- A transition that is applied goes on from the status of its case. -/
theorem consistent_applied {r : ApplyRequest} {case : Case} {rule : CaseTransitionRule}
    {now : Instant} (h : Consistent s) (hp : PartySound i s (.ruled r case rule))
    (hdb : s'.db = r.write case rule now s.db)
    (hlog : s'.log = s.log ++ [⟨.applyTransition r,
      .ok (.transition (r.transition case s.db.transitions.freshKey))⟩]) : Consistent s' := by
  obtain ⟨hheld, hmem, hallows, hattached⟩ := hp
  have hid : case.id = r.caseId := Table.key_of_get hheld.get
  have htransitions := hdb ▸ write_transitions r case rule now s.db
  have hcases := hdb ▸ write_cases r case rule now s.db
  constructor
  · intro c hc
    rw [hcases] at hc
    rcases Table.mem_modify_cases hc with ⟨c₀, hc₀, hkey, rfl⟩ | ⟨hc, hne⟩
    · have hcase : c₀ = case :=
        Option.some.inj ((Table.get_eq_some_iff.mpr ⟨hc₀, hkey⟩).symm.trans hheld.get)
      subst hcase
      change Chained (s'.db.history c₀.id) r.toStatus
      rw [history_insert_same htransitions c₀.id hid.symm]
      exact (h.chained c₀ hc₀).extend rfl
    · rw [history_insert_other htransitions c.id (Ne.symm hne)]
      exact h.chained c hc
  · have hkept : CasesKept s.db s'.db := hdb ▸ casesKept_write r case rule now s.db
    have hold : ∀ e ∈ s.log, e ∈ s'.log := fun e he => hlog ▸ List.mem_append_left _ he
    have htaxonomy : s'.db.taxonomy = s.db.taxonomy := by rw [hdb]; rfl
    intro t ht
    rw [htransitions, Table.mem_insert] at ht
    rcases ht with ht | rfl
    · exact taken_of_grows (h.taken t ht) htaxonomy hold hkept
    · obtain ⟨case', hcase', htenant', htype'⟩ := hkept _ _ hheld.get
      refine ⟨case', hcase', hheld.tenant.symm.trans htenant'.symm, rule, htaxonomy ▸ hmem, ?_,
        fun hreq => ⟨r, ?_, hattached hreq⟩⟩
      · rw [htenant', htype', hheld.tenant]
        exact hallows
      · rw [hlog]
        exact List.mem_append_right _ List.mem_cons_self

theorem consistent_opened {d : Option Draft} {r : OpenRequest} {rule : CaseTransitionRule}
    {n : Numbered} {now : Instant} (h : Consistent s) (hp : PartySound i s (.numbered d r rule n))
    (hunattached : rule.requiredAttachments = false)
    (hdb : s'.db = (commitOpen d r rule n now s.db).2) (hlog : ∀ e ∈ s.log, e ∈ s'.log) :
    Consistent s' := by
  obtain ⟨hcases, htransitions, htaxonomy⟩ := commitOpen_cases d r rule n now s.db
  rw [← hdb] at hcases htransitions htaxonomy
  have hnew : s.db.history s.db.cases.freshKey = [] := by
    refine List.filter_eq_nil_iff.mpr fun t ht hcase => ?_
    obtain ⟨case, hget, _⟩ := h.taken t ht
    rw [of_decide_eq_true hcase, Table.get_freshKey] at hget
    cases hget
  constructor
  · intro c hc
    rw [hcases, Table.mem_insert] at hc
    rcases hc with hc | rfl
    · rw [history_insert_other htransitions c.id (Table.key_lt_freshKey hc).ne']
      exact h.chained c hc
    · change Chained (s'.db.history s.db.cases.freshKey) r.initialStatus
      rw [history_insert_same htransitions s.db.cases.freshKey rfl, hnew]
      exact Chained.entry rfl
  · intro t ht
    rw [htransitions, Table.mem_insert] at ht
    rcases ht with ht | rfl
    · exact taken_of_grows (h.taken t ht) htaxonomy hlog (hdb ▸ casesKept_commitOpen d r rule n now s.db)
    · refine ⟨r.case rule n.id now s.db.cases.freshKey, ?_, rfl, rule, htaxonomy ▸ hp.1, hp.2,
        fun hreq => ?_⟩
      · rw [hcases]
        exact (Table.get_insert ..).trans (if_pos rfl)
      · rw [hunattached] at hreq
        cases hreq

theorem consistent_step (h : Consistent s) (hp : PartySound i s p) (hstep : GovStep i s act p s' p')
    (hunattached : ∀ d r rule n, act = .commit → p = .numbered d r rule n →
      rule.requiredAttachments = false) : Consistent s' ∧ PartySound i s' p' := by
  have hgrows : ∀ (l : List Ended) (e : Ended), e ∈ s.log → e ∈ s.log ++ l :=
    fun l e he => List.mem_append_left _ he
  cases hstep with
  | raised | foundEntry | foundTransition | foundOccurrence =>
    exact ⟨h.of_same rfl rfl rfl (hgrows _), trivial⟩
  | opening | applying | creating | typed | linked => exact ⟨h, trivial⟩
  | promoted d =>
    refine ⟨h, ?_⟩
    unfold Draft.promote
    split <;> trivial
  | begun d r =>
    refine ⟨h, ?_⟩
    unfold Draft.begin
    split <;> trivial
  | locked r case hcase havail =>
    obtain ⟨hget, htenant⟩ := requireCase_eq_ok hcase
    exact ⟨h.of_same rfl rfl rfl fun _ => id, Locks.take_self, hget, htenant⟩
  | ruled r case rule hrule =>
    obtain ⟨hmem, hallows, hattached⟩ := requireRule_eq_ok hrule
    exact ⟨h, hp, hmem, hallows, hattached⟩
  | counted r type n havail => exact ⟨h.of_same rfl rfl rfl fun _ => id, trivial⟩
  | entered d r rule hrule => exact ⟨h, requireEntryRule_eq_ok hrule⟩
  | numbered d r rule n havail => exact ⟨h.of_same rfl rfl rfl fun _ => id, hp⟩
  | applied r case rule hok => exact ⟨consistent_applied h hp rfl rfl, trivial⟩
  | opened d r rule n hok =>
    exact ⟨consistent_opened h hp (hunattached d r rule n rfl rfl) rfl (hgrows _), trivial⟩
  | filed d existing hok => exact ⟨h.of_same rfl rfl rfl (hgrows _), trivial⟩
  | rolledBack => exact ⟨h.of_same rfl rfl rfl fun _ => id, trivial⟩
  | ticked now p =>
    exact ⟨h.of_same rfl rfl rfl fun _ => id, partySound_of_leaves hp (.of_db rfl fun _ => id)⟩

theorem quiet_step (hstep : GovStep i s act p s' p')
    (hquiet : ∀ e, s'.log = s.log ++ [e] → e.outcome.isOk = false) : s'.db = s.db := by
  cases hstep with
  | applied r case rule hok => exact absurd (hquiet _ rfl) (by simp [Except.isOk, Except.toBool])
  | opened d r rule n hok => exact absurd (hquiet _ rfl) (by simp [Except.isOk, Except.toBool])
  | filed d existing hok => exact absurd (hquiet _ rfl) (by simp [Except.isOk, Except.toBool])
  | _ => rfl

end Step

/-! ## Every interleaving -/

/-- Unless a case is opened under an entry rule that requires an attachment, every history is
consistent, and a call that is refused changes nothing. -/
theorem histories_consistent (taxonomy : Taxonomy) (clock : Instant) (ms : List (Nat × Action))
    (hunattached : Run.Along (move govTurn) Unattached (govStart taxonomy clock) ms) :
    Consistent (govRun taxonomy clock ms).store ∧
      Run.Along (move govTurn) RefusalQuiet (govStart taxonomy clock) ms := by
  have hstart : Holds Consistent PartySound (govStart taxonomy clock) :=
    ⟨⟨fun c hc => absurd hc (Table.not_mem_empty c), fun t ht => absurd ht (Table.not_mem_empty t)⟩,
      fun _ => trivial⟩
  refine ⟨(holds_run (C := Unattached) ?_ ?_ hstart hunattached).store, ?_⟩
  · intro c i act s p hI hC hturn
    refine consistent_step hI.store (hI.party i) (govStep_of_turn hturn) ?_
    rintro d r rule n rfl hp
    rw [Unattached, unattached, hp] at hC
    simpa using hC
  · intro c i act s p hI hC hturn j hj
    refine partySound_of_leaves (hI.party j) ((govStep_of_turn hturn).leaves hj ?_)
    intro r case rule hp
    have hparty := hI.party i
    rw [hp] at hparty
    exact hparty.1.lock
  · refine Run.along_of_forall (fun m _ c => ?_) _
    intro hquiet
    rcases move_cases govTurn c m with heq | ⟨s, p, hturn, heq⟩
    · rw [heq]
    · rw [heq] at hquiet ⊢
      exact quiet_step (govStep_of_turn hturn) hquiet

/-! ## Entry rules with attachments -/

/-- One type of cases, which are opened and then analysed. -/
def oneCaseType (attachments : Bool) : Taxonomy where
  caseTypes := [{ id := 1, tenantId := 1, code := "incident" }]
  rules := [
    { tenantId := 1, caseTypeId := 1, fromStatus := none, toStatus := "open"
      requiredAttachments := attachments },
    { tenantId := 1, caseTypeId := 1, fromStatus := some "open", toStatus := "in_analysis" }]

def openIncident (key : String) : OpenRequest :=
  { tenantId := 1, caseTypeId := 1, initialStatus := "open", actorId := 7
    idempotencyKey := some key }

def analyse (caseId : UUID) (key : String) : ApplyRequest :=
  { tenantId := 1, caseId, toStatus := "in_analysis", actorId := 7, idempotencyKey := some key }

/-- The turns of a call, up to its commit. -/
def Request.turns (request : Request) : List Action :=
  match request with
  | .openCase _ => [.begin request, .next, .next, .commit]
  | .applyTransition _ => [.begin request, .next, .next, .commit]
  | .create r => [.begin request, .next, .next] ++ r.links.map (fun _ => .next) ++
      [.next, .next, .next, .next, .commit]

/-- Calls one after the other, each in a transaction of its own. -/
def oneByOne (requests : List Request) : List (Nat × Action) :=
  requests.zipIdx.flatMap fun (request, i) => request.turns.map (i, ·)

theorem histories_consistent_incident :
    Consistent (govRun (oneCaseType false) 0
        (oneByOne [.openCase (openIncident "a"), .applyTransition (analyse 1 "b")])).store ∧
      Run.Along (move govTurn) RefusalQuiet (govStart (oneCaseType false) 0)
        (oneByOne [.openCase (openIncident "a"), .applyTransition (analyse 1 "b")]) :=
  histories_consistent (oneCaseType false) 0
    (oneByOne [.openCase (openIncident "a"), .applyTransition (analyse 1 "b")]) (by decide +kernel)

/-- The call asked for a transition with an attachment. -/
def Ended.attached (e : Ended) : Bool :=
  match e.request with
  | .applyTransition r => r.attachmentsPresent
  | _ => false

/-- A case is opened under an entry rule that requires an attachment, without one. -/
theorem opened_unattached :
    ¬ Consistent (govRun (oneCaseType true) 0 (oneByOne [.openCase (openIncident "a")])).store := by
  intro h
  have hnone : ∀ e ∈ (govRun (oneCaseType true) 0
      (oneByOne [.openCase (openIncident "a")])).store.log, e.attached = false := by
    decide +kernel
  have hentry : ∃ t ∈ (govRun (oneCaseType true) 0
      (oneByOne [.openCase (openIncident "a")])).store.db.transitions, t.fromStatus = none := by
    decide +kernel
  have hrules : ∀ rule ∈ (govRun (oneCaseType true) 0
      (oneByOne [.openCase (openIncident "a")])).store.db.taxonomy.rules,
      rule.fromStatus = none → rule.requiredAttachments = true := by
    decide +kernel
  obtain ⟨t, ht, hfrom⟩ := hentry
  obtain ⟨case, _, _, rule, hmem, hallows, hattached⟩ := h.taken t ht
  obtain ⟨r, hr, hpresent⟩ := hattached (hrules rule hmem (hallows.fromStatus.trans hfrom))
  have habsent : r.attachmentsPresent = false := hnone _ hr
  rw [hpresent] at habsent
  cases habsent

end Governance
end Rotas
