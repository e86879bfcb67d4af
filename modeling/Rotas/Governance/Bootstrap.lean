import Rotas.Governance.Histories
import Rotas.Lib.Ensure

/-!
# Rotas.Governance.Bootstrap

What the adapter sets up for a tenant, and the cases that are handled under it.

* `bootstrap`       — the taxonomy types, case types, promotions and transition rules of a tenant.
* `bootstraps_settle` — tenants are set up in any order and any number of times, to one effect.
* `cases_resolved`  — a case goes forward only, and is closed after a resolution with its note.
-/

namespace Rotas

namespace Governance

open Interleave

/-! ## What is set up -/

/-- `_CASE_TYPES`: codes and initial statuses. -/
def rotasCaseTypes : List (String × String) :=
  [("rotas.incident", "open"), ("rotas.compliance", "open"), ("rotas.fuel_anomaly", "open"),
   ("rotas.cargo_integrity", "open")]

/-- `_PROMOTIONS`: codes of a type and a case type, and the lowest severity. -/
def rotasPromotions : List (String × String × String) :=
  [("rotas.vehicle.breakdown", "rotas.incident", "alta"),
   ("rotas.vehicle.accident", "rotas.incident", "media"),
   ("rotas.trip.incident", "rotas.incident", "media"),
   ("rotas.fuel.anomaly", "rotas.fuel_anomaly", "alta"),
   ("rotas.fuel.theft_suspicion", "rotas.fuel_anomaly", "media"),
   ("rotas.cargo.damage", "rotas.cargo_integrity", "media"),
   ("rotas.cargo.loss", "rotas.cargo_integrity", "media"),
   ("rotas.document.expired", "rotas.compliance", "baixa"),
   ("rotas.vehicle.overdue_checklist", "rotas.compliance", "baixa")]

structure RuleSpec where
  fromStatus : Option String
  toStatus : String
  requiredFields : List String
  requiredAttachments : Bool

/-- `_TRANSITION_RULES`; none of them sets a time. -/
def rotasTransitionRules : List (String × List RuleSpec) :=
  [("rotas.incident",
    [⟨none, "open", [], false⟩,
     ⟨some "open", "in_analysis", [], false⟩,
     ⟨some "in_analysis", "resolved", ["resolution_note"], false⟩,
     ⟨some "open", "resolved", ["resolution_note"], false⟩,
     ⟨some "resolved", "closed", [], false⟩]),
   ("rotas.compliance",
    [⟨none, "open", [], false⟩,
     ⟨some "open", "in_analysis", [], false⟩,
     ⟨some "in_analysis", "resolved", ["resolution_note"], true⟩,
     ⟨some "open", "resolved", ["resolution_note"], true⟩,
     ⟨some "resolved", "closed", [], false⟩]),
   ("rotas.fuel_anomaly",
    [⟨none, "open", [], false⟩,
     ⟨some "open", "in_analysis", [], false⟩,
     ⟨some "in_analysis", "resolved", ["resolution_note"], false⟩,
     ⟨some "resolved", "closed", [], false⟩]),
   ("rotas.cargo_integrity",
    [⟨none, "open", [], false⟩,
     ⟨some "open", "in_analysis", [], false⟩,
     ⟨some "in_analysis", "resolved", ["resolution_note"], true⟩,
     ⟨some "resolved", "closed", [], false⟩])]

def RuleSpec.rule (spec : RuleSpec) (tenantId caseTypeId : UUID) : CaseTransitionRule :=
  { tenantId, caseTypeId, fromStatus := spec.fromStatus, toStatus := spec.toStatus
    requiredFields := spec.requiredFields, requiredAttachments := spec.requiredAttachments }

def TaxonomyType.name? (r : TaxonomyType) : UUID × String := (r.tenantId, r.code)

def TaxonomyCaseType.name? (r : TaxonomyCaseType) : UUID × String := (r.tenantId, r.code)

def TaxonomyTypePromotion.name? (p : TaxonomyTypePromotion) : UUID × UUID × UUID :=
  (p.tenantId, p.typeId, p.caseTypeId)

def CaseTransitionRule.name? (r : CaseTransitionRule) : UUID × UUID × Option String × String :=
  (r.tenantId, r.caseTypeId, r.fromStatus, r.toStatus)

def freshId (ids : List UUID) : UUID := ids.foldr max 0 + 1

variable (tenantId : UUID)

def ensureTaxonomyTypes (rows : List TaxonomyType) : List TaxonomyType :=
  ensureAll TaxonomyType.name? (tenantId, ·)
    (fun rows code => { id := freshId (rows.map (·.id)), tenantId, code }) rows
    (rotasEventTypeCodes.map Prod.snd)

def ensureCaseTypes (rows : List TaxonomyCaseType) : List TaxonomyCaseType :=
  ensureAll TaxonomyCaseType.name? (fun spec => (tenantId, spec.1))
    (fun rows spec =>
      { id := freshId (rows.map (·.id)), tenantId, code := spec.1, initialStatus := spec.2 })
    rows rotasCaseTypes

def promotionsOf (types : List TaxonomyType) (caseTypes : List TaxonomyCaseType) :
    List TaxonomyTypePromotion :=
  rotasPromotions.filterMap fun (typeCode, caseTypeCode, minSeverity) => do
    let type ← types.find? (·.name? = (tenantId, typeCode))
    let caseType ← caseTypes.find? (·.name? = (tenantId, caseTypeCode))
    some { tenantId, typeId := type.id, caseTypeId := caseType.id, minSeverity }

def rulesOf (caseTypes : List TaxonomyCaseType) : List CaseTransitionRule :=
  rotasTransitionRules.flatMap fun (code, specs) =>
    match caseTypes.find? (·.name? = (tenantId, code)) with
    | some caseType => specs.map (·.rule tenantId caseType.id)
    | none => []

def ensurePromotions (types : List TaxonomyType) (caseTypes : List TaxonomyCaseType)
    (rows : List TaxonomyTypePromotion) : List TaxonomyTypePromotion :=
  ensureAll TaxonomyTypePromotion.name? TaxonomyTypePromotion.name? (fun _ p => p) rows
    (promotionsOf tenantId types caseTypes)

def ensureTransitionRules (caseTypes : List TaxonomyCaseType) (rows : List CaseTransitionRule) :
    List CaseTransitionRule :=
  ensureAll CaseTransitionRule.name? CaseTransitionRule.name? (fun _ r => r) rows
    (rulesOf tenantId caseTypes)

/-- What `bootstrap` leaves of the taxonomy, committed. -/
def bootstrap (t : Taxonomy) : Taxonomy where
  types := ensureTaxonomyTypes tenantId t.types
  caseTypes := ensureCaseTypes tenantId t.caseTypes
  promotions := ensurePromotions tenantId (ensureTaxonomyTypes tenantId t.types)
    (ensureCaseTypes tenantId t.caseTypes) t.promotions
  rules := ensureTransitionRules tenantId (ensureCaseTypes tenantId t.caseTypes) t.rules

/-- The tenants, set up one after the other. -/
def bootstraps (t : Taxonomy) (tenants : List UUID) : Taxonomy :=
  Run.exec (fun t tenantId => bootstrap tenantId t) t tenants

variable {tenantId} {t t' : Taxonomy} {x : UUID}

/-! ## Once is enough -/

/-- Rows are only added. -/
structure Taxonomy.Extends (t t' : Taxonomy) : Prop where
  types : t.types <+: t'.types
  caseTypes : t.caseTypes <+: t'.caseTypes
  promotions : t.promotions <+: t'.promotions
  rules : t.rules <+: t'.rules

/-- All that a tenant needs is there. -/
structure Taxonomy.Ready (tenantId : UUID) (t : Taxonomy) : Prop where
  types : ∀ e ∈ rotasEventTypeCodes, (tenantId, e.2) ∈ t.types.map TaxonomyType.name?
  caseTypes : ∀ e ∈ rotasCaseTypes, (tenantId, e.1) ∈ t.caseTypes.map TaxonomyCaseType.name?
  promotions : ∀ p ∈ promotionsOf tenantId t.types t.caseTypes,
    p.name? ∈ t.promotions.map TaxonomyTypePromotion.name?
  rules : ∀ r ∈ rulesOf tenantId t.caseTypes, r.name? ∈ t.rules.map CaseTransitionRule.name?

theorem extends_bootstrap : t.Extends (bootstrap tenantId t) :=
  ⟨prefix_ensureAll, prefix_ensureAll, prefix_ensureAll, prefix_ensureAll⟩

theorem ready_bootstrap : (bootstrap tenantId t).Ready tenantId where
  types e he := named_ensureAll (by exact fun _ _ => rfl) e.2 (List.mem_map_of_mem he)
  caseTypes e he := named_ensureAll (by exact fun _ _ => rfl) e he
  promotions p hp := named_ensureAll (by exact fun _ _ => rfl) p hp
  rules r hr := named_ensureAll (by exact fun _ _ => rfl) r hr

theorem bootstrap_of_ready (h : t.Ready tenantId) : bootstrap tenantId t = t := by
  have htypes : ensureTaxonomyTypes tenantId t.types = t.types := by
    refine ensureAll_of_named fun code hcode => ?_
    obtain ⟨e, he, rfl⟩ := List.mem_map.mp hcode
    exact h.types e he
  have hcases : ensureCaseTypes tenantId t.caseTypes = t.caseTypes :=
    ensureAll_of_named h.caseTypes
  simp only [bootstrap, htypes, hcases, ensurePromotions, ensureTransitionRules,
    ensureAll_of_named h.promotions, ensureAll_of_named h.rules]

theorem Taxonomy.Ready.extends (h : t.Ready x) (he : t.Extends t') : t'.Ready x := by
  have hcodes : ∀ p ∈ rotasPromotions, p.1 ∈ rotasEventTypeCodes.map Prod.snd ∧
      p.2.1 ∈ rotasCaseTypes.map Prod.fst := by decide
  have hrules : ∀ p ∈ rotasTransitionRules, p.1 ∈ rotasCaseTypes.map Prod.fst := by decide
  have htype : ∀ code ∈ rotasEventTypeCodes.map Prod.snd,
      t'.types.find? (·.name? = (x, code)) = t.types.find? (·.name? = (x, code)) := by
    intro code hcode
    obtain ⟨e, he', rfl⟩ := List.mem_map.mp hcode
    exact find?_of_prefix he.types (h.types e he')
  have hcase : ∀ code ∈ rotasCaseTypes.map Prod.fst,
      t'.caseTypes.find? (·.name? = (x, code)) = t.caseTypes.find? (·.name? = (x, code)) := by
    intro code hcode
    obtain ⟨e, he', rfl⟩ := List.mem_map.mp hcode
    exact find?_of_prefix he.caseTypes (h.caseTypes e he')
  have hpromotions : promotionsOf x t'.types t'.caseTypes = promotionsOf x t.types t.caseTypes := by
    refine List.filterMap_congr fun p hp => ?_
    dsimp only
    rw [htype p.1 (hcodes p hp).1, hcase p.2.1 (hcodes p hp).2]
  have hruled : rulesOf x t'.caseTypes = rulesOf x t.caseTypes :=
    List.flatMap_congr fun p hp => by
      dsimp only
      rw [hcase p.1 (hrules p hp)]
  exact {
    types := fun e h' => named_of_prefix he.types (h.types e h')
    caseTypes := fun e h' => named_of_prefix he.caseTypes (h.caseTypes e h')
    promotions := fun p hp => named_of_prefix he.promotions (h.promotions p (hpromotions ▸ hp))
    rules := fun r hr => named_of_prefix he.rules (h.rules r (hruled ▸ hr)) }

/-- However often and in whatever order tenants are set up, all that they need is there after it,
and to set one of them up again does nothing. -/
theorem bootstraps_settle (t : Taxonomy) (tenants : List UUID) :
    ∀ x ∈ tenants, (bootstraps t tenants).Ready x ∧
      bootstrap x (bootstraps t tenants) = bootstraps t tenants := by
  intro x hx
  have hready : (bootstraps t tenants).Ready x := by
    induction tenants generalizing t with
    | nil => exact absurd hx List.not_mem_nil
    | cons y tenants ih =>
      rcases List.mem_cons.mp hx with rfl | hx
      · show (Run.exec _ (bootstrap x t) tenants).Ready x
        exact Run.exec_inv_all (fun _ _ h => h.extends extends_bootstrap) ready_bootstrap
      · exact ih _ hx
  exact ⟨hready, bootstrap_of_ready hready⟩

theorem bootstraps_settle_two : (bootstraps {} [1, 2]).Ready 1 ∧
    bootstrap 1 (bootstraps {} [1, 2]) = bootstraps {} [1, 2] :=
  bootstraps_settle {} [1, 2] 1 List.mem_cons_self

/-! ## Cases under the rules that are set up -/

def caseStatuses : List String := ["open", "in_analysis", "resolved", "closed"]

/-- The statuses that come after one. -/
def laterStatuses (status : String) : List String := (caseStatuses.dropWhile (· ≠ status)).tail

/-- A step opens a case, or goes forward; the end is reached from a resolution only. -/
structure Forward (fromStatus : Option String) (toStatus : String) : Prop where
  entry : fromStatus = none → toStatus = "open"
  later : ∀ s ∈ fromStatus, List.Sublist (toStatus :: laterStatuses toStatus) (laterStatuses s)
  closing : toStatus = "closed" → fromStatus = some "resolved"

/-- What a rule that is set up allows, and what it asks for. -/
structure Guarded (r : CaseTransitionRule) : Prop where
  forward : Forward r.fromStatus r.toStatus
  unattached : r.fromStatus = none → r.requiredAttachments = false
  note : r.toStatus = "resolved" → "resolution_note" ∈ r.requiredFields

theorem guarded_bootstraps (tenants : List UUID) :
    ∀ r ∈ (bootstraps {} tenants).rules, Guarded r := by
  have hspecs : ∀ p ∈ rotasTransitionRules, ∀ spec ∈ p.2,
      ((spec.fromStatus = none → spec.toStatus = "open") ∧
        (∀ s ∈ spec.fromStatus,
          List.Sublist (spec.toStatus :: laterStatuses spec.toStatus) (laterStatuses s)) ∧
        (spec.toStatus = "closed" → spec.fromStatus = some "resolved")) ∧
      (spec.fromStatus = none → spec.requiredAttachments = false) ∧
      (spec.toStatus = "resolved" → "resolution_note" ∈ spec.requiredFields) := by decide
  refine Run.exec_inv_all (I := fun t : Taxonomy => ∀ r ∈ t.rules, Guarded r)
    (fun t x h r hr => ?_) (fun r hr => by cases hr)
  rcases mem_ensureAll hr with hr | ⟨r, hr, -, rfl⟩
  · exact h r hr
  · obtain ⟨⟨code, specs⟩, hp, hr⟩ := List.mem_flatMap.mp hr
    dsimp only at hr
    split at hr
    · obtain ⟨spec, hspec, rfl⟩ := List.mem_map.mp hr
      obtain ⟨⟨hentry, hlater, hclosing⟩, hunattached, hnote⟩ := hspecs _ hp spec hspec
      exact ⟨⟨hentry, hlater, hclosing⟩, hunattached, hnote⟩
    · cases hr

theorem consistent_guarded {taxonomy : Taxonomy} (hrules : ∀ r ∈ taxonomy.rules, Guarded r)
    (clock : Instant) (ms : List (Nat × Action)) :
    Consistent (govRun taxonomy clock ms).store ∧
      (govRun taxonomy clock ms).store.db.taxonomy = taxonomy := by
  have hstart : Holds (fun s => Consistent s ∧ s.db.taxonomy = taxonomy) PartySound
      (govStart taxonomy clock) :=
    ⟨⟨⟨fun c hc => absurd hc (Table.not_mem_empty c),
      fun t ht => absurd ht (Table.not_mem_empty t)⟩, rfl⟩, fun _ => trivial⟩
  refine (holds_run_all ?_ ?_ hstart).store
  · intro c i act s p hI hturn
    have hstep := govStep_of_turn hturn
    obtain ⟨hconsistent, hparty⟩ := consistent_step hI.store.1 (hI.party i) hstep fun d r rule n _ hp => by
      have hsound := hI.party i
      rw [hp] at hsound
      exact (hrules rule (hI.store.2 ▸ hsound.1)).unattached hsound.2.fromStatus
    exact ⟨⟨hconsistent, hstep.taxonomy.trans hI.store.2⟩, hparty⟩
  · intro c i act s p hI hturn j hj
    refine partySound_of_leaves (hI.party j) ((govStep_of_turn hturn).leaves hj ?_)
    intro r case rule hp
    have hparty := hI.party i
    rw [hp] at hparty
    exact hparty.1.lock

section Path

variable {first t : CaseTransition} {history : List CaseTransition}

theorem sublist_laterStatuses
    (hlinked : (first :: history).IsChain fun t t' => t'.fromStatus = some t.toStatus)
    (hforward : ∀ t ∈ history, Forward t.fromStatus t.toStatus) :
    (history.map (·.toStatus)).Sublist (laterStatuses first.toStatus) := by
  induction history generalizing first with
  | nil => exact List.nil_sublist _
  | cons t history ih =>
    obtain ⟨hstep, hlinked⟩ := List.isChain_cons_cons.mp hlinked
    have hlater := (hforward t List.mem_cons_self).later first.toStatus hstep
    exact ((ih hlinked fun u hu => hforward u (List.mem_cons_of_mem _ hu)).cons_cons _).trans hlater

theorem exists_before
    (hlinked : (first :: history).IsChain fun t t' => t'.fromStatus = some t.toStatus)
    (ht : t ∈ history) : ∃ u ∈ first :: history, t.fromStatus = some u.toStatus := by
  induction history generalizing first with
  | nil => cases ht
  | cons u history ih =>
    obtain ⟨hstep, hlinked⟩ := List.isChain_cons_cons.mp hlinked
    rcases List.mem_cons.mp ht with rfl | ht
    · exact ⟨first, List.mem_cons_self, hstep⟩
    · obtain ⟨v, hv, hfrom⟩ := ih hlinked ht
      exact ⟨v, List.mem_cons_of_mem _ hv, hfrom⟩

end Path

/-- Whatever tenants are set up, however their cases are opened and moved at the same time: a case
goes through the statuses in their order, each at most once, and one that is closed was resolved
before, with a note. -/
theorem cases_resolved (tenants : List UUID) (clock : Instant) (ms : List (Nat × Action)) :
    let s := (govRun (bootstraps {} tenants) clock ms).store
    ∀ c ∈ s.db.cases,
      ((s.db.history c.id).map (·.toStatus)).Sublist caseStatuses ∧
      ((s.db.history c.id).map (·.toStatus)).getLast? = some c.status ∧
      (c.status = "closed" → ∃ t ∈ s.db.history c.id, t.toStatus = "resolved" ∧
        (Json.get? t.payload "resolution_note").any Json.truthy = true) := by
  intro s c hc
  obtain ⟨hconsistent, htaxonomy⟩ := consistent_guarded (guarded_bootstraps tenants) clock ms
  obtain ⟨hfirst, hlinked, hlast⟩ := hconsistent.chained c hc
  have hrule : ∀ t ∈ s.db.history c.id, Forward t.fromStatus t.toStatus ∧
      (t.toStatus = "resolved" → (Json.get? t.payload "resolution_note").any Json.truthy = true) := by
    intro t ht
    obtain ⟨case, -, -, rule, hmem, hallows, -⟩ := hconsistent.taken t (List.mem_filter.mp ht).1
    obtain ⟨hforward, -, hnote⟩ := guarded_bootstraps tenants rule (htaxonomy ▸ hmem)
    rw [hallows.fromStatus, hallows.toStatus] at hforward
    exact ⟨hforward, fun h => hallows.fields _ (hnote (hallows.toStatus.trans h))⟩
  revert hfirst hlinked hlast hrule
  generalize s.db.history c.id = history
  intro hfirst hlinked hlast hrule
  cases history with
  | nil => cases hlast
  | cons first history =>
    have hnone : first.fromStatus = none := hfirst first rfl
    have hopen : first.toStatus = "open" := (hrule first List.mem_cons_self).1.entry hnone
    have hpath := sublist_laterStatuses hlinked fun t ht => (hrule t (List.mem_cons_of_mem _ ht)).1
    refine ⟨?_, List.getLast?_map.trans hlast, fun hclosed => ?_⟩
    · rw [List.map_cons, hopen]
      rw [hopen] at hpath
      exact hpath.cons_cons _
    · obtain ⟨last, hmem, hstatus⟩ := Option.map_eq_some_iff.mp hlast
      have hlastMem := List.mem_of_getLast? hmem
      have hfrom := (hrule last hlastMem).1.closing (hstatus.trans hclosed)
      have htail : last ∈ history := by
        rcases List.mem_cons.mp hlastMem with rfl | h
        · rw [hnone] at hfrom
          cases hfrom
        · exact h
      obtain ⟨t, ht, hto⟩ := exists_before hlinked htail
      have hresolved : t.toStatus = "resolved" := Option.some.inj (hto.symm.trans hfrom)
      exact ⟨t, ht, hresolved, (hrule t ht).2 hresolved⟩

end Governance
end Rotas
