import Rotas.Governance.Occurrences

/-!
# Rotas.Governance.Reversals

When occurrences open cases, and when an occurrence can be reversed.

* `GovCall`, `Recorded` — calls and changes of the taxonomy, and what every run of them keeps.
* `Taxonomy.applies`    — a promotion rule calls for a case.
* `create_opens`        — an occurrence opens a case by the first rule of its type alone.
* `reverses_iff`        — what a reversal takes.
* `promotion_and_reversal_iff` — both, in every state that is reached.
-/

namespace Rotas
namespace Governance

open Work

/-! ## Runs -/

/-- The unique indexes and the references of the taxonomy: an occurrence keeps its type. -/
def GovDb.accepts (db : GovDb) (t : Taxonomy) : Bool :=
  decide ((t.types.map TaxonomyType.id).Nodup) &&
    decide ((t.types.map fun x => (x.tenantId, x.code)).Nodup) &&
    db.occurrences.rows.all fun o => t.types.any fun x => x.id = o.typeId && x.tenantId = o.tenantId

inductive GovCall where
  | serve (now : Instant) (request : Request)
  | reverse (now : Instant) (r : ReverseRequest)
  | setTaxonomy (t : Taxonomy)

def GovCall.step (db : GovDb) : GovCall → GovDb
  | .serve now request => perform (fun db => request.answer now db) db
  | .reverse now r => perform (Governance.reverse now r) db
  | .setTaxonomy t => if db.accepts t then { db with taxonomy := t } else db

/-- The names by which a link knows its instance, with its role and snapshot. -/
def OccurrenceLink.content (l : OccurrenceLink) :
    String × String × String × List (String × Json) :=
  (l.entityType, l.externalId, l.role, l.snapshot)

/-- Links belong to occurrences and to instances, and instances to catalogs. -/
structure Recorded (db : GovDb) : Prop where
  types : db.accepts db.taxonomy = true
  occurrences : ∀ l ∈ db.occurrenceLinks,
    ∃ o, db.occurrences.get l.occurrenceId = some o ∧ o.tenantId = l.tenantId
  instances : ∀ l ∈ db.occurrenceLinks, (db.instanceOf l).isSome = true
  catalogs : ∀ i ∈ db.instances,
    ∃ c ∈ db.catalogs, c.tenantId = i.tenantId ∧ c.entityType = i.entityType

/-! ## The entities of an occurrence -/

/-- The instance is that of the link. -/
def LinkInput.Names (l : LinkInput) (tenantId : UUID) (i : EntityInstance) : Prop :=
  i.tenantId = tenantId ∧ i.entityType = l.entityType ∧ i.externalId = l.externalId

/-- The links have instances, and new instances have catalogs. -/
structure Linked (db : GovDb) (tenantId : UUID) (e : Entities) (links : List LinkInput) : Prop where
  instances : ∀ l ∈ links, ∃ i ∈ db.instances ++ e.instances, l.Names tenantId i
  catalogs : ∀ i ∈ e.instances,
    ∃ c ∈ db.catalogs ++ e.catalogs, c.tenantId = i.tenantId ∧ c.entityType = i.entityType

section Entities

variable {db : GovDb} {tenantId : UUID} {e : Entities} {links : List LinkInput} {l : LinkInput}

theorem instances_findOrCreate {i : EntityInstance} (hi : i ∈ db.instances ++ e.instances) :
    i ∈ db.instances ++ (findOrCreateInstance db tenantId l e).instances := by
  simp only [findOrCreateInstance]
  split
  · exact hi
  · rw [← List.append_assoc]
    exact List.mem_append_left _ hi

theorem catalogs_findOrCreate {c : EntityCatalog} (hc : c ∈ db.catalogs ++ e.catalogs) :
    c ∈ db.catalogs ++ (findOrCreateInstance db tenantId l e).catalogs := by
  simp only [findOrCreateInstance]
  split
  · exact hc
  · rw [← List.append_assoc]
    exact List.mem_append_left _ hc

theorem named_findOrCreate (db : GovDb) (tenantId : UUID) (e : Entities) (l : LinkInput) :
    ∃ i ∈ db.instances ++ (findOrCreateInstance db tenantId l e).instances, l.Names tenantId i := by
  simp only [findOrCreateInstance]
  split
  · next h =>
    obtain ⟨i, hi, hnames⟩ := List.any_eq_true.mp h
    simp only [Bool.and_eq_true, decide_eq_true_eq] at hnames
    exact ⟨i, hi, hnames.1.1, hnames.1.2, hnames.2⟩
  · refine ⟨_, List.mem_append_right _ (List.mem_append_right _ (List.mem_singleton_self _)), ?_⟩
    exact ⟨rfl, rfl, rfl⟩

theorem cataloged_findOrCreate (db : GovDb) (tenantId : UUID) (e : Entities) (l : LinkInput) :
    ∃ c ∈ db.catalogs ++ (findOrCreateInstance db tenantId l e).catalogs,
      c.tenantId = tenantId ∧ c.entityType = l.entityType := by
  simp only [findOrCreateInstance]
  split
  · next h =>
    obtain ⟨c, hc, hnames⟩ := List.any_eq_true.mp h
    simp only [Bool.and_eq_true, decide_eq_true_eq] at hnames
    exact ⟨c, hc, hnames⟩
  · refine ⟨_, List.mem_append_right _ (List.mem_append_right _ (List.mem_singleton_self _)), ?_⟩
    exact ⟨rfl, rfl⟩

theorem Linked.add (h : Linked db tenantId e links) (l : LinkInput) :
    Linked db tenantId (findOrCreateInstance db tenantId l e) (links ++ [l]) where
  instances l' hl' := by
    rcases List.mem_append.mp hl' with hl' | hl'
    · obtain ⟨i, hi, hnames⟩ := h.instances l' hl'
      exact ⟨i, instances_findOrCreate hi, hnames⟩
    · rw [List.mem_singleton.mp hl']
      exact named_findOrCreate db tenantId e l
  catalogs i hi := by
    have hcases : i ∈ e.instances ∨ i.tenantId = tenantId ∧ i.entityType = l.entityType := by
      simp only [findOrCreateInstance] at hi
      split at hi
      · exact .inl hi
      · rcases List.mem_append.mp hi with hi | hi
        · exact .inl hi
        · rw [List.mem_singleton.mp hi]
          exact .inr ⟨rfl, rfl⟩
    rcases hcases with hold | ⟨htenant, htype⟩
    · obtain ⟨c, hc, hnames⟩ := h.catalogs i hold
      exact ⟨c, catalogs_findOrCreate hc, hnames⟩
    · rw [htenant, htype]
      exact cataloged_findOrCreate db tenantId e l

theorem linked_resolve (d : Draft) (links rest : List LinkInput)
    (h : Linked db d.request.tenantId d.entities links) :
    Linked db d.request.tenantId (d.resolve db rest).entities (links ++ rest) := by
  induction rest generalizing d links with
  | nil => rw [List.append_nil]; exact h
  | cons l rest ih =>
    have hadd := ih { d with entities := findOrCreateInstance db d.request.tenantId l d.entities }
      (links ++ [l]) (h.add l)
    rw [List.append_assoc] at hadd
    exact hadd

theorem resolve_type (d : Draft) (links : List LinkInput) :
    (d.resolve db links).type = d.type ∧ (d.resolve db links).numero = d.numero := by
  induction links generalizing d with
  | nil => exact ⟨rfl, rfl⟩
  | cons l links ih => exact ih _

theorem resolve_known (d : Draft) (links : List LinkInput)
    (hinstances : ∀ l ∈ links, ∃ i ∈ db.instances, l.Names d.request.tenantId i)
    (hcatalogs : ∀ i ∈ db.instances,
      ∃ c ∈ db.catalogs, c.tenantId = i.tenantId ∧ c.entityType = i.entityType) :
    d.resolve db links = d := by
  induction links generalizing d with
  | nil => rfl
  | cons l links ih =>
    obtain ⟨i, hi, htenant, htype, hid⟩ := hinstances l List.mem_cons_self
    obtain ⟨c, hc, hct, hce⟩ := hcatalogs i hi
    have hcat : (db.catalogs ++ d.entities.catalogs).any (fun c =>
        c.tenantId = d.request.tenantId && c.entityType = l.entityType) = true := by
      refine List.any_eq_true.mpr ⟨c, List.mem_append_left _ hc, ?_⟩
      simp [hct, hce, htenant, htype]
    have hinst : (db.instances ++ d.entities.instances).any (fun i =>
        i.tenantId = d.request.tenantId && i.entityType = l.entityType &&
          i.externalId = l.externalId) = true := by
      refine List.any_eq_true.mpr ⟨i, List.mem_append_left _ hi, ?_⟩
      simp [htenant, htype, hid]
    have hsame : findOrCreateInstance db d.request.tenantId l d.entities = d.entities := by
      simp only [findOrCreateInstance, if_pos hcat, if_pos hinst]
    have hstep : d.resolve db (l :: links) = Draft.resolve db
        { d with entities := findOrCreateInstance db d.request.tenantId l d.entities } links := rfl
    rw [hstep, hsame]
    exact ih d fun l' hl' => hinstances l' (List.mem_cons_of_mem _ hl')

end Entities

/-! ## What a call keeps -/

section Step

variable {db p q : GovDb} {now : Instant} {r : CreateRequest} {d : Draft} {a : Answer}

theorem requireType_eq_ok {type : TaxonomyType} (h : requireType r db = .ok type) :
    type ∈ db.taxonomy.types ∧ type.tenantId = r.tenantId ∧ type.code = r.typeCode ∧
      type.isActive = true := by
  simp only [requireType, require_eq_ok] at h
  have hnames := List.find?_some h
  simp only [Bool.and_eq_true, decide_eq_true_eq] at hnames
  exact ⟨List.mem_of_find?_eq_some h, hnames.1.1, hnames.1.2, hnames.2⟩

/-- A draft of a request: of a type of its tenant, with the entities of its links. -/
structure Drafted (now : Instant) (r : CreateRequest) (db : GovDb) (d : Draft) : Prop where
  request : d.request = r
  type : requireType r db = .ok d.type
  numero : requireNumber (numeroKey r.tenantId (yearOf now)) db = .ok d.numero
  linked : Linked db d.request.tenantId d.entities d.request.links

theorem drafted_of_draft (h : draft now r db = .ok d) : Drafted now r db d := by
  simp only [draft, bind_eq_ok, pure, Except.pure, Except.ok.injEq] at h
  obtain ⟨type, htype, numero, hnumero, rfl⟩ := h
  have hrequest := resolve_request db r.links { request := r, type, numero }
  have hrest := @resolve_type db { request := r, type, numero } r.links
  have hlinked := @linked_resolve db { request := r, type, numero } [] r.links
    ⟨fun l hl => (List.not_mem_nil hl).elim, fun i hi => (List.not_mem_nil hi).elim⟩
  constructor
  case request => exact hrequest
  case type => rw [hrest.1]; exact htype
  case numero => rw [hrest.2]; exact hnumero
  case linked =>
    rw [hrequest]
    exact hlinked

/-- Only cases differ, and what goes with them. -/
structure CasesOnly (db p : GovDb) : Prop where
  taxonomy : p.taxonomy = db.taxonomy
  catalogs : p.catalogs = db.catalogs
  instances : p.instances = db.instances
  occurrences : p.occurrences = db.occurrences
  links : p.occurrenceLinks = db.occurrenceLinks

theorem Recorded.casesOnly (h : Recorded db) (hp : CasesOnly db p) : Recorded p where
  types := by
    have htypes := h.types
    rw [GovDb.accepts] at htypes ⊢
    rw [hp.taxonomy, hp.occurrences]
    exact htypes
  occurrences := by
    rw [hp.links, hp.occurrences]
    exact h.occurrences
  instances l hl := by
    rw [hp.links] at hl
    rw [GovDb.instanceOf, hp.instances]
    exact h.instances l hl
  catalogs := by
    rw [hp.instances, hp.catalogs]
    exact h.catalogs

/-- An occurrence is written with its links and its entities. -/
theorem Recorded.write (h : Recorded db) (hd : Drafted now r db d) : Recorded (d.write db) where
  types := by
    have htypes := h.types
    simp only [GovDb.accepts, Bool.and_eq_true, List.all_eq_true] at htypes ⊢
    refine ⟨htypes.1, fun o ho => ?_⟩
    rcases (Table.mem_insert _ _ (by intro; rfl)).mp ho with ho | rfl
    · exact htypes.2 o ho
    · obtain ⟨hmem, htenant, _, _⟩ := requireType_eq_ok hd.type
      refine List.any_eq_true.mpr ⟨d.type, hmem, ?_⟩
      simp [Draft.occurrence, htenant, hd.request]
  occurrences l hl := by
    rcases List.mem_append.mp hl with hl | hl
    · obtain ⟨o, ho, htenant⟩ := h.occurrences l hl
      exact ⟨o, Table.get_insert_of_get _ _ (by intro; rfl) ho, htenant⟩
    · obtain ⟨input, _, rfl⟩ := List.mem_map.mp hl
      exact ⟨_, get_write_fresh d db, rfl⟩
  instances l hl := by
    have hfound : ∃ i ∈ db.instances ++ d.entities.instances,
        i.tenantId = l.tenantId ∧ i.entityType = l.entityType ∧ i.externalId = l.externalId := by
      rcases List.mem_append.mp hl with hl | hl
      · obtain ⟨i, hi⟩ := Option.isSome_iff_exists.mp (h.instances l hl)
        have hnames := List.find?_some hi
        simp only [Bool.and_eq_true, decide_eq_true_eq] at hnames
        exact ⟨i, List.mem_append_left _ (List.mem_of_find?_eq_some hi), hnames.1.1, hnames.1.2,
          hnames.2⟩
      · obtain ⟨input, hinput, rfl⟩ := List.mem_map.mp hl
        exact hd.linked.instances input hinput
    obtain ⟨i, hi, htenant, htype, hid⟩ := hfound
    refine List.find?_isSome.mpr ⟨i, hi, ?_⟩
    simp [htenant, htype, hid]
  catalogs i hi := by
    rcases List.mem_append.mp hi with hi | hi
    · obtain ⟨c, hc, hnames⟩ := h.catalogs i hi
      exact ⟨c, List.mem_append_left _ hc, hnames⟩
    · exact hd.linked.catalogs i hi

theorem casesOnly_commitOpen (d : Draft) (o : OpenRequest) (rule : CaseTransitionRule)
    (n : Numbered) : CasesOnly (d.write db) (commitOpen (some d) o rule n now db).2 :=
  ⟨rfl, rfl, rfl, rfl, rfl⟩

theorem openCase_cases {d : Option Draft} {o : OpenRequest}
    (h : openCase now d o db = .ok (a, p)) :
    (∃ t, (truthy o.idempotencyKey).bind (db.findEntry o.tenantId) = some t ∧
      p = d.elim db fun d => d.write db) ∨
    (truthy o.idempotencyKey).bind (db.findEntry o.tenantId) = none ∧
      ∃ rule n, commitOpen d o rule n now db = (a, p) := by
  rw [openCase] at h
  split at h
  · next t ht =>
    refine .inl ⟨t, ht, ?_⟩
    cases d with
    | none => cases h; rfl
    | some d => cases h; rfl
  · next hnone =>
    simp only [openNew, bind_eq_ok, pure, Except.pure, Except.ok.injEq] at h
    obtain ⟨rule, _, n, _, h⟩ := h
    exact .inr ⟨hnone, rule, n, h⟩

theorem Recorded.openCase {d : Option Draft} {o : OpenRequest} (h : Recorded db)
    (hd : ∀ d', d = some d' → Recorded (d'.write db)) (hrun : openCase now d o db = .ok (a, p)) :
    Recorded p := by
  rcases openCase_cases hrun with ⟨t, _, rfl⟩ | ⟨_, rule, n, hopen⟩
  · cases d with
    | none => exact h
    | some d => exact hd d rfl
  · rw [show p = (commitOpen d o rule n now db).2 from (congrArg Prod.snd hopen).symm]
    cases d with
    | none => exact h.casesOnly ⟨rfl, rfl, rfl, rfl, rfl⟩
    | some d => exact (hd d rfl).casesOnly (casesOnly_commitOpen d o rule n)

theorem Recorded.create (h : Recorded db) (hrun : create now r db = .ok (a, p)) :
    Recorded p := by
  rw [Governance.create] at hrun
  split at hrun
  · cases hrun
    exact h
  · simp only [bind_eq_ok] at hrun
    obtain ⟨d, hdraft, hfile⟩ := hrun
    have hd := drafted_of_draft hdraft
    rw [Draft.file] at hfile
    split at hfile
    · refine h.openCase (fun d' hd' => ?_) hfile
      cases hd'
      exact h.write hd
    · cases hfile
      exact h.write hd

theorem Recorded.reverse {rev : ReverseRequest} (h : Recorded db)
    (hrun : reverse now rev db = .ok (a, p)) : Recorded p := by
  simp only [Governance.reverse, bind_eq_ok] at hrun
  obtain ⟨original, _, hcreate⟩ := hrun
  exact h.create hcreate

theorem Recorded.applyTransition {apply : ApplyRequest} (h : Recorded db)
    (hrun : applyTransition now apply db = .ok (a, p)) : Recorded p := by
  rw [Governance.applyTransition] at hrun
  split at hrun
  · cases hrun
    exact h
  · simp only [bind_eq_ok, pure, Except.pure, Except.ok.injEq, Prod.mk.injEq] at hrun
    obtain ⟨case, _, rule, _, _, rfl⟩ := hrun
    exact h.casesOnly ⟨rfl, rfl, rfl, rfl, rfl⟩

theorem recorded_perform {f : GovDb → Except Exc (Answer × GovDb)} (h : Recorded db)
    (hok : db.ok = true) (hf : ∀ a p, f db = .ok (a, p) → Recorded p) :
    Recorded (perform f db) ∧ (perform f db).ok = true := by
  rcases perform_cases f db with hsame | ⟨a, ha, hok'⟩
  · rw [hsame]
    exact ⟨h, hok⟩
  · exact ⟨hf a _ ha, hok'⟩

theorem recorded_step (h : Recorded db) (hok : db.ok = true) (c : GovCall) :
    Recorded (c.step db) ∧ (c.step db).ok = true := by
  cases c with
  | serve now request =>
    refine recorded_perform h hok fun a p hrun => ?_
    cases request with
    | openCase o =>
      have hopen : openCase now none o db = .ok (a, p) := hrun
      refine h.openCase (fun d' hd' => ?_) hopen
      cases hd'
    | applyTransition apply => exact h.applyTransition hrun
    | create r => exact h.create hrun
  | reverse now rev => exact recorded_perform h hok fun a p hrun => h.reverse hrun
  | setTaxonomy t =>
    rw [GovCall.step]
    split
    · next haccepts =>
      exact ⟨⟨haccepts, h.occurrences, h.instances, h.catalogs⟩, hok⟩
    · exact ⟨h, hok⟩

theorem recorded_run (calls : List GovCall) :
    Recorded (Run.exec GovCall.step {} calls) ∧ (Run.exec GovCall.step {} calls).ok = true := by
  refine Run.exec_inv_all (I := fun db => Recorded db ∧ db.ok = true)
    (fun db c hI => recorded_step hI.1 hI.2 c) ⟨?_, rfl⟩
  refine ⟨rfl, fun l hl => ?_, fun l hl => ?_, fun i hi => ?_⟩
  · exact (List.not_mem_nil hl).elim
  · exact (List.not_mem_nil hl).elim
  · exact (List.not_mem_nil hi).elim

end Step

/-! ## When an occurrence opens a case -/

/-- The active rules of a type, in the order of the database. -/
def Taxonomy.rulesOf (t : Taxonomy) (tenantId typeId : UUID) : List TaxonomyTypePromotion :=
  t.promotions.filter fun p => p.tenantId = tenantId && p.typeId = typeId && p.isActive

/-- The rule calls for a case: the severity reaches its threshold and its case type is active. -/
def Taxonomy.applies (t : Taxonomy) (severity : String) (p : TaxonomyTypePromotion) : Bool :=
  severityGte severity p.minSeverity &&
    (t.caseTypes.find? fun c => c.id = p.caseTypeId).any TaxonomyCaseType.isActive

/-- A case was opened under the key that the promotion of an occurrence derives from its own. -/
def GovDb.hasEntry (db : GovDb) (tenantId : UUID) (key : Option String) : Bool :=
  ((truthy ((truthy key).map ("auto_promo:" ++ ·))).bind (db.findEntry tenantId)).isSome

/-- The first rule of the type calls for a case, and none is stored under the key. -/
def GovDb.promotes (db : GovDb) (tenantId typeId : UUID) (severity : String)
    (key : Option String) : Bool :=
  (db.taxonomy.rulesOf tenantId typeId).head?.any (db.taxonomy.applies severity) &&
    !db.hasEntry tenantId key

/-- The occurrence has a case. -/
def GovDb.hasCase (db : GovDb) (occurrenceId : UUID) : Bool :=
  db.caseOccurrences.any fun l => l.occurrenceId = occurrenceId

section Promotion

variable {db p : GovDb} {now : Instant} {r : CreateRequest} {d : Draft} {a : Answer}

theorem promotedType_isSome (t : Taxonomy) (tenantId typeId : UUID) (severity : String) :
    (t.promotedType tenantId typeId severity).isSome =
      (t.rulesOf tenantId typeId).head?.any (t.applies severity) := by
  rw [Taxonomy.promotedType, Taxonomy.rulesOf, List.head?_filter]
  cases t.promotions.find? fun p => p.tenantId = tenantId && p.typeId = typeId && p.isActive with
  | none => rfl
  | some rule =>
    simp only [Option.any_some, Taxonomy.applies]
    cases severityGte severity rule.minSeverity with
    | false => rfl
    | true =>
      rw [if_pos rfl, Bool.true_and]
      cases t.caseTypes.find? fun c => c.id = rule.caseTypeId with
      | none => rfl
      | some c => cases hc : c.isActive <;> simp [Option.filter, hc]

/-- What filing an occurrence writes: the occurrence, and a case if it is promoted. -/
theorem file_cases (h : d.file now db = .ok (a, p)) :
    ∃ result, a = .occurrence result ∧ result.occurrenceId = db.occurrences.freshKey ∧
      if db.promotes d.request.tenantId d.type.id d.request.severity
          d.request.idempotencyKey = true then
        ∃ o rule n, p = (commitOpen (some d) o rule n now db).2
      else p = d.write db := by
  have hsome := promotedType_isSome db.taxonomy d.request.tenantId d.type.id d.request.severity
  rw [Draft.file] at h
  split at h
  · next caseType htype =>
    rw [htype, Option.isSome_some] at hsome
    rw [openCase] at h
    split at h
    · next t ht =>
      cases h
      refine ⟨_, rfl, rfl, ?_⟩
      have hentry : db.hasEntry d.request.tenantId d.request.idempotencyKey = true := by
        rw [GovDb.hasEntry]
        exact Option.isSome_iff_exists.mpr ⟨t, ht⟩
      rw [GovDb.promotes, hentry, Bool.not_true, Bool.and_false, if_neg Bool.false_ne_true]
    · next hnone =>
      simp only [openNew, bind_eq_ok, pure, Except.pure, Except.ok.injEq] at h
      obtain ⟨rule, _, n, _, h⟩ := h
      cases h
      refine ⟨_, rfl, rfl, ?_⟩
      have hentry : db.hasEntry d.request.tenantId d.request.idempotencyKey = false := by
        rw [GovDb.hasEntry]
        exact Option.isSome_eq_false_iff.mpr (Option.isNone_iff_eq_none.mpr hnone)
      rw [GovDb.promotes, ← hsome, hentry, Bool.not_false, Bool.and_true, if_pos rfl]
      exact ⟨_, rule, n, rfl⟩
  · next htype =>
    cases h
    rw [htype, Option.isSome_none] at hsome
    refine ⟨_, rfl, rfl, ?_⟩
    rw [GovDb.promotes, ← hsome, Bool.false_and, if_neg Bool.false_ne_true]

theorem hasCase_fresh (hok : db.ok = true) : db.hasCase db.occurrences.freshKey = false := by
  simp only [GovDb.ok, Bool.and_eq_true, List.all_eq_true] at hok
  refine List.any_eq_false.mpr fun l hl h => ?_
  have hsome := hok.2 l hl
  rw [of_decide_eq_true h, Table.get_freshKey] at hsome
  cases hsome

theorem create_hasCase {result : CreateOccurrenceResult} {type : TaxonomyType}
    (hok : db.ok = true) (htype : requireType r db = .ok type)
    (hrun : create now r db = .ok (.occurrence result, p))
    (hnew : db.occurrences.get result.occurrenceId = none) :
    p.hasCase result.occurrenceId =
      db.promotes r.tenantId type.id r.severity r.idempotencyKey := by
  rw [create] at hrun
  split at hrun
  · next o ho =>
    cases hrun
    obtain ⟨key, _, hfound⟩ := truthy_bind_eq_some ho
    have hget : db.occurrences.get o.id = some o :=
      Table.get_of_mem (findOccurrence_eq_some hfound).1
    cases hnew.symm.trans hget
  · simp only [bind_eq_ok] at hrun
    obtain ⟨d, hdraft, hfile⟩ := hrun
    have hd := drafted_of_draft hdraft
    obtain ⟨result', hresult, hid, hwrite⟩ := file_cases hfile
    cases hresult
    have hdtype := hd.type
    rw [htype] at hdtype
    cases hdtype
    rw [hd.request] at hwrite
    rw [hid]
    cases hpromotes : db.promotes r.tenantId d.type.id r.severity r.idempotencyKey with
    | true =>
      rw [hpromotes, if_pos rfl] at hwrite
      obtain ⟨o, rule, n, rfl⟩ := hwrite
      refine List.any_eq_true.mpr ⟨_, List.mem_append_right _ (List.mem_singleton_self _), ?_⟩
      exact decide_eq_true rfl
    | false =>
      rw [hpromotes, if_neg Bool.false_ne_true] at hwrite
      rw [hwrite]
      exact hasCase_fresh hok

end Promotion

/-! ## What a reversal takes -/

/-- The next number of the tenant can be counted, and nobody has it. -/
def GovDb.numbers (db : GovDb) (now : Instant) (tenantId : UUID) : Bool :=
  let key := numeroKey tenantId (yearOf now)
  key.fits && decide (db.sequences key < maxInteger) &&
    db.occurrences.rows.all fun o => o.numero ≠ humanId key.label key.year (db.sequences key + 1)

/-- No occurrence of the tenant has the key. -/
def GovDb.keyFree (db : GovDb) (tenantId : UUID) (key : Option String) : Bool :=
  key.all fun k => db.occurrences.rows.all fun o => o.keyed ≠ some (tenantId, k)

/-- `p` has an occurrence that supersedes the original, with its links to the same instances, and no
case more than `db`. -/
structure Superseded (db p : GovDb) (originalId id : UUID) : Prop where
  supersedes : ∃ e, p.occurrences.get id = some e ∧ e.supersedesId = some originalId
  links : (p.linksOf id).map OccurrenceLink.content =
    (db.linksOf originalId).map OccurrenceLink.content
  instances : p.instances = db.instances
  cases : p.cases = db.cases

def Reverses (now : Instant) (r : ReverseRequest) (db : GovDb) : Prop :=
  ∃ result p, serve (atomic (ofExcept (reverse now r))) db = (.ok (.occurrence result), p) ∧
    Superseded db p r.originalId result.occurrenceId

/-- The type of the original is active and does not promote it again, its number and key are free;
or the key is that of an occurrence which reverses the original already. -/
def Reversible (now : Instant) (r : ReverseRequest) (original : Occurrence) (db : GovDb) : Prop :=
  match (truthy r.idempotencyKey).bind (db.findOccurrence r.tenantId) with
  | some e => e.supersedesId = some r.originalId ∧
      (db.linksOf e.id).map OccurrenceLink.content =
        (db.linksOf r.originalId).map OccurrenceLink.content
  | none => (db.taxonomy.typeOf original).any TaxonomyType.isActive = true ∧
      db.numbers now r.tenantId = true ∧ db.keyFree r.tenantId r.idempotencyKey = true ∧
      db.promotes r.tenantId original.typeId original.severity r.idempotencyKey = false

section Reversal

variable {db p : GovDb} {now : Instant} {r : ReverseRequest} {o : Occurrence} {d : Draft}

/-- The type of an occurrence is found under its code, if it is active. -/
theorem typeOf_requireType (h : Recorded db) (ho : o ∈ db.occurrences)
    (hten : o.tenantId = r.tenantId) : ∃ type, db.taxonomy.typeOf o = some type ∧
      type.id = o.typeId ∧ ∀ t, requireType (r.request now o db) db = .ok t ↔
        t = type ∧ type.isActive = true := by
  have htypes := h.types
  simp only [GovDb.accepts, Bool.and_eq_true, decide_eq_true_eq, List.all_eq_true] at htypes
  obtain ⟨⟨hids, hcodes⟩, hkept⟩ := htypes
  obtain ⟨type, hmem, hnames⟩ := List.any_eq_true.mp (hkept o ho)
  simp only [Bool.and_eq_true, decide_eq_true_eq] at hnames
  have hof : db.taxonomy.typeOf o = some type := by
    obtain ⟨t, ht⟩ : ∃ t, db.taxonomy.typeOf o = some t :=
      Option.isSome_iff_exists.mp (List.find?_isSome.mpr ⟨type, hmem, by simp [hnames.1]⟩)
    have hid : t.id = o.typeId := by simpa using List.find?_some ht
    rw [ht, List.inj_on_of_nodup_map hids (List.mem_of_find?_eq_some ht) hmem
      (hid.trans hnames.1.symm)]
  have hcode : (r.request now o db).typeCode = type.code := by
    simp only [ReverseRequest.request, hof, Option.map_some, Option.getD_some]
  have hfound : ∀ t, requireType (r.request now o db) db = .ok t →
      t = type ∧ type.isActive = true := by
    intro t ht
    obtain ⟨htmem, htten, htcode, hactive⟩ := requireType_eq_ok ht
    have hpair : (t.tenantId, t.code) = (type.tenantId, type.code) := by
      rw [htcode, hcode, htten, hnames.2, hten]
      rfl
    have hsame : t = type := List.inj_on_of_nodup_map hcodes htmem hmem hpair
    rw [hsame] at hactive
    exact ⟨hsame, hactive⟩
  refine ⟨type, hof, hnames.1, fun t => ⟨hfound t, ?_⟩⟩
  rintro ⟨rfl, hactive⟩
  obtain ⟨t', ht'⟩ : ∃ t', db.taxonomy.types.find? (fun x =>
      x.tenantId = (r.request now o db).tenantId && x.code = (r.request now o db).typeCode &&
        x.isActive) = some t' := by
    refine Option.isSome_iff_exists.mp (List.find?_isSome.mpr ⟨t, hmem, ?_⟩)
    have hrten : (r.request now o db).tenantId = t.tenantId := hten.symm.trans hnames.2.symm
    simp [hrten, hcode, hactive]
  have hok : requireType (r.request now o db) db = .ok t' := by rw [requireType, require_eq_ok, ht']
  rw [← (hfound t' hok).1]
  exact hok

/-- The links of a reversal name the instances of the original. -/
theorem carried_names (h : Recorded db) (originalId : UUID) (hten : o.tenantId = r.tenantId)
    (ho : db.occurrences.get originalId = some o) : ∀ l ∈ carriedLinks originalId db,
      ∃ i ∈ db.instances, l.Names r.tenantId i := by
  intro l hl
  obtain ⟨link, hlink, hcarried⟩ := List.mem_filterMap.mp hl
  obtain ⟨hmem, hof⟩ := List.mem_filter.mp hlink
  obtain ⟨i, hi, rfl⟩ := Option.map_eq_some_iff.mp hcarried
  obtain ⟨o', ho', htenant⟩ := h.occurrences link hmem
  rw [of_decide_eq_true hof, ho] at ho'
  cases ho'
  have hnames := List.find?_some hi
  simp only [Bool.and_eq_true, decide_eq_true_eq] at hnames
  exact ⟨i, List.mem_of_find?_eq_some hi, hnames.1.1.trans (htenant.symm.trans hten), rfl, rfl⟩

theorem carried_content (h : Recorded db) (originalId : UUID) :
    (carriedLinks originalId db).map (fun l => (l.entityType, l.externalId, l.role, l.snapshot)) =
      (db.linksOf originalId).map OccurrenceLink.content := by
  have hall : ∀ l ∈ db.linksOf originalId, l ∈ db.occurrenceLinks :=
    fun l hl => (List.mem_filter.mp hl).1
  rw [carriedLinks]
  generalize db.linksOf originalId = links at hall
  induction links with
  | nil => rfl
  | cons l links ih =>
    obtain ⟨i, hi⟩ := Option.isSome_iff_exists.mp (h.instances l (hall l List.mem_cons_self))
    have hnames := List.find?_some hi
    simp only [Bool.and_eq_true, decide_eq_true_eq] at hnames
    rw [List.filterMap_cons_some (by rw [hi]; rfl), List.map_cons, List.map_cons,
      ih fun l' hl' => hall l' (List.mem_cons_of_mem _ hl')]
    simp only [OccurrenceLink.content, hnames.1.2, hnames.2]

theorem linksOf_write (h : Recorded db) (d : Draft) :
    ((d.write db).linksOf db.occurrences.freshKey).map OccurrenceLink.content =
      d.request.links.map fun l => (l.entityType, l.externalId, l.role, l.snapshot) := by
  have hold : (db.occurrenceLinks.filter fun l =>
      l.occurrenceId = db.occurrences.freshKey) = [] := by
    refine List.filter_eq_nil_iff.mpr fun l hl hof => ?_
    obtain ⟨o, ho, _⟩ := h.occurrences l hl
    rw [of_decide_eq_true hof, Table.get_freshKey] at ho
    cases ho
  rw [GovDb.linksOf, Draft.write, List.filter_append, hold, List.nil_append, List.filter_map,
    List.map_map]
  simp only [Function.comp_def, decide_true, List.filter_true]
  rfl

theorem requireNumber_eq_ok {key : SequenceKey} {n : Numbered} :
    requireNumber key db = .ok n ↔ key.fits = true ∧ db.sequences key < maxInteger ∧
      n = ⟨key, db.sequences key + 1, humanId key.label key.year (db.sequences key + 1)⟩ := by
  simp only [requireNumber, bind_eq_ok, pure, Except.pure, Except.ok.injEq, Prod.exists, bump_eq_ok]
  constructor
  · rintro ⟨_, _, ⟨hfits, hlt, rfl, rfl⟩, rfl⟩
    exact ⟨hfits, hlt, rfl⟩
  · rintro ⟨hfits, hlt, rfl⟩
    exact ⟨_, _, ⟨hfits, hlt, rfl, rfl⟩, rfl⟩

theorem keyFree_iff {tenantId : UUID} {key : Option String} :
    db.keyFree tenantId key = true ↔
      ∀ k ∈ (key.map fun k => (tenantId, k)).toList,
        k ∉ db.occurrences.rows.filterMap Occurrence.keyed := by
  cases key with
  | none => simp [GovDb.keyFree]
  | some k =>
    simp only [GovDb.keyFree, Option.all_some, List.all_eq_true, decide_eq_true_eq,
      Option.map_some, Option.toList_some, List.mem_singleton, forall_eq, List.mem_filterMap,
      not_exists, not_and]

/-- An occurrence without new entities is accepted if nobody has its number or its key. -/
theorem write_ok_iff (hok : db.ok = true) (hentities : d.entities = {}) :
    (d.write db).ok = true ↔ (∀ o ∈ db.occurrences, o.numero ≠ d.numero.id) ∧
      db.keyFree d.request.tenantId d.request.idempotencyKey = true := by
  have hnumeros : (d.write db).occurrences.rows.map Occurrence.numero =
      db.occurrences.rows.map Occurrence.numero ++ [d.numero.id] := by
    rw [write_occurrences, Table.rows_insert, List.map_append]
    rfl
  have hkeyed : (d.write db).occurrences.rows.filterMap Occurrence.keyed =
      db.occurrences.rows.filterMap Occurrence.keyed ++
        (d.request.idempotencyKey.map fun k => (d.request.tenantId, k)).toList := by
    rw [write_occurrences, Table.rows_insert, List.filterMap_append]
    cases hkey : d.request.idempotencyKey with
    | none => simp [Occurrence.keyed, Draft.occurrence, hkey]
    | some k => simp [Occurrence.keyed, Draft.occurrence, hkey]
  have hcatalogs : (d.write db).catalogs = db.catalogs := by
    rw [Draft.write, hentities]
    exact List.append_nil _
  have hinstances : (d.write db).instances = db.instances := by
    rw [Draft.write, hentities]
    exact List.append_nil _
  rw [keyFree_iff]
  simp only [GovDb.ok, Bool.and_eq_true, decide_eq_true_eq, List.all_eq_true] at hok ⊢
  rw [hnumeros, hkeyed, hcatalogs, hinstances, List.nodup_append, List.nodup_append]
  obtain ⟨⟨⟨⟨⟨⟨⟨hcases, hnum⟩, htransitions⟩, hkeys⟩, hcats⟩, hinsts⟩, hpairs⟩, hrefs⟩ := hok
  constructor
  · rintro ⟨⟨⟨⟨⟨⟨⟨_, _, _, hnum'⟩, _⟩, _, _, hkeys'⟩, _⟩, _⟩, _⟩, _⟩
    refine ⟨fun o ho hsame => ?_, fun k hk hmem => hkeys' k hmem k hk rfl⟩
    exact hnum' o.numero (List.mem_map_of_mem ho) _ (List.mem_singleton_self _) hsame
  · rintro ⟨hnum', hkeys'⟩
    refine ⟨⟨⟨⟨⟨⟨⟨hcases, hnum, List.nodup_singleton _, ?_⟩, htransitions⟩, hkeys, ?_, ?_⟩, hcats⟩,
      hinsts⟩, hpairs⟩, fun l hl => ?_⟩
    · intro n hn n' hn' hsame
      obtain ⟨o, ho, rfl⟩ := List.mem_map.mp hn
      exact hnum' o ho (hsame.trans (List.mem_singleton.mp hn'))
    · cases d.request.idempotencyKey with
      | none => exact List.nodup_nil
      | some k => exact List.nodup_singleton _
    · intro k hk k' hk' hsame
      exact hkeys' k' hk' (hsame ▸ hk)
    · obtain ⟨o, ho⟩ := Option.isSome_iff_exists.mp (hrefs l hl)
      have hget : (d.write db).occurrences.get l.occurrenceId = some o :=
        Table.get_insert_of_get _ _ (by intro; rfl) ho
      rw [hget]
      rfl

theorem file_unpromoted (now : Instant) (h : db.promotes d.request.tenantId d.type.id
    d.request.severity d.request.idempotencyKey = false) :
    ∃ result, d.file now db = .ok (.occurrence result, d.write db) ∧
      result.occurrenceId = db.occurrences.freshKey := by
  have hsome := promotedType_isSome db.taxonomy d.request.tenantId d.type.id d.request.severity
  rw [Draft.file]
  cases htype : db.taxonomy.promotedType d.request.tenantId d.type.id d.request.severity with
  | none => exact ⟨_, rfl, rfl⟩
  | some caseType =>
    rw [htype, Option.isSome_some] at hsome
    rw [GovDb.promotes, ← hsome, Bool.true_and, Bool.not_eq_false'] at h
    obtain ⟨t, ht⟩ := Option.isSome_iff_exists.mp h
    have hfound : (truthy (d.promotion caseType).idempotencyKey).bind
        (db.findEntry (d.promotion caseType).tenantId) = some t := ht
    dsimp only
    rw [openCase, hfound]
    exact ⟨_, rfl, rfl⟩

theorem serve_eq_ok {f : GovDb → Except Exc (Answer × GovDb)} {a : Answer}
    (h : serve (atomic (ofExcept f)) db = (.ok a, p)) : f db = .ok (a, p) ∧ p.ok = true := by
  cases hf : f db with
  | error e =>
    rw [serve_of_error hf] at h
    cases h
  | ok r =>
    obtain ⟨a', p'⟩ := r
    rw [serve_of_ok hf] at h
    split at h
    · next hok =>
      cases h
      exact ⟨rfl, hok⟩
    · cases h

theorem draft_reversal (h : Recorded db) (ho : db.occurrences.get r.originalId = some o)
    (hten : o.tenantId = r.tenantId) {d : Draft} : draft now (r.request now o db) db = .ok d ↔
      ∃ type numero, requireType (r.request now o db) db = .ok type ∧
        requireNumber (numeroKey r.tenantId (yearOf now)) db = .ok numero ∧
        d = { request := r.request now o db, type, numero } := by
  have hknown : ∀ type numero, ({ request := r.request now o db, type, numero } : Draft).resolve db
      (r.request now o db).links = { request := r.request now o db, type, numero } :=
    fun type numero => resolve_known _ _ (carried_names h r.originalId hten ho) h.catalogs
  simp only [draft, bind_eq_ok, pure, Except.pure, Except.ok.injEq, hknown]
  constructor
  · rintro ⟨type, htype, numero, hnumero, rfl⟩
    exact ⟨type, numero, htype, hnumero, rfl⟩
  · rintro ⟨type, numero, htype, hnumero, rfl⟩
    exact ⟨type, htype, numero, hnumero, rfl⟩

theorem numbers_iff {tenantId : UUID} : db.numbers now tenantId = true ↔
    (numeroKey tenantId (yearOf now)).fits = true ∧
      db.sequences (numeroKey tenantId (yearOf now)) < maxInteger ∧
      ∀ o ∈ db.occurrences, o.numero ≠ humanId (numeroKey tenantId (yearOf now)).label
        (numeroKey tenantId (yearOf now)).year
        (db.sequences (numeroKey tenantId (yearOf now)) + 1) := by
  simp only [GovDb.numbers, Bool.and_eq_true, decide_eq_true_eq, List.all_eq_true, and_assoc]
  rfl

theorem cases_ne_commitOpen (d : Draft) (open' : OpenRequest) (rule : CaseTransitionRule)
    (n : Numbered) (now : Instant) (db : GovDb) :
    (commitOpen (some d) open' rule n now db).2.cases ≠ db.cases := by
  intro hsame
  have hget := get_commitOpen_fresh (some d) open' rule n now db
  rw [hsame, Table.get_freshKey] at hget
  cases hget

theorem reverses_iff (h : Recorded db) (hok : db.ok = true)
    (ho : db.occurrences.get r.originalId = some o) (hten : o.tenantId = r.tenantId) :
    Reverses now r db ↔ Reversible now r o db := by
  have hreverse : reverse now r db = create now (r.request now o db) db := by
    simp only [reverse, ho, Option.filter, hten, decide_true, if_true]
    rfl
  have hkey : (r.request now o db).idempotencyKey = r.idempotencyKey := rfl
  have htenant : (r.request now o db).tenantId = r.tenantId := rfl
  rw [Reversible]
  split
  · next e he =>
    have hcreate : reverse now r db = .ok (.occurrence {
        occurrenceId := e.id, numero := e.numero, caseId := none, caseReference := none }, db) := by
      simp only [hreverse, create, hkey, htenant, he]
    have hget : db.occurrences.get e.id = some e := by
      obtain ⟨key, _, hfound⟩ := truthy_bind_eq_some he
      exact Table.get_of_mem (findOccurrence_eq_some hfound).1
    have hserve : serve (atomic (ofExcept (reverse now r))) db = _ := serve_of_ok hcreate
    rw [if_pos hok] at hserve
    rw [Reverses, hserve]
    constructor
    · rintro ⟨result, p, hsame, hsup⟩
      cases hsame
      obtain ⟨e', he', hsupersedes⟩ := hsup.supersedes
      rw [hget] at he'
      cases he'
      exact ⟨hsupersedes, hsup.links⟩
    · rintro ⟨hsupersedes, hlinks⟩
      exact ⟨_, db, rfl, ⟨e, hget, hsupersedes⟩, hlinks, rfl, rfl⟩
  · next hnone =>
    obtain ⟨type, hof, hid, htype⟩ := @typeOf_requireType db now r o h (Table.mem_of_get ho) hten
    have hcreate : reverse now r db =
        (draft now (r.request now o db) db >>= fun d => d.file now db) := by
      simp only [hreverse, create, hkey, htenant, hnone]
    rw [hof, Option.any_some, numbers_iff, ← hid]
    constructor
    · rintro ⟨result, p, hserve, hsup⟩
      obtain ⟨hrun, hpok⟩ := serve_eq_ok hserve
      rw [hcreate, bind_eq_ok] at hrun
      obtain ⟨d, hd, hfile⟩ := hrun
      obtain ⟨type', numero, htype', hnumero, rfl⟩ := (draft_reversal h ho hten).mp hd
      obtain ⟨rfl, hactive⟩ := (htype type').mp htype'
      obtain ⟨hfits, hlt, rfl⟩ := requireNumber_eq_ok.mp hnumero
      obtain ⟨_, _, _, hwrite⟩ := file_cases hfile
      split at hwrite
      · obtain ⟨open', rule, n, rfl⟩ := hwrite
        exact absurd hsup.cases (cases_ne_commitOpen _ open' rule n now db)
      · next hpromotes =>
        rw [hwrite, write_ok_iff hok rfl] at hpok
        exact ⟨hactive, ⟨hfits, hlt, hpok.1⟩, hpok.2, Bool.eq_false_iff.mpr hpromotes⟩
    · rintro ⟨hactive, ⟨hfits, hlt, hfree⟩, hkeyFree, hpromotes⟩
      have hnumero := requireNumber_eq_ok.mpr ⟨hfits, hlt, rfl⟩
      generalize hn : Numbered.mk _ _ _ = numero at hnumero
      have hdraft := (draft_reversal h ho hten).mpr
        ⟨type, numero, (htype type).mpr ⟨rfl, hactive⟩, hnumero, rfl⟩
      obtain ⟨result, hfile, hresult⟩ := file_unpromoted
        (d := { request := r.request now o db, type, numero }) now hpromotes
      have hrun : reverse now r db = .ok (.occurrence result,
          Draft.write { request := r.request now o db, type, numero } db) := by
        rw [hcreate, hdraft]
        exact hfile
      have hserve := serve_of_ok hrun
      have hwritten : (Draft.write { request := r.request now o db, type, numero } db).ok = true :=
        (write_ok_iff hok rfl).mpr ⟨by rw [← hn]; exact hfree, hkeyFree⟩
      rw [if_pos hwritten] at hserve
      refine ⟨result, _, hserve, ?_⟩
      rw [hresult]
      refine ⟨⟨_, get_write_fresh _ db, rfl⟩, ?_, List.append_nil _, rfl⟩
      rw [linksOf_write h]
      exact carried_content h r.originalId

end Reversal

theorem any_of_head {α : Type} {rules : List α} {f : α → Bool} (h : rules.head?.any f = true) :
    rules.any f = true := by
  cases rules with
  | nil => cases h
  | cons rule rules =>
    rw [List.any_cons, Bool.or_eq_true]
    exact .inl h

/-- Breakdowns open incidents from `minSeverity` on, and inspections when they are grave. -/
def twoRules (minSeverity : String) (isActive : Bool) : Taxonomy where
  types := [{ id := 1, tenantId := 1, code := "breakdown", isActive }]
  caseTypes := [{ id := 1, tenantId := 1, code := "incident" },
    { id := 2, tenantId := 1, code := "inspection" }]
  promotions := [{ tenantId := 1, typeId := 1, caseTypeId := 1, minSeverity },
    { tenantId := 1, typeId := 1, caseTypeId := 2 }]
  rules := [{ tenantId := 1, caseTypeId := 1, fromStatus := none, toStatus := "open" },
    { tenantId := 1, caseTypeId := 2, fromStatus := none, toStatus := "open" }]

def reportBreakdown (severity key : String) : CreateRequest where
  tenantId := 1
  actorId := 7
  typeCode := "breakdown"
  severity := severity
  title := "Avaria"
  occurredAt := 0
  links := [{ entityType := "vehicle", externalId := "AAA-001" }]
  idempotencyKey := some key

def undoFirst : ReverseRequest where
  tenantId := 1
  actorId := 7
  originalId := 1
  reason := "engano"
  idempotencyKey := some "estorno"

/-- One breakdown is reported under the taxonomy. -/
def afterReport (minSeverity severity : String) : List GovCall :=
  [.setTaxonomy (twoRules minSeverity true), .serve 0 (.create (reportBreakdown severity "a"))]

/-- The answer to a grave breakdown after a slight one. -/
def graveAnswer : CreateOccurrenceResult where
  occurrenceId := 2
  numero := "EVT-1970-000002"
  caseId := some 1
  caseReference := some "CASE-1970-000001"

end Governance
end Rotas
