import Rotas.Governance.Replays
import Rotas.Lib.Session

/-!
# Rotas.Governance.Occurrences

The calls of the governance engine, each served on its own, and the reversal of an occurrence.

* `create`, `openCase`, `applyTransition` — the calls, from the first statement to the commit.
* `reverse` — the occurrence that supersedes another one.
* `served_alone` — the turns of a call, with nobody else about, do what the call does.
* `GovCall`, `Recorded` — runs of calls and of changes of the taxonomy, and what they keep.
-/

namespace Rotas
namespace Governance

open Interleave Work

instance : Store GovDb Exc := ⟨GovDb.ok, .integrityError⟩

/-! ## The calls -/

def Draft.resolve (db : GovDb) (d : Draft) (links : List LinkInput) : Draft :=
  links.foldl (fun d l =>
    { d with entities := findOrCreateInstance db d.request.tenantId l d.entities }) d

/-- An occurrence of an active type, with its number and its entities. -/
def draft (now : Instant) (r : CreateRequest) (db : GovDb) : Except Exc Draft := do
  let type ← requireType r db
  let numero ← requireNumber (numeroKey r.tenantId (yearOf now)) db
  return ({ request := r, type, numero } : Draft).resolve db r.links

/-- The rest of `open_case`, when nothing is stored under the key. -/
def openNew (now : Instant) (d : Option Draft) (r : OpenRequest) (db : GovDb) :
    Except Exc (Answer × GovDb) := do
  let rule ← requireEntryRule r db
  let n ← requireNumber (referenceKey r.tenantId (yearOf now)) db
  return commitOpen d r rule n now db

/-- `open_case`, for an occurrence that is not committed yet or on its own. -/
def openCase (now : Instant) (d : Option Draft) (r : OpenRequest) (db : GovDb) :
    Except Exc (Answer × GovDb) :=
  match (truthy r.idempotencyKey).bind (db.findEntry r.tenantId) with
  | some t =>
    .ok (match d with
      | some d => commitFiled d (db.cases.get t.caseId) db
      | none => (.case t.caseId, db))
  | none => openNew now d r db

/-- The occurrence is filed, with a case if its type and severity call for one. -/
def Draft.file (now : Instant) (d : Draft) (db : GovDb) : Except Exc (Answer × GovDb) :=
  match db.taxonomy.promotedType d.request.tenantId d.type.id d.request.severity with
  | some caseType => openCase now (some d) (d.promotion caseType) db
  | none => .ok (commitFiled d none db)

def create (now : Instant) (r : CreateRequest) (db : GovDb) : Except Exc (Answer × GovDb) :=
  match (truthy r.idempotencyKey).bind (db.findOccurrence r.tenantId) with
  | some o => .ok (.occurrence
      { occurrenceId := o.id, numero := o.numero, caseId := none, caseReference := none }, db)
  | none => do
    let d ← draft now r db
    d.file now db

def applyTransition (now : Instant) (r : ApplyRequest) (db : GovDb) :
    Except Exc (Answer × GovDb) :=
  match (truthy r.idempotencyKey).bind (db.findTransition r.tenantId) with
  | some t => .ok (.transition t, db)
  | none => do
    let case ← requireCase r db
    let rule ← requireRule r case db
    return (.transition (r.transition case db.transitions.freshKey), r.write case rule now db)

def Request.answer (now : Instant) (db : GovDb) : Request → Except Exc (Answer × GovDb)
  | .openCase r => Governance.openCase now none r db
  | .applyTransition r => Governance.applyTransition now r db
  | .create r => Governance.create now r db

/-! ## Reversal -/

structure ReverseRequest where
  tenantId : UUID
  actorId : UUID
  originalId : UUID
  reason : String
  idempotencyKey : Option String

/-- The links of an occurrence. -/
def GovDb.linksOf (db : GovDb) (occurrenceId : UUID) : List OccurrenceLink :=
  db.occurrenceLinks.filter (·.occurrenceId = occurrenceId)

def GovDb.instanceOf (db : GovDb) (l : OccurrenceLink) : Option EntityInstance :=
  db.instances.find? fun i => i.tenantId = l.tenantId && i.entityType = l.entityType &&
    i.externalId = l.externalId

/-- The links of the original, with the entities as they are named now. -/
def carriedLinks (originalId : UUID) (db : GovDb) : List LinkInput :=
  (db.linksOf originalId).filterMap fun l => (db.instanceOf l).map fun i =>
    { entityType := i.entityType, externalId := i.externalId, role := l.role
      displayName := i.displayName, snapshot := l.snapshot }

def Taxonomy.typeOf (t : Taxonomy) (o : Occurrence) : Option TaxonomyType :=
  t.types.find? (·.id = o.typeId)

/-- What a reversal asks `create` for. -/
def ReverseRequest.request (r : ReverseRequest) (now : Instant) (original : Occurrence)
    (db : GovDb) : CreateRequest :=
  { tenantId := r.tenantId, actorId := r.actorId
    typeCode := ((db.taxonomy.typeOf original).map TaxonomyType.code).getD ""
    severity := original.severity, title := "[ESTORNO] " ++ original.title
    description := some r.reason, occurredAt := now, links := carriedLinks r.originalId db
    supersedesId := some r.originalId, idempotencyKey := r.idempotencyKey }

def reverse (now : Instant) (r : ReverseRequest) (db : GovDb) : Except Exc (Answer × GovDb) := do
  let original ← require ((db.occurrences.get r.originalId).filter fun o => o.tenantId = r.tenantId)
    (entityNotFound "Occurrence" (toString r.originalId))
  create now (r.request now original db) db

/-! ## A call alone -/

/-- The call ended, with this outcome and this database. -/
structure EndedAs (log : List Ended) (request : Request) (outcome : Except Exc Answer × GovDb)
    (s' : GovStore) : Prop where
  db : s'.db = outcome.2
  log : s'.log = log ++ [⟨request, outcome.1⟩]

section Alone

variable {i : Nat} {s s' : GovStore} {p : Phase} {act : Action} {acts : List Action}

theorem alone_turn (h : govTurn i act s p = some (s', p')) :
    alone govTurn i (s, p) (act :: acts) = alone govTurn i (s', p') acts := by
  rw [Interleave.alone_cons, h]
  rfl

theorem alone_skip (h : govTurn i act s p = none) :
    alone govTurn i (s, p) (act :: acts) = alone govTurn i (s, p) acts := by
  rw [Interleave.alone_cons, h]
  rfl

theorem alone_idle (h : ∀ act ∈ acts, act = .next ∨ act = .commit) :
    alone govTurn i (s, .idle) acts = (s, .idle) := by
  induction acts with
  | nil => rfl
  | cons act acts ih =>
    have hskip : govTurn i act s .idle = none := by
      rcases h act List.mem_cons_self with rfl | rfl <;> rfl
    rw [alone_skip hskip]
    exact ih fun a ha => h a (List.mem_cons_of_mem _ ha)

theorem alone_finish {request : Request} {outcome : Except Exc Answer}
    (h : govTurn i act s p = some (s.finish i request outcome))
    (hacts : ∀ act ∈ acts, act = .next ∨ act = .commit) :
    alone govTurn i (s, p) (act :: acts) = s.finish i request outcome := by
  rw [alone_turn h]
  exact alone_idle hacts

theorem alone_last {c : GovStore × Phase} (h : govTurn i act s p = some c) :
    alone govTurn i (s, p) [act] = c := by
  rw [alone_turn h]
  rfl

theorem alone_linking (links : List LinkInput) (d : Draft) :
    alone govTurn i (s, .linking d links) (links.map (fun _ => .next) ++ acts) =
      alone govTurn i (s, .linking (d.resolve s.db links) []) acts := by
  induction links generalizing d with
  | nil => rfl
  | cons l links ih =>
    rw [List.map_cons, List.cons_append]
    have hturn : govTurn i .next s (.linking d (l :: links)) = some (s, .linking
        { d with entities := findOrCreateInstance s.db d.request.tenantId l d.entities } links) :=
      rfl
    rw [alone_turn hturn, ih]
    rfl

theorem serve_of_ok {f : GovDb → Except Exc (Answer × GovDb)} {db db' : GovDb} {a : Answer}
    (h : f db = .ok (a, db')) : serve (atomic (ofExcept f)) db =
      if db'.ok then (.ok a, db') else (.error .integrityError, db) := by
  cases hok : db'.ok with
  | true => rw [if_pos rfl, serve_atomic_of_ok (ofExcept_ok.mpr h) hok]
  | false =>
    rw [if_neg Bool.false_ne_true, serve_atomic_of_refused (ofExcept_ok.mpr h) hok]
    rfl

theorem serve_of_error {f : GovDb → Except Exc (Answer × GovDb)} {db : GovDb} {e : Exc}
    (h : f db = .error e) : serve (atomic (ofExcept f)) db = (.error e, db) := by
  have hraise : ofExcept f db = (.error e, db) := by rw [Work.ofExcept, h]
  exact serve_atomic_of_error hraise

theorem ended_of_error {f : GovDb → Except Exc (Answer × GovDb)} {e : Exc} (request : Request)
    (h : f s.db = .error e) :
    EndedAs s.log request (serve (atomic (ofExcept f)) s.db)
      (s.finish i request (.error e)).1 := by
  rw [serve_of_error h]
  exact ⟨rfl, rfl⟩

theorem ended_of_commit {f : GovDb → Except Exc (Answer × GovDb)} {a : Answer}
    {log : List Ended} {db : GovDb} {written : GovStore} (request : Request)
    (hdb : s.db = db) (hlog : s.log = log) (hwritten : written.log = log)
    (h : f db = .ok (a, written.db)) :
    EndedAs log request (serve (atomic (ofExcept f)) db) (s.commit i request a written).1 := by
  rw [serve_of_ok h, GovStore.commit]
  split
  · exact ⟨rfl, by rw [GovStore.finish, hwritten]⟩
  · exact ⟨hdb, by rw [GovStore.finish, hlog]⟩

theorem serve_congr {f g : GovDb → Except Exc (Answer × GovDb)} {db : GovDb} (h : f db = g db) :
    serve (atomic (ofExcept f)) db = serve (atomic (ofExcept g)) db := by
  cases hg : g db with
  | error e => rw [serve_of_error hg, serve_of_error (h.trans hg)]
  | ok r => rw [serve_of_ok hg, serve_of_ok (h.trans hg)]

/-- Nobody else holds a row. -/
def GovStore.Free (s : GovStore) (i : Nat) : Prop := ∀ row, s.locks.available i row = true

theorem GovStore.Free.take (h : s.Free i) (row : GovRow) :
    GovStore.Free { s with locks := s.locks.take i row } i := by
  intro row'
  by_cases hrow : row' = row
  · subst hrow
    simp [Locks.available]
  · have hsame : s.locks.take i row row' = s.locks row' := Function.update_of_ne hrow _ _
    change (s.locks.take i row row').all (· = i) = true
    rw [hsame]
    exact h row'

theorem alone_opening (hfree : s.Free i) (d : Option Draft) (r : OpenRequest) :
    EndedAs s.log (caller d r) (serve (atomic (ofExcept (openNew s.clock d r))) s.db)
      (alone govTurn i (s, .opening d r) [.next, .next, .commit]).1 := by
  cases hrule : requireEntryRule r s.db with
  | error e =>
    have hturn : govTurn i .next s (.opening d r) =
        some (s.finish i (caller d r) (.error e)) := by
      simp only [govTurn, hrule]
      rfl
    rw [alone_finish hturn (by simp)]
    exact ended_of_error (caller d r) (by simp only [openNew, hrule]; rfl)
  | ok rule =>
    have hturn : govTurn i .next s (.opening d r) = some (s, .entered d r rule) := by
      simp only [govTurn, hrule]
      rfl
    rw [alone_turn hturn]
    cases hn : requireNumber (referenceKey r.tenantId (yearOf s.clock)) s.db with
    | error e =>
      have hnext : govTurn i .next s (.entered d r rule) =
          some (s.finish i (caller d r) (.error e)) := by
        simp only [govTurn, requireReference, hn]
        rfl
      rw [alone_finish hnext (by simp)]
      exact ended_of_error (caller d r) (by simp only [openNew, hrule, hn]; rfl)
    | ok n =>
      have hnext : govTurn i .next s (.entered d r rule) = some ({ s with
          locks := s.locks.take i (.sequence (referenceKey r.tenantId (yearOf s.clock))) },
          .numbered d r rule n) := by
        have hrow := hfree (.sequence (referenceKey r.tenantId (yearOf s.clock)))
        simp only [govTurn, requireReference, hn, GovStore.hold]
        exact if_pos hrow
      rw [alone_turn hnext, alone_last rfl]
      refine ended_of_commit (caller d r) rfl rfl rfl ?_
      simp only [openNew, hrule, hn]
      cases d <;> rfl

/-- The occurrence is filed, with the case that it found under its key or without one. -/
theorem alone_filed (acts : List Action) (d : Draft) (existing : Option Case) {now : Instant}
    (h : d.file now s.db = .ok (commitFiled d existing s.db))
    (hacts : ∀ act ∈ acts, act = .next) :
    EndedAs s.log (.create d.request) (serve (atomic (ofExcept (d.file now))) s.db)
      (alone govTurn i (s, .filed d existing) (acts ++ [.commit])).1 := by
  induction acts with
  | nil =>
    rw [List.nil_append, alone_last rfl]
    exact ended_of_commit (.create d.request) rfl rfl rfl h
  | cons act acts ih =>
    have hnext : act = .next := hacts act List.mem_cons_self
    have hskip : govTurn i act s (.filed d existing) = none := by rw [hnext]; rfl
    rw [List.cons_append, alone_skip hskip]
    exact ih fun a ha => hacts a (List.mem_cons_of_mem _ ha)

theorem alone_promote (hfree : s.Free i) (d : Draft) :
    EndedAs s.log (.create d.request) (serve (atomic (ofExcept (d.file s.clock))) s.db)
      (alone govTurn i (s, .linking d []) [.next, .next, .next, .next, .commit]).1 := by
  have hturn : govTurn i .next s (.linking d []) = some (s, d.promote s.db) := rfl
  rw [alone_turn hturn]
  cases htype : s.db.taxonomy.promotedType d.request.tenantId d.type.id d.request.severity with
  | none =>
    have hphase : d.promote s.db = .filed d none := by simp only [Draft.promote, htype]
    rw [hphase]
    have hfile : d.file s.clock s.db = .ok (commitFiled d none s.db) := by
      simp only [Draft.file, htype]
    exact alone_filed [.next, .next, .next] d none hfile (by simp)
  | some caseType =>
    have hphase : d.promote s.db = .promoting d (d.promotion caseType) := by
      simp only [Draft.promote, htype]
    have hbegin : govTurn i .next s (.promoting d (d.promotion caseType)) =
        some (s, d.begin (d.promotion caseType) s.db) := rfl
    rw [hphase, alone_turn hbegin]
    cases hstored : (truthy (d.promotion caseType).idempotencyKey).bind
        (s.db.findEntry (d.promotion caseType).tenantId) with
    | some t =>
      have hfound : d.begin (d.promotion caseType) s.db = .filed d (s.db.cases.get t.caseId) := by
        simp only [Draft.begin, hstored]
      rw [hfound]
      have hfile : d.file s.clock s.db = .ok (commitFiled d (s.db.cases.get t.caseId) s.db) := by
        simp only [Draft.file, htype, openCase, hstored]
      exact alone_filed [.next, .next] d _ hfile (by simp)
    | none =>
      have hfound : d.begin (d.promotion caseType) s.db =
          .opening (some d) (d.promotion caseType) := by
        simp only [Draft.begin, hstored]
      rw [hfound]
      have hfile : serve (atomic (ofExcept (d.file s.clock))) s.db =
          serve (atomic (ofExcept (openNew s.clock (some d) (d.promotion caseType)))) s.db := by
        refine serve_congr ?_
        simp only [Draft.file, htype, openCase, hstored]
      rw [hfile]
      exact alone_opening hfree (some d) (d.promotion caseType)

theorem resolve_request (db : GovDb) (links : List LinkInput) (d : Draft) :
    (d.resolve db links).request = d.request := by
  induction links generalizing d with
  | nil => rfl
  | cons l links ih => exact ih _

theorem ended_of_found {f : GovDb → Except Exc (Answer × GovDb)} {a : Answer} (request : Request)
    (hok : s.db.ok = true) (h : f s.db = .ok (a, s.db)) :
    EndedAs s.log request (serve (atomic (ofExcept f)) s.db)
      (s.finish i request (.ok a)).1 := by
  rw [serve_of_ok h, if_pos hok]
  exact ⟨rfl, rfl⟩

theorem alone_create (hfree : s.Free i) (hok : s.db.ok = true) (r : CreateRequest) :
    EndedAs s.log (.create r) (serve (atomic (ofExcept (create s.clock r))) s.db)
      (alone govTurn i (s, .idle) (Request.create r).turns).1 := by
  have hbegin : govTurn i (.begin (.create r)) s .idle = some (s.begin i (.create r)) := rfl
  have hturns : (Request.create r).turns = .begin (.create r) :: .next :: .next ::
      (r.links.map (fun _ => .next) ++ [.next, .next, .next, .next, .commit]) := by
    simp [Request.turns]
  have hrest : ∀ act ∈ r.links.map (fun _ => Action.next) ++
      [.next, .next, .next, .next, .commit], act = .next ∨ act = .commit := by
    intro act hact
    rcases List.mem_append.mp hact with h | h
    · obtain ⟨_, _, rfl⟩ := List.mem_map.mp h
      exact .inl rfl
    · simpa using h
  have hmore : ∀ {acts : List Action}, (∀ act ∈ acts, act = .next ∨ act = .commit) →
      ∀ act ∈ Action.next :: acts, act = .next ∨ act = .commit := by
    intro acts h act hact
    rcases List.mem_cons.mp hact with rfl | hact
    · exact .inl rfl
    · exact h act hact
  rw [hturns]
  cases hstored : (truthy r.idempotencyKey).bind (s.db.findOccurrence r.tenantId) with
  | some o =>
    have hfound : s.begin i (.create r) = s.finish i (.create r) (.ok (.occurrence
        { occurrenceId := o.id, numero := o.numero, caseId := none, caseReference := none })) := by
      simp only [GovStore.begin, hstored]
    rw [hfound] at hbegin
    rw [alone_finish hbegin (hmore (hmore hrest))]
    exact ended_of_found (.create r) hok (by simp only [create, hstored])
  | none =>
    have hfound : s.begin i (.create r) = (s, .creating r) := by
      simp only [GovStore.begin, hstored]
    rw [hfound] at hbegin
    have hcreate : create s.clock r s.db =
        (draft s.clock r s.db >>= fun d => d.file s.clock s.db) := by
      simp only [create, hstored]
    rw [alone_turn hbegin]
    cases htype : requireType r s.db with
    | error e =>
      have hturn : govTurn i .next s (.creating r) = some (s.finish i (.create r) (.error e)) := by
        simp only [govTurn, htype]
        rfl
      rw [alone_finish hturn (hmore hrest)]
      exact ended_of_error (.create r) (by rw [hcreate, draft, htype]; rfl)
    | ok type =>
      have hturn : govTurn i .next s (.creating r) = some (s, .typed r type) := by
        simp only [govTurn, htype]
        rfl
      rw [alone_turn hturn]
      cases hn : requireNumber (numeroKey r.tenantId (yearOf s.clock)) s.db with
      | error e =>
        have hnext : govTurn i .next s (.typed r type) =
            some (s.finish i (.create r) (.error e)) := by
          simp only [govTurn, requireNumero, hn]
          rfl
        rw [alone_finish hnext hrest]
        exact ended_of_error (.create r) (by rw [hcreate, draft, htype]; simp only [hn]; rfl)
      | ok numero =>
        have hnext : govTurn i .next s (.typed r type) = some ({ s with
            locks := s.locks.take i (.sequence (numeroKey r.tenantId (yearOf s.clock))) },
            .linking { request := r, type, numero } r.links) := by
          have hrow := hfree (.sequence (numeroKey r.tenantId (yearOf s.clock)))
          simp only [govTurn, requireNumero, hn, GovStore.hold]
          exact if_pos hrow
        rw [alone_turn hnext, alone_linking]
        have hdraft : create s.clock r s.db =
            (({ request := r, type, numero } : Draft).resolve s.db r.links).file s.clock s.db := by
          rw [hcreate, draft, htype]
          simp only [hn]
          rfl
        rw [serve_congr hdraft]
        have hpromote := alone_promote
          (hfree.take (.sequence (numeroKey r.tenantId (yearOf s.clock))))
          (({ request := r, type, numero } : Draft).resolve s.db r.links)
        rw [resolve_request] at hpromote
        exact hpromote

theorem alone_openCase (hfree : s.Free i) (hok : s.db.ok = true) (r : OpenRequest) :
    EndedAs s.log (.openCase r) (serve (atomic (ofExcept (openCase s.clock none r))) s.db)
      (alone govTurn i (s, .idle) (Request.openCase r).turns).1 := by
  have hbegin : govTurn i (.begin (.openCase r)) s .idle = some (s.begin i (.openCase r)) := rfl
  rw [Request.turns]
  cases hstored : (truthy r.idempotencyKey).bind (s.db.findEntry r.tenantId) with
  | some t =>
    have hfound : s.begin i (.openCase r) = s.finish i (.openCase r) (.ok (.case t.caseId)) := by
      simp only [GovStore.begin, hstored]
    rw [hfound] at hbegin
    rw [alone_finish hbegin (by simp)]
    exact ended_of_found (.openCase r) hok (by simp only [openCase, hstored])
  | none =>
    have hfound : s.begin i (.openCase r) = (s, .opening none r) := by
      simp only [GovStore.begin, hstored]
    rw [hfound] at hbegin
    have hopen : openCase s.clock none r s.db = openNew s.clock none r s.db := by
      simp only [openCase, hstored]
    rw [alone_turn hbegin, serve_congr hopen]
    exact alone_opening hfree none r

theorem alone_applyTransition (hfree : s.Free i) (hok : s.db.ok = true) (r : ApplyRequest) :
    EndedAs s.log (.applyTransition r)
      (serve (atomic (ofExcept (applyTransition s.clock r))) s.db)
      (alone govTurn i (s, .idle) (Request.applyTransition r).turns).1 := by
  have hbegin : govTurn i (.begin (.applyTransition r)) s .idle =
      some (s.begin i (.applyTransition r)) := rfl
  rw [Request.turns]
  cases hstored : (truthy r.idempotencyKey).bind (s.db.findTransition r.tenantId) with
  | some t =>
    have hfound : s.begin i (.applyTransition r) =
        s.finish i (.applyTransition r) (.ok (.transition t)) := by
      simp only [GovStore.begin, hstored]
    rw [hfound] at hbegin
    rw [alone_finish hbegin (by simp)]
    exact ended_of_found (.applyTransition r) hok (by simp only [applyTransition, hstored])
  | none =>
    have hfound : s.begin i (.applyTransition r) = (s, .applying r) := by
      simp only [GovStore.begin, hstored]
    rw [hfound] at hbegin
    rw [alone_turn hbegin]
    cases hcase : requireCase r s.db with
    | error e =>
      have hturn : govTurn i .next s (.applying r) =
          some (s.finish i (.applyTransition r) (.error e)) := by
        simp only [govTurn, hcase]
        rfl
      rw [alone_finish hturn (by simp)]
      exact ended_of_error (.applyTransition r)
        (by simp only [applyTransition, hstored, hcase]; rfl)
    | ok case =>
      have hturn : govTurn i .next s (.applying r) = some (
          { s with locks := s.locks.take i (.case r.caseId) }, .locked r case) := by
        have hrow := hfree (.case r.caseId)
        simp only [govTurn, hcase, GovStore.hold]
        exact if_pos hrow
      have happly : applyTransition s.clock r s.db = (requireRule r case s.db >>= fun rule =>
          .ok (.transition (r.transition case s.db.transitions.freshKey),
            r.write case rule s.clock s.db)) := by
        simp only [applyTransition, hstored, hcase]
        rfl
      rw [alone_turn hturn]
      cases hrule : requireRule r case s.db with
      | error e =>
        have hnext : govTurn i .next { s with locks := s.locks.take i (.case r.caseId) }
            (.locked r case) = some (GovStore.finish { s with
              locks := s.locks.take i (.case r.caseId) } i (.applyTransition r) (.error e)) := by
          simp only [govTurn, hrule]
          rfl
        rw [alone_finish hnext (by simp)]
        have hraise : applyTransition s.clock r s.db = .error e := by
          rw [happly, hrule]
          rfl
        rw [serve_of_error hraise]
        exact ⟨rfl, rfl⟩
      | ok rule =>
        have hnext : govTurn i .next { s with locks := s.locks.take i (.case r.caseId) }
            (.locked r case) = some ({ s with locks := s.locks.take i (.case r.caseId) },
              .ruled r case rule) := by
          simp only [govTurn, hrule]
          rfl
        rw [alone_turn hnext, alone_last rfl]
        refine ended_of_commit (.applyTransition r) rfl rfl rfl ?_
        rw [happly, hrule]
        rfl

/-- The turns of a call, taken by one party while nobody holds a row, do what the call does. -/
theorem served_alone {c : Config GovStore Phase} (hidle : c.parties i = .idle)
    (hfree : c.store.Free i) (hok : c.store.db.ok = true) (request : Request) :
    EndedAs c.store.log request
      (serve (atomic (ofExcept fun db => request.answer c.store.clock db)) c.store.db)
      (Run.exec (move govTurn) c (request.turns.map (i, ·))).store := by
  rw [exec_alone, hidle]
  cases request with
  | openCase r => exact alone_openCase hfree hok r
  | applyTransition r => exact alone_applyTransition hfree hok r
  | create r => exact alone_create hfree hok r

theorem served_alone_incident : EndedAs [] (.openCase (openIncident "a"))
    (serve (atomic (ofExcept fun db => (Request.openCase (openIncident "a")).answer 0 db))
      { taxonomy := oneCaseType false })
    (govRun (oneCaseType false) 0 ((Request.openCase (openIncident "a")).turns.map (0, ·))).store :=
  @served_alone 0 (govStart (oneCaseType false) 0) rfl (fun _ => rfl) (by decide) _

end Alone

end Governance
end Rotas
