import Rotas.Billing.Numbering
import Rotas.Governance.Cases
import Rotas.Lib.Interleave

/-!
# Rotas.Governance.CaseSteps

Calls of `open_case`, `apply_transition` and `create` as transactions that run at the same time.
A turn is one statement, which sees what is committed at that instant. What a transaction writes
takes effect when it commits; the unique indexes are checked then.

* `GovRow` — the rows that are held to the end of the transaction: a case that is read for update,
  and a sequence that was counted up.
* `Phase` — where a call is, with what it has read.
* `govTurn` — the turns. The store also has the calls that came to an end, with what they returned or
  raised, and the cases that occurrences opened.
* `GovStep`, `govStep_of_turn` — one constructor for each way a turn goes, and every turn is one.
* `GovStep.leaves`, `GovStep.kept` — a turn leaves the rows that another transaction holds, and the
  tenant and the type of each case.
-/

namespace Rotas
namespace Governance

open Interleave

inductive GovRow where
  | case (id : UUID)
  | sequence (key : SequenceKey)
  deriving DecidableEq

inductive Request where
  | openCase (r : OpenRequest)
  | applyTransition (r : ApplyRequest)
  | create (r : CreateRequest)

structure CreateOccurrenceResult where
  occurrenceId : UUID
  numero : String
  caseId : Option UUID
  caseReference : Option String
  deriving DecidableEq

inductive Answer where
  | case (id : UUID)
  | transition (t : CaseTransition)
  | occurrence (result : CreateOccurrenceResult)

structure Ended where
  request : Request
  outcome : Except Exc Answer

inductive Phase where
  | idle
  /-- The key of the transition is not stored; the case is read next. -/
  | applying (r : ApplyRequest)
  | locked (r : ApplyRequest) (case : Case)
  | ruled (r : ApplyRequest) (case : Case) (rule : CaseTransitionRule)
  /-- The key of the occurrence is not stored; the type is read next. -/
  | creating (r : CreateRequest)
  | typed (r : CreateRequest) (type : TaxonomyType)
  | linking (d : Draft) (todo : List LinkInput)
  /-- The occurrence opens a case. -/
  | promoting (d : Draft) (r : OpenRequest)
  /-- The key of the case is not stored; the entry rule is read next. -/
  | opening (d : Option Draft) (r : OpenRequest)
  | entered (d : Option Draft) (r : OpenRequest) (rule : CaseTransitionRule)
  | numbered (d : Option Draft) (r : OpenRequest) (rule : CaseTransitionRule) (n : Numbered)
  /-- The occurrence is filed without a new case. -/
  | filed (d : Draft) (existing : Option Case)

/-- The call that opens a case, on its own or for an occurrence. -/
def caller (d : Option Draft) (r : OpenRequest) : Request :=
  match d with
  | some d => .create d.request
  | none => .openCase r

inductive Action where
  | begin (request : Request)
  /-- The next statement of the call. -/
  | next
  | commit
  | rollback
  /-- Time passes. -/
  | tick (now : Instant)

structure GovStore where
  db : GovDb
  clock : Instant
  log : List Ended := []
  /-- The cases that occurrences have opened. -/
  opened : List (CreateRequest × UUID) := []
  locks : Locks GovRow := fun _ => none

def GovStore.release (s : GovStore) (i : Nat) : GovStore := { s with locks := s.locks.release i }

/-- The call ends with its transaction. -/
def GovStore.finish (s : GovStore) (i : Nat) (request : Request) (outcome : Except Exc Answer) :
    GovStore × Phase :=
  ({ s with log := s.log ++ [⟨request, outcome⟩], locks := s.locks.release i }, .idle)

/-- The call goes on to its next statement, or raises. -/
def GovStore.proceed (s : GovStore) (i : Nat) (request : Request) (next : Except Exc Phase) :
    GovStore × Phase :=
  match next with
  | .ok p => (s, p)
  | .error e => s.finish i request (.error e)

/-- The call holds the row to the end, and waits for it if somebody else does. -/
def GovStore.hold (s : GovStore) (i : Nat) (row : GovRow) (request : Request)
    (next : Except Exc Phase) : Option (GovStore × Phase) :=
  match next with
  | .ok p =>
    if s.locks.available i row then some ({ s with locks := s.locks.take i row }, p) else none
  | .error e => some (s.finish i request (.error e))

/-- The transaction commits, unless the database refuses what it has written. -/
def GovStore.commit (s : GovStore) (i : Nat) (request : Request) (answer : Answer)
    (written : GovStore) : GovStore × Phase :=
  if written.db.ok then written.finish i request (.ok answer)
  else s.finish i request (.error .integrityError)

/-- The first statement: what is stored under the key of the request. -/
def GovStore.begin (s : GovStore) (i : Nat) (request : Request) : GovStore × Phase :=
  match request with
  | .openCase r =>
    match (truthy r.idempotencyKey).bind (s.db.findEntry r.tenantId) with
    | some t => s.finish i request (.ok (.case t.caseId))
    | none => (s, .opening none r)
  | .applyTransition r =>
    match (truthy r.idempotencyKey).bind (s.db.findTransition r.tenantId) with
    | some t => s.finish i request (.ok (.transition t))
    | none => (s, .applying r)
  | .create r =>
    match (truthy r.idempotencyKey).bind (s.db.findOccurrence r.tenantId) with
    | some o => s.finish i request (.ok (.occurrence
        { occurrenceId := o.id, numero := o.numero, caseId := none, caseReference := none }))
    | none => (s, .creating r)

def requireNumero (r : CreateRequest) (type : TaxonomyType) (year : Int) (db : GovDb) :
    Except Exc Phase := do
  let numero ← requireNumber (numeroKey r.tenantId year) db
  return .linking { request := r, type, numero } r.links

def requireReference (d : Option Draft) (r : OpenRequest) (rule : CaseTransitionRule) (year : Int)
    (db : GovDb) : Except Exc Phase := do
  let reference ← requireNumber (referenceKey r.tenantId year) db
  return .numbered d r rule reference

/-- Whether the occurrence opens a case. -/
def Draft.promote (d : Draft) (db : GovDb) : Phase :=
  match db.taxonomy.promotedType d.request.tenantId d.type.id d.request.severity with
  | some caseType => .promoting d (d.promotion caseType)
  | none => .filed d none

/-- The first statement of `open_case`, for an occurrence. -/
def Draft.begin (d : Draft) (r : OpenRequest) (db : GovDb) : Phase :=
  match (truthy r.idempotencyKey).bind (db.findEntry r.tenantId) with
  | some t => .filed d (db.cases.get t.caseId)
  | none => .opening (some d) r

/-- The writes of a call that opens a case, and what it returns. -/
def commitOpen (d : Option Draft) (r : OpenRequest) (rule : CaseTransitionRule) (n : Numbered)
    (now : Instant) (db : GovDb) : Answer × GovDb :=
  match d with
  | none => (.case db.cases.freshKey, r.write rule n now db)
  | some d =>
    (.occurrence {
      occurrenceId := db.occurrences.freshKey, numero := d.numero.id
      caseId := some db.cases.freshKey, caseReference := some n.id },
    { r with occurrenceIds := [db.occurrences.freshKey] }.write rule n now (d.write db))

/-- The case that the commit opens for an occurrence. -/
def openedBy (d : Option Draft) (db : GovDb) : List (CreateRequest × UUID) :=
  d.toList.map fun d => (d.request, db.cases.freshKey)

def commitFiled (d : Draft) (existing : Option Case) (db : GovDb) : Answer × GovDb :=
  (.occurrence {
    occurrenceId := db.occurrences.freshKey, numero := d.numero.id
    caseId := existing.map Case.id, caseReference := existing.map Case.reference },
  d.write db)

/-- The turn of transaction `i`; `none` when it waits for a row or the step is not its next. -/
def govTurn (i : Nat) (act : Action) (s : GovStore) (p : Phase) : Option (GovStore × Phase) :=
  match act, p with
  | .begin request, .idle => some (s.begin i request)
  | .next, .applying r =>
    s.hold i (.case r.caseId) (.applyTransition r)
      ((requireCase r s.db).map fun case => .locked r case)
  | .next, .locked r case =>
    some (s.proceed i (.applyTransition r)
      ((requireRule r case s.db).map fun rule => .ruled r case rule))
  | .commit, .ruled r case rule =>
    some (s.commit i (.applyTransition r)
      (.transition (r.transition case s.db.transitions.freshKey))
      { s with db := r.write case rule s.clock s.db })
  | .next, .creating r =>
    some (s.proceed i (.create r) ((requireType r s.db).map fun type => .typed r type))
  | .next, .typed r type =>
    s.hold i (.sequence (numeroKey r.tenantId (yearOf s.clock))) (.create r)
      (requireNumero r type (yearOf s.clock) s.db)
  | .next, .linking d (l :: todo) =>
    some (s, .linking
      { d with entities := findOrCreateInstance s.db d.request.tenantId l d.entities } todo)
  | .next, .linking d [] => some (s, d.promote s.db)
  | .next, .promoting d r => some (s, d.begin r s.db)
  | .next, .opening d r =>
    some (s.proceed i (caller d r)
      ((requireEntryRule r s.db).map fun rule => .entered d r rule))
  | .next, .entered d r rule =>
    s.hold i (.sequence (referenceKey r.tenantId (yearOf s.clock))) (caller d r)
      (requireReference d r rule (yearOf s.clock) s.db)
  | .commit, .numbered d r rule n =>
    let (answer, db) := commitOpen d r rule n s.clock s.db
    some (s.commit i (caller d r) answer { s with db, opened := s.opened ++ openedBy d s.db })
  | .commit, .filed d existing =>
    let (answer, db) := commitFiled d existing s.db
    some (s.commit i (.create d.request) answer { s with db })
  | .rollback, _ => some (s.release i, .idle)
  | .tick now, p => some ({ s with clock := max s.clock now }, p)
  | _, _ => none

/-- An empty database, but for what an administrator has set up. -/
def govStart (taxonomy : Taxonomy) (clock : Instant) : Config GovStore Phase :=
  ⟨{ db := { taxonomy }, clock }, fun _ => .idle⟩

def govRun (taxonomy : Taxonomy) (clock : Instant) (ms : List (Nat × Action)) :
    Config GovStore Phase :=
  Run.exec (move govTurn) (govStart taxonomy clock) ms

/-- The turns of transaction `i` in the store `s`: the phase before, the store and the phase
after. -/
inductive GovStep (i : Nat) (s : GovStore) : Action → Phase → GovStore → Phase → Prop where
  | raised (act : Action) (p : Phase) (request : Request) (e : Exc) :
      GovStep i s act p (s.finish i request (.error e)).1 .idle
  | foundEntry (r : OpenRequest) (t : CaseTransition)
      (hfound : (truthy r.idempotencyKey).bind (s.db.findEntry r.tenantId) = some t) :
      GovStep i s (.begin (.openCase r)) .idle
        (s.finish i (.openCase r) (.ok (.case t.caseId))).1 .idle
  | foundTransition (r : ApplyRequest) (t : CaseTransition)
      (hfound : (truthy r.idempotencyKey).bind (s.db.findTransition r.tenantId) = some t) :
      GovStep i s (.begin (.applyTransition r)) .idle
        (s.finish i (.applyTransition r) (.ok (.transition t))).1 .idle
  | foundOccurrence (r : CreateRequest) (o : Occurrence)
      (hfound : (truthy r.idempotencyKey).bind (s.db.findOccurrence r.tenantId) = some o) :
      GovStep i s (.begin (.create r)) .idle
        (s.finish i (.create r) (.ok (.occurrence
          { occurrenceId := o.id, numero := o.numero, caseId := none, caseReference := none }))).1
        .idle
  | opening (r : OpenRequest) : GovStep i s (.begin (.openCase r)) .idle s (.opening none r)
  | applying (r : ApplyRequest) : GovStep i s (.begin (.applyTransition r)) .idle s (.applying r)
  | creating (r : CreateRequest) : GovStep i s (.begin (.create r)) .idle s (.creating r)
  | locked (r : ApplyRequest) (case : Case) (hcase : requireCase r s.db = .ok case)
      (havail : s.locks.available i (.case r.caseId) = true) :
      GovStep i s .next (.applying r)
        { s with locks := s.locks.take i (.case r.caseId) } (.locked r case)
  | ruled (r : ApplyRequest) (case : Case) (rule : CaseTransitionRule)
      (hrule : requireRule r case s.db = .ok rule) :
      GovStep i s .next (.locked r case) s (.ruled r case rule)
  | applied (r : ApplyRequest) (case : Case) (rule : CaseTransitionRule)
      (hok : (r.write case rule s.clock s.db).ok = true) :
      GovStep i s .commit (.ruled r case rule)
        ({ s with db := r.write case rule s.clock s.db }.finish i (.applyTransition r)
          (.ok (.transition (r.transition case s.db.transitions.freshKey)))).1 .idle
  | typed (r : CreateRequest) (type : TaxonomyType) (htype : requireType r s.db = .ok type) :
      GovStep i s .next (.creating r) s (.typed r type)
  | counted (r : CreateRequest) (type : TaxonomyType) (n : Numbered)
      (havail : s.locks.available i (.sequence (numeroKey r.tenantId (yearOf s.clock))) = true) :
      GovStep i s .next (.typed r type)
        { s with locks := s.locks.take i (.sequence (numeroKey r.tenantId (yearOf s.clock))) }
        (.linking { request := r, type, numero := n } r.links)
  | linked (d : Draft) (l : LinkInput) (todo : List LinkInput) :
      GovStep i s .next (.linking d (l :: todo)) s (.linking
        { d with entities := findOrCreateInstance s.db d.request.tenantId l d.entities } todo)
  | promoted (d : Draft) : GovStep i s .next (.linking d []) s (d.promote s.db)
  | begun (d : Draft) (r : OpenRequest) : GovStep i s .next (.promoting d r) s (d.begin r s.db)
  | entered (d : Option Draft) (r : OpenRequest) (rule : CaseTransitionRule)
      (hrule : requireEntryRule r s.db = .ok rule) :
      GovStep i s .next (.opening d r) s (.entered d r rule)
  | numbered (d : Option Draft) (r : OpenRequest) (rule : CaseTransitionRule) (n : Numbered)
      (havail : s.locks.available i (.sequence (referenceKey r.tenantId (yearOf s.clock))) = true) :
      GovStep i s .next (.entered d r rule)
        { s with locks := s.locks.take i (.sequence (referenceKey r.tenantId (yearOf s.clock))) }
        (.numbered d r rule n)
  | opened (d : Option Draft) (r : OpenRequest) (rule : CaseTransitionRule) (n : Numbered)
      (hok : (commitOpen d r rule n s.clock s.db).2.ok = true) :
      GovStep i s .commit (.numbered d r rule n)
        ({ s with
          db := (commitOpen d r rule n s.clock s.db).2
          opened := s.opened ++ openedBy d s.db }.finish i (caller d r)
          (.ok (commitOpen d r rule n s.clock s.db).1)).1 .idle
  | filed (d : Draft) (existing : Option Case)
      (hok : (commitFiled d existing s.db).2.ok = true) :
      GovStep i s .commit (.filed d existing)
        ({ s with db := (commitFiled d existing s.db).2 }.finish i (.create d.request)
          (.ok (commitFiled d existing s.db).1)).1 .idle
  | rolledBack (p : Phase) : GovStep i s .rollback p (s.release i) .idle
  | ticked (now : Instant) (p : Phase) :
      GovStep i s (.tick now) p { s with clock := max s.clock now } p

section Turns

variable {i : Nat} {act : Action} {s s' : GovStore} {p p' : Phase}

theorem begin_step {request : Request} (h : s.begin i request = (s', p')) :
    GovStep i s (.begin request) .idle s' p' := by
  cases request with
  | openCase r =>
    rw [GovStore.begin] at h
    split at h <;> cases h
    · next hfound => exact .foundEntry r _ hfound
    · exact .opening r
  | applyTransition r =>
    rw [GovStore.begin] at h
    split at h <;> cases h
    · next hfound => exact .foundTransition r _ hfound
    · exact .applying r
  | create r =>
    rw [GovStore.begin] at h
    split at h <;> cases h
    · next hfound => exact .foundOccurrence r _ hfound
    · exact .creating r

theorem proceed_cases {request : Request} {next : Except Exc Phase}
    (h : s.proceed i request next = (s', p')) :
    (∃ e, (s', p') = s.finish i request (.error e)) ∨ next = .ok p' ∧ s' = s := by
  unfold GovStore.proceed at h
  split at h
  · cases h; exact .inr ⟨rfl, rfl⟩
  · exact .inl ⟨_, h.symm⟩

theorem hold_cases {row : GovRow} {request : Request} {next : Except Exc Phase}
    (h : s.hold i row request next = some (s', p')) :
    (∃ e, (s', p') = s.finish i request (.error e)) ∨
      next = .ok p' ∧ s.locks.available i row = true ∧
        s' = { s with locks := s.locks.take i row } := by
  unfold GovStore.hold at h
  split at h
  · split at h <;> cases h
    next havail => exact .inr ⟨rfl, havail, rfl⟩
  · exact .inl ⟨_, (Option.some.inj h).symm⟩

theorem commit_cases {request : Request} {answer : Answer} {written : GovStore}
    (h : s.commit i request answer written = (s', p')) :
    (∃ e, (s', p') = s.finish i request (.error e)) ∨
      written.db.ok = true ∧ (s', p') = written.finish i request (.ok answer) := by
  rw [GovStore.commit] at h
  split at h
  · next hok => exact .inr ⟨hok, h.symm⟩
  · exact .inl ⟨_, h.symm⟩

theorem raised_of_finish {request : Request} {e : Exc}
    (h : (s', p') = s.finish i request (.error e)) : GovStep i s act p s' p' := by
  cases h
  exact .raised _ _ _ _

theorem govStep_of_turn (h : govTurn i act s p = some (s', p')) : GovStep i s act p s' p' := by
  unfold govTurn at h
  split at h
  · exact begin_step (Option.some.inj h)
  · rcases hold_cases h with ⟨e, he⟩ | ⟨hnext, havail, rfl⟩
    · exact raised_of_finish he
    · obtain ⟨case, hcase, rfl⟩ := map_eq_ok.mp hnext
      exact .locked _ _ hcase havail
  · rcases proceed_cases (Option.some.inj h) with ⟨e, he⟩ | ⟨hnext, rfl⟩
    · exact raised_of_finish he
    · obtain ⟨rule, hrule, rfl⟩ := map_eq_ok.mp hnext
      exact .ruled _ _ _ hrule
  · rcases commit_cases (Option.some.inj h) with ⟨e, he⟩ | ⟨hok, he⟩
    · exact raised_of_finish he
    · cases he; exact .applied _ _ _ hok
  · rcases proceed_cases (Option.some.inj h) with ⟨e, he⟩ | ⟨hnext, rfl⟩
    · exact raised_of_finish he
    · obtain ⟨type, htype, rfl⟩ := map_eq_ok.mp hnext
      exact .typed _ _ htype
  · rcases hold_cases h with ⟨e, he⟩ | ⟨hnext, havail, rfl⟩
    · exact raised_of_finish he
    · obtain ⟨n, _, hn⟩ := bind_eq_ok.mp hnext
      cases hn
      exact .counted _ _ _ havail
  · cases h; exact .linked _ _ _
  · cases h; exact .promoted _
  · cases h; exact .begun _ _
  · rcases proceed_cases (Option.some.inj h) with ⟨e, he⟩ | ⟨hnext, rfl⟩
    · exact raised_of_finish he
    · obtain ⟨rule, hrule, rfl⟩ := map_eq_ok.mp hnext
      exact .entered _ _ _ hrule
  · rcases hold_cases h with ⟨e, he⟩ | ⟨hnext, havail, rfl⟩
    · exact raised_of_finish he
    · obtain ⟨n, _, hn⟩ := bind_eq_ok.mp hnext
      cases hn
      exact .numbered _ _ _ _ havail
  · rcases commit_cases (Option.some.inj h) with ⟨e, he⟩ | ⟨hok, he⟩
    · exact raised_of_finish he
    · cases he; exact .opened _ _ _ _ hok
  · rcases commit_cases (Option.some.inj h) with ⟨e, he⟩ | ⟨hok, he⟩
    · exact raised_of_finish he
    · cases he; exact .filed _ _ hok
  · cases h; exact .rolledBack _
  · cases h; exact .ticked _ _
  · cases h

end Turns

/-! ## What a turn leaves -/

/-- What is left to transaction `j`: its rows, and the cases among them. What an administrator has
set up stays. -/
structure Leaves (j : Nat) (s s' : GovStore) : Prop where
  taxonomy : s'.db.taxonomy = s.db.taxonomy
  locks : ∀ row, s.locks row = some j → s'.locks row = some j
  cases : ∀ c, s.locks (.case c.id) = some j → s.db.cases.get c.id = some c →
    s'.db.cases.get c.id = some c

theorem Leaves.of_db {j : Nat} {s s' : GovStore} (hdb : s'.db = s.db)
    (hlocks : ∀ row, s.locks row = some j → s'.locks row = some j) : Leaves j s s' :=
  ⟨by rw [hdb], hlocks, fun _ _ h => hdb ▸ h⟩

theorem insert_get_of_get {ρ : Type} [Keyed ρ] {t : Table ρ} {mk : Nat → ρ}
    {hk : ∀ k, Keyed.key (mk k) = k} {k : Nat} {r : ρ} (h : t.get k = some r) :
    (t.insert mk hk).get k = some r := by
  have hne : k ≠ t.freshKey := by
    rintro rfl
    rw [Table.get_freshKey] at h
    cases h
  rw [Table.get_insert, if_neg hne, h]

theorem commitOpen_cases (d : Option Draft) (r : OpenRequest) (rule : CaseTransitionRule)
    (n : Numbered) (now : Instant) (db : GovDb) :
    (commitOpen d r rule n now db).2.cases = db.cases.insert (r.case rule n.id now) ∧
      (commitOpen d r rule n now db).2.transitions =
        db.transitions.insert (r.transition db.cases.freshKey) ∧
      (commitOpen d r rule n now db).2.taxonomy = db.taxonomy := by
  cases d <;> exact ⟨rfl, rfl, rfl⟩

/-- The cases stay, with their tenants and types. -/
def CasesKept (db db' : GovDb) : Prop :=
  ∀ id c, db.cases.get id = some c → ∃ c', db'.cases.get id = some c' ∧
    c'.tenantId = c.tenantId ∧ c'.caseTypeId = c.caseTypeId

theorem CasesKept.refl (db : GovDb) : CasesKept db db := fun _ c hc => ⟨c, hc, rfl, rfl⟩

theorem casesKept_write (r : ApplyRequest) (case : Case) (rule : CaseTransitionRule) (now : Instant)
    (db : GovDb) : CasesKept db (r.write case rule now db) := by
  intro id c hc
  rw [write_cases, Table.get_modify]
  split
  · next heq => rw [← heq, hc]; exact ⟨_, rfl, rfl, rfl⟩
  · exact ⟨c, hc, rfl, rfl⟩

theorem casesKept_commitOpen (d : Option Draft) (r : OpenRequest) (rule : CaseTransitionRule)
    (n : Numbered) (now : Instant) (db : GovDb) : CasesKept db (commitOpen d r rule n now db).2 := by
  intro id c hc
  rw [(commitOpen_cases d r rule n now db).1]
  exact ⟨c, insert_get_of_get hc, rfl, rfl⟩

theorem get_commitOpen_fresh (d : Option Draft) (r : OpenRequest) (rule : CaseTransitionRule)
    (n : Numbered) (now : Instant) (db : GovDb) :
    (commitOpen d r rule n now db).2.cases.get db.cases.freshKey =
      some (r.case rule n.id now db.cases.freshKey) := by
  rw [(commitOpen_cases d r rule n now db).1, Table.get_insert, if_pos rfl]

section Step

variable {i j : Nat} {act : Action} {s s' : GovStore} {p p' : Phase}

theorem GovStep.taxonomy (h : GovStep i s act p s' p') : s'.db.taxonomy = s.db.taxonomy := by
  cases h with
  | opened d r rule n hok => exact (commitOpen_cases d r rule n s.clock s.db).2.2
  | _ => rfl

theorem GovStep.kept (h : GovStep i s act p s' p') : CasesKept s.db s'.db := by
  cases h with
  | applied r case rule hok => exact casesKept_write r case rule s.clock s.db
  | opened d r rule n hok => exact casesKept_commitOpen d r rule n s.clock s.db
  | _ => exact CasesKept.refl _

theorem GovStep.leaves (h : GovStep i s act p s' p') (hj : j ≠ i)
    (hheld : ∀ r case rule, p = .ruled r case rule → s.locks (.case r.caseId) = some i) :
    Leaves j s s' := by
  have hrelease : ∀ row, s.locks row = some j → s.locks.release i row = some j :=
    fun row h => Locks.release_of_ne h hj
  cases h with
  | raised | foundEntry | foundTransition | foundOccurrence | rolledBack => exact .of_db rfl hrelease
  | opening | applying | creating | ruled | typed | linked | promoted | begun | entered | ticked =>
    exact .of_db rfl fun _ => id
  | locked r case hcase havail => exact .of_db rfl fun row h => Locks.take_of_ne h hj havail
  | counted r type n havail => exact .of_db rfl fun row h => Locks.take_of_ne h hj havail
  | numbered d r rule n havail => exact .of_db rfl fun row h => Locks.take_of_ne h hj havail
  | applied r case rule hok =>
    refine ⟨rfl, hrelease, fun c hlock hget => ?_⟩
    have hne : c.id ≠ r.caseId := by
      intro heq
      rw [heq, hheld r case rule rfl] at hlock
      exact hj (Option.some.inj hlock).symm
    change (r.write case rule s.clock s.db).cases.get c.id = some c
    rw [write_cases, Table.get_modify_ne hne, hget]
  | opened d r rule n hok =>
    obtain ⟨hcases, _, htaxonomy⟩ := commitOpen_cases d r rule n s.clock s.db
    refine ⟨htaxonomy, hrelease, fun c hlock hget => ?_⟩
    change (commitOpen d r rule n s.clock s.db).2.cases.get c.id = some c
    rw [hcases]
    exact insert_get_of_get hget
  | filed d existing hok => exact ⟨rfl, hrelease, fun _ _ h => h⟩

end Step

end Governance
end Rotas
