import Rotas.Checklists.Service
import Rotas.Lib.Run

/-!
# Rotas.Checklists.Evidence

What is on record of a checklist once it was completed or has failed.

* `ChecklistCall`    — the calls that write checklists, of the API or of a sync.
* `KeepsEvidence`     — the evidence stays, and a failure is resolved at most.
* `ChecklistCall.Lawful` — the call leaves resolved checklists alone and completes none that fails.
* `evidence_kept`    — over a run of lawful calls all evidence stays and what is completed passed.
* `resolved_patched` — a resolved checklist is patched.
-/

namespace Rotas

inductive ChecklistCall where
  | create (now : Instant) (tenantId : UUID) (payload : ChecklistCreate)
  | patch (tenantId checklistId : UUID) (payload : ChecklistPatch)
  | complete (now : Instant) (tenantId checklistId : UUID) (payload : CompleteChecklistRequest)
  | resolve (tenantId checklistId : UUID)

section

variable [Locale]

def ChecklistCall.run (call : ChecklistCall) (s : Yard) : Except Exc (UUID × Yard) :=
  match call with
  | .create now tenantId payload => createChecklist now tenantId payload s
  | .patch tenantId id payload => patchChecklist tenantId id payload s
  | .complete now tenantId id payload => completeChecklist now tenantId id payload s
  | .resolve tenantId id => resolveChecklistFailure tenantId id s

/-- The state after a call; one that raises is rolled back. -/
def checklistStep (s : Yard) (call : ChecklistCall) : Yard :=
  match call.run s with
  | .ok (_, s') => s'
  | .error _ => s

end

/-! ## What is kept -/

/-- The checklist was completed, has failed, or its failure was resolved. -/
def Checklist.isClosed (c : Checklist) : Prop := c.status ∈ closedStatuses ∨ c.status = "resolved"

/-- Of a closed checklist the evidence stays, and its failure is resolved at most. -/
def KeepsEvidence (c c' : Checklist) : Prop :=
  c.isClosed → c'.responses = c.responses ∧ c'.completedAt = c.completedAt ∧
    c'.signatureFileId = c.signatureFileId ∧
    (c'.status = c.status ∨ c.status = "failed" ∧ c'.status = "resolved")

theorem KeepsEvidence.refl (c : Checklist) : KeepsEvidence c c :=
  fun _ => ⟨rfl, rfl, rfl, .inl rfl⟩

theorem KeepsEvidence.trans {c c' c'' : Checklist} (h : KeepsEvidence c c')
    (h' : KeepsEvidence c' c'') : KeepsEvidence c c'' := by
  intro hclosed
  obtain ⟨hresponses, hat, hsignature, hstatus⟩ := h hclosed
  have hclosed' : c'.isClosed := by
    rcases hstatus with heq | ⟨-, hresolved⟩
    · rwa [Checklist.isClosed, heq]
    · exact .inr hresolved
  obtain ⟨hresponses', hat', hsignature', hstatus'⟩ := h' hclosed'
  refine ⟨hresponses'.trans hresponses, hat'.trans hat, hsignature'.trans hsignature, ?_⟩
  rcases hstatus with heq | ⟨hfailed, hresolved⟩
  · rwa [heq] at hstatus'
  · rcases hstatus' with heq' | ⟨hfailed', -⟩
    · exact .inr ⟨hfailed, heq'.trans hresolved⟩
    · exact absurd (hresolved.symm.trans hfailed') (by decide)

section Run

variable [Locale]

/-- The responses of a checklist have no failure under its template. -/
def Passed (s : Yard) (c : Checklist) : Prop :=
  ∃ t, requireTemplate c.tenantId c.templateId s = .ok t ∧
    evaluateBlockingFailures t c.responses = []

/-- What is asked of a call in the state it finds: a patch of a resolved checklist changes nothing,
a patch makes a checklist completed only if it passes, and no resolved checklist is completed
again. -/
def ChecklistCall.Lawful (s : Yard) (call : ChecklistCall) : Prop :=
  match call with
  | .patch tenantId id payload => ∀ c, requireChecklist tenantId id s = .ok c →
      (c.status = "resolved" → payload.apply c = c) ∧
      (c.status ∉ closedStatuses → (payload.apply c).status = "completed" →
        Passed s (payload.apply c))
  | .complete _ tenantId id _ => ∀ c, requireChecklist tenantId id s = .ok c →
      c.status ≠ "resolved"
  | _ => True

/-- What a call does to a checklist that it finds. -/
inductive ChecklistUpdate (s : Yard) (c : Checklist) : ChecklistCall → Checklist → Prop where
  | patch {tenantId id : UUID} {payload : ChecklistPatch}
      (hfound : requireChecklist tenantId id s = .ok c) (hopen : c.status ∉ closedStatuses) :
      ChecklistUpdate s c (.patch tenantId id payload) (payload.apply c)
  | complete {now : Instant} {tenantId id : UUID} {payload : CompleteChecklistRequest}
      {t : ChecklistTemplate} (hfound : requireChecklist tenantId id s = .ok c)
      (hopen : c.status ∉ closedStatuses)
      (htemplate : requireTemplate c.tenantId c.templateId s = .ok t) :
      ChecklistUpdate s c (.complete now tenantId id payload)
        (completed (evaluateBlockingFailures t c.responses) payload now c)
  | resolve {tenantId id : UUID} (hfailed : c.status = "failed") :
      ChecklistUpdate s c (.resolve tenantId id) { c with status := "resolved" }

/-- A call changes nothing, adds a checklist in progress, or updates one that it finds. -/
theorem checklistStep_cases (s : Yard) (call : ChecklistCall) :
    checklistStep s call = s ∨
    (∃ now tenantId payload, call = .create now tenantId payload ∧ checklistStep s call =
      { s with checklists := s.checklists.insert (payload.row now tenantId) }) ∨
    ∃ id c f hf, s.checklists.get id = some c ∧ ChecklistUpdate s c call (f c) ∧
      checklistStep s call = { s with checklists := s.checklists.modify id f hf } := by
  cases hrun : call.run s with
  | error e => exact .inl (by simp only [checklistStep, hrun])
  | ok r =>
    have hstep : checklistStep s call = r.2 := by simp only [checklistStep, hrun]
    rw [hstep]
    cases call with
    | create now tenantId payload =>
      obtain ⟨-, rfl⟩ := createChecklist_eq_ok.mp hrun
      exact .inr (.inl ⟨now, tenantId, payload, rfl, rfl⟩)
    | patch tenantId id payload =>
      simp only [ChecklistCall.run, patchChecklist, bind_eq_ok, raiseIf_eq_ok, pure, Except.pure,
        Except.ok.injEq] at hrun
      obtain ⟨c, hc, _, hopen, rfl⟩ := hrun
      exact .inr (.inr ⟨id, c, _, _, (requireChecklist_eq_ok.mp hc).1,
        .patch hc (by simpa using hopen), rfl⟩)
    | complete now tenantId id payload =>
      simp only [ChecklistCall.run, completeChecklist, bind_eq_ok] at hrun
      obtain ⟨c, hc, hrun⟩ := hrun
      obtain ⟨hget, htenant⟩ := requireChecklist_eq_ok.mp hc
      split at hrun
      · cases hrun
        exact .inl rfl
      · next hopen =>
        obtain ⟨t, ht, hrun⟩ := bind_eq_ok.mp hrun
        cases hrun
        exact .inr (.inr ⟨id, c, _, _, hget, .complete hc hopen (htenant ▸ ht), rfl⟩)
    | resolve tenantId id =>
      simp only [ChecklistCall.run, resolveChecklistFailure, bind_eq_ok] at hrun
      obtain ⟨c, hc, hrun⟩ := hrun
      split at hrun
      · cases hrun
        exact .inl rfl
      · obtain ⟨_, hfailed, hrun⟩ := bind_eq_ok.mp hrun
        cases hrun
        exact .inr (.inr ⟨id, c, _, _, (requireChecklist_eq_ok.mp hc).1,
          .resolve (by simpa using hfailed), rfl⟩)

theorem ChecklistUpdate.keeps {s : Yard} {call : ChecklistCall} {c c' : Checklist}
    (h : ChecklistUpdate s c call c') (hlawful : call.Lawful s) : KeepsEvidence c c' := by
  cases h with
  | patch hfound hopen =>
    rintro (hclosed | hresolved)
    · exact absurd hclosed hopen
    · rw [(hlawful c hfound).1 hresolved]
      exact ⟨rfl, rfl, rfl, .inl rfl⟩
  | complete hfound hopen _ =>
    rintro (hclosed | hresolved)
    · exact absurd hclosed hopen
    · exact absurd hresolved (hlawful c hfound)
  | resolve hfailed => exact fun _ => ⟨rfl, rfl, rfl, .inr ⟨hfailed, rfl⟩⟩

theorem ChecklistUpdate.passed {s : Yard} {call : ChecklistCall} {c c' : Checklist}
    (h : ChecklistUpdate s c call c') (hlawful : call.Lawful s)
    (hcompleted : c'.status = "completed") : Passed s c' := by
  cases h with
  | patch hfound hopen => exact (hlawful c hfound).2 hopen hcompleted
  | complete _ _ htemplate =>
    refine ⟨_, htemplate, ?_⟩
    simp only [completed] at hcompleted ⊢
    split at hcompleted
    · next hempty => exact List.isEmpty_iff.mp hempty
    · exact absurd hcompleted (by decide)
  | resolve _ => exact absurd hcompleted (by simp)

/-- What is completed has passed. -/
def CompletedPassed (s : Yard) : Prop := ∀ c ∈ s.checklists, c.status = "completed" → Passed s c

/-- A lawful call takes each checklist along `KeepsEvidence`. -/
theorem moves_keepsEvidence : Lifecycle.Moves (fun s : Yard => s.checklists.get) checklistStep
    (fun s call => call.Lawful s) KeepsEvidence := by
  intro s call hlawful k c hc
  rcases checklistStep_cases s call with hsame | ⟨now, tenantId, payload, -, hnew⟩ |
    ⟨id, c₀, f, hf, hc₀, hupdate, hmodified⟩
  · exact ⟨c, by rw [hsame, hc], .inl rfl⟩
  · rw [hnew]
    exact ⟨c, Table.get_insert_of_get _ (payload.row now tenantId) (fun _ => rfl) hc, .inl rfl⟩
  · rw [hmodified]
    refine ⟨_, Table.get_modify_of_get f hf hc, ?_⟩
    split
    · next hk =>
      subst hk
      cases hc₀.symm.trans hc
      exact .inr (hupdate.keeps hlawful)
    · exact .inl rfl

theorem completedPassed_step {s : Yard} {call : ChecklistCall} (h : CompletedPassed s)
    (hlawful : call.Lawful s) : CompletedPassed (checklistStep s call) := by
  rcases checklistStep_cases s call with hsame | ⟨now, tenantId, payload, -, hnew⟩ |
    ⟨id, c₀, f, hf, hc₀, hupdate, hmodified⟩
  · rwa [hsame]
  · rw [hnew]
    intro c hc hcompleted
    change c ∈ s.checklists.insert (payload.row now tenantId) at hc
    rcases (Table.mem_insert s.checklists (payload.row now tenantId) (fun _ => rfl)).mp hc with
      hc | rfl
    · exact h c hc hcompleted
    · exact absurd hcompleted (by simp [ChecklistCreate.row])
  · rw [hmodified]
    intro c hc hcompleted
    change c ∈ s.checklists.modify id f hf at hc
    obtain ⟨c₁, hc₁, hkey, rfl⟩ | ⟨hc, -⟩ := Table.mem_modify_cases hc
    · have heq : c₁ = c₀ :=
        Table.eq_of_key hc₁ (Table.mem_of_get hc₀) (hkey.trans (Table.key_of_get hc₀).symm)
      subst heq
      exact hupdate.passed hlawful hcompleted
    · exact h c hc hcompleted

/-- Over every run of lawful calls, what was completed, has failed or was resolved keeps its evidence
and goes from failed to resolved at most, and what is completed has passed. -/
theorem evidence_kept {s : Yard} {before after : List ChecklistCall} (hempty : s.checklists = ∅)
    (hlawful : Run.Along checklistStep (fun s call => call.Lawful s) s (before ++ after)) :
    (∀ id c, (Run.exec checklistStep s before).checklists.get id = some c →
      c.isClosed →
      ∃ c', (Run.exec checklistStep s (before ++ after)).checklists.get id = some c' ∧
        c'.responses = c.responses ∧ c'.completedAt = c.completedAt ∧
        c'.signatureFileId = c.signatureFileId ∧
        (c'.status = c.status ∨ c.status = "failed" ∧ c'.status = "resolved")) ∧
      CompletedPassed (Run.exec checklistStep s (before ++ after)) := by
  constructor
  · intro id c hc hclosed
    obtain ⟨c', hc', hkeeps⟩ := Lifecycle.exec_related KeepsEvidence.refl
      (fun _ _ _ => KeepsEvidence.trans) moves_keepsEvidence hc (Run.along_append.mp hlawful).2
    rw [← Run.exec_append] at hc'
    exact ⟨c', hc', hkeeps hclosed⟩
  · refine Run.exec_inv (fun s call h => completedPassed_step h) ?_ hlawful
    rw [CompletedPassed, hempty]
    exact fun c hc => absurd hc (Table.not_mem_empty c)

end Run

/-- The template, the vehicle and the driver of a checklist. -/
def failingYard : Yard where
  vehicles := .single { id := 1, tenantId := 9, plate := "AAA-001" }
  drivers := .single { id := 2, tenantId := 9 }
  checklistTemplates := .single
    { id := 3, tenantId := 9, type := "daily", items := [{ id := "brakes", isBlocking := true }] }

/-- A checklist that fails. -/
def failingCalls : List ChecklistCall :=
  [.create 100 9
    { vehicleId := 1, driverId := 2, templateId := 3, type := "daily",
      responses := [("brakes", .bool false)] },
    .complete 110 9 1 { signatureFileId := some 7 }]

/-- Once its failure is resolved, a checklist takes other responses and another completion. -/
theorem resolved_patched :
    letI := Locale.ascii
    ∃ c c', (Run.exec checklistStep failingYard failingCalls).checklists.get 1 = some c ∧
      (Run.exec checklistStep failingYard (failingCalls ++ [.resolve 9 1,
        .patch 9 1 { responses := some [("brakes", .bool true)] },
        .complete 500 9 1 {}])).checklists.get 1 = some c' ∧
      (c.status = "failed" ∧ c.responses = [("brakes", .bool false)] ∧ c.completedAt = some 110 ∧
        c.signatureFileId = some 7) ∧
      c'.status = "completed" ∧ c'.responses = [("brakes", .bool true)] ∧
        c'.completedAt = some 500 ∧ c'.signatureFileId = none :=
  letI := Locale.ascii
  ⟨_, _, rfl, rfl, ⟨rfl, rfl, rfl, rfl⟩, rfl, rfl, rfl, rfl⟩

/-- Up to there the evidence is kept. -/
theorem evidence_kept_failing :
    letI := Locale.ascii
    CompletedPassed (Run.exec checklistStep failingYard (failingCalls ++ [.resolve 9 1])) := by
  let _ := Locale.ascii
  refine (@evidence_kept _ failingYard failingCalls [.resolve 9 1] rfl
    ⟨trivial, ?_, trivial, trivial⟩).2
  intro c hc
  cases hc
  decide

end Rotas
