import Rotas.Sync.Batch
import Rotas.Lib.Interleave

/-!
# Rotas.Sync.Turns

`_process_operation` for creates, as attempts that run at the same time: the lookup of the key, the
commit of the entity and the commit of the key are separate turns, and an attempt can die between
any two of them.

* `SyncPhase`, `SyncAction`, `syncTurn` — the turns of one attempt.
* `SyncSound`, `SyncKnows` — what the created entities and the attempts have to do with the keys.
* `replayed` — once a key is stored, every later attempt is answered with its result.
* `sync_creates_once` — one entity for each key, if no attempt looks a key up while another one is
  at work on it or has died with its entity committed and its key not.
* `two_entities` — two attempts at once create two.
-/

namespace Rotas

open Interleave

/-! ## Attempts -/

structure SyncAttempt where
  tenantId : UUID
  op : SyncOperation
  deriving DecidableEq

def SyncAttempt.key (a : SyncAttempt) : UUID × String := (a.tenantId, a.op.idempotencyKey)

inductive SyncPhase where
  | idle
  /-- The key was not found; the service has committed its entity, or not yet. -/
  | dispatching (a : SyncAttempt) (created : Option UUID)
  | recording (a : SyncAttempt) (result : SyncResult)
  /-- The insert of the key was refused and rolled back. -/
  | refused (a : SyncAttempt)
  | answered (a : SyncAttempt) (result : SyncResult)
  | dead (a : SyncAttempt) (created : Option UUID)

inductive SyncAction where
  | lookup (a : SyncAttempt)
  | createEntity (id : UUID)
  | finish
  | fail (errorCode message : String)
  | record
  | recheck
  /-- An exception that ends the batch, or a crash. -/
  | die

/-- What is committed; beside it, the attempt that looked each key up and has not come to the end
of its recording. -/
structure SyncStore where
  keys : UUID × String → Option SyncKey := fun _ => none
  created : List ((UUID × String) × UUID) := []
  working : UUID × String → Option Nat := fun _ => none

/-- Attempt `i` is through with its key. -/
def SyncStore.leave (s : SyncStore) (i : Nat) (k : UUID × String) : SyncStore :=
  { s with working := if s.working k = some i then Function.update s.working k none else s.working }

/-- The turn of attempt `i`; `none` when the step is not its next. -/
def syncTurn (canonicalRequestHash : Canonical → String) (i : Nat) (act : SyncAction)
    (s : SyncStore) (p : SyncPhase) : Option (SyncStore × SyncPhase) :=
  match act, p with
  | .lookup a, .idle =>
    match s.keys a.key with
    | some k => some (s, .answered a (k.answer canonicalRequestHash a.op))
    | none =>
      some ({ s with working := Function.update s.working a.key (some i) }, .dispatching a none)
  | .createEntity id, .dispatching a none =>
    some ({ s with created := s.created ++ [(a.key, id)] }, .dispatching a (some id))
  | .finish, .dispatching a (some id) => some (s, .recording a (a.op.processed id))
  | .fail errorCode message, .dispatching a none =>
    some (s, .recording a (a.op.refuse .failed errorCode message))
  | .record, .recording a result =>
    match s.keys a.key with
    | none =>
      let k := { requestHash := canonicalRequestHash a.op.canonical, result }
      some ({ s with keys := Function.update s.keys a.key (some k) }.leave i a.key,
        .answered a result)
    | some _ => some (s.leave i a.key, .refused a)
  | .recheck, .refused a =>
    some (s, .answered a (raceAnswer canonicalRequestHash (s.keys a.key) a.op))
  | .die, .dispatching a none => some (s.leave i a.key, .dead a none)
  | .die, .dispatching a (some id) => some (s, .dead a (some id))
  | .die, .recording a result =>
    match result.serverId with
    | none => some (s.leave i a.key, .dead a none)
    | some id => some (s, .dead a (some id))
  | .die, .refused a => some (s, .dead a none)
  | _, _ => none

def syncStart : Config SyncStore SyncPhase := ⟨{}, fun _ => .idle⟩

def syncRun (canonicalRequestHash : Canonical → String) (ms : List (Nat × SyncAction)) :
    Config SyncStore SyncPhase :=
  Run.exec (move (syncTurn canonicalRequestHash)) syncStart ms

/-- The attempt has looked its key up and not come to the end of its recording. -/
def SyncPhase.underWay : SyncPhase → Option SyncAttempt
  | .dispatching a _ => some a
  | .recording a _ => some a
  | _ => none

/-- The attempt is under way, or died with an entity that it had not recorded. -/
def SyncPhase.unrecorded : SyncPhase → Option SyncAttempt
  | .dispatching a _ => some a
  | .recording a _ => some a
  | .dead a (some _) => some a
  | _ => none

/-- The entity that the attempt has created and not recorded. -/
def SyncPhase.made : SyncPhase → Option UUID
  | .dispatching _ created => created
  | .recording _ result => result.serverId
  | .dead _ created => created
  | _ => none

def SyncPhase.attempt : SyncPhase → Option SyncAttempt
  | .idle => none
  | .dispatching a _ => some a
  | .recording a _ => some a
  | .refused a => some a
  | .answered a _ => some a
  | .dead a _ => some a

/-- A key is looked up while nobody is at work on it. -/
def Alone (c : Config SyncStore SyncPhase) (m : Nat × SyncAction) : Prop :=
  match m.2 with
  | .lookup a => c.store.keys a.key = none → c.store.working a.key = none
  | _ => True

instance (c : Config SyncStore SyncPhase) (m : Nat × SyncAction) : Decidable (Alone c m) := by
  unfold Alone
  split <;> infer_instance

/-! ## What a turn does -/

/-- The turns of attempt `i` in the store `s`: the phase before, the store and the phase after. -/
inductive SyncStep (canonicalRequestHash : Canonical → String) (i : Nat) (s : SyncStore) :
    SyncAction → SyncPhase → SyncStore → SyncPhase → Prop where
  | found (a : SyncAttempt) (k : SyncKey) (hk : s.keys a.key = some k) :
      SyncStep canonicalRequestHash i s (.lookup a) .idle s
        (.answered a (k.answer canonicalRequestHash a.op))
  | missing (a : SyncAttempt) (hk : s.keys a.key = none) :
      SyncStep canonicalRequestHash i s (.lookup a) .idle
        { s with working := Function.update s.working a.key (some i) } (.dispatching a none)
  | created (a : SyncAttempt) (id : UUID) :
      SyncStep canonicalRequestHash i s (.createEntity id) (.dispatching a none)
        { s with created := s.created ++ [(a.key, id)] } (.dispatching a (some id))
  | finished (a : SyncAttempt) (id : UUID) :
      SyncStep canonicalRequestHash i s .finish (.dispatching a (some id)) s
        (.recording a (a.op.processed id))
  | failed (a : SyncAttempt) (errorCode message : String) :
      SyncStep canonicalRequestHash i s (.fail errorCode message) (.dispatching a none) s
        (.recording a (a.op.refuse .failed errorCode message))
  | recorded (a : SyncAttempt) (result : SyncResult) (hk : s.keys a.key = none) :
      SyncStep canonicalRequestHash i s .record (.recording a result)
        ({ s with
          keys := Function.update s.keys a.key
            (some { requestHash := canonicalRequestHash a.op.canonical, result }) }.leave i a.key)
        (.answered a result)
  | raced (a : SyncAttempt) (result : SyncResult) (hk : s.keys a.key ≠ none) :
      SyncStep canonicalRequestHash i s .record (.recording a result) (s.leave i a.key) (.refused a)
  | rechecked (a : SyncAttempt) :
      SyncStep canonicalRequestHash i s .recheck (.refused a) s
        (.answered a (raceAnswer canonicalRequestHash (s.keys a.key) a.op))
  | died (p : SyncPhase) (a : SyncAttempt) (hp : p.underWay = some a) (hmade : p.made = none) :
      SyncStep canonicalRequestHash i s .die p (s.leave i a.key) (.dead a none)
  | stranded (p : SyncPhase) (a : SyncAttempt) (id : UUID) (hp : p.underWay = some a)
      (hmade : p.made = some id) : SyncStep canonicalRequestHash i s .die p s (.dead a (some id))
  | droppedOut (a : SyncAttempt) :
      SyncStep canonicalRequestHash i s .die (.refused a) s (.dead a none)

theorem syncStep_of_turn {canonicalRequestHash : Canonical → String} {i : Nat} {act : SyncAction}
    {s s' : SyncStore} {p p' : SyncPhase}
    (h : syncTurn canonicalRequestHash i act s p = some (s', p')) :
    SyncStep canonicalRequestHash i s act p s' p' := by
  simp only [syncTurn] at h
  split at h
  · split at h
    · next hk => cases h; exact .found _ _ hk
    · next hk => cases h; exact .missing _ hk
  · cases h; exact .created _ _
  · cases h; exact .finished _ _
  · cases h; exact .failed _ _ _
  · split at h
    · next hk => cases h; exact .recorded _ _ hk
    · next hk => cases h; exact .raced _ _ (by rw [hk]; nofun)
  · cases h; exact .rechecked _
  · cases h; exact .died _ _ rfl rfl
  · cases h; exact .stranded _ _ _ rfl rfl
  · split at h
    · next hid => cases h; exact .died _ _ rfl hid
    · next hid => cases h; exact .stranded _ _ _ rfl hid
  · cases h; exact .droppedOut _
  · cases h

/-! ## Stored results -/

section Stored

variable {canonicalRequestHash : Canonical → String} {i : Nat} {act : SyncAction}
  {s s' : SyncStore} {p p' : SyncPhase} {k : UUID × String} {row : SyncKey}

theorem SyncStep.keys (h : SyncStep canonicalRequestHash i s act p s' p')
    (hk : s.keys k = some row) : s'.keys k = some row := by
  cases h with
  | recorded a result hnone =>
    have hne : k ≠ a.key := by
      rintro rfl
      rw [hnone] at hk
      cases hk
    exact (Function.update_of_ne hne _ _).trans hk
  | _ => exact hk

/-- An attempt that has not looked up the stored key yet: if it ever does, it has its answer. -/
def Late (canonicalRequestHash : Canonical → String) (k : UUID × String) (row : SyncKey)
    (p : SyncPhase) : Prop :=
  ∀ a, p.attempt = some a → a.key = k → p = .answered a (row.answer canonicalRequestHash a.op)

theorem SyncStep.late (h : SyncStep canonicalRequestHash i s act p s' p')
    (hk : s.keys k = some row) (hp : Late canonicalRequestHash k row p) :
    Late canonicalRequestHash k row p' := by
  intro a ha hkey
  have hbefore : ∀ {a' : SyncAttempt}, p.attempt = some a' → a'.key = k →
      p = .answered a' (row.answer canonicalRequestHash a'.op) := fun h => hp _ h
  cases h with
  | found a' k' hk' =>
    cases ha
    rw [hkey, hk] at hk'
    cases hk'
    rfl
  | missing a' hnone =>
    cases ha
    rw [hkey, hk] at hnone
    cases hnone
  | died p a' hu _ =>
    cases ha
    cases p <;> cases hu <;> cases hbefore rfl hkey
  | stranded p a' id hu _ =>
    cases ha
    cases p <;> cases hu <;> cases hbefore rfl hkey
  | _ => cases ha; cases hbefore rfl hkey

theorem replayed {c : Config SyncStore SyncPhase} {ms : List (Nat × SyncAction)}
    (hk : c.store.keys k = some row) {i : Nat} (hidle : c.parties i = .idle) {a : SyncAttempt}
    {result : SyncResult} (hkey : a.key = k)
    (ha : (Run.exec (move (syncTurn canonicalRequestHash)) c ms).parties i = .answered a result) :
    result = row.answer canonicalRequestHash a.op := by
  have h : Holds (fun s => s.keys k = some row)
      (fun j _ p => c.parties j = .idle → Late canonicalRequestHash k row p)
      (Run.exec (move (syncTurn canonicalRequestHash)) c ms) := by
    refine holds_run_all ?_ ?_ ⟨hk, fun j hj a ha => ?_⟩
    · intro c' i' act s' p' hc hturn
      have hstep := syncStep_of_turn hturn
      exact ⟨hstep.keys hc.store, fun hj => hstep.late hc.store (hc.party i' hj)⟩
    · intro c' i' act s' p' hc hturn j _
      exact hc.party j
    · rw [hj] at ha
      cases ha
  have hlate := h.party i hidle a (by rw [ha]; rfl) hkey
  rw [ha] at hlate
  cases hlate
  rfl

end Stored

/-! ## One entity for each key -/

structure SyncSound (s : SyncStore) : Prop where
  once : (s.created.map Prod.fst).Nodup
  stored : ∀ {k row}, s.keys k = some row →
    s.working k = none ∧ ∀ id, row.result.serverId = some id → (k, id) ∈ s.created
  backed : ∀ e ∈ s.created, s.working e.1 = none →
    ∃ row, s.keys e.1 = some row ∧ row.result.serverId = some e.2

structure SyncKnows (canonicalRequestHash : Canonical → String) (i : Nat) (s : SyncStore)
    (p : SyncPhase) : Prop where
  working : ∀ {a}, p.unrecorded = some a → s.working a.key = some i
  nothing : ∀ {a}, p.underWay = some a → p.made = none → ∀ e ∈ s.created, e.1 ≠ a.key
  made : ∀ {a id}, p.unrecorded = some a → p.made = some id → (a.key, id) ∈ s.created
  won : ∀ a, p ≠ .refused a
  answered : ∀ {a result}, p = .answered a result → ∃ row, s.keys a.key = some row ∧
    (result = row.result ∨ result = row.answer canonicalRequestHash a.op)

/-- The key of attempt `j`, and what was created under it, are left alone. -/
structure LeavesAttempt (j : Nat) (s s' : SyncStore) : Prop where
  working : ∀ {k}, s.working k = some j → s'.working k = some j
  keys : ∀ {k row}, s.keys k = some row → s'.keys k = some row
  created : ∀ e ∈ s.created, e ∈ s'.created
  others : ∀ e ∈ s'.created, e ∈ s.created ∨ s.working e.1 ≠ some j

section Once

variable {canonicalRequestHash : Canonical → String} {i j : Nat} {act : SyncAction}
  {s s' : SyncStore} {p p' : SyncPhase} {k : UUID × String}

theorem unrecorded_of_underWay {a : SyncAttempt} (h : p.underWay = some a) :
    p.unrecorded = some a := by
  cases p <;> first | exact h | cases h

theorem leave_working_of_ne (h : s.working k = some j) (hj : j ≠ i) (k' : UUID × String) :
    (s.leave i k').working k = some j := by
  simp only [SyncStore.leave]
  split
  · next hk' =>
    have hne : k ≠ k' := by
      rintro rfl
      rw [h] at hk'
      exact hj (Option.some.inj hk')
    rw [Function.update_of_ne hne, h]
  · exact h

theorem leave_working_self (h : s.working k = some i) (k' : UUID × String) :
    (s.leave i k).working k' = if k' = k then none else s.working k' := by
  simp only [SyncStore.leave, if_pos h, Function.update_apply]

theorem SyncKnows.leavesAttempt (h : SyncKnows canonicalRequestHash j s p)
    (hu : LeavesAttempt j s s') : SyncKnows canonicalRequestHash j s' p where
  working ha := hu.working (h.working ha)
  nothing {a} ha hmade e he := by
    rcases hu.others e he with he | hother
    · exact h.nothing ha hmade e he
    · intro hkey
      rw [hkey] at hother
      exact hother (h.working (unrecorded_of_underWay ha))
  made ha hmade := hu.created _ (h.made ha hmade)
  won := h.won
  answered ha := by
    obtain ⟨row, hrow, hresult⟩ := h.answered ha
    exact ⟨row, hu.keys hrow, hresult⟩

theorem SyncStep.leavesAttempt (h : SyncStep canonicalRequestHash i s act p s' p')
    (hp : SyncKnows canonicalRequestHash i s p)
    (halone : ∀ a, act = .lookup a → s.keys a.key = none → s.working a.key = none)
    (hj : j ≠ i) : LeavesAttempt j s s' := by
  have hkeys : ∀ {k row}, s.keys k = some row → s'.keys k = some row := fun hk => h.keys hk
  cases h with
  | missing a hk =>
    refine ⟨fun {k} hw => ?_, hkeys, fun _ he => he, fun _ he => .inl he⟩
    have hne : k ≠ a.key := by
      rintro rfl
      rw [halone a rfl hk] at hw
      cases hw
    exact (Function.update_of_ne hne _ _).trans hw
  | created a id =>
    refine ⟨fun hw => hw, hkeys, fun _ he => List.mem_append_left _ he, fun e he => ?_⟩
    rcases List.mem_append.mp he with he | he
    · exact .inl he
    · rw [List.mem_singleton.mp he]
      refine .inr fun hw => hj ?_
      rw [hp.working rfl] at hw
      exact (Option.some.inj hw).symm
  | recorded a result hk =>
    exact ⟨fun hw => leave_working_of_ne (s := { s with keys := _ }) hw hj _, hkeys,
      fun _ he => he, fun _ he => .inl he⟩
  | raced a result hk =>
    exact ⟨fun hw => leave_working_of_ne hw hj _, hkeys, fun _ he => he, fun _ he => .inl he⟩
  | died p a hu hmade =>
    exact ⟨fun hw => leave_working_of_ne hw hj _, hkeys, fun _ he => he, fun _ he => .inl he⟩
  | _ => exact ⟨fun hw => hw, hkeys, fun _ he => he, fun _ he => .inl he⟩

theorem keys_of_working (hs : SyncSound s) (hw : s.working k = some i) : s.keys k = none := by
  cases hk : s.keys k with
  | none => rfl
  | some row =>
    rw [(hs.stored hk).1] at hw
    cases hw

theorem SyncSound.created {a : SyncAttempt} {id : UUID} (hs : SyncSound s)
    (hp : SyncKnows canonicalRequestHash i s (.dispatching a none)) :
    SyncSound { s with created := s.created ++ [(a.key, id)] } := by
  have hw : s.working a.key = some i := hp.working rfl
  refine ⟨?_, fun {k row} hrow => ⟨(hs.stored hrow).1, fun id' hid' => ?_⟩, fun e he hnone => ?_⟩
  · exact Interleave.nodup_append_entry hs.once (hp.nothing rfl rfl)
  · exact List.mem_append_left _ ((hs.stored hrow).2 id' hid')
  · rcases List.mem_append.mp he with he | he
    · exact hs.backed e he hnone
    · rw [List.mem_singleton.mp he, hw] at hnone
      cases hnone

theorem SyncSound.recorded {a : SyncAttempt} {result : SyncResult} (hs : SyncSound s)
    (hp : SyncKnows canonicalRequestHash i s (.recording a result)) :
    SyncSound ({ s with
      keys := Function.update s.keys a.key
        (some { requestHash := canonicalRequestHash a.op.canonical, result }) }.leave i a.key) := by
  have hw : s.working a.key = some i := hp.working rfl
  have hleave : ∀ k, SyncStore.working (SyncStore.leave { s with
      keys := Function.update s.keys a.key
        (some { requestHash := canonicalRequestHash a.op.canonical, result }) } i a.key) k =
        if k = a.key then none else s.working k := leave_working_self hw
  refine ⟨hs.once, fun {k row} hrow => ?_, fun e he hnone => ?_⟩
  · by_cases hkey : k = a.key
    · subst hkey
      have hrow' : Function.update s.keys a.key
          (some { requestHash := canonicalRequestHash a.op.canonical, result }) a.key = some row :=
        hrow
      rw [Function.update_self] at hrow'
      cases hrow'
      exact ⟨by rw [hleave, if_pos rfl], fun id hid => hp.made rfl hid⟩
    · have hrow' : s.keys k = some row := (Function.update_of_ne hkey _ _).symm.trans hrow
      exact ⟨by rw [hleave, if_neg hkey, (hs.stored hrow').1], (hs.stored hrow').2⟩
  · by_cases hkey : e.1 = a.key
    · refine ⟨_, by rw [hkey]; exact Function.update_self .., ?_⟩
      cases hid : result.serverId with
      | none => exact absurd hkey (hp.nothing rfl hid e he)
      | some id =>
        have heq := List.inj_on_of_nodup_map hs.once he (hp.made rfl hid) hkey
        rw [heq]
    · rw [hleave, if_neg hkey] at hnone
      obtain ⟨row, hrow, hid⟩ := hs.backed e he hnone
      exact ⟨row, (Function.update_of_ne hkey _ _).trans hrow, hid⟩

theorem SyncStep.sound (h : SyncStep canonicalRequestHash i s act p s' p') (hs : SyncSound s)
    (hp : SyncKnows canonicalRequestHash i s p) : SyncSound s' := by
  cases h with
  | missing a hk =>
    refine ⟨hs.once, fun {k row} hrow => ?_, fun e he hw => ?_⟩
    · have hne : k ≠ a.key := by
        rintro rfl
        rw [hk] at hrow
        cases hrow
      exact ⟨(Function.update_of_ne hne _ _).trans (hs.stored hrow).1, (hs.stored hrow).2⟩
    · by_cases hkey : e.1 = a.key
      · have hw' : Function.update s.working a.key (some i) e.1 = none := hw
        rw [hkey, Function.update_self] at hw'
        cases hw'
      · exact hs.backed e he ((Function.update_of_ne hkey _ _).symm.trans hw)
  | created a id => exact hs.created hp
  | recorded a result hk => exact hs.recorded hp
  | raced a result hk => exact absurd (keys_of_working hs (hp.working rfl)) hk
  | died p a hu hmade =>
    have hleave := leave_working_self (hp.working (unrecorded_of_underWay hu))
    refine ⟨hs.once, fun {k row} hrow => ⟨?_, (hs.stored hrow).2⟩, fun e he hnone => ?_⟩
    · rw [hleave]
      split
      · rfl
      · exact (hs.stored hrow).1
    · rw [hleave, if_neg (hp.nothing hu hmade e he)] at hnone
      exact hs.backed e he hnone
  | _ => exact hs

theorem SyncStep.knows (h : SyncStep canonicalRequestHash i s act p s' p') (hs : SyncSound s)
    (hp : SyncKnows canonicalRequestHash i s p)
    (halone : ∀ a, act = .lookup a → s.keys a.key = none → s.working a.key = none) :
    SyncKnows canonicalRequestHash i s' p' := by
  cases h with
  | found a k hk =>
    refine ⟨nofun, nofun, nofun, nofun, fun h => ?_⟩
    cases h
    exact ⟨k, hk, .inr rfl⟩
  | missing a hk =>
    refine ⟨fun h => ?_, fun h _ e he hkey => ?_, (fun _ h => by cases h), nofun, nofun⟩
    · cases h
      exact Function.update_self ..
    · cases h
      obtain ⟨row, hrow, _⟩ := hs.backed e he (by rw [hkey]; exact halone a rfl hk)
      rw [hkey, hk] at hrow
      cases hrow
  | created a id =>
    refine ⟨hp.working, nofun, fun h hid => ?_, nofun, nofun⟩
    cases h
    cases hid
    exact List.mem_append_right _ (List.mem_singleton.mpr rfl)
  | finished a id =>
    refine ⟨hp.working, nofun, fun h hid => ?_, nofun, nofun⟩
    cases h
    cases hid
    exact hp.made rfl rfl
  | failed a errorCode message =>
    refine ⟨hp.working, fun h _ => ?_, (fun _ h => by cases h), nofun, nofun⟩
    cases h
    exact hp.nothing rfl rfl
  | recorded a result hk =>
    refine ⟨nofun, nofun, nofun, nofun, fun h => ?_⟩
    cases h
    exact ⟨_, Function.update_self .., .inl rfl⟩
  | raced a result hk => exact absurd (keys_of_working hs (hp.working rfl)) hk
  | rechecked a => exact absurd rfl (hp.won a)
  | died p a hu hmade => exact ⟨nofun, nofun, nofun, nofun, nofun⟩
  | stranded p a id hu hmade =>
    refine ⟨fun h => ?_, nofun, fun h hid => ?_, nofun, nofun⟩
    · cases h
      exact hp.working (unrecorded_of_underWay hu)
    · cases h
      cases hid
      exact hp.made (unrecorded_of_underWay hu) hmade
  | droppedOut a => exact absurd rfl (hp.won a)

end Once

/-! ## Runs -/

/-- At most one entity was created under each key, and whoever was answered was answered with the
stored result. -/
structure CreatedOnce (canonicalRequestHash : Canonical → String)
    (c : Config SyncStore SyncPhase) : Prop where
  once : (c.store.created.map Prod.fst).Nodup
  answered : ∀ {i a result}, c.parties i = .answered a result → ∃ row,
    c.store.keys a.key = some row ∧
      (result = row.result ∨ result = row.answer canonicalRequestHash a.op)
  stored : ∀ {k row}, c.store.keys k = some row → ∀ id, row.result.serverId = some id →
    (k, id) ∈ c.store.created

/-- If no attempt looks a key up while another one is at work on it, or has died with its entity
committed and its key not: one entity for each key. And once a key is stored, every attempt that
comes later, in whatever order and wherever attempts die, is answered from it. -/
theorem sync_creates_once (canonicalRequestHash : Canonical → String)
    (ms : List (Nat × SyncAction))
    (halone : Run.Along (move (syncTurn canonicalRequestHash)) Alone syncStart ms) :
    CreatedOnce canonicalRequestHash (syncRun canonicalRequestHash ms) ∧
      ∀ ms' i a result row, (syncRun canonicalRequestHash ms).store.keys a.key = some row →
        (syncRun canonicalRequestHash ms).parties i = .idle →
        (syncRun canonicalRequestHash (ms ++ ms')).parties i = .answered a result →
        result = row.answer canonicalRequestHash a.op := by
  have h : Holds SyncSound (SyncKnows canonicalRequestHash) (syncRun canonicalRequestHash ms) := by
    refine holds_run ?_ ?_ ⟨?_, fun i => ?_⟩ halone
    · intro c i act s' p' hc hC hturn
      have hstep := syncStep_of_turn hturn
      have halone : ∀ a, act = .lookup a → c.store.keys a.key = none →
          c.store.working a.key = none := by
        rintro a rfl
        exact hC
      exact ⟨hstep.sound hc.store (hc.party i), hstep.knows hc.store (hc.party i) halone⟩
    · intro c i act s' p' hc hC hturn j hj
      have halone : ∀ a, act = .lookup a → c.store.keys a.key = none →
          c.store.working a.key = none := by
        rintro a rfl
        exact hC
      exact (hc.party j).leavesAttempt
        ((syncStep_of_turn hturn).leavesAttempt (hc.party i) halone hj)
    · exact ⟨List.nodup_nil, nofun, nofun⟩
    · exact ⟨nofun, nofun, nofun, nofun, nofun⟩
  refine ⟨⟨h.store.once, fun ha => (h.party _).answered ha, fun hk => (h.store.stored hk).2⟩, ?_⟩
  intro ms' i a result row hk hidle ha
  rw [syncRun, Run.exec_append] at ha
  exact replayed hk hidle rfl ha

/-! ## Two attempts -/

/-- A fuel log of the device. -/
def fuelAttempt : SyncAttempt where
  tenantId := 1
  op := { localId := "l", idempotencyKey := "k", operation := "create", entityType := "fuel_log",
          payload := "{}" }

/-- The first attempt is done before the second one comes. -/
def oneAfterTheOther : List (Nat × SyncAction) :=
  [(0, .lookup fuelAttempt), (0, .createEntity 7), (0, .finish), (0, .record),
    (1, .lookup fuelAttempt)]

/-- SHA-256 of the canonical form of the operation. -/
def fuelHash : Canonical → String := fun _ =>
  "e7ff138b0069ef3c03dacd9d59eb44650960be1060c266e2a7df8ea1065283cf"

theorem sync_creates_once_retried :
    CreatedOnce fuelHash (syncRun fuelHash oneAfterTheOther) ∧
      ∀ ms' i a result row, (syncRun fuelHash oneAfterTheOther).store.keys a.key = some row →
        (syncRun fuelHash oneAfterTheOther).parties i = .idle →
        (syncRun fuelHash (oneAfterTheOther ++ ms')).parties i = .answered a result →
        result = row.answer fuelHash a.op :=
  sync_creates_once fuelHash oneAfterTheOther (by decide +kernel)

/-- Both find no key, and both create. -/
theorem two_entities : ¬ ((syncRun fuelHash [(0, .lookup fuelAttempt), (1, .lookup fuelAttempt),
      (0, .createEntity 7), (1, .createEntity 8)]).store.created.map Prod.fst).Nodup := by
  decide +kernel

end Rotas
