import Rotas.Lib.Interleave

/-!
# Rotas.Lib.CacheAside

Answers that are worked out from data that change, and cached for a while under a key of the request.
Parties ask at the same time; the one that takes the lock of a key works its answer out and caches
it, the others work theirs out and cache nothing.

* `Cache`, `Call`, `Act`, `turn` — the shared state, where a call is, and its steps.
* `Timely`        — an answer is what the data said at an instant not too long ago.
* `Served`        — what a step must find for its answer to be timely: an entry for the same request,
  or a result, that is not too old.
* `timely_run`    — every answer of a run whose steps find that is timely.
-/

namespace Rotas
namespace CacheAside

open Interleave

universe u

/-- Where answers come from: how a request is answered at an instant, if it can be, and how long
answers and locks are kept. -/
structure Origin (ω ρ κ β : Type) where
  answer : ρ → Int → ω → Option β
  key : ρ → κ
  ttl : Nat
  lockTtl : Nat

variable {ω ρ κ β : Type}

/-- An entry is the value; what it was worked out for and when is kept for the statements. -/
structure Entry (ρ β : Type) where
  value : β
  expires : Int
  request : ρ
  readAt : Int

/-- The data with their past, and the cache, if there is one. -/
structure Cache (ω ρ κ β : Type) where
  now : Int
  data : ω
  past : List (Int × ω)
  redis : Bool
  entries : κ → Option (Entry ρ β)
  locks : κ → Option Int

inductive Call (ρ β : Type) where
  | idle
  /-- There is no cache. -/
  | direct (request : ρ)
  | missed (request : ρ)
  | holding (request : ρ)
  /-- Someone else holds the lock. -/
  | refused (request : ρ)
  | computed (request : ρ) (value : β) (readAt : Int)
  | cached (request : ρ) (value : β) (readAt : Int)
  | answered (request : ρ) (value : β) (answeredAt : Int)

inductive Act (ω ρ : Type) where
  | ask (request : ρ)
  | lock
  | compute
  | store
  | unlock
  /-- The work fails; a lock that is held is given back. -/
  | fail
  /-- The party is gone; its lock stays. -/
  | abandon
  /-- Time goes by, and the data are what they are then. -/
  | pass (seconds : Nat) (data : ω)

variable [DecidableEq κ]

/-- The entry of a key that is still there. -/
def Cache.get (s : Cache ω ρ κ β) (k : κ) : Option (Entry ρ β) :=
  (s.entries k).filter fun e => s.now < e.expires

/-- Nobody's lock is still there. -/
def Cache.free (s : Cache ω ρ κ β) (k : κ) : Bool := (s.locks k).all fun expires => expires ≤ s.now

def Cache.unlock (s : Cache ω ρ κ β) (k : κ) : Cache ω ρ κ β :=
  { s with locks := Function.update s.locks k none }

variable (O : Origin ω ρ κ β)

def ask (request : ρ) (s : Cache ω ρ κ β) : Call ρ β :=
  if s.redis then
    match s.get (O.key request) with
    | some e => .answered request e.value s.now
    | none => .missed request
  else .direct request

/-- The answer of a call that caches nothing. -/
def answerNow (request : ρ) (s : Cache ω ρ κ β) : Call ρ β :=
  match O.answer request s.now s.data with
  | some value => .answered request value s.now
  | none => .idle

def turn (_ : Nat) (act : Act ω ρ) (s : Cache ω ρ κ β) (l : Call ρ β) :
    Option (Cache ω ρ κ β × Call ρ β) :=
  match act, l with
  | .ask request, .idle => some (s, ask O request s)
  | .ask request, .answered _ _ _ => some (s, ask O request s)
  | .lock, .missed request =>
    if s.free (O.key request) then
      some ({ s with
        locks := Function.update s.locks (O.key request) (some (s.now + O.lockTtl)) },
        .holding request)
    else some (s, .refused request)
  | .compute, .direct request => some (s, answerNow O request s)
  | .compute, .refused request => some (s, answerNow O request s)
  | .compute, .holding request =>
    match O.answer request s.now s.data with
    | some value => some (s, .computed request value s.now)
    | none => some (s.unlock (O.key request), .idle)
  | .store, .computed request value readAt =>
    let entry : Entry ρ β := { value, expires := s.now + O.ttl, request, readAt }
    some ({ s with entries := Function.update s.entries (O.key request) (some entry) },
      .cached request value readAt)
  | .unlock, .cached request value _ =>
    some (s.unlock (O.key request), .answered request value s.now)
  | .fail, .holding request => some (s.unlock (O.key request), .idle)
  | .fail, .computed request _ _ => some (s.unlock (O.key request), .idle)
  | .fail, _ => some (s, .idle)
  | .abandon, _ => some (s, .idle)
  | .pass seconds data, l =>
    some ({ s with
      now := s.now + seconds
      data
      past := (s.now + seconds, data) :: s.past }, l)
  | _, _ => none

/-! ## Timely answers -/

/-- An answer is what the data said at an instant at most `ttl` before it was given. -/
def Timely (s : Cache ω ρ κ β) (request : ρ) (value : β) (answeredAt : Int) :
    Prop :=
  ∃ t w, (t, w) ∈ s.past ∧ t ≤ answeredAt ∧ answeredAt ≤ t + O.ttl ∧ O.answer request t w = some value

/-- What was read of the data at an instant. -/
def ReadOf (s : Cache ω ρ κ β) (request : ρ) (value : β) (readAt : Int) : Prop :=
  readAt ≤ s.now ∧ ∃ w, (readAt, w) ∈ s.past ∧ O.answer request readAt w = some value

/-- What a step must find: `same r r' t` says of two requests
with one key that they are answered alike at the instant. -/
def Served (same : ρ → ρ → Int → Prop) (c : Config (Cache ω ρ κ β) (Call ρ β))
    (m : Nat × Act ω ρ) : Prop :=
  match m.2, c.parties m.1 with
  | .ask request, _ => c.store.redis = true → ∀ e ∈ c.store.get (O.key request),
      same request e.request e.readAt ∧ c.store.now ≤ e.readAt + O.ttl
  | .unlock, .cached _ _ readAt => c.store.now ≤ readAt + O.ttl
  | _, _ => True

structure CacheInv (s : Cache ω ρ κ β) : Prop where
  present : (s.now, s.data) ∈ s.past
  entries : ∀ k e, s.entries k = some e →
    O.key e.request = k ∧ ReadOf O s e.request e.value e.readAt

def CallInv (s : Cache ω ρ κ β) : Call ρ β → Prop
  | .computed request value readAt => ReadOf O s request value readAt
  | .cached request value readAt => ReadOf O s request value readAt
  | .answered request value answeredAt => Timely O s request value answeredAt
  | _ => True

/-! ## What a step keeps -/

section

variable {O} {s s' : Cache ω ρ κ β} {l l' : Call ρ β} {request : ρ} {value : β} {k : κ} {t : Int}

/-- Time goes on, and the past is not forgotten. -/
structure Cache.Grows (s s' : Cache ω ρ κ β) : Prop where
  now : s.now ≤ s'.now
  past : s.past ⊆ s'.past

omit [DecidableEq κ] in
theorem Cache.Grows.same (hnow : s'.now = s.now) (hpast : s'.past = s.past) : s.Grows s' :=
  ⟨hnow ▸ Int.le_refl _, hpast ▸ List.Subset.refl _⟩

omit [DecidableEq κ] in
theorem ReadOf.grow (h : ReadOf O s request value t) (hgrows : s.Grows s') :
    ReadOf O s' request value t := by
  obtain ⟨hle, w, hw, hvalue⟩ := h
  exact ⟨Int.le_trans hle hgrows.now, w, hgrows.past hw, hvalue⟩

omit [DecidableEq κ] in
theorem Timely.grow (h : Timely O s request value t) (hgrows : s.Grows s') :
    Timely O s' request value t := by
  obtain ⟨u, w, hw, hrest⟩ := h
  exact ⟨u, w, hgrows.past hw, hrest⟩

omit [DecidableEq κ] in
theorem CallInv.grow (h : CallInv O s l) (hgrows : s.Grows s') : CallInv O s' l := by
  cases l with
  | computed => exact ReadOf.grow h hgrows
  | cached => exact ReadOf.grow h hgrows
  | answered => exact Timely.grow h hgrows
  | _ => trivial

omit [DecidableEq κ] in
theorem readOf_now (h : CacheInv O s) (hvalue : O.answer request s.now s.data = some value) :
    ReadOf O s request value s.now :=
  ⟨Int.le_refl _, s.data, h.present, hvalue⟩

omit [DecidableEq κ] in
theorem answerNow_inv (h : CacheInv O s) : CallInv O s (answerNow O request s) := by
  unfold answerNow
  split
  · next value hvalue => exact ⟨s.now, s.data, h.present, Int.le_refl _, by omega, hvalue⟩
  · trivial

omit [DecidableEq κ] in
theorem ReadOf.timely (h : ReadOf O s request value t) (hsoon : s.now ≤ t + O.ttl) :
    Timely O s request value s.now := by
  obtain ⟨hle, w, hw, hvalue⟩ := h
  exact ⟨t, w, hw, hle, hsoon, hvalue⟩

omit [DecidableEq κ] in
/-- A changed cache of the same data keeps the invariant if the entries do. -/
theorem CacheInv.of_entries (h : CacheInv O s) (hnow : s'.now = s.now) (hdata : s'.data = s.data)
    (hpast : s'.past = s.past)
    (hentries : ∀ k e, s'.entries k = some e →
      O.key e.request = k ∧ ReadOf O s e.request e.value e.readAt) : CacheInv O s' := by
  constructor
  · rw [hnow, hdata, hpast]
    exact h.present
  · intro k e he
    exact ⟨(hentries k e he).1, (hentries k e he).2.grow (.same hnow hpast)⟩

omit [DecidableEq κ] in
theorem ask_inv (h : CacheInv O s) {same : ρ → ρ → Int → Prop}
    (hsame : ∀ r r' t w, O.key r = O.key r' → same r r' t → O.answer r t w = O.answer r' t w)
    (hserved : s.redis = true → ∀ e ∈ s.get (O.key request),
      same request e.request e.readAt ∧ s.now ≤ e.readAt + O.ttl) :
    CallInv O s (ask O request s) := by
  unfold ask
  split
  · next hredis =>
    split
    · next e he =>
      obtain ⟨halike, hsoon⟩ := hserved hredis e he
      obtain ⟨hkey, hle, w, hw, hvalue⟩ := h.entries _ e (Option.filter_eq_some_iff.mp he).1
      exact ⟨e.readAt, w, hw, hle, hsoon, (hsame _ _ _ w hkey.symm halike).trans hvalue⟩
    · trivial
  · trivial

/-- An entry is written for what was read. -/
theorem CacheInv.store (h : CacheInv O s) (hread : ReadOf O s request value t) (expires : Int) :
    CacheInv O { s with
      entries := Function.update s.entries (O.key request)
        (some { value, expires, request, readAt := t }) } := by
  refine h.of_entries rfl rfl rfl fun k e he => ?_
  replace he : Function.update s.entries (O.key request) _ k = some e := he
  by_cases hk : k = O.key request
  · rw [hk, Function.update_self] at he
    cases he
    exact ⟨hk.symm, hread⟩
  · rw [Function.update_of_ne hk] at he
    exact h.entries k e he

omit [DecidableEq κ] in
theorem CacheInv.pass (h : CacheInv O s) (seconds : Nat) (data : ω) :
    CacheInv O { s with
      now := s.now + seconds
      data
      past := (s.now + seconds, data) :: s.past } ∧ s.Grows { s with
        now := s.now + seconds
        data
        past := (s.now + seconds, data) :: s.past } := by
  have hgrows : s.Grows { s with
      now := s.now + seconds
      data
      past := (s.now + seconds, data) :: s.past } :=
    ⟨Int.le_add_of_nonneg_right (Int.natCast_nonneg seconds), List.subset_cons_self _ _⟩
  refine ⟨⟨List.mem_cons_self, fun k e he => ?_⟩, hgrows⟩
  exact ⟨(h.entries k e he).1, (h.entries k e he).2.grow hgrows⟩

theorem turn_inv {same : ρ → ρ → Int → Prop}
    (hsame : ∀ r r' t w, O.key r = O.key r' → same r r' t → O.answer r t w = O.answer r' t w)
    {c : Config (Cache ω ρ κ β) (Call ρ β)} {i : Nat} {act : Act ω ρ}
    (hcache : CacheInv O c.store) (hcall : CallInv O c.store (c.parties i))
    (hserved : Served O same c (i, act))
    (h : turn O i act c.store (c.parties i) = some (s', l')) :
    CacheInv O s' ∧ CallInv O s' l' ∧ c.store.Grows s' := by
  generalize hl : c.parties i = l at *
  have hkeep (k : κ) (e : Entry ρ β) (he : c.store.entries k = some e) :
      O.key e.request = k ∧ ReadOf O c.store e.request e.value e.readAt := hcache.entries k e he
  cases act with
  | ask request =>
    have hask : CallInv O c.store (ask O request c.store) :=
      ask_inv hcache hsame (by simpa [Served] using hserved)
    cases l with
    | idle | answered =>
      cases h
      exact ⟨hcache, hask, .same rfl rfl⟩
    | _ => cases h
  | lock =>
    cases l with
    | missed request =>
      simp only [turn] at h
      split at h
      · cases h
        exact ⟨hcache.of_entries rfl rfl rfl hkeep, trivial, .same rfl rfl⟩
      · cases h
        exact ⟨hcache, trivial, .same rfl rfl⟩
    | _ => cases h
  | compute =>
    cases l with
    | direct | refused =>
      cases h
      exact ⟨hcache, answerNow_inv hcache, .same rfl rfl⟩
    | holding request =>
      simp only [turn] at h
      split at h
      · next value hvalue =>
        cases h
        exact ⟨hcache, readOf_now hcache hvalue, .same rfl rfl⟩
      · cases h
        exact ⟨hcache.of_entries rfl rfl rfl hkeep, trivial, .same rfl rfl⟩
    | _ => cases h
  | store =>
    cases l with
    | computed request value readAt =>
      cases h
      exact ⟨hcache.store hcall _, ReadOf.grow hcall (.same rfl rfl), .same rfl rfl⟩
    | _ => cases h
  | unlock =>
    cases l with
    | cached request value readAt =>
      cases h
      have hsoon : c.store.now ≤ readAt + O.ttl := by
        simpa only [Served, hl] using hserved
      exact ⟨hcache.of_entries rfl rfl rfl hkeep,
        (ReadOf.timely hcall hsoon).grow (.same rfl rfl), .same rfl rfl⟩
    | _ => cases h
  | fail =>
    cases l with
    | holding | computed =>
      cases h
      exact ⟨hcache.of_entries rfl rfl rfl hkeep, trivial, .same rfl rfl⟩
    | _ =>
      cases h
      exact ⟨hcache, trivial, .same rfl rfl⟩
  | abandon =>
    cases h
    exact ⟨hcache, trivial, .same rfl rfl⟩
  | pass seconds data =>
    cases h
    obtain ⟨hcache', hgrows⟩ := hcache.pass seconds data
    exact ⟨hcache', CallInv.grow hcall hgrows, hgrows⟩

theorem timely_run {same : ρ → ρ → Int → Prop}
    (hsame : ∀ r r' t w, O.key r = O.key r' → same r r' t → O.answer r t w = O.answer r' t w)
    {c : Config (Cache ω ρ κ β) (Call ρ β)} {ms : List (Nat × Act ω ρ)}
    (hstart : Holds (CacheInv O) (fun _ => CallInv O) c)
    (hserved : Run.Along (move (turn O)) (Served O same) c ms) :
    Holds (CacheInv O) (fun _ => CallInv O) (Run.exec (move (turn O)) c ms) := by
  refine holds_run ?_ ?_ hstart hserved
  · intro c i act s' l' hI hC hturn
    obtain ⟨hcache, hcall, -⟩ := turn_inv hsame hI.store (hI.party i) hC hturn
    exact ⟨hcache, hcall⟩
  · intro c i act s' l' hI hC hturn j _
    obtain ⟨-, -, hgrows⟩ := turn_inv hsame hI.store (hI.party i) hC hturn
    exact (hI.party j).grow hgrows

end

end CacheAside
end Rotas
