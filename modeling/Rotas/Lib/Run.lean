import Mathlib.Init

/-!
# Rotas.Lib.Run

Runs of a deterministic transition function over any state and action types. An interleaving is a
run whose actions name the party that moves next.

* `exec step s as` — the state after the actions `as`, taken in order.
* `Along step C s as` — every action of the run is taken in a state where `C` allows it;
  `along_iff_splits` says it of every place of the run.
* `exec_inv`, `along_inv` — the invariant rule: one step lemma gives the run lemma.
* `along_congr`, `along_iff_keeps` — conditions that the invariant makes the same, and the condition
  that keeps the invariant.
* `exec_or_event`, `event_of_measure` — what every step keeps or gives up at an event; a measure that
  some of the actions take down brings the event about.
* `Inserted`, `base`, `woven`, `both` — a run, the same run with extra actions at any points, and the
  two side by side; `woven_related` is what every step keeps between them.
* `Moves obs step C R` — an allowed step leaves an item, under its key, as it is or takes it along
  `R`, and loses none.
* `exec_related`, `exec_keeps` — over a run, an item is related by every preorder that holds along
  `R`, and what no edge out of `P` changes stays.
-/

namespace Rotas
namespace Run

universe u v

variable {σ : Type u} {α : Type v}

/-- The state after the actions `as`, taken one after the other from `s`. -/
def exec (step : σ → α → σ) : σ → List α → σ
  | s, [] => s
  | s, a :: as => exec step (step s a) as

/-- Every action of the run is taken in a state where `C` allows it. -/
def Along (step : σ → α → σ) (C : σ → α → Prop) : σ → List α → Prop
  | _, [] => True
  | s, a :: as => C s a ∧ Along step C (step s a) as

instance Along.instDecidable (step : σ → α → σ) (C : σ → α → Prop)
    [∀ s a, Decidable (C s a)] : ∀ (s : σ) (as : List α), Decidable (Along step C s as)
  | _, [] => .isTrue trivial
  | s, a :: as =>
    have := Along.instDecidable step C (step s a) as
    inferInstanceAs (Decidable (C s a ∧ Along step C (step s a) as))

/-- What each action is allowed to do in every state, it is along the run. -/
theorem along_of_forall {step : σ → α → σ} {C : σ → α → Prop} {as : List α}
    (h : ∀ a ∈ as, ∀ s, C s a) : ∀ s, Along step C s as := by
  induction as with
  | nil => intro s; trivial
  | cons a as ih =>
    intro s
    exact ⟨h a List.mem_cons_self s, ih (fun b hb => h b (List.mem_cons_of_mem _ hb)) _⟩

theorem along_and {step : σ → α → σ} {C D : σ → α → Prop} {as : List α} :
    ∀ {s : σ}, Along step C s as → Along step D s as →
      Along step (fun s a => C s a ∧ D s a) s as := by
  induction as with
  | nil => intro s _ _; trivial
  | cons a as ih =>
    intro s hC hD
    exact ⟨⟨hC.1, hD.1⟩, ih hC.2 hD.2⟩

@[simp] theorem exec_nil (step : σ → α → σ) (s : σ) : exec step s [] = s := rfl

@[simp] theorem exec_cons (step : σ → α → σ) (s : σ) (a : α) (as : List α) :
    exec step s (a :: as) = exec step (step s a) as := rfl

theorem exec_append (step : σ → α → σ) (s : σ) (as bs : List α) :
    exec step s (as ++ bs) = exec step (exec step s as) bs := by
  induction as generalizing s with
  | nil => rfl
  | cons a as ih => simp only [List.cons_append, exec_cons, ih]

theorem along_append {step : σ → α → σ} {C : σ → α → Prop} {as bs : List α} :
    ∀ {s : σ}, Along step C s (as ++ bs) ↔ Along step C s as ∧ Along step C (exec step s as) bs := by
  induction as with
  | nil => intro s; exact ⟨fun h => ⟨trivial, h⟩, And.right⟩
  | cons a as ih =>
    intro s
    rw [List.cons_append, Along, Along, ih, and_assoc]
    rfl

theorem along_iff_splits {step : σ → α → σ} {C : σ → α → Prop} {as : List α} {s : σ} :
    Along step C s as ↔
      ∀ before a after, as = before ++ a :: after → C (exec step s before) a := by
  constructor
  · rintro h before a after rfl
    exact (along_append.mp h).2.1
  · intro h
    induction as generalizing s with
    | nil => trivial
    | cons a as ih =>
      exact ⟨h [] a as rfl, ih fun before b after hsplit =>
        h (a :: before) b after (congrArg (a :: ·) hsplit)⟩

theorem exec_inv {step : σ → α → σ} {C : σ → α → Prop} {I : σ → Prop}
    (hstep : ∀ s a, I s → C s a → I (step s a)) :
    ∀ {as : List α} {s : σ}, I s → Along step C s as → I (exec step s as) := by
  intro as
  induction as with
  | nil => intro s hs _; exact hs
  | cons a as ih =>
    intro s hs hC
    obtain ⟨ha, has⟩ := hC
    exact ih (hstep s a hs ha) has

theorem along_inv {step : σ → α → σ} {C D : σ → α → Prop} {I : σ → Prop}
    (hstep : ∀ s a, I s → C s a → I (step s a)) (hD : ∀ s a, I s → C s a → D s a) :
    ∀ {as : List α} {s : σ}, I s → Along step C s as → Along step D s as := by
  intro as
  induction as with
  | nil => intro s _ _; trivial
  | cons a as ih =>
    intro s hs hC
    obtain ⟨ha, has⟩ := hC
    exact ⟨hD s a hs ha, ih (hstep s a hs ha) has⟩

theorem along_congr {step : σ → α → σ} {C D : σ → α → Prop} {I : σ → Prop}
    (hstep : ∀ s a, I s → I (step s a)) (hCD : ∀ s a, I s → (C s a ↔ D s a)) {as : List α} :
    ∀ {s : σ}, I s → (Along step C s as ↔ Along step D s as) := by
  induction as with
  | nil => intro s _; exact Iff.rfl
  | cons a as ih =>
    intro s hs
    exact and_congr (hCD s a hs) (ih (hstep s a hs))

theorem along_iff_keeps {step : σ → α → σ} {C : σ → α → Prop} {I G : σ → Prop}
    (hG : ∀ s, I s → G s) (hstep : ∀ s a, I s → C s a → I (step s a))
    (hback : ∀ s a, I s → G (step s a) → C s a) {as : List α} :
    ∀ {s : σ}, I s → (Along step C s as ↔ Along step (fun s a => G (step s a)) s as) := by
  induction as with
  | nil => intro s _; exact Iff.rfl
  | cons a as ih =>
    intro s hs
    constructor
    · rintro ⟨ha, has⟩
      have hnext : I (step s a) := hstep s a hs ha
      exact ⟨hG _ hnext, (ih hnext).mp has⟩
    · rintro ⟨hnext, has⟩
      have ha : C s a := hback s a hs hnext
      exact ⟨ha, (ih (hstep s a hs ha)).mpr has⟩

theorem exec_inv_all {step : σ → α → σ} {I : σ → Prop} (hstep : ∀ s a, I s → I (step s a))
    {as : List α} {s : σ} (hs : I s) : I (exec step s as) := by
  induction as generalizing s with
  | nil => exact hs
  | cons a as ih => exact ih (hstep s a hs)

theorem exec_or_event {step : σ → α → σ} {I : σ → Prop} {E : σ → α → Prop}
    (hstep : ∀ s a, I s → I (step s a) ∨ E s a) {as : List α} {s : σ} (hs : I s) :
    I (exec step s as) ∨ ∃ before a after, as = before ++ a :: after ∧ E (exec step s before) a := by
  induction as generalizing s with
  | nil => exact .inl hs
  | cons a as ih =>
    rcases hstep s a hs with hkept | hevent
    · rcases ih hkept with hend | ⟨before, b, after, rfl, hb⟩
      · exact .inl hend
      · exact .inr ⟨a :: before, b, after, rfl, hb⟩
    · exact .inr ⟨[], a, as, rfl, hevent⟩

theorem event_of_measure {step : σ → α → σ} {I : σ → Prop} {C : α → Prop} {E : σ → α → Prop}
    {A : α → Bool} {μ : σ → Nat}
    (hstep : ∀ s a, I s → C a → E s a ∨
      I (step s a) ∧ μ (step s a) ≤ μ s ∧ (A a = true → μ (step s a) < μ s)) :
    ∀ {as : List α} {s : σ}, I s → (∀ a ∈ as, C a) → μ s < as.countP A →
      ∃ before a after, as = before ++ a :: after ∧ E (exec step s before) a := by
  intro as
  induction as with
  | nil => intro s _ _ hcount; exact absurd hcount (Nat.not_lt_zero _)
  | cons a as ih =>
    intro s hs hC hcount
    rcases hstep s a hs (hC a List.mem_cons_self) with hevent | ⟨hs', hle, hlt⟩
    · exact ⟨[], a, as, rfl, hevent⟩
    · have hcount' : μ (step s a) < as.countP A := by
        rw [List.countP_cons] at hcount
        split at hcount
        · next ha =>
          have := hlt ha
          omega
        · omega
      obtain ⟨before, b, after, rfl, hb⟩ :=
        ih hs' (fun b hb => hC b (List.mem_cons_of_mem _ hb)) hcount'
      exact ⟨a :: before, b, after, rfl, hb⟩

end Run

namespace Weave

universe u v

variable {σ : Type u} {α : Type v}

inductive Inserted (α : Type v) where
  | base (a : α)
  | extra (a : α)

def Inserted.action : Inserted α → α
  | .base a => a
  | .extra a => a

/-- The run without what was inserted. -/
def base (ms : List (Inserted α)) : List α :=
  ms.filterMap fun
    | .base a => some a
    | .extra _ => none

def woven (ms : List (Inserted α)) : List α := ms.map Inserted.action

/-- The two runs side by side: an extra action is taken in the second only. -/
def both (step : σ → α → σ) (p : σ × σ) : Inserted α → σ × σ
  | .base a => (step p.1 a, step p.2 a)
  | .extra a => (p.1, step p.2 a)

theorem exec_both {step : σ → α → σ} {s t : σ} {ms : List (Inserted α)} :
    Run.exec (both step) (s, t) ms =
      (Run.exec step s (base ms), Run.exec step t (woven ms)) := by
  induction ms generalizing s t with
  | nil => rfl
  | cons m ms ih => cases m <;> exact ih

theorem woven_related {step : σ → α → σ} {C : σ × σ → Inserted α → Prop} {R : σ → σ → Prop}
    (hstep : ∀ p m, R p.1 p.2 → C p m → R (both step p m).1 (both step p m).2)
    {s t : σ} {ms : List (Inserted α)} (hst : R s t) (hms : Run.Along (both step) C (s, t) ms) :
    R (Run.exec step s (base ms)) (Run.exec step t (woven ms)) := by
  have hend := Run.exec_inv (I := fun p : σ × σ => R p.1 p.2) hstep hst hms
  rwa [exec_both] at hend

end Weave

namespace Lifecycle

universe u v w x y

variable {σ : Type u} {α : Type v} {κ : Type w} {τ : Type x}

/-- An allowed step takes the item of each key along `R` or leaves it as it is. -/
def Moves (obs : σ → κ → Option τ) (step : σ → α → σ) (C : σ → α → Prop) (R : τ → τ → Prop) : Prop :=
  ∀ s a, C s a → ∀ k t, obs s k = some t → ∃ t', obs (step s a) k = some t' ∧ (t' = t ∨ R t t')

variable {obs : σ → κ → Option τ} {step : σ → α → σ} {C : σ → α → Prop} {R Q : τ → τ → Prop}

theorem Moves.mono (h : Moves obs step C R) (hRQ : ∀ t t', R t t' → Q t t') :
    Moves obs step C Q := by
  intro s a ha k t ht
  obtain ⟨t', ht', hstep⟩ := h s a ha k t ht
  exact ⟨t', ht', hstep.imp_right (hRQ t t')⟩

theorem exec_related (hrefl : ∀ t, Q t t) (htrans : ∀ t t' t'', Q t t' → Q t' t'' → Q t t'')
    (hmoves : Moves obs step C Q) {k : κ} :
    ∀ {as : List α} {s : σ} {t : τ}, obs s k = some t → Run.Along step C s as →
      ∃ t', obs (Run.exec step s as) k = some t' ∧ Q t t' := by
  intro as
  induction as with
  | nil => intro s t ht _; exact ⟨t, ht, hrefl t⟩
  | cons a as ih =>
    intro s t ht hC
    obtain ⟨ha, has⟩ := hC
    obtain ⟨t₁, ht₁, hedge⟩ := hmoves s a ha k t ht
    obtain ⟨t₂, ht₂, hrest⟩ := ih ht₁ has
    refine ⟨t₂, ht₂, ?_⟩
    rcases hedge with rfl | hedge
    · exact hrest
    · exact htrans _ _ _ hedge hrest

theorem exec_keeps {β : Type y} {P : τ → Prop} {f : τ → β}
    (hmoves : Moves obs step C fun t t' => P t → P t' ∧ f t' = f t) {k : κ} {as : List α} {s : σ}
    {t : τ} (ht : obs s k = some t) (hP : P t) (hC : Run.Along step C s as) :
    ∃ t', obs (Run.exec step s as) k = some t' ∧ P t' ∧ f t' = f t := by
  have hrel := exec_related (Q := fun t t' => P t → P t' ∧ f t' = f t) (fun _ h => ⟨h, rfl⟩)
    (fun t t' t'' h₁ h₂ h => by
      obtain ⟨hP', hf'⟩ := h₁ h
      obtain ⟨hP'', hf''⟩ := h₂ hP'
      exact ⟨hP'', hf''.trans hf'⟩) hmoves ht hC
  obtain ⟨t', ht', hkeep⟩ := hrel
  exact ⟨t', ht', hkeep hP⟩

end Lifecycle
end Rotas
