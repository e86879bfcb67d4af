import Rotas.Workshop.ToolTurns

/-!
# Rotas.Workshop.ToolCustody

Who has a tool, in every interleaving of checkouts, returns, creations and updates of tools. The fact
is stored twice: as the status of the tool, and as its checkout that is not returned.

* `OneHolder`    — no tool has two checkouts that are not returned.
* `InCustody`    — a tool is checked out exactly if it has exactly one such checkout.
* `ToolStep`     — what a turn does.
* `UpdateAgrees` — a status that an update writes is the one that the checkouts give.
* `tool_custody` — nobody ever gets a tool that somebody has; and tools are in custody after every
  turn exactly if all updates agree.
* `custody_lost` — a tool that is out is marked available.
-/

namespace Rotas

open Interleave

/-- The checkout of the tool that is not returned. -/
def ToolCheckout.OutFor (tool : WorkshopTool) (c : ToolCheckout) : Prop :=
  c.status = .checkedOut ∧ c.tenantId = tool.tenantId ∧ c.toolId = tool.id

/-- No tool is handed to two work orders at once. -/
def OneHolder (db : Warehouse) : Prop :=
  ∀ c ∈ db.toolCheckouts, ∀ c' ∈ db.toolCheckouts, c.status = .checkedOut →
    c'.status = .checkedOut → c.tenantId = c'.tenantId → c.toolId = c'.toolId → c = c'

def InCustody (db : Warehouse) : Prop :=
  ∀ tool ∈ db.tools, tool.status = .checkedOut ↔
    ∃! c, c ∈ db.toolCheckouts ∧ c.OutFor tool

/-- What the transactions keep; a checkout names a tool that is there. -/
structure ToolsSound (db : Warehouse) : Prop where
  one : OneHolder db
  tracked : ∀ tool ∈ db.tools, tool.status = .checkedOut ↔
    ∃ c ∈ db.toolCheckouts, c.OutFor tool
  known : ∀ c ∈ db.toolCheckouts, (db.tools.get c.toolId).isSome = true

/-- The tool is out, going by its checkouts. -/
def Warehouse.Out (db : Warehouse) (tool : WorkshopTool) : Prop :=
  ∃ c ∈ db.toolCheckouts, c.OutFor tool

/-- A status that the commit of an update writes over a tool's is that of a tool that is out exactly
if the tool is. -/
def ToolPhase.Agrees (i : Nat) (s : ToolStore) : ToolAction → ToolPhase → Prop
  | .commit, .updating data seen =>
    data.fits = true → s.locks.available i (.tool seen.id) = true →
    ∀ status, data.status.bind ToolStatus.ofText = some status → status ≠ seen.status →
    ∀ tool, s.db.tools.get seen.id = some tool → (status = .checkedOut ↔ s.db.Out tool)
  | _, _ => True

def UpdateAgrees (c : Config ToolStore ToolPhase) (m : Nat × ToolAction) : Prop :=
  ToolPhase.Agrees m.1 c.store m.2 (c.parties m.1)

/-! ## Rows -/

section Rows

variable {db : Warehouse} {tool t : WorkshopTool} {item c : ToolCheckout} {condition : ToolStatus}

theorem existsUnique_out (h : OneHolder db) (tool : WorkshopTool) :
    (∃! c, c ∈ db.toolCheckouts ∧ c.OutFor tool) ↔ db.Out tool := by
  constructor
  · rintro ⟨c, ⟨hc, hout⟩, -⟩
    exact ⟨c, hc, hout⟩
  · rintro ⟨c, hc, hout⟩
    refine ⟨c, ⟨hc, hout⟩, fun c' hc' => ?_⟩
    obtain ⟨hc', hout'⟩ := hc'
    exact h c' hc' c hc hout'.1 hout.1 (hout'.2.1.trans hout.2.1.symm)
      (hout'.2.2.trans hout.2.2.symm)

theorem ToolsSound.inCustody (h : ToolsSound db) : InCustody db := by
  intro tool htool
  rw [existsUnique_out h.one]
  exact h.tracked tool htool

theorem oneHolder_of_ok (h : db.ordersOk = true) : OneHolder db := by
  simp only [Warehouse.ordersOk, Bool.and_eq_true, decide_eq_true_eq] at h
  obtain ⟨_, hunique⟩ := h
  intro c hc c' hc' hout hout' hten htool
  refine List.inj_on_of_nodup_map hunique (List.mem_filter.mpr ⟨hc, by simpa using hout⟩)
    (List.mem_filter.mpr ⟨hc', by simpa using hout'⟩) ?_
  rw [hten, htool]

theorem returnCondition_ne {text : String} (h : returnCondition text = some condition) :
    condition ≠ .checkedOut := by
  unfold returnCondition at h
  split at h <;> cases h <;> decide

/-! ## Writes -/

theorem ToolsSound.lend (h : ToolsSound db) {r : Lending} (htool : db.tools.get tool.id = some tool)
    (hten : tool.tenantId = r.tenantId) (hid : tool.id = r.payload.toolId)
    (hok : (Rotas.lend r tool db).ordersOk = true) : ToolsSound (Rotas.lend r tool db) where
  one := oneHolder_of_ok hok
  tracked t' ht' := by
    rw [Rotas.lend, Table.mem_modify] at ht'
    obtain ⟨t, ht, rfl⟩ := ht'
    by_cases hsame : Keyed.key t = tool.id
    · rw [if_pos hsame]
      obtain rfl : t = tool := Table.eq_of_key ht (Table.mem_of_get htool) hsame
      exact iff_of_true rfl ⟨_, (Table.mem_insert _ _ _).mpr (.inr rfl), rfl, hten.symm, hid.symm⟩
    · rw [if_neg hsame, h.tracked t ht]
      constructor
      · rintro ⟨c, hc, hout⟩
        exact ⟨c, (Table.mem_insert _ _ _).mpr (.inl hc), hout⟩
      · rintro ⟨c, hc, hout⟩
        rcases (Table.mem_insert _ _ _).mp hc with hc | rfl
        · exact ⟨c, hc, hout⟩
        · exact absurd (hout.2.2.symm.trans hid.symm) hsame
  known c hc := by
    have hkept : ∀ k, (db.tools.get k).isSome = true →
        ((Rotas.lend r tool db).tools.get k).isSome = true := by
      intro k hk
      rw [Rotas.lend, Table.get_modify]
      split
      · rw [Option.isSome_map, htool]
        rfl
      · exact hk
    rcases (Table.mem_insert _ _ _).mp hc with hc | rfl
    · exact hkept _ (h.known c hc)
    · refine hkept _ ?_
      rw [← hid, htool]
      rfl

/-- A checkout after a return is one from before, and not the returned one if it is out. -/
theorem mem_takeBack {r : TakingBack} {c' : ToolCheckout}
    (h : c' ∈ (Rotas.takeBack r condition item tool db).toolCheckouts) :
    ∃ c ∈ db.toolCheckouts, c'.toolId = c.toolId ∧
      (c'.status = .checkedOut → c' = c ∧ c ≠ item) := by
  rw [Rotas.takeBack, Table.mem_modify] at h
  obtain ⟨c, hc, rfl⟩ := h
  by_cases hsame : Keyed.key c = item.id
  · rw [if_pos hsame]
    refine ⟨c, hc, rfl, fun hstatus => ?_⟩
    cases hstatus
  · rw [if_neg hsame]
    refine ⟨c, hc, rfl, fun _ => ⟨rfl, ?_⟩⟩
    rintro rfl
    exact hsame rfl

theorem ToolsSound.takeBack (h : ToolsSound db) {r : TakingBack}
    (htool : db.tools.get tool.id = some tool) (hitem : db.toolCheckouts.get item.id = some item)
    (hout : item.status = .checkedOut) (hten : tool.tenantId = item.tenantId)
    (hid : tool.id = item.toolId) (hcondition : condition ≠ .checkedOut) :
    ToolsSound (Rotas.takeBack r condition item tool db) := by
  have hforth : ∀ c ∈ db.toolCheckouts, c ≠ item →
      c ∈ (Rotas.takeBack r condition item tool db).toolCheckouts := by
    intro c hc hne
    rw [Rotas.takeBack, Table.mem_modify]
    refine ⟨c, hc, if_neg fun hsame => ?_⟩
    exact hne (Table.eq_of_key hc (Table.mem_of_get hitem) hsame)
  refine ⟨?_, ?_, ?_⟩
  · intro c₁ hc₁ c₂ hc₂ hout₁ hout₂ hten' htool'
    obtain ⟨c, hc, -, heq⟩ := mem_takeBack hc₁
    obtain ⟨c', hc', -, heq'⟩ := mem_takeBack hc₂
    obtain ⟨rfl, -⟩ := heq hout₁
    obtain ⟨rfl, -⟩ := heq' hout₂
    exact h.one _ hc _ hc' hout₁ hout₂ hten' htool'
  · intro t' ht'
    rw [Rotas.takeBack, Table.mem_modify] at ht'
    obtain ⟨t, ht, rfl⟩ := ht'
    by_cases hsame : Keyed.key t = tool.id
    · rw [if_pos hsame]
      obtain rfl : t = tool := Table.eq_of_key ht (Table.mem_of_get htool) hsame
      refine iff_of_false hcondition ?_
      rintro ⟨c', hc', hstatus, hcten, hctool⟩
      obtain ⟨c, hc, -, heq⟩ := mem_takeBack hc'
      obtain ⟨rfl, hne⟩ := heq hstatus
      exact hne (h.one _ hc item (Table.mem_of_get hitem) hstatus hout (hcten.trans hten)
        (hctool.trans hid))
    · rw [if_neg hsame, h.tracked t ht]
      constructor
      · rintro ⟨c, hc, houtFor⟩
        refine ⟨c, hforth c hc ?_, houtFor⟩
        rintro rfl
        exact hsame (houtFor.2.2.symm.trans hid.symm)
      · rintro ⟨c', hc', houtFor⟩
        obtain ⟨c, hc, -, heq⟩ := mem_takeBack hc'
        obtain ⟨rfl, -⟩ := heq houtFor.1
        exact ⟨_, hc, houtFor⟩
  · intro c' hc'
    obtain ⟨c, hc, htoolId, -⟩ := mem_takeBack hc'
    have hknown := h.known c hc
    rw [Rotas.takeBack, htoolId, Table.get_modify]
    split
    · rw [Option.isSome_map, htool]
      rfl
    · exact hknown

theorem ToolsSound.createTool (h : ToolsSound db) (tenantId : UUID) (payload : WorkshopToolCreate) :
    ToolsSound (Rotas.createTool tenantId payload db) where
  one := h.one
  tracked t' ht' := by
    rcases (Table.mem_insert _ _ _).mp ht' with ht | rfl
    · exact h.tracked t' ht
    · refine iff_of_false (fun hstatus => by cases hstatus) ?_
      rintro ⟨c, hc, -, -, htool⟩
      have htool : c.toolId = db.tools.freshKey := htool
      have hknown := h.known c hc
      rw [htool, Table.get_freshKey] at hknown
      cases hknown
  known c hc := by
    obtain ⟨t, ht⟩ := Option.isSome_iff_exists.mp (h.known c hc)
    rw [Rotas.createTool, Table.get_insert_of_get _ _ _ ht]
    rfl

/-- What an update leaves of a tool, and whether the tool is out by its checkouts. -/
theorem mem_updateTool {data : ToolUpdateRequest} {seen t' : WorkshopTool}
    (h : t' ∈ (Rotas.updateTool data seen db).tools) : ∃ t ∈ db.tools, t'.id = t.id ∧
      t'.tenantId = t.tenantId ∧
      (t' = t ∨ t.id = seen.id ∧ t'.status =
        written (data.status.bind ToolStatus.ofText) seen.status t.status) := by
  rw [Rotas.updateTool, Table.mem_modify] at h
  obtain ⟨t, ht, rfl⟩ := h
  refine ⟨t, ht, ?_⟩
  by_cases hsame : Keyed.key t = seen.id
  · rw [if_pos hsame]
    exact ⟨rfl, rfl, .inr ⟨hsame, rfl⟩⟩
  · rw [if_neg hsame]
    exact ⟨rfl, rfl, .inl rfl⟩

theorem out_congr {p : Warehouse} {t' : WorkshopTool} (hcheckouts : p.toolCheckouts = db.toolCheckouts)
    (hid : t'.id = t.id) (hten : t'.tenantId = t.tenantId) : p.Out t' ↔ db.Out t := by
  simp only [Warehouse.Out, ToolCheckout.OutFor, hcheckouts, hid, hten]

theorem ToolsSound.updateTool (h : ToolsSound db) {data : ToolUpdateRequest} {seen : WorkshopTool}
    (hagrees : ∀ status, data.status.bind ToolStatus.ofText = some status → status ≠ seen.status →
      ∀ tool, db.tools.get seen.id = some tool → (status = .checkedOut ↔ db.Out tool)) :
    ToolsSound (Rotas.updateTool data seen db) where
  one := h.one
  tracked t' ht' := by
    obtain ⟨t, ht, hid, hten, rfl | ⟨hsame, hstatus⟩⟩ := mem_updateTool ht'
    · exact h.tracked t' ht
    · refine Iff.trans ?_ (out_congr (p := Rotas.updateTool data seen db) rfl hid hten).symm
      rw [hstatus]
      unfold written
      split
      · next status hgiven =>
        split
        · exact h.tracked t ht
        · next hne => exact hagrees status hgiven hne t (hsame ▸ Table.get_of_mem ht)
      · exact h.tracked t ht
  known c hc := by
    have hknown := h.known c hc
    rw [Rotas.updateTool, Table.get_modify]
    split
    · next hsame =>
      rw [Option.isSome_map, ← hsame]
      exact hknown
    · exact hknown

end Rows

/-! ## Held rows -/

/-- The rows that the transaction holds are as it read them. -/
def ToolPhase.Holds (i : Nat) (s : ToolStore) : ToolPhase → Prop
  | .lent r tool =>
    s.locks (.tool tool.id) = some i ∧ s.db.tools.get tool.id = some tool ∧
      tool.tenantId = r.tenantId ∧ tool.id = r.payload.toolId
  | .returning r condition item =>
    s.locks (.checkout item.id) = some i ∧ s.db.toolCheckouts.get item.id = some item ∧
      item.tenantId = r.tenantId ∧ item.status = .checkedOut ∧ condition ≠ .checkedOut
  | .taking r condition item tool =>
    (s.locks (.checkout item.id) = some i ∧ s.db.toolCheckouts.get item.id = some item ∧
      item.tenantId = r.tenantId ∧ item.status = .checkedOut ∧ condition ≠ .checkedOut) ∧
    s.locks (.tool tool.id) = some i ∧ s.db.tools.get tool.id = some tool ∧
      tool.tenantId = r.tenantId ∧ tool.id = item.toolId
  | _ => True

/-- The rows that others than `i` hold stay theirs, and as they are. -/
structure OthersUntouched (i : Nat) (s s' : ToolStore) : Prop where
  locks : ∀ row j, j ≠ i → s.locks row = some j → s'.locks row = some j
  tool : ∀ k j tool, j ≠ i → s.locks (.tool k) = some j → s.db.tools.get k = some tool →
    s'.db.tools.get k = some tool
  checkout : ∀ k j item, j ≠ i → s.locks (.checkout k) = some j →
    s.db.toolCheckouts.get k = some item → s'.db.toolCheckouts.get k = some item

/-- What a turn does. -/
inductive ToolStep (i : Nat) (s : ToolStore) :
    ToolAction → ToolPhase → ToolStore → ToolPhase → Prop
  | abort act p : ToolStep i s act p (s.abort i) .idle
  | read act p q (hq : ∀ j s', q.Holds j s') : ToolStep i s act p s q
  | hold act p row q (havailable : s.locks.available i row = true)
      (hq : q.Holds i (s.hold i row q).1) : ToolStep i s act p (s.hold i row q).1 q
  | lend r tool (hok : (lend r tool s.db).ordersOk = true) :
      ToolStep i s .commit (.lent r tool) { db := lend r tool s.db, locks := s.locks.release i } .idle
  | takeBack r condition item tool :
      ToolStep i s .commit (.taking r condition item tool)
        { db := takeBack r condition item tool s.db, locks := s.locks.release i } .idle
  | createTool tenantId payload :
      ToolStep i s .commit (.creating tenantId payload)
        { db := createTool tenantId payload s.db, locks := s.locks.release i } .idle
  | updateTool data seen (hfits : data.fits = true)
      (havailable : s.locks.available i (.tool seen.id) = true) :
      ToolStep i s .commit (.updating data seen)
        { db := updateTool data seen s.db, locks := s.locks.release i } .idle
  | elsewhere edit p :
      ToolStep i s (.elsewhere edit) p
        { s with db := { edit s.db with tools := s.db.tools, toolCheckouts := s.db.toolCheckouts } } p

section Step

variable {i j : Nat} {s s' : ToolStore} {act : ToolAction} {p q : ToolPhase}

theorem tool_eq_some {db : Warehouse} {tenantId toolId : UUID} {tool : WorkshopTool}
    (h : db.tool tenantId toolId = some tool) :
    db.tools.get tool.id = some tool ∧ tool.tenantId = tenantId ∧ tool.id = toolId := by
  obtain ⟨hget, hten⟩ := Option.filter_eq_some_iff.mp h
  have hid : tool.id = toolId := Table.key_of_get hget
  exact ⟨hid ▸ hget, of_decide_eq_true hten, hid⟩

theorem CheckoutStatus.out_of_ne {status : CheckoutStatus} (h : status ≠ .returned) :
    status = .checkedOut := by
  cases status with
  | checkedOut => rfl
  | returned => exact absurd rfl h

theorem finish_step {ok : Bool} {db : Warehouse} (h : s.finish i ok db = (s', q))
    (hok : ok = true → ToolStep i s act p { db, locks := s.locks.release i } .idle) :
    ToolStep i s act p s' q := by
  unfold ToolStore.finish at h
  split at h
  · next htrue =>
    cases h
    exact hok htrue
  · cases h
    exact .abort act p

theorem toolTurn_step (hp : p.Holds i s) (h : toolTurn i act s p = some (s', q)) :
    ToolStep i s act p s' q := by
  unfold toolTurn at h
  split at h
  · -- checkout
    split at h <;> cases h
    · exact .abort _ _
    · exact .read _ _ _ fun _ _ => trivial
  · split at h
    · cases h
      exact .abort _ _
    · split at h <;> cases h
      · exact .read _ _ _ fun _ _ => trivial
      · exact .abort _ _
  · split at h
    · cases h
      exact .abort _ _
    · next tool htool =>
      split at h
      · next havailable =>
        split at h <;> cases h
        · exact .abort _ _
        · exact .hold _ _ _ _ havailable ⟨Locks.take_self, tool_eq_some htool⟩
      · cases h
  · exact finish_step (Option.some.inj h) fun hok => .lend _ _ hok
  · -- return
    split at h
    · cases h
      exact .abort _ _
    · next condition hcondition =>
      split at h
      · cases h
        exact .abort _ _
      · next item hitem =>
        obtain ⟨hget, hten⟩ := Option.filter_eq_some_iff.mp hitem
        have hid : item.id = _ := Table.key_of_get hget
        split at h
        · next havailable =>
          split at h <;> cases h
          · exact .abort _ _
          · next hout =>
            exact .hold _ _ _ _ havailable ⟨Locks.take_self, hid ▸ hget, of_decide_eq_true hten,
              CheckoutStatus.out_of_ne hout, returnCondition_ne hcondition⟩
        · cases h
  · next r condition item =>
    split at h
    · cases h
      exact .abort _ _
    · next tool htool =>
      split at h
      · next havailable =>
        cases h
        obtain ⟨hlock, hitem⟩ := hp
        have hkept : s.locks.take i (.tool tool.id) (.checkout item.id) = some i :=
          Locks.take_of_own hlock
        exact .hold _ _ _ _ havailable ⟨⟨hkept, hitem⟩, Locks.take_self, tool_eq_some htool⟩
      · cases h
  · exact finish_step (Option.some.inj h) fun _ => .takeBack _ _ _ _
  · split at h <;> cases h
    · exact .abort _ _
    · exact .read _ _ _ fun _ _ => trivial
  · exact finish_step (Option.some.inj h) fun _ => .createTool _ _
  · split at h <;> cases h
    · exact .abort _ _
    · exact .read _ _ _ fun _ _ => trivial
  · split at h
    · next havailable =>
      exact finish_step (Option.some.inj h) fun hfits => .updateTool _ _ hfits havailable
    · cases h
  · cases h
    exact .abort _ _
  · cases h
    exact .elsewhere _ _
  · cases h

/-! ## One turn -/

/-- A row that is written is not one that another transaction holds. -/
theorem ne_of_held {name : UUID → ToolLock} {k k' : UUID} (hj : j ≠ i)
    (hlock : s.locks (name k) = some j) (havailable : s.locks.available i (name k') = true) :
    k ≠ k' := by
  rintro rfl
  exact hj (Locks.eq_of_available hlock havailable)

theorem ToolStep.undisturbed (hp : p.Holds i s) (h : ToolStep i s act p s' q) :
    OthersUntouched i s s' := by
  have hreleased : ∀ row j, j ≠ i → s.locks row = some j → s.locks.release i row = some j :=
    fun _ _ hj hlock => Locks.release_of_ne hlock hj
  cases h with
  | abort => exact ⟨hreleased, fun _ _ _ _ _ hget => hget, fun _ _ _ _ _ hget => hget⟩
  | read =>
    exact ⟨fun _ _ _ hlock => hlock, fun _ _ _ _ _ hget => hget, fun _ _ _ _ _ hget => hget⟩
  | hold _ _ row _ havailable =>
    exact ⟨fun _ _ hj hlock => Locks.take_of_ne hlock hj havailable,
      fun _ _ _ _ _ hget => hget, fun _ _ _ _ _ hget => hget⟩
  | lend r tool =>
    obtain ⟨hown, _⟩ := hp
    refine ⟨hreleased, fun k j t hj hlock hget => ?_, fun k j c _ _ hget => ?_⟩
    · rw [Rotas.lend, Table.get_modify_ne (ne_of_held hj hlock (Locks.available_of_own hown))]
      exact hget
    · exact Table.get_insert_of_get _ _ _ hget
  | takeBack r condition item tool =>
    obtain ⟨⟨hitem, _⟩, htool, _⟩ := hp
    refine ⟨hreleased, fun k j t hj hlock hget => ?_, fun k j c hj hlock hget => ?_⟩
    · rw [Rotas.takeBack, Table.get_modify_ne (ne_of_held hj hlock (Locks.available_of_own htool))]
      exact hget
    · rw [Rotas.takeBack, Table.get_modify_ne (ne_of_held hj hlock (Locks.available_of_own hitem))]
      exact hget
  | createTool =>
    refine ⟨hreleased, fun k j t _ _ hget => ?_, fun _ _ _ _ _ hget => hget⟩
    exact Table.get_insert_of_get _ _ _ hget
  | updateTool data seen _ havailable =>
    refine ⟨hreleased, fun k j t hj hlock hget => ?_, fun _ _ _ _ _ hget => hget⟩
    rw [Rotas.updateTool, Table.get_modify_ne (ne_of_held hj hlock havailable)]
    exact hget
  | elsewhere =>
    exact ⟨fun _ _ _ hlock => hlock, fun _ _ _ _ _ hget => hget, fun _ _ _ _ _ hget => hget⟩

theorem ToolPhase.Holds.undisturbed (hj : j ≠ i) (hp : p.Holds j s) (h : OthersUntouched i s s') :
    p.Holds j s' := by
  cases p with
  | lent r tool =>
    obtain ⟨hlock, hget, hrest⟩ := hp
    exact ⟨h.locks _ _ hj hlock, h.tool _ _ _ hj hlock hget, hrest⟩
  | returning r condition item =>
    obtain ⟨hlock, hget, hrest⟩ := hp
    exact ⟨h.locks _ _ hj hlock, h.checkout _ _ _ hj hlock hget, hrest⟩
  | taking r condition item tool =>
    obtain ⟨⟨hlock, hget, hrest⟩, hlock', hget', hrest'⟩ := hp
    exact ⟨⟨h.locks _ _ hj hlock, h.checkout _ _ _ hj hlock hget, hrest⟩,
      h.locks _ _ hj hlock', h.tool _ _ _ hj hlock' hget', hrest'⟩
  | idle => trivial
  | asked => trivial
  | ordered => trivial
  | creating => trivial
  | updating => trivial

theorem ToolStep.holds (hp : p.Holds i s) (h : ToolStep i s act p s' q) : q.Holds i s' := by
  cases h with
  | read _ _ _ hq => exact hq _ _
  | hold _ _ _ _ _ hq => exact hq
  | elsewhere edit _ =>
    cases p <;> exact hp
  | _ => trivial

theorem ToolStep.oneHolder (h : ToolStep i s act p s' q) (hone : OneHolder s.db) :
    OneHolder s'.db := by
  cases h with
  | lend r tool hok => exact oneHolder_of_ok hok
  | takeBack r condition item tool =>
    intro c₁ hc₁ c₂ hc₂ hout₁ hout₂
    obtain ⟨c, hc, -, heq⟩ := mem_takeBack hc₁
    obtain ⟨c', hc', -, heq'⟩ := mem_takeBack hc₂
    obtain ⟨rfl, -⟩ := heq hout₁
    obtain ⟨rfl, -⟩ := heq' hout₂
    exact hone _ hc _ hc' hout₁ hout₂
  | _ => exact hone

theorem ToolStep.sound (hp : p.Holds i s) (h : ToolStep i s act p s' q)
    (hagrees : ToolPhase.Agrees i s act p) (hsound : ToolsSound s.db) : ToolsSound s'.db := by
  cases h with
  | lend r tool hok =>
    obtain ⟨_, htool, hten, hid⟩ := hp
    exact hsound.lend htool hten hid hok
  | takeBack r condition item tool =>
    obtain ⟨⟨_, hitem, hitemTen, hout, hcondition⟩, _, htool, hten, hid⟩ := hp
    exact hsound.takeBack htool hitem hout (hten.trans hitemTen.symm) hid hcondition
  | createTool tenantId payload => exact hsound.createTool tenantId payload
  | updateTool data seen hfits havailable => exact hsound.updateTool (hagrees hfits havailable)
  | elsewhere => exact ⟨hsound.one, hsound.tracked, hsound.known⟩
  | _ => exact hsound

/-- An update that does not agree leaves a tool that is out by one of the two, and in by the
other. -/
theorem agrees_of_inCustody (hsound : ToolsSound s.db)
    (h : ∀ r, toolTurn i act s p = some r → InCustody r.1.db) : ToolPhase.Agrees i s act p := by
  unfold ToolPhase.Agrees
  split
  · next data seen =>
    intro hfits havailable status hgiven hne tool htool
    have hturn : toolTurn i .commit s (.updating data seen) =
        some ({ db := updateTool data seen s.db, locks := s.locks.release i }, .idle) := by
      simp only [toolTurn, havailable, if_true, ToolStore.finish, hfits]
    have hcustody := h _ hturn (data.write seen tool) (by
      refine Table.mem_of_get (k := seen.id) ?_
      rw [updateTool, Table.get_modify_self htool])
    have hone : OneHolder (updateTool data seen s.db) := hsound.one
    have hout : (updateTool data seen s.db).Out (data.write seen tool) ↔ s.db.Out tool :=
      out_congr rfl rfl rfl
    rw [existsUnique_out hone, hout] at hcustody
    have hstatus : (data.write seen tool).status = status := by
      simp only [ToolUpdateRequest.write, hgiven, written, if_neg hne]
    rwa [hstatus] at hcustody
  · trivial

end Step

/-! ## Interleavings -/

section Runs

variable {c : Config ToolStore ToolPhase} {m : Nat × ToolAction} {ms : List (Nat × ToolAction)}

/-- Both records of who has a tool agree, and the transactions hold what they have read. -/
def ToolInv (c : Config ToolStore ToolPhase) : Prop :=
  Holds (fun s => ToolsSound s.db) (fun i s p => p.Holds i s) c

theorem toolInv_move (h : ToolInv c) (hagrees : UpdateAgrees c m) : ToolInv (move toolTurn c m) := by
  refine holds_move (C := UpdateAgrees) ?_ ?_ h hagrees
  · intro c i act s' q hI hC hturn
    have hstep := toolTurn_step (hI.party i) hturn
    exact ⟨hstep.sound (hI.party i) hC hI.store, hstep.holds (hI.party i)⟩
  · intro c i act s' q hI _ hturn j hj
    have hstep := toolTurn_step (hI.party i) hturn
    exact (hI.party j).undisturbed hj (hstep.undisturbed (hI.party i))

/-- The index alone keeps a tool from having two holders, whatever updates write. -/
theorem oneHolder_move
    (h : Holds (fun s => OneHolder s.db) (fun i s p => p.Holds i s) c) :
    Holds (fun s => OneHolder s.db) (fun i s p => p.Holds i s) (move toolTurn c m) := by
  refine holds_move (C := fun _ _ => True) ?_ ?_ h trivial
  · intro c i act s' q hI _ hturn
    have hstep := toolTurn_step (hI.party i) hturn
    exact ⟨hstep.oneHolder hI.store, hstep.holds (hI.party i)⟩
  · intro c i act s' q hI _ hturn j hj
    have hstep := toolTurn_step (hI.party i) hturn
    exact (hI.party j).undisturbed hj (hstep.undisturbed (hI.party i))

theorem updateAgrees_of_inCustody (h : ToolInv c) (hnext : InCustody (move toolTurn c m).store.db) :
    UpdateAgrees c m := by
  refine agrees_of_inCustody h.store fun r hturn => ?_
  rw [move, hturn] at hnext
  exact hnext

end Runs

/-- However checkouts, returns, creations and updates of tools interleave: no tool ever has two
checkouts that are not returned; and a tool is checked out exactly if it has one, after every turn,
exactly if every update that writes a status writes the one that the checkouts give. -/
theorem tool_custody {c : Config ToolStore ToolPhase} {ms : List (Nat × ToolAction)}
    (hidle : ∀ i, c.parties i = .idle) (hsound : ToolsSound c.store.db) :
    Run.Along (move toolTurn) (fun c m => OneHolder (move toolTurn c m).store.db) c ms ∧
      (Run.Along (move toolTurn) (fun c m => InCustody (move toolTurn c m).store.db) c ms ↔
        Run.Along (move toolTurn) UpdateAgrees c ms) := by
  have hparty : ∀ i, (c.parties i).Holds i c.store := by
    intro i
    rw [hidle i]
    trivial
  constructor
  · refine Run.along_inv (C := fun _ _ => True)
      (I := Holds (fun s => OneHolder s.db) (fun i s p => p.Holds i s)) ?_ ?_ ⟨hsound.one, hparty⟩
      (Run.along_of_forall (fun _ _ _ => trivial) c)
    · exact fun _ _ hI _ => oneHolder_move hI
    · exact fun _ _ hI _ => (oneHolder_move hI).store
  · refine (Run.along_iff_keeps (I := ToolInv) (G := fun c => InCustody c.store.db) ?_ ?_ ?_
      ⟨hsound, hparty⟩).symm
    · exact fun _ hI => hI.store.inCustody
    · exact fun _ _ hI hagrees => toolInv_move hI hagrees
    · exact fun _ _ hI hnext => updateAgrees_of_inCustody hI hnext

/-! ## A tool that is out -/

/-- A work order is in progress, and there is no tool. -/
def emptyToolroom : Config ToolStore ToolPhase where
  store := { db := { workOrders := (∅ : Table WorkOrder).insert fun id =>
    { id, tenantId := 1, workOrderNumber := "OT-1", status := .inProgress } } }
  parties _ := .idle

/-- A tool is created and lent to the work order; then an update is made of it. -/
def lentAndUpdated (data : ToolUpdateRequest) : List (Nat × ToolAction) :=
  [(0, .createTool 1 { code := "T-1", name := "Torque wrench" }), (0, .commit),
    (0, .checkoutTool { tenantId := 1, workOrderId := 1
                        payload := { toolId := 1, checkoutReference := "C-1", checkedOutAt := 0 } }),
    (0, .readOrder), (0, .lockTool 0), (0, .commit), (1, .updateTool 1 1 data), (1, .commit)]

theorem emptyToolroom_sound : ToolsSound emptyToolroom.store.db where
  one := fun c hc => absurd hc (Table.not_mem_empty c)
  tracked := fun tool htool => absurd htool (Table.not_mem_empty tool)
  known := fun c hc => absurd hc (Table.not_mem_empty c)

theorem moved_while_out :
    Run.Along (move toolTurn) (fun c m => InCustody (move toolTurn c m).store.db) emptyToolroom
      (lentAndUpdated { location := some "Bay 2" }) := by
  refine (tool_custody (fun _ => rfl) emptyToolroom_sound).2.mpr
    ⟨trivial, trivial, trivial, trivial, trivial, trivial, trivial, ?_, trivial⟩
  intro _ _ status hgiven
  cases hgiven

/-- An update marks a tool available that is out. -/
theorem custody_lost :
    (∀ i, emptyToolroom.parties i = .idle) ∧ ToolsSound emptyToolroom.store.db ∧
      ¬ InCustody (Run.exec (move toolTurn) emptyToolroom
        (lentAndUpdated { status := some "available" })).store.db := by
  refine ⟨fun _ => rfl, emptyToolroom_sound, fun h => ?_⟩
  have hcustody := h _ (List.mem_singleton.mpr rfl)
  have hout := hcustody.mpr ⟨_, ⟨List.mem_singleton.mpr rfl, rfl, rfl, rfl⟩, fun c hc =>
    List.mem_singleton.mp hc.1⟩
  cases hout

end Rotas
