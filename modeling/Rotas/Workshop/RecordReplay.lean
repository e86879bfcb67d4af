import Rotas.Workshop.StockLedger

/-!
# Rotas.Workshop.RecordReplay

A movement that is recorded again under its reference. The check of a repeated reference compares
the part, the type, the direction, the rounded quantity and, where one is given, the rounded cost;
it reads neither the source nor the time, the actor or the notes.

* `ReplaysSafely` — the same request answers the first movement, a different one is refused, and
  no two requests share a movement.
* `SameMovement` — what the check does not tell apart.
* `appended` — movements are only added, in every run.
* `replays_safely_iff` — a second request is safe exactly when it is the first one, or is under
  another reference, or the check tells it apart.
-/

namespace Rotas

open Work Decimal Run

/-- How `record` treats a second request, once the first one was answered with `m`. -/
structure ReplaysSafely (tenantId : UUID) (first second : MovementRequest)
    (m : SparePartMovement) (db : Warehouse) : Prop where
  agrees : second = first → record tenantId second db = .ok (m, db)
  differs : second ≠ first → second.requestReference = first.requestReference →
    ∃ e, record tenantId second db = .error e
  apart : second ≠ first → ∀ m' p, record tenantId second db = .ok (m', p) → m' ≠ m

/-- The second request asks for what the first one moved of its part. -/
def SameMovement (first second : MovementRequest) (part : SparePart) : Prop :=
  second.inventoryId = first.inventoryId ∧ second.movementType = first.movementType ∧
    second.direction = first.direction ∧
    quantize 2 second.quantity = quantize 2 first.quantity ∧
    ∀ c, second.unitCost = some c → quantize 2 c = (movementUnitCost first part).getD 0

section

variable {tenantId : UUID} {first second : MovementRequest} {m : SparePartMovement}
  {db p : Warehouse} {part : SparePart}

theorem SameMovement.self (first : MovementRequest) (part : SparePart) :
    SameMovement first first part := by
  refine ⟨rfl, rfl, rfl, rfl, fun c hc => ?_⟩
  rw [movementUnitCost, hc]
  rfl

/-! ## The first request -/

/-- A new movement is that of its request, for a part that is there, and is the last row. -/
theorem record_new (hnew : findSparePartMovement tenantId first.requestReference db = none)
    (h : record tenantId first db = .ok (m, p)) :
    ∃ part, db.spareParts.get first.inventoryId = some part ∧ 0 < quantize 2 first.quantity ∧
      m = { movementOf tenantId first part (quantize 2 first.quantity)
          (newBalance first.direction (decimalStock part.currentQuantity)
            (quantize 2 first.quantity)) with id := db.movements.freshKey } ∧
      p.movements.rows = db.movements.rows ++ [m] := by
  simp only [record, hnew, bind_eq_ok, raiseIf_eq_ok, pure, Except.pure, Except.ok.injEq,
    Prod.mk.injEq, decide_eq_false_iff_not, not_le] at h
  obtain ⟨_, hpositive, part, hpart, _, _, rfl, rfl⟩ := h
  exact ⟨part, (requireActivePart_eq_ok hpart).1, hpositive, rfl, rfl⟩

/-! ## What is between -/

theorem StockPosted.appended {d : Direction} {E : Prop} (h : StockPosted d E db p) :
    ∃ added, p.movements.rows = db.movements.rows ++ added := by
  induction h with
  | same _ hmovements =>
    rw [hmovements]
    exact ⟨[], (List.append_nil _).symm⟩
  | post _ _ _ _ hmovements ih =>
    obtain ⟨added, hadded⟩ := ih
    rw [hmovements, Warehouse.post, Table.rows_insert, hadded, List.append_assoc]
    exact ⟨_, rfl⟩

theorem appended [Rendering] (db : Warehouse) (cs : List StockCall) :
    ∃ added, (exec Warehouse.serve db cs).movements.rows = db.movements.rows ++ added := by
  induction cs generalizing db with
  | nil => exact ⟨[], (List.append_nil _).symm⟩
  | cons c cs ih =>
    obtain ⟨later, hlater⟩ := ih (db.serve c)
    have hstep : ∃ added, (db.serve c).movements.rows = db.movements.rows ++ added := by
      rcases perform_cases c.run db with hsame | ⟨id, hrun, -⟩
      · rw [Warehouse.serve, hsame]
        exact ⟨[], (List.append_nil _).symm⟩
      · obtain ⟨d, hposted⟩ := StockCall.posted hrun
        exact hposted.appended
    obtain ⟨added, hadded⟩ := hstep
    rw [exec_cons, hlater, hadded, List.append_assoc]
    exact ⟨_, rfl⟩

/-- A movement is found by its reference in every state after it. -/
theorem find_of_appended {rest : List SparePartMovement} {before : List SparePartMovement}
    (hnew : before.find? (fun m => m.tenantId = tenantId &&
      m.requestReference = first.requestReference) = none)
    (hten : m.tenantId = tenantId) (href : m.requestReference = first.requestReference)
    (hrows : db.movements.rows = before ++ m :: rest) :
    findSparePartMovement tenantId first.requestReference db = some m := by
  rw [findSparePartMovement, hrows, List.find?_append, hnew, Option.none_or,
    List.find?_cons_of_pos (by simp [hten, href])]

/-! ## The second request -/

/-- The check of a repeated reference, for a movement that `first` made of its part. -/
theorem validate_eq_ok {amount balance : Int} {id : UUID} (hid : part.id = first.inventoryId)
    (hamount : quantize 2 first.quantity = amount)
    (hm : m = { movementOf tenantId first part amount balance with id }) :
    validateSparePartReplay m second (quantize 2 second.quantity) = .ok () ↔
      SameMovement first second part := by
  have hstock : decimalStock (10 * amount) = amount := by
    have hwhole := decimalStock_of_dvd (n := 10 * amount) (by omega)
    omega
  subst hm
  simp only [validateSparePartReplay, raiseIf_eq_ok, movementOf, hid, hstock, SameMovement, hamount,
    Bool.or_eq_false_iff, decide_eq_false_iff_not, not_not, Option.any_eq_false]
  constructor
  · rintro ⟨⟨⟨⟨hpart, htype⟩, hdirection⟩, hquantity⟩, hcost⟩
    refine ⟨hpart.symm, htype.symm, hdirection.symm, hquantity.symm, fun c hc => ?_⟩
    simpa using hcost c hc
  · rintro ⟨hpart, htype, hdirection, hquantity, hcost⟩
    refine ⟨⟨⟨⟨hpart.symm, htype.symm⟩, hdirection.symm⟩, hquantity.symm⟩, fun c hc => ?_⟩
    simpa using hcost c hc

theorem record_replayed (hfind : findSparePartMovement tenantId second.requestReference db = some m)
    (hpositive : 0 < quantize 2 second.quantity)
    (hvalid : validateSparePartReplay m second (quantize 2 second.quantity) = .ok ()) :
    record tenantId second db = .ok (m, db) := by
  simp only [record, hfind, bind_eq_ok, raiseIf_eq_ok, decide_eq_false_iff_not, not_le]
  exact ⟨(), hpositive, (), hvalid, rfl⟩

theorem record_refused (hfind : findSparePartMovement tenantId second.requestReference db = some m)
    (hvalid : validateSparePartReplay m second (quantize 2 second.quantity) ≠ .ok ()) :
    ∃ e, record tenantId second db = .error e := by
  cases hrecord : record tenantId second db with
  | error e => exact ⟨e, rfl⟩
  | ok answer =>
    simp only [record, hfind, bind_eq_ok] at hrecord
    obtain ⟨_, _, _, hok, _⟩ := hrecord
    exact absurd hok hvalid

/-- A movement that is answered has the reference of its request. -/
theorem record_reference (h : record tenantId second db = .ok (m, p)) :
    m.requestReference = second.requestReference := by
  simp only [record, bind_eq_ok] at h
  obtain ⟨_, _, h⟩ := h
  cases hfind : findSparePartMovement tenantId second.requestReference db with
  | some existing =>
    simp only [hfind, bind_eq_ok, pure, Except.pure, Except.ok.injEq, Prod.mk.injEq] at h
    obtain ⟨_, _, rfl, _⟩ := h
    have hkey := List.find?_some hfind
    simp only [Bool.and_eq_true, decide_eq_true_eq] at hkey
    exact hkey.2
  | none =>
    simp only [hfind, bind_eq_ok, pure, Except.pure, Except.ok.injEq, Prod.mk.injEq] at h
    obtain ⟨_, _, _, _, rfl, _⟩ := h
    rfl

/-! ## Replays over a run -/

/-- The first movement, in every state after the first request: it is found by its reference, and
the check lets a request through exactly when it asks for the same. -/
theorem found_again [Rendering]
    (hnew : findSparePartMovement tenantId first.requestReference db = none)
    (hfirst : record tenantId first db = .ok (m, p)) (cs : List StockCall) :
    findSparePartMovement tenantId first.requestReference (exec Warehouse.serve p cs) = some m ∧
      0 < quantize 2 first.quantity ∧
      ∃ part, db.spareParts.get first.inventoryId = some part ∧
        ∀ r, validateSparePartReplay m r (quantize 2 r.quantity) = .ok () ↔
          SameMovement first r part := by
  obtain ⟨part, hget, hpositive, hm, hrows⟩ := record_new hnew hfirst
  have hid : part.id = first.inventoryId := Table.key_of_get hget
  obtain ⟨added, hadded⟩ := appended p cs
  rw [hrows, List.append_assoc] at hadded
  refine ⟨find_of_appended hnew ?_ ?_ hadded, hpositive, part, hget,
    fun r => validate_eq_ok hid rfl hm⟩
  · rw [hm]
    rfl
  · rw [hm]
    rfl

theorem record_again [Rendering]
    (hnew : findSparePartMovement tenantId first.requestReference db = none)
    (hfirst : record tenantId first db = .ok (m, p)) (cs : List StockCall)
    (href : second.requestReference = first.requestReference)
    (hsame : ∀ part, db.spareParts.get first.inventoryId = some part →
      SameMovement first second part) :
    record tenantId second (exec Warehouse.serve p cs) = .ok (m, exec Warehouse.serve p cs) := by
  obtain ⟨hfind, hpositive, part, hget, hvalid⟩ := found_again hnew hfirst cs
  refine record_replayed (href ▸ hfind) ?_ ((hvalid second).mpr (hsame part hget))
  rw [(hsame part hget).2.2.2.1]
  exact hpositive

/-- After a first request and any calls, a second one replays safely exactly when it is the first
one again, or has a reference of its own, or asks for another movement. -/
theorem replays_safely_iff [Rendering]
    (hnew : findSparePartMovement tenantId first.requestReference db = none)
    (hfirst : record tenantId first db = .ok (m, p)) (cs : List StockCall)
    (second : MovementRequest) :
    ReplaysSafely tenantId first second m (exec Warehouse.serve p cs) ↔
      (second = first ∨ second.requestReference ≠ first.requestReference ∨
        ∀ part, db.spareParts.get first.inventoryId = some part →
          ¬ SameMovement first second part) := by
  obtain ⟨hfind, -, part, hget, hvalid⟩ := found_again hnew hfirst cs
  constructor
  · intro hsafe
    by_cases heq : second = first
    · exact .inl heq
    by_cases href : second.requestReference = first.requestReference
    · refine .inr (.inr fun part' hpart' hsame => ?_)
      obtain ⟨e, he⟩ := hsafe.differs heq href
      have hagain := record_again hnew hfirst cs href fun part hpart =>
        Option.some.inj (hpart'.symm.trans hpart) ▸ hsame
      cases hagain.symm.trans he
    · exact .inr (.inl href)
  · intro hcond
    have hrefuse : second ≠ first → second.requestReference = first.requestReference →
        ∃ e, record tenantId second (exec Warehouse.serve p cs) = .error e := by
      intro hne href
      rcases hcond with heq | hother | hapart
      · exact absurd heq hne
      · exact absurd href hother
      · exact record_refused (href ▸ hfind) fun hok => hapart part hget ((hvalid second).mp hok)
    refine ⟨fun heq => ?_, hrefuse, fun hne m' p' hrecord hsame => ?_⟩
    · rw [heq]
      exact record_again hnew hfirst cs rfl fun part _ => .self first part
    · have href : second.requestReference = first.requestReference := by
        rw [← record_reference hrecord, hsame, record_reference hfirst]
      obtain ⟨e, he⟩ := hrefuse hne href
      rw [he] at hrecord
      cases hrecord

end

/-! ## A request that is not told apart -/

/-- Oil goes out to a vehicle. -/
def useOil (quantity : ℚ) (vehicleId : UUID) : MovementRequest where
  inventoryId := 1
  movementType := .consumption
  direction := .outward
  quantity
  requestReference := "R-1"
  sourceType := "vehicle"
  sourceId := some vehicleId
  occurredAt := 100

theorem record_useOil : ∃ m p, record 1 (useOil 1 1) oilStock = .ok (m, p) := by
  have hok : (record 1 (useOil 1 1) oilStock).isOk = true := by decide +kernel
  cases hrecord : record 1 (useOil 1 1) oilStock with
  | error e =>
    rw [hrecord] at hok
    cases hok
  | ok answer => exact ⟨answer.1, answer.2, rfl⟩

/-- A second litre is told apart from the first. -/
theorem replays_safely_oil : ∃ m p, record 1 (useOil 1 1) oilStock = .ok (m, p) ∧
    (ReplaysSafely 1 (useOil 1 1) (useOil 2 1) m
        (exec (@Warehouse.serve .decimal) p [adjustOil 1]) ↔
      useOil 2 1 = useOil 1 1 ∨ (useOil 2 1).requestReference ≠ (useOil 1 1).requestReference ∨
        ∀ part, oilStock.spareParts.get (useOil 1 1).inventoryId = some part →
          ¬ SameMovement (useOil 1 1) (useOil 2 1) part) := by
  obtain ⟨m, p, hfirst⟩ := record_useOil
  exact ⟨m, p, hfirst, @replays_safely_iff 1 (useOil 1 1) m oilStock p .decimal rfl hfirst
    [adjustOil 1] (useOil 2 1)⟩

/-- Another quantity for another vehicle is answered with the movement of the first request. -/
theorem other_request_answered : ∃ m p, record 1 (useOil 1 1) oilStock = .ok (m, p) ∧
    useOil (251 / 250) 2 ≠ useOil 1 1 ∧ record 1 (useOil (251 / 250) 2) p = .ok (m, p) ∧
    ¬ ReplaysSafely 1 (useOil 1 1) (useOil (251 / 250) 2) m p := by
  obtain ⟨m, p, hfirst⟩ := record_useOil
  have hne : useOil (251 / 250) 2 ≠ useOil 1 1 := by
    intro h
    have hsource := congrArg MovementRequest.sourceId h
    cases hsource
  have hagain : record 1 (useOil (251 / 250) 2) p = .ok (m, p) := by
    refine @record_again 1 (useOil 1 1) (useOil (251 / 250) 2) m oilStock p .decimal rfl hfirst []
      rfl fun part _ => ⟨rfl, rfl, rfl, by decide +kernel, fun c hc => ?_⟩
    cases hc
  refine ⟨m, p, hfirst, hne, hagain, fun hsafe => ?_⟩
  obtain ⟨e, he⟩ := hsafe.differs hne rfl
  cases hagain.symm.trans he

end Rotas
