import Rotas.TripOrders.Moves

/-!
# Rotas.TripOrders.InStep

The trip orders beside their trips, over runs of all the calls.

* `InStep`     — no order has two trips, and the trip of a final order rests.
* `FinalKept`  — an order in a final status keeps it.
* `OpsCall.KeepsStep` — the calls that may end an order look at its status and at its trip.
* `orders_in_step` — orders and trips stay in step along every run of such calls.
* `rejected_on_the_road` — a rejection of an order that is assigned, and what its trip makes of it.
-/

namespace Rotas

def finalOrderStatuses : List String := ["cancelled", "rejected", "delivered", "closed"]

/-- No trip of the order is active. -/
def Fleet.Idle (f : Fleet) (orderId : UUID) : Prop :=
  ∀ t ∈ f.trips, t.tripOrderId = some orderId → t.status.active = false

/-- The orders beside their trips. -/
structure InStep (f : Fleet) : Prop where
  single : ∀ t ∈ f.trips, ∀ t' ∈ f.trips, t.tripOrderId.isSome → t'.tripOrderId = t.tripOrderId →
    t.status ≠ .cancelled → t'.status ≠ .cancelled → t = t'
  idle : ∀ orderId s, f.orderStatus orderId = some s → s ∈ ["cancelled", "rejected"] →
    f.Idle orderId

def FinalKept (f p : Fleet) : Prop :=
  ∀ orderId s, f.orderStatus orderId = some s → s ∈ finalOrderStatuses →
    p.orderStatus orderId = some s

/-- A rejection finds an order that is not final, or is rejected already, and has no active trip; so
does a cancellation that is not refused, and its order is not rejected; and a trip that can be closed
belongs to an order that is not final, or is closed already. -/
def OpsCall.KeepsStep [Locale] (f : Fleet) : OpsCall → Prop
  | .orders (.rejectDispatchClearance tenantId orderId) =>
    ∀ o, f.tripOrders.get orderId = some o → o.tenantId = tenantId →
      (o.status ∈ finalOrderStatuses → o.status = "rejected") ∧ f.Idle orderId
  | .orders (.cancelTripOrder tenantId orderId) =>
    ∀ o, f.tripOrders.get orderId = some o → o.tenantId = tenantId →
      o.status ∉ uncancellableStatuses → o.status ≠ "rejected" ∧ f.Idle orderId
  | .trips (.operationalCloseTrip now tenantId tripId _ _) =>
    ∀ t, f.trips.get tripId = some t → t.tenantId = tenantId → t.status ≠ .closed →
      closeChecks now tenantId t f.toDb = .ok () →
      ∀ o ∈ f.tripOrders, t.tripOrderId = some o.id → o.tenantId = tenantId →
        o.status ∈ finalOrderStatuses → o.status = "closed"
  | _ => True

/-! ## The invariant -/

/-- The trips of final orders rest, and none with an order is a draft. -/
structure TripOrdersSound (f : Fleet) : Prop where
  ok : f.ok = true
  rests : ∀ orderId s, f.orderStatus orderId = some s → s ∈ finalOrderStatuses → f.Idle orderId
  planned : ∀ t ∈ f.trips, t.tripOrderId.isSome → t.status ≠ .draft

section

variable [Interpreter] [Locale] {f : Fleet} {c : OpsCall}

theorem OpsCall.step_orders (c : OpsCall) (f : Fleet) : TripOrderStep c f (c.step f) :=
  Work.perform_ind (.of_eq rfl) fun _ _ h => OpsCall.run_orders h

theorem OpsCall.step_follow (c : OpsCall) (f : Fleet) : FollowStep f (c.step f) :=
  Work.perform_ind
    { moves := fun _ t ht => ⟨t, ht, rfl, id, id⟩
      fresh := fun _ _ hnone ht => by cases hnone.symm.trans ht }
    fun _ _ h => OpsCall.run_follow h

omit [Interpreter] [Locale] in
theorem TripOrdersSound.eq_of_order (h : TripOrdersSound f) {t t' : Trip} (ht : t ∈ f.trips)
    (ht' : t' ∈ f.trips) {orderId : UUID} (horder : t.tripOrderId = some orderId)
    (horder' : t'.tripOrderId = some orderId) : t = t' := by
  have hok := h.ok
  simp only [Fleet.ok, Bool.and_eq_true, decide_eq_true_eq] at hok
  obtain ⟨⟨⟨⟨-, hunique⟩, -⟩, -⟩, -⟩ := hok
  exact eq_of_label hunique ht ht' horder horder'

omit [Interpreter] [Locale] in
theorem TripOrdersSound.inStep (h : TripOrdersSound f) : InStep f where
  single t ht t' ht' hsome hsame _ _ := by
    obtain ⟨orderId, horder⟩ := Option.isSome_iff_exists.mp hsome
    exact h.eq_of_order ht ht' horder (hsame.trans horder)
  idle orderId s hs hended := h.rests orderId s hs (by
    simp only [List.mem_cons, List.not_mem_nil, or_false] at hended
    rcases hended with rfl | rfl <;> decide)

omit [Interpreter] [Locale] in
theorem TripOrdersSound.resting_of_idle (h : TripOrdersSound f) {orderId : UUID} (hidle : f.Idle orderId)
    {t : Trip} (ht : t ∈ f.trips) (horder : t.tripOrderId = some orderId) :
    t.status.resting = true := by
  have hplanned := h.planned t ht (horder ▸ rfl)
  rw [TripStatus.resting, hidle t ht horder]
  exact decide_eq_true hplanned

omit [Interpreter] [Locale] in
theorem TripOrdersSound.resting (h : TripOrdersSound f) {orderId : UUID} {s : String}
    (hs : f.orderStatus orderId = some s) (hfinal : s ∈ finalOrderStatuses) {t : Trip}
    (ht : t ∈ f.trips) (horder : t.tripOrderId = some orderId) : t.status.resting = true :=
  h.resting_of_idle (h.rests orderId s hs hfinal) ht horder

omit [Interpreter] [Locale] in
theorem not_active_of_resting {s : TripStatus} (h : s.resting = true) : s.active = false := by
  rw [TripStatus.resting, Bool.and_eq_true, Bool.not_eq_true'] at h
  exact h.1

omit [Interpreter] [Locale] in
theorem status_of_get {orderId : UUID} {s : String} {o : TripOrder}
    (hs : f.orderStatus orderId = some s) (ho : f.tripOrders.get orderId = some o) : o.status = s := by
  rw [Fleet.orderStatus, ho] at hs
  exact Option.some.inj hs

theorem TripOrdersSound.final_kept (h : TripOrdersSound f) (hc : c.KeepsStep f) :
    FinalKept f (c.step f) := by
  intro orderId s hs hfinal
  obtain ⟨s', hs', hmove⟩ := (c.step_orders f).moves orderId s hs
  cases hmove with
  | same => exact hs'
  | confirm hdraft => subst hdraft; exact absurd hfinal (by decide)
  | assign hready =>
    simp only [List.mem_cons, List.not_mem_nil, or_false] at hready
    rcases hready with rfl | rfl <;> exact absurd hfinal (by decide)
  | cancel ho hten hopen =>
    obtain rfl := status_of_get hs ho
    obtain ⟨hrejected, -⟩ := hc _ ho hten hopen
    rw [hs']
    simp only [finalOrderStatuses, uncancellableStatuses, List.mem_cons, List.not_mem_nil,
      or_false, not_or] at hfinal hopen
    rcases hfinal with hcancelled | hrejected' | hdelivered | hclosed
    · rw [hcancelled]
    · exact absurd hrejected' hrejected
    · exact absurd hdelivered hopen.2.2.2.1
    · exact absurd hclosed hopen.2.2.2.2
  | reject ho hten =>
    obtain rfl := status_of_get hs ho
    obtain ⟨hrejected, -⟩ := hc _ ho hten
    rw [hs', hrejected hfinal]
  | request ht horder hstatus =>
    exact absurd (h.resting hs hfinal (Table.mem_of_get ht) horder)
      (not_resting_of_mem (by decide) hstatus)
  | dispatch ht horder hstatus =>
    exact absurd (h.resting hs hfinal (Table.mem_of_get ht) horder)
      (not_resting_of_mem (by decide) hstatus)
  | @close _ _ _ _ _ _ _ o ht hten horder ho hoten hopen hchecks =>
    obtain rfl := status_of_get hs ho
    have hid : o.id = orderId := Table.key_of_get ho
    rw [hs', hc _ ht hten hopen hchecks o (Table.mem_of_get ho) (hid.symm ▸ horder) hoten hfinal]

/-- A trip whose order is final after the call rested before, or is the one that was closed. -/
theorem TripOrdersSound.rests_of_move (h : TripOrdersSound f) (hc : c.KeepsStep f) {orderId : UUID}
    {s s' : String} (hs : f.orderStatus orderId = some s)
    (hmove : TripOrderMove f (c.step f) orderId s c s') (hfinal : s' ∈ finalOrderStatuses)
    {t t' : Trip} (ht : t ∈ f.trips) (horder : t.tripOrderId = some orderId)
    (ht' : (c.step f).trips.get t.id = some t')
    (hrest : t.status.resting = true → t'.status.resting = true) : t'.status.active = false := by
  cases hmove with
  | same => exact not_active_of_resting (hrest (h.resting hs hfinal ht horder))
  | confirm | assign | request | dispatch => exact absurd hfinal (by decide)
  | cancel ho hten hopen =>
    obtain rfl := status_of_get hs ho
    obtain ⟨-, hidle⟩ := hc _ ho hten hopen
    exact not_active_of_resting (hrest (h.resting_of_idle hidle ht horder))
  | reject ho hten =>
    obtain ⟨-, hidle⟩ := hc _ ho hten
    exact not_active_of_resting (hrest (h.resting_of_idle hidle ht horder))
  | @close _ _ tripId _ _ closing closed _ hclosing _ hclosingOrder _ _ _ _ hclosed hstatus =>
    obtain rfl := h.eq_of_order ht (Table.mem_of_get hclosing) horder hclosingOrder
    obtain rfl : t.id = tripId := Table.key_of_get hclosing
    cases ht'.symm.trans hclosed
    rw [hstatus]
    rfl

theorem TripOrdersSound.step (h : TripOrdersSound f) (hc : c.KeepsStep f) : TripOrdersSound (c.step f) where
  ok := c.step_ok h.ok
  rests orderId s' hs' hfinal t' ht' horder' := by
    cases ht : f.trips.get t'.id with
    | none =>
      obtain ⟨-, hassigned⟩ := (c.step_follow f).fresh t'.id t' ht (Table.get_of_mem ht') orderId horder'
      cases hs'.symm.trans hassigned
      exact absurd hfinal (by decide)
    | some t =>
      obtain ⟨t'', ht'', hsame, hrest, -⟩ := (c.step_follow f).moves t'.id t ht
      cases (Table.get_of_mem ht').symm.trans ht''
      have hid : t.id = t'.id := Table.key_of_get ht
      have horder : t.tripOrderId = some orderId := hsame ▸ horder'
      cases hs : f.orderStatus orderId with
      | none =>
        cases (c.step_orders f).fresh orderId s' hs hs'
        exact absurd hfinal (by decide)
      | some s =>
        obtain ⟨s'', hs'', hmove⟩ := (c.step_orders f).moves orderId s hs
        cases hs'.symm.trans hs''
        exact h.rests_of_move hc hs hmove hfinal (Table.mem_of_get ht) horder (hid ▸ ht'') hrest
  planned t' ht' hsome hdraft := by
    obtain ⟨orderId, horder⟩ := Option.isSome_iff_exists.mp hsome
    cases ht : f.trips.get t'.id with
    | none =>
      obtain ⟨hplanned, -⟩ := (c.step_follow f).fresh t'.id t' ht (Table.get_of_mem ht') orderId horder
      cases hdraft.symm.trans hplanned
    | some t =>
      obtain ⟨t'', ht'', hsame, -, hback⟩ := (c.step_follow f).moves t'.id t ht
      cases (Table.get_of_mem ht').symm.trans ht''
      exact h.planned t (Table.mem_of_get ht) (hsame ▸ hsome) (hback hdraft)

/-- Along every run whose calls look at the order and at its trip, a final order keeps its status
at every call, and after each of them orders and trips are in step. -/
theorem orders_in_step (h : TripOrdersSound f) {calls : List OpsCall}
    (hcalls : Run.Along OpsCall.step (fun f c => c.KeepsStep f) f calls) :
    Run.Along OpsCall.step (fun f c => FinalKept f (c.step f) ∧ InStep (c.step f)) f calls :=
  Run.along_inv (fun _ _ h hc => h.step hc)
    (fun _ _ h hc => ⟨h.final_kept hc, (h.step hc).inStep⟩) h hcalls

end

/-! ## A rejected order whose trip goes on -/

private def orderFleet : Fleet where
  vehicles := .single { id := 1, tenantId := 1, plate := "AAA-001-MC" }
  drivers := .single { id := 1, tenantId := 1 }

private def assigning : List OpsCall :=
  [.orders (.createTripOrder 1 { origin := "Maputo", destination := "Beira" }),
    .orders (.confirmTripOrder 1 1),
    .orders (.assignTripOrder 100 1 1 { vehicleId := 1, driverId := 1 } none)]

private theorem orderFleet_sound : TripOrdersSound orderFleet where
  ok := by decide +kernel
  rests _ _ hs := nomatch hs
  planned := fun _ ht => absurd ht (Table.not_mem_empty _)

/-- An order is assigned; it cannot be cancelled any more. -/
theorem orders_in_step_assigned :
    Run.Along (@OpsCall.step .undated .ascii)
      (fun f c => FinalKept f (@OpsCall.step .undated .ascii f c) ∧
        InStep (@OpsCall.step .undated .ascii f c)) orderFleet
      (assigning ++ [.orders (.cancelTripOrder 1 1)]) := by
  refine @orders_in_step .undated .ascii orderFleet orderFleet_sound _ ?_
  refine ⟨trivial, trivial, trivial, ?_, trivial⟩
  intro o ho _ hopen
  have hstatus : (Run.exec (@OpsCall.step .undated .ascii) orderFleet assigning).orderStatus 1 =
      some "assigned" := by decide +kernel
  rw [status_of_get hstatus ho] at hopen
  exact absurd (by decide) hopen

/-- The order is rejected while its trip is planned, and the clearance of the trip takes the rejected
order on. -/
theorem rejected_on_the_road :
    let rejected := Run.exec (@OpsCall.step .undated .ascii) orderFleet
      (assigning ++ [.orders (.rejectDispatchClearance 1 1)])
    let cleared := @OpsCall.step .undated .ascii rejected (.trips (.requestDispatchClearance 1 1))
    (rejected.orderStatus 1, (rejected.trips.get 1).map fun t => (t.tripOrderId, t.status)) =
        (some "rejected", some (some 1, .planned)) ∧
      cleared.orderStatus 1 = some "dispatch_pending" := by
  decide +kernel

end Rotas
