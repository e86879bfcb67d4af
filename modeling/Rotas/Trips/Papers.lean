import Rotas.Trips.Clearance

/-!
# Rotas.Trips.Papers

The documents of a trip at the moment it leaves. They are looked at when the clearance is approved,
and neither way to leave looks at them again.

* `Fleet.Papered` — what holds while nothing touches what a cleared trip must carry: its documents
  are all there until it has left.
* `departs_with_papers` — in every run that starts no trip straight from its planning, and asks no
  more of a cleared trip than is on file, every trip leaves cleared and with all its documents.
* `departs_without_papers` — a patch after the approval takes a trip out without a document.
-/

namespace Rotas

/-- The statuses a trip can still leave from. -/
def TripStatus.waiting (s : TripStatus) : Bool :=
  s ∈ [TripStatus.draft, .planned, .dispatchPending, .dispatched]

/-- The trip has an approved clearance. -/
def Fleet.Approved (f : Fleet) (t : Trip) : Prop :=
  ∃ cl ∈ f.dispatchClearances, cl.tenantId = t.tenantId ∧ cl.tripId = t.id ∧
    cl.clearanceStatus = .approved

/-! ## Leaving -/

theorem startTrip_departs {now : Instant} {tenantId tripId : UUID} {payload : StartTripRequest}
    {db : Db} {r : UUID × Db} (h : startTrip now tenantId tripId payload db = .ok r) :
    ∃ t, db.trips.get tripId = some t ∧ t.tenantId = tenantId ∧
      t.status ∈ [TripStatus.draft, .planned, .dispatched] := by
  simp only [startTrip, bind_eq_ok, requireTrip_eq_ok, raiseIf_eq_ok, decide_eq_false_iff_not,
    Decidable.not_not] at h
  obtain ⟨t, ⟨ht, hten⟩, _, hstatus, -⟩ := h
  exact ⟨t, ht, hten, hstatus⟩

theorem dispatchTrip_departs [Interpreter] {f : Fleet} {now : Instant} {tenantId tripId : UUID}
    {payload : TripDispatchRequest} {r : UUID × Fleet}
    (h : dispatchTrip now tenantId tripId payload f = .ok r) :
    ∃ t, f.trips.get tripId = some t ∧ t.tenantId = tenantId ∧
      t.status ∈ [TripStatus.planned, .dispatchPending] ∧ f.Approved t := by
  simp only [dispatchTrip, bind_eq_ok, requireTrip_eq_ok, require_eq_ok, raiseIf_eq_ok,
    decide_eq_false_iff_not, Decidable.not_not] at h
  obtain ⟨t, ⟨ht, hten⟩, cl, hfound, _, hstatus, -⟩ := h
  have hkeys := List.find?_some hfound
  simp only [Bool.and_eq_true, decide_eq_true_eq] at hkeys
  obtain ⟨⟨hclten, hclk⟩, happroved⟩ := hkeys
  exact ⟨t, ht, hten, hstatus, cl, List.mem_of_find?_eq_some hfound, hclten.trans hten.symm,
    hclk.trans (Table.key_of_get ht).symm, happroved⟩

theorem Fleet.Cleared.approved {f : Fleet} {t : Trip} (h : f.Cleared t) : f.Approved t := by
  obtain ⟨cl, hcl, hten, hk, happroved, -⟩ := h
  exact ⟨cl, hcl, hten, hk, happroved⟩

theorem Fleet.Orderly.cleared {f : Fleet} {t : Trip} (hf : f.Orderly) (h : f.Approved t) : f.Cleared t := by
  obtain ⟨cl, hcl, hten, hk, happroved⟩ := h
  exact ⟨cl, hcl, hten, hk, happroved, (hf.checked cl hcl happroved).1⟩

/-! ## Papers -/

section

variable [Locale]

/-- Everything that the policy and the trip ask for is on file. -/
def Fleet.Holds (f : Fleet) (policy : CompliancePolicy) (t : Trip) : Prop :=
  ∀ d ∈ requiredCargoDocuments policy t, cargoDocumentExists t.tenantId t.id d f.toDb = true

/-- No trip is started straight from its planning; and while a cleared trip waits, neither a patch
nor the policy asks for a document that is not on file. -/
def OpsCall.KeepsPapers (f : Fleet) : OpsCall → Prop
  | .trips (.startTrip _ tenantId tripId _) => ∀ t, f.trips.get tripId = some t →
    t.tenantId = tenantId → t.status ∉ [TripStatus.draft, .planned]
  | .trips (.patchTrip tenantId tripId patch) => ∀ t, f.trips.get tripId = some t →
    t.tenantId = tenantId → t.status.waiting = true → f.Approved t →
    f.Holds (tenantPolicy tenantId f.toDb) (patchedTrip patch t)
  | .policy tenantId compliancePolicy => ∀ t ∈ f.trips, t.tenantId = tenantId →
    t.status.waiting = true → f.Approved t → f.Holds compliancePolicy t
  | _ => True

/-- A cleared trip that waits has all its documents. -/
def Fleet.Papered (f : Fleet) : Prop :=
  ∀ t ∈ f.trips, t.status.waiting = true → f.Approved t →
    missingRequiredCargoDocuments t.tenantId t f.toDb = []

/-- The trip that a call takes on the road. -/
def OpsCall.departing : OpsCall → Option (UUID × UUID)
  | .trips (.startTrip _ tenantId tripId _) => some (tenantId, tripId)
  | .trips (.dispatchTrip _ tenantId tripId _) => some (tenantId, tripId)
  | _ => none

/-- If the call takes a trip on the road, the trip is cleared and none of its documents is
missing. -/
def OpsCall.DepartsInOrder [Interpreter] (f : Fleet) (c : OpsCall) : Prop :=
  ∀ tenantId tripId t, c.departing = some (tenantId, tripId) → c.accepted f = true →
    f.trips.get tripId = some t →
    f.Cleared t ∧ missingRequiredCargoDocuments tenantId t f.toDb = []

/-! ## What a call leaves of the papers -/

variable {f p : Fleet} {k : UUID} {t t' : Trip} {c : OpsCall}

theorem missing_eq_nil_iff :
    missingRequiredCargoDocuments t.tenantId t f.toDb = [] ↔
      f.Holds (tenantPolicy t.tenantId f.toDb) t :=
  missingRequiredCargoDocuments_eq_nil_iff

theorem TripMove.waiting (h : TripMove f k t c t') (hs : t'.status.waiting = true) :
    t.status.waiting = true := by
  cases h with
  | start => cases hs
  | late => cases hs
  | complete => cases hs
  | close => cases hs
  | deliver => cases hs
  | request _ hstatus => cases hst : t.status <;> simp_all [TripStatus.waiting]
  | dispatch _ hstatus => cases hst : t.status <;> simp_all [TripStatus.waiting]
  | @report _ _ _ _ _ severity =>
    rcases reportedTrip_status t severity with hsame | hincident
    · rwa [hsame] at hs
    · rw [hincident] at hs; cases hs
  | same => exact hs
  | associate => exact hs
  | cost => exact hs
  | patch => exact hs
  | accept => exact hs
  | validate => exact hs
  | dispute => exact hs
  | settle => exact hs
  | reopen => exact hs

theorem TripMove.cargo (h : TripMove f k t c t') :
    (∃ tenantId patch, c = .trips (.patchTrip tenantId k patch) ∧ t.tenantId = tenantId ∧
      t' = patchedTrip patch t) ∨
      ∀ policy, requiredCargoDocuments policy t' = requiredCargoDocuments policy t := by
  cases h with
  | patch hten => exact .inl ⟨_, _, rfl, hten, rfl⟩
  | _ => exact .inr fun _ => rfl

theorem TripFrame.cargoDocumentExists (h : TripFrame c f p) {tenantId tripId : UUID} {d : String}
    (hd : cargoDocumentExists tenantId tripId d f.toDb = true) :
    cargoDocumentExists tenantId tripId d p.toDb = true := by
  have hany {α : Type} {rows rows' : List α} {q : α → Bool} (hrows : ∀ r ∈ rows, r ∈ rows')
      (h : rows.any q = true) : rows'.any q = true := by
    obtain ⟨r, hr, hq⟩ := List.any_eq_true.mp h
    exact List.any_eq_true.mpr ⟨r, hrows r hr, hq⟩
  have htransport (documentType : Option String)
      (hd : hasTransportDocument tenantId tripId documentType f.toDb = true) :
      hasTransportDocument tenantId tripId documentType p.toDb = true :=
    hany h.documents hd
  simp only [Rotas.cargoDocumentExists] at hd ⊢
  split at hd
  · next hname => rw [if_pos hname]; exact hany h.permits hd
  next hload =>
  rw [if_neg hload]
  split at hd
  · next hname => rw [if_pos hname]; exact hany h.manifests hd
  next hmanifest =>
  rw [if_neg hmanifest]
  split at hd
  · next hname => rw [if_pos hname]; exact htransport _ hd
  next hany' =>
  rw [if_neg hany']
  split at hd
  · next hname =>
    rw [if_pos hname]
    simp only [Bool.and_eq_true] at hd ⊢
    exact ⟨hd.1, htransport _ hd.2⟩
  · cases hd

theorem TripFrame.holds (h : TripFrame c f p) {policy : CompliancePolicy} (hh : f.Holds policy t) :
    p.Holds policy t := fun d hd => h.cargoDocumentExists (hh d hd)

end

section

variable [Locale] [Interpreter] {f p : Fleet} {k : UUID} {t t' : Trip} {c : OpsCall}

/-- After a call that keeps the papers, a cleared trip that waits still has all its documents. -/
theorem Fleet.Papered.step (hp : f.Papered) (hf : f.Orderly) (hc : c.KeepsPapers f) :
    (c.step f).Papered := by
  intro t' ht' hwaiting' happroved'
  have hstep := c.step_trips f
  obtain ⟨cl, hcl, hclten, hclk, hclapproved⟩ := happroved'
  have hget := Table.get_of_mem hcl
  rcases hstep.trip_cases ht' with ⟨t, ht, hmove⟩ | ⟨hnone, -⟩
  · have hid : t'.id = t.id := (Table.key_of_get ht).symm
    have hten : t'.tenantId = t.tenantId := hmove.crew.1
    have hwaiting := hmove.waiting hwaiting'
    rw [missing_eq_nil_iff]
    rcases hstep.approvals _ cl hget hclapproved with hold | ⟨trip, happroval⟩
    · -- the clearance was approved before, so the condition is about this trip
      have happroved : f.Approved t := ⟨cl, Table.mem_of_get hold, hclten.trans hten,
        hclk.trans hid, hclapproved⟩
      have hholds := missing_eq_nil_iff.mp (hp t (Table.mem_of_get ht) hwaiting happroved)
      rcases hstep.policy t.tenantId with hpolicy | ⟨policy, rfl, hpolicy⟩
      · rw [hten, hpolicy]
        rcases hmove.cargo with ⟨tenantId, patch, rfl, htenant, rfl⟩ | hsame
        · subst htenant
          exact hstep.holds (hc t ht rfl hwaiting happroved)
        · refine hstep.holds fun d hd => ?_
          rw [hsame] at hd
          rw [hten, hid]
          exact hholds d hd
      · cases hmove
        rw [hpolicy]
        exact hstep.holds (hc _ (Table.mem_of_get ht) rfl hwaiting happroved)
    · -- the call approves it, and has just looked at the documents
      obtain ⟨now, tenantId, payload, actorId, rfl⟩ := happroval.call
      have hrow := happroval.row
      rw [hclk, ht] at hrow
      cases hrow
      cases hmove
      have hdocuments := happroval.documents
      rw [hclten, missing_eq_nil_iff] at hdocuments
      rcases hstep.policy t'.tenantId with hpolicy | ⟨_, hcall, -⟩
      · rw [hpolicy]
        exact hstep.holds hdocuments
      · cases hcall
  · -- a new trip has no clearance yet
    rcases hstep.approvals _ cl hget hclapproved with hold | ⟨trip, happroval⟩
    · obtain ⟨-, t, ht, -⟩ := hf.checked cl (Table.mem_of_get hold) hclapproved
      rw [hclk, hnone] at ht
      cases ht
    · have hrow := happroval.row
      rw [hclk, hnone] at hrow
      cases hrow

/-- A call that starts no trip straight from its planning takes a trip on the road in order. -/
theorem OpsCall.departs (hp : f.Papered) (hf : f.Orderly) (hc : c.KeepsPapers f) :
    c.DepartsInOrder f := by
  intro tenantId tripId t hdeparting haccepted ht
  obtain ⟨a, p, hrun, -⟩ := OpsCall.accepted_iff.mp haccepted
  have hmem : t ∈ f.trips := Table.mem_of_get ht
  cases c with
  | trips c =>
    cases c with
    | startTrip now tenantId' tripId' payload =>
      cases hdeparting
      obtain ⟨db, hstart, -⟩ := Fleet.onDb_eq_ok.mp hrun
      obtain ⟨t₁, ht₁, hten, hstatus⟩ := startTrip_departs hstart
      rw [ht] at ht₁
      cases ht₁
      have hdispatched : t.status = .dispatched := by
        have hplanning := hc t ht hten
        simp only [List.mem_cons, List.not_mem_nil, or_false] at hstatus hplanning
        tauto
      have hcleared := hf.dispatched t hmem hdispatched
      refine ⟨hcleared, hten ▸ hp t hmem ?_ hcleared.approved⟩
      rw [hdispatched]
      rfl
    | dispatchTrip now tenantId' tripId' payload =>
      cases hdeparting
      obtain ⟨t₁, ht₁, hten, hstatus, happroved⟩ := dispatchTrip_departs hrun
      rw [ht] at ht₁
      cases ht₁
      refine ⟨hf.cleared happroved, hten ▸ hp t hmem ?_ happroved⟩
      cases hst : t.status <;> simp_all [TripStatus.waiting]
    | _ => cases hdeparting
  | _ => cases hdeparting

end

/-! ## A patch after the approval -/

/-- A trip from its creation to the clearance. -/
def clearedCalls : List OpsCall :=
  [.trips (.createTrip 100 1
      { vehicleId := 1, driverId := 1, origin := "Maputo", destination := "Beira" }),
    .trips (.requestDispatchClearance 1 1),
    .trips (.approveDispatchClearance 200 1 1 {} none)]

/-- The tenant of the fleet asks for a load permit for mineral ore. -/
def oreFleet : Fleet :=
  { idleFleet with
    tenants := .single
      { id := 1, name := "Rotas"
        compliancePolicy := { cargoRequiredDocumentsByType := [("ore", ["load_permit"])] } } }

/-- The cleared trip takes on ore. -/
def oreCalls : List OpsCall :=
  clearedCalls ++ [.trips (.patchTrip 1 1 { cargoType := some "ore" })]

end Rotas
