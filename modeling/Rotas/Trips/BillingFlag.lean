import Rotas.Lib.Run
import Rotas.Trips.Clearance

/-!
# Rotas.Trips.BillingFlag

The billing flag of a trip over runs of all the calls: who sets it, and what it then says of the
contract and the proofs of the trip.

* `Verdict`       — what a call makes of a proof and of the flag of its trip.
* `BillsDuly`     — the calls that make a trip billable only under a contract and with no dispute.
* `Trip.Honest`   — the invariant: a flag that says billable, or waiting for a contract, is true.
* `Fleet.Honest.exec` — it holds along every run of such calls.
-/

namespace Rotas

open Work

/-! ## Proofs of a trip -/

/-- The statuses of the proofs of a trip, in the order of the rows. -/
def proofStatuses (proofs : List DeliveryProof) (tripId : UUID) : List ProofStatus :=
  (proofs.filter (·.tripId = tripId)).map DeliveryProof.status

/-- One of the proofs counts for billing. -/
def Counted (statuses : List ProofStatus) : Prop := ∃ s ∈ statuses, s ∈ billableProofStatuses

/-- The trip has a proof that counts for billing. -/
def Db.Counted (db : Db) (tripId : UUID) : Prop :=
  Rotas.Counted (proofStatuses db.deliveryProofs.rows tripId)

/-- No proof of the trip is in dispute. -/
def Db.Settled (db : Db) (tripId : UUID) : Prop :=
  .disputed ∉ proofStatuses db.deliveryProofs.rows tripId

/-- A waiver of the tenant let the trip be closed without a proof. -/
def Db.NoPodWaived (db : Db) (trip : Trip) : Prop :=
  ∃ now, hasActiveWaiver now trip.tenantId "trip" trip.id "no_pod" db = true

theorem mem_proofStatuses {proofs : List DeliveryProof} {tripId : UUID} {s : ProofStatus} :
    s ∈ proofStatuses proofs tripId ↔ ∃ p ∈ proofs, p.tripId = tripId ∧ p.status = s := by
  simp only [proofStatuses, List.mem_map, List.mem_filter, decide_eq_true_eq, and_assoc]

theorem proofStatuses_append (l l' : List DeliveryProof) (tripId : UUID) :
    proofStatuses (l ++ l') tripId = proofStatuses l tripId ++ proofStatuses l' tripId := by
  simp only [proofStatuses, List.filter_append, List.map_append]

theorem proofStatuses_cons_self (p : DeliveryProof) (l : List DeliveryProof) :
    proofStatuses (p :: l) p.tripId = p.status :: proofStatuses l p.tripId := by
  simp only [proofStatuses, List.filter_cons_of_pos, decide_true, List.map_cons]

theorem proofStatuses_cons_ne {p : DeliveryProof} {tripId : UUID} (h : p.tripId ≠ tripId)
    (l : List DeliveryProof) : proofStatuses (p :: l) tripId = proofStatuses l tripId := by
  rw [proofStatuses, List.filter_cons_of_neg (by simpa using h)]
  rfl

/-- A proof that does not count makes no difference to whether one does. -/
theorem counted_cons_iff {l l' : List ProofStatus} {s : ProofStatus}
    (hs : s ∉ billableProofStatuses) : Counted (l ++ s :: l') ↔ Counted (l ++ l') := by
  simp only [Counted, List.mem_append, List.mem_cons]
  constructor
  · rintro ⟨r, hr | rfl | hr, hb⟩
    · exact ⟨r, .inl hr, hb⟩
    · exact absurd hb hs
    · exact ⟨r, .inr hr, hb⟩
  · rintro ⟨r, hr | hr, hb⟩
    · exact ⟨r, .inl hr, hb⟩
    · exact ⟨r, .inr (.inr hr), hb⟩

theorem disputed_cons_iff {l l' : List ProofStatus} {s : ProofStatus} (hs : s ≠ .disputed) :
    .disputed ∈ l ++ s :: l' ↔ .disputed ∈ l ++ l' := by
  simp only [List.mem_append, List.mem_cons, or_iff_right hs.symm]

/-! ## What a call makes of a proof -/

/-- What a call of the cargo module makes of the proof `p`: its new status, and what becomes of
its trip. -/
inductive Verdict (p : DeliveryProof) : ProofCall → ProofStatus → (Trip → Trip) → Prop
  | accepted {now : Instant} {tenantId userId : UUID} : p.status = .pending →
      Verdict p (.acceptDeliveryProof now tenantId p.id userId) .accepted
        ({ · with billingStatus := .billable })
  | rejected {now : Instant} {tenantId userId : UUID} {reason : String} : p.status = .pending →
      Verdict p (.rejectDeliveryProof now tenantId p.id userId reason) .rejected id
  | validated {now : Instant} {tenantId : UUID} {userId : Option UUID}
      {payload : ValidateDeliveryProofRequest} :
      p.status ∉ [ProofStatus.validated, .verified, .disputed] →
      Verdict p (.validateDeliveryProof now tenantId p.tripId p.id userId payload) .validated
        (Trip.readyForBilling now)
  | disputed {tenantId : UUID} {payload : DisputeDeliveryProofRequest} : p.status ≠ .disputed →
      Verdict p (.disputeDeliveryProof tenantId p.tripId p.id payload) .disputed
        ({ · with billingStatus := .deliveryDisputed, billableAt := none })
  | settled {now : Instant} {tenantId : UUID} {userId : Option UUID}
      {payload : ResolveDeliveryProofDisputeRequest} : p.status = .disputed →
      payload.outcome = "validated" →
      Verdict p (.resolveDeliveryProofDispute now tenantId p.tripId p.id userId payload) .validated
        (Trip.readyForBilling now)
  | reopened {now : Instant} {tenantId : UUID} {userId : Option UUID}
      {payload : ResolveDeliveryProofDisputeRequest} : p.status = .disputed →
      Verdict p (.resolveDeliveryProofDispute now tenantId p.tripId p.id userId payload) .rejected
        ({ · with billingStatus := .pendingDeliveryProof, billableAt := none })
  | patched {tenantId : UUID} {updateData : DeliveryProofPatch} :
      Verdict p (.patchDeliveryProof tenantId p.id updateData) p.status id

/-- A call of the cargo module does nothing, adds a pending proof and delivers its trip, or passes
a verdict on one proof. -/
inductive ProofTurn (db : Db) : ProofCall → Db → Prop
  | idle {c : ProofCall} {q : Db} : q.deliveryProofs = db.deliveryProofs → q.trips = db.trips →
      ProofTurn db c q
  | delivered {tenantId tripId : UUID} {payload : DeliveryProofCreate} {q : Db} {trip : Trip}
      {proof : DeliveryProof} : db.trips.get tripId = some trip → trip.tenantId = tenantId →
      proof.tenantId = tenantId → proof.tripId = tripId → proof.status = .pending →
      q.deliveryProofs.rows = db.deliveryProofs.rows ++ [proof] →
      (∀ k, q.trips.get k = if k = tripId then some (provenTrip payload trip) else db.trips.get k) →
      ProofTurn db (.createDeliveryProof tenantId tripId payload) q
  | judged {c : ProofCall} {q : Db} {proof proof' : DeliveryProof} {pre post : List DeliveryProof}
      {g : Trip → Trip} : Verdict proof c proof'.status g → proof'.tripId = proof.tripId →
      proof'.tenantId = proof.tenantId → db.deliveryProofs.rows = pre ++ proof :: post →
      q.deliveryProofs.rows = pre ++ proof' :: post → (∀ p ∈ pre ++ post, p.id ≠ proof.id) →
      (∀ k, q.trips.get k = if k = proof.tripId then (db.trips.get k).map g else db.trips.get k) →
      ProofTurn db c q

section Turns

variable {c : ProofCall} {db q : Db} {now : Instant} {tenantId tripId proofId a : UUID}

theorem ProofTurn.of_modify {proof : DeliveryProof} {f : DeliveryProof → DeliveryProof}
    {g : Trip → Trip} (hproof : db.deliveryProofs.get proofId = some proof)
    (hq : q.deliveryProofs.rows =
      db.deliveryProofs.rows.map fun p => if Keyed.key p == proofId then f p else p)
    (hverdict : Verdict proof c (f proof).status g) (htrip : (f proof).tripId = proof.tripId)
    (hten : (f proof).tenantId = proof.tenantId)
    (htrips : ∀ k, q.trips.get k =
      if k = proof.tripId then (db.trips.get k).map g else db.trips.get k) : ProofTurn db c q := by
  cases Table.key_of_get hproof
  obtain ⟨pre, post, hrows, hrows', hne⟩ := Table.rows_split (Table.mem_of_get hproof) f
  exact .judged hverdict htrip hten hrows (hq.trans hrows') hne htrips

theorem get_modify_trip (trips : Table Trip) (g : Trip → Trip) (hg : ∀ t, Keyed.key (g t) = Keyed.key t)
    (k : UUID) : (trips.modify tripId g hg).get k =
      if k = tripId then (trips.get k).map g else trips.get k := by
  rw [Table.get_modify]
  split
  · next hk => rw [hk]
  · rfl

theorem get_same_trip (trips : Table Trip) (k : UUID) :
    trips.get k = if k = tripId then (trips.get k).map id else trips.get k := by
  rw [Option.map_id, id, ite_self]

theorem createDeliveryProof_turn {payload : DeliveryProofCreate}
    (h : createDeliveryProof tenantId tripId payload db = .ok (a, q)) :
    ProofTurn db (.createDeliveryProof tenantId tripId payload) q := by
  simp only [createDeliveryProof, bind_eq_ok, requireTrip_eq_ok, pure, Except.pure,
    Except.ok.injEq] at h
  obtain ⟨trip, ⟨htrip, hten⟩, h⟩ := h
  cases h
  refine .delivered htrip hten rfl rfl rfl (Table.rows_insert _ _ _) fun k => ?_
  rw [Table.get_modify, htrip]
  rfl

theorem acceptDeliveryProof_turn {userId : UUID}
    (h : acceptDeliveryProof now tenantId proofId userId db = .ok (a, q)) :
    ProofTurn db (.acceptDeliveryProof now tenantId proofId userId) q := by
  simp only [acceptDeliveryProof, bind_eq_ok, require_eq_ok, raiseIf_eq_ok, pure, Except.pure,
    Except.ok.injEq, decide_eq_false_iff_not, Decidable.not_not] at h
  obtain ⟨proof, hproof, _, _, _, hedge, h⟩ := h
  cases h
  have hpending : proof.status = .pending := by
    cases hs : proof.status <;> simp_all [deliveryProofValidTransitions]
  cases Table.key_of_get hproof
  exact .of_modify hproof rfl (.accepted hpending) rfl rfl fun k => by rw [get_modify_trip]

theorem rejectDeliveryProof_turn {userId : UUID} {reason : String}
    (h : rejectDeliveryProof now tenantId proofId userId reason db = .ok (a, q)) :
    ProofTurn db (.rejectDeliveryProof now tenantId proofId userId reason) q := by
  simp only [rejectDeliveryProof, bind_eq_ok, require_eq_ok, raiseIf_eq_ok, pure, Except.pure,
    Except.ok.injEq, decide_eq_false_iff_not, Decidable.not_not] at h
  obtain ⟨proof, hproof, _, _, _, hedge, h⟩ := h
  cases h
  have hpending : proof.status = .pending := by
    cases hs : proof.status <;> simp_all [deliveryProofValidTransitions]
  cases Table.key_of_get hproof
  exact .of_modify hproof rfl (.rejected hpending) rfl rfl fun k => get_same_trip _ k

theorem validateDeliveryProof_turn {userId : Option UUID} {payload : ValidateDeliveryProofRequest}
    (h : validateDeliveryProof now tenantId tripId proofId userId payload db = .ok (a, q)) :
    ProofTurn db (.validateDeliveryProof now tenantId tripId proofId userId payload) q := by
  simp only [validateDeliveryProof, bind_eq_ok, requireProof_eq_ok] at h
  obtain ⟨_, _, proof, ⟨hproof, _, rfl⟩, h⟩ := h
  split at h
  · cases h
    exact .idle rfl rfl
  · next hdone =>
    simp only [bind_eq_ok, raiseIf_eq_ok, pure, Except.pure, Except.ok.injEq,
      decide_eq_false_iff_not] at h
    obtain ⟨_, hdisputed, h⟩ := h
    cases h
    cases Table.key_of_get hproof
    refine .of_modify hproof rfl (.validated ?_) rfl rfl fun k => by rw [get_modify_trip]
    simp only [List.mem_cons, List.not_mem_nil, or_false, not_or] at hdone ⊢
    exact ⟨hdone.1, hdone.2, hdisputed⟩

theorem disputeDeliveryProof_turn {payload : DisputeDeliveryProofRequest}
    (h : disputeDeliveryProof tenantId tripId proofId payload db = .ok (a, q)) :
    ProofTurn db (.disputeDeliveryProof tenantId tripId proofId payload) q := by
  simp only [disputeDeliveryProof, bind_eq_ok, requireProof_eq_ok] at h
  obtain ⟨_, _, proof, ⟨hproof, _, rfl⟩, _, _, h⟩ := h
  split at h
  · cases h
    exact .idle rfl rfl
  · next hdisputed =>
    cases h
    cases Table.key_of_get hproof
    exact .of_modify hproof rfl (.disputed hdisputed) rfl rfl fun k => by rw [get_modify_trip]

theorem resolveDeliveryProofDispute_turn {userId : Option UUID}
    {payload : ResolveDeliveryProofDisputeRequest}
    (h : resolveDeliveryProofDispute now tenantId tripId proofId userId payload db = .ok (a, q)) :
    ProofTurn db (.resolveDeliveryProofDispute now tenantId tripId proofId userId payload) q := by
  simp only [resolveDeliveryProofDispute, bind_eq_ok, requireProof_eq_ok, raiseIf_eq_ok,
    decide_eq_false_iff_not, Decidable.not_not] at h
  obtain ⟨_, _, _, _, proof, ⟨hproof, _, rfl⟩, _, hdisputed, h⟩ := h
  cases Table.key_of_get hproof
  split at h
  · next hvalidated =>
    cases h
    exact .of_modify hproof rfl (.settled hdisputed hvalidated) rfl rfl
      fun k => by rw [get_modify_trip]
  · cases h
    exact .of_modify hproof rfl (.reopened hdisputed) rfl rfl fun k => by rw [get_modify_trip]

theorem patchDeliveryProof_turn {updateData : DeliveryProofPatch}
    (h : patchDeliveryProof tenantId proofId updateData db = .ok (a, q)) :
    ProofTurn db (.patchDeliveryProof tenantId proofId updateData) q := by
  simp only [patchDeliveryProof, bind_eq_ok, require_eq_ok] at h
  obtain ⟨proof, hproof, _, _, h⟩ := h
  cases h
  cases Table.key_of_get hproof
  exact .of_modify hproof rfl .patched rfl rfl fun k => get_same_trip _ k

theorem ProofCall.serve_turn (h : c.serve db = .ok (a, q)) : ProofTurn db c q := by
  cases c with
  | createDeliveryProof => exact createDeliveryProof_turn h
  | acceptDeliveryProof => exact acceptDeliveryProof_turn h
  | rejectDeliveryProof => exact rejectDeliveryProof_turn h
  | validateDeliveryProof => exact validateDeliveryProof_turn h
  | disputeDeliveryProof => exact disputeDeliveryProof_turn h
  | resolveDeliveryProofDispute => exact resolveDeliveryProofDispute_turn h
  | patchDeliveryProof => exact patchDeliveryProof_turn h

end Turns

/-! ## What the flag says -/

/-- No other proof of the proof's trip is in dispute. -/
def NoOtherDispute (db : Db) (proof : DeliveryProof) : Prop :=
  ∀ p ∈ db.deliveryProofs, p.tripId = proof.tripId → p.id ≠ proof.id → p.status ≠ .disputed

/-- Where the call would make trip `k` billable, the trip has a contract and no dispute is open but
the one that the call settles. A close, an acceptance and an association do not ask; a validation
and a settlement ask for the contract only. -/
def OpsCall.BillsDuly [Locale] (k : UUID) (f : Fleet) : OpsCall → Prop
  | .trips (.operationalCloseTrip now tenantId tripId _ _) =>
    tripId = k → ∀ t, f.trips.get k = some t → t.status ≠ .closed →
      closeChecks now tenantId t f.toDb = .ok () → t.contractId.isSome = true ∧ f.Settled k
  | .trips (.associateContract _ _ tripId _) =>
    tripId = k → ∀ t, f.trips.get k = some t → t.billingStatus = .uncontracted → f.Settled k
  | .proofs (.acceptDeliveryProof _ _ proofId _) =>
    ∀ proof t, f.deliveryProofs.get proofId = some proof → proof.tripId = k →
      f.trips.get k = some t → proof.status = .pending →
      t.contractId.isSome = true ∧ NoOtherDispute f.toDb proof
  | .proofs (.validateDeliveryProof _ _ _ proofId _ _) =>
    ∀ proof t, f.deliveryProofs.get proofId = some proof → proof.tripId = k →
      f.trips.get k = some t → proof.status ∉ [ProofStatus.validated, .verified, .disputed] →
      t.contractId.isSome = true → NoOtherDispute f.toDb proof
  | .proofs (.resolveDeliveryProofDispute _ _ _ proofId _ payload) =>
    payload.outcome = "validated" → ∀ proof t, f.deliveryProofs.get proofId = some proof →
      proof.tripId = k → f.trips.get k = some t → proof.status = .disputed →
      t.contractId.isSome = true → NoOtherDispute f.toDb proof
  | _ => True

/-- A trip that is billable has a contract, no dispute, and a proof that counts or a waiver; one
that waits for its contract has none yet. -/
structure Trip.Honest (db : Db) (t : Trip) : Prop where
  counted : t.billingStatus ∈ [BillingStatus.billable, .uncontracted] →
    db.Counted t.id ∨ db.NoPodWaived t
  settled : t.billingStatus = .billable → db.Settled t.id
  contracted : t.billingStatus = .billable → t.contractId.isSome = true
  uncontracted : t.billingStatus = .uncontracted → t.contractId = none

/-- Every proof is of a trip of its tenant, and the flag of trip `k` is honest. -/
structure Fleet.Honest (k : UUID) (f : Fleet) : Prop where
  tenants : ∀ p ∈ f.deliveryProofs, ∃ t, f.trips.get p.tripId = some t ∧ t.tenantId = p.tenantId
  flag : ∀ t, f.trips.get k = some t → t.Honest f.toDb

/-- No trip has been planned and no proof recorded yet; the rest is as it may be. -/
structure Fleet.Unproven (f : Fleet) : Prop where
  ok : f.ok = true
  trips : f.trips = ∅
  proofs : f.deliveryProofs = ∅

theorem Fleet.Unproven.honest {f : Fleet} (h : f.Unproven) (k : UUID) : f.Honest k where
  tenants p hp := absurd (h.proofs ▸ hp) (Table.not_mem_empty p)
  flag t ht := absurd (h.trips ▸ Table.mem_of_get ht) (Table.not_mem_empty t)

section Flags

variable {db q : Db} {t t' : Trip}

/-- The flag, the contract and what counts of the proofs and the waivers are as they were. -/
theorem Trip.Honest.of_same (h : t.Honest db)
    (htrip : t'.id = t.id ∧ t'.tenantId = t.tenantId ∧ t'.contractId = t.contractId)
    (hflag : t'.billingStatus = t.billingStatus)
    (hwaivers : q.operationalWaivers = db.operationalWaivers)
    (hcounted : db.Counted t.id → q.Counted t.id)
    (hsettled : db.Settled t.id → q.Settled t.id) : t'.Honest q := by
  obtain ⟨hid, hten, hcontract⟩ := htrip
  constructor
  case counted =>
    intro hb
    rw [hid, Db.NoPodWaived, hid, hten]
    refine (h.counted (hflag ▸ hb)).imp hcounted ?_
    rintro ⟨now, hw⟩
    exact ⟨now, by rw [← hw, hasActiveWaiver, hasActiveWaiver, hwaivers]⟩
  case settled =>
    intro hb
    rw [hid]
    exact hsettled (h.settled (hflag ▸ hb))
  case contracted =>
    intro hb
    rw [hcontract]
    exact h.contracted (hflag ▸ hb)
  case uncontracted =>
    intro hb
    rw [hcontract]
    exact h.uncontracted (hflag ▸ hb)

theorem Trip.Honest.of_silent (h : t.billingStatus ∉ [BillingStatus.billable, .uncontracted]) :
    t.Honest db where
  counted hb := absurd hb h
  settled hb := absurd (by simp [hb]) h
  contracted hb := absurd (by simp [hb]) h
  uncontracted hb := absurd (by simp [hb]) h

theorem Trip.Honest.of_billable (hcounted : db.Counted t.id ∨ db.NoPodWaived t)
    (hsettled : db.Settled t.id) (hcontract : t.contractId.isSome = true)
    (hflag : t.billingStatus = .billable) : t.Honest db where
  counted _ := hcounted
  settled _ := hsettled
  contracted _ := hcontract
  uncontracted hb := by rw [hflag] at hb; cases hb

/-- A validated delivery is billable under a contract, and waits for one without. -/
theorem Trip.Honest.ready {now : Instant} (hcounted : db.Counted t.id)
    (hsettled : t.contractId.isSome = true → db.Settled t.id) :
    (t.readyForBilling now).Honest db := by
  cases hc : t.contractId.isSome with
  | true => exact .of_billable (.inl hcounted) (hsettled hc) hc (if_pos hc)
  | false =>
    have hflag : (t.readyForBilling now).billingStatus = .uncontracted := by
      simp [Trip.readyForBilling, hc]
    have hnot : (t.readyForBilling now).billingStatus ≠ .billable := by simp [hflag]
    exact
      { counted := fun _ => .inl hcounted
        settled := fun hb => absurd hb hnot
        contracted := fun hb => absurd hb hnot
        uncontracted := fun _ => Option.isNone_iff_eq_none.mp (Option.isSome_eq_false_iff.mp hc) }

end Flags

section Moves

variable [Locale] {f p : Fleet} {k : UUID} {t t' : Trip} {c : OpsCall}

/-- What a closing asks for: a validated proof, which counts, or a waiver. -/
theorem counted_of_closeChecks {now : Instant} {tenantId : UUID} (hten : t.tenantId = tenantId)
    (h : closeChecks now tenantId t f.toDb = .ok ()) :
    f.Counted t.id ∨ f.NoPodWaived t := by
  obtain ⟨-, -, hpod, -⟩ := closeChecks_eq_ok.mp h
  rcases hpod with ⟨p, hp, -, hof, hvalidated⟩ | hwaived
  · exact .inl ⟨.validated, mem_proofStatuses.mpr ⟨p, hp, hof, hvalidated⟩, by decide⟩
  · exact .inr ⟨now, hten ▸ hwaived⟩

/-- A call that judges no proof sets the flag by a closing or for a contract. -/
theorem TripMove.honest (h : TripMove f k t c t') (hk : f.trips.get k = some t)
    (hc : c.BillsDuly k f) (hproofs : ∀ pc, c ≠ .proofs pc) (ht : t.Honest f.toDb) :
    t'.Honest f.toDb := by
  have hid : t.id = k := Table.key_of_get hk
  cases h with
  | same => exact ht
  | start => exact ht.of_same ⟨rfl, rfl, rfl⟩ rfl rfl id id
  | request => exact ht.of_same ⟨rfl, rfl, rfl⟩ rfl rfl id id
  | dispatch => exact ht.of_same ⟨rfl, rfl, rfl⟩ rfl rfl id id
  | late => exact ht.of_same ⟨rfl, rfl, rfl⟩ rfl rfl id id
  | report => exact ht.of_same ⟨rfl, rfl, rfl⟩ rfl rfl id id
  | complete => exact ht.of_same ⟨rfl, rfl, rfl⟩ rfl rfl id id
  | cost => exact ht.of_same ⟨rfl, rfl, rfl⟩ rfl rfl id id
  | patch => exact ht.of_same ⟨rfl, rfl, rfl⟩ rfl rfl id id
  | close hten hopen hchecks =>
    obtain ⟨hcontract, hsettled⟩ := hc rfl t hk hopen hchecks
    have hcounted : f.Counted t.id ∨ f.NoPodWaived t := counted_of_closeChecks hten hchecks
    exact .of_billable hcounted (hid ▸ hsettled) hcontract rfl
  | @associate now _ _ contract =>
    by_cases hwaits : t.billingStatus = .uncontracted
    · refine .of_billable (ht.counted (by simp [hwaits])) ?_ rfl (if_pos hwaits)
      exact hid ▸ hc rfl t hk hwaits
    · have hflag : (contractedTrip now contract t).billingStatus = t.billingStatus := if_neg hwaits
      exact
        { counted := fun hb => ht.counted (hflag ▸ hb)
          settled := fun hb => ht.settled (hflag ▸ hb)
          contracted := fun _ => rfl
          uncontracted := fun hb => absurd (hflag ▸ hb) hwaits }
  | deliver => exact absurd rfl (hproofs _)
  | accept => exact absurd rfl (hproofs _)
  | validate => exact absurd rfl (hproofs _)
  | dispute => exact absurd rfl (hproofs _)
  | settle => exact absurd rfl (hproofs _)
  | reopen => exact absurd rfl (hproofs _)

variable [Interpreter]

/-- The proofs stay with trips of their tenants, whose tenants never change. -/
theorem TripStep.tenants (h : TripStep c f p) {tripId tenantId : UUID}
    (hf : ∃ t, f.trips.get tripId = some t ∧ t.tenantId = tenantId) :
    ∃ t, p.trips.get tripId = some t ∧ t.tenantId = tenantId := by
  obtain ⟨t, ht, hten⟩ := hf
  obtain ⟨t', ht', hmove⟩ := h.moves _ t ht
  exact ⟨t', ht', hmove.crew.1.trans hten⟩

theorem Fleet.Honest.of_moves (hf : f.Honest k) (hstep : TripStep c f p) (hc : c.BillsDuly k f)
    (hproofs : ∀ pc, c ≠ .proofs pc) : p.Honest k := by
  have hsame : p.deliveryProofs = f.deliveryProofs := by
    rcases hstep.proofs with ⟨pc, rfl⟩ | h
    · exact absurd rfl (hproofs pc)
    · exact h
  constructor
  case tenants => exact fun r hr => hstep.tenants (hf.tenants r (hsame ▸ hr))
  case flag =>
    intro t' ht'
    cases ht : f.trips.get k with
    | none =>
      have hnew := hstep.fresh k t' ht ht'
      refine .of_silent ?_
      cases hnew <;> simp [newTrip, tripOfOrder]
    | some t =>
      obtain ⟨t₁, ht₁, hmove⟩ := hstep.moves k t ht
      rw [ht'] at ht₁
      cases ht₁
      have hhonest := hmove.honest ht hc hproofs (hf.flag t ht)
      refine hhonest.of_same ⟨rfl, rfl, rfl⟩ rfl hstep.waivers ?_ ?_
      · simp only [Db.Counted, hsame, imp_self]
      · simp only [Db.Settled, hsame, imp_self]

end Moves

section Proofs

variable {f : Fleet} {c : ProofCall} {q : Db} {proof proof' : DeliveryProof} {t : Trip}
  {s : ProofStatus} {g : Trip → Trip} {pre post : List DeliveryProof} {k : UUID}

theorem counted_of_judged (hrows' : q.deliveryProofs.rows = pre ++ proof' :: post)
    (htrip : proof'.tripId = proof.tripId) (hs : proof'.status ∈ billableProofStatuses) : q.Counted proof.tripId := by
  refine ⟨proof'.status, mem_proofStatuses.mpr ⟨proof', ?_, htrip, rfl⟩, hs⟩
  rw [hrows']
  simp

/-- The proof is in no dispute now, and no other of its trip is. -/
theorem NoOtherDispute.settled (h : NoOtherDispute f.toDb proof)
    (hrows : f.deliveryProofs.rows = pre ++ proof :: post)
    (hrows' : q.deliveryProofs.rows = pre ++ proof' :: post) (htrip : proof'.tripId = proof.tripId)
    (hne : ∀ p ∈ pre ++ post, p.id ≠ proof.id) (hs : proof'.status ≠ .disputed) :
    q.Settled proof.tripId := by
  intro hd
  obtain ⟨p, hp, hof, hdisputed⟩ := mem_proofStatuses.mp hd
  rw [hrows', List.mem_append, List.mem_cons] at hp
  have hrest (hp : p ∈ pre ++ post) : False := by
    refine h p (Table.mem_def.mpr ?_) hof (hne p hp) hdisputed
    rw [hrows]
    simp only [List.mem_append, List.mem_cons] at hp ⊢
    exact hp.imp_right .inr
  rcases hp with hp | rfl | hp
  · exact hrest (List.mem_append_left _ hp)
  · exact hs hdisputed
  · exact hrest (List.mem_append_right _ hp)

theorem proofStatuses_judged_ne (hrows : f.deliveryProofs.rows = pre ++ proof :: post)
    (hrows' : q.deliveryProofs.rows = pre ++ proof' :: post) (htrip : proof'.tripId = proof.tripId)
    (hk : proof.tripId ≠ k) :
    proofStatuses q.deliveryProofs.rows k = proofStatuses f.deliveryProofs.rows k := by
  rw [hrows, hrows', proofStatuses_append, proofStatuses_append, proofStatuses_cons_ne hk,
    proofStatuses_cons_ne (htrip ▸ hk)]

/-- A verdict that the condition allows leaves the flag of the trip honest. -/
theorem Verdict.honest [Locale] (h : Verdict proof c proof'.status g)
    (hc : (OpsCall.proofs c).BillsDuly proof.tripId f)
    (hrows : f.deliveryProofs.rows = pre ++ proof :: post)
    (hrows' : q.deliveryProofs.rows = pre ++ proof' :: post) (htrip : proof'.tripId = proof.tripId)
    (hne : ∀ p ∈ pre ++ post, p.id ≠ proof.id)
    (hwaivers : q.operationalWaivers = f.operationalWaivers)
    (ht : f.trips.get proof.tripId = some t) (hhonest : t.Honest f.toDb) : (g t).Honest q := by
  have hmem : proof ∈ f.deliveryProofs := Table.mem_def.mpr (by rw [hrows]; simp)
  have hget : f.deliveryProofs.get proof.id = some proof := Table.get_of_mem hmem
  have hid : t.id = proof.tripId := Table.key_of_get ht
  have hcounted (hs : proof'.status ∈ billableProofStatuses) : q.Counted t.id :=
    hid ▸ counted_of_judged hrows' htrip hs
  have hsettled (hother : NoOtherDispute f.toDb proof) (hs : proof'.status ≠ .disputed) :
      q.Settled t.id := hid ▸ hother.settled hrows hrows' htrip hne hs
  have hbefore : proofStatuses f.deliveryProofs.rows t.id = proofStatuses pre proof.tripId ++
      proof.status :: proofStatuses post proof.tripId := by
    rw [hid, hrows, proofStatuses_append, proofStatuses_cons_self]
  have hafter : proofStatuses q.deliveryProofs.rows t.id = proofStatuses pre proof.tripId ++
      proof'.status :: proofStatuses post proof.tripId := by
    rw [hid, hrows', proofStatuses_append, ← htrip, proofStatuses_cons_self]
  generalize proof'.status = s at h hcounted hsettled hafter
  cases h with
  | accepted hpending =>
    obtain ⟨hcontract, hother⟩ := hc proof t hget rfl ht hpending
    exact .of_billable (.inl (hcounted (by decide))) (hsettled hother (by decide)) hcontract rfl
  | rejected hpending =>
    rw [hpending] at hbefore
    refine hhonest.of_same ⟨rfl, rfl, rfl⟩ rfl hwaivers ?_ ?_
    · rw [Db.Counted, Db.Counted, hbefore, hafter, counted_cons_iff (by decide),
        counted_cons_iff (by decide)]
      exact id
    · rw [Db.Settled, Db.Settled, hbefore, hafter, disputed_cons_iff (by decide),
        disputed_cons_iff (by decide)]
      exact id
  | validated hopen =>
    exact .ready (hcounted (by decide)) fun hcontract =>
      hsettled (hc proof t hget rfl ht hopen hcontract) (by decide)
  | disputed => exact .of_silent (by simp)
  | settled hdisputed hvalidated =>
    exact .ready (hcounted (by decide)) fun hcontract =>
      hsettled (hc hvalidated proof t hget rfl ht hdisputed hcontract) (by decide)
  | reopened => exact .of_silent (by simp)
  | patched =>
    refine hhonest.of_same ⟨rfl, rfl, rfl⟩ rfl hwaivers ?_ ?_
    · rw [Db.Counted, Db.Counted, hbefore, hafter]
      exact id
    · rw [Db.Settled, Db.Settled, hbefore, hafter]
      exact id

/-- The flag of a trip whose proofs and row are as they were. -/
theorem Fleet.Honest.unmoved (hf : f.Honest k) (ht : f.trips.get k = some t)
    (hwaivers : q.operationalWaivers = f.operationalWaivers)
    (hproofs : proofStatuses q.deliveryProofs.rows k = proofStatuses f.deliveryProofs.rows k) :
    t.Honest q := by
  have hid : t.id = k := Table.key_of_get ht
  refine (hf.flag t ht).of_same ⟨rfl, rfl, rfl⟩ rfl hwaivers ?_ ?_
  · rw [Db.Counted, Db.Counted, hid, hproofs]
    exact id
  · rw [Db.Settled, Db.Settled, hid, hproofs]
    exact id

/-- Every proof after a call of the cargo module is of the trip and the tenant of an old one, or
the call has just checked its trip. -/
theorem ProofTurn.proof_cases (h : ProofTurn f.toDb c q) {p : DeliveryProof}
    (hp : p ∈ q.deliveryProofs) :
    (∃ p₀ ∈ f.deliveryProofs, p₀.tripId = p.tripId ∧ p₀.tenantId = p.tenantId) ∨
      ∃ t, f.trips.get p.tripId = some t ∧ t.tenantId = p.tenantId := by
  cases h with
  | idle hproofs => exact .inl ⟨p, hproofs ▸ hp, rfl, rfl⟩
  | @delivered _ _ _ _ trip _ htrip hten hpten hpof _ hrows =>
    rw [Table.mem_def, hrows, List.mem_append, List.mem_singleton] at hp
    rcases hp with hp | rfl
    · exact .inl ⟨p, hp, rfl, rfl⟩
    · exact .inr ⟨trip, hpof.symm ▸ htrip, hten.trans hpten.symm⟩
  | @judged _ _ proof _ _ _ _ _ hpof hpten hrows hrows' =>
    rw [Table.mem_def, hrows', List.mem_append, List.mem_cons] at hp
    have hold (p₀ : DeliveryProof) (hp₀ : p₀ ∈ f.deliveryProofs.rows) : p₀ ∈ f.deliveryProofs := hp₀
    rcases hp with hp | rfl | hp
    · exact .inl ⟨p, hold p (by rw [hrows]; simp [hp]), rfl, rfl⟩
    · exact .inl ⟨proof, hold proof (by rw [hrows]; simp), hpof.symm, hpten.symm⟩
    · exact .inl ⟨p, hold p (by rw [hrows]; simp [hp]), rfl, rfl⟩

/-- A call of the cargo module that the condition allows keeps the flag honest. -/
theorem ProofTurn.flag [Locale] (h : ProofTurn f.toDb c q) (hf : f.Honest k)
    (hc : (OpsCall.proofs c).BillsDuly k f)
    (hwaivers : q.operationalWaivers = f.operationalWaivers) (ht : q.trips.get k = some t) :
    t.Honest q := by
  cases h with
  | idle hproofs htrips => exact hf.unmoved (htrips ▸ ht) hwaivers (by rw [hproofs])
  | @delivered _ tripId _ _ _ _ _ _ _ hpof _ hrows htrips =>
    rw [htrips] at ht
    split at ht
    · cases ht
      exact .of_silent (by simp [provenTrip])
    · next hk =>
      refine hf.unmoved ht hwaivers ?_
      rw [hrows, proofStatuses_append, proofStatuses_cons_ne (by rw [hpof]; exact fun h => hk h.symm)]
      exact List.append_nil _
  | @judged _ _ proof _ _ _ _ hverdict hpof _ hrows hrows' hne htrips =>
    rw [htrips] at ht
    split at ht
    · next hk =>
      subst hk
      obtain ⟨t₀, ht₀, rfl⟩ := Option.map_eq_some_iff.mp ht
      exact hverdict.honest hc hrows hrows' hpof hne hwaivers ht₀ (hf.flag t₀ ht₀)
    · next hk =>
      exact hf.unmoved ht hwaivers
        (proofStatuses_judged_ne hrows hrows' hpof fun h => hk h.symm)

end Proofs

section Runs

variable [Locale] [Interpreter] {f : Fleet} {k : UUID}

theorem Fleet.Honest.step (hf : f.Honest k) (c : OpsCall) (hc : c.BillsDuly k f) :
    (c.step f).Honest k := by
  have hstep := c.step_trips f
  by_cases hproofs : ∃ pc, c = .proofs pc
  · obtain ⟨pc, rfl⟩ := hproofs
    revert hstep
    refine perform_ind (P := fun p => TripStep (.proofs pc) f p → p.Honest k) (fun _ => hf)
      fun a p hrun hstep => ?_
    obtain ⟨q, hq, rfl⟩ := Fleet.onDb_eq_ok.mp hrun
    have hturn : ProofTurn f.toDb pc q := ProofCall.serve_turn hq
    constructor
    case flag => exact fun t ht => hturn.flag hf hc hstep.waivers ht
    case tenants =>
      intro r hr
      refine hstep.tenants ?_
      rcases hturn.proof_cases hr with ⟨r₀, hr₀, hof, hten⟩ | hnew
      · rw [← hof, ← hten]
        exact hf.tenants r₀ hr₀
      · exact hnew
  · exact hf.of_moves hstep hc fun pc hpc => hproofs ⟨pc, hpc⟩

theorem Fleet.Honest.exec (hf : f.Honest k) {calls : List OpsCall}
    (hcalls : Run.Along OpsCall.step (fun s c => c.BillsDuly k s) f calls) :
    (Run.exec OpsCall.step f calls).Honest k :=
  Run.exec_inv (fun _ c hs hc => hs.step c hc) hf hcalls

end Runs

end Rotas
