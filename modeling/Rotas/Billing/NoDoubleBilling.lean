import Rotas.Billing.Lifecycle
import Rotas.Lib.Run
import Rotas.Trips.Close

/-!
# Rotas.Billing.NoDoubleBilling

Which invoices a trip is on. `create_document` takes a trip that is flagged billable, and four
services of the cargo and trip modules raise the flag without looking at the trip's invoices.

* `BillingCall` — the calls of a run, and `BillingCall.step`, one session for each.
* `makesBillable` — the trip whose flag a call raises.
* `no_double_billing` — a run that raises no flag of an invoiced trip invoices no trip twice.
* `double_billing` — a new proof of an invoiced trip lets it be invoiced again.
-/

namespace Rotas

open Work

/-! ## Live invoices -/

/-- The document is an invoice that was not cancelled. -/
def Db.liveInvoice (db : Db) (documentId : UUID) : Bool :=
  (db.billingDocuments.get documentId).any fun d =>
    d.documentType = .invoice && d.status ≠ .cancelled

/-- The trip is on a live invoice of the tenant. -/
def Db.invoiced (db : Db) (tenantId tripId : UUID) : Bool :=
  db.billingItems.rows.any fun i =>
    i.tenantId = tenantId && i.tripId = some tripId && db.liveInvoice i.billingDocumentId

/-- Every trip is on at most one live invoice of the tenant. -/
def NoDoubleBilling (tenantId : UUID) (db : Db) : Prop :=
  ∀ i ∈ db.billingItems, ∀ j ∈ db.billingItems,
    i.tenantId = tenantId → j.tenantId = tenantId → i.tripId.isSome → i.tripId = j.tripId →
    db.liveInvoice i.billingDocumentId → db.liveInvoice j.billingDocumentId →
    i.billingDocumentId = j.billingDocumentId

instance (tenantId : UUID) (db : Db) : Decidable (NoDoubleBilling tenantId db) :=
  inferInstanceAs (Decidable (∀ i ∈ db.billingItems, ∀ j ∈ db.billingItems, _))

/-- What carries the property along a run: an invoiced trip is not flagged billable. -/
structure InvoicedOnce (tenantId : UUID) (db : Db) : Prop where
  document : ∀ i ∈ db.billingItems, i.tenantId = tenantId →
    (db.billingDocuments.get i.billingDocumentId).isSome
  unflagged : ∀ {k trip}, db.invoiced tenantId k → db.trips.get k = some trip →
    trip.billingStatus ≠ .billable
  once : NoDoubleBilling tenantId db

theorem invoiced_iff {db : Db} {tenantId k : UUID} :
    db.invoiced tenantId k = true ↔ ∃ i ∈ db.billingItems, i.tenantId = tenantId ∧
      i.tripId = some k ∧ db.liveInvoice i.billingDocumentId = true := by
  simp [Db.invoiced, Table.mem_def, and_assoc]

/-- A call that adds no item and revives no document, and makes at most `made` billable. -/
structure QuietStep (made : Option UUID) (db p : Db) : Prop where
  items : ∀ i ∈ p.billingItems, ∃ j ∈ db.billingItems,
    j.tenantId = i.tenantId ∧ j.tripId = i.tripId ∧ j.billingDocumentId = i.billingDocumentId
  documents : ∀ id, (db.billingDocuments.get id).isSome →
    (p.billingDocuments.get id).isSome ∧ (p.liveInvoice id → db.liveInvoice id)
  flag : ∀ {k trip}, p.trips.get k = some trip → trip.billingStatus = .billable →
    made = some k ∨ ∃ old, db.trips.get k = some old ∧ old.billingStatus = .billable

section Quiet

variable {db p : Db} {tenantId : UUID} {made : Option UUID}

/-- Seen from the items, a quiet step only takes live invoices away. -/
theorem QuietStep.live_of_mem (h : QuietStep made db p) (hI : InvoicedOnce tenantId db)
    {i : BillingItem} (hi : i ∈ p.billingItems) (ht : i.tenantId = tenantId)
    (hlive : p.liveInvoice i.billingDocumentId) :
    ∃ j ∈ db.billingItems, j.tenantId = tenantId ∧ j.tripId = i.tripId ∧
      j.billingDocumentId = i.billingDocumentId ∧ db.liveInvoice j.billingDocumentId := by
  obtain ⟨j, hj, hten, htrip, hdoc⟩ := h.items i hi
  refine ⟨j, hj, hten.trans ht, htrip, hdoc, ?_⟩
  rw [← hdoc] at hlive
  exact (h.documents _ (hI.document j hj (hten.trans ht))).2 hlive

theorem QuietStep.keeps (h : QuietStep made db p) (hI : InvoicedOnce tenantId db)
    (hmade : ∀ k, made = some k → db.invoiced tenantId k = false) :
    InvoicedOnce tenantId p where
  document i hi ht := by
    obtain ⟨j, hj, hten, _, hdoc⟩ := h.items i hi
    rw [← hdoc]
    exact (h.documents _ (hI.document j hj (hten.trans ht))).1
  unflagged {k trip} hk htrip hflag := by
    obtain ⟨i, hi, ht, hkey, hlive⟩ := invoiced_iff.mp hk
    obtain ⟨j, hj, hten, hjk, _, hjlive⟩ := h.live_of_mem hI hi ht hlive
    have hinv : db.invoiced tenantId k := invoiced_iff.mpr ⟨j, hj, hten, hjk.trans hkey, hjlive⟩
    rcases h.flag htrip hflag with hm | ⟨old, hold, hb⟩
    · rw [hmade k hm] at hinv; cases hinv
    · exact hI.unflagged hinv hold hb
  once i hi j hj hit hjt hsome hij hil hjl := by
    obtain ⟨i', hi', hit', hik, hid, hil'⟩ := h.live_of_mem hI hi hit hil
    obtain ⟨j', hj', hjt', hjk, hjd, hjl'⟩ := h.live_of_mem hI hj hjt hjl
    rw [← hid, ← hjd]
    exact hI.once i' hi' j' hj' hit' hjt' (by rw [hik]; exact hsome) (by rw [hik, hij, hjk]) hil' hjl'

end Quiet

/-! ## What the cargo and trip services do to the flag -/

section Flag

variable {db p : Db} {tenantId tripId proofId : UUID} {made : Option UUID}

theorem QuietStep.of_trips (hd : p.billingDocuments = db.billingDocuments)
    (hi : p.billingItems = db.billingItems)
    (hflag : ∀ {k trip}, p.trips.get k = some trip → trip.billingStatus = .billable →
      made = some k ∨ ∃ old, db.trips.get k = some old ∧ old.billingStatus = .billable) :
    QuietStep made db p where
  items i h := ⟨i, hi ▸ h, rfl, rfl, rfl⟩
  documents id h := ⟨hd ▸ h, fun hl => by simpa only [Db.liveInvoice, hd] using hl⟩
  flag := hflag

theorem QuietStep.refl (made : Option UUID) (db : Db) : QuietStep made db db :=
  .of_trips rfl rfl fun ht hb => .inr ⟨_, ht, hb⟩

/-- The row of one trip rewritten: only its own flag can have been raised. -/
theorem QuietStep.of_modify {f : Trip → Trip} (hd : p.billingDocuments = db.billingDocuments)
    (hi : p.billingItems = db.billingItems)
    (ht : ∀ k, p.trips.get k = if k = tripId then (db.trips.get tripId).map f else db.trips.get k)
    (hmade : ∀ trip, db.trips.get tripId = some trip → (f trip).billingStatus = .billable →
      made = some tripId) : QuietStep made db p := by
  refine .of_trips hd hi ?_
  intro k trip hk hb
  rw [ht] at hk
  split at hk
  · next h =>
    subst h
    obtain ⟨old, hold, rfl⟩ := Option.map_eq_some_iff.mp hk
    exact .inl (hmade old hold hb)
  · exact .inr ⟨trip, hk, hb⟩

theorem createDeliveryProof_flag {payload : DeliveryProofCreate} {a : UUID}
    (h : createDeliveryProof tenantId tripId payload db = .ok (a, p)) : QuietStep none db p := by
  simp only [createDeliveryProof, bind_eq_ok, pure, Except.pure, Except.ok.injEq] at h
  obtain ⟨trip, htrip, h⟩ := h
  cases h
  exact .of_modify rfl rfl (fun k => by rw [Table.get_modify]) (by simp)

/-- The trip that accepting a proof makes billable: any proof still pending does. -/
def acceptMakesBillable (tenantId proofId : UUID) (db : Db) : Option UUID :=
  match db.deliveryProofs.get proofId with
  | some proof =>
    if proof.tenantId = tenantId ∧ proof.status = .pending then some proof.tripId else none
  | none => none

theorem acceptDeliveryProof_flag {now : Instant} {userId a : UUID}
    (h : acceptDeliveryProof now tenantId proofId userId db = .ok (a, p)) :
    QuietStep (acceptMakesBillable tenantId proofId db) db p := by
  simp only [acceptDeliveryProof, bind_eq_ok, require_eq_ok, raiseIf_eq_ok, pure, Except.pure,
    Except.ok.injEq, decide_eq_false_iff_not, Decidable.not_not] at h
  obtain ⟨proof, hproof, _, hten, _, hstatus, h⟩ := h
  cases h
  have hpending : proof.status = .pending := by
    cases hs : proof.status <;> simp_all [deliveryProofValidTransitions]
  refine .of_modify rfl rfl (fun k => by rw [Table.get_modify]) fun _ _ _ => ?_
  simp [acceptMakesBillable, hproof, hten, hpending]

/-- The trip that a verdict on one of its proofs makes billable: a contracted trip, if the proof
is in one of the statuses `from`. -/
def proofMakesBillable (statuses : List ProofStatus) (tenantId tripId proofId : UUID) (db : Db) :
    Option UUID :=
  match requireTrip tenantId tripId db, requireProof tenantId tripId proofId db with
  | .ok trip, .ok proof =>
    if trip.contractId.isSome ∧ proof.status ∈ statuses then some tripId else none
  | _, _ => none

theorem readyForBilling_billable {now : Instant} {trip : Trip} :
    (trip.readyForBilling now).billingStatus = .billable ↔ trip.contractId.isSome = true := by
  cases h : trip.contractId <;> simp [Trip.readyForBilling, h]

def validateMakesBillable (tenantId tripId proofId : UUID) (db : Db) : Option UUID :=
  proofMakesBillable [.pending, .accepted, .rejected, .resolved] tenantId tripId proofId db

theorem validateDeliveryProof_flag {now : Instant} {userId : Option UUID} {a : UUID}
    {payload : ValidateDeliveryProofRequest}
    (h : validateDeliveryProof now tenantId tripId proofId userId payload db = .ok (a, p)) :
    QuietStep (validateMakesBillable tenantId tripId proofId db) db p := by
  simp only [validateDeliveryProof, bind_eq_ok] at h
  obtain ⟨trip, htrip, proof, hproof, h⟩ := h
  split at h
  · cases h; exact .refl _ _
  · next hdone =>
    simp only [bind_eq_ok, raiseIf_eq_ok, pure, Except.pure, Except.ok.injEq,
      decide_eq_false_iff_not] at h
    obtain ⟨_, hdisputed, h⟩ := h
    cases h
    refine .of_modify rfl rfl (fun k => by rw [Table.get_modify]) fun old hold hb => ?_
    rw [(requireTrip_eq_ok.mp htrip).1] at hold
    cases hold
    have hcon := readyForBilling_billable.mp hb
    have hstatus : proof.status ∈ [ProofStatus.pending, .accepted, .rejected, .resolved] := by
      cases hs : proof.status <;> simp_all
    simp only [validateMakesBillable, proofMakesBillable, htrip, hproof]
    rw [if_pos ⟨hcon, hstatus⟩]

def resolveMakesBillable (outcome : String) (tenantId tripId proofId : UUID) (db : Db) :
    Option UUID :=
  if outcome = "validated" then proofMakesBillable [.disputed] tenantId tripId proofId db else none

theorem resolveDeliveryProofDispute_flag {now : Instant} {userId : Option UUID} {a : UUID}
    {payload : ResolveDeliveryProofDisputeRequest}
    (h : resolveDeliveryProofDispute now tenantId tripId proofId userId payload db = .ok (a, p)) :
    QuietStep (resolveMakesBillable payload.outcome tenantId tripId proofId db) db p := by
  simp only [resolveDeliveryProofDispute, bind_eq_ok, raiseIf_eq_ok, decide_eq_false_iff_not,
    Decidable.not_not] at h
  obtain ⟨_, _, trip, htrip, proof, hproof, _, hstatus, h⟩ := h
  split at h
  · next hout =>
    cases h
    refine .of_modify rfl rfl (fun k => by rw [Table.get_modify]) fun old hold hb => ?_
    rw [(requireTrip_eq_ok.mp htrip).1] at hold
    cases hold
    have hcon := readyForBilling_billable.mp hb
    simp [resolveMakesBillable, hout, proofMakesBillable, htrip, hproof, hstatus, hcon]
  · cases h
    exact .of_modify rfl rfl (fun k => by rw [Table.get_modify]) (by simp)

def closeMakesBillable [Locale] (now : Instant) (tenantId tripId : UUID) (db : Db) : Option UUID :=
  match requireTrip tenantId tripId db with
  | .ok trip =>
    if trip.status ≠ .closed ∧ (closeChecks now tenantId trip db).isOk then some tripId else none
  | .error _ => none

theorem operationalCloseTrip_flag [Locale] {now : Instant} {actorId : Option UUID} {a : UUID}
    {payload : OperationalCloseTripRequest}
    (h : operationalCloseTrip now tenantId tripId payload actorId db = .ok (a, p)) :
    QuietStep (closeMakesBillable now tenantId tripId db) db p := by
  simp only [operationalCloseTrip, bind_eq_ok] at h
  obtain ⟨trip, htrip, h⟩ := h
  split at h
  · cases h; exact .refl _ _
  · next hopen =>
    simp only [bind_eq_ok, pure, Except.pure, Except.ok.injEq] at h
    obtain ⟨_, hchecks, h⟩ := h
    cases h
    refine .of_modify rfl rfl (fun k => by rw [Table.get_modify]) fun _ _ _ => ?_
    simp [closeMakesBillable, htrip, hopen, hchecks, Except.isOk, Except.toBool]

end Flag

/-! ## What the billing services do -/

section Billing

variable {db p : Db} {tenantId documentId : UUID}

/-- A document rewritten, and nothing else: an invoice stays one, a cancelled one stays so. -/
theorem quiet_modifyDocument {f : BillingDocument → BillingDocument} {hf : ∀ d, (f d).id = d.id}
    (hkeep : ∀ d, db.billingDocuments.get documentId = some d →
      (f d).documentType = d.documentType ∧ (d.status = .cancelled → (f d).status = .cancelled)) :
    QuietStep none db (db.modifyDocument documentId f hf) where
  items i h := ⟨i, h, rfl, rfl, rfl⟩
  documents id h := by
    simp only [Db.modifyDocument, Db.liveInvoice, Table.get_modify]
    split
    · next hid =>
      subst hid
      obtain ⟨d, hd⟩ := Option.isSome_iff_exists.mp h
      obtain ⟨htype, hcancelled⟩ := hkeep d hd
      simp only [hd, Option.map_some, Option.isSome_some, Option.any_some, Bool.and_eq_true,
        decide_eq_true_eq, htype, true_and]
      exact And.imp_right fun hlive hc => hlive (hcancelled hc)
    · exact ⟨h, fun hl => hl⟩
  flag ht hb := .inr ⟨_, ht, hb⟩

theorem quiet_addDraft {payload : BillingDocumentCreate} {contract : Contract} :
    QuietStep none db (addDraft tenantId payload contract db) where
  items i h := ⟨i, h, rfl, rfl, rfl⟩
  documents id h := by
    have hne : id ≠ db.billingDocuments.freshKey := by
      rintro rfl
      rw [Table.get_freshKey] at h
      cases h
    simp only [addDraft, Db.liveInvoice, Table.get_insert, if_neg hne]
    exact ⟨h, fun hl => hl⟩
  flag ht hb := .inr ⟨_, ht, hb⟩

theorem InvoicedOnce.of_quiet (hI : InvoicedOnce tenantId db) (h : QuietStep none db p) :
    InvoicedOnce tenantId p := h.keeps hI (by simp)

theorem InvoicedOnce.drafted {payload : BillingDocumentCreate} {contract : Contract} {T : UUID}
    (hI : InvoicedOnce T db) : InvoicedOnce T (drafted tenantId payload contract db) := by
  refine (hI.of_quiet quiet_addDraft).of_quiet (quiet_modifyDocument fun d _ => ?_)
  obtain ⟨htype, hstatus, _⟩ := snapshotProfile_keeps (documentProfile tenantId db) d
  exact ⟨htype, fun hc => by rw [hstatus, hc]⟩

/-- The item of a billable trip: the trip was on no live invoice, and is billable no more. -/
theorem InvoicedOnce.addItem {now : Instant} {payload : BillingDocumentCreate}
    {contract : Contract} {held : Option UUID} {tripId T : UUID} {b : BillableTrip}
    (hI : InvoicedOnce T db) (hdoc : (db.billingDocuments.get documentId).isSome)
    (hb : Accepted now tenantId payload contract held tripId db b) :
    InvoicedOnce T (addItem tenantId contract documentId b db) := by
  have hkey := hb.trip_id
  have hfree : db.invoiced T tripId = false := by
    cases h : db.invoiced T tripId with
    | false => rfl
    | true => exact absurd hb.billable (hI.unflagged h hb.trip)
  have hfree' : ∀ j ∈ db.billingItems, j.tenantId = T → j.tripId = some tripId →
      db.liveInvoice j.billingDocumentId → False := by
    intro j hj hten hjk hlive
    rw [invoiced_iff.mpr ⟨j, hj, hten, hjk, hlive⟩] at hfree
    cases hfree
  have hmem : ∀ i ∈ (Rotas.addItem tenantId contract documentId b db).billingItems,
      i ∈ db.billingItems ∨ i.tripId = some tripId ∧ i.billingDocumentId = documentId := by
    intro i hi
    rcases mem_addItem.mp hi with hi | rfl
    · exact .inl hi
    · exact .inr ⟨by rw [← hkey]; rfl, rfl⟩
  constructor
  case document =>
    intro i hi ht
    rcases hmem i hi with hi | ⟨_, hid⟩
    · exact hI.document i hi ht
    · rw [hid]; exact hdoc
  case unflagged =>
    intro k trip hk htrip
    obtain ⟨i, hi, ht, hik, hlive⟩ := invoiced_iff.mp hk
    rw [addItem_get_trip, hkey] at htrip
    split at htrip
    · obtain ⟨old, _, rfl⟩ := Option.map_eq_some_iff.mp htrip
      simp
    · next hne =>
      rcases hmem i hi with hi | ⟨hik', _⟩
      · exact hI.unflagged (invoiced_iff.mpr ⟨i, hi, ht, hik, hlive⟩) htrip
      · rw [hik'] at hik
        exact absurd (Option.some.inj hik).symm hne
  case once =>
    intro i hi j hj hit hjt hsome hij hil hjl
    rcases hmem i hi with hi | ⟨hik, hid⟩ <;> rcases hmem j hj with hj | ⟨hjk, hjd⟩
    · exact hI.once i hi j hj hit hjt hsome hij hil hjl
    · exact (hfree' i hi hit (hij.trans hjk) hil).elim
    · exact (hfree' j hj hjt (hij.symm.trans hik) hjl).elim
    · rw [hid, hjd]

theorem InvoicedOnce.createDocument {now : Instant} {payload : BillingDocumentCreate}
    {a : UUID × List BillingItem} {T : UUID} (hI : InvoicedOnce T db)
    (h : createDocument now tenantId payload db = (.ok a, p)) : InvoicedOnce T p := by
  have hall : InvoicedOnce T p ∧
      (p.billingDocuments.get db.billingDocuments.freshKey).isSome := by
    refine createDocument_ind (P := fun p => InvoicedOnce T p ∧
      (p.billingDocuments.get db.billingDocuments.freshKey).isSome) h ?_ ?_ ?_
    · intro contract _
      exact ⟨hI.drafted, drafted_get payload contract⟩
    · intro contract held tripId db' b hP hb
      exact ⟨hP.1.addItem hP.2 hb, hP.2⟩
    · intro items db' hP
      have hq : QuietStep none db' (withTotal db.billingDocuments.freshKey items db') :=
        quiet_modifyDocument fun d _ => ⟨rfl, fun hc => hc⟩
      exact ⟨hP.1.of_quiet hq, (hq.documents _ hP.2).1⟩
  exact hall.1

theorem issueDocument_quiet {selectBound : Bool} {now : Instant} {issuedAt : Option Instant}
    {a : UUID} (h : issueDocument selectBound now tenantId documentId issuedAt db = .ok (a, p)) :
    QuietStep none db p := by
  rcases issueDocument_cases h with
    rfl | ⟨document, number, counters, terms, hdoc, _, hdraft, _, _, _, rfl⟩
  · exact .refl _ _
  constructor
  case items =>
    intro i hi
    obtain ⟨j, hj, rfl | rfl⟩ := mem_finishIssue hi
    · exact ⟨i, hj, rfl, rfl, rfl⟩
    · exact ⟨j, hj, rfl, rfl, rfl⟩
  case documents =>
    intro id hid
    simp only [Db.liveInvoice, finishIssue_get_document]
    split
    · next h =>
      subst h
      rw [hdoc]
      simp [issuedDocument, hdraft]
    · exact ⟨hid, fun hl => hl⟩
  case flag =>
    intro k trip hk hb
    rw [finishIssue_get_trip] at hk
    obtain ⟨old, hold, rfl⟩ := Option.map_eq_some_iff.mp hk
    split at hb
    · cases hb
    · exact .inr ⟨old, hold, hb⟩

theorem cancelled_terminal {t : DocStatus} (h : t ∈ billingValidTransitions .cancelled) : False := by
  simp [billingValidTransitions] at h

theorem transitionById_quiet {now : Instant} {t : Transition} {a : UUID}
    (h : transitionById now tenantId documentId t db = .ok (a, p)) : QuietStep none db p := by
  obtain ⟨d, hd, _, ht, rfl⟩ := transitionById_cases h
  refine quiet_modifyDocument fun d' hd' => ⟨rfl, fun hc => ?_⟩
  rw [hd] at hd'
  cases hd'
  rw [hc] at ht
  exact (cancelled_terminal ht).elim

end Billing

/-! ## Runs -/

inductive BillingCall where
  | createDeliveryProof (tenantId tripId : UUID) (payload : DeliveryProofCreate)
  | validateDeliveryProof (now : Instant) (tenantId tripId proofId : UUID) (userId : Option UUID)
      (payload : ValidateDeliveryProofRequest)
  | acceptDeliveryProof (now : Instant) (tenantId proofId userId : UUID)
  | resolveDeliveryProofDispute (now : Instant) (tenantId tripId proofId : UUID)
      (userId : Option UUID) (payload : ResolveDeliveryProofDisputeRequest)
  | operationalCloseTrip (now : Instant) (tenantId tripId : UUID)
      (payload : OperationalCloseTripRequest) (actorId : Option UUID)
  | createDocument (now : Instant) (tenantId : UUID) (payload : BillingDocumentCreate)
  | issueDocument (now : Instant) (tenantId documentId : UUID) (issuedAt : Option Instant)
  | cancelBillingDocument (now : Instant) (tenantId documentId : UUID) (reason : String)

theorem InvoicedOnce.of_no_items {tenantId : UUID} {db : Db}
    (h : ∀ i ∈ db.billingItems, i.tenantId ≠ tenantId) : InvoicedOnce tenantId db where
  document i hi ht := absurd ht (h i hi)
  unflagged hk _ := by
    obtain ⟨i, hi, ht, _, _⟩ := invoiced_iff.mp hk
    exact absurd ht (h i hi)
  once i hi _ _ ht := absurd ht (h i hi)

section Run

variable [Locale]

/-- The database after one call, served by a session of its own. -/
def BillingCall.step (selectBound : Bool) (db : Db) : BillingCall → Db
  | .createDeliveryProof tenantId tripId payload =>
    perform (Rotas.createDeliveryProof tenantId tripId payload) db
  | .validateDeliveryProof now tenantId tripId proofId userId payload =>
    perform (Rotas.validateDeliveryProof now tenantId tripId proofId userId payload) db
  | .acceptDeliveryProof now tenantId proofId userId =>
    perform (Rotas.acceptDeliveryProof now tenantId proofId userId) db
  | .resolveDeliveryProofDispute now tenantId tripId proofId userId payload =>
    perform (Rotas.resolveDeliveryProofDispute now tenantId tripId proofId userId payload) db
  | .operationalCloseTrip now tenantId tripId payload actorId =>
    perform (Rotas.operationalCloseTrip now tenantId tripId payload actorId) db
  | .createDocument now tenantId payload =>
    (serve (atomic (Rotas.createDocument now tenantId payload)) db).2
  | .issueDocument now tenantId documentId issuedAt =>
    perform (Rotas.issueDocument selectBound now tenantId documentId issuedAt) db
  | .cancelBillingDocument now tenantId documentId reason =>
    perform (Rotas.cancelBillingDocument now tenantId documentId reason) db

/-- The trip that a call makes billable, when it gets as far as raising the flag. -/
def BillingCall.makesBillable (db : Db) : BillingCall → Option UUID
  | .validateDeliveryProof _ tenantId tripId proofId _ _ =>
    validateMakesBillable tenantId tripId proofId db
  | .acceptDeliveryProof _ tenantId proofId _ => acceptMakesBillable tenantId proofId db
  | .resolveDeliveryProofDispute _ tenantId tripId proofId _ payload =>
    resolveMakesBillable payload.outcome tenantId tripId proofId db
  | .operationalCloseTrip now tenantId tripId _ _ => closeMakesBillable now tenantId tripId db
  | _ => none

/-- The call does not make a trip billable that is on a live invoice of the tenant. -/
def BillingCall.RespectsInvoices (tenantId : UUID) (db : Db) (c : BillingCall) : Prop :=
  (c.makesBillable db).all fun tripId => !db.invoiced tenantId tripId

instance (tenantId : UUID) (db : Db) (c : BillingCall) :
    Decidable (c.RespectsInvoices tenantId db) :=
  inferInstanceAs (Decidable (_ = true))

theorem InvoicedOnce.step {tenantId : UUID} {selectBound : Bool} {db : Db} (c : BillingCall)
    (hI : InvoicedOnce tenantId db) (hc : c.RespectsInvoices tenantId db) :
    InvoicedOnce tenantId (c.step selectBound db) := by
  have hmade : ∀ k, c.makesBillable db = some k → db.invoiced tenantId k = false := by
    intro k hk
    simpa [BillingCall.RespectsInvoices, hk] using hc
  cases c with
  | createDeliveryProof =>
    exact perform_ind hI fun _ _ h => (createDeliveryProof_flag h).keeps hI hmade
  | validateDeliveryProof =>
    exact perform_ind hI fun _ _ h => (validateDeliveryProof_flag h).keeps hI hmade
  | acceptDeliveryProof =>
    exact perform_ind hI fun _ _ h => (acceptDeliveryProof_flag h).keeps hI hmade
  | resolveDeliveryProofDispute =>
    exact perform_ind hI fun _ _ h => (resolveDeliveryProofDispute_flag h).keeps hI hmade
  | operationalCloseTrip =>
    exact perform_ind hI fun _ _ h => (operationalCloseTrip_flag h).keeps hI hmade
  | createDocument => exact serve_atomic_ind hI fun _ _ h _ => hI.createDocument h
  | issueDocument => exact perform_ind hI fun _ _ h => hI.of_quiet (issueDocument_quiet h)
  | cancelBillingDocument => exact perform_ind hI fun _ _ h => hI.of_quiet (transitionById_quiet h)

/-- From a tenant without billing items, a run that makes no invoiced trip billable invoices no
trip twice. -/
theorem no_double_billing {selectBound : Bool} {tenantId : UUID} {db : Db}
    {calls : List BillingCall} (hstart : ∀ i ∈ db.billingItems, i.tenantId ≠ tenantId)
    (hcalls : Run.Along (BillingCall.step selectBound)
      (fun db c => c.RespectsInvoices tenantId db) db calls) :
    NoDoubleBilling tenantId (Run.exec (BillingCall.step selectBound) db calls) := by
  have hrun : InvoicedOnce tenantId (Run.exec (BillingCall.step selectBound) db calls) :=
    Run.exec_inv (fun _ c hI hc => InvoicedOnce.step c hI hc) (.of_no_items hstart) hcalls
  exact hrun.once

end Run

/-! ## One trip on two invoices -/

/-- A contract and a trip under it that has arrived. -/
def arrivedTripDb : Db where
  contracts := .single
    { id := 1, tenantId := 1, clientName := "Cliente", contractReference := "CT-1"
      defaultUnitPrice := some 10000 }
  trips := .single
    { id := 1, tenantId := 1, contractId := some 1, vehicleId := 1, origin := "Maputo"
      destination := "Beira", status := .arrived }

/-- Deliver the trip, validate the proof and invoice the trip. -/
def deliverAndInvoice (deliveredAt : Instant) (proofId : UUID) : List BillingCall :=
  [.createDeliveryProof 1 1 { deliveredAt }, .validateDeliveryProof 200 1 1 proofId none {},
    .createDocument 300 1
      { contractId := some 1, billingPeriodStart := 0, billingPeriodEnd := 1000, tripIds := [1]
        periods := zero_lt_thousand }]

theorem no_double_billing_once :
    NoDoubleBilling 1 (Run.exec (@BillingCall.step .ascii false) arrivedTripDb
      (deliverAndInvoice 100 1 ++ [.cancelBillingDocument 400 1 1 "engano"])) :=
  @no_double_billing .ascii _ _ _ _ (by decide) (by decide +kernel)

/-- A second proof of an invoiced trip makes it billable again, and it is invoiced again. -/
theorem double_billing :
    (∀ i ∈ arrivedTripDb.billingItems, i.tenantId ≠ 1) ∧
      ¬ NoDoubleBilling 1 (Run.exec (@BillingCall.step .ascii false) arrivedTripDb
        (deliverAndInvoice 100 1 ++ deliverAndInvoice 150 2)) := by
  decide +kernel

end Rotas
