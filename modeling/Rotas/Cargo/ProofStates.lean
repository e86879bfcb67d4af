import Rotas.Cargo.Delivery
import Rotas.Lib.Run

/-!
# Rotas.Cargo.ProofStates

The statuses of delivery proofs along runs of the cargo services. `_DELIVERY_PROOF_VALID_TRANSITIONS`
is read by acceptance and rejection only; validation, disputes and their resolution move proofs
through the statuses of the validation flow by tests of their own.

* `ProofCall` — the calls of a run, one session for each.
* `validationFlow` — the edges of the validation flow.
* `proof_transitions` — a run moves a proof along the table or the flow, unless it validates or
  disputes a proof that is accepted or resolved.
* `validation_beside_table` — a pending proof is validated, which the table does not know.
-/

namespace Rotas

open Work

inductive ProofCall where
  | createDeliveryProof (tenantId tripId : UUID) (payload : DeliveryProofCreate)
  | acceptDeliveryProof (now : Instant) (tenantId proofId userId : UUID)
  | rejectDeliveryProof (now : Instant) (tenantId proofId userId : UUID) (rejectionReason : String)
  | validateDeliveryProof (now : Instant) (tenantId tripId proofId : UUID) (userId : Option UUID)
      (payload : ValidateDeliveryProofRequest)
  | disputeDeliveryProof (tenantId tripId proofId : UUID) (payload : DisputeDeliveryProofRequest)
  | resolveDeliveryProofDispute (now : Instant) (tenantId tripId proofId : UUID)
      (userId : Option UUID) (payload : ResolveDeliveryProofDisputeRequest)
  | patchDeliveryProof (tenantId proofId : UUID) (updateData : DeliveryProofPatch)

/-- The service that a call runs. -/
def ProofCall.serve : ProofCall → Db → Except Exc (UUID × Db)
  | .createDeliveryProof tenantId tripId payload => Rotas.createDeliveryProof tenantId tripId payload
  | .acceptDeliveryProof now tenantId proofId userId =>
    Rotas.acceptDeliveryProof now tenantId proofId userId
  | .rejectDeliveryProof now tenantId proofId userId rejectionReason =>
    Rotas.rejectDeliveryProof now tenantId proofId userId rejectionReason
  | .validateDeliveryProof now tenantId tripId proofId userId payload =>
    Rotas.validateDeliveryProof now tenantId tripId proofId userId payload
  | .disputeDeliveryProof tenantId tripId proofId payload =>
    Rotas.disputeDeliveryProof tenantId tripId proofId payload
  | .resolveDeliveryProofDispute now tenantId tripId proofId userId payload =>
    Rotas.resolveDeliveryProofDispute now tenantId tripId proofId userId payload
  | .patchDeliveryProof tenantId proofId updateData =>
    Rotas.patchDeliveryProof tenantId proofId updateData

/-- The database after one call, served by a session of its own. -/
def ProofCall.step (db : Db) (c : ProofCall) : Db := perform c.serve db

/-- The proof of a call that reads its status but not the table of transitions, and refuses
neither an accepted nor a resolved one. -/
def ProofCall.unruled : ProofCall → Option UUID
  | .validateDeliveryProof _ _ _ proofId _ _ => some proofId
  | .disputeDeliveryProof _ _ proofId _ => some proofId
  | _ => none

/-- The edges of validation, of disputes and of their resolution. -/
def validationFlow : ProofStatus → List ProofStatus
  | .pending => [.validated, .disputed]
  | .rejected => [.validated, .disputed]
  | .validated => [.disputed]
  | .verified => [.disputed]
  | .disputed => [.validated, .rejected]
  | _ => []

/-- The statuses that the table marks as terminal. -/
def ProofStatus.terminal (s : ProofStatus) : Bool := s = .accepted || s = .resolved

/-- What a call may do to the proof `k`: nothing to its status, an edge of the table or of the
validation flow, or, by a call that does not read the table, anything to a terminal proof. -/
def ProofMove (c : ProofCall) (k : UUID) (p p' : DeliveryProof) : Prop :=
  p'.status = p.status ∨ p'.status ∈ deliveryProofValidTransitions p.status ∨
    p'.status ∈ validationFlow p.status ∨ (c.unruled = some k ∧ p.status.terminal = true)

/-- What a call does to the proofs: it loses none, moves each, and adds pending ones. -/
structure ProofStep (c : ProofCall) (db q : Db) : Prop where
  moves : ∀ k p, db.deliveryProofs.get k = some p →
    ∃ p', q.deliveryProofs.get k = some p' ∧ ProofMove c k p p'
  fresh : ∀ k p', db.deliveryProofs.get k = none → q.deliveryProofs.get k = some p' →
    p'.status = .pending

section Step

variable {c : ProofCall} {db q : Db} {tenantId tripId proofId : UUID}

theorem ProofStep.of_proofs (h : q.deliveryProofs = db.deliveryProofs) : ProofStep c db q where
  moves k p hp := ⟨p, h ▸ hp, .inl rfl⟩
  fresh k p' hp hp' := by
    rw [h, hp] at hp'
    cases hp'

theorem ProofStep.of_modify {proof : DeliveryProof} {f : DeliveryProof → DeliveryProof}
    (hq : ∀ k, q.deliveryProofs.get k =
      if k = proofId then (db.deliveryProofs.get proofId).map f else db.deliveryProofs.get k)
    (hproof : db.deliveryProofs.get proofId = some proof) (hmove : ProofMove c proofId proof (f proof)) :
    ProofStep c db q where
  moves k p hp := by
    rw [hq]
    split
    · next hk =>
      subst hk
      rw [hproof] at hp
      cases hp
      exact ⟨f proof, by rw [hproof, Option.map_some], hmove⟩
    · exact ⟨p, hp, .inl rfl⟩
  fresh k p' hp hp' := by
    rw [hq] at hp'
    split at hp'
    · next hk => subst hk; rw [hproof] at hp; cases hp
    · rw [hp] at hp'; cases hp'

theorem createDeliveryProof_proofs {payload : DeliveryProofCreate} {a : UUID}
    (h : createDeliveryProof tenantId tripId payload db = .ok (a, q)) : ProofStep c db q := by
  simp only [createDeliveryProof, bind_eq_ok, pure, Except.pure, Except.ok.injEq] at h
  obtain ⟨_, _, h⟩ := h
  cases h
  constructor
  case moves =>
    intro k p hp
    have hne : k ≠ db.deliveryProofs.freshKey := by
      rintro rfl
      rw [Table.get_freshKey] at hp
      cases hp
    exact ⟨p, by rw [Table.get_insert, if_neg hne]; exact hp, .inl rfl⟩
  case fresh =>
    intro k p' hp hp'
    rw [Table.get_insert] at hp'
    split at hp'
    · cases hp'; rfl
    · rw [hp] at hp'; cases hp'

theorem acceptDeliveryProof_proofs {now : Instant} {userId a : UUID}
    (h : acceptDeliveryProof now tenantId proofId userId db = .ok (a, q)) : ProofStep c db q := by
  simp only [acceptDeliveryProof, bind_eq_ok, require_eq_ok, raiseIf_eq_ok, pure, Except.pure,
    Except.ok.injEq, decide_eq_false_iff_not, Decidable.not_not] at h
  obtain ⟨proof, hproof, _, _, _, hedge, h⟩ := h
  cases h
  exact .of_modify (fun k => by rw [Table.get_modify]) hproof (.inr (.inl hedge))

theorem rejectDeliveryProof_proofs {now : Instant} {userId a : UUID} {rejectionReason : String}
    (h : rejectDeliveryProof now tenantId proofId userId rejectionReason db = .ok (a, q)) :
    ProofStep c db q := by
  simp only [rejectDeliveryProof, bind_eq_ok, require_eq_ok, raiseIf_eq_ok, pure, Except.pure,
    Except.ok.injEq, decide_eq_false_iff_not, Decidable.not_not] at h
  obtain ⟨proof, hproof, _, _, _, hedge, h⟩ := h
  cases h
  exact .of_modify (fun k => by rw [Table.get_modify]) hproof (.inr (.inl hedge))

theorem validateDeliveryProof_proofs {now : Instant} {userId : Option UUID} {a : UUID}
    {payload : ValidateDeliveryProofRequest} (hc : c.unruled = some proofId)
    (h : validateDeliveryProof now tenantId tripId proofId userId payload db = .ok (a, q)) :
    ProofStep c db q := by
  simp only [validateDeliveryProof, bind_eq_ok] at h
  obtain ⟨_, _, proof, hproof, h⟩ := h
  split at h
  · cases h; exact .of_proofs rfl
  · next hdone =>
    simp only [bind_eq_ok, raiseIf_eq_ok, pure, Except.pure, Except.ok.injEq,
      decide_eq_false_iff_not] at h
    obtain ⟨_, hdisputed, h⟩ := h
    cases h
    refine .of_modify (fun k => by rw [Table.get_modify]) (requireProof_eq_ok.mp hproof).1 ?_
    cases hs : proof.status <;>
      simp_all [ProofMove, validationFlow, ProofStatus.terminal, deliveryProofValidTransitions]

theorem disputeDeliveryProof_proofs {a : UUID} {payload : DisputeDeliveryProofRequest}
    (hc : c.unruled = some proofId)
    (h : disputeDeliveryProof tenantId tripId proofId payload db = .ok (a, q)) :
    ProofStep c db q := by
  simp only [disputeDeliveryProof, bind_eq_ok, raiseIf_eq_ok] at h
  obtain ⟨_, _, proof, hproof, _, _, h⟩ := h
  split at h
  · cases h; exact .of_proofs rfl
  · next hdisputed =>
    cases h
    refine .of_modify (fun k => by rw [Table.get_modify]) (requireProof_eq_ok.mp hproof).1 ?_
    cases hs : proof.status <;>
      simp_all [ProofMove, validationFlow, ProofStatus.terminal, deliveryProofValidTransitions]

theorem resolveDeliveryProofDispute_proofs {now : Instant} {userId : Option UUID} {a : UUID}
    {payload : ResolveDeliveryProofDisputeRequest}
    (h : resolveDeliveryProofDispute now tenantId tripId proofId userId payload db = .ok (a, q)) :
    ProofStep c db q := by
  simp only [resolveDeliveryProofDispute, bind_eq_ok, raiseIf_eq_ok, decide_eq_false_iff_not,
    Decidable.not_not] at h
  obtain ⟨_, _, _, _, proof, hproof, _, hstatus, h⟩ := h
  have hproof := (requireProof_eq_ok.mp hproof).1
  split at h
  · cases h
    refine .of_modify (fun k => by rw [Table.get_modify]) hproof (.inr (.inr (.inl ?_)))
    simp [hstatus, validationFlow]
  · cases h
    refine .of_modify (fun k => by rw [Table.get_modify]) hproof (.inr (.inr (.inl ?_)))
    simp [hstatus, validationFlow]

theorem patchDeliveryProof_proofs {a : UUID} {updateData : DeliveryProofPatch}
    (h : patchDeliveryProof tenantId proofId updateData db = .ok (a, q)) : ProofStep c db q := by
  simp only [patchDeliveryProof, bind_eq_ok, require_eq_ok, pure, Except.pure,
    Except.ok.injEq] at h
  obtain ⟨proof, hproof, _, _, h⟩ := h
  cases h
  exact .of_modify (fun k => by rw [Table.get_modify]) hproof (.inl rfl)

theorem ProofCall.step_proofs (c : ProofCall) (db : Db) : ProofStep c db (c.step db) := by
  refine perform_ind (.of_proofs rfl) fun a q h => ?_
  cases c with
  | createDeliveryProof => exact createDeliveryProof_proofs h
  | acceptDeliveryProof => exact acceptDeliveryProof_proofs h
  | rejectDeliveryProof => exact rejectDeliveryProof_proofs h
  | validateDeliveryProof => exact validateDeliveryProof_proofs rfl h
  | disputeDeliveryProof => exact disputeDeliveryProof_proofs rfl h
  | resolveDeliveryProofDispute => exact resolveDeliveryProofDispute_proofs h
  | patchDeliveryProof => exact patchDeliveryProof_proofs h

end Step

/-- A terminal proof has no edge left in the table or in the flow. -/
theorem ProofMove.terminal {c : ProofCall} {k : UUID} {p p' : DeliveryProof} (h : ProofMove c k p p')
    (hc : c.unruled ≠ some k) (hp : p.status.terminal = true) : p'.status = p.status := by
  rcases h with h | h | h | ⟨h, _⟩
  · exact h
  · cases hs : p.status <;> simp_all [ProofStatus.terminal, deliveryProofValidTransitions]
  · cases hs : p.status <;> simp_all [ProofStatus.terminal, validationFlow]
  · exact absurd h hc

/-- Along every run a proof moves by the table or by the validation flow and new proofs are
pending, and a terminal proof that is neither validated nor disputed again keeps its status. -/
theorem proof_transitions (db : Db) (calls : List ProofCall) :
    Run.Along ProofCall.step (fun db c => ProofStep c db (c.step db)) db calls ∧
      ∀ k p, db.deliveryProofs.get k = some p → p.status.terminal = true →
        Run.Along ProofCall.step (fun _ c => c.unruled ≠ some k) db calls →
        ∃ p', (Run.exec ProofCall.step db calls).deliveryProofs.get k = some p' ∧
          p'.status = p.status := by
  refine ⟨Run.along_of_forall (fun c _ db => c.step_proofs db) db, ?_⟩
  intro k p hp hterminal hcalls
  have hmoves : Lifecycle.Moves (fun (db : Db) (_ : Unit) => db.deliveryProofs.get k) ProofCall.step
      (fun _ c => c.unruled ≠ some k)
      fun p p' => p.status.terminal = true → p'.status.terminal = true ∧ p'.status = p.status := by
    intro db c hc _ p hp
    obtain ⟨p', hp', hmove⟩ := (c.step_proofs db).moves k p hp
    refine ⟨p', hp', .inr fun hterminal => ?_⟩
    have hsame := hmove.terminal hc hterminal
    exact ⟨hsame ▸ hterminal, hsame⟩
  obtain ⟨p', hp', _, hsame⟩ := Lifecycle.exec_keeps hmoves (k := ()) hp hterminal hcalls
  exact ⟨p', hp', hsame⟩

/-! ## A proof beside the table -/

/-- A trip and its delivery proof. -/
def provenTripDb (status : ProofStatus) : Db where
  trips := .single
    { id := 1, tenantId := 1, vehicleId := 1, origin := "Maputo", destination := "Beira"
      status := .delivered }
  deliveryProofs := .single { id := 1, tenantId := 1, tripId := 1, deliveredAt := 100, status }

/-- An accepted proof outlives a rejection, a resolution and a patch. -/
theorem proof_transitions_accepted :
    ∃ p', (Run.exec ProofCall.step (provenTripDb .accepted)
        [.rejectDeliveryProof 200 1 1 7 "carga trocada",
          .resolveDeliveryProofDispute 300 1 1 1 none
            { outcome := "rejected", resolutionNotes := "sem base" },
          .patchDeliveryProof 1 1 { notes := some "assinado" }]).deliveryProofs.get 1 = some p' ∧
      p'.status = .accepted :=
  (proof_transitions (provenTripDb .accepted) _).2 1 _ rfl rfl (by simp [Run.Along, ProofCall.unruled])

/-- Validation takes a pending proof to a status the table has no edge to. -/
theorem validation_beside_table :
    ¬ ∀ (db : Db) (calls : List ProofCall), Run.Along ProofCall.step
      (fun db c => ∀ k p p', db.deliveryProofs.get k = some p →
        (c.step db).deliveryProofs.get k = some p' →
        p'.status = p.status ∨ p'.status ∈ deliveryProofValidTransitions p.status) db calls := by
  intro hall
  have hstep := (hall (provenTripDb .pending) [.validateDeliveryProof 200 1 1 1 none {}]).1
  have hstatus : (((provenTripDb .pending).deliveryProofs.get 1).map DeliveryProof.status,
      ((ProofCall.step (provenTripDb .pending) (.validateDeliveryProof 200 1 1 1 none {})).deliveryProofs.get
        1).map DeliveryProof.status) = (some .pending, some .validated) := by decide +kernel
  rw [Prod.mk.injEq, Option.map_eq_some_iff, Option.map_eq_some_iff] at hstatus
  obtain ⟨⟨p, hp, hs⟩, p', hp', hs'⟩ := hstatus
  have hmove := hstep 1 p p' hp hp'
  rw [hs, hs'] at hmove
  simp [deliveryProofValidTransitions] at hmove

end Rotas
