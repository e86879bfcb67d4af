import Rotas.Cargo.ProofStates
import Rotas.TripOrders.Service
import Rotas.Trips.Execution

/-!
# Rotas.Trips.Operations

The trips as one system: the calls of the trip, cargo and trip order modules and of the policy of
a tenant, each served by a session of its own.

* `OpsCall`       — a call, and its service (`OpsCall.run`).
* `OpsCall.step`  — the database after a call, served by a session of its own.
-/

namespace Rotas

open Work

inductive TripCall where
  | createTrip (now : Instant) (tenantId : UUID) (payload : TripCreate)
  | startTrip (now : Instant) (tenantId tripId : UUID) (payload : StartTripRequest)
  | requestDispatchClearance (tenantId tripId : UUID)
  | approveDispatchClearance (now : Instant) (tenantId tripId : UUID)
      (payload : DispatchClearanceApproveRequest) (actorId : Option UUID)
  | dispatchTrip (now : Instant) (tenantId tripId : UUID) (payload : TripDispatchRequest)
  | evaluateDeliverySla (now : Instant) (tenantId : UUID)
  | createIncident (now : Instant) (tenantId tripId incidentId : UUID)
      (payload : TripIncidentCreate) (actorId : Option UUID)
  | resolveIncident (now : Instant) (tenantId tripId incidentId : UUID)
      (payload : TripIncidentResolveRequest) (actorId : Option UUID)
  | completeTrip (now : Instant) (tenantId tripId : UUID) (payload : CompleteTripRequest)
  | operationalCloseTrip (now : Instant) (tenantId tripId : UUID)
      (payload : OperationalCloseTripRequest) (actorId : Option UUID)
  | associateContract (now : Instant) (tenantId tripId contractId : UUID)
  | createStop (tenantId tripId : UUID) (stopType : String)
  | recordTripCost (now : Instant) (tenantId tripId : UUID) (payload : TripCostCreate)
      (actorId : Option UUID)
  | patchTrip (tenantId tripId : UUID) (patch : TripPatch)

inductive OrderCall where
  | createTripOrder (tenantId : UUID) (payload : TripOrderCreate)
  | confirmTripOrder (tenantId orderId : UUID)
  | assignTripOrder (now : Instant) (tenantId orderId : UUID) (payload : TripOrderAssignRequest)
      (actorId : Option UUID)
  | cancelTripOrder (tenantId orderId : UUID)
  | rejectDispatchClearance (tenantId orderId : UUID)

inductive PaperCall where
  | createLoadPermit (now : Instant) (tenantId tripId : UUID) (payload : LoadPermitCreate)
  | createCargoManifest (now : Instant) (tenantId tripId : UUID)
  | createTransportDocument (now : Instant) (tenantId tripId : UUID)
      (payload : TransportDocumentCreate)
  | createGuiaRemessa (now : Instant) (tenantId tripId : UUID)
  | createCartaPorte (now : Instant) (tenantId tripId : UUID)
  | createDav (now : Instant) (tenantId tripId : UUID)
  | createDeclaracaoCargaPerigosa (now : Instant) (tenantId tripId : UUID)

/-- `patch_current_tenant`, as far as the compliance policy goes; what it accepts holds lists of
strings only. -/
def patchCurrentTenant (tenantId : UUID) (compliancePolicy : CompliancePolicy) (db : Db) :
    Except Exc (UUID × Db) := do
  let missing := notFound "tenant_not_found" "Tenant not found or inactive."
  let tenant ← require (db.tenants.get tenantId) missing
  raiseIf (!tenant.isActive) missing
  return (tenantId, { db with tenants := db.tenants.modify tenantId ({ · with compliancePolicy }) })

inductive OpsCall where
  | trips (c : TripCall)
  | orders (c : OrderCall)
  | papers (c : PaperCall)
  | proofs (c : ProofCall)
  | policy (tenantId : UUID) (compliancePolicy : CompliancePolicy)

def PaperCall.run : PaperCall → Db → Except Exc (UUID × Db)
  | .createLoadPermit now tenantId tripId payload =>
    Rotas.createLoadPermit now tenantId tripId payload
  | .createCargoManifest now tenantId tripId => Rotas.createCargoManifest now tenantId tripId
  | .createTransportDocument now tenantId tripId payload =>
    Rotas.createTransportDocument payload now tenantId tripId
  | .createGuiaRemessa now tenantId tripId => Rotas.createGuiaRemessa now tenantId tripId
  | .createCartaPorte now tenantId tripId => Rotas.createCartaPorte now tenantId tripId
  | .createDav now tenantId tripId => Rotas.createDav now tenantId tripId
  | .createDeclaracaoCargaPerigosa now tenantId tripId =>
    Rotas.createDeclaracaoCargaPerigosa now tenantId tripId

def OrderCall.run [Interpreter] : OrderCall → Fleet → Except Exc (UUID × Fleet)
  | .createTripOrder tenantId payload => Fleet.onDb (Rotas.createTripOrder tenantId payload)
  | .confirmTripOrder tenantId orderId => Fleet.onDb (Rotas.confirmTripOrder tenantId orderId)
  | .assignTripOrder now tenantId orderId payload actorId =>
    Rotas.assignTripOrder now tenantId orderId payload actorId
  | .cancelTripOrder tenantId orderId => Fleet.onDb (Rotas.cancelTripOrder tenantId orderId)
  | .rejectDispatchClearance tenantId orderId =>
    Fleet.onDb (Rotas.rejectDispatchClearance tenantId orderId)

section

variable [Interpreter] [Locale]

def TripCall.run : TripCall → Fleet → Except Exc (UUID × Fleet)
  | .createTrip now tenantId payload => Rotas.createTrip now tenantId payload
  | .startTrip now tenantId tripId payload =>
    Fleet.onDb (Rotas.startTrip now tenantId tripId payload)
  | .requestDispatchClearance tenantId tripId => Rotas.requestDispatchClearance tenantId tripId
  | .approveDispatchClearance now tenantId tripId payload actorId =>
    Rotas.approveDispatchClearance now tenantId tripId payload actorId
  | .dispatchTrip now tenantId tripId payload => Rotas.dispatchTrip now tenantId tripId payload
  | .evaluateDeliverySla now tenantId => Fleet.onDb fun db => do
    let (_, db) ← Rotas.evaluateDeliverySla now tenantId db
    return (tenantId, db)
  | .createIncident now tenantId tripId incidentId payload actorId =>
    Fleet.onDb (Rotas.createIncident now tenantId tripId incidentId payload actorId)
  | .resolveIncident now tenantId tripId incidentId payload actorId =>
    Fleet.onDb (Rotas.resolveIncident now tenantId tripId incidentId payload actorId)
  | .completeTrip now tenantId tripId payload =>
    Fleet.onDb (Rotas.completeTrip now tenantId tripId payload)
  | .operationalCloseTrip now tenantId tripId payload actorId =>
    Fleet.onDb (Rotas.operationalCloseTrip now tenantId tripId payload actorId)
  | .associateContract now tenantId tripId contractId =>
    Fleet.onDb (Rotas.associateContract now tenantId tripId contractId)
  | .createStop tenantId tripId stopType => Fleet.onDb (Rotas.createStop tenantId tripId stopType)
  | .recordTripCost now tenantId tripId payload actorId =>
    Fleet.onDb (Rotas.recordTripCost now tenantId tripId payload actorId)
  | .patchTrip tenantId tripId patch => Fleet.onDb (Rotas.patchTrip tenantId tripId patch)

/-- The service that a call runs. -/
def OpsCall.run : OpsCall → Fleet → Except Exc (UUID × Fleet)
  | .trips c => c.run
  | .orders c => c.run
  | .papers c => Fleet.onDb c.run
  | .proofs c => Fleet.onDb c.serve
  | .policy tenantId compliancePolicy => Fleet.onDb (patchCurrentTenant tenantId compliancePolicy)

/-- The database after one call. -/
def OpsCall.step (f : Fleet) (c : OpsCall) : Fleet := perform c.run f

/-- The call is answered, not refused. -/
def OpsCall.accepted (f : Fleet) (c : OpsCall) : Bool :=
  (serve (atomic (ofExcept c.run)) f).1.isOk

theorem OpsCall.accepted_iff {f : Fleet} {c : OpsCall} :
    c.accepted f = true ↔ ∃ a p, c.run f = .ok (a, p) ∧ p.ok = true := by
  simp only [OpsCall.accepted, serve_atomic_isOk, ofExcept_ok]
  rfl

/-- An accepted call leaves what its service made of the database. -/
theorem OpsCall.step_of_run {f p : Fleet} {c : OpsCall} {a : UUID} (h : c.run f = .ok (a, p))
    (hp : p.ok = true) : c.step f = p := perform_of_ok h hp

theorem OpsCall.step_ok {f : Fleet} (c : OpsCall) (hf : f.ok = true) : (c.step f).ok = true := by
  rcases perform_cases c.run f with hsame | ⟨_, _, hok⟩
  · exact (congrArg Fleet.ok hsame).trans hf
  · exact hok

theorem OpsCall.step_of_refused {f : Fleet} {c : OpsCall} (h : c.accepted f = false) :
    c.step f = f := by
  rcases perform_cases c.run f with hsame | ⟨a, hrun, hok⟩
  · exact hsame
  · rw [OpsCall.accepted_iff.mpr ⟨a, _, hrun, hok⟩] at h
    cases h

end

end Rotas
