import Rotas.Operations.Waivers

/-!
# Rotas.Alerts.Service

The alerts of a tenant. A request reference is used once: a second request with it is answered with
the alert that is there, if it asks for the same, and refused if it does not.

* `AlertCreate`, `AlertCreate.valid` — the request, and what its schema asks of it.
* `createAlert`  — the alert of a request.
* `requestAlert` — the alerts after a request, also where it is refused.
-/

namespace Rotas

structure AlertCreate where
  requestReference : String
  alertType : String
  priority : String := "medium"
  entityType : Option String := none
  entityId : Option UUID := none
  title : String
  message : Option String := none
  channel : String := "dashboard"
  deriving DecidableEq

/-- `Field(min_length=1, max_length=120)`. -/
def AlertCreate.valid (a : AlertCreate) : Bool :=
  1 ≤ a.requestReference.length && a.requestReference.length ≤ 120

structure Alert extends AlertCreate where
  id : UUID
  tenantId : UUID
  status : String := "pending"

instance : Keyed Alert := ⟨Alert.id⟩

def alertPriorities : List String := ["low", "medium", "high", "critical"]

def alertChannels : List String := ["dashboard", "whatsapp", "email", "sms"]

/-- `_validate_choice`. -/
def validateAlertChoice (value : String) (allowed : List String) (code field : String) :
    Except Exc Unit :=
  raiseIf (value ∉ allowed)
    (unprocessable code ("Alert " ++ field ++ " is not supported.")
      [("allowed_" ++ field ++ "s", .texts (sorted allowed))])

def createAlert (tenantId : UUID) (payload : AlertCreate) (alerts : Table Alert) :
    Except Exc (UUID × Table Alert) := do
  validateAlertChoice payload.priority alertPriorities "invalid_alert_priority" "priority"
  validateAlertChoice payload.channel alertChannels "invalid_alert_channel" "channel"
  match alerts.rows.find? fun a =>
      a.tenantId = tenantId && a.requestReference = payload.requestReference with
  | some existing =>
    raiseIf (existing.toAlertCreate ≠ payload)
      (conflict "alert_request_reference_reused"
        "Alert request reference was already used with different values."
        [("request_reference", .text payload.requestReference)])
    return (existing.id, alerts)
  | none =>
    return (alerts.freshKey, alerts.insert fun id => { payload with id, tenantId })

/-- The alerts after a request; those of a refused one are as they were. -/
def requestAlert (tenantId : UUID) (payload : AlertCreate) (alerts : Table Alert) : Table Alert :=
  match createAlert tenantId payload alerts with
  | .ok (_, alerts) => alerts
  | .error _ => alerts

theorem validateAlertChoice_eq_ok {value code field : String} {allowed : List String} {u : Unit} :
    validateAlertChoice value allowed code field = .ok u ↔ value ∈ allowed := by
  rw [validateAlertChoice, raiseIf_eq_ok, decide_eq_false_iff_not, Decidable.not_not]

end Rotas
