import Rotas.Core.Errors
import Rotas.Core.Text
import Rotas.Lib.Run
import Rotas.Lib.Table
import Mathlib.Data.List.Sort

/-!
# Rotas.Notifications.Outbox

The outbox of the e-mails: rows are queued by the services, and a job sends them.

* `NotificationOutbox` — a row.
* `attempted` — what one attempt makes of a row.
* `dueNotifications` — the rows of a run: the oldest that are due.
* `deliverQueuedNotifications` — one run of the job.
* `enqueueEmail` — a new row, or the one of the same reference.

What a run sends is a parameter: for each row the time at which it is done with and the exception
of the mail server, if it raises one.
-/

namespace Rotas
namespace Notifications

inductive NotificationStatus where
  | queued | sent | failed | deadLetter
  deriving DecidableEq

/-- What is sent. -/
structure Email where
  recipient : String
  subject : String
  bodyText : String
  bodyHtml : Option String := none
  deriving DecidableEq

structure NotificationOutbox where
  id : UUID
  tenantId : UUID
  requestReference : String
  channel : String := "email"
  email : Email
  status : NotificationStatus := .queued
  attempts : Nat := 0
  lastError : Option String := none
  scheduledAt : Option Instant := none
  sentAt : Option Instant := none
  createdAt : Instant
  deriving DecidableEq

instance : Keyed NotificationOutbox := ⟨NotificationOutbox.id⟩

/-! ## One attempt -/

/-- `_RETRY_DELAYS`: after attempt 0 a minute, after 1 five minutes, after 2 a quarter of an hour,
after 3 an hour, after 4 two hours. -/
def retryDelays : List Int := [60, 300, 900, 3600, 7200]

/-- `MAX_ATTEMPTS`. -/
def maxAttempts : Nat := 5

/-- `_next_retry_at`. -/
def nextRetryAt (now : Instant) (attempts : Nat) : Instant :=
  now + retryDelays.getD (min attempts (retryDelays.length - 1)) 0

/-- What comes of sending a row: when, and the exception that was raised. -/
structure Sending where
  doneAt : Instant
  error : Option String

/-- `_send_smtp_email` is tried where the provider is a mail server. -/
def attempted (emailProvider provider : String) (sending : Sending) (item : NotificationOutbox) :
    NotificationOutbox :=
  let item := { item with attempts := item.attempts + 1 }
  if provider ≠ "smtp" then
    { item with
      status := .failed, lastError := some ("Unsupported EMAIL_PROVIDER: " ++ emailProvider)
      scheduledAt := some (nextRetryAt sending.doneAt item.attempts) }
  else
    match sending.error with
    | none =>
      { item with
        status := .sent, sentAt := some sending.doneAt, lastError := none, scheduledAt := none }
    | some error =>
      let item := { item with lastError := some (error.take 1000).toString }
      if maxAttempts ≤ item.attempts then { item with status := .deadLetter, scheduledAt := none }
      else { item with
        status := .failed, scheduledAt := some (nextRetryAt sending.doneAt item.attempts) }

/-! ## One run -/

def NotificationOutbox.due (item : NotificationOutbox) (now : Instant) : Bool :=
  item.channel = "email" && item.status ∈ [.queued, .failed] && item.attempts < maxAttempts &&
    item.scheduledAt.all (· ≤ now)

abbrev older (a b : NotificationOutbox) : Prop := a.createdAt ≤ b.createdAt

def dueNotifications (now : Instant) (limit : Nat) (rows : Table NotificationOutbox) :
    List NotificationOutbox :=
  ((rows.rows.filter (·.due now)).insertionSort older).take limit

/-- What a run does to one row, for the record. -/
structure Attempt where
  id : UUID
  doneAt : Instant
  error : Option String
  retryAt : Option Instant

/-- The rows, and what was attempted so far. -/
structure Outbox where
  rows : Table NotificationOutbox := ∅
  attempts : List Attempt := []

structure DeliveryRun where
  emailProvider : String
  now : Instant
  limit : Nat := 25
  sending : NotificationOutbox → Sending

def attemptOf (before after : NotificationOutbox) (sending : Sending) : Attempt :=
  { id := before.id, doneAt := sending.doneAt, error := after.lastError, retryAt := after.scheduledAt }

section

variable [Locale]

def DeliveryRun.provider (run : DeliveryRun) : String := Locale.lower run.emailProvider

/-- The providers that leave the rows for somebody else. -/
def DeliveryRun.isActive (run : DeliveryRun) : Bool := run.provider ∉ ["none", "outbox"]

def DeliveryRun.attempted (run : DeliveryRun) (item : NotificationOutbox) : NotificationOutbox :=
  Notifications.attempted run.emailProvider run.provider (run.sending item) item

/-- The rows that a run attempts. -/
def DeliveryRun.items (run : DeliveryRun) (rows : Table NotificationOutbox) :
    List NotificationOutbox :=
  if run.isActive then dueNotifications run.now run.limit rows else []

theorem attempted_id (run : DeliveryRun) (item : NotificationOutbox) :
    (run.attempted item).id = item.id := by
  unfold DeliveryRun.attempted Notifications.attempted
  split
  · rfl
  · split
    · rfl
    · simp only
      split <;> rfl

/-- `deliver_queued_notifications`: the rows of the run are attempted one after the other and
committed together. -/
def deliverQueuedNotifications (run : DeliveryRun) (s : Outbox) : Outbox where
  rows := s.rows.modifyAll (fun row => row.id ∈ (run.items s.rows).map NotificationOutbox.id)
    run.attempted (attempted_id run)
  attempts := s.attempts ++ (run.items s.rows).map fun item =>
    attemptOf item (run.attempted item) (run.sending item)

end

/-! ## New rows -/

structure EmailNotificationCreate where
  requestReference : String
  email : Email

def enqueueEmail (now createdAt : Instant) (tenantId : UUID) (payload : EmailNotificationCreate)
    (s : Outbox) : Except Exc (UUID × Outbox) :=
  match s.rows.rows.find? fun item =>
    item.tenantId = tenantId && item.requestReference = payload.requestReference with
  | some item =>
    if item.email = payload.email && item.channel = "email" then .ok (item.id, s)
    else .error (conflict "notification_request_reference_reused"
      "Notification request reference was already used with different values."
      [("request_reference", .text payload.requestReference)])
  | none => .ok (s.rows.freshKey, { s with
      rows := s.rows.insert fun id =>
        { id, tenantId, requestReference := payload.requestReference, email := payload.email
          scheduledAt := some now, createdAt } })

end Notifications
end Rotas
