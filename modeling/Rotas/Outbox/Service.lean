import Rotas.Core.Errors
import Rotas.Core.Json
import Rotas.Lib.Table

/-!
# Rotas.Outbox.Service

The outbox of the events for the governance engine: rows are added by the services, and a job posts
them and writes down what came of it.

* `enqueue`      — a new row, in the transaction of the caller.
* `outcome`      — what one post comes to, with every exception caught.
* `attempted`    — the row after it: sent, to be tried again, or a dead letter.
* `OutboxEvent.write` — the update of a row: the columns that have changed, and no others.
-/

namespace Rotas

inductive OutboxStatus where
  | pending | sent | deadLetter
  deriving DecidableEq

structure OutboxEvent where
  id : UUID
  tenantId : UUID
  aggregateType : Option String := none
  aggregateId : Option UUID := none
  eventType : String
  payload : Json
  status : OutboxStatus := .pending
  governanceCaseId : Option UUID := none
  attemptCount : Nat := 0
  lastError : Option String := none
  nextAttemptAt : Option Instant
  sentAt : Option Instant := none
  correlationId : Option UUID := none

instance : Keyed OutboxEvent := ⟨OutboxEvent.id⟩

def defaultBackoffsSeconds : List Int := [60, 300, 1800, 7200, 43200, 86400]

/-- The delay at the index, and the last one beyond the schedule. -/
def retryAt (now : Instant) (attemptCount : Nat) : Instant :=
  now + defaultBackoffsSeconds[attemptCount]?.getD (defaultBackoffsSeconds.getLastD 0)

def isDeadLetter (attemptCount : Nat) : Bool := defaultBackoffsSeconds.length ≤ attemptCount

structure EnqueueRequest where
  tenantId : UUID
  eventType : String
  payload : Json
  aggregateType : Option String := none
  aggregateId : Option UUID := none
  correlationId : Option UUID := none

def enqueue (now : Instant) (request : EnqueueRequest) (events : Table OutboxEvent) :
    Table OutboxEvent :=
  events.insert fun id =>
    { id, tenantId := request.tenantId, aggregateType := request.aggregateType
      aggregateId := request.aggregateId, eventType := request.eventType
      payload := request.payload, nextAttemptAt := some now
      correlationId := request.correlationId }

/-! ## One post -/

structure GovernanceSettings where
  ffGovernanceOutbox : Bool
  governanceEngineUrl : String

/-- What the client comes back with: an answer, whose body may be no JSON, or an exception. -/
inductive GovernanceResponse where
  | answer (statusCode : Nat) (body : Option Json)
  | httpError (className : String)
  | raised (exception : String)

/-- What `_post_to_governance` returns. -/
structure PostResult where
  ok : Bool
  body : List (String × Json) := []
  error : Option String := none

/-- An answer below 400 is a success; its body is read as an object, and another value raises. -/
def postToGovernance (S : GovernanceSettings) (response : GovernanceResponse) :
    Except String PostResult :=
  if S.governanceEngineUrl = "" then
    .ok { ok := false, error := some "governance_engine_url not configured" }
  else
    match response with
    | .httpError className => .ok { ok := false, error := some ("http_error: " ++ className) }
    | .raised exception => .error exception
    | .answer statusCode body =>
      if 500 ≤ statusCode then
        .ok { ok := false, error := some ("upstream_" ++ toString statusCode) }
      else if 400 ≤ statusCode then
        .ok { ok := false, error := some ("client_error_" ++ toString statusCode) }
      else
        match body with
        | none => .ok { ok := true }
        | some (.object entries) => .ok { ok := true, body := entries }
        | some _ => .error "AttributeError"

/-- What the loop makes of the post. -/
def outcome (S : GovernanceSettings) (response : GovernanceResponse) : PostResult :=
  match postToGovernance S response with
  | .ok posted => posted
  | .error exception => { ok := false, error := some ("unexpected: " ++ exception) }

/-- The engine has refused the event itself. -/
def clientError (S : GovernanceSettings) : GovernanceResponse → Bool
  | .answer statusCode _ => S.governanceEngineUrl ≠ "" && 400 ≤ statusCode && statusCode < 500
  | _ => false

/-- `uuid.UUID(text)`, none where it raises a `ValueError`. -/
class UuidText where
  uuid : String → Option UUID

/-- The case that the engine names, if it names one. -/
def PostResult.caseId (posted : PostResult) : Option Json :=
  (Json.get? posted.body "case_id").filter Json.truthy

def OutboxEvent.delivered (row : OutboxEvent) (now : Instant) (governanceCaseId : Option UUID) :
    OutboxEvent :=
  { row with attemptCount := row.attemptCount + 1, status := .sent, sentAt := some now
             governanceCaseId }

def OutboxEvent.failed (row : OutboxEvent) (error : Option String) : OutboxEvent :=
  { row with attemptCount := row.attemptCount + 1, lastError := some (error.getD "unknown") }

/-- The row after the post; none where the case is named by a value that is no text, which raises
out of the loop. -/
def recorded [UuidText] (now : Instant) (posted : PostResult) (row : OutboxEvent) :
    Option OutboxEvent :=
  if posted.ok then
    match posted.caseId with
    | none => some (row.delivered now row.governanceCaseId)
    | some (.text caseId) =>
      some (row.delivered now ((UuidText.uuid caseId).or row.governanceCaseId))
    | some _ => none
  else if isDeadLetter (row.attemptCount + 1) then
    some { row.failed posted.error with status := .deadLetter }
  else
    some { row.failed posted.error with
      status := .pending, nextAttemptAt := some (retryAt now (row.attemptCount + 1)) }

def attempted [UuidText] (S : GovernanceSettings) (now : Instant) (response : GovernanceResponse)
    (row : OutboxEvent) : Option OutboxEvent := recorded now (outcome S response) row

/-! ## One cycle -/

/-- A column of the row as the update leaves it. -/
def changed {α : Type} [DecidableEq α] (old new current : α) : α := if new = old then current else new

theorem changed_self {α : Type} [DecidableEq α] (old new : α) : changed old new old = new := by
  unfold changed
  split
  · next h => exact h.symm
  · rfl

/-- The update sets the columns that the session has changed since it read the row. -/
def OutboxEvent.write (old new current : OutboxEvent) : OutboxEvent :=
  { current with
    status := changed old.status new.status current.status
    governanceCaseId := changed old.governanceCaseId new.governanceCaseId current.governanceCaseId
    attemptCount := changed old.attemptCount new.attemptCount current.attemptCount
    lastError := changed old.lastError new.lastError current.lastError
    nextAttemptAt := changed old.nextAttemptAt new.nextAttemptAt current.nextAttemptAt
    sentAt := changed old.sentAt new.sentAt current.sentAt }

theorem write_self {row row' : OutboxEvent} (h : row' = { row with
      status := row'.status, governanceCaseId := row'.governanceCaseId
      attemptCount := row'.attemptCount, lastError := row'.lastError
      nextAttemptAt := row'.nextAttemptAt, sentAt := row'.sentAt }) : row.write row' row = row' := by
  rw [OutboxEvent.write]
  simp only [changed_self]
  exact h.symm

/-- The commit of the rows read and what they have become. -/
def writeRows : List (OutboxEvent × OutboxEvent) → Table OutboxEvent → Table OutboxEvent
  | [], events => events
  | (old, new) :: rows, events => writeRows rows (events.modify old.id (old.write new))

/-- The oldest pending rows whose time has come. -/
def dueEvents (now : Instant) (maxRows : Nat) (events : Table OutboxEvent) : List OutboxEvent :=
  (events.rows.filter fun row =>
    row.status = .pending && row.nextAttemptAt.all (· ≤ now)).take maxRows

/-! ## What an attempt makes of a row -/

section Attempt

variable [UuidText] {S : GovernanceSettings} {now : Instant} {response : GovernanceResponse}
  {row row' : OutboxEvent}

/-- The row with one attempt more: sent if it was accepted, and else a dead letter if no attempt is
left, or pending with its next attempt. -/
structure Attempted (accepted : Bool) (now : Instant) (row row' : OutboxEvent) : Prop where
  id : row'.id = row.id
  count : row'.attemptCount = row.attemptCount + 1
  sent : accepted = true → row'.status = .sent
  dead : accepted = false → isDeadLetter row'.attemptCount = true → row'.status = .deadLetter
  retried : accepted = false → isDeadLetter row'.attemptCount = false →
    row'.status = .pending ∧ row'.nextAttemptAt = some (retryAt now row'.attemptCount)
  written : row.write row' row = row'

theorem attempted_spec (h : attempted S now response row = some row') :
    Attempted (outcome S response).ok now row row' := by
  rw [attempted, recorded] at h
  split at h
  · next hok =>
    simp only [hok]
    split at h
    · cases h
      exact ⟨rfl, rfl, fun _ => rfl, nofun, nofun, write_self rfl⟩
    · cases h
      exact ⟨rfl, rfl, fun _ => rfl, nofun, nofun, write_self rfl⟩
    · cases h
  · next hok =>
    simp only [Bool.not_eq_true] at hok
    simp only [hok]
    split at h
    · next hdead =>
      cases h
      exact ⟨rfl, rfl, nofun, fun _ _ => rfl, fun _ hn => (nomatch hdead.symm.trans hn),
        write_self rfl⟩
    · next hdead =>
      cases h
      exact ⟨rfl, rfl, nofun, fun _ hd => absurd hd hdead, fun _ _ => ⟨rfl, rfl⟩, write_self rfl⟩

/-- The case of an accepted post is named by a text, or by nothing that counts. -/
def PostResult.readable (posted : PostResult) : Bool :=
  !posted.ok || posted.caseId.all fun
    | .text _ => true
    | _ => false

/-- Only an accepted post that names its case by no text raises out of the loop. -/
theorem attempted_isSome (h : (outcome S response).readable = true) :
    ∃ row', attempted S now response row = some row' := by
  simp only [attempted, recorded]
  split
  · next hok =>
    simp only [PostResult.readable, hok, Bool.not_true, Bool.false_or] at h
    split
    · exact ⟨_, rfl⟩
    · exact ⟨_, rfl⟩
    · next value hvalue hcase =>
      rw [hcase] at h
      cases value with
      | text caseId => exact absurd rfl (hvalue caseId)
      | _ => cases h
  · split
    · exact ⟨_, rfl⟩
    · exact ⟨_, rfl⟩

end Attempt

end Rotas
