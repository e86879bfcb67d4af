import Rotas.Lib.Run
import Rotas.Notifications.Outbox
import Mathlib.Algebra.Order.Ring.Int

/-!
# Rotas.Notifications.Protocol

What the runs of the job do to the e-mails over time.

* `Inv` — the attempts on a row are counted on it, and one that failed was late at once.
* `attempts_bounded`, `final_stays` — at most `MAX_ATTEMPTS` attempts, and none on a final row.
* `Reselected` — a row is selected by any later runs that are long enough.
* `OnSchedule` — each retry comes after the delay that the schedule has for it.
* `outbox_protocol` — the whole protocol is kept exactly where the mail server takes every e-mail.
* `unsupported_provider` — a row that is failed for ever.
-/

namespace Rotas
namespace Notifications

inductive OutboxCall where
  | deliver (run : DeliveryRun)
  | enqueue (now createdAt : Instant) (tenantId : UUID) (payload : EmailNotificationCreate)

section

variable [Locale]

def outboxStep (s : Outbox) (call : OutboxCall) : Outbox :=
  match call with
  | .deliver run => deliverQueuedNotifications run s
  | .enqueue now createdAt tenantId payload =>
    match enqueueEmail now createdAt tenantId payload s with
    | .ok (_, s') => s'
    | .error _ => s

theorem enqueue_cases (s : Outbox) (now createdAt : Instant) (tenantId : UUID)
    (payload : EmailNotificationCreate) :
    outboxStep s (.enqueue now createdAt tenantId payload) = s ∨ ∃ mk hk,
      (∀ id, (mk id).channel = "email" ∧ (mk id).status = .queued ∧ (mk id).attempts = 0 ∧
        (mk id).createdAt = createdAt) ∧
      outboxStep s (.enqueue now createdAt tenantId payload) =
        { s with rows := s.rows.insert mk hk } := by
  simp only [outboxStep, enqueueEmail]
  cases s.rows.rows.find? fun item =>
    item.tenantId = tenantId && item.requestReference = payload.requestReference with
  | some item =>
    left
    dsimp only
    split
    · next hrun =>
      split at hrun <;> cases hrun
      rfl
    · rfl
  | none => exact .inr ⟨_, _, fun _ => ⟨rfl, rfl, rfl, rfl⟩, rfl⟩

/-! ## One attempt -/

/-- What an attempt leaves: a row that was sent, that failed and has its next attempt, or that is
given up. -/
theorem attempted_cases (run : DeliveryRun) (item : NotificationOutbox) :
    ((run.attempted item).status = .sent ∧ (run.attempted item).lastError = none ∧
      (run.attempted item).scheduledAt = none) ∨
    ((run.attempted item).status = .failed ∧ (run.attempted item).lastError ≠ none ∧
      (run.attempted item).scheduledAt =
        some (nextRetryAt (run.sending item).doneAt (item.attempts + 1))) ∨
    ((run.attempted item).status = .deadLetter ∧ (run.attempted item).lastError ≠ none ∧
      maxAttempts ≤ item.attempts + 1) := by
  unfold DeliveryRun.attempted attempted
  split
  · exact .inr (.inl ⟨rfl, by simp, rfl⟩)
  · split
    · exact .inl ⟨rfl, rfl, rfl⟩
    · simp only
      split
      · next hlast => exact .inr (.inr ⟨rfl, by simp, hlast⟩)
      · exact .inr (.inl ⟨rfl, by simp, rfl⟩)

theorem attempted_attempts (run : DeliveryRun) (item : NotificationOutbox) :
    (run.attempted item).attempts = item.attempts + 1 ∧
      (run.attempted item).channel = item.channel ∧
      (run.attempted item).createdAt = item.createdAt := by
  unfold DeliveryRun.attempted attempted
  split
  · exact ⟨rfl, rfl, rfl⟩
  · split
    · exact ⟨rfl, rfl, rfl⟩
    · simp only
      split <;> exact ⟨rfl, rfl, rfl⟩

end

theorem due_iff {item : NotificationOutbox} {now : Instant} : item.due now = true ↔
    item.channel = "email" ∧ (item.status = .queued ∨ item.status = .failed) ∧
      item.attempts < maxAttempts ∧ item.scheduledAt.all (· ≤ now) = true := by
  simp [NotificationOutbox.due, and_assoc]

theorem mem_dueNotifications {now : Instant} {limit : Nat} {rows : Table NotificationOutbox}
    {item : NotificationOutbox} (h : item ∈ dueNotifications now limit rows) :
    item ∈ rows ∧ item.due now = true := by
  have hmem := (List.perm_insertionSort older _).mem_iff.mp (List.mem_of_mem_take h)
  exact List.mem_filter.mp hmem

theorem nodup_dueNotifications (now : Instant) (limit : Nat) (rows : Table NotificationOutbox) :
    ((dueNotifications now limit rows).map NotificationOutbox.id).Nodup := by
  have hrows : ((rows.rows.filter (·.due now)).map NotificationOutbox.id).Nodup :=
    rows.nodup.sublist (List.filter_sublist.map _)
  have hsorted := ((List.perm_insertionSort older (rows.rows.filter (·.due now))).map
    NotificationOutbox.id).nodup_iff.mpr hrows
  exact hsorted.sublist ((List.take_sublist _ _).map _)

theorem exists_older {now : Instant} {limit : Nat} {rows : Table NotificationOutbox}
    {item : NotificationOutbox} (hitem : item ∈ rows) (hdue : item.due now = true)
    (hlimit : 0 < limit) (hnot : item ∉ dueNotifications now limit rows) :
    ∃ first ∈ dueNotifications now limit rows, first.createdAt ≤ item.createdAt := by
  have hmem : item ∈ (rows.rows.filter (·.due now)).insertionSort older :=
    (List.perm_insertionSort older _).mem_iff.mpr (List.mem_filter.mpr ⟨hitem, hdue⟩)
  have hsorted : ((rows.rows.filter (·.due now)).insertionSort older).Pairwise older :=
    List.pairwise_insertionSort older _
  unfold dueNotifications at hnot ⊢
  cases hlist : (rows.rows.filter (·.due now)).insertionSort older with
  | nil => rw [hlist] at hmem; cases hmem
  | cons first rest =>
    rw [hlist] at hmem hsorted hnot
    have hfirst : first ∈ (first :: rest).take limit := by
      obtain ⟨n, rfl⟩ := Nat.exists_eq_succ_of_ne_zero hlimit.ne'
      exact List.mem_cons_self
    refine ⟨first, hfirst, ?_⟩
    rcases List.mem_cons.mp hmem with rfl | hrest
    · exact absurd hfirst hnot
    · exact List.rel_of_pairwise_cons hsorted hrest

/-! ## One run -/

section

variable [Locale] {run : DeliveryRun} {s : Outbox}

theorem mem_items {item : NotificationOutbox} (h : item ∈ run.items s.rows) :
    item ∈ s.rows ∧ item.due run.now = true := by
  unfold DeliveryRun.items at h
  split at h
  · exact mem_dueNotifications h
  · cases h

theorem nodup_items : ((run.items s.rows).map NotificationOutbox.id).Nodup := by
  unfold DeliveryRun.items
  split
  · exact nodup_dueNotifications _ _ _
  · exact List.nodup_nil

theorem id_mem_items {r : NotificationOutbox} (hr : r ∈ s.rows) :
    r.id ∈ (run.items s.rows).map NotificationOutbox.id ↔ r ∈ run.items s.rows := by
  constructor
  · intro h
    obtain ⟨item, hitem, hid⟩ := List.mem_map.mp h
    rwa [← Table.eq_of_key (mem_items hitem).1 hr hid]
  · exact fun h => List.mem_map_of_mem h

theorem rows_deliver : (deliverQueuedNotifications run s).rows =
    s.rows.modifyAll (fun row => row.id ∈ (run.items s.rows).map NotificationOutbox.id)
      run.attempted (attempted_id run) := rfl

theorem get_deliver {k : Nat} {r : NotificationOutbox} (h : s.rows.get k = some r) :
    (deliverQueuedNotifications run s).rows.get k =
      some (if r ∈ run.items s.rows then run.attempted r else r) := by
  rw [rows_deliver, Table.get_modifyAll, h, Option.map_some]
  simp only [id_mem_items (Table.mem_of_get h), decide_eq_true_eq]

theorem mem_deliver {r' : NotificationOutbox}
    (h : r' ∈ (deliverQueuedNotifications run s).rows) :
    ∃ r ∈ s.rows, r' = if r ∈ run.items s.rows then run.attempted r else r := by
  rw [rows_deliver, Table.mem_modifyAll] at h
  obtain ⟨r, hr, rfl⟩ := h
  exact ⟨r, hr, by simp only [id_mem_items hr, decide_eq_true_eq]⟩

theorem countP_items {r : NotificationOutbox} (hr : r ∈ s.rows) :
    ((run.items s.rows).map fun item => attemptOf item (run.attempted item) (run.sending item)).countP
      (·.id = r.id) = if r ∈ run.items s.rows then 1 else 0 := by
  have hcount : ((run.items s.rows).map fun item =>
      attemptOf item (run.attempted item) (run.sending item)).countP (·.id = r.id) =
      ((run.items s.rows).map NotificationOutbox.id).count r.id := by
    rw [List.countP_map, List.count, List.countP_map]
    rfl
  rw [hcount, nodup_items.count]
  simp only [id_mem_items hr]

end

/-! ## The invariant -/

/-- The first attempt on the row failed, and the next was put off for five minutes. -/
def LateAtOnce (attempts : List Attempt) (id : UUID) : Prop :=
  ∃ before e after, attempts = before ++ e :: after ∧ e.id = id ∧
    before.countP (·.id = id) = 0 ∧ e.error ≠ none ∧ e.retryAt = some (e.doneAt + 300)

theorem LateAtOnce.append {attempts : List Attempt} {id : UUID} (h : LateAtOnce attempts id)
    (more : List Attempt) : LateAtOnce (attempts ++ more) id := by
  obtain ⟨before, e, after, rfl, hrest⟩ := h
  exact ⟨before, e, after ++ more, by simp, hrest⟩

structure Inv (s : Outbox) : Prop where
  email : ∀ r ∈ s.rows, r.channel = "email"
  bounded : ∀ r ∈ s.rows, r.attempts ≤ maxAttempts
  queued : ∀ r ∈ s.rows, r.status = .queued → r.attempts = 0
  failed : ∀ r ∈ s.rows, r.status = .failed → LateAtOnce s.attempts r.id
  count : ∀ r ∈ s.rows, s.attempts.countP (·.id = r.id) = r.attempts
  known : ∀ e ∈ s.attempts, ∃ r ∈ s.rows, r.id = e.id
  late : ∀ e ∈ s.attempts, e.error ≠ none → LateAtOnce s.attempts e.id
  sent : ∀ e ∈ s.attempts, e.error = none → e.retryAt = none

theorem Inv.insert {s : Outbox} (h : Inv s) {mk : Nat → NotificationOutbox}
    {hk : ∀ k, Keyed.key (mk k) = k}
    (hmk : ∀ id, (mk id).channel = "email" ∧ (mk id).status = .queued ∧ (mk id).attempts = 0) :
    Inv { s with rows := s.rows.insert mk hk } := by
  obtain ⟨hemail, hqueued, hzero⟩ := hmk s.rows.freshKey
  have hnone : s.attempts.countP (·.id = (mk s.rows.freshKey).id) = 0 := by
    rw [List.countP_eq_zero]
    intro e he hid
    obtain ⟨r, hr, hkey⟩ := h.known e he
    have hlt := Table.key_lt_freshKey hr
    exact absurd (hkey.trans ((of_decide_eq_true hid).trans (hk s.rows.freshKey))) hlt.ne
  refine ⟨?_, ?_, ?_, ?_, ?_, fun e he => ?_, h.late, h.sent⟩
  · exact (Table.forall_mem_insert _ mk hk).mpr ⟨h.email, hemail⟩
  · exact (Table.forall_mem_insert _ mk hk).mpr ⟨h.bounded, hzero ▸ Nat.zero_le _⟩
  · exact (Table.forall_mem_insert _ mk hk).mpr ⟨h.queued, fun _ => hzero⟩
  · exact (Table.forall_mem_insert _ mk hk).mpr
      ⟨h.failed, fun hfailed => nomatch hqueued.symm.trans hfailed⟩
  · exact (Table.forall_mem_insert _ mk hk).mpr ⟨h.count, hnone.trans hzero.symm⟩
  · obtain ⟨r, hr, hid⟩ := h.known e he
    exact ⟨r, (Table.mem_insert _ mk hk).mpr (.inl hr), hid⟩

section

variable [Locale] {run : DeliveryRun} {s : Outbox}

theorem Inv.late_of_attempt (h : Inv s) {item : NotificationOutbox}
    (hitem : item ∈ run.items s.rows) (herror : (run.attempted item).lastError ≠ none) :
    LateAtOnce (deliverQueuedNotifications run s).attempts item.id := by
  obtain ⟨hrow, hdue⟩ := mem_items hitem
  obtain ⟨-, hstatus, hleft, -⟩ := due_iff.mp hdue
  rcases hstatus with hqueued | hfailed
  · have hzero := h.queued item hrow hqueued
    have hcount := h.count item hrow
    obtain ⟨pre, post, hsplit⟩ := List.append_of_mem hitem
    have hpre : (pre.map fun i => attemptOf i (run.attempted i) (run.sending i)).countP
        (·.id = item.id) = 0 := by
      have hnodup : ((run.items s.rows).map NotificationOutbox.id).Nodup := nodup_items
      rw [hsplit, List.map_append, List.map_cons, List.nodup_append] at hnodup
      rw [List.countP_map, List.countP_eq_zero]
      intro i hi hid
      exact hnodup.2.2 i.id (List.mem_map_of_mem hi) item.id List.mem_cons_self
        (of_decide_eq_true hid)
    refine ⟨s.attempts ++ pre.map fun i => attemptOf i (run.attempted i) (run.sending i),
      attemptOf item (run.attempted item) (run.sending item),
      post.map fun i => attemptOf i (run.attempted i) (run.sending i), ?_, rfl, ?_, herror, ?_⟩
    · simp [deliverQueuedNotifications, hsplit]
    · rw [List.countP_append, hcount, hzero, hpre]
    · rcases attempted_cases run item with ⟨-, hnone, -⟩ | ⟨-, -, hretry⟩ | ⟨-, -, hlast⟩
      · exact absurd hnone herror
      · change (run.attempted item).scheduledAt = _
        rw [hretry, hzero]
        rfl
      · rw [hzero] at hlast
        exact absurd hlast (by decide)
  · exact (h.failed item hrow hfailed).append _

theorem Inv.deliver (h : Inv s) : Inv (deliverQueuedNotifications run s) := by
  have hcases : ∀ {P : NotificationOutbox → Prop},
      (∀ r ∈ s.rows, r ∈ run.items s.rows → P (run.attempted r)) →
      (∀ r ∈ s.rows, r ∉ run.items s.rows → P r) →
      ∀ r ∈ (deliverQueuedNotifications run s).rows, P r := by
    intro P hselected hleft r' hr'
    obtain ⟨r, hr, rfl⟩ := mem_deliver hr'
    split
    · next hitem => exact hselected r hr hitem
    · next hitem => exact hleft r hr hitem
  refine ⟨hcases ?_ ?_, hcases ?_ ?_, hcases ?_ ?_, hcases ?_ ?_, hcases ?_ ?_, ?_, ?_, ?_⟩
  · exact fun r hr _ => (attempted_attempts run r).2.1.trans (h.email r hr)
  · exact fun r hr _ => h.email r hr
  · intro r hr hitem
    have hleft := (due_iff.mp (mem_items hitem).2).2.2.1
    rw [(attempted_attempts run r).1]
    exact hleft
  · exact fun r hr _ => h.bounded r hr
  · intro r hr _ hqueued
    rcases attempted_cases run r with ⟨hstatus, -⟩ | ⟨hstatus, -⟩ | ⟨hstatus, -⟩ <;>
      cases hstatus.symm.trans hqueued
  · exact fun r hr _ => h.queued r hr
  · intro r hr hitem hfailed
    rw [attempted_id]
    refine h.late_of_attempt hitem ?_
    rcases attempted_cases run r with ⟨hstatus, -⟩ | ⟨-, herror, -⟩ | ⟨hstatus, -⟩
    · cases hstatus.symm.trans hfailed
    · exact herror
    · cases hstatus.symm.trans hfailed
  · exact fun r hr _ hfailed => (h.failed r hr hfailed).append _
  · intro r hr hitem
    rw [attempted_id, (attempted_attempts run r).1, deliverQueuedNotifications, List.countP_append,
      h.count r hr, countP_items hr, if_pos hitem]
  · intro r hr hitem
    rw [deliverQueuedNotifications, List.countP_append, h.count r hr, countP_items hr,
      if_neg hitem, Nat.add_zero]
  · intro e he
    have hrow : ∀ r ∈ s.rows, ∃ r' ∈ (deliverQueuedNotifications run s).rows, r'.id = r.id := by
      intro r hr
      exact Table.exists_mem_modifyAll (attempted_id run) hr
    rcases List.mem_append.mp he with he | he
    · obtain ⟨r, hr, hid⟩ := h.known e he
      obtain ⟨r', hr', hid'⟩ := hrow r hr
      exact ⟨r', hr', hid'.trans hid⟩
    · obtain ⟨item, hitem, rfl⟩ := List.mem_map.mp he
      exact hrow item (mem_items hitem).1
  · intro e he herror
    rcases List.mem_append.mp he with he | he
    · exact (h.late e he herror).append _
    · obtain ⟨item, hitem, rfl⟩ := List.mem_map.mp he
      exact h.late_of_attempt hitem herror
  · intro e he hnone
    rcases List.mem_append.mp he with he | he
    · exact h.sent e he hnone
    · obtain ⟨item, -, rfl⟩ := List.mem_map.mp he
      rcases attempted_cases run item with ⟨-, -, hretry⟩ | ⟨-, herror, -⟩ | ⟨-, herror, -⟩
      · exact hretry
      · exact absurd hnone herror
      · exact absurd hnone herror

theorem Inv.step (h : Inv s) (call : OutboxCall) : Inv (outboxStep s call) := by
  cases call with
  | deliver run => exact h.deliver
  | enqueue now createdAt tenantId payload =>
    rcases enqueue_cases s now createdAt tenantId payload with hsame | ⟨mk, hk, hmk, hnew⟩
    · rwa [hsame]
    · rw [hnew]
      exact h.insert fun id => ⟨(hmk id).1, (hmk id).2.1, (hmk id).2.2.1⟩

/-! ## The protocol -/

/-- All that is queued is still to be sent. -/
structure Fresh (s : Outbox) : Prop where
  attempts : s.attempts = []
  rows : ∀ r ∈ s.rows, r.channel = "email" ∧ r.status = .queued ∧ r.attempts = 0

omit [Locale] in
theorem Fresh.inv (h : Fresh s) : Inv s where
  email r hr := (h.rows r hr).1
  bounded r hr := by rw [(h.rows r hr).2.2]; exact Nat.zero_le _
  queued r hr _ := (h.rows r hr).2.2
  failed r hr hfailed := nomatch (h.rows r hr).2.1.symm.trans hfailed
  count r hr := by rw [h.attempts, (h.rows r hr).2.2]; rfl
  known e he := by rw [h.attempts] at he; cases he
  late e he := by rw [h.attempts] at he; cases he
  sent e he := by rw [h.attempts] at he; cases he

omit [Locale] in
theorem Inv.countP_le (h : Inv s) (id : UUID) :
    s.attempts.countP (·.id = id) ≤ maxAttempts := by
  by_cases hknown : ∃ r ∈ s.rows, r.id = id
  · obtain ⟨r, hr, rfl⟩ := hknown
    rw [h.count r hr]
    exact h.bounded r hr
  · have hzero : s.attempts.countP (·.id = id) = 0 := by
      rw [List.countP_eq_zero]
      intro e he hid
      obtain ⟨r, hr, hkey⟩ := h.known e he
      exact hknown ⟨r, hr, hkey.trans (of_decide_eq_true hid)⟩
    rw [hzero]
    exact Nat.zero_le _

theorem Fresh.exec {calls : List OutboxCall} (h : Fresh s) : Inv (Run.exec outboxStep s calls) :=
  Run.exec_inv_all (I := Inv) (fun _ call h => h.step call) h.inv

theorem attempts_bounded {calls : List OutboxCall} (h : Fresh s) (id : UUID) :
    (Run.exec outboxStep s calls).attempts.countP (·.id = id) ≤ maxAttempts :=
  h.exec.countP_le id

def NotificationOutbox.isFinal (r : NotificationOutbox) : Prop :=
  r.status = .sent ∨ r.status = .deadLetter

omit [Locale] in
theorem final_not_due {r : NotificationOutbox} (h : r.isFinal) (now : Instant) :
    r.due now = false := by
  rw [Bool.eq_false_iff]
  intro hdue
  obtain ⟨-, hstatus, -, -⟩ := due_iff.mp hdue
  rcases h with h | h <;> rw [h] at hstatus <;> rcases hstatus with hs | hs <;> cases hs

theorem final_step {k : Nat} {r : NotificationOutbox} (hr : r.isFinal)
    (h : s.rows.get k = some r) (call : OutboxCall) :
    (outboxStep s call).rows.get k = some r := by
  cases call with
  | deliver run =>
    have hnot : r ∉ run.items s.rows := by
      intro hitem
      cases (final_not_due hr run.now).symm.trans (mem_items hitem).2
    simp only [outboxStep, get_deliver h, if_neg hnot]
  | enqueue now createdAt tenantId payload =>
    rcases enqueue_cases s now createdAt tenantId payload with hsame | ⟨mk, hk, -, hnew⟩
    · rwa [hsame]
    · rw [hnew]
      exact Table.get_insert_of_get _ mk hk h

theorem final_stays {calls : List OutboxCall} {k : Nat} {r : NotificationOutbox} (hr : r.isFinal)
    (h : s.rows.get k = some r) : (Run.exec outboxStep s calls).rows.get k = some r :=
  Run.exec_inv_all (I := fun s : Outbox => s.rows.get k = some r) (fun _ call h => final_step hr h call) h

/-! ## Later runs -/

/-- The call of an active provider. -/
def OutboxCall.isActive : OutboxCall → Bool
  | .deliver run => run.isActive
  | .enqueue .. => false

/-- The runs come when the row is due and select something; rows queued meanwhile are newer. -/
def OutboxCall.After (r : NotificationOutbox) : OutboxCall → Prop
  | .deliver run => 0 < run.limit ∧ r.scheduledAt.all (· ≤ run.now) = true
  | .enqueue _ createdAt _ _ => r.createdAt < createdAt

def OutboxCall.Selects (call : OutboxCall) (r : NotificationOutbox) (s : Outbox) : Prop :=
  match call with
  | .deliver run => r ∈ run.items s.rows
  | .enqueue .. => False

/-- The row is selected by any later calls with enough active runs among them. -/
def Reselected (s : Outbox) (r : NotificationOutbox) : Prop :=
  ∃ n, ∀ later : List OutboxCall, (∀ call ∈ later, call.After r) →
    n ≤ later.countP OutboxCall.isActive →
    ∃ before call after, later = before ++ call :: after ∧
      call.Selects r (Run.exec outboxStep s before)

/-- The attempts that are left to the rows up to the age of `r`. -/
def attemptsLeft (r : NotificationOutbox) (s : Outbox) : Nat :=
  (s.rows.rows.map fun q => if q.createdAt ≤ r.createdAt then maxAttempts - q.attempts else 0).sum

/-- A run that leaves a due row out takes attempts from the older ones. -/
theorem attemptsLeft_deliver {r : NotificationOutbox} :
    attemptsLeft r (deliverQueuedNotifications run s) ≤ attemptsLeft r s ∧
      ((∃ q ∈ run.items s.rows, q.createdAt ≤ r.createdAt) →
        attemptsLeft r (deliverQueuedNotifications run s) < attemptsLeft r s) := by
  have hrows : (deliverQueuedNotifications run s).rows.rows = s.rows.rows.map fun q =>
      if q ∈ run.items s.rows then run.attempted q else q := by
    rw [rows_deliver, Table.rows_modifyAll]
    refine List.map_congr_left fun q hq => ?_
    simp only [id_mem_items hq, decide_eq_true_eq]
  have hle : ∀ q ∈ s.rows.rows,
      (if (if q ∈ run.items s.rows then run.attempted q else q).createdAt ≤ r.createdAt
        then maxAttempts - (if q ∈ run.items s.rows then run.attempted q else q).attempts else 0) ≤
      if q.createdAt ≤ r.createdAt then maxAttempts - q.attempts else 0 := by
    intro q hq
    obtain ⟨hattempts, -, hcreated⟩ := attempted_attempts run q
    by_cases hitem : q ∈ run.items s.rows
    · rw [if_pos hitem, hattempts, hcreated]
      split <;> omega
    · rw [if_neg hitem]
  unfold attemptsLeft
  rw [hrows, List.map_map]
  refine ⟨List.sum_le_sum hle, ?_⟩
  rintro ⟨q, hq, hage⟩
  refine List.sum_lt_sum _ _ hle ⟨q, (mem_items hq).1, ?_⟩
  obtain ⟨hattempts, -, hcreated⟩ := attempted_attempts run q
  have hleft := (due_iff.mp (mem_items hq).2).2.2.1
  simp only [Function.comp_apply]
  rw [if_pos hq, hattempts, hcreated, if_pos hage, if_pos hage]
  omega

/-- A row that is not final is selected again while attempts are left to it. -/
theorem reselected_of_left {r : NotificationOutbox} (hr : r ∈ s.rows) (hemail : r.channel = "email")
    (hopen : ¬ r.isFinal) (hleft : r.attempts < maxAttempts) : Reselected s r := by
  have hstatus : r.status = .queued ∨ r.status = .failed := by
    unfold NotificationOutbox.isFinal at hopen
    cases h : r.status <;> simp_all
  refine ⟨attemptsLeft r s + 1, fun later hlater hcount => ?_⟩
  refine Run.event_of_measure (I := fun s : Outbox => s.rows.get r.id = some r)
    (C := fun call => OutboxCall.After r call) (E := fun s call => OutboxCall.Selects call r s)
    (A := OutboxCall.isActive)
    (fun s call hget hafter => ?_) (Table.get_of_mem hr) hlater hcount
  cases call with
  | deliver run =>
    by_cases hitem : r ∈ run.items s.rows
    · exact .inl hitem
    · refine .inr ⟨by simp only [outboxStep, get_deliver hget, if_neg hitem],
        attemptsLeft_deliver.1, fun hactive => attemptsLeft_deliver.2 ?_⟩
      have hitems : run.items s.rows = dueNotifications run.now run.limit s.rows := if_pos hactive
      rw [hitems] at hitem ⊢
      exact exists_older (Table.mem_of_get hget)
        (due_iff.mpr ⟨hemail, hstatus, hleft, hafter.2⟩) hafter.1 hitem
  | enqueue now createdAt tenantId payload =>
    rcases enqueue_cases s now createdAt tenantId payload with hsame | ⟨mk, hk, hmk, hnew⟩
    · rw [hsame]
      exact .inr ⟨hget, le_rfl, nofun⟩
    · rw [hnew]
      refine .inr ⟨Table.get_insert_of_get _ mk hk hget, ?_, nofun⟩
      have hage : ¬ (mk s.rows.freshKey).createdAt ≤ r.createdAt := by
        rw [(hmk _).2.2.2]
        exact not_le.mpr hafter
      simp only [attemptsLeft, Table.rows_insert, List.map_append, List.map_cons, List.map_nil,
        List.sum_append, List.sum_cons, List.sum_nil, if_neg hage, Nat.add_zero, le_refl]

/-- The `k`-th retry comes after the `k`-th delay of the schedule. -/
def OnSchedule (attempts : List Attempt) : Prop :=
  ∀ before e after, attempts = before ++ e :: after → ∀ retryAt, e.retryAt = some retryAt →
    retryDelays[before.countP (·.id = e.id)]? = some (retryAt - e.doneAt)

/-- What the job is to do of the e-mails, over a run of calls. -/
structure Protocol (s : Outbox) (calls : List OutboxCall) : Prop where
  bounded : ∀ id, (Run.exec outboxStep s calls).attempts.countP (·.id = id) ≤ maxAttempts
  final : ∀ before after, calls = before ++ after → ∀ k r,
    (Run.exec outboxStep s before).rows.get k = some r → r.isFinal →
    (Run.exec outboxStep s calls).rows.get k = some r
  reselected : ∀ r ∈ (Run.exec outboxStep s calls).rows, ¬ r.isFinal →
    Reselected (Run.exec outboxStep s calls) r
  schedule : OnSchedule (Run.exec outboxStep s calls).attempts

/-- A run sends each row that it selects to a mail server that takes it. -/
def OutboxCall.Clean (s : Outbox) : OutboxCall → Prop
  | .deliver run => ∀ item ∈ run.items s.rows,
      run.provider = "smtp" ∧ (run.sending item).error = none
  | .enqueue .. => True

instance (s : Outbox) : (call : OutboxCall) → Decidable (call.Clean s)
  | .deliver run => inferInstanceAs (Decidable (∀ item ∈ run.items s.rows,
      run.provider = "smtp" ∧ (run.sending item).error = none))
  | .enqueue .. => .isTrue trivial

theorem lastError_attempted (run : DeliveryRun) (item : NotificationOutbox) :
    (run.attempted item).lastError = none ↔
      run.provider = "smtp" ∧ (run.sending item).error = none := by
  unfold DeliveryRun.attempted attempted
  split
  · next hprovider => simp [hprovider]
  · next hprovider =>
    rw [not_not] at hprovider
    cases (run.sending item).error with
    | none => exact ⟨fun _ => ⟨hprovider, rfl⟩, fun _ => rfl⟩
    | some error =>
      simp only
      split <;> simp

theorem noError_step (call : OutboxCall) :
    (∀ e ∈ (outboxStep s call).attempts, e.error = none) ↔
      (∀ e ∈ s.attempts, e.error = none) ∧ call.Clean s := by
  cases call with
  | deliver run =>
    simp only [outboxStep, deliverQueuedNotifications, List.forall_mem_append, List.forall_mem_map,
      attemptOf, lastError_attempted, OutboxCall.Clean]
  | enqueue now createdAt tenantId payload =>
    rcases enqueue_cases s now createdAt tenantId payload with hsame | ⟨mk, hk, -, hnew⟩
    · rw [hsame, OutboxCall.Clean, and_true]
    · rw [hnew, OutboxCall.Clean, and_true]

/-- No attempt of the run has failed exactly where all its calls were clean. -/
theorem noError_run {calls : List OutboxCall} : ∀ {s : Outbox},
    (∀ e ∈ (Run.exec outboxStep s calls).attempts, e.error = none) ↔
      (∀ e ∈ s.attempts, e.error = none) ∧
        Run.Along outboxStep (fun s call => call.Clean s) s calls := by
  induction calls with
  | nil => exact ⟨fun h => ⟨h, trivial⟩, And.left⟩
  | cons call calls ih =>
    intro s
    rw [Run.exec_cons, ih, noError_step, and_assoc]
    rfl

/-- The protocol is kept exactly where every row that a run selects is taken by the mail server. -/
theorem outbox_protocol {calls : List OutboxCall} (h : Fresh s) :
    Protocol s calls ↔ Run.Along outboxStep (fun s call => call.Clean s) s calls := by
  have hinv : Inv (Run.exec outboxStep s calls) := h.exec
  have hnoError : (∀ e ∈ (Run.exec outboxStep s calls).attempts, e.error = none) ↔
      Run.Along outboxStep (fun s call => call.Clean s) s calls := by
    rw [noError_run, h.attempts]
    exact and_iff_right (fun e he => nomatch he)
  rw [← hnoError]
  constructor
  · intro hprotocol e he
    by_contra herror
    obtain ⟨before, first, after, hsplit, hid, hnone, -, hretry⟩ := hinv.late e he herror
    have hdelay := hprotocol.schedule before first after hsplit _ hretry
    rw [hid, hnone] at hdelay
    have hminute : (60 : Int) = first.doneAt + 300 - first.doneAt := Option.some.inj hdelay
    omega
  · intro hclean
    refine ⟨attempts_bounded h, ?_, fun r hr hopen => ?_, ?_⟩
    · rintro before after rfl k r hget hfinal
      rw [Run.exec_append]
      exact final_stays hfinal hget
    · refine reselected_of_left hr (hinv.email r hr) hopen ?_
      have hqueued : r.status = .queued := by
        cases hstatus : r.status with
        | queued => rfl
        | sent => exact absurd (.inl hstatus) hopen
        | deadLetter => exact absurd (.inr hstatus) hopen
        | failed =>
          obtain ⟨before, e, after, hsplit, -, -, herror, -⟩ := hinv.failed r hr hstatus
          have he : e ∈ (Run.exec outboxStep s calls).attempts := by
            rw [hsplit]
            exact List.mem_append_right _ List.mem_cons_self
          exact absurd (hclean e he) herror
      rw [hinv.queued r hr hqueued]
      decide
    · intro before e after hsplit retryAt hretry
      have he : e ∈ (Run.exec outboxStep s calls).attempts := by
        rw [hsplit]
        exact List.mem_append_right _ List.mem_cons_self
      rw [hinv.sent e he (hclean e he)] at hretry
      cases hretry

end

/-! ## Failures -/

/-- One e-mail in the outbox. -/
def welcome : Outbox where
  rows := .single
    { id := 1, tenantId := 9, requestReference := "R-1", scheduledAt := some 0, createdAt := 0
      email := { recipient := "ana@example.org", subject := "Welcome", bodyText := "Hello" } }

/-- A run at some time, which is sent or answered with an exception at once. -/
def runAt (emailProvider : String) (now : Instant) (error : Option String) : OutboxCall :=
  .deliver { emailProvider, now, sending := fun _ => { doneAt := now, error } }

theorem fresh_welcome : Fresh welcome where
  attempts := rfl
  rows r hr := by
    cases List.mem_singleton.mp hr
    exact ⟨rfl, rfl, rfl⟩

theorem outbox_protocol_welcome :
    letI := Locale.chars
    Protocol welcome [runAt "SMTP" 10 none] := by
  let _ := Locale.chars
  refine (outbox_protocol fresh_welcome).mpr ?_
  decide

/-- After five runs with a provider that the job does not know, the row is failed for ever; and its
first retry was five minutes off. -/
theorem unsupported_provider :
    letI := Locale.chars
    let calls := [0, 300, 1200, 4800, 12000].map fun now => runAt "sendgrid" now none
    ∃ r, (Run.exec outboxStep welcome calls).rows.get 1 = some r ∧ r.status = .failed ∧
      (∀ run : DeliveryRun, r ∉ run.items (Run.exec outboxStep welcome calls).rows) ∧
      ¬ Protocol welcome calls := by
  let _ := Locale.chars
  refine ⟨_, rfl, rfl, fun run hitem => ?_, fun hprotocol => ?_⟩
  · exact absurd (due_iff.mp (mem_items hitem).2).2.2.1 (by decide)
  · exact absurd ((outbox_protocol fresh_welcome).mp hprotocol) (by decide)

end Notifications
end Rotas
