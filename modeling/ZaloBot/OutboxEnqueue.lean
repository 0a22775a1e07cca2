import ZaloBot.ReceiptFollowups
import ZaloBot.SessionSolo

/-!
# Enqueueing a message again

A second call of `enqueue_outbound_in_transaction` with an idempotency key that
has its row charges the quota and decides on the delivery before it finds the
row, and enqueues the delivery job by its own decision.
-/

namespace ZaloBot

open Sessions

namespace Outbox

open Followups Receipts

/-- The rows that a call may change. -/
def isOutboxRow : BotKey → Bool
  | .outbound _ => true
  | .job _ => true
  | .usageCounter _ _ _ _ => true
  | _ => false

/-- The arguments of a call. -/
structure EnqueueCall where
  environment : OutboundEnvironment
  failed : ReceiptFailure
  accountId : Option Uuid
  providerScope : String
  providerTarget : String
  body : String
  idempotencyKey : String

namespace EnqueueCall

variable (call : EnqueueCall)

/-- `enqueue_outbound_in_transaction` with these arguments. -/
def statement {Event : Type} : Statement Event Unit :=
  enqueueOutboundInTransaction call.environment call.failed call.accountId
    call.providerScope call.providerTarget call.body call.idempotencyKey

/-- The database after the transaction of a call. -/
def exec (store : BotStore) : BotStore :=
  (call.statement : Statement Unit Unit).afterTransaction store

/-- The counter of the messages of an account. -/
def counterKey (accountId : Uuid) : BotKey :=
  .usageCounter UsageQuota.scopeAccount accountId.text call.environment.period
    UsageQuota.metricZaloMessages

/-- The counter after the charge of a call. -/
def charged (store : BotStore) (accountId : Uuid) : UsageCounterRow :=
  ⟨((store (call.counterKey accountId)).map UsageCounterRow.count).getD 0 + 1,
    UsageQuota.storedLimit call.environment.zaloMonthlyMessages⟩

/-- Whether an enabled call wants the message to be delivered. -/
def delivers (store : BotStore) : Bool :=
  match call.accountId with
  | some accountId => !(call.charged store accountId).exceeded
  | none => true

/-- The rows after the charge of an enabled call. -/
def chargedStore (store : BotStore) : BotStore :=
  match call.accountId with
  | some accountId => Function.update store (call.counterKey accountId)
      (some (call.charged store accountId))
  | none => store

/-- The request for the delivery job of a stored message. -/
def request (row : OutboundRow) : EnqueueRequest :=
  deliverRequest call.environment call.accountId call.providerScope
    call.providerTarget call.idempotencyKey row.id

/-- The key of the delivery job. -/
def jobKey : BotKey :=
  .job ("outbound.deliver:" ++ call.idempotencyKey)

/-- The delivery job of a stored message is rejected. -/
def jobIsRejected (row : OutboundRow) : Prop :=
  ∃ error, WorkStore.validateEnqueueRequest (call.request row) = .error error

/-- When a call leaves everything as it was, in terms of its arguments and the
rows it finds. -/
def IsHarmless (store : BotStore) (row : OutboundRow) : Prop :=
  call.environment.outboundEnabled = false ∨ isBody call.body = false ∨
    (call.accountId = none ∧ (store call.jobKey).isSome) ∨
    (call.jobIsRejected row ∧ ∀ accountId ∈ call.accountId,
      (call.charged store accountId).exceeded = false)

section Effects

variable {call} {store : BotStore} {row : OutboundRow}

/-- What a call decides about the delivery. -/
theorem applied_deliveryAllowed {Event : Type}
    (enabled : call.environment.outboundEnabled = true) :
    (outboundDeliveryAllowed call.environment call.failed call.accountId :
      Statement Event Bool).applied store =
      .ok (call.delivers store, call.chargedStore store) := by
  unfold outboundDeliveryAllowed delivers chargedStore
  rw [if_pos enabled]
  cases call.accountId with
  | some accountId => rfl
  | none => rfl

/-- The charge is of no other row. -/
theorem chargedStore_apply {key : BotKey}
    (other : ∀ accountId, key ≠ call.counterKey accountId) :
    call.chargedStore store key = store key := by
  unfold chargedStore
  cases call.accountId with
  | some accountId => exact Function.update_of_ne (other accountId) _ _
  | none => rfl

/-- The delivery job of a message is enqueued once. -/
theorem applied_enqueueInTransaction {Event : Type} {now : Timestamp}
    {request : EnqueueRequest} :
    (enqueueInTransaction now request : Statement Event _).applied store =
      match WorkStore.validateEnqueueRequest request,
        store (.job request.dedupeKey) with
      | .error error, _ => .error (.refused error)
      | .ok _, some _ => .ok (.duplicate, store)
      | .ok version, none => .ok (.enqueued, Function.update store
          (.job request.dedupeKey)
          (some (WorkStore.queuedRow now version request))) := by
  unfold enqueueInTransaction
  cases WorkStore.validateEnqueueRequest request with
  | error error => rfl
  | ok version =>
      dsimp only
      rw [Session.applied_bind]
      cases found : store (.job request.dedupeKey) with
      | some old =>
          rw [Session.applied_insertRow_taken found]
          rfl
      | none =>
          rw [Session.applied_insertRow_free found]
          rfl

/-- What is done for a stored message. -/
theorem applied_decided {Event : Type} {deliver : Bool}
    (present : store (.outbound call.idempotencyKey) = some row)
    (valid : isBody call.body = true) :
    (enqueueDecided call.environment call.failed call.accountId
      call.providerScope call.providerTarget call.body call.idempotencyKey
      deliver : Statement Event Unit).applied store =
      if deliver then
        ((enqueueInTransaction call.environment.now (call.request row) :
          Statement Event _).applied store).map fun (_, after) => ((), after)
      else
        .ok ((), store) := by
  unfold enqueueDecided
  rw [if_pos valid, Session.applied_bind,
    Session.applied_insertRow_taken present]
  simp only [Except.bind]
  rw [Session.applied_bind, Session.applied_query]
  simp only [Except.bind, present, Option.map_some]
  cases deliver with
  | false => rfl
  | true =>
      simp only [if_true]
      rw [Session.applied_bind]
      change _ = Except.map _ ((enqueueInTransaction call.environment.now
        (deliverRequest call.environment call.accountId call.providerScope
          call.providerTarget call.idempotencyKey row.id) :
        Statement Event _).applied store)
      cases (enqueueInTransaction call.environment.now (deliverRequest
        call.environment call.accountId call.providerScope
        call.providerTarget call.idempotencyKey row.id) :
        Statement Event _).applied store <;> rfl

/-- A call that wants no delivery charges nothing. -/
theorem exec_disabled (disabled : call.environment.outboundEnabled = false)
    (present : store (.outbound call.idempotencyKey) = some row) :
    call.exec store = store := by
  have undecided : (outboundDeliveryAllowed call.environment call.failed
      call.accountId : Statement Unit Bool).applied store =
      .ok (false, store) := by
    unfold outboundDeliveryAllowed
    rw [disabled]
    rfl
  unfold exec Session.afterTransaction statement enqueueOutboundInTransaction
  rw [Session.applied_bind, undecided]
  by_cases valid : isBody call.body = true
  · simp [Except.bind, applied_decided present valid]
  · simp [Except.bind, enqueueDecided, valid, Session.applied]

/-- A body that the table refuses rolls the call back. -/
theorem exec_invalid (invalid : isBody call.body = false) :
    call.exec store = store := by
  unfold exec Session.afterTransaction statement enqueueOutboundInTransaction
  rw [Session.applied_bind]
  unfold enqueueDecided
  simp only [invalid, Bool.false_eq_true, if_false, Session.applied]
  cases (outboundDeliveryAllowed call.environment call.failed call.accountId :
    Statement Unit Bool).applied store <;> rfl

/-- An enabled call for a stored message. -/
theorem exec_enabled
    (enabled : call.environment.outboundEnabled = true)
    (valid : isBody call.body = true)
    (present : store (.outbound call.idempotencyKey) = some row) :
    call.exec store =
      if call.delivers store then
        match WorkStore.validateEnqueueRequest (call.request row),
          store call.jobKey with
        | .error _, _ => store
        | .ok _, some _ => call.chargedStore store
        | .ok version, none => Function.update (call.chargedStore store)
            call.jobKey (some (WorkStore.queuedRow call.environment.now
              version (call.request row)))
      else
        call.chargedStore store := by
  have stillPresent : call.chargedStore store (.outbound call.idempotencyKey) =
      some row := by
    rw [chargedStore_apply (by simp [counterKey]), present]
  have sameJob : call.chargedStore store
      (.job (call.request row).dedupeKey) = store call.jobKey :=
    chargedStore_apply (by simp [counterKey])
  unfold exec Session.afterTransaction statement enqueueOutboundInTransaction
  rw [Session.applied_bind, applied_deliveryAllowed enabled]
  simp only [Except.bind]
  rw [applied_decided stillPresent valid]
  cases call.delivers store with
  | false => rfl
  | true =>
      simp only [if_true]
      rw [applied_enqueueInTransaction, sameJob]
      cases WorkStore.validateEnqueueRequest (call.request row) with
      | error error => rfl
      | ok version => cases store call.jobKey <;> rfl

/-- A charge shows. -/
theorem chargedStore_counter {accountId : Uuid}
    (owner : call.accountId = some accountId) :
    call.chargedStore store (call.counterKey accountId) ≠
      store (call.counterKey accountId) := by
  unfold chargedStore
  rw [owner]
  dsimp only
  rw [Function.update_self]
  intro same
  have counted : (call.charged store accountId).count =
      ((store (call.counterKey accountId)).map UsageCounterRow.count).getD 0 +
        1 := rfl
  rw [← same] at counted
  change (call.charged store accountId).count =
    (call.charged store accountId).count + 1 at counted
  omega

/-- A rejected delivery job rolls the call back. -/
theorem exec_rejected (rejected : call.jobIsRejected row)
    (within : ∀ accountId ∈ call.accountId,
      (call.charged store accountId).exceeded = false)
    (enabled : call.environment.outboundEnabled = true)
    (valid : isBody call.body = true)
    (present : store (.outbound call.idempotencyKey) = some row) :
    call.exec store = store := by
  have delivering : call.delivers store = true := by
    unfold delivers
    cases owner : call.accountId with
    | some accountId => simp [within accountId owner]
    | none => rfl
  obtain ⟨error, refused⟩ := rejected
  rw [exec_enabled enabled valid present, delivering, if_pos rfl, refused]

/-- A message of an account is charged unless the call is rolled back. -/
theorem charges_again {accountId : Uuid}
    (owner : call.accountId = some accountId)
    (harmful : ¬ call.IsHarmless store row)
    (present : store (.outbound call.idempotencyKey) = some row) :
    call.exec store (call.counterKey accountId) ≠
      store (call.counterKey accountId) := by
  simp only [IsHarmless, not_or] at harmful
  obtain ⟨enabled, valid, -, accepted⟩ := harmful
  rw [exec_enabled (by simpa using enabled) (by simpa using valid) present]
  split
  · rename_i delivering
    have within : ∀ other ∈ call.accountId,
        (call.charged store other).exceeded = false := by
      rw [owner]
      rintro other ⟨⟩
      simpa [delivers, owner] using delivering
    split
    · rename_i error refused
      exact absurd ⟨⟨error, refused⟩, within⟩ accepted
    · exact chargedStore_counter owner
    · rw [Function.update_of_ne (by simp [counterKey, jobKey])]
      exact chargedStore_counter owner
  · exact chargedStore_counter owner

/-- A message without an account is given its delivery job. -/
theorem enqueues_again (anonymous : call.accountId = none)
    (harmful : ¬ call.IsHarmless store row)
    (present : store (.outbound call.idempotencyKey) = some row) :
    call.exec store call.jobKey ≠ store call.jobKey := by
  simp only [IsHarmless, not_or] at harmful
  obtain ⟨enabled, valid, missing, accepted⟩ := harmful
  have absent : store call.jobKey = none := by
    simpa [anonymous] using missing
  rw [exec_enabled (by simpa using enabled) (by simpa using valid) present,
    absent, if_pos (by simp [delivers, anonymous])]
  cases validated : WorkStore.validateEnqueueRequest (call.request row) with
  | error error =>
      exact absurd ⟨⟨error, validated⟩, by simp [anonymous]⟩ accepted
  | ok version =>
      dsimp only
      rw [Function.update_self]
      exact Option.some_ne_none _

end Effects

/-- A call for a key that has its row leaves the outbound rows, the jobs and
the usage counters as they were exactly when it is harmless. -/
theorem second_enqueue_is_idempotent (store : BotStore) (row : OutboundRow)
    (present : store (.outbound call.idempotencyKey) = some row) :
    (∀ key, isOutboxRow key = true → call.exec store key = store key) ↔
      call.IsHarmless store row := by
  constructor
  · intro unchanged
    by_contra harmful
    cases owner : call.accountId with
    | some accountId =>
        exact charges_again owner harmful present (unchanged _ rfl)
    | none => exact enqueues_again owner harmful present (unchanged _ rfl)
  · intro harmless key _
    by_cases enabled : call.environment.outboundEnabled = true
    · by_cases valid : isBody call.body = true
      · rcases harmless with disabled | invalid | ⟨anonymous, enqueued⟩ |
          ⟨rejected, within⟩
        · simp [disabled] at enabled
        · simp [invalid] at valid
        · obtain ⟨job, found⟩ := Option.isSome_iff_exists.mp enqueued
          have uncharged : call.chargedStore store = store := by
            simp [chargedStore, anonymous]
          rw [exec_enabled enabled valid present, uncharged, found]
          cases call.delivers store with
          | false => rfl
          | true =>
              simp only [if_true]
              cases WorkStore.validateEnqueueRequest (call.request row) <;> rfl
        · rw [exec_rejected rejected within enabled valid present]
      · rw [exec_invalid (by simpa using valid)]
    · rw [exec_disabled (by simpa using enabled) present]

/-- A summary of `schedule.emit` for an account, queued at a moment. -/
def aSummary (now : Timestamp) (outboundEnabled : Bool) (text : String) :
    EnqueueCall where
  environment := ⟨now, outboundEnabled, 200, "1970-01", ⟨text⟩, ⟨text⟩⟩
  failed := .dependency "invalid transition"
  accountId := some ⟨"account"⟩
  providerScope := "zalo"
  providerTarget := "chat"
  body := "summary"
  idempotencyKey := "scheduled-summary:account:daily"

/-- A database with the account. -/
def oneAccount : BotStore :=
  Function.update BotStore.initial (.account ⟨"account"⟩)
    (some ⟨.active, some "v1", some 0, "vi", "Asia/Ho_Chi_Minh", 90, "VND"⟩)

/-- After a first summary a second one, with delivery switched off, does
nothing. -/
theorem second_enqueue_is_idempotent_disabled :
    ∃ row, (aSummary 0 true "first").exec oneAccount
        (.outbound "scheduled-summary:account:daily") = some row ∧
      ∀ key, isOutboxRow key = true →
        (aSummary 1 false "second").exec
            ((aSummary 0 true "first").exec oneAccount) key =
          (aSummary 0 true "first").exec oneAccount key :=
  ⟨_, rfl, (second_enqueue_is_idempotent (aSummary 1 false "second") _ _
    rfl).mpr (Or.inl rfl)⟩

/-- A summary that is queued twice is charged twice, and one that was
suppressed is given a delivery job. -/
theorem second_enqueue_charges_again :
    (∃ row, (aSummary 0 true "first").exec oneAccount
        (.outbound "scheduled-summary:account:daily") = some row ∧
      ¬ ∀ key, isOutboxRow key = true →
        (aSummary 1 true "second").exec
            ((aSummary 0 true "first").exec oneAccount) key =
          (aSummary 0 true "first").exec oneAccount key) ∧
    (aSummary 0 true "first").exec oneAccount
        ((aSummary 0 true "first").counterKey ⟨"account"⟩) =
      some (⟨1, 200⟩ : UsageCounterRow) ∧
    (aSummary 1 true "second").exec
        ((aSummary 0 true "first").exec oneAccount)
        ((aSummary 0 true "first").counterKey ⟨"account"⟩) =
      some (⟨2, 200⟩ : UsageCounterRow) ∧
    ((aSummary 0 false "first").exec oneAccount
      (.outbound "scheduled-summary:account:daily")).map OutboundRow.state =
      some .suppressed ∧
    ((aSummary 1 true "second").exec
        ((aSummary 0 false "first").exec oneAccount)
        (.job "outbound.deliver:scheduled-summary:account:daily")).isSome := by
  have first : (aSummary 0 true "first").exec oneAccount
      ((aSummary 0 true "first").counterKey ⟨"account"⟩) =
        some (⟨1, 200⟩ : UsageCounterRow) := rfl
  have second : (aSummary 1 true "second").exec
      ((aSummary 0 true "first").exec oneAccount)
      ((aSummary 0 true "first").counterKey ⟨"account"⟩) =
        some (⟨2, 200⟩ : UsageCounterRow) := rfl
  refine ⟨⟨_, rfl, fun unchanged => ?_⟩, first, second, rfl, rfl⟩
  have same := unchanged
    ((aSummary 0 true "first").counterKey ⟨"account"⟩) rfl
  rw [first, second] at same
  change some (⟨2, 200⟩ : UsageCounterRow) = some ⟨1, 200⟩ at same
  exact absurd same (by decide)

end EnqueueCall

end Outbox

end ZaloBot
