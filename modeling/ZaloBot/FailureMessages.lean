import ZaloBot.OutboxEnqueue
import ZaloBot.RetentionPasses
import ZaloBot.SoloAttempts

/-!
# Failure messages that are sent

A message that runs alone and is wanted ends up queued with its delivery job.
The failure message of a receipt is such a message, as soon as its submission
leads to an inbound event and an account.
-/

namespace ZaloBot

open Sessions

namespace Followups

open Receipts Retention Outbox

/-- A text that is on its way to a chat. -/
structure IsSent (idempotencyKey target body : String) (store : BotStore) :
    Prop where
  message : ∃ row, store (.outbound idempotencyKey) = some row ∧
    row.providerTarget = target ∧ row.body = body ∧ row.state = .queued
  delivery : (store (.job ("outbound.deliver:" ++ idempotencyKey))).isSome

/-- The text of a UUID has 36 characters. -/
def IsCanonical (id : Uuid) : Prop :=
  id.text.toList.length = 36

theorem isCanonical_ofList {chars : List Char} (length : chars.length = 36) :
    IsCanonical ⟨String.ofList chars⟩ := by
  rw [IsCanonical, String.toList_ofList, length]

/-- The message that a call inserts when it is wanted. -/
def wantedMessage (call : EnqueueCall) : OutboundRow where
  id := call.environment.outboundId
  accountId := call.accountId
  idempotencyKey := call.idempotencyKey
  providerScope := call.providerScope
  providerTarget := call.providerTarget
  body := call.body
  state := .queued
  providerMessageId := none
  attemptCount := 0
  lastErrorClass := none
  ambiguityReason := none
  createdAt := call.environment.now
  updatedAt := call.environment.now

section Calls

variable {Event : Type} {call : EnqueueCall} {store : BotStore}
variable {own : Overlay BotRow}

/-- The charge of a message and what it decides. -/
theorem executes_deliveryAllowed
    (enabled : call.environment.outboundEnabled = true) :
    ∃ last, Executes isObject (outboundDeliveryAllowed call.environment
        call.failed call.accountId : Statement Event Bool) Overlay.none store
        (call.delivers store) last store ∧
      last.view store = call.chargedStore store := by
  unfold outboundDeliveryAllowed EnqueueCall.delivers EnqueueCall.chargedStore
  rw [if_pos enabled]
  cases call.accountId with
  | none => exact ⟨Overlay.none, executes_pure, rfl⟩
  | some accountId =>
      refine ⟨Overlay.none.set (call.counterKey accountId)
        (some (call.charged store accountId)), ?_, Overlay.set_view ..⟩
      refine .bind ?_ executes_pure
      rintro database rfl alone
      unfold UsageQuota.incrementInTransaction endsAlone
      simp only [if_true]
      exact ⟨alone.lockable, writable_lock, rfl, rfl, rfl,
        alone.lock (by rintro ⟨_, ⟨⟩⟩)⟩

/-- A job that is enqueued is there. -/
theorem executes_enqueueInTransaction {now : Timestamp}
    {request : EnqueueRequest} {version : Int}
    (accepted : WorkStore.validateEnqueueRequest request = .ok version) :
    ∃ outcome last, Executes isObject (enqueueInTransaction now request :
        Statement Event EnqueueOutcome) own store outcome last store ∧
      (last.view store (.job request.dedupeKey)).isSome ∧
      ∀ key, key ≠ .job request.dedupeKey →
        last.view store key = own.view store key := by
  unfold enqueueInTransaction
  rw [accepted]
  cases found : own.view store (.job request.dedupeKey) with
  | some job =>
      exact ⟨.duplicate, own, .bind (executes_insertRow_taken found)
        executes_pure, by rw [found]; rfl, fun _ _ => rfl⟩
  | none =>
      refine ⟨.enqueued, own.set (.job request.dedupeKey)
        (some (WorkStore.queuedRow now version request)),
        .bind (executes_insertRow_free nofun found) executes_pure, ?_,
        fun key different => Overlay.set_view_other different⟩
      rw [Overlay.set_view_self]
      rfl

/-- A new message that is wanted is sent. -/
theorem executes_statement {version : Int}
    (enabled : call.environment.outboundEnabled = true)
    (wanted : call.delivers store = true)
    (valid : isBody call.body = true)
    (absent : store (.outbound call.idempotencyKey) = none)
    (accepted : WorkStore.validateEnqueueRequest
      (call.request (wantedMessage call)) = .ok version) :
    ∃ last, Executes isObject (call.statement : Statement Event Unit)
        Overlay.none store () last store ∧
      IsSent call.idempotencyKey call.providerTarget call.body
        (last.view store) := by
  have allows : ∃ last, Executes isObject (outboundDeliveryAllowed
      call.environment call.failed call.accountId : Statement Event Bool)
      Overlay.none store (call.delivers store) last store ∧
        last.view store = call.chargedStore store :=
    executes_deliveryAllowed enabled
  obtain ⟨charged, charges, viewed⟩ := allows
  rw [wanted] at charges
  have free : charged.view store (.outbound call.idempotencyKey) = none := by
    rw [viewed, EnqueueCall.chargedStore_apply
      (by simp [EnqueueCall.counterKey])]
    exact absent
  have enqueues : ∃ outcome last, Executes isObject
      (enqueueInTransaction call.environment.now
        (call.request (wantedMessage call)) : Statement Event EnqueueOutcome)
      (charged.set (.outbound call.idempotencyKey)
        (some (wantedMessage call))) store outcome last store ∧
      (last.view store (.job (call.request
        (wantedMessage call)).dedupeKey)).isSome ∧
      ∀ key, key ≠ .job (call.request (wantedMessage call)).dedupeKey →
        last.view store key = (charged.set (.outbound call.idempotencyKey)
          (some (wantedMessage call))).view store key :=
    executes_enqueueInTransaction accepted
  obtain ⟨outcome, last, queues, delivery, others⟩ := enqueues
  refine ⟨last, .bind charges ?_, ⟨wantedMessage call, ?_, rfl, rfl, rfl⟩,
    delivery⟩
  · unfold enqueueDecided
    rw [if_pos valid]
    refine .bind (executes_insertRow_free (by rintro ⟨_, ⟨⟩⟩) free) ?_
    refine .bind executes_query ?_
    rw [Overlay.set_view_self]
    exact .bind queues executes_pure
  · rw [others (.outbound call.idempotencyKey) (by simp),
      Overlay.set_view_self]

end Calls

/-- The call that queues the failure message of a submission. -/
def failureCall (environment : FollowupEnvironment)
    (accountId submissionId : Uuid) (inbound : InboundEventRow)
    (body : String) : EnqueueCall where
  environment := environment.outbound
  failed := .dependency "outbound enqueue failed"
  accountId := some accountId
  providerScope := environment.eventKey.1
  providerTarget := inbound.providerChatId
  body := body
  idempotencyKey := failureIdempotencyKey submissionId

/-- A store from which a failure of a submission can be told: its inbound event
and its account are there, messages are switched on and within their quota, and
the failure has not been told yet. -/
structure CanBeTold (environment : FollowupEnvironment)
    (accountId submissionId : Uuid) (inbound : InboundEventRow)
    (account : AccountRow) (store : BotStore) : Prop where
  submission : ∃ row, store (.submission submissionId) = some row ∧
    row.accountId = accountId ∧ row.inboundEventId = some inbound.id
  event : store (.inboundEvent environment.eventKey.1
    environment.eventKey.2) = some inbound
  account : store (.account accountId) = some account
  untold : store (.outbound (failureIdempotencyKey submissionId)) = none
  enabled : environment.outbound.outboundEnabled = true
  within : ∀ body, ((failureCall environment accountId submissionId inbound
    body).charged store accountId).exceeded = false
  canonical : IsCanonical accountId ∧ IsCanonical submissionId

section Failures

variable {Event : Type} {environment : FollowupEnvironment}
variable {accountId submissionId : Uuid} {inbound : InboundEventRow}
variable {account : AccountRow} {store : BotStore} {errorClass : ErrorClass}

/-- A text with a visible beginning and a short rest has a valid length. -/
theorem hasInvalidLength_append {limit : Nat} {front : List Char}
    {back : String} (visible : front.all RustText.isWhitespace = false)
    (short : front.length + back.toList.length ≤ limit) :
    WorkStore.hasInvalidLength limit (String.ofList front ++ back) = false := by
  rw [WorkStore.hasInvalidLength, RustText.isBlank, RustText.charCount,
    String.toList_append, String.toList_ofList, List.all_append, visible,
    Bool.false_and, Bool.false_or, List.length_append,
    decide_eq_false_iff_not]
  omega

theorem validateEnqueueRequest_eq_ok {request : EnqueueRequest}
    {version : Int}
    (payload : WorkStore.payloadVersion request.payload = .ok version)
    (attempts : 0 < request.maxAttempts)
    (jobType : WorkStore.hasInvalidLength 128 request.jobType = false)
    (dedupeKey : WorkStore.hasInvalidLength 512 request.dedupeKey = false)
    (serializationKey : request.serializationKey.any
      (WorkStore.hasInvalidLength 512) = false) :
    WorkStore.validateEnqueueRequest request = .ok version := by
  rw [WorkStore.validateEnqueueRequest, payload]
  dsimp only
  rw [if_neg (not_le.mpr attempts), jobType, dedupeKey, serializationKey]
  rfl

theorem length_failureIdempotencyKey
    (canonical : IsCanonical submissionId) :
    (failureIdempotencyKey submissionId).toList.length = 52 := by
  have appended (front : List Char) (length : front.length = 16) :
      (String.ofList front ++ submissionId.text).toList.length = 52 := by
    rw [String.toList_append, String.toList_ofList, List.length_append, length,
      canonical]
  exact appended _ rfl

/-- The delivery job of a failure message is accepted. -/
theorem accepts_failureRequest {body : String}
    (canonical : IsCanonical accountId ∧ IsCanonical submissionId) :
    WorkStore.validateEnqueueRequest ((failureCall environment accountId
      submissionId inbound body).request (wantedMessage (failureCall
        environment accountId submissionId inbound body))) = .ok 1 := by
  have dedupeKey : WorkStore.hasInvalidLength 512
      ("outbound.deliver:" ++ failureIdempotencyKey submissionId) = false :=
    hasInvalidLength_append (by decide)
      (by rw [length_failureIdempotencyKey canonical.2]; decide)
  have serializationKey : WorkStore.hasInvalidLength 512
      (accountSerializationKey accountId) = false :=
    hasInvalidLength_append (by decide) (by rw [canonical.1]; decide)
  have jobType : WorkStore.hasInvalidLength 128 "outbound.deliver" = false := by
    decide
  have attempts : (0 : Int) < 10 := by decide
  exact validateEnqueueRequest_eq_ok rfl attempts jobType dedupeKey
    serializationKey

/-- A failure that can be told is told. -/
theorem executes_failureFollowup {event : Event}
    (told : CanBeTold environment accountId submissionId inbound account
      store)
    (valid : isBody (environment.failureBody account errorClass) = true) :
    ∃ after, Executes isObject (enqueueReceiptFailureFollowup event
        environment accountId submissionId errorClass) Overlay.none store ()
        Overlay.none after ∧
      IsSent (failureIdempotencyKey submissionId) inbound.providerChatId
        (environment.failureBody account errorClass) after := by
  obtain ⟨row, present, owner, ofEvent⟩ := told.submission
  have routes : Executes isObject (loadRouting environment accountId
      submissionId : Statement Event (InboundEventRow × AccountRow))
      Overlay.none store (inbound, account) Overlay.none store := by
    refine .bind executes_query ?_
    simp only [Overlay.none_view, present, told.event, told.account, owner,
      ofEvent, Option.bind_eq_bind, Option.bind_some, and_self, if_true]
    exact executes_pure
  have wanted : (failureCall environment accountId submissionId inbound
      (environment.failureBody account errorClass)).delivers store = true := by
    rw [EnqueueCall.delivers]
    change (!_) = true
    rw [told.within, Bool.not_false]
  have sends : ∃ last, Executes isObject ((failureCall environment accountId
      submissionId inbound (environment.failureBody account
        errorClass)).statement : Statement Event Unit) Overlay.none store ()
        last store ∧
      IsSent (failureIdempotencyKey submissionId) inbound.providerChatId
        (environment.failureBody account errorClass) (last.view store) :=
    executes_statement told.enabled wanted valid told.untold
      (accepts_failureRequest told.canonical)
  obtain ⟨last, statement, sent⟩ := sends
  refine ⟨last.view store, .bind executes_query ?_, sent⟩
  rw [Overlay.none_view, told.untold]
  exact .bind routes (.bind statement executes_commitTransaction)

end Failures

end Followups

end ZaloBot
