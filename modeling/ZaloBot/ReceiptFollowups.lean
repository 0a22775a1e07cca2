import ZaloBot.ReceiptStatements
import ZaloBot.SessionFootprints
import ZaloBot.UsageQuota

/-!
# Outbound messages and the follow-ups of receipts

The statement that queues an outbound message with its delivery job, and the
two transactions that tell the user how a receipt has ended: the review card
with its pending action, and the failure message.  Texts, clock readings, drawn
UUIDs and the key of the inbound event that a join finds are part of the
environment of a call.
-/

namespace ZaloBot

open Sessions

/-- What the environment decides about one queued message. -/
structure OutboundEnvironment where
  now : Timestamp
  outboundEnabled : Bool
  zaloMonthlyMessages : Nat
  period : String
  outboundId : Uuid
  deliverJobId : Uuid

/-- What the environment decides during one follow-up. -/
structure FollowupEnvironment where
  outbound : OutboundEnvironment
  eventKey : String × String
  reviewBody : AccountRow → DraftRow → String
  failureBody : AccountRow → ErrorClass → String

namespace Followups

open Receipts

variable {Event : Type}

/-- `review_idempotency_key`. -/
def reviewIdempotencyKey (submissionId : Uuid) : String :=
  "receipt-review:" ++ submissionId.text

/-- `failure_idempotency_key`. -/
def failureIdempotencyKey (submissionId : Uuid) : String :=
  "receipt-failure:" ++ submissionId.text

/-- `outbound_delivery_allowed`. -/
def outboundDeliveryAllowed (environment : OutboundEnvironment)
    (failed : ReceiptFailure) (accountId : Option Uuid) :
    Statement Event Bool :=
  if environment.outboundEnabled then
    match accountId with
    | some accountId => do
        let counter ← UsageQuota.incrementInTransaction failed
          UsageQuota.scopeAccount accountId.text environment.period
          UsageQuota.metricZaloMessages
          (UsageQuota.storedLimit environment.zaloMonthlyMessages)
        pure (!counter.exceeded)
    | none => pure true
  else
    pure false

/-- The serialization key of a delivery job. -/
def outboundSerializationKey (accountId : Option Uuid)
    (providerScope providerTarget : String) : String :=
  match accountId with
  | some accountId => accountSerializationKey accountId
  | none => "provider_chat:" ++ providerScope ++ ":" ++ providerTarget

/-- The request for the delivery job of a message. -/
def deliverRequest (environment : OutboundEnvironment)
    (accountId : Option Uuid)
    (providerScope providerTarget idempotencyKey : String)
    (outboundId : Uuid) : EnqueueRequest where
  id := environment.deliverJobId
  jobType := "outbound.deliver"
  payload := ⟨some 1, [("outbound_id", outboundId.text)]⟩
  dedupeKey := "outbound.deliver:" ++ idempotencyKey
  serializationKey :=
    some (outboundSerializationKey accountId providerScope providerTarget)
  priority := 10
  runAt := environment.now
  maxAttempts := 10

/-- The `CHECK` on the body of `outbound_messages`. -/
def isBody (body : String) : Bool :=
  decide (1 ≤ RustText.charCount body ∧ RustText.charCount body ≤ 2000)

/-- `enqueue_outbound_in_transaction` once it is decided whether the message is
delivered. -/
def enqueueDecided (environment : OutboundEnvironment)
    (failed : ReceiptFailure) (accountId : Option Uuid)
    (providerScope providerTarget body idempotencyKey : String)
    (deliver : Bool) : Statement Event Unit :=
  if isBody body then do
    let _ ← .insertRow failed (BotKey.outbound idempotencyKey)
      { id := environment.outboundId
        accountId := accountId
        idempotencyKey := idempotencyKey
        providerScope := providerScope
        providerTarget := providerTarget
        body := body
        state := if deliver then .queued else .suppressed
        providerMessageId := none
        attemptCount := 0
        lastErrorClass := none
        ambiguityReason := none
        createdAt := environment.now
        updatedAt := environment.now }
    let outboundId ← .query failed fun view =>
      (view (BotKey.outbound idempotencyKey)).map OutboundRow.id
    match outboundId with
    | none => .fail failed
    | some outboundId =>
        if deliver then do
          let _ ← enqueueInTransaction environment.now
            (deliverRequest environment accountId providerScope providerTarget
              idempotencyKey outboundId)
          pure ()
        else
          pure ()
  else
    .fail failed

/-- `enqueue_outbound_in_transaction`. -/
def enqueueOutboundInTransaction (environment : OutboundEnvironment)
    (failed : ReceiptFailure) (accountId : Option Uuid)
    (providerScope providerTarget body idempotencyKey : String) :
    Statement Event Unit := do
  let deliver ← outboundDeliveryAllowed environment failed accountId
  enqueueDecided environment failed accountId providerScope providerTarget
    body idempotencyKey deliver

/-- Whether a message has been queued before. -/
def isQueued (idempotencyKey : String) : Statement Event Bool :=
  .query (.dependency "outbound lookup failed") fun view =>
    (view (BotKey.outbound idempotencyKey)).isSome

/-- The join of a submission with its inbound event and its account. -/
def loadRouting (environment : FollowupEnvironment)
    (accountId submissionId : Uuid) :
    Statement Event (InboundEventRow × AccountRow) := do
  let (scope, eventId) := environment.eventKey
  let routing ← .query (.dependency "submission routing lookup failed")
    fun view => do
      let submission ← view (BotKey.submission submissionId)
      let event ← view (BotKey.inboundEvent scope eventId)
      let account ← view (BotKey.account accountId)
      if submission.accountId = accountId ∧
          submission.inboundEventId = some event.id then
        pure (event, account)
      else
        none
  match routing with
  | none => refuse (.notFound "submission routing not found")
  | some routing => pure routing

/-- `upsert_receipt_review_pending`. -/
def upsertReceiptReviewPending (accountId submissionId : Uuid)
    (expiresAt : Timestamp) : Statement Event Unit := do
  let pending : PendingColumns :=
    ⟨.receiptReview, some submissionId, expiresAt⟩
  let inserted ← .insertRow (.dependency "pending insert failed")
    (BotKey.conversationState accountId) ⟨some pending, 1⟩
  if inserted then
    pure ()
  else
    let version ← .query (.dependency "pending version lookup failed")
      fun view =>
        (view (BotKey.conversationState accountId)).map ConversationRow.version
    match version with
    | none => refuse (.dependency "pending version lookup failed")
    | some version => do
        let updated ← .updateRow (.dependency "pending update failed")
          (BotKey.conversationState accountId) (·.version = version)
          fun row => ⟨some pending, row.version + 1⟩
        if updated then
          pure ()
        else
          refuse (.conflict "pending state version conflict")

/-- `enqueue_receipt_review_followup`. -/
def enqueueReceiptReviewFollowup (event : Event)
    (environment : FollowupEnvironment) (reviewExpiryHours : Int)
    (accountId submissionId : Uuid) : Statement Event Unit := do
  let existing ← isQueued (reviewIdempotencyKey submissionId)
  if existing then
    pure ()
  else
    let (inbound, account) ← loadRouting environment accountId submissionId
    let draft ← .query (.dependency "draft lookup failed") fun view =>
      (view (BotKey.draft submissionId)).filter (·.accountId = accountId)
    match draft with
    | none => refuse (.notFound "expense draft not found")
    | some draft => do
        upsertReceiptReviewPending accountId submissionId
          (environment.outbound.now +
            intervalHours (max reviewExpiryHours 1))
        enqueueOutboundInTransaction environment.outbound
          (.dependency "outbound enqueue failed") accountId
          environment.eventKey.1 inbound.providerChatId
          (environment.reviewBody account draft)
          (reviewIdempotencyKey submissionId)
        .commitTransaction (.dependency "commit failed") event

/-- `enqueue_receipt_failure_followup`. -/
def enqueueReceiptFailureFollowup (event : Event)
    (environment : FollowupEnvironment) (accountId submissionId : Uuid)
    (errorClass : ErrorClass) : Statement Event Unit := do
  let existing ← isQueued (failureIdempotencyKey submissionId)
  if existing then
    pure ()
  else
    let (inbound, account) ← loadRouting environment accountId submissionId
    enqueueOutboundInTransaction environment.outbound
      (.dependency "outbound enqueue failed") accountId
      environment.eventKey.1 inbound.providerChatId
      (environment.failureBody account errorClass)
      (failureIdempotencyKey submissionId)
    .commitTransaction (.dependency "commit failed") event

section Footprints

/-- Rows that only carry messages. -/
structure MessageRows (writes : ∀ key : BotKey, Option (BotRow key) → Prop) :
    Prop where
  counter : ∀ scope scopeId period metric row,
    writes (.usageCounter scope scopeId period metric) row
  outbound : ∀ idempotencyKey row, writes (.outbound idempotencyKey) row
  delivery : ∀ idempotencyKey row,
    writes (.job ("outbound.deliver:" ++ idempotencyKey)) row
  conversation : ∀ accountId row, writes (.conversationState accountId) row

variable {writes : ∀ key : BotKey, Option (BotRow key) → Prop}
variable {emits : Event → ∀ key : BotKey, Option (BotRow key) → Prop}
variable {own : Overlay BotRow}

theorem behaves_enqueueOutboundInTransaction
    {environment : OutboundEnvironment} {failed : ReceiptFailure}
    {accountId : Option Uuid}
    {providerScope providerTarget body idempotencyKey : String}
    (messages : MessageRows writes) :
    (enqueueOutboundInTransaction environment failed accountId providerScope
      providerTarget body idempotencyKey : Statement Event Unit).Behaves
        writes emits own fun _ _ => True := by
  refine .andThen ?_ fun deliver _ => ?_
  · unfold outboundDeliveryAllowed
    split
    · cases accountId with
      | some accountId =>
          exact ⟨fun _ => ⟨messages.counter _ _ _ _ _, trivial⟩, trivial⟩
      | none => trivial
    · trivial
  unfold enqueueDecided
  split
  · refine .andThen (Session.behaves_insertRow (messages.outbound _ _)
      trivial trivial) fun _ _ => ?_
    refine .andThen (Session.behaves_query fun _ => trivial)
      fun outboundId _ => ?_
    cases outboundId with
    | none => trivial
    | some outboundId =>
        dsimp only
        split
        · refine .andThen ?_ fun _ _ => trivial
          unfold enqueueInTransaction
          split
          · trivial
          · refine .andThen (Session.behaves_insertRow
              (messages.delivery _ _) trivial trivial) fun inserted _ => ?_
            cases inserted <;> trivial
        · trivial
  · trivial

theorem behaves_loadRouting {environment : FollowupEnvironment}
    {accountId submissionId : Uuid} :
    (loadRouting environment accountId submissionId :
      Statement Event _).Behaves writes emits own fun _ _ => True := by
  refine .andThen (Session.behaves_query fun _ => trivial) fun routing _ => ?_
  cases routing <;> trivial

theorem behaves_upsertReceiptReviewPending {accountId submissionId : Uuid}
    {expiresAt : Timestamp} (messages : MessageRows writes) :
    (upsertReceiptReviewPending accountId submissionId expiresAt :
      Statement Event Unit).Behaves writes emits own fun _ _ => True := by
  refine .andThen (Session.behaves_insertRow (messages.conversation _ _)
    trivial trivial) fun inserted _ => ?_
  cases inserted with
  | true => trivial
  | false =>
      refine .andThen (Session.behaves_query fun _ => trivial)
        fun version _ => ?_
      cases version with
      | none => trivial
      | some version =>
          refine .andThen (Session.behaves_updateRow
            (fun _ => messages.conversation _ _) trivial fun _ => trivial)
            fun updated _ => ?_
          cases updated <;> trivial

/-- A follow-up writes messages only and leaves nothing uncommitted. -/
theorem behaves_enqueueReceiptReviewFollowup {event : Event}
    {environment : FollowupEnvironment} {reviewExpiryHours : Int}
    {accountId submissionId : Uuid} (messages : MessageRows writes) :
    (enqueueReceiptReviewFollowup event environment reviewExpiryHours
      accountId submissionId).Behaves writes emits Overlay.none
        fun _ last => last = Overlay.none := by
  refine ⟨fun view => ?_, trivial⟩
  change Session.Behaves _ _ (if _ then _ else _) _ _
  split
  · rfl
  refine .andThen behaves_loadRouting fun routing _ => ?_
  refine .andThen (Session.behaves_query fun _ => trivial) fun draft _ => ?_
  cases draft with
  | none => trivial
  | some draft =>
      refine .andThen (behaves_upsertReceiptReviewPending messages)
        fun _ _ => ?_
      exact .andThen (behaves_enqueueOutboundInTransaction messages)
        fun _ _ => Session.behaves_commitTransaction rfl

theorem behaves_enqueueReceiptFailureFollowup {event : Event}
    {environment : FollowupEnvironment} {accountId submissionId : Uuid}
    {errorClass : ErrorClass} (messages : MessageRows writes) :
    (enqueueReceiptFailureFollowup event environment accountId submissionId
      errorClass).Behaves writes emits Overlay.none
        fun _ last => last = Overlay.none := by
  refine ⟨fun view => ?_, trivial⟩
  change Session.Behaves _ _ (if _ then _ else _) _ _
  split
  · rfl
  refine .andThen behaves_loadRouting fun routing _ => ?_
  exact .andThen (behaves_enqueueOutboundInTransaction messages)
    fun _ _ => Session.behaves_commitTransaction rfl

end Footprints

end Followups

end ZaloBot
