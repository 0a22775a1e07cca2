import ZaloBot.IngressCalls
import ZaloBot.SessionMoves

/-!
# What an event makes of the rows

The ways in which the processing of one event rewrites rows: one relation for
each kind of row, with the effect that asks for the change and the condition
that the row meets at that moment.  Rows are changed under their locks, so the
old row is the committed one.
-/

namespace ZaloBot

open Sessions

/-- The pending action that an effect sets. -/
def IngressEffect.arms : IngressEffect → Option PendingColumns
  | .createManualExpenseAwaitingConfirmation expenseId _ _ _ _ _
      pendingExpiresAt pendingActionType =>
      some ⟨pendingActionType, some expenseId, pendingExpiresAt⟩
  | .armAccountDeletion expiresAt =>
      some ⟨.accountDeletion, none, expiresAt⟩
  | _ => none

namespace Ingress

/-- A job is serialized under a key of the account. -/
def IsJobOf (accountId : Uuid) (serializationKey : Option String) : Prop :=
  serializationKey = some (accountSerializationKey accountId) ∨
    serializationKey = some (receiptSerializationKey accountId)

theorem IsJobOf.eq_of_account {accountId owner : Uuid}
    (keyed : IsJobOf owner (some (accountSerializationKey accountId))) :
    accountId = owner := by
  rcases keyed with same | same
  · have sameText : accountId.text = owner.text :=
      (String.append_right_inj _).mp (Option.some.inj same)
    exact congrArg Uuid.mk sameText
  · exact absurd (Option.some.inj same) accountSerializationKey_ne

theorem IsJobOf.eq_of_receipt {accountId owner : Uuid}
    (keyed : IsJobOf owner (some (receiptSerializationKey accountId))) :
    accountId = owner := by
  rcases keyed with same | same
  · exact absurd (Option.some.inj same).symm accountSerializationKey_ne
  · have sameText : accountId.text = owner.text :=
      (String.append_right_inj _).mp (Option.some.inj same)
    exact congrArg Uuid.mk sameText

/-- The key of a delivery job is that of its account, if it has one. -/
theorem IsJobOf.eq_of_outbound {accountId : Option Uuid} {owner : Uuid}
    {providerScope providerTarget : String}
    (keyed : IsJobOf owner (some (Followups.outboundSerializationKey accountId
      providerScope providerTarget))) : accountId = some owner := by
  cases accountId with
  | some accountId => exact congrArg some keyed.eq_of_account
  | none =>
      have grouped : Followups.outboundSerializationKey none providerScope
          providerTarget =
            "provider_chat:" ++ (providerScope ++ (":" ++ providerTarget)) :=
        (String.append_assoc ..).trans (String.append_assoc ..)
      rw [grouped] at keyed
      rcases keyed with same | same
      · exact absurd (Option.some.inj same) (append_ne_append 0 (by decide)
          (by decide) (by decide) _ _)
      · exact absurd (Option.some.inj same) (append_ne_append 0 (by decide)
          (by decide) (by decide) _ _)

section Relations

variable (accountId : Option Uuid) (effects : List IngressEffect)

inductive AccountMove : Option AccountRow → Option AccountRow → Prop where
  | opened : AccountMove none (some newAccount)
  | consented (row : AccountRow) (version : String) (now : Timestamp)
      (pending : row.lifecycleState = .pendingConsent)
      (asked : .grantConsent version ∈ effects) :
      AccountMove (some row) (some { row with
        lifecycleState := .active
        consentVersion := some version
        consentedAt := some now })
  | translated (row : AccountRow) (locale : String) :
      AccountMove (some row) (some { row with locale := locale })
  | relocated (row : AccountRow) (timezone : String) :
      AccountMove (some row) (some { row with timezone := timezone })
  | deleting (row : AccountRow)
      (alive : row.lifecycleState = .active ∨
        row.lifecycleState = .deleting)
      (asked : .confirmAccountDeletion ∈ effects) :
      AccountMove (some row)
        (some { row with lifecycleState := .deleting })

inductive ConversationMove :
    Option ConversationRow → Option ConversationRow → Prop where
  | begun (pending : PendingColumns)
      (asked : ∃ effect ∈ effects, effect.arms = some pending) :
      ConversationMove none (some ⟨some pending, 1⟩)
  | armed (row : ConversationRow) (pending : PendingColumns)
      (asked : ∃ effect ∈ effects, effect.arms = some pending) :
      ConversationMove (some row) (some ⟨some pending, row.version + 1⟩)
  | cleared (row : ConversationRow)
      (asked : .clearPendingAction row.version ∈ effects) :
      ConversationMove (some row) (some ⟨none, row.version + 1⟩)
  | abandoned (row : ConversationRow)
      (asked : .confirmAccountDeletion ∈ effects) :
      ConversationMove (some row) (some ⟨none, row.version + 1⟩)

inductive ExpenseMove (id : Uuid) :
    Option ExpenseRow → Option ExpenseRow → Prop where
  | entered (owner : Uuid) (amountMinor : Int)
      (currency description : String) (occurredAt : Timestamp)
      (version : Int) (expiresAt : Timestamp)
      (actionType : PendingActionType) (isOwner : accountId = some owner)
      (asked : .createManualExpenseAwaitingConfirmation id amountMinor
        currency description occurredAt version expiresAt actionType ∈
          effects)
      (checked : isManualExpense currency version = true) :
      ExpenseMove id none (some (manualExpense owner amountMinor currency
        description occurredAt version))
  | settled (row : ExpenseRow) (state : ExpenseState)
      (isOwner : accountId = some row.accountId)
      (awaiting : row.state = .awaitingConfirmation)
      (asked : (.confirmExpense id row.version ∈ effects ∧
          state = .confirmed) ∨
        (.rejectExpense id row.version ∈ effects ∧ state = .rejected)) :
      ExpenseMove id (some row)
        (some { row with state := state, version := row.version + 1 })
  | edited (row : ExpenseRow) (edit : Conversation.DraftEdit)
      (isOwner : accountId = some row.accountId)
      (awaiting : row.state = .awaitingConfirmation)
      (asked : .editManualExpense id row.version edit ∈ effects)
      (named : (RustText.trim (edit.merchant.getD row.description)).isEmpty =
        false)
      (category : edit.categoryKey.getD row.categoryKey ∈ categoryKeys) :
      ExpenseMove id (some row) (some { row with
        amountMinor := edit.amountMinor.getD row.amountMinor
        description := RustText.trim (edit.merchant.getD row.description)
        categoryKey := edit.categoryKey.getD row.categoryKey
        occurredAt := edit.occurredAt.getD row.occurredAt
        transactionType := edit.transactionType.getD row.transactionType
        version := row.version + 1 })
  | recategorized (row : ExpenseRow) (categoryKey : String)
      (isOwner : accountId = some row.accountId)
      (confirmed : row.state = .confirmed)
      (asked : .recategorizeLatest categoryKey ∈ effects)
      (category : categoryKey ∈ categoryKeys) :
      ExpenseMove id (some row)
        (some { row with categoryKey := categoryKey })
  | booked (owner submissionId : Uuid) (draft : DraftRow)
      (isOwner : accountId = some owner)
      (asked : .confirmReceipt submissionId id draft.version ∈ effects) :
      ExpenseMove id none
        (some (Receipts.confirmedExpense owner submissionId draft))

inductive SubmissionMove :
    Option SubmissionRow → Option SubmissionRow → Prop where
  | accepted (owner : Uuid) (inboundEventId : Option Uuid)
      (isOwner : accountId = some owner)
      (asked : ∃ submissionId ingestJobId eventId,
        .acceptReceiptSubmission submissionId ingestJobId eventId ∈ effects) :
      SubmissionMove none (some (SubmissionRow.new owner inboundEventId))
  | moved (row : SubmissionRow) (now : Timestamp) (next : ReceiptState)
      (failureErrorClass : Option String) (reviewExpiryHours : Option Int)
      (confirmedExpenseId duplicateOfSubmissionId : Option Uuid)
      (isOwner : accountId = some row.accountId)
      (legal : canTransition row.state next = true) :
      SubmissionMove (some row) (some (row.transitioned now next
        failureErrorClass reviewExpiryHours confirmedExpenseId
        duplicateOfSubmissionId))

inductive DraftMove (id : Uuid) :
    Option DraftRow → Option DraftRow → Prop where
  | edited (row next : DraftRow) (edit : Conversation.DraftEdit)
      (isOwner : accountId = some row.accountId)
      (asked : .editReceiptDraft id row.version edit ∈ effects)
      (sameId : next.id = row.id) (sameAccount : next.accountId = row.accountId)
      (newer : next.version = row.version + 1) :
      DraftMove id (some row) (some next)
  | recategorized (row : DraftRow) (categoryKey : String)
      (isOwner : accountId = some row.accountId)
      (asked : .recategorizeLatest categoryKey ∈ effects) :
      DraftMove id (some row)
        (some { row with categoryKey := categoryKey })

inductive JobMove : Option JobRow → Option JobRow → Prop where
  | queued (now : Timestamp) (version : Int) (request : EnqueueRequest)
      (owned : ∀ owner, IsJobOf owner request.serializationKey →
        accountId = some owner) :
      JobMove none (some (WorkStore.queuedRow now version request))
  | timed (row : JobRow) (runAt : Timestamp) (queued : row.state = .queued)
      (owned : ∀ owner, IsJobOf owner row.serializationKey →
        accountId = some owner) :
      JobMove (some row) (some { row with runAt := runAt })
  | cancelled (row : JobRow) (now : Timestamp) (owner : Uuid)
      (queued : row.state = .queued) (isOwner : accountId = some owner)
      (keyed : IsJobOf owner row.serializationKey)
      (asked : .confirmAccountDeletion ∈ effects) :
      JobMove (some row) (some ((JobRow.markCancelledQueued now).apply row))

inductive CounterMove :
    Option UsageCounterRow → Option UsageCounterRow → Prop where
  | counted (counter : Option UsageCounterRow) (limit : Int) :
      CounterMove counter
        (some ⟨(counter.map UsageCounterRow.count).getD 0 + 1, limit⟩)

inductive MessageMove (idempotencyKey : String) :
    Option OutboundRow → Option OutboundRow → Prop where
  | sent (row : OutboundRow) (isOwner : row.accountId = accountId)
      (keyed : row.idempotencyKey = idempotencyKey)
      (fresh : row.state = .queued ∨ row.state = .suppressed)
      (unsent : row.attemptCount = 0) :
      MessageMove idempotencyKey none (some row)

inductive ScheduleMove (request : IngressRequest) :
    Option SummaryScheduleRow → Option SummaryScheduleRow → Prop where
  | entered (id : Uuid) (frequency : String) (deliveryMinute : Int)
      (nextRunAt : Timestamp)
      (asked : .upsertSummarySchedule frequency deliveryMinute ∈ effects)
      (bounded : 0 ≤ deliveryMinute ∧ deliveryMinute < 24 * 60) :
      ScheduleMove request none (some {
        id := id
        deliveryMinute := deliveryMinute
        providerScope := request.providerScope
        providerChatId := request.providerChatId
        enabled := true
        nextRunAt := nextRunAt
        lastEmittedAt := none })
  | changed (row : SummaryScheduleRow) (frequency : String)
      (deliveryMinute : Int) (nextRunAt : Timestamp)
      (asked : .upsertSummarySchedule frequency deliveryMinute ∈ effects)
      (bounded : 0 ≤ deliveryMinute ∧ deliveryMinute < 24 * 60) :
      ScheduleMove request (some row) (some { row with
        deliveryMinute := deliveryMinute
        providerScope := request.providerScope
        providerChatId := request.providerChatId
        enabled := true
        nextRunAt := nextRunAt })
  | disabled (row : SummaryScheduleRow) (frequency : Option String)
      (asked : .disableSummarySchedule frequency ∈ effects) :
      ScheduleMove request (some row) (some { row with enabled := false })
  | retimed (row : SummaryScheduleRow) (iana : String)
      (nextRunAt : Timestamp) (asked : .setTimezone iana ∈ effects) :
      ScheduleMove request (some row)
        (some { row with nextRunAt := nextRunAt })

/-- The moves of the rows by an event of the account with these effects. -/
def EventMoves (request : IngressRequest) : Moves BotRow
  | .account id, old, new =>
      accountId = some id ∧ AccountMove effects old new
  | .conversationState id, old, new =>
      accountId = some id ∧ ConversationMove effects old new
  | .expense id, old, new => ExpenseMove accountId effects id old new
  | .receiptExpense _, old, new => old = none ∧ new.isSome = true
  | .submission _, old, new => SubmissionMove accountId effects old new
  | .draft id, old, new => DraftMove accountId effects id old new
  | .job _, old, new => JobMove accountId effects old new
  | .usageCounter scope scopeId _ _, old, new =>
      (∃ owner, accountId = some owner ∧ scope = UsageQuota.scopeAccount ∧
        scopeId = owner.text) ∧ CounterMove old new
  | .outbound idempotencyKey, old, new =>
      idempotencyKey = replyKey request ∧
        MessageMove accountId idempotencyKey old new
  | .deletionRequest id, _, _ =>
      accountId = some id ∧ .confirmAccountDeletion ∈ effects
  | .summarySchedule id _, old, new =>
      accountId = some id ∧ ScheduleMove effects request old new
  | .asset _, _, _ => False
  | .activeImage _ _, _, _ => False
  | .extractionAttempts _, _, _ => False
  | .object _, _, _ => False
  | .ingressControl, _, _ => False
  | .inboundEvent _ _, _, _ => False
  | .providerIdentity _ _, _, _ => False
  | .eventSubmission _, _, _ => True
  | .corrections _, _, _ => True
  | .insightSnapshot key, _, _ =>
      accountId = some key.accountId ∧
        ∃ periodKind, .recordInsightSnapshot periodKind ∈ effects

/-- The moves of the rows other than those of events. -/
def EventMoved (request : IngressRequest) (before after : BotStore) : Prop :=
  ∀ key, key.isEventRow = false →
    Relation.ReflTransGen (EventMoves accountId effects request key)
      (before key) (after key)

end Relations

theorem EventMoves.still {accountId : Option Uuid}
    {effects : List IngressEffect} {request : IngressRequest} {key : BotKey}
    {old new : Option (BotRow key)} (isEventRow : key.isEventRow = true)
    (moves : EventMoves accountId effects request key old new) : new = old := by
  cases key <;> first | exact moves.elim | simp [BotKey.isEventRow] at isEventRow

/-- The rows of events are not moved. -/
theorem event_eq_of_moved {accountId : Option Uuid}
    {effects : List IngressEffect} {request : IngressRequest}
    {before after : BotStore}
    (moved : Moved (EventMoves accountId effects request) before after)
    {key : BotKey} (isEventRow : key.isEventRow = true) :
    after key = before key :=
  moved.eq_of_still fun _ _ => EventMoves.still isEventRow

end Ingress

end ZaloBot
