import ZaloBot.IngressContext
import ZaloBot.InsightNarratives
import ZaloBot.ReceiptFollowups
import ZaloBot.SessionEvents

/-!
# The effects of an ingress event

`apply_effect` as statements over the bot's rows, one branch for each effect.
The statements of the receipt lifecycle, of the insight snapshots and of the
durable-work store are used as they are there, with their errors reported as
ingress reports them.  Drawn UUIDs, clock readings, rendered texts, delivery
instants and the rows that a statement over several rows selects are decided
by the environment.
-/

namespace ZaloBot

open Sessions

namespace Ingress

open Conversation

variable {Event : Type}

/-- What the environment decides while effects are applied. -/
structure EffectEnvironment where
  now : Timestamp
  receipts : Bool
  isTimezone : String → Bool
  nextDelivery : Timestamp → String → Frequency → Int → Option Timestamp
  toRfc3339 : Timestamp → String
  latestExpense : Option Uuid
  scheduleId : Uuid
  deletionRequestId : Uuid
  deleteJobId : Uuid
  exportId : Uuid
  exportJobId : Uuid
  queuedJobs : List String
  insight : InsightPeriodKind → Insights.RecordEnvironment
  quotaText : Conversation.Locale → String
  summaryText : Conversation.Locale → InsightPeriodKind →
    SpendingTotals.InsightAggregate → String

/-- `map_receipt_error`. -/
def mapReceiptError (failure : ReceiptFailure) : IngressEffectError :=
  match failure.reported.errorClass with
  | .conflict => .versionConflict
  | .notFound => .notFound
  | _ => .invalidTransition

/-- Statements whose every error is an invalid transition. -/
def invalidOnError {Error Value : Type}
    (session : Session BotRow Event Error Value) : Statement Event Value :=
  session.mapError fun _ => .invalidTransition

/-- Fail unless a row was affected. -/
def expectAffected (error : IngressEffectError) (affected : Bool) :
    Statement Event Unit :=
  if affected then pure () else .fail error

/-- `Frequency::parse`. -/
def parseFrequency (text : String) : Option Frequency :=
  if text = "daily" then some .daily
  else if text = "weekly" then some .weekly
  else if text = "monthly" then some .monthly
  else none

/-- `InsightPeriodKind::parse`. -/
def parsePeriodKind (text : String) : Option InsightPeriodKind :=
  if text = "day" then some .day
  else if text = "week" then some .week
  else if text = "month" then some .month
  else none

/-- The account of the event, by one of its columns. -/
def accountColumn {Value : Type} (accountId : Uuid)
    (column : AccountRow → Value) : Statement Event Value :=
  fetchOne .invalidTransition fun view =>
    (view (.account accountId)).map column

/-- An `UPDATE` of the account that must affect it. -/
def updateAccount (error : IngressEffectError) (accountId : Uuid)
    (condition : AccountRow → Bool) (change : AccountRow → AccountRow) :
    Statement Event Unit := do
  let updated ← .updateRow .invalidTransition (BotKey.account accountId)
    condition change
  expectAffected error updated

section Pending

/-- The `UPDATE` that stores a pending action over a version. -/
def replacePending (accountId : Uuid) (pending : Option PendingColumns)
    (expectedVersion : Int) : Statement Event Unit := do
  let updated ← .updateRow .invalidTransition
    (BotKey.conversationState accountId) (·.version = expectedVersion)
    fun row => ⟨pending, row.version + 1⟩
  expectAffected .versionConflict updated

/-- `upsert_pending_action` without an expected version. -/
def upsertPendingAction (accountId : Uuid) (pending : PendingColumns) :
    Statement Event Unit := do
  let inserted ← .insertRow .invalidTransition
    (BotKey.conversationState accountId) ⟨some pending, 1⟩
  if inserted then
    pure ()
  else
    let version ← fetchOne .invalidTransition fun view =>
      (view (.conversationState accountId)).map ConversationRow.version
    replacePending accountId (some pending) version

end Pending

section Manual

/-- The `CHECK` constraints of a manual expense. -/
def isManualExpense (currency : String) (version : Int) : Bool :=
  (validateCurrency currency).toBool && 0 < version

/-- The expense of a manual entry. -/
def manualExpense (accountId : Uuid) (amountMinor : Int)
    (currency description : String) (occurredAt : Timestamp)
    (version : Int) : ExpenseRow where
  accountId := accountId
  amountMinor := amountMinor
  currency := currency
  occurredAt := occurredAt
  description := description
  source := .manual
  state := .awaitingConfirmation
  version := version
  receiptSubmissionId := none
  categoryKey := "khac"
  transactionType := "expense"

/-- The `INSERT` of a manual expense. -/
def insertManualExpense (expenseId : Uuid) (row : ExpenseRow) :
    Statement Event Unit :=
  if isManualExpense row.currency row.version then do
    let inserted ← .insertRow .invalidTransition (BotKey.expense expenseId)
      row
    expectAffected .invalidTransition inserted
  else
    .fail .invalidTransition

/-- `id = $1 AND account_id = $2 AND version = $3 AND state =
'awaiting_confirmation'`. -/
def isAwaiting (accountId : Uuid) (expectedVersion : Int) (row : ExpenseRow) :
    Bool :=
  row.accountId = accountId && row.version = expectedVersion &&
    row.state = .awaitingConfirmation

/-- `ConfirmExpense` and `RejectExpense`. -/
def settleExpense (accountId expenseId : Uuid) (expectedVersion : Int)
    (state : ExpenseState) : Statement Event Unit := do
  let updated ← .updateRow .invalidTransition (BotKey.expense expenseId)
    (isAwaiting accountId expectedVersion) fun row =>
      { row with state := state, version := row.version + 1 }
  expectAffected .versionConflict updated

/-- `edit_manual_expense_in_transaction`. -/
def editManualExpenseInTransaction (accountId expenseId : Uuid)
    (expectedVersion : Int) (edit : DraftEdit) : Statement Event Unit := do
  let row ← .selectForUpdate .invalidTransition (BotKey.expense expenseId)
    (isAwaiting accountId expectedVersion)
  match row with
  | none => .fail .versionConflict
  | some row => do
      let description := RustText.trim (edit.merchant.getD row.description)
      if description.isEmpty then
        .fail .invalidTransition
      else
        let categoryKey := edit.categoryKey.getD row.categoryKey
        let known ← Expenses.categoryExists categoryKey
        if known then
          let transactionType :=
            edit.transactionType.getD row.transactionType
          if (validateTransactionType transactionType).toBool then
            let updated ← .updateRow .invalidTransition
              (BotKey.expense expenseId)
              (isAwaiting accountId expectedVersion) fun current =>
                { current with
                  amountMinor := edit.amountMinor.getD row.amountMinor
                  description := description
                  categoryKey := categoryKey
                  occurredAt := edit.occurredAt.getD row.occurredAt
                  transactionType := transactionType
                  version := current.version + 1 }
            expectAffected .versionConflict updated
          else
            .fail .invalidTransition
        else
          .fail .invalidTransition

end Manual

variable (event : Event) (environment : EffectEnvironment)
variable (context : ContextEnvironment) (policy : IngressPolicy)

section Schedules

/-- `recompute_account_schedule_runs`. -/
def recomputeAccountScheduleRuns (accountId : Uuid) (now : Timestamp) :
    Statement Event Unit := do
  let timezone ← accountColumn accountId AccountRow.timezone
  let rows ← .query .invalidTransition fun view =>
    [Frequency.daily, Frequency.weekly, Frequency.monthly].filterMap
      fun frequency =>
        ((view (.summarySchedule accountId frequency)).filter
          (·.enabled)).map fun row => (frequency, row)
  Session.forRows (fun (frequency, row) =>
    match environment.nextDelivery now timezone frequency
        row.deliveryMinute with
    | none => .fail .invalidTransition
    | some nextRunAt => do
        let _ ← .updateRow .invalidTransition
          (BotKey.summarySchedule accountId frequency) (·.id = row.id)
          fun current => { current with nextRunAt := nextRunAt }
        pure ()) rows

/-- `UpsertSummarySchedule`. -/
def upsertSummarySchedule (accountId : Uuid) (request : IngressRequest)
    (frequency : String) (deliveryMinute : Int) : Statement Event Unit :=
  if 0 ≤ deliveryMinute ∧ deliveryMinute < 24 * 60 then
    match parseFrequency frequency with
    | none => .fail .invalidTransition
    | some frequency => do
        let timezone ← accountColumn accountId AccountRow.timezone
        match environment.nextDelivery request.observedAt timezone frequency
            deliveryMinute with
        | none => .fail .invalidTransition
        | some nextRunAt =>
            .upsertRow .invalidTransition
              (BotKey.summarySchedule accountId frequency)
              { id := environment.scheduleId
                deliveryMinute := deliveryMinute
                providerScope := request.providerScope
                providerChatId := request.providerChatId
                enabled := true
                nextRunAt := nextRunAt
                lastEmittedAt := none }
              fun row =>
                { row with
                  deliveryMinute := deliveryMinute
                  providerScope := request.providerScope
                  providerChatId := request.providerChatId
                  enabled := true
                  nextRunAt := nextRunAt }
  else
    .fail .invalidTransition

/-- `DisableSummarySchedule`. -/
def disableSummarySchedule (accountId : Uuid) (frequency : Option String) :
    Statement Event Unit :=
  let disabled :=
    match frequency with
    | none => [Frequency.daily, Frequency.weekly, Frequency.monthly]
    | some frequency => (parseFrequency frequency).toList
  Session.forRows (fun frequency => do
    let _ ← .updateRow .invalidTransition
      (BotKey.summarySchedule accountId frequency) (fun _ => true)
      fun row => { row with enabled := false }
    pure ()) disabled

end Schedules

section Jobs

/-- `cancel_queued_by_serialization_key_in_transaction`. -/
def cancelQueuedBySerializationKeyInTransaction (serializationKey : String) :
    Statement Event Unit :=
  Session.forRows (fun dedupeKey => do
    let _ ← .updateRow .invalidTransition (BotKey.job dedupeKey)
      (fun row =>
        row.serializationKey = some serializationKey && row.state = .queued)
      (JobRow.markCancelledQueued environment.now).apply
    pure ()) environment.queuedJobs

/-- `delete_dedupe_key`. -/
def deleteDedupeKey (accountId : Uuid) : String :=
  "account.delete:" ++ accountId.text

/-- `enqueue_delete_in_transaction`. -/
def enqueueDeleteInTransaction (accountId deletionRequestId : Uuid)
    (now : Timestamp) : Statement Event Unit := do
  cancelQueuedBySerializationKeyInTransaction environment
    (accountSerializationKey accountId)
  cancelQueuedBySerializationKeyInTransaction environment
    (receiptSerializationKey accountId)
  let _ ← invalidOnError (Receipts.enqueueInTransaction environment.now
    { id := environment.deleteJobId
      jobType := "account.delete"
      payload := ⟨some 1,
        [("account_id", accountId.text),
          ("deletion_request_id", deletionRequestId.text)]⟩
      dedupeKey := deleteDedupeKey accountId
      serializationKey := some (accountSerializationKey accountId)
      priority := 10
      runAt := now
      maxAttempts := 10 })
  pure ()

/-- `enqueue_export_in_transaction`. -/
def enqueueExportInTransaction (accountId : Uuid)
    (request : IngressRequest) : Statement Event Unit := do
  let _ ← invalidOnError (Receipts.enqueueInTransaction environment.now
    { id := environment.exportJobId
      jobType := "account.export"
      payload := ⟨some 1,
        [("account_id", accountId.text),
          ("export_id", environment.exportId.text),
          ("provider_scope", request.providerScope),
          ("provider_chat_id", request.providerChatId)]⟩
      dedupeKey := "account.export:" ++ environment.exportId.text
      serializationKey := some (accountSerializationKey accountId)
      priority := 0
      runAt := request.observedAt
      maxAttempts := 10 })
  pure ()

/-- The upsert of a deletion request, which leaves a completed one alone. -/
def requestDeletion (accountId : Uuid) (expenseCount : Nat) :
    Statement Event Unit :=
  let count : Int := min expenseCount 2147483647
  .upsertRow .invalidTransition (BotKey.deletionRequest accountId)
    ⟨environment.deletionRequestId, .requested, count⟩
    fun row =>
      if row.state = .completed then row
      else { row with state := .requested, expenseCount := count }

/-- `ConfirmAccountDeletion`. -/
def confirmAccountDeletion (accountId : Uuid) (observedAt : Timestamp) :
    Statement Event Unit := do
  updateAccount .invalidTransition accountId
    (fun row =>
      row.lifecycleState = .active || row.lifecycleState = .deleting)
    fun row => { row with lifecycleState := .deleting }
  let expenseCount ← countConfirmed context accountId
  requestDeletion environment accountId expenseCount
  let requestId ← fetchOne .invalidTransition fun view =>
    (view (.deletionRequest accountId)).map DeletionRequestRow.id
  enqueueDeleteInTransaction environment accountId requestId observedAt
  let _ ← .updateRow .invalidTransition (BotKey.conversationState accountId)
    (fun _ => true) fun row => ⟨none, row.version + 1⟩
  pure ()

end Jobs

section Receipts

/-- `AcceptReceiptSubmission`; the result is the reply to an exceeded
quota. -/
def acceptReceiptSubmission (accountId inboundEventId : Uuid)
    (observedAt : Timestamp) (submissionId ingestJobId effectEventId : Uuid) :
    Statement Event (Option String) :=
  if effectEventId ≠ inboundEventId then
    .fail .invalidTransition
  else do
    let timezone ← accountColumn accountId AccountRow.timezone
    let counter ← UsageQuota.incrementInTransaction .invalidTransition
      UsageQuota.scopeAccount accountId.text
      (context.dailyPeriodKey observedAt timezone) UsageQuota.metricReceipts
      (UsageQuota.storedLimit policy.perUserDailyReceipts)
    if counter.exceeded then
      let locale ← .query .invalidTransition fun view =>
        ((view (.account accountId)).map AccountRow.locale).getD "vi-VN"
      pure (some (environment.quotaText
        (Conversation.Locale.parse locale)))
    else do
      let _ ← (Receipts.acceptSubmissionInTransaction environment.now
        ⟨submissionId, accountId, some inboundEventId,
          ingestJobId⟩).mapError mapReceiptError
      pure none

/-- An effect on a receipt, which needs the lifecycle. -/
def onReceipt {Value : Type}
    (statement : Session BotRow Event ReceiptFailure Value) :
    Statement Event Unit :=
  if environment.receipts then do
    let _ ← statement.mapError mapReceiptError
    pure ()
  else
    .fail .invalidTransition

end Receipts

/-- The snapshot of a kind that is recorded for an account. -/
def snapshotOf (accountId : Uuid) (kind : InsightPeriodKind)
    (observedAt : Timestamp) (timezone : String) :
    Insights.RecordEnvironment :=
  let decided := environment.insight kind
  { decided with
    key := {
      accountId := accountId
      periodKind := kind
      periodStart := decided.key.periodStart
      timezone := timezone }
    now := environment.now
    observedAt := observedAt
    insightsLlmEnabled := policy.insightsLlmEnabled
    monthlyInsightNarratives := policy.monthlyInsightNarratives }

/-- `RecordInsightSnapshot`; the result is the reply.  The statements of the
snapshot run in the transaction that commits `event`. -/
def recordInsightSnapshot (accountId : Uuid) (observedAt : Timestamp)
    (periodKind : String) : Statement Event (Option String) :=
  match parsePeriodKind periodKind with
  | none => .fail .invalidTransition
  | some kind => do
      let preferences ← accountColumn accountId fun row =>
        (row.timezone, row.locale)
      let (_, aggregate) ← invalidOnError
        ((Insights.recordSnapshotInTransaction (snapshotOf environment policy
          accountId kind observedAt preferences.1)).mapEvent fun _ => event)
      pure (some (environment.summaryText
        (Conversation.Locale.parse preferences.2) kind aggregate))

/-- An effect without a reply of its own. -/
def silently (statement : Statement Event Unit) :
    Statement Event (Option String) := do
  statement
  pure none

/-- `apply_effect`. -/
def applyEffect (accountId inboundEventId : Uuid) (request : IngressRequest) :
    IngressEffect → Statement Event (Option String)
  | .grantConsent consentVersion =>
      silently (updateAccount .notFound accountId
        (·.lifecycleState = .pendingConsent) fun row =>
          { row with
            lifecycleState := .active
            consentVersion := some consentVersion
            consentedAt := some environment.now })
  | .createManualExpenseAwaitingConfirmation expenseId amountMinor currency
      description occurredAt optimisticVersion pendingExpiresAt
      pendingActionType =>
      silently do
        insertManualExpense expenseId (manualExpense accountId amountMinor
          currency description occurredAt optimisticVersion)
        upsertPendingAction accountId
          ⟨pendingActionType, some expenseId, pendingExpiresAt⟩
  | .confirmExpense expenseId expectedVersion =>
      silently (settleExpense accountId expenseId expectedVersion .confirmed)
  | .rejectExpense expenseId expectedVersion =>
      silently (settleExpense accountId expenseId expectedVersion .rejected)
  | .clearPendingAction expectedVersion =>
      silently (replacePending accountId none expectedVersion)
  | .acceptReceiptSubmission submissionId ingestJobId effectEventId =>
      if environment.receipts then
        acceptReceiptSubmission environment context policy accountId
          inboundEventId request.observedAt submissionId ingestJobId
          effectEventId
      else
        .fail .invalidTransition
  | .confirmReceipt submissionId expenseId expectedDraftVersion =>
      silently (onReceipt environment (Receipts.confirmInTransaction
        environment.now
        ⟨accountId, submissionId, expectedDraftVersion, expenseId⟩))
  | .rejectReceipt submissionId expectedDraftVersion =>
      silently (onReceipt environment (Receipts.rejectInTransaction
        environment.now ⟨accountId, submissionId, expectedDraftVersion⟩))
  | .editReceiptDraft submissionId expectedDraftVersion edit =>
      silently (onReceipt environment (Receipts.editDraftInTransaction
        environment.toRfc3339
        { accountId := accountId
          submissionId := submissionId
          expectedVersion := expectedDraftVersion
          amountMinor := edit.amountMinor
          currency := none
          merchant := edit.merchant
          categoryKey := edit.categoryKey
          occurredAt := edit.occurredAt
          transactionType := edit.transactionType }))
  | .editManualExpense expenseId expectedVersion edit =>
      silently (editManualExpenseInTransaction accountId expenseId
        expectedVersion edit)
  | .recategorizeLatest categoryKey =>
      silently (Expenses.recategorizeLatestInTransaction
        environment.latestExpense accountId categoryKey)
  | .setLocale locale =>
      silently (updateAccount .notFound accountId (fun _ => true) fun row =>
        { row with
          locale :=
            if RustText.startsWith (RustText.toAsciiLowercase locale) "en"
            then "en-US" else "vi-VN" })
  | .setTimezone iana =>
      if environment.isTimezone iana then
        silently do
          updateAccount .notFound accountId (fun _ => true) fun row =>
            { row with timezone := iana }
          recomputeAccountScheduleRuns environment accountId
            request.observedAt
      else
        .fail .invalidTransition
  | .upsertSummarySchedule frequency deliveryMinute =>
      silently (upsertSummarySchedule environment accountId request frequency
        deliveryMinute)
  | .disableSummarySchedule frequency =>
      silently (disableSummarySchedule accountId frequency)
  | .armAccountDeletion expiresAt =>
      silently (upsertPendingAction accountId
        ⟨.accountDeletion, none, expiresAt⟩)
  | .confirmAccountDeletion =>
      silently (confirmAccountDeletion environment context accountId
        request.observedAt)
  | .requestAccountExport =>
      silently (enqueueExportInTransaction environment accountId request)
  | .recordInsightSnapshot periodKind =>
      recordInsightSnapshot event environment policy accountId
        request.observedAt periodKind

/-- `apply_effects`: the last reply of an effect stands. -/
def applyEffects (accountId inboundEventId : Uuid)
    (request : IngressRequest) :
    List IngressEffect → Statement Event (Option String)
  | [] => pure none
  | effect :: effects => do
      let reply ← applyEffect event environment context policy accountId
        inboundEventId request effect
      let later ← applyEffects accountId inboundEventId request effects
      pure (later.or reply)

end Ingress

end ZaloBot
