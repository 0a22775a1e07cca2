import Mathlib.Data.List.Sort
import ZaloBot.ConversationDecisions
import ZaloBot.ExpenseStatements
import ZaloBot.JobExecutions

/-!
# What an ingress event is decided on

The context that `load_decision_context` reads for the decision about one
event, the bridge from this context to the conversation, and the effects that
the commands of the conversation become.  The time zone database, the texts of
the catalog and the parts of texts that are read are parameters, and so are the
ids of the expenses among which the queries select.
-/

namespace ZaloBot

open Sessions

/-- A normalized event. -/
structure IngressRequest where
  source : IngressSource
  providerScope : String
  providerEventId : String
  providerSenderId : String
  providerChatId : String
  senderAllowed : Bool
  userText : String
  observedAt : Timestamp
deriving DecidableEq, Repr

structure IngressObservation where
  eventKind : IngressEventKind
  mediaUrl : Option String
deriving DecidableEq, Repr

inductive IngressOutcome where
  | accepted (inboundEventId : Uuid)
  | duplicate (inboundEventId : Uuid)
  | modeRejected (inboundEventId : Uuid)
deriving DecidableEq, Repr

structure IngressPolicy where
  perUserDailyReceipts : Nat
  outboundEnabled : Bool
  zaloMonthlyMessages : Nat
  insightsLlmEnabled : Bool
  monthlyInsightNarratives : Nat
deriving DecidableEq, Repr

/-- `IngressPolicy::default`. -/
def IngressPolicy.default : IngressPolicy :=
  ⟨20, true, 3000, false, 30⟩

structure RecentExpense where
  id : Uuid
  amountMinor : Int
  currency : String
  occurredAt : Timestamp
  description : String
  source : ExpenseSource
  state : ExpenseState
  version : Int
  categoryKey : String
  transactionType : String
deriving DecidableEq, Repr

structure ReceiptDraftSnapshot where
  submissionId : Uuid
  amountMinor : Int
  currency : String
  merchant : String
  categoryKey : String
  categoryDisplay : String
  transactionType : String
  occurredAt : Timestamp
  version : Int
deriving DecidableEq, Repr

structure PendingAction where
  actionType : PendingActionType
  payloadRef : Option Uuid
  expiresAt : Timestamp
  version : Int
  expense : Option RecentExpense
  receiptDraft : Option ReceiptDraftSnapshot
deriving DecidableEq, Repr

structure SummaryScheduleSnapshot where
  frequency : String
  deliveryMinute : Int
  enabled : Bool
deriving DecidableEq, Repr

structure DecisionContext where
  accountId : Option Uuid
  inboundEventId : Option Uuid
  lifecycleState : Option LifecycleState
  consentVersion : Option String
  pendingAction : Option PendingAction
  today : SpendingTotals.PeriodTotals
  week : SpendingTotals.PeriodTotals
  month : SpendingTotals.PeriodTotals
  defaultCurrency : String
  schedules : List SummaryScheduleSnapshot
  recentExpenses : List RecentExpense
  senderAllowed : Bool
  userText : String
  timezone : String
  locale : String
  originalReceiptRetentionDays : Nat
  nextExpenseId : Uuid
  nextSubmissionId : Uuid
  nextIngestJobId : Uuid
  remainingDailyReceipts : Int
  confirmedExpenseCount : Nat
  now : Timestamp
deriving DecidableEq, Repr

/-- The effects of an event; the variants that no command maps to are left
out. -/
inductive IngressEffect where
  | grantConsent (consentVersion : String)
  | createManualExpenseAwaitingConfirmation (expenseId : Uuid)
      (amountMinor : Int) (currency description : String)
      (occurredAt : Timestamp) (optimisticVersion : Int)
      (pendingExpiresAt : Timestamp) (pendingActionType : PendingActionType)
  | confirmExpense (expenseId : Uuid) (expectedVersion : Int)
  | rejectExpense (expenseId : Uuid) (expectedVersion : Int)
  | clearPendingAction (expectedVersion : Int)
  | acceptReceiptSubmission (submissionId ingestJobId inboundEventId : Uuid)
  | confirmReceipt (submissionId expenseId : Uuid)
      (expectedDraftVersion : Int)
  | rejectReceipt (submissionId : Uuid) (expectedDraftVersion : Int)
  | editReceiptDraft (submissionId : Uuid) (expectedDraftVersion : Int)
      (edit : Conversation.DraftEdit)
  | editManualExpense (expenseId : Uuid) (expectedVersion : Int)
      (edit : Conversation.DraftEdit)
  | recategorizeLatest (categoryKey : String)
  | setLocale (locale : String)
  | setTimezone (iana : String)
  | upsertSummarySchedule (frequency : String) (deliveryMinute : Int)
  | disableSummarySchedule (frequency : Option String)
  | armAccountDeletion (expiresAt : Timestamp)
  | confirmAccountDeletion
  | requestAccountExport
  | recordInsightSnapshot (periodKind : String)
deriving DecidableEq, Repr

structure DecisionOutput where
  effects : List IngressEffect
  reply : Option String
deriving DecidableEq, Repr

namespace Ingress

open Conversation

/-- What decisions use of the time zone database and of the texts. -/
structure IngressTexts where
  library : TextLibrary
  zones : ZoneLibrary
  cards : CardTexts
  periodLabel : Conversation.Locale → InsightPeriodKind → String
  render : Conversation.Locale → ReplyPlan → String

section Deciding

variable (texts : IngressTexts)

/-- `version as u64` of a stored version. -/
def asU64 (version : Int) : Nat :=
  (version % 18446744073709551616).toNat

/-- `i32::try_from`. -/
def tryI32 (version : Nat) : Except IngressEffectError Int :=
  if version ≤ 2147483647 then .ok version else .error .invalidTransition

/-- The lifecycle that the conversation sees. -/
def conversationLifecycle : Option LifecycleState → AccountPosture
  | some .active => .active
  | some .suspended | some .deleting | some .deleted => .suspended
  | some .pendingConsent | none => .pendingConsent

/-- The confirmation of a pending deletion. -/
def deletionConfirmation (context : DecisionContext)
    (pending : PendingAction) : PendingConfirmation where
  kind := .accountDeletion
  referenceId :=
    context.accountId.getD ⟨"00000000-0000-0000-0000-000000000000"⟩
  optimisticVersion := asU64 pending.version
  expiresAt := pending.expiresAt
  draft :=
    { version := asU64 pending.version
      amountMinor := 0
      currency := context.defaultCurrency
      merchant := ""
      categoryKey := "khac"
      categoryDisplay := ""
      transactionType := "expense"
      typeLabel := ""
      dateDisplay := ""
      occurredAt := context.now }

/-- The confirmation of a pending manual expense. -/
def manualConfirmation (context : DecisionContext) (pending : PendingAction)
    (expense : RecentExpense) : PendingConfirmation where
  kind := .manualExpense
  referenceId := expense.id
  optimisticVersion := asU64 expense.version
  expiresAt := pending.expiresAt
  draft :=
    { version := asU64 expense.version
      amountMinor := expense.amountMinor
      currency := expense.currency
      merchant := expense.description
      categoryKey := expense.categoryKey
      categoryDisplay := texts.cards.categoryDisplay
        (Conversation.Locale.parse context.locale) expense.categoryKey
      transactionType := expense.transactionType
      typeLabel := texts.cards.transactionTypeLabel
        (Conversation.Locale.parse context.locale) expense.transactionType
      dateDisplay := formatDateVn texts.zones expense.occurredAt
        context.timezone
      occurredAt := expense.occurredAt }

/-- The confirmation of a pending receipt review. -/
def reviewConfirmation (context : DecisionContext) (pending : PendingAction)
    (draft : ReceiptDraftSnapshot) : PendingConfirmation where
  kind := .receiptReview
  referenceId := draft.submissionId
  optimisticVersion := asU64 draft.version
  expiresAt := pending.expiresAt
  draft :=
    { version := asU64 draft.version
      amountMinor := draft.amountMinor
      currency := draft.currency
      merchant := draft.merchant
      categoryKey := draft.categoryKey
      categoryDisplay := draft.categoryDisplay
      transactionType := draft.transactionType
      typeLabel := texts.cards.transactionTypeLabel
        (Conversation.Locale.parse context.locale) draft.transactionType
      dateDisplay := formatDateVn texts.zones draft.occurredAt
        context.timezone
      occurredAt := draft.occurredAt }

/-- The pending confirmation that the conversation sees. -/
def pendingConfirmation (context : DecisionContext) :
    Option PendingConfirmation :=
  match context.pendingAction with
  | none => none
  | some pending =>
      if pending.actionType = .accountDeletion then
        some (deletionConfirmation context pending)
      else
        (pending.expense.map (manualConfirmation texts context pending)).or
          (pending.receiptDraft.map (reviewConfirmation texts context pending))

/-- A confirmed expense as the conversation lists it. -/
def recentLine (context : DecisionContext) (expense : RecentExpense) :
    RecentExpenseLine where
  dateDisplay := formatDateVn texts.zones expense.occurredAt context.timezone
  amountMinor := expense.amountMinor
  currency := expense.currency
  merchant := expense.description
  categoryDisplay := texts.cards.categoryDisplay
    (Conversation.Locale.parse context.locale) expense.categoryKey
  typeLabel := some (texts.cards.transactionTypeLabel
    (Conversation.Locale.parse context.locale) expense.transactionType)

/-- The totals of a period as the conversation shows them. -/
def periodSummary (context : DecisionContext) (kind : InsightPeriodKind)
    (totals : SpendingTotals.PeriodTotals) : PeriodSummary where
  label := texts.periodLabel (Conversation.Locale.parse context.locale) kind
  currency := totals.currency
  totalMinor := totals.totalMinor
  txCount := totals.countAsU32

/-- `to_conversation_context`. -/
def toConversationContext (context : DecisionContext) : AccountContext where
  nextExpenseId := context.nextExpenseId
  nextSubmissionId := context.nextSubmissionId
  nextIngestJobId := context.nextIngestJobId
  lifecycle := conversationLifecycle context.lifecycleState
  allowlisted := context.senderAllowed
  defaultCurrency := context.defaultCurrency
  timezone := context.timezone
  locale := context.locale
  originalReceiptRetentionDays := context.originalReceiptRetentionDays
  remainingDailyReceipts := context.remainingDailyReceipts
  confirmedExpenseCount := context.confirmedExpenseCount
  pending := pendingConfirmation texts context
  todaySummary := some (periodSummary texts context .day context.today)
  weekSummary := some (periodSummary texts context .week context.week)
  monthSummary := some (periodSummary texts context .month context.month)
  schedules := context.schedules.map fun schedule =>
    ⟨schedule.frequency, schedule.deliveryMinute, schedule.enabled⟩
  recentLines :=
    (context.recentExpenses.filter (·.state = .confirmed)).map
      (recentLine texts context)

/-- `map_command`. -/
def mapCommand (pendingStateVersion : Option Int) (inboundEventId : Uuid) :
    DomainCommand → Except IngressEffectError IngressEffect
  | .grantConsent consentVersion => pure (.grantConsent consentVersion)
  | .createManualAwaitingConfirmation expenseId amountMinor currency
      description _ occurredAt optimisticVersion pendingExpiresAt => do
      let version ← tryI32 optimisticVersion
      pure (.createManualExpenseAwaitingConfirmation expenseId amountMinor
        currency description occurredAt version pendingExpiresAt
        .manualExpenseConfirmation)
  | .confirmExpense expenseId expectedVersion => do
      let version ← tryI32 expectedVersion
      pure (.confirmExpense expenseId version)
  | .rejectExpense expenseId expectedVersion => do
      let version ← tryI32 expectedVersion
      pure (.rejectExpense expenseId version)
  | .acceptReceiptSubmission submissionId ingestJobId =>
      pure (.acceptReceiptSubmission submissionId ingestJobId inboundEventId)
  | .confirmReceipt submissionId expenseId expectedDraftVersion => do
      let version ← tryI32 expectedDraftVersion
      pure (.confirmReceipt submissionId expenseId version)
  | .rejectReceipt submissionId expectedDraftVersion => do
      let version ← tryI32 expectedDraftVersion
      pure (.rejectReceipt submissionId version)
  | .editReceiptDraft submissionId expectedDraftVersion edit => do
      let version ← tryI32 expectedDraftVersion
      pure (.editReceiptDraft submissionId version edit)
  | .editManualExpense expenseId expectedVersion edit => do
      let version ← tryI32 expectedVersion
      pure (.editManualExpense expenseId version edit)
  | .recategorizeLatest categoryKey => pure (.recategorizeLatest categoryKey)
  | .clearPending =>
      match pendingStateVersion with
      | none => .error .notFound
      | some version => pure (.clearPendingAction version)
  | .setLocale locale => pure (.setLocale locale)
  | .setTimezone iana => pure (.setTimezone iana)
  | .upsertSchedule frequency deliveryMinute =>
      pure (.upsertSummarySchedule frequency deliveryMinute)
  | .disableSchedule frequency => pure (.disableSummarySchedule frequency)
  | .requestAccountDeletion pendingExpiresAt =>
      pure (.armAccountDeletion pendingExpiresAt)
  | .confirmAccountDeletion => pure .confirmAccountDeletion
  | .requestAccountExport => pure .requestAccountExport
  | .recordInsightSnapshot periodKind =>
      pure (.recordInsightSnapshot periodKind)

/-- `map_outcome`. -/
def mapOutcome (outcome : ConversationOutcome) (context : DecisionContext) :
    Except IngressEffectError DecisionOutput :=
  match context.inboundEventId with
  | none => .error .invalidTransition
  | some inboundEventId => do
      let effects ← outcome.commands.mapM
        (mapCommand (context.pendingAction.map PendingAction.version)
          inboundEventId)
      match outcome.replies with
      | [] => pure ⟨effects, none⟩
      | [reply] =>
          pure ⟨effects,
            some (texts.render (Conversation.Locale.parse context.locale)
              reply)⟩
      | _ => .error .invalidTransition

/-- `decide_text_and_map`. -/
def decideTextAndMap (context : DecisionContext) :
    Except IngressEffectError DecisionOutput :=
  mapOutcome texts
    (decide texts.library texts.zones texts.cards
      (toConversationContext texts context) context.userText context.now)
    context

/-- `decide_image_and_map`. -/
def decideImageAndMap (context : DecisionContext) :
    Except IngressEffectError DecisionOutput :=
  mapOutcome texts (decideImage (toConversationContext texts context)) context

end Deciding

section Loading

variable {Event : Type}

/-- Statements of an ingress transaction before its end. -/
abbrev Statement (Event Value : Type) :=
  Expenses.Statement Event Value

/-- What the environment decides while a context is loaded.  `expenseIds` are
the expenses among which the queries select, latest created first; `localDate`
is the date of an instant in a zone that the database knows. -/
structure ContextEnvironment where
  expenseIds : List Uuid
  localDate : String → Option (Timestamp → Int)
  interactivePeriod : Frequency → Timestamp → String →
    Option (Timestamp × Timestamp)
  dailyPeriodKey : Timestamp → String → String
  categoryDisplay : Bool → String → String
  nextExpenseId : Uuid
  nextSubmissionId : Uuid
  nextIngestJobId : Uuid

/-- A query whose answer may be an error or no row. -/
def fetchOne {Value : Type} (error : IngressEffectError)
    (ask : BotStore → Option Value) : Statement Event Value := do
  let answer ← .query .invalidTransition ask
  match answer with
  | none => .fail error
  | some value => pure value

variable (environment : ContextEnvironment)

/-- The expenses of an account. -/
def expensesOf (view : BotStore) (accountId : Uuid) :
    List (Uuid × ExpenseRow) :=
  environment.expenseIds.filterMap fun id =>
    ((view (.expense id)).filter (·.accountId = accountId)).map fun row =>
      (id, row)

/-- One row of the selection of recent expenses. -/
def recentExpense (id : Uuid) (row : ExpenseRow) : RecentExpense where
  id := id
  amountMinor := row.amountMinor
  currency := row.currency
  occurredAt := row.occurredAt
  description := row.description
  source := row.source
  state := row.state
  version := row.version
  categoryKey := row.categoryKey
  transactionType := row.transactionType

/-- `ORDER BY occurred_at DESC, created_at DESC LIMIT 10`. -/
def recentOf (view : BotStore) (accountId : Uuid) : List RecentExpense :=
  (((expensesOf environment view accountId).insertionSort
    fun first second => second.2.occurredAt ≤ first.2.occurredAt).take 10).map
      fun (id, row) => recentExpense id row

/-- `load_period_totals`. -/
def loadPeriodTotals (accountId : Uuid) (period : Timestamp × Timestamp)
    (fallbackCurrency : String) :
    Statement Event SpendingTotals.PeriodTotals :=
  fetchOne .invalidTransition fun view =>
    SpendingTotals.loadPeriodTotals
      ((expensesOf environment view accountId).map Prod.snd) accountId
      period.1 period.2 fallbackCurrency

/-- The totals of the day of the event. -/
def loadTodayTotals (accountId : Uuid) (observedAt : Timestamp)
    (timezone : String) : Statement Event SpendingTotals.PeriodTotals :=
  fetchOne .invalidTransition fun view => do
    let localDate ← environment.localDate timezone
    SpendingTotals.loadTodayTotals localDate
      ((expensesOf environment view accountId).map Prod.snd) accountId
      observedAt

/-- The totals of the current period of a frequency. -/
def loadInteractiveTotals (accountId : Uuid) (frequency : Frequency)
    (observedAt : Timestamp) (timezone fallbackCurrency : String) :
    Statement Event SpendingTotals.PeriodTotals :=
  match environment.interactivePeriod frequency observedAt timezone with
  | none => .fail .invalidTransition
  | some period =>
      loadPeriodTotals environment accountId period fallbackCurrency

/-- The confirmed expenses of an account are counted. -/
def countConfirmed (accountId : Uuid) : Statement Event Nat :=
  .query .invalidTransition fun view =>
    ((expensesOf environment view accountId).filter
      fun expense => expense.2.state = .confirmed).length

/-- The schedules of an account, in the order of their frequencies. -/
def loadSchedules (accountId : Uuid) :
    Statement Event (List SummaryScheduleSnapshot) :=
  .query .invalidTransition fun view =>
    [Frequency.daily, Frequency.monthly, Frequency.weekly].filterMap
      fun frequency =>
        (view (.summarySchedule accountId frequency)).map fun row =>
          ⟨Executions.frequencyText frequency, row.deliveryMinute,
            row.enabled⟩

/-- `remaining_in_transaction` for the receipts of a day. -/
def remainingReceipts (policy : IngressPolicy) (accountId : Uuid)
    (period : String) : Statement Event Int :=
  .query .invalidTransition fun view =>
    let counter := view (.usageCounter UsageQuota.scopeAccount accountId.text
      period UsageQuota.metricReceipts)
    max (UsageQuota.storedLimit policy.perUserDailyReceipts -
      (counter.map UsageCounterRow.count).getD 0) 0

/-- `load_receipt_draft_snapshot`. -/
def loadReceiptDraftSnapshot (accountId submissionId : Uuid) :
    Statement Event (Option ReceiptDraftSnapshot) := do
  let locale ← fetchOne .invalidTransition fun view =>
    (view (.account accountId)).map AccountRow.locale
  let useEn := RustText.startsWith (RustText.toAsciiLowercase locale) "en"
  .query .invalidTransition fun view => do
    let draft ← view (.draft submissionId)
    let submission ← view (.submission submissionId)
    if draft.accountId = accountId ∧ submission.accountId = accountId ∧
        submission.state = .reviewRequired then
      pure
        { submissionId := submissionId
          amountMinor := draft.amountMinor
          currency := draft.currency
          merchant := draft.merchant
          categoryKey := draft.categoryKey
          categoryDisplay :=
            environment.categoryDisplay useEn draft.categoryKey
          transactionType := draft.transactionType
          occurredAt := draft.occurredAt
          version := draft.version }
    else
      none

/-- The expense of a pending manual confirmation. -/
def loadPendingExpense (accountId expenseId : Uuid)
    (recent : List RecentExpense) : Statement Event (Option RecentExpense) :=
  match recent.find? (·.id = expenseId) with
  | some expense => pure (some expense)
  | none =>
      .query .invalidTransition fun view =>
        ((view (.expense expenseId)).filter (·.accountId = accountId)).map
          (recentExpense expenseId)

/-- The pending action with what it is about. -/
def loadPendingAction (accountId : Uuid) (recent : List RecentExpense)
    (row : Option ConversationRow) : Statement Event (Option PendingAction) :=
  match row with
  | none => pure none
  | some row =>
      match row.pending with
      | none => pure none
      | some pending =>
          let action := PendingAction.mk pending.actionType pending.payloadRef
            pending.expiresAt row.version
          match pending.actionType, pending.payloadRef with
          | .manualExpenseConfirmation, some expenseId => do
              let expense ← loadPendingExpense accountId expenseId recent
              pure (some (action expense none))
          | .receiptReview, some submissionId => do
              let draft ← loadReceiptDraftSnapshot environment accountId
                submissionId
              pure (some (action none draft))
          | _, _ => pure (some (action none none))

/-- `load_decision_context`. -/
def loadDecisionContext (policy : IngressPolicy)
    (accountId inboundEventId : Uuid) (request : IngressRequest) :
    Statement Event DecisionContext := do
  let account ← fetchOne .notFound fun view => view (.account accountId)
  let conversation ← .query .invalidTransition fun view =>
    view (.conversationState accountId)
  let preferences ← fetchOne .invalidTransition fun view =>
    view (.account accountId)
  let today ← loadTodayTotals environment accountId request.observedAt
    preferences.timezone
  let week ← loadInteractiveTotals environment accountId .weekly
    request.observedAt preferences.timezone preferences.defaultCurrency
  let month ← loadInteractiveTotals environment accountId .monthly
    request.observedAt preferences.timezone preferences.defaultCurrency
  let confirmedExpenseCount ← countConfirmed environment accountId
  let schedules ← loadSchedules accountId
  let remainingDailyReceipts ← remainingReceipts policy accountId
    (environment.dailyPeriodKey request.observedAt preferences.timezone)
  let recentExpenses ← .query .invalidTransition fun view =>
    recentOf environment view accountId
  let pendingAction ← loadPendingAction environment accountId recentExpenses
    conversation
  pure
    { accountId := some accountId
      inboundEventId := some inboundEventId
      lifecycleState := some account.lifecycleState
      consentVersion := account.consentVersion
      pendingAction := pendingAction
      today := today
      week := week
      month := month
      defaultCurrency := preferences.defaultCurrency
      schedules := schedules
      recentExpenses := recentExpenses
      senderAllowed := true
      userText := request.userText
      timezone := preferences.timezone
      locale := preferences.locale
      originalReceiptRetentionDays :=
        (preferences.retentionPreferenceDays % 4294967296).toNat
      nextExpenseId := environment.nextExpenseId
      nextSubmissionId := environment.nextSubmissionId
      nextIngestJobId := environment.nextIngestJobId
      remainingDailyReceipts := remainingDailyReceipts
      confirmedExpenseCount := min confirmedExpenseCount 4294967295
      now := request.observedAt }

/-- The context of a sender that is not allowed. -/
def strangerContext (policy : IngressPolicy) (inboundEventId : Uuid)
    (request : IngressRequest) : DecisionContext where
  accountId := none
  inboundEventId := some inboundEventId
  lifecycleState := none
  consentVersion := none
  pendingAction := none
  today := ⟨0, 0, "VND"⟩
  week := ⟨0, 0, "VND"⟩
  month := ⟨0, 0, "VND"⟩
  defaultCurrency := "VND"
  schedules := []
  recentExpenses := []
  senderAllowed := false
  userText := request.userText
  timezone := "Asia/Ho_Chi_Minh"
  locale := "vi-VN"
  originalReceiptRetentionDays := 7
  nextExpenseId := environment.nextExpenseId
  nextSubmissionId := environment.nextSubmissionId
  nextIngestJobId := environment.nextIngestJobId
  remainingDailyReceipts :=
    UsageQuota.storedLimit policy.perUserDailyReceipts
  confirmedExpenseCount := 0
  now := request.observedAt

end Loading

end Ingress

end ZaloBot
