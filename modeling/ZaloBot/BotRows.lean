import ZaloBot.OutboundRows
import ZaloBot.ReceiptTypes
import ZaloBot.SessionPrograms
import ZaloBot.WorkStore

/-!
# The rows of the bot's database

Every row that ingress, the receipt lifecycle and the account jobs lock or
write, addressed by a key.  The entries of unique indexes on other columns
than the primary key are rows of their own: the dedupe key of a job, the
submission of a confirmed expense, the event of a submission and the active
copy of an image.  Objects of the object store are rows as well.  Lists of
child rows that are only ever written under the lock of their parent (the
extraction attempts of a submission, the corrections of a draft) are one row
each.
-/

namespace ZaloBot

inductive IngressSource where
  | webhook
  | polling
deriving DecidableEq, Repr

/-- The row of `ingress_control`. -/
structure IngressControlRow where
  mode : IngressSource
  modeGeneration : Int
deriving DecidableEq, Repr

inductive IngressEventKind where
  | textCommandEnvelope
  | imageReceived
deriving DecidableEq, Repr

inductive ProcessingState where
  | accepted
  | rejected
deriving DecidableEq, Repr

/-- One row of `inbound_events`, without its key columns. -/
structure InboundEventRow where
  id : Uuid
  kind : IngressEventKind
  processingState : ProcessingState
  ingressSource : IngressSource
  accountId : Option Uuid
  processedAt : Option Timestamp
  mediaUrl : Option String
  providerChatId : String
deriving DecidableEq, Repr

/-- One row of `provider_identities`, without its key columns. -/
structure ProviderIdentityRow where
  id : Uuid
  accountId : Uuid
deriving DecidableEq, Repr

inductive LifecycleState where
  | pendingConsent
  | active
  | suspended
  | deleting
  | deleted
deriving DecidableEq, Repr

/-- One row of `accounts`. -/
structure AccountRow where
  lifecycleState : LifecycleState
  consentVersion : Option String
  consentedAt : Option Timestamp
  locale : String
  timezone : String
  retentionPreferenceDays : Int
  defaultCurrency : String
deriving DecidableEq, Repr

inductive PendingActionType where
  | manualExpenseConfirmation
  | receiptReview
  | accountDeletion
deriving DecidableEq, Repr

/-- The pending columns of `conversation_states`: all null, or an action with
its expiry. -/
structure PendingColumns where
  actionType : PendingActionType
  payloadRef : Option Uuid
  expiresAt : Timestamp
deriving DecidableEq, Repr

/-- One row of `conversation_states`. -/
structure ConversationRow where
  pending : Option PendingColumns
  version : Int
deriving DecidableEq, Repr

inductive ExpenseSource where
  | manual
  | receipt
deriving DecidableEq, Repr

inductive ExpenseState where
  | awaitingConfirmation
  | confirmed
  | rejected
deriving DecidableEq, Repr

/-- One row of `expenses`. -/
structure ExpenseRow where
  accountId : Uuid
  amountMinor : Int
  currency : String
  occurredAt : Timestamp
  description : String
  source : ExpenseSource
  state : ExpenseState
  version : Int
  receiptSubmissionId : Option Uuid
  categoryKey : String
  transactionType : String
deriving DecidableEq, Repr

/-- One row of `receipt_submissions`.  `history` is not stored by the program:
it lists the states the row has been in, latest first. -/
structure SubmissionRow where
  accountId : Uuid
  inboundEventId : Option Uuid
  state : ReceiptState
  version : Int
  duplicateOfSubmissionId : Option Uuid
  confirmedExpenseId : Option Uuid
  failureErrorClass : Option String
  reviewExpiresAt : Option Timestamp
  history : List ReceiptState
deriving DecidableEq, Repr

inductive DeletionState where
  | active
  | deleted
deriving DecidableEq, Repr

/-- One row of `receipt_assets`. -/
structure AssetRow where
  id : Uuid
  accountId : Uuid
  objectKey : String
  image : ValidatedImage
  retentionDeadline : Timestamp
  deletionState : DeletionState
  originalDeletedAt : Option Timestamp
deriving DecidableEq, Repr

/-- One row of `expense_drafts`; the confidence is left out. -/
structure DraftRow where
  id : Uuid
  accountId : Uuid
  amountMinor : Int
  currency : String
  merchant : String
  categoryKey : String
  transactionType : String
  occurredAt : Timestamp
  version : Int
deriving DecidableEq, Repr

/-- One row of `draft_corrections`. -/
structure CorrectionRow where
  draftId : Uuid
  fieldName : String
  oldValue : Option String
  newValue : Option String
deriving DecidableEq, Repr

inductive ExtractionAttemptOutcome where
  | success
  | failed
deriving DecidableEq, Repr

/-- One row of `extraction_attempts`. -/
structure ExtractionAttemptRow where
  attemptNumber : Int
  outcome : ExtractionAttemptOutcome
  errorClass : Option String
deriving DecidableEq, Repr

inductive DeletionRequestState where
  | requested
  | running
  | completed
  | failed
deriving DecidableEq, Repr

/-- One row of `deletion_requests`. -/
structure DeletionRequestRow where
  id : Uuid
  state : DeletionRequestState
  expenseCount : Int
deriving DecidableEq, Repr

/-- One row of `usage_counters`, without its key columns. -/
structure UsageCounterRow where
  count : Int
  limitValue : Int
deriving DecidableEq, Repr

inductive Frequency where
  | daily
  | weekly
  | monthly
deriving DecidableEq, Repr

/-- One row of `summary_schedules`, without its key columns. -/
structure SummaryScheduleRow where
  id : Uuid
  deliveryMinute : Int
  providerScope : String
  providerChatId : String
  enabled : Bool
  nextRunAt : Timestamp
  lastEmittedAt : Option Timestamp
deriving DecidableEq, Repr

namespace SpendingTotals

/-- One entry of `by_category` or `top_merchants`, under its key. -/
structure GroupTotal where
  key : String
  display : String
  totalMinor : Int
  count : Nat
deriving DecidableEq, Repr

structure InsightAggregate where
  totalMinor : Int
  currency : String
  txCount : Nat
  byCategory : List GroupTotal
  topMerchants : List GroupTotal
deriving DecidableEq, Repr

end SpendingTotals

inductive InsightPeriodKind where
  | day
  | week
  | month
deriving DecidableEq, Repr

/-- The columns of the unique index of `insight_snapshots`; all snapshots have
the schema `insight-v1`. -/
structure SnapshotKey where
  accountId : Uuid
  periodKind : InsightPeriodKind
  periodStart : Timestamp
  timezone : String
deriving DecidableEq, Repr

/-- One row of `insight_snapshots`, without its key columns. -/
structure SnapshotRow where
  id : Uuid
  periodEnd : Timestamp
  aggregate : SpendingTotals.InsightAggregate
  narrativeText : Option String
  narrativeProfile : Option String
  narrativeGeneratedAt : Option Timestamp
deriving DecidableEq, Repr

/-- The addresses of rows. -/
inductive BotKey where
  | ingressControl
  | inboundEvent (providerScope providerEventId : String)
  | providerIdentity (providerScope providerSenderId : String)
  | account (id : Uuid)
  | conversationState (accountId : Uuid)
  | expense (id : Uuid)
  | receiptExpense (submissionId : Uuid)
  | submission (id : Uuid)
  | eventSubmission (inboundEventId : Uuid)
  | asset (submissionId : Uuid)
  | activeImage (accountId : Uuid) (contentSha256 : String)
  | extractionAttempts (submissionId : Uuid)
  | draft (submissionId : Uuid)
  | corrections (submissionId : Uuid)
  | object (objectKey : String)
  | deletionRequest (accountId : Uuid)
  | job (dedupeKey : String)
  | outbound (idempotencyKey : String)
  | usageCounter (scope scopeId period metric : String)
  | summarySchedule (accountId : Uuid) (frequency : Frequency)
  | insightSnapshot (key : SnapshotKey)
deriving DecidableEq, Repr

/-- What is stored under a key; index entries hold the primary key they lead
to. -/
@[reducible]
def BotRow : BotKey → Type
  | .ingressControl => IngressControlRow
  | .inboundEvent _ _ => InboundEventRow
  | .providerIdentity _ _ => ProviderIdentityRow
  | .account _ => AccountRow
  | .conversationState _ => ConversationRow
  | .expense _ => ExpenseRow
  | .receiptExpense _ => Uuid
  | .submission _ => SubmissionRow
  | .eventSubmission _ => Uuid
  | .asset _ => AssetRow
  | .activeImage _ _ => Uuid
  | .extractionAttempts _ => List ExtractionAttemptRow
  | .draft _ => DraftRow
  | .corrections _ => List CorrectionRow
  | .object _ => List UInt8
  | .deletionRequest _ => DeletionRequestRow
  | .job _ => JobRow
  | .outbound _ => OutboundRow
  | .usageCounter _ _ _ _ => UsageCounterRow
  | .summarySchedule _ _ => SummaryScheduleRow
  | .insightSnapshot _ => SnapshotRow

abbrev BotStore := Sessions.Store BotRow

/-- The database right after the migrations. -/
def BotStore.initial : BotStore
  | .ingressControl => some ⟨.webhook, 1⟩
  | _ => none

/-- The category keys the migrations insert. -/
def categoryKeys : List String :=
  ["an-uong", "thuc-pham", "di-lai", "hoa-don", "mua-sam", "suc-khoe",
    "giai-tri", "giao-duc", "nha-o", "thu-nhap", "hoan-tien",
    "chuyen-khoan", "khac"]

end ZaloBot
