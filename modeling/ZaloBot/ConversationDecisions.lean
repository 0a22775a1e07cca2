import ZaloBot.ConversationIntents
import ZaloBot.ErrorClass

/-!
# What the bot decides to do

The pure decision about a text or an image of an account.  Replies are given by
the template that renders them, with its arguments.  The time zone database is
outside the repository: which names it knows, the local date of an instant and
the instants of a local noon are parameters.
-/

namespace ZaloBot

namespace Conversation

inductive Locale where
  | vi
  | en
deriving DecidableEq, Repr

/-- `Locale::parse`. -/
def Locale.parse (value : String) : Locale :=
  if RustText.startsWith (RustText.toAsciiLowercase (RustText.trim value))
      "en" then
    .en
  else
    .vi

/-- `as_account_value`. -/
def Locale.asAccountValue : Locale → String
  | .vi => "vi-VN"
  | .en => "en-US"

inductive AccountPosture where
  | pendingConsent
  | active
  | suspended
deriving DecidableEq, Repr

inductive PendingKind where
  | manualExpense
  | receiptReview
  | accountDeletion
deriving DecidableEq, Repr

structure ManualDraftView where
  version : Nat
  amountMinor : Int
  currency : String
  merchant : String
  categoryKey : String
  categoryDisplay : String
  transactionType : String
  typeLabel : String
  dateDisplay : String
  occurredAt : Timestamp
deriving DecidableEq, Repr

structure PendingConfirmation where
  kind : PendingKind
  referenceId : Uuid
  optimisticVersion : Nat
  expiresAt : Timestamp
  draft : ManualDraftView
deriving DecidableEq, Repr

structure PeriodSummary where
  label : String
  currency : String
  totalMinor : Int
  txCount : Nat
deriving DecidableEq, Repr

structure ScheduleLine where
  frequency : String
  deliveryMinute : Int
  enabled : Bool
deriving DecidableEq, Repr

structure RecentExpenseLine where
  dateDisplay : String
  amountMinor : Int
  currency : String
  merchant : String
  categoryDisplay : String
  typeLabel : Option String
deriving DecidableEq, Repr

structure AccountContext where
  nextExpenseId : Uuid
  nextSubmissionId : Uuid
  nextIngestJobId : Uuid
  lifecycle : AccountPosture
  allowlisted : Bool
  defaultCurrency : String
  timezone : String
  locale : String
  originalReceiptRetentionDays : Nat
  remainingDailyReceipts : Int
  confirmedExpenseCount : Nat
  pending : Option PendingConfirmation
  todaySummary : Option PeriodSummary
  weekSummary : Option PeriodSummary
  monthSummary : Option PeriodSummary
  schedules : List ScheduleLine
  recentLines : List RecentExpenseLine
deriving DecidableEq, Repr

/-- The fields of an edit command; `none` leaves a field alone. -/
structure DraftEdit where
  amountMinor : Option Int
  merchant : Option String
  categoryKey : Option String
  occurredAt : Option Timestamp
  transactionType : Option String
deriving DecidableEq, Repr

inductive DomainCommand where
  | grantConsent (consentVersion : String)
  | createManualAwaitingConfirmation (expenseId : Uuid) (amountMinor : Int)
      (currency description merchant : String) (occurredAt : Timestamp)
      (optimisticVersion : Nat) (pendingExpiresAt : Timestamp)
  | confirmExpense (expenseId : Uuid) (expectedVersion : Nat)
  | rejectExpense (expenseId : Uuid) (expectedVersion : Nat)
  | acceptReceiptSubmission (submissionId ingestJobId : Uuid)
  | confirmReceipt (submissionId expenseId : Uuid)
      (expectedDraftVersion : Nat)
  | rejectReceipt (submissionId : Uuid) (expectedDraftVersion : Nat)
  | editReceiptDraft (submissionId : Uuid) (expectedDraftVersion : Nat)
      (edit : DraftEdit)
  | editManualExpense (expenseId : Uuid) (expectedVersion : Nat)
      (edit : DraftEdit)
  | recategorizeLatest (categoryKey : String)
  | clearPending
  | setLocale (locale : String)
  | setTimezone (iana : String)
  | upsertSchedule (frequency : String) (deliveryMinute : Int)
  | disableSchedule (frequency : Option String)
  | requestAccountDeletion (pendingExpiresAt : Timestamp)
  | confirmAccountDeletion
  | requestAccountExport
  | recordInsightSnapshot (periodKind : String)
deriving DecidableEq, Repr

/-- The card of a draft. -/
structure DraftCard where
  merchant : String
  amountMinor : Int
  currency : String
  dateDisplay : String
  typeLabel : String
  categoryDisplay : String
deriving DecidableEq, Repr

/-- A reply, by the template that renders it. -/
inductive ReplyPlan where
  | notAllowed
  | suspended
  | consentCard
  | welcome
  | privacy (retentionDays : Nat)
  | help
  | unknown
  | dailyReceiptQuota
  | imageReceived
  | invalidLanguage
  | languageUpdated (language : Locale)
  | invalidCategory
  | noExpenseToRecategorize
  | recategorized (merchant categoryKey : String)
  | deleteAccepted (expenseCount : Nat)
  | deleteCancelled
  | deleteConfirm (expenseCount : Nat)
  | exportAccepted
  | confirmed (amountMinor : Int)
      (currency merchant categoryDisplay : String)
  | discarded
  | card (card : DraftCard)
  | invalidEdit
  | pendingExpired
  | categoriesList
  | recent (lines : List RecentExpenseLine)
  | summary (period : PeriodSummary)
  | emptySummary (label : String)
  | emptyPeriod (periodKind : String)
  | settings (timezone currency : String) (schedules : List ScheduleLine)
  | invalidSettings
  | invalidTimezone
  | settingsUpdated (timezone currency : String)
      (schedules : List ScheduleLine)
  | scheduleDisabled (frequency : Option String)
  | schedules (schedules : List ScheduleLine)
  | scheduleInvalid
  | scheduleSet (frequency : String) (deliveryMinute : Int)
deriving DecidableEq, Repr

structure ConversationOutcome where
  replies : List ReplyPlan
  commands : List DomainCommand
deriving DecidableEq, Repr

def consentVersion : String :=
  "consent-v1"

def pendingConfirmationTtlSecs : Int :=
  15 * 60

/-- The time zone database; unknown names are read as UTC where the source
does. -/
structure ZoneLibrary where
  known : String → Bool
  localDate : String → Timestamp → NaiveDate
  localNoon : String → NaiveDate → List Timestamp

/-- The texts of the catalog that cards show. -/
structure CardTexts where
  categoryDisplay : Locale → String → String
  defaultCategoryDisplay : Locale → String
  transactionTypeLabel : Locale → String → String
  defaultTypeLabel : Locale → String

section Decisions

variable (library : TextLibrary) (zones : ZoneLibrary) (texts : CardTexts)

/-- `reply_only`. -/
def replyOnly (reply : ReplyPlan) : ConversationOutcome :=
  ⟨[reply], []⟩

/-- `expired_outcome`. -/
def expiredOutcome (clearPending : Bool) : ConversationOutcome :=
  ⟨[.pendingExpired], if clearPending then [.clearPending] else []⟩

/-- `is_pending_stale`. -/
def isPendingStale (pending : PendingConfirmation) (now : Timestamp) : Bool :=
  pending.expiresAt ≤ now || pending.optimisticVersion ≠ pending.draft.version

/-- Two digits, as `%d` and `%m` print them. -/
def twoDigits (number : Nat) : String :=
  if number < 10 then "0" ++ toString number else toString number

/-- `format("%d/%m/%Y")`, for years of four digits. -/
def NaiveDate.formatVn (date : NaiveDate) : String :=
  twoDigits date.day ++ "/" ++ twoDigits date.month ++ "/" ++
    toString date.year

/-- `format_date_vn`. -/
def formatDateVn (now : Timestamp) (timezone : String) : String :=
  (zones.localDate timezone now).formatVn

/-- `LocalResult::single`. -/
def single : List Timestamp → Option Timestamp
  | [instant] => some instant
  | _ => none

/-- `local_date_to_utc`. -/
def localDateToUtc (date : NaiveDate) (timezone : String)
    (fallbackNow : Timestamp) : Option Timestamp :=
  match single (zones.localNoon timezone date) with
  | some instant => some instant
  | none =>
      single (zones.localNoon timezone
        (zones.localDate timezone fallbackNow))

/-- `parse_timezone(value).is_ok()`. -/
def isTimezone (value : String) : Bool :=
  RustText.toAsciiLowercase value ≠ "local" && zones.known value

/-- `handle_set_language`. -/
def handleSetLanguage (intent : Intent) : ConversationOutcome :=
  if intent.locale.isEmpty then
    replyOnly .invalidLanguage
  else
    let next := Locale.parse intent.locale
    ⟨[.languageUpdated next], [.setLocale next.asAccountValue]⟩

/-- `handle_pending_consent`. -/
def handlePendingConsent (context : AccountContext) (text : String) :
    ConversationOutcome :=
  let intent := parseIntent library text "VND"
  match intent.kind with
  | .confirm => ⟨[.welcome], [.grantConsent consentVersion]⟩
  | .privacy => replyOnly (.privacy context.originalReceiptRetentionDays)
  | .setLanguage => handleSetLanguage intent
  | _ => replyOnly .consentCard

/-- `handle_recategorize`. -/
def handleRecategorize (context : AccountContext) (intent : Intent) :
    ConversationOutcome :=
  if intent.categoryKey.isEmpty then
    replyOnly .invalidCategory
  else
    let merchant := (context.recentLines.head?.map (·.merchant)).getD ""
    if merchant.isEmpty && context.recentLines.isEmpty then
      replyOnly .noExpenseToRecategorize
    else
      ⟨[.recategorized (if merchant.isEmpty then "—" else merchant)
          intent.categoryKey],
        [.recategorizeLatest intent.categoryKey]⟩

/-- `resolve_deletion_pending`. -/
def resolveDeletionPending (context : AccountContext) (intent : Intent) :
    ConversationOutcome :=
  match intent.kind with
  | .confirm =>
      ⟨[.deleteAccepted context.confirmedExpenseCount],
        [.confirmAccountDeletion]⟩
  | .discard => ⟨[.deleteCancelled], [.clearPending]⟩
  | _ => replyOnly (.deleteConfirm context.confirmedExpenseCount)

/-- The card of a pending draft. -/
def draftCard (draft : ManualDraftView) : DraftCard :=
  ⟨draft.merchant, draft.amountMinor, draft.currency, draft.dateDisplay,
    draft.typeLabel, draft.categoryDisplay⟩

/-- `reshow_card`. -/
def reshowCard (pending : PendingConfirmation) : ConversationOutcome :=
  replyOnly (.card (draftCard pending.draft))

/-- What an edit changes, and the card that it shows. -/
structure DraftPatch where
  edit : DraftEdit
  card : DraftCard
deriving DecidableEq, Repr

/-- `draft_patch_from_intent`. -/
def draftPatchFromIntent (locale : Locale) (pending : PendingConfirmation)
    (intent : Intent) (now : Timestamp) (timezone : String) :
    Option DraftPatch :=
  let card := draftCard pending.draft
  match intent.kind with
  | .editAmount =>
      some ⟨⟨some intent.amountMinor, none, none, none, none⟩,
        { card with amountMinor := intent.amountMinor }⟩
  | .editMerchant =>
      if RustText.isBlank intent.merchant then
        none
      else
        some ⟨⟨none, some intent.merchant, none, none, none⟩,
          { card with merchant := intent.merchant }⟩
  | .editCategory =>
      if intent.categoryKey.isEmpty then
        none
      else
        some ⟨⟨none, none, some intent.categoryKey, none, none⟩,
          { card with
            categoryDisplay :=
              texts.categoryDisplay locale intent.categoryKey }⟩
  | .editDate => do
      let date ← intent.occurredOn
      let occurredAt ← localDateToUtc zones date timezone now
      some ⟨⟨none, none, none, some occurredAt, none⟩,
        { card with dateDisplay := formatDateVn zones occurredAt timezone }⟩
  | .editType =>
      if intent.transactionType.isEmpty then
        none
      else
        some ⟨⟨none, none, none, none, some intent.transactionType⟩,
          { card with
            typeLabel :=
              texts.transactionTypeLabel locale intent.transactionType }⟩
  | _ => none

/-- `invalid_edit_or_category`. -/
def invalidEditOrCategory (intent : Intent) : ReplyPlan :=
  if intent.kind = .editCategory then .invalidCategory else .invalidEdit

/-- `apply_receipt_edit` and `apply_manual_edit`, which differ in the command
that carries the edit. -/
def applyEdit (command : Uuid → Nat → DraftEdit → DomainCommand)
    (context : AccountContext) (pending : PendingConfirmation)
    (intent : Intent) (now : Timestamp) : ConversationOutcome :=
  match draftPatchFromIntent zones texts (Locale.parse context.locale) pending
      intent now context.timezone with
  | none => replyOnly (invalidEditOrCategory intent)
  | some patch =>
      ⟨[.card patch.card],
        [command pending.referenceId pending.optimisticVersion patch.edit]⟩

/-- `apply_receipt_edit`. -/
def applyReceiptEdit :=
  applyEdit zones texts .editReceiptDraft

/-- `apply_manual_edit`. -/
def applyManualEdit :=
  applyEdit zones texts .editManualExpense

/-- The reply to a confirmation. -/
def confirmedReply (pending : PendingConfirmation) : ReplyPlan :=
  .confirmed pending.draft.amountMinor pending.draft.currency
    pending.draft.merchant pending.draft.categoryDisplay

/-- `resolve_manual_pending`. -/
def resolveManualPending (context : AccountContext)
    (pending : PendingConfirmation) (intent : Intent) (now : Timestamp) :
    ConversationOutcome :=
  match intent.kind with
  | .confirm =>
      ⟨[confirmedReply pending],
        [.confirmExpense pending.referenceId pending.optimisticVersion,
          .clearPending]⟩
  | .discard =>
      ⟨[.discarded],
        [.rejectExpense pending.referenceId pending.optimisticVersion,
          .clearPending]⟩
  | .editAmount | .editMerchant | .editCategory | .editDate | .editType =>
      applyManualEdit zones texts context pending intent now
  | _ => reshowCard pending

/-- `resolve_receipt_pending`. -/
def resolveReceiptPending (context : AccountContext)
    (pending : PendingConfirmation) (intent : Intent) (now : Timestamp) :
    ConversationOutcome :=
  match intent.kind with
  | .confirm =>
      ⟨[confirmedReply pending],
        [.confirmReceipt pending.referenceId context.nextExpenseId
          pending.optimisticVersion, .clearPending]⟩
  | .discard =>
      ⟨[.discarded],
        [.rejectReceipt pending.referenceId pending.optimisticVersion,
          .clearPending]⟩
  | .editAmount | .editMerchant | .editCategory | .editDate | .editType =>
      applyReceiptEdit zones texts context pending intent now
  | _ => reshowCard pending

/-- `resolve_pending`. -/
def resolvePending (context : AccountContext) (pending : PendingConfirmation)
    (intent : Intent) (now : Timestamp) : ConversationOutcome :=
  if pending.optimisticVersion ≠ pending.draft.version then
    expiredOutcome true
  else
    match pending.kind with
    | .accountDeletion => resolveDeletionPending context intent
    | .manualExpense =>
        resolveManualPending zones texts context pending intent now
    | .receiptReview =>
        resolveReceiptPending zones texts context pending intent now

/-- `create_manual`. -/
def createManual (context : AccountContext) (intent : Intent)
    (now : Timestamp) : ConversationOutcome :=
  let locale := Locale.parse context.locale
  ⟨[.card ⟨intent.description, intent.amountMinor, intent.currency,
      formatDateVn zones now context.timezone, texts.defaultTypeLabel locale,
      texts.defaultCategoryDisplay locale⟩],
    [.createManualAwaitingConfirmation context.nextExpenseId
      intent.amountMinor intent.currency intent.description
      intent.description now 1
      (now + intervalSeconds pendingConfirmationTtlSecs)]⟩

/-- `render_period_summary` with the snapshot that is recorded beside it. -/
def renderPeriod (summary : Option PeriodSummary) (periodKind : String) :
    ConversationOutcome :=
  let reply : ReplyPlan :=
    match summary with
    | some period =>
        if period.txCount = 0 then .emptySummary period.label
        else .summary period
    | none => .emptyPeriod periodKind
  ⟨[reply], [.recordInsightSnapshot periodKind]⟩

/-- `handle_settings`. -/
def handleSettings (context : AccountContext) (intent : Intent) :
    ConversationOutcome :=
  if intent.timezone.isEmpty then
    replyOnly (.settings context.timezone context.defaultCurrency
      context.schedules)
  else
    replyOnly .invalidSettings

/-- `handle_timezone`. -/
def handleTimezone (context : AccountContext) (intent : Intent) :
    ConversationOutcome :=
  if intent.timezone.isEmpty || !isTimezone zones intent.timezone then
    replyOnly .invalidTimezone
  else
    ⟨[.settingsUpdated intent.timezone context.defaultCurrency
        context.schedules],
      [.setTimezone intent.timezone]⟩

/-- `handle_schedule`. -/
def handleSchedule (context : AccountContext) (intent : Intent) :
    ConversationOutcome :=
  if intent.disableAllSchedules then
    ⟨[.scheduleDisabled none], [.disableSchedule none]⟩
  else if intent.disableSchedule then
    ⟨[.scheduleDisabled (some intent.scheduleFrequency)],
      [.disableSchedule (some intent.scheduleFrequency)]⟩
  else if intent.scheduleFrequency.isEmpty then
    replyOnly (.schedules context.schedules)
  else if intent.deliveryMinute < 0 ∨ 24 * 60 ≤ intent.deliveryMinute then
    replyOnly .scheduleInvalid
  else
    ⟨[.scheduleSet intent.scheduleFrequency intent.deliveryMinute],
      [.upsertSchedule intent.scheduleFrequency intent.deliveryMinute]⟩

/-- `handle_delete`. -/
def handleDelete (context : AccountContext) (now : Timestamp) :
    ConversationOutcome :=
  ⟨[.deleteConfirm context.confirmedExpenseCount],
    [.requestAccountDeletion
      (now + intervalSeconds pendingConfirmationTtlSecs)]⟩

/-- The commands of an active account without a pending action in its way. -/
def handleCommand (context : AccountContext) (intent : Intent)
    (now : Timestamp) : ConversationOutcome :=
  match intent.kind with
  | .start | .help => replyOnly .help
  | .privacy => replyOnly (.privacy context.originalReceiptRetentionDays)
  | .today => renderPeriod context.todaySummary "day"
  | .week => renderPeriod context.weekSummary "week"
  | .month => renderPeriod context.monthSummary "month"
  | .recent => replyOnly (.recent context.recentLines)
  | .settings => handleSettings context intent
  | .timezone => handleTimezone zones context intent
  | .schedule => handleSchedule context intent
  | .export => ⟨[.exportAccepted], [.requestAccountExport]⟩
  | .delete => handleDelete context now
  | .manualEntry => createManual zones texts context intent now
  | .listCategories => replyOnly .categoriesList
  | .setLanguage => handleSetLanguage intent
  | .recategorizeLatest => handleRecategorize context intent
  | .confirm | .discard | .editAmount | .editMerchant | .editCategory
  | .editDate | .editType => expiredOutcome false
  | .none => replyOnly .unknown

/-- Whether a text goes past a pending action. -/
def isSlashCommand (text : String) (kind : IntentKind) : Bool :=
  RustText.startsWith (RustText.trimStart text) "/" &&
    isExplicitSlashCommand kind

/-- `handle_active`. -/
def handleActive (context : AccountContext) (text : String)
    (now : Timestamp) : ConversationOutcome :=
  let intent := parseIntent library text context.defaultCurrency
  match context.pending with
  | some pending =>
      if isSlashCommand text intent.kind then
        handleCommand zones texts context intent now
      else if isPendingStale pending now then
        expiredOutcome true
      else
        resolvePending zones texts context pending intent now
  | none => handleCommand zones texts context intent now

/-- `decide`. -/
def decide (context : AccountContext) (text : String) (now : Timestamp) :
    ConversationOutcome :=
  if !context.allowlisted then
    replyOnly .notAllowed
  else
    match context.lifecycle with
    | .suspended => replyOnly .suspended
    | .pendingConsent => handlePendingConsent library context text
    | .active => handleActive library zones texts context text now

/-- `decide_image`. -/
def decideImage (context : AccountContext) : ConversationOutcome :=
  if !context.allowlisted then
    replyOnly .notAllowed
  else
    match context.lifecycle with
    | .suspended => replyOnly .suspended
    | .pendingConsent => replyOnly .consentCard
    | .active =>
        if context.remainingDailyReceipts ≤ 0 then
          replyOnly .dailyReceiptQuota
        else
          ⟨[.imageReceived],
            [.acceptReceiptSubmission context.nextSubmissionId
              context.nextIngestJobId]⟩

end Decisions

end Conversation

end ZaloBot
