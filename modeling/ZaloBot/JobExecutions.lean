import ZaloBot.InsightNarratives
import ZaloBot.OutboundDelivery
import ZaloBot.ReceiptWorker
import ZaloBot.SessionFaults
import ZaloBot.SpendingTotals

/-!
# Executions of leased jobs

`dispatch_leased_job` for every job type, as sessions whose reads carry the
place where they stand.  A read is placed on its own if its failure is taken
for an absent row or discarded; all other reads report their failures.
What the environment decides is part of a call: clock readings, drawn UUIDs,
texts, the answer of the provider, the rows that a batch statement selects and
the unique key of a row that is looked up by another column.
-/

namespace ZaloBot

open Sessions

/-- Where a dispatch reads. -/
inductive DispatchPlace where
  | mediaUrl
  | submissionAccount
  | scheduleAccount
  | summarySchedule
  | periodTotals
  | orphanCheck
  | failedSubmission
  | failureMessage
  | execution
deriving DecidableEq, Repr

/-- The reads whose failures end the execution they stand in. -/
def DispatchPlace.isReported : DispatchPlace → Bool
  | .execution => true
  | _ => false

/-- What an execution publishes. -/
inductive DispatchEvent where
  | worker (event : LeasedEvent)
  | insight (event : Insights.InsightEvent)
  | delivery
  | summary
  | deletionRequest
  | deletedObject
  | deletedAccount
  | exportedObject
  | exportArtifacts
deriving DecidableEq, Repr

namespace Executions

open Receipts SpendingTotals

/-- Sessions of executions. -/
abbrev Execution (Value : Type) :=
  Statement DispatchEvent Value

/-- Sessions of executions with the places of their reads. -/
abbrev Dispatch (Value : Type) :=
  Placed DispatchPlace BotRow DispatchEvent ReceiptFailure Value

/-- `ErrorClass::Dependency`, which every other error of a statement
becomes. -/
def dependencyError : ReceiptFailure :=
  .dependency "dependency_error"

/-- `fetch_optional(…).await.ok().flatten()`: a failed lookup counts as no
row. -/
def lookup {Value : Type} (place : DispatchPlace)
    (ask : BotStore → Option Value) : Dispatch (Option Value) :=
  .read place (fun view => .done (ask view)) (.done none)

section Deliveries

/-- What the environment decides during one delivery. -/
structure DeliverEnvironment where
  now : Timestamp
  parseUuid : String → Option Uuid
  idempotencyKey : String
  sendMessage : String → String → SendResult

variable (environment : DeliverEnvironment) (job : ClaimedJob)

/-- The row of the outbox that has an id. -/
def outboundOf (outboundId : Uuid) (view : BotStore) : Option OutboundRow :=
  (view (.outbound environment.idempotencyKey)).filter (·.id = outboundId)

/-- `job_lease_current`. -/
def jobLeaseCurrent : Execution Bool :=
  .query dependencyError fun view =>
    (view (.job job.dedupeKey)).any fun row =>
      row.id = job.id && row.holdsLease job.leaseToken environment.now

/-- An `UPDATE` of the outbox that holds the job's lease; the result is the row
that was affected. -/
def updateUnderLease (outboundId : Uuid) (guard : OutboundRow → Bool)
    (set : Table.Setter OutboundRow.id) :
    Execution (Option OutboundRow) := do
  let held ← jobLeaseCurrent environment job
  let row ← .selectForUpdate dependencyError
    (BotKey.outbound environment.idempotencyKey)
    fun row => held && row.id = outboundId && guard row
  match row with
  | none => pure none
  | some row =>
      .write (BotKey.outbound environment.idempotencyKey)
        (some (set.apply row)) do
          .commitTransaction dependencyError .delivery
          pure (some (set.apply row))

/-- The part of `deliver_for_job` after a send. -/
def recordDelivery (outboundId : Uuid) (result : SendResult) :
    Execution OutboundJobExecution := do
  let current ← jobLeaseCurrent environment job
  if current then
    let updated ← updateUnderLease environment job outboundId
      OutboundRow.isSending (OutboundRow.markDelivered environment.now result)
    if updated.isSome then
      pure (result.execution outboundId)
    else
      pure .staleLease
  else
    pure .staleLease

/-- The part of `deliver_for_job` after a reservation that affected no
row. -/
def refreshDelivery (outboundId : Uuid) :
    Execution OutboundJobExecution := do
  let current ← jobLeaseCurrent environment job
  if current then
    let refreshed ← .query dependencyError fun view =>
      (outboundOf environment outboundId view).map OutboundRow.state
    match refreshed with
    | some .sent => pure (.complete ⟨outboundId, .sent⟩)
    | some .ambiguous => pure (.complete ⟨outboundId, .ambiguous⟩)
    | _ => pure .staleLease
  else
    pure .staleLease

/-- `deliver_for_job`. -/
def deliverForJob : Execution OutboundJobExecution :=
  match OutboundDelivery.parseOutboundId environment.parseUuid job with
  | none => pure .invalidJob
  | some outboundId => do
      let row ← .query dependencyError (outboundOf environment outboundId)
      match row with
      | none => pure .invalidJob
      | some row =>
          if job.dedupeKey ≠
              "outbound.deliver" ++ ":" ++ row.idempotencyKey then
            pure .invalidJob
          else
            match row.state with
            | .sent => pure (.complete ⟨outboundId, .sent⟩)
            | .ambiguous => pure (.complete ⟨outboundId, .ambiguous⟩)
            | .suppressed => pure .invalidJob
            | .sending => do
                let current ← jobLeaseCurrent environment job
                if current then
                  let marked ← updateUnderLease environment job outboundId
                    OutboundRow.isSending
                    (OutboundRow.markRecovered environment.now)
                  if marked.isSome then
                    pure (.complete ⟨outboundId, .ambiguous⟩)
                  else
                    pure .staleLease
                else
                  pure .staleLease
            | .queued | .failed => do
                let reserved ← updateUnderLease environment job outboundId
                  OutboundRow.isReservable
                  (OutboundRow.markSending environment.now)
                match reserved with
                | none => refreshDelivery environment job outboundId
                | some row =>
                    recordDelivery environment job outboundId
                      (environment.sendMessage row.providerTarget row.body)

end Deliveries

section Summaries

/-- `ScheduleEmitPayload`. -/
structure ScheduleEmitPayload where
  schemaVersion : Int
  accountId : Uuid
  scheduleId : Uuid
  frequency : String
  periodStart : Timestamp
  periodEnd : Timestamp
deriving DecidableEq, Repr

/-- `Frequency::as_str`. -/
def frequencyText : Frequency → String
  | .daily => "daily"
  | .weekly => "weekly"
  | .monthly => "monthly"

/-- `scheduled_period_label`. -/
def scheduledPeriodLabel (frequency : String) : String :=
  if frequency = "daily" then "Hôm qua"
  else if frequency = "weekly" then "Tuần trước"
  else if frequency = "monthly" then "Tháng trước"
  else "Tổng kết"

/-- What the environment decides during one scheduled summary. -/
structure SummaryEnvironment where
  parseTimestamp : String → Option Timestamp
  toRfc3339 : Timestamp → String
  compactUtc : Timestamp → String
  frequency : Frequency
  expenses : List Uuid
  emptySummaryText : String → String → String
  todaySummaryText : String → String → String → Int → String
  outbound : OutboundEnvironment

variable (environment : SummaryEnvironment) (job : ClaimedJob)

/-- The payload of a `schedule.emit` job. -/
def parseScheduleEmitPayload (payload : Payload) :
    Option ScheduleEmitPayload := do
  let schemaVersion ← payload.schemaVersion
  let accountId ← payload.members.lookup "account_id"
  let scheduleId ← payload.members.lookup "schedule_id"
  let frequency ← payload.members.lookup "frequency"
  let periodStart ← (payload.members.lookup "period_start").bind
    environment.parseTimestamp
  let periodEnd ← (payload.members.lookup "period_end").bind
    environment.parseTimestamp
  pure ⟨schemaVersion, ⟨accountId⟩, ⟨scheduleId⟩, frequency, periodStart,
    periodEnd⟩

/-- `schedule_emit_dedupe_key`. -/
def scheduleEmitDedupeKey (accountId : Uuid) (frequency : String)
    (periodStart : Timestamp) : String :=
  "schedule.emit:" ++ accountId.text ++ ":" ++ frequency ++ ":" ++
    environment.toRfc3339 periodStart

/-- The payload of a job that `dispatch_schedule_emit` accepts. -/
def acceptedSummary : Option ScheduleEmitPayload :=
  (parseScheduleEmitPayload environment job.payload).filter fun payload =>
    job.jobType = "schedule.emit" && job.payloadVersion = 1 &&
      payload.schemaVersion = 1 &&
      job.dedupeKey = scheduleEmitDedupeKey environment payload.accountId
        payload.frequency payload.periodStart

/-- The key of the message of a scheduled summary. -/
def summaryIdempotencyKey (payload : ScheduleEmitPayload) : String :=
  "scheduled-summary:" ++ payload.accountId.text ++ ":" ++
    payload.frequency ++ ":" ++ environment.compactUtc payload.periodStart

/-- The body of a scheduled summary. -/
def summaryBody (locale frequency : String) (totals : PeriodTotals) :
    String :=
  if totals.count = 0 then
    environment.emptySummaryText locale (scheduledPeriodLabel frequency)
  else
    environment.todaySummaryText locale (scheduledPeriodLabel frequency)
      totals.currency totals.totalMinor

/-- The transaction of `dispatch_schedule_emit`. -/
def enqueueSummary (payload : ScheduleEmitPayload)
    (schedule : SummaryScheduleRow) (body : String) : Execution Unit := do
  Followups.enqueueOutboundInTransaction environment.outbound dependencyError
    (some payload.accountId) schedule.providerScope schedule.providerChatId
    body (summaryIdempotencyKey environment payload)
  .commitTransaction dependencyError .summary

/-- The totals that the summary shows; a failed query counts as no
expenses. -/
def periodTotals (payload : ScheduleEmitPayload) :
    Dispatch (Option PeriodTotals) :=
  lookup .periodTotals fun view =>
    loadPeriodTotals
      (environment.expenses.filterMap fun id => view (.expense id))
      payload.accountId payload.periodStart payload.periodEnd "VND"

/-- The part of `dispatch_schedule_emit` from the lookup of the totals on. -/
def emitSummary (payload : ScheduleEmitPayload) (account : AccountRow)
    (schedule : SummaryScheduleRow) : Dispatch OutboundJobExecution := do
  let totals ← periodTotals environment payload
  let body := summaryBody environment account.locale payload.frequency
    (totals.getD ⟨0, 0, "VND"⟩)
  let enqueued ← ((enqueueSummary environment payload schedule body).placed
    .execution).attempt
  match enqueued with
  | .error _ => pure (.fail .dependency)
  | .ok _ => pure Workers.receiptJobComplete

/-- `dispatch_schedule_emit`. -/
def dispatchScheduleEmit : Dispatch OutboundJobExecution :=
  match acceptedSummary environment job with
  | none => pure .invalidJob
  | some payload => do
      let account ← lookup .scheduleAccount fun view =>
        view (.account payload.accountId)
      match account with
      | none => pure Workers.receiptJobComplete
      | some account =>
          if account.lifecycleState = .suspended ∨
              account.lifecycleState = .deleting ∨
              account.lifecycleState = .deleted then
            pure Workers.receiptJobComplete
          else do
            let schedule ← lookup .summarySchedule fun view =>
              (view (.summarySchedule payload.accountId
                environment.frequency)).filter fun row =>
                  row.id = payload.scheduleId && row.enabled
            match schedule with
            | none => pure Workers.receiptJobComplete
            | some schedule =>
                if frequencyText environment.frequency ≠
                    payload.frequency then
                  pure .invalidJob
                else
                  emitSummary environment payload account schedule

end Summaries

section Accounts

/-- `AccountDeletePayload`. -/
structure AccountDeletePayload where
  schemaVersion : Int
  accountId : Uuid
  deletionRequestId : Uuid
deriving DecidableEq, Repr

/-- `AccountExportPayload`, without the chat that nothing is sent to. -/
structure AccountExportPayload where
  schemaVersion : Int
  accountId : Uuid
  exportId : Uuid
deriving DecidableEq, Repr

/-- What the environment decides during one execution for an account: the rows
that its batch statements select, and the bodies of an export. -/
structure AccountEnvironment where
  submissions : List Uuid
  expenses : List Uuid
  exportKeys : List String
  messages : List String
  counters : List (String × String)
  snapshots : List SnapshotKey
  events : List (String × String)
  jsonBody : List ExpenseRow → List UInt8
  csvBody : List ExpenseRow → List UInt8

variable (environment : AccountEnvironment)

/-- `UPDATE` of a row that a batch statement selects. -/
def changeRow (key : BotKey) (condition : BotRow key → Bool)
    (change : BotRow key → BotRow key) : Execution Unit := do
  let _ ← .updateRow dependencyError key condition change
  pure ()

/-- `DELETE` of a row that a batch statement selects. -/
def deleteRow (key : BotKey) (condition : BotRow key → Bool) :
    Execution Unit := do
  let row ← .selectForUpdate dependencyError key condition
  match row with
  | none => pure ()
  | some _ => .write key none (pure ())

/-- The object keys that one query of `load_account_object_keys` returns. -/
def activeObjectKeys (accountId : Uuid) (view : BotStore) : List String :=
  environment.submissions.filterMap fun submissionId =>
    ((view (.asset submissionId)).filter fun asset =>
      asset.accountId = accountId && asset.deletionState = .active).map
        AssetRow.objectKey

/-- `load_account_object_keys`. -/
def loadAccountObjectKeys (accountId : Uuid) : Execution (List String) := do
  let receiptKeys ← .query dependencyError
    (activeObjectKeys environment accountId)
  let exportKeys ← .query dependencyError fun _ => environment.exportKeys
  pure (receiptKeys ++ exportKeys)

/-- The deletion of one object. -/
def deleteAccountObject (objectKey : String) : Execution Unit :=
  .emit .deletedObject (.object objectKey) none (pure ())
    (.fail dependencyError)

/-- The `SET` list of the first statement of `purge_account_content`. -/
def purgedSubmission (row : SubmissionRow) : SubmissionRow :=
  { row with
    confirmedExpenseId := none
    state := .deleted
    failureErrorClass := none
    history := .deleted :: row.history }

/-- The entry of a deleted row in a unique index. -/
def deleteEntry (entry : BotStore → Option BotKey) : Execution Unit := do
  let found ← .query dependencyError entry
  match found with
  | none => pure ()
  | some key => deleteRow key fun _ => true

/-- `DELETE FROM receipt_submissions` with the rows that it cascades to. -/
def deleteSubmission (accountId submissionId : Uuid) : Execution Unit := do
  deleteRow (.corrections submissionId) fun _ => true
  deleteRow (.draft submissionId) (·.accountId = accountId)
  deleteRow (.extractionAttempts submissionId) fun _ => true
  deleteEntry fun view => do
    let asset ← (view (.asset submissionId)).filter (·.deletionState = .active)
    pure (.activeImage asset.accountId asset.image.contentSha256)
  deleteRow (.asset submissionId) (·.accountId = accountId)
  deleteEntry fun view => do
    let row ← (view (.submission submissionId)).filter
      (·.accountId = accountId)
    let eventId ← row.inboundEventId
    pure (.eventSubmission eventId)
  deleteRow (.submission submissionId) (·.accountId = accountId)

/-- `UPDATE expenses SET receipt_submission_id = NULL`. -/
def unlinkExpense (accountId expenseId : Uuid) : Execution Unit := do
  deleteEntry fun view => do
    let row ← (view (.expense expenseId)).filter (·.accountId = accountId)
    let submissionId ← row.receiptSubmissionId
    pure (.receiptExpense submissionId)
  changeRow (.expense expenseId) (·.accountId = accountId)
    fun row => { row with receiptSubmissionId := none }

/-- `purge_account_content`; the tables of export artifacts and of preferences
are not represented. -/
def purgeAccountContent (accountId : Uuid) : Execution Unit := do
  Session.forRows (fun submissionId => changeRow (.submission submissionId)
    (·.accountId = accountId) purgedSubmission) environment.submissions
  Session.forRows (unlinkExpense accountId) environment.expenses
  Session.forRows (fun expenseId => deleteRow (.expense expenseId)
    (·.accountId = accountId)) environment.expenses
  Session.forRows (deleteSubmission accountId) environment.submissions
  deleteRow (.conversationState accountId) fun _ => true
  Session.forRows (fun frequency => deleteRow
    (.summarySchedule accountId frequency) fun _ => true)
    [.daily, .weekly, .monthly]
  Session.forRows (fun idempotencyKey => deleteRow (.outbound idempotencyKey)
    (·.accountId = some accountId)) environment.messages
  Session.forRows (fun (period, metric) => deleteRow
    (.usageCounter UsageQuota.scopeAccount accountId.text period metric)
    fun _ => true) environment.counters
  .query dependencyError fun _ => ()
  Session.forRows (fun key => deleteRow (.insightSnapshot key)
    fun _ => key.accountId = accountId) environment.snapshots
  .query dependencyError fun _ => ()
  Session.forRows (fun (scope, eventId) => changeRow
    (.inboundEvent scope eventId) (·.accountId = some accountId)
    fun row => { row with accountId := none, mediaUrl := none })
    environment.events

/-- The part of `execute_account_delete` for an account that is not
deleted. -/
def deleteAccount (payload : AccountDeletePayload) : Execution Unit := do
  let accountId := payload.accountId
  changeRow (.deletionRequest accountId)
    (fun row => row.id = payload.deletionRequestId &&
      (row.state = .requested || row.state = .running))
    fun row => { row with state := .running }
  .commitTransaction dependencyError .deletionRequest
  let objectKeys ← loadAccountObjectKeys environment accountId
  Session.forRows deleteAccountObject objectKeys
  purgeAccountContent environment accountId
  changeRow (.account accountId) (fun _ => true)
    fun row => { row with
      lifecycleState := .deleted
      consentVersion := none }
  changeRow (.deletionRequest accountId)
    (fun row => row.id = payload.deletionRequestId)
    fun row => { row with state := .completed }
  .commitTransaction dependencyError .deletedAccount

/-- The lifecycle of an account. -/
def loadLifecycle (accountId : Uuid) : Execution (Option LifecycleState) :=
  .query dependencyError fun view =>
    (view (.account accountId)).map AccountRow.lifecycleState

/-- `execute_account_delete`. -/
def executeAccountDelete (payload : AccountDeletePayload) :
    Execution Unit :=
  if payload.schemaVersion ≠ 1 then
    refuse (.validation "validation")
  else do
    let lifecycle ← loadLifecycle payload.accountId
    match lifecycle with
    | none | some .deleted => pure ()
    | some _ => deleteAccount environment payload

/-- `export_object_key`. -/
def exportObjectKey (accountId exportId : Uuid) (format : String) : String :=
  "exports/" ++ accountId.text ++ "/" ++ exportId.text ++ "." ++ format

/-- One object of an export. -/
def putExport (objectKey : String) (body : List UInt8) : Execution Unit :=
  .emit .exportedObject (.object objectKey) (some body) (pure ())
    (.fail dependencyError)

/-- The expenses of an export. -/
def confirmedExpenses (accountId : Uuid) (view : BotStore) :
    List ExpenseRow :=
  (environment.expenses.filterMap fun id => view (.expense id)).filter
    (isConfirmedOf accountId)

/-- `execute_account_export`; the table of export artifacts is not
represented. -/
def executeAccountExport (payload : AccountExportPayload) :
    Execution Unit :=
  if payload.schemaVersion ≠ 1 then
    refuse (.validation "validation")
  else do
    let lifecycle ← loadLifecycle payload.accountId
    if lifecycle = some .active then
      let rows ← .query dependencyError
        (confirmedExpenses environment payload.accountId)
      putExport (exportObjectKey payload.accountId payload.exportId "json")
        (environment.jsonBody rows)
      putExport (exportObjectKey payload.accountId payload.exportId "csv")
        (environment.csvBody rows)
      .query dependencyError fun _ => ()
      .query dependencyError fun _ => ()
      .commitTransaction dependencyError .exportArtifacts
    else
      pure ()

/-- How the dispatch of an account job reads the result of its execution. -/
def accountExecution (outcome : Except ReceiptFailure Unit) :
    OutboundJobExecution :=
  match outcome with
  | .ok _ => Workers.receiptJobComplete
  | .error error =>
      if error.reported.errorClass = .validation then
        .invalidJob
      else
        .fail error.reported.errorClass

variable (job : ClaimedJob)

/-- `dispatch_account_delete`. -/
def dispatchAccountDelete : Dispatch OutboundJobExecution :=
  let payload := do
    let schemaVersion ← job.payload.schemaVersion
    let accountId ← job.payload.members.lookup "account_id"
    let requestId ← job.payload.members.lookup "deletion_request_id"
    pure (⟨schemaVersion, ⟨accountId⟩, ⟨requestId⟩⟩ : AccountDeletePayload)
  match payload with
  | none => pure .invalidJob
  | some payload =>
      if job.jobType ≠ "account.delete" ∨ job.payloadVersion ≠ 1 then
        pure .invalidJob
      else do
        let outcome ← ((executeAccountDelete environment payload).placed
          .execution).attempt
        pure (accountExecution outcome)

/-- `dispatch_account_export`. -/
def dispatchAccountExport : Dispatch OutboundJobExecution :=
  let payload := do
    let schemaVersion ← job.payload.schemaVersion
    let accountId ← job.payload.members.lookup "account_id"
    let exportId ← job.payload.members.lookup "export_id"
    let _ ← job.payload.members.lookup "provider_scope"
    let _ ← job.payload.members.lookup "provider_chat_id"
    pure (⟨schemaVersion, ⟨accountId⟩, ⟨exportId⟩⟩ : AccountExportPayload)
  match payload with
  | none => pure .invalidJob
  | some payload =>
      if job.jobType ≠ "account.export" ∨ job.payloadVersion ≠ 1 then
        pure .invalidJob
      else do
        let outcome ← ((executeAccountExport environment payload).placed
          .execution).attempt
        pure (accountExecution outcome)

end Accounts

section Narratives

open Insights

/-- What the environment decides during one dispatch for the narrator. -/
structure NarrateDispatch where
  insightsLlmEnabled : Bool
  narrate : InsightAggregate → Except InsightError String
  environment : NarrateEnvironment

variable (dispatch : NarrateDispatch) (job : ClaimedJob)

/-- `execute_insight_narrate`, whose errors all become
`ErrorClass::Dependency`. -/
def narrateSnapshot (payload : InsightNarratePayload) : Execution Unit :=
  ((executeInsightNarrate dispatch.narrate dispatch.environment
    payload).mapError fun error => ReceiptFailure.dependency
      error.message).mapEvent .insight

/-- The payload of a job that `dispatch_insight_narrate` accepts. -/
def acceptedNarrative : Option InsightNarratePayload := do
  let schemaVersion ← job.payload.schemaVersion
  let accountId ← job.payload.members.lookup "account_id"
  let snapshotId ← job.payload.members.lookup "snapshot_id"
  let digest ← job.payload.members.lookup "aggregate_digest"
  if job.jobType = "insight.narrate" ∧ job.payloadVersion = 1 ∧
      schemaVersion = 1 ∧
      job.dedupeKey = narrateDedupeKey ⟨snapshotId⟩ digest then
    pure ⟨schemaVersion, ⟨accountId⟩, ⟨snapshotId⟩⟩
  else
    none

/-- `dispatch_insight_narrate`. -/
def dispatchInsightNarrate : Dispatch OutboundJobExecution :=
  if dispatch.insightsLlmEnabled then
    match acceptedNarrative job with
    | none => pure .invalidJob
    | some payload => do
        let outcome ← ((narrateSnapshot dispatch payload).placed
          .execution).attempt
        match outcome with
        | .ok _ => pure Workers.receiptJobComplete
        | .error _ => pure (.fail .dependency)
  else
    pure Workers.receiptJobComplete

end Narratives

end Executions

end ZaloBot
