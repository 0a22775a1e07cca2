import ZaloBot.JobDispatch

/-!
# Operations that report their failed reads

Every failed read of these operations ends them with an error that schedules
another attempt.
-/

namespace ZaloBot

open Sessions

namespace Executions

open Receipts Workers

/-- Errors that schedule another attempt. -/
def IsTransient (error : ReceiptFailure) : Prop :=
  isRetryable error.reported.errorClass = true

section Statements

variable {Event : Type} {accountId submissionId : Uuid} {now : Timestamp}

theorem reports_loadSubmission :
    (loadSubmission submissionId accountId : Statement Event _).Reports
      IsTransient := by
  refine .bind (Session.reports_query rfl) fun row => ?_
  cases row <;> trivial

theorem reports_loadSubmissionForUpdate :
    (loadSubmissionForUpdate submissionId accountId :
      Statement Event _).Reports IsTransient := by
  refine .bind (Session.reports_selectForUpdate rfl) fun row => ?_
  cases row <;> trivial

theorem reports_transitionState {current next : ReceiptState}
    {failureErrorClass : Option String} {reviewExpiryHours : Option Int}
    {confirmedExpenseId duplicateOfSubmissionId : Option Uuid} :
    (transitionState now submissionId accountId current next
      failureErrorClass reviewExpiryHours confirmedExpenseId
      duplicateOfSubmissionId : Statement Event _).Reports IsTransient := by
  unfold transitionState
  split
  · refine .bind (Session.reports_selectForUpdate rfl) fun row => ?_
    cases row with
    | none => trivial
    | some row =>
        dsimp only
        split <;> trivial
  · trivial

theorem reports_insertAsset {assetId : Uuid} {objectKey : String}
    {image : ValidatedImage} :
    (insertAsset now assetId submissionId accountId objectKey image :
      Statement Event _).Reports IsTransient := by
  refine .bind (Session.reports_query rfl) fun account => ?_
  cases account with
  | none => trivial
  | some account =>
      refine .bind (Session.reports_insertRow rfl) fun submissionFree => ?_
      cases submissionFree with
      | false => trivial
      | true =>
          refine .bind (Session.reports_insertRow rfl) fun imageFree => ?_
          cases imageFree <;> trivial

theorem reports_enqueueInTransaction {request : EnqueueRequest} :
    (enqueueInTransaction now request : Statement Event _).Reports
      IsTransient := by
  unfold enqueueInTransaction
  cases WorkStore.validateEnqueueRequest request with
  | error error => trivial
  | ok version =>
      refine .bind (Session.reports_insertRow rfl) fun inserted => ?_
      cases inserted <;> trivial

theorem reports_enqueueReceiptJob {jobId : Uuid} {jobType : String} :
    (enqueueReceiptJob now jobId jobType submissionId accountId :
      Statement Event _).Reports IsTransient := by
  refine .bind reports_enqueueInTransaction fun outcome => ?_
  cases outcome with
  | duplicate => trivial
  | enqueued =>
      exact .bind (Session.reports_updateRow rfl) fun _ => trivial

theorem reports_upsertDraft {draftId : Uuid}
    {extraction : ExtractionResult} :
    (upsertDraft draftId submissionId accountId extraction :
      Statement Event _).Reports IsTransient := by
  refine .bind (.bind (Session.reports_query rfl) fun known => ?_)
    fun _ => Session.reports_upsertRow rfl
  cases known <;> trivial

end Statements

section Lifecycle

variable {accountId submissionId : Uuid} {now : Timestamp}

theorem reports_markFailure {terminalState : ReceiptState}
    {errorClass : ErrorClass} :
    (markFailure now submissionId accountId terminalState
      errorClass).Reports IsTransient := by
  refine .bind reports_loadSubmissionForUpdate fun current => ?_
  split
  · exact .bind reports_transitionState fun _ => trivial
  · trivial

theorem reports_absorbDuplicate {original : Uuid} :
    (absorbDuplicate now submissionId accountId original).Reports
      IsTransient := by
  refine .bind reports_loadSubmissionForUpdate fun current => ?_
  split
  · trivial
  · exact .bind reports_transitionState fun _ => trivial

theorem reports_persistStoredIngest {environment : IngestEnvironment}
    {objectKey : String} {validated : ValidatedImage} {extractJobId : Uuid} :
    (persistStoredIngest environment accountId submissionId objectKey
      validated extractJobId).Reports IsTransient := by
  refine .bind reports_loadSubmissionForUpdate fun current => ?_
  split
  · trivial
  split
  · trivial
  split
  · trivial
  refine .bind reports_transitionState fun _ => ?_
  refine .bind reports_insertAsset fun insertion => ?_
  cases insertion with
  | inserted => exact .bind reports_enqueueReceiptJob fun _ => trivial
  | uniqueConflict =>
      change Session.Reports _ (_ >>= _)
      refine .bind (Session.reports_query rfl) fun original => ?_
      cases original.filter (· ≠ submissionId) with
      | none => trivial
      | some original =>
          exact .bind reports_absorbDuplicate fun _ => trivial

theorem reports_persistExtractionSuccess {config : ReceiptConfig}
    {draftId : Uuid} {extraction : ExtractionResult} :
    (persistExtractionSuccess config now draftId accountId submissionId
      extraction).Reports IsTransient := by
  refine .bind reports_loadSubmissionForUpdate fun current => ?_
  split
  · trivial
  split
  · trivial
  split
  · trivial
  refine .bind (Session.reports_query rfl) fun attempts => ?_
  refine .bind (Session.reports_upsertRow rfl) fun _ => ?_
  refine .bind reports_upsertDraft fun _ => ?_
  exact .bind reports_transitionState fun _ => trivial

theorem reports_persistExtractionFailure {errorClass : ErrorClass}
    {terminalState : ReceiptState} :
    (persistExtractionFailure now accountId submissionId errorClass
      terminalState).Reports IsTransient := by
  refine .bind reports_loadSubmissionForUpdate fun current => ?_
  split
  · trivial
  refine .bind (Session.reports_query rfl) fun attempts => ?_
  refine .bind (Session.reports_upsertRow rfl) fun _ => ?_
  exact .bind reports_transitionState fun _ => trivial

end Lifecycle

section Messages

variable {Event : Type} {accountId submissionId : Uuid}

theorem reports_enqueueOutboundInTransaction
    {environment : OutboundEnvironment} {failed : ReceiptFailure}
    {account : Option Uuid}
    {providerScope providerTarget body idempotencyKey : String}
    (isTransient : IsTransient failed) :
    (Followups.enqueueOutboundInTransaction environment failed account
      providerScope providerTarget body idempotencyKey :
      Statement Event Unit).Reports IsTransient := by
  refine .bind ?_ fun deliver => ?_
  · unfold Followups.outboundDeliveryAllowed
    split
    · cases account with
      | none => trivial
      | some account =>
          exact .bind ⟨fun _ => trivial, failed, rfl, isTransient⟩
            fun _ => trivial
    · trivial
  unfold Followups.enqueueDecided
  split
  · refine .bind (Session.reports_insertRow isTransient) fun _ => ?_
    refine .bind (Session.reports_query isTransient) fun outboundId => ?_
    cases outboundId with
    | none => trivial
    | some outboundId =>
        dsimp only
        split
        · exact .bind reports_enqueueInTransaction fun _ => trivial
        · trivial
  · trivial

theorem reports_loadRouting {environment : FollowupEnvironment} :
    (Followups.loadRouting environment accountId submissionId :
      Statement Event _).Reports IsTransient := by
  refine .bind (Session.reports_query rfl) fun routing => ?_
  cases routing <;> trivial

theorem reports_upsertReceiptReviewPending {expiresAt : Timestamp} :
    (Followups.upsertReceiptReviewPending accountId submissionId expiresAt :
      Statement Event _).Reports IsTransient := by
  refine .bind (Session.reports_insertRow rfl) fun inserted => ?_
  cases inserted with
  | true => trivial
  | false =>
      refine .bind (Session.reports_query rfl) fun version => ?_
      cases version with
      | none => trivial
      | some version =>
          refine .bind (Session.reports_updateRow rfl) fun updated => ?_
          cases updated <;> trivial

theorem reports_enqueueReceiptReviewFollowup {event : Event}
    {environment : FollowupEnvironment} {reviewExpiryHours : Int} :
    (Followups.enqueueReceiptReviewFollowup event environment
      reviewExpiryHours accountId submissionId).Reports IsTransient := by
  refine .bind (Session.reports_query rfl) fun existing => ?_
  cases existing with
  | true => trivial
  | false =>
      refine .bind reports_loadRouting fun routing => ?_
      refine .bind (Session.reports_query rfl) fun draft => ?_
      cases draft with
      | none => trivial
      | some draft =>
          refine .bind reports_upsertReceiptReviewPending fun _ => ?_
          exact .bind (reports_enqueueOutboundInTransaction rfl)
            fun _ => trivial

end Messages

section OtherJobs

theorem reports_jobLeaseCurrent {environment : DeliverEnvironment}
    {job : ClaimedJob} :
    (jobLeaseCurrent environment job).Reports IsTransient :=
  Session.reports_query rfl

theorem reports_updateUnderLease {environment : DeliverEnvironment}
    {job : ClaimedJob} {outboundId : Uuid} {guard : OutboundRow → Bool}
    {set : Table.Setter OutboundRow.id} :
    (updateUnderLease environment job outboundId guard set).Reports
      IsTransient := by
  refine .bind reports_jobLeaseCurrent fun held => ?_
  refine .bind (Session.reports_selectForUpdate rfl) fun row => ?_
  cases row <;> trivial

theorem reports_recordDelivery {environment : DeliverEnvironment}
    {job : ClaimedJob} {outboundId : Uuid} {result : SendResult} :
    (recordDelivery environment job outboundId result).Reports
      IsTransient := by
  refine .bind reports_jobLeaseCurrent fun current => ?_
  cases current with
  | false => trivial
  | true =>
      refine .bind reports_updateUnderLease fun updated => ?_
      cases updated <;> trivial

theorem reports_refreshDelivery {environment : DeliverEnvironment}
    {job : ClaimedJob} {outboundId : Uuid} :
    (refreshDelivery environment job outboundId).Reports IsTransient := by
  refine .bind reports_jobLeaseCurrent fun current => ?_
  cases current with
  | false => trivial
  | true =>
      refine .bind (Session.reports_query rfl) fun refreshed => ?_
      split <;> trivial

theorem reports_deliverForJob {environment : DeliverEnvironment}
    {job : ClaimedJob} :
    (deliverForJob environment job).Reports IsTransient := by
  unfold deliverForJob
  cases OutboundDelivery.parseOutboundId environment.parseUuid job with
  | none => trivial
  | some outboundId =>
      refine .bind (Session.reports_query rfl) fun row => ?_
      cases row with
      | none => trivial
      | some row =>
          dsimp only
          split
          · trivial
          split
          · trivial
          · trivial
          · trivial
          · refine .bind reports_jobLeaseCurrent fun current => ?_
            cases current with
            | false => trivial
            | true =>
                refine .bind reports_updateUnderLease fun marked => ?_
                cases marked <;> trivial
          all_goals
            refine .bind reports_updateUnderLease fun reserved => ?_
            cases reserved with
            | none => exact reports_refreshDelivery
            | some row => exact reports_recordDelivery

theorem reports_enqueueSummary {environment : SummaryEnvironment}
    {payload : ScheduleEmitPayload} {schedule : SummaryScheduleRow}
    {body : String} :
    (enqueueSummary environment payload schedule body).Reports IsTransient :=
  .bind (reports_enqueueOutboundInTransaction rfl) fun _ => trivial

theorem reports_forRows {Index : Type} {statement : Index → Execution Unit}
    (reports : ∀ index, (statement index).Reports IsTransient) :
    ∀ indices, (Session.forRows statement indices).Reports IsTransient
  | [] => trivial
  | index :: indices => .bind (reports index) fun _ =>
      reports_forRows reports indices

theorem reports_changeRow {key : BotKey} {condition : BotRow key → Bool}
    {change : BotRow key → BotRow key} :
    (changeRow key condition change).Reports IsTransient :=
  .bind (Session.reports_updateRow rfl) fun _ => trivial

theorem reports_deleteRow {key : BotKey} {condition : BotRow key → Bool} :
    (deleteRow key condition).Reports IsTransient := by
  refine .bind (Session.reports_selectForUpdate rfl) fun row => ?_
  cases row <;> trivial

theorem reports_deleteEntry {entry : BotStore → Option BotKey} :
    (deleteEntry entry).Reports IsTransient := by
  refine .bind (Session.reports_query rfl) fun found => ?_
  cases found with
  | none => trivial
  | some key => exact reports_deleteRow

theorem reports_deleteSubmission {accountId submissionId : Uuid} :
    (deleteSubmission accountId submissionId).Reports IsTransient := by
  refine .bind reports_deleteRow fun _ => .bind reports_deleteRow fun _ => ?_
  refine .bind reports_deleteRow fun _ => .bind reports_deleteEntry fun _ => ?_
  refine .bind reports_deleteRow fun _ => .bind reports_deleteEntry fun _ => ?_
  exact reports_deleteRow

theorem reports_unlinkExpense {accountId expenseId : Uuid} :
    (unlinkExpense accountId expenseId).Reports IsTransient :=
  .bind reports_deleteEntry fun _ => reports_changeRow

theorem reports_purgeAccountContent {environment : AccountEnvironment}
    {accountId : Uuid} :
    (purgeAccountContent environment accountId).Reports IsTransient := by
  refine .bind (reports_forRows (fun _ => reports_changeRow) _) fun _ => ?_
  refine .bind (reports_forRows (fun _ => reports_unlinkExpense) _)
    fun _ => ?_
  refine .bind (reports_forRows (fun _ => reports_deleteRow) _) fun _ => ?_
  refine .bind (reports_forRows (fun _ => reports_deleteSubmission) _)
    fun _ => ?_
  refine .bind reports_deleteRow fun _ => ?_
  refine .bind (reports_forRows (fun _ => reports_deleteRow) _) fun _ => ?_
  refine .bind (reports_forRows (fun _ => reports_deleteRow) _) fun _ => ?_
  refine .bind (reports_forRows (fun _ => reports_deleteRow) _) fun _ => ?_
  refine .bind (Session.reports_query rfl) fun _ => ?_
  refine .bind (reports_forRows (fun _ => reports_deleteRow) _) fun _ => ?_
  refine .bind (Session.reports_query rfl) fun _ => ?_
  exact reports_forRows (fun _ => reports_changeRow) _

theorem reports_deleteAccountObject {objectKey : String} :
    (deleteAccountObject objectKey).Reports IsTransient :=
  trivial

theorem reports_deleteAccount {environment : AccountEnvironment}
    {payload : AccountDeletePayload} :
    (deleteAccount environment payload).Reports IsTransient := by
  refine .bind reports_changeRow fun _ => .bind trivial fun _ => ?_
  refine .bind (.bind (Session.reports_query rfl) fun _ =>
    .bind (Session.reports_query rfl) fun _ => trivial) fun objectKeys => ?_
  refine .bind (reports_forRows (fun _ => reports_deleteAccountObject) _)
    fun _ => ?_
  refine .bind reports_purgeAccountContent fun _ => ?_
  refine .bind reports_changeRow fun _ => ?_
  exact .bind reports_changeRow fun _ => trivial

theorem reports_executeAccountDelete {environment : AccountEnvironment}
    {payload : AccountDeletePayload} :
    (executeAccountDelete environment payload).Reports IsTransient := by
  unfold executeAccountDelete
  split
  · trivial
  refine .bind (Session.reports_query rfl) fun lifecycle => ?_
  split
  · trivial
  · trivial
  · exact reports_deleteAccount

theorem reports_executeAccountExport {environment : AccountEnvironment}
    {payload : AccountExportPayload} :
    (executeAccountExport environment payload).Reports IsTransient := by
  unfold executeAccountExport
  split
  · trivial
  refine .bind (Session.reports_query rfl) fun lifecycle => ?_
  split
  · refine .bind (Session.reports_query rfl) fun rows => ?_
    refine .bind trivial fun _ => .bind trivial fun _ => ?_
    refine .bind (Session.reports_query rfl) fun _ => ?_
    exact .bind (Session.reports_query rfl) fun _ => trivial
  · trivial

theorem reports_executeInsightNarrate
    {narrate : SpendingTotals.InsightAggregate →
      Except Insights.InsightError String}
    {environment : Insights.NarrateEnvironment}
    {payload : Insights.InsightNarratePayload} :
    (Insights.executeInsightNarrate narrate environment payload).Reports
      fun _ => True := by
  unfold Insights.executeInsightNarrate
  split
  · trivial
  refine .bind (Session.reports_query trivial) fun row => ?_
  cases row with
  | none => trivial
  | some row =>
      dsimp only
      split
      · trivial
      refine .bind ⟨fun _ => trivial, _, rfl, trivial⟩ fun counter => ?_
      split
      · change Session.Reports _ (if _ then _ else _)
        split <;> trivial
      cases narrate row.aggregate with
      | error error => trivial
      | ok narrative =>
          refine .bind ⟨fun found => ?_, _, rfl, trivial⟩ fun _ => trivial
          dsimp only
          split
          · trivial
          · split <;> trivial

theorem reports_narrateSnapshot {dispatch : NarrateDispatch}
    {payload : Insights.InsightNarratePayload} :
    (narrateSnapshot dispatch payload).Reports IsTransient :=
  .mapEvent (reports_executeInsightNarrate.mapError fun _ _ => rfl)

end OtherJobs

end Executions

end ZaloBot
