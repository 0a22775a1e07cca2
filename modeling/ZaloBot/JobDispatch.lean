import ZaloBot.JobExecutions

/-!
# Failed reads of a dispatch

A dispatch in which a read has failed should end with a failure that is tried
again.  It does, unless the failed read is one whose failure the dispatch takes
for an absent row or discards.
-/

namespace ZaloBot

open Sessions

namespace Executions

open Receipts Workers

section Receipts

/-- Sessions of workers with the places of their reads. -/
abbrev PlacedWork (Value : Type) :=
  Placed DispatchPlace BotRow LeasedEvent ReceiptFailure Value

/-- `ingest`; the check for an orphan stands at a place of its own. -/
def placedIngest (environment : IngestEnvironment)
    (accountId submissionId : Uuid) (bytes : List UInt8) (mimeType : String)
    (extractJobId : Uuid) :
    Placed DispatchPlace BotRow ReceiptEvent ReceiptFailure
      IngestOutcome := do
  let now := environment.now
  let active ← (accountIsActive accountId).placed .execution
  if active then
    let row ← (loadSubmission submissionId accountId).placed .execution
    let asset ← (loadAsset submissionId accountId).placed .execution
    if row.state = .stored ∨ row.state = .extracting ∨
        row.state = .reviewRequired ∨ row.state = .confirmed ∨
        (row.state = .failedTransient ∧ asset.isSome) then
      pure (.alreadyStored submissionId)
    else if row.state.isTerminal then
      pure (.alreadyTerminal row.state)
    else if row.state ≠ .queued ∧ row.state ≠ .failedTransient then
      .fail (.refused (.conflict "submission not ready for ingest"))
    else
      match environment.validateImage bytes mimeType with
      | .error error => do
          (markFailure now submissionId accountId .failedPermanent
            error.errorClass).placed .execution
          .fail (.refused error)
      | .ok validated => do
          let original ← (findActiveDuplicate accountId
            validated.contentSha256).placed .execution
          match original.filter (· ≠ submissionId) with
          | some original => do
              (absorbDuplicate now submissionId accountId original).placed
                .execution
              pure (.duplicateAbsorbed submissionId original)
          | none => do
              let objectKey := receiptObjectKey accountId submissionId
                validated.contentSha256
              (putObject environment.objectStoreError objectKey bytes).placed
                .execution
              let persist ← ((persistStoredIngest environment accountId
                submissionId objectKey validated extractJobId).placed
                  .execution).attempt
              match persist with
              | .ok (.stored submissionId contentSha256) =>
                  pure (.stored submissionId contentSha256)
              | .ok (.alreadyStored submissionId) =>
                  pure (.alreadyStored submissionId)
              | .ok outcome => do
                  (compensateOrphanObject environment accountId submissionId
                    objectKey).placed .orphanCheck
                  pure outcome
              | .error error => do
                  (compensateOrphanObject environment accountId submissionId
                    objectKey).placed .orphanCheck
                  .fail error
  else
    pure (.alreadyTerminal .deleted)

/-- `load_submission_media_url`. -/
def placedMediaUrl (mediaUrl : Option String) (submissionId : Uuid) :
    PlacedWork (Option (Uuid × String)) :=
  (loadSubmissionMediaUrl mediaUrl submissionId).placed .mediaUrl

/-- `fail_queued` and the failure message, whose errors are discarded. -/
def placedFailure (environment : WorkEnvironment) (job : ClaimedJob)
    (accountId submissionId : Uuid) (errorClass : ErrorClass) :
    PlacedWork Unit := do
  let _ ← ((onReceipts job (failQueued environment.failedAt submissionId
    accountId errorClass)).placed .failedSubmission).attempt
  let _ ← ((Followups.enqueueReceiptFailureFollowup
    (leased job .failureFollowup) environment.followup accountId submissionId
    errorClass).placed .failureMessage).attempt
  pure ()

/-- `dispatch_receipt_ingest`. -/
def placedReceiptIngest (environment : WorkEnvironment) (job : ClaimedJob) :
    PlacedWork OutboundJobExecution :=
  match parseReceiptSubmissionId job jobTypeIngest with
  | none => pure .invalidJob
  | some submissionId =>
      if job.dedupeKey ≠ ingestDedupeKey submissionId then
        pure .invalidJob
      else do
        let media ← placedMediaUrl environment.mediaUrl submissionId
        match media with
        | none => pure .invalidJob
        | some (accountId, mediaUrl) =>
            match environment.download mediaUrl with
            | .error errorClass =>
                if isPermanentMediaFailure errorClass then do
                  placedFailure environment job accountId submissionId
                    errorClass
                  pure (.fail errorClass)
                else
                  pure (.fail errorClass)
            | .ok (bytes, contentType) => do
                let outcome ← ((placedIngest environment.ingest accountId
                  submissionId bytes
                  (contentType.getD "application/octet-stream")
                  environment.extractJobId).mapEvent
                    fun event => leased job (.receipt event)).attempt
                match outcome with
                | .ok _ => pure receiptJobComplete
                | .error error =>
                    let errorClass := error.reported.errorClass
                    if errorClass = .validation ∨
                        errorClass = .unsupported then do
                      placedFailure environment job accountId submissionId
                        errorClass
                      pure (.fail errorClass)
                    else
                      pure (.fail errorClass)

/-- The failure message of `dispatch_receipt_extract`, whose errors are
discarded. -/
def placedExtractionFailure (environment : WorkEnvironment)
    (job : ClaimedJob) (accountId submissionId : Uuid)
    (errorClass : ErrorClass) : PlacedWork OutboundJobExecution := do
  let _ ← ((Followups.enqueueReceiptFailureFollowup
    (leased job .failureFollowup) environment.followup accountId submissionId
    errorClass).placed .failureMessage).attempt
  pure (.fail errorClass)

/-- What `dispatch_receipt_extract` does after the extraction. -/
def placedAfterExtraction (environment : WorkEnvironment) (job : ClaimedJob)
    (accountId submissionId : Uuid) :
    Except ReceiptFailure ExtractOutcome → PlacedWork OutboundJobExecution
  | .ok (.reviewRequired _ _) | .ok (.alreadyReviewRequired _) => do
      let followup ← ((Followups.enqueueReceiptReviewFollowup
        (leased job .reviewFollowup) environment.followup
        environment.config.reviewExpiryHours accountId submissionId).placed
          .execution).attempt
      match followup with
      | .error _ => pure (.fail .dependency)
      | .ok _ => pure receiptJobComplete
  | .ok (.alreadyTerminal _) => pure receiptJobComplete
  | .ok .unsupported =>
      placedExtractionFailure environment job accountId submissionId
        .unsupported
  | .error error =>
      let errorClass := error.reported.errorClass
      if isReportedExtractionFailure errorClass then
        placedExtractionFailure environment job accountId submissionId
          errorClass
      else
        pure (.fail errorClass)

/-- `dispatch_receipt_extract`. -/
def placedReceiptExtract (environment : WorkEnvironment) (job : ClaimedJob) :
    PlacedWork OutboundJobExecution :=
  match parseReceiptSubmissionId job jobTypeExtract with
  | none => pure .invalidJob
  | some submissionId =>
      if job.dedupeKey ≠ extractDedupeKey submissionId then
        pure .invalidJob
      else do
        let account ← (loadSubmissionAccountId submissionId).placed
          .submissionAccount
        match account with
        | none => pure .invalidJob
        | some accountId => do
            let outcome ← ((onReceipts job (extract environment.config
              environment.extract accountId submissionId)).placed
                .execution).attempt
            placedAfterExtraction environment job accountId submissionId
              outcome

section Forgetting

theorem forget_placedIngest {environment : IngestEnvironment}
    {accountId submissionId extractJobId : Uuid} {bytes : List UInt8}
    {mimeType : String} :
    (placedIngest environment accountId submissionId bytes mimeType
      extractJobId).forget =
      ingest environment accountId submissionId bytes mimeType
        extractJobId := by
  unfold placedIngest ingest
  simp only [Placed.forget_bind, Placed.forget_placed]
  congr 1
  funext active
  split
  · simp only [Placed.forget_bind, Placed.forget_placed]
    congr 1
    funext row
    congr 1
    funext asset
    split
    · rfl
    split
    · rfl
    split
    · rfl
    cases environment.validateImage bytes mimeType with
    | error error =>
        simp only [Placed.forget_bind, Placed.forget_placed]
        rfl
    | ok validated =>
        simp only [Placed.forget_bind, Placed.forget_placed]
        congr 1
        funext original
        cases original.filter (· ≠ submissionId) with
        | some original =>
            simp only [Placed.forget_bind, Placed.forget_placed]
            rfl
        | none =>
            simp only [Placed.forget_bind, Placed.forget_placed,
              Placed.forget_attempt]
            congr 1
            funext _
            congr 1
            funext persist
            rcases persist with error | _ | _ | _ | _ <;>
              simp only [Placed.forget_bind, Placed.forget_placed] <;> rfl
  · rfl

theorem forget_placedFailure {environment : WorkEnvironment}
    {job : ClaimedJob} {accountId submissionId : Uuid}
    {errorClass : ErrorClass} :
    (placedFailure environment job accountId submissionId errorClass).forget =
      reportFailure environment job accountId submissionId errorClass := by
  unfold placedFailure reportFailure
  simp only [Placed.forget_bind, Placed.forget_placed, Placed.forget_attempt,
    Placed.forget_pure]

/-- Without its places this is the execution of an ingest job. -/
theorem forget_placedReceiptIngest {environment : WorkEnvironment}
    {job : ClaimedJob} :
    (placedReceiptIngest environment job).forget =
      dispatchReceiptIngest environment job := by
  unfold placedReceiptIngest dispatchReceiptIngest
  cases parseReceiptSubmissionId job jobTypeIngest with
  | none => rfl
  | some submissionId =>
      dsimp only
      split
      · rfl
      simp only [Placed.forget_bind, placedMediaUrl, Placed.forget_placed]
      congr 1
      funext media
      cases media with
      | none => rfl
      | some media =>
          obtain ⟨accountId, mediaUrl⟩ := media
          dsimp only
          cases environment.download mediaUrl with
          | error errorClass =>
              dsimp only
              split
              · simp only [Placed.forget_bind, forget_placedFailure]
                rfl
              · rfl
          | ok downloaded =>
              simp only [Placed.forget_bind, Placed.forget_attempt,
                Placed.forget_mapEvent, forget_placedIngest]
              unfold onReceipts
              congr 1
              funext outcome
              cases outcome with
              | ok outcome => rfl
              | error error =>
                  dsimp only
                  split
                  · simp only [Placed.forget_bind, forget_placedFailure]
                    rfl
                  · rfl

theorem forget_placedExtractionFailure {environment : WorkEnvironment}
    {job : ClaimedJob} {accountId submissionId : Uuid}
    {errorClass : ErrorClass} :
    (placedExtractionFailure environment job accountId submissionId
      errorClass).forget =
      reportExtractionFailure environment job accountId submissionId
        errorClass := by
  unfold placedExtractionFailure reportExtractionFailure
  simp only [Placed.forget_bind, Placed.forget_placed, Placed.forget_attempt,
    Placed.forget_pure]

theorem forget_placedAfterExtraction {environment : WorkEnvironment}
    {job : ClaimedJob} {accountId submissionId : Uuid}
    {outcome : Except ReceiptFailure ExtractOutcome} :
    (placedAfterExtraction environment job accountId submissionId
      outcome).forget =
      afterExtraction environment job accountId submissionId outcome := by
  rcases outcome with error | _ | _ | _ | _
  · simp only [placedAfterExtraction, afterExtraction]
    split
    · exact forget_placedExtractionFailure
    · rfl
  all_goals simp only [placedAfterExtraction, afterExtraction,
    forget_placedExtractionFailure, Placed.forget_bind, Placed.forget_attempt,
    Placed.forget_placed, Placed.forget_pure]
  all_goals
    congr 1
    funext followup
    cases followup <;> rfl

/-- Without its places this is the execution of an extraction job. -/
theorem forget_placedReceiptExtract {environment : WorkEnvironment}
    {job : ClaimedJob} :
    (placedReceiptExtract environment job).forget =
      dispatchReceiptExtract environment job := by
  unfold placedReceiptExtract dispatchReceiptExtract
  cases parseReceiptSubmissionId job jobTypeExtract with
  | none => rfl
  | some submissionId =>
      dsimp only
      split
      · rfl
      simp only [Placed.forget_bind, Placed.forget_placed]
      congr 1
      funext account
      cases account with
      | none => rfl
      | some accountId =>
          simp only [Placed.forget_bind, Placed.forget_attempt,
            Placed.forget_placed, forget_placedAfterExtraction]

end Forgetting

end Receipts

/-- What the environment decides during one dispatch; the failures of the
object store that come from a failed read are transient ones. -/
structure DispatchEnvironment where
  receipts : WorkEnvironment
  deliver : DeliverEnvironment
  summary : SummaryEnvironment
  account : AccountEnvironment
  narrate : NarrateDispatch
  transientStore :
    isRetryable receipts.extract.objectStoreError.errorClass = true

/-- `dispatch_leased_job`. -/
def dispatchLeasedJob (environment : DispatchEnvironment)
    (job : ClaimedJob) : Dispatch OutboundJobExecution :=
  if job.jobType = "outbound.deliver" then do
    let outcome ← ((deliverForJob environment.deliver job).placed
      .execution).attempt
    match outcome with
    | .ok execution => pure execution
    | .error _ => pure (.fail .dependency)
  else if job.jobType = jobTypeIngest then
    (placedReceiptIngest environment.receipts job).mapEvent .worker
  else if job.jobType = jobTypeExtract then
    (placedReceiptExtract environment.receipts job).mapEvent .worker
  else if job.jobType = "schedule.emit" then
    dispatchScheduleEmit environment.summary job
  else if job.jobType = "account.delete" then
    dispatchAccountDelete environment.account job
  else if job.jobType = "account.export" then
    dispatchAccountExport environment.account job
  else if job.jobType = "insight.narrate" then
    dispatchInsightNarrate environment.narrate job
  else
    pure .invalidJob

end Executions

end ZaloBot
