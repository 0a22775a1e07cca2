import ZaloBot.JobStatements
import ZaloBot.ReceiptFollowups
import ZaloBot.ReceiptMachine
import ZaloBot.SessionEvents

/-!
# Workers on receipt jobs

A worker claims a job, executes it and settles it under its lease token.  The
executions of receipt jobs call the receipt lifecycle, which knows nothing of
leases: a worker whose lease has expired goes on.  Everything else that changes
receipts and jobs runs beside the workers: the calls of ingress and maintenance,
heartbeats, shutdowns, and the operator's recoveries and cancellations.
-/

namespace ZaloBot

open Sessions LabelledRuns TaskPool

/-- What a publication is for. -/
inductive WorkEvent where
  | receipt (event : ReceiptEvent)
  | reviewFollowup
  | failureFollowup
  | claim
  | heartbeat
  | complete
  | fail
  | recoverDead
  | cancel
deriving DecidableEq, Repr

/-- A publication of an execution carries the dedupe key of its job and the
token of its lease. -/
structure LeasedEvent where
  lease : Option (String × Uuid)
  event : WorkEvent
deriving DecidableEq, Repr

/-- What the environment decides during one claim and the execution that
follows it. -/
structure WorkEnvironment where
  options : ClaimOptions
  claimedAt : Timestamp
  token : Uuid
  candidate : Option String
  mediaUrl : Option String
  download : String → Except ErrorClass (List UInt8 × Option String)
  failedAt : Timestamp
  ingest : Receipts.IngestEnvironment
  extractJobId : Uuid
  config : ReceiptConfig
  extract : Receipts.ExtractEnvironment
  followup : FollowupEnvironment
  otherExecution : OutboundJobExecution
  settledAt : Timestamp

namespace Workers

open Receipts

/-- Sessions of workers. -/
abbrev Work (Value : Type) :=
  Statement LeasedEvent Value

/-- The name under which an execution publishes. -/
def leased (job : ClaimedJob) (event : WorkEvent) : LeasedEvent :=
  ⟨some (job.dedupeKey, job.leaseToken), event⟩

/-- A call of the receipt lifecycle by an execution. -/
def onReceipts {Value : Type} (job : ClaimedJob)
    (operation : Operation Value) : Work Value :=
  operation.mapEvent fun event => leased job (.receipt event)

/-- `parse_receipt_submission_id`. -/
def parseReceiptSubmissionId (job : ClaimedJob) (expectedType : String) :
    Option Uuid :=
  if job.jobType = expectedType ∧ job.payloadVersion = 1 ∧
      job.payload.schemaVersion = some 1 then
    (job.payload.members.lookup "receipt_submission_id").map Uuid.mk
  else
    none

/-- `load_submission_media_url`: a failed lookup counts as no row. -/
def loadSubmissionMediaUrl (mediaUrl : Option String) (submissionId : Uuid) :
    Work (Option (Uuid × String)) :=
  .read (fun view => pure do
    let row ← view (BotKey.submission submissionId)
    let url ← mediaUrl
    some (row.accountId, url)) (pure none)

/-- `load_submission_account_id`: a failed lookup counts as no row. -/
def loadSubmissionAccountId (submissionId : Uuid) : Work (Option Uuid) :=
  .read (fun view => pure
    ((view (BotKey.submission submissionId)).map SubmissionRow.accountId))
    (pure none)

/-- `is_permanent_media_failure`. -/
def isPermanentMediaFailure : ErrorClass → Bool
  | .validation | .unsupported | .forbidden => true
  | _ => false

/-- `receipt_job_complete`. -/
def receiptJobComplete : OutboundJobExecution :=
  .complete ⟨⟨"00000000-0000-0000-0000-000000000000"⟩, .sent⟩

/-- `fail_queued` and the failure message, whose errors are discarded. -/
def reportFailure (environment : WorkEnvironment) (job : ClaimedJob)
    (accountId submissionId : Uuid) (errorClass : ErrorClass) :
    Work Unit := do
  let _ ← (onReceipts job (failQueued environment.failedAt submissionId
    accountId errorClass)).attempt
  let _ ← (Followups.enqueueReceiptFailureFollowup
    (leased job .failureFollowup) environment.followup accountId submissionId
    errorClass).attempt
  pure ()

/-- `dispatch_receipt_ingest`. -/
def dispatchReceiptIngest (environment : WorkEnvironment)
    (job : ClaimedJob) : Work OutboundJobExecution :=
  match parseReceiptSubmissionId job jobTypeIngest with
  | none => pure .invalidJob
  | some submissionId =>
      if job.dedupeKey ≠ ingestDedupeKey submissionId then
        pure .invalidJob
      else do
        let media ← loadSubmissionMediaUrl environment.mediaUrl submissionId
        match media with
        | none => pure .invalidJob
        | some (accountId, mediaUrl) =>
            match environment.download mediaUrl with
            | .error errorClass =>
                if isPermanentMediaFailure errorClass then do
                  reportFailure environment job accountId submissionId
                    errorClass
                  pure (.fail errorClass)
                else
                  pure (.fail errorClass)
            | .ok (bytes, contentType) => do
                let outcome ← (onReceipts job (ingest environment.ingest
                  accountId submissionId bytes
                  (contentType.getD "application/octet-stream")
                  environment.extractJobId)).attempt
                match outcome with
                | .ok _ => pure receiptJobComplete
                | .error error =>
                    let errorClass := error.reported.errorClass
                    if errorClass = .validation ∨
                        errorClass = .unsupported then do
                      reportFailure environment job accountId submissionId
                        errorClass
                      pure (.fail errorClass)
                    else
                      pure (.fail errorClass)

/-- The failure message of `dispatch_receipt_extract`, whose errors are
discarded. -/
def reportExtractionFailure (environment : WorkEnvironment)
    (job : ClaimedJob) (accountId submissionId : Uuid)
    (errorClass : ErrorClass) : Work OutboundJobExecution := do
  let _ ← (Followups.enqueueReceiptFailureFollowup
    (leased job .failureFollowup) environment.followup accountId submissionId
    errorClass).attempt
  pure (.fail errorClass)

/-- The error classes of an extraction that the user is told about. -/
def isReportedExtractionFailure : ErrorClass → Bool
  | .validation | .unsupported | .killSwitch | .quotaExceeded | .auth => true
  | _ => false

/-- What `dispatch_receipt_extract` does after the extraction. -/
def afterExtraction (environment : WorkEnvironment) (job : ClaimedJob)
    (accountId submissionId : Uuid) :
    Except ReceiptFailure ExtractOutcome → Work OutboundJobExecution
  | .ok (.reviewRequired _ _) | .ok (.alreadyReviewRequired _) => do
      let followup ← (Followups.enqueueReceiptReviewFollowup
        (leased job .reviewFollowup) environment.followup
        environment.config.reviewExpiryHours accountId submissionId).attempt
      match followup with
      | .error _ => pure (.fail .dependency)
      | .ok _ => pure receiptJobComplete
  | .ok (.alreadyTerminal _) => pure receiptJobComplete
  | .ok .unsupported =>
      reportExtractionFailure environment job accountId submissionId
        .unsupported
  | .error error =>
      let errorClass := error.reported.errorClass
      if isReportedExtractionFailure errorClass then
        reportExtractionFailure environment job accountId submissionId
          errorClass
      else
        pure (.fail errorClass)

/-- `dispatch_receipt_extract`. -/
def dispatchReceiptExtract (environment : WorkEnvironment)
    (job : ClaimedJob) : Work OutboundJobExecution :=
  match parseReceiptSubmissionId job jobTypeExtract with
  | none => pure .invalidJob
  | some submissionId =>
      if job.dedupeKey ≠ extractDedupeKey submissionId then
        pure .invalidJob
      else do
        let account ← loadSubmissionAccountId submissionId
        match account with
        | none => pure .invalidJob
        | some accountId => do
            let outcome ← (onReceipts job (extract environment.config
              environment.extract accountId submissionId)).attempt
            afterExtraction environment job accountId submissionId outcome

/-- `dispatch_leased_job`; jobs of other types leave receipts alone, and the
environment decides how they end. -/
def dispatchLeasedJob (environment : WorkEnvironment) (job : ClaimedJob) :
    Work OutboundJobExecution :=
  if job.jobType = jobTypeIngest then
    dispatchReceiptIngest environment job
  else if job.jobType = jobTypeExtract then
    dispatchReceiptExtract environment job
  else
    pure environment.otherExecution

/-- The settlement of `apply_execution_result` by a failure. -/
def failJob (environment : WorkEnvironment) (job : ClaimedJob)
    (errorClass : ErrorClass) : Work Unit := do
  let _ ← (Jobs.fail (leased job .fail) environment.settledAt job.dedupeKey
    job.id job.leaseToken errorClass).attempt
  pure ()

/-- `apply_execution_result`: a rejected settlement is only logged. -/
def applyExecutionResult (environment : WorkEnvironment) (job : ClaimedJob) :
    OutboundJobExecution → Work Unit
  | .complete _ => do
      let _ ← (Jobs.complete (leased job .complete) environment.settledAt
        job.dedupeKey job.id job.leaseToken).attempt
      pure ()
  | .fail errorClass => failJob environment job errorClass
  | .invalidJob => failJob environment job .validation
  | .staleLease => pure ()

/-- One turn of the loop of `outbound_worker_task`. -/
def work (environment : WorkEnvironment) :
    Work (Option (ClaimedJob × OutboundJobExecution)) := do
  let claimed ← Jobs.claim ⟨none, .claim⟩ environment.claimedAt
    environment.options environment.token environment.candidate
  match claimed with
  | none => pure none
  | some job => do
      let execution ← dispatchLeasedJob environment job
      applyExecutionResult environment job execution
      pure (some (job, execution))

end Workers

/-- What runs on the database of receipts and jobs. -/
inductive WorkerRequest where
  | receipt (request : ReceiptRequest)
  | work (environment : WorkEnvironment)
  | heartbeat (now : Timestamp) (dedupeKey : String) (job token : Uuid)
      (leaseDurationSecs : Int)
  | shutdown (now : Timestamp) (dedupeKey : String) (job token : Uuid)
  | recoverDead (now : Timestamp) (dedupeKey : String) (job : Uuid)
  | cancel (now : Timestamp) (dedupeKey : String) (job : Uuid)

inductive WorkerResponse where
  | receipt (request : ReceiptRequest) (response : ReceiptResponse)
  | worked (executed : Option (ClaimedJob × OutboundJobExecution))
  | finished

namespace Workers

/-- The session of a request. -/
def serve : WorkerRequest → Work WorkerResponse
  | .receipt request => do
      let response ← (ReceiptMachine.serve request).mapEvent
        fun event => (⟨none, .receipt event⟩ : LeasedEvent)
      pure (.receipt request response)
  | .work environment => do
      let executed ← work environment
      pure (.worked executed)
  | .heartbeat now dedupeKey job token leaseDurationSecs => do
      Jobs.heartbeat ⟨none, .heartbeat⟩ now dedupeKey job token
        leaseDurationSecs
      pure .finished
  | .shutdown now dedupeKey job token => do
      Jobs.fail ⟨none, .fail⟩ now dedupeKey job token .transient
      pure .finished
  | .recoverDead now dedupeKey job => do
      Jobs.recoverDead ⟨none, .recoverDead⟩ now dedupeKey job
      pure .finished
  | .cancel now dedupeKey job => do
      Jobs.cancelByOperator ⟨none, .cancel⟩ now dedupeKey job
      pure .finished

/-- The label of a call of the receipt lifecycle. -/
def receiptLabel :
    Nat × SessionLabel ReceiptRequest → Nat × SessionLabel WorkerRequest
  | (owner, .begin request) => (owner, .begin (.receipt request))
  | (owner, .advance) => (owner, .advance)
  | (owner, .fault) => (owner, .fault)
  | (owner, .loseAcknowledgement) => (owner, .loseAcknowledgement)
  | (owner, .drop) => (owner, .drop)

/-- The database of receipts and jobs with everything that runs on it. -/
abbrev WorkerPool :=
  Pool (Database BotRow LeasedEvent)
    (SessionTask BotRow LeasedEvent ReceiptFailure WorkerResponse)

end Workers

end ZaloBot
