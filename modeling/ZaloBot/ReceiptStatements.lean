import ZaloBot.BotRows

/-!
# Statements of the receipt lifecycle

The statements on submissions, assets, drafts and expenses that the operations
of the receipt lifecycle are made of, as sessions over the bot's rows.  They
never commit, so they also run inside the transactions of other stores.
-/

namespace ZaloBot

open Sessions

/-- How an operation of the receipt lifecycle fails.  A violated `CHECK` of
`receipt_submissions` and a confirmed submission without its expense are kept
apart from the failures they are reported like. -/
inductive ReceiptFailure where
  | refused (error : StoreError)
  | checkViolated
  | inconsistent (message : String)
deriving DecidableEq, Repr

/-- The error that the caller sees. -/
def ReceiptFailure.reported : ReceiptFailure → StoreError
  | .refused error => error
  | .checkViolated => .dependency "state transition failed"
  | .inconsistent message => .dependency message

/-- `dependency`. -/
def ReceiptFailure.dependency (message : String) : ReceiptFailure :=
  .refused (.dependency message)

namespace SubmissionRow

/-- The `CHECK` constraints of `receipt_submissions` on one row, the
timestamp ordering aside. -/
def satisfiesChecks (id : Uuid) (row : SubmissionRow) : Bool :=
  0 < row.version &&
    row.duplicateOfSubmissionId ≠ some id &&
    (row.state ≠ .confirmed || row.confirmedExpenseId.isSome) &&
    (row.confirmedExpenseId.isNone || row.state = .confirmed ||
      row.state = .deleted) &&
    (row.state ≠ .reviewRequired || row.reviewExpiresAt.isSome) &&
    (row.failureErrorClass.isNone || row.state = .failedTransient ||
      row.state = .failedPermanent || row.state = .deleted) &&
    (row.duplicateOfSubmissionId.isNone || row.state = .failedPermanent ||
      row.state = .deleted)

/-- The row that `insert_submission` inserts. -/
def new (accountId : Uuid) (inboundEventId : Option Uuid) :
    SubmissionRow where
  accountId := accountId
  inboundEventId := inboundEventId
  state := .pending
  version := 1
  duplicateOfSubmissionId := none
  confirmedExpenseId := none
  failureErrorClass := none
  reviewExpiresAt := none
  history := [.pending]

/-- The `SET` list of `transition_state`. -/
def transitioned (now : Timestamp) (next : ReceiptState)
    (failureErrorClass : Option String) (reviewExpiryHours : Option Int)
    (confirmedExpenseId duplicateOfSubmissionId : Option Uuid)
    (row : SubmissionRow) : SubmissionRow :=
  { row with
    state := next
    version := row.version + 1
    failureErrorClass :=
      match next with
      | .failedTransient | .failedPermanent => failureErrorClass
      | .deleted => row.failureErrorClass
      | _ => none
    reviewExpiresAt :=
      match reviewExpiryHours with
      | some hours => some (now + intervalHours hours)
      | none => row.reviewExpiresAt
    confirmedExpenseId := confirmedExpenseId.or row.confirmedExpenseId
    duplicateOfSubmissionId :=
      duplicateOfSubmissionId.or row.duplicateOfSubmissionId
    history := next :: row.history }

end SubmissionRow

namespace Receipts

variable {Event : Type}

/-- Statements of the receipt lifecycle. -/
abbrev Statement (Event Value : Type) :=
  Session BotRow Event ReceiptFailure Value

/-- `Err(error)`. -/
def refuse {Value : Type} (error : StoreError) : Statement Event Value :=
  .fail (.refused error)

/-- `account_is_active` and `account_is_active_in_tx`. -/
def accountIsActive (accountId : Uuid) : Statement Event Bool :=
  .query (.dependency "account lookup failed") fun view =>
    (view (BotKey.account accountId)).any (·.lifecycleState = .active)

/-- `load_submission`. -/
def loadSubmission (submissionId accountId : Uuid) :
    Statement Event SubmissionRow := do
  let row ← .query (.dependency "submission lookup failed") fun view =>
    (view (BotKey.submission submissionId)).filter (·.accountId = accountId)
  match row with
  | none => refuse (.notFound "receipt submission not found")
  | some row => pure row

/-- `load_submission_for_update`, without the attempt count. -/
def loadSubmissionForUpdate (submissionId accountId : Uuid) :
    Statement Event SubmissionRow := do
  let row ← .selectForUpdate (.dependency "submission lookup failed")
    (BotKey.submission submissionId) (·.accountId = accountId)
  match row with
  | none => refuse (.notFound "receipt submission not found")
  | some row => pure row

/-- The attempt count that `load_submission_for_update` adds. -/
def attemptCount (submissionId : Uuid) : Statement Event Int :=
  .query (.dependency "attempt count failed") fun view =>
    ((view (BotKey.extractionAttempts submissionId)).getD []).length

/-- `load_existing_submission`. -/
def loadExistingSubmission (submissionId : Uuid)
    (inboundEventId : Option Uuid) :
    Statement Event (Option (Uuid × SubmissionRow)) := do
  let byId ← .selectForUpdate (.dependency "submission lookup failed")
    (BotKey.submission submissionId) (fun _ => true)
  match byId, inboundEventId with
  | some row, _ => pure (some (submissionId, row))
  | none, none => pure none
  | none, some inboundEventId => do
      let indexed ← .query (.dependency "replay lookup failed") fun view =>
        view (BotKey.eventSubmission inboundEventId)
      match indexed with
      | none => pure none
      | some existingId => do
          let row ← .selectForUpdate (.dependency "replay lookup failed")
            (BotKey.submission existingId)
            (·.inboundEventId = some inboundEventId)
          pure (row.map fun row => (existingId, row))

/-- `insert_submission`. -/
def insertSubmission (submissionId accountId : Uuid)
    (inboundEventId : Option Uuid) : Statement Event Bool :=
  let failed : ReceiptFailure := .dependency "submission insert failed"
  let row := SubmissionRow.new accountId inboundEventId
  match inboundEventId with
  | none => .insertRow failed (BotKey.submission submissionId) row
  | some inboundEventId => do
      let eventFree ← .insertRow failed (BotKey.eventSubmission inboundEventId)
        submissionId
      if eventFree then
        let inserted ← .insertRow failed (BotKey.submission submissionId) row
        if inserted then
          pure true
        else
          .write (BotKey.eventSubmission inboundEventId) none (pure false)
      else
        pure false

/-- `transition_state`. -/
def transitionState (now : Timestamp) (submissionId accountId : Uuid)
    (current next : ReceiptState) (failureErrorClass : Option String)
    (reviewExpiryHours : Option Int)
    (confirmedExpenseId duplicateOfSubmissionId : Option Uuid) :
    Statement Event Unit :=
  if canTransition current next then do
    let row ← .selectForUpdate (.dependency "state transition failed")
      (BotKey.submission submissionId)
      (fun row => row.accountId = accountId && row.state = current)
    match row with
    | none => refuse (.conflict "optimistic lifecycle transition failed")
    | some row =>
        let updated := row.transitioned now next failureErrorClass
          reviewExpiryHours confirmedExpenseId duplicateOfSubmissionId
        if updated.satisfiesChecks submissionId then
          .write (BotKey.submission submissionId) (some updated) (pure ())
        else
          .fail .checkViolated
  else
    refuse (.conflict "illegal lifecycle transition")

/-- `load_asset`. -/
def loadAsset (submissionId accountId : Uuid) :
    Statement Event (Option AssetRow) :=
  .query (.dependency "asset lookup failed") fun view =>
    (view (BotKey.asset submissionId)).filter (·.accountId = accountId)

inductive AssetInsert where
  | inserted
  | uniqueConflict
deriving DecidableEq, Repr

/-- `insert_asset`. -/
def insertAsset (now : Timestamp) (assetId submissionId accountId : Uuid)
    (objectKey : String) (image : ValidatedImage) :
    Statement Event AssetInsert := do
  let failed : ReceiptFailure := .dependency "asset insert failed"
  let account ← .query failed fun view => view (BotKey.account accountId)
  match account with
  | none => refuse (.notFound "account not found")
  | some account => do
      let row : AssetRow :=
        { id := assetId
          accountId := accountId
          objectKey := objectKey
          image := image
          retentionDeadline :=
            now + intervalDays account.retentionPreferenceDays
          deletionState := .active
          originalDeletedAt := none }
      let submissionFree ← .insertRow failed (BotKey.asset submissionId) row
      if submissionFree then
        let imageFree ← .insertRow failed
          (BotKey.activeImage accountId image.contentSha256) submissionId
        if imageFree then
          pure .inserted
        else
          .write (BotKey.asset submissionId) none (pure .uniqueConflict)
      else
        pure .uniqueConflict

/-- `UPDATE receipt_assets SET deletion_state = 'deleted'` for an active
asset, which leaves the index of active images. -/
def markAssetDeleted (now : Timestamp) (failed : ReceiptFailure)
    (submissionId : Uuid) : Statement Event Unit := do
  let asset ← .selectForUpdate failed (BotKey.asset submissionId)
    (·.deletionState = .active)
  match asset with
  | none => pure ()
  | some asset =>
      .write (BotKey.asset submissionId)
        (some { asset with
          deletionState := .deleted
          originalDeletedAt := some now })
        (.lock .exclusive
          (BotKey.activeImage asset.accountId asset.image.contentSha256)
          (fun _ => true)
          (fun _ =>
            .write (BotKey.activeImage asset.accountId asset.image.contentSha256)
              none (pure ()))
          (.fail failed))

/-- `find_active_duplicate`. -/
def findActiveDuplicate (accountId : Uuid) (contentSha256 : String) :
    Statement Event (Option Uuid) :=
  .query (.dependency "duplicate lookup failed") fun view =>
    view (BotKey.activeImage accountId contentSha256)

/-- `record_extraction_attempt`: nothing is inserted if the number is
taken. -/
def recordExtractionAttempt (submissionId : Uuid)
    (attempt : ExtractionAttemptRow) : Statement Event Unit :=
  .upsertRow (.dependency "extraction attempt insert failed")
    (BotKey.extractionAttempts submissionId) [attempt]
    fun attempts =>
      if attempts.any (·.attemptNumber = attempt.attemptNumber) then attempts
      else attempts ++ [attempt]

/-- `ensure_category`. -/
def ensureCategory (categoryKey : String) : Statement Event Unit := do
  let known ← .query (.dependency "category lookup failed") fun _ =>
    decide (categoryKey ∈ categoryKeys)
  if known then
    pure ()
  else
    refuse (.validation "unknown category key")

/-- `upsert_draft`. -/
def upsertDraft (draftId submissionId accountId : Uuid)
    (extraction : ExtractionResult) : Statement Event Unit := do
  ensureCategory extraction.categoryKey
  .upsertRow (.dependency "draft upsert failed") (BotKey.draft submissionId)
    { id := draftId
      accountId := accountId
      amountMinor := extraction.amountMinor
      currency := extraction.currency
      merchant := extraction.merchant
      categoryKey := extraction.categoryKey
      transactionType := extraction.transactionType
      occurredAt := extraction.occurredAt
      version := 1 }
    fun draft =>
      { draft with
        amountMinor := extraction.amountMinor
        currency := extraction.currency
        merchant := extraction.merchant
        categoryKey := extraction.categoryKey
        transactionType := extraction.transactionType
        occurredAt := extraction.occurredAt
        version := draft.version + 1 }

/-- `load_draft_for_update`. -/
def loadDraftForUpdate (submissionId accountId : Uuid) :
    Statement Event DraftRow := do
  let row ← .selectForUpdate (.dependency "draft lookup failed")
    (BotKey.draft submissionId) (·.accountId = accountId)
  match row with
  | none => refuse (.notFound "expense draft not found")
  | some row => pure row

/-- `update_draft`. -/
def updateDraft (submissionId : Uuid) (draft : DraftRow) :
    Statement Event Unit := do
  ensureCategory draft.categoryKey
  let updated ← .updateRow (.dependency "draft update failed")
    (BotKey.draft submissionId)
    (fun row => row.id = draft.id && row.version = draft.version)
    fun row =>
      { row with
        amountMinor := draft.amountMinor
        currency := draft.currency
        merchant := draft.merchant
        categoryKey := draft.categoryKey
        transactionType := draft.transactionType
        occurredAt := draft.occurredAt
        version := row.version + 1 }
  if updated then
    pure ()
  else
    refuse (.conflict "draft version mismatch")

/-- `record_correction`. -/
def recordCorrection (submissionId : Uuid) (correction : CorrectionRow) :
    Statement Event Unit :=
  .upsertRow (.dependency "correction insert failed")
    (BotKey.corrections submissionId) [correction] (· ++ [correction])

/-- The expense that `insert_confirmed_expense` inserts. -/
def confirmedExpense (accountId submissionId : Uuid) (draft : DraftRow) :
    ExpenseRow where
  accountId := accountId
  amountMinor := draft.amountMinor
  currency := draft.currency
  occurredAt := draft.occurredAt
  description := draft.merchant
  source := .receipt
  state := .confirmed
  version := 1
  receiptSubmissionId := some submissionId
  categoryKey := draft.categoryKey
  transactionType := draft.transactionType

/-- `insert_confirmed_expense`: an expense of the submission is left alone, a
taken expense id is an error. -/
def insertConfirmedExpense (expenseId accountId submissionId : Uuid)
    (draft : DraftRow) : Statement Event Unit := do
  let failed : ReceiptFailure := .dependency "expense insert failed"
  let submissionFree ← .insertRow failed (BotKey.receiptExpense submissionId)
    expenseId
  if submissionFree then
    let inserted ← .insertRow failed (BotKey.expense expenseId)
      (confirmedExpense accountId submissionId draft)
    if inserted then
      pure ()
    else
      .fail failed
  else
    pure ()

/-- `lookup_confirmed_expense_id`. -/
def lookupConfirmedExpenseId (submissionId : Uuid) :
    Statement Event Uuid := do
  let expenseId ← .query (.dependency "confirmed expense lookup failed")
    fun view => view (BotKey.receiptExpense submissionId)
  match expenseId with
  | none => .fail (.inconsistent "confirmed expense missing")
  | some expenseId => pure expenseId

/-- `enqueue_in_transaction` on the bot's rows. -/
def enqueueInTransaction (now : Timestamp) (request : EnqueueRequest) :
    Statement Event EnqueueOutcome :=
  match WorkStore.validateEnqueueRequest request with
  | .error error => refuse error
  | .ok version => do
      let inserted ← .insertRow (.dependency "enqueue failed")
        (BotKey.job request.dedupeKey) (WorkStore.queuedRow now version request)
      if inserted then pure .enqueued else pure .duplicate

/-- `enqueue_receipt_job`. -/
def enqueueReceiptJob (now : Timestamp) (jobId : Uuid) (jobType : String)
    (submissionId accountId : Uuid) : Statement Event EnqueueOutcome := do
  let dedupeKey :=
    if jobType = jobTypeIngest then ingestDedupeKey submissionId
    else extractDedupeKey submissionId
  let outcome ← enqueueInTransaction now
    { id := jobId
      jobType := jobType
      payload :=
        ⟨some 1, [("receipt_submission_id", submissionId.text)]⟩
      dedupeKey := dedupeKey
      serializationKey := some (receiptSerializationKey accountId)
      priority := 0
      runAt := now
      maxAttempts := 10 }
  match outcome with
  | .duplicate => pure .duplicate
  | .enqueued => do
      let _ ← .updateRow (.dependency "job run_at update failed")
        (BotKey.job dedupeKey) (·.id = jobId) fun job => { job with runAt := now }
      pure .enqueued

end Receipts

end ZaloBot
