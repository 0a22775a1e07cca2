import ZaloBot.ReceiptStatements
import ZaloBot.UsageQuota

/-!
# Operations of the receipt lifecycle

The operations of `ReceiptLifecycle` as sessions, statement by statement.
What the environment decides is part of a call: clock readings, drawn UUIDs,
the result of the image check, the answer of the extractor, and the rows that
a batch statement selects.  Commits and object-store effects carry an event
that says which operation made them.
-/

namespace ZaloBot

open Sessions

/-- Which operation a publication belongs to. -/
inductive ReceiptEvent where
  | accept (request : AcceptSubmissionRequest)
      (outcome : AcceptSubmissionOutcome)
  | confirm (request : ConfirmRequest) (outcome : ConfirmOutcome)
  | reject (request : RejectRequest)
  | edit (request : EditDraftRequest)
  | failQueued
  | markFailure
  | absorbDuplicate
  | storeIngest
  | claimExtracting
  | extractionQuota
  | extractionSuccess
  | extractionFailure
  | expireReviews
  | deleteOriginal
  | retentionSweep
  | recategorizeLatest
  | putObject
  | deleteObject
deriving DecidableEq, Repr

namespace Receipts

section InTransaction

variable {Event : Type}

/-- `finish_accept_in_transaction`. -/
def finishAcceptInTransaction (now : Timestamp)
    (submissionId accountId ingestJobId : Uuid) :
    Statement Event AcceptSubmissionOutcome := do
  let current ← loadSubmissionForUpdate submissionId accountId
  if current.state = .pending then
    transitionState now submissionId accountId .pending .queued none none
      none none
    enqueueIngest
  else if current.state ≠ .queued then
    pure (.replayed submissionId current.state)
  else
    enqueueIngest
where
  enqueueIngest : Statement Event AcceptSubmissionOutcome := do
    let outcome ← enqueueReceiptJob now ingestJobId jobTypeIngest
      submissionId accountId
    match outcome with
    | .enqueued => pure (.accepted .queued)
    | .duplicate => pure .duplicateJob

/-- `accept_submission_in_transaction`. -/
def acceptSubmissionInTransaction (now : Timestamp)
    (request : AcceptSubmissionRequest) :
    Statement Event AcceptSubmissionOutcome := do
  let active ← accountIsActive request.accountId
  if active then
    let inserted ← insertSubmission request.submissionId request.accountId
      request.inboundEventId
    if inserted then
      finishAcceptInTransaction now request.submissionId request.accountId
        request.ingestJobId
    else
      let existing ← loadExistingSubmission request.submissionId
        request.inboundEventId
      match existing with
      | none => refuse (.dependency "replay lookup failed")
      | some (existingId, existing) =>
          if existing.accountId ≠ request.accountId then
            refuse (.conflict "inbound event belongs to a different account")
          else if existing.state = .pending then
            finishAcceptInTransaction now existingId existing.accountId
              request.ingestJobId
          else
            pure (.replayed existingId existing.state)
  else
    refuse (.conflict "account is not active")

/-- `confirm_in_transaction`. -/
def confirmInTransaction (now : Timestamp) (request : ConfirmRequest) :
    Statement Event ConfirmOutcome := do
  let submission ← loadSubmissionForUpdate request.submissionId
    request.accountId
  if submission.state = .confirmed then
    match submission.confirmedExpenseId with
    | none => .fail (.inconsistent "confirmed submission missing expense")
    | some expenseId => pure (.alreadyConfirmed expenseId)
  else if submission.state ≠ .reviewRequired then
    refuse (.conflict "submission is not awaiting review")
  else
    let draft ← loadDraftForUpdate request.submissionId request.accountId
    if draft.version ≠ request.expectedDraftVersion then
      refuse (.conflict "draft version mismatch")
    else
      insertConfirmedExpense request.expenseId request.accountId
        request.submissionId draft
      let expenseId ← lookupConfirmedExpenseId request.submissionId
      transitionState now request.submissionId request.accountId
        .reviewRequired .confirmed none none (some expenseId) none
      pure (.confirmed expenseId)

/-- `reject_in_transaction`. -/
def rejectInTransaction (now : Timestamp) (request : RejectRequest) :
    Statement Event Unit := do
  let submission ← loadSubmissionForUpdate request.submissionId
    request.accountId
  if submission.state = .rejected then
    pure ()
  else if submission.state ≠ .reviewRequired then
    refuse (.conflict "submission is not awaiting review")
  else
    let draft ← loadDraftForUpdate request.submissionId request.accountId
    if draft.version ≠ request.expectedDraftVersion then
      refuse (.conflict "draft version mismatch")
    else
      transitionState now request.submissionId request.accountId
        .reviewRequired .rejected none none none none

/-- Check a field of an edit that is present. -/
def checkField {Field Checked : Type} (field : Option Field)
    (check : Field → Except StoreError Checked) :
    Statement Event (Option Checked) :=
  match field with
  | none => pure none
  | some value =>
      match check value with
      | .error error => refuse error
      | .ok checked => pure (some checked)

/-- Record the correction of one field if the edit changes it. -/
def correctField {Field : Type} [DecidableEq Field] (draft : DraftRow)
    (submissionId : Uuid) (fieldName : String) (render : Field → String)
    (current : Field) (edited : Option Field) : Statement Event Field :=
  match edited with
  | none => pure current
  | some value =>
      if value = current then
        pure current
      else do
        recordCorrection submissionId
          ⟨draft.id, fieldName, some (render current), some (render value)⟩
        pure value

/-- Check the category of an edit if it is present. -/
def checkCategory (categoryKey : Option String) : Statement Event Unit :=
  match categoryKey with
  | none => pure ()
  | some categoryKey => ensureCategory categoryKey

/-- The checks and corrections of `edit_draft_in_transaction`, which lead to
the draft it writes; `toRfc3339` renders timestamps. -/
def editedDraft (toRfc3339 : Timestamp → String)
    (request : EditDraftRequest) (draft : DraftRow) :
    Statement Event DraftRow := do
  let submissionId := request.submissionId
  let _ ← checkField request.amountMinor validateAmountMinor
  let _ ← checkField request.currency validateCurrency
  let editedMerchant ← checkField request.merchant validateMerchant
  checkCategory request.categoryKey
  let amountMinor ← correctField draft submissionId "amount_minor"
    toString draft.amountMinor request.amountMinor
  let currency ← correctField draft submissionId "currency" id
    draft.currency request.currency
  let merchant ← correctField draft submissionId "merchant" id
    draft.merchant editedMerchant
  let categoryKey ← correctField draft submissionId "category_key" id
    draft.categoryKey request.categoryKey
  let occurredAt ← correctField draft submissionId "occurred_at"
    toRfc3339 draft.occurredAt request.occurredAt
  let _ ← checkField request.transactionType validateTransactionType
  let transactionType ← correctField draft submissionId
    "transaction_type" id draft.transactionType request.transactionType
  pure { draft with
    amountMinor := amountMinor
    currency := currency
    merchant := merchant
    categoryKey := categoryKey
    occurredAt := occurredAt
    transactionType := transactionType
    version := request.expectedVersion }

/-- `edit_draft_in_transaction`. -/
def editDraftInTransaction (toRfc3339 : Timestamp → String)
    (request : EditDraftRequest) : Statement Event DraftRow := do
  let submission ← loadSubmissionForUpdate request.submissionId
    request.accountId
  if submission.state ≠ .reviewRequired then
    refuse (.conflict "draft can only be edited while review is required")
  else
    let draft ← loadDraftForUpdate request.submissionId request.accountId
    if draft.version ≠ request.expectedVersion then
      refuse (.conflict "draft version mismatch")
    else
      let next ← editedDraft toRfc3339 request draft
      updateDraft request.submissionId next
      pure { next with version := next.version + 1 }

end InTransaction

/-- Sessions of the receipt lifecycle. -/
abbrev Operation (Value : Type) :=
  Statement ReceiptEvent Value

/-- `tx.commit().await.map_err(|_| dependency("commit failed"))`. -/
def commit (event : ReceiptEvent) : Operation Unit :=
  .commitTransaction (.dependency "commit failed") event

/-- `accept_submission`. -/
def acceptSubmission (now : Timestamp) (request : AcceptSubmissionRequest) :
    Operation AcceptSubmissionOutcome := do
  let outcome ← acceptSubmissionInTransaction now request
  commit (.accept request outcome)
  pure outcome

/-- `confirm`. -/
def confirm (now : Timestamp) (request : ConfirmRequest) :
    Operation ConfirmOutcome := do
  let outcome ← confirmInTransaction now request
  commit (.confirm request outcome)
  pure outcome

/-- `reject`. -/
def reject (now : Timestamp) (request : RejectRequest) :
    Operation Unit := do
  rejectInTransaction now request
  commit (.reject request)

/-- `edit_draft`. -/
def editDraft (toRfc3339 : Timestamp → String)
    (request : EditDraftRequest) : Operation DraftRow := do
  let draft ← editDraftInTransaction toRfc3339 request
  commit (.edit request)
  pure draft

/-- `fail_queued`. -/
def failQueued (now : Timestamp) (submissionId accountId : Uuid)
    (errorClass : ErrorClass) : Operation Unit := do
  let current ← loadSubmissionForUpdate submissionId accountId
  if current.state = .failedPermanent then
    commit .failQueued
  else if current.state ≠ .queued then
    refuse (.conflict "submission is not queued")
  else
    transitionState now submissionId accountId .queued .failedPermanent
      (some errorClass.asStr) none none none
    commit .failQueued

/-- `mark_failure`. -/
def markFailure (now : Timestamp) (submissionId accountId : Uuid)
    (terminalState : ReceiptState) (errorClass : ErrorClass) :
    Operation Unit := do
  let current ← loadSubmissionForUpdate submissionId accountId
  if canTransition current.state terminalState then
    transitionState now submissionId accountId current.state terminalState
      (some errorClass.asStr) none none none
    commit .markFailure
  else
    commit .markFailure

/-- `absorb_duplicate`. -/
def absorbDuplicate (now : Timestamp)
    (submissionId accountId originalSubmissionId : Uuid) :
    Operation Unit := do
  let current ← loadSubmissionForUpdate submissionId accountId
  if current.duplicateOfSubmissionId = some originalSubmissionId ∧
      current.state = .failedPermanent then
    commit .absorbDuplicate
  else
    transitionState now submissionId accountId current.state .failedPermanent
      (some ErrorClass.duplicate.asStr) none none (some originalSubmissionId)
    commit .absorbDuplicate

/-- What the environment decides during one ingest. -/
structure IngestEnvironment where
  now : Timestamp
  validateImage : List UInt8 → String → Except StoreError ValidatedImage
  assetId : Uuid
  objectStoreError : StoreError

/-- `object_store.put`. -/
def putObject (objectStoreError : StoreError) (objectKey : String)
    (bytes : List UInt8) : Operation Unit :=
  .emit .putObject (.object objectKey) (some bytes) (pure ())
    (refuse objectStoreError)

/-- `object_store.delete`. -/
def deleteObject (objectStoreError : StoreError) (objectKey : String) :
    Operation Unit :=
  .emit .deleteObject (.object objectKey) none (pure ())
    (refuse objectStoreError)

/-- `persist_stored_ingest`. -/
def persistStoredIngest (environment : IngestEnvironment)
    (accountId submissionId : Uuid) (objectKey : String)
    (validated : ValidatedImage) (extractJobId : Uuid) :
    Operation IngestOutcome := do
  let now := environment.now
  let current ← loadSubmissionForUpdate submissionId accountId
  if current.state = .stored ∨ current.state = .extracting ∨
      current.state = .reviewRequired ∨ current.state = .confirmed then
    commit .storeIngest
    pure (.alreadyStored submissionId)
  else if current.state.isTerminal then
    .rollback (pure (.alreadyTerminal current.state))
  else if current.state ≠ .queued ∧ current.state ≠ .failedTransient then
    .rollback (refuse (.conflict "submission not ready for ingest"))
  else
    transitionState now submissionId accountId current.state .stored none
      none none none
    let insertion ← insertAsset now environment.assetId submissionId accountId
      objectKey validated
    match insertion with
    | .inserted => do
        let _ ← enqueueReceiptJob now extractJobId jobTypeExtract
          submissionId accountId
        commit .storeIngest
        pure (.stored submissionId validated.contentSha256)
    | .uniqueConflict =>
        .rollback do
          let original ← findActiveDuplicate accountId
            validated.contentSha256
          match original.filter (· ≠ submissionId) with
          | some original => do
              absorbDuplicate now submissionId accountId original
              pure (.duplicateAbsorbed submissionId original)
          | none => pure (.alreadyStored submissionId)

/-- `compensate_orphan_object`. -/
def compensateOrphanObject (environment : IngestEnvironment)
    (accountId submissionId : Uuid) (objectKey : String) :
    Operation Unit := do
  let asset ← (loadAsset submissionId accountId).attempt
  match asset with
  | .ok (some _) => pure ()
  | _ => do
      let _ ← (deleteObject environment.objectStoreError objectKey).attempt
      pure ()

/-- `ingest`. -/
def ingest (environment : IngestEnvironment) (accountId submissionId : Uuid)
    (bytes : List UInt8) (mimeType : String) (extractJobId : Uuid) :
    Operation IngestOutcome := do
  let now := environment.now
  let active ← accountIsActive accountId
  if active then
    let row ← loadSubmission submissionId accountId
    let asset ← loadAsset submissionId accountId
    if row.state = .stored ∨ row.state = .extracting ∨
        row.state = .reviewRequired ∨ row.state = .confirmed ∨
        (row.state = .failedTransient ∧ asset.isSome) then
      pure (.alreadyStored submissionId)
    else if row.state.isTerminal then
      pure (.alreadyTerminal row.state)
    else if row.state ≠ .queued ∧ row.state ≠ .failedTransient then
      refuse (.conflict "submission not ready for ingest")
    else
      match environment.validateImage bytes mimeType with
      | .error error => do
          markFailure now submissionId accountId .failedPermanent
            error.errorClass
          refuse error
      | .ok validated => do
          let original ← findActiveDuplicate accountId
            validated.contentSha256
          match original.filter (· ≠ submissionId) with
          | some original => do
              absorbDuplicate now submissionId accountId original
              pure (.duplicateAbsorbed submissionId original)
          | none => do
              let objectKey := receiptObjectKey accountId submissionId
                validated.contentSha256
              putObject environment.objectStoreError objectKey bytes
              let persist ← (persistStoredIngest environment accountId
                submissionId objectKey validated extractJobId).attempt
              match persist with
              | .ok (.stored submissionId contentSha256) =>
                  pure (.stored submissionId contentSha256)
              | .ok (.alreadyStored submissionId) =>
                  pure (.alreadyStored submissionId)
              | .ok outcome => do
                  compensateOrphanObject environment accountId submissionId
                    objectKey
                  pure outcome
              | .error error => do
                  compensateOrphanObject environment accountId submissionId
                    objectKey
                  .fail error
  else
    pure (.alreadyTerminal .deleted)

/-- `claim_extracting`: `none` is `ExtractClaim::Proceed`. -/
def claimExtracting (now : Timestamp) (accountId submissionId : Uuid) :
    Operation (Option ExtractOutcome) := do
  let current ← loadSubmissionForUpdate submissionId accountId
  if current.state = .reviewRequired then
    commit .claimExtracting
    pure (some (.alreadyReviewRequired submissionId))
  else if current.state.isTerminal then
    commit .claimExtracting
    pure (some (.alreadyTerminal current.state))
  else if current.state = .stored ∨ current.state = .failedTransient then
    transitionState now submissionId accountId current.state .extracting none
      none none none
    commit .claimExtracting
    pure none
  else if current.state = .extracting then
    commit .claimExtracting
    pure none
  else
    refuse (.conflict "submission not ready for extraction")

/-- `persist_extraction_success`. -/
def persistExtractionSuccess (config : ReceiptConfig) (now : Timestamp)
    (draftId accountId submissionId : Uuid)
    (extraction : ExtractionResult) : Operation ExtractOutcome := do
  let current ← loadSubmissionForUpdate submissionId accountId
  if current.state = .reviewRequired then
    commit .extractionSuccess
    pure (.alreadyReviewRequired submissionId)
  else if current.state.isTerminal then
    .rollback (pure (.alreadyTerminal current.state))
  else if current.state ≠ .extracting then
    .rollback (refuse (.conflict "submission not ready for extraction"))
  else
    let attempts ← attemptCount submissionId
    recordExtractionAttempt submissionId ⟨attempts + 1, .success, none⟩
    upsertDraft draftId submissionId accountId extraction
    transitionState now submissionId accountId .extracting .reviewRequired
      none (some config.reviewExpiryHours) none none
    commit .extractionSuccess
    pure (.reviewRequired submissionId draftId)

/-- `persist_extraction_failure`. -/
def persistExtractionFailure (now : Timestamp)
    (accountId submissionId : Uuid) (errorClass : ErrorClass)
    (terminalState : ReceiptState) : Operation Unit := do
  let current ← loadSubmissionForUpdate submissionId accountId
  if current.state ≠ .extracting then
    .rollback (pure ())
  else
    let attempts ← attemptCount submissionId
    recordExtractionAttempt submissionId
      ⟨attempts + 1, .failed, some errorClass.asStr⟩
    transitionState now submissionId accountId .extracting terminalState
      (some errorClass.asStr) none none none
    commit .extractionFailure

/-- What the environment decides during one extraction. -/
structure ExtractEnvironment where
  claimedAt : Timestamp
  finishedAt : Timestamp
  draftId : Uuid
  period : String
  extractor : List UInt8 → Except StoreError ExtractionResult
  objectStoreError : StoreError

/-- `read_and_extract`. -/
def readAndExtract (environment : ExtractEnvironment)
    (accountId submissionId : Uuid) : Operation ExtractionResult := do
  let asset ← loadAsset submissionId accountId
  match asset with
  | none => refuse (.notFound "receipt asset not found")
  | some asset => do
      let bytes ← .query (.refused environment.objectStoreError) fun view =>
        view (BotKey.object asset.objectKey)
      match bytes with
      | none => refuse (.notFound "receipt object missing")
      | some bytes =>
          match environment.extractor bytes with
          | .error error => refuse error
          | .ok extraction => pure extraction

/-- The part of `extract` after the extraction has been claimed and paid
for. -/
def extractClaimed (config : ReceiptConfig)
    (environment : ExtractEnvironment) (accountId submissionId : Uuid) :
    Operation ExtractOutcome := do
  let now := environment.finishedAt
  let extracted ← (readAndExtract environment accountId submissionId).attempt
  match extracted with
  | .ok extraction =>
      if extraction.unsupported then do
        persistExtractionFailure now accountId submissionId .unsupported
          .failedPermanent
        pure .unsupported
      else
        persistExtractionSuccess config now environment.draftId accountId
          submissionId extraction
  | .error error => do
      persistExtractionFailure now accountId submissionId
        error.reported.errorClass (failureStateFor error.reported.errorClass)
      .fail error

/-- `extract`. -/
def extract (config : ReceiptConfig) (environment : ExtractEnvironment)
    (accountId submissionId : Uuid) : Operation ExtractOutcome := do
  let claimed ← claimExtracting environment.claimedAt accountId submissionId
  match claimed with
  | some outcome => pure outcome
  | none => do
      let active ← accountIsActive accountId
      if active then
        if config.extractionEnabled then
          let counter ← UsageQuota.incrementInTransaction
            (.dependency "quota increment failed") UsageQuota.scopeGlobal
            UsageQuota.globalScopeId environment.period
            UsageQuota.metricExtractionPages
            (UsageQuota.storedLimit config.monthlyExtractionPages)
          .commitTransaction (.dependency "quota commit failed")
            .extractionQuota
          if counter.exceeded then
            persistExtractionFailure environment.finishedAt accountId
              submissionId .quotaExceeded .failedPermanent
            refuse (.quotaExceeded "monthly extraction quota exceeded")
          else
            extractClaimed config environment accountId submissionId
        else
          persistExtractionFailure environment.finishedAt accountId
            submissionId .killSwitch .failedPermanent
          refuse (.killSwitch "extraction is disabled")
      else
        pure (.alreadyTerminal .deleted)

/-- Expire one review that the batch statement of `expire_reviews`
selects. -/
def expireReview (now : Timestamp) (submissionId accountId : Uuid) :
    Operation Bool := do
  let selected ← .selectForUpdate
    (.dependency "expire candidate lookup failed")
    (BotKey.submission submissionId)
    (fun row => row.accountId = accountId && row.state = .reviewRequired &&
      row.reviewExpiresAt.any (· ≤ now))
  match selected with
  | none => pure false
  | some _ => do
      let current ← loadSubmissionForUpdate submissionId accountId
      if current.state ≠ .reviewRequired then
        pure false
      else
        transitionState now submissionId accountId .reviewRequired .expired
          none none none none
        pure true

/-- The loop of `expire_reviews`. -/
def expireCandidates (now : Timestamp) :
    List (Uuid × Uuid) → Operation Nat
  | [] => pure 0
  | (submissionId, accountId) :: candidates => do
      let expired ← expireReview now submissionId accountId
      let others ← expireCandidates now candidates
      pure (if expired then others + 1 else others)

/-- `expire_reviews`; `candidates` are the rows that the batch statement
finds. -/
def expireReviews (now : Timestamp) (batchLimit : Int)
    (candidates : List (Uuid × Uuid)) : Operation Nat :=
  if batchLimit ≤ 0 then
    refuse (.validation "batch_limit must be positive")
  else do
    let expired ← expireCandidates now (candidates.take batchLimit.toNat)
    commit .expireReviews
    pure expired

/-- `delete_original`. -/
def deleteOriginal (now : Timestamp) (objectStoreError : StoreError)
    (accountId submissionId : Uuid) : Operation Unit := do
  let asset ← loadAsset submissionId accountId
  match asset with
  | none => refuse (.notFound "receipt asset not found")
  | some asset =>
      if asset.deletionState = .deleted then
        pure ()
      else do
        deleteObject objectStoreError asset.objectKey
        let submission ← loadSubmissionForUpdate submissionId accountId
        if submission.state = .deleted then
          finish
        else if canTransition submission.state .deleted then
          transitionState now submissionId accountId submission.state
            .deleted none none none none
          finish
        else
          refuse
            (.conflict "submission cannot delete original in current state")
where
  finish : Operation Unit := do
    markAssetDeleted now (.dependency "asset delete update failed")
      submissionId
    commit .deleteOriginal

/-- Lock the assets that the batch statement of `retention_sweep` finds, with
their object keys. -/
def sweepCandidates (now : Timestamp) :
    List Uuid → Operation (List (Uuid × String))
  | [] => pure []
  | submissionId :: candidates => do
      let finished ← .query (.dependency "retention candidate lookup failed")
        fun view => (view (BotKey.submission submissionId)).any fun row =>
          row.state = .confirmed || row.state = .rejected ||
            row.state = .expired || row.state = .failedPermanent
      let asset ← .selectForUpdate
        (.dependency "retention candidate lookup failed")
        (BotKey.asset submissionId)
        (fun asset => finished && asset.deletionState = .active &&
          asset.retentionDeadline ≤ now)
      let others ← sweepCandidates now candidates
      match asset with
      | none => pure others
      | some asset => pure ((submissionId, asset.objectKey) :: others)

/-- Delete the objects of a batch. -/
def deleteObjects (objectStoreError : StoreError) :
    List String → Operation Unit
  | [] => pure ()
  | objectKey :: objectKeys => do
      deleteObject objectStoreError objectKey
      deleteObjects objectStoreError objectKeys

/-- Mark the assets of a batch. -/
def markAssetsDeleted (now : Timestamp) : List Uuid → Operation Unit
  | [] => pure ()
  | submissionId :: submissionIds => do
      markAssetDeleted now (.dependency "retention claim update failed")
        submissionId
      markAssetsDeleted now submissionIds

/-- `retention_sweep`; `candidates` are the rows that the batch statement
finds. -/
def retentionSweep (now : Timestamp) (objectStoreError : StoreError)
    (batchLimit : Int) (candidates : List Uuid) : Operation Nat :=
  if batchLimit ≤ 0 then
    refuse (.validation "batch_limit must be positive")
  else do
    let rows ← sweepCandidates now (candidates.take batchLimit.toNat)
    deleteObjects objectStoreError (rows.map Prod.snd)
    markAssetsDeleted now (rows.map Prod.fst)
    commit .retentionSweep
    pure rows.length

end Receipts

end ZaloBot
