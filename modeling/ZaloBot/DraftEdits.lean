import ZaloBot.EditDecisions
import ZaloBot.RecentLedger

/-!
# What an edit writes

The two effects that edit a pending draft, each as the row that it writes: the
manual expense, and the draft of a receipt with the corrections of the fields
that change.
-/

namespace ZaloBot

namespace Ingress

open Conversation Sessions Receipts

section Parts

variable {Event Error NewError Value : Type}

theorem applied_mapError_eq_ok {report : Error → NewError}
    {session : Session BotRow Event Error Value} {view after : BotStore}
    {value : Value} :
    (session.mapError report).applied view = .ok (value, after) ↔
      session.applied view = .ok (value, after) := by
  induction session generalizing view with
  | done result => simp [Session.mapError, Session.applied]
  | fail error => exact ⟨by rintro ⟨⟩, by rintro ⟨⟩⟩
  | read next failed ih _ => exact ih _
  | lock mode key wanted next failed ih _ => exact ih _
  | write key row next ih => exact ih
  | commit event next failed ih _ => exact ih
  | rollback next ih => exact ih
  | emit event key row next failed ih _ => exact ih

theorem applied_upsertRow {error : Error} {key : BotKey} {fresh : BotRow key}
    {change : BotRow key → BotRow key} {view : BotStore} :
    (.upsertRow error key fresh change :
      Session BotRow Event Error Unit).applied view =
        .ok ((), Function.update view key
          (some (((view key).map change).getD fresh))) :=
  rfl

theorem applied_silently_eq_ok {statement : Statement Event Unit}
    {reply : Option String} {view after : BotStore} :
    (silently statement).applied view = .ok (reply, after) ↔
      statement.applied view = .ok ((), after) ∧ reply = none := by
  rw [silently, applied_bind_eq_ok]
  constructor
  · rintro ⟨_, _, ends, rests⟩
    cases rests
    exact ⟨ends, rfl⟩
  · rintro ⟨ends, rfl⟩
    exact ⟨(), after, ends, rfl⟩

theorem applied_onReceipt_eq_ok {environment : EffectEnvironment}
    {statement : Session BotRow Event ReceiptFailure Value}
    {view after : BotStore} :
    (onReceipt environment statement).applied view = .ok ((), after) ↔
      environment.receipts = true ∧
        ∃ value, statement.applied view = .ok (value, after) := by
  unfold onReceipt
  split
  · rename_i receipts
    simp [applied_bind_eq_ok, applied_mapError_eq_ok, receipts]
  · rename_i noReceipts
    simp [noReceipts, Session.applied]

end Parts

section Manual

variable {Event : Type} {accountId expenseId : Uuid} {expectedVersion : Int}
  {edit : DraftEdit} {view after : BotStore}

/-- A manual expense after an edit. -/
def editedExpense (edit : DraftEdit) (row : ExpenseRow) : ExpenseRow :=
  { row with
    amountMinor := edit.amountMinor.getD row.amountMinor
    description := RustText.trim (edit.merchant.getD row.description)
    categoryKey := edit.categoryKey.getD row.categoryKey
    occurredAt := edit.occurredAt.getD row.occurredAt
    transactionType := edit.transactionType.getD row.transactionType
    version := row.version + 1 }

/-- An edit of a manual expense writes the edited row. -/
theorem applied_editManual
    (ends : (editManualExpenseInTransaction accountId expenseId
      expectedVersion edit : Statement Event Unit).applied view =
        .ok ((), after)) :
    ∃ row, view (.expense expenseId) = some row ∧
      isAwaiting accountId expectedVersion row = true ∧
      (editedExpense edit row).description ≠ "" ∧
      (editedExpense edit row).categoryKey ∈ categoryKeys ∧
      after = Function.update view (.expense expenseId)
        (some (editedExpense edit row)) := by
  unfold editManualExpenseInTransaction at ends
  obtain ⟨found, _, selects, ends⟩ := applied_bind_eq_ok.mp ends
  rw [applied_selectForUpdate] at selects
  cases selects
  cases selected : (view (.expense expenseId)).filter
      (isAwaiting accountId expectedVersion) with
  | none =>
      rw [selected] at ends
      cases ends
  | some row =>
      rw [selected] at ends
      obtain ⟨stored, awaiting⟩ := Option.filter_eq_some_iff.mp selected
      simp only at ends
      split at ends
      · cases ends
      rename_i described
      obtain ⟨known, ask, ends⟩ := keeps_query.applied_bind ends
      cases ask
      split at ends
      swap
      · cases ends
      rename_i isKnown
      split at ends
      swap
      · cases ends
      obtain ⟨updated, _, updates, ends⟩ := applied_bind_eq_ok.mp ends
      rw [applied_updateRow, selected] at updates
      cases updates
      cases ends
      exact ⟨row, stored, awaiting, by simpa [editedExpense] using described,
        by simpa [editedExpense] using isKnown, rfl⟩

end Manual

section Drafts

variable {Event : Type} {view after : BotStore} {submissionId : Uuid}

/-- The store with further corrections of a submission. -/
def recording (view : BotStore) (submissionId : Uuid)
    (corrections : List CorrectionRow) : BotStore :=
  if corrections.isEmpty then view else
    Function.update view (.corrections submissionId)
      (some ((view (.corrections submissionId)).getD [] ++ corrections))

theorem recording_recording (first second : List CorrectionRow) :
    recording (recording view submissionId first) submissionId second =
      recording view submissionId (first ++ second) := by
  unfold recording
  cases first with
  | nil => rfl
  | cons correction others =>
      cases second with
      | nil => simp
      | cons next rest => simp

theorem recording_of_ne {corrections : List CorrectionRow} {key : BotKey}
    (different : key ≠ .corrections submissionId) :
    recording view submissionId corrections key = view key := by
  unfold recording
  split
  · rfl
  · exact Function.update_of_ne different _ _

/-- The correction of a field, if an edit changes it. -/
def fieldCorrection {Field : Type} [DecidableEq Field] (draft : DraftRow)
    (fieldName : String) (render : Field → String) (current : Field)
    (edited : Option Field) : List CorrectionRow :=
  if edited.getD current = current then [] else
    [⟨draft.id, fieldName, some (render current),
      some (render (edited.getD current))⟩]

/-- A field that an edit changes is recorded with its old and new value. -/
theorem applied_correctField {Field : Type} [DecidableEq Field]
    {draft : DraftRow} {fieldName : String} {render : Field → String}
    {current value : Field} {edited : Option Field}
    (ends : (correctField draft submissionId fieldName render current edited :
      Receipts.Statement Event Field).applied view = .ok (value, after)) :
    value = edited.getD current ∧
      after = recording view submissionId
        (fieldCorrection draft fieldName render current edited) := by
  unfold correctField at ends
  unfold fieldCorrection
  cases edited with
  | none =>
      cases ends
      exact ⟨rfl, by simp [recording]⟩
  | some edit =>
      simp only at ends
      split at ends
      · rename_i same
        cases ends
        exact ⟨by simp [same], by simp [same, recording]⟩
      · rename_i different
        obtain ⟨_, middle, records, ends⟩ := applied_bind_eq_ok.mp ends
        rw [recordCorrection, applied_upsertRow] at records
        cases records
        cases ends
        refine ⟨rfl, ?_⟩
        rw [if_neg (by simpa using different), recording,
          if_neg (by simp)]
        cases view (.corrections submissionId) <;> rfl

theorem applied_checkField {Field Result : Type} {field : Option Field}
    {check : Field → Except StoreError Result} {result : Option Result}
    (ends : (checkField field check :
      Receipts.Statement Event (Option Result)).applied view =
        .ok (result, after)) :
    after = view ∧ (∀ value ∈ field, ∃ checked, check value = .ok checked) ∧
      result = field.bind fun value => (check value).toOption := by
  unfold checkField at ends
  cases field with
  | none =>
      cases ends
      simp
  | some value =>
      simp only at ends
      split at ends
      · cases ends
      · rename_i checked isChecked
        cases ends
        simp [isChecked, Except.toOption]

theorem keeps_checkField {Field Result : Type} {field : Option Field}
    {check : Field → Except StoreError Result} :
    Keeps (checkField field check :
      Receipts.Statement Event (Option Result)) :=
  fun _ _ _ ends => (applied_checkField ends).1

theorem applied_checkCategory {categoryKey : Option String}
    (ends : (checkCategory categoryKey :
      Receipts.Statement Event Unit).applied view = .ok ((), after)) :
    after = view ∧ ∀ key ∈ categoryKey, key ∈ categoryKeys := by
  unfold checkCategory at ends
  cases categoryKey with
  | none =>
      cases ends
      simp
  | some key =>
      unfold ensureCategory at ends
      obtain ⟨known, ask, ends⟩ := keeps_query.applied_bind ends
      cases ask
      split at ends
      · rename_i isKnown
        cases ends
        simpa using isKnown
      · cases ends

theorem keeps_checkCategory {categoryKey : Option String} :
    Keeps (checkCategory categoryKey : Receipts.Statement Event Unit) :=
  fun _ _ _ ends => (applied_checkCategory ends).1

theorem validateMerchant_trims {merchant checked : String}
    (valid : validateMerchant merchant = .ok checked) :
    checked = RustText.trim merchant ∧ RustText.trim merchant ≠ "" := by
  unfold validateMerchant at valid
  simp only at valid
  split at valid
  · cases valid
  · rename_i bounds
    cases valid
    refine ⟨rfl, fun empty => bounds (.inl ?_)⟩
    simp [RustText.charCount, empty]

/-- The fields of a draft after an edit. -/
def editedDraftRow (request : EditDraftRequest) (draft : DraftRow) :
    DraftRow :=
  { draft with
    amountMinor := request.amountMinor.getD draft.amountMinor
    currency := request.currency.getD draft.currency
    merchant := (request.merchant.map RustText.trim).getD draft.merchant
    categoryKey := request.categoryKey.getD draft.categoryKey
    occurredAt := request.occurredAt.getD draft.occurredAt
    transactionType := request.transactionType.getD draft.transactionType
    version := draft.version + 1 }

/-- The corrections that an edit records, in their order. -/
def editCorrections (toRfc3339 : Timestamp → String)
    (request : EditDraftRequest) (draft : DraftRow) : List CorrectionRow :=
  fieldCorrection draft "amount_minor" toString draft.amountMinor
      request.amountMinor ++
    fieldCorrection draft "currency" id draft.currency request.currency ++
    fieldCorrection draft "merchant" id draft.merchant
      (request.merchant.map RustText.trim) ++
    fieldCorrection draft "category_key" id draft.categoryKey
      request.categoryKey ++
    fieldCorrection draft "occurred_at" toRfc3339 draft.occurredAt
      request.occurredAt ++
    fieldCorrection draft "transaction_type" id draft.transactionType
      request.transactionType

/-- What an edit of a draft has passed. -/
structure EditIsValid (request : EditDraftRequest) : Prop where
  amount : ∀ amountMinor ∈ request.amountMinor, 0 < amountMinor
  merchant : ∀ merchant ∈ request.merchant, RustText.trim merchant ≠ ""
  category : ∀ categoryKey ∈ request.categoryKey, categoryKey ∈ categoryKeys

theorem applied_editedDraft {toRfc3339 : Timestamp → String}
    {request : EditDraftRequest} {draft next : DraftRow}
    (ends : (editedDraft toRfc3339 request draft :
      Receipts.Statement Event DraftRow).applied view = .ok (next, after)) :
    EditIsValid request ∧
      next = { editedDraftRow request draft with
        version := request.expectedVersion } ∧
      after = recording view request.submissionId
        (editCorrections toRfc3339 request draft) := by
  unfold editedDraft at ends
  simp only at ends
  obtain ⟨_, checks, ends⟩ := keeps_checkField.applied_bind ends
  obtain ⟨-, amounts, -⟩ := applied_checkField checks
  obtain ⟨_, -, ends⟩ := keeps_checkField.applied_bind ends
  obtain ⟨editedMerchant, checks, ends⟩ := keeps_checkField.applied_bind ends
  obtain ⟨-, merchants, isMerchant⟩ := applied_checkField checks
  have trimmed : editedMerchant = request.merchant.map RustText.trim := by
    rw [isMerchant]
    cases given : request.merchant with
    | none => rfl
    | some merchant =>
        obtain ⟨checked, valid⟩ := merchants merchant given
        simp [valid, Except.toOption, (validateMerchant_trims valid).1]
  subst trimmed
  obtain ⟨_, checks, ends⟩ := keeps_checkCategory.applied_bind ends
  obtain ⟨-, categories⟩ := applied_checkCategory checks
  obtain ⟨_, _, corrects, ends⟩ := applied_bind_eq_ok.mp ends
  obtain ⟨rfl, rfl⟩ := applied_correctField corrects
  obtain ⟨_, _, corrects, ends⟩ := applied_bind_eq_ok.mp ends
  obtain ⟨rfl, rfl⟩ := applied_correctField corrects
  obtain ⟨_, _, corrects, ends⟩ := applied_bind_eq_ok.mp ends
  obtain ⟨rfl, rfl⟩ := applied_correctField corrects
  obtain ⟨_, _, corrects, ends⟩ := applied_bind_eq_ok.mp ends
  obtain ⟨rfl, rfl⟩ := applied_correctField corrects
  obtain ⟨_, _, corrects, ends⟩ := applied_bind_eq_ok.mp ends
  obtain ⟨rfl, rfl⟩ := applied_correctField corrects
  obtain ⟨_, -, ends⟩ := keeps_checkField.applied_bind ends
  obtain ⟨_, _, corrects, ends⟩ := applied_bind_eq_ok.mp ends
  obtain ⟨rfl, rfl⟩ := applied_correctField corrects
  cases ends
  refine ⟨⟨?_, ?_, categories⟩, rfl, ?_⟩
  · intro amountMinor given
    obtain ⟨_, valid⟩ := amounts amountMinor given
    unfold validateAmountMinor at valid
    split at valid
    · cases valid
    · omega
  · intro merchant given
    obtain ⟨_, valid⟩ := merchants merchant given
    exact (validateMerchant_trims valid).2
  · simp only [recording_recording]
    rfl

theorem applied_loadSubmission {accountId : Uuid} {row : SubmissionRow}
    (ends : (loadSubmissionForUpdate submissionId accountId :
      Receipts.Statement Event SubmissionRow).applied view =
        .ok (row, after)) :
    after = view ∧ view (.submission submissionId) = some row ∧
      row.accountId = accountId := by
  unfold loadSubmissionForUpdate at ends
  obtain ⟨found, _, selects, ends⟩ := applied_bind_eq_ok.mp ends
  rw [applied_selectForUpdate] at selects
  cases selects
  split at ends
  · cases ends
  · rename_i selected
    cases ends
    obtain ⟨stored, owned⟩ := Option.filter_eq_some_iff.mp selected
    exact ⟨rfl, stored, by simpa using owned⟩

theorem applied_loadDraft {accountId : Uuid} {row : DraftRow}
    (ends : (loadDraftForUpdate submissionId accountId :
      Receipts.Statement Event DraftRow).applied view = .ok (row, after)) :
    after = view ∧ view (.draft submissionId) = some row ∧
      row.accountId = accountId := by
  unfold loadDraftForUpdate at ends
  obtain ⟨found, _, selects, ends⟩ := applied_bind_eq_ok.mp ends
  rw [applied_selectForUpdate] at selects
  cases selects
  split at ends
  · cases ends
  · rename_i selected
    cases ends
    obtain ⟨stored, owned⟩ := Option.filter_eq_some_iff.mp selected
    exact ⟨rfl, stored, by simpa using owned⟩

theorem keeps_loadSubmission {accountId : Uuid} :
    Keeps (loadSubmissionForUpdate submissionId accountId :
      Receipts.Statement Event SubmissionRow) :=
  fun _ _ _ ends => (applied_loadSubmission ends).1

theorem keeps_loadDraft {accountId : Uuid} :
    Keeps (loadDraftForUpdate submissionId accountId :
      Receipts.Statement Event DraftRow) :=
  fun _ _ _ ends => (applied_loadDraft ends).1

/-- The fields of a draft that an update writes. -/
theorem applied_updateDraft {draft next : DraftRow}
    (stored : view (.draft submissionId) = some draft)
    (ends : (updateDraft submissionId next :
      Receipts.Statement Event Unit).applied view = .ok ((), after)) :
    draft.id = next.id ∧ draft.version = next.version ∧
      after = Function.update view (.draft submissionId)
        (some { next with
          id := draft.id
          accountId := draft.accountId
          version := draft.version + 1 }) := by
  have keeps : Keeps (checkCategory (some next.categoryKey) :
      Receipts.Statement Event Unit) :=
    keeps_checkCategory
  unfold updateDraft at ends
  obtain ⟨_, ensures, ends⟩ :=
    keeps.applied_bind ends
  obtain ⟨_, _, writes, ends⟩ := applied_bind_eq_ok.mp ends
  rw [applied_updateRow, stored, Option.filter_some] at writes
  split at writes
  · cases writes
    cases ends
  · rename_i selected
    split at selected
    · rename_i same
      cases selected
      cases writes
      cases ends
      rw [Bool.and_eq_true, decide_eq_true_eq, decide_eq_true_eq] at same
      exact ⟨same.1, same.2, rfl⟩
    · nomatch selected

/-- An edit of a draft writes the edited row and the corrections. -/
theorem applied_editDraft {toRfc3339 : Timestamp → String}
    {request : EditDraftRequest} {next : DraftRow}
    (ends : (editDraftInTransaction toRfc3339 request :
      Receipts.Statement Event DraftRow).applied view = .ok (next, after)) :
    ∃ submission draft,
      view (.submission request.submissionId) = some submission ∧
      submission.accountId = request.accountId ∧
      submission.state = .reviewRequired ∧
      view (.draft request.submissionId) = some draft ∧
      draft.accountId = request.accountId ∧
      draft.version = request.expectedVersion ∧ EditIsValid request ∧
      after = Function.update
        (recording view request.submissionId
          (editCorrections toRfc3339 request draft))
        (.draft request.submissionId)
        (some (editedDraftRow request draft)) := by
  unfold editDraftInTransaction at ends
  obtain ⟨submission, loads, ends⟩ := keeps_loadSubmission.applied_bind ends
  obtain ⟨-, stored, owned⟩ := applied_loadSubmission loads
  split at ends
  · cases ends
  rename_i inReview
  obtain ⟨draft, loadsDraft, ends⟩ := keeps_loadDraft.applied_bind ends
  obtain ⟨-, storedDraft, ownedDraft⟩ := applied_loadDraft loadsDraft
  split at ends
  · cases ends
  rename_i sameVersion
  rw [not_not] at sameVersion
  obtain ⟨edited, _, edits, ends⟩ := applied_bind_eq_ok.mp ends
  obtain ⟨valid, rfl, rfl⟩ := applied_editedDraft edits
  obtain ⟨_, _, updates, ends⟩ := applied_bind_eq_ok.mp ends
  cases ends
  obtain ⟨-, -, isAfter⟩ := applied_updateDraft
    (by rw [recording_of_ne (by simp), storedDraft]) updates
  refine ⟨submission, draft, stored, owned, not_not.mp inReview, storedDraft,
    ownedDraft, sameVersion, valid, ?_⟩
  rw [isAfter]
  rfl

end Drafts

section Commands

variable {Event : Type} {event : Event} {environment : EffectEnvironment}
  {contextEnvironment : ContextEnvironment} {policy : IngressPolicy}
  {accountId inboundEventId : Uuid} {request : IngressRequest}
  {stateVersion : Option Int} {effect : IngressEffect}
  {view after : BotStore} {reply : Option String} {edit : DraftEdit}
  {pending : PendingConfirmation}

theorem tryI32_eq_ok {version : Nat} {expected : Int}
    (fits : tryI32 version = .ok expected) :
    expected = version ∧ version ≤ 2147483647 := by
  unfold tryI32 at fits
  split at fits
  · cases fits
    exact ⟨rfl, by assumption⟩
  · cases fits

/-- What the command that edits a manual expense does. -/
theorem manual_edit_applied (kind : pending.kind ≠ .receiptReview)
    (mapped : mapCommand stateVersion inboundEventId
      (editCommand pending edit) = .ok effect)
    (applies : (applyEffect event environment contextEnvironment policy
      accountId inboundEventId request effect).applied view =
        .ok (reply, after)) :
    pending.optimisticVersion ≤ 2147483647 ∧ ∃ row,
      view (.expense pending.referenceId) = some row ∧
      isAwaiting accountId pending.optimisticVersion row = true ∧
      after = Function.update view (.expense pending.referenceId)
        (some (editedExpense edit row)) := by
  rw [editCommand, if_neg kind, mapCommand] at mapped
  cases fits : tryI32 pending.optimisticVersion with
  | error error =>
      rw [fits] at mapped
      cases mapped
  | ok expected =>
      obtain ⟨rfl, bounded⟩ := tryI32_eq_ok fits
      rw [fits] at mapped
      cases mapped
      rw [applyEffect, applied_silently_eq_ok] at applies
      obtain ⟨row, stored, awaiting, _, _, isAfter⟩ :=
        applied_editManual applies.1
      exact ⟨bounded, row, stored, awaiting, isAfter⟩

/-- The request that carries an edit of a draft. -/
def draftRequest (accountId : Uuid) (pending : PendingConfirmation)
    (edit : DraftEdit) : EditDraftRequest :=
  { accountId := accountId
    submissionId := pending.referenceId
    expectedVersion := pending.optimisticVersion
    amountMinor := edit.amountMinor
    currency := none
    merchant := edit.merchant
    categoryKey := edit.categoryKey
    occurredAt := edit.occurredAt
    transactionType := edit.transactionType }

/-- What the command that edits the draft of a receipt does. -/
theorem receipt_edit_applied (kind : pending.kind = .receiptReview)
    (mapped : mapCommand stateVersion inboundEventId
      (editCommand pending edit) = .ok effect)
    (applies : (applyEffect event environment contextEnvironment policy
      accountId inboundEventId request effect).applied view =
        .ok (reply, after)) :
    pending.optimisticVersion ≤ 2147483647 ∧ ∃ submission draft,
      view (.submission pending.referenceId) = some submission ∧
      submission.accountId = accountId ∧
      submission.state = .reviewRequired ∧
      view (.draft pending.referenceId) = some draft ∧
      draft.accountId = accountId ∧
      draft.version = pending.optimisticVersion ∧
      after = Function.update
        (recording view pending.referenceId
          (editCorrections environment.toRfc3339
            (draftRequest accountId pending edit) draft))
        (.draft pending.referenceId)
        (some (editedDraftRow (draftRequest accountId pending edit) draft)) := by
  rw [editCommand, if_pos kind, mapCommand] at mapped
  cases fits : tryI32 pending.optimisticVersion with
  | error error =>
      rw [fits] at mapped
      cases mapped
  | ok expected =>
      obtain ⟨rfl, bounded⟩ := tryI32_eq_ok fits
      rw [fits] at mapped
      cases mapped
      rw [applyEffect, applied_silently_eq_ok, applied_onReceipt_eq_ok]
        at applies
      obtain ⟨⟨_, next, edits⟩, _⟩ := applies
      obtain ⟨submission, draft, stored, owned, inReview, storedDraft,
        ownedDraft, sameVersion, _, isAfter⟩ := applied_editDraft edits
      exact ⟨bounded, submission, draft, stored, owned, inReview, storedDraft,
        ownedDraft, sameVersion, isAfter⟩

end Commands

end Ingress

end ZaloBot
