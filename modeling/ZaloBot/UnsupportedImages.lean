import ZaloBot.ConversationDecisions
import ZaloBot.ExtractionRuns
import ZaloBot.FailureMessages
import ZaloBot.StorableDrafts

/-!
# Images that are not receipts

An output that says `unsupported` is read like any other: the merchant, the
category, the type and the instant are checked before the flag is looked at,
and only the checks of the amount and the currency are left out.  An image that
is not a receipt is reported as such exactly when the other fields pass.
-/

namespace ZaloBot

open Sessions

namespace Conversation

/-- `extraction_kill_switch_text`. -/
def extractionKillSwitchText : Locale → String
  | .vi => "Trích xuất hóa đơn đang tạm tắt."
  | .en => "Receipt extraction is temporarily disabled."

/-- `extraction_failed_text`. -/
def extractionFailedText : Locale → String
  | .vi => "Tôi chưa đọc được hóa đơn này. Bạn gửi lại ảnh rõ hơn, hoặc " ++
      "nhập tay kiểu \"cafe 45k\" nhé."
  | .en => "I couldn't read that receipt. Send a clearer photo, or type " ++
      "something like \"coffee 45k\"."

/-- `extraction_unsupported_text`. -/
def extractionUnsupportedText : Locale → String
  | .vi => "Ảnh này không giống hóa đơn. Gửi lại ảnh hóa đơn, hoặc nhập tay " ++
      "kiểu \"cafe 45k\"."
  | .en => "That doesn't look like a receipt. Send a receipt photo, or type " ++
      "\"coffee 45k\"."

end Conversation

namespace Followups

open Conversation

/-- The body of `enqueue_receipt_failure_followup`. -/
def failureBody (account : AccountRow) (errorClass : ErrorClass) : String :=
  let locale := Conversation.Locale.parse account.locale
  match errorClass with
  | .unsupported => extractionUnsupportedText locale
  | .killSwitch => extractionKillSwitchText locale
  | _ => extractionFailedText locale

theorem isBody_ofList {chars : List Char}
    (bounds : 1 ≤ chars.length ∧ chars.length ≤ 2000) :
    isBody (String.ofList chars) = true := by
  rw [isBody, RustText.charCount, String.toList_ofList]
  exact decide_eq_true bounds

theorem isBody_append {front back : List Char}
    (bounds : 1 ≤ (front ++ back).length ∧ (front ++ back).length ≤ 2000) :
    isBody (String.ofList front ++ String.ofList back) = true := by
  rw [← String.ofList_append]
  exact isBody_ofList bounds

/-- Every failure has a text that the table takes. -/
theorem isBody_failureBody (account : AccountRow) (errorClass : ErrorClass) :
    isBody (failureBody account errorClass) = true := by
  have valid (locale : Conversation.Locale) :
      isBody (extractionUnsupportedText locale) = true ∧
        isBody (extractionKillSwitchText locale) = true ∧
          isBody (extractionFailedText locale) = true := by
    cases locale with
    | vi =>
        exact ⟨isBody_append (by decide), isBody_ofList (by decide),
          isBody_append (by decide)⟩
    | en =>
        exact ⟨isBody_append (by decide), isBody_ofList (by decide),
          isBody_append (by decide)⟩
  obtain ⟨unsupported, killSwitch, failed⟩ :=
    valid (Conversation.Locale.parse account.locale)
  unfold failureBody
  split
  · exact unsupported
  · exact killSwitch
  · exact failed

end Followups

namespace Gemini

/-- A JSON number of the type `integer`. -/
def JsonNumber.IsInteger : JsonNumber → Prop
  | .posInt _ | .negInt _ => True
  | .float value => value.den = 1

/-- What an output of the requested shape says. -/
structure RequestedOutput where
  merchant : String
  amountMinor : JsonNumber
  amountIsInteger : amountMinor.IsInteger
  currency : String
  categoryKey : String
  transactionType : String
  occurredAt : String
  confidence : JsonNumber
  unsupported : Bool

/-- A JSON object of the requested shape. -/
structure IsRequested (output : JsonValue) (fields : RequestedOutput) :
    Prop where
  merchant : output.get "merchant" = some (.string fields.merchant)
  amountMinor : output.get "amount_minor" = some (.number fields.amountMinor)
  currency : output.get "currency" = some (.string fields.currency)
  categoryKey : output.get "category_key" = some (.string fields.categoryKey)
  transactionType :
    output.get "transaction_type" = some (.string fields.transactionType)
  occurredAt : output.get "occurred_at" = some (.string fields.occurredAt)
  confidence : output.get "confidence" = some (.number fields.confidence)
  unsupported : output.get "unsupported" = some (.bool fields.unsupported)

/-- A response whose prompt was not blocked and whose candidate did not stop
early. -/
structure FinishesNormally (response : JsonValue) : Prop where
  notBlocked : response.pointer ["promptFeedback", "blockReason"] = none
  finished : ∀ reason, response.pointer ["candidates", "0", "finishReason"] =
    some (.string reason) → reason = "STOP" ∨ reason = "stop"

/-- A response that finishes normally, with an output of the requested
shape. -/
structure Answers (library : ResponseLibrary) (body : String)
    (fields : RequestedOutput) : Prop where
  reads : ∃ response text output,
    library.fromStr body = some response ∧ FinishesNormally response ∧
      extractCandidateText response = some text ∧
        library.fromStr text = some output ∧ IsRequested output fields

/-- What is checked of the fields whatever the flag says. -/
structure FieldsAccepted (library : ResponseLibrary)
    (fields : RequestedOutput) : Prop where
  merchantNotBlank : 1 ≤ RustText.charCount (RustText.trim fields.merchant)
  merchantShort : RustText.charCount (RustText.trim fields.merchant) ≤ 200
  amountFits : (JsonValue.number fields.amountMinor).asI64.isSome
  categoryKnown : fields.categoryKey ∈ categoryKeys
  typeKnown : fields.transactionType ∈ ["expense", "income", "transfer"]
  instantReadable : (library.parseRfc3339 fields.occurredAt).isSome

section Reading

variable {library : ResponseLibrary} {fields : RequestedOutput}
variable {Value Other : Type}

/-- Failures that are validation errors. -/
def OnlyInvalid (result : Except StoreError Value) : Prop :=
  ∀ error, result = .error error → error.errorClass = .validation

theorem onlyInvalid_ok {value : Value} : OnlyInvalid (.ok value) :=
  nofun

theorem onlyInvalid_orInvalid {found : Option Value} {message : String} :
    OnlyInvalid (orInvalid found message) := by
  cases found with
  | none =>
      rintro error ⟨⟩
      rfl
  | some value => exact onlyInvalid_ok

theorem onlyInvalid_refuseWhen {wrong : Bool} {message : String} :
    OnlyInvalid (refuseWhen wrong message) := by
  cases wrong with
  | true =>
      rintro error ⟨⟩
      rfl
  | false => exact onlyInvalid_ok

theorem onlyInvalid_validateMerchant {merchant : String} :
    OnlyInvalid (validateMerchant merchant) := by
  simp only [validateMerchant]
  split
  · rintro error ⟨⟩
    rfl
  · exact onlyInvalid_ok

theorem OnlyInvalid.bind {first : Except StoreError Value}
    {rest : Value → Except StoreError Other} (begins : OnlyInvalid first)
    (ends : ∀ value, OnlyInvalid (rest value)) :
    OnlyInvalid (first >>= rest) := by
  cases first with
  | error error =>
      rintro _ ⟨⟩
      exact begins error rfl
  | ok value => exact ends value

/-- The merchant is accepted when it has a valid length. -/
theorem validateMerchant_eq_ok_iff {merchant trimmed : String} :
    validateMerchant merchant = .ok trimmed ↔
      trimmed = RustText.trim merchant ∧
        1 ≤ RustText.charCount (RustText.trim merchant) ∧
          RustText.charCount (RustText.trim merchant) ≤ 200 := by
  simp only [validateMerchant]
  split
  · simp only [reduceCtorEq, false_iff]
    omega
  · rename_i bounds
    simp only [Except.ok.injEq]
    constructor
    · rintro rfl
      exact ⟨rfl, by omega⟩
    · rintro ⟨rfl, -⟩
      rfl

/-- The checks that an output of the requested shape goes through when it says
that the image is not a receipt. -/
def checkedUnsupported (library : ResponseLibrary)
    (fields : RequestedOutput) : Except StoreError ScoredExtraction := do
  let merchant ← validateMerchant fields.merchant
  let amountMinor ← orInvalid (JsonValue.number fields.amountMinor).asI64
    "gemini output missing amount_minor"
  refuseWhen (!categoryKeys.contains fields.categoryKey)
    "gemini output category_key is not allowed"
  refuseWhen (!(["expense", "income", "transfer"].contains
    fields.transactionType)) "gemini output transaction_type is not allowed"
  let occurredAt ← orInvalid (library.parseRfc3339 fields.occurredAt)
    "gemini output occurred_at is invalid"
  let confidence ← orInvalid
    ((JsonValue.number fields.confidence).asF64 library)
    "gemini output missing confidence"
  pure
    { merchant := merchant
      amountMinor := amountMinor
      currency := fields.currency
      categoryKey := fields.categoryKey
      transactionType := fields.transactionType
      occurredAt := occurredAt
      confidence := (library.roundSingle confidence).clamp
      unsupported := true }

theorem orInvalid_some {value : Value} {message : String} :
    orInvalid (some value) message = .ok value :=
  rfl

theorem refuseWhen_false {message : String} :
    refuseWhen false message = .ok () :=
  rfl

theorem ok_bind {value : Value} {rest : Value → Except StoreError Other} :
    (Except.ok value >>= rest) = rest value :=
  rfl

theorem parseExtractionJson_unsupported {text : String} {output : JsonValue}
    (isJson : library.fromStr text = some output)
    (requested : IsRequested output fields)
    (unsupported : fields.unsupported = true) :
    parseExtractionJson library text = checkedUnsupported library fields := by
  unfold parseExtractionJson checkedUnsupported
  simp only [isJson, orInvalid_some, ok_bind, requested.merchant,
    requested.amountMinor, requested.currency, requested.categoryKey,
    requested.transactionType, requested.occurredAt, requested.confidence,
    requested.unsupported, unsupported, Option.bind_some, JsonValue.asStr,
    JsonValue.asBool, Bool.not_true, Bool.false_eq_true, if_false]
  rfl

theorem onlyInvalid_checkedUnsupported :
    OnlyInvalid (checkedUnsupported library fields) :=
  onlyInvalid_validateMerchant.bind fun _ =>
    onlyInvalid_orInvalid.bind fun _ =>
      onlyInvalid_refuseWhen.bind fun _ =>
        onlyInvalid_refuseWhen.bind fun _ =>
          onlyInvalid_orInvalid.bind fun _ =>
            onlyInvalid_orInvalid.bind fun _ => onlyInvalid_ok

/-- Every JSON number has an `f64`. -/
theorem asF64_number {number : JsonNumber} :
    ∃ value, (JsonValue.number number).asF64 library = some value := by
  cases number <;> exact ⟨_, rfl⟩

theorem accepted_of_checkedUnsupported {extraction : ScoredExtraction}
    (checked : checkedUnsupported library fields = .ok extraction) :
    FieldsAccepted library fields := by
  unfold checkedUnsupported at checked
  obtain ⟨merchant, merchantValid, checked⟩ := except_bind_eq_ok.mp checked
  obtain ⟨amountMinor, fits, checked⟩ := except_bind_eq_ok.mp checked
  obtain ⟨_, categoryKnown, checked⟩ := except_bind_eq_ok.mp checked
  obtain ⟨_, typeKnown, checked⟩ := except_bind_eq_ok.mp checked
  obtain ⟨occurredAt, readable, _⟩ := except_bind_eq_ok.mp checked
  obtain ⟨-, notBlank, short⟩ := validateMerchant_eq_ok_iff.mp merchantValid
  exact
    { merchantNotBlank := notBlank
      merchantShort := short
      amountFits := by rw [orInvalid_eq_ok.mp fits]; rfl
      categoryKnown := refuseWhen_absent_eq_ok.mp categoryKnown
      typeKnown := refuseWhen_absent_eq_ok.mp typeKnown
      instantReadable := by rw [orInvalid_eq_ok.mp readable]; rfl }

theorem FieldsAccepted.checked (accepted : FieldsAccepted library fields) :
    ∃ extraction, checkedUnsupported library fields = .ok extraction ∧
      extraction.unsupported = true := by
  obtain ⟨amountMinor, fits⟩ := Option.isSome_iff_exists.mp accepted.amountFits
  obtain ⟨occurredAt, readable⟩ :=
    Option.isSome_iff_exists.mp accepted.instantReadable
  obtain ⟨confidence, isNumber⟩ := @asF64_number library fields.confidence
  have merchantValid := validateMerchant_eq_ok_iff.mpr
    ⟨rfl, accepted.merchantNotBlank, accepted.merchantShort⟩
  have categoryKnown (message : String) :
      refuseWhen (!categoryKeys.contains fields.categoryKey) message =
        .ok () :=
    refuseWhen_absent_eq_ok.mpr accepted.categoryKnown
  have typeKnown (message : String) :
      refuseWhen (!(["expense", "income", "transfer"].contains
        fields.transactionType)) message = .ok () :=
    refuseWhen_absent_eq_ok.mpr accepted.typeKnown
  unfold checkedUnsupported
  simp only [merchantValid, fits, readable, isNumber, categoryKnown,
    typeKnown, orInvalid_some, ok_bind]
  exact ⟨_, rfl, rfl⟩

/-- A candidate that finishes normally is not refused for its reason. -/
theorem FinishesNormally.notStopped {response : JsonValue}
    (finishes : FinishesNormally response) :
    (((response.pointer ["candidates", "0", "finishReason"]).bind
      (·.asStr)).any fun reason => reason != "STOP" && reason != "stop") =
        false := by
  cases found : response.pointer ["candidates", "0", "finishReason"] with
  | none => rfl
  | some value =>
      cases value with
      | string reason =>
          rcases finishes.finished reason found with rfl | rfl
          · decide
          · decide
      | _ => rfl

/-- A response that says the image is not a receipt is read when its other
fields are accepted, and is a validation error otherwise. -/
theorem parseGenerateContent_unsupported {body : String}
    {metadata : ExtractionMeta} (answers : Answers library body fields)
    (unsupported : fields.unsupported = true) :
    (FieldsAccepted library fields ∧ ∃ attempt,
      parseGenerateContent library body metadata = .ok attempt ∧
        attempt.result.unsupported = true) ∨
    (¬ FieldsAccepted library fields ∧ ∃ error,
      parseGenerateContent library body metadata = .error error ∧
        error.errorClass = .validation) := by
  obtain ⟨response, text, output, isResponse, finishes, hasText, isOutput,
    requested⟩ := answers.reads
  have reads : parseGenerateContent library body metadata =
      (do
        let result ← checkedUnsupported library fields
        pure ⟨result, { metadata with
          inputTokens := (((response.pointer ["usageMetadata",
            "promptTokenCount"]).bind (·.asI64)).map tryI32).getD
              metadata.inputTokens
          outputTokens := (((response.pointer ["usageMetadata",
            "candidatesTokenCount"]).bind (·.asI64)).map tryI32).getD
              metadata.outputTokens }⟩) := by
    unfold parseGenerateContent
    simp only [isResponse, orInvalid_some, ok_bind, finishes.notBlocked,
      finishes.notStopped, hasText, Option.isSome_none, refuseWhen_false,
      parseExtractionJson_unsupported isOutput requested unsupported]
  rw [reads]
  by_cases accepted : FieldsAccepted library fields
  · obtain ⟨extraction, checked, flagged⟩ := accepted.checked
    rw [checked]
    exact Or.inl ⟨accepted, _, rfl, flagged⟩
  · right
    refine ⟨accepted, ?_⟩
    cases checked : checkedUnsupported library fields with
    | error error =>
        exact ⟨error, rfl, onlyInvalid_checkedUnsupported error checked⟩
    | ok extraction =>
        exact absurd (accepted_of_checkedUnsupported checked) accepted

end Reading

end Gemini

namespace Extractions

open Receipts Retention Followups Workers Gemini Conversation

/-- A job that extracts a submission. -/
structure IsExtractJob (job : ClaimedJob) (submissionId : Uuid) : Prop where
  payload : parseReceiptSubmissionId job jobTypeExtract = some submissionId
  dedupeKey : job.dedupeKey = extractDedupeKey submissionId

/-- The extraction ends as unsupported, and the user is sent the text about
images that are not receipts. -/
structure ReportsUnsupported (environment : WorkEnvironment)
    (job : ClaimedJob) (accountId submissionId : Uuid)
    (inbound : InboundEventRow) (account : AccountRow) (store : BotStore) :
    Prop where
  ends : ∃ after, RunsAlone (extract environment.config environment.extract
    accountId submissionId).attempt store (.ok .unsupported) after
  told : ∃ execution after, RunsAlone (dispatchReceiptExtract environment job)
      store execution after ∧
    IsSent (failureIdempotencyKey submissionId) inbound.providerChatId
      (extractionUnsupportedText (Conversation.Locale.parse account.locale))
      after

section Dispatch

variable {environment : WorkEnvironment} {job : ClaimedJob}
variable {accountId submissionId : Uuid} {row : SubmissionRow}
variable {inbound : InboundEventRow} {account : AccountRow}
variable {store : BotStore} {bytes : List UInt8}

/-- A failure can still be told after the extraction. -/
theorem canBeTold_kept {period : String} {after : BotStore}
    (told : CanBeTold environment.followup accountId submissionId inbound
      account store)
    (present : store (.submission submissionId) = some row)
    (keeps : KeepsRoute submissionId period row store after) :
    CanBeTold environment.followup accountId submissionId inbound account
      after := by
  obtain ⟨before, found, owner, ofEvent⟩ := told.submission
  rw [present] at found
  cases found
  obtain ⟨later, foundLater, sameAccount, sameEvent⟩ := keeps.submission
  have same (key : BotKey) (notSubmission : key ≠ .submission submissionId)
      (notAttempts : key ≠ .extractionAttempts submissionId)
      (notPages : key ≠ pagesKey period) : after key = store key :=
    keeps.others key notSubmission notAttempts notPages
  refine ⟨⟨later, foundLater, sameAccount.trans owner,
    sameEvent.trans ofEvent⟩, ?_, ?_, ?_, told.enabled, fun body => ?_,
    told.canonical⟩
  · exact (same (.inboundEvent _ _) nofun nofun nofun).trans told.event
  · exact (same (.account _) nofun nofun nofun).trans told.account
  · exact (same (.outbound _) nofun nofun nofun).trans told.untold
  · have within := told.within body
    unfold Outbox.EnqueueCall.charged at within ⊢
    have sameCounter := same ((failureCall environment.followup accountId
      submissionId inbound body).counterKey accountId) nofun nofun (by
        simp [Outbox.EnqueueCall.counterKey, pagesKey,
          UsageQuota.scopeAccount, UsageQuota.scopeGlobal])
    rw [sameCounter]
    exact within

/-- An extraction that is reported under an error class is told with the text
of the class. -/
theorem executes_dispatchReceiptExtract
    {outcome : Except ReceiptFailure ExtractOutcome}
    {errorClass : ErrorClass} {middle : BotStore}
    (isJob : IsExtractJob job submissionId)
    (present : store (.submission submissionId) = some row)
    (owner : row.accountId = accountId)
    (ends : Executes isObject (extract environment.config environment.extract
      accountId submissionId).attempt Overlay.none store outcome Overlay.none
      middle)
    (keeps : KeepsRoute submissionId environment.extract.period row store
      middle)
    (reports : afterExtraction environment job accountId submissionId outcome =
      reportExtractionFailure environment job accountId submissionId
        errorClass)
    (texts : environment.followup.failureBody = failureBody)
    (told : CanBeTold environment.followup accountId submissionId inbound
      account store) :
    ∃ after, Executes isObject (dispatchReceiptExtract environment job)
        Overlay.none store (.fail errorClass) Overlay.none after ∧
      IsSent (failureIdempotencyKey submissionId) inbound.providerChatId
        (failureBody account errorClass) after := by
  have tells : ∃ after, Executes isObject (enqueueReceiptFailureFollowup
      (leased job .failureFollowup) environment.followup accountId
      submissionId errorClass) Overlay.none middle () Overlay.none after ∧
      IsSent (failureIdempotencyKey submissionId) inbound.providerChatId
        (environment.followup.failureBody account errorClass) after := by
    refine executes_failureFollowup (canBeTold_kept told present keeps) ?_
    rw [texts]
    exact isBody_failureBody account errorClass
  obtain ⟨after, followup, sent⟩ := tells
  rw [texts] at sent
  have loads : Executes isObject (loadSubmissionAccountId submissionId :
      Work (Option Uuid)) Overlay.none store (some accountId) Overlay.none
      store := by
    rintro database rfl alone
    refine ⟨?_, rfl, rfl, alone⟩
    rw [Overlay.none_view, present, Option.map_some, owner]
  refine ⟨after, ?_, sent⟩
  unfold dispatchReceiptExtract
  rw [isJob.payload]
  dsimp only
  rw [if_neg (not_not_intro isJob.dedupeKey)]
  refine .bind loads ?_
  have extracts : Executes isObject (onReceipts job (extract
      environment.config environment.extract accountId
      submissionId)).attempt Overlay.none store outcome Overlay.none
      middle := by
    rw [onReceipts, attempt_mapEvent]
    exact ends.mapEvent
  refine .bind extracts ?_
  rw [reports]
  exact .bind followup.attempt executes_pure

section Responses

variable {library : ResponseLibrary} {body : String}
variable {metadata : ExtractionMeta} {fields : RequestedOutput}

/-- What the extraction makes of a response. -/
def IsAnswered (library : ResponseLibrary) (body : String)
    (metadata : ExtractionMeta) (environment : ExtractEnvironment)
    (bytes : List UInt8) : Prop :=
  environment.extractor bytes =
    (parseGenerateContent library body metadata).map
      fun attempt => attempt.result.toExtractionResult

/-- An image that is not a receipt and whose other fields are refused fails
like any unreadable receipt. -/
theorem refused_fields_are_told_as_failure
    (answers : Answers library body fields)
    (unsupported : fields.unsupported = true)
    (asks : AsksExtractor environment.config environment.extract accountId
      submissionId row bytes store)
    (answered : IsAnswered library body metadata environment.extract bytes)
    (isJob : IsExtractJob job submissionId)
    (texts : environment.followup.failureBody = failureBody)
    (told : CanBeTold environment.followup accountId submissionId inbound
      account store)
    (refused : ¬ FieldsAccepted library fields) :
    (∃ error after, Executes isObject (extract environment.config
      environment.extract accountId submissionId).attempt Overlay.none store
      (.error error) Overlay.none after) ∧
    ∃ after, RunsAlone (dispatchReceiptExtract environment job) store
        (.fail .validation) after ∧
      IsSent (failureIdempotencyKey submissionId) inbound.providerChatId
        (extractionFailedText (Conversation.Locale.parse account.locale))
        after := by
  rcases parseGenerateContent_unsupported answers unsupported with
    ⟨accepted, _⟩ | ⟨_, error, parsed, invalid⟩
  · exact absurd accepted refused
  · rw [IsAnswered, parsed] at answered
    obtain ⟨middle, ends, keeps⟩ := executes_extract_refused asks answered
    have reports : afterExtraction environment job accountId submissionId
        (.error (.refused error)) = reportExtractionFailure environment job
          accountId submissionId .validation := by
      cases error
      cases invalid
      rfl
    obtain ⟨after, dispatches, sent⟩ := executes_dispatchReceiptExtract isJob
      asks.submission asks.owner ends keeps reports texts told
    exact ⟨⟨_, _, ends⟩, after, dispatches.runsAlone, sent⟩

/-- An image that is not a receipt is reported as such exactly when the other
fields of the response are accepted. -/
theorem unsupported_image_is_reported_iff
    (answers : Answers library body fields)
    (unsupported : fields.unsupported = true)
    (asks : AsksExtractor environment.config environment.extract accountId
      submissionId row bytes store)
    (answered : IsAnswered library body metadata environment.extract bytes)
    (isJob : IsExtractJob job submissionId)
    (texts : environment.followup.failureBody = failureBody)
    (told : CanBeTold environment.followup accountId submissionId inbound
      account store) :
    ReportsUnsupported environment job accountId submissionId inbound account
        store ↔
      FieldsAccepted library fields := by
  constructor
  · rintro ⟨⟨after, ended⟩, -⟩
    by_contra refused
    obtain ⟨⟨error, _, fails⟩, _⟩ := refused_fields_are_told_as_failure answers
      unsupported asks answered isJob texts told refused
    exact absurd (fails.unique ended).1 nofun
  · intro accepted
    rcases parseGenerateContent_unsupported answers unsupported with
      ⟨_, attempt, parsed, flagged⟩ | ⟨refused, _⟩
    · rw [IsAnswered, parsed] at answered
      obtain ⟨middle, ends, keeps⟩ :=
        executes_extract_unsupported asks answered flagged
      have reports : afterExtraction environment job accountId submissionId
          (.ok .unsupported) = reportExtractionFailure environment job
            accountId submissionId .unsupported := rfl
      obtain ⟨after, dispatches, sent⟩ := executes_dispatchReceiptExtract
        isJob asks.submission asks.owner ends keeps reports texts told
      exact ⟨⟨_, ends.runsAlone⟩, _, after, dispatches.runsAlone, sent⟩
    · exact absurd accepted refused

end Responses

end Dispatch

section Samples

/-- The JSON text of an output that says the image is not a receipt. -/
def declinedText (merchant : String) : String :=
  "\x7b" ++ extractionMembers merchant ++ "\"unsupported\":true\x7d"

/-- The JSON text of a response with this output. -/
def declinedResponse (merchant : String) : String :=
  "\x7b\"candidates\":[\x7b\"content\":\x7b\"parts\":[\x7b\"text\":\"" ++
    jsonEscaped (declinedText merchant) ++
    "\"\x7d]\x7d,\"finishReason\":\"STOP\"\x7d]\x7d\n"

def declinedValue (merchant : String) : JsonValue :=
  .object
    [("merchant", .string merchant),
      ("amount_minor", .number (.posInt 45000)),
      ("currency", .string "VND"),
      ("category_key", .string "an-uong"),
      ("transaction_type", .string "expense"),
      ("occurred_at", .string "2026-05-01T00:00:00Z"),
      ("confidence", .number (.posInt 1)),
      ("unsupported", .bool true)]

def declinedFields (merchant : String) : RequestedOutput where
  merchant := merchant
  amountMinor := .posInt 45000
  amountIsInteger := trivial
  currency := "VND"
  categoryKey := "an-uong"
  transactionType := "expense"
  occurredAt := "2026-05-01T00:00:00Z"
  confidence := .posInt 1
  unsupported := true

/-- Libraries that read one response whose merchant needs no escapes. -/
def declining (merchant : String) : ResponseLibrary where
  fromStr text :=
    if text = declinedText merchant then
      some (declinedValue merchant)
    else if text = declinedResponse merchant then
      some (responseValue (declinedText merchant))
    else
      none
  parseRfc3339 text :=
    if text = "2026-05-01T00:00:00Z" then some 1777593600000000 else none
  roundDouble number := number
  roundSingle := .finite

def accountSample : Uuid :=
  ⟨"11111111-1111-4111-8111-111111111111"⟩

def submissionSample : Uuid :=
  ⟨"22222222-2222-4222-8222-222222222222"⟩

def eventSample : Uuid :=
  ⟨"33333333-3333-4333-8333-333333333333"⟩

/-- A photo that has been stored. -/
def storedSample : SubmissionRow where
  accountId := accountSample
  inboundEventId := some eventSample
  state := .stored
  version := 3
  duplicateOfSubmissionId := none
  confirmedExpenseId := none
  failureErrorClass := none
  reviewExpiresAt := none
  history := [.stored, .queued, .pending]

def inboundSample : InboundEventRow where
  id := eventSample
  kind := .imageReceived
  processingState := .accepted
  ingressSource := .webhook
  accountId := some accountSample
  processedAt := some 0
  mediaUrl := some "https://photo"
  providerChatId := "chat"

def accountRowSample : AccountRow :=
  ⟨.active, some "v1", some 0, "vi-VN", "Asia/Ho_Chi_Minh", 90, "VND"⟩

def assetSample : AssetRow where
  id := ⟨"44444444-4444-4444-8444-444444444444"⟩
  accountId := accountSample
  objectKey := "receipts/photo"
  image := ⟨"sha", "image/png", 2, 1, 1⟩
  retentionDeadline := 90
  deletionState := .active
  originalDeletedAt := none

def storeSample : BotStore
  | .account accountId =>
      if accountId = accountSample then some accountRowSample else none
  | .submission submissionId =>
      if submissionId = submissionSample then some storedSample else none
  | .asset submissionId =>
      if submissionId = submissionSample then some assetSample else none
  | .object objectKey =>
      if objectKey = "receipts/photo" then some [1, 2] else none
  | .inboundEvent scope eventId =>
      if scope = "zalo" ∧ eventId = "message" then some inboundSample else none
  | key => BotStore.initial key

/-- A worker whose extractor gets the response. -/
def workerSample (merchant : String) : WorkEnvironment where
  options := ⟨1, "worker", 30⟩
  claimedAt := 0
  token := ⟨"token"⟩
  candidate := none
  mediaUrl := none
  download _ := .error .dependency
  failedAt := 1
  ingest := ⟨1, fun _ _ => .error (.validation "image"), ⟨"asset"⟩,
    .dependency "store"⟩
  extractJobId := ⟨"job"⟩
  config := ⟨24, true, 100⟩
  extract :=
    { claimedAt := 0
      finishedAt := 1
      draftId := ⟨"draft"⟩
      period := "2026-05"
      extractor := fun _ =>
        (parseGenerateContent (declining merchant) (declinedResponse merchant)
          geminiMetadata).map fun attempt => attempt.result.toExtractionResult
      objectStoreError := .dependency "store" }
  followup := ⟨⟨1, true, 200, "2026-05", ⟨"outbound"⟩, ⟨"delivery"⟩⟩,
    ("zalo", "message"), fun _ _ => "review", failureBody⟩
  otherExecution := .invalidJob
  settledAt := 2

def jobSample : ClaimedJob where
  id := ⟨"job"⟩
  jobType := jobTypeExtract
  payload :=
    ⟨some 1, [("receipt_submission_id", submissionSample.text)]⟩
  payloadVersion := 1
  attemptNumber := 1
  leaseToken := ⟨"token"⟩
  leaseOwner := "worker"
  leaseDeadline := 30
  dedupeKey := extractDedupeKey submissionSample
  serializationKey := none

theorem isExtractJob_sample : IsExtractJob jobSample submissionSample :=
  ⟨by rfl, rfl⟩

theorem isAnswered_sample (merchant : String) :
    IsAnswered (declining merchant) (declinedResponse merchant) geminiMetadata
      (workerSample merchant).extract [1, 2] := by
  simp only [IsAnswered, workerSample]

theorem asksExtractor_sample (merchant : String) :
    AsksExtractor (workerSample merchant).config
      (workerSample merchant).extract accountSample submissionSample
      storedSample [1, 2] storeSample where
  submission := by rfl
  owner := rfl
  ready := ⟨by rfl, Or.inl (Or.inl rfl)⟩
  active := by rfl
  enabled := rfl
  within := by rfl
  image := ⟨assetSample, by rfl, rfl, by rfl⟩

theorem canBeTold_sample (merchant : String) :
    CanBeTold (workerSample merchant).followup accountSample submissionSample
      inboundSample accountRowSample storeSample where
  submission := ⟨storedSample, by rfl, rfl, rfl⟩
  event := by rfl
  account := by rfl
  untold := rfl
  enabled := rfl
  within := fun _ => by rfl
  canonical := ⟨isCanonical_ofList rfl, isCanonical_ofList rfl⟩

theorem answers_sample (merchant : String) :
    Answers (declining merchant) (declinedResponse merchant)
      (declinedFields merchant) := by
  have last : (declinedText merchant).toList.getLast? = some '\x7d' :=
    getLast?_append_of_some (by decide)
  have different : declinedResponse merchant ≠ declinedText merchant := by
    intro same
    have ofResponse :
        (declinedResponse merchant).toList.getLast? = some '\n' :=
      getLast?_append_of_some (by decide)
    rw [same, last] at ofResponse
    exact absurd ofResponse (by decide)
  have trimmed : RustText.trim (declinedText merchant) =
      declinedText merchant :=
    trim_braced _ _ '\x7d' (by decide) (by decide)
  refine ⟨responseValue (declinedText merchant), declinedText merchant,
    declinedValue merchant, ?_, ⟨by rfl, ?_⟩,
    candidate_of_text trimmed (ne_empty_of_getLast? last), ?_, ?_⟩
  · simp [declining, different]
  · rintro reason ⟨⟩
    exact Or.inl rfl
  · simp [declining]
  · exact ⟨by rfl, by rfl, by rfl, by rfl, by rfl, by rfl, by rfl, by rfl⟩

/-- A photo of a shop sign. -/
theorem unsupported_image_is_reported_named :
    ReportsUnsupported (workerSample "Phở Ba") jobSample accountSample
      submissionSample inboundSample accountRowSample storeSample :=
  (unsupported_image_is_reported_iff (answers_sample "Phở Ba") rfl
    (asksExtractor_sample "Phở Ba") (isAnswered_sample "Phở Ba")
    isExtractJob_sample rfl (canBeTold_sample "Phở Ba")).mpr
    { merchantNotBlank := by decide
      merchantShort := by decide
      amountFits := by rfl
      categoryKnown := by decide
      typeKnown := by decide
      instantReadable := by rfl }

/-- A photo without any merchant is told as an unreadable receipt. -/
theorem unsupported_image_is_told_as_failure :
    Answers (declining "") (declinedResponse "") (declinedFields "") ∧
    (declinedFields "").unsupported = true ∧
    AsksExtractor (workerSample "").config (workerSample "").extract
      accountSample submissionSample storedSample [1, 2] storeSample ∧
    IsAnswered (declining "") (declinedResponse "") geminiMetadata
      (workerSample "").extract [1, 2] ∧
    CanBeTold (workerSample "").followup accountSample submissionSample
      inboundSample accountRowSample storeSample ∧
    ¬ ReportsUnsupported (workerSample "") jobSample accountSample
      submissionSample inboundSample accountRowSample storeSample ∧
    ∃ after, RunsAlone (dispatchReceiptExtract (workerSample "") jobSample)
        storeSample (.fail .validation) after ∧
      IsSent (failureIdempotencyKey submissionSample) "chat"
        (extractionFailedText .vi) after := by
  have refused : ¬ FieldsAccepted (declining "") (declinedFields "") :=
    fun accepted => absurd accepted.merchantNotBlank (by decide)
  obtain ⟨⟨error, _, fails⟩, told⟩ := refused_fields_are_told_as_failure
    (answers_sample "") rfl (asksExtractor_sample "") (isAnswered_sample "")
    isExtractJob_sample rfl (canBeTold_sample "") refused
  refine ⟨answers_sample "", rfl, asksExtractor_sample "",
    isAnswered_sample "", canBeTold_sample "", ?_, told⟩
  rintro ⟨⟨after, ended⟩, -⟩
  exact absurd (fails.unique ended).1 nofun

end Samples

end Extractions

end ZaloBot
