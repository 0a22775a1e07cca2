import Mathlib.Data.List.Chain
import ZaloBot.ErrorClass
import ZaloBot.RustText

/-!
# Receipt states, requests and field checks

The states of a receipt submission with their legal transitions, the requests
and outcomes of the receipt lifecycle, its job keys, and the checks of single
draft fields.
-/

namespace ZaloBot

inductive ReceiptState where
  | pending
  | queued
  | stored
  | extracting
  | reviewRequired
  | confirmed
  | rejected
  | failedTransient
  | failedPermanent
  | expired
  | deleted
deriving DecidableEq, Repr

namespace ReceiptState

/-- `ReceiptState::is_terminal`. -/
def isTerminal : ReceiptState → Bool
  | confirmed | rejected | expired | failedPermanent | deleted => true
  | _ => false

end ReceiptState

/-- `can_transition`. -/
def canTransition : ReceiptState → ReceiptState → Bool
  | .pending, .queued => true
  | .queued, .stored => true
  | .queued, .failedTransient => true
  | .queued, .failedPermanent => true
  | .failedTransient, .queued => true
  | .stored, .extracting => true
  | .failedTransient, .extracting => true
  | .extracting, .reviewRequired => true
  | .extracting, .failedTransient => true
  | .extracting, .failedPermanent => true
  | .reviewRequired, .confirmed => true
  | .reviewRequired, .rejected => true
  | .reviewRequired, .expired => true
  | .stored, .deleted => true
  | .extracting, .deleted => true
  | .reviewRequired, .deleted => true
  | .confirmed, .deleted => true
  | .rejected, .deleted => true
  | .expired, .deleted => true
  | .failedPermanent, .deleted => true
  | .failedTransient, .deleted => true
  | _, _ => false

/-- Terminal states are left only to `deleted`, which is final. -/
theorem canTransition_of_isTerminal {state next : ReceiptState}
    (terminal : state.isTerminal = true)
    (legal : canTransition state next = true) :
    next = .deleted ∧ state ≠ .deleted := by
  cases state <;> cases next <;> simp_all [ReceiptState.isTerminal,
    canTransition]

/-- `JOB_TYPE_INGEST`. -/
def jobTypeIngest : String :=
  "receipt.ingest"

/-- `JOB_TYPE_EXTRACT`. -/
def jobTypeExtract : String :=
  "receipt.extract"

/-- `ingest_dedupe_key`. -/
def ingestDedupeKey (submissionId : Uuid) : String :=
  "receipt.ingest:" ++ submissionId.text

/-- `extract_dedupe_key`. -/
def extractDedupeKey (submissionId : Uuid) : String :=
  "receipt.extract:" ++ submissionId.text

theorem ingestDedupeKey_inj {first second : Uuid}
    (same : ingestDedupeKey first = ingestDedupeKey second) :
    first = second := by
  have texts : first.text = second.text :=
    (String.append_right_inj "receipt.ingest:").mp same
  cases first
  cases second
  exact congrArg Uuid.mk texts

theorem extractDedupeKey_inj {first second : Uuid}
    (same : extractDedupeKey first = extractDedupeKey second) :
    first = second := by
  have texts : first.text = second.text :=
    (String.append_right_inj "receipt.extract:").mp same
  cases first
  cases second
  exact congrArg Uuid.mk texts

/-- Keys whose leads differ at a character differ. -/
theorem append_ne_append {lead other : String} (index : Nat)
    (inLead : index < lead.toList.length)
    (inOther : index < other.toList.length)
    (differ : lead.toList[index]? ≠ other.toList[index]?)
    (first second : String) : lead ++ first ≠ other ++ second := by
  intro same
  have lists := congrArg String.toList same
  rw [String.toList_append, String.toList_append] at lists
  have characters := congrArg (fun text => text[index]?) lists
  rw [List.getElem?_append_left inLead,
    List.getElem?_append_left inOther] at characters
  exact differ characters

theorem ingestDedupeKey_ne {first second : Uuid} :
    ingestDedupeKey first ≠ extractDedupeKey second :=
  append_ne_append 8 (by decide) (by decide) (by decide) first.text second.text

/-- `account_serialization_key`. -/
def accountSerializationKey (accountId : Uuid) : String :=
  "account:" ++ accountId.text

/-- `receipt_serialization_key`. -/
def receiptSerializationKey (accountId : Uuid) : String :=
  "receipt:" ++ accountId.text

theorem accountSerializationKey_ne {first second : Uuid} :
    accountSerializationKey first ≠ receiptSerializationKey second :=
  append_ne_append 0 (by decide) (by decide) (by decide) first.text second.text

/-- `object_key`. -/
def receiptObjectKey (accountId submissionId : Uuid)
    (contentSha256 : String) : String :=
  "receipts/" ++ accountId.text ++ "/" ++ submissionId.text ++ "/" ++
    contentSha256

structure AcceptSubmissionRequest where
  submissionId : Uuid
  accountId : Uuid
  inboundEventId : Option Uuid
  ingestJobId : Uuid
deriving DecidableEq, Repr

inductive AcceptSubmissionOutcome where
  | accepted (state : ReceiptState)
  | replayed (submissionId : Uuid) (state : ReceiptState)
  | duplicateJob
deriving DecidableEq, Repr

structure ValidatedImage where
  contentSha256 : String
  mimeType : String
  sizeBytes : Int
  widthPx : Int
  heightPx : Int
deriving DecidableEq, Repr

inductive IngestOutcome where
  | stored (submissionId : Uuid) (contentSha256 : String)
  | duplicateAbsorbed (submissionId originalSubmissionId : Uuid)
  | alreadyStored (submissionId : Uuid)
  | alreadyTerminal (state : ReceiptState)
deriving DecidableEq, Repr

inductive ExtractOutcome where
  | reviewRequired (submissionId draftId : Uuid)
  | alreadyReviewRequired (submissionId : Uuid)
  | alreadyTerminal (state : ReceiptState)
  | unsupported
deriving DecidableEq, Repr

structure EditDraftRequest where
  accountId : Uuid
  submissionId : Uuid
  expectedVersion : Int
  amountMinor : Option Int
  currency : Option String
  merchant : Option String
  categoryKey : Option String
  occurredAt : Option Timestamp
  transactionType : Option String
deriving DecidableEq, Repr

structure ConfirmRequest where
  accountId : Uuid
  submissionId : Uuid
  expectedDraftVersion : Int
  expenseId : Uuid
deriving DecidableEq, Repr

inductive ConfirmOutcome where
  | confirmed (expenseId : Uuid)
  | alreadyConfirmed (expenseId : Uuid)
deriving DecidableEq, Repr

structure RejectRequest where
  accountId : Uuid
  submissionId : Uuid
  expectedDraftVersion : Int
deriving DecidableEq, Repr

/-- The fields an extractor reads off a receipt; the confidence is left
out. -/
structure ExtractionResult where
  amountMinor : Int
  currency : String
  merchant : String
  categoryKey : String
  transactionType : String
  occurredAt : Timestamp
  unsupported : Bool
deriving DecidableEq, Repr

structure ReceiptConfig where
  reviewExpiryHours : Int
  extractionEnabled : Bool
  monthlyExtractionPages : Nat
deriving DecidableEq, Repr

/-- `validate_amount_minor`. -/
def validateAmountMinor (amountMinor : Int) : Except StoreError Unit :=
  if amountMinor ≤ 0 then
    .error (.validation "amount must be positive")
  else
    .ok ()

/-- `validate_currency`. -/
def validateCurrency (currency : String) : Except StoreError Unit :=
  if currency.toList.length = 3 ∧
      currency.toList.all (fun char => 'A' ≤ char ∧ char ≤ 'Z') then
    .ok ()
  else
    .error (.validation "currency must be a 3-letter ISO code")

/-- `validate_merchant`. -/
def validateMerchant (merchant : String) : Except StoreError String :=
  let trimmed := RustText.trim merchant
  let chars := RustText.charCount trimmed
  if chars = 0 ∨ 200 < chars then
    .error (.validation "merchant must be between 1 and 200 characters")
  else
    .ok trimmed

/-- `validate_transaction_type`. -/
def validateTransactionType (transactionType : String) :
    Except StoreError Unit :=
  if transactionType ∈
      ["expense", "income", "refund", "transfer", "adjustment"] then
    .ok ()
  else
    .error (.validation "transaction_type is not allowed")

/-- `failure_state_for`. -/
def failureStateFor : ErrorClass → ReceiptState
  | .transient | .timeout | .rateLimited | .dependency => .failedTransient
  | _ => .failedPermanent

end ZaloBot
