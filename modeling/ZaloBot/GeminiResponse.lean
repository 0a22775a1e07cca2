import Mathlib.Data.Rat.Defs
import Mathlib.Algebra.Order.Ring.Unbundled.Rat
import ZaloBot.ReceiptTypes

/-!
# Reading the answer of the extraction model

The response body is JSON whose candidate text is JSON again.  Parsing JSON
and instants and rounding numbers to floats are parameters; finite floats are
rational numbers.
-/

namespace ZaloBot

namespace Gemini

inductive JsonNumber where
  | posInt (value : UInt64)
  | negInt (value : Int64)
  | float (value : ℚ)

inductive JsonValue where
  | null
  | bool (value : Bool)
  | number (value : JsonNumber)
  | string (value : String)
  | array (items : List JsonValue)
  | object (members : List (String × JsonValue))

/-- What an `f64` that is a number becomes as an `f32`. -/
inductive Single where
  | negInfinite
  | finite (value : ℚ)
  | posInfinite

/-- The libraries that reading a response uses. -/
structure ResponseLibrary where
  fromStr : String → Option JsonValue
  parseRfc3339 : String → Option Timestamp
  roundDouble : Int → ℚ
  roundSingle : ℚ → Single

namespace JsonValue

def asBool : JsonValue → Option Bool
  | .bool value => some value
  | _ => none

def asStr : JsonValue → Option String
  | .string value => some value
  | _ => none

def asArray : JsonValue → Option (List JsonValue)
  | .array items => some items
  | _ => none

/-- `as_i64`: an unsigned number above the maximum is none. -/
def asI64 : JsonValue → Option Int
  | .number (.posInt value) =>
      if value.toNat ≤ 9223372036854775807 then some value.toNat else none
  | .number (.negInt value) => some value.toInt
  | _ => none

/-- `as_f64`. -/
def asF64 (library : ResponseLibrary) : JsonValue → Option ℚ
  | .number (.posInt value) => some (library.roundDouble value.toNat)
  | .number (.negInt value) => some (library.roundDouble value.toInt)
  | .number (.float value) => some value
  | _ => none

/-- `get` with a key. -/
def get (key : String) : JsonValue → Option JsonValue
  | .object members => members.lookup key
  | _ => none

/-- The index that a token of a pointer writes. -/
def indexOf (token : String) : Option Nat :=
  let digits := token.toList
  if digits.isEmpty || (digits.head? == some '0' && digits.length != 1) then
    none
  else if digits.all (fun char => '0' ≤ char ∧ char ≤ '9') then
    some (digits.foldl (fun number char => 10 * number + (char.toNat - 48)) 0)
  else
    none

/-- One token of a pointer. -/
def step (token : String) : JsonValue → Option JsonValue
  | .object members => members.lookup token
  | .array items => (indexOf token).bind fun index => items[index]?
  | _ => none

/-- `pointer`, with the tokens of the path. -/
def pointer (tokens : List String) (value : JsonValue) : Option JsonValue :=
  tokens.foldlM (fun value token => value.step token) value

end JsonValue

/-- `CATEGORY_KEYS`. -/
def categoryKeys : List String :=
  ["an-uong", "thuc-pham", "di-lai", "hoa-don", "mua-sam", "suc-khoe",
    "giai-tri", "giao-duc", "nha-o", "thu-nhap", "hoan-tien", "chuyen-khoan",
    "khac"]

/-- `ExtractionMeta`. -/
structure ExtractionMeta where
  provider : String
  model : String
  profileName : String
  promptVersion : String
  inputTokens : Option Int
  outputTokens : Option Int

/-- An extraction with its confidence. -/
structure ScoredExtraction extends ExtractionResult where
  confidence : Single

/-- `ExtractedAttempt`. -/
structure ExtractedAttempt where
  result : ScoredExtraction
  metadata : ExtractionMeta

/-- `clamp(0.0, 1.0)`. -/
def Single.clamp : Single → Single
  | .negInfinite => .finite 0
  | .finite value =>
      if value < 0 then .finite 0
      else if 1 < value then .finite 1
      else .finite value
  | .posInfinite => .finite 1

/-- `i32::try_from(number).ok()`. -/
def tryI32 (number : Int) : Option Int :=
  if -2147483648 ≤ number ∧ number ≤ 2147483647 then some number else none

/-- `ok_or_else` with a validation error. -/
def orInvalid {Value : Type} (found : Option Value) (message : String) :
    Except StoreError Value :=
  match found with
  | some value => .ok value
  | none => .error (.validation message)

/-- Refuse with a validation error. -/
def refuseWhen (wrong : Bool) (message : String) : Except StoreError Unit :=
  if wrong then .error (.validation message) else .ok ()

/-- `extract_candidate_text`. -/
def extractCandidateText (parsed : JsonValue) : Option String := do
  let parts ← (← parsed.pointer ["candidates", "0", "content", "parts"]).asArray
  parts.reverse.findSome? fun part =>
    if (part.get "thought").bind (·.asBool) = some true then
      none
    else
      (((part.get "text").bind (·.asStr)).map RustText.trim).filter
        fun text => !text.toList.isEmpty

variable (library : ResponseLibrary)

/-- `parse_extraction_json`. -/
def parseExtractionJson (text : String) :
    Except StoreError ScoredExtraction := do
  let parsed ← orInvalid (library.fromStr text) "gemini output was not json"
  let merchant ← validateMerchant
    (← orInvalid ((parsed.get "merchant").bind (·.asStr))
      "gemini output missing merchant")
  let amountMinor ← orInvalid ((parsed.get "amount_minor").bind (·.asI64))
    "gemini output missing amount_minor"
  let currency ← orInvalid ((parsed.get "currency").bind (·.asStr))
    "gemini output missing currency"
  let categoryKey ← orInvalid ((parsed.get "category_key").bind (·.asStr))
    "gemini output missing category_key"
  refuseWhen (!categoryKeys.contains categoryKey)
    "gemini output category_key is not allowed"
  let transactionType ← orInvalid
    ((parsed.get "transaction_type").bind (·.asStr))
    "gemini output missing transaction_type"
  refuseWhen (!(["expense", "income", "transfer"].contains transactionType))
    "gemini output transaction_type is not allowed"
  let occurredAt ← orInvalid ((parsed.get "occurred_at").bind (·.asStr))
    "gemini output missing occurred_at"
  let occurredAt ← orInvalid (library.parseRfc3339 occurredAt)
    "gemini output occurred_at is invalid"
  let confidence ← orInvalid
    ((parsed.get "confidence").bind (·.asF64 library))
    "gemini output missing confidence"
  let unsupported ← orInvalid ((parsed.get "unsupported").bind (·.asBool))
    "gemini output missing unsupported"
  let _ ← (if !unsupported then do
      validateAmountMinor amountMinor
      validateCurrency currency
    else
      pure ())
  pure
    { merchant := merchant
      amountMinor := amountMinor
      currency := currency
      categoryKey := categoryKey
      transactionType := transactionType
      occurredAt := occurredAt
      confidence := (library.roundSingle confidence).clamp
      unsupported := unsupported }

/-- `parse_generate_content`. -/
def parseGenerateContent (body : String) (metadata : ExtractionMeta) :
    Except StoreError ExtractedAttempt := do
  let parsed ← orInvalid (library.fromStr body) "gemini response was not json"
  refuseWhen (parsed.pointer ["promptFeedback", "blockReason"]).isSome
    "gemini blocked the prompt"
  refuseWhen
    (((parsed.pointer ["candidates", "0", "finishReason"]).bind
      (·.asStr)).any fun reason => reason != "STOP" && reason != "stop")
    "gemini did not finish normally"
  let text ← orInvalid (extractCandidateText parsed)
    "gemini response missing candidates"
  let input := (parsed.pointer ["usageMetadata", "promptTokenCount"]).bind
    (·.asI64)
  let output := (parsed.pointer ["usageMetadata", "candidatesTokenCount"]).bind
    (·.asI64)
  let result ← parseExtractionJson library text
  pure ⟨result, { metadata with
    inputTokens := (input.map tryI32).getD metadata.inputTokens
    outputTokens := (output.map tryI32).getD metadata.outputTokens }⟩

end Gemini

end ZaloBot
