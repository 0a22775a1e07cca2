import ZaloBot.GeminiResponse
import ZaloBot.TextOffsets
import ZaloBot.BotRows

/-!
# Whether an accepted extraction can be stored

The row of `expense_drafts` that `upsert_draft` writes from an extraction is
checked by the constraints of the table.  What the response was validated for
implies every constraint but one: a text of the database cannot hold the
character U+0000.
-/

namespace ZaloBot

namespace Gemini

/-- `btrim`, which trims spaces only. -/
def btrim (text : List Char) : List Char :=
  (text.dropWhile (· = ' ')).rdropWhile (· = ' ')

/-- A text that the database can hold. -/
def IsStorable (text : String) : Prop :=
  Char.ofNat 0 ∉ text.toList

instance (text : String) : Decidable (IsStorable text) :=
  inferInstanceAs (Decidable (¬ _))

/-- The constraints of `expense_drafts` on the columns that an extraction
fills. -/
structure DraftConstraints (extraction : ScoredExtraction) : Prop where
  amountIsBigint : extraction.amountMinor ≤ 9223372036854775807
  amountIsPositive : 0 < extraction.amountMinor
  currencyLength : extraction.currency.toList.length = 3
  currencyLetters : ∀ char ∈ extraction.currency.toList,
    'A' ≤ char ∧ char ≤ 'Z'
  merchantIsNotBlank : 1 ≤ (btrim extraction.merchant.toList).length
  merchantIsShort : (btrim extraction.merchant.toList).length ≤ 200
  merchantIsStorable : IsStorable extraction.merchant
  categoryExists : extraction.categoryKey ∈ ZaloBot.categoryKeys
  typeIsAllowed : extraction.transactionType ∈
    ["expense", "income", "refund", "transfer", "adjustment"]
  confidenceIsShare : ∃ value, extraction.confidence = .finite value ∧
    0 ≤ value ∧ value ≤ 1

theorem orInvalid_eq_ok {Value : Type} {found : Option Value}
    {message : String} {value : Value} :
    orInvalid found message = .ok value ↔ found = some value := by
  cases found <;> simp [orInvalid]

theorem refuseWhen_eq_ok {wrong : Bool} {message : String} :
    refuseWhen wrong message = .ok () ↔ wrong = false := by
  cases wrong <;> simp [refuseWhen]

theorem refuseWhen_absent_eq_ok {allowed : List String}
    {value message : String} :
    refuseWhen (!allowed.contains value) message = .ok () ↔
      value ∈ allowed := by
  rw [refuseWhen_eq_ok, Bool.not_eq_false', List.contains_iff_mem]

/-- The copied list of categories names stored categories. -/
theorem categoryKeys_stored : categoryKeys ⊆ ZaloBot.categoryKeys := by
  decide

theorem extractedTypes_allowed :
    ["expense", "income", "transfer"] ⊆
      ["expense", "income", "refund", "transfer", "adjustment"] := by
  decide

/-- What has been trimmed of whitespace has no spaces left to trim. -/
theorem btrim_trimChars (text : List Char) :
    btrim (RustText.trimChars text) = RustText.trimChars text := by
  have notSpace {char : Char}
      (solid : RustText.isWhitespace char = false) :
      decide (char = ' ') = false := by
    rw [decide_eq_false_iff_not]
    rintro rfl
    exact absurd solid (by decide)
  exact RustText.dropEnds_eq_self
    (fun char member => notSpace (RustText.trimChars_front char member))
    fun char member => notSpace (RustText.trimChars_back char member)

theorem clamp_isShare (single : Single) :
    ∃ value, single.clamp = .finite value ∧ 0 ≤ value ∧ value ≤ 1 := by
  cases single with
  | negInfinite => exact ⟨0, rfl, by decide, by decide⟩
  | finite value =>
      simp only [Single.clamp]
      split
      · exact ⟨0, rfl, by decide, by decide⟩
      · split
        · exact ⟨1, rfl, by decide, by decide⟩
        · exact ⟨value, rfl, not_lt.mp ‹_›, not_lt.mp ‹_›⟩
  | posInfinite => exact ⟨1, rfl, by decide, by decide⟩

theorem asI64_le {value : JsonValue} {number : Int}
    (isNumber : value.asI64 = some number) :
    number ≤ 9223372036854775807 := by
  match value, isNumber with
  | .number (.posInt value), isNumber =>
      simp only [JsonValue.asI64, Option.ite_none_right_eq_some,
        Option.some.injEq] at isNumber
      omega
  | .number (.negInt value), isNumber =>
      simp only [JsonValue.asI64, Option.some.injEq] at isNumber
      have atMost := value.toInt_le
      have largest : Int64.maxValue.toInt = 9223372036854775807 := by rfl
      omega

/-- What the text of the extraction was validated for. -/
structure IsValidated (library : ResponseLibrary) (parsed : JsonValue)
    (extraction : ScoredExtraction) : Prop where
  amountMinor :
    (parsed.get "amount_minor").bind (·.asI64) = some extraction.amountMinor
  merchant : ∃ merchant,
    (parsed.get "merchant").bind (·.asStr) = some merchant ∧
      validateMerchant merchant = .ok extraction.merchant
  categoryKey : extraction.categoryKey ∈ categoryKeys
  transactionType :
    extraction.transactionType ∈ ["expense", "income", "transfer"]
  confidence : ∃ number,
    extraction.confidence = (library.roundSingle number).clamp
  amountIsValid : extraction.unsupported = false →
    validateAmountMinor extraction.amountMinor = .ok ()
  currencyIsValid : extraction.unsupported = false →
    validateCurrency extraction.currency = .ok ()

section Parsing

variable {library : ResponseLibrary}

theorem parseExtractionJson_validates {text : String}
    {extraction : ScoredExtraction}
    (parses : parseExtractionJson library text = .ok extraction) :
    ∃ parsed, library.fromStr text = some parsed ∧
      IsValidated library parsed extraction := by
  unfold parseExtractionJson at parses
  obtain ⟨parsed, isJson, parses⟩ := except_bind_eq_ok.mp parses
  obtain ⟨merchantText, hasMerchant, parses⟩ := except_bind_eq_ok.mp parses
  obtain ⟨merchant, merchantValid, parses⟩ := except_bind_eq_ok.mp parses
  obtain ⟨amountMinor, hasAmount, parses⟩ := except_bind_eq_ok.mp parses
  obtain ⟨currency, hasCurrency, parses⟩ := except_bind_eq_ok.mp parses
  obtain ⟨categoryKey, hasCategory, parses⟩ := except_bind_eq_ok.mp parses
  obtain ⟨_, categoryAllowed, parses⟩ := except_bind_eq_ok.mp parses
  obtain ⟨transactionType, hasType, parses⟩ := except_bind_eq_ok.mp parses
  obtain ⟨_, typeAllowed, parses⟩ := except_bind_eq_ok.mp parses
  obtain ⟨occurredText, hasInstant, parses⟩ := except_bind_eq_ok.mp parses
  obtain ⟨occurredAt, isInstant, parses⟩ := except_bind_eq_ok.mp parses
  obtain ⟨number, hasConfidence, parses⟩ := except_bind_eq_ok.mp parses
  obtain ⟨unsupported, hasUnsupported, parses⟩ := except_bind_eq_ok.mp parses
  obtain ⟨_, checked, parses⟩ := except_bind_eq_ok.mp parses
  cases parses
  have whenSupported (supported : unsupported = false) :
      validateAmountMinor amountMinor = .ok () ∧
        validateCurrency currency = .ok () := by
    subst supported
    obtain ⟨_, amountValid, currencyValid⟩ := except_bind_eq_ok.mp checked
    exact ⟨amountValid, currencyValid⟩
  exact ⟨parsed, orInvalid_eq_ok.mp isJson,
    { amountMinor := orInvalid_eq_ok.mp hasAmount
      merchant := ⟨merchantText, orInvalid_eq_ok.mp hasMerchant,
        merchantValid⟩
      categoryKey := refuseWhen_absent_eq_ok.mp categoryAllowed
      transactionType := refuseWhen_absent_eq_ok.mp typeAllowed
      confidence := ⟨number, rfl⟩
      amountIsValid := fun supported => (whenSupported supported).1
      currencyIsValid := fun supported => (whenSupported supported).2 }⟩

/-- The text that a response names as the merchant. -/
def responseMerchant (library : ResponseLibrary) (body : String) :
    Option String := do
  let parsed ← library.fromStr body
  let text ← extractCandidateText parsed
  let extraction ← library.fromStr text
  (extraction.get "merchant").bind (·.asStr)

theorem parseGenerateContent_validates {body : String}
    {metadata : ExtractionMeta} {attempt : ExtractedAttempt}
    (accepted : parseGenerateContent library body metadata = .ok attempt) :
    ∃ parsed, IsValidated library parsed attempt.result ∧
      responseMerchant library body =
        (parsed.get "merchant").bind (·.asStr) := by
  unfold parseGenerateContent at accepted
  obtain ⟨response, isJson, accepted⟩ := except_bind_eq_ok.mp accepted
  obtain ⟨_, notBlocked, accepted⟩ := except_bind_eq_ok.mp accepted
  obtain ⟨_, finished, accepted⟩ := except_bind_eq_ok.mp accepted
  obtain ⟨text, hasText, accepted⟩ := except_bind_eq_ok.mp accepted
  obtain ⟨extraction, parses, accepted⟩ := except_bind_eq_ok.mp accepted
  cases accepted
  obtain ⟨parsed, isExtraction, validated⟩ := parseExtractionJson_validates parses
  refine ⟨parsed, validated, ?_⟩
  simp [responseMerchant, orInvalid_eq_ok.mp isJson,
    orInvalid_eq_ok.mp hasText, isExtraction]

theorem validateMerchant_eq_ok {merchant trimmed : String}
    (valid : validateMerchant merchant = .ok trimmed) :
    trimmed.toList = RustText.trimChars merchant.toList ∧
      1 ≤ trimmed.toList.length ∧ trimmed.toList.length ≤ 200 := by
  simp only [validateMerchant] at valid
  split at valid
  · cases valid
  · rename_i bounds
    cases valid
    simp only [RustText.charCount] at bounds
    refine ⟨by simp [RustText.trim_eq_ofList], by omega, by omega⟩

/-- A trimmed text is storable when the text is. -/
theorem isStorable_iff_of_trimmed {merchant trimmed : String}
    (isTrimmed : trimmed.toList = RustText.trimChars merchant.toList) :
    IsStorable trimmed ↔ IsStorable merchant := by
  rw [IsStorable, IsStorable, isTrimmed, not_iff_not]
  exact ⟨fun inside => (RustText.trimChars_inside _).subset inside,
    fun inside => RustText.mem_trimChars inside (by decide)⟩

/-- An extraction that was accepted satisfies every constraint of the draft
table exactly when the merchant that the response names is free of U+0000. -/
theorem extraction_is_storable_iff {body : String}
    {metadata : ExtractionMeta} {attempt : ExtractedAttempt}
    (accepted : parseGenerateContent library body metadata = .ok attempt)
    (supported : attempt.result.unsupported = false) :
    DraftConstraints attempt.result ↔
      ∀ merchant ∈ responseMerchant library body, IsStorable merchant := by
  obtain ⟨parsed, validated, named⟩ := parseGenerateContent_validates accepted
  obtain ⟨merchant, isMerchant, merchantValid⟩ := validated.merchant
  obtain ⟨isTrimmed, notBlank, isShort⟩ := validateMerchant_eq_ok merchantValid
  rw [named, isMerchant]
  simp only [Option.mem_def, Option.some.injEq, forall_eq']
  rw [← isStorable_iff_of_trimmed isTrimmed]
  constructor
  · exact fun constraints => constraints.merchantIsStorable
  · intro isStorable
    have same : btrim attempt.result.merchant.toList =
        attempt.result.merchant.toList := by
      rw [isTrimmed, btrim_trimChars]
    have amountValid := validated.amountIsValid supported
    have currencyValid := validated.currencyIsValid supported
    simp only [validateAmountMinor, ite_eq_right_iff, reduceCtorEq,
      imp_false, not_le] at amountValid
    simp only [validateCurrency, ite_eq_left_iff, reduceCtorEq, imp_false,
      not_not, List.all_eq_true, decide_eq_true_eq] at currencyValid
    obtain ⟨number, isConfidence⟩ := validated.confidence
    obtain ⟨asNumber, hasAmount⟩ := Option.bind_eq_some_iff.mp
      validated.amountMinor
    exact
      { amountIsBigint := asI64_le hasAmount.2
        amountIsPositive := amountValid
        currencyLength := currencyValid.1
        currencyLetters := currencyValid.2
        merchantIsNotBlank := by rwa [same]
        merchantIsShort := by rwa [same]
        merchantIsStorable := isStorable
        categoryExists := categoryKeys_stored validated.categoryKey
        typeIsAllowed := extractedTypes_allowed validated.transactionType
        confidenceIsShare := isConfidence ▸ clamp_isShare _ }

end Parsing

section Samples

/-- The members of an extraction in JSON but the last; the merchant is given
as it is written in JSON. -/
def extractionMembers (merchantJson : String) : String :=
  "\"merchant\":\"" ++ merchantJson ++ "\",\"amount_minor\":45000," ++
    "\"currency\":\"VND\",\"category_key\":\"an-uong\"," ++
    "\"transaction_type\":\"expense\"," ++
    "\"occurred_at\":\"2026-05-01T00:00:00Z\",\"confidence\":1,"

/-- The JSON text of an extraction. -/
def extractionText (merchantJson : String) : String :=
  "\x7b" ++ extractionMembers merchantJson ++ "\"unsupported\":false\x7d"

def extractionValue (merchant : String) : JsonValue :=
  .object
    [("merchant", .string merchant),
      ("amount_minor", .number (.posInt 45000)),
      ("currency", .string "VND"),
      ("category_key", .string "an-uong"),
      ("transaction_type", .string "expense"),
      ("occurred_at", .string "2026-05-01T00:00:00Z"),
      ("confidence", .number (.posInt 1)),
      ("unsupported", .bool false)]

def responseValue (text : String) : JsonValue :=
  .object
    [("candidates", .array
      [.object
        [("content", .object
          [("parts", .array [.object [("text", .string text)]])]),
          ("finishReason", .string "STOP")]])]

/-- A JSON text as it is written inside a JSON string. -/
def jsonEscaped (text : String) : String :=
  RustText.replace (RustText.replace text "\\" "\\\\") "\"" "\\\""

/-- The JSON text of a response whose text is an extraction. -/
def responseText (merchantJson : String) : String :=
  "\x7b\"candidates\":[\x7b\"content\":\x7b\"parts\":[\x7b\"text\":\"" ++
    jsonEscaped (extractionText merchantJson) ++
    "\"\x7d]\x7d,\"finishReason\":\"STOP\"\x7d]\x7d\n"

/-- Libraries that read one response. -/
def answering (merchantJson merchant : String) : ResponseLibrary where
  fromStr text :=
    if text = extractionText merchantJson then
      some (extractionValue merchant)
    else if text = responseText merchantJson then
      some (responseValue (extractionText merchantJson))
    else
      none
  parseRfc3339 text :=
    if text = "2026-05-01T00:00:00Z" then some 1777593600000000 else none
  roundDouble number := number
  roundSingle := .finite

def geminiMetadata : ExtractionMeta :=
  ⟨"gemini", "gemini-2.5-flash", "receipt-fast", "v1", none, none⟩

def sampleAttempt (merchant : String) : ExtractedAttempt :=
  ⟨{ merchant := merchant
     amountMinor := 45000
     currency := "VND"
     categoryKey := "an-uong"
     transactionType := "expense"
     occurredAt := 1777593600000000
     confidence := .finite 1
     unsupported := false }, geminiMetadata⟩

theorem getLast?_append_of_some {front last : String} {char : Char}
    (isLast : last.toList.getLast? = some char) :
    (front ++ last).toList.getLast? = some char := by
  rw [String.toList_append, List.getLast?_append, isLast, Option.some_or]

theorem trim_braced (members last : String) (char : Char)
    (isLast : last.toList.getLast? = some char)
    (solid : RustText.isWhitespace char = false) :
    RustText.trim ("\x7b" ++ members ++ last) = "\x7b" ++ members ++ last := by
  rw [RustText.trim_eq_ofList, RustText.trimChars_eq_self,
    String.ofList_toList]
  · simp [RustText.isWhitespace]
  · rw [getLast?_append_of_some isLast]
    simpa using solid

theorem responseText_ne (merchantJson : String) :
    responseText merchantJson ≠ extractionText merchantJson := by
  intro same
  have ofResponse : (responseText merchantJson).toList.getLast? = some '\n' :=
    getLast?_append_of_some (by decide)
  have ofExtraction :
      (extractionText merchantJson).toList.getLast? = some '\x7d' :=
    getLast?_append_of_some (by decide)
  rw [same, ofExtraction] at ofResponse
  exact absurd ofResponse (by decide)

theorem candidate_of_text {text : String} (trimmed : RustText.trim text = text)
    (notEmpty : text ≠ "") :
    extractCandidateText (responseValue text) = some text := by
  simp [extractCandidateText, responseValue, JsonValue.pointer,
    JsonValue.step, JsonValue.indexOf, JsonValue.asArray, JsonValue.get,
    JsonValue.asStr, trimmed, List.lookup, notEmpty]

theorem ne_empty_of_getLast? {text : String} {char : Char}
    (isLast : text.toList.getLast? = some char) : text ≠ "" := by
  rintro rfl
  contradiction

theorem candidate_of_sample (merchantJson : String) :
    extractCandidateText (responseValue (extractionText merchantJson)) =
      some (extractionText merchantJson) :=
  candidate_of_text (trim_braced _ _ '\x7d' (by decide) (by decide))
    (ne_empty_of_getLast? (getLast?_append_of_some (by decide) :
      (extractionText merchantJson).toList.getLast? = some '\x7d'))

section Answers

variable (merchantJson merchant : String)

theorem fromStr_responseText :
    (answering merchantJson merchant).fromStr (responseText merchantJson) =
      some (responseValue (extractionText merchantJson)) := by
  simp [answering, responseText_ne]

theorem fromStr_extractionText :
    (answering merchantJson merchant).fromStr (extractionText merchantJson) =
      some (extractionValue merchant) := by
  simp [answering]

theorem responseMerchant_sample :
    responseMerchant (answering merchantJson merchant)
      (responseText merchantJson) = some merchant := by
  simp [responseMerchant, fromStr_responseText, candidate_of_sample,
    fromStr_extractionText, extractionValue, JsonValue.get, List.lookup,
    JsonValue.asStr]

variable {merchant}

/-- The sample extraction is accepted whenever its merchant is. -/
theorem parses_sample (valid : validateMerchant merchant = .ok merchant) :
    parseExtractionJson (answering merchantJson merchant)
      (extractionText merchantJson) =
        .ok (sampleAttempt merchant).result := by
  unfold parseExtractionJson
  refine except_bind_eq_ok.mpr ⟨_, orInvalid_eq_ok.mpr (fromStr_extractionText ..), ?_⟩
  refine except_bind_eq_ok.mpr
    ⟨merchant, orInvalid_eq_ok.mpr (by rfl), ?_⟩
  refine except_bind_eq_ok.mpr ⟨merchant, valid, ?_⟩
  refine except_bind_eq_ok.mpr ⟨45000, orInvalid_eq_ok.mpr (by rfl), ?_⟩
  refine except_bind_eq_ok.mpr ⟨"VND", orInvalid_eq_ok.mpr (by rfl), ?_⟩
  refine except_bind_eq_ok.mpr
    ⟨"an-uong", orInvalid_eq_ok.mpr (by rfl), ?_⟩
  refine except_bind_eq_ok.mpr
    ⟨(), refuseWhen_absent_eq_ok.mpr (by decide), ?_⟩
  refine except_bind_eq_ok.mpr
    ⟨"expense", orInvalid_eq_ok.mpr (by rfl), ?_⟩
  refine except_bind_eq_ok.mpr
    ⟨(), refuseWhen_absent_eq_ok.mpr (by decide), ?_⟩
  refine except_bind_eq_ok.mpr
    ⟨"2026-05-01T00:00:00Z", orInvalid_eq_ok.mpr (by rfl), ?_⟩
  refine except_bind_eq_ok.mpr
    ⟨1777593600000000, orInvalid_eq_ok.mpr (by rfl), ?_⟩
  refine except_bind_eq_ok.mpr ⟨1, orInvalid_eq_ok.mpr (by rfl), ?_⟩
  refine except_bind_eq_ok.mpr ⟨false, orInvalid_eq_ok.mpr (by rfl), ?_⟩
  rfl

theorem accepts_sample (valid : validateMerchant merchant = .ok merchant) :
    parseGenerateContent (answering merchantJson merchant)
      (responseText merchantJson) geminiMetadata =
        .ok (sampleAttempt merchant) := by
  unfold parseGenerateContent
  refine except_bind_eq_ok.mpr
    ⟨_, orInvalid_eq_ok.mpr (fromStr_responseText ..), ?_⟩
  refine except_bind_eq_ok.mpr ⟨(), by rfl, ?_⟩
  refine except_bind_eq_ok.mpr ⟨(), by rfl, ?_⟩
  refine except_bind_eq_ok.mpr
    ⟨_, orInvalid_eq_ok.mpr (candidate_of_sample ..), ?_⟩
  refine except_bind_eq_ok.mpr ⟨_, parses_sample merchantJson valid, ?_⟩
  rfl

end Answers

theorem extraction_is_storable_named :
    DraftConstraints (sampleAttempt "Phở Ba").result :=
  (extraction_is_storable_iff
    (accepts_sample "Phở Ba"
      (by rfl : validateMerchant "Phở Ba" = .ok "Phở Ba")) rfl).mpr
      fun merchant named => by
        rw [responseMerchant_sample] at named
        cases named
        decide

/-- A merchant with U+0000 inside is accepted and cannot be stored. -/
theorem accepted_extraction_is_not_storable :
    parseGenerateContent (answering "A\\u0000B" "A\x00B")
        (responseText "A\\u0000B") geminiMetadata =
          .ok (sampleAttempt "A\x00B") ∧
      (sampleAttempt "A\x00B").result.unsupported = false ∧
        ¬ DraftConstraints (sampleAttempt "A\x00B").result := by
  refine ⟨accepts_sample _ (by rfl), rfl, fun constraints => ?_⟩
  exact absurd constraints.merchantIsStorable (by decide)

end Samples

end Gemini

end ZaloBot
