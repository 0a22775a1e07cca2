import ZaloBot.AmountPanics
import ZaloBot.ConversationDecisions

/-!
# Reading messages with panics

The parser of chat messages and the decision about them, with the slices and the
indices of the source checked.  Text normalization rests on Unicode tables
outside the repository; these are parameters, as are categories and dates.
-/

namespace ZaloBot

namespace Conversation

open RustText

/-- The tables that the parser rests on: whether a capital sigma ends a word,
the canonical decomposition of a character and the combining marks, whose order
does not matter because they are dropped, and the parsers of categories and
dates. -/
structure TextTables where
  endsWord : SigmaRule
  decompose : Char → List Char
  isCombiningMark : Char → Bool
  resolveCategoryKey : String → Option String
  parseDateToken : String → Option NaiveDate

section Folding

variable (tables : TextTables)

/-- The characters of a text in lowercase, without diacritics. -/
def stripDiacritics (text : List Char) : List Char :=
  (((toLowercase tables.endsWord text).flatMap tables.decompose).filter
    (!tables.isCombiningMark ·)).map fun char =>
      if char = 'đ' then 'd' else char

/-- `fold`. -/
def fold (text : String) : String :=
  String.intercalate " " (splitWhitespace (String.ofList
    (stripDiacritics tables (trimChars text.toList))))

/-- The slice behind a keyword, cut from the text at an offset in its
lowercase. -/
def sliceAfter (raw keyword : List Char) (offset : Nat) :
    Checked (List Char) := do
  let after ← sliceFrom raw (offset + byteLength keyword)
  .ok (trimChars after)

/-- The loop of `extract_after_keywords`. -/
def extractAfter (raw lowered : List Char) :
    List (List Char) → Checked (Option (List Char))
  | [] => .ok none
  | keyword :: others =>
      match find keyword lowered with
      | none => extractAfter raw lowered others
      | some offset => do
          let after ← sliceAfter raw keyword offset
          if after.isEmpty then
            extractAfter raw lowered others
          else
            .ok (some after)

/-- `extract_after_keywords`. -/
def extractAfterKeywords (raw : String) (keywords : List String) :
    Checked (Option String) := do
  let found ← extractAfter raw.toList
    (toLowercase tables.endsWord raw.toList) (keywords.map String.toList)
  .ok (found.map String.ofList)

/-- `parse_amount(text, currency).ok()`. -/
def amountOf (text currency : String) :
    Checked (Option (Int × String)) := do
  let result ← parseAmount tables.endsWord text.toList currency
  .ok result.toOption

/-- The parsers as functions that do not panic. -/
def TextTables.library : TextLibrary where
  fold := fold tables
  parseAmount := fun text currency =>
    (amountOf tables text currency).toOption.join
  resolveCategoryKey := tables.resolveCategoryKey
  parseDateToken := tables.parseDateToken
  extractAfterKeywords := fun raw keywords =>
    (extractAfterKeywords tables raw keywords).toOption.join

end Folding

section Parsing

variable (tables : TextTables)

/-- `fields[index]`. -/
def fieldAt (fields : List String) (index : Nat) : Checked String :=
  match fields[index]? with
  | none => .error .index
  | some field => .ok field

/-- `fields[1..]`. -/
def laterFields : List String → Checked (List String)
  | [] => .error .slice
  | _ :: later => .ok later

/-- `parse_schedule_intent` without the name of the command. -/
def scheduleOfFieldsChecked (rawFields : List String) :
    List String → Checked (Option Intent)
  | [] => .ok (some (.of .schedule))
  | first :: rest =>
      if first ∈ ["off", "tat"] then
        match rest with
        | [] => .ok (some
            { Intent.of .schedule with disableAllSchedules := true })
        | [which] =>
            if which ∈ ["all", "ca"] then
              .ok (some
                { Intent.of .schedule with disableAllSchedules := true })
            else
              .ok ((parseScheduleFrequency which).map fun frequency =>
                { Intent.of .schedule with
                  scheduleFrequency := frequency
                  disableSchedule := true })
        | _ => .ok none
      else
        match rest with
        | [_] =>
            match parseScheduleFrequency first with
            | none => .ok none
            | some frequency => do
                let token ← fieldAt rawFields 1
                .ok ((parseDeliveryMinute token).map fun minute =>
                  { Intent.of .schedule with
                    scheduleFrequency := frequency
                    deliveryMinute := minute })
        | _ => .ok none

/-- `parse_schedule_intent`. -/
def parseScheduleIntentChecked (rawFields foldedFields : List String) :
    Checked (Option Intent) :=
  if foldedFields.head? ∈ [some "sched", some "tongket"] then do
    let rawLater ← laterFields rawFields
    scheduleOfFieldsChecked rawLater foldedFields.tail
  else
    scheduleOfFieldsChecked rawFields foldedFields

/-- `parse_recat_slash`. -/
def parseRecatSlashChecked (rawFields foldedFields : List String) :
    Checked (Option Intent) :=
  if foldedFields.length < 2 then
    .ok (some (.of .recategorizeLatest))
  else do
    let later ← laterFields rawFields
    let value := String.intercalate " " later
    .ok (some { Intent.of .recategorizeLatest with
      categoryKey := (tables.resolveCategoryKey value).getD ""
      description := value })

/-- `parse_parameterized_slash`. -/
def parseParameterizedSlashChecked (text : String) :
    Checked (Option Intent) :=
  let raw := trimStartMatches (trimCommandPunctuation text) '/'
  let rawFields := splitWhitespace raw
  let foldedFields := splitWhitespace (fold tables raw)
  match foldedFields with
  | [] => .ok none
  | name :: _ =>
      if name ∈ ["tz", "timezone", "muigio"] then
        .ok (parseTimezoneIntent rawFields foldedFields)
      else if name ∈ ["settings", "caidat", "cai dat"] then
        .ok (parseSettingsIntent rawFields foldedFields)
      else if name ∈ ["sched", "tongket", "tong ket"] then
        parseScheduleIntentChecked rawFields foldedFields
      else if name ∈ ["lang", "language", "ngonngu"] then
        .ok (parseLanguageIntent foldedFields)
      else if name ∈ ["recat", "phanloai", "category"] then
        parseRecatSlashChecked tables rawFields foldedFields
      else
        .ok none

/-- The tags of a merchant edit, and the keywords behind which the merchant is
looked for. -/
def merchantTags : List String :=
  ["cua hang ", "merchant ", "ten cua hang ", "shop ", "store "]

def merchantKeywords : List String :=
  ["cua hang", "cửa hàng", "merchant", "ten cua hang", "shop", "store"]

/-- The edits of `parse_edit_or_recat`, from what follows the edit word. -/
def parseEditChecked (trimmed rest defaultCurrency : String) :
    Checked (Option Intent) :=
  match stripPrefixAny rest merchantTags with
  | some value =>
      if value.isEmpty then
        .ok none
      else do
        let found ← extractAfterKeywords tables trimmed merchantKeywords
        .ok (some { Intent.of .editMerchant with
          merchant := trim (found.getD value) })
  | none =>
  match stripPrefixAny rest
      ["danh muc ", "category ", "cat ", "loai chi tieu "] with
  | some value =>
      .ok (some { Intent.of .editCategory with
        categoryKey := (tables.resolveCategoryKey value).getD ""
        description := value })
  | none =>
  match stripPrefixAny rest ["ngay ", "date ", "ngày "] with
  | some value =>
      .ok ((tables.parseDateToken value).map fun occurredOn =>
        { Intent.of .editDate with
          occurredOn := some occurredOn
          description := value })
  | none =>
  match stripPrefixAny rest ["loai ", "type ", "tx "] with
  | some value =>
      .ok ((parseTransactionType tables.library value).map
        fun transactionType =>
          { Intent.of .editType with transactionType := transactionType })
  | none => do
      let amount ← amountOf tables rest defaultCurrency
      .ok (amount.map fun (minor, currency) =>
        { Intent.of .editAmount with
          amountMinor := minor
          currency := currency
          amountText := rest })

/-- `parse_edit_or_recat`. -/
def parseEditOrRecatChecked (text defaultCurrency : String) :
    Checked (Option Intent) :=
  let trimmed := trimCommandPunctuation text
  let folded := fold tables trimmed
  if folded.isEmpty then
    .ok none
  else
    match stripPrefixAny folded ["phan loai ", "doi danh muc ", "recat "] with
    | some rest =>
        .ok (some { Intent.of .recategorizeLatest with
          categoryKey := (tables.resolveCategoryKey rest).getD ""
          description := rest })
    | none =>
        match stripPrefixAny folded
            ["sua so tien ", "sai so tien ", "sua ", "edit ", "fix "] with
        | none => .ok none
        | some rest =>
            if rest.isEmpty || editPhrases.contains folded then
              .ok none
            else
              parseEditChecked tables trimmed rest defaultCurrency

/-- `manual_from_amount`. -/
def manualFromAmountChecked (token description defaultCurrency : String) :
    Checked (Option Intent) :=
  let description := trimCommandPunctuation description
  if description.isEmpty then
    .ok none
  else do
    let amount ← amountOf tables token defaultCurrency
    .ok (amount.map fun (minor, currency) =>
      { Intent.of .manualEntry with
        amountMinor := minor
        currency := currency
        description := description
        amountText := token })

/-- `parse_manual_entry`. -/
def parseManualEntryChecked (text defaultCurrency : String) :
    Checked (Option Intent) :=
  let fields := splitWhitespace text
  match fields.head?, fields.getLast? with
  | some first, some last =>
      if fields.length < 2 then
        .ok none
      else do
        let firstDescription := ((stripPrefix (trim text)
          first).map trimCommandPunctuation).getD ""
        let asFirst ← manualFromAmountChecked tables first firstDescription
          defaultCurrency
        if asFirst.isSome &&
            !commandLikeDescription tables.library firstDescription then
          .ok asFirst
        else
          let description := ((stripSuffix (trim text)
            last).map trimCommandPunctuation).getD ""
          if commandLikeDescription tables.library description then
            .ok none
          else
            manualFromAmountChecked tables (trimCommandPunctuation last)
              description defaultCurrency
  | _, _ => .ok none

/-- `parse_intent` for a text that does not begin with a slash. -/
def parsePlainChecked (trimmed folded defaultCurrency : String) :
    Checked Intent :=
  if folded = "help" then .ok (.of .help)
  else if folded = "privacy" then .ok (.of .privacy)
  else if folded = "today" then .ok (.of .today)
  else if folded = "recent" then .ok (.of .recent)
  else if confirmWords.contains folded then .ok (.of .confirm)
  else if discardWords.contains folded then .ok (.of .discard)
  else do
    match ← parseEditOrRecatChecked tables trimmed defaultCurrency with
    | some intent => .ok intent
    | none =>
        if hasWord folded "lich su" || hasWord folded "gan day" then
          .ok (.of .recent)
        else if helpWords.any (fun word =>
            folded = word || startsWith folded (word ++ " ")) then
          .ok (.of .help)
        else do
          let entry ← parseManualEntryChecked tables trimmed defaultCurrency
          .ok (entry.getD (.of .none))

/-- `parse_intent`. -/
def parseIntentChecked (text defaultCurrency : String) : Checked Intent :=
  let trimmed := trimCommandPunctuation text
  let folded := fold tables trimmed
  if folded.isEmpty then
    .ok (.of .none)
  else if startsWith folded "/" then
    match slashCommand (trimStartMatches folded '/') with
    | some kind => .ok (.of kind)
    | none => do
        let intent ← parseParameterizedSlashChecked tables trimmed
        .ok (intent.getD (.of .none))
  else
    parsePlainChecked tables trimmed folded defaultCurrency

end Parsing

section Deciding

variable (tables : TextTables) (zones : ZoneLibrary) (texts : CardTexts)

/-- `handle_pending_consent`. -/
def handlePendingConsentChecked (context : AccountContext) (text : String) :
    Checked ConversationOutcome := do
  let intent ← parseIntentChecked tables text "VND"
  match intent.kind with
  | .confirm => .ok ⟨[.welcome], [.grantConsent consentVersion]⟩
  | .privacy =>
      .ok (replyOnly (.privacy context.originalReceiptRetentionDays))
  | .setLanguage => .ok (handleSetLanguage intent)
  | _ => .ok (replyOnly .consentCard)

/-- `handle_active`. -/
def handleActiveChecked (context : AccountContext) (text : String)
    (now : Timestamp) : Checked ConversationOutcome := do
  let intent ← parseIntentChecked tables text context.defaultCurrency
  match context.pending with
  | some pending =>
      if isSlashCommand text intent.kind then
        .ok (handleCommand zones texts context intent now)
      else if isPendingStale pending now then
        .ok (expiredOutcome true)
      else
        .ok (resolvePending zones texts context pending intent now)
  | none => .ok (handleCommand zones texts context intent now)

/-- `decide`. -/
def decideChecked (context : AccountContext) (text : String)
    (now : Timestamp) : Checked ConversationOutcome :=
  if !context.allowlisted then
    .ok (replyOnly .notAllowed)
  else
    match context.lifecycle with
    | .suspended => .ok (replyOnly .suspended)
    | .pendingConsent => handlePendingConsentChecked tables context text
    | .active => handleActiveChecked tables zones texts context text now

end Deciding

end Conversation

end ZaloBot
