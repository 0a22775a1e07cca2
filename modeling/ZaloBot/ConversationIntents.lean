import ZaloBot.RustText

/-!
# What a text message asks for

The parser of chat messages.  Folding rests on Unicode tables and amounts,
categories, dates and merchants are read by parsers of their own; these are
parameters.
-/

namespace ZaloBot

namespace Conversation

inductive IntentKind where
  | none
  | start
  | confirm
  | discard
  | help
  | privacy
  | today
  | week
  | month
  | recent
  | settings
  | timezone
  | schedule
  | export
  | delete
  | manualEntry
  | editAmount
  | editMerchant
  | editCategory
  | editDate
  | editType
  | listCategories
  | recategorizeLatest
  | setLanguage
deriving DecidableEq, Repr

structure NaiveDate where
  year : Int
  month : Nat
  day : Nat
deriving DecidableEq, Repr

structure Intent where
  kind : IntentKind
  amountMinor : Int
  currency : String
  description : String
  amountText : String
  timezone : String
  scheduleFrequency : String
  deliveryMinute : Int
  disableAllSchedules : Bool
  disableSchedule : Bool
  merchant : String
  categoryKey : String
  transactionType : String
  occurredOn : Option NaiveDate
  locale : String
deriving DecidableEq, Repr

/-- `Intent::of`. -/
def Intent.of (kind : IntentKind) : Intent :=
  ⟨kind, 0, "", "", "", "", "", 0, false, false, "", "", "", .none, ""⟩

/-- The parsers that intents are built with: `fold`, `parse_amount` (an amount
in minor units with its currency), `resolve_category_key`, `parse_date_token`
and `extract_after_keywords`. -/
structure TextLibrary where
  fold : String → String
  parseAmount : String → String → Option (Int × String)
  resolveCategoryKey : String → Option String
  parseDateToken : String → Option NaiveDate
  extractAfterKeywords : String → List String → Option String

section Words

def slashCommands : List (String × IntentKind) :=
  [("start", .start), ("batdau", .start), ("xinchao", .start),
    ("help", .help), ("trogiup", .help), ("privacy", .privacy),
    ("consent", .privacy), ("today", .today), ("homnay", .today),
    ("week", .week), ("tuan", .week), ("month", .month), ("thang", .month),
    ("recent", .recent), ("history", .recent), ("ganday", .recent),
    ("export", .export), ("xuatdulieu", .export), ("delete", .delete),
    ("xoadulieu", .delete), ("ok", .confirm), ("y", .confirm),
    ("no", .discard), ("n", .discard), ("categories", .listCategories),
    ("danhmuc", .listCategories), ("cats", .listCategories),
    ("recat", .recategorizeLatest)]

def confirmWords : List String :=
  ["xac nhan", "dung", "dung roi", "dong y", "ok", "okay", "yes", "y", "co",
    "confirm"]

def discardWords : List String :=
  ["bo qua", "huy", "khong", "skip", "thoi", "no", "n", "discard"]

def editPhrases : List String :=
  ["edit", "fix", "sua so tien", "sai so tien"]

def helpWords : List String :=
  ["help", "giup", "huong dan", "tro giup"]

end Words

section Parsing

/-- `trim_command_punctuation`. -/
def trimCommandPunctuation (text : String) : String :=
  let isPunctuation (char : Char) : Bool :=
    char ∈ ['.', ',', '!', '?', '…', ';', ':']
  let trimmed := (RustText.trim text).toList
  RustText.trim (String.ofList
    ((trimmed.dropWhile isPunctuation).rdropWhile isPunctuation))

/-- `is_explicit_slash_command`. -/
def isExplicitSlashCommand (kind : IntentKind) : Bool :=
  kind ∈ [.start, .help, .today, .week, .month, .recent, .privacy,
    .settings, .timezone, .schedule, .export, .delete, .listCategories,
    .setLanguage, .recategorizeLatest]

/-- `slash_command`. -/
def slashCommand (body : String) : Option IntentKind :=
  let body := trimCommandPunctuation (RustText.trim body)
  (slashCommands.find? (·.1 = body)).map (·.2)

/-- `parse_schedule_frequency`. -/
def parseScheduleFrequency (text : String) : Option String :=
  if text ∈ ["daily", "ngay"] then some "daily"
  else if text ∈ ["weekly", "tuan"] then some "weekly"
  else if text ∈ ["monthly", "thang"] then some "monthly"
  else none

/-- `str::parse::<i32>`. -/
def parseI32 (text : String) : Option Int :=
  let (negative, digits) :=
    match text.toList with
    | '-' :: rest => (true, rest)
    | '+' :: rest => (false, rest)
    | all => (false, all)
  if digits.isEmpty || !digits.all Char.isDigit then
    none
  else
    let value : Int := digits.foldl (fun total digit =>
      total * 10 + (digit.toNat - '0'.toNat)) 0
    let signed := if negative then -value else value
    if -2147483648 ≤ signed ∧ signed ≤ 2147483647 then some signed else none

/-- `parse_delivery_minute`. -/
def parseDeliveryMinute (token : String) : Option Int :=
  match RustText.split token ':' with
  | [hourText, minuteText] => do
      let hour ← parseI32 hourText
      let minute ← parseI32 minuteText
      if 0 ≤ hour ∧ hour ≤ 23 ∧ 0 ≤ minute ∧ minute ≤ 59 then
        some (hour * 60 + minute)
      else
        none
  | _ => none

/-- `parse_timezone_intent`. -/
def parseTimezoneIntent (rawFields foldedFields : List String) :
    Option Intent :=
  let value :=
    match foldedFields with
    | [name, _] =>
        if name ∈ ["tz", "timezone", "muigio"] then rawFields[1]? else none
    | ["mui", "gio", _] => rawFields[2]?
    | _ => none
  value.map fun timezone =>
    { Intent.of .timezone with timezone := timezone }

/-- `parse_settings_intent`. -/
def parseSettingsIntent (rawFields foldedFields : List String) :
    Option Intent :=
  match foldedFields with
  | [] => none
  | [_] => some (.of .settings)
  | _ => parseTimezoneIntent rawFields foldedFields

instance lawfulBEqOptionString : LawfulBEq (Option String) :=
  inferInstance

/-- `parse_schedule_intent`. -/
def parseScheduleIntent (rawFields foldedFields : List String) :
    Option Intent :=
  let (rawFields, foldedFields) :=
    if foldedFields.head? ∈ [some "sched", some "tongket"] then
      (rawFields.tail, foldedFields.tail)
    else
      (rawFields, foldedFields)
  match foldedFields with
  | [] => some (.of .schedule)
  | first :: rest =>
      if first ∈ ["off", "tat"] then
        match rest with
        | [] => some { Intent.of .schedule with disableAllSchedules := true }
        | [which] =>
            if which ∈ ["all", "ca"] then
              some { Intent.of .schedule with disableAllSchedules := true }
            else
              (parseScheduleFrequency which).map fun frequency =>
                { Intent.of .schedule with
                  scheduleFrequency := frequency
                  disableSchedule := true }
        | _ => none
      else
        match rest with
        | [_] => do
            let frequency ← parseScheduleFrequency first
            let minute ← parseDeliveryMinute (rawFields[1]?.getD "")
            some { Intent.of .schedule with
              scheduleFrequency := frequency
              deliveryMinute := minute }
        | _ => none

/-- `parse_language_intent`. -/
def parseLanguageIntent (foldedFields : List String) : Option Intent :=
  match foldedFields with
  | [_] => some (.of .setLanguage)
  | [_, language] =>
      if language ∈ ["vi", "vn", "vie", "vietnamese"] then
        some { Intent.of .setLanguage with locale := "vi-VN" }
      else if language ∈ ["en", "eng", "english"] then
        some { Intent.of .setLanguage with locale := "en-US" }
      else
        some (.of .setLanguage)
  | _ => none

variable (library : TextLibrary)

/-- `parse_recat_slash`. -/
def parseRecatSlash (rawFields foldedFields : List String) : Option Intent :=
  if foldedFields.length < 2 then
    some (.of .recategorizeLatest)
  else
    let value := String.intercalate " " rawFields.tail
    some { Intent.of .recategorizeLatest with
      categoryKey := (library.resolveCategoryKey value).getD ""
      description := value }

/-- `parse_parameterized_slash`. -/
def parseParameterizedSlash (text : String) : Option Intent :=
  let raw := RustText.trimStartMatches (trimCommandPunctuation text) '/'
  let rawFields := RustText.splitWhitespace raw
  let foldedFields := RustText.splitWhitespace (library.fold raw)
  match foldedFields with
  | [] => none
  | name :: _ =>
      if name ∈ ["tz", "timezone", "muigio"] then
        parseTimezoneIntent rawFields foldedFields
      else if name ∈ ["settings", "caidat", "cai dat"] then
        parseSettingsIntent rawFields foldedFields
      else if name ∈ ["sched", "tongket", "tong ket"] then
        parseScheduleIntent rawFields foldedFields
      else if name ∈ ["lang", "language", "ngonngu"] then
        parseLanguageIntent foldedFields
      else if name ∈ ["recat", "phanloai", "category"] then
        parseRecatSlash library rawFields foldedFields
      else
        none

/-- `strip_prefix_any`. -/
def stripPrefixAny (text : String) (leads : List String) : Option String :=
  (leads.findSome? (RustText.stripPrefix text)).map RustText.trim

/-- `parse_transaction_type`. -/
def parseTransactionType (token : String) : Option String :=
  let folded := library.fold token
  if folded ∈ ["chi", "chi tieu", "expense", "spend", "out"] then
    some "expense"
  else if folded ∈ ["thu", "thu nhap", "income", "in"] then
    some "income"
  else if folded ∈ ["hoan", "hoan tien", "refund"] then
    some "refund"
  else if folded ∈ ["chuyen", "chuyen khoan", "transfer"] then
    some "transfer"
  else if folded ∈ ["dieu chinh", "adjustment"] then
    some "adjustment"
  else
    none

/-- The edits of `parse_edit_or_recat`, from what follows the edit word. -/
def parseEdit (trimmed rest defaultCurrency : String) : Option Intent :=
  match stripPrefixAny rest
      ["cua hang ", "merchant ", "ten cua hang ", "shop ", "store "] with
  | some value =>
      if value.isEmpty then
        none
      else
        let merchant := (library.extractAfterKeywords trimmed
          ["cua hang", "cửa hàng", "merchant", "ten cua hang", "shop",
            "store"]).getD value
        some { Intent.of .editMerchant with
          merchant := RustText.trim merchant }
  | none =>
  match stripPrefixAny rest
      ["danh muc ", "category ", "cat ", "loai chi tieu "] with
  | some value =>
      some { Intent.of .editCategory with
        categoryKey := (library.resolveCategoryKey value).getD ""
        description := value }
  | none =>
  match stripPrefixAny rest ["ngay ", "date ", "ngày "] with
  | some value =>
      (library.parseDateToken value).map fun occurredOn =>
        { Intent.of .editDate with
          occurredOn := some occurredOn
          description := value }
  | none =>
  match stripPrefixAny rest ["loai ", "type ", "tx "] with
  | some value =>
      (parseTransactionType library value).map fun transactionType =>
        { Intent.of .editType with transactionType := transactionType }
  | none =>
      (library.parseAmount rest defaultCurrency).map fun (minor, currency) =>
        { Intent.of .editAmount with
          amountMinor := minor
          currency := currency
          amountText := rest }

/-- `parse_edit_or_recat`. -/
def parseEditOrRecat (text defaultCurrency : String) : Option Intent :=
  let trimmed := trimCommandPunctuation text
  let folded := library.fold trimmed
  if folded.isEmpty then
    none
  else
    match stripPrefixAny folded ["phan loai ", "doi danh muc ", "recat "] with
    | some rest =>
        some { Intent.of .recategorizeLatest with
          categoryKey := (library.resolveCategoryKey rest).getD ""
          description := rest }
    | none =>
        match stripPrefixAny folded
            ["sua so tien ", "sai so tien ", "sua ", "edit ", "fix "] with
        | none => none
        | some rest =>
            if rest.isEmpty || editPhrases.contains folded then
              none
            else
              parseEdit library trimmed rest defaultCurrency

/-- `command_like_description`. -/
def commandLikeDescription (description : String) : Bool :=
  let folded := library.fold description
  !folded.isEmpty &&
    (editPhrases.contains folded || confirmWords.contains folded ||
      discardWords.contains folded ||
      ["help", "today", "recent", "settings", "sched"].contains folded)

/-- `manual_from_amount`. -/
def manualFromAmount (token description defaultCurrency : String) :
    Option Intent :=
  let description := trimCommandPunctuation description
  if description.isEmpty then
    none
  else
    (library.parseAmount token defaultCurrency).map fun (minor, currency) =>
      { Intent.of .manualEntry with
        amountMinor := minor
        currency := currency
        description := description
        amountText := token }

/-- `parse_manual_entry`. -/
def parseManualEntry (text defaultCurrency : String) : Option Intent :=
  let fields := RustText.splitWhitespace text
  match fields.head?, fields.getLast? with
  | some first, some last =>
      if fields.length < 2 then
        none
      else
        let firstDescription := ((RustText.stripPrefix (RustText.trim text)
          first).map trimCommandPunctuation).getD ""
        let asFirst := manualFromAmount library first firstDescription
          defaultCurrency
        if asFirst.isSome &&
            !commandLikeDescription library firstDescription then
          asFirst
        else
          let description := ((RustText.stripSuffix (RustText.trim text)
            last).map trimCommandPunctuation).getD ""
          if commandLikeDescription library description then
            none
          else
            manualFromAmount library (trimCommandPunctuation last) description
              defaultCurrency
  | _, _ => none

/-- `has_word`. -/
def hasWord (folded needle : String) : Bool :=
  RustText.contains (" " ++ folded ++ " ") (" " ++ needle ++ " ")

/-- `parse_intent` for a text that does not begin with a slash. -/
def parsePlain (trimmed folded defaultCurrency : String) : Intent :=
  if folded = "help" then .of .help
  else if folded = "privacy" then .of .privacy
  else if folded = "today" then .of .today
  else if folded = "recent" then .of .recent
  else if confirmWords.contains folded then .of .confirm
  else if discardWords.contains folded then .of .discard
  else
    match parseEditOrRecat library trimmed defaultCurrency with
    | some intent => intent
    | none =>
        if hasWord folded "lich su" || hasWord folded "gan day" then
          .of .recent
        else if helpWords.any (fun word =>
            folded = word || RustText.startsWith folded (word ++ " ")) then
          .of .help
        else
          (parseManualEntry library trimmed defaultCurrency).getD (.of .none)

/-- `parse_intent`. -/
def parseIntent (text defaultCurrency : String) : Intent :=
  let trimmed := trimCommandPunctuation text
  let folded := library.fold trimmed
  if folded.isEmpty then
    .of .none
  else if RustText.startsWith folded "/" then
    match slashCommand (RustText.trimStartMatches folded '/') with
    | some kind => .of kind
    | none => (parseParameterizedSlash library trimmed).getD (.of .none)
  else
    parsePlain library trimmed folded defaultCurrency

end Parsing

end Conversation

end ZaloBot
