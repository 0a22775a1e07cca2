import Mathlib.Data.List.Basic
import ZaloBot.DelimitedRecords
import ZaloBot.BotRows
import ZaloBot.RustText
import ZaloBot.TextOffsets

/-!
# The comma-separated body of an account export

`execute_account_export` writes a header and one line for each confirmed
expense; `csv_escape` quotes what a plain field may not contain.  How chrono
writes an instant is a parameter.
-/

namespace ZaloBot

namespace AccountExport

open DelimitedRecords

/-- `csv_escape`. -/
def csvEscape (value : String) : String :=
  if value.toList.any
      fun char => [',', '"', '\n', '\r'].contains char then
    "\"" ++ RustText.replace value "\"" "\"\"" ++ "\""
  else
    value

/-- The column `source` of an expense. -/
def sourceText : ExpenseSource → String
  | .manual => "manual"
  | .receipt => "receipt"

/-- The header of the body. -/
def csvHeader : String :=
  "occurred_at,amount_minor,currency,description,source\n"

variable (rfc3339 : Timestamp → String)

/-- The line of one expense. -/
def csvLine (row : ExpenseRow) : String :=
  rfc3339 row.occurredAt ++ "," ++ toString row.amountMinor ++ "," ++
    csvEscape row.currency ++ "," ++ csvEscape row.description ++ "," ++
    csvEscape (sourceText row.source) ++ "\n"

/-- `csv_body` of `execute_account_export`. -/
def csvBody (rows : List ExpenseRow) : String :=
  rows.foldl (fun body row => body ++ csvLine rfc3339 row) csvHeader

/-- `csv_bytes` of `execute_account_export`. -/
def csvBytes (rows : List ExpenseRow) : List UInt8 :=
  (csvBody rfc3339 rows).toByteArray.data.toList

/-- The values of the selected columns of one expense. -/
def fieldValues (row : ExpenseRow) : List String :=
  [rfc3339 row.occurredAt, toString row.amountMinor, row.currency,
    row.description, sourceText row.source]

/-- The names of the selected columns. -/
def columnNames : List String :=
  ["occurred_at", "amount_minor", "currency", "description", "source"]

/-- The records that a reader of the written bytes finds. -/
def readCsv (bytes : List UInt8) : Option (List (List String)) :=
  (String.fromUTF8? bytes.toByteArray).bind fun text =>
    (readRecords text.toList).map
      fun records => records.map fun fields => fields.map String.ofList

/-- The characters of an RFC 3339 instant. -/
def timestampChars : List Char :=
  "0123456789-+:.TZ".toList

theorem replaceChars_quotes (text : List Char) :
    RustText.replaceChars ['"'] ['"', '"'] 0 text = doubled text := by
  induction text with
  | nil => rfl
  | cons char text induction =>
      by_cases isQuote : char = '"'
      · subst isQuote
        simp [RustText.replaceChars, doubled, induction]
      · have other : '"' ≠ char := fun same => isQuote same.symm
        simp [RustText.replaceChars, doubled, isQuote, other, induction]

/-- `csv_escape` writes a text that a reader takes back. -/
theorem encodes_csvEscape (value : String) :
    Encodes (csvEscape value).toList value.toList := by
  unfold csvEscape
  split
  · right
    simp [RustText.replace, replaceChars_quotes]
  · rename_i noSpecial
    left
    refine ⟨rfl, fun char inside => ?_⟩
    have notSpecial : ¬ ([',', '"', '\n', '\r'].contains char = true) :=
      fun isSpecial =>
        noSpecial (List.any_eq_true.mpr ⟨char, inside, isSpecial⟩)
    simpa [isSpecial_eq_false_iff] using notSpecial

theorem isSpecial_of_isDigit {char : Char} (isDigit : char.isDigit = true) :
    isSpecial char = false := by
  rw [isSpecial_eq_false_iff]
  refine ⟨?_, ?_, ?_, ?_⟩ <;> rintro rfl <;> exact absurd isDigit (by decide)

/-- A decimal number is a plain field. -/
theorem encodes_toString (amount : Int) :
    Encodes (toString amount).toList (toString amount).toList := by
  have digits (number : Nat) (char : Char)
      (inside : char ∈ number.repr.toList) : isSpecial char = false := by
    rw [Nat.toList_repr] at inside
    exact isSpecial_of_isDigit
      (Nat.isDigit_of_mem_toDigits (by decide) (by decide) inside)
  refine .inl ⟨rfl, fun char inside => ?_⟩
  rw [Int.toString_eq_repr, Int.repr_eq_if] at inside
  split at inside
  · exact digits _ char inside
  · simp only [String.toList_append, List.mem_append] at inside
    rcases inside with isMinus | isDigit
    · have same : char = '-' := by simpa using isMinus
      rw [same]
      decide
    · exact digits _ char isDigit

variable {rfc3339}

theorem encodes_instant
    (isRfc3339 : ∀ instant, ∀ char ∈ (rfc3339 instant).toList,
      char ∈ timestampChars) (instant : Timestamp) :
    Encodes (rfc3339 instant).toList (rfc3339 instant).toList := by
  have plain : timestampChars.all (fun char => !isSpecial char) = true := by
    decide
  refine .inl ⟨rfl, fun char inside => ?_⟩
  have notSpecial :=
    List.all_eq_true.mp plain char (isRfc3339 instant char inside)
  simpa using notSpecial

/-- One expense is one record of its five values. -/
theorem encodesRecord_csvLine
    (isRfc3339 : ∀ instant, ∀ char ∈ (rfc3339 instant).toList,
      char ∈ timestampChars) (row : ExpenseRow) :
    EncodesRecord (csvLine rfc3339 row).toList
      ((fieldValues rfc3339 row).map String.toList) := by
  have record :=
    EncodesRecord.more (encodes_instant isRfc3339 row.occurredAt)
      (.more (encodes_toString row.amountMinor)
        (.more (encodes_csvEscape row.currency)
          (.more (encodes_csvEscape row.description)
            (.last (encodes_csvEscape (sourceText row.source))))))
  simpa [csvLine, fieldValues] using record

theorem encodesRecord_csvHeader :
    EncodesRecord csvHeader.toList (columnNames.map String.toList) := by
  have name (text : List Char)
      (isPlain : text.all (fun char => !isSpecial char) = true) :
      Encodes text text :=
    .inl ⟨rfl, fun char inside => by
      simpa using List.all_eq_true.mp isPlain char inside⟩
  exact .more (name "occurred_at".toList (by decide))
    (.more (name "amount_minor".toList (by decide))
      (.more (name "currency".toList (by decide))
        (.more (name "description".toList (by decide))
          (.last (name "source".toList (by decide))))))

theorem toList_csvBody (rows : List ExpenseRow) :
    (csvBody rfc3339 rows).toList =
      csvHeader.toList ++
        rows.flatMap fun row => (csvLine rfc3339 row).toList := by
  have lines (body : String) :
      (rows.foldl (fun body row => body ++ csvLine rfc3339 row)
        body).toList =
        body.toList ++
          rows.flatMap fun row => (csvLine rfc3339 row).toList := by
    induction rows generalizing body with
    | nil => simp
    | cons row rows induction =>
        rw [List.foldl_cons, induction]
        simp
  exact lines csvHeader

/-- Reading the exported bytes gives back the header and, in the same order,
the five values of every expense. -/
theorem export_round_trip
    (isRfc3339 : ∀ instant, ∀ char ∈ (rfc3339 instant).toList,
      char ∈ timestampChars) (rows : List ExpenseRow) :
    readCsv (csvBytes rfc3339 rows) =
      some (columnNames :: rows.map (fieldValues rfc3339)) := by
  have text : String.fromUTF8? (csvBytes rfc3339 rows).toByteArray =
      some (csvBody rfc3339 rows) := by
    rw [csvBytes]
    have bytes : (csvBody rfc3339 rows).toByteArray.data.toList.toByteArray =
        (csvBody rfc3339 rows).toByteArray := by
      ext1
      simp
    rw [bytes, String.fromUTF8?, dif_pos (csvBody rfc3339 rows).isValidUTF8]
    rfl
  have back (fields : List String) :
      (fields.map String.toList).map String.ofList = fields := by
    simp
  rw [readCsv, text, Option.bind_some, toList_csvBody,
    readRecords_of_written encodesRecord_csvHeader
      (encodesRecord_csvLine isRfc3339)]
  simp only [Option.map_some, List.map_cons, List.map_map, back]
  simp [Function.comp_def]

/-- An expense whose description has a comma, a quote and two line breaks. -/
def wordyExpense : ExpenseRow :=
  { accountId := ⟨"account"⟩
    amountMinor := -45000
    currency := "VND"
    occurredAt := 0
    description := " phở \"tái\", 2 tô\r\n"
    source := .manual
    state := .confirmed
    version := 1
    receiptSubmissionId := none
    categoryKey := "food"
    transactionType := "expense" }

theorem export_round_trip_wordy :
    readCsv (csvBytes (fun _ => "1970-01-01T00:00:00+00:00")
        [wordyExpense]) =
      some
        [["occurred_at", "amount_minor", "currency", "description", "source"],
          ["1970-01-01T00:00:00+00:00", "-45000", "VND",
            " phở \"tái\", 2 tô\r\n", "manual"]] :=
  export_round_trip (fun _ => by decide) [wordyExpense]

end AccountExport

end ZaloBot
