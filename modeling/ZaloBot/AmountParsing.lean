import Mathlib.Data.Nat.Cast.Defs
import ZaloBot.UnicodeCase

/-!
# Amounts in text

The parser of chat amounts and the printer of amounts in cards.  Slices,
indices and `i64` arithmetic are checked as the source language checks them.
The recursion between `parse_amount` and `try_parse_compound` is bounded by the
length of the text in characters, after letters that have two characters in
lowercase; running out of this bound would count as a stack overflow.
-/

namespace ZaloBot

namespace Conversation

open RustText

inductive AmountError where
  | empty
  | negative
  | invalidCharacter
  | noDigits
  | tooLarge
  | notWholeMinorUnit
deriving DecidableEq, Repr

abbrev AmountResult := Except AmountError (Int × String)

def multipliers : List (List Char × Int) :=
  [(['t', 'r', 'i', 'ệ', 'u'], 1000000), (['t', 'r', 'i', 'e', 'u'], 1000000),
    (['c', 'ủ'], 1000000), (['c', 'u'], 1000000), (['t', 'r'], 1000000),
    (['k'], 1000)]

def currencySymbols : List (List Char × String) :=
  [(['A', '$'], "AUD"), (['₫'], "VND"), (['$'], "USD")]

/-- `currency.to_uppercase()`. -/
def upperCurrency (currency : String) : String :=
  String.ofList (toUppercase currency.toList)

/-- `currency_decimal_places`. -/
def currencyDecimalPlaces (currency : String) : Nat :=
  if upperCurrency currency ∈ ["VND", "JPY", "KRW"] then 0 else 2

section Reading

def isDigit (char : Char) : Bool :=
  '0' ≤ char && char ≤ '9'

def isSeparator (char : Char) : Bool :=
  char == '.' || char == ','

/-- `strip_separators`. -/
def stripSeparators (text : List Char) : List Char :=
  text.filter isDigit

/-- An error of the parser itself. -/
def reject {Value : Type} (error : AmountError) :
    Checked (Except AmountError Value) :=
  .ok (.error error)

/-- `parse_digits`. -/
def parseDigits (digits : List Char) : Except AmountError Int :=
  let value : Int := Nat.ofDigitChars 10 digits 0
  if digits.isEmpty || maxI64 < value then
    .error .tooLarge
  else
    .ok value

/-- `finish_amount`. -/
def finishAmount (digits : List Char) (currency : String) (factor : Int) :
    Checked AmountResult :=
  if digits.isEmpty then
    reject .noDigits
  else if 15 < digits.length then
    reject .tooLarge
  else
    match parseDigits digits with
    | .error error => reject error
    | .ok value =>
        if currencyDecimalPlaces currency = 2 ∧ maxI64 / 100 < value then
          reject .tooLarge
        else do
          let value ←
            if currencyDecimalPlaces currency = 2 then asI64 (value * 100)
            else .ok value
          if 1 < factor ∧ maxI64 / factor < value then
            reject .tooLarge
          else do
            let product ← asI64 (value * factor)
            .ok (.ok (product, upperCurrency currency))

/-- The loop that adds decimal places: `for _ in n..places`. -/
def addPlaces : Nat → Int → Checked (Except AmountError Int)
  | 0, minor => .ok (.ok minor)
  | places + 1, minor =>
      if maxI64 / 10 < minor then
        reject .tooLarge
      else do
        let minor ← asI64 (minor * 10)
        addPlaces places minor

/-- `parse_single_amount` with a decimal separator at an offset. -/
def decimalAmount (digitsOnly : List Char) (offset : Nat)
    (currency : String) (factor : Int) : Checked AmountResult := do
  let whole ← sliceTo digitsOnly offset
  let fraction ← sliceFrom digitsOnly (offset + 1)
  let wholeDigits := stripSeparators whole
  let fractionDigits := stripSeparators fraction
  let count := fractionDigits.length
  if 4 < count then
    reject .tooLarge
  else if 15 < wholeDigits.length + count then
    reject .tooLarge
  else
    match parseDigits (wholeDigits ++ fractionDigits) with
    | .error error => reject error
    | .ok combined =>
        if currencyDecimalPlaces currency = 0 then do
          let scale ← asI64 (10 ^ count)
          if 1 < factor ∧ maxI64 / factor < combined then
            reject .tooLarge
          else do
            let value ← asI64 (combined * factor)
            if value.tmod scale ≠ 0 then
              reject .notWholeMinorUnit
            else
              .ok (.ok (value.tdiv scale, currency))
        else
          let places := currencyDecimalPlaces currency
          if places < count then
            reject .notWholeMinorUnit
          else do
            match ← addPlaces (places - count) combined with
            | .error error => reject error
            | .ok minor =>
                if 1 < factor ∧ maxI64 / factor < minor then
                  reject .tooLarge
                else do
                  let product ← asI64 (minor * factor)
                  .ok (.ok (product, currency))

/-- The digits and separators of a text that has spaces besides. -/
def keepDigits : List Char → Except AmountError (List Char)
  | [] => .ok []
  | char :: rest =>
      if isDigit char || isSeparator char then
        (keepDigits rest).map (char :: ·)
      else if char = ' ' then
        keepDigits rest
      else
        .error .invalidCharacter

/-- The index of the last separator. -/
def lastSeparator (digitsOnly : List Char) : Option Nat :=
  (digitsOnly.zipIdx.filter fun entry => isSeparator entry.1).getLast?.map
    (·.2)

/-- Where the decimal separator is, if there is one. -/
def decimalAt (digitsOnly : List Char) (currency : String) :
    Checked (Option Nat) :=
  match lastSeparator digitsOnly with
  | none => .ok none
  | some last => do
      let separator ←
        match digitsOnly[last]? with
        | none => .error .index
        | some separator => .ok separator
      let rest ← sliceFrom digitsOnly (last + 1)
      let fraction := stripSeparators rest
      if currencyDecimalPlaces currency = 0 then
        if !fraction.isEmpty && fraction.length != 3 then
          .ok (some last)
        else
          .ok none
      else if separator = '.' ∧ fraction.length = 2 then
        .ok (some last)
      else
        .ok none

/-- `parse_single_amount`, from the digits with their separators. -/
def amountOfDigits (digitsOnly : List Char) (currency : String)
    (factor : Int) : Checked AmountResult :=
  if digitsOnly.isEmpty then
    reject .noDigits
  else if currencyDecimalPlaces currency = 0 ∧ factor = 1 then
    finishAmount (stripSeparators digitsOnly) currency factor
  else do
    match ← decimalAt digitsOnly currency with
    | none => finishAmount (stripSeparators digitsOnly) currency factor
    | some offset => decimalAmount digitsOnly offset currency factor

variable (endsWord : SigmaRule)

/-- The multiplier at the end of a text, and the text before it.  The length of
the multiplier is taken from the lowercase text and cut from the text itself. -/
def stripMultiplier (body : List Char) : Checked (Int × List Char) :=
  let lower := toLowercase endsWord body
  match multipliers.find? (·.1.isSuffixOf lower) with
  | none => .ok (1, body)
  | some (ending, factor) =>
      if byteLength body < byteLength ending then
        .error .overflow
      else do
        let cut ← sliceTo body (byteLength body - byteLength ending)
        .ok (factor, trimChars cut)

/-- `parse_single_amount`. -/
def parseSingleAmount (body : List Char) (currency : String) :
    Checked AmountResult := do
  let (factor, body) ← stripMultiplier endsWord (trimChars body)
  match keepDigits body with
  | .error error => reject error
  | .ok digitsOnly => amountOfDigits digitsOnly currency factor

/-- A currency with the rest of a text that begins or ends with its symbol. -/
def stripSymbol (text : List Char) (entry : List Char × String) :
    Option (String × List Char) :=
  if entry.1.isPrefixOf text then
    some (entry.2, trimChars (text.drop entry.1.length))
  else if entry.1.isSuffixOf text then
    some (entry.2, trimChars (text.take (text.length - entry.1.length)))
  else
    none

/-- `detect_currency`. -/
def detectCurrency (text : List Char) (hint : String) :
    String × List Char :=
  (currencySymbols.findSome? (stripSymbol text)).getD
    (if hint.isEmpty then "VND" else upperCurrency hint, text)

/-- One turn of the loop in `try_parse_compound`, with the parser of what
follows a multiplier. -/
def tryMultiplier
    (parseTail : List Char → String → Checked AmountResult)
    (lower : List Char) (currency : String) (word : List Char) :
    Checked (Option AmountResult) :=
  match find word lower with
  | none | some 0 => .ok none
  | some offset => do
      let front ← sliceTo lower offset
      let back ← sliceFrom lower (offset + byteLength word)
      let before := trimChars front
      let after := trimChars back
      if before.isEmpty || after.isEmpty ||
          !before.all (fun char => isDigit char || isSeparator char) then
        .ok none
      else if after.all isDigit then do
        let result ← parseSingleAmount endsWord
          (before ++ '.' :: after ++ word) currency
        .ok (some result)
      else do
        match ← parseSingleAmount endsWord (before ++ word) currency with
        | .error _ => .ok none
        | .ok (valueBefore, _) => do
            match ← parseTail after currency with
            | .error _ => .ok none
            | .ok (valueAfter, _) =>
                match asI64 (valueBefore + valueAfter) with
                | .error _ => .ok (some (.error .tooLarge))
                | .ok total => .ok (some (.ok (total, currency)))

/-- The loop of `try_parse_compound` over the multipliers. -/
def tryMultipliers
    (parseTail : List Char → String → Checked AmountResult)
    (lower : List Char) (currency : String) :
    List (List Char × Int) → Checked (Option AmountResult)
  | [] => .ok none
  | (word, _) :: others => do
      match ← tryMultiplier endsWord parseTail lower currency word with
      | some result => .ok (some result)
      | none => tryMultipliers parseTail lower currency others

/-- `try_parse_compound`. -/
def tryParseCompound
    (parseTail : List Char → String → Checked AmountResult)
    (body : List Char) (currency : String) : Checked (Option AmountResult) :=
  tryMultipliers endsWord parseTail (toLowercase endsWord body) currency
    multipliers

/-- `parse_amount`, from the parser of what follows a multiplier. -/
def parseAmountWith
    (parseTail : List Char → String → Checked AmountResult)
    (raw : List Char) (hint : String) : Checked AmountResult :=
  let text := trimChars raw
  if text.isEmpty then
    reject .empty
  else if '-' ∈ text then
    reject .negative
  else do
    let (currency, body) := detectCurrency text hint
    match ← tryParseCompound endsWord parseTail body currency with
    | some result => .ok result
    | none => parseSingleAmount endsWord body currency

/-- `parse_amount` with a bound on the depth of its recursion. -/
def parseAmountWithin : Nat → List Char → String → Checked AmountResult
  | 0, _, _ => .error .stack
  | depth + 1, raw, hint =>
      parseAmountWith endsWord (parseAmountWithin depth) raw hint

/-- `parse_amount`. -/
def parseAmount (raw : List Char) (hint : String) : Checked AmountResult :=
  parseAmountWithin endsWord (2 * raw.length + 1) raw hint

end Reading

section Printing

/-- `currency_symbol`. -/
def currencySymbol (currency : String) : List Char :=
  if currency = "VND" then ['₫']
  else if currency = "AUD" then ['A', '$']
  else if currency = "USD" then ['$']
  else []

/-- `group_digits`. -/
def groupDigits : List Char → List Char
  | [] => []
  | [digit] => [digit]
  | digit :: rest =>
      if rest.length % 3 = 0 then
        digit :: '.' :: groupDigits rest
      else
        digit :: groupDigits rest

/-- The fraction of an amount, with its decimal mark. -/
def formatFraction (value places : Nat) : List Char :=
  let digits := Nat.toDigits 10 (value % 10 ^ places)
  ',' :: (List.replicate (places - digits.length) '0' ++ digits)

/-- `format_minor`. -/
def formatMinor (amount : Int) (currency : String) : List Char :=
  let upper := upperCurrency currency
  let value := amount.natAbs
  let places := currencyDecimalPlaces upper
  let (whole, fraction) :=
    if places = 0 then
      (Nat.toDigits 10 value, [])
    else
      (Nat.toDigits 10 (value / 10 ^ places), formatFraction value places)
  let sign := if amount < 0 then ['-'] else []
  let symbol := currencySymbol upper
  sign ++ groupDigits whole ++ fraction ++
    ' ' :: (if symbol.isEmpty then upper.toList else symbol)

end Printing

end Conversation

end ZaloBot
