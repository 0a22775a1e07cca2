import Mathlib

/-!
# Text operations of the source language

The Unicode `White_Space` test, the blankness test that trimming a string
and asking whether anything is left amounts to, and the replacement, trimming,
stripping and splitting of strings.
-/

namespace ZaloBot

namespace RustText

/-- `char::is_whitespace`: the Unicode `White_Space` property. -/
def isWhitespace (char : Char) : Bool :=
  let code := char.toNat
  (9 ≤ code && code ≤ 13) || code == 0x20 || code == 0x85 || code == 0xA0 ||
    code == 0x1680 || (0x2000 ≤ code && code ≤ 0x200A) ||
    code == 0x2028 || code == 0x2029 || code == 0x202F ||
    code == 0x205F || code == 0x3000

/-- `text.trim().is_empty()`. -/
def isBlank (text : String) : Bool :=
  text.toList.all isWhitespace

/-- `text.trim()`. -/
def trim (text : String) : String :=
  String.ofList ((text.toList.dropWhile isWhitespace).rdropWhile isWhitespace)

/-- `text.to_ascii_lowercase()`. -/
def toAsciiLowercase (text : String) : String :=
  String.ofList (text.toList.map Char.toLower)

/-- `text.chars().count()`. -/
def charCount (text : String) : Nat :=
  text.toList.length

/-- Replace the leftmost non-overlapping occurrences of a nonempty needle;
the counter runs over characters of a match that has been replaced. -/
def replaceChars (needle replacement : List Char) :
    Nat → List Char → List Char
  | _, [] => []
  | skip + 1, _ :: rest => replaceChars needle replacement skip rest
  | 0, char :: rest =>
      if needle.isPrefixOf (char :: rest) then
        replacement ++
          replaceChars needle replacement (needle.length - 1) rest
      else
        char :: replaceChars needle replacement 0 rest

/-- `text.replace(needle, replacement)` for a nonempty needle. -/
def replace (text needle replacement : String) : String :=
  String.ofList
    (replaceChars needle.toList replacement.toList 0 text.toList)

/-- `text.strip_prefix(lead)`. -/
def stripPrefix (text lead : String) : Option String :=
  if lead.toList.isPrefixOf text.toList then
    some (String.ofList (text.toList.drop lead.toList.length))
  else
    none

/-- `text.strip_suffix(ending)`. -/
def stripSuffix (text ending : String) : Option String :=
  if ending.toList.isSuffixOf text.toList then
    some (String.ofList
      (text.toList.take (text.toList.length - ending.toList.length)))
  else
    none

/-- `text.starts_with(lead)`. -/
def startsWith (text lead : String) : Bool :=
  lead.toList.isPrefixOf text.toList

/-- `text.contains(needle)`. -/
def contains (text needle : String) : Bool :=
  text.toList.tails.any (needle.toList.isPrefixOf ·)

/-- The maximal pieces between separators, with empty pieces. -/
def splitChars (isSeparator : Char → Bool) : List Char → List (List Char)
  | [] => [[]]
  | char :: rest =>
      if isSeparator char then
        [] :: splitChars isSeparator rest
      else
        match splitChars isSeparator rest with
        | [] => [[char]]
        | piece :: pieces => (char :: piece) :: pieces

/-- `text.split(separator)`. -/
def split (text : String) (separator : Char) : List String :=
  (splitChars (· == separator) text.toList).map String.ofList

/-- `text.split_whitespace()`. -/
def splitWhitespace (text : String) : List String :=
  ((splitChars isWhitespace text.toList).filter (!·.isEmpty)).map
    String.ofList

/-- `text.trim_start()`. -/
def trimStart (text : String) : String :=
  String.ofList (text.toList.dropWhile isWhitespace)

/-- `text.trim_start_matches(char)`. -/
def trimStartMatches (text : String) (char : Char) : String :=
  String.ofList (text.toList.dropWhile (· == char))

/-- `text.trim_end_matches(char)`. -/
def trimEndMatches (text : String) (char : Char) : String :=
  String.ofList (text.toList.rdropWhile (· == char))

end RustText

end ZaloBot
