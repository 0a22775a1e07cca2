import Mathlib

/-!
# Reading records of comma-separated fields

The reader of RFC 4180 for records that a line feed ends: a field is plain
text without commas, quotes and line breaks, or any text between quotes with
its quotes doubled.  A writer is right about a field when what it writes is
one of these two forms.
-/

namespace ZaloBot

namespace DelimitedRecords

/-- The characters that a plain field may not contain. -/
def isSpecial (char : Char) : Bool :=
  char == ',' || char == '"' || char == '\n' || char == '\r'

/-- A quoted text with its quotes doubled. -/
def doubled (field : List Char) : List Char :=
  field.flatMap fun char => if char = '"' then ['"', '"'] else [char]

/-- The texts that stand for one field. -/
def Encodes (text field : List Char) : Prop :=
  (text = field ∧ ∀ char ∈ field, isSpecial char = false) ∨
    text = '"' :: (doubled field ++ ['"'])

/-- How much of the current record has been read: the fields before, in
reverse, and the characters of the open field, in reverse. -/
structure OpenRecord where
  records : List (List (List Char))
  fields : List (List Char)

inductive ReadingState where
  | fieldStart (before : OpenRecord)
  | plain (before : OpenRecord) (charsReverse : List Char)
  | quoted (before : OpenRecord) (charsReverse : List Char)
  | afterQuote (before : OpenRecord) (charsReverse : List Char)
  | invalid

/-- A comma ends the field. -/
def OpenRecord.endField (before : OpenRecord) (field : List Char) :
    ReadingState :=
  .fieldStart ⟨before.records, field :: before.fields⟩

/-- A line feed ends the field and the record. -/
def OpenRecord.endRecord (before : OpenRecord) (field : List Char) :
    ReadingState :=
  .fieldStart ⟨(field :: before.fields).reverse :: before.records, []⟩

def readPlain (before : OpenRecord) (charsReverse : List Char) (char : Char) :
    ReadingState :=
  if char = ',' then
    before.endField charsReverse.reverse
  else if char = '\n' then
    before.endRecord charsReverse.reverse
  else if isSpecial char then
    .invalid
  else
    .plain before (char :: charsReverse)

def readStep : ReadingState → Char → ReadingState
  | .fieldStart before, char =>
      if char = '"' then .quoted before [] else readPlain before [] char
  | .plain before chars, char => readPlain before chars char
  | .quoted before chars, char =>
      if char = '"' then .afterQuote before chars
      else .quoted before (char :: chars)
  | .afterQuote before chars, char =>
      if char = '"' then .quoted before ('"' :: chars)
      else if char = ',' then before.endField chars.reverse
      else if char = '\n' then before.endRecord chars.reverse
      else .invalid
  | .invalid, _ => .invalid

def read : ReadingState → List Char → ReadingState
  | state, [] => state
  | state, char :: chars => read (readStep state char) chars

/-- The records of a text; every record is ended by a line feed. -/
def readRecords (text : List Char) : Option (List (List (List Char))) :=
  match read (.fieldStart ⟨[], []⟩) text with
  | .fieldStart ⟨records, []⟩ => some records.reverse
  | _ => none

theorem read_append (state : ReadingState) (first second : List Char) :
    read state (first ++ second) = read (read state first) second := by
  induction first generalizing state with
  | nil => rfl
  | cons char first induction =>
      simp only [List.cons_append, read]
      exact induction (readStep state char)

theorem isSpecial_eq_false_iff {char : Char} :
    isSpecial char = false ↔
      char ≠ ',' ∧ char ≠ '"' ∧ char ≠ '\n' ∧ char ≠ '\r' := by
  simp [isSpecial, and_assoc]

theorem readPlain_of_plain {before : OpenRecord} {chars : List Char}
    {char : Char} (isPlain : isSpecial char = false) :
    readPlain before chars char = .plain before (char :: chars) := by
  have facts := isSpecial_eq_false_iff.mp isPlain
  simp [readPlain, facts, isPlain]

theorem read_plain {before : OpenRecord} {field : List Char}
    (isPlain : ∀ char ∈ field, isSpecial char = false)
    (chars : List Char) :
    read (.plain before chars) field =
      .plain before (field.reverse ++ chars) := by
  induction field generalizing chars with
  | nil => rfl
  | cons char field induction =>
      simp only [List.mem_cons, forall_eq_or_imp] at isPlain
      simp only [read, readStep, readPlain_of_plain isPlain.1]
      rw [induction isPlain.2]
      simp

theorem read_quoted (before : OpenRecord) (field chars : List Char) :
    read (.quoted before chars) (doubled field) =
      .quoted before (field.reverse ++ chars) := by
  induction field generalizing chars with
  | nil => rfl
  | cons char field induction =>
      have step : read (.quoted before chars)
          (if char = '"' then ['"', '"'] else [char]) =
          .quoted before (char :: chars) := by
        by_cases isQuote : char = '"'
        · simp [isQuote, read, readStep]
        · simp [isQuote, read, readStep]
      rw [doubled, List.flatMap_cons, read_append, step]
      have rest := induction (char :: chars)
      rw [doubled] at rest
      rw [rest]
      simp

/-- Behind a written field, a comma ends the field and a line feed ends the
record. -/
theorem read_encoded {text field : List Char} (encodes : Encodes text field)
    (before : OpenRecord) :
    readStep (read (.fieldStart before) text) ',' = before.endField field ∧
      readStep (read (.fieldStart before) text) '\n' =
        before.endRecord field := by
  rcases encodes with ⟨same, isPlain⟩ | quoted
  · subst same
    cases text with
    | nil => simp [read, readStep, readPlain]
    | cons char text =>
        simp only [List.mem_cons, forall_eq_or_imp] at isPlain
        have notQuote : char ≠ '"' :=
          (isSpecial_eq_false_iff.mp isPlain.1).2.1
        have readText : read (.fieldStart before) (char :: text) =
            .plain before (text.reverse ++ [char]) := by
          simp only [read, readStep, notQuote, if_false,
            readPlain_of_plain isPlain.1]
          exact read_plain isPlain.2 [char]
        simp [readText, readStep, readPlain]
  · have readText : read (.fieldStart before) text =
        .afterQuote before field.reverse := by
      rw [quoted]
      simp only [read, readStep, if_true]
      rw [read_append, read_quoted]
      simp [read, readStep]
    simp [readText, readStep]

theorem read_field {text field : List Char} (encodes : Encodes text field)
    (before : OpenRecord) :
    read (.fieldStart before) (text ++ [',']) = before.endField field := by
  rw [read_append]
  exact (read_encoded encodes before).1

theorem read_lastField {text field : List Char}
    (encodes : Encodes text field) (before : OpenRecord) :
    read (.fieldStart before) (text ++ ['\n']) = before.endRecord field := by
  rw [read_append]
  exact (read_encoded encodes before).2

/-- The texts of one record: its fields, separated by commas, and a line
feed. -/
inductive EncodesRecord : List Char → List (List Char) → Prop where
  | last {text field : List Char} (encodes : Encodes text field) :
      EncodesRecord (text ++ ['\n']) [field]
  | more {text field rest : List Char} {fields : List (List Char)}
      (encodes : Encodes text field) (others : EncodesRecord rest fields) :
      EncodesRecord (text ++ [','] ++ rest) (field :: fields)

theorem EncodesRecord.read_record {text : List Char}
    {fields : List (List Char)} (encodes : EncodesRecord text fields)
    (before : OpenRecord) :
    read (.fieldStart before) text =
      .fieldStart
        ⟨(before.fields.reverse ++ fields) :: before.records, []⟩ := by
  induction encodes generalizing before with
  | last encodes =>
      rw [read_lastField encodes]
      simp [OpenRecord.endRecord]
  | more encodes others induction =>
      rw [read_append, read_field encodes, OpenRecord.endField, induction]
      simp

/-- What the reader makes of a list of written records. -/
theorem read_records {Row : Type*} {write : Row → List Char}
    {fieldsOf : Row → List (List Char)}
    (writes : ∀ row, EncodesRecord (write row) (fieldsOf row))
    (rows : List Row) (records : List (List (List Char))) :
    read (.fieldStart ⟨records, []⟩) (rows.flatMap write) =
      .fieldStart ⟨(rows.map fieldsOf).reverse ++ records, []⟩ := by
  induction rows generalizing records with
  | nil => rfl
  | cons row rows induction =>
      rw [List.flatMap_cons, read_append, (writes row).read_record]
      simp only [List.reverse_nil, List.nil_append]
      rw [induction]
      simp

theorem readRecords_of_written {Row : Type*} {write : Row → List Char}
    {fieldsOf : Row → List (List Char)} {header : List Char}
    {headerFields : List (List Char)}
    (writesHeader : EncodesRecord header headerFields)
    (writes : ∀ row, EncodesRecord (write row) (fieldsOf row))
    (rows : List Row) :
    readRecords (header ++ rows.flatMap write) =
      some (headerFields :: rows.map fieldsOf) := by
  rw [readRecords, read_append, writesHeader.read_record]
  simp only [List.reverse_nil, List.nil_append]
  rw [read_records writes]
  simp

end DelimitedRecords

end ZaloBot
