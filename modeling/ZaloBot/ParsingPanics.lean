import ZaloBot.CheckedParsing
import ZaloBot.FoldedFields

/-!
# Where reading a message ends

`parse_intent` panics exactly where a text that it hands on does: where an
amount is cut at a Kelvin sign, or where the end of a keyword in the lowercase
message is not between two characters of the message.
-/

namespace ZaloBot

namespace Conversation

open RustText

section Endings

variable {Value Other : Type}

/-- A computation that ends with a value where a condition holds, and panics
elsewhere. -/
structure EndsIn (computation : Checked Value) (value : Value) (safe : Prop) :
    Prop where
  returns_iff : Returns computation ↔ safe
  value_eq : ∀ result, computation = .ok result → result = value

variable {computation : Checked Value} {value : Value} {safe : Prop}

theorem EndsIn.ok (value : Value) : EndsIn (.ok value) value True :=
  ⟨iff_of_true (returns_ok value) trivial, fun _ same =>
    (Except.ok.inj same).symm⟩

theorem EndsIn.bind {rest : Value → Checked Other} {other : Other}
    {safeRest : Prop} (first : EndsIn computation value safe)
    (second : EndsIn (rest value) other safeRest) :
    EndsIn (computation >>= rest) other (safe ∧ safeRest) := by
  cases ends : computation with
  | error panic =>
      have unsafely : ¬ safe := fun isSafe => by
        simpa [ends] using
          (not_returns_error panic) (ends ▸ first.returns_iff.mpr isSafe)
      exact ⟨iff_of_false (not_returns_error panic) fun both =>
        unsafely both.1, fun _ same => nomatch same⟩
  | ok result =>
      have isSafe := first.returns_iff.mp ⟨result, ends⟩
      rw [first.value_eq result ends]
      exact ⟨second.returns_iff.trans (and_iff_right isSafe).symm,
        second.value_eq⟩

theorem EndsIn.congr {other : Prop} (ends : EndsIn computation value safe)
    (same : safe ↔ other) : EndsIn computation value other :=
  ⟨ends.returns_iff.trans same, ends.value_eq⟩

theorem EndsIn.finish {rest : Value → Checked Other} {result : Value → Other}
    (ends : EndsIn computation value safe)
    (finishes : ∀ value, rest value = .ok (result value)) :
    EndsIn (computation >>= rest) (result value) safe := by
  have finished := ends.bind (finishes value ▸ EndsIn.ok (result value))
  exact finished.congr (iff_of_eq (and_true safe))

/-- A computation of an optional value, with none for a panic. -/
theorem endsIn_join (computation : Checked (Option Value)) :
    EndsIn computation computation.toOption.join (Returns computation) :=
  ⟨Iff.rfl, by rintro result rfl; rfl⟩

end Endings

section Fields

variable (tables : TextTables)

/-- Canonical decomposition takes whitespace apart into whitespace, and nothing
else into any. -/
def DecomposesWithinWords : Prop :=
  ∀ char, ∀ other ∈ tables.decompose char,
    isWhitespace other = isWhitespace char

variable {tables} {rawFields foldedFields : List String}

theorem respelled_stripDiacritics (within : DecomposesWithinWords tables)
    (text : List Char) : Respelled text (stripDiacritics tables text) := by
  refine (((lowered_toLowercase tables.endsWord text).respelled.flatMap
    within).filter _).map fun char => ?_
  split
  · rename_i barred
    rw [barred]
    decide
  · rfl

/-- Folding does not add fields. -/
theorem length_fields_fold_le (within : DecomposesWithinWords tables)
    (text : String) :
    (splitWhitespace (fold tables text)).length ≤
      (splitWhitespace text).length := by
  have folded := length_words_intercalate_le fun piece member =>
    solid_of_mem_splitChars (List.mem_of_mem_filter (show piece ∈
      words (stripDiacritics tables (trimChars text.toList)) from member))
  have respelled := (respelled_stripDiacritics within
    (trimChars text.toList)).length_words_le.1
  have trimmed := length_words_trimChars_le text.toList
  simp only [fold, splitWhitespace_eq, List.length_map,
    String.toList_intercalate, String.toList_ofList, List.map_map,
    Function.comp_def, List.map_id'] at folded ⊢
  exact folded.trans (respelled.trans trimmed)

/-- The second half of `parse_schedule_intent`, on the fields behind the name
of the command. -/
theorem scheduleOfFieldsChecked_eq {rawAll foldedAll : List String}
    (behindName : (if foldedAll.head? ∈ [some "sched", some "tongket"] then
      (rawAll.tail, foldedAll.tail) else (rawAll, foldedAll)) =
        (rawFields, foldedFields))
    (fields : foldedFields.length ≤ rawFields.length) :
    scheduleOfFieldsChecked rawFields foldedFields =
      .ok (parseScheduleIntent rawAll foldedAll) := by
  unfold parseScheduleIntent
  rw [behindName]
  rcases foldedFields with _ | ⟨first, rest⟩
  · rfl
  unfold scheduleOfFieldsChecked
  simp only
  split
  · rcases rest with _ | ⟨which, _ | ⟨other, others⟩⟩
    · rfl
    · simp only
      split <;> rfl
    · rfl
  · rcases rest with _ | ⟨which, _ | ⟨other, others⟩⟩
    · rfl
    · obtain ⟨token, isToken⟩ : ∃ token, rawFields[1]? = some token :=
        ⟨rawFields[1], List.getElem?_eq_getElem fields⟩
      cases frequency : parseScheduleFrequency first with
      | none => rfl
      | some found =>
          simp only [fieldAt, isToken, ok_bind, Option.getD_some]
          cases parseDeliveryMinute token <;> rfl
    · rfl

theorem parseScheduleIntentChecked_eq
    (fields : foldedFields.length ≤ rawFields.length) :
    parseScheduleIntentChecked rawFields foldedFields =
      .ok (parseScheduleIntent rawFields foldedFields) := by
  unfold parseScheduleIntentChecked
  split
  · rename_i named
    rcases foldedFields with _ | ⟨name, others⟩
    · simp at named
    rcases rawFields with _ | ⟨first, later⟩
    · simp at fields
    exact scheduleOfFieldsChecked_eq (if_pos named) (by simpa using fields)
  · rename_i notNamed
    exact scheduleOfFieldsChecked_eq (if_neg notNamed) fields

theorem parseRecatSlashChecked_eq
    (fields : foldedFields.length ≤ rawFields.length) :
    parseRecatSlashChecked tables rawFields foldedFields =
      .ok (parseRecatSlash tables.library rawFields foldedFields) := by
  unfold parseRecatSlashChecked parseRecatSlash
  split
  · rfl
  · rename_i several
    rcases rawFields with _ | ⟨first, later⟩
    · simp at fields several
      simp [fields] at several
    · rfl

theorem library_fold (text : String) :
    tables.library.fold text = fold tables text := by
  rw [TextTables.library]

/-- No index of a command with parameters is out of range. -/
theorem parseParameterizedSlashChecked_eq
    (within : DecomposesWithinWords tables) (text : String) :
    parseParameterizedSlashChecked tables text =
      .ok (parseParameterizedSlash tables.library text) := by
  have fields := length_fields_fold_le within
    (trimStartMatches (trimCommandPunctuation text) '/')
  unfold parseParameterizedSlashChecked parseParameterizedSlash
  simp only [library_fold]
  generalize splitWhitespace (fold tables (trimStartMatches
    (trimCommandPunctuation text) '/')) = foldedFields at fields
  rcases foldedFields with _ | ⟨name, others⟩
  · rfl
  simp only
  split
  · rfl
  split
  · rfl
  split
  · exact parseScheduleIntentChecked_eq fields
  split
  · rfl
  split
  · exact parseRecatSlashChecked_eq fields
  · rfl

end Fields

section Handing

variable (tables : TextTables)

/-- What is handed to a parser that may panic: an amount, or a message in which
a merchant is looked for. -/
inductive Handed where
  | amount (token : String)
  | merchant (message : String)
deriving DecidableEq, Repr

/-- The parser of what is handed on ends. -/
def Handed.IsRead (currency : String) : Handed → Prop
  | .amount token => Returns (amountOf tables token currency)
  | .merchant message =>
      Returns (extractAfterKeywords tables message merchantKeywords)

/-- The tags of edits other than of merchants. -/
def otherTags : List (List String) :=
  [["danh muc ", "category ", "cat ", "loai chi tieu "],
    ["ngay ", "date ", "ngày "], ["loai ", "type ", "tx "]]

/-- What an edit hands on, from what follows the edit word. -/
def handedByEdit (trimmed rest : String) : List Handed :=
  match stripPrefixAny rest merchantTags with
  | some value => if value.isEmpty then [] else [.merchant trimmed]
  | none =>
      if otherTags.any fun tags => (stripPrefixAny rest tags).isSome then []
      else [.amount rest]

def handedByEditOrRecat (text : String) : List Handed :=
  let trimmed := trimCommandPunctuation text
  let folded := fold tables trimmed
  if folded.isEmpty then
    []
  else
    match stripPrefixAny folded ["phan loai ", "doi danh muc ", "recat "] with
    | some _ => []
    | none =>
        match stripPrefixAny folded
            ["sua so tien ", "sai so tien ", "sua ", "edit ", "fix "] with
        | none => []
        | some rest =>
            if rest.isEmpty || editPhrases.contains folded then []
            else handedByEdit trimmed rest

def handedByAmount (token description : String) : List Handed :=
  if (trimCommandPunctuation description).isEmpty then [] else [.amount token]

/-- What a manual entry hands on: its first field, and its last one unless the
entry is read with the first. -/
def handedByEntry (text defaultCurrency : String) : List Handed :=
  let fields := splitWhitespace text
  match fields.head?, fields.getLast? with
  | some first, some last =>
      if fields.length < 2 then
        []
      else
        let firstDescription := ((stripPrefix (trim text)
          first).map trimCommandPunctuation).getD ""
        let description := ((stripSuffix (trim text)
          last).map trimCommandPunctuation).getD ""
        handedByAmount first firstDescription ++
          if (manualFromAmount tables.library first firstDescription
                defaultCurrency).isSome &&
              !commandLikeDescription tables.library firstDescription ||
              commandLikeDescription tables.library description then
            []
          else
            handedByAmount (trimCommandPunctuation last) description
  | _, _ => []

/-- The words that are messages of their own. -/
def wholeMessages : List String :=
  ["help", "privacy", "today", "recent"] ++ confirmWords ++ discardWords

def handedByPlain (trimmed folded defaultCurrency : String) : List Handed :=
  if wholeMessages.contains folded then
    []
  else
    handedByEditOrRecat tables trimmed ++
      if (parseEditOrRecat tables.library trimmed defaultCurrency).isSome ||
          (hasWord folded "lich su" || hasWord folded "gan day") ||
          helpWords.any (fun word =>
            folded = word || startsWith folded (word ++ " ")) then
        []
      else
        handedByEntry tables trimmed defaultCurrency

/-- What `parse_intent` hands on. -/
def handed (text defaultCurrency : String) : List Handed :=
  let trimmed := trimCommandPunctuation text
  let folded := fold tables trimmed
  if folded.isEmpty || startsWith folded "/" then []
  else handedByPlain tables trimmed folded defaultCurrency

variable {tables} {computation : Checked (Option Intent)}
  {rest token description text trimmed folded : String}

theorem endsIn_nothing {Value : Type} (currency : String) (value : Value) :
    EndsIn (.ok value) value
      (∀ piece ∈ ([] : List Handed), piece.IsRead tables currency) :=
  (EndsIn.ok value).congr (by simp)

theorem endsIn_parseEdit (trimmed rest currency : String) :
    EndsIn (parseEditChecked tables trimmed rest currency)
      (parseEdit tables.library trimmed rest currency)
      (∀ piece ∈ handedByEdit trimmed rest, piece.IsRead tables currency) := by
  unfold parseEditChecked parseEdit handedByEdit otherTags
  rw [← merchantTags]
  cases stripPrefixAny rest merchantTags with
  | some value =>
      simp only
      split
      · exact endsIn_nothing currency _
      · refine EndsIn.congr ((endsIn_join (extractAfterKeywords tables trimmed
          merchantKeywords)).finish fun found => rfl) ?_
        simp [Handed.IsRead]
  | none =>
      simp only [List.any_cons, List.any_nil, Bool.or_false]
      cases stripPrefixAny rest
          ["danh muc ", "category ", "cat ", "loai chi tieu "] with
      | some value => exact endsIn_nothing currency _
      | none =>
      cases stripPrefixAny rest ["ngay ", "date ", "ngày "] with
      | some value => exact endsIn_nothing currency _
      | none =>
      cases stripPrefixAny rest ["loai ", "type ", "tx "] with
      | some value => exact endsIn_nothing currency _
      | none =>
          refine EndsIn.congr ((endsIn_join (amountOf tables rest
            currency)).finish fun amount => rfl) ?_
          simp [Handed.IsRead]

theorem endsIn_parseEditOrRecat (text currency : String) :
    EndsIn (parseEditOrRecatChecked tables text currency)
      (parseEditOrRecat tables.library text currency)
      (∀ piece ∈ handedByEditOrRecat tables text,
        piece.IsRead tables currency) := by
  unfold parseEditOrRecatChecked parseEditOrRecat handedByEditOrRecat
  simp only [library_fold]
  split
  · exact endsIn_nothing currency _
  cases stripPrefixAny (fold tables (trimCommandPunctuation text))
      ["phan loai ", "doi danh muc ", "recat "] with
  | some rest => exact endsIn_nothing currency _
  | none =>
  cases stripPrefixAny (fold tables (trimCommandPunctuation text))
      ["sua so tien ", "sai so tien ", "sua ", "edit ", "fix "] with
  | none => exact endsIn_nothing currency _
  | some rest =>
      simp only
      split
      · exact endsIn_nothing currency _
      · exact endsIn_parseEdit _ rest currency

theorem endsIn_manualFromAmount (token description currency : String) :
    EndsIn (manualFromAmountChecked tables token description currency)
      (manualFromAmount tables.library token description currency)
      (∀ piece ∈ handedByAmount token description,
        piece.IsRead tables currency) := by
  unfold manualFromAmountChecked manualFromAmount handedByAmount
  simp only
  split
  · exact endsIn_nothing currency _
  · refine EndsIn.congr ((endsIn_join (amountOf tables token
      currency)).finish fun amount => rfl) ?_
    simp [Handed.IsRead]

theorem endsIn_parseManualEntry (text currency : String) :
    EndsIn (parseManualEntryChecked tables text currency)
      (parseManualEntry tables.library text currency)
      (∀ piece ∈ handedByEntry tables text currency,
        piece.IsRead tables currency) := by
  unfold parseManualEntryChecked parseManualEntry handedByEntry
  simp only
  cases (splitWhitespace text).head? with
  | none => exact endsIn_nothing currency _
  | some first =>
  cases (splitWhitespace text).getLast? with
  | none => exact endsIn_nothing currency _
  | some last =>
      simp only
      split
      · exact endsIn_nothing currency _
      simp only [List.mem_append, or_imp, forall_and]
      refine (endsIn_manualFromAmount first _ currency).bind ?_
      split
      · rename_i asFirst
        simp only [asFirst, Bool.true_or, if_true]
        exact endsIn_nothing currency _
      rename_i notFirst
      simp only [Bool.not_eq_true] at notFirst
      simp only [notFirst, Bool.false_or]
      split
      · exact endsIn_nothing currency _
      · exact endsIn_manualFromAmount _ _ currency

theorem endsIn_parsePlain (trimmed folded currency : String) :
    EndsIn (parsePlainChecked tables trimmed folded currency)
      (parsePlain tables.library trimmed folded currency)
      (∀ piece ∈ handedByPlain tables trimmed folded currency,
        piece.IsRead tables currency) := by
  have whole (value : Intent) (isWhole : wholeMessages.contains folded = true) :
      EndsIn (.ok value) value
        (∀ piece ∈ handedByPlain tables trimmed folded currency,
          piece.IsRead tables currency) := by
    rw [handedByPlain, if_pos isWhole]
    exact endsIn_nothing currency value
  unfold parsePlainChecked parsePlain
  split
  · exact whole _ (by simp [*, wholeMessages])
  split
  · exact whole _ (by simp [*, wholeMessages])
  split
  · exact whole _ (by simp [*, wholeMessages])
  split
  · exact whole _ (by simp [*, wholeMessages])
  split
  · exact whole _ (by simp_all [wholeMessages])
  split
  · exact whole _ (by simp_all [wholeMessages])
  have notWhole : ¬ wholeMessages.contains folded = true := by
    simp_all [wholeMessages]
  rw [handedByPlain, if_neg notWhole]
  simp only [List.mem_append, or_imp, forall_and]
  refine (endsIn_parseEditOrRecat trimmed currency).bind ?_
  cases parseEditOrRecat tables.library trimmed currency with
  | some intent => exact endsIn_nothing currency intent
  | none =>
      simp only [Option.isSome_none, Bool.false_or]
      split
      · rename_i recent
        simp only [recent, Bool.true_or, if_true]
        exact endsIn_nothing currency _
      rename_i notRecent
      simp only [Bool.not_eq_true] at notRecent
      simp only [notRecent, Bool.false_or]
      split
      · exact endsIn_nothing currency _
      · exact (endsIn_parseManualEntry trimmed currency).finish
          fun entry => rfl

/-- `parse_intent` ends where every text that it hands on is read. -/
theorem endsIn_parseIntent (within : DecomposesWithinWords tables)
    (text currency : String) :
    EndsIn (parseIntentChecked tables text currency)
      (parseIntent tables.library text currency)
      (∀ piece ∈ handed tables text currency,
        piece.IsRead tables currency) := by
  unfold parseIntentChecked parseIntent handed
  simp only [library_fold]
  split
  · rename_i empty
    simp only [empty, Bool.true_or, if_true]
    exact endsIn_nothing currency _
  rename_i nonempty
  split
  · rename_i slash
    simp only [slash, Bool.or_true, if_true]
    cases slashCommand _ with
    | some kind => exact endsIn_nothing currency _
    | none =>
        simp only [parseParameterizedSlashChecked_eq within, ok_bind]
        exact endsIn_nothing currency _
  · rename_i plain
    simp only [Bool.not_eq_true] at nonempty plain
    simp only [nonempty, plain, Bool.or_self, Bool.false_eq_true, if_false]
    exact endsIn_parsePlain _ _ currency

end Handing

end Conversation

end ZaloBot
