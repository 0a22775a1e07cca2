import ZaloBot.AmountRecursion

/-!
# The currencies of a compound amount

What follows a multiplier is read by the whole parser again, which looks for a
currency symbol of its own, and the currency it finds is dropped.  The parts of
an accepted amount are listed with the currencies they were read in.
-/

namespace ZaloBot

namespace Conversation

open RustText

variable {endsWord : SigmaRule}

section Steps

variable {lower body : List Char} {currency read : String} {minor : Int}
  {parseTail : List Char → String → Checked AmountResult}

/-- A multiplier in a text, between a number and something else. -/
structure Around (lower word before after : List Char) : Prop where
  split : ∃ front back, lower = front ++ word ++ back ∧
    before = trimChars front ∧ after = trimChars back
  afterNonempty : after ≠ []
  beforeNonempty : before ≠ []
  number : ∀ char ∈ before, IsKept char

/-- How a multiplier leads to an amount: as the decimal point of digits, or
between a number and what the whole parser accepts. -/
inductive Joins (endsWord : SigmaRule)
    (parseTail : List Char → String → Checked AmountResult)
    (word before after : List Char) (currency : String) :
    Int → String → Prop where
  | fraction {minor : Int} {read : String}
      (digits : after.all isDigit = true)
      (accepted : parseSingleAmount endsWord (before ++ '.' :: after ++ word)
        currency = .ok (.ok (minor, read))) :
      Joins endsWord parseTail word before after currency minor read
  | sum {first second total : Int} {firstRead secondRead : String}
      (accepted : parseSingleAmount endsWord (before ++ word) currency =
        .ok (.ok (first, firstRead)))
      (tail : parseTail after currency = .ok (.ok (second, secondRead)))
      (adds : asI64 (first + second) = .ok total) :
      Joins endsWord parseTail word before after currency total currency

/-- What one turn of the loop accepts. -/
theorem tryMultiplier_eq_some {word : List Char}
    (accepted : tryMultiplier endsWord parseTail lower currency word =
      .ok (some (.ok (minor, read)))) :
    ∃ before after, Around lower word before after ∧
      Joins endsWord parseTail word before after currency minor read := by
  unfold tryMultiplier at accepted
  split at accepted
  · cases accepted
  · cases accepted
  rename_i offset _ found
  obtain ⟨front, back, isLower, _, sliceFront, sliceBack⟩ := find_slices found
  simp only [sliceFront, sliceBack, ok_bind] at accepted
  split at accepted
  · cases accepted
  rename_i shaped
  simp only [Bool.or_eq_true, Bool.not_eq_true', not_or,
    Bool.not_eq_false, List.isEmpty_iff] at shaped
  obtain ⟨⟨beforeNonempty, afterNonempty⟩, number⟩ := shaped
  refine ⟨trimChars front, trimChars back, ⟨⟨front, back, isLower, rfl, rfl⟩,
    afterNonempty, beforeNonempty, ?_⟩, ?_⟩
  · intro char member
    simpa [IsKept] using List.all_eq_true.mp number char member
  split at accepted
  · rename_i digits
    cases single : parseSingleAmount endsWord
        (trimChars front ++ '.' :: trimChars back ++ word) currency with
    | error panic =>
        rw [single, error_bind] at accepted
        cases accepted
    | ok result =>
        rw [single, ok_bind] at accepted
        cases accepted
        exact .fraction digits single
  · cases single : parseSingleAmount endsWord (trimChars front ++ word)
        currency with
    | error panic => simp [single, error_bind] at accepted
    | ok result =>
        rcases result with error | ⟨first, firstRead⟩
        · simp [single, ok_bind] at accepted
        cases tail : parseTail (trimChars back) currency with
        | error panic => simp [single, tail, ok_bind, error_bind] at accepted
        | ok result =>
            rcases result with error | ⟨second, secondRead⟩
            · simp [single, tail, ok_bind] at accepted
            cases adds : asI64 (first + second) with
            | error panic => simp [single, tail, adds, ok_bind] at accepted
            | ok total =>
                simp only [single, tail, adds, ok_bind, Except.ok.injEq,
                  Option.some.injEq, Prod.mk.injEq] at accepted
                obtain ⟨rfl, rfl⟩ := accepted
                exact .sum single tail adds

/-- What the loop over the multipliers accepts. -/
theorem tryMultipliers_eq_some {table : List (List Char × Int)}
    (accepted : tryMultipliers endsWord parseTail lower currency table =
      .ok (some (.ok (minor, read)))) :
    ∃ earlier entry later before after, table = earlier ++ entry :: later ∧
      tryMultipliers endsWord parseTail lower currency earlier = .ok none ∧
      Around lower entry.1 before after ∧
      Joins endsWord parseTail entry.1 before after currency minor read := by
  induction table with
  | nil => nomatch accepted
  | cons entry others ih =>
      rw [tryMultipliers] at accepted
      cases turn : tryMultiplier endsWord parseTail lower currency entry.1 with
      | error panic => simp [turn, error_bind] at accepted
      | ok result =>
          rw [turn, ok_bind] at accepted
          cases result with
          | some result =>
              cases accepted
              obtain ⟨before, after, around, joins⟩ :=
                tryMultiplier_eq_some turn
              exact ⟨[], entry, others, before, after, rfl, rfl, around, joins⟩
          | none =>
              obtain ⟨earlier, found, later, before, after, rfl, none, around,
                joins⟩ := ih accepted
              refine ⟨entry :: earlier, found, later, before, after, rfl, ?_,
                around, joins⟩
              rw [tryMultipliers, turn, ok_bind, none]

end Steps

section Parts

/-- The parts of an accepted amount with the currencies they are read in. -/
inductive Reads (endsWord : SigmaRule) :
    List Char → String → Int → String → List (Int × String) → Prop where
  | single {raw body : List Char} {hint currency read : String} {minor : Int}
      (detected : detectCurrency (trimChars raw) hint = (currency, body))
      (simple : tryParseCompound endsWord (parseAmount endsWord) body
        currency = .ok none)
      (accepted : parseSingleAmount endsWord body currency =
        .ok (.ok (minor, read))) :
      Reads endsWord raw hint minor read [(minor, currency)]
  | fraction {raw body word before after : List Char}
      {hint currency read : String} {minor factor : Int}
      {earlier later : List (List Char × Int)}
      (detected : detectCurrency (trimChars raw) hint = (currency, body))
      (table : multipliers = earlier ++ (word, factor) :: later)
      (first : tryMultipliers endsWord (parseAmount endsWord)
        (toLowercase endsWord body) currency earlier = .ok none)
      (around : Around (toLowercase endsWord body) word before after)
      (digits : after.all isDigit = true)
      (accepted : parseSingleAmount endsWord (before ++ '.' :: after ++ word)
        currency = .ok (.ok (minor, read))) :
      Reads endsWord raw hint minor read [(minor, currency)]
  | sum {raw body word before after : List Char}
      {hint currency firstRead secondRead : String}
      {first second factor : Int} {parts : List (Int × String)}
      {earlier later : List (List Char × Int)}
      (detected : detectCurrency (trimChars raw) hint = (currency, body))
      (table : multipliers = earlier ++ (word, factor) :: later)
      (earliest : tryMultipliers endsWord (parseAmount endsWord)
        (toLowercase endsWord body) currency earlier = .ok none)
      (around : Around (toLowercase endsWord body) word before after)
      (accepted : parseSingleAmount endsWord (before ++ word) currency =
        .ok (.ok (first, firstRead)))
      (tail : Reads endsWord after currency second secondRead parts) :
      Reads endsWord raw hint (first + second) currency
        ((first, currency) :: parts)

variable {raw : List Char} {hint read : String} {minor : Int}
  {parts : List (Int × String)}

/-- What `parse_amount` accepts, it accepts after its checks. -/
theorem parseAmount_eq_ok {result : Int × String}
    (accepted : parseAmount endsWord raw hint = .ok (.ok result)) :
    tryParseCompound endsWord (parseAmount endsWord)
        (detectCurrency (trimChars raw) hint).2
        (detectCurrency (trimChars raw) hint).1 = .ok (some (.ok result)) ∨
      tryParseCompound endsWord (parseAmount endsWord)
          (detectCurrency (trimChars raw) hint).2
          (detectCurrency (trimChars raw) hint).1 = .ok none ∧
        parseSingleAmount endsWord (detectCurrency (trimChars raw) hint).2
          (detectCurrency (trimChars raw) hint).1 = .ok (.ok result) := by
  rw [parseAmount_eq, parseAmountWith] at accepted
  simp only at accepted
  split at accepted
  · cases accepted
  split at accepted
  · cases accepted
  cases compound : tryParseCompound endsWord (parseAmount endsWord)
      (detectCurrency (trimChars raw) hint).2
      (detectCurrency (trimChars raw) hint).1 with
  | error panic => simp [compound, error_bind] at accepted
  | ok found =>
      rw [compound, ok_bind] at accepted
      cases found with
      | none => exact .inr ⟨rfl, accepted⟩
      | some result =>
          cases accepted
          exact .inl rfl

/-- Every accepted amount has parts, whose sum it is. -/
theorem exists_reads
    (accepted : parseAmount endsWord raw hint = .ok (.ok (minor, read))) :
    ∃ parts, Reads endsWord raw hint minor read parts ∧
      (parts.map (·.1)).sum = minor := by
  induction size : searchedLength endsWord raw hint using
      Nat.strong_induction_on generalizing raw hint minor read with
  | _ size ih =>
      have detected : detectCurrency (trimChars raw) hint =
          ((detectCurrency (trimChars raw) hint).1,
            (detectCurrency (trimChars raw) hint).2) :=
        rfl
      rcases parseAmount_eq_ok accepted with compound | ⟨simple, single⟩
      · obtain ⟨earlier, ⟨word, factor⟩, later, before, after, table, first,
          around, joins⟩ := tryMultipliers_eq_some compound
        have member : (word, factor) ∈ multipliers := by simp [table]
        cases joins with
        | fraction digits accepted =>
            exact ⟨_, .fraction detected table first around digits accepted,
              by simp⟩
        | @sum firstValue second _ _ secondRead single tail adds =>
            obtain ⟨front, back, isLower, isBefore, isAfter⟩ := around.split
            have isTail : IsTail (toLowercase endsWord
                (detectCurrency (trimChars raw) hint).2) after := by
              rw [isLower, isAfter]
              exact isTail_of_split (multiplier_nonempty _ member).1
            obtain ⟨parts, reads, total⟩ := ih _
              (size ▸ searchedLength_lt isTail _) tail rfl
            have isSum : firstValue + second = minor := asI64_eq_ok adds
            subst isSum
            exact ⟨_, .sum detected table first around single reads,
              by simp [total]⟩
      · exact ⟨_, .single detected simple single, by simp⟩

end Parts

section Marks

variable {text lowered body : List Char} {currency hint read : String}
  {minor : Int} {mark : Char} {parts : List (Int × String)}

/-- A character that numbers and multipliers have not, in either case. -/
def isStranger (mark : Char) : Bool :=
  !isWhitespace mark && !isDigit mark && !isSeparator mark &&
    multipliers.all fun entry => entry.1.all fun char =>
      mark != char && mark.toNat ∉ preimages lowercaseRuns char.toNat

theorem stranger_facts (stranger : isStranger mark = true) :
    isWhitespace mark = false ∧ isDigit mark = false ∧
      isSeparator mark = false ∧ mark ≠ ' ' ∧
      ∀ entry ∈ multipliers, ∀ char ∈ entry.1,
        mark ≠ char ∧ mark.toNat ∉ preimages lowercaseRuns char.toNat := by
  simp only [isStranger, Bool.and_eq_true, Bool.not_eq_true',
    List.all_eq_true, bne_iff_ne, decide_eq_true_eq] at stranger
  obtain ⟨⟨⟨solid, notDigit⟩, notSeparator⟩, notLetter⟩ := stranger
  refine ⟨solid, notDigit, notSeparator, ?_, notLetter⟩
  rintro rfl
  revert solid
  decide

/-- The characters of the currency symbols, in both cases. -/
def symbolMarks : List Char := ['A', 'a', '₫', '$']

theorem stranger_of_symbol : ∀ mark ∈ symbolMarks,
    isStranger mark = true := by
  decide

theorem not_mem_of_keepDigits {digitsOnly : List Char}
    (stranger : isStranger mark = true)
    (keeps : keepDigits text = .ok digitsOnly) : mark ∉ text := by
  obtain ⟨-, notDigit, notSeparator, notSpace, -⟩ := stranger_facts stranger
  induction text generalizing digitsOnly with
  | nil => simp
  | cons first rest ih =>
      rw [keepDigits] at keeps
      rw [List.mem_cons, not_or]
      split at keeps
      · rename_i kept
        cases inRest : keepDigits rest with
        | error error => simp [inRest, Except.map] at keeps
        | ok inner =>
            refine ⟨?_, ih inRest⟩
            rintro rfl
            simp [notDigit, notSeparator] at kept
      · split at keeps
        · rename_i space
          refine ⟨?_, ih keeps⟩
          rintro rfl
          exact notSpace space
        · cases keeps

theorem exists_of_forall₂ {relation : Char → Char → Prop}
    {letters images : List Char} {letter : Char}
    (matched : List.Forall₂ relation letters images)
    (member : letter ∈ letters) :
    ∃ image ∈ images, relation letter image := by
  induction matched with
  | nil => simp at member
  | cons head _ ih =>
      rcases List.mem_cons.mp member with rfl | inRest
      · exact ⟨_, List.mem_cons_self .., head⟩
      · obtain ⟨image, inImages, related⟩ := ih inRest
        exact ⟨image, List.mem_cons_of_mem _ inImages, related⟩

/-- No stranger is in a text that a single amount is read from. -/
theorem not_mem_of_single {result : Int × String}
    (stranger : isStranger mark = true)
    (accepted : parseSingleAmount endsWord body currency = .ok (.ok result)) :
    mark ∉ body := by
  obtain ⟨solid, -, -, -, notLetter⟩ := stranger_facts stranger
  by_cases kelvin : (trimChars body).getLast? = some kelvinSign
  · rw [parseSingleAmount_kelvin kelvin] at accepted
    nomatch accepted
  rw [parseSingleAmount_eq kelvin] at accepted
  split at accepted
  · nomatch accepted
  rename_i digitsOnly keeps
  have absent := not_mem_of_keepDigits stranger keeps
  intro inBody
  have inText := mem_trimChars inBody solid
  unfold cutMultiplier at absent
  split at absent
  · exact absent inText
  · rename_i ending factor found
    have inTable := List.mem_of_find?_eq_some found
    have ends : ending.isSuffixOf (toLowercase endsWord (trimChars body)) =
        true := by
      simpa using List.find?_some found
    obtain ⟨front, back, isText, sameLength, _, matched⟩ :=
      multiplier_suffix inTable (List.isSuffixOf_iff_suffix.mp ends) kelvin
    simp only at sameLength matched
    rw [isText] at inText absent
    rcases List.mem_append.mp inText with inFront | inBack
    · apply absent
      rw [List.length_append, sameLength, Nat.add_sub_cancel,
        List.take_left]
      exact mem_trimChars inFront solid
    · obtain ⟨image, inWord, source⟩ := exists_of_forall₂ matched inBack
      have letter := notLetter (ending, factor) inTable image inWord
      exact source.elim letter.1 letter.2

/-- The marks that occur in a text occur in its lowercase. -/
theorem mem_toLowercase {image : Char}
    (writes : lowercaseChar mark = [image]) (notSigma : mark.toNat ≠ 931)
    (member : mark ∈ text) : image ∈ toLowercase endsWord text := by
  refine (lowered_toLowercase endsWord text).mem_of_already member ?_
  rintro piece (rfl | ⟨sigma, _⟩)
  · simp [writes]
  · exact absurd sigma notSigma

theorem mem_of_table {earlier later : List (List Char × Int)}
    {entry : List Char × Int}
    (table : multipliers = earlier ++ entry :: later) :
    entry ∈ multipliers := by
  rw [table]
  exact List.mem_append_right _ (List.mem_cons_self ..)

/-- A stranger in the lowercase text is behind the multiplier. -/
theorem mem_after {lower word before after : List Char}
    {factor : Int} (stranger : isStranger mark = true)
    (inTable : (word, factor) ∈ multipliers)
    (around : Around lower word before after) (inLower : mark ∈ lower) :
    mark ∈ after := by
  obtain ⟨solid, notDigit, notSeparator, -, notLetter⟩ :=
    stranger_facts stranger
  obtain ⟨front, back, rfl, rfl, rfl⟩ := around.split
  simp only [List.append_assoc, List.mem_append] at inLower
  rcases inLower with inFront | inWord | inBack
  · rcases around.number mark (mem_trimChars inFront solid) with
      digit | separates
    · simp [notDigit] at digit
    · simp [notSeparator] at separates
  · exact absurd rfl (notLetter (word, factor) inTable mark inWord).1
  · exact mem_trimChars inBack solid

end Marks

section Components

variable {raw text lower body : List Char} {currency hint read : String}
  {minor : Int} {mark : Char} {parts : List (Int × String)}

/-- The first part is read in the currency that is looked for at the ends of the
text. -/
theorem Reads.head (reads : Reads endsWord raw hint minor read parts) :
    ∃ value rest, parts =
      (value, (detectCurrency (trimChars raw) hint).1) :: rest := by
  cases reads with
  | single detected | fraction detected | sum detected =>
      exact ⟨_, _, by rw [detected]⟩

/-- Behind a symbol, or in front of it, is the rest of a text. -/
theorem mem_body_or_symbol (solid : isWhitespace mark = false)
    (member : mark ∈ text) :
    mark ∈ (detectCurrency text hint).2 ∨
      ∃ entry ∈ currencySymbols, mark ∈ entry.1 ∧
        (detectCurrency text hint).1 = entry.2 ∧ entry.1 <:+: text := by
  rcases detectCurrency_cases text hint with
    ⟨entry, inTable, stripped⟩ | ⟨_, same⟩
  · generalize detectCurrency text hint = detected at stripped ⊢
    obtain ⟨found, rest⟩ := detected
    obtain ⟨isCurrency, rest, isBody, isText⟩ := stripSymbol_eq_some stripped
    have inside : entry.1 <:+: text := by
      rcases isText with rfl | rfl
      · exact (List.prefix_append _ _).isInfix
      · exact (List.suffix_append _ _).isInfix
    have cases : mark ∈ entry.1 ∨ mark ∈ rest := by
      rcases isText with rfl | rfl
      · exact List.mem_append.mp member
      · exact (List.mem_append.mp member).symm
    rcases cases with inSymbol | inRest
    · exact .inr ⟨entry, inTable, inSymbol, isCurrency, inside⟩
    · exact .inl (isBody ▸ mem_trimChars inRest solid)
  · exact .inl (by rw [same]; exact member)

/-- A stranger that is no symbol is in no accepted amount, in either case. -/
theorem Reads.no_stranger {image : Char}
    (strangers : isStranger mark = true ∧ isStranger image = true)
    (writes : lowercaseChar mark = [image] ∧ lowercaseChar image = [image])
    (notSigma : mark.toNat ≠ 931 ∧ image.toNat ≠ 931)
    (noSymbol : ∀ entry ∈ currencySymbols, image ∉ entry.1)
    (reads : Reads endsWord raw hint minor read parts) :
    image ∉ (detectCurrency (trimChars raw) hint).2 ∧
      mark ∉ (detectCurrency (trimChars raw) hint).2 := by
  have small (text : List Char) (absent : image ∉ toLowercase endsWord text) :
      image ∉ text ∧ mark ∉ text :=
    ⟨fun member => absent (mem_toLowercase writes.2 notSigma.2 member),
      fun member => absent (mem_toLowercase writes.1 notSigma.1 member)⟩
  have facts := stranger_facts strangers.2
  induction reads with
  | single detected simple accepted =>
      rw [detected]
      exact ⟨not_mem_of_single strangers.2 accepted,
        not_mem_of_single strangers.1 accepted⟩
  | fraction detected table first around digits accepted =>
      rw [detected]
      refine small _ fun inLower => ?_
      have inAfter := mem_after strangers.2 (mem_of_table table) around
        inLower
      have digit := List.all_eq_true.mp digits image inAfter
      simp [facts.2.1] at digit
  | sum detected table earliest around accepted tail ih =>
      rw [detected]
      refine small _ fun inLower => ?_
      have inAfter := mem_after strangers.2 (mem_of_table table) around
        inLower
      rcases mem_body_or_symbol facts.1 (mem_trimChars inAfter facts.1) with
        inBody | ⟨entry, inTable, inSymbol, _⟩
      · exact ih.1 inBody
      · exact noSymbol entry inTable inSymbol

/-- The symbols of one character, with their currencies. -/
def singleSymbols : List (Char × String) := [('₫', "VND"), ('$', "USD")]

theorem singleSymbol_facts : ∀ entry ∈ singleSymbols,
    entry.1 ∈ symbolMarks ∧ lowercaseChar entry.1 = [entry.1] ∧
      entry.1.toNat ≠ 931 ∧
      (∀ other ∈ currencySymbols, entry.1 ∈ other.1 →
        other.2 = entry.2 ∨ 'A' ∈ other.1) ∧
      ∀ other ∈ currencySymbols, other.2 = entry.2 →
        other.1 = [entry.1] := by
  decide

theorem upper_not_in_lowercase (text : List Char) :
    'A' ∉ toLowercase endsWord text :=
  (lowered_toLowercase endsWord text).absent (by decide) (by decide)
    (by decide) (by decide)

theorem after_inside {word before after : List Char}
    (around : Around lower word before after) : after <:+: lower := by
  obtain ⟨front, back, rfl, _, rfl⟩ := around.split
  exact (trimChars_inside back).trans (List.suffix_append _ _).isInfix

/-- A symbol inside an accepted amount is read with one of its parts. -/
theorem Reads.part_of_symbol
    (reads : Reads endsWord raw hint minor read parts)
    {symbol : String} (member : (mark, symbol) ∈ singleSymbols)
    (inBody : mark ∈ (detectCurrency (trimChars raw) hint).2) :
    ∃ part ∈ parts, part.2 = symbol := by
  obtain ⟨isMark, already, notSigma, symbols, -⟩ :=
    singleSymbol_facts (mark, symbol) member
  have stranger := stranger_of_symbol mark isMark
  have solid := (stranger_facts stranger).1
  induction reads with
  | single detected simple accepted =>
      rw [detected] at inBody
      exact absurd inBody (not_mem_of_single stranger accepted)
  | fraction detected table first around digits accepted =>
      rw [detected] at inBody
      have inAfter := mem_after stranger (mem_of_table table) around
        (mem_toLowercase already notSigma inBody)
      have digit := List.all_eq_true.mp digits mark inAfter
      simp [(stranger_facts stranger).2.1] at digit
  | sum detected table earliest around accepted tail ih =>
      rw [detected] at inBody
      have inAfter := mem_after stranger (mem_of_table table) around
        (mem_toLowercase already notSigma inBody)
      rcases mem_body_or_symbol solid (mem_trimChars inAfter solid) with
        inTail | ⟨entry, inTable, inSymbol, isCurrency, inside⟩
      · obtain ⟨part, inParts, isSymbol⟩ := ih inTail
        exact ⟨part, List.mem_cons_of_mem _ inParts, isSymbol⟩
      · rcases symbols entry inTable inSymbol with same | letter
        · obtain ⟨value, rest, rfl⟩ := tail.head
          exact ⟨_, List.mem_cons_of_mem _ (List.mem_cons_self ..),
            isCurrency.trans same⟩
        · have inLower : 'A' ∈ _ := (inside.trans ((trimChars_inside _).trans
            (after_inside around))).subset letter
          exact absurd inLower (upper_not_in_lowercase _)

/-- Every symbol left in a text after that of its currency was taken from one of
its ends is a symbol of this currency. -/
def SymbolsAgree (currency : String) (body : List Char) : Prop :=
  ∀ entry ∈ singleSymbols, entry.1 ∈ body → currency = entry.2

theorem uppercaseChar_ne_nil (char : Char) : uppercaseChar char ≠ [] := by
  have nonempty : ∀ entry ∈ uppercaseSequences, entry.2 ≠ [] := by decide
  unfold uppercaseChar
  split
  · rename_i codes found
    obtain ⟨before, after, isTable, _⟩ := List.lookup_eq_some_iff.mp found
    have present := nonempty (char.toNat, codes) (by simp [isTable])
    simpa using present
  · simp

/-- The currency of a text is in uppercase. -/
theorem detectCurrency_upper (text : List Char) (hint : String) :
    upperCurrency (detectCurrency text hint).1 =
        (detectCurrency text hint).1 ∧
      (detectCurrency text hint).1 ≠ "" := by
  have table : ∀ entry ∈ currencySymbols,
      upperCurrency entry.2 = entry.2 ∧ entry.2 ≠ "" := by
    decide
  rcases detectCurrency_cases text hint with
    ⟨entry, inTable, stripped⟩ | ⟨_, same⟩
  · generalize detectCurrency text hint = detected at stripped ⊢
    obtain ⟨currency, body⟩ := detected
    obtain ⟨rfl, _⟩ := stripSymbol_eq_some stripped
    exact table entry inTable
  · rw [same]
    unfold hintCurrency
    split
    · have upper : upperCurrency "VND" = "VND" := by decide
      have nonempty : "VND" ≠ "" := by decide
      exact ⟨upper, nonempty⟩
    · rename_i nonempty
      refine ⟨upperCurrency_upperCurrency hint, fun empty => nonempty ?_⟩
      have chars : toUppercase hint.toList = [] := by
        simpa [upperCurrency] using congrArg String.toList empty
      cases isHint : hint.toList with
      | nil => simpa using isHint
      | cons first rest =>
          rw [isHint, toUppercase, List.flatMap_cons,
            List.append_eq_nil_iff] at chars
          exact absurd chars.1 (uppercaseChar_ne_nil first)

theorem IsReadAs.eq {currency : String}
    (readAs : IsReadAs currency read)
    (upper : upperCurrency currency = currency) : read = currency := by
  rcases readAs with rfl | rfl
  · rfl
  · exact upper

/-- A single amount is returned in the currency that it is read in. -/
theorem parseSingleAmount_currency {currency : String}
    (accepted : parseSingleAmount endsWord body currency =
      .ok (.ok (minor, read))) : IsReadAs currency read := by
  by_cases kelvin : (trimChars body).getLast? = some kelvinSign
  · rw [parseSingleAmount_kelvin kelvin] at accepted
    nomatch accepted
  · obtain ⟨result, reads, exact⟩ :=
      parseSingleAmount_exact endsWord currency kelvin
    rw [reads] at accepted
    exact (exact minor read (Except.ok.inj accepted)).2

/-- A symbol in the lowercase text is one in the text. -/
theorem mem_of_toLowercase {symbol : String}
    (member : (mark, symbol) ∈ singleSymbols)
    (inLower : mark ∈ toLowercase endsWord text) : mark ∈ text := by
  have noPreimage : ∀ entry ∈ singleSymbols,
      preimages lowercaseRuns entry.1.toNat = [] ∧
        isPlainImage entry.1 = true ∧ entry.1.toNat ≠ 105 := by
    decide
  obtain ⟨none, plain, notDotted⟩ := noPreimage (mark, symbol) member
  obtain ⟨char, inText, source⟩ := (lowered_toLowercase endsWord text).source
    inLower plain notDotted
  rcases eq_or_mem_preimages source with same | preimage
  · rw [← Char.ofNat_toNat mark, ← same, Char.ofNat_toNat]
    exact inText
  · rw [none] at preimage
    nomatch preimage

theorem hintCurrency_upper {currency : String}
    (upper : upperCurrency currency = currency) (nonempty : currency ≠ "") :
    hintCurrency currency = currency := by
  rw [hintCurrency, if_neg (by simpa using nonempty), upper]

/-- What follows a multiplier is read in the currency of the text, if the
symbols left in the text agree with it. -/
theorem tail_currency {word before after : List Char}
    {currency : String} (upper : upperCurrency currency = currency)
    (nonempty : currency ≠ "") (agree : SymbolsAgree currency body)
    (around : Around (toLowercase endsWord body) word before after) :
    (detectCurrency (trimChars after) currency).1 = currency ∧
      SymbolsAgree currency (detectCurrency (trimChars after) currency).2 := by
  have symbols : ∀ entry ∈ currencySymbols, 'A' ∈ entry.1 ∨
      ∃ single ∈ singleSymbols, single.1 ∈ entry.1 ∧ single.2 = entry.2 := by
    decide
  have inside : trimChars after <:+: toLowercase endsWord body :=
    (trimChars_inside after).trans (after_inside around)
  constructor
  · rcases detectCurrency_cases (trimChars after) currency with
      ⟨entry, inTable, stripped⟩ | ⟨_, same⟩
    · generalize detectCurrency (trimChars after) currency = detected
        at stripped ⊢
      obtain ⟨found, rest⟩ := detected
      obtain ⟨rfl, rest, _, isText⟩ := stripSymbol_eq_some stripped
      have symbolInside : entry.1 <:+: trimChars after := by
        rcases isText with isText | isText
        · rw [isText]
          exact (List.prefix_append _ _).isInfix
        · rw [isText]
          exact (List.suffix_append _ _).isInfix
      rcases symbols entry inTable with letter | ⟨single, member, inSymbol,
        sameCurrency⟩
      · exact absurd ((symbolInside.trans inside).subset letter)
          (upper_not_in_lowercase body)
      · have inBody := mem_of_toLowercase member
          ((symbolInside.trans inside).subset inSymbol)
        exact (agree single member inBody ▸ sameCurrency.symm :)
    · rw [same]
      exact hintCurrency_upper upper nonempty
  · intro entry member inTail
    have inAfter := (detectCurrency_inside (trimChars after) currency).subset
      inTail
    exact agree entry member
      (mem_of_toLowercase member (inside.subset inAfter))

/-- Where all symbols agree, every part is read in the currency of the whole. -/
theorem Reads.same_currency
    (reads : Reads endsWord raw hint minor read parts)
    (agree : SymbolsAgree (detectCurrency (trimChars raw) hint).1
      (detectCurrency (trimChars raw) hint).2) :
    read = (detectCurrency (trimChars raw) hint).1 ∧
      ∀ part ∈ parts, part.2 = (detectCurrency (trimChars raw) hint).1 := by
  induction reads with
  | @single raw _ hint _ _ _ detected simple accepted =>
      have upper := (detectCurrency_upper (trimChars raw) hint).1
      rw [detected] at upper ⊢
      exact ⟨(parseSingleAmount_currency accepted).eq upper, by simp⟩
  | @fraction raw _ _ _ _ hint _ _ _ _ _ _ detected table first around digits
      accepted =>
      have upper := (detectCurrency_upper (trimChars raw) hint).1
      rw [detected] at upper ⊢
      exact ⟨(parseSingleAmount_currency accepted).eq upper, by simp⟩
  | @sum raw _ _ _ _ hint _ _ _ _ _ _ _ _ _ detected table earliest around
      accepted tail ih =>
      obtain ⟨upper, nonempty⟩ := detectCurrency_upper (trimChars raw) hint
      rw [detected] at upper nonempty agree ⊢
      obtain ⟨sameTail, agreeTail⟩ := tail_currency upper nonempty agree around
      rw [sameTail] at ih
      refine ⟨rfl, fun part member => ?_⟩
      rcases List.mem_cons.mp member with rfl | inRest
      · rfl
      · exact (ih agreeTail).2 part inRest

end Components

section Symbols

variable {raw text : List Char} {hint read symbol : String} {minor : Int}
  {previous : Char} {parts : List (Int × String)}

/-- The currencies of the symbols in a text behind a character. -/
def symbolsAfter : Char → List Char → List String
  | _, [] => []
  | previous, char :: rest =>
      (if char = '₫' then ["VND"]
        else if char = '$' then
          [if previous = 'A' then "AUD" else "USD"]
        else []) ++ symbolsAfter char rest

/-- The currencies of the symbols in a text. -/
def symbolsIn (text : List Char) : List String :=
  symbolsAfter ' ' text

theorem symbolsAfter_append (front back : List Char) :
    symbolsAfter previous (front ++ back) =
      symbolsAfter previous front ++
        symbolsAfter (front.getLastD previous) back := by
  induction front generalizing previous with
  | nil => rfl
  | cons first rest ih =>
      rw [List.cons_append, symbolsAfter, symbolsAfter, ih,
        List.getLastD_cons, List.append_assoc]

/-- Only a capital `A` before a text changes its symbols. -/
theorem symbolsAfter_eq (notA : previous ≠ 'A') (text : List Char) :
    symbolsAfter previous text = symbolsIn text := by
  cases text with
  | nil => rfl
  | cons char rest =>
      have space : ' ' ≠ 'A' := by decide
      simp [symbolsIn, symbolsAfter, notA]

theorem symbolsAfter_of_whitespace
    (blank : ∀ char ∈ text, isWhitespace char = true) :
    symbolsAfter previous text = [] := by
  induction text generalizing previous with
  | nil => rfl
  | cons char rest ih =>
      have first := blank char (by simp)
      have notDong : char ≠ '₫' := by
        rintro rfl
        exact absurd first (by decide)
      have notDollar : char ≠ '$' := by
        rintro rfl
        exact absurd first (by decide)
      rw [symbolsAfter, if_neg notDong, if_neg notDollar,
        ih fun other member => blank other (by simp [member])]
      rfl

/-- Trimming keeps the symbols. -/
theorem symbolsIn_trimChars (text : List Char) :
    symbolsIn (trimChars text) = symbolsIn text := by
  obtain ⟨front, back, isText, blankFront, blankBack⟩ := trimChars_split text
  have notA : front.getLastD ' ' ≠ 'A' := by
    intro isA
    have blank : isWhitespace (front.getLastD ' ') = true := by
      rcases front.eq_nil_or_concat with rfl | ⟨init, last, rfl⟩
      · decide
      · rw [List.concat_eq_append, List.getLastD_concat]
        exact blankFront last (by simp)
    rw [isA] at blank
    exact absurd blank (by decide)
  conv_rhs => rw [isText, symbolsIn, symbolsAfter_append, symbolsAfter_append]
  rw [symbolsAfter_of_whitespace blankFront,
    symbolsAfter_of_whitespace blankBack, symbolsAfter_eq notA]
  simp

/-- Without a capital `A` the symbols are those of one character. -/
theorem single_of_symbol (notA : 'A' ∉ text) (member : symbol ∈ symbolsIn text) :
    ∃ entry ∈ singleSymbols, entry.1 ∈ text ∧ symbol = entry.2 := by
  have found : ∀ previous ≠ 'A', symbol ∈ symbolsAfter previous text →
      ∃ entry ∈ singleSymbols, entry.1 ∈ text ∧ symbol = entry.2 := by
    clear member
    induction text with
    | nil => simp [symbolsAfter]
    | cons char rest ih =>
        rw [List.mem_cons, not_or] at notA
        intro previous behind member
        rw [symbolsAfter, List.mem_append] at member
        rcases member with here | later
        · split at here
          · rename_i dong
            exact ⟨('₫', "VND"), by decide, by simp [dong],
              List.mem_singleton.mp here⟩
          · split at here
            · rename_i dollar
              exact ⟨('$', "USD"), by decide, by simp [dollar],
                List.mem_singleton.mp here⟩
            · nomatch here
        · obtain ⟨entry, inTable, inRest, same⟩ :=
            ih notA.2 char (Ne.symm notA.1) later
          exact ⟨entry, inTable, List.mem_cons_of_mem _ inRest, same⟩
  exact found ' ' (by decide) member

/-- The symbols of an accepted text are those of its currency, if the symbols
left in it agree with this currency. -/
theorem symbolsIn_eq (notA : 'A' ∉ (detectCurrency (trimChars raw) hint).2)
    (agree : SymbolsAgree (detectCurrency (trimChars raw) hint).1
      (detectCurrency (trimChars raw) hint).2) :
    ∀ symbol ∈ symbolsIn raw,
      symbol = (detectCurrency (trimChars raw) hint).1 := by
  have left : ∀ symbol ∈ symbolsIn (detectCurrency (trimChars raw) hint).2,
      symbol = (detectCurrency (trimChars raw) hint).1 := by
    intro symbol member
    obtain ⟨entry, inTable, inBody, rfl⟩ := single_of_symbol notA member
    exact (agree entry inTable inBody).symm
  intro symbol member
  rw [← symbolsIn_trimChars raw] at member
  rcases detectCurrency_cases (trimChars raw) hint with
    ⟨entry, inTable, stripped⟩ | ⟨_, same⟩
  · generalize detectCurrency (trimChars raw) hint = detected
      at stripped left notA ⊢
    obtain ⟨currency, body⟩ := detected
    obtain ⟨rfl, rest, rfl, isText⟩ := stripSymbol_eq_some stripped
    simp only [symbolsIn_trimChars] at left
    have facts : ∀ entry ∈ currencySymbols,
        entry.1.getLastD ' ' ≠ 'A' ∧ symbolsIn entry.1 = [entry.2] := by
      decide
    obtain ⟨lastNotA, own⟩ := facts entry inTable
    rcases isText with isText | isText
    · rw [isText, symbolsIn, symbolsAfter_append, List.mem_append,
        symbolsAfter_eq lastNotA] at member
      rcases member with inSymbol | inRest
      · rw [← symbolsIn, own] at inSymbol
        exact List.mem_singleton.mp inSymbol
      · exact left symbol inRest
    · have restNotA : rest.getLastD ' ' ≠ 'A' := by
        intro isA
        apply notA
        refine mem_trimChars ?_ (by decide)
        rcases rest.eq_nil_or_concat with rfl | ⟨init, last, rfl⟩
        · exact absurd isA (by decide)
        · rw [List.concat_eq_append, List.getLastD_concat] at isA
          simp [isA]
      rw [isText, symbolsIn, symbolsAfter_append, List.mem_append,
        symbolsAfter_eq restNotA, own] at member
      rcases member with inRest | inSymbol
      · exact left symbol inRest
      · exact List.mem_singleton.mp inSymbol
  · rw [same] at left ⊢
    exact left symbol member

/-- An amount has one currency: that of every symbol in the text and of every
part of the amount. -/
def OneCurrency (endsWord : SigmaRule) (raw : List Char) (hint : String)
    (minor : Int) (read : String) : Prop :=
  (∀ symbol ∈ symbolsIn raw, symbol = read) ∧
    ∀ parts, Reads endsWord raw hint minor read parts →
      ∀ part ∈ parts, part.2 = read

/-- An accepted amount has one currency exactly if no symbol of another one is
left in the text. -/
theorem one_currency_iff
    (accepted : parseAmount endsWord raw hint = .ok (.ok (minor, read))) :
    OneCurrency endsWord raw hint minor read ↔
      SymbolsAgree (detectCurrency (trimChars raw) hint).1
        (detectCurrency (trimChars raw) hint).2 := by
  obtain ⟨parts, reads, _⟩ := exists_reads accepted
  constructor
  · intro ⟨_, same⟩ entry member inBody
    obtain ⟨part, inParts, isSymbol⟩ := reads.part_of_symbol member inBody
    obtain ⟨value, rest, rfl⟩ := reads.head
    have first := same _ reads _ (List.mem_cons_self ..)
    have other := same _ reads part inParts
    rw [← isSymbol, other]
    exact first
  · intro agree
    have whole := (reads.same_currency agree).1
    constructor
    · rw [whole]
      have noLetter : 'a' ∉ (detectCurrency (trimChars raw) hint).2 ∧
          'A' ∉ (detectCurrency (trimChars raw) hint).2 :=
        reads.no_stranger (by decide) (by decide) (by decide) (by decide)
      exact symbolsIn_eq noLetter.2 agree
    · intro parts reads
      rw [whole]
      exact (reads.same_currency agree).2

theorem one_currency_of_dong :
    OneCurrency (fun _ _ => false) ['1', 'k', '5', ' ', '₫'] "USD" 1500
        "VND" ↔
      SymbolsAgree (detectCurrency (trimChars ['1', 'k', '5', ' ', '₫'])
          "USD").1
        (detectCurrency (trimChars ['1', 'k', '5', ' ', '₫']) "USD").2 :=
  one_currency_iff (by decide)

/-- `1k$5` is read as 1000 dong and 500 cents together. -/
theorem one_currency_of_mixture :
    parseAmount (fun _ _ => false) ['1', 'k', '$', '5'] "VND" =
      .ok (.ok (1500, "VND")) ∧
    ¬ OneCurrency (fun _ _ => false) ['1', 'k', '$', '5'] "VND" 1500 "VND" := by
  refine ⟨by decide, fun one => ?_⟩
  have same := one.1 "USD" (by decide)
  revert same
  decide

end Symbols

end Conversation

end ZaloBot
