import Mathlib.Tactic.Linarith
import ZaloBot.AmountExactness

/-!
# Compound amounts

A token such as `1tr5` is rewritten to a decimal number and read again.  The
reader takes the rewritten point for a decimal point only if the digits behind
it are as many as the currency makes it expect, and for a grouping mark
otherwise.
-/

namespace ZaloBot

namespace Conversation

open RustText

variable {endsWord : SigmaRule}

section Characters

/-- The characters of digits, separators and multipliers. -/
def tokenCharacters : List Char :=
  ['0', '1', '2', '3', '4', '5', '6', '7', '8', '9', '.', ',', 't', 'r', 'i',
    'ệ', 'u', 'e', 'c', 'ủ', 'k']

/-- Such characters are already in lowercase, and they are none that the parser
looks for elsewhere. -/
theorem tokenCharacter_facts : ∀ char ∈ tokenCharacters,
    isLowercaseAlready char = true ∧ isWhitespace char = false ∧
      char ≠ '-' ∧ char ≠ 'A' ∧ char ≠ '₫' ∧ char ≠ '$' ∧
      char ≠ kelvinSign := by
  decide

theorem mem_tokenCharacters_of_digit {char : Char}
    (digit : isDigit char = true) : char ∈ tokenCharacters := by
  obtain ⟨low, high⟩ := isDigit_iff.mp digit
  have small : ∀ code : Fin 10,
      Char.ofNat (48 + code) ∈ tokenCharacters := by
    decide
  have member := small ⟨char.toNat - 48, by omega⟩
  simp only [show 48 + (char.toNat - 48) = char.toNat by omega,
    Char.ofNat_toNat] at member
  exact member

theorem isSeparator_of_digit {char : Char} (digit : isDigit char = true) :
    isSeparator char = false := by
  by_contra separates
  rw [Bool.not_eq_false] at separates
  simp only [isSeparator, Bool.or_eq_true, beq_iff_eq] at separates
  rcases separates with rfl | rfl <;> revert digit <;> decide

theorem multiplier_characters : ∀ entry ∈ multipliers, ∀ char ∈ entry.1,
    char ∈ tokenCharacters ∧ isDigit char = false ∧
      isSeparator char = false := by
  decide

theorem multiplier_nonempty : ∀ entry ∈ multipliers,
    entry.1 ≠ [] ∧ 1 < entry.2 := by
  decide

/-- Each multiplier has a character that no later one has. -/
theorem multipliers_ordered : multipliers.Pairwise fun earlier later =>
    ∃ char ∈ earlier.1, char ∉ later.1 := by
  decide

end Characters

theorem upperCurrency_upperCurrency (currency : String) :
    upperCurrency (upperCurrency currency) = upperCurrency currency := by
  simp [upperCurrency, toUppercase_toUppercase]

theorem currencyDecimalPlaces_upper (currency : String) :
    currencyDecimalPlaces (upperCurrency currency) =
      currencyDecimalPlaces currency := by
  simp [currencyDecimalPlaces, upperCurrency_upperCurrency]

theorem IsReadAs.places {currency read : String}
    (readAs : IsReadAs currency read) :
    currencyDecimalPlaces read = currencyDecimalPlaces currency := by
  rcases readAs with rfl | rfl
  · rfl
  · exact currencyDecimalPlaces_upper currency

section Tokens

variable {text : List Char} {hint currency : String}
  {parseTail : List Char → String → Checked AmountResult}

/-- The currency of a text without a symbol. -/
def hintCurrency (hint : String) : String :=
  if hint.isEmpty then "VND" else upperCurrency hint

theorem trimChars_of_token (token : ∀ char ∈ text, char ∈ tokenCharacters) :
    trimChars text = text :=
  trimChars_of_solid fun char member =>
    (tokenCharacter_facts char (token char member)).2.1

theorem toLowercase_of_token
    (token : ∀ char ∈ text, char ∈ tokenCharacters) :
    toLowercase endsWord text = text :=
  toLowercase_of_already fun char member =>
    (tokenCharacter_facts char (token char member)).1

/-- The characters of the currency symbols. -/
theorem symbol_characters : ∀ entry ∈ currencySymbols,
    ∃ char ∈ entry.1, char ∈ ['₫', '$'] := by
  decide

theorem detectCurrency_of_absent (noDong : '₫' ∉ text) (noDollar : '$' ∉ text) :
    detectCurrency text hint = (hintCurrency hint, text) := by
  have absent : ∀ entry ∈ currencySymbols, stripSymbol text entry = none := by
    intro entry member
    obtain ⟨char, inSymbol, isMark⟩ := symbol_characters entry member
    have notInside : ¬ entry.1 <:+: text := by
      intro inside
      have found : char ∈ text := inside.subset inSymbol
      simp only [List.mem_cons, List.not_mem_nil, or_false] at isMark
      rcases isMark with rfl | rfl
      · exact noDong found
      · exact noDollar found
    rw [stripSymbol, if_neg, if_neg]
    · exact fun ends =>
        notInside (List.isSuffixOf_iff_suffix.mp ends).isInfix
    · exact fun leads =>
        notInside (List.isPrefixOf_iff_prefix.mp leads).isInfix
  rw [detectCurrency, hintCurrency, List.findSome?_eq_none_iff.mpr absent]
  rfl

/-- What `parse_amount` does with a token of digits, separators and
multipliers. -/
theorem parseAmountWith_of_token (nonempty : text ≠ [])
    (token : ∀ char ∈ text, char ∈ tokenCharacters) :
    parseAmountWith endsWord parseTail text hint = (do
      match ← tryMultipliers endsWord parseTail text (hintCurrency hint)
          multipliers with
      | some result => .ok result
      | none => parseSingleAmount endsWord text (hintCurrency hint)) := by
  have without (char : Char) (special : char ∉ tokenCharacters) :
      char ∉ text :=
    fun member => special (token char member)
  rw [parseAmountWith, trimChars_of_token token,
    if_neg (by simpa using nonempty), if_neg (without '-' (by decide)),
    detectCurrency_of_absent (without '₫' (by decide))
      (without '$' (by decide))]
  change (do
      match ← tryMultipliers endsWord parseTail (toLowercase endsWord text)
          (hintCurrency hint) multipliers with
      | some result => .ok result
      | none => parseSingleAmount endsWord text (hintCurrency hint)) = _
  rw [toLowercase_of_token token]

/-- Multipliers that do not occur are passed over. -/
theorem tryMultipliers_skip {front : List (List Char × Int)}
    (rest : List (List Char × Int))
    (absent : ∀ entry ∈ front, find entry.1 text = none) :
    tryMultipliers endsWord parseTail text currency (front ++ rest) =
      tryMultipliers endsWord parseTail text currency rest := by
  induction front with
  | nil => rfl
  | cons entry others ih =>
      rw [List.cons_append, tryMultipliers, tryMultiplier,
        absent entry (by simp)]
      exact ih fun other member => absent other (by simp [member])

end Tokens

section Compounds

variable {whole fraction : List Char} {entry : List Char × Int}
  {currency hint : String}

/-- A multiplier between digits, and the multipliers before it, which do not
occur there. -/
theorem multiplier_position (member : entry ∈ multipliers) :
    ∃ earlier later, multipliers = earlier ++ entry :: later ∧
      ∀ other ∈ earlier, ∃ char ∈ other.1, char ∉ entry.1 ∧
        isDigit char = false ∧ isSeparator char = false := by
  obtain ⟨earlier, later, isTable⟩ := List.append_of_mem member
  refine ⟨earlier, later, isTable, fun other inEarlier => ?_⟩
  have ordered := multipliers_ordered
  rw [isTable, List.pairwise_append] at ordered
  obtain ⟨char, inWord, absent⟩ :=
    ordered.2.2 other inEarlier entry (by simp)
  exact ⟨char, inWord, absent,
    (multiplier_characters other (by simp [isTable, inEarlier]) char
      inWord).2⟩

/-- The number before a multiplier at the end. -/
theorem cutMultiplier_of_token (member : entry ∈ multipliers)
    (kept : ∀ char ∈ whole, IsKept char)
    (token : ∀ char ∈ whole, char ∈ tokenCharacters) :
    cutMultiplier endsWord (whole ++ entry.1) = (entry.2, whole) := by
  obtain ⟨earlier, later, isTable, absent⟩ := multiplier_position member
  have lower : toLowercase endsWord (whole ++ entry.1) = whole ++ entry.1 := by
    refine toLowercase_of_token fun char inText => ?_
    rcases List.mem_append.mp inText with inWhole | inWord
    · exact token char inWhole
    · exact (multiplier_characters entry member char inWord).1
  have found : multipliers.find? (·.1.isSuffixOf (whole ++ entry.1)) =
      some entry := by
    rw [isTable, List.find?_append, List.find?_eq_none.mpr, Option.none_or,
      List.find?_cons_of_pos]
    · simp [List.isSuffixOf_iff_suffix]
    · intro other inEarlier ends
      obtain ⟨char, inOther, notInWord, notDigit, notSeparator⟩ :=
        absent other inEarlier
      have inText : char ∈ whole ++ entry.1 :=
        (List.isSuffixOf_iff_suffix.mp ends).subset inOther
      rcases List.mem_append.mp inText with inWhole | inWord
      · rcases kept char inWhole with digit | separates
        · simp [digit] at notDigit
        · simp [separates] at notSeparator
      · exact notInWord inWord
  rw [cutMultiplier, lower, found]
  simp [trimChars_of_token token]

theorem mem_tokenCharacters_of_kept {char : Char} (kept : IsKept char) :
    char ∈ tokenCharacters := by
  rcases kept with digit | separates
  · exact mem_tokenCharacters_of_digit digit
  · simp only [isSeparator, Bool.or_eq_true, beq_iff_eq] at separates
    rcases separates with rfl | rfl <;> decide

theorem keepDigits_of_kept {text : List Char}
    (kept : ∀ char ∈ text, IsKept char) : keepDigits text = .ok text := by
  induction text with
  | nil => rfl
  | cons char rest ih =>
      have first : (isDigit char || isSeparator char) = true := by
        simpa [IsKept] using kept char (by simp)
      rw [keepDigits, if_pos first,
        ih fun other member => kept other (by simp [member])]
      rfl

/-- A number with a multiplier. -/
theorem parseSingleAmount_of_multiplier (member : entry ∈ multipliers)
    (kept : ∀ char ∈ whole, IsKept char) :
    parseSingleAmount endsWord (whole ++ entry.1) currency =
      amountOfDigits whole currency entry.2 := by
  have token : ∀ char ∈ whole, char ∈ tokenCharacters :=
    fun char inWhole => mem_tokenCharacters_of_kept (kept char inWhole)
  have tokens : ∀ char ∈ whole ++ entry.1, char ∈ tokenCharacters := by
    intro char inText
    rcases List.mem_append.mp inText with inWhole | inWord
    · exact token char inWhole
    · exact (multiplier_characters entry member char inWord).1
  have trimmed := trimChars_of_token tokens
  rw [parseSingleAmount_eq, trimmed, cutMultiplier_of_token member kept token,
    keepDigits_of_kept kept]
  rw [trimmed]
  intro kelvin
  have inText := tokens kelvinSign (List.mem_of_getLast? kelvin)
  exact (tokenCharacter_facts kelvinSign inText).2.2.2.2.2.2 rfl

/-- The compound rule on digits around a multiplier. -/
theorem tryMultipliers_of_compound
    {parseTail : List Char → String → Checked AmountResult}
    (member : entry ∈ multipliers) (wholeNonempty : whole ≠ [])
    (fractionNonempty : fraction ≠ [])
    (wholeDigits : ∀ char ∈ whole, isDigit char = true)
    (fractionDigits : ∀ char ∈ fraction, isDigit char = true) :
    tryMultipliers endsWord parseTail (whole ++ entry.1 ++ fraction) currency
        multipliers =
      (parseSingleAmount endsWord (whole ++ '.' :: fraction ++ entry.1)
        currency).map some := by
  obtain ⟨earlier, later, isTable, absent⟩ := multiplier_position member
  obtain ⟨word, factor⟩ := entry
  have skipped : ∀ other ∈ earlier,
      find other.1 (whole ++ word ++ fraction) = none := by
    intro other inEarlier
    obtain ⟨char, inOther, notInWord, notDigit, _⟩ := absent other inEarlier
    refine find_eq_none inOther fun inText => ?_
    simp only [List.append_assoc, List.mem_append] at inText
    rcases inText with inWhole | inWord | inFraction
    · simp [wholeDigits char inWhole] at notDigit
    · exact notInWord inWord
    · simp [fractionDigits char inFraction] at notDigit
  have wordNonempty := (multiplier_nonempty (word, factor) member).1
  have wordCharacters := multiplier_characters (word, factor) member
  obtain ⟨first, others, rfl⟩ := List.exists_cons_of_ne_nil wordNonempty
  have notInWhole : first ∉ whole := by
    intro inWhole
    have notDigit := (wordCharacters first (by simp)).2.1
    simp [wholeDigits first inWhole] at notDigit
  have found := find_append others notInWhole fraction
  obtain ⟨offset, isOffset⟩ : ∃ offset, byteLength whole = offset + 1 := by
    obtain ⟨char, rest, rfl⟩ := List.exists_cons_of_ne_nil wholeNonempty
    have positive := char.utf8Size_pos
    exact ⟨byteLength (char :: rest) - 1, by rw [byteLength_cons]; omega⟩
  have front : sliceTo (whole ++ first :: others ++ fraction) (offset + 1) =
      .ok whole := by
    rw [← isOffset, List.append_assoc, sliceTo_append]
  have back : sliceFrom (whole ++ first :: others ++ fraction)
      (offset + 1 + byteLength (first :: others)) = .ok fraction := by
    rw [← isOffset, ← byteLength_append, sliceFrom_append]
  have trimmedWhole := trimChars_of_token fun char inWhole =>
    mem_tokenCharacters_of_digit (wholeDigits char inWhole)
  have trimmedFraction := trimChars_of_token fun char inFraction =>
    mem_tokenCharacters_of_digit (fractionDigits char inFraction)
  have wholeAll : (whole.all fun char => isDigit char || isSeparator char) =
      true :=
    List.all_eq_true.mpr fun char inWhole => by simp [wholeDigits char inWhole]
  have fractionAll : fraction.all isDigit = true :=
    List.all_eq_true.mpr fractionDigits
  rw [isTable, tryMultipliers_skip _ skipped, tryMultipliers, tryMultiplier,
    found, isOffset]
  simp only [front, back, ok_bind, trimmedWhole, trimmedFraction, wholeAll,
    fractionAll]
  rw [if_neg (by simp [wholeNonempty, fractionNonempty]), if_pos trivial]
  cases parseSingleAmount endsWord
    (whole ++ '.' :: fraction ++ first :: others) currency <;> rfl

/-- A compound token is read as the decimal number it is rewritten to. -/
theorem parseAmount_of_compound (member : entry ∈ multipliers)
    (wholeNonempty : whole ≠ []) (fractionNonempty : fraction ≠ [])
    (wholeDigits : ∀ char ∈ whole, isDigit char = true)
    (fractionDigits : ∀ char ∈ fraction, isDigit char = true) :
    parseAmount endsWord (whole ++ entry.1 ++ fraction) hint =
      amountOfDigits (whole ++ '.' :: fraction) (hintCurrency hint)
        entry.2 := by
  have kept : ∀ char ∈ whole ++ '.' :: fraction, IsKept char := by
    intro char inText
    rcases List.mem_append.mp inText with inWhole | inRest
    · exact .inl (wholeDigits char inWhole)
    · rcases List.mem_cons.mp inRest with rfl | inFraction
      · exact .inr rfl
      · exact .inl (fractionDigits char inFraction)
  rw [parseAmount, parseAmountWithin, parseAmountWith_of_token,
    tryMultipliers_of_compound member wholeNonempty fractionNonempty
      wholeDigits fractionDigits,
    parseSingleAmount_of_multiplier member kept]
  · cases amountOfDigits (whole ++ '.' :: fraction) (hintCurrency hint)
      entry.2 <;> rfl
  · simp [wholeNonempty]
  · intro char inText
    simp only [List.append_assoc, List.mem_append] at inText
    rcases inText with inWhole | inWord | inFraction
    · exact mem_tokenCharacters_of_digit (wholeDigits char inWhole)
    · exact (multiplier_characters entry member char inWord).1
    · exact mem_tokenCharacters_of_digit (fractionDigits char inFraction)

/-- A compound token is read as the number it writes: its second number is a
decimal fraction of its first one's unit. -/
def ReadsFraction (endsWord : SigmaRule) (hint : String)
    (whole fraction : List Char) (entry : List Char × Int) : Prop :=
  ∃ result, parseAmount endsWord (whole ++ entry.1 ++ fraction) hint =
      .ok result ∧
    ∀ minor currency, result = .ok (minor, currency) →
      (minor : ℚ) =
        (numberOf whole + numberOf fraction / 10 ^ fraction.length) *
          entry.2 * 10 ^ currencyDecimalPlaces currency

/-- The rewritten point is taken for a decimal point, or the number is zero, or
it is rejected for its length or its size with the digits run together. -/
def FractionIsSafe (hint : String) (whole fraction : List Char)
    (entry : List Char × Int) : Prop :=
  let places := currencyDecimalPlaces (hintCurrency hint)
  isDecimalPoint places '.' fraction = true ∨
    numberOf (whole ++ fraction) = 0 ∨
    15 < (whole ++ fraction).length ∨
    maxI64 < numberOf (whole ++ fraction) * 10 ^ places * entry.2

/-- A number that is the same with its digits moved behind a point is zero. -/
theorem number_eq_zero {number places : Nat} {factor : Int}
    (nonempty : fraction ≠ []) (positive : 0 < factor)
    (same : (number : ℚ) * 10 ^ places * factor =
      number / 10 ^ fraction.length * factor * 10 ^ places) :
    number = 0 := by
  have one : 1 ≤ fraction.length := List.length_pos_iff.mpr nonempty
  have large : (10 : ℚ) ≤ 10 ^ fraction.length := by
    calc (10 : ℚ) = 10 ^ 1 := (pow_one _).symm
      _ ≤ 10 ^ fraction.length := pow_le_pow_right₀ (by norm_num) one
  have scale : (0 : ℚ) < 10 ^ places * factor := by positivity
  have quotient : (number : ℚ) = number / 10 ^ fraction.length := by
    have cancelled : (number : ℚ) * (10 ^ places * factor) =
        number / 10 ^ fraction.length * (10 ^ places * factor) := by
      rw [← mul_assoc, same]
      ring
    exact mul_right_cancel₀ scale.ne' cancelled
  rw [eq_div_iff (by positivity)] at quotient
  have natural : (0 : ℚ) ≤ number := Nat.cast_nonneg number
  have zero : (number : ℚ) = 0 := by nlinarith
  exact_mod_cast zero

/-- A compound token is read as the number it writes exactly if the reader takes
the point for what the compound rule meant. -/
theorem compound_amount_iff (member : entry ∈ multipliers)
    (wholeNonempty : whole ≠ []) (fractionNonempty : fraction ≠ [])
    (wholeDigits : ∀ char ∈ whole, isDigit char = true)
    (fractionDigits : ∀ char ∈ fraction, isDigit char = true) :
    ReadsFraction endsWord hint whole fraction entry ↔
      FractionIsSafe hint whole fraction entry := by
  have clean : ∀ char ∈ fraction, isSeparator char = false :=
    fun char inFraction => isSeparator_of_digit (fractionDigits char inFraction)
  have kept : ∀ char ∈ whole ++ '.' :: fraction, IsKept char := by
    intro char inText
    rcases List.mem_append.mp inText with inWhole | inRest
    · exact .inl (wholeDigits char inWhole)
    · rcases List.mem_cons.mp inRest with rfl | inFraction
      · exact .inr rfl
      · exact .inl (fractionDigits char inFraction)
  have above := (multiplier_nonempty entry member).2
  have positive : 0 < entry.2 := by omega
  have splitText : splitAtLast (whole ++ '.' :: fraction) =
      some (whole, '.', fraction) :=
    splitAtLast_append rfl clean
  have split : decimalSplit (whole ++ '.' :: fraction) (hintCurrency hint)
      entry.2 =
        if isDecimalPoint (currencyDecimalPlaces (hintCurrency hint)) '.'
          fraction then some (whole, '.', fraction) else none := by
    rw [decimalSplit, if_neg (by omega), splitText]
    simp [Option.filter]
  unfold ReadsFraction FractionIsSafe
  rw [parseAmount_of_compound member wholeNonempty fractionNonempty
    wholeDigits fractionDigits]
  by_cases point : isDecimalPoint
    (currencyDecimalPlaces (hintCurrency hint)) '.' fraction = true
  · rw [if_pos point] at split
    simp only [point, true_or, iff_true]
    obtain ⟨result, reads, exact⟩ := amountOfDigits_exact
      (hintCurrency hint) kept positive
    refine ⟨result, reads, fun minor currency same => ?_⟩
    obtain ⟨exactly, readAs⟩ := exact minor currency same
    rw [exactly.1, readAs.places, numeralOf, split]
    simp only [Numeral.amount, stripSeparators_of_digits wholeDigits,
      numberOf_append]
    push_cast
    field_simp
  · rw [if_neg point] at split
    rw [amountOfDigits_of_whole kept split]
    have stripped : stripSeparators (whole ++ '.' :: fraction) =
        whole ++ fraction := by
      have point : isDigit '.' = false := by decide
      rw [stripSeparators, List.filter_append,
        List.filter_cons_of_neg (by simp [point])]
      exact congrArg₂ (· ++ ·) (stripSeparators_of_digits wholeDigits)
        (stripSeparators_of_digits fractionDigits)
    have all : ∀ char ∈ whole ++ fraction, isDigit char = true := by
      intro char inText
      rcases List.mem_append.mp inText with inWhole | inFraction
      · exact wholeDigits char inWhole
      · exact fractionDigits char inFraction
    have written : (numberOf whole + numberOf fraction / 10 ^ fraction.length :
        ℚ) = numberOf (whole ++ fraction) / 10 ^ fraction.length := by
      rw [numberOf_append]
      push_cast
      field_simp
    rw [stripped, finishAmount_eq all positive,
      if_neg (by simp [wholeNonempty])]
    have places := currencyDecimalPlaces_upper (hintCurrency hint)
    simp only [point, Bool.false_eq_true, false_or, written]
    split
    · rename_i long
      exact iff_of_true ⟨_, rfl, by rintro _ _ ⟨⟩⟩ (.inr (.inl long))
    rename_i short
    split
    · rename_i large
      exact iff_of_true ⟨_, rfl, by rintro _ _ ⟨⟩⟩ (.inr (.inr large))
    rename_i bounded
    have onlyZero : (numberOf (whole ++ fraction) = 0 ∨
        15 < (whole ++ fraction).length ∨ _) ↔
        numberOf (whole ++ fraction) = 0 :=
      or_iff_left (not_or.mpr ⟨short, bounded⟩)
    rw [onlyZero]
    constructor
    · rintro ⟨result, isResult, exact⟩
      cases isResult
      have same := exact _ _ rfl
      rw [places] at same
      exact number_eq_zero fractionNonempty positive (by exact_mod_cast same)
    · intro zero
      refine ⟨_, rfl, fun minor currency same => ?_⟩
      cases same
      simp [zero]

theorem compound_amount_one_and_a_half :
    ReadsFraction (fun _ _ => false) "VND" ['1'] ['5']
        (['t', 'r'], 1000000) ↔
      FractionIsSafe "VND" ['1'] ['5'] (['t', 'r'], 1000000) :=
  compound_amount_iff (by decide) (by decide) (by decide) (by decide)
    (by decide)

/-- `1tr500` is read as 1500 millions. -/
theorem compound_amount_thousandfold :
    ¬ ReadsFraction (fun _ _ => false) "VND" ['1'] ['5', '0', '0']
      (['t', 'r'], 1000000) := by
  intro ⟨result, reads, exact⟩
  have read : parseAmount (fun _ _ => false)
      (['1'] ++ ['t', 'r'] ++ ['5', '0', '0']) "VND" =
        .ok (.ok (1500000000, "VND")) := by
    decide
  rw [read] at reads
  cases reads
  have places : currencyDecimalPlaces "VND" = 0 := by decide
  have same := exact 1500000000 "VND" rfl
  have one : numberOf ['1'] = 1 := by decide
  have fiveHundred : numberOf ['5', '0', '0'] = 500 := by decide
  rw [places, one, fiveHundred] at same
  norm_num at same

end Compounds

end Conversation

end ZaloBot
