import ZaloBot.CompoundAmounts

/-!
# Displayed amounts read back

Cards print amounts with points between groups of digits and a comma before the
hundredths.  The reader takes a comma for a grouping mark, so that an amount with
hundredths is read a hundred times too large.
-/

namespace ZaloBot

namespace Conversation

open RustText

variable {endsWord : SigmaRule}

section Printed

variable {digits : List Char}

theorem isDigit_of_mem_toDigits (number : Nat) :
    ∀ char ∈ Nat.toDigits 10 number, isDigit char = true := by
  intro char member
  have digit := Nat.isDigit_of_mem_toDigits (by decide) (by decide) member
  simpa [isDigit, Char.isDigit, Char.le_def] using digit

theorem numberOf_toDigits (number : Nat) :
    numberOf (Nat.toDigits 10 number) = number :=
  Nat.ofDigitChars_ten_toDigits

theorem stripSeparators_append (front back : List Char) :
    stripSeparators (front ++ back) =
      stripSeparators front ++ stripSeparators back :=
  List.filter_append ..

/-- Grouping adds points only. -/
theorem stripSeparators_groupDigits
    (all : ∀ char ∈ digits, isDigit char = true) :
    stripSeparators (groupDigits digits) = digits := by
  have point : isDigit '.' = false := by decide
  induction digits using groupDigits.induct with
  | case1 => rfl
  | case2 digit => exact stripSeparators_of_digits all
  | case3 digit rest nonempty ends ih =>
      have tail := ih fun char member => all char (by simp [member])
      rw [groupDigits, if_pos ends]
      · simpa [stripSeparators, point, all digit (by simp)] using tail
      · exact nonempty
  | case4 digit rest nonempty inside ih =>
      have tail := ih fun char member => all char (by simp [member])
      rw [groupDigits, if_neg inside]
      · simpa [stripSeparators, all digit (by simp)] using tail
      · exact nonempty

theorem groupDigits_kept (all : ∀ char ∈ digits, isDigit char = true) :
    ∀ char ∈ groupDigits digits, IsKept char := by
  induction digits using groupDigits.induct with
  | case1 => simp [groupDigits]
  | case2 digit => simpa [groupDigits, IsKept] using .inl (all digit (by simp))
  | case3 digit rest nonempty ends ih =>
      have tail := ih fun char member => all char (by simp [member])
      rw [groupDigits, if_pos ends]
      · intro char member
        rcases List.mem_cons.mp member with rfl | member
        · exact .inl (all char (by simp))
        · rcases List.mem_cons.mp member with rfl | member
          · exact .inr rfl
          · exact tail char member
      · exact nonempty
  | case4 digit rest nonempty inside ih =>
      have tail := ih fun char member => all char (by simp [member])
      rw [groupDigits, if_neg inside]
      · intro char member
        rcases List.mem_cons.mp member with rfl | member
        · exact .inl (all char (by simp))
        · exact tail char member
      · exact nonempty

theorem groupDigits_ne_nil (nonempty : digits ≠ []) :
    groupDigits digits ≠ [] := by
  cases digits using groupDigits.fun_cases with
  | case1 => exact absurd rfl nonempty
  | case2 => simp [groupDigits]
  | case3 => simp_all [groupDigits]
  | case4 => simp_all [groupDigits]

/-- The hundredths of an amount, in two digits. -/
theorem formatFraction_two (value : Nat) :
    ∃ fraction, formatFraction value 2 = ',' :: fraction ∧
      fraction.length = 2 ∧ (∀ char ∈ fraction, isDigit char = true) ∧
      numberOf fraction = value % 100 := by
  refine ⟨_, rfl, ?_, ?_, ?_⟩
  · have short : (Nat.toDigits 10 (value % 10 ^ 2)).length ≤ 2 := by
      rw [Nat.length_toDigits_le_iff (by decide) (by decide)]
      exact Nat.mod_lt _ (by decide)
    simp only [List.length_append, List.length_replicate]
    omega
  · intro char member
    rcases List.mem_append.mp member with inZeros | inDigits
    · rw [List.eq_of_mem_replicate inZeros]
      decide
    · exact isDigit_of_mem_toDigits _ char inDigits
  · rw [numberOf_append, numberOf_toDigits, numberOf,
      Nat.ofDigitChars_replicate_zero]
    simp

end Printed

section ReadBack

variable {body : List Char} {hint currency : String}

/-- The symbol behind an amount, with the rest as its body. -/
theorem detectCurrency_of_symbol {symbol : List Char}
    (member : (symbol, currency) ∈ currencySymbols)
    (kept : ∀ char ∈ body, IsKept char) (nonempty : body ≠ []) :
    detectCurrency (body ++ ' ' :: symbol) hint = (currency, body) := by
  have token : ∀ char ∈ body, char ∈ tokenCharacters :=
    fun char inBody => mem_tokenCharacters_of_kept (kept char inBody)
  have trimmed : trimChars (body ++ [' ']) = body :=
    trimChars_concat (by decide) fun char inBody =>
      (tokenCharacter_facts char (token char inBody)).2.1
  obtain ⟨first, rest, rfl⟩ := List.exists_cons_of_ne_nil nonempty
  obtain ⟨-, -, -, notA, notDong, notDollar, -⟩ :=
    tokenCharacter_facts first (token first (by simp))
  rw [List.cons_append] at trimmed
  have whole : List.take (rest.length + 1) rest = rest :=
    List.take_of_length_le (by omega)
  simp only [currencySymbols, List.mem_cons, Prod.mk.injEq,
    List.not_mem_nil, or_false] at member
  rcases member with ⟨rfl, rfl⟩ | ⟨rfl, rfl⟩ | ⟨rfl, rfl⟩ <;>
    simp [detectCurrency, stripSymbol, currencySymbols, List.isSuffixOf,
      List.take_append, notA.symm, notDong.symm, notDollar.symm, whole, trimmed]

/-- What `parse_amount` does with digits and separators in front of a
symbol. -/
theorem parseAmount_of_symbol {symbol : List Char}
    (member : (symbol, currency) ∈ currencySymbols)
    (kept : ∀ char ∈ body, IsKept char) (nonempty : body ≠ []) :
    parseAmount endsWord (body ++ ' ' :: symbol) hint =
      amountOfDigits body currency 1 := by
  have token : ∀ char ∈ body, char ∈ tokenCharacters :=
    fun char inBody => mem_tokenCharacters_of_kept (kept char inBody)
  have notIn (char : Char) (notKept : isDigit char = false ∧
      isSeparator char = false) : char ∉ body := by
    intro inBody
    rcases kept char inBody with digit | separates
    · simp [notKept.1] at digit
    · simp [notKept.2] at separates
  have symbolCharacters : ∀ entry ∈ currencySymbols, entry.1 ≠ [] ∧
      ∀ char ∈ entry.1, isWhitespace char = false ∧ char ≠ '-' := by
    decide
  have symbols := symbolCharacters (symbol, currency) member
  have trimmedBody := trimChars_of_token token
  have trimmed : trimChars (body ++ ' ' :: symbol) = body ++ ' ' :: symbol := by
    refine trimChars_eq_self ?_ ?_
    · intro char isFirst
      obtain ⟨first, rest, rfl⟩ := List.exists_cons_of_ne_nil nonempty
      cases Option.some.inj isFirst
      exact (tokenCharacter_facts char (token char (by simp))).2.1
    · intro char isLast
      refine (symbols.2 char (List.mem_of_getLast? ?_)).1
      simpa [List.getLast?_append, List.getLast?_cons_of_ne_nil symbols.1,
        symbols.1] using isLast
  have noMultiplier : ∀ entry ∈ multipliers, find entry.1 body = none := by
    intro entry inTable
    obtain ⟨char, rest, isWord⟩ :=
      List.exists_cons_of_ne_nil (multiplier_nonempty entry inTable).1
    have inWord : char ∈ entry.1 := by simp [isWord]
    exact find_eq_none inWord
      (notIn char (multiplier_characters entry inTable char inWord).2)
  have uncut : cutMultiplier endsWord body = (1, body) := by
    have absent : multipliers.find? (·.1.isSuffixOf body) = none := by
      rw [List.find?_eq_none]
      intro entry inTable ends
      obtain ⟨char, rest, isWord⟩ :=
        List.exists_cons_of_ne_nil (multiplier_nonempty entry inTable).1
      have inWord : char ∈ entry.1 := by simp [isWord]
      exact notIn char (multiplier_characters entry inTable char inWord).2
        ((List.isSuffixOf_iff_suffix.mp ends).subset inWord)
    rw [cutMultiplier, toLowercase_of_token token, absent]
  have skipped (parseTail : List Char → String → Checked AmountResult) :
      tryMultipliers endsWord parseTail body currency multipliers =
        .ok none := by
    rw [← List.append_nil multipliers, tryMultipliers_skip [] noMultiplier]
    rfl
  have notKelvin : (trimChars body).getLast? ≠ some kelvinSign := by
    rw [trimmedBody]
    intro kelvin
    exact notIn kelvinSign (by decide) (List.mem_of_getLast? kelvin)
  have noMinus : '-' ∉ body ++ ' ' :: symbol := by
    rw [List.mem_append, List.mem_cons, not_or, not_or]
    exact ⟨notIn '-' (by decide), by decide,
      fun inSymbol => (symbols.2 '-' inSymbol).2 rfl⟩
  rw [parseAmount, parseAmountWithin, parseAmountWith, trimmed,
    if_neg (by simp), if_neg noMinus,
    detectCurrency_of_symbol member kept nonempty]
  simp only [tryParseCompound, toLowercase_of_token token, skipped, ok_bind]
  rw [parseSingleAmount_eq notKelvin, trimmedBody, uncut,
    keepDigits_of_kept kept]

/-- The currencies with a symbol. -/
def symbolCurrencies : List String := ["VND", "USD", "AUD"]

theorem currency_upper : ∀ currency ∈ symbolCurrencies,
    upperCurrency currency = currency := by
  decide

theorem hundredths_places : ∀ currency ∈ ["USD", "AUD"],
    currencyDecimalPlaces currency = 2 := by
  decide

/-- The symbol behind a printed amount. -/
theorem symbol_of_currency : ∀ currency ∈ symbolCurrencies,
    (currencySymbol currency, currency) ∈ currencySymbols := by
  decide

/-- A printed amount without minor units. -/
theorem formatMinor_dong {value : Int} (positive : 0 < value) :
    formatMinor value "VND" =
      groupDigits (Nat.toDigits 10 value.natAbs) ++
        ' ' :: currencySymbol "VND" := by
  have places : currencyDecimalPlaces "VND" = 0 := by decide
  have upper := currency_upper "VND" (by decide)
  have notNegative : ¬ value < 0 := by omega
  simp [formatMinor, upper, places, notNegative, currencySymbol]

/-- A printed amount with hundredths. -/
theorem formatMinor_hundredths {value : Int} (positive : 0 < value)
    (member : currency ∈ ["USD", "AUD"]) :
    ∃ fraction, formatMinor value currency =
        groupDigits (Nat.toDigits 10 (value.natAbs / 100)) ++
          ',' :: fraction ++ ' ' :: currencySymbol currency ∧
      fraction.length = 2 ∧ (∀ char ∈ fraction, isDigit char = true) ∧
      numberOf fraction = value.natAbs % 100 := by
  obtain ⟨fraction, isFraction, two, digits, number⟩ :=
    formatFraction_two value.natAbs
  refine ⟨fraction, ?_, two, digits, number⟩
  have places := hundredths_places currency member
  have symbols : ∀ currency ∈ ["USD", "AUD"],
      currency ∈ symbolCurrencies ∧
        (currencySymbol currency).isEmpty = false := by
    decide
  have upper := currency_upper currency (symbols currency member).1
  have notNegative : ¬ value < 0 := by omega
  have notEmpty : currencySymbol currency ≠ [] := by
    simpa using (symbols currency member).2
  simp [formatMinor, upper, places, notNegative, notEmpty, isFraction]

/-- Printed amounts without minor units are read back. -/
theorem parseAmount_dong {value : Int} (positive : 0 < value)
    (bounded : value < 10 ^ 15) :
    parseAmount endsWord (formatMinor value "VND") hint =
      .ok (.ok (value, "VND")) := by
  have places : currencyDecimalPlaces "VND" = 0 := by decide
  have digits := isDigit_of_mem_toDigits value.natAbs
  have kept := groupDigits_kept digits
  have short : (Nat.toDigits 10 value.natAbs).length ≤ 15 := by
    rw [Nat.length_toDigits_le_iff (by decide) (by decide)]
    omega
  have whole : decimalSplit (groupDigits (Nat.toDigits 10 value.natAbs)) "VND"
      1 = none := by
    rw [decimalSplit, if_pos ⟨places, rfl⟩]
  have number : (numberOf (Nat.toDigits 10 value.natAbs) : Int) = value := by
    rw [numberOf_toDigits]
    omega
  rw [formatMinor_dong positive,
    parseAmount_of_symbol (symbol_of_currency "VND" (by decide)) kept
      (groupDigits_ne_nil Nat.toDigits_ne_nil),
    amountOfDigits_of_whole kept whole, stripSeparators_groupDigits digits,
    finishAmount_eq digits (by decide), if_neg Nat.toDigits_ne_nil,
    if_neg (by omega), number, places, if_neg, currency_upper "VND" (by decide)]
  · simp
  · unfold maxI64
    omega

/-- Printed amounts with hundredths are read without their decimal mark. -/
theorem parseAmount_hundredths {value : Int} (positive : 0 < value)
    (member : currency ∈ ["USD", "AUD"]) :
    parseAmount endsWord (formatMinor value currency) hint ≠
      .ok (.ok (value, currency)) := by
  obtain ⟨fraction, isText, two, fractionDigits, number⟩ :=
    formatMinor_hundredths positive member
  have symbols : ∀ currency ∈ ["USD", "AUD"],
      currency ∈ symbolCurrencies := by
    decide
  have places := hundredths_places currency member
  have wholeDigits := isDigit_of_mem_toDigits (value.natAbs / 100)
  have wholeKept := groupDigits_kept wholeDigits
  have clean : ∀ char ∈ fraction, isSeparator char = false :=
    fun char inFraction => isSeparator_of_digit (fractionDigits char inFraction)
  have kept : ∀ char ∈ groupDigits (Nat.toDigits 10 (value.natAbs / 100)) ++
      ',' :: fraction, IsKept char := by
    intro char inText
    rcases List.mem_append.mp inText with inWhole | inRest
    · exact wholeKept char inWhole
    · rcases List.mem_cons.mp inRest with rfl | inFraction
      · exact .inr rfl
      · exact .inl (fractionDigits char inFraction)
  have whole : decimalSplit (groupDigits (Nat.toDigits 10
      (value.natAbs / 100)) ++ ',' :: fraction) currency 1 = none := by
    rw [decimalSplit, if_neg (by simp [places]),
      splitAtLast_append rfl clean, places]
    rfl
  have stripped : stripSeparators (groupDigits (Nat.toDigits 10
      (value.natAbs / 100)) ++ ',' :: fraction) =
        Nat.toDigits 10 (value.natAbs / 100) ++ fraction := by
    have comma : stripSeparators [','] = [] := by decide
    rw [← List.singleton_append, stripSeparators_append,
      stripSeparators_append, stripSeparators_groupDigits wholeDigits, comma,
      stripSeparators_of_digits fractionDigits, List.nil_append]
  have all : ∀ char ∈ Nat.toDigits 10 (value.natAbs / 100) ++ fraction,
      isDigit char = true := by
    intro char inText
    rcases List.mem_append.mp inText with inWhole | inFraction
    · exact wholeDigits char inWhole
    · exact fractionDigits char inFraction
  have runTogether : (numberOf (Nat.toDigits 10 (value.natAbs / 100) ++
      fraction) : Int) = value := by
    rw [numberOf_append, numberOf_toDigits, number, two]
    omega
  rw [isText, parseAmount_of_symbol
    (symbol_of_currency currency (symbols currency member)) kept (by simp),
    amountOfDigits_of_whole kept whole, stripped,
    finishAmount_eq all (by decide), runTogether, places]
  split
  · rintro ⟨⟩
  · split
    · rintro ⟨⟩
    · split
      · rintro ⟨⟩
      · intro same
        simp only [Except.ok.injEq, Prod.mk.injEq] at same
        omega

/-- An amount copied from a card keeps its value exactly in the currency without
minor units. -/
theorem displayed_amount_reads_back_iff
    (hasSymbol : currency ∈ symbolCurrencies) {value : Int}
    (positive : 0 < value) (bounded : value < 10 ^ 15) :
    parseAmount endsWord (formatMinor value currency) hint =
        .ok (.ok (value, currency)) ↔
      currency = "VND" := by
  constructor
  · intro reads
    simp only [symbolCurrencies, List.mem_cons, List.not_mem_nil,
      or_false] at hasSymbol
    rcases hasSymbol with dong | hundredths
    · exact dong
    · exact absurd reads
        (parseAmount_hundredths positive (by simpa using hundredths))
  · rintro rfl
    exact parseAmount_dong positive bounded

theorem displayed_amount_reads_back_dong :
    parseAmount (fun _ _ => false) (formatMinor 1234567 "VND") "USD" =
        .ok (.ok (1234567, "VND")) ↔
      "VND" = "VND" :=
  displayed_amount_reads_back_iff (by decide) (by decide) (by decide)

/-- `12,34 $` is read as 1234 dollars. -/
theorem displayed_amount_hundredfold :
    formatMinor 1234 "USD" = ['1', '2', ',', '3', '4', ' ', '$'] ∧
    parseAmount (fun _ _ => false) (formatMinor 1234 "USD") "USD" ≠
      .ok (.ok (1234, "USD")) := by
  decide

end ReadBack

end Conversation

end ZaloBot
