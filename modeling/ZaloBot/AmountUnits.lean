import ZaloBot.AmountSplits

/-!
# An amount read for another currency

A number is counted in minor units, and how many minor units it has depends on
the decimal places of its currency.  A text that names no currency is read to
the same count for another one if both have the same decimal places, and
otherwise only if each of its pieces is zero or is written in hundredths.
-/

namespace ZaloBot

namespace Conversation

open RustText

variable {endsWord : SigmaRule}

section Numbers

variable {digitsOnly front fraction : List Char} {separator : Char}
  {currency other : String} {factor minor : Int}

theorem decimalSplit_eq_some
    (decimal : decimalSplit digitsOnly currency factor =
      some (front, separator, fraction)) :
    ¬ (currencyDecimalPlaces currency = 0 ∧ factor = 1) ∧
      splitAtLast digitsOnly = some (front, separator, fraction) ∧
      isDecimalPoint (currencyDecimalPlaces currency) separator fraction =
        true := by
  unfold decimalSplit at decimal
  split at decimal
  · nomatch decimal
  · rename_i notPlain
    exact ⟨notPlain, Option.filter_eq_some_iff.mp decimal⟩

/-- The digits around the last separator. -/
theorem digits_of_split (kept : ∀ char ∈ digitsOnly, IsKept char)
    (split : splitAtLast digitsOnly = some (front, separator, fraction)) :
    stripSeparators digitsOnly = stripSeparators front ++ fraction ∧
      ∀ char ∈ fraction, isDigit char = true := by
  obtain ⟨rfl, separates, clean⟩ := splitAtLast_eq_some split
  have digits : ∀ char ∈ fraction, isDigit char = true := by
    intro char member
    rcases kept char (by simp [member]) with digit | isSeparator
    · exact digit
    · simp [clean char member] at isSeparator
  have notDigit : isDigit separator = false := by
    by_contra digit
    rw [isSeparator_of_digit (Bool.not_eq_false _ ▸ digit)] at separates
    nomatch separates
  refine ⟨?_, digits⟩
  rw [stripSeparators, List.filter_append, List.filter_cons,
    if_neg (by simp [notDigit])]
  exact congrArg _ (stripSeparators_of_digits digits)

/-- The minor units of a number without a decimal point. -/
theorem yields_whole_iff (kept : ∀ char ∈ digitsOnly, IsKept char)
    (positive : 0 < factor)
    (whole : decimalSplit digitsOnly currency factor = none) :
    Yields (amountOfDigits digitsOnly currency factor) minor ↔
      stripSeparators digitsOnly ≠ [] ∧
        (stripSeparators digitsOnly).length ≤ 15 ∧
        minor = numberOf (stripSeparators digitsOnly) *
          10 ^ currencyDecimalPlaces currency * factor ∧
        minor ≤ maxI64 := by
  rw [amountOfDigits_of_whole kept whole,
    finishAmount_eq isDigit_of_mem_stripSeparators positive]
  split
  · rename_i empty
    simp [empty]
  · rename_i nonempty
    split
    · simp only [not_yields_reject, false_iff]
      omega
    · split
      · simp only [not_yields_reject, false_iff]
        omega
      · simp only [yields_ok_iff, ne_eq, nonempty, not_false_eq_true, true_and]
        omega

/-- The minor units of a number with a decimal point in a currency without
decimal places. -/
theorem yields_decimal_iff (kept : ∀ char ∈ digitsOnly, IsKept char)
    (positive : 0 < factor) (places : currencyDecimalPlaces currency = 0)
    (decimal : decimalSplit digitsOnly currency factor =
      some (front, separator, fraction)) :
    Yields (amountOfDigits digitsOnly currency factor) minor ↔
      fraction.length ≤ 4 ∧ (stripSeparators digitsOnly).length ≤ 15 ∧
        numberOf (stripSeparators digitsOnly) * factor ≤ maxI64 ∧
        numberOf (stripSeparators digitsOnly) * factor %
          10 ^ fraction.length = 0 ∧
        minor = numberOf (stripSeparators digitsOnly) * factor /
          10 ^ fraction.length := by
  obtain ⟨_, split, point⟩ := decimalSplit_eq_some decimal
  obtain ⟨digits, fractionDigits⟩ := digits_of_split kept split
  rw [amountOfDigits_of_decimal kept decimal]
  obtain ⟨rfl, separates, _⟩ := splitAtLast_eq_some split
  have nonempty : fraction ≠ [] := by
    rintro rfl
    simp [isDecimalPoint, places] at point
  rw [decimalAmount_eq_of_whole (fun char member => kept char (by simp [member]))
    separates fractionDigits nonempty positive places, digits]
  simp only
  split
  · simp only [not_yields_reject, false_iff]
    omega
  split
  · simp only [not_yields_reject, false_iff]
    omega
  split
  · simp only [not_yields_reject, false_iff]
    omega
  split
  · simp only [not_yields_reject, false_iff]
    omega
  · simp only [yields_ok_iff]
    omega

/-- The minor units of a number with a decimal point in a currency with
hundredths. -/
theorem yields_hundredths_iff (kept : ∀ char ∈ digitsOnly, IsKept char)
    (positive : 0 < factor) (places : currencyDecimalPlaces currency = 2)
    (decimal : decimalSplit digitsOnly currency factor =
      some (front, separator, fraction)) :
    Yields (amountOfDigits digitsOnly currency factor) minor ↔
      (stripSeparators digitsOnly).length ≤ 15 ∧
        minor = numberOf (stripSeparators digitsOnly) * factor ∧
        minor ≤ maxI64 := by
  obtain ⟨_, split, point⟩ := decimalSplit_eq_some decimal
  obtain ⟨digits, fractionDigits⟩ := digits_of_split kept split
  rw [amountOfDigits_of_decimal kept decimal]
  obtain ⟨rfl, separates, _⟩ := splitAtLast_eq_some split
  have two : fraction.length = 2 := by
    simp [isDecimalPoint, places] at point
    exact point.2
  rw [decimalAmount_eq_of_hundredths
    (fun char member => kept char (by simp [member])) separates fractionDigits
    two positive places, digits]
  simp only
  split
  · simp only [not_yields_reject, false_iff]
    omega
  split
  · simp only [not_yields_reject, false_iff]
    omega
  · simp only [yields_ok_iff]
    omega

/-- The decimal places decide how a number is counted. -/
theorem yields_of_same_places (kept : ∀ char ∈ digitsOnly, IsKept char)
    (positive : 0 < factor)
    (same : currencyDecimalPlaces currency = currencyDecimalPlaces other) :
    Yields (amountOfDigits digitsOnly currency factor) minor ↔
      Yields (amountOfDigits digitsOnly other factor) minor := by
  have sameSplit : decimalSplit digitsOnly currency factor =
      decimalSplit digitsOnly other factor := by
    rw [decimalSplit, decimalSplit, same]
  cases split : decimalSplit digitsOnly other factor with
  | none =>
      rw [yields_whole_iff kept positive (sameSplit.trans split),
        yields_whole_iff kept positive split, same]
  | some parts =>
      obtain ⟨front, separator, fraction⟩ := parts
      rcases currencyDecimalPlaces_cases other with places | places
      · rw [yields_decimal_iff kept positive (same.trans places)
            (sameSplit.trans split),
          yields_decimal_iff kept positive places split]
      · rw [yields_hundredths_iff kept positive (same.trans places)
            (sameSplit.trans split),
          yields_hundredths_iff kept positive places split]

end Numbers

section Units

variable {digitsOnly front fraction : List Char} {separator : Char}
  {currency whole cents : String} {factor minor minorOfCents : Int}

/-- A number with as many minor units in a currency without decimal places as
in one with hundredths: it is zero, with a fraction that both read, or it is
written in hundredths and not multiplied. -/
def SameUnits (digitsOnly : List Char) (factor : Int) : Prop :=
  numberOf (stripSeparators digitsOnly) = 0 ∧
      (factor = 1 ∨ ∀ parts ∈ splitAtLast digitsOnly,
        parts.2.2.length ≤ 4) ∨
    factor = 1 ∧ ∃ front fraction,
      splitAtLast digitsOnly = some (front, '.', fraction) ∧
        fraction.length = 2

theorem yields_zero_iff (kept : ∀ char ∈ digitsOnly, IsKept char)
    (positive : 0 < factor)
    (zero : numberOf (stripSeparators digitsOnly) = 0)
    (short : factor = 1 ∨ ∀ parts ∈ splitAtLast digitsOnly,
      parts.2.2.length ≤ 4) :
    Yields (amountOfDigits digitsOnly currency factor) minor ↔
      stripSeparators digitsOnly ≠ [] ∧
        (stripSeparators digitsOnly).length ≤ 15 ∧ minor = 0 := by
  have zeroFits : (0 : Int) ≤ maxI64 := by decide
  cases split : decimalSplit digitsOnly currency factor with
  | none =>
      rw [yields_whole_iff kept positive split, zero]
      simp only [Nat.cast_zero, Int.zero_mul]
      refine and_congr_right fun _ => and_congr_right fun _ => ?_
      omega
  | some parts =>
      obtain ⟨front, separator, fraction⟩ := parts
      obtain ⟨notPlain, found, point⟩ := decimalSplit_eq_some split
      obtain ⟨digits, _⟩ := digits_of_split kept found
      rcases currencyDecimalPlaces_cases currency with places | places
      · have nonempty : fraction ≠ [] := by
          rintro rfl
          simp [isDecimalPoint, places] at point
        have shortFraction : fraction.length ≤ 4 := by
          rcases short with one | short
          · exact absurd ⟨places, one⟩ notPlain
          · exact short _ found
        have digitsNonempty : stripSeparators digitsOnly ≠ [] := by
          simp [digits, nonempty]
        rw [yields_decimal_iff kept positive places split, zero]
        simp [shortFraction, zeroFits, digitsNonempty]
      · have nonempty : fraction ≠ [] := by
          rintro rfl
          simp [isDecimalPoint, places] at point
        have digitsNonempty : stripSeparators digitsOnly ≠ [] := by
          simp [digits, nonempty]
        rw [yields_hundredths_iff kept positive places split, zero]
        simp only [Nat.cast_zero, Int.zero_mul, digitsNonempty, ne_eq,
          not_false_eq_true, true_and]
        omega

/-- A number written in hundredths. -/
theorem yields_of_hundredths (kept : ∀ char ∈ digitsOnly, IsKept char)
    (split : splitAtLast digitsOnly = some (front, '.', fraction))
    (two : fraction.length = 2) :
    Yields (amountOfDigits digitsOnly currency 1) minor ↔
      (stripSeparators digitsOnly).length ≤ 15 ∧
        minor = numberOf (stripSeparators digitsOnly) ∧ minor ≤ maxI64 := by
  obtain ⟨digits, _⟩ := digits_of_split kept split
  have nonempty : stripSeparators digitsOnly ≠ [] := by
    intro empty
    rw [digits, List.append_eq_nil_iff] at empty
    simp [empty.2] at two
  rcases currencyDecimalPlaces_cases currency with places | places
  · have plain : decimalSplit digitsOnly currency 1 = none := by
      rw [decimalSplit, if_pos ⟨places, rfl⟩]
    rw [yields_whole_iff kept Int.one_pos plain, places]
    simp [nonempty]
  · have point : decimalSplit digitsOnly currency 1 =
        some (front, '.', fraction) := by
      rw [decimalSplit, if_neg (by simp [places]), split]
      simp [isDecimalPoint, places, two]
    rw [yields_hundredths_iff kept Int.one_pos places point]
    simp

/-- A number with as many minor units for both is read for one if it is for the
other. -/
theorem SameUnits.yields_iff (same : SameUnits digitsOnly factor)
    (kept : ∀ char ∈ digitsOnly, IsKept char) (positive : 0 < factor) :
    Yields (amountOfDigits digitsOnly whole factor) minor ↔
      Yields (amountOfDigits digitsOnly cents factor) minor := by
  rcases same with ⟨zero, short⟩ | ⟨rfl, front, fraction, split, two⟩
  · rw [yields_zero_iff kept positive zero short,
      yields_zero_iff kept positive zero short]
  · rw [yields_of_hundredths kept split two,
      yields_of_hundredths kept split two]

/-- What a currency without decimal places makes of a number. -/
theorem minor_le_of_whole (kept : ∀ char ∈ digitsOnly, IsKept char)
    (positive : 0 < factor) (places : currencyDecimalPlaces whole = 0)
    (yields : Yields (amountOfDigits digitsOnly whole factor) minor) :
    minor ≤ numberOf (stripSeparators digitsOnly) * factor ∧
      (factor = 1 ∨ ∀ parts ∈ splitAtLast digitsOnly,
        parts.2.2.length ≤ 4) := by
  have nonnegative :
      0 ≤ (numberOf (stripSeparators digitsOnly) : Int) * factor :=
    Int.mul_nonneg (Int.natCast_nonneg _) (by omega)
  cases split : decimalSplit digitsOnly whole factor with
  | none =>
      rw [yields_whole_iff kept positive split, places] at yields
      refine ⟨by simpa using yields.2.2.1.le, ?_⟩
      by_cases plain : factor = 1
      · exact .inl plain
      refine .inr fun parts found => ?_
      rw [decimalSplit, if_neg (fun both => plain both.2), found,
        Option.filter_some] at split
      simp only [isDecimalPoint, places, if_true] at split
      by_contra long
      have nonempty : parts.2.2 ≠ [] := by
        intro empty
        simp [empty] at long
      have notThree : parts.2.2.length ≠ 3 := by omega
      simp [nonempty, notThree] at split
  | some parts =>
      obtain ⟨front, separator, fraction⟩ := parts
      obtain ⟨_, found, _⟩ := decimalSplit_eq_some split
      rw [yields_decimal_iff kept positive places split] at yields
      refine ⟨yields.2.2.2.2 ▸ Int.ediv_le_self _ nonnegative, ?_⟩
      refine .inr fun parts isParts => ?_
      rw [found] at isParts
      cases isParts
      exact yields.1

/-- Hundredths are never fewer, and as many only for the same units. -/
theorem minor_le_of_cents (kept : ∀ char ∈ digitsOnly, IsKept char)
    (positive : 0 < factor) (places : currencyDecimalPlaces whole = 0)
    (placesOfCents : currencyDecimalPlaces cents = 2)
    (yields : Yields (amountOfDigits digitsOnly whole factor) minor)
    (yieldsCents : Yields (amountOfDigits digitsOnly cents factor)
      minorOfCents) :
    minor ≤ minorOfCents ∧
      (minor = minorOfCents → SameUnits digitsOnly factor) := by
  obtain ⟨bounded, short⟩ := minor_le_of_whole kept positive places yields
  have nonnegative :
      0 ≤ (numberOf (stripSeparators digitsOnly) : Int) * factor :=
    Int.mul_nonneg (Int.natCast_nonneg _) (by omega)
  have zero_of_product
      (none : (numberOf (stripSeparators digitsOnly) : Int) * factor = 0) :
      numberOf (stripSeparators digitsOnly) = 0 := by
    rcases Int.mul_eq_zero.mp none with zero | zero
    · exact_mod_cast zero
    · omega
  cases split : decimalSplit digitsOnly cents factor with
  | none =>
      rw [yields_whole_iff kept positive split, placesOfCents] at yieldsCents
      have hundredfold : minorOfCents =
          100 * (numberOf (stripSeparators digitsOnly) * factor) := by
        rw [yieldsCents.2.2.1]
        ring
      exact ⟨by omega, fun same =>
        .inl ⟨zero_of_product (by omega), short⟩⟩
  | some parts =>
      obtain ⟨front, separator, fraction⟩ := parts
      obtain ⟨_, found, point⟩ := decimalSplit_eq_some split
      rw [yields_hundredths_iff kept positive placesOfCents split]
        at yieldsCents
      simp only [isDecimalPoint, placesOfCents, OfNat.ofNat_ne_zero, if_false,
        Bool.and_eq_true, decide_eq_true_eq] at point
      obtain ⟨rfl, two⟩ := point
      refine ⟨by omega, fun same => ?_⟩
      by_cases plain : factor = 1
      · exact .inr ⟨plain, front, fraction, found, two⟩
      have wholeSplit : decimalSplit digitsOnly whole factor =
          some (front, '.', fraction) := by
        have nonempty : fraction ≠ [] := by
          rintro rfl
          cases two
        rw [decimalSplit, if_neg (fun both => plain both.2), found]
        simp [isDecimalPoint, places, two, nonempty]
      rw [yields_decimal_iff kept positive places wholeSplit, two] at yields
      exact .inl ⟨zero_of_product (by omega), short⟩

end Units

section Texts

variable {raw : List Char} {hint first second whole cents : String}
  {minor minorOfCents : Int}

theorem hintCurrency_hintCurrency (hint : String) :
    hintCurrency (hintCurrency hint) = hintCurrency hint := by
  have detected : detectCurrency [] hint = (hintCurrency hint, []) :=
    detectCurrency_of_absent (by simp) (by simp)
  obtain ⟨upper, nonempty⟩ := detectCurrency_upper [] hint
  rw [detected] at upper nonempty
  exact hintCurrency_upper upper nonempty

/-- The hint matters only to a text without a currency symbol. -/
theorem detectCurrency_congr (first second : String)
    (same : Unnamed raw → hintCurrency first = hintCurrency second) :
    detectCurrency (trimChars raw) first =
      detectCurrency (trimChars raw) second := by
  by_cases unnamed : Unnamed raw
  · rw [detectCurrency_of_unnamed unnamed, detectCurrency_of_unnamed unnamed,
      same unnamed]
  · cases found : currencySymbols.findSome? (stripSymbol (trimChars raw)) with
    | none =>
        exact absurd (fun entry member =>
          List.findSome?_eq_none_iff.mp found entry member) unnamed
    | some detected => rw [detectCurrency, detectCurrency, found]; rfl

theorem parseAmount_congr (first second : String)
    (same : Unnamed raw → hintCurrency first = hintCurrency second) :
    parseAmount endsWord raw first = parseAmount endsWord raw second := by
  rw [parseAmount_eq raw first, parseAmount_eq raw second, parseAmountWith,
    parseAmountWith, detectCurrency_congr first second same]

theorem parseAmount_hintCurrency (raw : List Char) (hint : String) :
    parseAmount endsWord raw (hintCurrency hint) =
      parseAmount endsWord raw hint :=
  parseAmount_congr _ _ fun _ => hintCurrency_hintCurrency hint

/-- A text whose pieces are counted alike is. -/
theorem Pieces.yields_iff {Holds : List Char → Int → Prop}
    (pieces : Pieces endsWord Holds raw)
    (alike : ∀ digitsOnly factor, (∀ char ∈ digitsOnly, IsKept char) →
      0 < factor → Holds digitsOnly factor → ∀ minor,
        (Yields (amountOfDigits digitsOnly (hintCurrency first) factor) minor ↔
          Yields (amountOfDigits digitsOnly (hintCurrency second) factor)
            minor)) :
    Yields (parseAmount endsWord raw first) minor ↔
      Yields (parseAmount endsWord raw second) minor := by
  have positive : ∀ entry ∈ multipliers, 0 < entry.2 := by decide
  induction pieces generalizing minor with
  | named named =>
      rw [parseAmount_congr first second fun unnamed => absurd unnamed named]
  | single unnamed alone solid keeps holds =>
      rw [yields_alone_iff unnamed alone solid keeps,
        yields_alone_iff unnamed alone solid keeps,
        alike _ _ (keepDigits_kept keeps) (cutMultiplier_factor_pos _ _) holds]
  | fraction unnamed splits digits holds =>
      rw [yields_fraction_iff unnamed splits digits,
        yields_fraction_iff unnamed splits digits,
        alike _ _ (kept_fraction splits.first digits)
          (positive _ splits.member) holds]
  | sum unnamed splits notDigits holds _ ih =>
      simp only [yields_sum_iff unnamed splits notDigits,
        parseAmount_hintCurrency, ih,
        alike _ _ splits.first.number (positive _ splits.member) holds]

/-- Hundredths are never fewer in a text, and as many only if its pieces have
the same units. -/
theorem Pieces.minor_le (pieces : Pieces endsWord (fun _ _ => True) raw)
    (places : currencyDecimalPlaces (hintCurrency whole) = 0)
    (placesOfCents : currencyDecimalPlaces (hintCurrency cents) = 2)
    (yields : Yields (parseAmount endsWord raw whole) minor)
    (yieldsCents : Yields (parseAmount endsWord raw cents) minorOfCents) :
    minor ≤ minorOfCents ∧
      (minor = minorOfCents → Pieces endsWord SameUnits raw) := by
  have positive : ∀ entry ∈ multipliers, 0 < entry.2 := by decide
  induction pieces generalizing minor minorOfCents with
  | named named =>
      rw [parseAmount_congr whole cents fun unnamed => absurd unnamed named]
        at yields
      obtain ⟨read, isMinor⟩ := yields
      obtain ⟨readOfCents, isMinorOfCents⟩ := yieldsCents
      rw [isMinor] at isMinorOfCents
      cases isMinorOfCents
      exact ⟨Int.le_refl _, fun _ => .named named⟩
  | single unnamed alone solid keeps _ =>
      rw [yields_alone_iff unnamed alone solid keeps] at yields yieldsCents
      obtain ⟨atMost, same⟩ := minor_le_of_cents (keepDigits_kept keeps)
        (cutMultiplier_factor_pos _ _) places placesOfCents yields.2
        yieldsCents.2
      exact ⟨atMost, fun isSame =>
        .single unnamed alone solid keeps (same isSame)⟩
  | fraction unnamed splits digits _ =>
      rw [yields_fraction_iff unnamed splits digits] at yields yieldsCents
      obtain ⟨atMost, same⟩ := minor_le_of_cents
        (kept_fraction splits.first digits) (positive _ splits.member) places
        placesOfCents yields.2 yieldsCents.2
      exact ⟨atMost, fun isSame =>
        .fraction unnamed splits digits (same isSame)⟩
  | sum unnamed splits notDigits _ _ ih =>
      rw [yields_sum_iff unnamed splits notDigits] at yields yieldsCents
      obtain ⟨_, number, tail, yieldsNumber, yieldsTail, adds⟩ := yields
      obtain ⟨_, numberOfCents, tailOfCents, yieldsNumberOfCents,
        yieldsTailOfCents, addsCents⟩ := yieldsCents
      rw [parseAmount_hintCurrency] at yieldsTail yieldsTailOfCents
      obtain ⟨numberAtMost, sameNumber⟩ := minor_le_of_cents
        splits.first.number (positive _ splits.member) places placesOfCents
        yieldsNumber yieldsNumberOfCents
      obtain ⟨tailAtMost, sameTail⟩ := ih yieldsTail yieldsTailOfCents
      have isSum := asI64_eq_ok adds
      have isSumOfCents := asI64_eq_ok addsCents
      exact ⟨by omega, fun isSame =>
        .sum unnamed splits notDigits (sameNumber (by omega))
          (sameTail (by omega))⟩

/-- The currency whose symbol a text begins or ends with. -/
def namedCurrency (raw : List Char) : Option String :=
  (currencySymbols.findSome? (stripSymbol (trimChars raw))).map Prod.fst

theorem namedCurrency_eq_none_iff : namedCurrency raw = none ↔ Unnamed raw := by
  simp [namedCurrency, Unnamed, List.findSome?_eq_none_iff]

theorem detectCurrency_of_named {named : String}
    (names : namedCurrency raw = some named) (hint : String) :
    (detectCurrency (trimChars raw) hint).1 = named := by
  obtain ⟨detected, found, rfl⟩ := Option.map_eq_some_iff.mp names
  rw [detectCurrency, found]
  rfl

/-- When a text that is read with a hint denotes the same amount of a given
currency: it names that currency, or it names none and is counted alike in
both. -/
def DenotesIn (endsWord : SigmaRule) (raw : List Char)
    (hint currency : String) : Prop :=
  match namedCurrency raw with
  | some named => named = currency
  | none =>
      hintCurrency currency = currency ∧
        (currencyDecimalPlaces (hintCurrency hint) =
            currencyDecimalPlaces currency ∨
          Pieces endsWord SameUnits raw)

/-- The minor units read with a hint are those of a given currency exactly
when the text denotes the same amount in it. -/
theorem parseAmount_eq_iff_denotesIn {read currency : String}
    (accepted : parseAmount endsWord raw hint = .ok (.ok (minor, read))) :
    parseAmount endsWord raw currency = .ok (.ok (minor, currency)) ↔
      DenotesIn endsWord raw hint currency := by
  unfold DenotesIn
  cases names : namedCurrency raw with
  | some named =>
      have notUnnamed : ¬ Unnamed raw := by
        rw [← namedCurrency_eq_none_iff, names]
        exact nofun
      have isRead := read_of_accepted accepted
      rw [detectCurrency_of_named names] at isRead
      rw [parseAmount_congr currency hint
        fun unnamed => absurd unnamed notUnnamed, accepted]
      simp [isRead]
  | none =>
      have unnamed := namedCurrency_eq_none_iff.mp names
      have yields : Yields (parseAmount endsWord raw hint) minor :=
        ⟨read, accepted⟩
      have pieces := exists_pieces yields
      have isYield : parseAmount endsWord raw currency =
          .ok (.ok (minor, currency)) ↔ hintCurrency currency = currency ∧
            Yields (parseAmount endsWord raw currency) minor := by
        constructor
        · intro again
          have isCurrency := read_of_accepted again
          rw [detectCurrency_of_unnamed unnamed] at isCurrency
          exact ⟨isCurrency.symm, currency, again⟩
        · rintro ⟨canonical, other, again⟩
          have isCurrency := read_of_accepted again
          rw [detectCurrency_of_unnamed unnamed, canonical] at isCurrency
          rw [again, isCurrency]
      rw [isYield]
      refine and_congr_right fun canonical => ?_
      constructor
      · intro again
        rcases currencyDecimalPlaces_cases (hintCurrency hint) with
          places | places <;>
        rcases currencyDecimalPlaces_cases currency with
          otherPlaces | otherPlaces
        · exact .inl (places.trans otherPlaces.symm)
        · exact .inr ((pieces.minor_le places
            (by rwa [canonical]) yields again).2 rfl)
        · exact .inr ((pieces.minor_le (by rwa [canonical]) places again
            yields).2 rfl)
        · exact .inl (places.trans otherPlaces.symm)
      · rintro (places | same)
        · refine (pieces.yields_iff fun digitsOnly factor kept positive _ _ =>
            yields_of_same_places kept positive ?_).mp yields
          rw [canonical, places]
        · exact (same.yields_iff fun digitsOnly factor kept positive holds _ =>
            holds.yields_iff kept positive).mp yields

end Texts

end Conversation

end ZaloBot
